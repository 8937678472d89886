import DataGateway.Gateway.Action
import DataGateway.Store.Directory

/-!
# Entries on a disk

What the calls for an entry do on the disk, step by step. A way may lead out of the directory, and it is
noted when it leads to something there. Finding out which name a key has only follows links by their
names, and does not count.

* `exists?`, `readFile`, `create`, `fill`, `rename`, `unlink` are what a disk can do;
* `fetch`, `store` and `discard` are the calls: storing fills a temporary file, puts it in the place of
  the entry, and takes it away again if something goes wrong;
* `Trouble` is what the outside contributes to storing: the names that chance proposes for the temporary
  file, and the faults on the way.
-/

namespace DataGateway.Store

/-- A directory, and whether a step has gone to something outside of it. -/
structure Disk where
  directory : Directory
  strayed : Bool := false

namespace Disk

/-- A step on a disk. -/
abbrev Task (α : Type) := Action Disk α

/-! ## Steps -/

/-- Goes a way, links followed; it is noted when the way leads to something outside. -/
def go (way : List String) : Task Directory.Place := do
  let disk ← get
  let place := disk.directory.visit way
  if place.path?.any (!disk.directory.encloses ·) then set { disk with strayed := true }
  return place

/-- Does a name lead to something? -/
def exists? (name : String) : Task Bool := do
  let way ← Action.ofExcept (Directory.wayOf name)
  match ← go way with
  | .file .. | .folder _ => return true
  | .tooLong => Action.fail (.storage .nameTooLong)
  | _ => return false

/-- The octets of the file that a name leads to. -/
def readFile (name : String) : Task (List UInt8) := do
  let way ← Action.ofExcept (Directory.wayOf name)
  match ← go way with
  | .file _ bytes => return bytes
  | place => Action.fail (.storage place.fault)

/-- The path of what has a name itself: the last step is not followed. -/
def itself (name : String) : Task Path := do
  let way ← Action.ofExcept (Directory.wayOf name)
  match way.getLast? with
  | none => Action.fail (.storage .folder)
  | some last =>
    match ← go way.dropLast with
    | .folder here =>
      if last == ".." then Action.fail (.storage .folder)
      else if Directory.nameLimit < Text.Utf8.size last then Action.fail (.storage .nameTooLong)
      else return here ++ [last]
    | .file .. => Action.fail (.storage .notFolder)
    | place => Action.fail (.storage place.fault)

def put (path : Path) (entry : Entry) : Task Unit :=
  modify fun disk => { disk with directory := disk.directory.put path entry }

def takeAway (path : Path) : Task Unit :=
  modify fun disk => { disk with directory := disk.directory.takeAway path }

/-- Makes an empty file under a name that has to be free. -/
def create (name : String) : Task Unit := do
  let path ← itself name
  if ((← get).directory.look path).isSome then Action.fail (.storage .present)
  put path (.file [])

/-- Fills a file that one has made. -/
def fill (name : String) (bytes : List UInt8) : Task Unit := do
  let path ← itself name
  put path (.file bytes)

/-- Puts a file in the place of whatever has another name, unless that is a folder. -/
def rename (source target : String) : Task Unit := do
  let old ← itself source
  let new ← itself target
  let directory := (← get).directory
  match directory.look old with
  | none => Action.fail (.storage .absent)
  | some entry =>
    if directory.look new == some .folder then Action.fail (.storage .folder)
    takeAway old
    put new entry

/-- Takes a file or a link away. -/
def unlink (name : String) : Task Unit := do
  let path ← itself name
  match (← get).directory.look path with
  | none => Action.fail (.storage .absent)
  | some .folder => Action.fail (.storage .folder)
  | some _ => takeAway path

/-! ## The outside -/

/-- The characters that chance draws from. -/
def alphabet : List Char := "abcdefghijklmnopqrstuvwxyz0123456789_".toList

/-- What chance puts into the name of a temporary file. -/
structure Chance where
  letters : List Char
  length_letters : letters.length = 8
  mem_alphabet : ∀ c ∈ letters, c ∈ alphabet

/-- What the outside contributes to storing: what chance proposes, one after another, and the faults of
making the temporary file, of filling it after some octets, and of putting it in place. -/
structure Trouble where
  chances : List Chance
  making : Option Fault := none
  filling : Option (Nat × Fault) := none
  placing : Option Fault := none

/-- Nothing goes wrong, and chance proposes one character after another, eight times each. -/
def Trouble.calm : Trouble where
  chances := alphabet.attach.map fun ⟨c, known⟩ =>
    ⟨.replicate 8 c, List.length_replicate, fun _ member => List.eq_of_mem_replicate member ▸ known⟩

/-- A step, unless a fault comes before it. -/
def hindered {α : Type} (fault? : Option Fault) (step : Task α) : Task α :=
  match fault? with
  | some fault => Action.fail fault
  | none => step

/-! ## Calls -/

def temporaryName (key : String) (chance : Chance) : String :=
  "." ++ key ++ "." ++ String.ofList chance.letters ++ ".tmp"

/-- Makes a temporary file under the first proposed name that is free. -/
def makeTemporary (key : String) : List Chance → Task String
  | [] => Action.fail (.storage .present)
  | chance :: rest => do
    let name := temporaryName key chance
    match ← (create name).attempt with
    | .ok () => return name
    | .error (.storage .present) => makeTemporary key rest
    | .error fault => Action.fail fault

/-- Fills a temporary file and puts it in the place of an entry. -/
def replaceBy (trouble : Trouble) (temporary name : String) (bytes : List UInt8) : Task Unit := do
  match trouble.filling with
  | some (count, fault) =>
    fill temporary (bytes.take count)
    Action.fail fault
  | none => fill temporary bytes
  hindered trouble.placing (rename temporary name)

/-- The name of the entry of a key. -/
def nameFor (key : String) : Task String := do Action.ofExcept ((← get).directory.resolve key)

/-- The value under a key, null when there is none. -/
def fetch (key : String) : Task Value := do
  let name ← nameFor key
  if ← exists? name then Action.ofExcept (Directory.parse (← readFile name)) else return .null

def store (trouble : Trouble) (key : String) (v : Value) : Task Unit := do
  let name ← nameFor key
  let bytes ← Action.ofExcept (Directory.dump v)
  let temporary ← hindered trouble.making (makeTemporary key trouble.chances)
  match ← (replaceBy trouble temporary name bytes).attempt with
  | .ok () => return ()
  | .error fault =>
    -- nothing of the attempt is left
    if ← exists? temporary then unlink temporary
    Action.fail fault

/-- Takes the entry of a key away; false when there is none. -/
def discard (key : String) : Task Bool := do
  let name ← nameFor key
  if ← exists? name then
    unlink name
    return true
  else return false

/-- Runs a call on a directory. -/
def run {α : Type} (call : Task α) (directory : Directory) : Except Fault (α × Directory) :=
  let (result, disk) := call ({ directory } : Disk)
  (·, disk.directory) <$> result

end Disk

end DataGateway.Store
