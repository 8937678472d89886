import DataGateway.Fault
import DataGateway.Store.Path

/-!
# Files, folders and links

What others do in a directory: put files into it, make folders and links, read a file, list the names.
-/

namespace DataGateway.Store.Directory

variable (directory : Directory)

/-- The steps of a path that is given as a text; what stays in place does not count. -/
def wayOf (name : String) : Except Fault (List String) :=
  if name.toList.contains (Char.ofNat 0) then .error (.storage .embeddedNull)
  else .ok ((stepsOf name).filter (!isStay ·))

/-- The fault that stands in the way of a place where there is nothing. -/
def Place.fault : Place → StorageFault
  | .file .. => .present
  | .folder _ => .folder
  | .free _ | .missing => .absent
  | .blocked => .notFolder
  | .endless => .manyLinks
  | .tooLong => .nameTooLong

/-- Puts a file in place; a link is followed to where the file is to be. -/
def putFile (name : String) (bytes : List UInt8) : Except Fault Directory := do
  match directory.visitMaking (← wayOf name) with
  | .file path _ | .free path => return directory.put path (.file bytes)
  | place => .error (.storage place.fault)

/-- Line ends of all kinds as line feeds. -/
def unifyLineEnds : List Char → List Char
  | '\r' :: '\n' :: rest => '\n' :: unifyLineEnds rest
  | '\r' :: rest => '\n' :: unifyLineEnds rest
  | c :: rest => c :: unifyLineEnds rest
  | [] => []

/-- The text of a file. -/
def textOf (name : String) : Except Fault String := do
  match directory.visit (← wayOf name) with
  | .file _ bytes =>
    match Text.Utf8.decode bytes with
    | .ok chars => return String.ofList (unifyLineEnds chars)
    | .error fault => .error (.misuse (.undecodable fault))
  | place => .error (.storage place.fault)

/-- The path of something new; a link in its place is not followed. -/
def newPath (name : String) : Except Fault Path := do
  let way ← wayOf name
  match way.getLast? with
  | none => .error (.storage .present)
  | some last =>
    match directory.visit way.dropLast with
    | .folder here =>
      let path := here ++ [last]
      if last == ".." || (directory.look path).isSome then .error (.storage .present)
      else if nameLimit < Text.Utf8.size last then .error (.storage .nameTooLong)
      else return path
    | .file .. => .error (.storage .notFolder)
    | place => .error (.storage place.fault)

def makeFolder (name : String) : Except Fault Directory := do
  return directory.put (← directory.newPath name) .folder

/-- The most octets that the target of a link may have. -/
def targetLimit : Nat := 4095

def makeLink (name target : String) : Except Fault Directory := do
  if target.toList.contains (Char.ofNat 0) then .error (.storage .embeddedNull)
  else if target == "" then .error (.storage .absent)
  else if targetLimit < Text.Utf8.size target then .error (.storage .nameTooLong)
  else return directory.put (← directory.newPath name) (.link target)

/-- The name under a path, if the directory itself has it. -/
def ownName? (path : Path) : Option String :=
  if path.dropLast == directory.base then path.getLast? else none

def names : List String := directory.entries.filterMap fun (path, _) => directory.ownName? path

end DataGateway.Store.Directory
