import DataGateway.Fields
import DataGateway.Text.Search
import DataGateway.Text.Utf8

/-!
# Paths in a file system

A directory lies in a file system. Files, folders and links lie there each under its path, and every path
begins at the root. A link says a path too, from the root or from where the link lies; it may lead out of
the directory and come back into it, lead to nothing, or back to itself.

* `Directory.trace` follows a path by names alone: nothing on it has to exist, and the step up only
  takes the last name away;
* `Directory.visit` goes the way: whatever is passed through has to be a folder, and no more than forty
  links are followed.
-/

namespace DataGateway.Store

/-- The names of the folders on the way to something, and its own name. -/
abbrev Path := List String

/-- What lies under a path. -/
inductive Entry
  | file (bytes : List UInt8)
  | folder
  | link (target : String)
  deriving DecidableEq

/-- A directory, and the file system that it lies in: its own path, and what lies under other paths. The
folders on the way down to the directory need no entries. -/
structure Directory where
  base : Path := [".daal"]
  entries : Fields Entry Path := []

def startsWith (start name : String) : Bool := start.toList.isPrefixOf name.toList

/-- Does a text say a path from the root on? -/
def isAbsolute (target : String) : Bool := startsWith "/" target

/-- The steps that a text says, between its slashes. -/
def stepsOf (target : String) : List String := (Text.pieces '/' target.toList).map String.ofList

/-- Does a step stay where it is? -/
def isStay (step : String) : Bool := step == "" || step == "."

/-- Takes one step by its name, whatever lies there; above the root there is the root. -/
def nameStep (path : Path) (step : String) : Path :=
  if isStay step then path
  else if step == ".." then path.dropLast
  else path ++ [step]

namespace Directory

/-- A new directory under the path that a text says. -/
def made (path : String) : Directory := { base := (stepsOf path).foldl nameStep [] }

variable (directory : Directory)

/-- What lies under a path. -/
def look (path : Path) : Option Entry :=
  if path.isPrefixOf directory.base then some .folder else Fields.get? directory.entries path

/-- Is a path that of the directory, or of something in it? -/
def encloses (path : Path) : Bool := directory.base.isPrefixOf path

/-- The path of a name in the directory. -/
def own (name : String) : Path := directory.base ++ [name]

/-- The file system with something under a path. -/
def put (path : Path) (entry : Entry) : Directory :=
  { directory with entries := Fields.set directory.entries path entry }

/-- The file system with nothing under a path. -/
def takeAway (path : Path) : Directory :=
  { directory with entries := Fields.erase directory.entries path }

/-! ## By names alone -/

/-- How far a way has been followed. Once a link has led back to itself the rest of the way is names
only. -/
structure Trace where
  path : Path
  circular : Bool := false
  deriving DecidableEq

/-- The rest of the way behind a link that led back to itself: it is put behind the link as one text,
which counts from the root on when a slash is at its beginning. -/
def nameSteps (path : Path) : List String → Path
  | "" :: next :: rest => (next :: rest).foldl nameStep []
  | steps => steps.foldl nameStep path

/-- Follows steps; `follow` says where a link leads, from its path, its folder and its target. -/
def traceSteps (follow : Path → Path → String → Trace) : Path → List String → Trace
  | here, [] => ⟨here, false⟩
  | here, step :: rest =>
    match isStay step || step == "..", directory.look (nameStep here step) with
    | false, some (.link target) =>
      let led := follow (nameStep here step) here target
      if led.circular then ⟨nameSteps led.path rest, true⟩
      else traceSteps follow led.path rest
    | _, _ => traceSteps follow (nameStep here step) rest

/-- Where the way of a link begins. -/
def startOf (folder : Path) (target : String) : Path := if isAbsolute target then [] else folder

/-- Follows a text from a folder on, where some links are being followed already. The fuel bounds
their number. -/
def traceWithin : Nat → List Path → Path → String → Trace
  | 0, _, here, _ => ⟨here, true⟩
  | fuel + 1, followed, here, target =>
    let follow (link folder : Path) (target : String) : Trace :=
      if followed.contains link then ⟨link, true⟩
      else traceWithin fuel (link :: followed) folder target
    traceSteps directory follow (startOf here target) (stepsOf target)

def trace (target : String) : Trace :=
  traceWithin directory (directory.entries.length + 1) [] directory.base target

/-! ## Going the way -/

/-- Where a way ends: at a file, at a folder, at a name that is free in a folder, where a folder is
missing or something else lies in its place, after too many links, or at a name that is too long. -/
inductive Place
  | file (path : Path) (bytes : List UInt8)
  | folder (path : Path)
  | free (path : Path)
  | missing
  | blocked
  | endless
  | tooLong
  deriving DecidableEq

/-- The path of what is there, or could be made there. -/
def Place.path? : Place → Option Path
  | .file path _ | .folder path | .free path => some path
  | .missing | .blocked | .endless | .tooLong => none

/-- The most octets that a name may have. -/
def nameLimit : Nat := 255

/-- The most links that are followed. -/
def linkLimit : Nat := 40

/-- Where steps end, or the first link on the way, with its folder, its target and the steps left. -/
inductive Stretch
  | ends (place : Place)
  | link (folder : Path) (target : String) (rest : List String)

/-- Are there only slashes left of a way? The name ahead of them is that of a folder, then. -/
def isSlashes (rest : List String) : Bool := !rest.isEmpty && rest.all (· == "")

/-- Goes from a folder up to the end of the way or the first link. Where a file is to be made, a name
with a slash behind it is taken for a folder without a look. -/
def stretch (making : Bool) : Path → List String → Stretch
  | here, [] => .ends (.folder here)
  | here, step :: rest =>
    if isStay step then stretch making here rest
    else if step == ".." then stretch making here.dropLast rest
    else if making && isSlashes rest then .ends (.folder (here ++ [step]))
    else if nameLimit < Text.Utf8.size step then .ends .tooLong
    else
      let path := here ++ [step]
      match directory.look path with
      | none => .ends (if rest.isEmpty then .free path else .missing)
      | some (.file bytes) => .ends (if rest.isEmpty then .file path bytes else .blocked)
      | some .folder => stretch making path rest
      | some (.link target) => .link here target rest

/-- Goes from a folder, following at most as many links as are left. -/
def visitWithin (making : Bool) : Nat → Path → List String → Place
  | left, here, steps =>
    match directory.stretch making here steps with
    | .ends place => place
    | .link folder target rest =>
      match left with
      | 0 => .endless
      | left + 1 => visitWithin making left (startOf folder target) (stepsOf target ++ rest)

/-- Goes a way from the directory. -/
def visit (steps : List String) : Place := directory.visitWithin false linkLimit directory.base steps

/-- Goes a way from the root. -/
def visitFromRoot (steps : List String) : Place := directory.visitWithin false linkLimit [] steps

/-- Goes a way from the directory to where a file is to be made. -/
def visitMaking (steps : List String) : Place := directory.visitWithin true linkLimit directory.base steps

end Directory

end DataGateway.Store
