import DataGateway.Fault
import DataGateway.Json.Decode
import DataGateway.Json.Encode
import DataGateway.Store.Files
import DataGateway.Store.Memory

/-!
# Entries in a directory

A store that keeps every entry in a file of its own, `<key>.json`, in one directory. Other things may
lie in the directory too: foreign files, folders, and links to places inside or outside.

* `Directory.resolve` is the name for a key, unless the key leads to a place outside of the directory;
* reading follows links; removal takes the entry itself away, if what it leads to exists;
* writing goes through a temporary file whose name is longer than the key, and replaces the entry
  itself, never what it links to.
-/

namespace DataGateway.Store

namespace Directory

/-- The ending of the names of entries. -/
def suffix : String := ".json"

/-- The octets that the name of the temporary file has beyond those of the key. -/
def temporaryExtra : Nat := 14

def fileName (key : String) : String := key ++ suffix

/-! ## Keys -/

/-- Is the key fit to be part of a file name? -/
def isKey (key : String) : Bool :=
  key != "" && !key.toList.contains '/' && !key.toList.contains '\\' && !startsWith "." key

/-- The name of the file for a key, unless the key is unfit, leads back to itself, or leads to a place
outside of the directory. -/
def resolve (directory : Directory) (key : String) : Except Fault String :=
  if !isKey key then .error (.storage (.key (Text.quoted key)))
  else
    let name := fileName key
    let trace := directory.trace name
    if key.toList.contains (Char.ofNat 0) then .error (.storage (.outside (Text.quoted key)))
    else if trace.circular && directory.visitFromRoot trace.path == .endless then
      .error (.storage (.circle (Text.quoted ("/" ++ "/".intercalate trace.path))))
    else if !directory.encloses trace.path then .error (.storage (.outside (Text.quoted key)))
    else .ok name

/-! ## Access -/

/-- The value that the octets of a file say, null when they are no document. -/
def parse (bytes : List UInt8) : Except Fault Value :=
  match Text.Utf8.decode bytes with
  | .error fault => .error (.misuse (.undecodable fault))
  | .ok chars =>
    match Json.decode chars with
    | .ok v => .ok v
    | .error problem =>
      match problem.cause with
      | .digits count => .error (.misuse (.wholeTooLong count))
      | .depth kind => .error (.misuse (.documentDepth kind))
      | _ => .ok .null

def document (v : Value) : List UInt8 := Text.Utf8.encode (Json.encode Json.compact v)

/-- The document of a value that has one. -/
def dump (v : Value) : Except Fault (List UInt8) := do
  Json.requireWritable Json.levelLimit v
  return document v

/-- The entry of a key, null when there is none. -/
def read (directory : Directory) (key : String) : Except Fault Value := do
  let name ← directory.resolve key
  match directory.visit [name] with
  | .file _ bytes => parse bytes
  | .folder _ => .error (.storage .folder)
  | .tooLong => .error (.storage .nameTooLong)
  | _ => return .null

def write (directory : Directory) (key : String) (v : Value) : Except Fault Directory := do
  let name ← directory.resolve key
  let bytes ← dump v
  if nameLimit < Text.Utf8.size key + temporaryExtra then .error (.storage .nameTooLong)
  else if directory.look (directory.own name) == some .folder then .error (.storage .folder)
  else return directory.put (directory.own name) (.file bytes)

/-- Removes the entry of a key; false when there is none. -/
def remove (directory : Directory) (key : String) : Except Fault (Bool × Directory) := do
  let name ← directory.resolve key
  match directory.visit [name] with
  | .file .. | .folder _ =>
    if directory.look (directory.own name) == some .folder then .error (.storage .folder)
    else return (true, directory.takeAway (directory.own name))
  | .tooLong => .error (.storage .nameTooLong)
  | _ => return (false, directory)

/-- The key of a file name; hidden names have none. -/
def keyOf? (name : String) : Option String :=
  let chars := name.toList
  if suffix.toList.isSuffixOf chars && !startsWith "." name then
    some (String.ofList (chars.take (chars.length - suffix.length)))
  else none

/-- The keys that start with the given characters, sorted. -/
def keys (directory : Directory) (start : String) : List String :=
  sortNames ((directory.names.filterMap keyOf?).filter (startsWith start))

end Directory

end DataGateway.Store
