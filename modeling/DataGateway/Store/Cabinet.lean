import DataGateway.Sorting.Natural
import DataGateway.Store
import DataGateway.Store.Disk
import DataGateway.Value.Access

/-!
# Stores under keys of any kind

A cabinet is a store that is handed its keys as values. In memory whatever can be a key is one; a
directory has entries under texts alone, and its calls are made step by step. Under texts a cabinet
answers as the store does.
-/

namespace DataGateway.Store

/-- A place to keep small documents under keys of any kind. -/
inductive Cabinet
  | memory (entries : Fields Value Key)
  | directory (entries : Directory)

namespace Cabinet

def ofStore : Store → Cabinet
  | .memory entries => memory (entries.map fun (name, v) => (.ofText name, v))
  | .directory entries => directory entries

/-- The text that a key in a directory is. What counts as false, or has a slash inside, is unfit
before its kind matters. -/
def textOf : Value → Except Fault String
  | .text s => .ok s
  | key => do
    let unfit : Except Fault String := do
      key.requirePrintable
      throw (.storage (.key key.literal))
    if !key.truthy then unfit
    else if ← key.holds "/" then unfit
    else if ← key.holds "\\" then unfit
    else throw (.misuse (.noMember key.kindName "startswith"))

/-- The entry of a key, null when there is none. -/
def read (cabinet : Cabinet) (key : Value) : Except Fault Value :=
  match cabinet with
  | memory entries => do Memory.copyOut ((Fields.get? entries (← Key.ofValue key)).getD .null)
  | directory entries => do return (← Disk.run (Disk.fetch (← textOf key)) entries).1

def write (cabinet : Cabinet) (key v : Value) : Except Fault Cabinet :=
  match cabinet with
  | memory entries => do
    let copy ← Json.copy v
    return memory (Fields.set entries (← Key.ofValue key) copy)
  | directory entries => do return directory (← Disk.run (Disk.store .calm (← textOf key) v) entries).2

/-- Removes the entry of a key; false when there is none. -/
def remove (cabinet : Cabinet) (key : Value) : Except Fault (Bool × Cabinet) :=
  match cabinet with
  | memory entries => do
    let key ← Key.ofValue key
    return (Fields.has entries key, memory (Fields.erase entries key))
  | directory entries => do
    let (removed, entries) ← Disk.run (Disk.discard (← textOf key)) entries
    return (removed, directory entries)

/-- All keys, in no order of their own. -/
def allKeys : Cabinet → List Value
  | memory entries => entries.map fun (key, _) => key.value
  | directory entries => (Directory.keys entries "").map Value.text

def before (a b : Value) : Except Fault Bool :=
  match a.relate b with
  | .ok relation => .ok (relation == .less)
  | .error clash => .error (.misuse (.unordered clash))

/-- The keys that start with a value, sorted. -/
def keys (cabinet : Cabinet) (start : Value) : Except Fault (List Value) := do
  let kept ← cabinet.allKeys.filterM fun key => key.starts start
  Sorting.sort before kept

end Cabinet

end DataGateway.Store
