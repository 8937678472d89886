import DataGateway.Store.Directory
import DataGateway.Store.Memory

/-!
# Stores

Small documents kept under keys. Both kinds of store, in memory and in a directory, answer the same
calls: `read`, `write`, `remove` and `keys`.
-/

namespace DataGateway

/-- A place to keep small documents. -/
inductive Store
  | memory (entries : Store.Memory)
  | directory (entries : Store.Directory)

namespace Store

def empty : Store := .memory []

/-- The entry of a key, null when there is none. -/
def read (store : Store) (key : String) : Except Fault Value :=
  match store with
  | memory entries => Memory.read entries key
  | directory entries => Directory.read entries key

def write (store : Store) (key : String) (v : Value) : Except Fault Store :=
  match store with
  | memory entries => memory <$> Memory.write entries key v
  | directory entries => directory <$> Directory.write entries key v

/-- Removes the entry of a key; false when there is none. -/
def remove (store : Store) (key : String) : Except Fault (Bool × Store) :=
  match store with
  | memory entries => .ok (Fields.has entries key, memory (Fields.erase entries key))
  | directory entries => do
    let (removed, entries) ← Directory.remove entries key
    return (removed, directory entries)

/-- The keys that start with the given characters, sorted. -/
def keys (store : Store) (start : String) : List String :=
  match store with
  | memory entries => Memory.keys entries start
  | directory entries => Directory.keys entries start

def fill (store : Store) : Record → Except Fault Store
  | [] => .ok store
  | (key, v) :: rest => do fill (← store.write key v) rest

def kindName : Store → String
  | memory _ => "InMemoryStorage"
  | directory _ => "FileStorage"

end Store

end DataGateway
