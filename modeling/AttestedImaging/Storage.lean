import AttestedImaging.Assoc
import AttestedImaging.Bytes

/-!
# Secure storage

Where attestations are kept, each under an identifier. An object store may hold a limited number of
objects; replacing one needs no room.
-/

namespace AttestedImaging

inductive StorageError
  | full (limit : Nat)
  | backend (text : String)
deriving DecidableEq

def StorageError.message : StorageError → String
  | .full limit => s!"セキュアストレージの容量が不足しています（上限: {limit}）"
  | .backend text => "セキュアストレージの書き込みに失敗: " ++ text

/-- Objects in memory, at most `capacity` of them if there is one. -/
structure ObjectStore where
  capacity : Option Nat := none
  objects : Assoc String Bytes := []

namespace ObjectStore

def get? (id : String) (s : ObjectStore) : Option Bytes := s.objects.get? id

def size (s : ObjectStore) : Nat := s.objects.length

def isEmpty (s : ObjectStore) : Bool := s.objects.isEmpty

/-- A new object needs room, and one that replaces another does not. -/
def store (id : String) (data : Bytes) (s : ObjectStore) : Except StorageError ObjectStore :=
  let stored := { s with objects := s.objects.put id data }
  match s.capacity with
  | none => .ok stored
  | some limit =>
    if s.objects.contains id ∨ s.size < limit then .ok stored else .error (.full limit)

end ObjectStore

/-- What is attached to the trusted application: a store in memory, or a medium that fails. -/
inductive Storage
  | memory (store : ObjectStore)
  | failing (text : String)

namespace Storage

def store (id : String) (data : Bytes) : Storage → Except StorageError Storage
  | memory s => do return memory (← s.store id data)
  | failing text => throw (.backend text)

def get? (id : String) : Storage → Option Bytes
  | memory s => s.get? id
  | failing _ => none

def size : Storage → Nat
  | memory s => s.size
  | failing _ => 0

end Storage

end AttestedImaging
