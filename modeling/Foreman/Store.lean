import Foreman.Task.Record

set_option autoImplicit false

namespace Foreman

inductive Access where
  | insert
  | get
  | transition
  | evict
  | len
deriving DecidableEq, Repr

def Access.name : Access → String
  | .insert => "insert"
  | .get => "get"
  | .transition => "transition"
  | .evict => "evict"
  | .len => "len"

inductive StoreError where
  | duplicate (id : TaskId)
  | lockPoisoned (reason : String)
deriving DecidableEq, Inhabited

def StoreError.kind : StoreError → String
  | .duplicate _ => "Duplicate"
  | .lockPoisoned _ => "LockPoisoned"

def StoreError.message : StoreError → String
  | .duplicate id => "Task " ++ id.text ++ " already exists"
  | .lockPoisoned reason => "Lock poisoned: " ++ reason

structure Store where
  records : List TaskRecord
  refused : List (Access × String)
deriving Inhabited

namespace Store

def empty : Store := ⟨[], []⟩

def permit (store : Store) (access : Access) : Except StoreError Unit :=
  match store.refused.find? fun refusal => refusal.1 == access with
  | some refusal => .error (.lockPoisoned refusal.2)
  | none => .ok ()

def find? (store : Store) (id : TaskId) : Option TaskRecord :=
  store.records.find? fun record => record.id == id

def insert (store : Store) (record : TaskRecord) : Except StoreError Store := do
  store.permit .insert
  match store.find? record.id with
  | some _ => .error (.duplicate record.id)
  | none => .ok { store with records := store.records ++ [record] }

def get (store : Store) (id : TaskId) : Except StoreError (Option TaskRecord) := do
  store.permit .get
  .ok (store.find? id)

def update (store : Store) (record : TaskRecord) : Store :=
  { store with
    records := store.records.map fun old => if old.id = record.id then record else old }

def transition (store : Store) (id : TaskId) (expected : List TaskState) (next : TaskState)
    (outcome : Option Outcome) (now : Instant) :
    Except StoreError (Option TaskState × Store) := do
  store.permit .transition
  match store.find? id with
  | none => .ok (none, store)
  | some record =>
      if record.state.isTerminal || !expected.contains record.state then .ok (none, store)
      else .ok (some record.state, store.update (record.moved next outcome now))

def remove (store : Store) (id : TaskId) : Store :=
  { store with records := store.records.filter fun record => record.id != id }

def evict (store : Store) (id : TaskId) : Except StoreError (Option TaskRecord × Store) := do
  store.permit .evict
  .ok (store.find? id, store.remove id)

def len (store : Store) : Except StoreError Nat := do
  store.permit .len
  .ok store.records.length

end Store

end Foreman
