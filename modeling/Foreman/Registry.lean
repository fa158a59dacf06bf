import Foreman.Reference

set_option autoImplicit false

namespace Foreman

structure Registry (α : Type) where
  entries : List (String × α)

namespace Registry

variable {α : Type}

def empty : Registry α := ⟨[]⟩

instance : Inhabited (Registry α) := ⟨empty⟩

def find? (registry : Registry α) (reference : String) : Option α :=
  (registry.entries.find? fun entry => entry.1 == reference).map Prod.snd

def place (reference : String) (value : α) : List (String × α) → List (String × α)
  | [] => [(reference, value)]
  | entry :: rest =>
      if reference < entry.1 then (reference, value) :: entry :: rest
      else entry :: place reference value rest

def register (registry : Registry α) (reference : String) (value : α) :
    Except ResolutionError (Registry α) :=
  match Reference.parse reference with
  | .error error => .error error
  | .ok _ =>
      match registry.find? reference with
      | some _ => .error (.duplicate reference)
      | none => .ok ⟨place reference value registry.entries⟩

def resolve (registry : Registry α) (reference : String) : Except ResolutionError α :=
  match Reference.parse reference with
  | .error error => .error error
  | .ok _ =>
      match registry.find? reference with
      | some value => .ok value
      | none => .error (.notFound reference)

def references (registry : Registry α) : List String :=
  registry.entries.map Prod.fst

def size (registry : Registry α) : Nat :=
  registry.entries.length

end Registry

structure ResolverCache (α : Type) where
  known : List (String × α)
  lookups : Nat

namespace ResolverCache

variable {α : Type}

def empty : ResolverCache α := ⟨[], 0⟩

instance : Inhabited (ResolverCache α) := ⟨empty⟩

def find? (cache : ResolverCache α) (reference : String) : Option α :=
  (cache.known.find? fun entry => entry.1 == reference).map Prod.snd

-- Refusals are not kept, so a reference may resolve later.
def resolve (cache : ResolverCache α) (inner : String → Except ResolutionError α)
    (reference : String) : ResolverCache α × Except ResolutionError α :=
  match cache.find? reference with
  | some value => (cache, .ok value)
  | none =>
      match inner reference with
      | .ok value => (⟨cache.known ++ [(reference, value)], cache.lookups + 1⟩, .ok value)
      | .error error => ({ cache with lookups := cache.lookups + 1 }, .error error)

def size (cache : ResolverCache α) : Nat :=
  cache.known.length

end ResolverCache

end Foreman
