import Foreman.Task.Process

set_option autoImplicit false

namespace Foreman

structure Gate where
  permits : Nat
  entered : Nat
deriving DecidableEq, Repr

abbrev Gates := List (String × Gate)

namespace Gates

def closed : Gate := ⟨0, 0⟩

def find (name : String) : Gates → Gate
  | [] => closed
  | (other, gate) :: rest => if other = name then gate else find name rest

def change (name : String) (f : Gate → Gate) : Gates → Gates
  | [] => [(name, f closed)]
  | (other, gate) :: rest =>
      if other = name then (other, f gate) :: rest else (other, gate) :: change name f rest

def enter (name : String) (gates : Gates) : Gates :=
  change name (fun gate => { gate with entered := gate.entered + 1 }) gates

def permit (name : String) (count : Nat) (gates : Gates) : Gates :=
  change name (fun gate => { gate with permits := gate.permits + count }) gates

def pass? (name : String) (gates : Gates) : Option Gates :=
  if (find name gates).permits = 0 then none
  else some (change name (fun gate => { gate with permits := gate.permits - 1 }) gates)

end Gates

end Foreman
