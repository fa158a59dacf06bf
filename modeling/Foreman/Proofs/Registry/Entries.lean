import Foreman.Proofs.Registry.Reference
import Foreman.Registry
import Mathlib.Data.List.Nodup
import Mathlib.Data.List.Perm.Basic
import Mathlib.Data.String.Basic

set_option autoImplicit false

namespace Foreman.Registry

variable {α : Type}

section Place

variable (reference : String) (value : α) (entries : List (String × α))

theorem place_perm : (place reference value entries).Perm ((reference, value) :: entries) := by
  induction entries with
  | nil => exact .refl _
  | cons entry rest ih =>
      rw [place]
      split
      · exact .refl _
      · exact (ih.cons entry).trans (.swap _ _ _)

theorem place_ascending (ordered : (entries.map Prod.fst).Pairwise (· < ·))
    (absent : reference ∉ entries.map Prod.fst) :
    ((place reference value entries).map Prod.fst).Pairwise (· < ·) := by
  induction entries with
  | nil => exact List.pairwise_singleton _ _
  | cons entry rest ih =>
      rw [List.map_cons, List.mem_cons, not_or] at absent
      obtain ⟨later, others⟩ := List.pairwise_cons.mp ordered
      rw [place]
      by_cases first : reference < entry.1
      · rw [if_pos first, List.map_cons, List.pairwise_cons]
        refine ⟨fun other member => ?_, ordered⟩
        rcases List.mem_cons.mp member with rfl | behind
        · exact first
        · exact first.trans (later other behind)
      · have before : entry.1 < reference := lt_of_le_of_ne (not_lt.mp first) (Ne.symm absent.1)
        rw [if_neg first, List.map_cons, List.pairwise_cons]
        refine ⟨fun other member => ?_, ih others absent.2⟩
        have placed := ((place_perm reference value rest).map Prod.fst).mem_iff.mp member
        rcases List.mem_cons.mp placed with rfl | behind
        · exact before
        · exact later other behind

end Place

section Find

variable (reference : String) (entries : List (String × α))

def firstUnder : Option α :=
  (entries.find? fun entry => entry.1 == reference).map Prod.snd

theorem first_none_iff :
    firstUnder reference entries = none ↔ reference ∉ entries.map Prod.fst := by
  simp only [firstUnder, Option.map_eq_none_iff, List.find?_eq_none, List.mem_map, not_exists,
    not_and, beq_iff_eq]

theorem first_member (value : α) (found : firstUnder reference entries = some value) :
    (reference, value) ∈ entries := by
  obtain ⟨entry, first, rfl⟩ := Option.map_eq_some_iff.mp found
  have same : entry.1 = reference := by simpa using List.find?_some first
  rw [← same]
  exact List.mem_of_find?_eq_some first

theorem first_iff (distinct : (entries.map Prod.fst).Nodup) (value : α) :
    firstUnder reference entries = some value ↔ (reference, value) ∈ entries := by
  constructor
  · exact first_member reference entries value
  · intro member
    cases found : firstUnder reference entries with
    | none =>
        have absent := (first_none_iff reference entries).mp found
        exact absurd (List.mem_map_of_mem member) absent
    | some other =>
        have listed := first_member reference entries other found
        have same := List.inj_on_of_nodup_map distinct listed member rfl
        rw [(Prod.mk.inj same).2]

theorem first_perm (others : List (String × α)) (same : entries.Perm others)
    (distinct : (entries.map Prod.fst).Nodup) :
    firstUnder reference entries = firstUnder reference others := by
  have unique := (same.map Prod.fst).nodup_iff.mp distinct
  ext value
  rw [first_iff reference entries distinct, first_iff reference others unique, same.mem_iff]

end Find

section Calls

variable (registry : Registry α) (reference : String)

theorem find_none_iff : registry.find? reference = none ↔ reference ∉ registry.references :=
  first_none_iff reference registry.entries

theorem register_iff (value : α) (next : Registry α) :
    registry.register reference value = .ok next ↔ Reference.Parses reference ∧
      reference ∉ registry.references ∧ next = ⟨place reference value registry.entries⟩ := by
  rw [← find_none_iff, Reference.Parses, register]
  cases Reference.parse reference with
  | error cause => simp
  | ok parsed =>
      cases registry.find? reference with
      | some held => simp
      | none => simp [eq_comm]

theorem register_refused_iff (value : α) (cause : ResolutionError) :
    registry.register reference value = .error cause ↔
      (¬ Reference.Parses reference ∧ cause = .malformedReference reference) ∨
        (Reference.Parses reference ∧ reference ∈ registry.references ∧
          cause = .duplicate reference) := by
  have held : reference ∈ registry.references ↔ registry.find? reference ≠ none := by
    rw [ne_eq, find_none_iff, not_not]
  rw [held, register]
  cases parsed : Reference.parse reference with
  | error own =>
      obtain ⟨bad, rfl⟩ := (Reference.parse_malformed reference own).mp parsed
      simp [bad, eq_comm]
  | ok parts =>
      have good : Reference.Parses reference := ⟨parts, parsed⟩
      cases registry.find? reference with
      | some other => simp [good, eq_comm]
      | none => simp [good]

theorem resolve_iff (value : α) :
    registry.resolve reference = .ok value ↔
      Reference.Parses reference ∧ registry.find? reference = some value := by
  rw [Reference.Parses, resolve]
  cases Reference.parse reference with
  | error cause => simp
  | ok parsed =>
      cases registry.find? reference with
      | some held => simp
      | none => simp

theorem resolve_refused_iff (cause : ResolutionError) :
    registry.resolve reference = .error cause ↔
      (¬ Reference.Parses reference ∧ cause = .malformedReference reference) ∨
        (Reference.Parses reference ∧ reference ∉ registry.references ∧
          cause = .notFound reference) := by
  rw [← find_none_iff, resolve]
  cases parsed : Reference.parse reference with
  | error own =>
      obtain ⟨bad, rfl⟩ := (Reference.parse_malformed reference own).mp parsed
      simp [bad, eq_comm]
  | ok parts =>
      have good : Reference.Parses reference := ⟨parts, parsed⟩
      cases registry.find? reference with
      | some other => simp [good]
      | none => simp [good, eq_comm]

theorem register_member (value : α) (next : Registry α)
    (registered : registry.register reference value = .ok next) (entry : String × α)
    (member : entry ∈ next.entries) : entry = (reference, value) ∨ entry ∈ registry.entries := by
  obtain ⟨_, _, rfl⟩ := (registry.register_iff reference value next).mp registered
  exact List.mem_cons.mp ((place_perm reference value registry.entries).mem_iff.mp member)

theorem resolve_member (value : α) (resolved : registry.resolve reference = .ok value) :
    (reference, value) ∈ registry.entries :=
  first_member reference registry.entries value
    ((registry.resolve_iff reference value).mp resolved).2

end Calls

end Foreman.Registry
