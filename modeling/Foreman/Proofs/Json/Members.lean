import Foreman.Json.Basic
import Mathlib.Data.List.Induction
import Mathlib.Data.String.Basic

set_option autoImplicit false

namespace Foreman.Json

section Put

variable {α β : Type} (name : String) (value : α)

theorem put_names (other : String) (entries : List (String × α)) :
    other ∈ (put name value entries).map Prod.fst ↔ other = name ∨ other ∈ entries.map Prod.fst := by
  induction entries with
  | nil => simp [put]
  | cons entry rest ih =>
      obtain ⟨held, old⟩ := entry
      unfold put
      by_cases same : name = held
      · simp [same]
      · rw [if_neg same]
        by_cases before : name < held
        · simp [before]
        · rw [if_neg before, List.map_cons, List.mem_cons, ih, List.map_cons, List.mem_cons]
          exact or_left_comm

theorem put_ascending (entries : List (String × α))
    (ascending : (entries.map Prod.fst).Pairwise (· < ·)) :
    ((put name value entries).map Prod.fst).Pairwise (· < ·) := by
  induction entries with
  | nil => simp [put]
  | cons entry rest ih =>
      obtain ⟨held, old⟩ := entry
      rw [List.map_cons, List.pairwise_cons] at ascending
      unfold put
      by_cases same : name = held
      · rw [if_pos same, same]
        exact List.pairwise_cons.mpr ascending
      · rw [if_neg same]
        by_cases before : name < held
        · rw [if_pos before, List.map_cons, List.map_cons, List.pairwise_cons, List.pairwise_cons]
          refine ⟨?_, ascending⟩
          intro other member
          rcases List.mem_cons.mp member with first | later
          · exact first ▸ before
          · exact before.trans (ascending.1 other later)
        · rw [if_neg before, List.map_cons, List.pairwise_cons]
          refine ⟨?_, ih ascending.2⟩
          intro other member
          rcases (put_names name value other rest).mp member with new | old
          · exact new ▸ lt_of_le_of_ne (not_lt.mp before) (Ne.symm same)
          · exact ascending.1 other old

-- Where a value is put depends on the names alone.
theorem put_alike (other : β) (first : List (String × α)) (second : List (String × β))
    (alike : first.map Prod.fst = second.map Prod.fst) :
    (put name value first).map Prod.fst = (put name other second).map Prod.fst := by
  induction first generalizing second with
  | nil =>
      obtain rfl := List.map_eq_nil_iff.mp alike.symm
      rfl
  | cons entry rest ih =>
      obtain ⟨held, old⟩ := entry
      obtain ⟨⟨own, last⟩, more, rfl, same, behind⟩ := List.map_eq_cons_iff.mp alike.symm
      obtain rfl : own = held := same
      have later := ih more behind.symm
      unfold put
      by_cases here : name = own
      · simp [here, behind]
      · by_cases before : name < own
        · simp [here, before, behind]
        · simp [here, before, later]

theorem member_put (other : String) (entries : List (String × α)) :
    member? other (put name value entries) =
      if other = name then some value else member? other entries := by
  induction entries with
  | nil =>
      by_cases same : other = name <;> simp [put, member?, same, Ne.symm]
  | cons entry rest ih =>
      obtain ⟨held, old⟩ := entry
      unfold put
      by_cases here : name = held
      · subst here
        by_cases same : other = name
        · simp [member?, same]
        · simp [member?, same, Ne.symm same]
      · by_cases before : name < held
        · by_cases same : other = name
          · simp [member?, here, before, same]
          · simp [member?, here, before, same, Ne.symm same]
        · rw [if_neg here, if_neg before, member?, ih, member?]
          by_cases found : held = other
          · have apart : other ≠ name := fun same => here (same.symm.trans found.symm)
            simp [found, apart]
          · simp [found]

theorem put_member (entries : List (String × α)) (entry : String × α)
    (member : entry ∈ put name value entries) : entry = (name, value) ∨ entry ∈ entries := by
  induction entries with
  | nil => exact .inl (List.mem_singleton.mp member)
  | cons first rest ih =>
      obtain ⟨held, old⟩ := first
      unfold put at member
      split at member
      · exact (List.mem_cons.mp member).imp_right (List.mem_cons_of_mem _)
      · split at member
        · exact List.mem_cons.mp member
        · rcases List.mem_cons.mp member with same | later
          · exact .inr (same ▸ List.mem_cons_self)
          · exact (ih later).imp_right (List.mem_cons_of_mem _)

theorem member_missing (entries : List (String × α)) :
    member? name entries = none ↔ name ∉ entries.map Prod.fst := by
  induction entries with
  | nil => simp [member?]
  | cons entry rest ih =>
      obtain ⟨held, old⟩ := entry
      by_cases same : held = name <;> simp_all [member?, eq_comm]

theorem member_found (entries : List (String × α)) (found : member? name entries = some value) :
    (name, value) ∈ entries := by
  induction entries with
  | nil => cases found
  | cons entry rest ih =>
      obtain ⟨held, old⟩ := entry
      rw [member?] at found
      split at found
      · rename_i same
        cases found
        exact same ▸ List.mem_cons_self
      · exact List.mem_cons_of_mem _ (ih found)

theorem put_last (entries : List (String × α)) (last : ∀ entry ∈ entries, entry.1 < name) :
    put name value entries = entries ++ [(name, value)] := by
  induction entries with
  | nil => rfl
  | cons entry rest ih =>
      obtain ⟨earlier, others⟩ := List.forall_mem_cons.mp last
      rw [put, if_neg earlier.ne', if_neg earlier.asymm, ih others]
      rfl

end Put

theorem of_members_ascending (members : List (String × Json))
    (ascending : (members.map Prod.fst).Pairwise (· < ·)) : ofMembers members = .object members := by
  suffices kept : members.foldl (fun sorted member => put member.1 member.2 sorted) [] = members by
    rw [ofMembers, kept]
  induction members using List.reverseRecOn with
  | nil => rfl
  | append_singleton front last ih =>
      rw [List.map_append, List.pairwise_append] at ascending
      obtain ⟨early, _, apart⟩ := ascending
      rw [List.foldl_append, ih early]
      refine put_last last.1 last.2 front fun member listed => ?_
      exact apart member.1 (List.mem_map_of_mem listed) last.1 (by simp)

end Foreman.Json
