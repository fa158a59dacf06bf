import Foreman.Time.Clockwork

set_option autoImplicit false

namespace Foreman

namespace Toil

section Total

variable {α : Type} (count : α → Nat)

theorem total_append (first second : List α) :
    total count (first ++ second) = total count first + total count second := by
  induction first with
  | nil => simp [total]
  | cons item rest ih =>
      change count item + total count (rest ++ second) = count item + total count rest + _
      omega

theorem total_set (items : List α) (index : Nat) (old new : α) (found : items[index]? = some old) :
    total count (items.set index new) + count old = total count items + count new := by
  induction items generalizing index with
  | nil => cases found
  | cons item rest ih =>
      cases index with
      | zero =>
          cases found
          change count new + total count rest + count old = count old + total count rest + _
          omega
      | succ index =>
          have later := ih index found
          change count item + total count (rest.set index new) + _ =
            count item + total count rest + _
          omega

theorem total_filter (kept : α → Bool) (items : List α) :
    total count (items.filter kept) ≤ total count items := by
  induction items with
  | nil => exact Nat.le_refl _
  | cons item rest ih =>
      rw [List.filter_cons]
      change _ ≤ count item + total count rest
      split
      · change count item + total count (rest.filter kept) ≤ _
        omega
      · omega

theorem total_without (kept : α → Bool) (items : List α) (item : α) (member : item ∈ items)
    (dropped : kept item = false) :
    total count (items.filter kept) + count item ≤ total count items := by
  induction items with
  | nil => cases member
  | cons first rest ih =>
      rw [List.filter_cons]
      change _ ≤ count first + total count rest
      rcases List.mem_cons.mp member with same | later
      · rw [← same, dropped, if_neg Bool.false_ne_true]
        have left := total_filter count kept rest
        omega
      · have left := ih later
        split
        · change count first + total count (rest.filter kept) + _ ≤ _
          omega
        · omega

theorem total_lowered (change : α → α) (items : List α)
    (never : ∀ item ∈ items, count (change item) ≤ count item) (item : α) (member : item ∈ items)
    (less : count (change item) < count item) :
    total count (items.map change) < total count items := by
  have most (part : List α) (inside : ∀ other ∈ part, count (change other) ≤ count other) :
      total count (part.map change) ≤ total count part := by
    induction part with
    | nil => exact Nat.le_refl _
    | cons first rest ih =>
        obtain ⟨own, later⟩ := List.forall_mem_cons.mp inside
        exact Nat.add_le_add own (ih later)
  induction items with
  | nil => cases member
  | cons first rest ih =>
      obtain ⟨own, later⟩ := List.forall_mem_cons.mp never
      rcases List.mem_cons.mp member with same | behind
      · subst same
        exact Nat.add_lt_add_of_lt_of_le less (most rest later)
      · exact Nat.add_lt_add_of_le_of_lt own (ih later behind)

end Total

end Toil

namespace Clockwork

variable {α : Type} (works : Clockwork α)

theorem settle_rests (moment : Moment α) :
    works.step? moment.now (works.settle moment).state = none ∧
      (works.settle moment).now = moment.now := by
  fun_induction settle works moment with
  | case1 moment rests => exact ⟨rests, rfl⟩
  | case2 moment state stepped ih => exact ih

theorem settle_resting (moment : Moment α) (rests : works.step? moment.now moment.state = none) :
    works.settle moment = moment := by
  rw [settle]
  split
  · rfl
  · rename_i stepped
    rw [rests] at stepped
    cases stepped

section Keeps

variable (keeps : α → Prop)
  (kept : ∀ now state next, keeps state → works.step? now state = some next → keeps next)

include kept

theorem settle_keeps (moment : Moment α) (holds : keeps moment.state) :
    keeps (works.settle moment).state := by
  fun_induction settle works moment with
  | case1 moment rests => exact holds
  | case2 moment state stepped ih => exact ih (kept _ _ _ holds stepped)

theorem until_keeps (goal : α → Bool) (limit : Option Instant) (moment : Moment α)
    (holds : keeps moment.state) : keeps (works.runUntil goal limit moment).1.state := by
  fun_induction runUntil works goal limit moment with
  | case1 moment settled reached => exact settle_keeps works keeps kept moment holds
  | case2 moment settled missed resting => exact settle_keeps works keeps kept moment holds
  | case3 moment settled missed time next later ih =>
      exact ih (settle_keeps works keeps kept moment holds)
  | case4 moment settled missed time next early => exact settle_keeps works keeps kept moment holds

end Keeps

theorem until_settled (goal : α → Bool) (limit : Option Instant) (moment : Moment α)
    (reached : goal (works.settle moment).state = true) :
    works.runUntil goal limit moment = (works.settle moment, true) := by
  rw [runUntil, if_pos reached]

end Clockwork

end Foreman
