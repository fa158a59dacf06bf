import Foreman.Proofs.Trigger.Series

set_option autoImplicit false

namespace Foreman.Trigger

mutual

def leaves : Trigger → List Trigger
  | .date time => [.date time]
  | .interval period => [.interval period]
  | .cron schedule => [.cron schedule]
  | .any first others => leaves first ++ leavesOf others

def leavesOf : List Trigger → List Trigger
  | [] => []
  | trigger :: rest => leaves trigger ++ leavesOf rest

end

theorem leaves_any (first : Trigger) (others : List Trigger) :
    (Trigger.any first others).leaves = leavesOf (first :: others) := by
  rw [leaves, leavesOf]

theorem leaves_append (as bs : List Trigger) : leavesOf (as ++ bs) = leavesOf as ++ leavesOf bs := by
  induction as with
  | nil => rfl
  | cons trigger rest ih => rw [List.cons_append, leavesOf, leavesOf, ih, List.append_assoc]

theorem leaf_of_iff (leaf : Trigger) (triggers : List Trigger) :
    leaf ∈ leavesOf triggers ↔ ∃ trigger ∈ triggers, leaf ∈ trigger.leaves := by
  induction triggers with
  | nil => simp [leavesOf]
  | cons trigger rest ih => simp [leavesOf, ih]

section Answers

variable (now : Instant)

def answers (triggers : List Trigger) : List (Option Instant) :=
  triggers.map fun trigger => trigger.next none now

theorem answer_alone (trigger : Trigger) :
    (answers now [trigger]).foldr Instant.earliest? none = trigger.next none now := by
  change Instant.earliest? (trigger.next none now) none = _
  cases trigger.next none now <;> rfl

theorem answers_append (as bs : List Trigger) :
    (answers now (as ++ bs)).foldr Instant.earliest? none =
      Instant.earliest? ((answers now as).foldr Instant.earliest? none)
        ((answers now bs).foldr Instant.earliest? none) := by
  rw [answers, List.map_append, Instant.first_append, answers, answers]

mutual

theorem next_leaves (trigger : Trigger) :
    trigger.next none now = (answers now trigger.leaves).foldr Instant.earliest? none := by
  cases trigger with
  | date time => rw [leaves, answer_alone]
  | interval period => rw [leaves, answer_alone]
  | cron schedule => rw [leaves, answer_alone]
  | any first others =>
      rw [next, leaves, answers_append, next_leaves first, all_next_leaves others]

theorem all_next_leaves (triggers : List Trigger) :
    nextOf triggers now = (answers now (leavesOf triggers)).foldr Instant.earliest? none := by
  cases triggers with
  | nil => rfl
  | cons trigger rest =>
      rw [nextOf, leavesOf, answers_append, next_leaves trigger, all_next_leaves rest]

end

theorem children_least (children : List Trigger) (time : Instant) :
    nextOf children now = some time ↔
      IsLeast {answer | ∃ leaf ∈ leavesOf children, leaf.next none now = some answer} time := by
  have answered : {answer | some answer ∈ answers now (leavesOf children)} =
      {answer | ∃ leaf ∈ leavesOf children, leaf.next none now = some answer} := by
    ext answer
    simp [answers]
  rw [all_next_leaves, Instant.first_iff, answered]

theorem children_silent (children : List Trigger) :
    nextOf children now = none ↔ ∀ leaf ∈ leavesOf children, leaf.next none now = none := by
  rw [all_next_leaves, Instant.first_none, answers]
  simp

theorem any_next (first : Trigger) (others : List Trigger) (previous : Option Instant) :
    (Trigger.any first others).next previous now = nextOf (first :: others) now := by
  rw [next, nextOf]

end Answers

section Rearranged

-- Children that are put in another order, listed once more, taken out of their group or put into
-- one, at any depth.
inductive Rearranged : List Trigger → List Trigger → Prop where
  | reordered (children others : List Trigger) (perm : children.Perm others) :
      Rearranged children others
  | repeated (child : Trigger) (children : List Trigger) (member : child ∈ children) :
      Rearranged children (child :: children)
  | flattened (first : Trigger) (others siblings : List Trigger) :
      Rearranged (.any first others :: siblings) (first :: others ++ siblings)
  | within (first other : Trigger) (others rest siblings : List Trigger)
      (inner : Rearranged (first :: others) (other :: rest)) :
      Rearranged (.any first others :: siblings) (.any other rest :: siblings)
  | undone (children others : List Trigger) (moved : Rearranged children others) :
      Rearranged others children
  | onward (children others rest : List Trigger) (moved : Rearranged children others)
      (again : Rearranged others rest) : Rearranged children rest

theorem rearranged_leaves (children others : List Trigger) (moved : Rearranged children others)
    (leaf : Trigger) : leaf ∈ leavesOf children ↔ leaf ∈ leavesOf others := by
  induction moved with
  | reordered children others perm =>
      rw [leaf_of_iff, leaf_of_iff]
      exact exists_congr fun trigger => and_congr_left' perm.mem_iff
  | repeated child children member =>
      rw [leavesOf, List.mem_append, leaf_of_iff leaf children]
      exact ⟨.inr, fun either => either.elim (fun own => ⟨child, member, own⟩) id⟩
  | flattened first others siblings =>
      rw [leavesOf, leaves_any, leaves_append]
  | within first other others rest siblings inner ih =>
      rw [leavesOf, leavesOf, leaves_any, leaves_any, List.mem_append, List.mem_append, ih]
  | undone children others moved ih => exact ih.symm
  | onward children others rest moved again ih later => exact ih.trans later

theorem cons_dissolved (trigger : Trigger) (rest siblings : List Trigger)
    (head : ∀ siblings, Rearranged (trigger :: siblings) (trigger.leaves ++ siblings))
    (tail : ∀ siblings, Rearranged (rest ++ siblings) (leavesOf rest ++ siblings)) :
    Rearranged (trigger :: rest ++ siblings) (leavesOf (trigger :: rest) ++ siblings) := by
  have behind (as bs : List Trigger) :
      Rearranged (as ++ (bs ++ siblings)) (bs ++ (as ++ siblings)) := by
    refine .reordered _ _ ?_
    rw [← List.append_assoc, ← List.append_assoc]
    exact List.perm_append_comm.append_right siblings
  rw [leavesOf, List.append_assoc]
  refine .onward _ _ _ (head (rest ++ siblings)) ?_
  refine .onward _ _ _ (behind trigger.leaves rest) ?_
  exact .onward _ _ _ (tail (trigger.leaves ++ siblings)) (behind (leavesOf rest) trigger.leaves)

mutual

theorem dissolved (trigger : Trigger) (siblings : List Trigger) :
    Rearranged (trigger :: siblings) (trigger.leaves ++ siblings) := by
  cases trigger with
  | date time => exact .reordered _ _ (.refl _)
  | interval period => exact .reordered _ _ (.refl _)
  | cron schedule => exact .reordered _ _ (.refl _)
  | any first others =>
      rw [leaves_any]
      exact .onward _ _ _ (.flattened first others siblings)
        (cons_dissolved first others siblings (dissolved first) (all_dissolved others))

theorem all_dissolved (triggers siblings : List Trigger) :
    Rearranged (triggers ++ siblings) (leavesOf triggers ++ siblings) := by
  cases triggers with
  | nil => exact .reordered _ _ (.refl _)
  | cons trigger rest =>
      exact cons_dissolved trigger rest siblings (dissolved trigger) (all_dissolved rest)

end

theorem repeated_ahead (more children : List Trigger) (given : ∀ child ∈ more, child ∈ children) :
    Rearranged children (more ++ children) := by
  induction more with
  | nil => exact .reordered _ _ (.refl _)
  | cons child rest ih =>
      obtain ⟨own, others⟩ := List.forall_mem_cons.mp given
      exact .onward _ _ _ (ih others) (.repeated child _ (List.mem_append_right rest own))

theorem members_rearranged (children others : List Trigger)
    (same : ∀ child, child ∈ children ↔ child ∈ others) : Rearranged children others := by
  refine .onward _ _ _ (repeated_ahead others children fun child => (same child).mpr) ?_
  refine .onward _ _ _ (.reordered _ _ List.perm_append_comm) ?_
  exact .undone _ _ (repeated_ahead children others fun child => (same child).mp)

theorem rearranged_iff (children others : List Trigger) :
    Rearranged children others ↔ ∀ leaf, leaf ∈ leavesOf children ↔ leaf ∈ leavesOf others := by
  have plain (triggers : List Trigger) : Rearranged triggers (leavesOf triggers) := by
    have flat := all_dissolved triggers []
    rwa [List.append_nil, List.append_nil] at flat
  constructor
  · exact rearranged_leaves children others
  · intro same
    exact .onward _ _ _ (plain children)
      (.onward _ _ _ (members_rearranged _ _ same) (.undone _ _ (plain others)))

theorem rearranged_next (children others : List Trigger) (moved : Rearranged children others)
    (now : Instant) : nextOf children now = nextOf others now := by
  refine Option.ext fun time => ?_
  rw [children_least, children_least]
  simp only [rearranged_leaves children others moved]

end Rearranged

theorem series_agree (trigger other : Trigger)
    (agree : ∀ previous now, trigger.next previous now = other.next previous now) (late : Span)
    (count : Nat) (previous : Option Instant) (now : Instant) :
    trigger.series late count previous now = other.series late count previous now := by
  induction count generalizing previous now with
  | zero => rfl
  | succ count ih =>
      rw [series, series, agree]
      cases other.next previous now with
      | none => rfl
      | some fire => exact congrArg (some fire :: ·) (ih _ _)

theorem earliest_leaf_fires (first : Trigger) (others : List Trigger) :
    (∀ previous now,
      (∀ time, (Trigger.any first others).next previous now = some time ↔
        IsLeast {answer | ∃ leaf ∈ (Trigger.any first others).leaves,
          leaf.next none now = some answer} time) ∧
      ((Trigger.any first others).next previous now = none ↔
        ∀ leaf ∈ (Trigger.any first others).leaves, leaf.next none now = none)) ∧
    (∀ previous last now, (Trigger.any first others).next previous now =
      (Trigger.any first others).next last now) ∧
    ∀ other rest,
      (Rearranged (first :: others) (other :: rest) ↔
        ∀ leaf, leaf ∈ (Trigger.any first others).leaves ↔
          leaf ∈ (Trigger.any other rest).leaves) ∧
      (Rearranged (first :: others) (other :: rest) → ∀ previous now,
        (Trigger.any first others).next previous now = (Trigger.any other rest).next previous now ∧
        ∀ late count, (Trigger.any first others).series late count previous now =
          (Trigger.any other rest).series late count previous now) := by
  refine ⟨fun previous now => ?earliest, fun previous last now => ?unremembered,
    fun other rest => ⟨?reached, fun moved previous now => ?rearranged⟩⟩
  case earliest =>
    rw [any_next, leaves_any]
    exact ⟨children_least now (first :: others), children_silent now (first :: others)⟩
  case unremembered => rw [any_next, any_next]
  case reached =>
    rw [leaves_any, leaves_any]
    exact rearranged_iff (first :: others) (other :: rest)
  case rearranged =>
    have agree (previous : Option Instant) (now : Instant) :
        (Trigger.any first others).next previous now =
          (Trigger.any other rest).next previous now := by
      rw [any_next, any_next, rearranged_next _ _ moved now]
    exact ⟨agree previous now, fun late count => series_agree _ _ agree late count previous now⟩

def groupedHours : Trigger := .any (.date (atSecond 1200)) [.any (.cron everyHour) []]

theorem grouped_hours_fire :
    Rearranged [groupedHours, .date Instant.epoch] [.cron everyHour, .date Instant.epoch,
      .date (atSecond 1200), .date (atSecond 1200)] ∧
      (∀ previous, (Trigger.any groupedHours [.date Instant.epoch]).next previous (atSecond 600) =
        some (atSecond 1200)) ∧
      (Trigger.any groupedHours [.date Instant.epoch]).series Span.zero 3 none (atSecond 600) =
        [some (atSecond 1200), some (atSecond 3600), some (atSecond 7200)] := by
  obtain ⟨_, unremembered, same⟩ := earliest_leaf_fires groupedHours [.date Instant.epoch]
  obtain ⟨reached, alike⟩ := same (.cron everyHour) [.date Instant.epoch, .date (atSecond 1200),
    .date (atSecond 1200)]
  have moved := reached.mpr fun leaf => by
    simp only [groupedHours, leaves, leavesOf, List.mem_append, List.mem_cons, List.not_mem_nil]
    tauto
  refine ⟨moved, fun previous => ?_, ?_⟩
  · rw [unremembered previous none]
    decide +kernel
  · rw [(alike moved none (atSecond 600)).2]
    decide +kernel

end Foreman.Trigger
