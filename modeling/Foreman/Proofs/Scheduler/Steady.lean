import Foreman.Proofs.Scheduler.Moves

set_option autoImplicit false

namespace Foreman

namespace Scheduler

theorem on_moved (scheduler : Scheduler) (now : Instant) (on : scheduler.phase = .on) (move : Move)
    (unfired : ∀ ids, move ≠ .fireDue ids) (unsubmitted : ∀ request id, move ≠ .submit request id)
    (unreceived : move ≠ .receive) : (scheduler.perform now move).phase = .on := by
  by_cases phasing : move.IsPhasing
  · cases move with
    | start =>
        rcases start_cases scheduler now with same | ⟨_, same⟩
        · rw [perform, same]
          exact on
        · rw [perform, same]
          rfl
    | stop mode =>
        rcases stop_cases scheduler mode with same | ⟨_, same⟩
        · rw [perform, same]
          exact on
        · rw [perform, same]
          exact on
    | submit request id => exact absurd rfl (unsubmitted request id)
    | receive => exact absurd rfl unreceived
    | fireDue ids => exact absurd rfl (unfired ids)
    | close =>
        rw [perform]
        split
        · rcases close_cases scheduler now with same | ⟨closing, _⟩
          · rw [same]
            exact on
          · rw [on] at closing
            cases closing
        · exact on
    | _ => cases phasing
  · exact (alike_move scheduler now move phasing).1.phase.trans on

end Scheduler

def Step.IsPlanning : Step → Prop
  | .move action => action.IsPlanning
  | .accept _ => False
  | .take | .settle => True

namespace Round

def held (round : Round) : List Ticket :=
  match round.hand with
  | none => []
  | some fire => ticketsOf fire.result

def desk (round : Round) (used : List TaskId) : Desk :=
  round.scheduler.desk round.held round.issued used

structure Steady (round : Round) (used : List TaskId) : Prop where
  sound : (round.desk used).Sound
  orderly : round.scheduler.Orderly
  busy : round.isIdle = false → round.scheduler.phase = .on

structure Continues (plans : Prop) (round next : Round) (used all : List TaskId) : Prop where
  shifts : Desk.Shifts plans (round.desk used) (next.desk all)
  orderly : next.scheduler.Orderly
  busy : next.isIdle = false → next.scheduler.phase = .on

section Perform

variable (round : Round) (used : List TaskId) (now : Instant)

theorem note_none (next : Round) : next.note [] = next := by
  simp [note, Tokens.stamps]

theorem unheld (steady : round.Steady used) (id : TaskId) (fresh : id ∉ used) :
    ∀ pair ∈ round.board.tokens.held, pair.1 ≠ id := by
  rintro pair member rfl
  exact fresh (steady.sound.given pair (steady.sound.table pair member)).1

theorem idle_free (idle : round.isIdle = true) : round.due = [] ∧ round.hand = none := by
  simpa [isIdle] using idle

theorem move_ids (move : Move) (unsubmitted : ∀ request id, move ≠ .submit request id) :
    (Step.move move).ids = [] := by
  cases move with
  | submit request id => exact absurd rfl (unsubmitted request id)
  | _ => rfl

theorem move_desk (move : Move) (allowed : round.allows move = true)
    (unsubmitted : ∀ request id, move ≠ .submit request id) :
    round.perform now (.move move) = { round with scheduler := round.scheduler.perform now move } := by
  rw [perform, act, if_pos allowed, move_ids move unsubmitted, note_none]

theorem planning_performed (move : Move) (planning : move.IsPlanning) :
    round.perform now (.move move) =
      { round with scheduler := round.scheduler.perform now move } := by
  have allowed : round.allows move = true := by
    cases move with
    | addJob _ | removeJob _ | setJobEnabled _ _ => rfl
    | _ => cases planning
  refine move_desk round now move allowed ?_
  rintro request id rfl
  cases planning

theorem move_refused (move : Move) (refused : round.allows move = false) :
    round.perform now (.move move) = round ∧ (Step.move move).ids = [] := by
  have none : (Step.move move).ids = [] := by
    refine move_ids move ?_
    rintro request id rfl
    cases refused
  refine ⟨?_, none⟩
  rw [perform, act, if_neg (by simp [refused]), none, note_none]

theorem allows_unfired (move : Move) (allowed : round.allows move = true) (ids : Nat → TaskId) :
    move ≠ .fireDue ids := by
  rintro rfl
  cases allowed

theorem continues_move (steady : round.Steady used) (move : Move)
    (fresh : ∀ id ∈ (Step.move move).ids, id ∉ used) :
    Continues move.IsPlanning round (round.perform now (.move move)) used
      (used ++ (Step.move move).ids) := by
  cases allowed : round.allows move with
  | false =>
      obtain ⟨same, none⟩ := move_refused round now move allowed
      rw [same, none, List.append_nil]
      exact ⟨.refl, steady.orderly, steady.busy⟩
  | true =>
      have unfired := allows_unfired round move allowed
      by_cases submission : ∃ request id, move = .submit request id
      · obtain ⟨request, id, rfl⟩ := submission
        have unused : id ∉ used := fresh id (by simp [Step.ids])
        have absent := Desk.fresh_absent _ steady.sound id unused
        have intact := steady.sound.balanced.intact
        refine ⟨Scheduler.submit_shifts round.scheduler now round.held round.issued used request id
          unused steady.sound, Scheduler.orderly_submit round.scheduler now request id steady.orderly
          intact absent, fun busy => ?_⟩
        have on := steady.busy busy
        change (round.scheduler.submit request id now).1.phase = .on
        rcases Scheduler.submit_cases round.scheduler now request id intact absent with
          same | ⟨_, _, _, _, _, same⟩
        · rw [same]
          exact on
        · rw [same]
          exact on
      · have unsubmitted : ∀ request id, move ≠ .submit request id :=
          fun request id same => submission ⟨request, id, same⟩
        rw [move_desk round now move allowed unsubmitted, move_ids move unsubmitted, List.append_nil]
        refine ⟨Scheduler.move_shifts round.scheduler now round.held round.issued used steady.sound
          steady.orderly move unfired unsubmitted, Scheduler.orderly_move round.scheduler now
          steady.orderly move unfired unsubmitted, fun busy => ?_⟩
        refine Scheduler.on_moved round.scheduler now (steady.busy busy) move unfired unsubmitted ?_
        rintro rfl
        change round.isIdle = true at allowed
        change round.isIdle = false at busy
        rw [allowed] at busy
        cases busy

theorem continues_take (steady : round.Steady used) :
    Continues True round (round.perform now .take) used (used ++ Step.take.ids) := by
  have same : round.perform now .take = round.act now .take := note_none _
  have none : Step.take.ids = [] := rfl
  rw [same, none, List.append_nil, act]
  split
  · rename_i ready
    rw [Bool.and_eq_true] at ready
    obtain ⟨idle, listening⟩ := ready
    have on := Scheduler.listening_on round.scheduler listening
    have planned : Desk.Shift True (round.desk used) ((round.take now).desk used) :=
      .planned trivial (round.board.jobs.takeDue now round.board.isActive).1
    refine ⟨Desk.shifts_one _ _ planned, ?_, fun _ => on⟩
    exact Scheduler.orderly_alike round.scheduler _ steady.orderly ⟨rfl, rfl, rfl⟩ fun _ none => none
  · exact ⟨.refl, steady.orderly, steady.busy⟩

theorem continues_spent (steady : round.Steady used) (id : TaskId) (fresh : id ∉ used) :
    Continues False round (round.note [id]) used (used ++ [id]) := by
  have none := stamps_unheld round.board.tokens id (unheld round used steady id fresh)
  have same : round.note [id] = round := by
    simp [note, none]
  rw [same]
  exact ⟨Desk.shifts_one _ _ (.spent id), steady.orderly, steady.busy⟩

theorem accept_shifts (desk : Desk) (ticket : List Ticket) :
    Desk.Shift False { desk with queued := desk.queued ++ ticket }
      { desk with queued := ticket ++ desk.queued } := by
  have turned (other : Ticket) : other ∈ ticket ++ desk.queued ↔ other ∈ desk.queued ++ ticket := by
    simp [or_comm]
  exact .passed (ticket ++ desk.queued) _ _ (fun other member => (turned other).mp member)
    (fun _ watching => .inl watching) (fun _ given => .inl given)
    (fun other member => .inl ((turned other).mpr member)) fun _ watching => .inl watching

theorem accept_next (steady : round.Steady used) (id : TaskId) (fresh : id ∉ used)
    (hand : round.hand = none) (due : DueJob) (rest : List DueJob) (left : round.due = due :: rest) :
    ∃ cache board result, Accepted round.board id board result ∧
      round.accept id now =
        { round with
          scheduler := { round.scheduler with
            cache := cache
            shop := { round.scheduler.shop with board := board } }
          due := rest
          hand := some ⟨due, id, result⟩
          made := round.made ++ [(due.id, id)] } := by
  have absent := Desk.fresh_absent _ steady.sound id fresh
  obtain ⟨cache, board, result, same, accepted⟩ := Scheduler.accept_cases round.scheduler
    due.request id now steady.sound.balanced.intact absent
  exact ⟨cache, board, result, accepted, by simp only [accept, hand, left, same]⟩

theorem continues_accept (steady : round.Steady used) (id : TaskId) (fresh : id ∉ used) :
    Continues False round (round.perform now (.accept id)) used (used ++ [id]) := by
  change Continues False round ((round.accept id now).note [id]) used (used ++ [id])
  cases hand : round.hand with
  | some fire =>
      have same : round.accept id now = round := by
        simp only [accept, hand]
      rw [same]
      exact continues_spent round used steady id fresh
  | none =>
      cases left : round.due with
      | nil =>
          have same : round.accept id now = round := by
            simp only [accept, hand, left]
          rw [same]
          exact continues_spent round used steady id fresh
      | cons due rest =>
          obtain ⟨cache, board, result, accepted, next⟩ :=
            accept_next round used now steady id fresh hand due rest left
          have empty : round.held = [] := by
            rw [held, hand]
          have entered : Desk.Shifts False (round.desk used)
              { round.desk used with
                board := board
                queued := (round.desk used).queued ++ ticketsOf result
                issued := round.issued ++ board.tokens.stamps [id]
                used := used ++ [id] } :=
            accepted_shifts (round.desk used) steady.sound id fresh board result accepted
          have on := steady.busy (by simp [isIdle, left])
          rw [next]
          refine ⟨Desk.shifts_trans _ _ _ entered ?_, ?_, fun _ => on⟩
          · refine Desk.shifts_one _ _ ?_
            have turned := accept_shifts
              { round.desk used with
                board := board
                issued := round.issued ++ board.tokens.stamps [id]
                used := used ++ [id] } (ticketsOf result)
            simp only [desk, Scheduler.desk, empty, List.nil_append] at turned ⊢
            exact turned
          · exact Scheduler.orderly_alike round.scheduler _ steady.orderly ⟨rfl, rfl, rfl⟩
              fun _ none => none

theorem continues_settle (steady : round.Steady used) :
    Continues True round (round.perform now .settle) used (used ++ Step.settle.ids) := by
  have same : round.perform now .settle = round.settle now := note_none _
  have none : Step.settle.ids = [] := rfl
  rw [same, none, List.append_nil, settle]
  split
  · rename_i fire hand
    have on := steady.busy (by simp [isIdle, hand])
    have alike := Scheduler.alike_settle_fire round.scheduler now fire.due fire.id fire.result
    refine ⟨?_, ?_, fun _ => alike.phase.trans on⟩
    · let jobs := round.board.jobs.written fire.due.id fire.id fire.result
      let written := round.scheduler.withJobs jobs
      have told (event : Event) : Desk.Shifts True (round.desk used)
          ((written.publish event).desk round.held round.issued used) :=
        Scheduler.planned_shifts round.scheduler round.held round.issued used trivial jobs event
      rcases Scheduler.settle_fire_cases round.scheduler now fire.due fire.id fire.result with
        ⟨ticket, event, result, handed⟩ | ⟨⟨error, result⟩, ways⟩
      · have holds : round.held = [ticket] := by
          rw [held, hand]
          simp only [result, ticketsOf]
        have first := told event
        rw [holds] at first
        rw [handed]
        refine Desk.shifts_trans _ _ _ first ?_
        exact Scheduler.dispatch_shifts (written.publish event) now [] round.issued used
          steady.sound.balanced.intact ticket ([ticket] ++ (written.publish event).queued)
          (fun other member => List.mem_cons.mp member)
          (fun other member => List.mem_cons_of_mem _ member) List.mem_cons_self
      · have empty : round.held = [] := by
          rw [held, hand]
          simp only [result, ticketsOf]
        rcases ways with same | ⟨event, same⟩
        · have planned : Desk.Shifts True (round.desk used)
              (written.desk round.held round.issued used) :=
            Desk.shifts_one _ _ (.planned trivial jobs)
          rw [empty] at planned
          rw [same]
          exact planned
        · have first := told event
          rw [empty] at first
          rw [same]
          exact first
    · refine Scheduler.orderly_on _ (alike.phase.trans on) ?_
      rw [alike.isOpen, alike.inbox]
      exact steady.orderly.on on
  · exact ⟨.refl, steady.orderly, steady.busy⟩

theorem continues_perform (steady : round.Steady used) (step : Step)
    (fresh : ∀ id ∈ step.ids, id ∉ used) :
    Continues step.IsPlanning round (round.perform now step) used (used ++ step.ids) := by
  cases step with
  | move move => exact continues_move round used now steady move fresh
  | take => exact continues_take round used now steady
  | accept id => exact continues_accept round used now steady id (fresh id (by simp [Step.ids]))
  | settle => exact continues_settle round used now steady

theorem steady_perform (steady : round.Steady used) (step : Step)
    (fresh : ∀ id ∈ step.ids, id ∉ used) : (round.perform now step).Steady (used ++ step.ids) := by
  obtain ⟨shifts, orderly, busy⟩ := continues_perform round used now steady step fresh
  exact ⟨Desk.sound_shifts _ _ steady.sound shifts, orderly, busy⟩

end Perform

theorem ids_cons (used : List TaskId) (entry : Instant × Step) (rest : List (Instant × Step)) :
    used ++ idsOf (entry :: rest) = (used ++ entry.2.ids) ++ idsOf rest := by
  simp [idsOf]

theorem fresh_head (used ids rest : List TaskId) (fresh : ((used ++ ids) ++ rest).Nodup) :
    ∀ id ∈ ids, id ∉ used := by
  intro id given known
  have apart := (List.nodup_append.mp (List.nodup_append.mp fresh).1).2.2
  exact apart id known id given rfl

-- What each step keeps holds after a run. It may speak of the steps that are to come.
theorem run_keeps (keeps : Round → List TaskId → List (Instant × Step) → Prop)
    (kept : ∀ round used, round.Steady used → ∀ entry rest, (∀ id ∈ entry.2.ids, id ∉ used) →
      keeps round used (entry :: rest) →
      keeps (round.perform entry.1 entry.2) (used ++ entry.2.ids) rest)
    (round : Round) (used : List TaskId) (steady : round.Steady used)
    (history : List (Instant × Step)) (fresh : (used ++ idsOf history).Nodup)
    (start : keeps round used history) :
    (round.run history).Steady (used ++ idsOf history) ∧
      keeps (round.run history) (used ++ idsOf history) [] := by
  induction history generalizing round used with
  | nil =>
      rw [idsOf, List.flatMap_nil, List.append_nil]
      exact ⟨steady, start⟩
  | cons entry rest ih =>
      rw [ids_cons] at fresh ⊢
      have unused := fresh_head used entry.2.ids (idsOf rest) fresh
      exact ih (round.perform entry.1 entry.2) (used ++ entry.2.ids)
        (steady_perform round used entry.1 steady entry.2 unused) fresh
        (kept round used steady entry rest unused start)

theorem steady_run (round : Round) (used : List TaskId) (steady : round.Steady used)
    (history : List (Instant × Step)) (fresh : (used ++ idsOf history).Nodup) :
    (round.run history).Steady (used ++ idsOf history) :=
  (run_keeps (fun _ _ _ => True) (fun _ _ _ _ _ _ _ => trivial) round used steady history fresh
    trivial).1

theorem steady_new (settings : Settings) (registry : Registry Callable) (cores : Nat)
    (scheduler : Scheduler) (built : Scheduler.new settings registry cores = .ok scheduler) :
    (ofScheduler scheduler).Steady [] := by
  rw [Scheduler.new_cases settings registry cores scheduler built]
  refine ⟨⟨Board.balanced_empty _, ?_, ?_, List.nodup_nil, List.nodup_nil, ?_, ?_, ?_, ?_⟩,
    ⟨?_, fun _ => ⟨rfl, rfl⟩, fun _ => rfl⟩, fun busy => ?_⟩
  · intro id record found
    cases found
  · intro pair member
    cases member
  · intro pair member
    cases member
  · rintro ticket (member | member | member) <;> cases member
  · intro id record found
    cases found
  · intro ticket member
    cases member
  · intro on
    cases on
  · cases busy

end Round

end Foreman
