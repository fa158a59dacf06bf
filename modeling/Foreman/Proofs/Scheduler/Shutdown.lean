import Foreman.Proofs.Scheduler.Steady

set_option autoImplicit false

namespace Foreman

theorem Tokens.held_found (tokens : Tokens) (id : TaskId) (token : Nat)
    (member : (id, token) ∈ tokens.held) : ∃ other, tokens.find? id = some other := by
  cases found : tokens.find? id with
  | some other => exact ⟨other, rfl⟩
  | none =>
      have absent := List.find?_eq_none.mp (Option.map_eq_none_iff.mp found) (id, token) member
      simp at absent

namespace Round

structure Attended (round : Round) : Prop where
  named : (round.issued.map Prod.fst).Nodup
  stamped : ∀ ticket, ticket ∈ round.held ∨ ticket ∈ round.scheduler.queued ∨
    ticket ∈ round.scheduler.watched ∨ ticket ∈ round.scheduler.shop.handed →
    (ticket.assignment.id, ticket.token) ∈ round.issued
  active : ∀ id record, round.board.store.find? id = some record →
    record.state.isTerminal = false →
    ∃ token, round.board.tokens.find? id = some token ∧ (id, token) ∈ round.issued
  told : ∀ id token, (id, token) ∈ round.issued → round.board.tokens.isCancelled token = true →
    ∀ record, round.board.store.find? id = some record → record.state.isTerminal = true
  left : ∀ id, (∀ ticket ∈ round.held, ticket.assignment.id ≠ id) →
    (∀ ticket, .dispatch ticket ∈ round.scheduler.inbox → ticket.assignment.id ≠ id) →
    (∀ watch ∈ round.scheduler.watches, watch.ticket.assignment.id ≠ id) →
    ∀ record, round.board.store.find? id = some record → record.state.isTerminal = true
  returned : round.scheduler.phase = .off →
    ∀ record ∈ round.board.store.records, record.state.isTerminal = true

theorem queued_dispatch (scheduler : Scheduler) (ticket : Ticket)
    (member : ticket ∈ scheduler.queued) : .dispatch ticket ∈ scheduler.inbox := by
  obtain ⟨command, present, same⟩ := List.mem_filterMap.mp member
  cases command with
  | dispatch other =>
      cases same
      exact present
  | shutdown mode => cases same

theorem steady_left (round : Round) (used : List TaskId) (steady : round.Steady used) (id : TaskId)
    (unheld : ∀ ticket ∈ round.held, ticket.assignment.id ≠ id)
    (unqueued : ∀ ticket, .dispatch ticket ∈ round.scheduler.inbox → ticket.assignment.id ≠ id)
    (unwatched : ∀ watch ∈ round.scheduler.watches, watch.ticket.assignment.id ≠ id) :
    round.board.Over id := by
  intro record found
  by_contra active
  rcases steady.sound.covered id record found (by simpa using active) with
    ⟨_, ticket, member, same⟩ | ⟨ticket, member, same⟩
  · rcases List.mem_append.mp member with own | behind
    · exact unheld ticket own same
    · exact unqueued ticket (queued_dispatch round.scheduler ticket behind) same
  · obtain ⟨watch, present, rfl⟩ := List.mem_map.mp member
    exact unwatched watch present same

theorem steady_attended (round : Round) (used : List TaskId) (steady : round.Steady used) :
    round.Attended := by
  have sound := steady.sound
  refine ⟨sound.oneId, ?_, ?_, ?_, steady_left round used steady, ?_⟩
  · rintro ticket (own | queued | watched | handed)
    · exact sound.stamped ticket (.inl (List.mem_append_left _ own))
    · exact sound.stamped ticket (.inl (List.mem_append_right _ queued))
    · exact sound.stamped ticket (.inr (.inl watched))
    · exact sound.stamped ticket (.inr (.inr handed))
  · intro id record found active
    obtain ⟨token, member⟩ := (Board.held_iff _ sound.balanced id).mpr ⟨record, found, active⟩
    obtain ⟨other, shown⟩ := Tokens.held_found _ id token member
    exact ⟨other, shown, sound.table _ (Board.find_held _ id other shown)⟩
  · intro id token issued cancelled
    exact Desk.cancelled_over _ sound id token issued (List.contains_iff_mem.mp cancelled)
  · intro off record member
    have idle : round.isIdle = true := by
      by_contra busy
      have on := steady.busy (by simpa using busy)
      rw [off] at on
      cases on
    have closed := steady.orderly.closed (by simp [off])
    have found := Store.member_found round.board.store sound.balanced.intact record member
    refine steady_left round used steady record.id ?_ ?_ ?_ record found
    · simp [held, (idle_free round idle).2]
    · simp [closed.2]
    · simp [steady.orderly.off off]

theorem run_descends (round : Round) (used : List TaskId) (steady : round.Steady used)
    (history : List (Instant × Step)) (fresh : (used ++ idsOf history).Nodup) (id : TaskId)
    (member : id ∈ used) (later : TaskRecord)
    (found : (round.run history).board.store.find? id = some later) :
    ∃ record, round.board.store.find? id = some record ∧ Board.Descends True record later := by
  let keeps (last : Round) (known : List TaskId) (_ : List (Instant × Step)) : Prop :=
    id ∈ known ∧ ∀ later, last.board.store.find? id = some later →
      ∃ record, round.board.store.find? id = some record ∧ Board.Descends True record later
  have start : keeps round used history :=
    ⟨member, fun later found => ⟨later, found, Board.descends_refl True later⟩⟩
  refine (run_keeps keeps ?_ round used steady history fresh start).2.2 later found
  intro between known steady entry _ unused ⟨member, back⟩
  refine ⟨List.mem_append_left _ member, fun later found => ?_⟩
  have continues := continues_perform between known entry.1 steady entry.2 unused
  obtain ⟨middle, here, second⟩ :=
    Desk.shifts_descends _ _ steady.sound continues.shifts id member later found
  obtain ⟨record, before, first⟩ := back middle here
  exact ⟨record, before, Board.descends_trans True record middle later first second⟩

theorem run_found (round : Round) (used : List TaskId) (steady : round.Steady used)
    (history : List (Instant × Step)) (fresh : (used ++ idsOf history).Nodup) (id : TaskId)
    (member : id ∈ used) (later : TaskRecord)
    (found : (round.run history).board.store.find? id = some later) :
    ∃ record, round.board.store.find? id = some record ∧ Board.Advances True record later := by
  obtain ⟨record, before, descends⟩ :=
    run_descends round used steady history fresh id member later found
  exact ⟨record, before, descends.1⟩

theorem receive_cancels (round : Round) (used : List TaskId) (steady : round.Steady used)
    (now : Instant) (idle : round.isIdle = true) (listening : round.scheduler.isListening = true)
    (next : round.scheduler.inbox.head? = some (.shutdown .cancel)) (id : TaskId)
    (record : TaskRecord) (found : round.board.store.find? id = some record)
    (active : record.state.isTerminal = false) :
    ∃ ended, (round.perform now (.move .receive)).board.store.find? id = some ended ∧
      ended.state = .cancelled := by
  obtain ⟨rest, inbox⟩ := List.head?_eq_some_iff.mp next
  let reason := "Scheduler shut down before the task finished"
  have cancelled := Board.cancel_all_cancels reason now round.board steady.sound.balanced id record
    found active
  refine ⟨record.moved .cancelled (some (Board.abortion reason record now)) now, ?_, rfl⟩
  rw [move_desk round now .receive idle (by simp)]
  change (round.scheduler.perform now .receive).board.store.find? id = _
  rw [Scheduler.perform, if_pos listening, Scheduler.receive, inbox]
  exact cancelled

theorem fresh_split (first second : List (Instant × Step)) (fresh : Fresh (first ++ second)) :
    Fresh first ∧ (idsOf first ++ idsOf second).Nodup := by
  have whole : (idsOf first ++ idsOf second).Nodup := by
    simpa [Fresh, idsOf] using fresh
  exact ⟨(List.nodup_append.mp whole).1, whole⟩

theorem no_task_stranded (settings : Settings) (registry : Registry Callable) (cores : Nat)
    (scheduler : Scheduler) (built : Scheduler.new settings registry cores = .ok scheduler)
    (history : List (Instant × Step)) (fresh : Fresh history) :
    ((ofScheduler scheduler).run history).Attended ∧
      ∀ before now after, history = before ++ (now, .move .receive) :: after →
        let shut := (ofScheduler scheduler).run before
        shut.isIdle = true → shut.scheduler.isListening = true →
        shut.scheduler.inbox.head? = some (.shutdown .cancel) →
        ∀ id record, shut.board.store.find? id = some record → record.state.isTerminal = false →
        ∀ later, ((ofScheduler scheduler).run history).board.store.find? id = some later →
          later.state = .cancelled := by
  have start := steady_new settings registry cores scheduler built
  refine ⟨steady_attended _ _ (steady_run _ [] start history fresh), ?_⟩
  rintro before now after rfl shut idle listening next id record found active later ended
  obtain ⟨first, whole⟩ := fresh_split before ((now, .move .receive) :: after) fresh
  have steady : shut.Steady ([] ++ idsOf before) :=
    steady_run _ [] start before first
  have known : id ∈ [] ++ idsOf before := steady.sound.known id record found
  obtain ⟨cancelled, here, state⟩ :=
    receive_cancels shut _ steady now idle listening next id record found active
  have settled : (shut.perform now (.move .receive)).Steady ([] ++ idsOf before) := by
    have kept := steady_perform shut _ now steady (.move .receive) (by simp [Step.ids])
    simpa [Step.ids] using kept
  rw [run_append] at ended
  have rest : (([] ++ idsOf before) ++ idsOf after).Nodup := by
    simpa [idsOf, Step.ids] using whole
  obtain ⟨same, stored, advances⟩ := run_found _ _ settled after rest id known later ended
  rw [here, Option.some.injEq] at stored
  subst stored
  rcases advances with rfl | ⟨still, _⟩ | ⟨_, waits, _⟩
  · exact state
  · rw [state] at still
    cases still
  · rw [state] at waits
    cases waits

def cutShort : List (Instant × Step) :=
  let request := Request.new "tasks:wait"
  let moves : List Move :=
    [.start, .submit request (TaskId.ofNumber 1), .receive, .work .launch,
      .submit request (TaskId.ofNumber 2), .stop .cancel, .receive, .receive,
      .releaseWatch 0, .releaseWatch 1, .close]
  moves.map fun move => (Instant.epoch, .move move)

def waitingTask : Registry Callable :=
  ⟨[("tasks:wait", .always .async fun _ => .gate "open" (.finish (.value .null)))]⟩

def waitingScheduler : Scheduler :=
  (Scheduler.new Settings.default waitingTask 1).toOption.getD default

theorem cut_short_ends :
    Scheduler.new Settings.default waitingTask 1 = .ok waitingScheduler ∧ Fresh cutShort ∧
      let round := (ofScheduler waitingScheduler).run cutShort
      round.scheduler.phase = .off ∧
        (∀ record ∈ round.board.store.records, record.state.isTerminal = true) ∧
        ∃ later, round.board.store.find? (TaskId.ofNumber 1) = some later ∧
          later.state = .cancelled := by
  have built : Scheduler.new Settings.default waitingTask 1 = .ok waitingScheduler := rfl
  have fresh : Fresh cutShort := by
    unfold Fresh
    decide +kernel
  obtain ⟨attended, cancels⟩ := no_task_stranded _ _ _ waitingScheduler built cutShort fresh
  have off : ((ofScheduler waitingScheduler).run cutShort).scheduler.phase = .off := by
    decide +kernel
  have runs : (((ofScheduler waitingScheduler).run (cutShort.take 7)).board.store.find?
      (TaskId.ofNumber 1)).map TaskRecord.state = some .running := by decide +kernel
  have kept : (((ofScheduler waitingScheduler).run cutShort).board.store.find?
      (TaskId.ofNumber 1)).isSome := by decide +kernel
  obtain ⟨record, found, state⟩ := Option.map_eq_some_iff.mp runs
  obtain ⟨later, stored⟩ := Option.isSome_iff_exists.mp kept
  refine ⟨built, fresh, off, attended.returned off, later, stored, ?_⟩
  exact cancels (cutShort.take 7) Instant.epoch (cutShort.drop 8) rfl (by decide +kernel)
    (by decide +kernel) rfl (TaskId.ofNumber 1) record found (by rw [state]; rfl) later stored

end Round

end Foreman
