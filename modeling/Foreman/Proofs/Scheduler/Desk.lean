import Foreman.Proofs.Workshop.Deeds

set_option autoImplicit false

namespace Foreman

def Ticket.stamp (ticket : Ticket) : TaskId × Nat := (ticket.id, ticket.token)

-- A task is over once it cannot be moved on, be it that its record is terminal or gone.
def Board.Over (board : Board) (id : TaskId) : Prop :=
  ∀ record, board.store.find? id = some record → record.state.isTerminal = true

structure Desk where
  board : Board
  queued : List Ticket
  watched : List Ticket
  handed : List Ticket
  issued : List (TaskId × Nat)
  used : List TaskId

namespace Desk

def IsWatched (desk : Desk) (id : TaskId) : Prop := ∃ ticket ∈ desk.watched, ticket.id = id

structure Sound (desk : Desk) : Prop where
  balanced : desk.board.Balanced
  known : ∀ id record, desk.board.store.find? id = some record → id ∈ desk.used
  given : ∀ pair ∈ desk.issued, pair.1 ∈ desk.used ∧ pair.2 < desk.board.tokens.fresh
  oneId : (desk.issued.map Prod.fst).Nodup
  oneToken : (desk.issued.map Prod.snd).Nodup
  table : ∀ pair ∈ desk.board.tokens.held, pair ∈ desk.issued
  stamped : ∀ ticket, ticket ∈ desk.queued ∨ ticket ∈ desk.watched ∨ ticket ∈ desk.handed →
    ticket.stamp ∈ desk.issued
  covered : ∀ id record, desk.board.store.find? id = some record →
    record.state.isTerminal = false →
    (record.state = .pending ∧ ∃ ticket ∈ desk.queued, ticket.id = id) ∨ desk.IsWatched id
  awaited : ∀ ticket ∈ desk.handed, desk.board.Over ticket.id ∨ desk.IsWatched ticket.id

theorem cancelled_over (desk : Desk) (sound : desk.Sound) (id : TaskId) (token : Nat)
    (issued : (id, token) ∈ desk.issued) (cancelled : token ∈ desk.board.tokens.cancelled) :
    desk.board.Over id := by
  intro record found
  by_contra active
  obtain ⟨other, held⟩ := (Board.held_iff desk.board sound.balanced id).mpr
    ⟨record, found, by simpa using active⟩
  have same : (id, other) = (id, token) :=
    List.inj_on_of_nodup_map sound.oneId (sound.table _ held) issued rfl
  have live := sound.balanced.guarded.live (id, other) held
  rw [same] at live
  exact live cancelled

theorem over_unheld (desk : Desk) (sound : desk.Sound) (id : TaskId) (token : Nat)
    (issued : (id, token) ∈ desk.issued) (past : desk.board.Over id) :
    ∀ pair ∈ desk.board.tokens.held, pair.2 ≠ token := by
  intro pair held same
  have one : pair = (id, token) :=
    List.inj_on_of_nodup_map sound.oneToken (sound.table pair held) issued same
  rw [one] at held
  obtain ⟨record, found, active⟩ :=
    (Board.held_iff desk.board sound.balanced id).mp ⟨token, held⟩
  rw [past record found] at active
  cases active

-- The things that happen at a desk, one at a time. Jobs are only replaced where there are plans.
inductive Shift (plans : Prop) (desk : Desk) : Desk → Prop where
  | spent (id : TaskId) : Shift plans desk { desk with used := desk.used ++ [id] }
  | evolved (board : Board) (allowed : Board.Effect → Prop)
      (closed : ∀ id, ¬ allowed (.entered id)) (unplanned : ¬ allowed .planned)
      (begun : ∀ id, allowed (.started id) → ∃ ticket ∈ desk.handed, ticket.id = id)
      (evolves : Board.Evolves allowed desk.board board) : Shift plans desk { desk with board := board }
  | planned (ok : plans) (jobs : JobTable) :
      Shift plans desk { desk with board := { desk.board with jobs := jobs } }
  | told (ticket : Ticket) (watched : ticket ∈ desk.watched) (past : desk.board.Over ticket.id) :
      Shift plans desk { desk with board := desk.board.cancelToken ticket.token }
  | refused (record : TaskRecord) (fresh : record.id ∉ desk.used)
      (failed : record.state.isTerminal = true) :
      Shift plans desk
        { desk with board := desk.board.rejected record, used := desk.used ++ [record.id] }
  | entered (ticket : Ticket) (now : Instant) (fresh : ticket.id ∉ desk.used)
      (token : ticket.token = desk.board.tokens.fresh) :
      Shift plans desk
        { desk with
          board := desk.board.enrolled ticket.assignment
            (desk.board.stored (TaskRecord.pending ticket.assignment))
            (desk.board.tokens.issue ticket.id).1 now
          queued := desk.queued ++ [ticket]
          issued := desk.issued ++ [ticket.stamp]
          used := desk.used ++ [ticket.id] }
  | passed (queued watched handed : List Ticket)
      (fromQueue : ∀ ticket ∈ queued, ticket ∈ desk.queued)
      (fromWatch : ∀ ticket ∈ watched, ticket ∈ desk.watched ∨ ticket ∈ desk.queued)
      (fromHand : ∀ ticket ∈ handed, ticket ∈ desk.handed ∨ ticket ∈ watched)
      (unqueued : ∀ ticket ∈ desk.queued, ticket ∈ queued ∨ ticket ∈ watched ∨
        ticket.token ∈ desk.board.tokens.cancelled ∨
        ∀ record, desk.board.store.find? ticket.id = some record → record.state ≠ .pending)
      (unwatched : ∀ ticket ∈ desk.watched, ticket ∈ watched ∨
        ticket.token ∈ desk.board.tokens.cancelled ∨
        ∃ other ∈ desk.watched, other.token = ticket.token ∧ desk.board.Over other.id) :
      Shift plans desk { desk with queued := queued, watched := watched, handed := handed }

variable {plans : Prop}

theorem sound_evolved (desk : Desk) (sound : desk.Sound) (board : Board)
    (allowed : Board.Effect → Prop) (closed : ∀ id, ¬ allowed (.entered id))
    (begun : ∀ id, allowed (.started id) → ∃ ticket ∈ desk.handed, ticket.id = id)
    (evolves : Board.Evolves allowed desk.board board) : ({ desk with board := board } : Desk).Sound := by
  obtain ⟨fresh, held⟩ := Board.evolves_tokens desk.board board evolves closed
  have back := fun id => Board.evolves_found desk.board board evolves id (closed id)
  refine ⟨Board.balanced_evolves _ _ evolves sound.balanced, ?_, ?_, sound.oneId, sound.oneToken,
    fun pair member => sound.table pair (held pair member), sound.stamped, ?_, ?_⟩
  · intro id later found
    obtain ⟨record, before, _⟩ := back id later found
    exact sound.known id record before
  · intro pair member
    rw [fresh]
    exact sound.given pair member
  · intro id later found active
    obtain ⟨record, before, same | ⟨_, ended⟩ | ⟨starts, waits, runs⟩⟩ := back id later found
    · subst same
      exact sound.covered id later before active
    · rw [ended] at active
      cases active
    · obtain ⟨ticket, member, rfl⟩ := begun id starts
      rcases sound.awaited ticket member with past | watched
      · have ended := past record before
        rw [waits] at ended
        cases ended
      · exact .inr watched
  · intro ticket member
    rcases sound.awaited ticket member with past | watched
    · refine .inl fun later found => ?_
      obtain ⟨record, before, same | ⟨active, _⟩ | ⟨_, waits, _⟩⟩ := back ticket.id later found
      · exact same ▸ past record before
      · rw [past record before] at active
        cases active
      · have ended := past record before
        rw [waits] at ended
        cases ended
    · exact .inr watched

theorem fresh_absent (desk : Desk) (sound : desk.Sound) (id : TaskId) (fresh : id ∉ desk.used) :
    desk.board.store.find? id = none := by
  cases found : desk.board.store.find? id with
  | none => rfl
  | some record => exact absurd (sound.known id record found) fresh

theorem sound_refused (desk : Desk) (sound : desk.Sound) (record : TaskRecord)
    (fresh : record.id ∉ desk.used) (failed : record.state.isTerminal = true) :
    ({ desk with
       board := desk.board.rejected record
       used := desk.used ++ [record.id] } : Desk).Sound := by
  have absent := fresh_absent desk sound record.id fresh
  have change : Board.Change desk.board (.entered record.id) (desk.board.rejected record) :=
    .rejected record absent failed
  have other (id : TaskId) (different : record.id ≠ id) :
      (desk.board.rejected record).store.find? id = desk.board.store.find? id :=
    Board.stored_other desk.board record absent id different
  have own : (desk.board.rejected record).store.find? record.id = some record :=
    Board.stored_same desk.board record absent
  refine ⟨Board.balanced_change _ _ _ change sound.balanced, ?_, ?_, sound.oneId, sound.oneToken,
    sound.table, sound.stamped, ?_, ?_⟩
  · intro id later found
    by_cases same : record.id = id
    · simp [same]
    · rw [other id same] at found
      simp [sound.known id later found]
  · intro pair member
    exact ⟨List.mem_append_left _ (sound.given pair member).1, (sound.given pair member).2⟩
  · intro id later found active
    by_cases same : record.id = id
    · subst same
      rw [own, Option.some.injEq] at found
      rw [← found, failed] at active
      cases active
    · rw [other id same] at found
      exact sound.covered id later found active
  · intro ticket member
    rcases sound.awaited ticket member with past | watched
    · refine .inl fun later found => ?_
      by_cases same : record.id = ticket.id
      · change (desk.board.rejected record).store.find? ticket.id = some later at found
        rw [← same, own, Option.some.injEq] at found
        exact found ▸ failed
      · exact past later ((other ticket.id same).symm.trans found)
    · exact .inr watched

theorem sound_entered (desk : Desk) (sound : desk.Sound) (ticket : Ticket) (now : Instant)
    (fresh : ticket.id ∉ desk.used) (token : ticket.token = desk.board.tokens.fresh) :
    ({ desk with
       board := desk.board.enrolled ticket.assignment
         (desk.board.stored (TaskRecord.pending ticket.assignment))
         (desk.board.tokens.issue ticket.id).1 now
       queued := desk.queued ++ [ticket]
       issued := desk.issued ++ [ticket.stamp]
       used := desk.used ++ [ticket.id] } : Desk).Sound := by
  have absent := fresh_absent desk sound ticket.id fresh
  have change : Board.Change desk.board (.entered ticket.id)
      (desk.board.enrolled ticket.assignment
        (desk.board.stored (TaskRecord.pending ticket.assignment))
        (desk.board.tokens.issue ticket.id).1 now) :=
    .enrolled ticket.assignment now absent
  have other (id : TaskId) (different : ticket.id ≠ id) :
      (desk.board.stored (TaskRecord.pending ticket.assignment)).find? id =
        desk.board.store.find? id :=
    Board.stored_other desk.board (TaskRecord.pending ticket.assignment) absent id different
  refine ⟨Board.balanced_change _ _ _ change sound.balanced, ?_, ?_, ?_, ?_, ?_, ?_, ?_, ?_⟩
  · intro id later found
    by_cases same : ticket.id = id
    · simp [same]
    · have before := (other id same).symm.trans found
      simp [sound.known id later before]
  · intro pair member
    rcases List.mem_append.mp member with earlier | last
    · have known := sound.given pair earlier
      exact ⟨List.mem_append_left _ known.1, Nat.lt_succ_of_lt known.2⟩
    · rw [List.mem_singleton.mp last]
      refine ⟨by simp [Ticket.stamp], ?_⟩
      change ticket.token < desk.board.tokens.fresh + 1
      omega
  · simp only [List.map_append, List.nodup_append]
    refine ⟨sound.oneId, by simp, ?_⟩
    intro id earlier last single
    obtain ⟨pair, member, rfl⟩ := List.mem_map.mp earlier
    have same : last = ticket.id := by simpa [Ticket.stamp] using single
    rintro rfl
    exact fresh (same ▸ (sound.given pair member).1)
  · simp only [List.map_append, List.nodup_append]
    refine ⟨sound.oneToken, by simp, ?_⟩
    intro number earlier last single
    obtain ⟨pair, member, rfl⟩ := List.mem_map.mp earlier
    have same : last = ticket.token := by simpa [Ticket.stamp] using single
    have bound := (sound.given pair member).2
    omega
  · intro pair member
    rcases List.mem_append.mp member with earlier | last
    · have before := (Tokens.remove_subset _ _ pair earlier).1
      exact List.mem_append_left _ (sound.table pair before)
    · rw [List.mem_singleton.mp last]
      simp [Ticket.stamp, token]
  · rintro issued (queued | watched | handed)
    · rcases List.mem_append.mp queued with earlier | last
      · exact List.mem_append_left _ (sound.stamped issued (.inl earlier))
      · rw [List.mem_singleton.mp last]
        simp
    · exact List.mem_append_left _ (sound.stamped issued (.inr (.inl watched)))
    · exact List.mem_append_left _ (sound.stamped issued (.inr (.inr handed)))
  · intro id later found active
    by_cases same : ticket.id = id
    · subst same
      have own := Board.stored_same desk.board (TaskRecord.pending ticket.assignment) absent
      have record := Option.some.inj (own.symm.trans found)
      exact .inl ⟨by rw [← record]; rfl, ticket, by simp, rfl⟩
    · have before := (other id same).symm.trans found
      rcases sound.covered id later before active with ⟨waits, queued, member, named⟩ | watched
      · exact .inl ⟨waits, queued, List.mem_append_left _ member, named⟩
      · exact .inr watched
  · intro handed member
    rcases sound.awaited handed member with past | watched
    · have old := (sound.given _ (sound.stamped handed (.inr (.inr member)))).1
      have different : ticket.id ≠ handed.id := fun same => fresh (same ▸ old)
      exact .inl fun later found => past later ((other handed.id different).symm.trans found)
    · exact .inr watched

theorem sound_passed (desk : Desk) (sound : desk.Sound) (queued watched handed : List Ticket)
    (fromQueue : ∀ ticket ∈ queued, ticket ∈ desk.queued)
    (fromWatch : ∀ ticket ∈ watched, ticket ∈ desk.watched ∨ ticket ∈ desk.queued)
    (fromHand : ∀ ticket ∈ handed, ticket ∈ desk.handed ∨ ticket ∈ watched)
    (unqueued : ∀ ticket ∈ desk.queued, ticket ∈ queued ∨ ticket ∈ watched ∨
      ticket.token ∈ desk.board.tokens.cancelled ∨
      ∀ record, desk.board.store.find? ticket.id = some record → record.state ≠ .pending)
    (unwatched : ∀ ticket ∈ desk.watched, ticket ∈ watched ∨
      ticket.token ∈ desk.board.tokens.cancelled ∨
      ∃ other ∈ desk.watched, other.token = ticket.token ∧ desk.board.Over other.id) :
    ({ desk with queued := queued, watched := watched, handed := handed } : Desk).Sound := by
  have kept (id : TaskId) (before : desk.IsWatched id) :
      desk.board.Over id ∨ ∃ ticket ∈ watched, ticket.id = id := by
    obtain ⟨ticket, member, rfl⟩ := before
    have own := sound.stamped ticket (.inr (.inl member))
    rcases unwatched ticket member with stays | cancelled | ⟨other, present, same, past⟩
    · exact .inr ⟨ticket, stays, rfl⟩
    · exact .inl (cancelled_over desk sound ticket.id ticket.token own cancelled)
    · have one : other.stamp = ticket.stamp := List.inj_on_of_nodup_map sound.oneToken
        (sound.stamped other (.inr (.inl present))) own same
      have named : other.id = ticket.id := congrArg Prod.fst one
      exact .inl (named ▸ past)
  refine ⟨sound.balanced, sound.known, sound.given, sound.oneId, sound.oneToken, sound.table, ?_, ?_, ?_⟩
  · have watch (ticket : Ticket) (member : ticket ∈ watched) : ticket.stamp ∈ desk.issued := by
      rcases fromWatch ticket member with before | before
      · exact sound.stamped ticket (.inr (.inl before))
      · exact sound.stamped ticket (.inl before)
    rintro ticket (queue | watching | hand)
    · exact sound.stamped ticket (.inl (fromQueue ticket queue))
    · exact watch ticket watching
    · rcases fromHand ticket hand with before | watching
      · exact sound.stamped ticket (.inr (.inr before))
      · exact watch ticket watching
  · intro id record found active
    rcases sound.covered id record found active with ⟨waits, ticket, member, rfl⟩ | before
    · rcases unqueued ticket member with stays | watching | cancelled | moved
      · exact .inl ⟨waits, ticket, stays, rfl⟩
      · exact .inr ⟨ticket, watching, rfl⟩
      · have past := cancelled_over desk sound ticket.id ticket.token
          (sound.stamped ticket (.inl member)) cancelled
        rw [past record found] at active
        cases active
      · exact absurd waits (moved record found)
    · rcases kept id before with past | watching
      · rw [past record found] at active
        cases active
      · exact .inr watching
  · intro ticket member
    rcases fromHand ticket member with before | watching
    · rcases sound.awaited ticket before with past | watching
      · exact .inl past
      · exact kept ticket.id watching
    · exact .inr ⟨ticket, watching, rfl⟩

theorem sound_shift (desk next : Desk) (sound : desk.Sound) (shift : Shift plans desk next) :
    next.Sound := by
  cases shift with
  | spent id =>
      refine ⟨sound.balanced, ?_, ?_, sound.oneId, sound.oneToken, sound.table, sound.stamped,
        sound.covered, sound.awaited⟩
      · exact fun other record found => List.mem_append_left _ (sound.known other record found)
      · exact fun pair member =>
          ⟨List.mem_append_left _ (sound.given pair member).1, (sound.given pair member).2⟩
  | evolved board allowed closed unplanned begun evolves =>
      exact sound_evolved desk sound board allowed closed begun evolves
  | planned ok jobs =>
      refine sound_evolved desk sound _ (· = .planned) (by simp) (by simp) ?_
      exact Board.evolves_one _ _ _ rfl (.planned jobs)
  | told ticket watched past =>
      have own := sound.stamped ticket (.inr (.inl watched))
      refine sound_evolved desk sound _ (· = .aside) (by simp) (by simp) ?_
      exact Board.evolves_one _ _ _ rfl (.cancelled ticket.token (sound.given _ own).2
        (over_unheld desk sound ticket.id ticket.token own past))
  | refused record fresh failed => exact sound_refused desk sound record fresh failed
  | entered ticket now fresh token => exact sound_entered desk sound ticket now fresh token
  | passed queued watched handed fromQueue fromWatch fromHand unqueued unwatched =>
      exact sound_passed desk sound queued watched handed fromQueue fromWatch fromHand unqueued
        unwatched

inductive Shifts (plans : Prop) (desk : Desk) : Desk → Prop where
  | refl : Shifts plans desk desk
  | step (between last : Desk) (earlier : Shifts plans desk between)
      (shift : Shift plans between last) : Shifts plans desk last

theorem shifts_one (desk next : Desk) (shift : Shift plans desk next) : Shifts plans desk next :=
  .step desk next .refl shift

theorem shifts_trans (desk between last : Desk) (first : Shifts plans desk between)
    (second : Shifts plans between last) : Shifts plans desk last := by
  induction second with
  | refl => exact first
  | step between last _ shift ih => exact .step between last ih shift

theorem shift_used (desk next : Desk) (shift : Shift plans desk next) (id : TaskId)
    (member : id ∈ desk.used) : id ∈ next.used := by
  cases shift with
  | spent _ | refused _ _ _ | entered _ _ _ _ => exact List.mem_append_left _ member
  | evolved _ _ _ _ _ _ | planned _ _ | told _ _ _ | passed _ _ _ _ _ _ _ _ => exact member

theorem shift_tokens (desk next : Desk) (shift : Shift plans desk next) :
    desk.board.tokens.fresh ≤ next.board.tokens.fresh ∧
      ∀ token ∈ desk.board.tokens.cancelled, token ∈ next.board.tokens.cancelled := by
  cases shift with
  | evolved board allowed closed unplanned begun evolves =>
      exact ⟨Nat.le_of_eq (Board.evolves_tokens desk.board board evolves closed).1.symm,
        Board.evolves_cancelled desk.board board evolves⟩
  | told ticket watched past =>
      refine ⟨Nat.le_of_eq (Tokens.cancel_held desk.board.tokens ticket.token).2.symm, ?_⟩
      exact fun token member => (Tokens.cancel_cancelled _ _ token).mpr (.inl member)
  | entered ticket now fresh token => exact ⟨Nat.le_succ _, fun _ member => member⟩
  | spent _ | planned _ _ | refused _ _ _ | passed _ _ _ _ _ _ _ _ =>
      exact ⟨Nat.le_refl _, fun _ member => member⟩

-- No record is made under an id that has been used, so what is found there has been there before.
theorem shift_descends (desk next : Desk) (sound : desk.Sound) (shift : Shift plans desk next)
    (id : TaskId) (member : id ∈ desk.used) (later : TaskRecord)
    (found : next.board.store.find? id = some later) :
    ∃ record, desk.board.store.find? id = some record ∧ Board.Descends True record later := by
  cases shift with
  | spent _ | planned _ _ | passed _ _ _ _ _ _ _ _ =>
      exact ⟨later, found, Board.descends_refl _ later⟩
  | told ticket watched past =>
      refine ⟨later, ?_, Board.descends_refl _ later⟩
      exact found
  | evolved board allowed closed unplanned begun evolves =>
      obtain ⟨record, before, descends⟩ :=
        Board.evolves_descends desk.board board evolves id (closed id) later found
      exact ⟨record, before, Board.descends_mono _ True record later descends fun _ => trivial⟩
  | refused record fresh failed =>
      have absent := fresh_absent desk sound record.id fresh
      have different : record.id ≠ id := fun same => fresh (same ▸ member)
      exact ⟨later, (Board.stored_other desk.board record absent id different).symm.trans found,
        Board.descends_refl _ later⟩
  | entered ticket now fresh token =>
      have absent := fresh_absent desk sound ticket.id fresh
      have different : ticket.id ≠ id := fun same => fresh (same ▸ member)
      exact ⟨later, (Board.stored_other desk.board (TaskRecord.pending ticket.assignment) absent id
        different).symm.trans found, Board.descends_refl _ later⟩

theorem sound_shifts (desk last : Desk) (sound : desk.Sound) (shifts : Shifts plans desk last) :
    last.Sound := by
  induction shifts with
  | refl => exact sound
  | step between last _ shift ih => exact sound_shift between last ih shift

theorem shifts_used (desk last : Desk) (shifts : Shifts plans desk last) (id : TaskId)
    (member : id ∈ desk.used) : id ∈ last.used := by
  induction shifts with
  | refl => exact member
  | step between last _ shift ih => exact shift_used between last shift id ih

theorem shifts_tokens (desk last : Desk) (shifts : Shifts plans desk last) :
    desk.board.tokens.fresh ≤ last.board.tokens.fresh ∧
      ∀ token ∈ desk.board.tokens.cancelled, token ∈ last.board.tokens.cancelled := by
  induction shifts with
  | refl => exact ⟨Nat.le_refl _, fun _ member => member⟩
  | step between last _ shift ih =>
      obtain ⟨fresh, cancelled⟩ := shift_tokens between last shift
      exact ⟨Nat.le_trans ih.1 fresh, fun token member => cancelled token (ih.2 token member)⟩

theorem shifts_descends (desk last : Desk) (sound : desk.Sound) (shifts : Shifts plans desk last)
    (id : TaskId) (member : id ∈ desk.used) (later : TaskRecord)
    (found : last.board.store.find? id = some later) :
    ∃ record, desk.board.store.find? id = some record ∧ Board.Descends True record later := by
  induction shifts generalizing later with
  | refl => exact ⟨later, found, Board.descends_refl _ later⟩
  | step between last earlier shift ih =>
      obtain ⟨middle, here, second⟩ := shift_descends between last
        (sound_shifts desk between sound earlier) shift id (shifts_used desk between earlier id member)
        later found
      obtain ⟨record, before, first⟩ := ih middle here
      exact ⟨record, before, Board.descends_trans True record middle later first second⟩

theorem shifts_found (desk last : Desk) (sound : desk.Sound) (shifts : Shifts plans desk last)
    (id : TaskId) (member : id ∈ desk.used) (later : TaskRecord)
    (found : last.board.store.find? id = some later) :
    ∃ record, desk.board.store.find? id = some record ∧ Board.Advances True record later := by
  obtain ⟨record, before, descends⟩ := shifts_descends desk last sound shifts id member later found
  exact ⟨record, before, descends.1⟩

theorem shifts_jobs (desk last : Desk) (shifts : Shifts plans desk last) (unplanned : ¬ plans) :
    last.board.jobs = desk.board.jobs := by
  induction shifts with
  | refl => rfl
  | step between last _ shift ih =>
      rw [← ih]
      cases shift with
      | evolved board allowed closed none begun evolves =>
          exact Board.evolves_jobs between.board board evolves none
      | planned ok jobs => exact absurd ok unplanned
      | spent _ | told _ _ _ | refused _ _ _ | entered _ _ _ _ | passed _ _ _ _ _ _ _ _ => rfl

def Kinds (desk : Desk) : Prop :=
  ∀ ticket, ticket ∈ desk.queued ∨ ticket ∈ desk.watched ∨ ticket ∈ desk.handed →
    ∀ record, desk.board.store.find? ticket.id = some record →
      record.kind = some ticket.assignment.kind

theorem stamped_used (desk : Desk) (sound : desk.Sound) (ticket : Ticket)
    (member : ticket ∈ desk.queued ∨ ticket ∈ desk.watched ∨ ticket ∈ desk.handed) :
    ticket.id ∈ desk.used :=
  (sound.given _ (sound.stamped ticket member)).1

theorem kinds_shift (desk next : Desk) (sound : desk.Sound) (kinds : desk.Kinds)
    (shift : Shift plans desk next) : next.Kinds := by
  have back := shift_descends desk next sound shift
  have kept (ticket : Ticket)
      (member : ticket ∈ desk.queued ∨ ticket ∈ desk.watched ∨ ticket ∈ desk.handed)
      (later : TaskRecord) (found : next.board.store.find? ticket.id = some later) :
      later.kind = some ticket.assignment.kind := by
    obtain ⟨record, before, _, same⟩ :=
      back ticket.id (stamped_used desk sound ticket member) later found
    exact same.trans (kinds ticket member record before)
  cases shift with
  | spent _ | evolved _ _ _ _ _ _ | planned _ _ | told _ _ _ | refused _ _ _ => exact kept
  | entered ticket now fresh token =>
      rintro other (queued | watched | handed) later found
      · rcases List.mem_append.mp queued with earlier | last
        · exact kept other (.inl earlier) later found
        · rw [List.mem_singleton.mp last] at found ⊢
          have absent := fresh_absent desk sound ticket.id fresh
          have own := Board.stored_same desk.board (TaskRecord.pending ticket.assignment) absent
          rw [← Option.some.inj (own.symm.trans found)]
          rfl
      · exact kept other (.inr (.inl watched)) later found
      · exact kept other (.inr (.inr handed)) later found
  | passed queued watched handed fromQueue fromWatch fromHand unqueued unwatched =>
      have watch (ticket : Ticket) (member : ticket ∈ watched) :
          ticket ∈ desk.queued ∨ ticket ∈ desk.watched ∨ ticket ∈ desk.handed := by
        rcases fromWatch ticket member with before | before
        · exact .inr (.inl before)
        · exact .inl before
      rintro ticket (queue | watching | hand) later found
      · exact kept ticket (.inl (fromQueue ticket queue)) later found
      · exact kept ticket (watch ticket watching) later found
      · rcases fromHand ticket hand with before | watching
        · exact kept ticket (.inr (.inr before)) later found
        · exact kept ticket (watch ticket watching) later found

theorem kinds_shifts (desk last : Desk) (sound : desk.Sound) (kinds : desk.Kinds)
    (shifts : Shifts plans desk last) : last.Kinds := by
  induction shifts with
  | refl => exact kinds
  | step between last earlier shift ih =>
      exact kinds_shift between last (sound_shifts desk between sound earlier) ih shift

def Has (desk : Desk) (ticket : Ticket) : Prop :=
  ticket ∈ desk.queued ∨ ticket ∈ desk.watched ∨ ticket ∈ desk.handed

-- A ticket that was not on the desk before is about a task whose id is new.
theorem shift_source (desk next : Desk) (shift : Shift plans desk next) (ticket : Ticket)
    (has : next.Has ticket) : desk.Has ticket ∨ ticket.id ∉ desk.used := by
  cases shift with
  | spent _ | evolved _ _ _ _ _ _ | planned _ _ | told _ _ _ | refused _ _ _ => exact .inl has
  | entered entered now fresh token =>
      rcases has with queued | rest
      · rcases List.mem_append.mp queued with earlier | last
        · exact .inl (.inl earlier)
        · exact .inr (List.mem_singleton.mp last ▸ fresh)
      · exact .inl (.inr rest)
  | passed queued watched handed fromQueue fromWatch fromHand unqueued unwatched =>
      have watch (ticket : Ticket) (member : ticket ∈ watched) : desk.Has ticket := by
        rcases fromWatch ticket member with before | before
        · exact .inr (.inl before)
        · exact .inl before
      rcases has with queue | watching | hand
      · exact .inl (.inl (fromQueue ticket queue))
      · exact .inl (watch ticket watching)
      · rcases fromHand ticket hand with before | watching
        · exact .inl (.inr (.inr before))
        · exact .inl (watch ticket watching)

theorem shifts_source (desk last : Desk) (shifts : Shifts plans desk last) (ticket : Ticket)
    (has : last.Has ticket) : desk.Has ticket ∨ ticket.id ∉ desk.used := by
  induction shifts with
  | refl => exact .inl has
  | step between last earlier shift ih =>
      rcases shift_source between last shift ticket has with before | unused
      · exact ih before
      · exact .inr fun used => unused (shifts_used desk between earlier ticket.id used)

end Desk

end Foreman
