import Foreman.Proofs.Workshop.Crew
import Foreman.Proofs.Workshop.Efforts
import Mathlib.Data.List.Perm.Basic

set_option autoImplicit false

namespace Foreman

theorem perm_without {α : Type} (token : α → Nat) (items : List α) (item : α) (member : item ∈ items)
    (distinct : (items.map token).Nodup) :
    items.Perm (item :: items.filter fun other => token other != token item) := by
  induction items with
  | nil => cases member
  | cons head rest ih =>
      rw [List.map_cons, List.nodup_cons] at distinct
      rcases List.mem_cons.mp member with rfl | behind
      · have kept : rest.filter (fun other => token other != token item) = rest := by
          rw [List.filter_eq_self]
          intro other present
          rw [bne_iff_ne]
          exact fun same => distinct.1 (List.mem_map.mpr ⟨other, present, same⟩)
        rw [List.filter_cons_of_neg (by simp), kept]
      · have other : token head ≠ token item :=
          fun same => distinct.1 (List.mem_map.mpr ⟨item, behind, same.symm⟩)
        rw [List.filter_cons_of_pos (by simpa using other)]
        exact ((ih behind distinct.2).cons head).trans (List.Perm.swap item head _)

theorem taken_out {α : Type} (token : α → Nat) (items : List α) (item : α) (member : item ∈ items)
    (distinct : (items.map token).Nodup) :
    let rest := items.filter fun other => token other != token item
    items.length = rest.length + 1 ∧ ∀ number, (items.map token).count number =
      (rest.map token).count number + if token item == number then 1 else 0 := by
  intro rest
  have parts := perm_without token items item member distinct
  refine ⟨parts.length_eq, fun number => ?_⟩
  rw [List.perm_iff_count.mp (parts.map token) number, List.map_cons, List.count_cons]

theorem only_member {α : Type} (items : List α) (item : α) (member : item ∈ items)
    (most : items.length ≤ 1) : items = [item] := by
  obtain ⟨only, rfl⟩ := List.length_eq_one_iff.mp
    (Nat.le_antisymm most (List.length_pos_of_mem member))
  rw [List.mem_singleton.mp member]

theorem Activity.put_tokens (activity : Activity) (activities : List Activity) :
    (activity.put activities).map token = activities.map token := by
  rw [put, List.map_map]
  apply List.map_congr_left
  intro other _
  by_cases same : other.token = activity.token
  · rw [Function.comp_apply, if_pos same, same]
  · rw [Function.comp_apply, if_neg same]

namespace Crew

def places (crew : Crew) : List Nat :=
  crew.pool.waiting.map Ticket.token ++ crew.picked.map Ticket.token ++
    crew.cleared.map Ticket.token ++ crew.pool.working.map Activity.token ++
    crew.ended.map End.token

def answered (crew : Crew) : List End :=
  crew.ended.filter fun entry => entry.outcome.isSome

def line (crew : Crew) : List Ticket :=
  crew.begun.map Activity.ticket ++ crew.cleared ++ crew.picked ++ crew.pool.waiting

structure Staffed (size : Nat) (crew : Crew) : Prop where
  workers : crew.pool.workers = size
  busy : crew.pool.busy = crew.pool.working.length
  hands : crew.hands ≤ size

structure Attended (given : List Ticket) (crew : Crew) : Prop where
  known : ∀ ticket ∈ crew.line, ticket ∈ given
  called : crew.called = crew.begun.map fun activity => activity.ticket.assignment
  bodies : ∀ (index : Nat) (activity : Activity), crew.begun[index]? = some activity →
    activity.process = activity.ticket.callable.body
      ((crew.called.take (index + 1)).countP fun assignment =>
        assignment.reference == activity.ticket.assignment.reference)
      activity.ticket.assignment.arguments
  invoked : (crew.begun.map Activity.token).Perm
    (crew.pool.working.map Activity.token ++ crew.answered.map End.token)
  going : ∀ activity ∈ crew.pool.working, ∃ first ∈ crew.begun,
    first.ticket = activity.ticket ∧ activity.process.alone.1 = first.process.alone.1
  told : ∀ entry ∈ crew.answered, ∃ first ∈ crew.begun, first.token = entry.token ∧
    entry.outcome = some (first.process.alone.1.outcome .sync entry.time)

structure Manned (size : Nat) (given : List Ticket) (crew : Crew) : Prop where
  intact : crew.board.store.Intact
  staffed : crew.Staffed size
  placed : crew.places.Perm (given.map Ticket.token)
  attended : crew.Attended given
  inLine : size = 1 → crew.line.Sublist given

section Apart

variable (crew : Crew) (given : List Ticket) (placed : crew.places.Perm (given.map Ticket.token))
  (distinct : (given.map Ticket.token).Nodup)

include placed distinct

theorem posts_distinct : (crew.picked.map Ticket.token).Nodup ∧
    (crew.cleared.map Ticket.token).Nodup ∧ (crew.pool.working.map Activity.token).Nodup := by
  have whole : crew.places.Nodup := placed.nodup_iff.mpr distinct
  simp only [places, List.nodup_append] at whole
  exact ⟨whole.1.1.1.2.1, whole.1.1.2.1, whole.1.2.1⟩

theorem picked_without (ticket : Ticket) (member : ticket ∈ crew.picked) :
    let rest := Ticket.drop ticket.token crew.picked
    crew.picked.length = rest.length + 1 ∧
      ∀ number, (crew.picked.map Ticket.token).count number =
        (rest.map Ticket.token).count number + if ticket.token == number then 1 else 0 :=
  taken_out Ticket.token crew.picked ticket member (posts_distinct crew given placed distinct).1

theorem cleared_without (ticket : Ticket) (member : ticket ∈ crew.cleared) :
    let rest := Ticket.drop ticket.token crew.cleared
    crew.cleared.length = rest.length + 1 ∧
      ∀ number, (crew.cleared.map Ticket.token).count number =
        (rest.map Ticket.token).count number + if ticket.token == number then 1 else 0 :=
  taken_out Ticket.token crew.cleared ticket member (posts_distinct crew given placed distinct).2.1

theorem working_without (activity : Activity) (member : activity ∈ crew.pool.working) :
    let rest := Activity.drop activity.token crew.pool.working
    crew.pool.working.length = rest.length + 1 ∧
      ∀ number, (crew.pool.working.map Activity.token).count number =
        (rest.map Activity.token).count number + if activity.token == number then 1 else 0 :=
  taken_out Activity.token crew.pool.working activity member
    (posts_distinct crew given placed distinct).2.2

end Apart

section Goes

variable {now : Instant} {crew next : Crew} {tickets : List Ticket}
  (goes : Goes now crew tickets next) (size : Nat) (given : List Ticket)
  (manned : Manned size given crew) (distinct : (given.map Ticket.token).Nodup)

include goes manned distinct

theorem staffed_goes : next.Staffed size := by
  obtain ⟨workers, busy, most⟩ := manned.staffed
  simp only [hands] at most
  cases goes with
  | aside board gates intact => exact ⟨workers, busy, most⟩
  | queued ticket => exact ⟨workers, busy, most⟩
  | picked ticket waiting first free =>
      refine ⟨workers, busy, ?_⟩
      simp only [hands, workers, List.length_append, List.length_singleton] at free ⊢
      omega
  | skipped ticket member =>
      have fewer := (picked_without crew given manned.placed distinct ticket member).1
      refine ⟨workers, busy, ?_⟩
      simp only [hands]
      omega
  | cleared ticket member =>
      have fewer := (picked_without crew given manned.placed distinct ticket member).1
      refine ⟨workers, busy, ?_⟩
      simp only [hands, List.length_append, List.length_singleton]
      omega
  | refused ticket member =>
      have fewer := (cleared_without crew given manned.placed distinct ticket member).1
      refine ⟨workers, busy, ?_⟩
      simp only [hands]
      omega
  | started ticket board activity member intact own body =>
      have fewer := (cleared_without crew given manned.placed distinct ticket member).1
      refine ⟨workers, ?_, ?_⟩
      · simp only [Pool.employ, List.length_append, List.length_singleton, busy]
      · simp only [hands, Pool.employ, List.length_append, List.length_singleton]
        omega
  | resumed activity gates process wait member same =>
      refine ⟨workers, ?_, ?_⟩
      · simp only [Pool.update, Activity.put, List.length_map, busy]
      · simp only [hands, Pool.update, Activity.put, List.length_map]
        exact most
  | finished activity board gates member intact =>
      have fewer := (working_without crew given manned.placed distinct activity member).1
      refine ⟨workers, ?_, ?_⟩
      · simp only [Pool.discharge]
        omega
      · simp only [hands, Pool.discharge]
        omega

-- Counted for one token at a time.
theorem placed_goes : next.places.Perm ((given ++ tickets).map Ticket.token) := by
  rw [List.perm_iff_count]
  intro token
  have before := List.perm_iff_count.mp manned.placed token
  simp only [places, List.map_append, List.count_append] at before ⊢
  cases goes with
  | aside board gates intact => simpa using before
  | queued ticket =>
      simp only [Pool.add, List.map_append, List.count_append]
      omega
  | picked ticket waiting first free =>
      simp only [first, List.map_append, List.map_cons, List.map_nil, List.count_append,
        List.count_cons] at before ⊢
      omega
  | skipped ticket member =>
      have counts := (picked_without crew given manned.placed distinct ticket member).2 token
      simp only [List.map_append, List.map_cons, List.map_nil, List.count_append, List.count_cons]
      omega
  | cleared ticket member =>
      have counts := (picked_without crew given manned.placed distinct ticket member).2 token
      simp only [List.map_append, List.map_cons, List.map_nil, List.count_append, List.count_cons]
      omega
  | refused ticket member =>
      have counts := (cleared_without crew given manned.placed distinct ticket member).2 token
      simp only [List.map_append, List.map_cons, List.map_nil, List.count_append, List.count_cons]
      omega
  | started ticket board activity member intact own body =>
      have counts := (cleared_without crew given manned.placed distinct ticket member).2 token
      simp only [Pool.employ, Activity.token, own, List.map_append, List.map_cons, List.map_nil,
        List.count_append, List.count_cons]
      omega
  | resumed activity gates process wait member same =>
      simp only [Pool.update, Activity.put_tokens, List.map_nil, List.count_nil]
      omega
  | finished activity board gates member intact =>
      have counts := (working_without crew given manned.placed distinct activity member).2 token
      simp only [Pool.discharge, List.map_append, List.map_cons, List.map_nil,
        List.count_append, List.count_cons]
      omega

end Goes

section Attended

variable {crew next : Crew} {given wider : List Ticket}

theorem attended_same (attended : crew.Attended given) (known : ∀ ticket ∈ next.line, ticket ∈ wider)
    (called : next.called = crew.called) (begun : next.begun = crew.begun)
    (working : next.pool.working = crew.pool.working) (answered : next.answered = crew.answered) :
    next.Attended wider := by
  obtain ⟨_, names, bodies, invoked, going, told⟩ := attended
  refine ⟨known, ?_, ?_, ?_, ?_, ?_⟩
  · rw [called, begun, names]
  · rw [begun, called]
    exact bodies
  · rw [begun, working, answered]
    exact invoked
  · rw [begun, working]
    exact going
  · rw [begun, answered]
    exact told

theorem answered_skip (token : Nat) (now : Instant)
    (ended : next.ended = crew.ended ++ [⟨token, none, now⟩]) : next.answered = crew.answered := by
  rw [answered, ended, List.filter_append]
  exact List.append_nil _

theorem answered_end (token : Nat) (outcome : Outcome) (now : Instant)
    (ended : next.ended = crew.ended ++ [⟨token, some outcome, now⟩]) :
    next.answered = crew.answered ++ [⟨token, some outcome, now⟩] := by
  rw [answered, ended, List.filter_append]
  rfl

theorem attended_started (attended : crew.Attended given) (activity : Activity)
    (known : ∀ ticket ∈ next.line, ticket ∈ given)
    (called : next.called = crew.called ++ [activity.ticket.assignment])
    (begun : next.begun = crew.begun ++ [activity])
    (working : next.pool.working = crew.pool.working ++ [activity])
    (answered : next.answered = crew.answered)
    (body : activity.process = activity.ticket.callable.body
      (next.called.countP fun assignment =>
        assignment.reference == activity.ticket.assignment.reference)
      activity.ticket.assignment.arguments) : next.Attended given := by
  obtain ⟨_, names, bodies, invoked, going, told⟩ := attended
  have length : crew.called.length = crew.begun.length := by rw [names, List.length_map]
  have earlier : ∀ first ∈ crew.begun, first ∈ next.begun := by
    intro first member
    rw [begun]
    exact List.mem_append_left _ member
  refine ⟨known, ?_, ?_, ?_, ?_, ?_⟩
  · rw [called, begun, names, List.map_append]
    rfl
  · intro index other found
    rw [begun, List.getElem?_append] at found
    split at found
    · rename_i inside
      rw [called, List.take_append_of_le_length (by omega)]
      exact bodies index other found
    · obtain ⟨last, rfl⟩ := List.getElem?_eq_some_iff.mp found
      rw [List.length_singleton] at last
      rw [List.getElem_singleton, body, List.take_of_length_le]
      rw [called, List.length_append, List.length_singleton]
      omega
  · rw [begun, working, answered, List.map_append, List.map_append]
    exact (invoked.append_right _).trans (by
      rw [List.append_assoc, List.append_assoc]
      exact List.perm_append_comm.append_left _)
  · rw [working]
    intro other member
    rcases List.mem_append.mp member with before | last
    · obtain ⟨first, member, same⟩ := going other before
      exact ⟨first, earlier first member, same⟩
    · rw [List.mem_singleton.mp last, begun]
      exact ⟨activity, by simp, rfl, rfl⟩
  · rw [answered]
    intro entry member
    obtain ⟨first, member, same⟩ := told entry member
    exact ⟨first, earlier first member, same⟩

theorem attended_resumed (attended : crew.Attended given) (activity later : Activity)
    (member : activity ∈ crew.pool.working) (ticket : later.ticket = activity.ticket)
    (same : later.process.alone.1 = activity.process.alone.1)
    (known : ∀ ticket ∈ next.line, ticket ∈ given) (called : next.called = crew.called)
    (begun : next.begun = crew.begun) (working : next.pool.working = later.put crew.pool.working)
    (answered : next.answered = crew.answered) : next.Attended given := by
  obtain ⟨_, names, bodies, invoked, going, told⟩ := attended
  refine ⟨known, ?_, ?_, ?_, ?_, ?_⟩
  · rw [called, begun, names]
  · rw [begun, called]
    exact bodies
  · rw [begun, working, answered, Activity.put_tokens]
    exact invoked
  · rw [begun, working]
    intro other present
    obtain ⟨before, earlier, changed⟩ := List.mem_map.mp present
    by_cases replaced : before.token = later.token
    · rw [if_pos replaced] at changed
      obtain ⟨first, begins, own, ends⟩ := going activity member
      exact ⟨first, begins, changed ▸ own.trans ticket.symm, changed ▸ same.trans ends⟩
    · rw [if_neg replaced] at changed
      exact changed ▸ going before earlier
  · rw [begun, answered]
    exact told

theorem attended_finished (attended : crew.Attended given) (activity : Activity) (now : Instant)
    (member : activity ∈ crew.pool.working)
    (counts : ∀ number, (crew.pool.working.map Activity.token).count number =
      (next.pool.working.map Activity.token).count number +
        if activity.token == number then 1 else 0)
    (known : ∀ ticket ∈ next.line, ticket ∈ given) (called : next.called = crew.called)
    (begun : next.begun = crew.begun)
    (working : next.pool.working = Activity.drop activity.token crew.pool.working)
    (answered : next.answered = crew.answered ++
      [⟨activity.token, some (activity.process.alone.1.outcome .sync now), now⟩]) :
    next.Attended given := by
  obtain ⟨_, names, bodies, invoked, going, told⟩ := attended
  refine ⟨known, ?_, ?_, ?_, ?_, ?_⟩
  · rw [called, begun, names]
  · rw [begun, called]
    exact bodies
  · rw [List.perm_iff_count]
    intro token
    have before := List.perm_iff_count.mp invoked token
    have apart := counts token
    rw [begun, answered]
    simp only [List.map_append, List.map_cons, List.map_nil, List.count_append, List.count_cons,
      List.count_nil] at before ⊢
    omega
  · rw [begun, working]
    exact fun other present => going other (List.mem_filter.mp present).1
  · rw [begun, answered]
    intro entry present
    rcases List.mem_append.mp present with before | last
    · exact told entry before
    · rw [List.mem_singleton.mp last]
      obtain ⟨first, begins, own, ends⟩ := going activity member
      exact ⟨first, begins, congrArg Ticket.token own, by rw [ends]⟩

end Attended

section Run

variable {now : Instant} {crew next : Crew} {tickets : List Ticket}
  (goes : Goes now crew tickets next) (size : Nat) (given : List Ticket)
  (manned : Manned size given crew)

include goes manned

omit manned in
theorem line_origin (ticket : Ticket) (member : ticket ∈ next.line) :
    ticket ∈ crew.line ∨ ticket ∈ tickets := by
  simp only [line, List.mem_append] at member ⊢
  cases goes with
  | aside board gates intact => exact .inl member
  | queued other =>
      rw [Pool.add, List.mem_append, ← or_assoc] at member
      exact member
  | picked other waiting first free =>
      simp only [first, List.mem_append, List.mem_cons, List.not_mem_nil] at member ⊢
      tauto
  | skipped other own =>
      rw [Ticket.drop, List.mem_filter] at member
      tauto
  | cleared other own => 
      simp only [Ticket.drop, List.mem_append, List.mem_filter, List.mem_singleton] at member
      grind
  | refused other own =>
      rw [Ticket.drop, List.mem_filter] at member
      tauto
  | started other board activity own intact same body =>
      simp only [Ticket.drop, Pool.employ, List.map_append, List.map_cons, List.map_nil,
        List.mem_append, List.mem_filter, List.mem_singleton] at member
      grind
  | resumed activity gates process wait own same => exact .inl member
  | finished activity board gates own intact => exact .inl member

theorem attended_goes (distinct : (given.map Ticket.token).Nodup) :
    next.Attended (given ++ tickets) := by
  have attended := manned.attended
  have known : ∀ ticket ∈ next.line, ticket ∈ given ++ tickets := by
    intro ticket member
    rw [List.mem_append]
    exact (line_origin goes ticket member).imp_left (attended.known ticket)
  cases goes with
  | aside board gates intact => exact attended_same attended known rfl rfl rfl rfl
  | queued ticket => exact attended_same attended known rfl rfl rfl rfl
  | picked ticket waiting first free => exact attended_same attended known rfl rfl rfl rfl
  | skipped ticket member =>
      exact attended_same attended known rfl rfl rfl (answered_skip ticket.token now rfl)
  | cleared ticket member => exact attended_same attended known rfl rfl rfl rfl
  | refused ticket member =>
      exact attended_same attended known rfl rfl rfl (answered_skip ticket.token now rfl)
  | started ticket board activity member intact own body =>
      obtain rfl := own
      rw [List.append_nil] at known ⊢
      exact attended_started attended activity known rfl rfl rfl rfl body
  | resumed activity gates process wait member same =>
      rw [List.append_nil] at known ⊢
      exact attended_resumed attended activity { activity with process := process, wait := wait }
        member rfl same known rfl rfl rfl rfl
  | finished activity board gates member intact =>
      have counts := (working_without crew given manned.placed distinct activity member).2
      rw [List.append_nil] at known ⊢
      exact attended_finished attended activity now member counts known rfl rfl rfl
        (answered_end activity.token _ now rfl)

-- One worker has one ticket at most, so that nobody comes before it.
theorem line_goes (distinct : (given.map Ticket.token).Nodup) (single : size = 1) :
    next.line.Sublist (given ++ tickets) := by
  have inLine := manned.inLine single
  have most := manned.staffed.hands
  simp only [line, hands, single] at inLine most ⊢
  cases goes with
  | aside board gates intact => exact inLine.trans (List.sublist_append_left _ _)
  | queued ticket =>
      rw [Pool.add, ← List.append_assoc]
      exact inLine.append_right _
  | picked ticket waiting first free =>
      rw [first] at inLine
      rw [List.append_nil, ← List.append_assoc, List.append_assoc _ [ticket]]
      exact inLine
  | skipped ticket member =>
      rw [List.append_nil]
      exact ((List.filter_sublist.append_left _).append_right _).trans inLine
  | cleared ticket member =>
      have alone := only_member crew.picked ticket member (by omega)
      have fewer := (picked_without crew given manned.placed distinct ticket member).1
      have gone : Ticket.drop ticket.token crew.picked = [] :=
        List.length_eq_zero_iff.mp (by omega)
      rw [alone] at inLine
      rw [gone, List.append_nil, List.append_nil, ← List.append_assoc]
      exact inLine
  | refused ticket member =>
      rw [List.append_nil]
      exact (((List.filter_sublist.append_left _).append_right _).append_right _).trans inLine
  | started ticket board activity member intact own body =>
      have alone := only_member crew.cleared ticket member (by omega)
      have fewer := (cleared_without crew given manned.placed distinct ticket member).1
      have gone : Ticket.drop ticket.token crew.cleared = [] :=
        List.length_eq_zero_iff.mp (by omega)
      rw [alone] at inLine
      rw [gone, List.append_nil, List.append_nil, List.map_append, List.map_singleton, own]
      exact inLine
  | resumed activity gates process wait member same =>
      exact inLine.trans (List.sublist_append_left _ _)
  | finished activity board gates member intact =>
      exact inLine.trans (List.sublist_append_left _ _)

theorem manned_goes (distinct : (given.map Ticket.token).Nodup) :
    Manned size (given ++ tickets) next :=
  ⟨goes_intact goes manned.intact, staffed_goes goes size given manned distinct,
    placed_goes goes size given manned distinct, attended_goes goes size given manned distinct,
    line_goes goes size given manned distinct⟩

end Run

theorem manned_start (room size cores : Nat) (positive : 0 < size) :
    Manned size [] (ofBoard (Board.empty room) size cores) := by
  have workers : (Pool.ofSize size cores).workers = size := if_neg (by omega)
  refine ⟨(Board.balanced_empty room).intact, ⟨workers, rfl, Nat.zero_le _⟩, .refl _, ?_, ?_⟩
  · refine ⟨?_, rfl, ?_, .refl _, ?_, ?_⟩
    · exact fun ticket member => member
    · exact fun index activity found => by cases found
    · exact fun activity member => by cases member
    · exact fun entry member => by cases member
  · exact fun _ => .refl _

-- By induction on what is still to come; tickets that come later bear other tokens.
theorem run_manned (history : List (Instant × Beat)) (size : Nat) (given : List Ticket) (crew : Crew)
    (manned : Manned size given crew)
    (distinct : ((given ++ queued history).map Ticket.token).Nodup) :
    Manned size (given ++ queued history) (crew.run history) := by
  induction history generalizing given crew with
  | nil =>
      rw [queued, List.flatMap_nil, List.append_nil]
      exact manned
  | cons entry rest ih =>
      have parts : given ++ queued (entry :: rest) =
          (given ++ entry.2.tickets) ++ queued rest := by
        rw [queued, List.flatMap_cons, List.append_assoc]
        rfl
      have earlier : (given.map Ticket.token).Nodup := by
        rw [List.map_append, List.nodup_append] at distinct
        exact distinct.1
      have goes := goes_perform crew entry.1 manned.intact entry.2
      rw [parts] at distinct ⊢
      exact ih _ _ (manned_goes goes size given manned earlier) distinct

end Crew

end Foreman
