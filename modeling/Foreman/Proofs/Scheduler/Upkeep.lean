import Foreman.Proofs.Board.Sweep
import Foreman.Proofs.Scheduler.Acts
import Foreman.Proofs.Workshop.Bodies

set_option autoImplicit false

namespace Foreman

def Board.Active (board : Board) (id : TaskId) : Prop :=
  ∃ record, board.store.find? id = some record ∧ record.state.isTerminal = false

namespace Scheduler

structure Flows (scheduler : Scheduler) : Prop where
  registry : ∀ reference callable, scheduler.registry.resolve reference = .ok callable →
    callable.Flows
  cache : ∀ reference callable, scheduler.cache.find? reference = some callable → callable.Flows
  queued : ∀ ticket ∈ scheduler.queued, ticket.callable.Flows
  shop : scheduler.shop.Flows

def Told (scheduler : Scheduler) (watch : Watch) : Prop :=
  watch.ticket.token ∈ scheduler.board.tokens.cancelled

structure Minded (scheduler : Scheduler) : Prop where
  watched : ∀ watch ∈ scheduler.watches,
    scheduler.Told watch ∨ scheduler.board.Active watch.ticket.id
  closing : scheduler.phase = .closing → ∀ watch ∈ scheduler.watches, scheduler.Told watch
  cancelling : .shutdown .wait ∉ scheduler.inbox

section Acts

variable (scheduler next : Scheduler) (now : Instant)

theorem queued_first (ticket : Ticket) (rest : List Command)
    (inbox : scheduler.inbox = .dispatch ticket :: rest) :
    scheduler.queued = ticket :: queued { scheduler with inbox := rest } := by
  rw [queued, inbox]
  rfl

theorem act_bears (act : scheduler.Act now next) (token : Nat) :
    next.bears token ≤ scheduler.bears token := by
  cases act with
  | dropped ticket rest inbox =>
      have first := Ticket.bearers_cons token ticket (queued { scheduler with inbox := rest })
      simp only [bears, queued_first scheduler ticket rest inbox, first]
      omega
  | dispatched ticket rest record inbox found waits on =>
      have first := Ticket.bearers_cons token ticket (queued { scheduler with inbox := rest })
      have handed := Workshop.bears_hand scheduler.shop token ticket
      have same : bears { scheduler with
          inbox := rest
          shop := scheduler.shop.hand ticket
          watches := scheduler.watches ++ [Watch.begin ticket now] } token =
          Ticket.bearers token (queued { scheduler with inbox := rest }) +
            (scheduler.shop.hand ticket).bears token := rfl
      rw [same, bears, queued_first scheduler ticket rest inbox, first]
      omega
  | swept reason rest inbox => exact Nat.add_le_add_right (Nat.zero_le _) _
  | ended watch board member others => exact Nat.le_refl _
  | closed event closing =>
      refine Nat.add_le_add_left ?_ _
      exact Nat.add_le_add (Nat.add_le_add_left (Nat.zero_le _) _) (Nat.zero_le _)
  | worked deed lightens =>
      exact Nat.add_le_add_left (Workshop.bears_perform scheduler.shop now token deed) _

theorem act_keeps (act : scheduler.Act now next) (token : Nat) :
    next.keeps token ≤ scheduler.keeps token := by
  cases act with
  | dropped ticket rest inbox =>
      have first := Ticket.bearers_cons token ticket (queued { scheduler with inbox := rest })
      have same : keeps { scheduler with inbox := rest } token =
          Ticket.bearers token (queued { scheduler with inbox := rest }) +
            Ticket.bearers token scheduler.watched := rfl
      rw [same, keeps, queued_first scheduler ticket rest inbox, first]
      omega
  | dispatched ticket rest record inbox found waits on =>
      have first := Ticket.bearers_cons token ticket (queued { scheduler with inbox := rest })
      have watched : (scheduler.watches ++ [Watch.begin ticket now]).map Watch.ticket =
          scheduler.watched ++ [ticket] := List.map_append
      have last := Ticket.bearers_append token scheduler.watched [ticket]
      have same : keeps { scheduler with
          inbox := rest
          shop := scheduler.shop.hand ticket
          watches := scheduler.watches ++ [Watch.begin ticket now] } token =
          Ticket.bearers token (queued { scheduler with inbox := rest }) +
            Ticket.bearers token (scheduler.watched ++ [ticket]) := by
        rw [← watched]
        rfl
      rw [same, keeps, queued_first scheduler ticket rest inbox, first, last]
      omega
  | swept reason rest inbox => exact Nat.add_le_add_right (Nat.zero_le _) _
  | ended watch board member others =>
      refine Nat.add_le_add_left ?_ _
      exact ((List.filter_sublist).map Watch.ticket).countP_le
  | closed event closing => exact Nat.le_refl _
  | worked deed lightens => exact Nat.le_refl _

theorem apart_fewer (apart : scheduler.Apart)
    (fresh : scheduler.board.tokens.fresh ≤ next.board.tokens.fresh)
    (borne : ∀ token, next.bears token ≤ scheduler.bears token)
    (kept : ∀ token, next.keeps token ≤ scheduler.keeps token) : next.Apart := by
  refine ⟨fun token => Nat.le_trans (borne token) (apart.borne token),
    fun token => Nat.le_trans (kept token) (apart.kept token), fun token new => ?_⟩
  obtain ⟨unborne, unkept⟩ := apart.unborne token (Nat.le_trans fresh new)
  exact ⟨Nat.le_zero.mp (unborne ▸ borne token), Nat.le_zero.mp (unkept ▸ kept token)⟩

theorem act_flows (act : scheduler.Act now next) (flows : scheduler.Flows) : next.Flows := by
  have aside (board : Board) : ({ scheduler.shop with board := board } : Workshop).Flows :=
    Workshop.flows_same scheduler.shop _ flows.shop rfl rfl
  cases act with
  | dropped ticket rest inbox =>
      refine ⟨flows.registry, flows.cache, fun other member => flows.queued other ?_, flows.shop⟩
      rw [queued_first scheduler ticket rest inbox]
      exact List.mem_cons_of_mem _ member
  | dispatched ticket rest record inbox found waits on =>
      have queue := queued_first scheduler ticket rest inbox
      refine ⟨flows.registry, flows.cache, fun other member => flows.queued other ?_, ?_⟩
      · rw [queue]
        exact List.mem_cons_of_mem _ member
      · refine Workshop.flows_hand scheduler.shop flows.shop ticket (flows.queued ticket ?_)
        rw [queue]
        exact List.mem_cons_self
  | swept reason rest inbox =>
      exact ⟨flows.registry, flows.cache, fun ticket member => (by cases member), aside _⟩
  | ended watch board member others => exact ⟨flows.registry, flows.cache, flows.queued, aside _⟩
  | closed event closing =>
      exact ⟨flows.registry, flows.cache, flows.queued,
        fun ticket member => (by cases member), fun activity member => (by cases member)⟩
  | worked deed lightens =>
      exact ⟨flows.registry, flows.cache, flows.queued,
        Workshop.flows_perform scheduler.shop now flows.shop deed⟩

theorem act_open (act : scheduler.Act now next) : next.isOpen = scheduler.isOpen := by
  cases act <;> rfl

theorem deed_active (deed : Deed) (intact : scheduler.board.store.Intact) (id : TaskId)
    (active : scheduler.board.Active id) : (scheduler.performDeed now deed).board.Active id := by
  obtain ⟨record, found, unended⟩ := active
  cases Workshop.begins_perform scheduler.shop now intact deed with
  | rests store called => exact ⟨record, (congrArg (Store.find? · id) store).trans found, unended⟩
  | begins ticket waiting given stored waits store called =>
      have after := congrArg (Store.find? · id) store
      have has := Store.find_has_id _ _ waiting stored
      let later := waiting.moved .running none now
      by_cases same : id = later.id
      · have moved := Store.find_update_same scheduler.board.store later waiting (has ▸ stored)
        exact ⟨later, after.trans (same ▸ moved), rfl⟩
      · exact ⟨record, after.trans ((Store.find_update_other _ later id same).trans found), unended⟩

variable (hand : List Ticket) (issued : List (TaskId × Nat)) (used : List TaskId)
  (sound : (scheduler.desk hand issued used).Sound)

include sound

theorem watch_held (watch : Watch) (member : watch ∈ scheduler.watches)
    (active : scheduler.board.Active watch.ticket.id) :
    watch.ticket.stamp ∈ scheduler.board.tokens.held := by
  obtain ⟨token, held⟩ :=
    (Board.held_iff scheduler.board sound.balanced watch.ticket.id).mpr active
  have stamped := sound.stamped watch.ticket (.inr (.inl (List.mem_map_of_mem member)))
  have same : (watch.ticket.id, token) = watch.ticket.stamp :=
    List.inj_on_of_nodup_map sound.oneId (sound.table _ held) stamped rfl
  exact same ▸ held

theorem watches_named (watch other : Watch) (member : watch ∈ scheduler.watches)
    (present : other ∈ scheduler.watches) (same : watch.ticket.id = other.ticket.id) :
    watch.ticket.token = other.ticket.token := by
  have stamped (watch : Watch) (member : watch ∈ scheduler.watches) :=
    sound.stamped watch.ticket (.inr (.inl (List.mem_map_of_mem member)))
  exact congrArg Prod.snd
    (List.inj_on_of_nodup_map sound.oneId (stamped watch member) (stamped other present) same)

theorem act_minded (act : scheduler.Act now next) (minded : scheduler.Minded)
    (told : ∀ token ∈ scheduler.board.tokens.cancelled, token ∈ next.board.tokens.cancelled) :
    next.Minded := by
  have balanced : scheduler.board.Balanced := sound.balanced
  have kept (watch : Watch) (before : scheduler.Told watch) : next.Told watch := told _ before
  cases act with
  | dropped ticket rest inbox =>
      refine ⟨minded.watched, minded.closing, fun member => minded.cancelling ?_⟩
      rw [inbox]
      exact List.mem_cons_of_mem _ member
  | dispatched ticket rest record inbox found waits on =>
      have board : (scheduler.shop.hand ticket).board = scheduler.board :=
        Workshop.hand_board scheduler.shop ticket
      have own : (scheduler.shop.hand ticket).board.Active ticket.id :=
        board ▸ ⟨record, found, by rw [waits]; rfl⟩
      refine ⟨fun watch member => ?_, fun closing watch member => ?_, fun member =>
        minded.cancelling ?_⟩
      · rcases List.mem_append.mp member with before | last
        · rcases minded.watched watch before with cancelled | active
          · exact .inl (told _ cancelled)
          · exact .inr (show (scheduler.shop.hand ticket).board.Active _ from board.symm ▸ active)
        · rw [List.mem_singleton.mp last]
          exact .inr own
      · rw [on] at closing
        cases closing
      · rw [inbox]
        exact List.mem_cons_of_mem _ member
  | swept reason rest inbox =>
      have all (watch : Watch) (member : watch ∈ scheduler.watches) :
          watch.ticket.token ∈ (scheduler.board.cancelAll reason now).1.tokens.cancelled := by
        rcases minded.watched watch member with before | active
        · exact told _ before
        · exact Board.cancel_all_tells reason now scheduler.board balanced watch.ticket.stamp
            (watch_held scheduler hand issued used sound watch member active)
      exact ⟨fun watch member => .inl (all watch member), fun _ => all, fun member => by cases member⟩
  | ended watch board member others =>
      refine ⟨fun other left => ?_, fun closing other left => ?_, minded.cancelling⟩
      · obtain ⟨present, different⟩ := List.mem_filter.mp left
        rcases minded.watched other present with before | active
        · exact .inl (told _ before)
        · refine .inr ?_
          have apart : other.ticket.id ≠ watch.ticket.id := fun same => by
            have one := watches_named scheduler hand issued used sound other watch present member same
            simp [one] at different
          obtain ⟨record, found, unended⟩ := active
          exact ⟨record, (others other.ticket.id apart).trans found, unended⟩
      · exact told _ (minded.closing closing other (List.mem_filter.mp left).1)
  | closed event closing =>
      exact ⟨fun watch member => .inl (minded.closing closing watch member),
        fun closing => (by cases closing), minded.cancelling⟩
  | worked deed lightens =>
      refine ⟨fun watch member => ?_, fun closing watch member => kept watch
        (minded.closing closing watch member), minded.cancelling⟩
      rcases minded.watched watch member with before | active
      · exact .inl (told _ before)
      · exact .inr (deed_active scheduler now deed balanced.intact watch.ticket.id active)

end Acts

end Scheduler

end Foreman
