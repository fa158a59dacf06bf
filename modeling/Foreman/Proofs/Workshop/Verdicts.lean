import Foreman.Proofs.Workshop.Posts

set_option autoImplicit false

namespace Foreman

def Board.Pends (board : Board) (id : TaskId) : Prop :=
  ∃ record, board.store.find? id = some record ∧ record.state = .pending

namespace Crew

def Seen (holds : Crew → Instant → Beat → Prop) (crew : Crew) : List (Instant × Beat) → Prop
  | [] => False
  | entry :: rest => holds crew entry.1 entry.2 ∨ Seen holds (crew.perform entry.1 entry.2) rest

-- A worker that has the ticket finds its token cancelled, or its record in another state.
def Skips (crew : Crew) (token : Nat) : Beat → Prop
  | .check other => other = token ∧ ∃ ticket, Ticket.find? other crew.picked = some ticket ∧
      crew.board.tokens.isCancelled other = true
  | .mark other => other = token ∧ ∃ ticket, Ticket.find? other crew.cleared = some ticket ∧
      ¬ crew.board.Pends ticket.id
  | _ => False

def Clears (crew : Crew) (token : Nat) : Beat → Prop
  | .check other => other = token ∧ ∃ ticket, Ticket.find? other crew.picked = some ticket ∧
      ¬ crew.board.tokens.isCancelled other = true
  | _ => False

def Accepts (crew : Crew) (token : Nat) : Beat → Prop
  | .mark other => other = token ∧ ∃ ticket, Ticket.find? other crew.cleared = some ticket ∧
      crew.board.Pends ticket.id
  | _ => False

section Seen

variable (holds : Crew → Instant → Beat → Prop) (marked : Crew → Prop)

theorem run_seen
    (step : ∀ crew : Crew, crew.board.store.Intact → ∀ now beat,
      marked (crew.perform now beat) → marked crew ∨ holds crew now beat)
    (history : List (Instant × Beat)) (crew : Crew) (intact : crew.board.store.Intact)
    (reached : marked (crew.run history)) : marked crew ∨ Seen holds crew history := by
  induction history generalizing crew with
  | nil => exact .inl reached
  | cons entry rest ih =>
      have after := goes_intact (goes_perform crew entry.1 intact entry.2) intact
      rcases ih (crew.perform entry.1 entry.2) after reached with before | later
      · exact (step crew intact entry.1 entry.2 before).imp_right .inl
      · exact .inr (.inr later)

theorem run_seen_iff
    (step : ∀ crew : Crew, crew.board.store.Intact → ∀ now beat,
      marked (crew.perform now beat) ↔ marked crew ∨ holds crew now beat)
    (history : List (Instant × Beat)) (crew : Crew) (intact : crew.board.store.Intact) :
    marked (crew.run history) ↔ marked crew ∨ Seen holds crew history := by
  induction history generalizing crew with
  | nil => exact (or_iff_left id).symm
  | cons entry rest ih =>
      have after := goes_intact (goes_perform crew entry.1 intact entry.2) intact
      have later := ih (crew.perform entry.1 entry.2) after
      rw [step crew intact entry.1 entry.2, or_assoc] at later
      exact later

end Seen

section Beats

variable (crew : Crew) (intact : crew.board.store.Intact) (now : Instant) (token : Nat)

theorem pick_kept : crew.pick.cleared = crew.cleared ∧ crew.pick.begun = crew.begun ∧
    crew.pick.ended = crew.ended := by
  unfold pick
  split
  · exact ⟨rfl, rfl, rfl⟩
  · split
    · exact ⟨rfl, rfl, rfl⟩
    · exact ⟨rfl, rfl, rfl⟩

theorem work_kept : (crew.work token now).cleared = crew.cleared ∧
    (crew.work token now).begun = crew.begun ∧
    ∀ other time, ⟨other, none, time⟩ ∈ (crew.work token now).ended ↔
      (⟨other, none, time⟩ : End) ∈ crew.ended := by
  refine ⟨rfl, rfl, fun other time => ?_⟩
  cases found : Activity.find? token crew.pool.working with
  | none => rw [work_absent crew now token found]
  | some activity =>
      obtain ⟨_, named⟩ := Workshop.find_activity token crew.pool.working activity found
      obtain rfl : activity.token = token := named
      cases resumed : activity.resume crew.gates now with
      | none => rw [work_blocked crew now activity found resumed]
      | some result =>
          obtain ⟨gates, turn⟩ := result
          cases turn with
          | ended ending =>
              rw [work_ended crew now activity gates found ending resumed, List.mem_append,
                List.mem_singleton]
              simp
          | waits process wait => rw [work_waits crew now activity gates found process wait resumed]

theorem skip_listed (ended : List End) (other : Nat) (time : Instant) :
    (⟨token, none, time⟩ : End) ∈ ended ++ [⟨other, none, now⟩] ↔
      (⟨token, none, time⟩ : End) ∈ ended ∨ now = time ∧ other = token := by
  rw [List.mem_append, List.mem_singleton, End.mk.injEq]
  constructor
  · rintro (before | ⟨rfl, _, rfl⟩)
    · exact .inl before
    · exact .inr ⟨rfl, rfl⟩
  · rintro (before | ⟨rfl, rfl⟩)
    · exact .inl before
    · exact .inr ⟨rfl, rfl, rfl⟩

include intact

theorem mark_ways (other : Nat) (ticket : Ticket)
    (found : Ticket.find? other crew.cleared = some ticket) :
    (crew.board.Pends ticket.id ∧ ∃ board, crew.mark other now =
        start { crew with board := board, cleared := Ticket.drop other crew.cleared } ticket) ∨
      ¬ crew.board.Pends ticket.id ∧ crew.mark other now =
        { crew with
          cleared := Ticket.drop other crew.cleared
          ended := crew.ended ++ [⟨other, none, now⟩] } := by
  rcases Board.mark_running_cases crew.board now intact ticket.assignment with
    ⟨record, stored, waits, won⟩ | ⟨refused, lost⟩
  · exact .inl ⟨⟨record, stored, waits⟩, _, mark_won crew now other ticket _ found won⟩
  · refine .inr ⟨?_, mark_lost crew now other ticket found lost⟩
    rintro ⟨record, stored, waits⟩
    exact refused record stored waits

theorem skip_step (time : Instant) (beat : Beat) :
    (⟨token, none, time⟩ : End) ∈ (crew.perform now beat).ended ↔
      (⟨token, none, time⟩ : End) ∈ crew.ended ∨ now = time ∧ crew.Skips token beat := by
  cases beat with
  | check other =>
      cases found : Ticket.find? other crew.picked with
      | none => simp [perform, check, Skips, found]
      | some ticket =>
          by_cases cancelled : crew.board.tokens.isCancelled other = true
          · rw [perform, check_cancelled crew now other ticket found cancelled, skip_listed]
            simp [Skips, found, cancelled]
          · rw [perform, check_clear crew now other ticket found cancelled]
            simp [Skips, cancelled]
  | mark other =>
      cases found : Ticket.find? other crew.cleared with
      | none => simp [perform, mark, Skips, found]
      | some ticket =>
          rcases mark_ways crew intact now other ticket found with
            ⟨pends, board, same⟩ | ⟨lost, same⟩
          · rw [perform, same, Skips]
            simp [found, pends, start, within, Workshop.showBusy, Workshop.setPool, Workshop.call, shop]
          · rw [perform, same, skip_listed]
            simp [Skips, found, lost]
  | pick => 
      simp only [perform, (pick_kept crew).2.2, Skips, and_false, or_false]
  | work other =>
      simp only [perform, (work_kept crew now other).2.2, Skips, and_false, or_false]
  | queue ticket | call call | permit gate count => simp only [perform, Skips, and_false, or_false]

theorem accept_step (beat : Beat) :
    token ∈ (crew.perform now beat).begun.map Activity.token ↔
      token ∈ crew.begun.map Activity.token ∨ crew.Accepts token beat := by
  cases beat with
  | mark other =>
      cases found : Ticket.find? other crew.cleared with
      | none => simp [perform, mark, Accepts, found]
      | some ticket =>
          obtain ⟨_, named⟩ := Ticket.find_ticket other crew.cleared ticket found
          rcases mark_ways crew intact now other ticket found with
            ⟨pends, board, same⟩ | ⟨lost, same⟩
          · have begun : (crew.perform now (.mark other)).begun.map Activity.token =
                crew.begun.map Activity.token ++ [other] := by
              rw [perform, same, ← named]
              exact List.map_append
            rw [begun, List.mem_append, List.mem_singleton, Accepts]
            simp [found, pends, eq_comm]
          · rw [perform, same]
            simp [Accepts, found, lost]
  | check other =>
      cases found : Ticket.find? other crew.picked with
      | none => simp [perform, check, Accepts, found]
      | some ticket =>
          by_cases cancelled : crew.board.tokens.isCancelled other = true
          · rw [perform, check_cancelled crew now other ticket found cancelled]
            exact (or_false _).symm.to_iff
          · rw [perform, check_clear crew now other ticket found cancelled]
            exact (or_false _).symm.to_iff
  | pick => simp only [perform, (pick_kept crew).2.1, Accepts, or_false]
  | work other => simp only [perform, (work_kept crew now other).2.1, Accepts, or_false]
  | queue ticket | call call | permit gate count => simp only [perform, Accepts, or_false]

theorem clear_step (beat : Beat) (member : token ∈ (crew.perform now beat).cleared.map Ticket.token) :
    token ∈ crew.cleared.map Ticket.token ∨ crew.Clears token beat := by
  cases beat with
  | check other =>
      cases found : Ticket.find? other crew.picked with
      | none =>
          simp only [perform, check, found] at member
          exact .inl member
      | some ticket =>
          obtain ⟨_, named⟩ := Ticket.find_ticket other crew.picked ticket found
          by_cases cancelled : crew.board.tokens.isCancelled other = true
          · rw [perform, check_cancelled crew now other ticket found cancelled] at member
            exact .inl member
          · rw [perform, check_clear crew now other ticket found cancelled, List.map_append,
              List.mem_append] at member
            refine member.imp_right fun last => ?_
            exact ⟨named.symm.trans (List.mem_singleton.mp last).symm, ticket, found, cancelled⟩
  | mark other =>
      cases found : Ticket.find? other crew.cleared with
      | none =>
          simp only [perform, mark, found] at member
          exact .inl member
      | some ticket =>
          have fewer : (crew.perform now (.mark other)).cleared = Ticket.drop other crew.cleared := by
            rcases mark_ways crew intact now other ticket found with
              ⟨_, board, same⟩ | ⟨_, same⟩
            · rw [perform, same]
              rfl
            · rw [perform, same]
          rw [fewer] at member
          exact .inl ((List.filter_sublist.map _).subset member)
  | pick =>
      rw [perform, (pick_kept crew).1] at member
      exact .inl member
  | work other => exact .inl member
  | queue ticket | call call | permit gate count => exact .inl member

end Beats

section Run

variable (history : List (Instant × Beat)) (crew : Crew) (intact : crew.board.store.Intact)
  (token : Nat)

include intact

theorem run_clears (member : token ∈ (crew.run history).cleared.map Ticket.token) :
    token ∈ crew.cleared.map Ticket.token ∨
      Seen (fun past _ beat => past.Clears token beat) crew history :=
  run_seen _ (fun crew => token ∈ crew.cleared.map Ticket.token)
    (fun crew intact now beat => clear_step crew intact now token beat) history crew intact member

theorem run_skips (time : Instant) :
    (⟨token, none, time⟩ : End) ∈ (crew.run history).ended ↔
      (⟨token, none, time⟩ : End) ∈ crew.ended ∨
        Seen (fun past now beat => now = time ∧ past.Skips token beat) crew history :=
  run_seen_iff _ (fun crew => (⟨token, none, time⟩ : End) ∈ crew.ended)
    (fun crew intact now beat => skip_step crew intact now token time beat) history crew intact

theorem run_accepts :
    token ∈ (crew.run history).begun.map Activity.token ↔
      token ∈ crew.begun.map Activity.token ∨
        Seen (fun past _ beat => past.Accepts token beat) crew history :=
  run_seen_iff _ (fun crew => token ∈ crew.begun.map Activity.token)
    (fun crew intact now beat => accept_step crew intact now token beat) history crew intact

end Run

end Crew

end Foreman
