import Foreman.Proofs.Board.Keeping
import Foreman.Proofs.Workshop.Bodies

/-!
Workers that take the tickets of their pool in three beats: a ticket is picked, its token is looked at,
and its task is marked as running. Between two beats anything may happen to the board, and any other
worker may come first. The three beats of one worker in a row are what a pool does in one deed.
-/

set_option autoImplicit false

namespace Foreman

namespace Ticket

def find? (token : Nat) (tickets : List Ticket) : Option Ticket :=
  tickets.find? fun ticket => ticket.token == token

def drop (token : Nat) (tickets : List Ticket) : List Ticket :=
  tickets.filter fun ticket => ticket.token != token

theorem find_ticket (token : Nat) (tickets : List Ticket) (ticket : Ticket)
    (found : find? token tickets = some ticket) : ticket ∈ tickets ∧ ticket.token = token :=
  ⟨List.mem_of_find?_eq_some found, by simpa using List.find?_some found⟩

end Ticket

-- Workers hold the tickets that they picked, and then those whose tokens they found uncancelled.
structure Crew where
  board : Board
  gates : Gates
  called : List Assignment
  pool : Pool
  picked : List Ticket
  cleared : List Ticket
  -- The activities as they were when their bodies were called.
  begun : List Activity
  ended : List End

inductive Beat where
  | queue (ticket : Ticket)
  | pick
  | check (token : Nat)
  | mark (token : Nat)
  | work (token : Nat)
  | call (call : Board.Call)
  | permit (gate : String) (count : Nat)

def Beat.tickets : Beat → List Ticket
  | .queue ticket => [ticket]
  | _ => []

def Turn.ending : Turn → Ending
  | .ended ending => ending
  | .waits process _ => process.alone.1

namespace Activity

-- Waiting makes no difference to the end of a body.
theorem proceed_alone (now : Instant) (process : Process) (gates : Gates) :
    (proceed now process gates).2.ending = process.alone.1 := by
  induction process generalizing gates with
  | finish ending => rfl
  | rest next ih | sleep millis next ih => rfl
  | gate name next ih | hold name next ih =>
      simp only [proceed]
      split
      · rename_i open_ _
        exact ih open_
      · rfl

theorem resume_alone (activity : Activity) (now : Instant) (gates last : Gates) (turn : Turn)
    (resumed : activity.resume gates now = some (last, turn)) :
    turn.ending = activity.process.alone.1 := by
  obtain ⟨released, _, proceeded⟩ := Option.map_eq_some_iff.mp resumed
  rw [← proceed_alone now activity.process released, proceeded]

end Activity

namespace Crew

def ofBoard (board : Board) (size cores : Nat) : Crew :=
  ⟨board, [], [], Pool.ofSize size cores, [], [], [], []⟩

def shop (crew : Crew) : Workshop :=
  ⟨crew.board, crew.gates, crew.called, [crew.pool], [], [], crew.ended⟩

def within (crew : Crew) (shop : Workshop) : Crew :=
  { crew with
    board := shop.board
    gates := shop.gates
    called := shop.called
    pool := shop.pools.headD crew.pool
    ended := shop.ended }

def hands (crew : Crew) : Nat :=
  crew.picked.length + crew.cleared.length + crew.pool.working.length

def pick (crew : Crew) : Crew :=
  match crew.pool.waiting with
  | [] => crew
  | ticket :: waiting =>
      if crew.hands < crew.pool.workers then
        { crew with
          pool := { crew.pool with waiting := waiting }
          picked := crew.picked ++ [ticket] }
      else crew

def check (crew : Crew) (token : Nat) (now : Instant) : Crew :=
  match Ticket.find? token crew.picked with
  | none => crew
  | some ticket =>
      let crew := { crew with picked := Ticket.drop token crew.picked }
      if crew.board.tokens.isCancelled token then crew.within (crew.shop.report token none now)
      else { crew with cleared := crew.cleared ++ [ticket] }

def start (crew : Crew) (ticket : Ticket) : Crew :=
  let (shop, activity) := crew.shop.call ticket
  let pool := crew.pool.employ activity
  { crew.within ((shop.setPool 0 pool).showBusy pool) with begun := crew.begun ++ [activity] }

def mark (crew : Crew) (token : Nat) (now : Instant) : Crew :=
  match Ticket.find? token crew.cleared with
  | none => crew
  | some ticket =>
      let (board, won) := crew.board.markRunning ticket.assignment now
      let crew := { crew with board := board, cleared := Ticket.drop token crew.cleared }
      if won then crew.start ticket else crew.within (crew.shop.report token none now)

def work (crew : Crew) (token : Nat) (now : Instant) : Crew :=
  crew.within (crew.shop.work 0 token now)

def perform (crew : Crew) (now : Instant) : Beat → Crew
  | .queue ticket => { crew with pool := crew.pool.add ticket }
  | .pick => crew.pick
  | .check token => crew.check token now
  | .mark token => crew.mark token now
  | .work token => crew.work token now
  | .call call => { crew with board := crew.board.perform now call }
  | .permit gate count => { crew with gates := Gates.permit gate count crew.gates }

def run (crew : Crew) (history : List (Instant × Beat)) : Crew :=
  history.foldl (fun crew entry => crew.perform entry.1 entry.2) crew

def queued (history : List (Instant × Beat)) : List Ticket :=
  history.flatMap fun entry => entry.2.tickets

section Beats

variable (crew : Crew) (now : Instant)

theorem check_cancelled (token : Nat) (ticket : Ticket)
    (found : Ticket.find? token crew.picked = some ticket)
    (cancelled : crew.board.tokens.isCancelled token = true) :
    crew.check token now =
      { crew with
        picked := Ticket.drop token crew.picked
        ended := crew.ended ++ [⟨token, none, now⟩] } := by
  simp only [check, found, if_pos cancelled]
  rfl

theorem check_clear (token : Nat) (ticket : Ticket)
    (found : Ticket.find? token crew.picked = some ticket)
    (clear : ¬ crew.board.tokens.isCancelled token = true) :
    crew.check token now =
      { crew with
        picked := Ticket.drop token crew.picked
        cleared := crew.cleared ++ [ticket] } := by
  simp only [check, found, if_neg clear]

theorem mark_won (token : Nat) (ticket : Ticket) (board : Board)
    (found : Ticket.find? token crew.cleared = some ticket)
    (won : crew.board.markRunning ticket.assignment now = (board, true)) :
    crew.mark token now =
      start { crew with board := board, cleared := Ticket.drop token crew.cleared } ticket := by
  simp only [mark, found, won]
  rfl

theorem mark_lost (token : Nat) (ticket : Ticket)
    (found : Ticket.find? token crew.cleared = some ticket)
    (lost : crew.board.markRunning ticket.assignment now = (crew.board, false)) :
    crew.mark token now =
      { crew with
        cleared := Ticket.drop token crew.cleared
        ended := crew.ended ++ [⟨token, none, now⟩] } := by
  simp only [mark, found, lost]
  rfl

theorem pick_first (ticket : Ticket) (waiting : List Ticket)
    (first : crew.pool.waiting = ticket :: waiting) (free : crew.hands < crew.pool.workers) :
    crew.pick =
      { crew with
        pool := { crew.pool with waiting := waiting }
        picked := crew.picked ++ [ticket] } := by
  simp only [pick, first, if_pos free]

theorem work_absent (token : Nat) (absent : Activity.find? token crew.pool.working = none) :
    crew.work token now = crew := by
  simp only [work, Workshop.work, shop, List.getElem?_cons_zero, absent]
  rfl

section Found

variable (activity : Activity) (gates : Gates)
  (found : Activity.find? activity.token crew.pool.working = some activity)

include found

theorem work_blocked (blocked : activity.resume crew.gates now = none) :
    crew.work activity.token now = crew := by
  simp only [work, Workshop.work, shop, List.getElem?_cons_zero, found, blocked]
  rfl

theorem work_ended (ending : Ending)
    (resumed : activity.resume crew.gates now = some (gates, .ended ending)) :
    crew.work activity.token now =
      { crew with
        board := crew.board.setUtilization (crew.pool.busy - 1) crew.pool.size
        gates := gates
        pool := crew.pool.discharge activity.token
        ended := crew.ended ++ [⟨activity.token, some (ending.outcome .sync now), now⟩] } := by
  simp only [work, Workshop.work, shop, List.getElem?_cons_zero, found, resumed]
  rfl

theorem work_waits (process : Process) (wait : Wait)
    (resumed : activity.resume crew.gates now = some (gates, .waits process wait)) :
    crew.work activity.token now =
      { crew with
        gates := gates
        pool := crew.pool.update { activity with process := process, wait := wait } } := by
  simp only [work, Workshop.work, shop, List.getElem?_cons_zero, found, resumed]
  rfl

end Found

theorem next_some (pool rest : Pool) (ticket : Ticket) (next : pool.next? = some (ticket, rest)) :
    ∃ waiting, pool.waiting = ticket :: waiting ∧ pool.working.length < pool.workers ∧
      rest = { pool with waiting := waiting } := by
  unfold Pool.next? at next
  split at next
  · cases next
  · rename_i waiting whole
    split at next
    · rename_i free
      cases next
      exact ⟨waiting, whole, by simpa [Pool.hasFreeWorker] using free, rfl⟩
    · cases next

-- Nothing comes between the beats, and no other worker has a ticket that it has not begun with.
theorem take_in_beats (picked : crew.picked = []) (cleared : crew.cleared = []) (ticket : Ticket)
    (rest : Pool) (next : crew.pool.next? = some (ticket, rest)) :
    let last := (crew.pick.check ticket.token now).mark ticket.token now
    last.shop = crew.shop.take 0 now ∧ last.picked = [] ∧ last.cleared = [] := by
  intro last
  let held : Crew := { crew with pool := rest, picked := [ticket], cleared := [] }
  have own : Ticket.find? ticket.token [ticket] = some ticket := by simp [Ticket.find?]
  have gone : Ticket.drop ticket.token [ticket] = [] := by simp [Ticket.drop]
  have ready : crew.pick = held := by
    obtain ⟨waiting, first, free, same⟩ := next_some crew.pool rest ticket next
    have hands : crew.hands < crew.pool.workers := by
      rw [hands, picked, cleared, List.length_nil, Nat.zero_add]
      exact free
    rw [pick_first crew ticket waiting first hands, ← same]
    simp only [held, picked, cleared, List.nil_append]
  have taken : crew.shop.pools[0]?.bind Pool.next? = some (ticket, rest) := next
  by_cases cancelled : crew.board.tokens.isCancelled ticket.token = true
  · have skipped : (crew.shop.setPool 0 rest).claim ticket now = (crew.shop.setPool 0 rest, false) :=
      if_pos cancelled
    have reached : last = ({ held with picked := [] }.within
        ((crew.shop.setPool 0 rest).report ticket.token none now)) := by
      simp only [last, ready, check_cancelled held now ticket.token ticket own cancelled, held, gone]
      rfl
    rw [reached, Workshop.take, taken]
    simp only [skipped]
    exact ⟨rfl, rfl, rfl⟩
  · have looked : held.check ticket.token now = { held with picked := [], cleared := [ticket] } := by
      rw [check_clear held now ticket.token ticket own cancelled]
      simp only [held, gone, List.nil_append]
    cases claimed : crew.board.markRunning ticket.assignment now with
    | mk board won =>
        have marked : (crew.shop.setPool 0 rest).claim ticket now =
            ({ crew.shop.setPool 0 rest with board := board }, won) := by
          rw [Workshop.claim]
          refine (if_neg cancelled).trans ?_
          change (let (board, won) := crew.board.markRunning ticket.assignment now
            ({ crew.shop.setPool 0 rest with board := board }, won)) = _
          rw [claimed]
        have reached : last = if won then start { held with board := board, picked := [] } ticket
            else { held with board := board, picked := [] }.within
              ({ crew.shop.setPool 0 rest with board := board }.report ticket.token none now) := by
          simp only [last, ready, looked, mark, own, held, claimed, gone]
          rfl
        rw [reached, Workshop.take, taken]
        simp only [marked]
        cases won with
        | true => exact ⟨rfl, rfl, rfl⟩
        | false => exact ⟨rfl, rfl, rfl⟩

theorem work_shop (token : Nat) : (crew.work token now).shop = crew.shop.work 0 token now := by
  rcases Workshop.work_cases crew.shop now 0 token with
    same | ⟨pool, activity, gates, _, _, _, ⟨ending, same⟩ | ⟨process, wait, same⟩⟩
  · rw [work, same]
    rfl
  · rw [work, same]
    rfl
  · rw [work, same]
    rfl

theorem deed_in_beats (picked : crew.picked = []) (cleared : crew.cleared = []) (deed : Deed) :
    ∃ history, let last := crew.run history
      last.shop = crew.shop.perform now deed ∧ last.picked = [] ∧ last.cleared = [] := by
  have idle (same : crew.shop.perform now deed = crew.shop) : ∃ history, let last := crew.run history
      last.shop = crew.shop.perform now deed ∧ last.picked = [] ∧ last.cleared = [] :=
    ⟨[], same.symm, picked, cleared⟩
  cases deed with
  | take index =>
      cases taken : crew.shop.pools[index]?.bind Pool.next? with
      | none =>
          apply idle
          simp only [Workshop.perform, Workshop.take, taken]
      | some pair =>
          obtain ⟨ticket, rest⟩ := pair
          cases index with
          | zero =>
              exact ⟨[(now, .pick), (now, .check ticket.token), (now, .mark ticket.token)],
                take_in_beats crew now picked cleared ticket rest taken⟩
          | succ index => cases taken
  | work index token =>
      cases index with
      | zero => exact ⟨[(now, .work token)], work_shop crew now token, picked, cleared⟩
      | succ index => exact idle rfl
  | launch => exact idle rfl
  | poll token => exact idle rfl

-- What a workshop with this pool does by itself is a run of its crew.
theorem deeds_in_beats (deeds : List (Instant × Deed)) (picked : crew.picked = [])
    (cleared : crew.cleared = []) :
    ∃ history, let last := crew.run history
      last.shop = deeds.foldl (fun shop entry => shop.perform entry.1 entry.2) crew.shop ∧
        last.picked = [] ∧ last.cleared = [] := by
  induction deeds generalizing crew with
  | nil => exact ⟨[], rfl, picked, cleared⟩
  | cons entry rest ih =>
      obtain ⟨first, same, unpicked, uncleared⟩ :=
        deed_in_beats crew entry.1 picked cleared entry.2
      obtain ⟨later, reached⟩ := ih (crew.run first) unpicked uncleared
      refine ⟨first ++ later, ?_⟩
      rw [run, List.foldl_append, List.foldl_cons, ← same]
      exact reached

end Beats

inductive Goes (now : Instant) (crew : Crew) : List Ticket → Crew → Prop where
  | aside (board : Board) (gates : Gates) (intact : board.store.Intact) :
      Goes now crew [] { crew with board := board, gates := gates }
  | queued (ticket : Ticket) : Goes now crew [ticket] { crew with pool := crew.pool.add ticket }
  | picked (ticket : Ticket) (waiting : List Ticket) (first : crew.pool.waiting = ticket :: waiting)
      (free : crew.hands < crew.pool.workers) :
      Goes now crew []
        { crew with
          pool := { crew.pool with waiting := waiting }
          picked := crew.picked ++ [ticket] }
  | skipped (ticket : Ticket) (member : ticket ∈ crew.picked) :
      Goes now crew []
        { crew with
          picked := Ticket.drop ticket.token crew.picked
          ended := crew.ended ++ [⟨ticket.token, none, now⟩] }
  | cleared (ticket : Ticket) (member : ticket ∈ crew.picked) :
      Goes now crew []
        { crew with
          picked := Ticket.drop ticket.token crew.picked
          cleared := crew.cleared ++ [ticket] }
  | refused (ticket : Ticket) (member : ticket ∈ crew.cleared) :
      Goes now crew []
        { crew with
          cleared := Ticket.drop ticket.token crew.cleared
          ended := crew.ended ++ [⟨ticket.token, none, now⟩] }
  | started (ticket : Ticket) (board : Board) (activity : Activity) (member : ticket ∈ crew.cleared)
      (intact : board.store.Intact) (own : activity.ticket = ticket)
      (body : activity.process =
        ticket.callable.body
          ((crew.called ++ [ticket.assignment]).countP fun assignment =>
            assignment.reference == ticket.assignment.reference)
          ticket.assignment.arguments) :
      Goes now crew []
        { crew with
          board := board
          called := crew.called ++ [ticket.assignment]
          pool := crew.pool.employ activity
          cleared := Ticket.drop ticket.token crew.cleared
          begun := crew.begun ++ [activity] }
  | resumed (activity : Activity) (gates : Gates) (process : Process) (wait : Wait)
      (member : activity ∈ crew.pool.working) (same : process.alone.1 = activity.process.alone.1) :
      Goes now crew []
        { crew with
          gates := gates
          pool := crew.pool.update { activity with process := process, wait := wait } }
  | finished (activity : Activity) (board : Board) (gates : Gates)
      (member : activity ∈ crew.pool.working) (intact : board.store.Intact) :
      Goes now crew []
        { crew with
          board := board
          gates := gates
          pool := crew.pool.discharge activity.token
          ended := crew.ended ++
            [⟨activity.token, some (activity.process.alone.1.outcome .sync now), now⟩] }

section Goes

variable (crew : Crew) (now : Instant) (intact : crew.board.store.Intact)

include intact

theorem goes_pick : Goes now crew [] crew.pick := by
  unfold pick
  split
  · exact .aside crew.board crew.gates intact
  · rename_i ticket waiting first
    split
    · rename_i free
      exact .picked ticket waiting first free
    · exact .aside crew.board crew.gates intact

theorem goes_check (token : Nat) : Goes now crew [] (crew.check token now) := by
  cases found : Ticket.find? token crew.picked with
  | none =>
      rw [check, found]
      exact .aside crew.board crew.gates intact
  | some ticket =>
      obtain ⟨member, rfl⟩ := Ticket.find_ticket token crew.picked ticket found
      by_cases cancelled : crew.board.tokens.isCancelled ticket.token = true
      · rw [check_cancelled crew now ticket.token ticket found cancelled]
        exact .skipped ticket member
      · rw [check_clear crew now ticket.token ticket found cancelled]
        exact .cleared ticket member

theorem goes_mark (token : Nat) : Goes now crew [] (crew.mark token now) := by
  cases found : Ticket.find? token crew.cleared with
  | none =>
      rw [mark, found]
      exact .aside crew.board crew.gates intact
  | some ticket =>
      obtain ⟨member, rfl⟩ := Ticket.find_ticket token crew.cleared ticket found
      rcases Board.mark_running_cases crew.board now intact ticket.assignment with
        ⟨record, _, _, won⟩ | ⟨_, lost⟩
      · rw [mark_won crew now ticket.token ticket _ found won]
        refine .started ticket _ _ member ?_ rfl rfl
        change (crew.board.moved record ticket.assignment.reference .running none now).store.Intact
        rw [Board.moved_store]
        exact Store.intact_update crew.board.store intact _
      · rw [mark_lost crew now ticket.token ticket found lost]
        exact .refused ticket member

theorem goes_work (token : Nat) : Goes now crew [] (crew.work token now) := by
  cases found : Activity.find? token crew.pool.working with
  | none =>
      rw [work_absent crew now token found]
      exact .aside crew.board crew.gates intact
  | some activity =>
      obtain ⟨member, named⟩ := Workshop.find_activity token crew.pool.working activity found
      obtain rfl : activity.token = token := named
      cases resumed : activity.resume crew.gates now with
      | none =>
          rw [work_blocked crew now activity found resumed]
          exact .aside crew.board crew.gates intact
      | some result =>
          obtain ⟨gates, turn⟩ := result
          have alone := activity.resume_alone now crew.gates gates turn resumed
          cases turn with
          | ended ending =>
              rw [work_ended crew now activity gates found ending resumed, show ending = _ from alone]
              exact .finished activity _ gates member intact
          | waits process wait =>
              rw [work_waits crew now activity gates found process wait resumed]
              exact .resumed activity gates process wait member alone

theorem goes_perform (beat : Beat) : Goes now crew beat.tickets (crew.perform now beat) := by
  cases beat with
  | queue ticket => exact .queued ticket
  | pick => exact goes_pick crew now intact
  | check token => exact goes_check crew now intact token
  | mark token => exact goes_mark crew now intact token
  | work token => exact goes_work crew now intact token
  | call call =>
      exact .aside _ crew.gates (Board.perform_intact crew.board now call intact)
  | permit gate count => exact .aside crew.board _ intact

end Goes

theorem goes_intact {now : Instant} {crew next : Crew} {tickets : List Ticket}
    (goes : Goes now crew tickets next) (intact : crew.board.store.Intact) :
    next.board.store.Intact := by
  cases goes with
  | aside board gates same => exact same
  | started ticket board activity member same own body => exact same
  | finished activity board gates member same => exact same
  | _ => exact intact

end Crew

end Foreman
