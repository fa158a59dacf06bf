import Foreman.Cli.Run
import Foreman.Proofs.Cli.Session
import Foreman.Proofs.Scheduler.Rest

set_option autoImplicit false

namespace Foreman.Cli

open Session (Reaches)

variable (idOf : Nat → TaskId) (timeout : Option Span)

section Goes

variable (first : Session) (answers : List (Except SchedulerError TaskId))
  (records : List TaskRecord) (stage : Stage) (moment : Moment Simulation)
  (before : Reaches timeout first ⟨moment.state.scheduler, answers, records, stage⟩)

theorem step_reaches (now : Instant) (simulation next : Simulation)
    (before : Reaches timeout first ⟨simulation.scheduler, answers, records, stage⟩)
    (stepped : (Simulation.works idOf).step? now simulation = some next) :
    Reaches timeout first ⟨next.scheduler, answers, records, stage⟩ := by
  obtain ⟨moved, _⟩ := Option.filter_eq_some_iff.mp stepped
  obtain ⟨move, chosen, rfl⟩ := Option.map_eq_some_iff.mp moved
  exact before.tail ⟨now, .goes move (Simulation.next_own idOf simulation now move chosen)⟩

include before

theorem settle_reaches :
    Reaches timeout first
      ⟨(Simulation.settle idOf moment).state.scheduler, answers, records, stage⟩ :=
  (Simulation.works idOf).settle_keeps
    (fun simulation => Reaches timeout first ⟨simulation.scheduler, answers, records, stage⟩)
    (fun now simulation next =>
      step_reaches idOf timeout first answers records stage now simulation next)
    moment before

theorem until_reaches (goal : Scheduler → Bool) (limit : Option Instant) :
    Reaches timeout first
      ⟨(Simulation.runUntil idOf goal limit moment).1.state.scheduler, answers, records, stage⟩ :=
  (Simulation.works idOf).until_keeps
    (fun simulation => Reaches timeout first ⟨simulation.scheduler, answers, records, stage⟩)
    (fun now simulation next =>
      step_reaches idOf timeout first answers records stage now simulation next)
    _ limit moment before

end Goes

section Submission

def submitted (answers : List (Except SchedulerError TaskId)) : Stage :=
  match answers.findSome? refusal? with
  | none => .submitting []
  | some error => .ended (some error)

theorem submit_all_reaches (records : List TaskRecord) (requests : List Request)
    (answers : List (Except SchedulerError TaskId)) (moment : Moment Simulation) :
    let done := submitAll idOf timeout requests moment
    Reaches timeout ⟨moment.state.scheduler, answers, records, .submitting requests⟩
      ⟨done.1.state.scheduler, answers ++ done.2, records, submitted done.2⟩ := by
  induction requests generalizing answers moment with
  | nil =>
      simp only [submitAll, List.append_nil]
      exact .refl
  | cons request rest ih =>
      let id := idOf moment.state.issued
      let start : Session :=
        ⟨moment.state.scheduler, answers, records, .submitting (request :: rest)⟩
      have asked : Reaches timeout start
          (start.submit (request.orTimeout timeout) rest id moment.now) :=
        .single ⟨moment.now, .submits request rest id rfl⟩
      cases came : moment.state.scheduler.submit (request.orTimeout timeout) id moment.now with
      | mk scheduler answer =>
          let next : Moment Simulation := ⟨⟨scheduler, moment.state.issued + 1⟩, moment.now⟩
          have taken : Simulation.submit idOf moment (request.orTimeout timeout) =
              (Simulation.settle idOf next, id, answer) := by
            simp only [Simulation.submit, Simulation.issue, Simulation.call, id, next, came] at came ⊢
          simp only [Session.submit, start, came] at asked
          simp only [submitAll, taken]
          cases refusal : refusal? answer with
          | some error =>
              rw [refusal] at asked
              simp only [submitted, List.findSome?_cons, refusal]
              exact settle_reaches idOf timeout _ _ records _ next asked
          | none =>
              rw [refusal] at asked
              have goes := settle_reaches idOf timeout _ _ records _ next asked
              have later := ih (answers ++ [answer]) (Simulation.settle idOf next)
              simp only [List.append_assoc, List.singleton_append] at later
              simp only [submitted, List.findSome?_cons, refusal]
              exact goes.trans later

end Submission

section Waiting

variable (answers : List (Except SchedulerError TaskId)) (records : List TaskRecord)

-- Time that is up does not end a session.
def heard (rest : List TaskId) : Except SchedulerError Outcome → Stage
  | .ok _ => .waiting rest
  | .error (.waitTimeout _ _) => .waiting rest
  | .error error => .ended (some error)

theorem await_reaches (id : TaskId) (rest : List TaskId) (wait : Option Span)
    (moment : Moment Simulation) :
    let done := Simulation.await idOf moment id wait
    Reaches timeout ⟨moment.state.scheduler, answers, records, .waiting (id :: rest)⟩
      ⟨done.1.state.scheduler, answers, records, heard rest done.2⟩ := by
  unfold Simulation.await
  generalize Simulation.limitOf moment wait = limit
  have looked (scheduler : Scheduler) (stage : Stage)
      (same : Session.look ⟨scheduler, answers, records, .waiting (id :: rest)⟩ id rest =
        ⟨scheduler, answers, records, stage⟩) :
      Reaches timeout ⟨scheduler, answers, records, .waiting (id :: rest)⟩
        ⟨scheduler, answers, records, stage⟩ :=
    .single ⟨Instant.epoch, same ▸ .looks id rest rfl⟩
  fun_induction Simulation.awaitLooks idOf id wait limit moment with
  | case1 moment board error unknown =>
      have lasting : heard rest (.error error) = .ended (some error) := by
        have missed := unknown
        unfold Board.look at missed
        split at missed <;> cases missed <;> rfl
      simp only [lasting]
      refine looked _ _ ?_
      simp only [Session.look, board, unknown] at unknown ⊢
  | case2 moment board record found =>
      refine looked _ _ ?_
      simp only [Session.look, board, found] at found ⊢
      rfl
  | case3 moment board going seen turn heard ih =>
      exact (until_reaches idOf timeout _ answers records _ moment .refl _ limit).trans ih
  | case4 moment board going seen turn silent =>
      have later := until_reaches idOf timeout
        ⟨moment.state.scheduler, answers, records, .waiting (id :: rest)⟩ answers records
        (.waiting (id :: rest)) moment .refl
        (fun scheduler => scheduler.board.announcements != seen) limit
      exact later.tail ⟨Instant.epoch, .tires id rest rfl⟩

theorem await_all_reaches (deadline : Option Instant) (ids : List TaskId)
    (moment : Moment Simulation) :
    let done := awaitAll idOf deadline ids moment
    Reaches timeout ⟨moment.state.scheduler, answers, records, .waiting ids⟩
      ⟨done.1.state.scheduler, answers, records, match done.2 with
        | .ok () => .waiting []
        | .error error => .ended (some error)⟩ := by
  induction ids generalizing moment with
  | nil => exact .refl
  | cons id rest ih =>
      have own := await_reaches idOf timeout answers records id rest (remaining deadline moment.now)
        moment
      simp only [awaitAll]
      cases awaited : Simulation.await idOf moment id (remaining deadline moment.now) with
      | mk next answer =>
          rw [awaited] at own
          cases answer with
          | ok outcome => exact own.trans (ih next)
          | error error =>
              cases error with
              | waitTimeout task span => exact own.trans (ih next)
              | _ => exact own

end Waiting

section Stop

variable (answers : List (Except SchedulerError TaskId)) (records : List TaskRecord)
  (moment : Moment Simulation)

theorem stop_reaches :
    let done := Simulation.stop idOf moment .cancel
    Reaches timeout ⟨moment.state.scheduler, answers, records, .waiting []⟩
      ⟨done.1.state.scheduler, answers, records, match done.2 with
        | .ok () => .stopping
        | .error error => .ended (some error)⟩ := by
  let start : Session := ⟨moment.state.scheduler, answers, records, .waiting []⟩
  have asked : Reaches timeout start start.stop := .single ⟨moment.now, .stops rfl⟩
  cases came : moment.state.scheduler.stop .cancel with
  | mk scheduler answer =>
      let stopped : Moment Simulation := ⟨⟨scheduler, moment.state.issued⟩, moment.now⟩
      have called : Simulation.call idOf moment (fun scheduler _ => scheduler.stop .cancel) =
          (Simulation.settle idOf stopped, answer) := by
        simp only [Simulation.call, came]
        rfl
      simp only [Session.stop, start, came] at asked
      simp only [Simulation.stop, called]
      cases answer with
      | error error => exact settle_reaches idOf timeout _ answers records _ stopped asked
      | ok done =>
          have settled := settle_reaches idOf timeout _ answers records _ stopped asked
          exact until_reaches idOf timeout _ answers records _ _ settled _ none

theorem waiting_stopped (requests : List Request) (left : List TaskId)
    (sound : Session.Sound ⟨moment.state.scheduler, answers, records, .waiting left⟩ requests) :
    (Simulation.stop idOf moment .cancel).1.state.scheduler.phase = .off := by
  obtain ⟨names, underway⟩ := sound.resolve_right fun refused => by
    obtain ⟨_, other⟩ := refused.ended
    cases other
  exact (Simulation.stop_off idOf names moment underway.fit).2

theorem print_reaches (scheduler : Scheduler) (ids : List TaskId) (records : List TaskRecord) :
    let done := recordsOf scheduler.board ids
    Reaches timeout ⟨scheduler, answers, records, .printing ids⟩
      ⟨scheduler, answers, records ++ done.1, .ended done.2⟩ := by
  induction ids generalizing records with
  | nil =>
      simp only [recordsOf, List.append_nil]
      exact .single ⟨Instant.epoch, .ends rfl⟩
  | cons id rest ih =>
      let start : Session := ⟨scheduler, answers, records, .printing (id :: rest)⟩
      have printed : Reaches timeout start (start.print id rest) :=
        .single ⟨Instant.epoch, .prints id rest rfl⟩
      simp only [recordsOf]
      cases read : scheduler.board.record id with
      | error error =>
          simp only [Session.print, start, read] at printed
          rw [List.append_nil]
          exact printed
      | ok record =>
          simp only [Session.print, start, read] at printed
          have later := ih (records ++ [record])
          simp only [List.append_assoc, List.singleton_append] at later
          exact printed.trans later

end Stop

section Session

variable (scheduler : Scheduler) (settings : Settings) (cores : Nat)
  (built : Scheduler.new settings Builtin.registry cores = .ok scheduler) (start : Instant)

def opened (scheduler : Scheduler) (start : Instant) : Moment Simulation :=
  (Simulation.call idOf ⟨⟨scheduler, 0⟩, start⟩ fun scheduler now => scheduler.start now).1

include built

theorem begin_opened (requests : List Request) :
    Session.begin scheduler requests start =
      ⟨(scheduler.start start).1, [], [], .submitting requests⟩ := by
  rw [Session.begin, Scheduler.new_cases settings _ cores scheduler built]
  rfl

theorem call_opened :
    Simulation.call idOf ⟨⟨scheduler, 0⟩, start⟩ (fun scheduler now => scheduler.start now) =
      (opened idOf scheduler start, .ok ()) := by
  refine Prod.ext rfl ?_
  change (scheduler.start start).2 = .ok ()
  rw [Scheduler.new_cases settings _ cores scheduler built]
  rfl

theorem carry_out_reaches (requests : List Request) (wait : Option Span) :
    let session := (carryOut scheduler requests timeout wait start idOf).1
    Reaches timeout (Session.begin scheduler requests start) session ∧
      session.answers = (submitAll idOf timeout requests (opened idOf scheduler start)).2 ∧
      ∃ failure, session.stage = .ended failure := by
  have sound := Session.begin_sound settings cores scheduler built requests start
  rw [begin_opened scheduler settings cores built start] at sound ⊢
  have settled := settle_reaches idOf timeout _ [] [] (.submitting requests)
    ⟨⟨(scheduler.start start).1, 0⟩, start⟩ .refl
  have asked := settled.trans
    (submit_all_reaches idOf timeout [] requests [] (opened idOf scheduler start))
  simp only [carryOut, call_opened idOf scheduler settings cores built start]
  generalize submitAll idOf timeout requests (opened idOf scheduler start) = done at asked ⊢
  obtain ⟨moment, answers⟩ := done
  simp only [List.nil_append, submitted] at asked ⊢
  cases refused : answers.findSome? refusal? with
  | some error =>
      rw [refused] at asked
      exact ⟨asked, rfl, _, rfl⟩
  | none =>
      rw [refused] at asked
      have waiting := asked.tail ⟨start, .waits rfl⟩
      have waited := waiting.trans (await_all_reaches idOf timeout answers []
        (wait.bind moment.now.add?) (answers.filterMap taskOf?) moment)
      simp only
      generalize awaitAll idOf (wait.bind moment.now.add?) (answers.filterMap taskOf?) moment =
        listened at waited ⊢
      rcases listened with ⟨patient, error | done⟩
      · exact ⟨waited, rfl, _, rfl⟩
      · have heard := Session.reaches_sound _ _ requests timeout sound waited
        have off := waiting_stopped idOf answers [] patient requests [] heard
        have stopped := waited.trans (stop_reaches idOf timeout answers [] patient)
        simp only
        generalize Simulation.stop idOf patient .cancel = closed at off stopped ⊢
        rcases closed with ⟨last, error | done⟩
        · exact ⟨stopped, rfl, _, rfl⟩
        · have closing := stopped.tail ⟨start, .closes rfl off⟩
          have printed := print_reaches timeout answers last.state.scheduler
            (answers.filterMap taskOf?) []
          exact ⟨closing.trans printed, rfl, _, rfl⟩

end Session

end Foreman.Cli
