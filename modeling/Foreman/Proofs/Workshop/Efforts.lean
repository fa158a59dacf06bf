import Foreman.Proofs.Workshop.Bearers

set_option autoImplicit false

namespace Foreman

namespace Activity

theorem proceed_shortens (now : Instant) (process next : Process) (gates last : Gates) (wait : Wait)
    (proceeded : proceed now process gates = (last, .waits next wait)) :
    next.pauses < process.pauses := by
  induction process generalizing gates with
  | finish ending => cases proceeded
  | rest later ih =>
      cases proceeded
      exact Nat.lt_succ_self _
  | sleep millis later ih =>
      cases proceeded
      exact Nat.lt_succ_self _
  | gate name later ih | hold name later ih =>
      simp only [proceed] at proceeded
      split at proceeded
      · rename_i open_ passed
        exact Nat.lt_succ_of_lt (ih open_ proceeded)
      · cases proceeded
        exact Nat.lt_succ_self _

theorem resume_shortens (activity : Activity) (now : Instant) (gates last : Gates) (process : Process)
    (wait : Wait) (resumed : activity.resume gates now = some (last, .waits process wait)) :
    process.pauses < activity.process.pauses := by
  obtain ⟨released, _, proceeded⟩ := Option.map_eq_some_iff.mp resumed
  exact proceed_shortens now activity.process process released last wait proceeded

theorem can_resume (activity : Activity) (now : Instant) (gates : Gates)
    (able : activity.canResume gates now = true) :
    ∃ last turn, activity.resume gates now = some (last, turn) := by
  obtain ⟨released, passed⟩ := Option.isSome_iff_exists.mp able
  exact ⟨_, _, by rw [resume, passed]; rfl⟩

theorem unable (activity : Activity) (now : Instant) (gates : Gates)
    (waits : activity.canResume gates now = false) : activity.resume gates now = none := by
  rw [resume, Option.map_eq_none_iff]
  simpa [canResume] using waits

section Once

variable (activities : List Activity) (activity : Activity) (member : activity ∈ activities)
  (once : bearers activity.token activities ≤ 1)

include member once

theorem bearer_found : find? activity.token activities = some activity := by
  have present : (find? activity.token activities).isSome := by
    rw [find?, List.find?_isSome]
    exact ⟨activity, member, by simp⟩
  obtain ⟨other, found⟩ := Option.isSome_iff_exists.mp present
  have named : other.token = activity.token := by simpa using List.find?_some found
  rw [found, bearer_unique _ activities once other activity (List.mem_of_find?_eq_some found) member
    (by simpa using named) (by simp)]

theorem put_lowers (later : Activity) (same : later.token = activity.token)
    (less : later.effort < activity.effort) :
    Toil.total effort (later.put activities) < Toil.total effort activities := by
  refine Toil.total_lowered effort _ activities (fun other present => ?_) activity member ?_
  · by_cases replaced : other.token = later.token
    · have own := bearer_unique _ activities once other activity present member
        (by simpa using replaced.trans same) (by simp)
      rw [if_pos replaced, own]
      exact Nat.le_of_lt less
    · exact Nat.le_of_eq (congrArg effort (if_neg replaced))
  · rw [if_pos same.symm]
    exact less

omit once in
theorem drop_lowers :
    Toil.total effort (drop activity.token activities) < Toil.total effort activities := by
  have without := Toil.total_without effort (fun other => other.token != activity.token) activities
    activity member (by simp)
  have positive : 0 < activity.effort := Nat.succ_pos _
  change Toil.total effort (drop activity.token activities) + _ ≤ _ at without
  omega

end Once

end Activity

namespace Workshop

def Apart (shop : Workshop) : Prop := ∀ token, shop.bears token ≤ 1

def Lightens (shop next : Workshop) : Prop :=
  next.uncalled < shop.uncalled ∨ next.uncalled = shop.uncalled ∧ next.efforts < shop.efforts

section Lightens

variable (shop : Workshop) (now : Instant)

theorem pool_apart (apart : shop.Apart) (index : Nat) (pool : Pool)
    (found : shop.pools[index]? = some pool) (token : Nat) :
    Activity.bearers token pool.working ≤ 1 := by
  have whole := Toil.total_set (Pool.bears token) shop.pools index pool ⟨0, 0, 0, [], []⟩ found
  have once := apart token
  rw [bears] at once
  change _ = _ + (0 + 0) at whole
  rw [Pool.bears] at whole
  omega

theorem fibers_apart (apart : shop.Apart) (token : Nat) :
    Activity.bearers token shop.fibers ≤ 1 :=
  Nat.le_trans (Nat.le_add_left _ _) (apart token)

theorem set_pool_uncalled (index : Nat) (old pool : Pool) (found : shop.pools[index]? = some old) :
    (shop.setPool index pool).uncalled + old.waiting.length =
      shop.uncalled + pool.waiting.length := by
  have set := Toil.total_set (fun pool => pool.waiting.length) shop.pools index old pool found
  simp only [uncalled, setPool]
  omega

theorem set_pool_efforts (index : Nat) (old pool : Pool) (found : shop.pools[index]? = some old) :
    (shop.setPool index pool).efforts + Toil.total Activity.effort old.working =
      shop.efforts + Toil.total Activity.effort pool.working := by
  have set := Toil.total_set (fun pool => Toil.total Activity.effort pool.working) shop.pools index
    old pool found
  simp only [efforts, setPool]
  omega

theorem set_pool_lightens (index : Nat) (old pool : Pool) (found : shop.pools[index]? = some old)
    (waiting : pool.waiting = old.waiting)
    (less : Toil.total Activity.effort pool.working < Toil.total Activity.effort old.working) :
    shop.Lightens (shop.setPool index pool) := by
  have uncalled := set_pool_uncalled shop index old pool found
  have efforts := set_pool_efforts shop index old pool found
  rw [waiting] at uncalled
  exact .inr ⟨Nat.add_right_cancel uncalled, by omega⟩

theorem claim_uncalled (ticket : Ticket) (claimant : Workshop) (won : Bool)
    (result : shop.claim ticket now = (claimant, won)) : claimant.uncalled = shop.uncalled := by
  obtain ⟨pools, spawned, _⟩ := claim_places shop now ticket claimant won result
  rw [uncalled, pools, spawned, uncalled]

theorem take_lightens (index : Nat) (pool rest : Pool) (ticket : Ticket)
    (found : shop.pools[index]? = some pool) (next : pool.next? = some (ticket, rest)) :
    shop.Lightens (shop.take index now) := by
  have fewer := set_pool_uncalled shop index pool rest found
  have waiting := congrArg List.length (next_cases pool rest ticket next).1
  rw [List.length_cons] at waiting
  obtain ⟨claimant, ⟨result, same⟩ | ⟨result, same⟩⟩ :=
    take_ways shop now index pool rest ticket found next
  · have claimed := claim_uncalled (shop.setPool index rest) now ticket claimant false result
    have skipped : (shop.take index now).uncalled = claimant.uncalled := by
      rw [same]
      rfl
    exact .inl (by omega)
  · let busy := rest.employ (claimant.call ticket).2
    have claimed := claim_uncalled (shop.setPool index rest) now ticket claimant true result
    have place := claim_place shop now index pool rest found ticket claimant true result
    have again := set_pool_uncalled claimant index rest busy place
    have employed : busy.waiting.length = rest.waiting.length := rfl
    have taken : (shop.take index now).uncalled = (claimant.setPool index busy).uncalled := by
      rw [same]
      rfl
    exact .inl (by omega)

theorem launch_lightens (unlaunched : shop.spawned.isEmpty = false) :
    shop.Lightens (shop.launch now) := by
  cases queue : shop.spawned with
  | nil =>
      rw [queue] at unlaunched
      cases unlaunched
  | cons ticket rest =>
      have fewer : ({ shop with spawned := rest } : Workshop).uncalled < shop.uncalled := by
        simp only [uncalled, queue, List.length_cons]
        omega
      obtain ⟨claimant, ⟨result, same⟩ | ⟨result, same⟩⟩ := launch_ways shop now ticket rest queue
      · have claimed := claim_uncalled { shop with spawned := rest } now ticket claimant false result
        have skipped : (shop.launch now).uncalled = claimant.uncalled := by
          rw [same]
          rfl
        exact .inl (by omega)
      · have claimed := claim_uncalled { shop with spawned := rest } now ticket claimant true result
        have launched : (shop.launch now).uncalled = claimant.uncalled := by
          rw [same]
          rfl
        exact .inl (by omega)

variable (apart : shop.Apart)

include apart

theorem work_lightens (index : Nat) (pool : Pool) (found : shop.pools[index]? = some pool)
    (activity : Activity) (member : activity ∈ pool.working)
    (able : activity.canResume shop.gates now = true) :
    shop.Lightens (shop.work index activity.token now) := by
  have once := pool_apart shop apart index pool found activity.token
  have working := Activity.bearer_found pool.working activity member once
  obtain ⟨gates, turn, resumed⟩ := activity.can_resume now shop.gates able
  rcases work_ways shop now index activity.token pool activity gates turn found working resumed with
    ⟨ending, _, same⟩ | ⟨process, wait, rfl, same⟩
  · have less : Toil.total Activity.effort (pool.discharge activity.token).working <
        Toil.total Activity.effort pool.working :=
      Activity.drop_lowers pool.working activity member
    rw [same]
    exact set_pool_lightens shop index pool _ found rfl less
  · let later := { activity with process := process, wait := wait }
    have shorter := activity.resume_shortens now shop.gates gates process wait resumed
    have less : Toil.total Activity.effort (pool.update later).working <
        Toil.total Activity.effort pool.working :=
      Activity.put_lowers pool.working activity member once later rfl (Nat.succ_lt_succ shorter)
    rw [same]
    exact set_pool_lightens shop index pool _ found rfl less

theorem poll_lightens (activity : Activity) (member : activity ∈ shop.fibers)
    (able : shop.canPoll now activity = true) :
    shop.Lightens (shop.poll activity.token now) := by
  have once := fibers_apart shop apart activity.token
  have found := Activity.bearer_found shop.fibers activity member once
  have dropped := Activity.drop_lowers shop.fibers activity member
  by_cases cancelled : (shop.board.tokens.isCancelled activity.token && !activity.isHolding) = true
  · rw [poll_cancelled shop now activity.token activity found cancelled]
    exact .inr ⟨rfl, Nat.add_lt_add_left dropped _⟩
  · have released : activity.canResume shop.gates now = true := by
      rw [canPoll, Bool.or_eq_true] at able
      exact able.resolve_left cancelled
    obtain ⟨gates, turn, resumed⟩ := activity.can_resume now shop.gates released
    rcases poll_ways shop now activity.token activity gates turn found cancelled resumed with
      ⟨ending, _, same⟩ | ⟨process, wait, rfl, same⟩
    · rw [same]
      exact .inr ⟨rfl, Nat.add_lt_add_left dropped _⟩
    · have shorter := activity.resume_shortens now shop.gates gates process wait resumed
      have less := Activity.put_lowers shop.fibers activity member once
        { activity with process := process, wait := wait } rfl (Nat.succ_lt_succ shorter)
      rw [same]
      exact .inr ⟨rfl, Nat.add_lt_add_left less _⟩

theorem pool_deed_lightens (index : Nat) (pool : Pool) (found : shop.pools[index]? = some pool)
    (deed : Deed) (chosen : shop.poolDeed now index pool = some deed) :
    shop.Lightens (shop.perform now deed) := by
  rw [poolDeed] at chosen
  split at chosen
  · rename_i pair next
    cases chosen
    exact take_lightens shop now index pool pair.2 pair.1 found next
  · obtain ⟨activity, working, rfl⟩ := Option.map_eq_some_iff.mp chosen
    have able : activity.canResume shop.gates now = true := by simpa using List.find?_some working
    exact work_lightens shop now apart index pool found activity (List.mem_of_find?_eq_some working)
      able

theorem pools_lighten (deed : Deed) (chosen : shop.poolDeeds now 0 shop.pools = some deed) :
    shop.Lightens (shop.perform now deed) := by
  have onward (pools : List Pool) (start : Nat)
      (placed : ∀ index pool, pools[index]? = some pool → shop.pools[start + index]? = some pool)
      (chosen : shop.poolDeeds now start pools = some deed) :
      shop.Lightens (shop.perform now deed) := by
    induction pools generalizing start with
    | nil => cases chosen
    | cons pool rest ih =>
        rw [poolDeeds, Option.or_eq_some_iff] at chosen
        rcases chosen with own | ⟨_, later⟩
        · exact pool_deed_lightens shop now apart start pool (placed 0 pool rfl) deed own
        · refine ih (start + 1) (fun index other found => ?_) later
          rw [Nat.add_right_comm]
          exact placed (index + 1) other found
  refine onward shop.pools 0 (fun index pool found => ?_) chosen
  rw [Nat.zero_add]
  exact found

theorem fiber_deed_lightens (deed : Deed) (chosen : shop.fiberDeed now = some deed) :
    shop.Lightens (shop.perform now deed) := by
  rw [fiberDeed] at chosen
  split at chosen
  · obtain ⟨activity, found, rfl⟩ := Option.map_eq_some_iff.mp chosen
    have member := List.mem_of_find?_eq_some found
    have able := List.find?_some found
    rw [Bool.and_eq_true] at able
    have own := Activity.bearer_found shop.fibers activity member
      (fibers_apart shop apart activity.token)
    have holds : shop.holds activity.token = true := by
      rw [Workshop.holds, own]
      exact able.1
    rw [perform, if_neg (by simp [holds])]
    exact poll_lightens shop now apart activity member able.2
  · rename_i free
    split at chosen
    · obtain ⟨activity, found, rfl⟩ := Option.map_eq_some_iff.mp chosen
      rw [perform, if_neg (by simp [free])]
      exact poll_lightens shop now apart activity (List.mem_of_find?_eq_some found)
        (List.find?_some found)
    · rename_i waiting
      cases chosen
      rw [perform, if_neg free]
      exact launch_lightens shop now (by simpa using waiting)

theorem perform_lightens (deed : Deed) :
    shop.perform now deed = shop ∨ shop.Lightens (shop.perform now deed) := by
  cases deed with
  | take index =>
      change shop.take index now = shop ∨ shop.Lightens (shop.take index now)
      cases next : shop.pools[index]?.bind Pool.next? with
      | none => exact .inl (by simp only [take, next])
      | some pair =>
          obtain ⟨pool, found, first⟩ := Option.bind_eq_some_iff.mp next
          exact .inr (take_lightens shop now index pool pair.2 pair.1 found first)
  | work index token =>
      change shop.work index token now = shop ∨ shop.Lightens (shop.work index token now)
      cases found : shop.pools[index]? with
      | none => exact .inl (by simp only [work, found])
      | some pool =>
          cases working : Activity.find? token pool.working with
          | none => exact .inl (by simp only [work, found, working])
          | some activity =>
              cases able : activity.canResume shop.gates now with
              | false => exact .inl (by simp only [work, found, working, activity.unable now _ able])
              | true =>
                  obtain rfl : activity.token = token := by simpa using List.find?_some working
                  exact .inr (work_lightens shop now apart index pool found activity
                    (List.mem_of_find?_eq_some working) able)
  | launch =>
      change (if shop.isHeld then shop else shop.launch now) = shop ∨ _
      cases held : shop.isHeld with
      | true => exact .inl rfl
      | false =>
          cases waiting : shop.spawned.isEmpty with
          | true => exact .inl (by simp [launch, List.isEmpty_iff.mp waiting])
          | false =>
              rw [perform, held]
              exact .inr (launch_lightens shop now waiting)
  | poll token =>
      change (if shop.isHeld && !shop.holds token then shop else shop.poll token now) = shop ∨ _
      cases barred : shop.isHeld && !shop.holds token with
      | true => exact .inl rfl
      | false =>
          rw [perform, barred]
          cases found : Activity.find? token shop.fibers with
          | none => exact .inl (by simp [poll, found])
          | some activity =>
              obtain rfl : activity.token = token := by simpa using List.find?_some found
              cases able : shop.canPoll now activity with
              | true =>
                  exact .inr (poll_lightens shop now apart activity (List.mem_of_find?_eq_some found)
                    able)
              | false =>
                  rw [canPoll, Bool.or_eq_false_iff] at able
                  refine .inl ?_
                  simp only [poll, found, able.1, activity.unable now _ able.2, Bool.false_eq_true,
                    if_false]

end Lightens

end Workshop

end Foreman
