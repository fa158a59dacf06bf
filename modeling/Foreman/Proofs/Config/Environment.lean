import Foreman.Proofs.Config.Keys
import Foreman.Proofs.Number.Digits

set_option autoImplicit false

namespace Foreman

inductive LogFormat.Named (raw : String) : LogFormat → Prop where
  | text (name : Text.lowerAscii raw = "text" ∨ Text.lowerAscii raw = "pretty") : Named raw .text
  | json (name : Text.lowerAscii raw = "json") : Named raw .json

inductive Setting.Numeric (raw : String) : Option Nat → Prop where
  | number (n : Nat) (small : n < Number.bound64)
      (written : Number.Written (Text.trimmed raw.toList) n) : Numeric raw (some n)

def Setting.Legible : Setting → String → Prop
  | .log, raw => ∃ format, LogFormat.Named raw format
  | _, raw => ∃ given, Setting.Numeric raw given

def Setting.fault (setting : Setting) (raw : String) : EnvironmentError :=
  .invalidValue setting.key (if setting = .log then Text.lowerAscii raw else raw)

namespace Environment

structure Configured (lookup : Lookup) (profile : String) (environment : Environment) : Prop where
  named : environment.profile = profile
  workers : ∃ given, Given lookup profile Setting.workers.key none Setting.Numeric given ∧
    environment.scheduler.workers = given.getD 0
  timeout : Given lookup profile Setting.timeout.key none Setting.Numeric
    environment.scheduler.defaultTimeoutMs
  capacity : Given lookup profile Setting.capacity.key none Setting.Numeric
    environment.scheduler.queueCapacity
  events : Given lookup profile Setting.events.key none Setting.Numeric
    environment.scheduler.eventCapacity
  log : Given lookup profile Setting.log.key .text LogFormat.Named environment.log

def Faulty (lookup : Lookup) (profile : String) (error : EnvironmentError) : Prop :=
  ∃ before setting after, Setting.all = before ++ setting :: after ∧
    (∀ earlier ∈ before, ∀ raw, Prevails lookup profile earlier.key raw → earlier.Legible raw) ∧
    ∃ raw, Prevails lookup profile setting.key raw ∧ ¬ setting.Legible raw ∧
      error = setting.fault raw

section Readers

def readNumber (key raw : String) : Except EnvironmentError (Option Nat) :=
  match Number.readBelow Number.bound64 (Text.trimmed raw.toList) with
  | some value => .ok (some value)
  | none => .error (.invalidValue key raw)

theorem number_consults (lookup : Lookup) (profile key : String) :
    number lookup profile key = consult lookup profile key none (readNumber key) := by
  rw [number, consult]
  rfl

theorem log_consults (lookup : Lookup) (profile : String) :
    logFormat lookup profile =
      consult lookup profile Setting.log.key .text LogFormat.parse :=
  rfl

theorem read_number_ok (key raw : String) (given : Option Nat) :
    readNumber key raw = .ok given ↔ Setting.Numeric raw given := by
  rw [readNumber]
  constructor
  · intro answer
    split at answer
    · rename_i n read
      cases answer
      obtain ⟨small, written⟩ := (Number.read_below_iff _ n _).mp read
      exact .number n small written
    · cases answer
  · intro numeric
    obtain ⟨n, small, written⟩ := numeric
    rw [(Number.read_below_iff _ n _).mpr ⟨small, written⟩]

theorem read_format_ok (raw : String) (format : LogFormat) :
    LogFormat.parse raw = .ok format ↔ LogFormat.Named raw format := by
  rw [LogFormat.parse]
  constructor
  · intro answer
    split at answer
    · rename_i name
      cases answer
      exact .text (.inl name)
    · rename_i name
      cases answer
      exact .text (.inr name)
    · rename_i name
      cases answer
      exact .json name
    · cases answer
  · intro named
    cases named with
    | text name =>
        rcases name with plain | pretty
        · rw [plain]
          rfl
        · rw [pretty]
          rfl
    | json name =>
        rw [name]
        rfl

theorem read_number_error (key raw : String) (error : EnvironmentError) :
    readNumber key raw = .error error ↔
      (¬ ∃ given, Setting.Numeric raw given) ∧ error = .invalidValue key raw := by
  simp only [← read_number_ok key raw, readNumber]
  cases Number.readBelow Number.bound64 (Text.trimmed raw.toList) with
  | some n => simp
  | none => simp [eq_comm]

theorem read_format_error (raw : String) (error : EnvironmentError) :
    LogFormat.parse raw = .error error ↔ (¬ ∃ format, LogFormat.Named raw format) ∧
      error = .invalidValue "LOG_FORMAT" (Text.lowerAscii raw) := by
  simp only [← read_format_ok raw, LogFormat.parse]
  split <;> simp [eq_comm]

end Readers

section Checks

variable (lookup : Lookup) (profile : String)

def check : Setting → Except EnvironmentError Unit
  | .log => (logFormat lookup profile).map fun _ => ()
  | setting => (number lookup profile setting.key).map fun _ => ()

theorem map_unit_error {β : Type} (answer : Except EnvironmentError β) (error : EnvironmentError) :
    (answer.map fun _ => ()) = .error error ↔ answer = .error error := by
  cases answer <;> simp [Except.map]

theorem number_checked (key : String) (error : EnvironmentError) :
    ((number lookup profile key).map fun _ => ()) = .error error ↔
      ∃ raw, Prevails lookup profile key raw ∧ (¬ ∃ given, Setting.Numeric raw given) ∧
        error = .invalidValue key raw := by
  rw [map_unit_error, number_consults, consult_error_iff]
  simp only [read_number_error]

theorem check_error_iff (setting : Setting) (error : EnvironmentError) :
    check lookup profile setting = .error error ↔ ∃ raw, Prevails lookup profile setting.key raw ∧
      ¬ setting.Legible raw ∧ error = setting.fault raw := by
  cases setting with
  | log =>
      rw [check, map_unit_error, log_consults, consult_error_iff]
      simp only [read_format_error]
      rfl
  | workers => exact number_checked lookup profile _ error
  | timeout => exact number_checked lookup profile _ error
  | capacity => exact number_checked lookup profile _ error
  | events => exact number_checked lookup profile _ error

theorem check_ok_iff (setting : Setting) :
    check lookup profile setting = .ok () ↔
      ∀ raw, Prevails lookup profile setting.key raw → setting.Legible raw := by
  cases checked : check lookup profile setting with
  | ok _ =>
      refine iff_of_true rfl fun raw prevails => ?_
      by_contra illegible
      have refused := (check_error_iff lookup profile setting _).mpr ⟨raw, prevails, illegible, rfl⟩
      rw [checked] at refused
      cases refused
  | error error =>
      obtain ⟨raw, prevails, illegible, _⟩ := (check_error_iff lookup profile setting error).mp checked
      exact iff_of_false (by simp) fun legible => illegible (legible raw prevails)

theorem checks_error_iff (settings : List Setting) (error : EnvironmentError) :
    settings.forM (check lookup profile) = .error error ↔
      ∃ before setting after, settings = before ++ setting :: after ∧
        (∀ earlier ∈ before, check lookup profile earlier = .ok ()) ∧
        check lookup profile setting = .error error := by
  induction settings with
  | nil => simp [pure, Except.pure]
  | cons first rest ih =>
      have step : (first :: rest).forM (check lookup profile) =
          (check lookup profile first).bind fun _ => rest.forM (check lookup profile) := rfl
      rw [step]
      cases own : check lookup profile first with
      | error cause =>
          constructor
          · intro answer
            cases answer
            exact ⟨[], first, rest, rfl, fun _ member => absurd member List.not_mem_nil, own⟩
          · intro faulty
            obtain ⟨before, setting, after, split, fine, refused⟩ := faulty
            cases before with
            | nil =>
                cases split
                exact own.symm.trans refused
            | cons _ tail =>
                cases split
                have passed := fine first List.mem_cons_self
                rw [own] at passed
                cases passed
      | ok _ =>
          rw [Except.bind, ih]
          constructor
          · intro faulty
            obtain ⟨before, setting, after, rfl, fine, refused⟩ := faulty
            exact ⟨first :: before, setting, after, rfl, List.forall_mem_cons.mpr ⟨own, fine⟩, refused⟩
          · intro faulty
            obtain ⟨before, setting, after, split, fine, refused⟩ := faulty
            cases before with
            | nil =>
                cases split
                rw [own] at refused
                cases refused
            | cons _ tail =>
                cases split
                exact ⟨tail, setting, after, rfl, (List.forall_mem_cons.mp fine).2, refused⟩

theorem of_lookup_checked (given : String) :
    ((ofLookup given lookup).map fun _ => ()) =
      Setting.all.forM (check lookup (Text.upper given)) := by
  change ((ofLookup given lookup).map fun _ => ()) =
    (do
      check lookup (Text.upper given) .workers
      check lookup (Text.upper given) .timeout
      check lookup (Text.upper given) .capacity
      check lookup (Text.upper given) .events
      check lookup (Text.upper given) .log
      pure ())
  simp only [ofLookup, check, Setting.key]
  cases number lookup (Text.upper given) "SCHEDULER_WORKER_POOL_SIZE" with
  | error _ => rfl
  | ok _ =>
      cases number lookup (Text.upper given) "SCHEDULER_DEFAULT_TIMEOUT_MS" with
      | error _ => rfl
      | ok _ =>
          cases number lookup (Text.upper given) "SCHEDULER_QUEUE_CAPACITY" with
          | error _ => rfl
          | ok _ =>
              cases number lookup (Text.upper given) "SCHEDULER_EVENT_CAPACITY" with
              | error _ => rfl
              | ok _ => cases logFormat lookup (Text.upper given) <;> rfl

theorem of_lookup_error_iff (given : String) (error : EnvironmentError) :
    ofLookup given lookup = .error error ↔ Faulty lookup (Text.upper given) error := by
  rw [← map_unit_error, of_lookup_checked, checks_error_iff, Faulty]
  simp only [check_ok_iff, check_error_iff]

end Checks

section Configured

theorem bind_ok_iff {β γ : Type} (first : Except EnvironmentError β)
    (next : β → Except EnvironmentError γ) (value : γ) :
    (first >>= next) = .ok value ↔ ∃ middle, first = .ok middle ∧ next middle = .ok value := by
  cases first <;> simp [bind, Except.bind]

theorem number_ok_iff (lookup : Lookup) (profile key : String) (given : Option Nat) :
    number lookup profile key = .ok given ↔
      Given lookup profile key none Setting.Numeric given := by
  rw [number_consults]
  exact consult_ok_iff lookup profile key none _ _ (read_number_ok key) given

theorem log_ok_iff (lookup : Lookup) (profile : String) (format : LogFormat) :
    logFormat lookup profile = .ok format ↔
      Given lookup profile Setting.log.key .text LogFormat.Named format := by
  rw [log_consults]
  exact consult_ok_iff lookup profile _ _ _ _ read_format_ok format

theorem of_lookup_ok_iff (lookup : Lookup) (given : String) (environment : Environment) :
    ofLookup given lookup = .ok environment ↔ Configured lookup (Text.upper given) environment := by
  simp only [ofLookup, bind_ok_iff, number_ok_iff, log_ok_iff]
  constructor
  · intro read
    obtain ⟨workers, first, timeout, second, capacity, third, events, fourth, log, last, made⟩ := read
    cases made
    exact ⟨rfl, ⟨workers, first, rfl⟩, second, third, fourth, last⟩
  · intro configured
    obtain ⟨named, ⟨workers, first, own⟩, second, third, fourth, last⟩ := configured
    refine ⟨workers, first, _, second, _, third, _, fourth, _, last, ?_⟩
    rw [← named, ← own]
    rfl

end Configured

section Legible

variable (lookup : Lookup) (profile : String)

theorem given_reads {β : Type} (key : String) (default value : β) (reads : String → β → Prop)
    (given : Given lookup profile key default reads value) (raw : String)
    (prevails : Prevails lookup profile key raw) : ∃ value, reads raw value := by
  cases given with
  | absent silent => exact absurd prevails (silent raw)
  | said other value likewise read =>
      rw [prevails_unique lookup profile key raw other prevails likewise]
      exact ⟨value, read⟩

theorem configured_legible (environment : Environment)
    (configured : Configured lookup profile environment) (setting : Setting) (raw : String)
    (prevails : Prevails lookup profile setting.key raw) : setting.Legible raw := by
  cases setting with
  | workers =>
      obtain ⟨_, given, _⟩ := configured.workers
      exact given_reads lookup profile _ _ _ _ given raw prevails
  | timeout => exact given_reads lookup profile _ _ _ _ configured.timeout raw prevails
  | capacity => exact given_reads lookup profile _ _ _ _ configured.capacity raw prevails
  | events => exact given_reads lookup profile _ _ _ _ configured.events raw prevails
  | log => exact given_reads lookup profile _ _ _ _ configured.log raw prevails

theorem of_lookup_fails_iff (given : String) :
    (∃ error, ofLookup given lookup = .error error) ↔
      ∃ (setting : Setting) (raw : String),
        Prevails lookup (Text.upper given) setting.key raw ∧ ¬ setting.Legible raw := by
  constructor
  · intro fails
    obtain ⟨error, answer⟩ := fails
    obtain ⟨_, setting, _, _, _, raw, prevails, illegible, _⟩ :=
      (of_lookup_error_iff lookup given error).mp answer
    exact ⟨setting, raw, prevails, illegible⟩
  · intro illegible
    obtain ⟨setting, raw, prevails, unread⟩ := illegible
    cases answer : ofLookup given lookup with
    | error error => exact ⟨error, rfl⟩
    | ok environment =>
        have configured := (of_lookup_ok_iff lookup given environment).mp answer
        exact absurd (configured_legible lookup _ environment configured setting raw prevails) unread

end Legible

section Agreement

variable (given : String) (lookup other : Lookup)

theorem of_lookup_agrees
    (same : ∀ setting : Setting, effective other (Text.upper given) setting.key =
      effective lookup (Text.upper given) setting.key) :
    ofLookup given other = ofLookup given lookup := by
  have numbers (setting : Setting) : number other (Text.upper given) setting.key =
      number lookup (Text.upper given) setting.key := by
    rw [number, number, same setting]
  have log : logFormat other (Text.upper given) = logFormat lookup (Text.upper given) := by
    rw [log_consults, log_consults, consult, consult, same .log]
  have workers := numbers .workers
  have timeout := numbers .timeout
  have capacity := numbers .capacity
  have events := numbers .events
  simp only [Setting.key] at workers timeout capacity events
  rw [ofLookup, ofLookup]
  simp only [workers, timeout, capacity, events, log]

end Agreement

theorem settings_by_key (given : String) (lookup : Lookup) :
    (∀ environment, ofLookup given lookup = .ok environment ↔
      Configured lookup (Text.upper given) environment) ∧
    ((∃ error, ofLookup given lookup = .error error) ↔
      ∃ (setting : Setting) (raw : String),
        Prevails lookup (Text.upper given) setting.key raw ∧ ¬ setting.Legible raw) ∧
    (∀ error, ofLookup given lookup = .error error ↔ Faulty lookup (Text.upper given) error) ∧
    (∀ other : Lookup, (∀ (setting : Setting) raw,
      Prevails other (Text.upper given) setting.key raw ↔
        Prevails lookup (Text.upper given) setting.key raw) →
      ofLookup given other = ofLookup given lookup) ∧
    (∀ (setting : Setting) own raw, Text.upper given ≠ "" →
      lookup (Text.upper given ++ "_" ++ setting.key) = some own → own ≠ "" →
      ofLookup given (Function.update lookup setting.key raw) = ofLookup given lookup) ∧
    ∀ name raw, (∀ setting : Setting, name ≠ setting.key ∧
        (Text.upper given ≠ "" → name ≠ Text.upper given ++ "_" ++ setting.key)) →
      ofLookup given (Function.update lookup name raw) = ofLookup given lookup := by
  refine ⟨of_lookup_ok_iff lookup given, of_lookup_fails_iff lookup given,
    of_lookup_error_iff lookup given, fun other same => ?_,
    fun setting own raw named found filled => ?_, fun name raw unrelated => ?_⟩
  · refine of_lookup_agrees given lookup other fun setting => ?_
    ext raw
    rw [effective_iff, effective_iff, same setting raw]
  · exact of_lookup_agrees given lookup _
      (shadowed_agrees lookup _ setting own named found filled raw)
  · refine of_lookup_agrees given lookup _ fun setting => ?_
    obtain ⟨plain, own⟩ := unrelated setting
    exact effective_agrees lookup _ _ _ (Function.update_of_ne plain.symm _ _) fun named =>
      Function.update_of_ne (own named).symm _ _

def crowded : Lookup := fun name =>
  if name = "PROD_SCHEDULER_QUEUE_CAPACITY" then some " +007\n"
  else if name = "PROD_SCHEDULER_WORKER_POOL_SIZE" then some ""
  else if name = "SCHEDULER_WORKER_POOL_SIZE" then some "4"
  else if name = "SCHEDULER_QUEUE_CAPACITY" then some "plenty"
  else if name = "LOG_FORMAT" then some "Pretty "
  else if name = "PROD_LOG_FORMAT" then some "JSON"
  else none

def crowdedProd : Environment := ⟨"PROD", ⟨4, none, some 7, none⟩, .json⟩

def sparse : Lookup := fun name =>
  if name = "PROD_SCHEDULER_QUEUE_CAPACITY" then some " +007\n"
  else if name = "SCHEDULER_WORKER_POOL_SIZE" then some "4"
  else if name = "PROD_LOG_FORMAT" then some "JSON"
  else none

theorem crowded_by_key :
    Configured crowded "PROD" crowdedProd ∧ ofLookup "prod" sparse = .ok crowdedProd ∧
      ofLookup "prod" (Function.update crowded Setting.capacity.key (some "none")) =
        .ok crowdedProd ∧
      ofLookup "prod" (Function.update crowded "PATH" (some "/bin")) = .ok crowdedProd ∧
      Faulty crowded "" (.invalidValue "SCHEDULER_QUEUE_CAPACITY" "plenty") ∧
      ofLookup "" (Function.update crowded "PROD_LOG_FORMAT" none) =
        .error (.invalidValue "SCHEDULER_QUEUE_CAPACITY" "plenty") := by
  have prod : Text.upper "prod" = "PROD" := by decide +kernel
  have plain : Text.upper "" = "" := by decide +kernel
  have read : ofLookup "prod" crowded = .ok crowdedProd := by decide +kernel
  have unread : ofLookup "" crowded =
      .error (.invalidValue "SCHEDULER_QUEUE_CAPACITY" "plenty") := by decide +kernel
  obtain ⟨configured, _, _, alike, shadowed, unrelated⟩ := settings_by_key "prod" crowded
  obtain ⟨_, _, faulty, _, _, others⟩ := settings_by_key "" crowded
  rw [prod] at configured alike shadowed unrelated
  rw [plain] at faulty others
  refine ⟨(configured crowdedProd).mp read, ?_, ?_, ?_, (faulty _).mp unread, ?_⟩
  · refine (alike sparse fun setting raw => ?_).trans read
    rw [← effective_iff, ← effective_iff]
    cases setting <;> rfl
  · exact (shadowed .capacity " +007\n" (some "none") (by decide) rfl (by decide)).trans read
  · refine (unrelated "PATH" (some "/bin") fun setting => ?_).trans read
    cases setting <;> decide +kernel
  · refine (others "PROD_LOG_FORMAT" none fun setting => ?_).trans unread
    cases setting <;> decide +kernel

end Environment

end Foreman
