import Foreman.Proofs.Trigger.Schedule

set_option autoImplicit false

namespace Foreman

theorem Interval.same_iff (a b : Interval) : a.same b = true ↔ a = b := by
  rw [Interval.same, Bool.and_eq_true, Bool.and_eq_true, beq_iff_eq, beq_iff_eq, beq_iff_eq]
  constructor
  · intro parts
    obtain ⟨⟨every, start⟩, stop⟩ := parts
    cases a
    cases b
    simp_all
  · intro equal
    rw [equal]
    exact ⟨⟨rfl, rfl⟩, rfl⟩

namespace CronSchedule

-- The columns are not compared: they are what the text stands for.
theorem expression_decides (a b : CronSchedule) (same : a.expression = b.expression) : a = b := by
  obtain ⟨text, columns, parsed⟩ := a
  obtain ⟨other, others, reparsed⟩ := b
  cases same
  rw [parsed, Option.some.injEq] at reparsed
  cases reparsed
  rfl

theorem parse_expression (expression : String) (schedule : CronSchedule)
    (parsed : parse expression = some schedule) : schedule.expression = Text.trim expression := by
  delta parse at parsed
  dsimp only at parsed
  split at parsed
  · cases parsed
    rfl
  · cases parsed

theorem parse_trimmed (expression : String) : parse (Text.trim expression) = parse expression := by
  have twice : Text.trim (Text.trim expression) = Text.trim expression := by
    rw [Text.trim, Text.trim, String.toList_ofList, Text.trimmed_twice]
  delta parse
  rw [twice]

def normal (expression : String) : String :=
  String.ofList (Columns.completed (Text.trimmed expression.toList))

theorem columns_normal (expression : String) :
    columnsOf expression =
      (Columns.ofShorthand (normal expression).toList <|>
        Columns.ofFields (normal expression).toList) := by
  rw [columns_of_eq, Columns.ofText, normal, String.toList_ofList]

theorem normal_twice (expression : String) : normal (normal expression) = normal expression := by
  rw [normal, normal, String.toList_ofList]
  refine congrArg String.ofList ?_
  by_cases five : (Text.words expression.toList).length = 5
  · have shown := Text.words_shown expression.toList (by omega)
    have headed := Text.trimmed_headed '0' [' '] expression.toList (by decide) shown
    rw [List.cons_append, List.singleton_append] at headed
    rw [completed_five expression.toList five, headed, completed_six expression.toList five]
  · have plain : Columns.completed (Text.trimmed expression.toList) =
        Text.trimmed expression.toList := by
      rw [Columns.completed, Text.word_count_words, Text.words_trimmed, if_neg five]
    rw [plain, Text.trimmed_twice, plain]

end CronSchedule

namespace Trigger

mutual

theorem same_iff (a b : Trigger) : same a b = true ↔ a = b := by
  cases a with
  | date time => cases b <;> simp [same]
  | interval period => cases b <;> simp [same, Interval.same_iff]
  | cron schedule =>
      cases b with
      | cron other =>
          rw [same, beq_iff_eq, Trigger.cron.injEq]
          exact ⟨CronSchedule.expression_decides schedule other, congrArg CronSchedule.expression⟩
      | date _ => simp [same]
      | interval _ => simp [same]
      | any _ _ => simp [same]
  | any first others =>
      cases b with
      | any own rest =>
          rw [same, Bool.and_eq_true, Trigger.any.injEq, same_iff first own, all_same_iff others rest]
      | date _ => simp [same]
      | interval _ => simp [same]
      | cron _ => simp [same]

theorem all_same_iff (as bs : List Trigger) : sameAll as bs = true ↔ as = bs := by
  cases as with
  | nil => cases bs <;> simp [sameAll]
  | cons a rest =>
      cases bs with
      | nil => simp [sameAll]
      | cons b others =>
          rw [sameAll, Bool.and_eq_true, List.cons.injEq, same_iff a b, all_same_iff rest others]

end

theorem same_triggers_agree :
    (∀ a b, same a b = true → ∀ previous now, a.next previous now = b.next previous now) ∧
    (∀ text other a b, ofCron text = .ok a → ofCron other = .ok b →
      (same a b = true ↔ Text.trim text = Text.trim other)) ∧
    (∀ text trigger, ofCron text = .ok trigger → ∃ schedule, trigger = .cron schedule ∧
      schedule.expression = Text.trim text ∧ ∃ again, ofCron schedule.expression = .ok again ∧
        same again trigger = true ∧
        ∀ previous now, again.next previous now = trigger.next previous now) ∧
    ∀ text, CronSchedule.normal (CronSchedule.normal text) = CronSchedule.normal text ∧
      CronSchedule.columnsOf text =
        (Columns.ofShorthand (CronSchedule.normal text).toList <|>
          Columns.ofFields (CronSchedule.normal text).toList) := by
  refine ⟨fun a b equal previous now => ?_, fun text other a b first second => ?_,
    fun text trigger accepted => ?_, fun text =>
    ⟨CronSchedule.normal_twice text, CronSchedule.columns_normal text⟩⟩
  · rw [(same_iff a b).mp equal]
  · obtain ⟨schedule, parsed, rfl⟩ := (cron_accepted_iff text a).mp first
    obtain ⟨fellow, reparsed, rfl⟩ := (cron_accepted_iff other b).mp second
    rw [same, beq_iff_eq, CronSchedule.parse_expression text schedule parsed,
      CronSchedule.parse_expression other fellow reparsed]
  · obtain ⟨schedule, parsed, rfl⟩ := (cron_accepted_iff text trigger).mp accepted
    have own := CronSchedule.parse_expression text schedule parsed
    have again : ofCron schedule.expression = .ok (.cron schedule) := by
      rw [cron_accepted_iff, own, CronSchedule.parse_trimmed]
      exact ⟨schedule, parsed, rfl⟩
    exact ⟨schedule, rfl, own, .cron schedule, again, (same_iff _ _).mpr rfl, fun _ _ => rfl⟩

def spacedMondays : String := "\u3000 0 9 * * Mon\n"

def plainMondays : String := "0 9 * * Mon"

theorem spaced_mondays_agree :
    ∃ spaced plain, ofCron spacedMondays = .ok spaced ∧ ofCron plainMondays = .ok plain ∧
      same spaced plain = true ∧ ofCron plainMondays = .ok spaced ∧
      plain.next none (atSecond 1704099600) = some (atSecond 1704704400) ∧
      same (.any spaced [.date (atSecond 1704099660)]) (.any plain [.date (atSecond 1704099660)]) =
        true ∧
      ∀ previous now, (Trigger.any spaced [.date (atSecond 1704099660)]).next previous now =
        (Trigger.any plain [.date (atSecond 1704099660)]).next previous now := by
  obtain ⟨agree, equal, again, _⟩ := same_triggers_agree
  have asked : ((CronSchedule.parse spacedMondays).bind fun schedule =>
      (Trigger.cron schedule).next none (atSecond 1704099600)) = some (atSecond 1704704400) := by
    decide +kernel
  obtain ⟨schedule, parsed, fired⟩ := Option.bind_eq_some_iff.mp asked
  have accepted := (cron_accepted_iff spacedMondays _).mpr ⟨schedule, parsed, rfl⟩
  have readable : (CronSchedule.parse plainMondays).isSome = true := by decide +kernel
  obtain ⟨other, reparsed⟩ := Option.isSome_iff_exists.mp readable
  have plain := (cron_accepted_iff plainMondays _).mpr ⟨other, reparsed, rfl⟩
  have alike := (equal _ _ _ _ accepted plain).mpr (by decide +kernel)
  obtain ⟨own, shape, expression, trigger, renewed, kept, _⟩ := again spacedMondays _ accepted
  have written : own.expression = plainMondays := expression.trans (by decide +kernel)
  have combined : same (.any (.cron schedule) [.date (atSecond 1704099660)])
      (.any (.cron other) [.date (atSecond 1704099660)]) = true := by
    rw [same, alike]
    decide +kernel
  rw [written] at renewed
  exact ⟨.cron schedule, .cron other, accepted, plain, alike, (same_iff _ _).mp kept ▸ renewed,
    (agree _ _ alike none _).symm.trans fired, combined, agree _ _ combined⟩

end Trigger

end Foreman
