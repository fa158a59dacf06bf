import Foreman.Proofs.Text.Words
import Foreman.Reference

set_option autoImplicit false

namespace Foreman.Reference

def Shows (half : List Char) : Prop := ∃ c ∈ half, Text.isBlank c = false

structure Spells (parsed : Reference) (text : List Char) : Prop where
  joined : text = parsed.module ++ ':' :: parsed.function
  single : ':' ∉ parsed.module ∧ ':' ∉ parsed.function
  shown : Shows parsed.module ∧ Shows parsed.function

def Parses (reference : String) : Prop := ∃ parsed, parse reference = .ok parsed

-- What a text has to be like, told without its parts.
def Readable (text : List Char) : Prop :=
  text.count ':' = 1 ∧
    ∀ before after, text = before ++ ':' :: after → Shows before ∧ Shows after

theorem shows_iff (half : List Char) : Shows half ↔ isBlank half = false := by
  rw [isBlank, List.all_eq_false]
  simp [Shows]

section Parts

variable (before after : List Char)

theorem of_chars_joined (plain : ':' ∉ before) :
    ofChars (before ++ ':' :: after) =
      if after.contains ':' || isBlank before || isBlank after then none
      else some ⟨before, after⟩ := by
  rw [ofChars, Text.take_unmarked ':' before after plain, Text.drop_unmarked ':' before after plain]

theorem count_joined :
    (before ++ ':' :: after).count ':' = 1 ↔ ':' ∉ before ∧ ':' ∉ after := by
  rw [List.count_append, List.count_cons_self, ← List.count_eq_zero, ← List.count_eq_zero]
  omega

end Parts

variable (text : List Char)

theorem of_chars_uncut (uncut : ':' ∉ text) : ofChars text = none := by
  have dropped : text.dropWhile (· != ':') = [] :=
    List.dropWhile_eq_nil_iff.mpr (Text.mark_differs ':' text uncut)
  rw [ofChars, dropped]

theorem of_chars_iff (parsed : Reference) : ofChars text = some parsed ↔ parsed.Spells text := by
  constructor
  · intro read
    by_cases cut : ':' ∈ text
    · obtain ⟨before, after, joined, plain⟩ := List.eq_append_cons_of_mem cut
      rw [joined, of_chars_joined before after plain] at read
      split at read
      · cases read
      · rename_i fine
        simp only [Bool.or_eq_true, not_or, Bool.not_eq_true, List.contains_iff_mem] at fine
        cases read
        exact ⟨joined, ⟨plain, fine.1.1⟩, (shows_iff before).mpr fine.1.2, (shows_iff after).mpr fine.2⟩
    · rw [of_chars_uncut text cut] at read
      cases read
  · intro spells
    rw [spells.joined, of_chars_joined _ _ spells.single.1]
    have plain : parsed.function.contains ':' = false := by
      rw [Bool.eq_false_iff, ne_eq, List.contains_iff_mem]
      exact spells.single.2
    rw [plain, (shows_iff _).mp spells.shown.1, (shows_iff _).mp spells.shown.2]
    rfl

theorem readable_iff : Readable text ↔ ∃ parsed : Reference, parsed.Spells text := by
  constructor
  · intro readable
    obtain ⟨once, shown⟩ := readable
    have cut : ':' ∈ text := List.count_pos_iff.mp (by omega)
    obtain ⟨before, after, joined⟩ := List.append_of_mem cut
    rw [joined] at once
    exact ⟨⟨before, after⟩, joined, (count_joined before after).mp once, shown before after joined⟩
  · intro spelled
    obtain ⟨parsed, joined, single, shown⟩ := spelled
    have once := (count_joined parsed.module parsed.function).mpr single
    refine ⟨by rw [joined]; exact once, fun before after other => ?_⟩
    -- Two cuts at the only colon are one and the same.
    rw [← joined, other] at once
    have plain := ((count_joined before after).mp once).1
    have same := joined.symm.trans other
    have left := congrArg (List.takeWhile (· != ':')) same
    have right := congrArg (List.dropWhile (· != ':')) same
    rw [Text.take_unmarked _ _ _ single.1, Text.take_unmarked _ _ _ plain] at left
    rw [Text.drop_unmarked _ _ _ single.1, Text.drop_unmarked _ _ _ plain] at right
    rw [← left, ← (List.cons.inj right).2]
    exact shown

theorem parse_iff (reference : String) (parsed : Reference) :
    parse reference = .ok parsed ↔ parsed.Spells reference.toList := by
  rw [← of_chars_iff, parse]
  cases ofChars reference.toList with
  | none => simp
  | some other => simp

theorem parse_malformed (reference : String) (cause : ResolutionError) :
    parse reference = .error cause ↔
      ¬ Parses reference ∧ cause = .malformedReference reference := by
  rw [Parses, parse]
  cases ofChars reference.toList with
  | none => simp [eq_comm]
  | some other => simp

theorem references_read (reference : String) :
    (∀ parsed, parse reference = .ok parsed ↔ parsed.Spells reference.toList) ∧
    (Parses reference ↔ Readable reference.toList) ∧
    ∀ cause, parse reference = .error cause ↔
      ¬ Readable reference.toList ∧ cause = .malformedReference reference := by
  have readable : Parses reference ↔ Readable reference.toList := by
    rw [readable_iff]
    exact exists_congr (parse_iff reference)
  refine ⟨parse_iff reference, readable, fun cause => ?_⟩
  rw [parse_malformed, readable]

-- A space that does not break is blank too; where something shows, blanks around it are kept.
example : parse "\u00a0:build" = .error (.malformedReference "\u00a0:build") := by decide +kernel

example : parse "reports: build" = .ok ⟨"reports".toList, " build".toList⟩ := by decide +kernel

end Foreman.Reference
