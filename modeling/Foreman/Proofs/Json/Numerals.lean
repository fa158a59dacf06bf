import Foreman.Proofs.Json.Grammar
import Mathlib.Data.List.Basic

set_option autoImplicit false

namespace Foreman.Json

open Number (isDigit)

-- What may come behind a value.
def Ends (rest : List Char) : Prop :=
  ∀ c ∈ rest.head?, c ∈ [' ', '\n', '\t', '\r', ',', ']', '\x7d']

theorem undigited_span (text : List Char) (undigited : startsWithDigit text = false) :
    text.takeWhile isDigit = [] ∧ text.dropWhile isDigit = text := by
  cases text with
  | nil => exact ⟨rfl, rfl⟩
  | cons c rest =>
      change isDigit c = false at undigited
      rw [List.takeWhile_cons, List.dropWhile_cons, undigited]
      exact ⟨rfl, rfl⟩

section Behind

variable (text more : List Char) (ends : Ends more)

include ends

theorem ends_head (test : Char → Bool)
    (apart : ∀ c ∈ [' ', '\n', '\t', '\r', ',', ']', '\x7d'], test c = false) :
    ∀ c ∈ more.head?, test c = false :=
  fun c first => apart c (ends c first)

theorem ends_digit : startsWithDigit more = false := by
  cases more with
  | nil => rfl
  | cons c rest => exact ends_head (c :: rest) ends isDigit (by simp [isDigit]) c rfl

theorem starts_digit_append : startsWithDigit (text ++ more) = startsWithDigit text := by
  cases text with
  | nil => exact ends_digit more ends
  | cons c rest => rfl

theorem starts_exponent_append : startsExponent (text ++ more) = startsExponent text := by
  cases text with
  | nil =>
      cases more with
      | nil => rfl
      | cons c rest =>
          exact ends_head (c :: rest) ends (fun c => c == 'e' || c == 'E') (by simp) c rfl
  | cons c rest => rfl

theorem drop_digits_append :
    (text ++ more).dropWhile isDigit = text.dropWhile isDigit ++ more := by
  induction text with
  | nil => exact (undigited_span more (ends_digit more ends)).2
  | cons c rest ih =>
      rw [List.cons_append, List.dropWhile_cons, List.dropWhile_cons, ih]
      cases isDigit c <;> rfl

theorem take_digits_append : (text ++ more).takeWhile isDigit = text.takeWhile isDigit := by
  induction text with
  | nil => exact (undigited_span more (ends_digit more ends)).1
  | cons c rest ih => rw [List.cons_append, List.takeWhile_cons, List.takeWhile_cons, ih]

theorem read_digits_append (bound value : Nat) :
    readDigits bound value (text ++ more) =
      ((readDigits bound value text).1, (readDigits bound value text).2 ++ more) := by
  induction text generalizing value with
  | nil =>
      cases more with
      | nil => rfl
      | cons c rest =>
          have stops : isDigit c = false := ends_digit (c :: rest) ends
          simp [readDigits, stops]
  | cons c rest ih =>
      rw [List.cons_append, readDigits, readDigits]
      split
      · exact ih _
      · rfl

end Behind

-- A reader of numbers that is given more text reads the same, and leaves that much more behind.
def Agrees (more : List Char) (shorter longer : Except Fault (Json × List Char)) : Prop :=
  ∀ value rest, longer = .ok (value, rest) ↔ ∃ left, shorter = .ok (value, left) ∧ rest = left ++ more

theorem exponent_unsigned (negative : Bool) (significand : Nat) (start : Int) (c : Char)
    (rest : List Char) (unsigned : c ≠ '+' ∧ c ≠ '-') :
    readExponent negative significand start (c :: rest) =
      readPower negative significand start false (c :: rest) := by
  unfold readExponent
  split
  · rename_i same
    exact absurd (List.cons.inj same).1 unsigned.1
  · rename_i same
    exact absurd (List.cons.inj same).1 unsigned.2
  · rfl

def pointed (negative : Bool) (significand : Nat) (exponent : Int)
    (bare : List Char → Except Fault (Json × List Char)) (text : List Char) :
    Except Fault (Json × List Char) :=
  match text with
  | '.' :: rest => readFraction negative significand exponent rest
  | other => bare other

theorem pointed_bare (negative : Bool) (significand : Nat) (exponent : Int)
    (bare : List Char → Except Fault (Json × List Char)) (text : List Char)
    (pointless : text.head? ≠ some '.') :
    pointed negative significand exponent bare text = bare text := by
  unfold pointed
  split
  · exact absurd rfl pointless
  · rfl

theorem after_whole_pointed (negative : Bool) (value : Nat) (text : List Char) :
    afterWhole negative value text = pointed negative value 0
      (fun other =>
        if startsExponent other then readExponent negative value 0 (other.drop 1)
        else .ok (wholeNumber negative value, other)) text := rfl

theorem long_pointed (negative : Bool) (value : Nat) (text : List Char) :
    readLong negative value text = pointed negative value (text.takeWhile isDigit).length
      (afterDigits negative value (text.takeWhile isDigit).length) (text.dropWhile isDigit) := rfl

theorem number_undigited (negative : Bool) (c : Char) (rest : List Char)
    (undigited : isDigit c = false) :
    readNumber negative (c :: rest) = .error (.upon .invalidNumber (c :: rest)) := by
  unfold readNumber
  split
  · rename_i same
    cases same
  · rename_i same
    rw [(List.cons.inj same).1] at undigited
    cases undigited
  · rename_i same
    cases same
    rw [if_pos (by simp [undigited])]

theorem number_digited (negative : Bool) (c : Char) (rest : List Char) (digit : isDigit c = true)
    (positive : c ≠ '0') :
    readNumber negative (c :: rest) =
      let (value, left) := readDigits Number.bound64 0 (c :: rest)
      if startsWithDigit left then readLong negative value left
      else afterWhole negative value left := by
  unfold readNumber
  split
  · rename_i same
    cases same
  · rename_i same
    exact absurd (List.cons.inj same).1 positive
  · rename_i same
    cases same
    rw [if_neg (by simp [digit])]

section Agreement

variable (negative : Bool) (text more : List Char) (ends : Ends more)

theorem agrees_ok (value : Json) (rest : List Char) :
    Agrees more (.ok (value, rest)) (.ok (value, rest ++ more)) := by
  intro other left
  constructor
  · intro same
    cases same
    exact ⟨rest, rfl, rfl⟩
  · rintro ⟨short, same, rfl⟩
    cases same
    rfl

theorem agrees_error (first second : Fault) : Agrees more (.error first) (.error second) := by
  intro value rest
  constructor
  · intro same
    cases same
  · rintro ⟨left, same, _⟩
    cases same

theorem agrees_fraction (significand : Nat) (exponent : Int) :
    Agrees more (fraction negative significand exponent text)
      (fraction negative significand exponent (text ++ more)) := by
  unfold fraction
  cases scale significand.toUInt64.toFloat exponent with
  | none => exact agrees_error more _ _
  | some x => exact agrees_ok more _ _

include ends

theorem agrees_power (significand : Nat) (start : Int) (down : Bool) :
    Agrees more (readPower negative significand start down text)
      (readPower negative significand start down (text ++ more)) := by
  have digits := read_digits_append text more ends Number.bound31 0
  cases text with
  | nil =>
      cases more with
      | nil => exact agrees_error [] _ _
      | cons c rest =>
          have stops : isDigit c = false := ends_digit (c :: rest) ends
          simp only [readPower, List.nil_append, stops, Bool.not_false, if_true]
          exact agrees_error (c :: rest) _ _
  | cons c rest =>
      simp only [readPower, List.cons_append] at digits ⊢
      cases isDigit c with
      | false => exact agrees_error more _ _
      | true =>
          simp only [Bool.not_true, Bool.false_eq_true, if_false, digits,
            starts_digit_append _ more ends, drop_digits_append _ more ends]
          split
          · split
            · exact agrees_error more _ _
            · exact agrees_ok more _ _
          · exact agrees_fraction negative _ more significand _

theorem agrees_exponent (significand : Nat) (start : Int) :
    Agrees more (readExponent negative significand start text)
      (readExponent negative significand start (text ++ more)) := by
  have power (down : Bool) (text : List Char) :=
    agrees_power negative text more ends significand start down
  cases text with
  | nil =>
      cases more with
      | nil => exact power false []
      | cons c rest =>
          have unsigned : c ≠ '+' ∧ c ≠ '-' := by
            refine ⟨?_, ?_⟩ <;> rintro rfl <;> exact absurd (ends _ rfl) (by decide)
          rw [List.nil_append, exponent_unsigned negative significand start c rest unsigned]
          exact power false []
  | cons c rest =>
      by_cases unsigned : c ≠ '+' ∧ c ≠ '-'
      · rw [List.cons_append, exponent_unsigned negative significand start c rest unsigned,
          exponent_unsigned negative significand start c (rest ++ more) unsigned]
        exact power false (c :: rest)
      · by_cases plus : c = '+'
        · subst plus
          exact power false rest
        · obtain rfl : c = '-' := by simpa [plus] using unsigned
          exact power true rest

theorem agrees_after_digits (significand : Nat) (exponent : Int) :
    Agrees more (afterDigits negative significand exponent text)
      (afterDigits negative significand exponent (text ++ more)) := by
  unfold afterDigits
  rw [starts_exponent_append text more ends]
  cases marked : startsExponent text with
  | false => exact agrees_fraction negative text more significand exponent
  | true =>
      cases text with
      | nil => cases marked
      | cons mark rest => exact agrees_exponent negative rest more ends significand exponent

theorem agrees_read_fraction (significand : Nat) (exponent : Int) :
    Agrees more (readFraction negative significand exponent text)
      (readFraction negative significand exponent (text ++ more)) := by
  have digits := read_digits_append text more ends Number.bound64 significand
  cases text with
  | nil =>
      cases more with
      | nil => exact agrees_error [] _ _
      | cons c rest =>
          have stops : isDigit c = false := ends_digit (c :: rest) ends
          simp only [readFraction, List.nil_append, stops, Bool.not_false, if_true]
          exact agrees_error (c :: rest) _ _
  | cons c rest =>
      simp only [readFraction, List.cons_append] at digits ⊢
      cases isDigit c with
      | false => exact agrees_error more _ _
      | true =>
          have count (left : List Char) :
              (c :: (rest ++ more)).length - (left ++ more).length =
                (c :: rest).length - left.length := by
            rw [← List.cons_append, List.length_append, List.length_append]
            omega
          simp only [Bool.not_true, Bool.false_eq_true, if_false, digits, count,
            drop_digits_append _ more ends]
          exact agrees_after_digits negative _ more ends _ _

theorem agrees_pointed (significand : Nat) (exponent : Int)
    (bare : List Char → Except Fault (Json × List Char))
    (kept : Agrees more (bare text) (bare (text ++ more))) :
    Agrees more (pointed negative significand exponent bare text)
      (pointed negative significand exponent bare (text ++ more)) := by
  by_cases point : text.head? = some '.'
  · obtain ⟨rest, rfl⟩ := List.head?_eq_some_iff.mp point
    exact agrees_read_fraction negative rest more ends significand exponent
  · have pointless : (text ++ more).head? ≠ some '.' := by
      cases text with
      | nil =>
          intro first
          exact absurd (ends '.' first) (by decide)
      | cons c rest => exact point
    rw [pointed_bare negative significand exponent bare text point,
      pointed_bare negative significand exponent bare _ pointless]
    exact kept

theorem agrees_after_whole (value : Nat) :
    Agrees more (afterWhole negative value text) (afterWhole negative value (text ++ more)) := by
  rw [after_whole_pointed, after_whole_pointed]
  refine agrees_pointed negative text more ends value 0 _ ?_
  simp only [starts_exponent_append text more ends]
  cases marked : startsExponent text with
  | false => exact agrees_ok more _ _
  | true =>
      cases text with
      | nil => cases marked
      | cons mark rest => exact agrees_exponent negative rest more ends value 0

theorem agrees_long (value : Nat) :
    Agrees more (readLong negative value text) (readLong negative value (text ++ more)) := by
  rw [long_pointed, long_pointed, take_digits_append text more ends,
    drop_digits_append text more ends]
  exact agrees_pointed negative _ more ends value _ _
    (agrees_after_digits negative _ more ends value _)

theorem agrees_number :
    Agrees more (readNumber negative text) (readNumber negative (text ++ more)) := by
  have digits := read_digits_append text more ends Number.bound64 0
  cases text with
  | nil =>
      cases more with
      | nil => exact agrees_error [] _ _
      | cons c rest =>
          have stops : isDigit c = false := ends_digit (c :: rest) ends
          rw [List.nil_append, number_undigited negative c rest stops]
          exact agrees_error (c :: rest) _ _
  | cons c rest =>
      by_cases zero : c = '0'
      · subst zero
        simp only [readNumber, List.cons_append, starts_digit_append rest more ends]
        split
        · exact agrees_error more _ _
        · exact agrees_after_whole negative rest more ends 0
      · rw [List.cons_append] at digits ⊢
        cases digit : isDigit c with
        | false =>
            rw [number_undigited negative c rest digit, number_undigited negative c _ digit]
            exact agrees_error more _ _
        | true =>
            rw [number_digited negative c rest digit zero, number_digited negative c _ digit zero]
            simp only [digits, starts_digit_append _ more ends]
            split
            · exact agrees_long negative _ more ends _
            · exact agrees_after_whole negative _ more ends _

end Agreement

end Foreman.Json
