import Foreman.Number.Digits
import Mathlib.Data.List.Induction
import Mathlib.Tactic.IntervalCases

set_option autoImplicit false

namespace Foreman.Number

theorem digit_char_value (digit : Nat) (small : digit < 10) :
    digitValue (digitChar digit) = digit := by
  interval_cases digit <;> rfl

theorem digit_char_digit (digit : Nat) (small : digit < 10) : isDigit (digitChar digit) = true := by
  interval_cases digit <;> rfl

theorem digits_small (n : Nat) (small : n < 10) : digits n = [digitChar n] := by
  rw [digits, dif_pos small]

theorem digits_large (n : Nat) (large : ¬ n < 10) :
    digits n = digits (n / 10) ++ [digitChar (n % 10)] := by
  rw [digits, dif_neg large]

theorem of_digits_last (text : List Char) (c : Char) :
    ofDigits (text ++ [c]) = ofDigits text * 10 + digitValue c := by
  simp only [ofDigits, List.foldl_append, List.foldl_cons, List.foldl_nil]

theorem of_digits_zeros (count : Nat) (text : List Char) :
    ofDigits (List.replicate count '0' ++ text) = ofDigits text := by
  induction count with
  | zero => rfl
  | succ count before =>
      rw [List.replicate_succ, List.cons_append]
      exact before

theorem of_digits_digits (n : Nat) : ofDigits (digits n) = n := by
  induction n using digits.induct with
  | case1 n small =>
      rw [digits_small n small]
      change 0 * 10 + digitValue (digitChar n) = n
      rw [digit_char_value n small]
      omega
  | case2 n large before =>
      rw [digits_large n large, of_digits_last, before, digit_char_value (n % 10) (by omega)]
      omega

theorem digits_digit (n : Nat) : ∀ c ∈ digits n, isDigit c = true := by
  induction n using digits.induct with
  | case1 n small =>
      intro c listed
      rw [digits_small n small, List.mem_singleton] at listed
      rw [listed]
      exact digit_char_digit n small
  | case2 n large before =>
      intro c listed
      rw [digits_large n large, List.mem_append, List.mem_singleton] at listed
      cases listed with
      | inl front => exact before c front
      | inr last =>
          rw [last]
          exact digit_char_digit (n % 10) (by omega)

theorem digits_length_pos (n : Nat) : 0 < (digits n).length := by
  by_cases small : n < 10
  · rw [digits_small n small]
    exact Nat.one_pos
  · rw [digits_large n small, List.length_append]
    exact Nat.succ_pos _

-- Induction on the width: a number of one place less is left when the last digit is taken off.
theorem digits_length_le (width : Nat) :
    ∀ n, 0 < width → n < 10 ^ width → (digits n).length ≤ width := by
  induction width with
  | zero =>
      intro n wide
      omega
  | succ width before =>
      intro n wide bound
      by_cases small : n < 10
      · rw [digits_small n small]
        exact wide
      · have more : 0 < width := by
          by_contra none
          have single : width = 0 := by omega
          subst single
          exact small bound
        have shorter : n / 10 < 10 ^ width := by
          apply Nat.div_lt_of_lt_mul
          rw [Nat.pow_succ] at bound
          omega
        rw [digits_large n small, List.length_append]
        exact Nat.succ_le_succ (before (n / 10) more shorter)

theorem of_digits_padded (width n : Nat) : ofDigits (padded width n) = n := by
  rw [padded, of_digits_zeros, of_digits_digits]

theorem padded_digit (width n : Nat) : ∀ c ∈ padded width n, isDigit c = true := by
  intro c listed
  rw [padded, List.mem_append] at listed
  cases listed with
  | inl zero =>
      rw [List.eq_of_mem_replicate zero]
      rfl
  | inr digit => exact digits_digit n c digit

theorem padded_filled (width n : Nat) : padded width n ≠ [] := by
  apply List.ne_nil_of_length_pos
  have some := digits_length_pos n
  rw [padded, List.length_append]
  omega

theorem padded_length (width n : Nat) (wide : 0 < width) (bound : n < 10 ^ width) :
    (padded width n).length = width := by
  have fits := digits_length_le width n wide bound
  rw [padded, List.length_append, List.length_replicate]
  omega

theorem padded_cons (width n : Nat) :
    ∃ c rest, padded width n = c :: rest ∧ isDigit c = true := by
  have digit := padded_digit width n
  cases same : padded width n with
  | nil => exact absurd same (padded_filled width n)
  | cons c rest =>
      rw [same] at digit
      exact ⟨c, rest, rfl, digit c List.mem_cons_self⟩

section Reading

def Written (text : List Char) (n : Nat) : Prop :=
  ∃ zeros, text = List.replicate zeros '0' ++ digits n ∨
    text = '+' :: (List.replicate zeros '0' ++ digits n)

theorem digit_value_char (c : Char) (digit : isDigit c = true) :
    digitValue c < 10 ∧ digitChar (digitValue c) = c := by
  rw [isDigit, Bool.and_eq_true, decide_eq_true_eq, decide_eq_true_eq] at digit
  obtain ⟨low, high⟩ := digit
  have zero : '0'.toNat = 48 := rfl
  have nine : '9'.toNat = 57 := rfl
  have code : '0'.toNat + (c.toNat - '0'.toNat) = c.toNat := by omega
  refine ⟨by rw [digitValue]; omega, ?_⟩
  rw [digitChar, digitValue, code, Char.ofNat_toNat]

-- Induction from the last digit: it goes behind those before it, unless these are all zeros.
theorem digits_written (text : List Char) (filled : text ≠ [])
    (digit : ∀ c ∈ text, isDigit c = true) :
    ∃ zeros, text = List.replicate zeros '0' ++ digits (ofDigits text) := by
  induction text using List.reverseRecOn with
  | nil => exact absurd rfl filled
  | append_singleton front c before =>
      obtain ⟨small, own⟩ := digit_value_char c (digit c (by simp))
      rw [of_digits_last]
      by_cases first : front = []
      · have value : ofDigits front * 10 + digitValue c = digitValue c := by
          rw [first]
          exact Nat.zero_add _
        rw [value, digits_small _ small, own, first]
        exact ⟨0, rfl⟩
      · obtain ⟨zeros, written⟩ := before first fun other member =>
          digit other (List.mem_append_left [c] member)
        by_cases zero : ofDigits front = 0
        · refine ⟨zeros + 1, ?_⟩
          have plain : digits 0 = ['0'] := digits_small 0 (by omega)
          rw [zero, plain] at written
          rw [zero, Nat.zero_mul, Nat.zero_add, digits_small _ small, own, written,
            List.replicate_succ']
        · refine ⟨zeros, ?_⟩
          have large : ¬ ofDigits front * 10 + digitValue c < 10 := by omega
          have upper : (ofDigits front * 10 + digitValue c) / 10 = ofDigits front := by omega
          have last : (ofDigits front * 10 + digitValue c) % 10 = digitValue c := by omega
          rw [digits_large _ large, upper, last, own, ← List.append_assoc, ← written]

theorem zeros_digit (zeros n : Nat) :
    (∀ c ∈ List.replicate zeros '0' ++ digits n, isDigit c = true) ∧
      List.replicate zeros '0' ++ digits n ≠ [] ∧
      ofDigits (List.replicate zeros '0' ++ digits n) = n := by
  refine ⟨fun c listed => ?_, ?_, by rw [of_digits_zeros, of_digits_digits]⟩
  · rcases List.mem_append.mp listed with zero | digit
    · rw [List.eq_of_mem_replicate zero]
      rfl
    · exact digits_digit n c digit
  · have some := digits_length_pos n
    intro empty
    rw [(List.append_eq_nil_iff.mp empty).2] at some
    cases some

def readPlain (bound : Nat) (text : List Char) : Option Nat :=
  if text.isEmpty || !text.all isDigit then none
  else if ofDigits text < bound then some (ofDigits text) else none

theorem read_plain_iff (bound n : Nat) (text : List Char) :
    readPlain bound text = some n ↔
      n < bound ∧ ∃ zeros, text = List.replicate zeros '0' ++ digits n := by
  constructor
  · intro read
    rw [readPlain] at read
    split at read
    · cases read
    · rename_i fine
      simp only [Bool.or_eq_true, not_or, Bool.not_eq_true, List.isEmpty_eq_false_iff,
        Bool.not_eq_false', List.all_eq_true] at fine
      split at read
      · rename_i small
        cases read
        exact ⟨small, digits_written text fine.1 fine.2⟩
      · cases read
  · intro written
    obtain ⟨small, zeros, rfl⟩ := written
    obtain ⟨digit, filled, value⟩ := zeros_digit zeros n
    rw [readPlain, List.isEmpty_eq_false_iff.mpr filled, List.all_eq_true.mpr digit, value]
    exact if_pos small

theorem read_unsigned (bound : Nat) (text : List Char) (unsigned : text.head? ≠ some '+') :
    readBelow bound text = readPlain bound text := by
  delta readBelow
  dsimp only
  split
  · exact absurd rfl unsigned
  · rfl

theorem read_below_iff (bound n : Nat) (text : List Char) :
    readBelow bound text = some n ↔ n < bound ∧ Written text n := by
  by_cases signed : text.head? = some '+'
  · obtain ⟨rest, rfl⟩ := List.head?_eq_some_iff.mp signed
    have plain : readBelow bound ('+' :: rest) = readPlain bound rest := rfl
    rw [plain, read_plain_iff]
    refine and_congr_right fun _ => exists_congr fun zeros => ?_
    constructor
    · intro written
      exact .inr (congrArg _ written)
    · intro written
      rcases written with unsigned | behind
      · have digit := (zeros_digit zeros n).1
        rw [← unsigned] at digit
        cases digit '+' List.mem_cons_self
      · exact (List.cons.inj behind).2
  · rw [read_unsigned bound text signed, read_plain_iff]
    refine and_congr_right fun _ => exists_congr fun zeros => ?_
    constructor
    · exact .inl
    · intro written
      rcases written with unsigned | behind
      · exact unsigned
      · rw [behind] at signed
        exact absurd rfl signed

end Reading

end Foreman.Number
