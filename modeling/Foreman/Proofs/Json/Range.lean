import Foreman.Proofs.Json.Numerals
import Foreman.Proofs.Number.Digits
import Mathlib.Data.List.TakeWhile

set_option autoImplicit false

namespace Foreman.Json

open Number (isDigit digitValue)

section Spans

variable (bound value : Nat) (text : List Char)

theorem read_digits_span :
    ∃ taken, text = taken ++ (readDigits bound value text).2 ∧ ∀ c ∈ taken, isDigit c = true := by
  induction text generalizing value with
  | nil => exact ⟨[], rfl, fun c member => by cases member⟩
  | cons c rest ih =>
      rw [readDigits]
      split
      · rename_i below
        obtain ⟨taken, whole, digits⟩ := ih (value * 10 + digitValue c)
        rw [Bool.and_eq_true] at below
        refine ⟨c :: taken, congrArg (c :: ·) whole, ?_⟩
        exact List.forall_mem_cons.mpr ⟨below.1, digits⟩
      · exact ⟨[], rfl, fun c member => by cases member⟩

theorem read_digits_drop :
    (readDigits bound value text).2.dropWhile isDigit = text.dropWhile isDigit := by
  obtain ⟨taken, whole, digits⟩ := read_digits_span bound value text
  conv_rhs => rw [whole]
  exact (List.dropWhile_append_of_pos digits).symm

theorem read_digits_rest (undigited : startsWithDigit (readDigits bound value text).2 = false) :
    (readDigits bound value text).2 = text.dropWhile isDigit := by
  rw [← read_digits_drop bound value text, (undigited_span _ undigited).2]

theorem digits_ahead (c : Char) (rest : List Char) (digit : isDigit c = true) :
    Digits ((c :: rest).takeWhile isDigit) := by
  refine ⟨?_, fun other member => List.mem_takeWhile_imp member⟩
  rw [List.takeWhile_cons, if_pos digit]
  exact List.cons_ne_nil _ _

end Spans

section Sound

variable (negative : Bool) (text rest : List Char) (value : Json)

theorem fraction_sound (significand : Nat) (exponent : Int)
    (read : fraction negative significand exponent text = .ok (value, rest)) : rest = text := by
  unfold fraction at read
  split at read
  · exact (Prod.mk.inj (Except.ok.inj read)).2.symm
  · cases read

theorem power_sound (significand : Nat) (start : Int) (down : Bool)
    (read : readPower negative significand start down text = .ok (value, rest)) :
    ∃ digits, Digits digits ∧ text = digits ++ rest := by
  cases text with
  | nil => cases read
  | cons c more =>
      simp only [readPower] at read
      cases digit : isDigit c with
      | false => simp [digit] at read
      | true =>
          have left : rest = (c :: more).dropWhile isDigit := by
            simp only [digit, Bool.not_true, Bool.false_eq_true, if_false] at read
            split at read
            · split at read
              · cases read
              · rw [← read_digits_drop Number.bound31 0]
                exact (Prod.mk.inj (Except.ok.inj read)).2.symm
            · rename_i undigited
              rw [fraction_sound negative _ rest value _ _ read]
              exact read_digits_rest _ _ _ (Bool.eq_false_iff.mpr undigited)
          exact ⟨_, digits_ahead c more digit,
            left ▸ (List.takeWhile_append_dropWhile (p := isDigit) (l := c :: more)).symm⟩

theorem exponent_sound (significand : Nat) (start : Int)
    (read : readExponent negative significand start text = .ok (value, rest)) :
    ∃ sign digits, sign ∈ [[], ['+'], ['-']] ∧ Digits digits ∧ text = sign ++ digits ++ rest := by
  unfold readExponent at read
  split at read
  · obtain ⟨digits, own, rfl⟩ := power_sound negative _ rest value _ _ _ read
    exact ⟨['+'], digits, by decide, own, rfl⟩
  · obtain ⟨digits, own, rfl⟩ := power_sound negative _ rest value _ _ _ read
    exact ⟨['-'], digits, by decide, own, rfl⟩
  · obtain ⟨digits, own, rfl⟩ := power_sound negative _ rest value _ _ _ read
    exact ⟨[], digits, by decide, own, rfl⟩

theorem marked_sound (significand : Nat) (exponent : Int) (marked : startsExponent text = true)
    (read : readExponent negative significand exponent (text.drop 1) = .ok (value, rest)) :
    ∃ power, Power power ∧ text = power ++ rest := by
  obtain ⟨sign, digits, signed, own, whole⟩ := exponent_sound negative _ rest value _ _ read
  cases text with
  | nil => cases marked
  | cons mark more =>
      have either : mark ∈ ['e', 'E'] := by simpa [startsExponent] using marked
      refine ⟨mark :: (sign ++ digits), .inr ⟨mark, sign, digits, either, signed, own, rfl⟩, ?_⟩
      exact congrArg (mark :: ·) whole

theorem after_digits_sound (significand : Nat) (exponent : Int)
    (read : afterDigits negative significand exponent text = .ok (value, rest)) :
    ∃ power, Power power ∧ text = power ++ rest := by
  unfold afterDigits at read
  split at read
  · rename_i marked
    exact marked_sound negative text rest value significand exponent marked read
  · exact ⟨[], .inl rfl, (fraction_sound negative text rest value _ _ read).symm⟩

theorem read_fraction_sound (significand : Nat) (exponent : Int)
    (read : readFraction negative significand exponent text = .ok (value, rest)) :
    ∃ digits power, Digits digits ∧ Power power ∧ text = digits ++ power ++ rest := by
  cases text with
  | nil => cases read
  | cons c more =>
      simp only [readFraction] at read
      cases digit : isDigit c with
      | false => simp [digit] at read
      | true =>
          simp only [digit, Bool.not_true, Bool.false_eq_true, if_false, read_digits_drop] at read
          obtain ⟨power, own, left⟩ := after_digits_sound negative _ rest value _ _ read
          refine ⟨_, power, digits_ahead c more digit, own, ?_⟩
          rw [List.append_assoc, ← left, List.takeWhile_append_dropWhile]

theorem pointed_sound (significand : Nat) (exponent : Int)
    (bare : List Char → Except Fault (Json × List Char))
    (sound : bare text = .ok (value, rest) → ∃ power, Power power ∧ text = power ++ rest)
    (read : pointed negative significand exponent bare text = .ok (value, rest)) :
    ∃ fraction power, Fraction fraction ∧ Power power ∧ text = fraction ++ power ++ rest := by
  by_cases point : text.head? = some '.'
  · obtain ⟨more, rfl⟩ := List.head?_eq_some_iff.mp point
    obtain ⟨digits, power, own, raised, rfl⟩ :=
      read_fraction_sound negative more rest value significand exponent read
    exact ⟨'.' :: digits, power, .inr ⟨digits, own, rfl⟩, raised, rfl⟩
  · rw [pointed_bare negative significand exponent bare text point] at read
    obtain ⟨power, raised, whole⟩ := sound read
    exact ⟨[], power, .inl rfl, raised, whole⟩

theorem after_whole_sound (whole : Nat)
    (read : afterWhole negative whole text = .ok (value, rest)) :
    ∃ fraction power, Fraction fraction ∧ Power power ∧ text = fraction ++ power ++ rest := by
  rw [after_whole_pointed] at read
  refine pointed_sound negative text rest value whole 0 _ (fun read => ?_) read
  split at read
  · rename_i marked
    exact marked_sound negative text rest value whole 0 marked read
  · exact ⟨[], .inl rfl, (Prod.mk.inj (Except.ok.inj read)).2⟩

theorem number_sound (read : readNumber negative text = .ok (value, rest)) :
    ∃ digits, Numeral digits ∧ text = digits ++ rest := by
  cases text with
  | nil => cases read
  | cons c more =>
      by_cases zero : c = '0'
      · subst zero
        simp only [readNumber] at read
        split at read
        · cases read
        · obtain ⟨fraction, power, broken, raised, rfl⟩ :=
            after_whole_sound negative more rest value 0 read
          refine ⟨['0'] ++ fraction ++ power, ⟨['0'], fraction, power, ?_, broken, raised, rfl⟩, ?_⟩
          · exact ⟨⟨List.cons_ne_nil _ _, by simp [isDigit]⟩, fun _ => rfl⟩
          · simp
      · cases digit : isDigit c with
        | false =>
            rw [number_undigited negative c more digit] at read
            cases read
        | true =>
            rw [number_digited negative c more digit zero] at read
            have whole : Whole ((c :: more).takeWhile isDigit) := by
              refine ⟨digits_ahead c more digit, fun first => ?_⟩
              rw [List.takeWhile_cons, if_pos digit] at first
              exact absurd (Option.some.inj first) zero
            obtain ⟨fraction, power, broken, raised, left⟩ : ∃ fraction power, Fraction fraction ∧
                Power power ∧ (c :: more).dropWhile isDigit = fraction ++ power ++ rest := by
              simp only at read
              split at read
              · rw [long_pointed, read_digits_drop] at read
                exact pointed_sound negative _ rest value _ _ _
                  (after_digits_sound negative _ rest value _ _) read
              · rename_i undigited
                rw [read_digits_rest _ _ _ (Bool.eq_false_iff.mpr undigited)] at read
                exact after_whole_sound negative _ rest value _ read
            refine ⟨_, ⟨_, fraction, power, whole, broken, raised, rfl⟩, ?_⟩
            rw [List.append_assoc, List.append_assoc, ← List.append_assoc fraction, ← left,
              List.takeWhile_append_dropWhile]

end Sound

section Ranged

def Ranged (result : Except Fault (Json × List Char)) : Prop :=
  (∃ value, result = .ok (value, [])) ∨
    ∃ fault, result = .error fault ∧ fault.reason = .numberOutOfRange

variable (negative : Bool) (digits power : List Char)

theorem digits_dropped (own : Digits digits) (rest : List Char)
    (undigited : startsWithDigit rest = false) :
    (digits ++ rest).dropWhile isDigit = rest ∧ (digits ++ rest).takeWhile isDigit = digits := by
  obtain ⟨none, rest_kept⟩ := undigited_span rest undigited
  rw [List.dropWhile_append_of_pos own.2, List.takeWhile_append_of_pos own.2, none,
    List.append_nil]
  exact ⟨rest_kept, rfl⟩

theorem power_undigited (raised : Power power) : startsWithDigit power = false := by
  rcases raised with rfl | ⟨mark, sign, digits, marked, _, _, rfl⟩
  · rfl
  · simp only [List.mem_cons, List.not_mem_nil, or_false] at marked
    rcases marked with rfl | rfl <;> rfl

theorem fraction_ranged (significand : Nat) (exponent : Int) :
    Ranged (fraction negative significand exponent []) := by
  unfold fraction
  cases scale significand.toUInt64.toFloat exponent with
  | none => exact .inr ⟨_, rfl, rfl⟩
  | some x => exact .inl ⟨_, rfl⟩

theorem power_ranged (own : Digits digits) (significand : Nat) (start : Int) (down : Bool) :
    Ranged (readPower negative significand start down digits) := by
  obtain ⟨ended, _⟩ := digits_dropped digits own [] rfl
  rw [List.append_nil] at ended
  cases digits with
  | nil => exact absurd rfl own.1
  | cons c rest =>
      have digit : isDigit c = true := own.2 c List.mem_cons_self
      simp only [readPower, digit, Bool.not_true, Bool.false_eq_true, if_false]
      split
      · split
        · exact .inr ⟨_, rfl, rfl⟩
        · rw [read_digits_drop, ended]
          exact .inl ⟨_, rfl⟩
      · rename_i undigited
        rw [read_digits_rest _ _ _ (Bool.eq_false_iff.mpr undigited), ended]
        exact fraction_ranged negative significand _

theorem exponent_ranged (own : Digits digits) (sign : List Char) (signed : sign ∈ [[], ['+'], ['-']])
    (significand : Nat) (start : Int) :
    Ranged (readExponent negative significand start (sign ++ digits)) := by
  have power (down : Bool) := power_ranged negative digits own significand start down
  simp only [List.mem_cons, List.not_mem_nil, or_false] at signed
  rcases signed with rfl | rfl | rfl
  · cases digits with
    | nil => exact absurd rfl own.1
    | cons c rest =>
        have unsigned : c ≠ '+' ∧ c ≠ '-' := by
          refine ⟨?_, ?_⟩ <;> rintro rfl <;> exact absurd (own.2 _ List.mem_cons_self) (by decide)
        rw [List.nil_append, exponent_unsigned negative significand start c rest unsigned]
        exact power false
  · exact power false
  · exact power true

theorem raised_ranged (raised : Power power) (significand : Nat) (exponent : Int)
    (bare : Except Fault (Json × List Char)) (ranged : power = [] → Ranged bare) :
    Ranged (if startsExponent power then
      readExponent negative significand exponent (power.drop 1) else bare) := by
  rcases raised with rfl | ⟨mark, sign, digits, marked, signed, own, rfl⟩
  · exact ranged rfl
  · have starts : startsExponent (mark :: (sign ++ digits)) = true := by
      simpa [startsExponent] using marked
    rw [if_pos starts]
    exact exponent_ranged negative digits own sign signed significand exponent

theorem after_digits_ranged (raised : Power power) (significand : Nat) (exponent : Int) :
    Ranged (afterDigits negative significand exponent power) := by
  refine raised_ranged negative power raised significand exponent _ ?_
  rintro rfl
  exact fraction_ranged negative significand exponent

theorem read_fraction_ranged (own : Digits digits) (raised : Power power) (significand : Nat)
    (exponent : Int) : Ranged (readFraction negative significand exponent (digits ++ power)) := by
  have ended := (digits_dropped digits own power (power_undigited power raised)).1
  cases digits with
  | nil => exact absurd rfl own.1
  | cons c rest =>
      have digit : isDigit c = true := own.2 c List.mem_cons_self
      rw [List.cons_append] at ended ⊢
      simp only [readFraction, digit, Bool.not_true, Bool.false_eq_true, if_false, read_digits_drop,
        ended]
      exact after_digits_ranged negative power raised _ _

theorem pointed_ranged (fraction : List Char) (broken : Fraction fraction) (raised : Power power)
    (significand : Nat) (exponent : Int) (bare : List Char → Except Fault (Json × List Char))
    (ranged : Ranged (bare power)) :
    Ranged (pointed negative significand exponent bare (fraction ++ power)) := by
  rcases broken with rfl | ⟨digits, own, rfl⟩
  · rw [List.nil_append, pointed_bare]
    · exact ranged
    · rcases raised with rfl | ⟨mark, sign, digits, marked, _, _, rfl⟩
      · exact Option.some_ne_none '.' ∘ Eq.symm
      · simp only [List.mem_cons, List.not_mem_nil, or_false] at marked
        rcases marked with rfl | rfl <;> simp
  · exact read_fraction_ranged negative digits power own raised significand exponent

theorem after_whole_ranged (fraction : List Char) (broken : Fraction fraction) (raised : Power power)
    (value : Nat) : Ranged (afterWhole negative value (fraction ++ power)) := by
  rw [after_whole_pointed]
  refine pointed_ranged negative power fraction broken raised value 0 _ ?_
  refine raised_ranged negative power raised value 0 _ ?_
  rintro rfl
  exact .inl ⟨_, rfl⟩

theorem fraction_undigited (fraction : List Char) (broken : Fraction fraction)
    (raised : Power power) : startsWithDigit (fraction ++ power) = false := by
  rcases broken with rfl | ⟨digits, _, rfl⟩
  · exact power_undigited power raised
  · rfl

theorem numeral_ranged (numeral : Numeral digits) : Ranged (readNumber negative digits) := by
  obtain ⟨whole, fraction, power, plain, broken, raised, rfl⟩ := numeral
  have undigited := fraction_undigited power fraction broken raised
  obtain ⟨ended, _⟩ := digits_dropped whole plain.1 _ undigited
  rw [List.append_assoc]
  by_cases zero : whole.head? = some '0'
  · obtain rfl := plain.2 zero
    simp only [readNumber, List.cons_append, List.nil_append, undigited, Bool.false_eq_true,
      if_false]
    exact after_whole_ranged negative power fraction broken raised 0
  · cases whole with
    | nil => exact absurd rfl plain.1.1
    | cons c rest =>
        have digit : isDigit c = true := plain.1.2 c List.mem_cons_self
        have positive : c ≠ '0' := fun same => zero (congrArg some same)
        rw [List.cons_append] at ended ⊢
        rw [number_digited negative c _ digit positive]
        simp only
        split
        · rw [long_pointed, read_digits_drop, ended]
          exact pointed_ranged negative power fraction broken raised _ _ _
            (after_digits_ranged negative power raised _ _)
        · rename_i left
          rw [read_digits_rest _ _ _ (Bool.eq_false_iff.mpr left), ended]
          exact after_whole_ranged negative power fraction broken raised _

def OutOfRange (negative : Bool) (digits : List Char) : Prop :=
  ∃ fault, readNumber negative digits = .error fault ∧ fault.reason = .numberOutOfRange

theorem worth_some_iff (numeral : Numeral digits) :
    (∃ value, worth? negative digits = some value) ↔ ¬ OutOfRange negative digits := by
  rcases numeral_ranged negative digits numeral with ⟨value, read⟩ | ⟨fault, read, reason⟩
  · have within : ¬ OutOfRange negative digits := by
      rintro ⟨fault, refused, _⟩
      rw [read] at refused
      cases refused
    exact iff_of_true ⟨value, by rw [worth?, read]⟩ within
  · have worthless : ¬ ∃ value, worth? negative digits = some value := by
      rintro ⟨value, worth⟩
      rw [worth?, read] at worth
      cases worth
    exact iff_of_false worthless (not_not.mpr ⟨fault, read, reason⟩)

end Ranged

namespace Tree

mutual

def InRange : Tree → Prop
  | .null | .bool _ | .text _ => True
  | .number negative digits => ¬ OutOfRange negative digits
  | .array items => ItemsInRange items
  | .object members => MembersInRange members

def ItemsInRange : List Tree → Prop
  | [] => True
  | item :: rest => InRange item ∧ ItemsInRange rest

def MembersInRange : List (String × Tree) → Prop
  | [] => True
  | (_, value) :: rest => InRange value ∧ MembersInRange rest

end

mutual

theorem value_some_iff (tree : Tree) (own : List Char) (spells : tree.Spells own) :
    (∃ value, tree.value? = some value) ↔ tree.InRange := by
  cases tree with
  | null | bool _ | text _ => exact iff_of_true ⟨_, rfl⟩ trivial
  | number negative digits => exact worth_some_iff negative digits spells.1
  | array items =>
      obtain ⟨inner, _, ⟨rfl, _⟩ | listed⟩ := spells
      · exact iff_of_true ⟨_, rfl⟩ trivial
      · rw [InRange, ← item_values_some_iff items _ listed, value?]
        simp
  | object members =>
      obtain ⟨inner, _, ⟨rfl, _⟩ | listed⟩ := spells
      · exact iff_of_true ⟨_, rfl⟩ trivial
      · rw [InRange, ← member_values_some_iff members _ listed, value?]
        simp

theorem item_values_some_iff (items : List Tree) (text : List Char)
    (spells : SpellsItems items text) :
    (∃ values, itemValues? items = some values) ↔ ItemsInRange items := by
  cases items with
  | nil => exact iff_of_true ⟨_, rfl⟩ trivial
  | cons item rest =>
      obtain ⟨_, own, _, more, _, _, first, _, others⟩ := spells
      rw [ItemsInRange, ← value_some_iff item own first, ← item_values_some_iff rest more others,
        itemValues?]
      cases item.value? <;> cases itemValues? rest <;> simp

theorem member_values_some_iff (members : List (String × Tree)) (text : List Char)
    (spells : SpellsMembers members text) :
    (∃ values, memberValues? members = some values) ↔ MembersInRange members := by
  cases members with
  | nil => exact iff_of_true ⟨_, rfl⟩ trivial
  | cons member rest =>
      obtain ⟨name, value⟩ := member
      obtain ⟨_, _, _, _, own, _, more, _, _, _, _, _, first, _, others⟩ := spells
      rw [MembersInRange, ← value_some_iff value own first,
        ← member_values_some_iff rest more others, memberValues?]
      cases value.value? <;> cases memberValues? rest <;> simp

end

end Tree

section Exact

variable (negative : Bool) (rest : List Char) (ends : Ends rest) (value : Json)

include ends

theorem number_taken (text : List Char) (read : readNumber negative text = .ok (value, rest)) :
    ∃ digits, Numeral digits ∧ text = digits ++ rest ∧ worth? negative digits = some value := by
  obtain ⟨digits, numeral, rfl⟩ := number_sound negative text rest value read
  refine ⟨digits, numeral, rfl, ?_⟩
  obtain ⟨left, alone, whole⟩ := (agrees_number negative digits rest ends value rest).mp read
  obtain rfl : left = [] := List.self_eq_append_left.mp whole
  rw [worth?, alone]

theorem number_read (digits : List Char) (worth : worth? negative digits = some value) :
    readNumber negative (digits ++ rest) = .ok (value, rest) := by
  unfold worth? at worth
  split at worth
  · rename_i same alone
    cases worth
    exact (agrees_number negative digits rest ends value rest).mpr ⟨[], alone, rfl⟩
  · cases worth

end Exact

end Foreman.Json
