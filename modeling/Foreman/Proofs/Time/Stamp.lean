import Foreman.Proofs.Number.Digits
import Foreman.Proofs.Time.Calendar
import Foreman.Time.Stamp

set_option autoImplicit false

namespace Foreman.Stamp

open Number (digits padded isDigit ofDigits)

theorem digit_not_blank (c : Char) (digit : isDigit c = true) : Text.isBlank c = false := by
  have range : 48 ≤ c.toNat ∧ c.toNat ≤ 57 := by
    simpa [isDigit] using digit
  simp only [Text.isBlank, Text.blankRanges, List.any_cons, List.any_nil, Bool.or_false,
    Bool.or_eq_false_iff, Bool.and_eq_false_imp, decide_eq_true_eq, decide_eq_false_iff_not]
  omega

theorem drop_blanks_shown (c : Char) (text : List Char) (shown : Text.isBlank c = false) :
    Text.dropBlanks (c :: text) = c :: text := by
  rw [Text.dropBlanks, List.dropWhile_cons_of_neg]
  simp [shown]

theorem number_digits (most : Nat) (taken rest : List Char) (digit : ∀ c ∈ taken, isDigit c = true)
    (some_digit : taken ≠ []) (fits : taken.length ≤ most)
    (ends : taken.length = most ∨ ∀ c, rest.head? = some c → isDigit c = false) :
    number most (taken ++ rest) = some (ofDigits taken, rest) := by
  have start : Text.dropBlanks (taken ++ rest) = taken ++ rest := by
    cases taken with
    | nil => exact absurd rfl some_digit
    | cons c later =>
        apply drop_blanks_shown
        exact digit_not_blank c (digit c List.mem_cons_self)
  have stop : (rest.take (most - taken.length)).takeWhile isDigit = [] := by
    cases ends with
    | inl full => rw [full, Nat.sub_self, List.take_zero, List.takeWhile_nil]
    | inr other =>
        cases rest with
        | nil => rw [List.take_nil, List.takeWhile_nil]
        | cons c later =>
            cases most - taken.length with
            | zero => rfl
            | succ left =>
                rw [List.take_succ_cons, List.takeWhile_cons_of_neg]
                simp [other c rfl]
  have found : ((taken ++ rest).take most).takeWhile isDigit = taken := by
    rw [List.take_append, List.take_of_length_le fits, List.takeWhile_append_of_pos digit, stop,
      List.append_nil]
  simp only [number, start, found]
  rw [if_neg (by simp [some_digit]), List.drop_left]

theorem number_padded (width n : Nat) (rest : List Char) (wide : 0 < width)
    (bound : n < 10 ^ width) : number width (padded width n ++ rest) = some (n, rest) := by
  have length := Number.padded_length width n wide bound
  rw [number_digits width _ rest (Number.padded_digit width n) (Number.padded_filled width n)
    (by omega) (.inl length), Number.of_digits_padded]

theorem number_in_padded (low high n : Nat) (rest : List Char) (least : low ≤ n) (most : n ≤ high)
    (bound : high < 100) : numberIn low high (padded 2 n ++ rest) = some (n, rest) := by
  simp only [numberIn, number_padded 2 n rest (by omega) (by omega), Option.bind_eq_bind,
    Option.bind_some]
  rw [if_pos ⟨least, most⟩]

theorem number_open (n : Nat) (rest : List Char) (c : Char) (other : isDigit c = false) :
    number (padded 4 n ++ c :: rest).length (padded 4 n ++ c :: rest) = some (n, c :: rest) := by
  rw [number_digits _ _ _ (Number.padded_digit 4 n) (Number.padded_filled 4 n),
    Number.of_digits_padded]
  · rw [List.length_append]
    exact Nat.le_add_right _ _
  · refine .inr fun next head => ?_
    cases head
    exact other

theorem year_plain (n : Nat) (rest : List Char) (bound : n < 10000) :
    year (padded 4 n ++ rest) = some ((n : Int), rest) := by
  obtain ⟨c, later, shape, digit⟩ := Number.padded_cons 4 n
  have value := number_padded 4 n rest (by omega) bound
  rw [shape, List.cons_append] at value ⊢
  have start := drop_blanks_shown c (later ++ rest) (digit_not_blank c digit)
  simp only [year, start]
  split
  · next minus =>
      cases minus
      exact absurd digit (by decide)
  · next plus =>
      cases plus
      exact absurd digit (by decide)
  · rw [value]
    rfl

theorem padded_start (n : Nat) (rest : List Char) :
    ((padded 4 n ++ rest).take 1).all isDigit = true := by
  obtain ⟨c, later, shape, digit⟩ := Number.padded_cons 4 n
  rw [shape]
  simp [digit]

theorem year_minus (n : Nat) (rest : List Char) :
    year ('-' :: (padded 4 n ++ '-' :: rest)) = some (-(n : Int), '-' :: rest) := by
  change (if !((padded 4 n ++ '-' :: rest).take 1).all isDigit then none
    else (number (padded 4 n ++ '-' :: rest).length (padded 4 n ++ '-' :: rest)).bind
      fun found => some (-(found.1 : Int), found.2)) = _
  rw [padded_start, number_open n rest '-' rfl]
  rfl

theorem year_plus (n : Nat) (rest : List Char) :
    year ('+' :: (padded 4 n ++ '-' :: rest)) = some ((n : Int), '-' :: rest) := by
  change (if !((padded 4 n ++ '-' :: rest).take 1).all isDigit then none
    else (number (padded 4 n ++ '-' :: rest).length (padded 4 n ++ '-' :: rest)).bind
      fun found => some ((found.1 : Int), found.2)) = _
  rw [padded_start, number_open n rest '-' rfl]
  rfl

theorem year_read (written : Int) (rest : List Char) :
    year (yearText written ++ '-' :: rest) = some (written, '-' :: rest) := by
  by_cases plain : 0 ≤ written ∧ written ≤ 9999
  · have value : (written.toNat : Int) = written := Int.toNat_of_nonneg plain.1
    rw [yearText, if_pos plain, year_plain _ _ (by omega), value]
  · by_cases negative : written < 0
    · have value : -(written.natAbs : Int) = written := by omega
      rw [yearText, if_neg plain, if_pos negative, List.cons_append, year_minus, value]
    · have value : (written.natAbs : Int) = written := by omega
      rw [yearText, if_neg plain, if_neg negative, List.cons_append, year_plus, value]

theorem mark_read (c : Char) (rest : List Char) (shown : Text.isBlank c = false) :
    mark c (c :: rest) = some rest := by
  simp only [mark, drop_blanks_shown c rest shown, if_pos]

theorem fraction_places (places value : Nat) (wide : 0 < places) (fits : places ≤ 9)
    (bound : value < 10 ^ places) :
    fraction ('.' :: padded places value ++ ['Z']) =
      some (value * Number.powerOfTen (9 - places), ['Z']) := by
  have length := Number.padded_length places value wide bound
  have digit := Number.padded_digit places value
  have front : (padded places value ++ ['Z']).takeWhile isDigit = padded places value := by
    rw [List.takeWhile_append_of_pos digit]
    exact List.append_nil _
  have back : (padded places value ++ ['Z']).dropWhile isDigit = ['Z'] := by
    rw [List.dropWhile_append_of_pos digit]
    rfl
  have filled := Number.padded_filled places value
  rw [List.cons_append]
  simp only [fraction, front, back]
  rw [if_neg (by simp [filled]), List.take_of_length_le (by omega), length,
    Number.of_digits_padded]

theorem fraction_read (nanos : Nat) (bound : nanos < 1000000000) :
    fraction (fractionText nanos ++ ['Z']) = some (nanos, ['Z']) := by
  by_cases whole : nanos = 0
  · rw [fractionText, if_pos whole, whole]
    rfl
  · by_cases millis : nanos % 1000000 = 0
    · rw [fractionText, if_neg whole, if_pos millis, fraction_places 3 _ (by omega) (by omega)]
      · have same := Nat.div_mul_cancel (Nat.dvd_of_mod_eq_zero millis)
        change some (nanos / 1000000 * 1000000, ['Z']) = _
        rw [same]
      · omega
    · by_cases micros : nanos % 1000 = 0
      · rw [fractionText, if_neg whole, if_neg millis, if_pos micros,
          fraction_places 6 _ (by omega) (by omega)]
        · have same := Nat.div_mul_cancel (Nat.dvd_of_mod_eq_zero micros)
          change some (nanos / 1000 * 1000, ['Z']) = _
          rw [same]
        · omega
      · rw [fractionText, if_neg whole, if_neg millis, if_neg micros,
          fraction_places 9 _ (by omega) (by omega)]
        · change some (nanos * 1, ['Z']) = _
          rw [Nat.mul_one]
        · omega

theorem of_unix_parts (time : Instant) :
    Instant.ofUnix? time.seconds time.subNanos = some time := by
  have same : time.seconds * 1000000000 + (time.subNanos : Int) = time.nanos := by
    rw [Instant.seconds, Instant.subNanos]
    omega
  rw [Instant.ofUnix?, same, Instant.ofNanos?, dif_pos ⟨time.lower, time.upper⟩]

theorem second_of_day_lt (time : Instant) : time.secondOfDay < 86400 := by
  rw [Instant.secondOfDay]
  omega

theorem sub_nanos_lt (time : Instant) : time.subNanos < 1000000000 := by
  rw [Instant.subNanos]
  omega

theorem leap_cases (stamp : Timestamp) :
    stamp.leap.toNat = 0 ∨ stamp.leap.toNat = 1 ∧ stamp.time.secondOfDay % 60 = 59 := by
  cases leap : stamp.leap with
  | false => exact .inl rfl
  | true => exact .inr ⟨rfl, stamp.last_second leap⟩

theorem second_le (stamp : Timestamp) :
    stamp.time.secondOfDay % 60 + stamp.leap.toNat ≤ 60 := by
  have leap := leap_cases stamp
  omega

theorem clock_seconds (stamp : Timestamp) :
    stamp.time.secondOfDay / 3600 * 3600 + stamp.time.secondOfDay / 60 % 60 * 60 +
        min (stamp.time.secondOfDay % 60 + stamp.leap.toNat) 59 = stamp.time.secondOfDay := by
  have leap := leap_cases stamp
  omega

theorem written_seconds (time : Instant) :
    time.date.toDayNumber * 86400 + (time.secondOfDay : Int) = time.seconds := by
  rw [Instant.date, Date.day_number_date, Instant.secondOfDay]
  omega

theorem local_text (stamp : Timestamp) :
    localText stamp ++ ['Z'] =
      yearText stamp.time.date.year ++ '-' :: (padded 2 stamp.time.date.month ++ '-' ::
        (padded 2 stamp.time.date.day ++ 'T' :: (padded 2 (stamp.time.secondOfDay / 3600) ++ ':' ::
          (padded 2 (stamp.time.secondOfDay / 60 % 60) ++ ':' ::
            (padded 2 (stamp.time.secondOfDay % 60 + stamp.leap.toNat) ++
              (fractionText stamp.time.subNanos ++ ['Z'])))))) := by
  simp only [localText, dateText, clockText, List.append_assoc, List.cons_append, List.nil_append]

theorem second_kind (stamp : Timestamp) :
    (if stamp.time.secondOfDay % 60 + stamp.leap.toNat = 60 then Timestamp.ofLeap? stamp.time
      else some (Timestamp.ofInstant stamp.time)) = some stamp := by
  obtain ⟨time, leap, last⟩ := stamp
  cases leap with
  | false =>
      have common : ¬ time.secondOfDay % 60 + false.toNat = 60 := by
        change ¬ time.secondOfDay % 60 + 0 = 60
        omega
      rw [if_neg common]
      rfl
  | true =>
      have final := last rfl
      have sixty : time.secondOfDay % 60 + true.toNat = 60 := by
        change time.secondOfDay % 60 + 1 = 60
        omega
      rw [if_pos sixty, Timestamp.ofLeap?, dif_pos final]

theorem read_step {α β : Type} {parsed : Option α} {value : α} (found : parsed = some value)
    (next : α → Option β) : parsed.bind next = next value := by
  rw [found, Option.bind_some]

theorem read_write (stamp : Timestamp) : read (write stamp) = some stamp := by
  have valid : stamp.time.date.isValid = true := Date.day_number_valid _
  obtain ⟨⟨january, december⟩, first, last⟩ := (Date.is_valid_iff _).mp valid
  have days : stamp.time.date.day ≤ 31 := by
    exact Nat.le_trans last (Date.month_length_le _ _)
  have midnight := second_of_day_lt stamp.time
  rw [read, write, String.toList_ofList, local_text]
  refine (read_step (year_read _ _) _).trans ?_
  refine (read_step (mark_read '-' _ rfl) _).trans ?_
  refine (read_step (number_in_padded 1 12 _ _ january december (by decide)) _).trans ?_
  refine (read_step (mark_read '-' _ rfl) _).trans ?_
  refine (read_step (number_in_padded 1 31 _ _ first days (by decide)) _).trans ?_
  refine (read_step (rfl : daySeparator ('T' :: _) = some _) _).trans ?_
  refine (read_step (number_in_padded 0 23 _ _ (by omega) (by omega) (by decide)) _).trans ?_
  refine (read_step (mark_read ':' _ rfl) _).trans ?_
  refine (read_step (number_in_padded 0 59 _ _ (by omega) (by omega) (by decide)) _).trans ?_
  refine (read_step (mark_read ':' _ rfl) _).trans ?_
  refine (read_step (number_in_padded 0 60 _ _ (by omega) (second_le stamp) (by decide)) _).trans ?_
  refine (read_step (fraction_read _ (sub_nanos_lt stamp.time)) _).trans ?_
  refine (read_step (rfl : offset ['Z'] = some (0, [])) _).trans ?_
  have accepted : ¬ (Text.dropBlanks [] ≠ [] ∨ (!stamp.time.date.isValid) = true) := by
    rw [valid]
    exact fun wrong => wrong.elim (fun left => left rfl) Bool.noConfusion
  have seconds : stamp.time.date.toDayNumber * 86400 +
      ((stamp.time.secondOfDay / 3600 * 3600 + stamp.time.secondOfDay / 60 % 60 * 60 +
        min (stamp.time.secondOfDay % 60 + stamp.leap.toNat) 59 : Nat) : Int) =
        stamp.time.seconds := by
    rw [clock_seconds, written_seconds]
  have written := of_unix_parts stamp.time
  rw [← seconds] at written
  refine (if_neg accepted).trans ?_
  refine (read_step written _).trans ?_
  rw [← Int.sub_zero (_ + _)] at written
  refine (read_step written _).trans ?_
  exact second_kind stamp

end Foreman.Stamp
