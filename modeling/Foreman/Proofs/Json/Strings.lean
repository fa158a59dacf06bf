import Foreman.Proofs.Json.Grammar
import Mathlib.Data.List.Forall2

set_option autoImplicit false

namespace Foreman.Json

theorem bound_ok {α β : Type} (first : Except Fault α) (next : α → Except Fault β) (value : β)
    (read : first >>= next = .ok value) : ∃ middle, first = .ok middle ∧ next middle = .ok value := by
  cases first with
  | error fault => cases read
  | ok middle => exact ⟨middle, rfl, read⟩

theorem byte_count_length (text : List Char) : text.length ≤ byteCount text := by
  have counted (total : Nat) :
      total + text.length ≤ text.foldl (fun total c => total + c.utf8Size) total := by
    induction text generalizing total with
    | nil => exact Nat.le_refl _
    | cons c rest ih =>
        have positive := Char.utf8Size_pos c
        have later := ih (total + c.utf8Size)
        rw [List.length_cons, List.foldl_cons]
        omega
  exact Nat.zero_add text.length ▸ counted 0

section Units

variable (text rest : List Char) (unit : Nat)

theorem hex_values (digits : List Char) (values : List Nat)
    (found : digits.mapM hexValue = some values) :
    List.Forall₂ (fun c value => hexValue c = some value) digits values := by
  induction digits generalizing values with
  | nil =>
      cases found
      exact .nil
  | cons c rest ih =>
      rw [List.mapM_cons] at found
      obtain ⟨value, own, found⟩ := Option.bind_eq_some_iff.mp found
      obtain ⟨others, later, same⟩ := Option.bind_eq_some_iff.mp found
      cases same
      exact .cons own (ih others later)

theorem hex_sound (read : readHex text = .ok (unit, rest)) :
    ∃ digits, CodeUnit digits unit ∧ text = digits ++ rest := by
  unfold readHex at read
  split at read
  · cases read
  · split at read
    · rename_i p q r s found
      have whole := List.take_append_drop 4 text
      have four := hex_values _ _ found
      generalize text.take 4 = digits at whole four
      cases read
      rcases four with _ | ⟨first, _ | ⟨second, _ | ⟨third, _ | ⟨fourth, _ | _⟩⟩⟩⟩
      exact ⟨_, ⟨_, _, _, _, p, q, r, s, rfl, first, second, third, fourth, rfl⟩, whole.symm⟩
    · cases read

theorem hex_complete (digits : List Char) (coded : CodeUnit digits unit) :
    readHex (digits ++ rest) = .ok (unit, rest) := by
  obtain ⟨a, b, c, d, p, q, r, s, rfl, first, second, third, fourth, rfl⟩ := coded
  have enough : ¬ byteCount ([a, b, c, d] ++ rest) < 4 := by
    have counted := byte_count_length ([a, b, c, d] ++ rest)
    rw [List.length_append] at counted
    simp only [List.length_cons, List.length_nil] at counted
    omega
  have four : ([a, b, c, d] ++ rest).take 4 = [a, b, c, d] := rfl
  rw [readHex, if_neg enough, four]
  simp [List.mapM_cons, first, second, third, fourth]

end Units

section Escapes

variable (text rest : List Char) (c : Char)

theorem low_sound (high : Nat) (read : readLowUnit high text = .ok (c, rest)) :
    ∃ second low, CodeUnit second low ∧ isLowSurrogate low = true ∧
      text = '\\' :: 'u' :: second ++ rest ∧
      c = Char.ofNat ((high - 0xd800) * 0x400 + (low - 0xdc00) + 0x10000) := by
  unfold readLowUnit at read
  split at read
  · obtain ⟨⟨low, more⟩, second, follows⟩ := bound_ok _ _ _ read
    obtain ⟨digits, coded, rfl⟩ := hex_sound _ more low second
    simp only at follows
    split at follows
    · rename_i isLow
      obtain ⟨same, left⟩ := Prod.mk.inj (Except.ok.inj follows)
      exact ⟨digits, low, coded, isLow, left ▸ rfl, same.symm⟩
    · cases follows
  · cases read
  · cases read
  · cases read
  · cases read

theorem unicode_sound (read : readUnicode text = .ok (c, rest)) :
    ∃ mark, Escape ('u' :: mark) c ∧ text = mark ++ rest := by
  unfold readUnicode at read
  obtain ⟨⟨unit, more⟩, first, follows⟩ := bound_ok _ _ _ read
  obtain ⟨digits, coded, rfl⟩ := hex_sound text more unit first
  simp only at follows
  split at follows
  · cases follows
  · rename_i unlow
    split at follows
    · rename_i isHigh
      obtain ⟨second, low, trails, isLow, left, same⟩ := low_sound more rest c unit follows
      refine ⟨digits ++ '\\' :: 'u' :: second, ?_, ?_⟩
      · rw [same]
        exact .pair digits second unit low coded trails isHigh isLow
      · rw [left, List.append_assoc]
    · rename_i unhigh
      cases follows
      exact ⟨digits, .unit digits unit coded ⟨Bool.eq_false_iff.mpr unlow, Bool.eq_false_iff.mpr unhigh⟩,
        rfl⟩

theorem escape_sound (read : readEscape text = .ok (c, rest)) :
    ∃ mark, Escape mark c ∧ text = mark ++ rest := by
  unfold readEscape at read
  split at read
  · cases read
  iterate 8
    · cases read
      exact ⟨_, .short _ _ (by decide), rfl⟩
  · obtain ⟨mark, escape, rfl⟩ := unicode_sound _ rest c read
    exact ⟨'u' :: mark, escape, rfl⟩
  · cases read

theorem escape_complete (mark : List Char) (escape : Escape mark c) :
    readEscape (mark ++ rest) = .ok (c, rest) := by
  cases escape with
  | short sign c listed =>
      simp only [shortEscapes, List.mem_cons, List.not_mem_nil, or_false, Prod.mk.injEq] at listed
      rcases listed with ⟨rfl, rfl⟩ | ⟨rfl, rfl⟩ | ⟨rfl, rfl⟩ | ⟨rfl, rfl⟩ | ⟨rfl, rfl⟩ | ⟨rfl, rfl⟩ |
        ⟨rfl, rfl⟩ | ⟨rfl, rfl⟩ <;> rfl
  | unit digits unit coded unpaired =>
      change readUnicode (digits ++ rest) = _
      rw [readUnicode, hex_complete rest unit digits coded]
      simp [bind, Except.bind, unpaired]
  | pair first second high low leads trails isHigh isLow =>
      have apart : isLowSurrogate high = false := by
        simp only [isHighSurrogate, isLowSurrogate, Bool.and_eq_true, decide_eq_true_eq] at isHigh ⊢
        simp
        omega
      have behind := hex_complete rest low second trails
      change readUnicode (first ++ ('\\' :: 'u' :: second) ++ rest) = _
      rw [List.append_assoc, readUnicode, hex_complete _ high first leads]
      simp [bind, Except.bind, apart, isHigh, readLowUnit, behind, isLow]

end Escapes

section Chars

variable (rest : List Char)

theorem chars_sound (fuel : Nat) (done text : List Char) (value : String)
    (read : readChars fuel done text = .ok (value, rest)) :
    ∃ content chars, Quotes content chars ∧ text = content ++ '"' :: rest ∧
      value = String.ofList (done.reverse ++ chars) := by
  induction fuel generalizing done text with
  | zero => cases read
  | succ fuel ih =>
      cases text with
      | nil => cases read
      | cons c more =>
          simp only [readChars] at read
          split at read
          · rename_i closes
            cases read
            exact ⟨[], [], .nil, closes ▸ rfl, by rw [List.append_nil]⟩
          · rename_i unclosed
            split at read
            · rename_i escapes
              obtain ⟨⟨escaped, left⟩, first, follows⟩ := bound_ok _ _ _ read
              obtain ⟨mark, escape, rfl⟩ := escape_sound more left escaped first
              obtain ⟨content, chars, quotes, rfl, same⟩ := ih (escaped :: done) left follows
              refine ⟨'\\' :: mark ++ content, escaped :: chars,
                .escaped mark escaped content chars escape quotes, ?_, ?_⟩
              · rw [escapes]
                simp
              · rw [same]
                simp
            · rename_i unescaped
              split at read
              · cases read
              · rename_i shown
                obtain ⟨content, chars, quotes, rfl, same⟩ := ih (c :: done) more read
                refine ⟨c :: content, c :: chars,
                  .plain c content chars (Nat.not_lt.mp shown) ⟨unclosed, unescaped⟩ quotes, rfl, ?_⟩
                rw [same]
                simp

theorem chars_complete (content chars : List Char) (quotes : Quotes content chars) (fuel : Nat)
    (enough : content.length < fuel) (done : List Char) :
    readChars fuel done (content ++ '"' :: rest) =
      .ok (String.ofList (done.reverse ++ chars), rest) := by
  induction quotes generalizing fuel done with
  | nil =>
      obtain ⟨fuel, rfl⟩ := Nat.exists_eq_succ_of_ne_zero (Nat.ne_of_gt enough)
      simp [readChars]
  | plain c content chars shown bare more ih =>
      obtain ⟨fuel, rfl⟩ := Nat.exists_eq_succ_of_ne_zero (Nat.ne_zero_of_lt enough)
      have later := ih fuel (Nat.lt_of_succ_lt_succ enough) (c :: done)
      simp [readChars, bare, Nat.not_lt.mpr shown, later]
  | escaped mark c content chars escape more ih =>
      obtain ⟨fuel, rfl⟩ := Nat.exists_eq_succ_of_ne_zero (Nat.ne_zero_of_lt enough)
      rw [List.cons_append, List.length_cons, List.length_append] at enough
      have later := ih fuel (by omega) (c :: done)
      have read := escape_complete (content ++ '"' :: rest) c mark escape
      simp [readChars, read, later, bind, Except.bind]

end Chars

theorem string_sound (text rest : List Char) (value : String)
    (read : readString text = .ok (value, rest)) :
    ∃ quoted, Quoted value quoted ∧ '"' :: text = quoted ++ rest := by
  obtain ⟨content, chars, quotes, rfl, rfl⟩ := chars_sound rest _ [] text value read
  refine ⟨'"' :: content ++ ['"'], ⟨content, by simpa using quotes, rfl⟩, ?_⟩
  simp

theorem string_complete (value : String) (quoted rest : List Char) (own : Quoted value quoted) :
    ∃ text, quoted ++ rest = '"' :: text ∧ readString text = .ok (value, rest) := by
  obtain ⟨content, quotes, rfl⟩ := own
  refine ⟨content ++ '"' :: rest, by simp, ?_⟩
  have read := chars_complete rest content value.toList quotes
    ((content ++ '"' :: rest).length + 1) (by rw [List.length_append]; omega) []
  rw [readString, read, List.reverse_nil, List.nil_append, String.ofList_toList]

end Foreman.Json
