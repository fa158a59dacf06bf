import Mathlib.Data.List.Lex
import Mathlib.Tactic.IntervalCases

set_option autoImplicit false

namespace Foreman.Text

def bytes (text : String) : List UInt8 :=
  text.toUTF8.data.toList

theorem bytes_chars (text : String) :
    bytes text = text.toList.flatMap String.utf8EncodeChar := by
  rw [bytes, String.toUTF8_eq_toByteArray, ← String.utf8Encode_toList, List.utf8Encode,
    List.data_toByteArray]

section Parts

def Parts (a b : List UInt8) : Prop :=
  ∃ shared low high left right,
    a = shared ++ low :: left ∧ b = shared ++ high :: right ∧ low < high

theorem parts_here (low high : UInt8) (left right : List UInt8) (less : low < high) :
    Parts (low :: left) (high :: right) :=
  ⟨[], low, high, left, right, rfl, rfl, less⟩

theorem parts_next (byte : UInt8) (a b : List UInt8) (parts : Parts a b) :
    Parts (byte :: a) (byte :: b) := by
  obtain ⟨shared, low, high, left, right, first, second, less⟩ := parts
  exact ⟨byte :: shared, low, high, left, right, by rw [first]; rfl, by rw [second]; rfl, less⟩

-- Nothing that follows can change which of the two comes first.
theorem parts_before (a b after later : List UInt8) (parts : Parts a b) : a ++ after < b ++ later := by
  obtain ⟨shared, low, high, left, right, rfl, rfl, less⟩ := parts
  rw [List.append_assoc, List.append_assoc]
  exact List.Lex.append_left _ (List.Lex.rel less) shared

end Parts

section Character

def trail : Nat → Nat → List UInt8
  | 0, _ => []
  | places + 1, code => UInt8.ofNat (code / 64 ^ places % 64 + 128) :: trail places code

def places (code : Nat) : Nat :=
  if code ≤ 127 then 0 else if code ≤ 2047 then 1 else if code ≤ 65535 then 2 else 3

def mark : Nat → Nat
  | 0 => 0
  | 1 => 192
  | 2 => 224
  | _ => 240

def lead (code : Nat) : Nat :=
  code / 64 ^ places code + mark (places code)

theorem code_lt (c : Char) : c.toNat < 1114112 := by
  have valid := c.valid
  unfold UInt32.isValidChar Nat.isValidChar at valid
  change c.val.toNat < 1114112
  omega

theorem places_cases (code : Nat) :
    (places code = 0 ∧ code ≤ 127) ∨ (places code = 1 ∧ 127 < code ∧ code ≤ 2047) ∨
      (places code = 2 ∧ 2047 < code ∧ code ≤ 65535) ∨ (places code = 3 ∧ 65535 < code) := by
  unfold places
  split
  · omega
  · split
    · omega
    · split
      · omega
      · omega

theorem char_bytes (c : Char) :
    String.utf8EncodeChar c = UInt8.ofNat (lead c.toNat) :: trail (places c.toNat) c.toNat := by
  have bound := code_lt c
  have own : c.val.toNat = c.toNat := rfl
  rw [String.utf8EncodeChar, own]
  rcases places_cases c.toNat with ⟨count, top⟩ | ⟨count, low, top⟩ | ⟨count, low, top⟩ | ⟨count, low⟩
  · simp only [if_pos top, lead, count, mark, trail, Nat.pow_zero, Nat.div_one, Nat.add_zero]
  · have fits : c.toNat / 64 % 32 = c.toNat / 64 := Nat.mod_eq_of_lt (by omega)
    simp only [if_neg low.not_ge, if_pos top, lead, count, mark, trail, fits, Nat.pow_zero,
      Nat.pow_one, Nat.div_one]
  · have fits : c.toNat / 4096 % 16 = c.toNat / 4096 := Nat.mod_eq_of_lt (by omega)
    have more : ¬ c.toNat ≤ 127 := by omega
    simp only [if_neg more, if_neg low.not_ge, if_pos top, lead, count, mark, trail, fits,
      Nat.reducePow, Nat.div_one]
  · have fits : c.toNat / 262144 % 8 = c.toNat / 262144 := Nat.mod_eq_of_lt (by omega)
    have more : ¬ c.toNat ≤ 127 ∧ ¬ c.toNat ≤ 2047 := by omega
    simp only [if_neg more.1, if_neg more.2, if_neg low.not_ge, lead, count, mark, trail, fits,
      Nat.reducePow, Nat.div_one]

theorem lead_range (code : Nat) (bound : code < 1114112) :
    mark (places code) ≤ lead code ∧ lead code < 256 ∧
      ∀ more, places code < more → more ≤ 3 → lead code < mark more := by
  refine ⟨Nat.le_add_left _ _, ?_⟩
  rcases places_cases code with ⟨count, top⟩ | ⟨count, low, top⟩ | ⟨count, low, top⟩ | ⟨count, low⟩
  · have own : lead code = code := by rw [lead, count, Nat.pow_zero, Nat.div_one]; rfl
    rw [own, count]
    refine ⟨by omega, fun more above most => ?_⟩
    interval_cases more <;> simp only [mark] <;> omega
  · have own : lead code = code / 64 + 192 := by rw [lead, count]; rfl
    rw [own, count]
    refine ⟨by omega, fun more above most => ?_⟩
    interval_cases more <;> simp only [mark] <;> omega
  · have own : lead code = code / 4096 + 224 := by rw [lead, count]; rfl
    rw [own, count]
    refine ⟨by omega, fun more above most => ?_⟩
    interval_cases more
    simp only [mark]
    omega
  · have own : lead code = code / 262144 + 240 := by rw [lead, count]; rfl
    rw [own, count]
    exact ⟨by omega, fun more above most => by omega⟩

theorem byte_less (a b : Nat) (less : a < b) (small : b < 256) : UInt8.ofNat a < UInt8.ofNat b := by
  rw [UInt8.lt_iff_toNat_lt, UInt8.toNat_ofNat', UInt8.toNat_ofNat', Nat.mod_eq_of_lt small,
    Nat.mod_eq_of_lt (less.trans small)]
  exact less

-- Induction on the places: what lies above them is shared, so the codes differ within them.
theorem trail_parts (count a b : Nat) (less : a < b) (shared : a / 64 ^ count = b / 64 ^ count) :
    Parts (trail count a) (trail count b) := by
  induction count with
  | zero =>
      rw [Nat.pow_zero, Nat.div_one, Nat.div_one] at shared
      omega
  | succ count ih =>
      rw [Nat.pow_succ, ← Nat.div_div_eq_div_mul, ← Nat.div_div_eq_div_mul] at shared
      have order : a / 64 ^ count ≤ b / 64 ^ count := Nat.div_le_div_right less.le
      by_cases same : a / 64 ^ count = b / 64 ^ count
      · rw [trail, trail, same]
        exact parts_next _ _ _ (ih same)
      · exact parts_here _ _ _ _ (byte_less _ _ (by omega) (by omega))

theorem places_grow (a b : Nat) (less : a < b) : places a ≤ places b ∧ places b ≤ 3 := by
  have lower := places_cases a
  have upper := places_cases b
  omega

theorem char_parts (c d : Char) (less : c < d) :
    Parts (String.utf8EncodeChar c) (String.utf8EncodeChar d) := by
  have codes : c.toNat < d.toNat := less
  obtain ⟨_, _, apart⟩ := lead_range c.toNat (code_lt c)
  obtain ⟨least, small, _⟩ := lead_range d.toNat (code_lt d)
  obtain ⟨more, most⟩ := places_grow c.toNat d.toNat codes
  rw [char_bytes, char_bytes]
  by_cases longer : places c.toNat < places d.toNat
  · exact parts_here _ _ _ _ (byte_less _ _ ((apart _ longer most).trans_le least) small)
  · have count : places c.toNat = places d.toNat := by omega
    have order : c.toNat / 64 ^ places d.toNat ≤ d.toNat / 64 ^ places d.toNat :=
      Nat.div_le_div_right codes.le
    by_cases same : c.toNat / 64 ^ places d.toNat = d.toNat / 64 ^ places d.toNat
    · have equal : lead c.toNat = lead d.toNat := by rw [lead, lead, count, same]
      rw [equal, count]
      exact parts_next _ _ _ (trail_parts _ _ _ codes same)
    · have lower : lead c.toNat < lead d.toNat := by
        rw [lead, lead, count]
        omega
      exact parts_here _ _ _ _ (byte_less _ _ lower small)

end Character

theorem encoded_ascend (a b : List Char) (less : List.Lex (· < ·) a b) :
    a.flatMap String.utf8EncodeChar < b.flatMap String.utf8EncodeChar := by
  induction less with
  | @nil c rest =>
      obtain ⟨byte, others, encoded⟩ :=
        List.exists_cons_of_ne_nil (@String.utf8EncodeChar_ne_nil c)
      rw [List.flatMap_nil, List.flatMap_cons, encoded]
      exact List.Lex.nil
  | cons later ih =>
      rw [List.flatMap_cons, List.flatMap_cons]
      exact List.Lex.append_left _ ih _
  | rel first =>
      rw [List.flatMap_cons, List.flatMap_cons]
      exact parts_before _ _ _ _ (char_parts _ _ first)

theorem bytes_ascend (a b : String) (less : a < b) : bytes a < bytes b := by
  rw [bytes_chars, bytes_chars]
  exact encoded_ascend a.toList b.toList less

end Foreman.Text
