import Foreman.Proofs.Json.Members
import Foreman.Proofs.Json.Reading
import Foreman.Proofs.Json.Writing

set_option autoImplicit false

namespace Foreman.Json

open Number

section Wholes

def valueAfter (value : Nat) (text : List Char) : Nat :=
  text.foldl (fun value c => value * 10 + digitValue c) value

theorem value_after_le (value : Nat) (text : List Char) : value ≤ valueAfter value text := by
  induction text generalizing value with
  | nil => exact Nat.le_refl value
  | cons c rest ih =>
      have later : value * 10 + digitValue c ≤ valueAfter value (c :: rest) := ih _
      omega

-- No prefix of the digits is worth more than all of them, so the bound is not met on the way.
theorem read_digits_all (bound value : Nat) (text : List Char)
    (own : ∀ c ∈ text, isDigit c = true) (below : valueAfter value text < bound) :
    readDigits bound value text = (valueAfter value text, []) := by
  induction text generalizing value with
  | nil => rfl
  | cons c rest ih =>
      obtain ⟨digit, others⟩ := List.forall_mem_cons.mp own
      have next : value * 10 + digitValue c < bound :=
        Nat.lt_of_le_of_lt (value_after_le _ rest) below
      rw [readDigits, digit, decide_eq_true next]
      exact ih (value * 10 + digitValue c) others below

theorem whole_read (negative : Bool) (n : Nat) (below : n < bound64) :
    readNumber negative (digits n) = .ok (wholeNumber negative n, []) := by
  have read : readDigits bound64 0 (digits n) = (n, []) := by
    have value : valueAfter 0 (digits n) = n := of_digits_digits n
    rw [read_digits_all bound64 0 (digits n) (digits_digit n) (value.symm ▸ below), value]
  cases text : digits n with
  | nil => exact absurd text (digits_whole n).1.1
  | cons c rest =>
      by_cases zero : c = '0'
      · obtain rfl : n = 0 := digits_head n (by rw [text, zero]; rfl)
        rw [digits_small 0 (by decide)] at text
        obtain ⟨rfl, rfl⟩ := List.cons.inj text
        rfl
      · have digit : isDigit c = true := digits_digit n c (by simp [text])
        rw [number_digited negative c rest digit zero, ← text, read]
        rfl

theorem int_worth (value : Int) (lower : -(bound63 : Int) ≤ value) (upper : value < bound64) :
    worth? (decide (value < 0)) (digits value.natAbs) = some (.int value) := by
  have below : value.natAbs < bound64 := by
    simp only [bound63, bound64] at lower upper ⊢
    omega
  rw [worth?, whole_read _ value.natAbs below]
  by_cases negative : value < 0
  · have kept : ¬ (value.natAbs = 0 ∨ bound63 < value.natAbs) := by
      simp only [bound63] at lower ⊢
      omega
    have same : -(value.natAbs : Int) = value := by omega
    simp only [wholeNumber, decide_eq_true negative, Bool.not_true, Bool.false_eq_true, if_false,
      if_neg kept, same]
  · have same : (value.natAbs : Int) = value := by omega
    simp only [wholeNumber, decide_eq_false negative, Bool.not_false, if_true, same]

end Wholes

mutual

-- A float may be read back as one of its neighbours.
def Exact : Json → Prop
  | .null | .bool _ | .text _ => True
  | .int value => -(bound63 : Int) ≤ value ∧ value < bound64
  | .float _ => False
  | .array items => ExactItems items
  | .object members => (members.map Prod.fst).Pairwise (· < ·) ∧ ExactMembers members

def ExactItems : List Json → Prop
  | [] => True
  | item :: rest => Exact item ∧ ExactItems rest

def ExactMembers : List (String × Json) → Prop
  | [] => True
  | (_, value) :: rest => Exact value ∧ ExactMembers rest

end

mutual

theorem tree_value (value : Json) (exact : value.Exact) : (tree value).value? = some value := by
  cases value with
  | null => rfl
  | bool value => rfl
  | int value => exact int_worth value exact.1 exact.2
  | float value => exact absurd exact id
  | text value => rfl
  | array items => rw [tree, Tree.value?, item_tree_values items exact, Option.map_some]
  | object members =>
      rw [tree, Tree.value?, member_tree_values members exact.2, Option.map_some,
        of_members_ascending members exact.1]

theorem item_tree_values (items : List Json) (exact : ExactItems items) :
    Tree.itemValues? (itemTrees items) = some items := by
  cases items with
  | nil => rfl
  | cons item rest =>
      rw [itemTrees, Tree.itemValues?, tree_value item exact.1, item_tree_values rest exact.2]

theorem member_tree_values (members : List (String × Json)) (exact : ExactMembers members) :
    Tree.memberValues? (memberTrees members) = some members := by
  cases members with
  | nil => rfl
  | cons member rest =>
      obtain ⟨name, value⟩ := member
      rw [memberTrees, Tree.memberValues?, tree_value value exact.1,
        member_tree_values rest exact.2]

end

theorem written_read (value : Json) (exact : value.Exact) (shallow : (tree value).depth ≤ 127) :
    read (write value) = .ok value :=
  (read_iff _ _).mpr ⟨tree value,
    ⟨[], _, [], by simp, blank_nil, (write_spells value).1, blank_nil⟩, shallow,
    tree_value value exact⟩

end Foreman.Json
