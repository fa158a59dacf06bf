import Foreman.Json.Writer
import Foreman.Proofs.Json.Range
import Mathlib.Data.List.DropRight

set_option autoImplicit false

namespace Foreman.Json

open Number

-- No control characters, and so no line break.
def Shown (text : List Char) : Prop := ∀ c ∈ text, 0x20 ≤ c.toNat

theorem shown_append (first second : List Char) :
    Shown (first ++ second) ↔ Shown first ∧ Shown second :=
  List.forall_mem_append

theorem shown_cons (c : Char) (rest : List Char) : Shown (c :: rest) ↔ 0x20 ≤ c.toNat ∧ Shown rest :=
  List.forall_mem_cons

section Texts

theorem hex_digit_value (digit : Nat) (small : digit < 16) :
    hexValue (Text.hexDigit digit) = some digit ∧ 0x20 ≤ (Text.hexDigit digit).toNat := by
  interval_cases digit <;> decide

theorem write_char_cases (c : Char) :
    (writeChar c = [c] ∧ 0x20 ≤ c.toNat ∧ c ≠ '"' ∧ c ≠ '\\') ∨
      ∃ mark, writeChar c = '\\' :: mark ∧ Escape mark c ∧ Shown mark := by
  unfold writeChar
  split
  iterate 7 exact .inr ⟨_, rfl, .short _ _ (by decide), by simp [Shown]⟩
  rename_i quote slash _ _ _ _ _
  split
  · rename_i hidden
    have upper := hex_digit_value (c.toNat / 16) (by omega)
    have lower := hex_digit_value (c.toNat % 16) (by omega)
    have coded : CodeUnit ['0', '0', Text.hexDigit (c.toNat / 16), Text.hexDigit (c.toNat % 16)]
        c.toNat :=
      ⟨_, _, _, _, 0, 0, _, _, rfl, rfl, rfl, upper.1, lower.1, by omega⟩
    have unpaired : isLowSurrogate c.toNat = false ∧ isHighSurrogate c.toNat = false := by
      simp only [isLowSurrogate, isHighSurrogate, Bool.and_eq_false_iff, decide_eq_false_iff_not]
      omega
    refine .inr ⟨_, rfl, ?_, ?_⟩
    · have escape := Escape.unit _ c.toNat coded unpaired
      rwa [Char.ofNat_toNat] at escape
    · simp [Shown, upper.2, lower.2]
  · rename_i shown
    exact .inl ⟨rfl, Nat.not_lt.mp shown, quote, slash⟩

theorem quotes_written (text : List Char) :
    Quotes (text.flatMap writeChar) text ∧ Shown (text.flatMap writeChar) := by
  induction text with
  | nil => exact ⟨.nil, fun c member => by cases member⟩
  | cons c rest ih =>
      obtain ⟨quotes, shown⟩ := ih
      rw [List.flatMap_cons]
      rcases write_char_cases c with ⟨same, own, bare⟩ | ⟨mark, same, escape, own⟩
      · rw [same]
        exact ⟨.plain c _ rest own bare quotes, (shown_cons c _).mpr ⟨own, shown⟩⟩
      · rw [same]
        refine ⟨.escaped mark c _ rest escape quotes, (shown_cons '\\' _).mpr ⟨by decide, ?_⟩⟩
        exact (shown_append mark _).mpr ⟨own, shown⟩

theorem string_written (text : String) :
    Quoted text (writeString text).toList ∧ Shown (writeString text).toList := by
  obtain ⟨quotes, shown⟩ := quotes_written text.toList
  rw [writeString, String.toList_ofList]
  refine ⟨⟨_, quotes, rfl⟩, ?_⟩
  have ends : Shown ['"'] := by simp [Shown]
  exact (shown_append _ _).mpr ⟨(shown_append _ _).mpr ⟨ends, shown⟩, ends⟩

end Texts

section Numbers

theorem digits_shown (text : List Char) (own : ∀ c ∈ text, isDigit c = true) : Shown text := by
  intro c member
  have digit := own c member
  rw [isDigit, Bool.and_eq_true, decide_eq_true_eq] at digit
  exact Nat.le_trans (by decide) digit.1

theorem numeral_shown (text : List Char) (numeral : Numeral text) : Shown text := by
  obtain ⟨whole, fraction, power, plain, broken, raised, rfl⟩ := numeral
  refine (shown_append _ _).mpr ⟨(shown_append _ _).mpr ⟨digits_shown whole plain.1.2, ?_⟩, ?_⟩
  · rcases broken with rfl | ⟨digits, own, rfl⟩
    · exact fun c member => by cases member
    · exact (shown_cons _ _).mpr ⟨by decide, digits_shown digits own.2⟩
  · rcases raised with rfl | ⟨mark, sign, digits, marked, signed, own, rfl⟩
    · exact fun c member => by cases member
    · have heads : Shown ['e', 'E'] := by simp [Shown]
      have signs : ∀ sign ∈ [[], ['+'], ['-']], Shown sign := by simp [Shown]
      exact (shown_cons _ _).mpr ⟨heads mark marked,
        (shown_append _ _).mpr ⟨signs sign signed, digits_shown digits own.2⟩⟩

theorem digits_head (n : Nat) (zero : (digits n).head? = some '0') : n = 0 := by
  induction n using digits.induct with
  | case1 n small =>
      rw [digits_small n small] at zero
      have value := digit_char_value n small
      rw [Option.some.inj zero] at value
      exact value.symm
  | case2 n large before =>
      have filled := digits_length_pos (n / 10)
      rw [digits_large n large, List.head?_append_of_ne_nil _ (List.ne_nil_of_length_pos filled)] at zero
      have := before zero
      omega

theorem digits_whole (n : Nat) : Whole (digits n) := by
  refine ⟨⟨List.ne_nil_of_length_pos (digits_length_pos n), digits_digit n⟩, fun zero => ?_⟩
  rw [digits_head n zero]
  exact digits_small 0 (by decide)

theorem whole_numeral (text : List Char) (whole : Whole text) : Numeral text :=
  ⟨text, [], [], whole, .inl rfl, .inl rfl, by simp⟩

theorem single_whole (c : Char) (digit : isDigit c = true) : Whole [c] :=
  ⟨⟨List.cons_ne_nil c [], by simpa using digit⟩, fun zero => by simpa using zero⟩

theorem zeros_digits (count : Nat) : ∀ c ∈ List.replicate count '0', isDigit c = true :=
  fun _ member => List.eq_of_mem_replicate member ▸ rfl

theorem exponent_power (exponent : Int) : Power (exponentText exponent) := by
  have own := (digits_whole exponent.natAbs).1
  unfold exponentText
  by_cases negative : exponent < 0
  · exact .inr ⟨'e', ['-'], _, by decide, by decide, own, by simp [negative]⟩
  · exact .inr ⟨'e', ['+'], _, by decide, by decide, own, by simp [negative]⟩

variable (decimal : Decimal)

theorem places_kept (positive : decimal.units ≠ 0) :
    ∃ first rest, decimal.places.1 = first :: rest ∧ first ≠ '0' ∧
      ∀ c ∈ first :: rest, isDigit c = true := by
  have kept : decimal.places.1 = (digits decimal.units).rdropWhile (· == '0') := rfl
  have leading := List.rdropWhile_prefix (· == '0') (digits decimal.units)
  cases whole : digits decimal.units with
  | nil => exact absurd whole (digits_whole decimal.units).1.1
  | cons first more =>
      rw [whole] at kept leading
      have nonzero : first ≠ '0' := by
        rintro rfl
        exact positive (digits_head decimal.units (by rw [whole]; rfl))
      cases found : decimal.places.1 with
      | nil =>
          have none := List.rdropWhile_eq_nil_iff.mp (kept ▸ found) first List.mem_cons_self
          exact absurd (by simpa using none) nonzero
      | cons own rest =>
          rw [← kept, found] at leading
          obtain ⟨left, same⟩ := leading
          obtain ⟨rfl, behind⟩ := List.cons.inj same
          refine ⟨own, rest, rfl, nonzero, fun c member => digits_digit decimal.units c ?_⟩
          rw [whole, ← behind]
          exact List.mem_append_left left member

section Layouts

variable (first : Char) (rest : List Char) (nonzero : first ≠ '0')
  (own : ∀ c ∈ first :: rest, isDigit c = true) (point : Int)

include own

include nonzero in
theorem positional_numeral (positive : 0 < point) :
    let whole := (first :: rest).take point.toNat
    let fraction := (first :: rest).drop point.toNat
    Numeral (whole ++ List.replicate (point.toNat - whole.length) '0' ++ ['.'] ++
      (if fraction.isEmpty then ['0'] else fraction)) := by
  obtain ⟨count, places⟩ : ∃ count, point.toNat = count + 1 := ⟨point.toNat - 1, by omega⟩
  rw [places]
  intro whole fraction
  let zeros := List.replicate (count + 1 - whole.length) '0'
  have plain : Whole (whole ++ zeros) := by
    refine ⟨⟨List.cons_ne_nil first _, fun c member => ?_⟩, fun zero => ?_⟩
    · rcases List.mem_append.mp member with taken | filled
      · exact own c (List.mem_of_mem_take taken)
      · exact zeros_digits _ c filled
    · exact absurd (Option.some.inj zero) nonzero
  have broken : Digits (if fraction.isEmpty then ['0'] else fraction) := by
    split
    · exact ⟨List.cons_ne_nil _ _, by simp [isDigit]⟩
    · rename_i filled
      exact ⟨by simpa using filled, fun c member => own c (List.mem_of_mem_drop member)⟩
  exact ⟨_, '.' :: _, [], plain, .inr ⟨_, broken, rfl⟩, .inl rfl, by simp [zeros]⟩

theorem small_numeral (count : Nat) :
    Numeral (['0', '.'] ++ List.replicate count '0' ++ first :: rest) := by
  have broken : Digits (List.replicate count '0' ++ first :: rest) := by
    refine ⟨by simp, fun c member => ?_⟩
    rcases List.mem_append.mp member with zero | kept
    · exact zeros_digits count c zero
    · exact own c kept
  exact ⟨['0'], '.' :: _, [], single_whole '0' rfl, .inr ⟨_, broken, rfl⟩, .inl rfl, by simp⟩

theorem scientific_numeral :
    Numeral (match first :: rest with
      | [] => ['0']
      | [only] => only :: exponentText (point - 1)
      | first :: rest => first :: '.' :: rest ++ exponentText (point - 1)) := by
  have whole := single_whole first (own first List.mem_cons_self)
  have raised := exponent_power (point - 1)
  cases rest with
  | nil => exact ⟨[first], [], _, whole, .inl rfl, raised, rfl⟩
  | cons second more =>
      have broken : Digits (second :: more) :=
        ⟨List.cons_ne_nil _ _, fun c member => own c (List.mem_cons_of_mem first member)⟩
      exact ⟨[first], '.' :: second :: more, _, whole, .inr ⟨_, broken, rfl⟩, raised, rfl⟩

end Layouts

theorem zero_numeral : Numeral ['0', '.', '0'] :=
  ⟨['0'], ['.', '0'], [], single_whole '0' rfl, .inr ⟨['0'], (single_whole '0' rfl).1, rfl⟩, .inl rfl,
    rfl⟩

theorem decimal_numeral (proper : decimal.units ≠ 0 ∨ decimal.power = 0) : Numeral decimal.text := by
  by_cases zero : decimal.units = 0
  · obtain ⟨units, power⟩ := decimal
    obtain rfl : units = 0 := zero
    obtain rfl : power = 0 := proper.resolve_left fun other => other rfl
    have text : Decimal.text ⟨0, 0⟩ = ['0', '.', '0'] := by
      simp [Decimal.text, Decimal.places, digits_small, digitChar]
    rw [text]
    exact zero_numeral
  · obtain ⟨first, rest, kept, nonzero, own⟩ := places_kept decimal zero
    unfold Decimal.text
    generalize decimal.places = places at kept
    obtain ⟨text, point⟩ := places
    obtain rfl : text = first :: rest := kept
    simp only
    split
    · rename_i positional
      exact positional_numeral first rest nonzero own point positional.1
    · split
      · exact small_numeral first rest own _
      · exact scientific_numeral first rest own point

variable (window : Window)

theorem on_grid_positive (power : Int) (found : window.onGrid power = some decimal) :
    decimal.units ≠ 0 := by
  unfold Window.onGrid at found
  simp only at found
  split at found
  · cases found
  · rename_i below _
    cases found
    rw [Bool.and_eq_true, decide_eq_true_eq] at below
    exact Nat.ne_of_gt below.2
  · cases found
    exact Nat.succ_ne_zero _
  · rename_i below _
    rw [Bool.and_eq_true, decide_eq_true_eq] at below
    split at found
    · cases found
      exact Nat.ne_of_gt below.2
    · split at found
      · cases found
        exact Nat.succ_ne_zero _
      · split at found
        · cases found
          exact Nat.ne_of_gt below.2
        · cases found
          exact Nat.succ_ne_zero _

theorem shortest_numeral : Numeral window.shortest.text := by
  refine decimal_numeral _ ?_
  rw [Window.shortest]
  cases found : ((List.range 18).map fun (extra : Nat) => window.leading - (extra : Int)).findSome?
      window.onGrid with
  | none => exact .inr rfl
  | some decimal =>
      obtain ⟨power, _, own⟩ := List.exists_of_findSome?_eq_some found
      exact .inl (on_grid_positive decimal window power own)

end Numbers

section Trees

def floatTree (x : Float) : Tree :=
  let bits := x.toBits.toNat
  let size := bits % bound63
  if size / leadingBit = 2047 then .null
  else .number (!decide (bits < bound63))
    (if size = 0 then ['0', '.', '0'] else (Window.ofBits size).shortest.text)

mutual

def tree : Json → Tree
  | .null => .null
  | .bool value => .bool value
  | .int value => .number (decide (value < 0)) (digits value.natAbs)
  | .float value => floatTree value
  | .text value => .text value
  | .array items => .array (itemTrees items)
  | .object members => .object (memberTrees members)

def itemTrees : List Json → List Tree
  | [] => []
  | item :: rest => tree item :: itemTrees rest

def memberTrees : List (String × Json) → List (String × Tree)
  | [] => []
  | (name, value) :: rest => (name, tree value) :: memberTrees rest

end

theorem signed_spells (negative : Bool) (text : List Char) (numeral : Numeral text) :
    let spelling := (if negative then ['-'] else []) ++ text
    (Tree.number negative text).Spells spelling ∧ Shown spelling := by
  have own := numeral_shown text numeral
  cases negative with
  | false => exact ⟨⟨numeral, rfl⟩, own⟩
  | true => exact ⟨⟨numeral, rfl⟩, (shown_cons '-' text).mpr ⟨by decide, own⟩⟩

theorem int_written (value : Int) :
    (tree (.int value)).Spells (intText value).toList ∧ Shown (intText value).toList := by
  cases value with
  | ofNat n =>
      have plain : (intText (.ofNat n)).toList = digits n := String.toList_ofList
      rw [plain]
      exact signed_spells false _ (whole_numeral _ (digits_whole n))
  | negSucc n =>
      have marked : (intText (.negSucc n)).toList = '-' :: digits (n + 1) := by
        rw [intText, String.toList_append, natText, String.toList_ofList]
        simp
      have negative : tree (.int (.negSucc n)) = .number true (digits (n + 1)) := by
        rw [tree, decide_eq_true (Int.negSucc_lt_zero n), Int.natAbs_negSucc]
      rw [marked, negative]
      exact signed_spells true _ (whole_numeral _ (digits_whole (n + 1)))

theorem float_written (x : Float) :
    (floatTree x).Spells (floatText x).toList ∧ Shown (floatText x).toList := by
  unfold floatTree floatText
  generalize x.toBits.toNat = bits
  have sign : (if bits < bound63 then [] else ['-']) =
      if (!decide (bits < bound63)) = true then ['-'] else [] := by
    by_cases positive : bits < bound63 <;> simp [positive]
  simp only [sign]
  split
  · exact ⟨rfl, by simp [Shown]⟩
  · split
    · rw [String.toList_ofList]
      exact signed_spells _ _ zero_numeral
    · rw [String.toList_ofList]
      exact signed_spells _ _ (shortest_numeral _)

theorem blank_nil : Blank [] := fun c member => by cases member

theorem items_spelled (item : Tree) (rest : List Tree) (own more : List Char)
    (spells : item.Spells own) (others : Tree.SpellsItems rest more) :
    Tree.SpellsItems (item :: rest) (',' :: (own ++ more)) :=
  ⟨[], own, [], more, by simp, blank_nil, spells, blank_nil, others⟩

theorem members_spelled (name : String) (value : Tree) (rest : List (String × Tree))
    (title own more : List Char) (titled : Quoted name title) (spells : value.Spells own)
    (others : Tree.SpellsMembers rest more) :
    Tree.SpellsMembers ((name, value) :: rest) (',' :: (title ++ ':' :: own ++ more)) :=
  ⟨[], title, [], [], own, [], more, by simp, blank_nil, titled, blank_nil, blank_nil, spells, blank_nil,
    others⟩

theorem brackets_shown (open_ close : Char) (inner : List Char)
    (shown : Shown [open_, close]) (own : Shown inner) : Shown (open_ :: inner ++ [close]) := by
  simp only [Shown, List.forall_mem_cons, List.forall_mem_append, List.cons_append] at shown own ⊢
  exact ⟨shown.1, own, shown.2⟩

mutual

theorem write_spells (value : Json) :
    (tree value).Spells (write value).toList ∧ Shown (write value).toList := by
  cases value with
  | null => exact ⟨rfl, by simp [write, Shown]⟩
  | bool value => cases value <;> exact ⟨rfl, by simp [write, Shown]⟩
  | int value => exact int_written value
  | float value => exact float_written value
  | text value => exact string_written value
  | array items =>
      have text : (write (.array items)).toList = '[' :: (writeItems items).toList ++ [']'] := by
        simp [write]
      obtain ⟨spells, shown⟩ := write_items_spells items
      rw [text]
      refine ⟨⟨_, rfl, ?_⟩, brackets_shown '[' ']' _ (by simp [Shown]) shown⟩
      rcases spells with rfl | listed
      · exact .inl ⟨rfl, blank_nil⟩
      · exact .inr listed
  | object members =>
      have text : (write (.object members)).toList =
          '\x7b' :: (writeMembers members).toList ++ ['\x7d'] := by
        simp [write]
      obtain ⟨spells, shown⟩ := write_members_spells members
      rw [text]
      refine ⟨⟨_, rfl, ?_⟩, brackets_shown '\x7b' '\x7d' _ (by simp [Shown]) shown⟩
      rcases spells with rfl | listed
      · exact .inl ⟨rfl, blank_nil⟩
      · exact .inr listed

theorem write_items_spells (items : List Json) :
    (items = [] ∨ Tree.SpellsItems (itemTrees items) (',' :: (writeItems items).toList)) ∧
      Shown (writeItems items).toList := by
  cases items with
  | nil => exact ⟨.inl rfl, fun c member => by cases member⟩
  | cons item rest =>
      obtain ⟨own, first⟩ := write_spells item
      obtain ⟨spells, shown⟩ := write_items_spells rest
      cases rest with
      | nil =>
          have listed := items_spelled (tree item) [] _ [] own rfl
          rw [List.append_nil] at listed
          exact ⟨.inr listed, first⟩
      | cons next more =>
          have listed := spells.resolve_left (List.cons_ne_nil next more)
          have text : (writeItems (item :: next :: more)).toList =
              (write item).toList ++ ',' :: (writeItems (next :: more)).toList := by
            simp [writeItems]
          rw [text]
          refine ⟨.inr (items_spelled (tree item) _ _ _ own listed), ?_⟩
          exact (shown_append _ _).mpr ⟨first, (shown_cons _ _).mpr ⟨by decide, shown⟩⟩

theorem write_members_spells (members : List (String × Json)) :
    (members = [] ∨ Tree.SpellsMembers (memberTrees members) (',' :: (writeMembers members).toList)) ∧
      Shown (writeMembers members).toList := by
  cases members with
  | nil => exact ⟨.inl rfl, fun c member => by cases member⟩
  | cons member rest =>
      obtain ⟨name, value⟩ := member
      obtain ⟨titled, title⟩ := string_written name
      obtain ⟨own, first⟩ := write_spells value
      obtain ⟨spells, shown⟩ := write_members_spells rest
      have front : Shown ((writeString name).toList ++ ':' :: (write value).toList) :=
        (shown_append _ _).mpr ⟨title, (shown_cons _ _).mpr ⟨by decide, first⟩⟩
      cases rest with
      | nil =>
          have listed := members_spelled name (tree value) [] _ _ [] titled own rfl
          rw [List.append_nil] at listed
          have text : (writeMembers [(name, value)]).toList =
              (writeString name).toList ++ ':' :: (write value).toList := by
            simp [writeMembers]
          rw [text]
          exact ⟨.inr listed, front⟩
      | cons next more =>
          have listed := spells.resolve_left (List.cons_ne_nil next more)
          have text : (writeMembers ((name, value) :: next :: more)).toList =
              ((writeString name).toList ++ ':' :: (write value).toList) ++
                ',' :: (writeMembers (next :: more)).toList := by
            simp [writeMembers]
          rw [text]
          refine ⟨.inr (members_spelled name (tree value) _ _ _ _ titled own listed), ?_⟩
          exact (shown_append _ _).mpr ⟨front, (shown_cons _ _).mpr ⟨by decide, shown⟩⟩

end

end Trees

end Foreman.Json
