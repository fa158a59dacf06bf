import Foreman.Proofs.Json.Range
import Foreman.Proofs.Json.Strings

set_option autoImplicit false

namespace Foreman.Json

section Space

variable (text : List Char)

theorem space_listed (c : Char) : isSpace c = true ↔ c ∈ [' ', '\n', '\t', '\r'] := by
  simp [isSpace, or_assoc]

theorem blank_space (blank : Blank text) : ∀ c ∈ text, isSpace c = true :=
  fun c member => (space_listed c).mpr (blank c member)

theorem skip_cases : ∃ blank, Blank blank ∧ text = blank ++ skipSpace text ∧
    ∀ c ∈ (skipSpace text).head?, isSpace c = false := by
  refine ⟨text.takeWhile isSpace, fun c member => ?_, ?_, fun c first => ?_⟩
  · exact (space_listed c).mp (List.mem_takeWhile_imp member)
  · exact List.takeWhile_append_dropWhile.symm
  · have stops := List.head?_dropWhile_not isSpace text
    rw [skipSpace] at first
    rw [first] at stops
    simpa using stops

theorem skip_solid (c : Char) (rest : List Char) (solid : isSpace c = false) (blank : Blank text) :
    skipSpace (text ++ c :: rest) = c :: rest := by
  rw [skipSpace, List.dropWhile_append_of_pos (blank_space text blank), List.dropWhile_cons, solid]
  rfl

theorem skip_blank (blank : Blank text) : skipSpace text = [] := by
  have all : skipSpace (text ++ []) = [] := List.dropWhile_append_of_pos (blank_space text blank)
  rwa [List.append_nil] at all

theorem blank_append (more : List Char) (first : Blank text) (second : Blank more) :
    Blank (text ++ more) := by
  intro c member
  rcases List.mem_append.mp member with early | late
  · exact first c early
  · exact second c late

end Space

namespace Tree

-- What stands in front of an item or a member, at the start of a list and further on.
def Leads (first : Bool) (lead : List Char) : Prop :=
  if first then Blank lead
  else ∃ blank gap, Blank blank ∧ Blank gap ∧ lead = blank ++ ',' :: gap

def ItemsTail (first : Bool) (items : List Tree) (text : List Char) : Prop :=
  if first then items = [] ∧ Blank text ∨ SpellsItems items (',' :: text)
  else ∃ blank more, text = blank ++ more ∧ Blank blank ∧ SpellsItems items more

def MembersTail (first : Bool) (members : List (String × Tree)) (text : List Char) : Prop :=
  if first then members = [] ∧ Blank text ∨ SpellsMembers members (',' :: text)
  else ∃ blank more, text = blank ++ more ∧ Blank blank ∧ SpellsMembers members more

section Tails

variable (first : Bool) (text : List Char)

theorem items_tail_nil : ItemsTail first [] text ↔ Blank text := by
  cases first with
  | true => simp [ItemsTail, SpellsItems]
  | false => simp [ItemsTail, SpellsItems]

theorem items_tail_cons (item : Tree) (rest : List Tree) :
    ItemsTail first (item :: rest) text ↔ ∃ lead own tail, text = lead ++ own ++ tail ∧
      Leads first lead ∧ item.Spells own ∧ ItemsTail false rest tail := by
  cases first with
  | true =>
      constructor
      · rintro (⟨none, _⟩ | ⟨before, own, after, more, shape, opens, spells, closes, later⟩)
        · cases none
        · refine ⟨before, own, after ++ more, ?_, opens, spells, after, more, rfl, closes, later⟩
          simpa using shape
      · rintro ⟨lead, own, _, rfl, opens, spells, blank, more, rfl, closes, later⟩
        exact .inr ⟨lead, own, blank, more, by simp, opens, spells, closes, later⟩
  | false =>
      constructor
      · rintro ⟨blank, _, rfl, clear, before, own, after, more, rfl, opens, spells, closes, later⟩
        exact ⟨blank ++ ',' :: before, own, after ++ more, by simp, ⟨blank, before, clear, opens, rfl⟩,
          spells, after, more, rfl, closes, later⟩
      · rintro ⟨_, own, _, rfl, ⟨blank, gap, clear, opens, rfl⟩, spells, after, more, rfl, closes,
          later⟩
        exact ⟨blank, ',' :: gap ++ own ++ after ++ more, by simp, clear, gap, own, after, more, rfl,
          opens, spells, closes, later⟩

theorem members_tail_nil : MembersTail first [] text ↔ Blank text := by
  cases first with
  | true => simp [MembersTail, SpellsMembers]
  | false => simp [MembersTail, SpellsMembers]

theorem members_tail_cons (name : String) (value : Tree) (rest : List (String × Tree)) :
    MembersTail first ((name, value) :: rest) text ↔ ∃ lead title gap between own tail,
      text = lead ++ title ++ gap ++ ':' :: between ++ own ++ tail ∧
      Leads first lead ∧ Quoted name title ∧ Blank gap ∧ Blank between ∧ value.Spells own ∧
      MembersTail false rest tail := by
  cases first with
  | true =>
      constructor
      · rintro (⟨none, _⟩ | ⟨before, title, gap, between, own, after, more, shape, opens, titled,
          gaps, spaced, spells, closes, later⟩)
        · cases none
        · refine ⟨before, title, gap, between, own, after ++ more, ?_, opens, titled, gaps, spaced,
            spells, after, more, rfl, closes, later⟩
          simpa using shape
      · rintro ⟨lead, title, gap, between, own, _, rfl, opens, titled, gaps, spaced, spells, blank,
          more, rfl, closes, later⟩
        exact .inr ⟨lead, title, gap, between, own, blank, more, by simp, opens, titled, gaps, spaced,
          spells, closes, later⟩
  | false =>
      constructor
      · rintro ⟨blank, _, rfl, clear, before, title, gap, between, own, after, more, rfl, opens,
          titled, gaps, spaced, spells, closes, later⟩
        exact ⟨blank ++ ',' :: before, title, gap, between, own, after ++ more, by simp,
          ⟨blank, before, clear, opens, rfl⟩, titled, gaps, spaced, spells, after, more, rfl, closes,
          later⟩
      · rintro ⟨_, title, gap, between, own, _, rfl, ⟨blank, before, clear, opens, rfl⟩, titled, gaps,
          spaced, spells, after, more, rfl, closes, later⟩
        exact ⟨blank, ',' :: before ++ title ++ gap ++ ':' :: between ++ own ++ after ++ more, by simp,
          clear, before, title, gap, between, own, after, more, rfl, opens, titled, gaps, spaced,
          spells, closes, later⟩

end Tails

end Tree

open Foreman.Json.Tree

section Marks

variable (first : Bool) (text : List Char)

theorem blank_ends (blank rest : List Char) (c : Char) (clear : Blank blank)
    (mark : c ∈ [',', ']', '\x7d']) : Ends (blank ++ c :: rest) := by
  intro head leads
  cases blank with
  | nil =>
      obtain rfl : c = head := Option.some.inj leads
      exact List.mem_append_right [' ', '\n', '\t', '\r'] mark
  | cons other more =>
      obtain rfl : other = head := Option.some.inj leads
      exact List.mem_append_left [',', ']', '\x7d'] (clear other List.mem_cons_self)

theorem leads_ends (lead rest : List Char) (leads : Leads false lead) : Ends (lead ++ rest) := by
  obtain ⟨blank, gap, clear, _, rfl⟩ := leads
  rw [List.append_assoc, List.cons_append]
  exact blank_ends blank _ ',' clear (by decide)

theorem next_item_cases (result : Option (List Char) × List Char)
    (read : nextItem first text = .ok result) :
    (∃ blank rest, result = (none, rest) ∧ Blank blank ∧ text = blank ++ ']' :: rest) ∨
      ∃ lead start, result = (some start, []) ∧ Leads first lead ∧ text = lead ++ start := by
  obtain ⟨blank, clear, whole, _⟩ := skip_cases text
  unfold nextItem at read
  split at read
  · rename_i rest skipped
    cases read
    exact .inl ⟨blank, rest, rfl, clear, skipped ▸ whole⟩
  · cases read
  · rename_i rest skipped
    rw [skipped] at whole
    cases first with
    | true =>
        cases read
        exact .inr ⟨blank, ',' :: rest, rfl, clear, whole⟩
    | false =>
        obtain ⟨gap, wide, other, _⟩ := skip_cases rest
        simp only [Bool.false_eq_true, if_false] at read
        split at read
        · cases read
        · cases read
        · cases read
          refine .inr ⟨blank ++ ',' :: gap, _, rfl, ⟨blank, gap, clear, wide, rfl⟩, ?_⟩
          rw [whole, List.append_assoc, List.cons_append, ← other]
  · cases first with
    | true =>
        cases read
        exact .inr ⟨blank, _, rfl, clear, whole⟩
    | false => cases read

theorem next_item_close (blank rest : List Char) (clear : Blank blank) :
    nextItem first (blank ++ ']' :: rest) = .ok (none, rest) := by
  rw [nextItem, skip_solid blank ']' rest rfl clear]
  rfl

theorem next_item_open (lead rest : List Char) (c : Char) (leads : Leads first lead)
    (solid : isSpace c = false) (open_ : c ≠ ']') :
    nextItem first (lead ++ c :: rest) = .ok (some (c :: rest), []) := by
  cases first with
  | true =>
      rw [nextItem, skip_solid lead c rest solid leads]
      split
      · rename_i same
        exact absurd (List.cons.inj same).1 open_
      · rename_i none
        cases none
      · rename_i same
        rw [same]
        rfl
      · rfl
  | false =>
      obtain ⟨blank, gap, clear, wide, rfl⟩ := leads
      rw [List.append_assoc, List.cons_append, nextItem, skip_solid blank ',' _ rfl clear]
      simp only [Bool.false_eq_true, if_false, skip_solid gap c rest solid wide]
      split
      · rename_i same
        exact absurd (List.cons.inj same).1 open_
      · rename_i none
        cases none
      · rfl

theorem next_name_cases (result : Option (List Char) × List Char)
    (read : nextName first text = .ok result) :
    (∃ blank rest, result = (none, rest) ∧ Blank blank ∧ text = blank ++ '\x7d' :: rest) ∨
      ∃ lead start, result = (some start, []) ∧ Leads first lead ∧ text = lead ++ '"' :: start := by
  obtain ⟨blank, clear, whole, _⟩ := skip_cases text
  unfold nextName at read
  split at read
  · rename_i rest skipped
    cases read
    exact .inl ⟨blank, rest, rfl, clear, skipped ▸ whole⟩
  · cases read
  · rename_i c rest _ skipped
    rw [skipped] at whole
    cases first with
    | true =>
        simp only [if_true] at read
        split at read
        · rename_i quote
          cases read
          exact .inr ⟨blank, rest, rfl, clear, quote ▸ whole⟩
        · cases read
    | false =>
        obtain ⟨gap, wide, other, _⟩ := skip_cases rest
        simp only [Bool.false_eq_true, if_false] at read
        split at read
        · rename_i comma
          split at read
          · rename_i more behind
            cases read
            refine .inr ⟨blank ++ ',' :: gap, more, rfl, ⟨blank, gap, clear, wide, rfl⟩, ?_⟩
            rw [whole, comma, List.append_assoc, List.cons_append, ← behind, ← other]
          · cases read
          · cases read
          · cases read
        · cases read

theorem next_name_close (blank rest : List Char) (clear : Blank blank) :
    nextName first (blank ++ '\x7d' :: rest) = .ok (none, rest) := by
  rw [nextName, skip_solid blank '\x7d' rest rfl clear]
  rfl

theorem next_name_open (lead rest : List Char) (leads : Leads first lead) :
    nextName first (lead ++ '"' :: rest) = .ok (some rest, []) := by
  cases first with
  | true =>
      rw [nextName, skip_solid lead '"' rest rfl leads]
      rfl
  | false =>
      obtain ⟨blank, gap, clear, wide, rfl⟩ := leads
      rw [List.append_assoc, List.cons_append, nextName, skip_solid blank ',' _ rfl clear]
      simp [skip_solid gap '"' rest rfl wide]

theorem colon_sound (rest : List Char) (read : readColon text = .ok rest) :
    ∃ gap, Blank gap ∧ text = gap ++ ':' :: rest := by
  obtain ⟨blank, clear, whole, _⟩ := skip_cases text
  unfold readColon at read
  split at read
  · rename_i more skipped
    cases read
    exact ⟨blank, clear, skipped ▸ whole⟩
  · cases read
  · cases read

theorem colon_complete (gap rest : List Char) (clear : Blank gap) :
    readColon (gap ++ ':' :: rest) = .ok rest := by
  rw [readColon, skip_solid gap ':' rest rfl clear]
  rfl

theorem word_sound (word rest : List Char) (value other : Json)
    (read : readWord word value text = .ok (other, rest)) : other = value ∧ text = word ++ rest := by
  induction word generalizing text with
  | nil =>
      cases text <;> cases read <;> exact ⟨rfl, rfl⟩
  | cons expected word ih =>
      cases text with
      | nil => cases read
      | cons c more =>
          simp only [readWord] at read
          split at read
          · rename_i same
            obtain ⟨value, whole⟩ := ih more read
            exact ⟨value, by rw [same, whole]; rfl⟩
          · cases read

theorem word_complete (word rest : List Char) (value : Json) :
    readWord word value (word ++ rest) = .ok (value, rest) := by
  induction word with
  | nil => cases rest <;> rfl
  | cons expected word ih =>
      rw [List.cons_append, readWord, if_pos rfl]
      exact ih

end Marks

section Heads

theorem digit_apart (c : Char) (digit : Number.isDigit c = true) (others : List Char)
    (apart : ∀ other ∈ others, Number.isDigit other = false) : c ∉ others := by
  intro member
  rw [apart c member] at digit
  cases digit

theorem numeral_head (digits : List Char) (numeral : Numeral digits) :
    ∃ c rest, digits = c :: rest ∧ Number.isDigit c = true := by
  obtain ⟨whole, fraction, power, plain, _, _, rfl⟩ := numeral
  cases whole with
  | nil => exact absurd rfl plain.1.1
  | cons c rest => exact ⟨c, _, rfl, plain.1.2 c List.mem_cons_self⟩

theorem spells_head (tree : Tree) (own : List Char) (spells : tree.Spells own) :
    ∃ c rest, own = c :: rest ∧ c ∉ [' ', '\n', '\t', '\r', ',', ']', '\x7d'] := by
  cases tree with
  | null => exact ⟨'n', _, spells, by decide⟩
  | bool value =>
      cases value with
      | true => exact ⟨'t', _, spells, by decide⟩
      | false => exact ⟨'f', _, spells, by decide⟩
  | number negative digits =>
      obtain ⟨numeral, rfl⟩ := spells
      cases negative with
      | true => exact ⟨'-', _, rfl, by decide⟩
      | false =>
          obtain ⟨c, rest, rfl, digit⟩ := numeral_head digits numeral
          exact ⟨c, rest, rfl, digit_apart c digit _ (by simp [Number.isDigit])⟩
  | text value =>
      obtain ⟨content, _, rfl⟩ := spells
      exact ⟨'"', _, rfl, by decide⟩
  | array items =>
      obtain ⟨inner, rfl, _⟩ := spells
      exact ⟨'[', _, rfl, by decide⟩
  | object members =>
      obtain ⟨inner, rfl, _⟩ := spells
      exact ⟨'\x7b', _, rfl, by decide⟩

theorem solid_head (c : Char) (apart : c ∉ [' ', '\n', '\t', '\r', ',', ']', '\x7d']) :
    isSpace c = false ∧ c ≠ ']' := by
  refine ⟨Bool.eq_false_iff.mpr fun space => apart ?_, ?_⟩
  · exact List.mem_append_left [',', ']', '\x7d'] ((space_listed c).mp space)
  · rintro rfl
    exact apart (by decide)

end Heads

def ValueSound (depth : Nat) (start : List Char) (value : Json) (rest : List Char) : Prop :=
  ∃ tree blank own, start = blank ++ own ++ rest ∧ Blank blank ∧ Spells tree own ∧
    tree.depth ≤ depth - 1 ∧ tree.value? = some value

def ItemsSound (depth : Nat) (first : Bool) (done : List Json) (start : List Char) (value : Json)
    (rest : List Char) : Prop :=
  ∃ items values tail, start = tail ++ ']' :: rest ∧ ItemsTail first items tail ∧
    itemsDepth items ≤ depth - 1 ∧ itemValues? items = some values ∧
    value = .array (done.reverse ++ values)

def MembersSound (depth : Nat) (first : Bool) (done : List (String × Json)) (start : List Char)
    (value : Json) (rest : List Char) : Prop :=
  ∃ members values tail, start = tail ++ '\x7d' :: rest ∧ MembersTail first members tail ∧
    membersDepth members ≤ depth - 1 ∧ memberValues? members = some values ∧
    value = .object (values.foldl (fun sorted member => put member.1 member.2 sorted) done)

section Sound

variable (fuel depth : Nat) (start rest : List Char) (value : Json)

theorem items_end (done : List Json)
    (read : readItems fuel depth false done start = .ok (value, rest)) : Ends start := by
  cases fuel with
  | zero => cases read
  | succ fuel =>
      rw [readItems] at read
      obtain ⟨next, marked, _⟩ := bound_ok _ _ _ read
      rcases next_item_cases false start next marked with
        ⟨blank, left, _, clear, rfl⟩ | ⟨lead, begun, _, leads, rfl⟩
      · exact blank_ends blank left ']' clear (by decide)
      · exact leads_ends lead begun leads

theorem members_end (done : List (String × Json))
    (read : readMembers fuel depth false done start = .ok (value, rest)) : Ends start := by
  cases fuel with
  | zero => cases read
  | succ fuel =>
      rw [readMembers] at read
      obtain ⟨next, marked, _⟩ := bound_ok _ _ _ read
      rcases next_name_cases false start next marked with
        ⟨blank, left, _, clear, rfl⟩ | ⟨lead, begun, _, leads, rfl⟩
      · exact blank_ends blank left '\x7d' clear (by decide)
      · exact leads_ends lead _ leads

variable
  (values : ∀ depth start value rest, readValue fuel depth start = .ok (value, rest) → Ends rest →
    ValueSound depth start value rest)

include values

theorem items_sound
    (later : ∀ done start value rest, readItems fuel depth false done start = .ok (value, rest) →
      ItemsSound depth false done start value rest)
    (first : Bool) (done : List Json)
    (read : readItems (fuel + 1) depth first done start = .ok (value, rest)) :
    ItemsSound depth first done start value rest := by
  rw [readItems] at read
  obtain ⟨next, marked, follows⟩ := bound_ok _ _ _ read
  rcases next_item_cases first start next marked with
    ⟨blank, left, rfl, clear, rfl⟩ | ⟨lead, begun, rfl, leads, rfl⟩
  · cases follows
    exact ⟨[], [], blank, rfl, (items_tail_nil first blank).mpr clear, Nat.zero_le _, rfl,
      by rw [List.append_nil]⟩
  · obtain ⟨⟨item, left⟩, begins, goes⟩ := bound_ok _ _ _ follows
    obtain ⟨tree, blank, own, rfl, clear, spells, shallow, valued⟩ :=
      values depth begun item left begins (items_end fuel depth left rest value _ goes)
    obtain ⟨items, others, tail, rfl, behind, deep, known, rfl⟩ :=
      later (item :: done) left value rest goes
    refine ⟨tree :: items, item :: others, lead ++ blank ++ own ++ tail, by simp, ?_,
      max_le shallow deep, ?_, ?_⟩
    · refine (items_tail_cons first _ tree items).mpr
        ⟨lead ++ blank, own, tail, rfl, ?_, spells, behind⟩
      cases first with
      | true => exact blank_append lead blank leads clear
      | false =>
          obtain ⟨early, gap, clean, wide, rfl⟩ := leads
          exact ⟨early, gap ++ blank, clean, blank_append gap blank wide clear, by simp⟩
    · rw [itemValues?, valued, known]
    · simp

theorem members_sound
    (later : ∀ done start value rest, readMembers fuel depth false done start = .ok (value, rest) →
      MembersSound depth false done start value rest)
    (first : Bool) (done : List (String × Json))
    (read : readMembers (fuel + 1) depth first done start = .ok (value, rest)) :
    MembersSound depth first done start value rest := by
  rw [readMembers] at read
  obtain ⟨next, marked, follows⟩ := bound_ok _ _ _ read
  rcases next_name_cases first start next marked with
    ⟨blank, left, rfl, clear, rfl⟩ | ⟨lead, begun, rfl, leads, rfl⟩
  · cases follows
    exact ⟨[], [], blank, rfl, (members_tail_nil first blank).mpr clear, Nat.zero_le _, rfl, rfl⟩
  · obtain ⟨⟨name, titled⟩, names, follows⟩ := bound_ok _ _ _ follows
    obtain ⟨colon, points, follows⟩ := bound_ok _ _ _ follows
    obtain ⟨⟨item, left⟩, begins, goes⟩ := bound_ok _ _ _ follows
    obtain ⟨title, quoted, whole⟩ := string_sound begun titled name names
    obtain ⟨gap, spaced, rfl⟩ := colon_sound titled colon points
    obtain ⟨tree, between, own, rfl, clear, spells, shallow, valued⟩ :=
      values depth colon item left begins (members_end fuel depth left rest value _ goes)
    obtain ⟨members, others, tail, rfl, behind, deep, known, rfl⟩ :=
      later (put name item done) left value rest goes
    refine ⟨(name, tree) :: members, (name, item) :: others,
      lead ++ title ++ gap ++ ':' :: between ++ own ++ tail, ?_, ?_, max_le shallow deep, ?_, rfl⟩
    · rw [whole]
      simp
    · exact (members_tail_cons first _ name tree members).mpr
        ⟨lead, title, gap, between, own, tail, rfl, leads, quoted, spaced, clear, spells, behind⟩
    · rw [memberValues?, valued, known]

omit values in
theorem value_sound (ends : Ends rest)
    (items : ∀ depth start value, readItems fuel depth true [] start = .ok (value, rest) →
      ItemsSound depth true [] start value rest)
    (members : ∀ depth start value, readMembers fuel depth true [] start = .ok (value, rest) →
      MembersSound depth true [] start value rest)
    (read : readValue (fuel + 1) depth start = .ok (value, rest)) :
    ValueSound depth start value rest := by
  obtain ⟨blank, clear, whole, _⟩ := skip_cases start
  -- It is enough to say what spells the value behind the blanks.
  have behind (tree : Tree) (own : List Char) (skipped : skipSpace start = own ++ rest)
      (spells : Spells tree own) (shallow : tree.depth ≤ depth - 1)
      (valued : tree.value? = some value) : ValueSound depth start value rest :=
    ⟨tree, blank, own, by rw [whole, skipped, List.append_assoc], clear, spells, shallow, valued⟩
  rw [readValue] at read
  split at read
  · cases read
  · rename_i more skipped
    obtain ⟨rfl, rfl⟩ := word_sound more _ rest _ _ read
    exact behind .null ['n', 'u', 'l', 'l'] skipped rfl (Nat.zero_le _) rfl
  · rename_i more skipped
    obtain ⟨rfl, rfl⟩ := word_sound more _ rest _ _ read
    exact behind (.bool true) ['t', 'r', 'u', 'e'] skipped rfl (Nat.zero_le _) rfl
  · rename_i more skipped
    obtain ⟨rfl, rfl⟩ := word_sound more _ rest _ _ read
    exact behind (.bool false) ['f', 'a', 'l', 's', 'e'] skipped rfl (Nat.zero_le _) rfl
  · rename_i more skipped
    obtain ⟨digits, numeral, rfl, worth⟩ := number_taken true rest ends value more read
    exact behind (.number true digits) ('-' :: digits) skipped ⟨numeral, rfl⟩ (Nat.zero_le _) worth
  · rename_i more skipped
    obtain ⟨⟨content, left⟩, reads, follows⟩ := bound_ok _ _ _ read
    obtain ⟨quoted, own, same⟩ := string_sound more left content reads
    cases follows
    exact behind (.text content) quoted (skipped.trans same) own (Nat.zero_le _) rfl
  · rename_i more skipped
    split at read
    · cases read
    · rename_i deep
      obtain ⟨items, values, tail, rfl, behindOpen, shallow, known, rfl⟩ :=
        items (depth - 1) more value read
      refine behind (.array items) ('[' :: tail ++ [']']) ?_ ⟨tail, rfl, behindOpen⟩ ?_ ?_
      · rw [skipped]
        simp
      · rw [Tree.depth]
        omega
      · rw [value?, known]
        rfl
  · rename_i more skipped
    split at read
    · cases read
    · rename_i deep
      obtain ⟨members, values, tail, rfl, behindOpen, shallow, known, rfl⟩ :=
        members (depth - 1) more value read
      refine behind (.object members) ('\x7b' :: tail ++ ['\x7d']) ?_ ⟨tail, rfl, behindOpen⟩ ?_ ?_
      · rw [skipped]
        simp
      · rw [Tree.depth]
        omega
      · rw [value?, known]
        rfl
  · rename_i c more _ _ _ _ _ _ _ skipped
    split at read
    · obtain ⟨digits, numeral, same, worth⟩ := number_taken false rest ends value (c :: more) read
      exact behind (.number false digits) digits (skipped.trans same) ⟨numeral, rfl⟩ (Nat.zero_le _)
        worth
    · cases read

end Sound

-- By induction on the fuel, for values and lists at once.
theorem read_sound (fuel : Nat) :
    (∀ depth start value rest, readValue fuel depth start = .ok (value, rest) → Ends rest →
      ValueSound depth start value rest) ∧
    (∀ depth first done start value rest,
      readItems fuel depth first done start = .ok (value, rest) →
        ItemsSound depth first done start value rest) ∧
    ∀ depth first done start value rest,
      readMembers fuel depth first done start = .ok (value, rest) →
        MembersSound depth first done start value rest := by
  induction fuel with
  | zero =>
      refine ⟨fun _ _ _ _ read => ?_, fun _ _ _ _ _ _ read => ?_, fun _ _ _ _ _ _ read => ?_⟩ <;>
        cases read
  | succ fuel ih =>
      obtain ⟨values, items, members⟩ := ih
      refine ⟨fun depth start value rest read ends => ?_, fun depth first done start value rest read => ?_,
        fun depth first done start value rest read => ?_⟩
      · exact value_sound fuel depth start rest value ends
          (fun depth start value => items depth true [] start value rest)
          (fun depth start value => members depth true [] start value rest) read
      · exact items_sound fuel depth start rest value values (items depth false) first done read
      · exact members_sound fuel depth start rest value values (members depth false) first done read

section Complete

theorem value_digit (fuel depth : Nat) (start rest : List Char) (c : Char)
    (skipped : skipSpace start = c :: rest) (digit : Number.isDigit c = true) :
    readValue (fuel + 1) depth start = readNumber false (c :: rest) := by
  rw [readValue]
  split
  · rename_i none
    cases skipped.symm.trans none
  iterate 7
    · rename_i more same
      rw [(List.cons.inj (skipped.symm.trans same)).1] at digit
      cases digit
  · rename_i other more _ _ _ _ _ _ _ same
    obtain ⟨rfl, rfl⟩ := List.cons.inj (skipped.symm.trans same)
    rw [if_pos digit]

theorem item_values_cons (item : Tree) (rest : List Tree) (values : List Json)
    (known : itemValues? (item :: rest) = some values) :
    ∃ value others, item.value? = some value ∧ itemValues? rest = some others ∧
      values = value :: others := by
  rw [itemValues?] at known
  split at known
  · rename_i value others own later
    cases known
    exact ⟨value, others, own, later, rfl⟩
  · cases known

theorem member_values_cons (name : String) (item : Tree) (rest : List (String × Tree))
    (values : List (String × Json)) (known : memberValues? ((name, item) :: rest) = some values) :
    ∃ value others, item.value? = some value ∧ memberValues? rest = some others ∧
      values = (name, value) :: others := by
  rw [memberValues?] at known
  split at known
  · rename_i value others own later
    cases known
    exact ⟨value, others, own, later, rfl⟩
  · cases known

theorem items_tail_ends (items : List Tree) (tail rest : List Char)
    (behind : ItemsTail false items tail) : Ends (tail ++ ']' :: rest) := by
  cases items with
  | nil => exact blank_ends tail rest ']' ((items_tail_nil false tail).mp behind) (by decide)
  | cons item others =>
      obtain ⟨lead, own, later, rfl, leads, _⟩ := (items_tail_cons false tail item others).mp behind
      rw [List.append_assoc, List.append_assoc]
      exact leads_ends lead _ leads

theorem members_tail_ends (members : List (String × Tree)) (tail rest : List Char)
    (behind : MembersTail false members tail) : Ends (tail ++ '\x7d' :: rest) := by
  cases members with
  | nil => exact blank_ends tail rest '\x7d' ((members_tail_nil false tail).mp behind) (by decide)
  | cons member others =>
      obtain ⟨lead, title, gap, between, own, later, rfl, leads, _⟩ :=
        (members_tail_cons false tail member.1 member.2 others).mp behind
      simp only [List.append_assoc]
      exact leads_ends lead _ leads

mutual

theorem value_complete (tree : Tree) (fuel depth : Nat) (blank own rest : List Char) (value : Json)
    (clear : Blank blank) (spells : tree.Spells own) (valued : tree.value? = some value)
    (shallow : tree.depth ≤ depth - 1) (enough : 2 * own.length ≤ fuel) (ends : Ends rest) :
    readValue fuel depth (blank ++ own ++ rest) = .ok (value, rest) := by
  obtain ⟨c, more, rfl, apart⟩ := spells_head tree own spells
  obtain ⟨solid, _⟩ := solid_head c apart
  have skipped := skip_solid blank c (more ++ rest) solid clear
  obtain ⟨fuel, rfl⟩ : ∃ less, fuel = less + 1 := ⟨fuel - 1, by
    rw [List.length_cons] at enough
    omega⟩
  rw [List.append_assoc, List.cons_append]
  cases tree with
  | null =>
      cases valued
      cases spells
      rw [readValue, skipped]
      exact word_complete ['u', 'l', 'l'] rest .null
  | bool truth =>
      cases valued
      cases truth with
      | true =>
          cases spells
          rw [readValue, skipped]
          exact word_complete ['r', 'u', 'e'] rest (.bool true)
      | false =>
          cases spells
          rw [readValue, skipped]
          exact word_complete ['a', 'l', 's', 'e'] rest (.bool false)
  | number negative digits =>
      obtain ⟨numeral, same⟩ := spells
      have reads := number_read negative rest ends value digits valued
      cases negative with
      | true =>
          obtain ⟨rfl, rfl⟩ := List.cons.inj same
          rw [readValue, skipped]
          exact reads
      | false =>
          obtain ⟨first, others, rfl, digit⟩ := numeral_head digits numeral
          obtain ⟨rfl, rfl⟩ := List.cons.inj same
          rw [value_digit fuel depth _ _ c skipped digit]
          exact reads
  | text content =>
      cases valued
      obtain ⟨behind, whole, reads⟩ := string_complete content (c :: more) rest spells
      obtain ⟨rfl, same⟩ : c = '"' ∧ more ++ rest = behind := List.cons.inj whole
      rw [readValue, skipped]
      change (readString (more ++ rest) >>= fun read => .ok (Json.text read.1, read.2)) = _
      rw [same, reads]
      rfl
  | array items =>
      obtain ⟨inner, same, tail⟩ := spells
      obtain ⟨values, known, rfl⟩ := Option.map_eq_some_iff.mp valued
      have same : c :: more = '[' :: (inner ++ [']']) := same
      obtain ⟨rfl, rfl⟩ := List.cons.inj same
      rw [Tree.depth] at shallow
      have inside := items_complete items fuel (depth - 1) true [] inner rest values tail known
        (by omega) (by simp at enough; omega)
      rw [readValue, skipped]
      simp only [List.append_assoc, List.cons_append, List.nil_append]
      rw [if_neg (by omega), inside]
      rfl
  | object members =>
      obtain ⟨inner, same, tail⟩ := spells
      obtain ⟨values, known, rfl⟩ := Option.map_eq_some_iff.mp valued
      have same : c :: more = '\x7b' :: (inner ++ ['\x7d']) := same
      obtain ⟨rfl, rfl⟩ := List.cons.inj same
      rw [Tree.depth] at shallow
      have inside := members_complete members fuel (depth - 1) true [] inner rest values tail known
        (by omega) (by simp at enough; omega)
      rw [readValue, skipped]
      simp only [List.append_assoc, List.cons_append, List.nil_append]
      rw [if_neg (by omega), inside]
      rfl

theorem items_complete (items : List Tree) (fuel depth : Nat) (first : Bool) (done : List Json)
    (text rest : List Char) (values : List Json) (tail : ItemsTail first items text)
    (known : itemValues? items = some values) (shallow : itemsDepth items ≤ depth - 1)
    (enough : 2 * (text.length + 1) ≤ fuel) :
    readItems fuel depth first done (text ++ ']' :: rest) =
      .ok (.array (done.reverse ++ values), rest) := by
  obtain ⟨fuel, rfl⟩ : ∃ less, fuel = less + 1 := ⟨fuel - 1, by omega⟩
  cases items with
  | nil =>
      cases known
      rw [readItems, next_item_close first text rest ((items_tail_nil first text).mp tail),
        List.append_nil]
      rfl
  | cons item others =>
      obtain ⟨lead, own, later, rfl, leads, spells, behind⟩ :=
        (items_tail_cons first text item others).mp tail
      obtain ⟨value, rest_values, own_valued, others_known, rfl⟩ := item_values_cons item others values known
      obtain ⟨c, more, rfl, apart⟩ := spells_head item own spells
      obtain ⟨solid, closing⟩ := solid_head c apart
      rw [itemsDepth, Nat.max_le] at shallow
      simp only [List.length_append, List.length_cons] at enough
      have begins := value_complete item fuel depth [] (c :: more) (later ++ ']' :: rest) value
        (fun other member => by cases member) spells own_valued shallow.1
        (by rw [List.length_cons]; omega) (items_tail_ends others later rest behind)
      have goes := items_complete others fuel depth false (value :: done) later rest rest_values
        behind others_known shallow.2 (by omega)
      have opens := next_item_open first lead (more ++ (later ++ ']' :: rest)) c leads solid closing
      simp only [List.nil_append, List.append_assoc, List.cons_append] at begins opens ⊢
      rw [readItems, opens]
      change (readValue fuel depth (c :: (more ++ (later ++ ']' :: rest))) >>= fun read =>
        readItems fuel depth false (read.1 :: done) read.2) = _
      rw [begins]
      change readItems fuel depth false (value :: done) (later ++ ']' :: rest) = _
      rw [goes, List.reverse_cons, List.append_assoc]
      rfl

theorem members_complete (members : List (String × Tree)) (fuel depth : Nat) (first : Bool)
    (done : List (String × Json)) (text rest : List Char) (values : List (String × Json))
    (tail : MembersTail first members text) (known : memberValues? members = some values)
    (shallow : membersDepth members ≤ depth - 1) (enough : 2 * (text.length + 1) ≤ fuel) :
    readMembers fuel depth first done (text ++ '\x7d' :: rest) =
      .ok (.object (values.foldl (fun sorted member => put member.1 member.2 sorted) done), rest) := by
  obtain ⟨fuel, rfl⟩ : ∃ less, fuel = less + 1 := ⟨fuel - 1, by omega⟩
  cases members with
  | nil =>
      cases known
      rw [readMembers, next_name_close first text rest ((members_tail_nil first text).mp tail)]
      rfl
  | cons member others =>
      obtain ⟨name, item⟩ := member
      obtain ⟨lead, title, gap, between, own, later, rfl, leads, quoted, spaced, clear, spells, behind⟩ :=
        (members_tail_cons first text name item others).mp tail
      obtain ⟨value, rest_values, own_valued, others_known, rfl⟩ :=
        member_values_cons name item others values known
      rw [membersDepth, Nat.max_le] at shallow
      simp only [List.length_append, List.length_cons] at enough
      have begins := value_complete item fuel depth between own (later ++ '\x7d' :: rest) value
        clear spells own_valued shallow.1 (by omega) (members_tail_ends others later rest behind)
      have goes := members_complete others fuel depth false (put name value done) later rest
        rest_values behind others_known shallow.2 (by omega)
      obtain ⟨content, same, reads⟩ := string_complete name title
        (gap ++ ':' :: (between ++ own ++ (later ++ '\x7d' :: rest))) quoted
      have points := colon_complete gap (between ++ own ++ (later ++ '\x7d' :: rest)) spaced
      have whole : lead ++ title ++ gap ++ ':' :: between ++ own ++ later ++ '\x7d' :: rest =
          lead ++ '"' :: content := by
        rw [← same]
        simp
      rw [whole, readMembers, next_name_open first lead content leads]
      change (readString content >>= fun named => readColon named.2 >>= fun start =>
        readValue fuel depth start >>= fun read =>
          readMembers fuel depth false (put named.1 read.1 done) read.2) = _
      rw [reads]
      change (readColon (gap ++ ':' :: (between ++ own ++ (later ++ '\x7d' :: rest))) >>= fun start =>
        readValue fuel depth start >>= fun read =>
          readMembers fuel depth false (put name read.1 done) read.2) = _
      rw [points]
      change (readValue fuel depth (between ++ own ++ (later ++ '\x7d' :: rest)) >>= fun read =>
        readMembers fuel depth false (put name read.1 done) read.2) = _
      rw [begins]
      exact goes

end

end Complete

theorem text_read_iff (text : List Char) (value : Json) :
    readText text = .ok value ↔
      ∃ tree : Tree, tree.Fills text ∧ tree.depth ≤ 127 ∧ tree.value? = some value := by
  constructor
  · intro read
    obtain ⟨⟨found, rest⟩, reads, follows⟩ := bound_ok _ _ _ read
    obtain ⟨after, clear, whole, _⟩ := skip_cases rest
    simp only at follows
    split at follows
    · rename_i ended
      cases follows
      rw [ended, List.append_nil] at whole
      have ends : Ends rest := fun c first =>
        List.mem_append_left [',', ']', '\x7d'] (clear c (whole ▸ List.mem_of_mem_head? first))
      obtain ⟨tree, before, own, rfl, opens, spells, shallow, valued⟩ :=
        (read_sound _).1 128 text value rest reads ends
      exact ⟨tree, ⟨before, own, rest, rfl, opens, spells, whole ▸ clear⟩, shallow, valued⟩
    · cases follows
  · rintro ⟨tree, ⟨before, own, after, rfl, opens, spells, closes⟩, shallow, valued⟩
    have ends : Ends after := fun c first =>
      List.mem_append_left [',', ']', '\x7d'] (closes c (List.mem_of_mem_head? first))
    have reads := value_complete tree (2 * (before ++ own ++ after).length + 2) 128 before own after
      value opens spells valued shallow
      (by rw [List.length_append, List.length_append]; omega) ends
    simp only [readText, reads, bind, Except.bind, skip_blank after closes]

theorem read_iff (text : String) (value : Json) :
    read text = .ok value ↔
      ∃ tree : Tree, tree.Fills text.toList ∧ tree.depth ≤ 127 ∧ tree.value? = some value := by
  rw [← text_read_iff, read]
  cases readText text.toList <;> simp [Except.mapError]

theorem readable_iff (text : String) :
    (∃ value, read text = .ok value) ↔
      ∃ tree : Tree, tree.Fills text.toList ∧ tree.depth ≤ 127 ∧ tree.InRange := by
  simp only [read_iff]
  constructor
  · rintro ⟨value, tree, ⟨before, own, after, whole, opens, spells, closes⟩, shallow, known⟩
    exact ⟨tree, ⟨before, own, after, whole, opens, spells, closes⟩, shallow,
      (value_some_iff tree own spells).mp ⟨value, known⟩⟩
  · rintro ⟨tree, ⟨before, own, after, whole, opens, spells, closes⟩, shallow, ranged⟩
    obtain ⟨value, known⟩ := (value_some_iff tree own spells).mpr ranged
    exact ⟨value, tree, ⟨before, own, after, whole, opens, spells, closes⟩, shallow, known⟩

end Foreman.Json
