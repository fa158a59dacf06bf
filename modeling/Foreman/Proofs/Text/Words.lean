import Foreman.Text.Blank
import Mathlib.Data.List.DropRight
import Mathlib.Data.List.TakeWhile

set_option autoImplicit false

namespace Foreman.Text

def Blanks (text : List Char) : Prop := ∀ c ∈ text, isBlank c = true

def words (text : List Char) : List (List Char) :=
  (text.splitOnP isBlank).filter fun word => !word.isEmpty

section Words

theorem words_empty : words [] = [] := by
  simp [words]

-- All that is said of words follows from this: they are told apart at every blank.
theorem words_apart (c : Char) (blank : isBlank c = true) (before after : List Char) :
    words (before ++ c :: after) = words before ++ words after := by
  rw [words, List.splitOnP_append_cons before after blank, List.filter_append]
  rfl

theorem words_behind (blanks text : List Char) (blank : Blanks blanks) :
    words (blanks ++ text) = words text := by
  induction blanks with
  | nil => rfl
  | cons c rest ih =>
      have first := words_apart c (blank c List.mem_cons_self) [] (rest ++ text)
      rw [words_empty, List.nil_append, List.nil_append] at first
      rw [List.cons_append, first]
      exact ih fun other member => blank other (List.mem_cons_of_mem c member)

theorem words_before (text blanks : List Char) (blank : Blanks blanks) :
    words (text ++ blanks) = words text := by
  cases blanks with
  | nil => rw [List.append_nil]
  | cons c rest =>
      have others := words_behind rest [] fun other member =>
        blank other (List.mem_cons_of_mem c member)
      rw [List.append_nil] at others
      rw [words_apart c (blank c List.mem_cons_self), others, words_empty, List.append_nil]

theorem words_counted (text : List Char) :
    countWords false text = (words text).length ∧
      countWords true text =
        ((text.splitOnP isBlank).tail.filter fun word => !word.isEmpty).length := by
  induction text with
  | nil => simp [countWords, words]
  | cons c rest ih =>
      obtain ⟨outside, inside⟩ := ih
      rw [words] at outside ⊢
      rw [List.splitOnP_cons_eq_if_modifyHead]
      by_cases blank : isBlank c = true
      · simp [countWords, blank, outside]
      · obtain ⟨first, others, split⟩ := List.exists_cons_of_ne_nil (List.splitOnP_ne_nil isBlank rest)
        rw [split, List.tail_cons] at inside
        simp [countWords, blank, split, inside, Nat.add_comm]

theorem word_count_words (text : List Char) : wordCount text = (words text).length :=
  (words_counted text).1

end Words

section Trim

theorem drop_behind (blanks text : List Char) (blank : Blanks blanks) :
    dropBlanks (blanks ++ text) = dropBlanks text :=
  List.dropWhile_append_of_pos blank

theorem drop_before (text after : List Char) (shown : dropBlanks text ≠ []) :
    dropBlanks (text ++ after) = dropBlanks text ++ after := by
  rw [dropBlanks] at shown
  simp [dropBlanks, List.dropWhile_append, shown]

theorem trimmed_between (text : List Char) :
    ∃ before after, Blanks before ∧ Blanks after ∧ text = before ++ trimmed text ++ after := by
  refine ⟨text.takeWhile isBlank, ((dropBlanks text).reverse.takeWhile isBlank).reverse, ?_, ?_, ?_⟩
  · exact fun c member => List.mem_takeWhile_imp member
  · exact fun c member => List.mem_takeWhile_imp (List.mem_reverse.mp member)
  · rw [trimmed, List.append_assoc, ← List.reverse_append]
    simp [dropBlanks]

theorem trimmed_surrounded (before text after : List Char) (left : Blanks before)
    (right : Blanks after) : trimmed (before ++ text ++ after) = trimmed text := by
  have behind : Blanks after.reverse := fun c member => right c (List.mem_reverse.mp member)
  rw [trimmed, List.append_assoc, drop_behind before _ left]
  by_cases shown : dropBlanks text = []
  · have whole : Blanks text := List.dropWhile_eq_nil_iff.mp shown
    have emptied : dropBlanks after = [] := List.dropWhile_eq_nil_iff.mpr right
    rw [drop_behind text after whole, emptied, trimmed, shown]
  · rw [drop_before text after shown, List.reverse_append, drop_behind _ _ behind, trimmed]

theorem trimmed_twice (text : List Char) : trimmed (trimmed text) = trimmed text := by
  obtain ⟨before, after, left, right, same⟩ := trimmed_between text
  have once := trimmed_surrounded before (trimmed text) after left right
  rw [← same] at once
  exact once.symm

theorem trimmed_headed (c : Char) (gap text : List Char) (shows : isBlank c = false)
    (shown : trimmed text ≠ []) :
    trimmed (c :: gap ++ trimmed text) = c :: gap ++ trimmed text := by
  have start : dropBlanks (c :: gap ++ trimmed text) = c :: gap ++ trimmed text := by
    simp [dropBlanks, shows]
  have back : dropBlanks (trimmed text).reverse = (trimmed text).reverse := by
    rw [trimmed, List.reverse_reverse]
    exact List.dropWhile_idempotent _ _
  have rest : dropBlanks (trimmed text).reverse ≠ [] := by
    rw [back]
    simpa using shown
  rw [trimmed, start, List.reverse_append, drop_before _ _ rest, back, ← List.reverse_append,
    List.reverse_reverse]

theorem words_trimmed (text : List Char) : words (trimmed text) = words text := by
  obtain ⟨before, after, left, right, same⟩ := trimmed_between text
  calc
    words (trimmed text) = words (before ++ trimmed text) := (words_behind before _ left).symm
    _ = words (before ++ trimmed text ++ after) := (words_before _ after right).symm
    _ = words text := congrArg words same.symm

theorem words_shown (text : List Char) (some : 0 < (words text).length) : trimmed text ≠ [] := by
  intro empty
  rw [← words_trimmed, empty, words_empty] at some
  cases some

end Trim

section Mark

variable (mark : Char) (before after : List Char) (absent : mark ∉ before)

include absent

theorem mark_differs : ∀ c ∈ before, (c != mark) = true :=
  fun _ member => bne_iff_ne.mpr fun same => absent (same ▸ member)

theorem take_unmarked : (before ++ mark :: after).takeWhile (· != mark) = before := by
  rw [List.takeWhile_append_of_pos (mark_differs mark before absent),
    List.takeWhile_cons_of_neg (by simp), List.append_nil]

theorem drop_unmarked : (before ++ mark :: after).dropWhile (· != mark) = mark :: after := by
  rw [List.dropWhile_append_of_pos (mark_differs mark before absent),
    List.dropWhile_cons_of_neg (by simp)]

end Mark

end Foreman.Text
