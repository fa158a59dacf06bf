import Foreman.TaskId

set_option autoImplicit false

namespace Foreman.TaskId

theorem digit_of_hex (digit : Fin 16) : digitOf (Text.hexDigit digit.val) = some digit := by
  revert digit
  decide

theorem digits_of_hex (digits : List (Fin 16)) :
    (digits.map fun digit => Text.hexDigit digit.val).mapM digitOf = some digits := by
  induction digits with
  | nil => rfl
  | cons digit rest before =>
      rw [List.map_cons, List.mapM_cons, digit_of_hex, before]
      rfl

theorem of_digits_hex (id : TaskId) :
    ofDigits (id.digits.map fun digit => Text.hexDigit digit.val) = some id := by
  simp only [ofDigits, digits_of_hex, Option.bind_eq_bind, Option.bind_some]
  rw [dif_pos id.size]

theorem of_groups_joined (a b c d e : List Char) (first : a.length = 8) (second : b.length = 4)
    (third : c.length = 4) (fourth : d.length = 4) :
    ofGroups (a ++ ['-'] ++ b ++ ['-'] ++ c ++ ['-'] ++ d ++ ['-'] ++ e) =
      ofDigits (a ++ b ++ c ++ d ++ e) := by
  simp [ofGroups, List.getElem?_append, List.drop_append, List.drop_of_length_le, first, second,
    third, fourth]

theorem groups_rejoin (all : List Char) :
    all.take 8 ++ (all.drop 8).take 4 ++ (all.drop 12).take 4 ++ (all.drop 16).take 4 ++
      all.drop 20 = all := by
  have later : ∀ start size : Nat,
      (all.drop start).take size ++ all.drop (start + size) = all.drop start := by
    intro start size
    rw [← List.drop_drop, List.take_append_drop]
  simp only [List.append_assoc, later 16 4, later 12 4, later 8 4, List.take_append_drop]

theorem chars_length (id : TaskId) : id.chars.length = 36 := by
  simp [chars, id.size]

theorem parse_text (id : TaskId) : parse id.text = some id := by
  have length := chars_length id
  rw [parse, text, String.toList_ofList, ofChars, if_neg (by omega), if_pos length, chars]
  rw [of_groups_joined _ _ _ _ _ (by simp [id.size]) (by simp [id.size]) (by simp [id.size])
    (by simp [id.size]), groups_rejoin, of_digits_hex]

end Foreman.TaskId
