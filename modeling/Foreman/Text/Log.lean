import Foreman.Text.Quoted

set_option autoImplicit false

namespace Foreman.Text

def logChar (c : Char) : List Char :=
  let code := c.toNat
  if code = 0x1b ∨ code = 0x07 ∨ code = 0x08 ∨ code = 0x0c ∨ code = 0x7f then
    ['\\', 'x', hexDigit (code / 16), hexDigit (code % 16)]
  else if 0x80 ≤ code ∧ code ≤ 0x9f then
    ['\\', 'u', '\x7b'] ++ hexDigits code ++ ['\x7d']
  else [c]

-- The lines of a text. A line ends with a line feed or with a carriage return and a line feed.
def lines : List Char → List (List Char)
  | [] => []
  | '\n' :: rest => [] :: lines rest
  | '\r' :: '\n' :: rest => [] :: lines rest
  | c :: rest =>
      match lines rest with
      | [] => [[c]]
      | line :: more => (c :: line) :: more

def logLines (message : String) : List String :=
  (lines (message.toList.flatMap logChar ++ ['\n'])).map String.ofList

end Foreman.Text
