set_option autoImplicit false

namespace Foreman.Text

def blankRanges : List (Nat × Nat) :=
  [(0x9, 0xd), (0x20, 0x20), (0x85, 0x85), (0xa0, 0xa0), (0x1680, 0x1680), (0x2000, 0x200a),
   (0x2028, 0x2029), (0x202f, 0x202f), (0x205f, 0x205f), (0x3000, 0x3000)]

def isBlank (c : Char) : Bool :=
  blankRanges.any fun range => decide (range.1 ≤ c.toNat) && decide (c.toNat ≤ range.2)

def dropBlanks (text : List Char) : List Char :=
  text.dropWhile isBlank

def trimmed (text : List Char) : List Char :=
  (dropBlanks (dropBlanks text).reverse).reverse

def trim (text : String) : String :=
  String.ofList (trimmed text.toList)

def allBlank (text : String) : Bool :=
  text.toList.all isBlank

-- Number of maximal runs without blanks; the flag says whether a run is open before the text.
def countWords : Bool → List Char → Nat
  | _, [] => 0
  | inside, c :: rest =>
      if isBlank c then countWords false rest
      else (if inside then 0 else 1) + countWords true rest

def wordCount (text : List Char) : Nat :=
  countWords false text

end Foreman.Text
