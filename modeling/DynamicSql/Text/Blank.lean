/-!
# Blank characters

`isBlank` is the Unicode property `White_Space`. Trimming removes blank characters from the ends of
a text, so that what is left neither begins nor ends with one.
-/

namespace DynamicSql.Text

/-- The code points with the Unicode property `White_Space`. -/
def isBlank (c : Char) : Bool :=
  let n := c.toNat
  (0x09 ≤ n && n ≤ 0x0d) || n == 0x20 || n == 0x85 || n == 0xa0 || n == 0x1680 ||
    (0x2000 ≤ n && n ≤ 0x200a) || n == 0x2028 || n == 0x2029 || n == 0x202f || n == 0x205f ||
    n == 0x3000

/-- The text without the blank characters it begins with. -/
def trimStart (s : List Char) : List Char := s.dropWhile isBlank

/-- The text without the characters at its end that satisfy `p`. -/
def dropEndWhile (p : Char → Bool) (s : List Char) : List Char :=
  (s.reverse.dropWhile p).reverse

/-- The run of characters at the end of the text that satisfy `p`. -/
def takeEndWhile (p : Char → Bool) (s : List Char) : List Char :=
  (s.reverse.takeWhile p).reverse

def trimEnd (s : List Char) : List Char := dropEndWhile isBlank s

/-- The text without the blank characters at either end. -/
def trim (s : List Char) : List Char := trimEnd (trimStart s)

/-- Whether the text holds nothing but blank characters. -/
def allBlank (s : List Char) : Bool := s.all isBlank

theorem dropEndWhile_append_takeEndWhile (p : Char → Bool) (s : List Char) :
    dropEndWhile p s ++ takeEndWhile p s = s := by
  rw [dropEndWhile, takeEndWhile, ← List.reverse_append, List.takeWhile_append_dropWhile,
    List.reverse_reverse]

/-- `trim` on strings. -/
def trimmed (s : String) : String := String.ofList (trim s.toList)

end DynamicSql.Text
