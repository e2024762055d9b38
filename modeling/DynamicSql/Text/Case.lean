import DynamicSql.Text.CaseData

/-!
# Letter case

Full case conversion of texts: a character may become several, and a capital sigma at the end of a
word becomes a final sigma.
-/

namespace DynamicSql.Text

open CaseData

/-- The mapping of one character by runs and by special images; ASCII letters move by `shift`. -/
private def mapCase (isFrom : Char → Bool) (shift : Char → Char) (runs : List Run)
    (special : List (Nat × List Nat)) (c : Char) : List Char :=
  if c.toNat < 128 then [if isFrom c then shift c else c]
  else match special.lookup c.toNat with
    | some images => images.map Char.ofNat
    | none => match runs.findSome? (·.imageOf? c.toNat) with
      | some n => [Char.ofNat n]
      | none => [c]

def upperChar : Char → List Char := mapCase Char.isLower Char.toUpper upperRuns upperSpecial

/-- The lower case form of a character, standing alone. -/
def lowerChar : Char → List Char := mapCase Char.isUpper Char.toLower lowerRuns lowerSpecial

private def inRanges (ranges : List (Nat × Nat)) (c : Char) : Bool :=
  ranges.any fun (lo, hi) => lo ≤ c.toNat && c.toNat ≤ hi

/-- Whether the nearest character that the final sigma rule does not skip carries case. -/
def nearestIsCased (s : List Char) : Bool :=
  match s.dropWhile (inRanges ignorableRanges) with
  | c :: _ => inRanges casedRanges c
  | [] => false

/-- The lower case form of a text whose preceding characters, nearest first, are `before`. -/
private def lowerFrom (before : List Char) : List Char → List Char
  | [] => []
  | c :: rest =>
    let image :=
      if c = 'Σ' then [if nearestIsCased before && !nearestIsCased rest then 'ς' else 'σ']
      else lowerChar c
    image ++ lowerFrom (c :: before) rest

def upper (s : List Char) : List Char := s.flatMap upperChar

/-- The lower case form of a text: a capital sigma that ends a word becomes a final sigma. -/
def lower (s : List Char) : List Char := lowerFrom [] s

/-- `upper` on strings. -/
def uppercase (s : String) : String := String.ofList (upper s.toList)

/-- `lower` on strings. -/
def lowercase (s : String) : String := String.ofList (lower s.toList)

/-- Whether two characters are equal up to the case of ASCII letters. -/
def eqIgnoreAsciiCase (a b : Char) : Bool := a.toLower == b.toLower

end DynamicSql.Text
