import DynamicSql.Expr.Basic

/-!
# Words and symbols of expressions

An expression text is a sequence of words, numbers, strings and symbols with blanks between them. A
word is a longest run of letters, digits, `_` and `$` that does not begin with a digit.
-/

namespace DynamicSql.Expr

/-- A piece of an expression text. -/
inductive Token where
  /-- A word: a name, or an operator or literal written as a word. -/
  | word (w : String)
  /-- A number, with the digits behind the point if there is one. -/
  | number (whole : List Char) (fraction : Option (List Char))
  | string (s : String)
  | symbol (s : String)
  deriving DecidableEq

namespace Token

/-- Characters that may stand between the pieces. -/
def isSpace (c : Char) : Bool := c == ' ' || c == '\t' || c == '\r' || c == '\n'

def isWordChar (c : Char) : Bool := c.isAlphanum || c == '_' || c == '$'

/-- Characters that begin a word. -/
def isWordStart (c : Char) : Bool := c.isAlpha || c == '_' || c == '$'

/-- The character that a backslash and `c` stand for inside a string. -/
def unescape (c : Char) : Char :=
  match c with
  | 'n' => '\n'
  | 't' => '\t'
  | 'r' => '\r'
  | c => c

/-- The content of a string up to the quotation mark `mark`, and the text behind the mark. -/
def stringBody? (mark : Char) : List Char → Option (List Char × List Char)
  | [] => none
  | '\\' :: c :: rest => (stringBody? mark rest).map fun (s, rest) => (unescape c :: s, rest)
  | c :: rest =>
    if c = mark then some ([], rest)
    else (stringBody? mark rest).map fun (s, rest) => (c :: s, rest)

/-- Symbols of two characters; each is taken before the symbol of its first character alone. -/
def pairs : List (Char × Char) :=
  [('|', '|'), ('&', '&'), ('=', '='), ('!', '='), ('<', '='), ('>', '=')]

/-- Symbols of one character. -/
def singles : List Char := ['<', '>', '+', '-', '*', '/', '%', '!', '.', ',', '(', ')', '[', ']']

def readNumber (s : List Char) : Token × List Char :=
  let whole := s.takeWhile Char.isDigit
  let rest := s.dropWhile Char.isDigit
  match rest with
  | '.' :: c :: more =>
    if c.isDigit then
      (number whole (some ((c :: more).takeWhile Char.isDigit)), (c :: more).dropWhile Char.isDigit)
    else (number whole none, rest)
  | _ => (number whole none, rest)

def readSymbol? (c : Char) (rest : List Char) : Option (Token × List Char) :=
  match rest with
  | d :: more =>
    if (c, d) ∈ pairs then some (symbol (String.ofList [c, d]), more)
    else if c ∈ singles then some (symbol (String.ofList [c]), rest)
    else none
  | [] => if c ∈ singles then some (symbol (String.ofList [c]), []) else none

/-- Reads one piece off a text that begins with `c`, which is no blank. -/
def read? (c : Char) (rest : List Char) : Option (Token × List Char) :=
  if isWordStart c then
    some (word (String.ofList (c :: rest.takeWhile isWordChar)), rest.dropWhile isWordChar)
  else if c.isDigit then some (readNumber (c :: rest))
  else if c = '\'' ∨ c = '"' then
    (stringBody? c rest).map fun (s, rest) => (string (String.ofList s), rest)
  else readSymbol? c rest

/-- The pieces of a text, none if some part of it is no piece; `fuel` bounds the length. -/
def scanFuel? : Nat → List Char → Option (List Token)
  | _, [] => some []
  | 0, _ :: _ => none
  | fuel + 1, c :: rest =>
    if isSpace c then scanFuel? fuel rest
    else do
      let (t, rest) ← read? c rest
      return t :: (← scanFuel? fuel rest)

/-- The pieces of a text, none if some part of it is no piece. -/
def scan? (s : List Char) : Option (List Token) := scanFuel? s.length s

end Token

end DynamicSql.Expr
