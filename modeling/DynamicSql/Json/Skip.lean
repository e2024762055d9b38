import DynamicSql.Json.Parser

/-!
# Skipping JSON

A document of which nothing is kept only has to be well formed: its numbers may be too large for a
float, its strings may have half of a surrogate pair, and it may be nested to any depth.
-/

namespace DynamicSql.Json

/-- Removes a string, behind its opening quotation mark. -/
def skipString? : List Char → Option (List Char)
  | [] => none
  | '"' :: s => some s
  | '\\' :: 'u' :: a :: b :: c :: d :: s =>
    if [a, b, c, d].all fun h => (Text.hexValue? h).isSome then skipString? s else none
  | '\\' :: c :: s => if "\"\\/bfnrt".toList.contains c then skipString? s else none
  | c :: s => if c.toNat < 0x20 then none else skipString? s

/-- Removes a string, a number or a word. -/
private def skipScalar? (s : List Char) : Option (List Char) :=
  match s with
  | '"' :: s => skipString? s
  | 'n' :: s => dropWord? "ull" s
  | 't' :: s => dropWord? "rue" s
  | 'f' :: s => dropWord? "alse" s
  | '-' :: s => (numeral? s).map Prod.snd
  | s => (numeral? s).map Prod.snd

/-- Removes the name of a field and the colon behind it. -/
private def skipName? (s : List Char) : Option (List Char) := do
  match skipBlanks s with
  | '"' :: s => match skipBlanks (← skipString? s) with
    | ':' :: s => return s
    | _ => none
  | _ => none

/-- What is open around a place in a text. -/
private inductive Bracket where
  | array
  | object

/-- Removes what is left up to the end of the outermost of the open brackets, with a document first
if one is `due`; `fuel` bounds the parts that are removed. -/
private def skipFrom? : Nat → (due : Bool) → List Bracket → List Char → Option (List Char)
  | 0, _, _, _ => none
  | fuel + 1, true, outer, s =>
    match skipBlanks s with
    | '[' :: s => match skipBlanks s with
      | ']' :: s => skipFrom? fuel false outer s
      | s => skipFrom? fuel true (.array :: outer) s
    | '\x7b' :: s => match skipBlanks s with
      | '\x7d' :: s => skipFrom? fuel false outer s
      | s => match skipName? s with
        | some s => skipFrom? fuel true (.object :: outer) s
        | none => none
    | s => match skipScalar? s with
      | some s => skipFrom? fuel false outer s
      | none => none
  | _ + 1, false, [], s => some s
  | fuel + 1, false, .array :: outer, s =>
    match skipBlanks s with
    | ',' :: s => skipFrom? fuel true (.array :: outer) s
    | ']' :: s => skipFrom? fuel false outer s
    | _ => none
  | fuel + 1, false, .object :: outer, s =>
    match skipBlanks s with
    | ',' :: s => match skipName? s with
      | some s => skipFrom? fuel true (.object :: outer) s
      | none => none
    | '\x7d' :: s => skipFrom? fuel false outer s
    | _ => none

/-- Removes a well-formed document from the head of the text. -/
def skip? (s : List Char) : Option (List Char) := skipFrom? (s.length + 1) true [] s

end DynamicSql.Json
