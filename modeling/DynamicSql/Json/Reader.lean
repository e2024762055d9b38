import DynamicSql.Json.Decode
import DynamicSql.Json.Skip

/-!
# Reading structures from JSON texts

A reader takes what it reads off the head of a text, from left to right, so that the first thing to
refuse decides. A structure may be written as an object or as the array of its members in a fixed
order. An object may have further fields, which only have to be well formed, but no member twice; an
array may end early and then lacks its last members.
-/

namespace DynamicSql.Json

/-- Why a text is refused. -/
inductive Refusal (ε : Type) where
  /-- It is not JSON, or not of the form that is read. -/
  | malformed
  /-- It has the form, and what it says has a fault. -/
  | fault (e : ε)

/-- Reads something off the head of a text, where documents are nested less deep than the number. -/
abbrev Reader (ε : Type) := ReaderT Nat (StateT (List Char) (Except (Refusal ε)))

namespace Reader

variable {ε α σ : Type}

/-- Refuses the text. -/
def malformed : Reader ε α := throw .malformed

/-- Refuses the text if there is no value. -/
def orMalformed : Option α → Reader ε α
  | some a => return a
  | none => malformed

def ofFunction (f : Nat → List Char → Option (α × List Char)) : Reader ε α := do
  let (a, rest) ← orMalformed (f (← read) (← get))
  set rest
  return a

def json : Reader ε Json := ofFunction value?

def readAs (decode? : Json → Option α) : Reader ε α := do orMalformed (decode? (← json))

/-- A document of which nothing is kept. -/
def ignored : Reader ε Unit := ofFunction fun _ s => (skip? s).map ((), ·)

/-- The next character that is no blank. -/
def sign : Reader ε Char := ofFunction fun _ s =>
  match skipBlanks s with
  | c :: s => some (c, s)
  | [] => none

/-- The character `c`, behind blanks. -/
def expect (c : Char) : Reader ε Unit := do if (← sign) = c then return () else malformed

/-- The name of a field and the colon behind it. -/
def name : Reader ε String := do
  expect '"'
  let s ← ofFunction fun _ => stringLiteral?
  expect ':'
  return s

/-- What stands inside brackets. -/
def inside (r : Reader ε α) : Reader ε α := do
  if (← read) ≤ 1 then malformed else withReader (· - 1) r

/-- Reads items up to the closing bracket, each from what the items before it came to; `fuel` bounds
their number. -/
private def foldItems (closing : Char) (item : σ → Reader ε σ) : Nat → σ → Reader ε σ
  | 0, _ => malformed
  | fuel + 1, a => do
    let a ← item a
    let c ← sign
    if c = ',' then foldItems closing item fuel a else if c = closing then return a else malformed

/-- Reads what is left behind an opening bracket: the closing one, or items and the closing one. -/
def fold (closing : Char) (item : σ → Reader ε σ) (start : σ) : Reader ε σ := inside do
  let s := skipBlanks (← get)
  if s.head? = some closing then
    set s.tail
    return start
  else foldItems closing item s.length start

def array (item : Reader ε α) : Reader ε (List α) := do
  expect '['
  let items ← fold ']' (fun items => return (← item) :: items) []
  return items.reverse

/-- An object as a table; of several fields of one name the last counts. -/
def table (item : Reader ε α) : Reader ε (Table String α) := do
  expect '\x7b'
  let fields ← fold '\x7d' (fun fields => return ((← name), (← item)) :: fields) []
  return Table.ofEntries fields.reverse

/-- A structure whose members have the `names`, of which those in `needed` must be there. Each member
changes what has been read of the structure, which is `start` at first. -/
def members (names needed : List String) (start : σ) (member : σ → String → Reader ε σ) :
    Reader ε σ := do
  let (seen, a) ← match ← sign with
    | '\x7b' => fold '\x7d' (fun (seen, a) => do
        let n ← name
        if !names.contains n then
          ignored
          return (seen, a)
        else if seen.contains n then malformed
        else return (n :: seen, ← member a n)) ([], start)
    | '[' => fold ']' (fun (seen, a) => do
        match names[seen.length]? with
        | some n => return (n :: seen, ← member a n)
        | none => malformed) ([], start)
    | _ => malformed
  if needed.all seen.contains then return a else malformed

/-- A word that stands alone, or the only field of an object under the word as its name. -/
def variant (alone content : String → Reader ε α) : Reader ε α := do
  if (skipBlanks (← get)).head? = some '"' then alone (← readAs string?)
  else
    expect '\x7b'
    inside do
      let a ← content (← name)
      expect '\x7d'
      return a

def run (r : Reader ε α) (text : String) : Except (Refusal ε) α := do
  let (a, rest) ← StateT.run (ReaderT.run r maxDepth) text.toList
  if (skipBlanks rest).isEmpty then return a else throw .malformed

end Reader

end DynamicSql.Json
