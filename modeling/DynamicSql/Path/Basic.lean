import DynamicSql.DataError
import DynamicSql.Text.Blank

/-!
# Property paths

A path such as `user.roles[0].name` is a list of segments joined by points, each a name, an index in
brackets, or a name with an index. Points inside brackets belong to the index. The lookup keys of a
path are its names and indexes from left to right.
-/

namespace DynamicSql

/-- A step of a path: a name, an index or both. The name is empty where only an index is written. -/
structure Segment where
  name : String
  index : Option String
  deriving DecidableEq

/-- The segment in its usual form `name[index]`. -/
def Segment.text (s : Segment) : String :=
  match s.index with
  | some index => s.name ++ "[" ++ index ++ "]"
  | none => s.name

def Segment.keys (s : Segment) : List String :=
  (if s.name.isEmpty then [] else [s.name]) ++ s.index.toList

/-- A path as it was written, and its segments. -/
structure Path where
  raw : String
  segments : List Segment
  deriving DecidableEq

namespace Path

open Text

/-- The parts between the points that stand outside brackets, `depth` brackets being open. -/
def splitPoints (depth : Nat) : List Char → List (List Char)
  | [] => [[]]
  | c :: rest =>
    if c = '.' ∧ depth = 0 then [] :: splitPoints depth rest
    else
      let depth := if c = '[' then depth + 1 else if c = ']' then depth - 1 else depth
      match splitPoints depth rest with
      | part :: parts => (c :: part) :: parts
      | [] => [[c]]

/-- Whether a character is a quotation mark of either kind. -/
def isQuote (c : Char) : Bool := c == '\'' || c == '"'

/-- Why a part of a path is no segment. -/
inductive Fault where
  | emptySegment
  | unterminatedIndex
  | emptyIndex
  deriving DecidableEq

def Fault.message : Fault → String
  | emptySegment => "empty segment"
  | unterminatedIndex => "unterminated index"
  | emptyIndex => "empty index"

/-- Reads a segment: a name, and behind the first bracket an index that runs to the bracket at the
end. Quotation marks around the index are dropped. -/
def segment? (part : List Char) : Except Fault Segment :=
  let part := trim part
  let name := part.takeWhile (· ≠ '[')
  match part.drop name.length with
  | [] => if part.isEmpty then .error .emptySegment else .ok ⟨String.ofList part, none⟩
  | _ :: index =>
    if part.getLast? ≠ some ']' then .error .unterminatedIndex
    else
      let index := trim index.dropLast
      if index.isEmpty then .error .emptyIndex
      else
        let index := dropEndWhile isQuote (index.dropWhile isQuote)
        .ok ⟨String.ofList (trim name), some (String.ofList index)⟩

/-- Reads a path, with blanks allowed around it and around its parts. -/
def parse (text : String) : Except DataError Path :=
  let raw := trim text.toList
  if raw.isEmpty then .error (.invalidPath "" "path is empty")
  else
    match (splitPoints 0 raw).mapM segment? with
    | .ok segments => .ok ⟨String.ofList raw, segments⟩
    | .error fault => .error (.invalidPath (String.ofList raw) fault.message)

def root (p : Path) : String := (p.segments.head?.map Segment.name).getD ""

/-- Whether the path is a single name. -/
def isSimple (p : Path) : Bool :=
  match p.segments with
  | [s] => s.index.isNone
  | _ => false

/-- The lookup keys of the path, from left to right. -/
def keys (p : Path) : List String := p.segments.flatMap Segment.keys

end Path

end DynamicSql
