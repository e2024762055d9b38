import DynamicSql.Json.Decode

/-!
# Elements of a statement

A statement as it is written in a mapper document: runs of text, and elements with a tag, attributes
and children.
-/

namespace DynamicSql

/-- A run of text or an element. -/
inductive Element where
  | text (s : String)
  | element (tag : String) (attrs : Table String String) (children : List Element)

namespace Element

def tag? : Element → Option String
  | text _ => none
  | element tag _ _ => some tag

def attr? (e : Element) (name : String) : Option String :=
  match e with
  | text _ => none
  | element _ attrs _ => attrs.find? name

def children : Element → List Element
  | text _ => []
  | element _ _ children => children

/-- Reads a string as text, and an object as an element; `fuel` bounds the nesting. -/
def readFuel? : Nat → Json → Option Element
  | 0, _ => none
  | _ + 1, .string s => some (text s)
  | fuel + 1, .object fields => do
    let parts ← Json.fieldMembers? ["tag", "attrs", "children"] fields
    let tag ← (← Json.member? parts 0).string?
    let attrs ← Json.memberOr parts 1 (Json.objectOf? Json.string?) []
    let children ← Json.memberOr parts 2 (Json.arrayOf? (readFuel? fuel)) []
    return element tag attrs children
  | _ + 1, _ => none

def read? (j : Json) : Option Element := readFuel? 256 j

mutual
/-- The document of an element, with all its members. -/
def toJson : Element → Json
  | text s => .string s
  | element tag attrs children =>
    .object [("tag", .string tag),
      ("attrs", .object (attrs.map fun (k, v) => (k, .string v))),
      ("children", .array (toJsonAll children))]

def toJsonAll : List Element → List Json
  | [] => []
  | e :: rest => toJson e :: toJsonAll rest
end

end Element

end DynamicSql
