import DynamicSql.Number.Power
import DynamicSql.Path.Basic
import DynamicSql.Record

/-!
# Following paths

Records, maps and sequences have properties: the fields of a record, the keys of a map, the positions
of a sequence. A path is followed one lookup key at a time. A key that a map does not have reads as
null, and whatever follows null reads as null; a field that a record does not have and a position
that a sequence does not have are errors.
-/

namespace DynamicSql

namespace Value

/-- Reads a position in a sequence. -/
def position? (key : String) : Except DataError Nat :=
  match Number.readNat? key.toList with
  | some n => if n < Number.pow2 64 then .ok n else .error (.invalidIndex key key)
  | none => .error (.invalidIndex key key)

/-- A place in a value that holds a property: what it holds, and the value with something else in
that place. -/
structure Slot where
  content : Value
  put : Value → Value

/-- The place of a position in a sequence. -/
private def itemSlot (items : List Value) (rebuild : List Value → Value) (key : String) :
    Except DataError Slot := do
  let i ← position? key
  match items[i]? with
  | some v => return ⟨v, fun w => rebuild (items.set i w)⟩
  | none => throw (.indexOutOfBounds key i items.length)

/-- The place of a property; in a map there is one for every key. None if the value has no
properties at all. -/
def slot? (v : Value) (key : String) : Option (Except DataError Slot) :=
  match v with
  | .record schema values =>
    let r : Record := ⟨schema, values⟩
    some (match r.get? key, schema.indexOf? key with
      | some w, some i => .ok ⟨w, fun w => .record schema (values.set i w)⟩
      | _, _ => .error (Record.noSuchField schema key))
  | .map entries =>
    some (.ok ⟨(Table.find? entries key).getD .null, fun w => .map (Table.insert entries key w)⟩)
  | .list items => some (itemSlot items .list key)
  | .set items => some (itemSlot items .set key)
  | _ => none

/-- Whether the value has the property; a map has those it holds a value for. -/
def hasProperty (v : Value) (key : String) : Bool :=
  match v with
  | .record schema _ => schema.hasField key
  | .map entries => Table.contains entries key
  | .list items | .set items =>
    match position? key with
    | .ok i => i < items.length
    | .error _ => false
  | _ => false

def declaredType? (v : Value) (key : String) : Option DataType :=
  match v with
  | .record schema _ => schema.fieldType? key
  | _ => none

def isNavigable : Value → Bool
  | .record .. | .map _ | .list _ | .set _ => true
  | _ => false

def property (v : Value) (key : String) : Except DataError Value :=
  match v.slot? key with
  | some slot => slot.map Slot.content
  | none => .error (.notNavigable key key v.typeName)

/-- The error, told of the whole path. -/
def onPath (path : String) : DataError → DataError
  | .indexOutOfBounds _ index length => .indexOutOfBounds path index length
  | .invalidIndex _ index => .invalidIndex path index
  | e => e

def follow (path : String) : Value → List String → Except DataError Value
  | v, [] => .ok v
  | .null, _ :: _ => .ok .null
  | v, key :: rest =>
    match v.slot? key with
    | none => .error (.notNavigable path key v.typeName)
    | some (.error e) => .error (onPath path e)
    | some (.ok slot) => follow path slot.content rest

theorem follow_nil (path : String) (v : Value) : follow path v [] = .ok v := by
  cases v <;> rfl

theorem follow_null (path : String) (keys : List String) : follow path .null keys = .ok .null := by
  cases keys <;> rfl

theorem follow_map_cons (path : String) (entries : Table String Value) (key : String)
    (rest : List String) :
    follow path (.map entries) (key :: rest) = follow path ((entries.find? key).getD .null) rest := rfl

theorem follow_cons {v : Value} (h : v.isNull = false) (path key : String) (rest : List String) :
    follow path v (key :: rest) =
      match v.slot? key with
      | none => .error (.notNavigable path key v.typeName)
      | some (.error e) => .error (onPath path e)
      | some (.ok slot) => follow path slot.content rest := by
  cases v <;> first | rfl | cases h

theorem follow_eq_ok_congr (raw raw' : String) {v w : Value} {keys : List String} :
    follow raw v keys = .ok w ↔ follow raw' v keys = .ok w := by
  induction keys generalizing v with
  | nil => rw [follow_nil, follow_nil]
  | cons key keys ih =>
    by_cases hnull : v.isNull = true
    · obtain rfl := eq_null_of_isNull hnull
      rw [follow_null, follow_null]
    · rw [Bool.not_eq_true] at hnull
      rw [follow_cons hnull, follow_cons hnull]
      split
      · simp
      · simp
      · exact ih

def readAt (root : Value) (path : Path) : Except DataError Value := follow path.raw root path.keys

/-- The outcome of writing into a value: what became of it, and the error, if there was one. -/
structure Written where
  value : Value
  error : Option DataError

/-- Writes `new` where the keys of the path `path` lead. Null on the way becomes a map; maps made
that way stay, also if a later key fails. -/
def write (path : String) (new : Value) : Value → List String → Written
  | _, [] => ⟨new, none⟩
  | v, key :: rest =>
    match v.slot? key with
    | none => ⟨v, some (.notNavigable path key v.typeName)⟩
    | some (.error e) => ⟨v, some (onPath path e)⟩
    | some (.ok slot) =>
      let content := if !rest.isEmpty && slot.content.isNull then .map [] else slot.content
      let written := write path new content rest
      ⟨slot.put written.value, written.error⟩

def writeAt (root : Value) (path : Path) (new : Value) : Written :=
  match path.keys with
  | [] => ⟨root, some (.invalidPath path.raw "nothing to set")⟩
  | keys => write path.raw new root keys

/-- The type found by following the keys; `declared` is what the step before declares. -/
def followType : Option DataType → Value → List String → Option DataType
  | declared, .null, [] => some (declared.getD .any)
  | _, v, [] => some v.dataType
  | _, .null, _ :: _ => some .any
  | _, v, key :: rest =>
    if v.hasProperty key then
      match v.slot? key with
      | some (.ok slot) => followType (v.declaredType? key) slot.content rest
      | _ => none
    else none

theorem followType_nil {v : Value} (h : v.isNull = false) (declared : Option DataType) :
    followType declared v [] = some v.dataType := by
  cases v <;> first | rfl | cases h

theorem followType_cons {v : Value} (h : v.isNull = false) (declared : Option DataType) (key : String)
    (rest : List String) :
    followType declared v (key :: rest) =
      if v.hasProperty key then
        match v.slot? key with
        | some (.ok slot) => followType (v.declaredType? key) slot.content rest
        | _ => none
      else none := by
  cases v <;> first | rfl | cases h

/-- The type of the value at a path, none if some key on the way is absent. Null has the type its
record declares for it, or any. -/
def typeAt? (root : Value) (path : Path) : Option DataType := followType none root path.keys

end Value

namespace DataType

/-- The type that a segment leads to within a type: a field of a record type, or anything inside a
sequence, map or document. -/
def step? (t : DataType) (s : Segment) : Option DataType := do
  let t ← if s.name.isEmpty then some t
    else match t.schema? with
      | some schema => schema.fieldType? s.name
      | none => none
  match s.index, t with
  | none, t => some t
  | some _, .list | some _, .set | some _, .map | some _, .json | some _, .any => some .any
  | some _, _ => none

/-- The type at a path within a type, as far as the type tells. -/
def property? (t : DataType) (path : Path) : Option DataType := path.segments.foldlM step? t

def hasProperty (t : DataType) (path : Path) : Bool := (t.property? path).isSome

end DataType

end DynamicSql
