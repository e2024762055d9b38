import DynamicSql.Calendar.Format
import DynamicSql.Value.Text

/-!
# Coercion

A value is brought into the type that a parameter expects, if it denotes something of that type: a
number that fits, or a text that reads as what is expected. Types of sequences, maps and records, and
the open type, take every value as it is.
-/

namespace DynamicSql.Value

open Number

/-- Why a value is not of a type. -/
inductive Unfit where
  | mismatch (v : Value) (target : DataType)
  | outOfRange (n : Int) (target : DataType)

def Unfit.message : Unfit → String
  | mismatch v target =>
    s!"cannot convert {v.typeName} value {v.literal} to {target.name}"
  | outOfRange n target => s!"{intText n} is out of range for {target.name}"

/-- The result of a coercion. -/
abbrev Coerced := Except Unfit Value

/-- A result that may be missing because the value does not denote anything of the type. -/
private def orMismatch {α : Type} (v : Value) (target : DataType) (build : α → Value) :
    Option α → Coerced
  | some a => .ok (build a)
  | none => .error (.mismatch v target)

/-- The text of a string without blanks around it. -/
private def core (s : String) : List Char := Text.trim s.toList

/-- A float as a whole number, if it is one of 64 bits. -/
def wholeFloat? (x : Float) : Option Int64 :=
  if Binary64.isWhole x then
    let n := Binary64.truncate x
    if n.natAbs < pow2 63 then int64? n else none
  else none

/-- The 64-bit whole number that a value denotes. -/
def whole? (v : Value) : Option Int64 :=
  match v with
  | string s => (readInt? (core s)).bind int64?
  | decimal d => d.toInt?.bind int64?
  | float x => wholeFloat? x
  | v => v.integer?.bind int64?

/-- A whole number of the width that `fit?` tests. -/
private def narrow {α : Type} (v : Value) (target : DataType) (fit? : Int → Option α)
    (build : α → Value) : Coerced :=
  match v.whole? with
  | none => .error (.mismatch v target)
  | some k => match fit? k.toInt with
    | some n => .ok (build n)
    | none => .error (.outOfRange k.toInt target)

/-- The truth value that a value denotes: a text in any case, or the number one or zero. -/
def truthValue? (v : Value) : Option Bool :=
  match v with
  | boolean b => some b
  | string s =>
    let word := String.ofList ((core s).map Char.toLower)
    if word = "true" ∨ word = "1" then some true
    else if word = "false" ∨ word = "0" then some false
    else none
  | v => match v.integer? with
    | some 0 => some false
    | some 1 => some true
    | _ => none

/-- The text that a single value denotes. -/
def textValue? (v : Value) : Option String :=
  match v with
  | json (.string s) => some s
  | bytes _ => some v.literal
  | v => if v.dataType.isScalar then some v.plainText else none

/-- The day that a value denotes. -/
def dateValue? : Value → Option Calendar.Date
  | date d => some d
  | timestamp t | timestampNaive t => some t.date
  | string s => Calendar.readDate? (core s)
  | _ => none

/-- The time in the reference zone that a value denotes; a text with an offset is read strictly. -/
def timestampValue? : Value → Option Calendar.DateTime
  | timestamp t | timestampNaive t => some t
  | string s => (Calendar.readInstant? (core s)).or (Calendar.readDateTime? (core s))
  | _ => none

/-- The time without a zone that a value denotes. -/
def naiveValue? : Value → Option Calendar.DateTime
  | timestamp t | timestampNaive t => some t
  | string s => (Calendar.readDateTime? (core s)).or (Calendar.readInstant? (core s))
  | _ => none

def coerce (v : Value) (target : DataType) : Coerced :=
  match target with
  | .boolean => orMismatch v target boolean v.truthValue?
  | .smallInt => narrow v target int16? smallInt
  | .int32 => narrow v target int32? int32
  | .int => narrow v target int64? int
  | .float => orMismatch v target float <|
    match v with
    | string s => Binary64.read? (core s)
    | v => v.float?
  | .decimal => orMismatch v target decimal <|
    match v with
    | string s => Decimal.read? (core s)
    | v => v.decimal?
  | .string => orMismatch v target string v.textValue?
  | .bytes => orMismatch v target bytes <|
    match v with
    | bytes b => some b
    | string s => some (Text.utf8Bytes s)
    | _ => none
  | .uuid => orMismatch v target uuid <|
    match v with
    | uuid u => some u
    | string s => Uuid.read? (core s)
    | _ => none
  | .date => orMismatch v target date v.dateValue?
  | .timestamp => orMismatch v target timestamp v.timestampValue?
  | .timestampNaive => orMismatch v target timestampNaive v.naiveValue?
  | .json => match v with
    | json j => .ok (json j)
    | v => .ok (json v.toJson)
  | .any | .list | .set | .map | .record .. | .cursor => .ok v

private theorem narrow_of_integer? {α : Type} {v : Value} {n : Int} {k : Int64} {a : α}
    {target : DataType} {fit? : Int → Option α} {build : α → Value} (hwhole : v.whole? = some k)
    (hk : k.toInt = n) (hfit : fit? n = some a) : narrow v target fit? build = .ok (build a) := by
  rw [narrow, hwhole]
  dsimp only
  rw [hk, hfit]

theorem coerce_dataType (v : Value) : v.coerce v.dataType = .ok v := by
  cases v with
  | smallInt n =>
    have hlo := Int16.le_toInt n
    have hhi := Int16.toInt_lt n
    have hk : int64? n.toInt = some (Int64.ofInt n.toInt) := if_pos ⟨by omega, by omega⟩
    exact narrow_of_integer? (n := n.toInt) hk (toInt_of_int64? hk) (int16?_toInt n)
  | int32 n =>
    have hlo := Int32.le_toInt n
    have hhi := Int32.toInt_lt n
    have hk : int64? n.toInt = some (Int64.ofInt n.toInt) := if_pos ⟨by omega, by omega⟩
    exact narrow_of_integer? (n := n.toInt) hk (toInt_of_int64? hk) (int32?_toInt n)
  | int n => exact narrow_of_integer? (n := n.toInt) (int64?_toInt n) rfl (int64?_toInt n)
  | _ => rfl

private theorem orMismatch_eq_ok {α : Type} {v w : Value} {target : DataType} {build : α → Value} {a? : Option α}
    (h : orMismatch v target build a? = .ok w) : ∃ a, w = build a := by
  cases a? with
  | none => cases h
  | some a => exact ⟨a, (Except.ok.inj h).symm⟩

private theorem narrow_eq_ok_iff {α : Type} {v w : Value} {target : DataType} {fit? : Int → Option α}
    {build : α → Value} :
    narrow v target fit? build = .ok w ↔ ∃ k a, v.whole? = some k ∧ fit? k.toInt = some a ∧ w = build a := by
  constructor
  · intro h
    rw [narrow] at h
    split at h
    · cases h
    · next k hk =>
      split at h
      · next a ha => exact ⟨k, a, hk, ha, (Except.ok.inj h).symm⟩
      · cases h
  · rintro ⟨k, a, hk, ha, rfl⟩
    exact narrow_of_integer? hk rfl ha

theorem coerce_smallInt_eq_ok_iff {v w : Value} :
    v.coerce .smallInt = .ok w ↔ ∃ k n, v.whole? = some k ∧ int16? k.toInt = some n ∧ w = smallInt n :=
  narrow_eq_ok_iff

theorem coerce_int32_eq_ok_iff {v w : Value} :
    v.coerce .int32 = .ok w ↔ ∃ k n, v.whole? = some k ∧ int32? k.toInt = some n ∧ w = int32 n :=
  narrow_eq_ok_iff

theorem coerce_int_eq_ok_iff {v w : Value} :
    v.coerce .int = .ok w ↔ ∃ k n, v.whole? = some k ∧ int64? k.toInt = some n ∧ w = int n :=
  narrow_eq_ok_iff

theorem dataType_coerce {v w : Value} {target : DataType} (hscalar : target.isScalar = true)
    (h : v.coerce target = .ok w) : w.dataType = target := by
  cases target with
  | boolean | float | decimal | string | bytes | uuid | date | timestamp | timestampNaive =>
    obtain ⟨a, rfl⟩ := orMismatch_eq_ok h
    rfl
  | smallInt | int32 | int =>
    obtain ⟨-, a, -, -, rfl⟩ := narrow_eq_ok_iff.1 h
    rfl
  | json =>
    cases v <;>
    · obtain rfl := Except.ok.inj h
      rfl
  | any | list | set | map | record | cursor => cases hscalar

theorem coerce_of_not_isScalar {target : DataType} (hscalar : target.isScalar = false) (v : Value) :
    v.coerce target = .ok v := by
  cases target <;> first | rfl | cases hscalar

end DynamicSql.Value
