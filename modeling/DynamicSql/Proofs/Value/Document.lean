import DynamicSql.Proofs.Expr.Arithmetic
import DynamicSql.Value.Json

/-!
# Documents as values

A document without fractions comes back from its value as it was just if all of its numbers fit 64 bits with a sign
(`Value.toJson_ofJson_iff`): a greater one, such as the greatest number of 64 bits without a sign, becomes a float on
the way (`Value.toJson_ofJson_greatest`). In the other direction a value of the kinds that documents have comes back
from its document as it was.
-/

namespace DynamicSql

open Number

/-- The number has no places and no exponent. -/
def JsonNumber.IsWhole : JsonNumber → Prop
  | .integer _ => True
  | .float _ => False

/-- A whole number of 64 bits with a sign. -/
def JsonNumber.IsSigned : JsonNumber → Prop
  | .integer n => FitsInt64 n
  | .float _ => False

/-- Every number of the document, however deep it stands, satisfies `p`. -/
inductive Json.AllNumbers (p : JsonNumber → Prop) : Json → Prop
  | null : AllNumbers p .null
  | bool (b : Bool) : AllNumbers p (.bool b)
  | number {n : JsonNumber} (h : p n) : AllNumbers p (.number n)
  | string (s : String) : AllNumbers p (.string s)
  | array {items : List Json} (h : ∀ j ∈ items, AllNumbers p j) : AllNumbers p (.array items)
  | object {fields : List (String × Json)} (h : ∀ f ∈ fields, AllNumbers p f.2) : AllNumbers p (.object fields)

namespace Json.AllNumbers

variable {p : JsonNumber → Prop}

theorem number_iff {n : JsonNumber} : AllNumbers p (.number n) ↔ p n := by
  constructor
  · rintro ⟨⟩
    assumption
  · exact .number

theorem array_iff {items : List Json} : AllNumbers p (.array items) ↔ ∀ j ∈ items, AllNumbers p j := by
  constructor
  · rintro ⟨⟩
    assumption
  · exact .array

theorem object_iff {fields : List (String × Json)} :
    AllNumbers p (.object fields) ↔ ∀ f ∈ fields, AllNumbers p f.2 := by
  constructor
  · rintro ⟨⟩
    assumption
  · exact .object

end Json.AllNumbers

namespace Value

/-! ### Part by part -/

theorem ofJson_array (items : List Json) : ofJson (.array items) = list (items.map ofJson) := by
  have hitems : ofJsonItems items = items.map ofJson := by
    induction items with
    | nil => rfl
    | cons j items ih => rw [ofJsonItems, ih, List.map_cons]
  rw [ofJson, hitems]

theorem ofJson_object (fields : List (String × Json)) :
    ofJson (.object fields) = map (fields.map fun f => (f.1, ofJson f.2)) := by
  have hfields : ofJsonFields fields = fields.map fun f => (f.1, ofJson f.2) := by
    induction fields with
    | nil => rfl
    | cons f fields ih => rw [ofJsonFields, ih, List.map_cons]
  rw [ofJson, hfields]

theorem toJson_list (items : List Value) : toJson (list items) = .array (items.map toJson) := by
  have hitems : toJsonItems items = items.map toJson := by
    induction items with
    | nil => rfl
    | cons v items ih => rw [toJsonItems, ih, List.map_cons]
  rw [toJson, hitems]

theorem toJson_map (entries : List (String × Value)) :
    toJson (map entries) = .object (entries.map fun e => (e.1, toJson e.2)) := by
  have hentries : toJsonEntries entries = entries.map fun e => (e.1, toJson e.2) := by
    induction entries with
    | nil => rfl
    | cons e entries ih => rw [toJsonEntries, ih, List.map_cons]
  rw [toJson, hentries]

theorem map_eq_self_iff {α : Type} {f : α → α} {l : List α} : l.map f = l ↔ ∀ a ∈ l, f a = a := by
  conv_lhs => rhs; rw [← List.map_id l]
  exact List.map_eq_map_iff

/-! ### There and back -/

theorem toJson_ofJson_integer (n : Int) : (ofJson (.number (.integer n))).toJson = .number (.integer n) ↔ FitsInt64 n := by
  rw [ofJson]
  cases hn : int64? n with
  | none =>
    refine iff_of_false (fun h => ?_) (int64?_eq_none_iff.1 hn)
    rw [toJson, Json.ofFloat] at h
    split at h
    · cases h
    · cases h
  | some k =>
    obtain rfl := int64?_eq_some_iff.1 hn
    exact iff_of_true rfl (fitsInt64_toInt k)

theorem toJson_ofJson_eq_iff {j : Json} (h : j.AllNumbers JsonNumber.IsWhole) :
    (ofJson j).toJson = j ↔ j.AllNumbers JsonNumber.IsSigned := by
  induction h with
  | null => exact iff_of_true rfl .null
  | bool b => exact iff_of_true rfl (.bool b)
  | string s => exact iff_of_true rfl (.string s)
  | @number n hn =>
    cases n with
    | integer n => rw [toJson_ofJson_integer, Json.AllNumbers.number_iff, JsonNumber.IsSigned]
    | float x => exact hn.elim
  | array _ ih =>
    rw [ofJson_array, toJson_list, List.map_map, Json.array.injEq, map_eq_self_iff, Json.AllNumbers.array_iff]
    exact forall₂_congr ih
  | object _ ih =>
    rw [ofJson_object, toJson_map, List.map_map, Json.object.injEq, map_eq_self_iff, Json.AllNumbers.object_iff]
    refine forall₂_congr fun f hf => ?_
    rw [← ih f hf, Prod.ext_iff]
    exact and_iff_right rfl

/-- A value of the kinds that the parts of documents become: no number but whole ones of 64 bits, and no set. -/
inductive IsPlain : Value → Prop
  | null : IsPlain .null
  | boolean (b : Bool) : IsPlain (.boolean b)
  | int (n : Int64) : IsPlain (.int n)
  | string (s : String) : IsPlain (.string s)
  | list {items : List Value} (h : ∀ v ∈ items, IsPlain v) : IsPlain (.list items)
  | map {entries : List (String × Value)} (h : ∀ e ∈ entries, IsPlain e.2) : IsPlain (.map entries)

theorem ofJson_toJson {v : Value} (h : v.IsPlain) : ofJson v.toJson = v := by
  induction h with
  | null | boolean | string => rfl
  | int n => rw [toJson, Json.int, ofJson, int64?_toInt]
  | list _ ih =>
    rw [toJson_list, ofJson_array, List.map_map, Value.list.injEq, map_eq_self_iff]
    exact ih
  | map _ ih =>
    rw [toJson_map, ofJson_object, List.map_map, Value.map.injEq, map_eq_self_iff]
    exact fun e he => Prod.ext rfl (ih e he)

/-- A document whose numbers are all whole comes back from its value as it was, unless one of the numbers, at any
depth, does not fit 64 bits with a sign; and a value of the kinds that documents have comes back from its document as
it was. -/
theorem toJson_ofJson_iff {j : Json} (hj : j.AllNumbers JsonNumber.IsWhole) {v : Value} (hv : v.IsPlain) :
    ((ofJson j).toJson = j ↔ j.AllNumbers JsonNumber.IsSigned) ∧ ofJson v.toJson = v :=
  ⟨toJson_ofJson_eq_iff hj, ofJson_toJson hv⟩

theorem toJson_ofJson_order :
    (ofJson (.object [("id", .int (2 ^ 63 - 1)), ("lines", .array [.int (-1), .null])])).toJson =
      .object [("id", .int (2 ^ 63 - 1)), ("lines", .array [.int (-1), .null])] ∧
    ofJson (map [("id", .int Int64.maxValue), ("lines", .list [.int (-1), .null])]).toJson =
      map [("id", .int Int64.maxValue), ("lines", .list [.int (-1), .null])] := by
  have hdocument : ∀ p : JsonNumber → Prop, p (.integer (2 ^ 63 - 1)) → p (.integer (-1)) →
      (Json.object [("id", .int (2 ^ 63 - 1)), ("lines", .array [.int (-1), .null])]).AllNumbers p := by
    intro p hid hline
    refine .object (List.forall_mem_cons.2 ⟨.number hid, List.forall_mem_singleton.2 (.array ?_)⟩)
    exact List.forall_mem_cons.2 ⟨.number hline, List.forall_mem_singleton.2 .null⟩
  have hvalue : (map [("id", .int Int64.maxValue), ("lines", .list [.int (-1), .null])]).IsPlain := by
    refine .map (List.forall_mem_cons.2 ⟨.int _, List.forall_mem_singleton.2 (.list ?_)⟩)
    exact List.forall_mem_cons.2 ⟨.int _, List.forall_mem_singleton.2 .null⟩
  obtain ⟨hback, hforth⟩ := toJson_ofJson_iff (hdocument _ trivial trivial) hvalue
  refine ⟨hback.2 ?_, hforth⟩
  exact hdocument _ ⟨by decide, by decide⟩ ⟨by decide, by decide⟩

/-- The greatest number of 64 bits without a sign is a number of documents, and it does not come back. -/
theorem toJson_ofJson_greatest :
    (Json.object [("id", .int (2 ^ 64 - 1))]).AllNumbers JsonNumber.IsWhole ∧
      (ofJson (.object [("id", .int (2 ^ 64 - 1))])).toJson ≠ .object [("id", .int (2 ^ 64 - 1))] := by
  have hwhole : (Json.object [("id", .int (2 ^ 64 - 1))]).AllNumbers JsonNumber.IsWhole :=
    .object (List.forall_mem_singleton.2 (.number trivial))
  refine ⟨hwhole, fun h => ?_⟩
  have hsigned := Json.AllNumbers.object_iff.1 ((toJson_ofJson_eq_iff hwhole).1 h) _ (.head _)
  exact absurd (Json.AllNumbers.number_iff.1 hsigned).2 (by decide)

end Value

end DynamicSql
