import DynamicSql.Parameter.Resolve
import DynamicSql.Proofs.Step

/-!
# Types inferred for properties

A path has lookup keys, the first of which is its root if it begins with a name. Where no variable goes
by the first key, the variables tell nothing of a type; where one does, the type is that of the value
at the path.
-/

namespace DynamicSql

open Step

namespace Path

theorem keys_ne_nil_of_segment? {part : List Char} {s : Segment} (h : segment? part = .ok s) :
    s.keys ≠ [] := by
  rw [segment?] at h
  dsimp only at h
  split at h
  · split at h
    · cases h
    · next hempty =>
      obtain rfl := Except.ok.inj h
      simpa [Segment.keys] using hempty
  · split at h
    · cases h
    · split at h
      · cases h
      · obtain rfl := Except.ok.inj h
        simp [Segment.keys]

theorem splitPoints_ne_nil (depth : Nat) (s : List Char) : splitPoints depth s ≠ [] := by
  cases s with
  | nil => exact List.cons_ne_nil _ _
  | cons c s =>
    by_cases hpoint : c = '.' ∧ depth = 0
    · rw [splitPoints, if_pos hpoint]
      exact List.cons_ne_nil _ _
    · rw [splitPoints, if_neg hpoint]
      dsimp only
      split <;> exact List.cons_ne_nil _ _

theorem segments_of_parse {text : String} {path : Path} (h : parse text = .ok path) :
    ∃ raw, (splitPoints 0 raw).mapM segment? = .ok path.segments := by
  rw [parse] at h
  split at h
  · cases h
  · split at h
    · next hsegments =>
      obtain rfl := Except.ok.inj h
      exact ⟨_, hsegments⟩
    · cases h

theorem exists_keys_of_parse {text : String} {path : Path} (h : parse text = .ok path) :
    ∃ key rest, path.keys = key :: rest := by
  obtain ⟨raw, hraw⟩ := segments_of_parse h
  cases hparts : splitPoints 0 raw with
  | nil => exact absurd hparts (splitPoints_ne_nil 0 raw)
  | cons part parts =>
    rw [hparts] at hraw
    obtain ⟨segment, segments, hsegment, -, hsegments⟩ :=
      List.forall₂_cons_left_iff.1 (mapM_eq_ok.1 hraw)
    obtain ⟨key, rest, hkeys⟩ := List.exists_cons_of_ne_nil (keys_ne_nil_of_segment? hsegment)
    refine ⟨key, rest ++ segments.flatMap Segment.keys, ?_⟩
    rw [keys, hsegments, List.flatMap_cons, hkeys, List.cons_append]

theorem root_eq_key {path : Path} {key : String} {rest : List String} (h : path.keys = key :: rest) :
    path.root = "" ∨ path.root = key := by
  rw [root]
  cases hsegments : path.segments with
  | nil => exact .inl rfl
  | cons segment segments =>
    rw [keys, hsegments, List.flatMap_cons, Segment.keys] at h
    show segment.name = "" ∨ segment.name = key
    cases hname : segment.name.isEmpty with
    | true => exact .inl (String.isEmpty_iff.1 hname)
    | false =>
      rw [hname, if_neg Bool.false_ne_true] at h
      exact .inr (List.cons.inj h).1

end Path

namespace Value

theorem readAt_congr {t u : Table String Value} {path : Path} {key : String} {rest : List String}
    (hkeys : path.keys = key :: rest) (h : t.find? key = u.find? key) :
    (Value.map t).readAt path = (Value.map u).readAt path := by
  rw [readAt, readAt, hkeys, follow_map_cons, follow_map_cons, h]

theorem typeAt?_congr {t u : Table String Value} {path : Path} {key : String} {rest : List String}
    (hkeys : path.keys = key :: rest) (h : t.find? key = u.find? key) :
    (Value.map t).typeAt? path = (Value.map u).typeAt? path := by
  rw [typeAt?, typeAt?, hkeys, followType_cons rfl, followType_cons rfl]
  show (if t.contains key then followType none ((t.find? key).getD .null) rest else none) =
    if u.contains key then followType none ((u.find? key).getD .null) rest else none
  rw [Table.contains, Table.contains, h]

theorem typeAt?_of_absent {bindings : Table String Value} {path : Path} {key : String}
    {rest : List String} (hkeys : path.keys = key :: rest) (habsent : bindings.find? key = none) :
    (Value.map bindings).typeAt? path = none := by
  have hproperty : (Value.map bindings).hasProperty key = false := by
    rw [hasProperty, Table.contains, habsent]
    rfl
  rw [typeAt?, hkeys, followType_cons rfl, hproperty, if_neg Bool.false_ne_true]

end Value

namespace Resolver

theorem inferType_eq {r : Resolver} (hdirect : r.registry.isDirect r.argumentType = false)
    (htype : r.argumentType = .map ∨ r.argumentType = .any) {property : String} {path : Path}
    (hpath : Path.parse property = .ok path) (sqlType : Option SqlType) :
    r.inferType property sqlType =
      ((Value.map r.bindings).typeAt? path).getD (if sqlType = some .cursor then .cursor else .any) := by
  rw [inferType, hpath]
  dsimp only
  cases (Value.map r.bindings).typeAt? path with
  | some t => rfl
  | none =>
    rw [hdirect, if_neg Bool.false_ne_true]
    rcases htype with htype | htype <;> rw [htype] <;> rfl

theorem inferType_of_absent {r : Resolver} (hdirect : r.registry.isDirect r.argumentType = false)
    (htype : r.argumentType = .map ∨ r.argumentType = .any) {property : String}
    (habsent : ∀ path key rest, Path.parse property = .ok path → path.keys = key :: rest →
      r.bindings.find? key = none) (sqlType : Option SqlType) :
    r.inferType property sqlType =
      match Path.parse property with
      | .ok _ => if sqlType = some .cursor then .cursor else .any
      | .error _ => .any := by
  cases hpath : Path.parse property with
  | error e => rw [inferType, hpath]
  | ok path =>
    obtain ⟨key, rest, hkeys⟩ := Path.exists_keys_of_parse hpath
    rw [inferType_eq hdirect htype hpath,
      Value.typeAt?_of_absent hkeys (habsent path key rest hpath hkeys)]
    rfl

end Resolver

end DynamicSql
