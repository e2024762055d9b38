import DynamicSql.Parameter.Registry
import DynamicSql.Proofs.Entries

/-!
# What has been registered

What is found in a registry, whatever kind of handlers it is for, is said by the calls that have been made, from an
empty registry on (`Registry.lookups_replay`). For a type and an SQL type the last handler counts, and without one the
last for the type and all SQL types, and without that the last for the type if all were for one SQL type; under a name
the last that was registered under it, and otherwise the first for a type that goes by the name.

What carries the proof is that after every call the tables of the registry reflect the calls so far
(`Reflects.perform`).
-/

namespace DynamicSql

namespace Registry

/-! ### Calls -/

/-- A call that registers a handler: for a value type, with all SQL types or one of them, for an SQL type alone, or
under a name. -/
inductive Call (η : Type) where
  | ofType (type : DataType) (sqlType : Option SqlType) (h : η)
  | ofSqlType (sqlType : SqlType) (h : η)
  | ofName (name : String) (h : η)

variable {η : Type}

def perform [Named η] (r : Registry η) : Call η → Registry η
  | .ofType type sqlType h => r.register type sqlType h
  | .ofSqlType sqlType h => r.registerSqlType sqlType h
  | .ofName name h => r.registerNamed name h

/-- The registry that calls make of an empty one. -/
def replay [Named η] (calls : List (Call η)) : Registry η := calls.foldl perform empty

/-- The handler that a call registers for a value type, with its SQL type. -/
def Call.typed? (type : DataType) : Call η → Option (Option SqlType × η)
  | ofType type' sqlType h => if type' = type then some (sqlType, h) else none
  | _ => none

/-- The handler that a call registers for any value type. -/
def Call.ofAnyType? : Call η → Option η
  | ofType _ _ h => some h
  | _ => none

def Call.sqlTyped? : Call η → Option (SqlType × η)
  | ofSqlType sqlType h => some (sqlType, h)
  | _ => none

def Call.named? : Call η → Option (String × η)
  | ofName name h => some (name, h)
  | _ => none

/-! ### The tables after calls -/

/-- The handlers of a value type, if any have been registered for it. -/
def handlersOf (typed : List (Option SqlType × η)) : Option (Assoc (Option SqlType) η) :=
  if typed.isEmpty then none else some (Assoc.ofEntries typed)

theorem getD_handlersOf (typed : List (Option SqlType × η)) :
    (handlersOf typed).getD [] = Assoc.ofEntries typed := by
  cases typed <;> rfl

theorem isSome_handlersOf (typed : List (Option SqlType × η)) : (handlersOf typed).isSome = !typed.isEmpty := by
  cases typed <;> rfl

theorem handlersOf_concat (typed : List (Option SqlType × η)) (sqlType : Option SqlType) (h : η) :
    handlersOf (typed ++ [(sqlType, h)]) = some (((handlersOf typed).getD []).insert sqlType h) := by
  rw [getD_handlersOf, ← Assoc.ofEntries_concat, handlersOf, List.isEmpty_eq_false_iff.2 (List.concat_ne_nil _ _)]
  rfl

/-- The tables hold what the calls say. -/
structure Reflects [Named η] (r : Registry η) (calls : List (Call η)) : Prop where
  byType : ∀ type, r.byType.find? type = handlersOf (calls.filterMap (Call.typed? type))
  bySqlType : ∀ sqlType, r.bySqlType.find? sqlType = lastGiven? (calls.filterMap Call.sqlTyped?) sqlType
  byName : ∀ name, r.byName.find? name = (lastGiven? (calls.filterMap Call.named?) name).or
    ((calls.filterMap Call.ofAnyType?).find? (Named.name · = name))

variable {r : Registry η} {calls : List (Call η)}

theorem reflects_empty [Named η] : (empty : Registry η).Reflects [] := ⟨fun _ => rfl, fun _ => rfl, fun _ => rfl⟩

theorem find?_byName_register [Named η] (r : Registry η) (type : DataType) (sqlType : Option SqlType) (h : η)
    (name : String) :
    (r.register type sqlType h).byName.find? name =
      (r.byName.find? name).or (if Named.name h = name then some h else none) := by
  rw [register]
  dsimp only
  by_cases hname : Named.name h = name
  · subst hname
    rw [if_pos rfl]
    cases hold : r.byName.find? (Named.name h) with
    | some h' => rw [Option.isSome_some, if_pos rfl, hold, Option.some_or]
    | none => rw [Option.isSome_none, if_neg Bool.false_ne_true, Assoc.find?_insert, if_pos rfl, Option.none_or]
  · rw [if_neg hname, Option.or_none]
    split
    · rfl
    · rw [Assoc.find?_insert, if_neg (Ne.symm hname)]

theorem Reflects.register [Named η] (h : r.Reflects calls) (type : DataType) (sqlType : Option SqlType) (handler : η) :
    (r.register type sqlType handler).Reflects (calls ++ [.ofType type sqlType handler]) where
  byType t := by
    rw [Registry.register, Assoc.find?_insert, filterMap_concat, Call.typed?]
    by_cases ht : t = type
    · subst ht
      rw [if_pos rfl, if_pos rfl, h.byType]
      exact (handlersOf_concat _ _ _).symm
    · rw [if_neg ht, if_neg (Ne.symm ht), h.byType]
      exact congrArg handlersOf (List.append_nil _).symm
  bySqlType t := by
    simp only [filterMap_concat, Call.sqlTyped?, Option.toList_none, List.append_nil]
    exact h.bySqlType t
  byName name := by
    simp only [filterMap_concat, Call.named?, Call.ofAnyType?, Option.toList_none, Option.toList_some, List.append_nil]
    rw [find?_byName_register, h.byName, Option.or_assoc, List.find?_append, List.find?_singleton]
    simp only [decide_eq_true_eq]

theorem Reflects.registerSqlType [Named η] (h : r.Reflects calls) (sqlType : SqlType) (handler : η) :
    (r.registerSqlType sqlType handler).Reflects (calls ++ [.ofSqlType sqlType handler]) where
  byType t := by
    simp only [filterMap_concat, Call.typed?, Option.toList_none, List.append_nil]
    exact h.byType t
  bySqlType t := by
    simp only [filterMap_concat, Call.sqlTyped?, Option.toList_some]
    rw [Registry.registerSqlType, Assoc.find?_insert, h.bySqlType, lastGiven?_concat]
  byName name := by
    simp only [filterMap_concat, Call.named?, Call.ofAnyType?, Option.toList_none, List.append_nil]
    exact h.byName name

theorem Reflects.registerNamed [Named η] (h : r.Reflects calls) (name : String) (handler : η) :
    (r.registerNamed name handler).Reflects (calls ++ [.ofName name handler]) where
  byType t := by
    simp only [filterMap_concat, Call.typed?, Option.toList_none, List.append_nil]
    exact h.byType t
  bySqlType t := by
    simp only [filterMap_concat, Call.sqlTyped?, Option.toList_none, List.append_nil]
    exact h.bySqlType t
  byName n := by
    simp only [filterMap_concat, Call.named?, Call.ofAnyType?, Option.toList_none, Option.toList_some, List.append_nil]
    rw [Registry.registerNamed, Assoc.find?_insert, lastGiven?_concat, h.byName]
    split <;> rfl

theorem Reflects.perform [Named η] (h : r.Reflects calls) (c : Call η) : (r.perform c).Reflects (calls ++ [c]) := by
  cases c with
  | ofType type sqlType handler => exact h.register type sqlType handler
  | ofSqlType sqlType handler => exact h.registerSqlType sqlType handler
  | ofName name handler => exact h.registerNamed name handler

theorem reflects_replay [Named η] (calls : List (Call η)) : (replay calls).Reflects calls := by
  induction calls using List.reverseRecOn with
  | nil => exact reflects_empty
  | append_singleton calls c ih =>
    rw [replay, List.foldl_append]
    exact ih.perform c

/-! ### Lookups -/

theorem get?_eq (r : Registry η) (type : DataType) (sqlType : Option SqlType) :
    r.get? type sqlType =
      ((((r.byType.find? type).getD []).find? sqlType).or (((r.byType.find? type).getD []).find? none)).or
        ((r.byType.find? type).getD []).only? := by
  rw [get?]
  cases r.byType.find? type with
  | none => rfl
  | some handlers =>
    rw [Option.bind_eq_bind, Option.bind_some, Option.getD_some, Option.orElse_eq_or, Option.orElse_eq_or,
      Option.or_assoc]
    rcases handlers with _ | ⟨e, _ | ⟨e', rest⟩⟩ <;> rfl

/-- The calls that make the registry of the handlers known from the start. -/
def defaultCalls : List (Call Handler) :=
  let document := Handler.coercing .json
  directTypes.map (fun t => .ofType t none (.coercing t)) ++
    [.ofName document.name document, .ofSqlType .json document] ++
    sqlTypeTargets.map (fun e => .ofSqlType e.1 (.coercing e.2)) ++ [.ofName generic.name generic]

theorem replay_defaultCalls : replay defaultCalls = defaults := by
  rw [replay, defaultCalls, defaults, List.foldl_append, List.foldl_append, List.foldl_append, List.foldl_map,
    List.foldl_map]
  rfl

theorem typed?_eq_some_iff {c : Call η} {type : DataType} {sqlType : Option SqlType} {h : η} :
    c.typed? type = some (sqlType, h) ↔ c = .ofType type sqlType h := by
  cases c with
  | ofType type' sqlType' h' =>
    by_cases htype : type' = type <;> simp [Call.typed?, htype]
  | ofSqlType => simp [Call.typed?]
  | ofName => simp [Call.typed?]

/-- Each lookup in a registry is answered by the calls that made it, and the registry of the start is made by such
calls. -/
theorem lookups_replay [Named η] (calls : List (Call η)) :
    (∀ type sqlType,
        let typed := calls.filterMap (Call.typed? type)
        (replay calls).get? type sqlType =
          ((lastGiven? typed sqlType).or (lastGiven? typed none)).or (onlyGiven? typed)) ∧
      (∀ type, (replay calls).isDirect type = true ↔ ∃ sqlType h, Call.ofType type sqlType h ∈ calls) ∧
      (∀ sqlType, (replay calls).forSqlType? sqlType = lastGiven? (calls.filterMap Call.sqlTyped?) sqlType) ∧
      (∀ name, (replay calls).named? name =
        (lastGiven? (calls.filterMap Call.named?) name).or
          ((calls.filterMap Call.ofAnyType?).find? (Named.name · = name))) ∧
      replay defaultCalls = defaults := by
  have hreflects := reflects_replay calls
  refine ⟨fun type sqlType => ?_, fun type => ?_, hreflects.bySqlType, hreflects.byName, replay_defaultCalls⟩
  · dsimp only
    rw [get?_eq, hreflects.byType, getD_handlersOf, Assoc.find?_ofEntries, Assoc.find?_ofEntries,
      Assoc.only?_ofEntries]
  · rw [isDirect, hreflects.byType, isSome_handlersOf, Bool.not_eq_true', List.isEmpty_eq_false_iff_exists_mem]
    constructor
    · rintro ⟨⟨sqlType, h⟩, hmem⟩
      obtain ⟨c, hc, htyped⟩ := List.mem_filterMap.1 hmem
      exact ⟨sqlType, h, typed?_eq_some_iff.1 htyped ▸ hc⟩
    · rintro ⟨sqlType, h, hc⟩
      exact ⟨(sqlType, h), List.mem_filterMap.2 ⟨_, hc, typed?_eq_some_iff.2 rfl⟩⟩

end Registry

end DynamicSql
