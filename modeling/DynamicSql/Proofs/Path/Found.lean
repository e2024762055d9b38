import DynamicSql.Proofs.Path.Lens
import DynamicSql.Proofs.Path.Written

/-!
# Types found and values read

The type that is found at a path and the value that is read there tell the same (`Value.agree_of_parse`): a
type is found just where reading succeeds and no map on the way misses a key, and it is that of the value
unless the value is null. This is so whether a path begins at a value or in a root whose own properties are
looked up first.
-/

namespace DynamicSql

namespace Value

/-! ### Roots that are looked up in themselves -/

/-- The value at a path whose first key is a property of the root itself. -/
def readIn (root : Value) (path : Path) : Except DataError Value :=
  match path.keys with
  | [] => .ok .null
  | key :: rest => do follow path.raw (← (root.property key).mapError (onPath path.raw)) rest

/-- The type at a path whose first key is a property of the root itself. -/
def typeIn? (root : Value) (path : Path) : Option DataType :=
  match path.keys with
  | [] => none
  | key :: rest =>
    if root.hasProperty key then
      (root.property key).toOption.bind fun start => followType (root.declaredType? key) start rest
    else none

theorem readIn_eq_readAt {root : Value} (hroot : root.isNavigable = true) {path : Path} (hkeys : path.keys ≠ []) :
    root.readIn path = root.readAt path := by
  obtain ⟨key, rest, hkeys⟩ := List.exists_cons_of_ne_nil hkeys
  rw [readIn, readAt, hkeys, follow_cons_of_isNavigable hroot]

theorem typeIn?_eq_typeAt? {root : Value} (hroot : root.isNavigable = true) {path : Path}
    (hkeys : path.keys ≠ []) : root.typeIn? path = root.typeAt? path := by
  obtain ⟨key, rest, hkeys⟩ := List.exists_cons_of_ne_nil hkeys
  obtain ⟨r, hr⟩ := exists_slot? hroot key
  have hproperty : root.property key = r.map Slot.content := by rw [property, hr]
  rw [typeIn?, typeAt?, hkeys, followType_cons (isNull_of_isNavigable hroot), hr]
  dsimp only
  rw [hproperty]
  cases r <;> rfl

/-! ### Keys that are missing -/

/-- The keys lead to a map that has nothing under the key that follows. -/
def Misses (raw : String) (root : Value) (keys : List String) : Prop :=
  ∃ before key after entries, keys = before ++ key :: after ∧
    follow raw root before = .ok (.map entries) ∧ Table.find? entries key = none

variable {raw key : String} {keys rest : List String} {v : Value} {slot : Slot}

theorem not_misses_nil : ¬ v.Misses raw [] := by
  rintro ⟨before, key, after, entries, hkeys, -⟩
  exact List.append_ne_nil_of_right_ne_nil before (List.cons_ne_nil key after) hkeys.symm

theorem not_misses_null : ¬ Misses raw .null keys := by
  rintro ⟨before, key, after, entries, -, hfollow, -⟩
  rw [follow_null] at hfollow
  cases hfollow

theorem misses_map {entries : Table String Value} (h : entries.find? key = none) :
    Misses raw (.map entries) (key :: rest) :=
  ⟨[], key, rest, entries, rfl, follow_nil raw _, h⟩

theorem misses_cons (hnull : v.isNull = false) (hslot : v.slot? key = some (.ok slot))
    (hproperty : v.hasProperty key = true) :
    v.Misses raw (key :: rest) ↔ slot.content.Misses raw rest := by
  constructor
  · rintro ⟨before, key', after, entries, hkeys, hfollow, hfind⟩
    cases before with
    | nil =>
      obtain ⟨rfl, rfl⟩ := List.cons.inj hkeys
      rw [follow_nil] at hfollow
      obtain rfl := Except.ok.inj hfollow
      rw [hasProperty, Table.contains, hfind] at hproperty
      cases hproperty
    | cons first before =>
      obtain ⟨rfl, rfl⟩ := List.cons.inj hkeys
      rw [follow_cons hnull, hslot] at hfollow
      exact ⟨before, key', after, entries, rfl, hfollow, hfind⟩
  · rintro ⟨before, key', after, entries, rfl, hfollow, hfind⟩
    refine ⟨key :: before, key', after, entries, rfl, ?_, hfind⟩
    rw [follow_cons hnull, hslot]
    exact hfollow

theorem hasProperty_of_item {items : List Value} {i : Nat} {w : Value} (hi : position? key = .ok i)
    (hw : items[i]? = some w) : (list items).hasProperty key = true ∧ (set items).hasProperty key = true := by
  obtain ⟨hlt, -⟩ := List.getElem?_eq_some_iff.1 hw
  constructor <;>
  · rw [hasProperty, hi]
    exact decide_eq_true hlt

theorem hasProperty_or_absent (h : v.slot? key = some (.ok slot)) :
    v.hasProperty key = true ∨
      slot.content = .null ∧ ∃ entries, v = .map entries ∧ Table.find? entries key = none := by
  cases v with
  | record schema values =>
    obtain ⟨i, hi, -, -⟩ := slot?_record_eq_ok h
    refine .inl ?_
    rw [hasProperty, Schema.hasField, hi]
    rfl
  | map entries =>
    obtain rfl := Except.ok.inj (Option.some.inj h)
    rw [hasProperty, Table.contains]
    cases hfind : Table.find? entries key with
    | none => exact .inr ⟨rfl, entries, rfl, hfind⟩
    | some w => exact .inl rfl
  | list items =>
    obtain ⟨i, hi, hw, -⟩ := slot?_items_eq_ok (.inl rfl) h
    exact .inl (hasProperty_of_item hi hw).1
  | set items =>
    obtain ⟨i, hi, hw, -⟩ := slot?_items_eq_ok (.inr rfl) h
    exact .inl (hasProperty_of_item hi hw).2
  | _ => cases h

/-! ### Agreement -/

/-- What is found and what is read at one place agree. A type is found where reading succeeds, and is that of
the value unless this is null; and no type is found where reading fails, or gives null because a key is absent,
and only there. -/
structure Agree (type : Option DataType) (read : Except DataError Value) (absent : Prop) : Prop where
  read_of_type : ∀ t, type = some t → ∃ v, read = .ok v ∧ (v.isNull = false → v.dataType = t)
  type_of_read : ∀ v, read = .ok v → v.isNull = false → type = some v.dataType
  type_eq_none_iff : type = none ↔ (∃ e, read = .error e) ∨ (read = .ok .null ∧ absent)

variable {absent : Prop}

theorem agree_error (e : DataError) : Agree none (.error e) absent where
  read_of_type _ h := by cases h
  type_of_read _ h := by cases h
  type_eq_none_iff := iff_of_true rfl (.inl ⟨e, rfl⟩)

theorem agree_absent (h : absent) : Agree none (.ok .null) absent where
  read_of_type _ h := by cases h
  type_of_read v hv hnull := by
    obtain rfl := Except.ok.inj hv
    cases hnull
  type_eq_none_iff := iff_of_true rfl (.inr ⟨rfl, h⟩)

theorem agree_found {t : DataType} (ht : v.isNull = true ∨ v.dataType = t) (h : ¬ absent) :
    Agree (some t) (.ok v) absent where
  read_of_type u hu := by
    obtain rfl := Option.some.inj hu
    exact ⟨v, rfl, fun hnull => ht.resolve_left (ne_true_of_eq_false hnull)⟩
  type_of_read w hw hnull := by
    obtain rfl := Except.ok.inj hw
    rw [ht.resolve_left (ne_true_of_eq_false hnull)]
  type_eq_none_iff := by
    refine iff_of_false (Option.some_ne_none t) ?_
    rintro (⟨e, he⟩ | ⟨-, habsent⟩)
    · cases he
    · exact h habsent

theorem agree_cons (hnull : v.isNull = false)
    (h : ∀ slot, v.slot? key = some (.ok slot) → ∀ declared,
      Agree (followType declared slot.content rest) (follow raw slot.content rest) (slot.content.Misses raw rest))
    (declared : Option DataType) :
    Agree (followType declared v (key :: rest)) (follow raw v (key :: rest)) (v.Misses raw (key :: rest)) := by
  rw [follow_cons hnull, followType_cons hnull]
  cases hslot : v.slot? key with
  | none =>
    rw [ite_self]
    exact agree_error _
  | some r =>
    cases r with
    | error e =>
      rw [ite_self]
      exact agree_error _
    | ok slot =>
      rcases hasProperty_or_absent hslot with hproperty | ⟨hcontent, entries, rfl, hfind⟩
      · rw [if_pos hproperty, propext (misses_cons hnull hslot hproperty)]
        exact h slot hslot (v.declaredType? key)
      · have hproperty : hasProperty (.map entries) key = false := by
          rw [hasProperty, Table.contains, hfind]
          rfl
        rw [hproperty, if_neg Bool.false_ne_true]
        dsimp only
        rw [hcontent, follow_null]
        exact agree_absent (misses_map hfind)

/-- The walk over types and the walk over values agree, from wherever they start together. -/
theorem agree_follow (raw : String) (keys : List String) (v : Value) (declared : Option DataType) :
    Agree (followType declared v keys) (follow raw v keys) (v.Misses raw keys) := by
  induction keys generalizing v declared with
  | nil =>
    rw [follow_nil]
    cases hnull : v.isNull with
    | true =>
      obtain rfl := eq_null_of_isNull hnull
      exact agree_found (.inl rfl) not_misses_nil
    | false =>
      rw [followType_nil hnull]
      exact agree_found (.inr rfl) not_misses_nil
  | cons key rest ih =>
    cases hnull : v.isNull with
    | true =>
      obtain rfl := eq_null_of_isNull hnull
      rw [follow_null]
      exact agree_found (.inl rfl) not_misses_null
    | false => exact agree_cons hnull (fun slot _ declared => ih slot.content declared) declared

theorem dataType_eq_of_typeAt? {root : Value} {path : Path} (hread : root.readAt path = .ok v)
    (hnull : v.isNull = false) : root.typeAt? path = some v.dataType :=
  (agree_follow path.raw path.keys root none).type_of_read v hread hnull

/-- The type found at a path agrees with the value that is read there. This is so for each value that the path
begins at, and for each record, map or sequence in which its first key is looked up. -/
theorem agree_of_parse {text : String} {path : Path} (hpath : Path.parse text = .ok path) (root : Value) :
    Agree (root.typeAt? path) (root.readAt path) (root.Misses path.raw path.keys) ∧
    (root.isNavigable = true →
      Agree (root.typeIn? path) (root.readIn path) (root.Misses path.raw path.keys)) := by
  have hagree := agree_follow path.raw path.keys root none
  obtain ⟨key, rest, hkeys⟩ := Path.exists_keys_of_parse hpath
  have hne : path.keys ≠ [] := hkeys ▸ List.cons_ne_nil key rest
  refine ⟨hagree, fun hroot => ?_⟩
  rw [typeIn?_eq_typeAt? hroot hne, readIn_eq_readAt hroot hne]
  exact hagree

/-- A user of whom the name is not known, and who lives in Oslo. -/
def resident : Value :=
  .record ⟨"User", [("name", .string), ("home", .map)]⟩ [.null, .map [("city", .string "Oslo")]]

theorem agree_of_parse_code :
    ∃ path, Path.parse "home.code" = .ok path ∧ resident.isNavigable = true ∧
      resident.typeAt? path = none ∧ resident.readAt path = .ok .null ∧
      resident.typeIn? path = none ∧ resident.Misses path.raw path.keys := by
  have hname : ∀ name ∈ ["home", "code"], (Segment.mk name none).IsPlain := by
    intro name hname
    refine ⟨?_, fun _ h => absurd h (Option.not_mem_none _)⟩
    rcases List.mem_pair.1 hname with rfl | rfl
    · exact ⟨by decide, List.all_eq_true.1 (by decide)⟩
    · exact ⟨by decide, List.all_eq_true.1 (by decide)⟩
  have hpath := Path.parse_written (hname "home" (by decide))
    (List.forall_mem_singleton.2 (hname "code" (by decide)))
  obtain ⟨-, hin⟩ := agree_of_parse hpath resident
  have hnone : resident.typeIn? ⟨"home.code", [⟨"home", none⟩, ⟨"code", none⟩]⟩ = none := rfl
  refine ⟨_, hpath, rfl, rfl, rfl, hnone, ?_⟩
  rcases (hin rfl).type_eq_none_iff.1 hnone with ⟨e, he⟩ | ⟨-, hmisses⟩
  · cases he
  · exact hmisses

end Value

end DynamicSql
