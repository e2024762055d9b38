import DynamicSql.Proofs.Path.Lens
import DynamicSql.Proofs.Table

/-!
# Writes that fail

A write goes down a path before it is known whether the path can be followed to its end, and puts maps where it
finds null or nothing. A write that fails still leaves the value as it was (`Value.write_eq_self`): below a map
that was put in, every key can be written, so no step behind it fails; and a step before it has only put back what
was there. That needs maps in the order of their keys; writes keep this order, as they fail or succeed
(`Value.Ordered.writeAt`). A write that succeeds is read at its path, and at no path that leads to another place
(`Value.writeAt_lens`).
-/

namespace DynamicSql

namespace Value

/-- The values that a value is made of. -/
def parts : Value → List Value
  | .record _ values => values
  | .map entries => Table.values entries
  | .list items | .set items => items
  | _ => []

/-- The entries of a value that is a map, and of all maps that it is made of, are in the order of their keys. -/
inductive Ordered : Value → Prop
  | intro {v : Value} (hkeys : ∀ entries, v = .map entries → Table.IsOrdered entries)
      (hparts : ∀ w ∈ v.parts, Ordered w) : Ordered v

theorem Ordered.keys {entries : Table String Value} (h : (map entries).Ordered) : entries.IsOrdered := by
  obtain ⟨hkeys, -⟩ := h
  exact hkeys entries rfl

theorem Ordered.of_mem {v w : Value} (h : v.Ordered) (hw : w ∈ v.parts) : w.Ordered := by
  obtain ⟨-, hparts⟩ := h
  exact hparts w hw

theorem ordered_of_not_isNavigable {v : Value} (h : v.isNavigable = false) : v.Ordered := by
  constructor
  · rintro entries rfl
    cases h
  · intro w hw
    have hparts : v.parts = [] := by
      cases v <;> first | rfl | cases h
    simp [hparts] at hw

theorem ordered_map {entries : Table String Value} (hkeys : entries.IsOrdered)
    (hvalues : ∀ w ∈ entries.values, w.Ordered) : (map entries).Ordered := by
  constructor
  · intro entries' h
    rwa [← Value.map.inj h]
  · exact hvalues

/-! ### What a place holds -/

theorem content_of_map {entries : Table String Value} {key : String} {slot : Slot}
    (h : (map entries).slot? key = some (.ok slot)) : slot.content = (entries.find? key).getD .null := by
  obtain rfl := Except.ok.inj (Option.some.inj h)
  rfl

theorem content_eq_null_or_mem {v : Value} {key : String} {slot : Slot}
    (h : v.slot? key = some (.ok slot)) : slot.content = .null ∨ slot.content ∈ v.parts := by
  cases v with
  | record schema values =>
    obtain ⟨i, -, hvalue, -⟩ := slot?_record_eq_ok h
    exact .inr (List.mem_of_getElem? hvalue)
  | map entries =>
    rw [content_of_map h]
    by_cases hfind : Table.find? entries key = none
    · rw [hfind]
      exact .inl rfl
    · obtain ⟨w, hw⟩ := Option.ne_none_iff_exists'.1 hfind
      rw [hw]
      exact .inr (Table.mem_values_of_find? hw)
  | list items =>
    obtain ⟨i, -, hvalue, -⟩ := slot?_items_eq_ok (.inl rfl) h
    exact .inr (List.mem_of_getElem? hvalue)
  | set items =>
    obtain ⟨i, -, hvalue, -⟩ := slot?_items_eq_ok (.inr rfl) h
    exact .inr (List.mem_of_getElem? hvalue)
  | _ => cases h

theorem Ordered.content {v : Value} (hv : v.Ordered) {key : String} {slot : Slot}
    (h : v.slot? key = some (.ok slot)) : slot.content.Ordered := by
  rcases content_eq_null_or_mem h with hnull | hmem
  · rw [hnull]
    exact ordered_of_not_isNavigable rfl
  · exact hv.of_mem hmem

theorem put_content_items {rebuild : List Value → Value} (h : rebuild = .list ∨ rebuild = .set)
    {items : List Value} {key : String} {slot : Slot} (hslot : (rebuild items).slot? key = some (.ok slot)) :
    slot.put slot.content = rebuild items := by
  obtain ⟨i, -, hvalue, hput⟩ := slot?_items_eq_ok h hslot
  obtain ⟨hlt, hcontent⟩ := List.getElem?_eq_some_iff.1 hvalue
  rw [hput, ← hcontent, List.set_getElem_self]

/-- Putting back what a place holds changes nothing. A map that has nothing there would gain a key, so null is
left out. -/
theorem put_content {v : Value} (hv : v.Ordered) {key : String} {slot : Slot}
    (h : v.slot? key = some (.ok slot)) (hnull : slot.content ≠ .null) : slot.put slot.content = v := by
  cases v with
  | record schema values =>
    obtain ⟨i, -, hvalue, hput⟩ := slot?_record_eq_ok h
    obtain ⟨hlt, hcontent⟩ := List.getElem?_eq_some_iff.1 hvalue
    rw [hput, ← hcontent, List.set_getElem_self]
  | map entries =>
    have hcontent := content_of_map h
    by_cases hfind : Table.find? entries key = none
    · rw [hfind] at hcontent
      exact absurd hcontent hnull
    · obtain ⟨w, hw⟩ := Option.ne_none_iff_exists'.1 hfind
      rw [hw, Option.getD_some] at hcontent
      obtain rfl := Except.ok.inj (Option.some.inj h)
      show map (Table.insert entries key _) = map entries
      rw [hcontent, Table.insert_eq_self hv.keys hw]
  | list items => exact put_content_items (.inl rfl) h
  | set items => exact put_content_items (.inr rfl) h
  | _ => cases h

/-! ### Order -/

theorem ordered_set {items : List Value} (hitems : ∀ w ∈ items, w.Ordered) {new : Value} (hnew : new.Ordered)
    (i : Nat) : ∀ w ∈ items.set i new, w.Ordered := by
  intro w hw
  rcases List.mem_or_eq_of_mem_set hw with hmem | rfl
  · exact hitems w hmem
  · exact hnew

theorem Ordered.put {v new : Value} (hv : v.Ordered) {key : String} {slot : Slot}
    (h : v.slot? key = some (.ok slot)) (hnew : new.Ordered) : (slot.put new).Ordered := by
  have hparts : ∀ w ∈ v.parts, w.Ordered := fun w hw => hv.of_mem hw
  cases v with
  | record schema values =>
    obtain ⟨i, -, -, hput⟩ := slot?_record_eq_ok h
    rw [hput]
    exact .intro (fun _ heq => Value.noConfusion heq) (ordered_set hparts hnew i)
  | map entries =>
    obtain rfl := Except.ok.inj (Option.some.inj h)
    apply ordered_map (Table.isOrdered_insert hv.keys key new)
    intro w hw
    rcases Table.mem_values_insert hw with rfl | hmem
    · exact hnew
    · exact hparts w hmem
  | list items =>
    obtain ⟨i, -, -, hput⟩ := slot?_items_eq_ok (.inl rfl) h
    rw [hput]
    exact .intro (fun _ heq => Value.noConfusion heq) (ordered_set hparts hnew i)
  | set items =>
    obtain ⟨i, -, -, hput⟩ := slot?_items_eq_ok (.inr rfl) h
    rw [hput]
    exact .intro (fun _ heq => Value.noConfusion heq) (ordered_set hparts hnew i)
  | _ => cases h

theorem Ordered.opened {content : Value} (h : content.Ordered) (rest : List String) :
    (content.opened rest).Ordered := by
  rw [Value.opened]
  split
  · exact ordered_map List.Pairwise.nil (List.forall_mem_nil _)
  · exact h

theorem Ordered.write {v new : Value} (hv : v.Ordered) (hnew : new.Ordered) (path : String) (keys : List String) :
    (write path new v keys).value.Ordered := by
  induction keys generalizing v with
  | nil => exact hnew
  | cons key rest ih =>
    by_cases hslot : ∃ slot, v.slot? key = some (.ok slot)
    · obtain ⟨slot, hslot⟩ := hslot
      rw [write_cons hslot]
      exact hv.put hslot (ih ((hv.content hslot).opened rest))
    · rw [(write_cons_of_none (not_exists.1 hslot) path new rest).1]
      exact hv

theorem Ordered.writeAt {root new : Value} (hroot : root.Ordered) (hnew : new.Ordered) (path : Path) :
    (root.writeAt path new).value.Ordered := by
  by_cases hkeys : path.keys = []
  · rw [Value.writeAt, hkeys]
    exact hroot
  · rw [writeAt_of_keys_ne_nil hkeys]
    exact hroot.write hnew path.raw path.keys

/-! ### Writes -/

theorem write_empty_error (path : String) (new : Value) (keys : List String) (hkeys : keys ≠ []) :
    (write path new (.map []) keys).error = none := by
  -- each key of the new map holds null, and null becomes such a map again
  induction keys with
  | nil => exact absurd rfl hkeys
  | cons key rest ih =>
    have hslot : (map []).slot? key = some (.ok ⟨.null, fun w => .map (Table.insert [] key w)⟩) := rfl
    rw [write_cons hslot]
    by_cases hrest : rest = []
    · subst hrest
      rfl
    · have hopened : opened .null rest = .map [] := by
        simp [opened, hrest, isNull]
      rw [hopened]
      exact ih hrest

theorem opened_of_ne_null {content : Value} (h : content ≠ .null) (rest : List String) :
    content.opened rest = content := by
  rw [opened, if_neg]
  intro hnull
  exact h (eq_null_of_isNull (Bool.and_eq_true_iff.1 hnull).2)

/-- A write that fails leaves the value as it was. -/
theorem write_eq_self {v : Value} (hv : v.Ordered) {path : String} {new : Value} {keys : List String}
    (h : (write path new v keys).error ≠ none) : (write path new v keys).value = v := by
  induction keys generalizing v with
  | nil => exact absurd rfl h
  | cons key rest ih =>
    by_cases hslot : ∃ slot, v.slot? key = some (.ok slot)
    · obtain ⟨slot, hslot⟩ := hslot
      rw [write_cons hslot] at h ⊢
      dsimp only at h ⊢
      have hrest : rest ≠ [] := by
        rintro rfl
        exact h rfl
      by_cases hnull : slot.content = .null
      · -- a map is put in the place, and nothing fails below it
        have hopened : slot.content.opened rest = .map [] := by
          simp [opened, hrest, hnull, isNull]
        rw [hopened] at h
        exact absurd (write_empty_error path new rest hrest) h
      · rw [opened_of_ne_null hnull] at h ⊢
        rw [ih (hv.content hslot) h, put_content hv hslot hnull]
    · exact (write_cons_of_none (not_exists.1 hslot) path new rest).1

theorem write_of_follow {v new : Value} (hv : v.Ordered) (hnew : new ≠ .null) {path raw : String}
    {keys : List String} (h : follow raw v keys = .ok new) : (write path new v keys).value = v := by
  induction keys generalizing v with
  | nil => exact (Except.ok.inj h).symm
  | cons key rest ih =>
    by_cases hslot : ∃ slot, v.slot? key = some (.ok slot)
    · obtain ⟨slot, hslot⟩ := hslot
      rw [follow_cons_of_isNavigable (isNavigable_of_slot? hslot), property_of_slot? hslot] at h
      have hrest : follow raw slot.content rest = .ok new := h
      have hnull : slot.content ≠ .null := by
        intro hnull
        rw [hnull, follow_null] at hrest
        exact hnew (Except.ok.inj hrest).symm
      rw [write_cons hslot, opened_of_ne_null hnull]
      dsimp only
      rw [ih (hv.content hslot) hrest, put_content hv hslot hnull]
    · exact (write_cons_of_none (not_exists.1 hslot) path new rest).1

theorem writeAt_eq_self {root new : Value} (hroot : root.Ordered) {path : Path}
    (h : (root.writeAt path new).error ≠ none) : (root.writeAt path new).value = root := by
  by_cases hkeys : path.keys = []
  · rw [writeAt, hkeys]
  · rw [writeAt_of_keys_ne_nil hkeys] at h ⊢
    exact write_eq_self hroot h

theorem writeAt_of_readAt {root new : Value} (hroot : root.Ordered) (hnew : new ≠ .null) {path : Path}
    (h : root.readAt path = .ok new) : (root.writeAt path new).value = root := by
  by_cases hkeys : path.keys = []
  · rw [Value.writeAt, hkeys]
  · rw [writeAt_of_keys_ne_nil hkeys]
    exact write_of_follow hroot hnew h

theorem apart_of_distinct {raw : String} {v : Value} {common rest rest' : List String} {key key' : String}
    (h : ∀ parent, follow raw v common = .ok parent → parent.Distinct key key') :
    v.Apart (common ++ key :: rest) (common ++ key' :: rest') := by
  induction common generalizing v with
  | nil => exact .inl (h v (follow_nil raw v))
  | cons k common ih =>
    refine .inr ⟨rfl, fun path w hw => ih fun parent hparent => h parent ?_⟩
    have hfollow := follow_append raw v [k] common
    rw [(follow_eq_ok_congr path raw).1 hw] at hfollow
    exact hfollow.trans hparent

variable {root : Value}

/-- Writing at a path is all or nothing, and what it does is seen at the path alone. A write that fails leaves the
value as it was. After a write that succeeds, the path reads what was written, and another path reads what it read
before, a value or an error, if the keys name different properties where the paths first differ: different names,
or different positions of a sequence. -/
theorem writeAt_lens (hroot : root.Ordered) (path : Path) (new : Value) :
    ((root.writeAt path new).error ≠ none → (root.writeAt path new).value = root) ∧
    ((root.writeAt path new).error = none →
      (root.writeAt path new).value.readAt path = .ok new ∧
      ∀ (other : Path) (common rest rest' : List String) (key key' : String),
        other.keys = common ++ key :: rest → path.keys = common ++ key' :: rest' →
        (∀ parent, follow path.raw root common = .ok parent → parent.Distinct key key') →
        (root.writeAt path new).value.readAt other = root.readAt other) := by
  constructor
  · exact writeAt_eq_self hroot
  · intro h
    refine ⟨readAt_writeAt h, ?_⟩
    intro other common rest rest' key key' hother hpath hdistinct
    apply readAt_writeAt_of_apart
    rw [hother, hpath]
    exact apart_of_distinct hdistinct

/-- A person with a name, of whom the home is not known. -/
def person : Value := .map [("home", .null), ("owner", .map [("name", .string "Ada")])]

theorem ordered_person : person.Ordered := by
  have hname : (map [("name", .string "Ada")]).Ordered := by
    apply ordered_map
    · exact List.pairwise_singleton _ _
    · intro w hw
      rw [List.mem_singleton.1 hw]
      exact ordered_of_not_isNavigable rfl
  apply ordered_map
  · exact List.pairwise_pair.2 (by decide)
  · intro w hw
    rcases List.mem_pair.1 hw with rfl | rfl
    · exact ordered_of_not_isNavigable rfl
    · exact hname

/-- A path through a text. -/
def initialPath : Path := ⟨"owner.name.initial", [⟨"owner", none⟩, ⟨"name", none⟩, ⟨"initial", none⟩]⟩

/-- A path through null. -/
def cityPath : Path := ⟨"home.city", [⟨"home", none⟩, ⟨"city", none⟩]⟩

/-- A path that parts from the one to the city behind null. -/
def streetPath : Path := ⟨"home.street", [⟨"home", none⟩, ⟨"street", none⟩]⟩

theorem writeAt_lens_person :
    person.Ordered ∧
    (person.writeAt initialPath (.string "A")).error =
      some (.notNavigable "owner.name.initial" "initial" "string") ∧
    (person.writeAt initialPath (.string "A")).value = person ∧
    (person.writeAt cityPath (.string "Oslo")).error = none ∧
    (person.writeAt cityPath (.string "Oslo")).value.readAt cityPath = .ok (.string "Oslo") ∧
    (person.writeAt cityPath (.string "Oslo")).value.readAt streetPath = person.readAt streetPath := by
  have hfails : (person.writeAt initialPath (.string "A")).error =
      some (.notNavigable "owner.name.initial" "initial" "string") := rfl
  have hwrites : (person.writeAt cityPath (.string "Oslo")).error = none := rfl
  have hlens := (writeAt_lens ordered_person cityPath (.string "Oslo")).2 hwrites
  refine ⟨ordered_person, hfails, ?_, hwrites, hlens.1, ?_⟩
  · apply (writeAt_lens ordered_person initialPath (.string "A")).1
    rw [hfails]
    exact Option.some_ne_none _
  · apply hlens.2 streetPath ["home"] [] [] "street" "city" rfl rfl
    intro parent hparent
    obtain rfl : null = parent := Except.ok.inj hparent
    show "street" ≠ "city"
    decide

end Value

end DynamicSql
