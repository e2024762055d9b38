import DynamicSql.Proofs.Mapper.Loading
import DynamicSql.Proofs.Template.Included

/-!
# Fragments of several mappers

A fragment goes by its full id in every later mapper, and by its bare id in its own document. What its body
includes is looked up in the mapper that is being built, so a fragment means the same in all later mappers just if
it can be built from full ids alone (`Configuration.build_include_full_id`). Where it comes upon a bare id, a later
mapper puts its own fragment of this id into its place, or cannot be loaded.
-/

namespace DynamicSql

open Step

/-! ### The fragments of a document -/

namespace Library

variable {l : Library} {id : String} {fragments : List (String × List Element)}

/-- The library with more fragments, each under the id that `name` gives it. -/
def addAll (name : String → String) (fragments : List (String × List Element)) (l : Library) : Library :=
  fragments.foldl (fun l (id, body) => l.addFragment (name id) body) l

theorem vars_addAll (name : String → String) : (l.addAll name fragments).vars = l.vars := by
  induction fragments generalizing l with
  | nil => rfl
  | cons fragment fragments ih => exact ih

theorem find?_addAll_of_not_mem {name : String → String} (h : ∀ fragment ∈ fragments, id ≠ name fragment.1) :
    (l.addAll name fragments).fragments.find? id = l.fragments.find? id := by
  induction fragments generalizing l with
  | nil => rfl
  | cons fragment fragments ih =>
    obtain ⟨hid, hrest⟩ := List.forall_mem_cons.1 h
    exact (ih hrest).trans (Table.find?_insert_of_ne _ _ hid)

theorem find?_addAll_of_mem {name : String → String} {body : List Element}
    (hnodup : (fragments.map fun fragment => name fragment.1).Nodup) (h : (id, body) ∈ fragments) :
    (l.addAll name fragments).fragments.find? (name id) = some body := by
  induction fragments generalizing l with
  | nil => cases h
  | cons fragment fragments ih =>
    obtain ⟨hnew, hrest⟩ := List.nodup_cons.1 hnodup
    rcases List.mem_cons.1 h with rfl | h
    · have hlast : ∀ fragment ∈ fragments, name id ≠ name fragment.1 := fun fragment hfragment hid =>
        hnew (List.mem_map.2 ⟨fragment, hfragment, hid.symm⟩)
      exact (find?_addAll_of_not_mem hlast).trans (Table.find?_insert_self _ _ _)
    · exact ih hrest h

theorem find?_addAll_ne_none {name : String → String}
    (h : (l.addAll name fragments).fragments.find? id ≠ none) :
    l.fragments.find? id ≠ none ∨ ∃ fragment ∈ fragments, id = name fragment.1 := by
  by_contra hnot
  obtain ⟨hnone, hfragments⟩ := not_or.1 hnot
  refine h ((find?_addAll_of_not_mem fun fragment hfragment heq => ?_).trans (not_not.1 hnone))
  exact hfragments ⟨fragment, hfragment, heq⟩

end Library

namespace Document

theorem not_mem_of_fault? {d : Document} (h : d.fault? = none) {id : String} (hid : id ∈ d.fragments.keys) :
    '.' ∉ id.toList := by
  rw [fault?] at h
  split_ifs at h
  have hisId := List.find?_eq_none.1 (Option.map_eq_none_iff.1 h) id (List.mem_append_left _ hid)
  rw [isId] at hisId
  intro hpoint
  exact hisId (by simp [hpoint])

end Document

namespace Configuration

variable {settings : Settings} {c c' : Configuration} {d e : Document} {count : Nat} {id : String}

/-- The configuration with the fragments of a document under their full ids. -/
def declare (c : Configuration) (d : Document) : Configuration :=
  d.fragments.foldl (fun c (id, body) => c.withFragment (qualified d.namespaceId id) body) c

/-- What the statements of a document are built with: the fragments of the document go by their full ids and by
their bare ids. -/
def libraryOf (c : Configuration) (d : Document) : Library := (c.declare d).library.addAll (·) d.fragments

theorem addMapper_eq (d : Document) (c : Configuration) :
    addMapper d c = addStatements d.namespaceId (c.libraryOf d) d.statements (c.declare d) := rfl

theorem library_declare (c : Configuration) (d : Document) :
    (c.declare d).library = c.library.addAll (qualified d.namespaceId) d.fragments := by
  rw [declare]
  generalize d.fragments = fragments
  induction fragments generalizing c with
  | nil => rfl
  | cons fragment fragments ih => exact ih _

theorem toList_qualified (namespaceId id : String) :
    (qualified namespaceId id).toList = namespaceId.toList ++ '.' :: id.toList := by
  rw [qualified, String.toList_append, String.toList_append, List.append_assoc]
  rfl

theorem mem_qualified (namespaceId id : String) : '.' ∈ (qualified namespaceId id).toList := by
  rw [toList_qualified]
  exact List.mem_append_right _ (.head _)

/-- Fragments are known by full ids only. -/
def HasFullIds (c : Configuration) : Prop := ∀ id, c.library.fragments.find? id ≠ none → '.' ∈ id.toList

theorem hasFullIds_declare (hc : c.HasFullIds) (d : Document) : (c.declare d).HasFullIds := by
  intro id hid
  rw [library_declare] at hid
  rcases Library.find?_addAll_ne_none hid with hid | ⟨fragment, -, rfl⟩
  · exact hc id hid
  · exact mem_qualified _ _

theorem library_of_addStatements {namespaceId : String} {library : Library} {ds : List Definition}
    (h : addStatements namespaceId library ds c = .ok count c') : c'.library = c.library := by
  induction ds generalizing c count with
  | nil => rw [(pure_eq_ok.1 h).2]
  | cons d ds ih =>
    obtain ⟨added, c₁, hadd, h⟩ := bind_eq_ok.1 h
    obtain ⟨rest, c₂, hrest, h⟩ := bind_eq_ok.1 h
    obtain ⟨-, rfl⟩ := pure_eq_ok.1 h
    rw [ih hrest]
    rw [addStatement] at hadd
    split_ifs at hadd
    · cases hadd; rfl
    · split at hadd <;> cases hadd
      rfl

theorem library_of_addMapper (h : addMapper d c = .ok count c') : c'.library = (c.declare d).library :=
  library_of_addStatements (addMapper_eq d c ▸ h)

theorem Loaded.hasFullIds (h : Loaded settings c) : c.HasFullIds := by
  induction h with
  | new => exact fun id hid => absurd rfl hid
  | @mapper c c' d count _ hadd ih =>
    intro id hid
    rw [library_of_addMapper hadd] at hid
    exact hasFullIds_declare ih d id hid

theorem le_libraryOf (hc : c.HasFullIds) (hd : d.fault? = none) : (c.declare d).library.Le (c.libraryOf d) where
  vars := (Library.vars_addAll _).symm
  fragments id body hbody := by
    refine (Library.find?_addAll_of_not_mem fun fragment hfragment hid => ?_).trans hbody
    have hpoint := hasFullIds_declare hc d id (hbody ▸ Option.some_ne_none _)
    exact Document.not_mem_of_fault? hd (List.mem_map.2 ⟨fragment, hfragment, hid.symm⟩) hpoint

theorem mem_of_lacks (h : (c.declare d).library.Lacks (c.libraryOf d) id) : id ∈ d.fragments.keys := by
  rcases Library.find?_addAll_ne_none h.2 with hid | ⟨fragment, hfragment, rfl⟩
  · exact absurd h.1 hid
  · exact List.mem_map.2 ⟨fragment, hfragment, rfl⟩

/-! ### Later documents -/

theorem le_library_declare
    (hnew : ∀ id ∈ d.fragments.keys, c.library.fragments.find? (qualified d.namespaceId id) = none) :
    c.library.Le (c.declare d).library := by
  rw [library_declare]
  refine ⟨(Library.vars_addAll _).symm, fun id body hbody => ?_⟩
  refine (Library.find?_addAll_of_not_mem fun fragment hfragment hid => ?_).trans hbody
  have hnone := hnew _ (List.mem_map.2 ⟨fragment, hfragment, rfl⟩)
  rw [← hid, hbody] at hnone
  cases hnone

/-- A document that is added to `c''`, where all fragments that were known in `c'` still have their bodies. -/
structure IsLater (settings : Settings) (c' c'' : Configuration) (e : Document) : Prop where
  loaded : Loaded settings c''
  accepted : e.fault? = none
  kept : c'.library.Le (c''.declare e).library

theorem IsLater.le {c'' : Configuration} (h : IsLater settings c' c'' e) : c'.library.Le (c''.libraryOf e) :=
  h.kept.trans (le_libraryOf h.loaded.hasFullIds h.accepted)

/-- A later document knows no bare ids but its own. -/
theorem IsLater.find?_of_bare {c'' : Configuration} (h : IsLater settings c' c'' e) (hbare : '.' ∉ id.toList)
    (hid : id ∉ e.fragments.keys) : (c''.libraryOf e).fragments.find? id = none := by
  by_contra hsome
  rcases Library.find?_addAll_ne_none hsome with hsome | ⟨fragment, hfragment, rfl⟩
  · exact hbare (hasFullIds_declare h.loaded.hasFullIds e id hsome)
  · exact hid (List.mem_map.2 ⟨fragment, hfragment, rfl⟩)

/-- An element that includes a fragment of a document by its full id. -/
def inclusion (d : Document) (fragment : String) (properties : List Element) : Element :=
  .inclusion (qualified d.namespaceId fragment) properties

/-- A fragment that is included by its full id, and from which a statement of its own document is built, means
the same in every later document if it can be built without bare ids. Otherwise it comes upon one of the bare ids
of its own document, and a later document is refused for it unless it has a fragment of this bare id itself. -/
theorem build_include_full_id {n : Node} (hc : Loaded settings c) (hd : d.fault? = none)
    (hadd : addMapper d c = .ok count c') (fragment : String) (properties : List Element)
    (hbuild : (c.libraryOf d).build [inclusion d fragment properties] = .ok n) :
    (c'.library.build [inclusion d fragment properties] = .ok n →
      ∀ c'' e, IsLater settings c' c'' e →
        (c''.libraryOf e).build [inclusion d fragment properties] = .ok n) ∧
    (c'.library.build [inclusion d fragment properties] ≠ .ok n →
      ∃ id ∈ d.fragments.keys, ∀ c'' e, IsLater settings c' c'' e → id ∉ e.fragments.keys →
        (c''.libraryOf e).build [inclusion d fragment properties] = .error (.unknownFragment id)) := by
  refine ⟨fun hfull c'' e h => h.le.build_of_ok hfull, fun hbare => ?_⟩
  have hle := le_libraryOf hc.hasFullIds hd
  rw [← library_of_addMapper hadd] at hle
  obtain ⟨id, hlacks, herror⟩ := hle.exists_lacks hbuild hbare
  have hid : id ∈ d.fragments.keys := mem_of_lacks (library_of_addMapper hadd ▸ hlacks)
  refine ⟨id, hid, fun c'' e h he => h.le.build_of_unknown herror ?_⟩
  exact h.find?_of_bare (Document.not_mem_of_fault? hd hid) he

/-! ### A fragment that includes another one -/

/-- A text in an included fragment of an included fragment. -/
def nested (text : String) : Node := .composite [.composite [.composite [.text text]]]

theorem nested_inj {s t : String} (h : nested s = nested t) : s = t := by
  simpa only [nested, Node.composite.injEq, List.cons.injEq, Node.text.injEq, and_true] using h

/-- The library of two fragments, the second of which is included in the first one. -/
def nesting (id inner text : String) : Library :=
  ⟨[], [(id, [.inclusion inner []]), (inner, [.text text])]⟩

theorem build_nesting {inner text : String} (hid : substitute [] id = id) (hinner : substitute [] inner = inner)
    (htext : substitute [] text = text) (hne : inner ≠ id) :
    (nesting id inner text).build [.inclusion id []] = .ok (nested text) := by
  have houter : (nesting id inner text).fragments.find? id = some [.inclusion inner []] := if_pos rfl
  have hfound : (nesting id inner text).fragments.find? inner = some [.text text] :=
    (if_neg hne).trans (if_pos rfl)
  show Element.buildWithin _ (2 + 1) ⟨[], []⟩ _ = _
  rw [Element.buildWithin, Element.buildBody_inclusion hid List.not_mem_nil houter,
    Element.buildWithin, Element.buildBody_inclusion hinner (fun h => hne (List.mem_singleton.1 h)) hfound,
    Element.buildWithin, Element.buildBody_text htext]
  rfl

theorem build_nested {l : Library} {inner text : String} (hvars : l.vars = [])
    (hid : substitute [] id = id) (hinner : substitute [] inner = inner) (htext : substitute [] text = text)
    (hne : inner ≠ id) (hfind : l.fragments.find? id = some [.inclusion inner []])
    (hfind' : l.fragments.find? inner = some [.text text]) : l.build [.inclusion id []] = .ok (nested text) := by
  have hle : (nesting id inner text).Le l := by
    refine ⟨hvars.symm, fun i body h => ?_⟩
    rw [nesting, Table.find?, Table.find?] at h
    split_ifs at h with hi hi
    · exact hi ▸ h ▸ hfind
    · exact hi ▸ h ▸ hfind'
    · cases h
  exact hle.build_of_ok (build_nesting hid hinner htext hne)

/-- A document with two fragments, the second of which includes the first one by the id `inner`. -/
def users (inner : String) : Document :=
  ⟨"users", [("cols", [.text "id, name"]), ("columns", [.inclusion inner []])], []⟩

/-- A later document with a fragment of the same bare id. -/
def orders : Document := ⟨"orders", [("cols", [.text "order_no"])], []⟩

/-- The configuration that has the fragments of the first document. -/
def withUsers (inner : String) : Configuration := (new .default).declare (users inner)

theorem addMapper_users (inner : String) : addMapper (users inner) (new .default) = .ok 0 (withUsers inner) := rfl

theorem fault?_users (inner : String) : (users inner).fault? = none := by
  have hblank : Text.allBlank "users".toList = false := by decide
  have hids : (["cols", "columns"].find? (!Document.isId ·)).map DocumentFault.invalidId = none := by decide
  exact (if_neg (by rw [users, hblank]; exact Bool.false_ne_true)).trans hids

theorem fault?_orders : orders.fault? = none := by decide

theorem find?_users {inner name : String} {body : List Element} (h : (name, body) ∈ (users inner).fragments) :
    (withUsers inner).library.fragments.find? (qualified "users" name) = some body := by
  have hnodup : ((users inner).fragments.map fun fragment => qualified "users" fragment.1).Nodup :=
    show (["cols", "columns"].map (qualified "users")).Nodup by decide
  rw [withUsers, library_declare]
  exact Library.find?_addAll_of_mem hnodup h

theorem isLater_orders (inner : String) : IsLater .default (withUsers inner) (withUsers inner) orders where
  loaded := .mapper .new (addMapper_users inner)
  accepted := fault?_orders
  kept := by
    have hother : ∀ name ∈ ["cols", "columns"], qualified "orders" "cols" ≠ qualified "users" name := by decide
    refine le_library_declare (List.forall_mem_singleton.2 ?_)
    rw [withUsers, library_declare]
    refine Library.find?_addAll_of_not_mem fun fragment hfragment => hother fragment.1 ?_
    exact List.mem_map.2 ⟨fragment, hfragment, rfl⟩

theorem substitute_of_all {s : String} (h : s.toList.all (fun c => c != '$' && c != '\\') = true) :
    substitute [] s = s := substitute_of_unopened (unopened_of_all h) []

theorem build_columns {l : Library} {inner text : String} (hle : (withUsers inner).library.Le l)
    (hinner : inner.toList.all (fun c => c != '$' && c != '\\') = true)
    (htext : text.toList.all (fun c => c != '$' && c != '\\') = true) (hne : inner ≠ qualified "users" "columns")
    (hfind : l.fragments.find? inner = some [.text text]) :
    l.build [inclusion (users inner) "columns" []] = .ok (nested text) := by
  have hid : substitute [] (qualified "users" "columns") = qualified "users" "columns" :=
    substitute_of_all (by decide)
  refine build_nested hle.vars.symm hid (substitute_of_all hinner) (substitute_of_all htext) hne ?_ hfind
  exact hle.fragments _ _ (find?_users (.tail _ (.head _)))

theorem le_users (inner : String) : (withUsers inner).library.Le ((new .default).libraryOf (users inner)) :=
  le_libraryOf Loaded.new.hasFullIds (fault?_users inner)

theorem build_include_full_id_users :
    ((new .default).libraryOf (users (qualified "users" "cols"))).build
        [inclusion (users (qualified "users" "cols")) "columns" []] = .ok (nested "id, name") ∧
      ((withUsers (qualified "users" "cols")).libraryOf orders).build
        [inclusion (users (qualified "users" "cols")) "columns" []] = .ok (nested "id, name") := by
  have hfull : ∀ l : Library, (withUsers (qualified "users" "cols")).library.Le l →
      l.build [inclusion (users (qualified "users" "cols")) "columns" []] = .ok (nested "id, name") :=
    fun l hle => build_columns hle (by decide) (by decide) (by decide)
      (hle.fragments _ _ (find?_users (.head _)))
  have hbuild := hfull _ (le_users _)
  obtain ⟨hsame, -⟩ := build_include_full_id .new (fault?_users _) (addMapper_users _) "columns" [] hbuild
  exact ⟨hbuild, hsame (hfull _ (.refl _)) _ _ (isLater_orders _)⟩

/-- Where the fragment includes the other one by its bare id, a later document puts its own fragment of this id
into the place. -/
theorem include_bare_id_orders :
    Loaded .default (withUsers "cols") ∧ addMapper (users "cols") (new .default) = .ok 0 (withUsers "cols") ∧
      (users "cols").fault? = none ∧ orders.fault? = none ∧
      orders.namespaceId ≠ (users "cols").namespaceId ∧
      ((withUsers "cols").libraryOf orders).vars = ((new .default).libraryOf (users "cols")).vars ∧
      ((new .default).libraryOf (users "cols")).build [inclusion (users "cols") "columns" []] =
        .ok (nested "id, name") ∧
      ((withUsers "cols").libraryOf orders).build [inclusion (users "cols") "columns" []] =
        .ok (nested "order_no") ∧
      nested "id, name" ≠ nested "order_no" := by
  have hlater := isLater_orders "cols"
  have hown : ((new .default).libraryOf (users "cols")).fragments.find? "cols" = some [.text "id, name"] := by
    have hnodup : ((users "cols").fragments.map fun fragment => fragment.1).Nodup :=
      show ["cols", "columns"].Nodup by decide
    exact Library.find?_addAll_of_mem hnodup (.head _)
  have hother : ((withUsers "cols").libraryOf orders).fragments.find? "cols" = some [.text "order_no"] :=
    Table.find?_insert_self _ _ _
  refine ⟨hlater.loaded, addMapper_users _, fault?_users _, fault?_orders, by decide,
    hlater.le.vars.symm.trans (le_users _).vars,
    build_columns (le_users _) (by decide) (by decide) (by decide) hown,
    build_columns hlater.le (by decide) (by decide) (by decide) hother, fun h => ?_⟩
  exact absurd (nested_inj h) (by decide)

end Configuration

end DynamicSql
