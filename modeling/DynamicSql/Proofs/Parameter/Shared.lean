import DynamicSql.Proofs.Parameter.Agreement
import DynamicSql.Proofs.Parameter.Lexeme
import DynamicSql.Proofs.Template.Visits

/-!
# Variables shared by iterations

The items of a loop have variables of their own in each iteration, and the variables that a template binds do
not: all placeholders that begin with such a variable, from whichever iterations they come, are read from the
value that it was bound to last (`Node.valueOf_eq_lastBound`).
-/

namespace DynamicSql

open Step

theorem Resolver.property_of_parameter {r : Resolver} {body : String} {p : Parameter}
    {placeholder : Placeholder} (h : r.parameter body = .ok p)
    (hparse : Placeholder.parse body = .ok placeholder) : p.property = placeholder.property := by
  obtain ⟨placeholder', hparse', hproperty⟩ := exists_property_of_parameter h
  obtain rfl := Except.ok.inj (hparse.symm.trans hparse')
  exact hproperty

theorem Binder.valueOf_of_variable {registry : Registry} {b : BoundStatement} {argument : Value}
    {p : Parameter} {path : Path} {v : Value} (hpath : Path.parse p.property = .ok path)
    (hroot : path.root ≠ "") (hv : b.bindings.find? path.root = some v) :
    ∃ rest, path.keys = path.root :: rest ∧
      valueOf registry b argument p = (Value.follow path.raw v rest).mapError (.property p.property) := by
  obtain ⟨key, rest, hkeys⟩ := Path.exists_keys_of_parse hpath
  have hkey : path.root = key := (Path.root_eq_key hkeys).resolve_left hroot
  have hbinding : b.hasBinding path.root = true := by
    rw [BoundStatement.hasBinding, Table.contains, hv]
    rfl
  refine ⟨rest, by rw [hkeys, hkey], ?_⟩
  rw [valueOf_of_parse hpath, hbinding, if_pos rfl, Value.readAt, hkeys, Value.follow_map_cons, ← hkey, hv]
  rfl

namespace Node

variable {n : Node} {argument : Value} {databaseId : Option String} {o : Rendered} {name : String}

/-- After a rendering in which some visit bound the name, it stands for what it was bound to last. -/
theorem find?_bindings_of_renderFor (hname : IsShared name) (hrender : n.renderFor argument databaseId = .ok o)
    {w : Visit} (hw : w ∈ n.visits (.start argument databaseId)) {v₀ : Value} (hv₀ : w.bound? name = some v₀) :
    ∃ v, lastBound? name (n.visits (.start argument databaseId)) = some v ∧ o.bindings.find? name = some v := by
  obtain ⟨b, g, hg, rfl⟩ := renderFor_eq_ok.1 hrender
  obtain ⟨v, hv⟩ := exists_lastBound? hw hv₀
  have hsettles := settles_render hname n hg
  rw [Settles, hv] at hsettles
  exact ⟨v, hv, hsettles⟩

/-- A name that a template binds while it is rendered, in one iteration of a loop or in many, has one value
for all of them: each placeholder of the rendered text that begins with the name is read from the value that
it was bound to last. -/
theorem valueOf_eq_lastBound (hname : IsShared name) (hne : name ≠ "")
    (hrender : n.renderFor argument databaseId = .ok o) {r : Resolver} {b : BoundStatement}
    (hresolve : r.resolve o.sql = .ok b) {w : Visit} (hw : w ∈ n.visits (.start argument databaseId))
    {v₀ : Value} (hv₀ : w.bound? name = some v₀) :
    ∃ v, lastBound? name (n.visits (.start argument databaseId)) = some v ∧
      List.Forall₂ (fun body p => ∀ placeholder path registry,
        Placeholder.parse (String.ofList body) = .ok placeholder →
        Path.parse placeholder.property = .ok path → path.root = name →
        ∃ rest, path.keys = name :: rest ∧
          Binder.valueOf registry (b.withBindings o.bindings) (Binder.navigable argument) p =
            (Value.follow path.raw v rest).mapError (.property placeholder.property))
        (placeholdersIn o.sql) b.parameters := by
  obtain ⟨v, hlast, hfind⟩ := find?_bindings_of_renderFor hname hrender hw hv₀
  refine ⟨v, hlast, (Resolver.forall₂_placeholdersIn hresolve).imp ?_⟩
  rintro body p hp placeholder path registry hparse hpath rfl
  have hproperty := Resolver.property_of_parameter hp hparse
  rw [← hproperty] at hpath ⊢
  exact Binder.valueOf_of_variable hpath hne hfind

/-! ### Two iterations -/

/-- What an iteration writes: a placeholder for the variable. -/
def placeholderForP : String := "#\x7bp\x7d"

/-- The body of a loop that binds the item to a variable and writes a placeholder for it. -/
def copiedItem : Node := composite [bind "p" ⟨"x", .name "x"⟩, text placeholderForP]

/-- The loop around it. -/
def overItems : Loop := ⟨⟨"xs", .name "xs"⟩, some "x", none, "", "", ","⟩

def oneAndTwo : Table String Value := [("xs", .list [.int 1, .int 2])]

theorem render_copiedItem {f : Frame} {v : Value} (hv : f.lookup "x" = .ok v) :
    copiedItem.render f = .ok true ((f.bind "p" v).append placeholderForP) := by
  have hbind : (bind "p" ⟨"x", .name "x"⟩).render f = .ok true (f.bind "p" v) := render_bind hv
  have htext := render_text placeholderForP (f.bind "p" v)
  refine render_composite ?_
  rw [renderAll_cons hbind, renderAll_cons htext, renderAll_nil]

theorem visits_copiedItem {f : Frame} {v : Value} (hv : f.lookup "x" = .ok v) :
    copiedItem.visits f =
      [⟨copiedItem, f⟩, ⟨bind "p" ⟨"x", .name "x"⟩, f⟩, ⟨text placeholderForP, f.bind "p" v⟩] := by
  have hbind : (bind "p" ⟨"x", .name "x"⟩).render f = .ok true (f.bind "p" v) := render_bind hv
  have htext := render_text placeholderForP (f.bind "p" v)
  rw [copiedItem, visits, visitsAll, hbind]
  dsimp only
  rw [visitsAll, htext]
  dsimp only
  rw [visitsAll, visits, visits]
  rfl

theorem toList_placeholderForP :
    placeholderForP.toList = Lexeme.textOf [.placeholder (Path.written ⟨"p", none⟩ [])] := by decide

theorem isPlain_p : Segment.IsPlain ⟨"p", none⟩ :=
  Segment.isPlain_of_name ⟨by decide, List.all_eq_true.1 (by decide)⟩

theorem isPlain_placeholderForP : Lexeme.IsPlain (.placeholder (Path.written ⟨"p", none⟩ [])) :=
  .path isPlain_p (List.forall_mem_nil _)

theorem withText_placeholderForP (number : Nat) (others : List String) :
    overItems.withText number placeholderForP others = placeholderForP :: others := by
  have haliases : ∀ name ∈ overItems.aliases, IsName name := by
    intro name hname
    obtain rfl := List.mem_singleton.1 hname
    exact ⟨by decide, List.all_eq_true.1 (by decide)⟩
  have hparts : [Lexeme.placeholder (Path.written ⟨"p", none⟩ [])].map
      (Lexeme.retargeted overItems.aliases number) = [.placeholder (Path.written ⟨"p", none⟩ [])] := by
    rw [List.map_singleton, Lexeme.retargeted, Loop.retarget_written haliases isPlain_p (List.forall_mem_nil _),
      if_neg (by decide)]
  rw [Loop.withText, if_neg (by decide), toList_placeholderForP, Loop.itemize_textOf haliases
    (List.forall_mem_singleton.2 isPlain_placeholderForP), hparts, ← toList_placeholderForP,
    String.ofList_toList]

/-- The frames in which the iterations begin, and those that they lead to. -/
def firstItem : Frame := overItems.enter (.int 0) (.int 1) (.start (.map oneAndTwo) none)

def betweenItems : Frame :=
  Loop.leave (.start (.map oneAndTwo) none) ((firstItem.bind "p" (.int 1)).append placeholderForP)

def secondItem : Frame := overItems.enter (.int 1) (.int 2) betweenItems

def afterItems : Frame := Loop.leave betweenItems ((secondItem.bind "p" (.int 2)).append placeholderForP)

theorem lookup_firstItem : firstItem.lookup "x" = .ok (.int 1) := rfl

theorem lookup_secondItem : secondItem.lookup "x" = .ok (.int 2) := rfl

theorem evalItems_overItems : overItems.collection.evalItems (Frame.start (.map oneAndTwo) none).lookup =
    .ok [(.int 0, .int 1), (.int 1, .int 2)] := rfl

theorem bodies_overItems :
    overItems.bodies copiedItem.render [(.int 0, .int 1), (.int 1, .int 2)] (.start (.map oneAndTwo) none) =
      .ok [placeholderForP, placeholderForP] afterItems := by
  have hsecond : overItems.bodies copiedItem.render [(.int 1, .int 2)] betweenItems =
      .ok [placeholderForP] afterItems := by
    rw [Loop.bodies_of_ok (render_copiedItem lookup_secondItem)]
    exact map_eq_ok.2 ⟨[], rfl, (withText_placeholderForP _ []).symm⟩
  rw [Loop.bodies_of_ok (render_copiedItem lookup_firstItem)]
  exact map_eq_ok.2 ⟨[placeholderForP], hsecond, (withText_placeholderForP _ [placeholderForP]).symm⟩

theorem renderFor_copiedItems :
    (loop overItems copiedItem).renderFor (.map oneAndTwo) none =
      .ok ⟨"#\x7bp\x7d,#\x7bp\x7d", afterItems.bindings⟩ := by
  refine renderFor_eq_ok.2 ⟨true, _, render_loop evalItems_overItems bodies_overItems, ?_⟩
  rfl

theorem visits_copiedItems :
    (loop overItems copiedItem).visits (.start (.map oneAndTwo) none) =
      [⟨loop overItems copiedItem, .start (.map oneAndTwo) none⟩,
        ⟨copiedItem, firstItem⟩, ⟨bind "p" ⟨"x", .name "x"⟩, firstItem⟩,
        ⟨text placeholderForP, firstItem.bind "p" (.int 1)⟩,
        ⟨copiedItem, secondItem⟩, ⟨bind "p" ⟨"x", .name "x"⟩, secondItem⟩,
        ⟨text placeholderForP, secondItem.bind "p" (.int 2)⟩] := by
  have hsecond : overItems.visits copiedItem.render copiedItem.visits [(.int 1, .int 2)] betweenItems =
      copiedItem.visits secondItem ++ [] :=
    Loop.visits_cons (render_copiedItem lookup_secondItem)
  rw [visits, evalItems_overItems]
  dsimp only
  rw [Loop.visits_cons (render_copiedItem lookup_firstItem)]
  refine congrArg _ ?_
  refine (congrArg (copiedItem.visits firstItem ++ ·) hsecond).trans ?_
  rw [visits_copiedItem lookup_firstItem, visits_copiedItem lookup_secondItem]
  rfl

/-- How the rendered text is resolved. -/
def copiedResolver : Resolver := ⟨.defaults, .empty, .map, afterItems.bindings⟩

theorem parse_p : Path.parse "p" = .ok ⟨"p", [⟨"p", none⟩]⟩ := rfl

theorem find?_afterItems : afterItems.bindings.find? "p" = some (.int 2) := rfl

theorem exists_resolve_copiedItems :
    ∃ b, copiedResolver.resolve "#\x7bp\x7d,#\x7bp\x7d" = .ok b ∧
      b.parameters = [.ofType "p" .int, .ofType "p" .int] := by
  let ls : List Lexeme :=
    [.placeholder (Path.written ⟨"p", none⟩ []), .char ',', .placeholder (Path.written ⟨"p", none⟩ [])]
  have hls : ∀ l ∈ ls, l.IsPlain :=
    List.forall_mem_cons.2 ⟨isPlain_placeholderForP, List.forall_mem_cons.2 ⟨.char (by decide),
      List.forall_mem_singleton.2 isPlain_placeholderForP⟩⟩
  have htext : "#\x7bp\x7d,#\x7bp\x7d" = String.ofList (Lexeme.textOf ls) := by decide
  have hproperty : String.ofList (Path.written ⟨"p", none⟩ []) = "p" := by decide
  have htype : copiedResolver.inferType "p" none = .int := by
    rw [Resolver.inferType, parse_p]
    rfl
  refine ⟨_, by rw [htext]; exact copiedResolver.resolve_textOf hls, ?_⟩
  refine (Lexeme.parametersOf_map_part copiedResolver ls).trans ?_
  show [Parameter.ofType _ _, Parameter.ofType _ _] = _
  rw [hproperty, htype]

/-- The iterations bind the variable to their items, and the placeholders of both get the second one. -/
theorem values_copiedItems :
    ∃ o b s, (loop overItems copiedItem).renderFor (.map oneAndTwo) none = .ok o ∧
      Resolver.resolve ⟨.defaults, .empty, .map, o.bindings⟩ o.sql = .ok b ∧
      Binder.bind (b.withBindings o.bindings) (.map oneAndTwo) ⟨.new .defaults .other, .empty⟩ = .ok () s ∧
      ((loop overItems copiedItem).visits (.start (.map oneAndTwo) none)).filterMap (Visit.bound? "p") =
        [.int 1, .int 2] ∧
      s.store.values = [.int 2, .int 2] := by
  obtain ⟨b, hresolve, hparameters⟩ := exists_resolve_copiedItems
  have hvalid : (b.withBindings afterItems.bindings).validate = .ok () := by
    have hvalid := Resolver.validate_of_resolve hresolve
    exact hvalid
  have hvalue : Binder.valueOf .defaults (b.withBindings afterItems.bindings)
      (Binder.navigable (.map oneAndTwo)) (.ofType "p" .int) = .ok (.int 2) :=
    (Binder.valueOf_bound parse_p find?_afterItems).2 rfl
  have hkept : ∀ p ∈ (b.withBindings afterItems.bindings).parameters, Binder.Bare p ∧
      ∀ v, Binder.valueOf .defaults (b.withBindings afterItems.bindings)
        (Binder.navigable (.map oneAndTwo)) p = .ok v → Binder.Keeps .defaults p v := by
    intro p hp
    have hp' : p ∈ [Parameter.ofType "p" .int, .ofType "p" .int] := hparameters ▸ hp
    obtain rfl : p = .ofType "p" .int := by simpa using hp'
    refine ⟨rfl, fun v hv => ?_⟩
    obtain rfl := Except.ok.inj (hvalue.symm.trans hv)
    exact Binder.keeps_defaults (.inr rfl)
  have hvalues : List.Forall₂ (fun p v => Binder.valueOf .defaults (b.withBindings afterItems.bindings)
        (Binder.navigable (.map oneAndTwo)) p = .ok v)
      (b.withBindings afterItems.bindings).parameters [.int 2, .int 2] := by
    show List.Forall₂ _ b.parameters _
    rw [hparameters]
    exact .cons hvalue (.cons hvalue .nil)
  obtain ⟨s, hs, hstore⟩ : ∃ s, Binder.bind (b.withBindings afterItems.bindings) (.map oneAndTwo)
      ⟨.new .defaults .other, .empty⟩ = .ok () s ∧ s.store.values = [.int 2, .int 2] :=
    (Binder.bind_kept_iff hvalid (Binder.sound_new .defaults .other) hkept _).2 hvalues
  refine ⟨_, b, s, renderFor_copiedItems, hresolve, hs, ?_, hstore⟩
  rw [visits_copiedItems]
  rfl

/-- The visit that binds the variable in the first iteration settles nothing: both placeholders are read from
the second item. -/
theorem valueOf_eq_lastBound_copiedItems :
    ∃ o b w, IsShared "p" ∧ "p" ≠ "" ∧ (loop overItems copiedItem).renderFor (.map oneAndTwo) none = .ok o ∧
      copiedResolver.resolve o.sql = .ok b ∧
      w ∈ (loop overItems copiedItem).visits (.start (.map oneAndTwo) none) ∧
      w.bound? "p" = some (.int 1) ∧
      ∃ v, lastBound? "p" ((loop overItems copiedItem).visits (.start (.map oneAndTwo) none)) = some v ∧
        List.Forall₂ (fun body p => ∀ placeholder path registry,
          Placeholder.parse (String.ofList body) = .ok placeholder →
          Path.parse placeholder.property = .ok path → path.root = "p" →
          ∃ rest, path.keys = "p" :: rest ∧
            Binder.valueOf registry (b.withBindings o.bindings) (Binder.navigable (.map oneAndTwo)) p =
              (Value.follow path.raw v rest).mapError (.property placeholder.property))
          (placeholdersIn o.sql) b.parameters := by
  obtain ⟨b, hresolve, -⟩ := exists_resolve_copiedItems
  have hshared : IsShared "p" := fun base number => Loop.bindingName_ne_of_free (by decide) number
  have hmem : ⟨bind "p" ⟨"x", .name "x"⟩, firstItem⟩ ∈
      (loop overItems copiedItem).visits (.start (.map oneAndTwo) none) := by
    rw [visits_copiedItems]
    exact .tail _ (.tail _ (.head _))
  exact ⟨_, b, _, hshared, by decide, renderFor_copiedItems, hresolve, hmem, rfl,
    valueOf_eq_lastBound hshared (by decide) renderFor_copiedItems hresolve hmem rfl⟩

end Node

end DynamicSql
