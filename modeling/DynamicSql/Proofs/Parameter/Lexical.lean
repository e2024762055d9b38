import DynamicSql.Proofs.Parameter.Defaults
import DynamicSql.Proofs.Parameter.Lexeme
import DynamicSql.Proofs.Template.Lexical

/-!
# The values of lexical templates

A placeholder stands for a value where it is written: its root is looked up in the scopes of the loops
around it, then among the variables that every rendering begins with, then in the argument, and the rest
of the path is followed from there (`Occurrence.value?`). Values are looked up much later, in a text in
which the roots have been replaced by the variables of the iterations, yet what is bound are just these
values, in the order in which the placeholders are written (`Node.Lexical.bind_iff`).
-/

namespace DynamicSql

open Lexeme

/-- The frame in which names stand for what they stand for in these scopes, before any variable is bound
but those that every rendering begins with. -/
def Frame.inScopes (argument : Value) (databaseId : Option String) (scopes : List (Table String Value)) :
    Frame :=
  { Frame.start argument databaseId with scopes }

/-- The value of a placeholder where it is written, when a template is rendered for an argument. -/
def Occurrence.value? (o : Occurrence) (argument : Value) (databaseId : Option String) : Option Value :=
  match Path.parse (String.ofList o.body) with
  | .error _ => none
  | .ok path =>
    match (Frame.inScopes argument databaseId o.scopes).lookup path.root with
    | .error _ => none
    | .ok root => (root.follow path.raw path.keys.tail).toOption

/-! ### Reading the value of a placeholder -/

namespace Path

variable {s : Segment} {rest : List Segment}

/-- The lookup keys behind the root of a path. -/
def innerKeys (s : Segment) (rest : List Segment) : List String :=
  s.index.toList ++ rest.flatMap Segment.keys

theorem keys_eq (hs : s.IsPlain) (raw : String) :
    keys ⟨raw, s :: rest⟩ = s.name :: innerKeys s rest := by
  have hempty : s.name.isEmpty = false := by
    cases hname : s.name.isEmpty with
    | false => rfl
    | true =>
      obtain heq := String.isEmpty_iff.1 hname
      exact absurd (congrArg String.toList heq) hs.name.ne_nil
  rw [keys, List.flatMap_cons, Segment.keys, hempty, if_neg Bool.false_ne_true]
  rfl

theorem root_ne_empty (hs : s.IsPlain) (raw : String) : root ⟨raw, s :: rest⟩ ≠ "" :=
  fun h => hs.name.ne_nil (congrArg String.toList h)

end Path

theorem Value.readAt_eq_ok {s : Segment} {rest : List Segment} (hs : s.IsPlain) {raw : String}
    {entries : Table String Value} {v : Value} :
    (Value.map entries).readAt ⟨raw, s :: rest⟩ = .ok v ↔
      ((entries.find? s.name).getD .null).follow raw (Path.innerKeys s rest) = .ok v := by
  rw [readAt, Path.keys_eq hs, follow_map_cons]

theorem Occurrence.value?_eq_some {s : Segment} {rest : List Segment} (hs : s.IsPlain)
    (hrest : ∀ t ∈ rest, t.IsPlain) {scopes : List (Table String Value)} {argument root v : Value}
    {databaseId : Option String}
    (hroot : (Frame.inScopes argument databaseId scopes).lookup s.name = .ok root) :
    value? ⟨Path.written s rest, scopes⟩ argument databaseId = some v ↔
      root.follow (String.ofList (Path.written s rest)) (Path.innerKeys s rest) = .ok v := by
  have hroot' : (Frame.inScopes argument databaseId scopes).lookup
      (Path.root ⟨String.ofList (Path.written s rest), s :: rest⟩) = .ok root := hroot
  rw [value?, Path.parse_written hs hrest]
  dsimp only
  rw [hroot', Path.keys_eq hs, List.tail_cons]
  dsimp only
  cases root.follow (String.ofList (Path.written s rest)) (Path.innerKeys s rest) with
  | error e => exact ⟨nofun, nofun⟩
  | ok w => exact ⟨fun h => congrArg _ (Option.some.inj h), fun h => congrArg _ (Except.ok.inj h)⟩

/-! ### What placeholders are bound to -/

namespace Frame

variable {f : Frame} {name : String} {v : Value}

theorem lookup_scoped (h : scopedValue? f.scopes name = some v) : f.lookup name = .ok v := by
  rw [scopedValue?] at h
  rw [lookup, h]

theorem lookup_binding (hscopes : scopedValue? f.scopes name = none) (h : f.bindings.find? name = some v) :
    f.lookup name = .ok v := by
  rw [scopedValue?] at hscopes
  rw [lookup, hscopes, h]

theorem lookup_entry (hscopes : scopedValue? f.scopes name = none) (h : f.bindings.find? name = none)
    {entries : Table String Value} (hargument : f.argument = .map entries) :
    f.lookup name = .ok ((entries.find? name).getD .null) := by
  rw [scopedValue?] at hscopes
  rw [lookup, hscopes, h, hargument]
  rfl

end Frame

/-- A placeholder is bound to the value of the occurrence that it denotes. -/
theorem Frame.Denotes.valueOf_iff {f : Frame} {body : List Char} {o : Occurrence} (hd : f.Denotes body o)
    {entries : Table String Value} {databaseId : Option String}
    (hgrows : (Frame.start (.map entries) databaseId).Grows f) {b : BoundStatement}
    (hb : b.bindings = f.bindings) (t : DataType) (v : Value) :
    Binder.valueOf .defaults b (.map entries) (.ofType (String.ofList body) t) = .ok v ↔
      o.value? (.map entries) databaseId = some v := by
  have hmap : Registry.defaults.isDirect .map = false := by
    rw [Registry.isDirect_defaults]
    decide
  cases hd with
  | @free s rest scopes hs hrest hname hscopes =>
    -- No loop around the occurrence has the root, so that it is a name of the start or of the argument.
    have hpath : Path.parse (Parameter.ofType (String.ofList (Path.written s rest)) t).property = _ :=
      Path.parse_written hs hrest
    have hnone : scopedValue? scopes s.name = none := by
      rw [hscopes, hgrows.scopes]
      rfl
    have hstart : b.bindings.find? s.name =
        (Frame.start (.map entries) databaseId).bindings.find? s.name := by
      rw [hb]
      exact hgrows.bindings _ fun base number _ => Loop.bindingName_ne_of_free hname number
    cases hfound : (Frame.start (.map entries) databaseId).bindings.find? s.name with
    | some u =>
      rw [hfound] at hstart
      rw [Binder.valueOf_bound hpath hstart, Value.readAt_eq_ok hs, hstart, Option.getD_some]
      have hroot := lookup_binding (f := inScopes _ _ scopes) hnone hfound
      exact (Occurrence.value?_eq_some hs hrest hroot).symm
    | none =>
      rw [hfound] at hstart
      rw [Binder.valueOf_unbound hmap hpath hstart, Value.readAt_eq_ok hs]
      have hroot := lookup_entry (f := inScopes _ _ scopes) hnone hfound rfl
      exact (Occurrence.value?_eq_some hs hrest hroot).symm
  | @bound s rest scopes number u hs hrest hnumber hvariable hscopes =>
    -- The path behind the root is the same, but not its text, which errors would tell.
    have hplain := Loop.isPlain_renamed hs number
    have hpath : Path.parse
        (Parameter.ofType (String.ofList (Path.written (Loop.renamed number s) rest)) t).property = _ :=
      Path.parse_written hplain hrest
    have hfound : b.bindings.find? (Loop.renamed number s).name = some u := by
      rw [hb]
      exact hvariable
    rw [Binder.valueOf_bound hpath hfound, Value.readAt_eq_ok hplain, hfound, Option.getD_some,
      Occurrence.value?_eq_some hs hrest (lookup_scoped (f := inScopes _ _ scopes) hscopes)]
    exact Value.follow_eq_ok_congr _ _

namespace Node.Lexical

variable {n : Node} {entries : Table String Value} {databaseId : Option String} {rendered : Rendered}

theorem of_renderFor (hn : n.Lexical) {argument : Value}
    (hrender : n.renderFor argument databaseId = .ok rendered) :
    ∃ f ls, rendered = ⟨String.ofList (textOf ls), f.bindings⟩ ∧ (∀ l ∈ ls, l.IsPlain) ∧
      (Frame.start argument databaseId).Grows f ∧
      List.Forall₂ f.Denotes (bodies ls) (n.occurrences (.start argument databaseId)) := by
  obtain ⟨b, f, hresult, rfl⟩ := renderFor_eq_ok.1 hrender
  obtain ⟨hgrows, t, bs, htext, ⟨ls, hls, hchars, rfl⟩, hdenotes⟩ := hn.writes hresult
  have htext : f.text = String.ofList (textOf ls) := by
    rw [htext, hchars, String.ofList_toList]
    exact String.empty_append
  exact ⟨f, ls, by rw [htext], hls, hgrows, hdenotes⟩

theorem exists_resolve (hn : n.Lexical) {argument : Value}
    (hrender : n.renderFor argument databaseId = .ok rendered) (r : Resolver) :
    ∃ b, r.resolve rendered.sql = .ok b := by
  obtain ⟨f, ls, rfl, hls, -⟩ := hn.of_renderFor hrender
  exact ⟨_, r.resolve_textOf hls⟩

/-- Placeholders are bound just if all occurrences have values, and then to these values. -/
theorem bind_iff (hn : n.Lexical) (hrender : n.renderFor (.map entries) databaseId = .ok rendered)
    {aliases : Aliases} {argumentType : DataType} (htype : argumentType = .map ∨ argumentType = .any)
    {b : BoundStatement}
    (hresolve : Resolver.resolve ⟨.defaults, aliases, argumentType, rendered.bindings⟩ rendered.sql = .ok b)
    {binder : Binder} (hsound : binder.Sound) (hregistry : binder.registry = .defaults)
    (values : List Value) :
    (∃ s, Binder.bind (b.withBindings rendered.bindings) (.map entries) ⟨binder, .empty⟩ = .ok () s ∧
        s.store.values = values) ↔
      (n.occurrences (.start (.map entries) databaseId)).map (·.value? (.map entries) databaseId) =
        values.map some := by
  obtain ⟨f, ls, rfl, hls, hgrows, hdenotes⟩ := hn.of_renderFor hrender
  rw [Resolver.resolve_textOf _ hls] at hresolve
  obtain rfl := Except.ok.inj hresolve
  obtain ⟨registry, nullType, chosen⟩ := binder
  obtain rfl : registry = .defaults := hregistry
  have hdirect : Registry.defaults.isDirect argumentType = false := by
    rw [Registry.isDirect_defaults]
    rcases htype with rfl | rfl <;> decide
  have hparameters := parametersOf_map_part ⟨.defaults, aliases, argumentType, f.bindings⟩ ls
  have hvalid : (BoundStatement.withBindings (.ofParts (ls.map
      (Lexeme.part ⟨.defaults, aliases, argumentType, f.bindings⟩))) f.bindings).validate = .ok () :=
    BoundStatement.validate_ofParts _
  refine (Binder.bind_kept_iff hvalid hsound ?_ values).trans ?_
  · -- What is inferred of a path is the type of the variable it reads, or nothing.
    intro p hp
    rw [BoundStatement.withBindings, BoundStatement.ofParts] at hp
    dsimp only at hp
    rw [hparameters] at hp
    obtain ⟨body, hbody, rfl⟩ := List.mem_map.1 hp
    obtain ⟨s, rest, hs, hrest, rfl⟩ := exists_of_mem_bodies hls hbody
    exact Binder.bare_of_inferType (r := ⟨.defaults, aliases, argumentType, f.bindings⟩) hdirect htype rfl
      (Path.parse_written hs hrest) (Path.root_ne_empty hs _)
  · rw [BoundStatement.withBindings, BoundStatement.ofParts]
    dsimp only
    rw [hparameters, List.forall₂_map_left_iff]
    exact Step.forall₂_iff_map_eq hdenotes fun body o hd v => hd.valueOf_iff hgrows rfl _ v

/-- The values that are bound for a rendered lexical template are, in the order of their ordinals, the
values that its placeholders have where they are written. -/
theorem bound_values_eq (hn : n.Lexical)
    (hrender : n.renderFor (.map entries) databaseId = .ok rendered)
    {aliases : Aliases} {argumentType : DataType} (htype : argumentType = .map ∨ argumentType = .any)
    {b : BoundStatement}
    (hresolve : Resolver.resolve ⟨.defaults, aliases, argumentType, rendered.bindings⟩ rendered.sql = .ok b)
    {nullType : SqlType} {binder : Binder} (hbinder : (Binder.new .defaults nullType).Extends binder)
    {s : Binding}
    (hbind : Binder.bind (b.withBindings rendered.bindings) (.map entries) ⟨binder, .empty⟩ = .ok () s) :
    (n.occurrences (.start (.map entries) databaseId)).map (·.value? (.map entries) databaseId) =
      s.store.values.map some := by
  have hsound := hbinder.sound (Binder.sound_new _ _)
  exact (hn.bind_iff hrender htype hresolve hsound hbinder.registry s.store.values).1 ⟨s, hbind, rfl⟩

end Node.Lexical

/-! ### A name that is used twice -/

namespace Node

/-- The path that is just the name `id`. -/
def idSegment : Segment := ⟨"id", none⟩

/-- A query for an id or one of several ids, each of which goes by the same name in the loop. -/
def byIdOrIds : Node :=
  composite [
    text "select * from users where id = #\x7bid\x7d",
    loop ⟨⟨"ids", .name "ids"⟩, some "id", none, " or id in (", ")", ", "⟩ (text "#\x7bid\x7d")]

/-- An id and several ids. -/
def idAndIds : Table String Value := [("id", .int 9), ("ids", .list [.int 7])]

theorem isPlain_idSegment : idSegment.IsPlain :=
  Segment.isPlain_of_name ⟨by decide, List.all_eq_true.1 (by decide)⟩

theorem isFree_endingInId {b : List Char} (hplain : b.all isPlain = true) :
    ∀ l ∈ endingIn b idSegment [], l.IsFree :=
  forall_mem_endingIn (fun _ hc => .char hc) (.path isPlain_idSegment (by decide) nofun) hplain

theorem lexical_byIdOrIds : byIdOrIds.Lexical := by
  have hquery : (text "select * from users where id = #\x7bid\x7d").Lexical :=
    .text (isFree_endingInId (b := "select * from users where id = ".toList) (by decide)) (by decide)
  have hbody : (text "#\x7bid\x7d").Lexical := .text (isFree_endingInId (b := []) rfl) (by decide)
  have hspec : Loop.IsLexical ⟨⟨"ids", .name "ids"⟩, some "id", none, " or id in (", ")", ", "⟩ := by
    refine ⟨?_, List.all_eq_true.1 (by decide), List.all_eq_true.1 (by decide),
      List.all_eq_true.1 (by decide)⟩
    intro name hname
    obtain rfl := List.mem_singleton.1 hname
    exact ⟨isPlain_idSegment.name, by decide⟩
  exact .composite (List.forall_mem_cons.2 ⟨hquery, List.forall_mem_singleton.2 (.loop hspec hbody)⟩)

theorem placeholdersIn_endingInId {b : List Char} (hplain : b.all isPlain = true) {s : String}
    (hs : s.toList = textOf (endingIn b idSegment [])) :
    placeholdersIn s = [Path.written idSegment []] := by
  rw [placeholdersIn_textOf (fun l hl => (isFree_endingInId hplain l hl).isPlain.readable) hs,
    bodies_endingIn]

theorem occurrences_byIdOrIds :
    byIdOrIds.occurrences (.start (.map idAndIds) none) =
      [⟨Path.written idSegment [], []⟩, ⟨Path.written idSegment [], [[("id", .int 7)]]⟩] := by
  have htrace : byIdOrIds.trace (.start (.map idAndIds) none) =
      [.text "select * from users where id = #\x7bid\x7d" [], .items [(.int 0, .int 7)],
        .text "#\x7bid\x7d" [[("id", .int 7)]]] := by rfl
  have hquery := placeholdersIn_endingInId (b := "select * from users where id = ".toList)
    (s := "select * from users where id = #\x7bid\x7d") (by decide) (by decide)
  have hbody := placeholdersIn_endingInId (b := []) (s := "#\x7bid\x7d") rfl (by decide)
  rw [occurrences, htrace]
  simp only [List.flatMap_cons, List.flatMap_nil, Event.occurrences, hquery, hbody]
  rfl

theorem values_byIdOrIds :
    (byIdOrIds.occurrences (.start (.map idAndIds) none)).map (·.value? (.map idAndIds) none) =
      [Value.int 9, Value.int 7].map some := by
  have hnil : ∀ t ∈ ([] : List Segment), t.IsPlain := nofun
  have hid : Occurrence.value? ⟨Path.written idSegment [], []⟩ (.map idAndIds) none = some (.int 9) :=
    (Occurrence.value?_eq_some isPlain_idSegment hnil rfl).2 (Value.follow_nil _ _)
  have hitem : Occurrence.value? ⟨Path.written idSegment [], [[("id", .int 7)]]⟩ (.map idAndIds) none =
      some (.int 7) :=
    (Occurrence.value?_eq_some isPlain_idSegment hnil rfl).2 (Value.follow_nil _ _)
  rw [occurrences_byIdOrIds, List.map_cons, List.map_cons, hid, hitem]
  rfl

/-- The argument says what the name stands for outside of the loop, and the item what it stands for
inside. -/
theorem bound_values_byIdOrIds :
    ∃ rendered b s, byIdOrIds.renderFor (.map idAndIds) none = .ok rendered ∧
      Resolver.resolve ⟨.defaults, .empty, .map, rendered.bindings⟩ rendered.sql = .ok b ∧
      Binder.bind (b.withBindings rendered.bindings) (.map idAndIds) ⟨.new .defaults .other, .empty⟩ =
        .ok () s ∧
      (byIdOrIds.occurrences (.start (.map idAndIds) none)).map (·.value? (.map idAndIds) none) =
        s.store.values.map some ∧
      s.store.values = [.int 9, .int 7] := by
  have hn := lexical_byIdOrIds
  obtain ⟨rendered, hrender⟩ : ∃ o, byIdOrIds.renderFor (.map idAndIds) none = .ok o := ⟨_, rfl⟩
  obtain ⟨b, hresolve⟩ := hn.exists_resolve hrender ⟨.defaults, .empty, .map, rendered.bindings⟩
  obtain ⟨s, hbind, hvalues⟩ := (hn.bind_iff hrender (.inl rfl) hresolve (Binder.sound_new _ .other) rfl
    [.int 9, .int 7]).2 values_byIdOrIds
  exact ⟨rendered, b, s, hrender, hresolve, hbind,
    hn.bound_values_eq hrender (.inl rfl) hresolve (.refl _) hbind, hvalues⟩

end Node

end DynamicSql
