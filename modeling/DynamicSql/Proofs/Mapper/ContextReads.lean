import DynamicSql.Proofs.Mapper.FastPath
import DynamicSql.Proofs.Parameter.Lexeme

/-!
# Statements that read the context

A statement that is made once holds no variables, so that `_parameter` and `_databaseId` are properties
of the argument to it, which a map need not have and then reads as null. Made anew, the same statement
reads the argument and the database id. The two ways agree for every argument just where no parameter
begins with one of these names (`written_eq_iff`).
-/

namespace DynamicSql

open Step

/-! ### Maps that hold one path -/

/-- The entries of a map in which one path leads to a map without entries. -/
def nest : List String → List (String × Value)
  | [] => []
  | key :: keys => [(key, .map (nest keys))]

namespace Value

/-- Whether a value is null or a map that holds one path. -/
def Hollow (v : Value) : Prop := v = .null ∨ ∃ keys, v = .map (nest keys)

theorem hollow_find?_nest (keys : List String) (key : String) :
    Hollow ((Table.find? (nest keys) key).getD .null) := by
  cases keys with
  | nil => exact .inl rfl
  | cons k keys =>
    rw [nest, Table.find?]
    split
    · exact .inr ⟨keys, rfl⟩
    · exact .inl rfl

theorem Hollow.follow {v : Value} (h : v.Hollow) (path : String) (keys : List String) :
    ∃ w, follow path v keys = .ok w ∧ w.Hollow := by
  induction keys generalizing v with
  | nil => exact ⟨v, follow_nil path v, h⟩
  | cons key keys ih =>
    rcases h with rfl | ⟨ks, rfl⟩
    · exact ⟨.null, follow_null _ _, .inl rfl⟩
    · rw [follow_map_cons]
      exact ih (hollow_find?_nest ks key)

theorem follow_nest (path : String) (keys : List String) :
    follow path (.map (nest keys)) keys = .ok (.map []) := by
  induction keys with
  | nil => rfl
  | cons key keys ih =>
    rw [nest, follow_map_cons, Table.find?, if_pos rfl]
    exact ih

theorem follow_nest_of_lt (path : String) {keys longer : List String} (h : keys.length < longer.length) :
    follow path (.map (nest keys)) longer = .ok .null := by
  induction keys generalizing longer with
  | nil =>
    cases longer with
    | nil => cases h
    | cons key longer => exact follow_null _ _
  | cons k keys ih =>
    cases longer with
    | nil => cases h
    | cons key longer =>
      rw [nest, follow_map_cons, Table.find?]
      split
      · exact ih (Nat.lt_of_succ_lt_succ h)
      · exact follow_null _ _

theorem Hollow.dataType {v : Value} (h : v.Hollow) : v.dataType = .any ∨ v.dataType = .map := by
  rcases h with rfl | ⟨keys, rfl⟩
  · exact .inl rfl
  · exact .inr rfl

end Value

namespace BoundStatement

/-- What binding a statement writes into a statement without parameters, or none if it fails. -/
def written (b : BoundStatement) (argument : Value) (nullType : SqlType) :
    Option (List (Nat × Value)) :=
  match Binder.bind b argument ⟨.new .defaults nullType, .empty⟩ with
  | .ok _ s => some (s.store.inputs.map fun (ordinal, i) => (ordinal, i.value))
  | .error .. => none

variable {b : BoundStatement} {entries : List (String × Value)} {nullType : SqlType}

/-- Parameters that keep what they read are written just if all of them have values, and then with these
values, in order. -/
theorem written_iff (hvalid : b.validate = .ok ())
    (hparams : ∀ p ∈ b.parameters, Binder.Bare p ∧
      ∀ v, Binder.valueOf .defaults b (.map entries) p = .ok v → Binder.Keeps .defaults p v)
    (values : List Value) :
    (∃ w, b.written (.map entries) nullType = some w ∧ w.map Prod.snd = values) ↔
      List.Forall₂ (fun p v => Binder.valueOf .defaults b (.map entries) p = .ok v) b.parameters
        values := by
  have hsound : (Binder.new .defaults nullType).Sound := Binder.sound_new _ _
  have hbind : (∃ s, Binder.bind b (.map entries) ⟨.new .defaults nullType, .empty⟩ = .ok () s ∧
      s.store.values = values) ↔ List.Forall₂
        (fun p v => Binder.valueOf .defaults b (.map entries) p = .ok v) b.parameters values := by
    refine Binder.bind_kept_iff hvalid hsound ?_ values
    exact hparams
  refine Iff.trans ?_ hbind
  rw [written]
  constructor
  · rintro ⟨w, hw, rfl⟩
    split at hw
    · next s hs =>
      obtain rfl := Option.some.inj hw
      refine ⟨s, hs, ?_⟩
      rw [List.map_map]
      rfl
    · cases hw
  · rintro ⟨s, hs, rfl⟩
    refine ⟨s.store.inputs.map fun (ordinal, i) => (ordinal, i.value), by rw [hs], ?_⟩
    rw [List.map_map]
    rfl

end BoundStatement

/-! ### Parameters of which only the property is known -/

/-- A parameter of which nothing is known but its property, which begins with a name. -/
def Parameter.Plain (p : Parameter) : Prop :=
  p = .ofType p.property .any ∧ ∃ path, Path.parse p.property = .ok path ∧ path.root ≠ ""

namespace MappedStatement

variable {s : MappedStatement} {n : Node} {aliases : Aliases} {b₁ b₂ : BoundStatement}
  {entries : List (String × Value)} {databaseId : Option String}

theorem not_isDirect_map : Registry.defaults.isDirect .map = false := by
  rw [Registry.isDirect_defaults]
  decide

theorem not_isDirect_any : Registry.defaults.isDirect .any = false := by
  rw [Registry.isDirect_defaults]
  decide

theorem keeps_of_plain {p : Parameter} (hplain : p.Plain) :
    Binder.Bare p ∧ ∀ v, Binder.Keeps .defaults p v := by
  have htype : p.type = .any := by
    rw [hplain.1]
    rfl
  refine ⟨?_, fun v => Binder.keeps_defaults (.inl ?_)⟩
  · rw [Binder.Bare, htype]
    exact hplain.1
  · rw [htype]
    decide

/-- What the parameter of a statement that is made anew has of the plain one of the statement made
once: its property. The value that it reads is kept. -/
structure Remade (b₂ : BoundStatement) (entries : List (String × Value)) (p₁ p₂ : Parameter) : Prop where
  bare : Binder.Bare p₂
  property : p₂.property = p₁.property
  keeps : ∀ v, Binder.valueOf .defaults b₂ (.map entries) p₂ = .ok v → Binder.Keeps .defaults p₂ v

theorem remade_of_plain (hs : s.parameterType = none) {body : String} {p₁ p₂ : Parameter}
    (hplain : p₁.Plain) (h₁ : (s.resolverOnce .defaults aliases).parameter body = .ok p₁)
    (h₂ : (s.resolverAnew .defaults aliases (.map entries) databaseId).parameter body = .ok p₂)
    (hb₂ : b₂.bindings = (Frame.start (.map entries) databaseId).bindings) :
    Remade b₂ entries p₁ p₂ := by
  rcases Resolver.parameter_eq_or_inferred (by rfl) (by rfl) h₁ h₂ with rfl | ⟨sqlType, rfl⟩
  · obtain ⟨hbare, hkeeps⟩ := keeps_of_plain hplain
    exact ⟨hbare, rfl, fun v _ => hkeeps v⟩
  · obtain ⟨hp₁, path, hpath, hroot⟩ := hplain
    have hanew : (s.resolverAnew .defaults aliases (.map entries) databaseId).argumentType = .map := by
      rw [resolverAnew, hs]
      rfl
    refine ⟨?_, rfl, fun v hv => ?_⟩
    · rw [hp₁]
      rfl
    · exact Binder.keeps_of_inferType (by rw [hanew]; exact not_isDirect_map) (.inl hanew) hb₂ hpath hroot
        rfl hv

theorem value_anew_ne_null {key : String} {rest : List String} (hname : IsContextName key)
    {p : Parameter} {path : Path} (hpath : Path.parse p.property = .ok path) (hroot : path.root ≠ "")
    (hkeys : path.keys = key :: rest) {id : String}
    (hb₂ : b₂.bindings = (Frame.start (.map (nest rest)) (some id)).bindings) :
    Binder.valueOf .defaults b₂ (.map (nest rest)) p ≠ .ok .null := by
  intro h
  have hkey : path.root = key := (Path.root_eq_key hkeys).resolve_left hroot
  rcases hname with rfl | rfl
  · have hfind : b₂.bindings.find? Frame.argumentKey = some (.map (nest rest)) := by
      rw [hb₂]
      exact (Table.find?_insert_of_ne _ _ (by decide)).trans (Table.find?_insert_self [] _ _)
    rw [Binder.valueOf_bound hpath (by rw [hkey, hfind]), Value.readAt, hkeys, Value.follow_map_cons,
      hfind, Option.getD_some, Value.follow_nest] at h
    cases h
  · have hfind : b₂.bindings.find? Frame.databaseIdKey = some (.string id) := by
      rw [hb₂]
      exact Table.find?_insert_self _ _ _
    rw [Binder.valueOf_bound hpath (by rw [hkey, hfind]), Value.readAt, hkeys, Value.follow_map_cons,
      hfind, Option.getD_some] at h
    cases rest <;> cases h

theorem exists_value_once (hbindings : b₁.bindings = []) {p : Parameter} (hplain : p.Plain)
    (keys : List String) : ∃ v, Binder.valueOf .defaults b₁ (.map (nest keys)) p = .ok v := by
  obtain ⟨-, path, hpath, -⟩ := hplain
  obtain ⟨v, hv, -⟩ := Value.Hollow.follow (.inr ⟨keys, rfl⟩) path.raw path.keys
  have hroot : b₁.bindings.find? path.root = none := by
    rw [hbindings]
    rfl
  exact ⟨v, (Binder.valueOf_unbound not_isDirect_map hpath hroot).2 hv⟩

theorem value_once_eq_null (hbindings : b₁.bindings = []) {key : String} {rest : List String}
    {p : Parameter} {path : Path} (hpath : Path.parse p.property = .ok path)
    (hkeys : path.keys = key :: rest) {v : Value}
    (hvalue : Binder.valueOf .defaults b₁ (.map (nest rest)) p = .ok v) : v = .null := by
  have hroot : b₁.bindings.find? path.root = none := by
    rw [hbindings]
    rfl
  rw [Binder.valueOf_unbound not_isDirect_map hpath hroot, Value.readAt, hkeys,
    Value.follow_nest_of_lt _ (Nat.lt_succ_self _)] at hvalue
  exact (Except.ok.inj hvalue).symm

theorem valueOf_property {p₁ p₂ : Parameter} (h : p₂.property = p₁.property) (b : BoundStatement)
    (argument : Value) :
    Binder.valueOf .defaults b argument p₂ = Binder.valueOf .defaults b argument p₁ := by
  rw [Binder.valueOf, Binder.valueOf, h]

/-- Where a plain parameter reads the context, some argument and database id tell the statement that is
made once from the one that is made anew. -/
theorem exists_written_ne (hn : n.isDynamic = false) (hs : s.parameterType = none)
    (hb₁ : ∀ argument databaseId, s.bound n .defaults aliases argument databaseId = .ok b₁)
    (hplain : ∀ p ∈ b₁.parameters, p.Plain) {p : Parameter} (hp : p ∈ b₁.parameters)
    (hcontext : p.ReadsContext) :
    ∃ entries databaseId, ∀ b₂ nullType,
      s.boundAnew n .defaults aliases (.map entries) databaseId = .ok b₂ →
        b₁.written (.map entries) nullType ≠ b₂.written (.map entries) nullType := by
  obtain ⟨path, key, rest, hpath, hkeys, hname⟩ := hcontext
  refine ⟨nest rest, some "", fun b₂ nullType hb₂ heq => ?_⟩
  obtain ⟨sql, hsql⟩ := exists_sql_of_bound hn s .defaults aliases
  obtain ⟨honce, hanew⟩ := hsql (.map (nest rest)) (some "")
  rw [hb₁, eq_comm, mapError_eq_ok] at honce
  rw [hb₂, eq_comm, except_map_eq_ok] at hanew
  obtain ⟨b, hb, hb₂'⟩ := hanew
  rw [mapError_eq_ok] at hb
  have hbindings₁ : b₁.bindings = [] := by
    obtain ⟨parts, -, rfl⟩ := Resolver.resolve_eq_ok.1 honce
    rfl
  have hbindings₂ : b₂.bindings = (Frame.start (.map (nest rest)) (some "")).bindings := by
    rw [hb₂']
    rfl
  have hvalid₂ : b₂.validate = .ok () := by
    rw [hb₂']
    show b.validate = .ok ()
    exact Resolver.validate_of_resolve hb
  -- Made once, the statement is bound with a value for each parameter.
  obtain ⟨values, hvalues⟩ := exists_forall₂ fun q hq =>
    exists_value_once hbindings₁ (hplain q hq) rest
  have hkeeps₁ : ∀ q ∈ b₁.parameters, Binder.Bare q ∧ ∀ v,
      Binder.valueOf .defaults b₁ (.map (nest rest)) q = .ok v → Binder.Keeps .defaults q v :=
    fun q hq => (keeps_of_plain (hplain q hq)).imp_right fun hkeeps v _ => hkeeps v
  obtain ⟨w, hw, rfl⟩ :=
    (BoundStatement.written_iff (Resolver.validate_of_resolve honce) hkeeps₁ values).2 hvalues
  -- If the statement made anew writes the same, its parameters have the same values.
  have hremade : List.Forall₂ (Remade b₂ (nest rest)) b₁.parameters b₂.parameters := by
    rw [hb₂']
    exact ((List.forall₂_and_left ..).2 ⟨hplain, Resolver.parameters_of_resolve honce hb⟩).imp
      fun p₁ p₂ ⟨hp₁, body, h₁, h₂⟩ => remade_of_plain hs hp₁ h₁ h₂ rfl
  have hkeeps₂ : ∀ q ∈ b₂.parameters, Binder.Bare q ∧ ∀ v,
      Binder.valueOf .defaults b₂ (.map (nest rest)) q = .ok v → Binder.Keeps .defaults q v :=
    forall_mem_of_forall₂ (hremade.imp fun _ _ h => ⟨h.bare, h.keeps⟩)
  have hvalues₂ :=
    (BoundStatement.written_iff hvalid₂ hkeeps₂ (w.map Prod.snd)).1 ⟨w, heq.symm.trans hw, rfl⟩
  -- The parameter in question has one value, which is null and is not.
  obtain ⟨i, hi, rfl⟩ := List.mem_iff_getElem.1 hp
  have hi₂ : i < b₂.parameters.length := hremade.length_eq ▸ hi
  have hiw : i < (w.map Prod.snd).length := hvalues.length_eq ▸ hi
  have hproperty := (hremade.get hi hi₂).property
  have hnull := value_once_eq_null hbindings₁ hpath hkeys (hvalues.get hi hiw)
  have hvalue := hvalues₂.get hi₂ hiw
  rw [valueOf_property hproperty] at hvalue
  obtain ⟨-, path', hpath', hroot⟩ := hplain _ hp
  obtain rfl := Except.ok.inj (hpath.symm.trans hpath')
  exact value_anew_ne_null hname hpath hroot hkeys hbindings₂ (hvalue.trans (congrArg _ hnull))

theorem bound_of_fixed (hs : s.parameterType = none) {registry : Registry}
    (hsource : Source.ofTemplate s.id n none registry aliases = .ok (.fixed b₁)) (argument : Value)
    (databaseId : Option String) : s.bound n registry aliases argument databaseId = .ok b₁ := by
  rw [bound, hs, hsource]
  rfl

theorem exists_boundAnew (hn : n.isDynamic = false) {registry : Registry} {argument : Value}
    (h : s.bound n registry aliases argument databaseId = .ok b₁) :
    ∃ b₂, s.boundAnew n registry aliases argument databaseId = .ok b₂ := by
  have huntyped : (s.bound n registry aliases argument databaseId).map BoundStatement.untyped =
      (s.boundAnew n registry aliases argument databaseId).map BoundStatement.untyped :=
    bound_untyped hn argument databaseId
  rw [h] at huntyped
  obtain ⟨b₂, hb₂, -⟩ := except_map_eq_ok.1 huntyped.symm
  exact ⟨b₂, hb₂⟩

/-- What the two ways to make a statement of a template that is not dynamic have in common, for an
argument that is a map. They give the same text, markers and properties, or fail alike; and a part that
is never rendered only turns one way into the other. They bind the same values if no input reads the
context; and of statements whose parameters are plain, these are all that bind the same values for
every argument and database id. -/
theorem bound_agrees (hn : n.isDynamic = false) (hs : s.parameterType = none) :
    (∀ registry aliases argument databaseId,
      (s.bound n registry aliases argument databaseId).map BoundStatement.untyped =
        (s.boundAnew n registry aliases argument databaseId).map BoundStatement.untyped) ∧
    (∀ registry aliases argument databaseId cond body,
      (∀ lookup, Formula.evalTruth cond lookup = .ok false) →
        s.bound (.composite [n, .conditional cond body]) registry aliases argument databaseId =
          s.boundAnew n registry aliases argument databaseId) ∧
    (∀ registry aliases entries databaseId b₁ b₂, registry.isDirect .map = false →
      registry.isDirect .any = false →
      s.bound n registry aliases (.map entries) databaseId = .ok b₁ →
      s.boundAnew n registry aliases (.map entries) databaseId = .ok b₂ →
      (∀ p ∈ b₁.parameters, p.mode.isInput = true → ¬ p.ReadsContext) →
        Binder.bind b₁ (.map entries) = Binder.bind b₂ (.map entries)) ∧
    (∀ aliases b₁, Source.ofTemplate s.id n none .defaults aliases = .ok (.fixed b₁) →
      (∀ p ∈ b₁.parameters, p.Plain) →
        ((∀ entries databaseId b₂ nullType,
          s.boundAnew n .defaults aliases (.map entries) databaseId = .ok b₂ →
            b₁.written (.map entries) nullType = b₂.written (.map entries) nullType) ↔
          ∀ p ∈ b₁.parameters, ¬ p.ReadsContext)) := by
  refine ⟨fun _ _ argument databaseId => bound_untyped hn argument databaseId,
    fun _ _ argument databaseId _ body hcond => bound_never hn hcond body argument databaseId,
    fun _ _ _ _ _ _ hmap hany h₁ h₂ hcontext => bind_eq_of_not_readsContext hn hs hmap hany h₁ h₂ hcontext,
    fun aliases b₁ hsource hplain => ⟨fun hagree p hp hcontext => ?_, fun hcontext => ?_⟩⟩
  · have hb₁ := bound_of_fixed hs hsource
    obtain ⟨entries, databaseId, hne⟩ := exists_written_ne hn hs hb₁ hplain hp hcontext
    obtain ⟨b₂, hb₂⟩ := exists_boundAnew hn (hb₁ (.map entries) databaseId)
    exact hne b₂ .null hb₂ (hagree entries databaseId b₂ .null hb₂)
  · intro entries databaseId b₂ nullType hb₂
    have hbind := bind_eq_of_not_readsContext hn hs not_isDirect_map not_isDirect_any
      (bound_of_fixed hs hsource (.map entries) databaseId) hb₂ fun p hp _ => hcontext p hp
    rw [BoundStatement.written, BoundStatement.written, hbind]

/-! ### A statement that tells the two ways apart -/

/-- The parts of a query by the id of the argument as the context has it. -/
def byIdLexemes : List Lexeme :=
  Lexeme.endingIn "select * from users where id = ".toList ⟨"_parameter", none⟩ [⟨"id", none⟩]

/-- A query by the id of the argument as the context has it. -/
def byId : Node := .text "select * from users where id = #\x7b_parameter.id\x7d"

/-- The statement of the query. -/
def findById : MappedStatement := ⟨"users.find", .select, none, none, .dynamic byId⟩

theorem isPlain_parameter : Segment.IsPlain ⟨"_parameter", none⟩ :=
  Segment.isPlain_of_name ⟨by decide, List.all_eq_true.1 (by decide)⟩

theorem isPlain_id : ∀ t ∈ [(⟨"id", none⟩ : Segment)], t.IsPlain :=
  List.forall_mem_singleton.2 (Segment.isPlain_of_name ⟨by decide, List.all_eq_true.1 (by decide)⟩)

theorem isPlain_byIdLexemes : ∀ l ∈ byIdLexemes, l.IsPlain :=
  Lexeme.forall_mem_endingIn (fun _ hc => .char hc) (.path isPlain_parameter isPlain_id) (by decide)

theorem parse_parameter_id :
    Path.parse "_parameter.id" = .ok ⟨"_parameter.id", [⟨"_parameter", none⟩, ⟨"id", none⟩]⟩ := by
  have htext : "_parameter.id" = String.ofList (Path.written ⟨"_parameter", none⟩ [⟨"id", none⟩]) := by
    rfl
  rw [htext]
  exact Path.parse_written isPlain_parameter isPlain_id

/-- The statement that a resolver makes of the query. -/
def resolvedById (r : Resolver) : BoundStatement :=
  .ofParts (byIdLexemes.map (Lexeme.part r))

theorem resolve_byId (r : Resolver) :
    r.resolve "select * from users where id = #\x7b_parameter.id\x7d" = .ok (resolvedById r) := by
  have htext : "select * from users where id = #\x7b_parameter.id\x7d" =
      String.ofList (Lexeme.textOf byIdLexemes) := by rfl
  rw [htext]
  exact r.resolve_textOf isPlain_byIdLexemes

/-- The statement of the query made once. -/
def byIdOnce : BoundStatement := resolvedById (findById.resolverOnce .defaults .empty)

/-- The statement of the query made anew for an argument. -/
def byIdAnew (argument : Value) : BoundStatement :=
  (resolvedById (findById.resolverAnew .defaults .empty argument none)).withBindings
    (Frame.start argument none).bindings

theorem validate_byIdOnce : byIdOnce.validate = .ok () := BoundStatement.validate_ofParts _

theorem validate_byIdAnew (argument : Value) : (byIdAnew argument).validate = .ok () :=
  BoundStatement.validate_ofParts (byIdLexemes.map (Lexeme.part _))

theorem parameters_byId (r : Resolver) :
    (resolvedById r).parameters = [.ofType "_parameter.id" (r.inferType "_parameter.id" none)] := by
  rfl

theorem ofTemplate_byId : Source.ofTemplate findById.id byId none .defaults .empty =
    .ok (.fixed byIdOnce) := by
  rw [Source.ofTemplate, byId, Node.isDynamic, if_neg Bool.false_ne_true, Node.renderFor,
    Node.render_text]
  simp only [Frame.append, Frame.start, String.empty_append, Except.mapError, bind, Except.bind]
  rw [resolve_byId]
  rfl

theorem plain_byId : ∀ p ∈ byIdOnce.parameters, p.Plain := by
  intro p hp
  rw [byIdOnce, parameters_byId] at hp
  obtain rfl := List.mem_singleton.1 hp
  have hinfer : (findById.resolverOnce .defaults .empty).inferType "_parameter.id" none = .any := by
    rw [Resolver.inferType_of_absent not_isDirect_any (.inr rfl) fun _ _ _ _ _ => rfl,
      parse_parameter_id]
    rfl
  rw [hinfer]
  exact ⟨rfl, _, parse_parameter_id, by decide⟩

theorem boundAnew_byId (argument : Value) :
    findById.boundAnew byId .defaults .empty argument none = .ok (byIdAnew argument) := by
  rw [boundAnew, bindTo]
  dsimp only
  rw [byId, Node.renderFor, Node.render_text]
  simp only [Frame.append, Frame.start, String.empty_append, Except.mapError, bind, Except.bind]
  rw [resolve_byId]
  rfl

/-- The argument with the id 7. -/
def idSeven : List (String × Value) := [("id", .int 7)]

theorem written_once_byId : ∃ w, byIdOnce.written (.map idSeven) .null = some w ∧
    w.map Prod.snd = [.null] := by
  refine (BoundStatement.written_iff validate_byIdOnce (fun p hp => ?_) _).2 ?_
  · exact (keeps_of_plain (plain_byId p hp)).imp_right fun hkeeps v _ => hkeeps v
  · rw [byIdOnce, parameters_byId]
    refine .cons ?_ .nil
    exact (Binder.valueOf_unbound (p := .ofType "_parameter.id" _) not_isDirect_map parse_parameter_id
      rfl).2 rfl

theorem written_anew_byId : ∃ w, (byIdAnew (.map idSeven)).written (.map idSeven) .null = some w ∧
    w.map Prod.snd = [.int 7] := by
  refine (BoundStatement.written_iff (validate_byIdAnew _) (fun p hp => ?_) _).2 ?_
  · change p ∈ (resolvedById _).parameters at hp
    rw [parameters_byId] at hp
    obtain rfl := List.mem_singleton.1 hp
    exact Binder.bare_of_inferType not_isDirect_map (.inl rfl) rfl parse_parameter_id (by decide)
  · show List.Forall₂ _ (resolvedById _).parameters _
    rw [parameters_byId]
    refine .cons ?_ .nil
    exact (Binder.valueOf_bound (p := .ofType "_parameter.id" _) (u := .map idSeven) parse_parameter_id
      rfl).2 rfl

/-- Where the query is made once it asks for null, and where it is made anew for the id. -/
theorem written_byId_ne :
    ∃ b₁ b₂ w₁ w₂, findById.bound byId .defaults .empty (.map [("id", .int 7)]) none = .ok b₁ ∧
      findById.boundAnew byId .defaults .empty (.map [("id", .int 7)]) none = .ok b₂ ∧
      b₁.written (.map [("id", .int 7)]) .null = some w₁ ∧ w₁.map Prod.snd = [.null] ∧
      b₂.written (.map [("id", .int 7)]) .null = some w₂ ∧ w₂.map Prod.snd = [.int 7] := by
  obtain ⟨w₁, hw₁, hvalues₁⟩ := written_once_byId
  obtain ⟨w₂, hw₂, hvalues₂⟩ := written_anew_byId
  exact ⟨byIdOnce, byIdAnew (.map idSeven), w₁, w₂, bound_of_fixed rfl ofTemplate_byId _ none,
    boundAnew_byId _, hw₁, hvalues₁, hw₂, hvalues₂⟩

theorem bound_agrees_byId :
    byId.isDynamic = false ∧ findById.parameterType = none ∧
      Source.ofTemplate findById.id byId none .defaults .empty = .ok (.fixed byIdOnce) ∧
      (∀ p ∈ byIdOnce.parameters, p.Plain) ∧
      ((∀ entries databaseId b₂ nullType,
        findById.boundAnew byId .defaults .empty (.map entries) databaseId = .ok b₂ →
          byIdOnce.written (.map entries) nullType = b₂.written (.map entries) nullType) ↔
        ∀ p ∈ byIdOnce.parameters, ¬ p.ReadsContext) :=
  ⟨rfl, rfl, ofTemplate_byId, plain_byId,
    (bound_agrees rfl rfl).2.2.2 .empty byIdOnce ofTemplate_byId plain_byId⟩

end MappedStatement

end DynamicSql
