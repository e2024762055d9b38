import DynamicSql.Proofs.Mapper.Loading

/-!
# Chains of interceptors

The interceptors that come with the mappers may be put into chains of any order and number. When a statement is
rendered they only add to its end (`Plugin.onRender_eq`), so what was there keeps its place. Before it is bound
they refuse it just if it is a delete and one of them allows reading only (`Plugin.bind_of_refused`,
`Plugin.bind_of_allowed`). Whatever a preparation fails of, it writes no parameter before all interceptors have
agreed (`Configuration.prepare_before_write`). The whole is `Configuration.chain_disturbs_nothing`.
-/

namespace DynamicSql

open Step

/-! ### Statements that are added to -/

namespace BoundStatement

variable {b b' b'' : BoundStatement}

/-- The second statement is the first one with more behind it, and has a marker for each parameter if the first
one has. -/
structure Extends (b b' : BoundStatement) : Prop where
  text : b.text <+: b'.text
  parameters : b.parameters <+: b'.parameters
  markers : b.markers <+: b'.markers
  valid : b.validate = .ok () → b'.validate = .ok ()

theorem Extends.refl (b : BoundStatement) : Extends b b :=
  ⟨List.prefix_rfl, List.prefix_rfl, List.prefix_rfl, id⟩

theorem Extends.trans (h : Extends b b') (h' : Extends b' b'') : Extends b b'' where
  text := h.text.trans h'.text
  parameters := h.parameters.trans h'.parameters
  markers := h.markers.trans h'.markers
  valid := h'.valid ∘ h.valid

theorem validate_eq_ok_iff : b.validate = .ok () ↔ b.markers.length = b.parameters.length := by
  rw [validate]
  split_ifs with h
  · exact ⟨fun _ => h, fun _ => rfl⟩
  · exact ⟨(nomatch ·), fun h' => absurd h' h⟩

theorem extends_pushSql (b : BoundStatement) (text : String) : Extends b (b.pushSql text) :=
  ⟨List.prefix_append _ _, List.prefix_rfl, List.prefix_rfl, id⟩

theorem extends_bindValue (b : BoundStatement) (name : String) (v : Value) : Extends b (b.bindValue name v) :=
  ⟨List.prefix_rfl, List.prefix_rfl, List.prefix_rfl, id⟩

theorem extends_pushParameter (b : BoundStatement) (p : Parameter) : Extends b (b.pushParameter p) where
  text := List.prefix_append _ _
  parameters := List.prefix_append _ _
  markers := List.prefix_append _ _
  valid h := by
    rw [validate_eq_ok_iff] at h ⊢
    rw [pushParameter, List.length_append, List.length_append, h]
    rfl

end BoundStatement

namespace Interceptor

open BoundStatement

variable {b : BoundStatement}

theorem extends_paged (b : BoundStatement) (hasOffset : Bool) : Extends b (paged b hasOffset) := by
  have hlimited : Extends b (((b.pushSql " LIMIT ").pushParameter (.ofType limitKey .int)).pushSql " OFFSET ") :=
    ((extends_pushSql b _).trans (extends_pushParameter _ _)).trans (extends_pushSql _ _)
  cases hasOffset with
  | true => exact hlimited.trans (extends_pushParameter _ _)
  | false => exact (hlimited.trans (extends_bindValue _ _ _)).trans (extends_pushParameter _ _)

theorem length_markers_paged (b : BoundStatement) (hasOffset : Bool) :
    (paged b hasOffset).markers.length = b.markers.length + 2 := by
  cases hasOffset <;> exact (List.length_append).trans (congrArg (· + 1) List.length_append)

variable {s : MappedStatement} {argument : Value} {i : Interceptor} {rest : List Interceptor}
  {noted : List String}

theorem bind_cons_of_ok {notes : List String} (h : i.onBind s b argument = .ok notes) :
    Interceptor.bind s b argument (i :: rest) noted = Interceptor.bind s b argument rest (noted ++ notes) := by
  rw [Interceptor.bind, h]
  rfl

theorem bind_cons_of_error {reason : String} (h : i.onBind s b argument = .error reason) :
    Interceptor.bind s b argument (i :: rest) noted = .error (i.rejection s reason) noted := by
  rw [Interceptor.bind, h]
  rfl

end Interceptor

/-! ### Plugins -/

/-- The interceptors that come with the mappers. -/
inductive Plugin where
  | pagination
  | readOnly
  | audit
  deriving DecidableEq

namespace Plugin

open BoundStatement

def interceptor : Plugin → Interceptor
  | pagination => .pagination
  | readOnly => .readOnly
  | audit => .audit

def chain (plugins : List Plugin) : List Interceptor := plugins.map interceptor

/-- A page of the rows is asked for: the statement is a select, and its argument is a map with a limit. -/
def AsksForPage (s : MappedStatement) (argument : Value) : Prop :=
  s.command = .select ∧ ∃ m, argument = .map m ∧ Table.contains m Interceptor.limitKey

/-- The chain refuses the statement: it is a delete, and a plugin of the chain allows reading only. -/
def Refuses (plugins : List Plugin) (s : MappedStatement) : Prop :=
  readOnly ∈ plugins ∧ s.command = .delete

variable {s : MappedStatement} {b b' : BoundStatement} {argument : Value} {plugins : List Plugin}

theorem onRender_of_not_asksForPage (h : ¬ AsksForPage s argument) (p : Plugin) (b : BoundStatement) :
    p.interceptor.onRender s b argument = .ok b := by
  cases p with
  | readOnly => rfl
  | audit => rfl
  | pagination =>
    cases argument with
    | map m => exact if_neg fun ⟨hselect, hlimit⟩ => h ⟨hselect, m, rfl, hlimit⟩
    | _ => rfl

theorem onRender_of_asksForPage (h : AsksForPage s argument) (p : Plugin) (b : BoundStatement) :
    ∃ b', p.interceptor.onRender s b argument = .ok b' ∧ Extends b b' ∧
      b'.markers.length = b.markers.length + 2 * [p].count pagination := by
  obtain ⟨hselect, m, rfl, hlimit⟩ := h
  cases p with
  | readOnly => exact ⟨b, rfl, .refl b, rfl⟩
  | audit => exact ⟨b, rfl, .refl b, rfl⟩
  | pagination =>
    exact ⟨_, if_pos ⟨hselect, hlimit⟩, Interceptor.extends_paged b _, Interceptor.length_markers_paged b _⟩

theorem render_of_not_asksForPage (h : ¬ AsksForPage s argument) (plugins : List Plugin) (b : BoundStatement) :
    Interceptor.render (chain plugins) s b argument = .ok b := by
  induction plugins with
  | nil => rfl
  | cons p plugins ih =>
    exact except_bind_eq_ok.2 ⟨b, mapError_eq_ok.2 (onRender_of_not_asksForPage h p b), ih⟩

theorem render_of_asksForPage (h : AsksForPage s argument) (plugins : List Plugin) (b : BoundStatement) :
    ∃ b', Interceptor.render (chain plugins) s b argument = .ok b' ∧ Extends b b' ∧
      b'.markers.length = b.markers.length + 2 * plugins.count pagination := by
  induction plugins generalizing b with
  | nil => exact ⟨b, rfl, .refl b, rfl⟩
  | cons p plugins ih =>
    obtain ⟨b₁, hfirst, hextends, hcount⟩ := onRender_of_asksForPage h p b
    obtain ⟨b', hrest, hextends', hcount'⟩ := ih b₁
    refine ⟨b', except_bind_eq_ok.2 ⟨b₁, mapError_eq_ok.2 hfirst, hrest⟩, hextends.trans hextends', ?_⟩
    have hcons : (p :: plugins).count pagination = [p].count pagination + plugins.count pagination :=
      show ([p] ++ plugins).count pagination = _ from List.count_append
    omega

theorem render_extends (s : MappedStatement) (argument : Value) (plugins : List Plugin) (b : BoundStatement) :
    ∃ b', Interceptor.render (chain plugins) s b argument = .ok b' ∧ Extends b b' := by
  by_cases h : AsksForPage s argument
  · obtain ⟨b', hrender, hextends, -⟩ := render_of_asksForPage h plugins b
    exact ⟨b', hrender, hextends⟩
  · exact ⟨b, render_of_not_asksForPage h plugins b, .refl b⟩

/-! ### What the chain refuses -/

theorem onBind_of_refused (h : s.command = .delete) (b : BoundStatement) (argument : Value) :
    readOnly.interceptor.onBind s b argument = .error "deletes are disabled" := if_pos h

theorem onBind_of_allowed {p : Plugin} (h : ¬ Refuses [p] s) (b : BoundStatement) (argument : Value) :
    ∃ notes, p.interceptor.onBind s b argument = .ok notes := by
  cases p with
  | pagination => exact ⟨_, rfl⟩
  | audit => exact ⟨_, rfl⟩
  | readOnly => exact ⟨_, if_neg fun hdelete => h ⟨.head _, hdelete⟩⟩

theorem refuses_cons {p : Plugin} : Refuses (p :: plugins) s ↔ Refuses [p] s ∨ Refuses plugins s := by
  rw [Refuses, Refuses, Refuses, List.mem_cons, List.mem_singleton, or_and_right]

theorem bind_of_refused (h : Refuses plugins s) (b : BoundStatement) (argument : Value) (noted : List String) :
    ∃ noted', Interceptor.bind s b argument (chain plugins) noted =
      .error (.rejected "read-only" s.id "deletes are disabled") noted' := by
  induction plugins generalizing noted with
  | nil => exact absurd h.1 List.not_mem_nil
  | cons p plugins ih =>
    by_cases hp : Refuses [p] s
    · obtain rfl := List.mem_singleton.1 hp.1
      exact ⟨noted, Interceptor.bind_cons_of_error (onBind_of_refused hp.2 b argument)⟩
    · obtain ⟨notes, hnotes⟩ := onBind_of_allowed hp b argument
      obtain ⟨noted', hrest⟩ := ih ((refuses_cons.1 h).resolve_left hp) (noted ++ notes)
      exact ⟨noted', (Interceptor.bind_cons_of_ok hnotes).trans hrest⟩

theorem bind_of_allowed (h : ¬ Refuses plugins s) (b : BoundStatement) (argument : Value) (noted : List String) :
    ∃ noted', Interceptor.bind s b argument (chain plugins) noted = .ok () noted' := by
  induction plugins generalizing noted with
  | nil => exact ⟨noted, rfl⟩
  | cons p plugins ih =>
    rw [refuses_cons, not_or] at h
    obtain ⟨notes, hnotes⟩ := onBind_of_allowed h.1 b argument
    obtain ⟨noted', hrest⟩ := ih h.2 (noted ++ notes)
    exact ⟨noted', (Interceptor.bind_cons_of_ok hnotes).trans hrest⟩

end Plugin

/-! ### Preparation -/

namespace Configuration

open Plugin

variable {c : Configuration} {id : String} {s : MappedStatement} {b : BoundStatement} {argument : Value}
  {session session' : Session} {e : MapperError} {plugins : List Plugin}

/-- The preparation comes to the writing of the parameters: the statement is found and rendered, and no
interceptor refuses it. -/
def ReachesWrite (c : Configuration) (id : String) (argument : Value) (session : Session) : Prop :=
  ∃ s b session', c.statement id = .ok s ∧ c.render s argument = .ok b ∧
    c.observe s b argument session = .ok () session'

theorem prepare_of_render (hs : c.statement id = .ok s) (hb : c.render s argument = .ok b) (session : Session) :
    c.prepare id argument session =
      (c.observe s b argument >>= fun _ => write s b argument >>= fun _ => pure b) session := by
  rw [prepare, hs]
  show (prepare.liftExcept (c.render s argument) >>= fun b => c.observe s b argument >>= fun _ =>
    write s b argument >>= fun _ => pure b) session = _
  rw [hb]
  rfl

theorem observe_of_ok {notes : List String}
    (h : Interceptor.bind s b argument c.interceptors session.notes = .ok () notes) :
    c.observe s b argument session = .ok () { session with notes } := by
  rw [observe, h]

theorem observe_of_error {notes : List String}
    (h : Interceptor.bind s b argument c.interceptors session.notes = .error e notes) :
    c.observe s b argument session = .error e { session with notes } := by
  rw [observe, h]

theorem binding_of_observe_error (h : c.observe s b argument session = .error e session') :
    session'.binding = session.binding := by
  rw [observe] at h
  split at h <;> cases h
  rfl

theorem write_ne_rejected {name statement reason : String} :
    write s b argument session ≠ .error (.rejected name statement reason) session' := by
  intro h
  rw [write] at h
  split at h <;> cases h

/-- A preparation that fails before it comes to the writing of the parameters leaves what it would write to as it
was. -/
theorem prepare_before_write (h : c.prepare id argument session = .error e session')
    (hbefore : ¬ c.ReachesWrite id argument session) : session'.binding = session.binding := by
  cases hs : c.statement id with
  | error cause =>
    rw [prepare, hs] at h
    cases h
    rfl
  | ok s =>
    cases hb : c.render s argument with
    | error cause =>
      rw [prepare, hs] at h
      have h : (prepare.liftExcept (c.render s argument) >>= fun b => c.observe s b argument >>= fun _ =>
        write s b argument >>= fun _ => pure b) session = .error e session' := h
      rw [hb] at h
      cases h
      rfl
    | ok b =>
      rw [prepare_of_render hs hb] at h
      rcases bind_eq_error.1 h with h | ⟨_, session₁, h, -⟩
      · exact binding_of_observe_error h
      · exact absurd ⟨s, b, session₁, hs, hb, h⟩ hbefore

/-- Once a statement is rendered, an interceptor refuses it just if the chain does. -/
theorem prepare_rejected_iff (hchain : c.interceptors = chain plugins) (hs : c.statement id = .ok s)
    (hb : c.render s argument = .ok b) (session : Session) :
    (∃ name statement reason session',
      c.prepare id argument session = .error (.rejected name statement reason) session') ↔
      Refuses plugins s := by
  rw [prepare_of_render hs hb]
  constructor
  · rintro ⟨name, statement, reason, session', h⟩
    by_contra hallowed
    obtain ⟨notes, hnotes⟩ := bind_of_allowed hallowed b argument session.notes
    rw [bind_of_ok (observe_of_ok (hchain ▸ hnotes))] at h
    rcases bind_eq_error.1 h with h | ⟨_, _, -, h⟩
    · exact write_ne_rejected h
    · cases h
  · intro hrefused
    obtain ⟨notes, hnotes⟩ := bind_of_refused hrefused b argument session.notes
    exact ⟨_, _, _, _, bind_of_error (observe_of_error (hchain ▸ hnotes)) _⟩

theorem exists_render_of_bindTo (hchain : c.interceptors = chain plugins)
    (hb : s.bindTo argument c.settings.databaseId c.registry c.aliases = .ok b) (hvalid : b.validate = .ok ()) :
    ∃ b', c.render s argument = .ok b' := by
  obtain ⟨b', hrender, hextends⟩ := render_extends s argument plugins b
  rw [← hchain] at hrender
  refine ⟨b', except_bind_eq_ok.2 ⟨b, hb, except_bind_eq_ok.2 ⟨b', hrender, ?_⟩⟩⟩
  exact except_bind_eq_ok.2 ⟨(), mapError_eq_ok.2 (hextends.valid hvalid), rfl⟩

/-- A chain of plugins extends a statement without disturbing it. It adds to the end of the text, the parameters
and the markers only, and keeps a marker for each parameter: two markers for each paging plugin if a page is asked
for, and nothing at all otherwise. Of what has been rendered it refuses the deletes, and these only if it allows
reading only. And a preparation that fails before it comes to the writing of the parameters has written nothing. -/
theorem chain_disturbs_nothing (hchain : c.interceptors = chain plugins) (s : MappedStatement) (argument : Value) :
    (∀ b : BoundStatement, ∃ b', Interceptor.render c.interceptors s b argument = .ok b' ∧
      b.text <+: b'.text ∧ b.parameters <+: b'.parameters ∧ b.markers <+: b'.markers ∧
      (b.validate = .ok () → b'.validate = .ok ()) ∧
      (AsksForPage s argument → b'.markers.length = b.markers.length + 2 * plugins.count .pagination) ∧
      (¬ AsksForPage s argument → b' = b)) ∧
    ∀ id session,
      (∀ b, c.statement id = .ok s → c.render s argument = .ok b →
        ((∃ name statement reason session', c.prepare id argument session =
          .error (.rejected name statement reason) session') ↔ .readOnly ∈ plugins ∧ s.command = .delete)) ∧
      ∀ e session', c.prepare id argument session = .error e session' →
        ¬ c.ReachesWrite id argument session → session'.binding = session.binding := by
  refine ⟨fun b => ?_, fun id session => ⟨fun b hs hb => prepare_rejected_iff hchain hs hb session,
    fun e session' => prepare_before_write⟩⟩
  rw [hchain]
  by_cases h : AsksForPage s argument
  · obtain ⟨b', hrender, hextends, hcount⟩ := render_of_asksForPage h plugins b
    exact ⟨b', hrender, hextends.text, hextends.parameters, hextends.markers, hextends.valid, fun _ => hcount,
      absurd h⟩
  · exact ⟨b, render_of_not_asksForPage h plugins b, List.prefix_rfl, List.prefix_rfl, List.prefix_rfl, fun h => h,
      fun h' => absurd h' h, fun _ => rfl⟩

/-- A statement without parameters. -/
def plain (command : Command) (text : String) : MappedStatement :=
  ⟨"t.q", command, none, none, .fixed (BoundStatement.empty.pushSql text)⟩

/-- A configuration with one plugin of each kind. -/
def guarded : Configuration :=
  { new .default with
    statements := [("t.q", plain .delete "delete from t")]
    interceptors := chain [.pagination, .readOnly, .audit] }

theorem chain_disturbs_nothing_guarded :
    (∃ b, guarded.render (plain .delete "delete from t") (.map [("limit", .int 3)]) = .ok b) ∧
      (∃ e session', guarded.prepare "t.q" (.map [("limit", .int 3)]) guarded.session = .error e session' ∧
        session'.binding = guarded.session.binding) ∧
      ∃ b, Interceptor.render guarded.interceptors (plain .select "select 1") .empty
        (.map [("limit", .int 3)]) = .ok b ∧ b.markers.length = 2 := by
  have hchain : guarded.interceptors = chain [.pagination, .readOnly, .audit] := rfl
  obtain ⟨-, hcalls⟩ := chain_disturbs_nothing hchain (plain .delete "delete from t") (.map [("limit", .int 3)])
  obtain ⟨hpages, -⟩ := chain_disturbs_nothing hchain (plain .select "select 1") (.map [("limit", .int 3)])
  obtain ⟨hrejected, hbefore⟩ := hcalls "t.q" guarded.session
  have hs : guarded.statement "t.q" = .ok (plain .delete "delete from t") := rfl
  have hrefuses : Refuses [.pagination, .readOnly, .audit] (plain .delete "delete from t") :=
    ⟨.tail _ (.head _), rfl⟩
  obtain ⟨b, hb⟩ : ∃ b, guarded.render (plain .delete "delete from t") (.map [("limit", .int 3)]) = .ok b :=
    exists_render_of_bindTo hchain rfl rfl
  obtain ⟨name, statement, reason, session', hprepare⟩ := (hrejected b hs hb).2 hrefuses
  obtain ⟨b', hrender, -, -, -, -, hcount, -⟩ := hpages .empty
  refine ⟨⟨b, hb⟩, ⟨_, session', hprepare, hbefore _ _ hprepare ?_⟩, b', hrender, ?_⟩
  · rintro ⟨s, b', session₁, hs', -, hobserve⟩
    obtain rfl := Except.ok.inj (hs.symm.trans hs')
    obtain ⟨notes, hnotes⟩ := bind_of_refused hrefuses b' (.map [("limit", .int 3)]) guarded.session.notes
    rw [observe_of_error hnotes] at hobserve
    cases hobserve
  · exact hcount ⟨rfl, _, rfl, rfl⟩

end Configuration

end DynamicSql
