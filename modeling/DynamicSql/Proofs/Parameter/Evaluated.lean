import DynamicSql.Proofs.Expr.Linked
import DynamicSql.Proofs.Parameter.Defaults
import DynamicSql.Proofs.Path.Lens
import DynamicSql.Proofs.Template.BindFree

/-!
# Evaluated and looked up values

A path is evaluated as an expression in the frame of its place, and looked up for a parameter among the
variables of the whole rendering and in the argument. Where evaluating it succeeds, the lookup finds the
same value, unless the evaluation goes into a document on the way (`Binder.toOption_valueOf_of_steps`).
-/

namespace DynamicSql

open Step DynamicSql.Expr

theorem DataType.mem_directTypes {t : DataType} :
    t ∈ Registry.directTypes ↔ t.isScalar = true ∧ t ≠ .json := by
  cases t with
  | record name fields => simp [Registry.directTypes, isScalar]
  | _ => decide

/-! ### One step -/

namespace Value

def isDocument : Value → Bool
  | .json _ => true
  | _ => false

/-- A document that is no object, such as an array, a string or null. -/
def isFieldless : Value → Bool
  | .json (.object _) => false
  | .json _ => true
  | _ => false

variable {v w : Value} {key : String}

theorem navigate_eq_property (hnull : v.isNull = false) (hdocument : v.isDocument = false) (key : String) :
    navigate v key = (v.property key).mapError .property := by
  cases v with
  | null => cases hnull
  | json j => cases hdocument
  | _ => rfl

/-- A step of an expression goes where a lookup key leads to, but it also goes into documents. -/
theorem toOption_follow_of_navigate (h : navigate v key = .ok w) (raw : String) :
    (follow raw v [key]).toOption = if v.isDocument then none else some w := by
  by_cases hdocument : v.isDocument = true
  · rw [if_pos hdocument]
    cases v with
    | json j => rfl
    | _ => cases hdocument
  · have hnull : v.isNull = false := by
      by_contra hnull
      obtain rfl := Value.eq_null_of_isNull (Bool.of_not_eq_false hnull)
      cases h
    rw [navigate_eq_property hnull (Bool.of_not_eq_true hdocument), mapError_eq_ok, property] at h
    rw [follow_cons hnull, if_neg hdocument]
    cases hslot : v.slot? key with
    | none =>
      rw [hslot] at h
      cases h
    | some found =>
      rw [hslot] at h
      obtain ⟨slot, rfl, rfl⟩ := except_map_eq_ok.1 h
      dsimp only
      rw [follow_nil]
      rfl

/-- Whether a placeholder of any name stands for the value as a whole: null, and values of the types that
have a handler from the start. -/
def isWhole (v : Value) : Bool := v.isNull || decide (v.dataType ∈ Registry.directTypes)

theorem of_isWhole (h : v.isWhole = true) : Binder.navigable v = v ∧ v.isFieldless = false ∧
    (∀ name, Frame.argumentProperty v name = .ok v) ∧ ∀ key w, navigate v key ≠ .ok w := by
  rcases Bool.or_eq_true_iff.1 h with hnull | hdirect
  · obtain rfl := Value.eq_null_of_isNull hnull
    exact ⟨rfl, rfl, fun _ => rfl, fun _ _ h => nomatch h⟩
  · obtain ⟨hscalar, hjson⟩ := DataType.mem_directTypes.1 (of_decide_eq_true hdirect)
    cases v with
    | json j => exact absurd rfl hjson
    | list items => cases hscalar
    | set items => cases hscalar
    | map entries => cases hscalar
    | record schema values => cases hscalar
    | _ => exact ⟨rfl, rfl, fun _ => rfl, fun _ _ h => nomatch h⟩

theorem isWhole_navigable (v : Value) : (Binder.navigable v).isWhole = v.isWhole := by
  cases v with
  | json j => cases j <;> rfl
  | _ => rfl

end Value

/-! ### Steps from a name -/

namespace Frame

/-- Evaluating the expression goes into a document: a step leads away from one, or the name stands for the
whole argument, which is a document that is no object. This is for frames in which no scope is open. -/
def opensDocument (f : Frame) : Expr → Bool
  | .name n => !f.bindings.contains n && f.argument.isFieldless
  | .property target _ | .index target _ =>
    f.opensDocument target || (target.eval f.lookup).toOption.any Value.isDocument
  | _ => false

variable {f : Frame} {root raw : String} {r u v w : Value} {e t : Expr} {keys : List String}

theorem toOption_follow_concat {key : String} (ht : t.eval f.lookup = .ok w)
    (h : (r.follow raw keys).toOption = if f.opensDocument t then none else some w)
    (hstep : navigate w key = .ok v) :
    (r.follow raw (keys ++ [key])).toOption =
      if f.opensDocument t || (t.eval f.lookup).toOption.any Value.isDocument then none else some v := by
  have hany : (t.eval f.lookup).toOption.any Value.isDocument = w.isDocument := by rw [ht]; rfl
  rw [hany, Value.follow_append]
  by_cases hopens : f.opensDocument t = true
  · rw [if_pos hopens] at h
    obtain ⟨error, herror⟩ := toOption_eq_none.1 h
    rw [herror, hopens, Bool.true_or, if_pos rfl]
    rfl
  · rw [if_neg hopens, toOption_eq_some] at h
    rw [h, Bool.of_not_eq_true hopens, Bool.false_or]
    exact Value.toOption_follow_of_navigate hstep raw

theorem toOption_follow_of_steps
    (hroot : ∀ u, f.lookup root = .ok u →
      (r.follow raw [root]).toOption = if f.opensDocument (.name root) then none else some u)
    (hsteps : Steps root e keys) (heval : e.eval f.lookup = .ok v) :
    (r.follow raw (root :: keys)).toOption = if f.opensDocument e then none else some v := by
  induction hsteps generalizing v with
  | name => exact hroot v heval
  | property _ n ih =>
    obtain ⟨w, ht, hstep⟩ := except_bind_eq_ok.1 heval
    exact toOption_follow_concat ht (ih ht) hstep
  | index _ k ih =>
    obtain ⟨w, ht, hstep⟩ := except_bind_eq_ok.1 heval
    exact toOption_follow_concat ht (ih ht) hstep

theorem eq_name_of_steps (hroot : f.lookup root = .ok u) (hstuck : ∀ key w, navigate u key ≠ .ok w)
    (hsteps : Steps root e keys) (heval : e.eval f.lookup = .ok v) : e = .name root ∧ v = u := by
  rw [hsteps.eval_eq, hroot] at heval
  cases keys with
  | nil => exact ⟨hsteps.eq_name, (Except.ok.inj heval).symm⟩
  | cons key keys =>
    have hfold : (key :: keys).foldlM navigate u = .ok v := heval
    rw [List.foldlM_cons] at hfold
    obtain ⟨w, hstep, -⟩ := except_bind_eq_ok.1 hfold
    exact absurd hstep (hstuck key w)

theorem lookup_eq (hscopes : f.scopes = []) (name : String) :
    f.lookup name = match f.bindings.find? name with
      | some v => .ok v
      | none => argumentProperty f.argument name := by
  rw [lookup, hscopes]
  rfl

end Frame

/-! ### Lookup -/

namespace Binder

variable {f : Frame} {b : BoundStatement} {p : Parameter} {path : Path} {root : String} {keys : List String}
  {e : Expr} {v : Value}

theorem toOption_valueOf (argument : Value) (hpath : Path.parse p.property = .ok path) :
    (valueOf .defaults b argument p).toOption =
      if b.bindings.contains path.root then ((Value.map b.bindings).readAt path).toOption
      else if argument.isWhole then some argument else (argument.readAt path).toOption := by
  rw [valueOf_of_parse hpath, toOption_mapError, BoundStatement.hasBinding, Registry.isDirect_defaults,
    Value.isWhole]
  by_cases hbound : b.bindings.contains path.root = true
  · rw [if_pos hbound, if_pos hbound]
  · rw [if_neg hbound, if_neg hbound]
    by_cases hnull : argument.isNull = true
    · obtain rfl := Value.eq_null_of_isNull hnull
      rfl
    · rw [if_neg hnull, Bool.of_not_eq_true hnull, Bool.false_or]
      split <;> rfl

theorem find?_ofJsonFields (fields : List (String × Json)) (name : String) :
    Table.find? (Value.ofJsonFields fields) name = (Json.field? fields name).map Value.ofJson := by
  induction fields with
  | nil => rfl
  | cons field fields ih =>
    obtain ⟨k, j⟩ := field
    rw [Value.ofJsonFields, Table.find?, ih, Json.field?, Json.field?, List.lookup_cons]
    by_cases h : name = k
    · rw [if_pos h, beq_iff_eq.2 h]
      rfl
    · rw [if_neg h, beq_eq_false_iff_ne.2 h]

theorem toOption_follow_list (hident : IsIdent root) (raw : String) (items : List Value) :
    (Value.follow raw (.list items) [root]).toOption = none := by
  obtain ⟨error, hposition⟩ := hident.position?_eq_error
  rw [Value.follow_cons rfl]
  split
  · rfl
  · rfl
  · next slot hslot =>
    obtain ⟨i, hi, -, -⟩ := Value.slot?_items_eq_ok (.inl rfl) hslot
    cases hposition.symm.trans hi

theorem toOption_follow_root (argument : Value) (raw : String) {u : Value}
    (hwhole : argument.isWhole = false)
    (hroot : Frame.argumentProperty argument root = .ok u) (hident : IsIdent root) :
    ((navigable argument).follow raw [root]).toOption = if argument.isFieldless then none else some u := by
  cases argument with
  | map entries =>
    have hstep : navigate (.map entries) root = .ok u := hroot
    exact Value.toOption_follow_of_navigate hstep raw
  | record schema values =>
    have hstep : navigate (.record schema values) root = .ok u := hroot
    exact Value.toOption_follow_of_navigate hstep raw
  | json j =>
    cases j with
    | object fields =>
      obtain rfl := Except.ok.inj hroot
      show (Value.follow raw (.map (Value.ofJsonFields fields)) [root]).toOption = some _
      rw [Value.follow_map_cons, Value.follow_nil, find?_ofJsonFields]
      rfl
    | array items => exact toOption_follow_list hident raw (Value.ofJsonItems items)
    | _ => rfl
  | list items => cases hroot
  | set items => cases hroot
  | _ => cases hwhole

/-- Where evaluating a path succeeds, looking it up finds the same value, or fails because it does not go into
documents. -/
theorem toOption_valueOf_of_steps (hscopes : f.scopes = [])
    (hsame : b.bindings.find? root = f.bindings.find? root) (hident : IsIdent root)
    (hpath : Path.parse p.property = .ok path) (hroot : path.root = root) (hkeys : path.keys = root :: keys)
    (hsteps : Steps root e keys) (heval : e.eval f.lookup = .ok v) :
    (valueOf .defaults b (navigable f.argument) p).toOption = if f.opensDocument e then none else some v := by
  have hlookup := Frame.lookup_eq hscopes root
  rw [toOption_valueOf _ hpath, hroot, Table.contains, hsame, Value.isWhole_navigable]
  cases hbound : f.bindings.find? root with
  | some u =>
    rw [hbound] at hlookup hsame
    have hname : f.opensDocument (.name root) = false := by
      rw [Frame.opensDocument, Table.contains, hbound]
      rfl
    rw [Option.isSome_some, if_pos rfl, Value.readAt, hkeys]
    apply Frame.toOption_follow_of_steps _ hsteps heval
    intro u' hu'
    rw [Value.follow_map_cons, Value.follow_nil, hsame, hname]
    exact congrArg Except.toOption (hlookup.symm.trans hu')
  | none =>
    rw [hbound] at hlookup
    have hname : f.opensDocument (.name root) = f.argument.isFieldless := by
      rw [Frame.opensDocument, Table.contains, hbound]
      rfl
    rw [Option.isSome_none, if_neg Bool.false_ne_true]
    cases hwhole : f.argument.isWhole with
    | true =>
      obtain ⟨hnavigable, hfields, hargument, hstuck⟩ := Value.of_isWhole hwhole
      obtain ⟨rfl, rfl⟩ := Frame.eq_name_of_steps (hlookup.trans (hargument root)) hstuck hsteps heval
      rw [hname, hfields, hnavigable]
      rfl
    | false =>
      rw [if_neg Bool.false_ne_true, Value.readAt, hkeys]
      apply Frame.toOption_follow_of_steps _ hsteps heval
      intro u hu
      rw [hname]
      exact toOption_follow_root f.argument path.raw hwhole (hlookup.symm.trans hu) hident

/-- Expressions and placeholders read the same value for the same path. Where a path is written outside the
loops of a template that binds nothing, and its root is no variable of an iteration that comes later, it is
read as an expression; if the evaluation there succeeds, the lookup with the variables of the whole rendering
succeeds with the same value, unless the evaluation goes into a document: then the lookup fails. -/
theorem valueOf_eq_of_eval {first : Link} {rest : List Link} (hfirst : first.IsReadable)
    (hrest : ∀ l ∈ rest, l.IsReadable) {n : Node} (hn : n.BindFree) {argument : Value}
    {databaseId : Option String} {rendered : Rendered}
    (hrender : n.renderFor argument databaseId = .ok rendered)
    (hreaches : n.Reaches (.start argument databaseId) f)
    (hvariable : IsVariable first.name → rendered.bindings.contains first.name = true →
      f.bindings.contains first.name = true)
    (hproperty : p.property = String.ofList (Path.linked first rest)) (b : BoundStatement) :
    ∃ e, Expr.parse p.property = .ok e ∧ ∀ v, e.eval f.lookup = .ok v →
      (f.opensDocument e = false →
        valueOf .defaults (b.withBindings rendered.bindings) (navigable argument) p = .ok v) ∧
      (f.opensDocument e = true → ∃ error,
        valueOf .defaults (b.withBindings rendered.bindings) (navigable argument) p = .error error) := by
  obtain ⟨rfl, hscopes, hbindings⟩ := hn.of_reaches_start hrender hreaches
  have hwritten : ∀ l ∈ rest, l.IsWritten := fun l hl => (hrest l hl).isWritten
  have hpath := Path.parse_linked hfirst.isWritten hwritten
  rw [hproperty]
  refine ⟨_, Expr.parse_linked hfirst hrest, fun v heval => ?_⟩
  have hvalue := toOption_valueOf_of_steps (b := b.withBindings rendered.bindings) hscopes
    (hbindings first.name hvariable) hfirst.ident (hproperty ▸ hpath) rfl
    (Path.keys_ofLinks hfirst.isWritten hwritten) (steps_ofLinks first rest) heval
  constructor
  · intro hopens
    rw [hopens, if_neg Bool.false_ne_true] at hvalue
    exact toOption_eq_some.1 hvalue
  · intro hopens
    rw [hopens, if_pos rfl] at hvalue
    exact toOption_eq_none.1 hvalue

theorem valueOf_eq_of_eval_roles :
    ∃ rendered, (Node.conditional ⟨"true", .literal (.boolean true)⟩ (.text "select")).renderFor
        (.map [("user", .map [("roles", .list [.string "admin"])])]) none = .ok rendered ∧
      valueOf .defaults (BoundStatement.empty.withBindings rendered.bindings)
        (navigable (.map [("user", .map [("roles", .list [.string "admin"])])]))
        (.ofType (String.ofList (Path.linked ⟨"user", none⟩ [⟨"roles", some (.position 0)⟩])) .any) =
          .ok (.string "admin") := by
  have hfirst : Link.IsReadable ⟨"user", none⟩ :=
    ⟨⟨isWord_of_all (by decide), by decide⟩, fun _ h => absurd h (Option.not_mem_none _)⟩
  have hrest : ∀ l ∈ [Link.mk "roles" (some (.position 0))], l.IsReadable :=
    List.forall_mem_singleton.2 ⟨⟨isWord_of_all (by decide), by decide⟩, fun i hi => by
      obtain rfl := Option.some.inj hi
      exact .position 0⟩
  obtain ⟨rendered, hrender⟩ : ∃ rendered,
      (Node.conditional ⟨"true", .literal (.boolean true)⟩ (.text "select")).renderFor
        (.map [("user", .map [("roles", .list [.string "admin"])])]) none = .ok rendered := ⟨_, rfl⟩
  obtain ⟨e, hparse, hvalue⟩ := valueOf_eq_of_eval hfirst hrest (.conditional (.text "select")) hrender
    (.conditional rfl (.here (.text "select") _)) (fun h => absurd h (by decide))
    (p := .ofType (String.ofList (Path.linked ⟨"user", none⟩ [⟨"roles", some (.position 0)⟩])) .any)
    rfl BoundStatement.empty
  obtain rfl := Except.ok.inj (hparse.symm.trans (Expr.parse_linked hfirst hrest))
  exact ⟨rendered, hrender, (hvalue (.string "admin") rfl).1 rfl⟩

/-- A document inside a map: the guard goes into it and holds, and the lookup behind the guard fails. -/
theorem valueOf_ne_of_document :
    ∃ rendered e error, Expr.parse (String.ofList (Path.linked ⟨"doc", none⟩ [⟨"n", none⟩])) = .ok e ∧
      (Node.conditional ⟨"doc.n != null", .binary .notEqual e (.literal .null)⟩ (.text "select")).renderFor
        (.map [("doc", .json (.object [("n", .int 1)]))]) none = .ok rendered ∧
      rendered.sql = "select" ∧
      e.eval (Frame.start (.map [("doc", .json (.object [("n", .int 1)]))]) none).lookup = .ok (.int 1) ∧
      valueOf .defaults (BoundStatement.empty.withBindings rendered.bindings)
        (navigable (.map [("doc", .json (.object [("n", .int 1)]))]))
        (.ofType (String.ofList (Path.linked ⟨"doc", none⟩ [⟨"n", none⟩])) .any) = .error error := by
  have hreadable : ∀ name, IsIdent name → Link.IsReadable ⟨name, none⟩ := fun _ h =>
    ⟨h, fun _ h => absurd h (Option.not_mem_none _)⟩
  have hdoc := hreadable "doc" ⟨isWord_of_all (by decide), by decide⟩
  have hn : ∀ l ∈ [Link.mk "n" none], l.IsReadable :=
    List.forall_mem_singleton.2 (hreadable "n" ⟨isWord_of_all (by decide), by decide⟩)
  have hwritten : ∀ l ∈ [Link.mk "n" none], l.IsWritten := fun l hl => (hn l hl).isWritten
  have heval : (ofLinks ⟨"doc", none⟩ [⟨"n", none⟩]).eval
      (Frame.start (.map [("doc", .json (.object [("n", .int 1)]))]) none).lookup = .ok (.int 1) := rfl
  have hopens : (Frame.start (.map [("doc", .json (.object [("n", .int 1)]))]) none).opensDocument
      (ofLinks ⟨"doc", none⟩ [⟨"n", none⟩]) = true := rfl
  have hvalue := toOption_valueOf_of_steps
    (p := .ofType (String.ofList (Path.linked ⟨"doc", none⟩ [⟨"n", none⟩])) .any)
    (b := BoundStatement.empty.withBindings _) rfl rfl hdoc.ident (Path.parse_linked hdoc.isWritten hwritten)
    rfl (Path.keys_ofLinks hdoc.isWritten hwritten) (steps_ofLinks _ _) heval
  rw [hopens, if_pos rfl] at hvalue
  obtain ⟨error, herror⟩ := toOption_eq_none.1 hvalue
  exact ⟨⟨"select", _⟩, _, error, Expr.parse_linked hdoc hn, rfl, rfl, heval, herror⟩

end Binder

end DynamicSql
