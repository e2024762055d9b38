import DynamicSql.Proofs.Parameter.Agreement

/-!
# What is refused

A placeholder that cannot be resolved is refused for what is written in it, whatever the values are
(`Resolver.isConfiguration_of_resolve`). Binding refuses what is written only in one place: an output
parameter without an SQL type cannot be made known to the statement (`Binder.bind_isConfiguration_iff`). All
else that it refuses are values.
-/

namespace DynamicSql

open Step

/-! ### Placeholders -/

/-- The error lies in a placeholder, and not in a value. -/
def BindError.IsConfiguration (e : BindError) : Prop := e.isConfiguration = true

open BindError (IsConfiguration)

namespace Resolver

theorem failsWith_data {α : Type} (x : Except DataError α) :
    FailsWith IsConfiguration (x.mapError .data) := by
  refine .mapError (fun e => ?_) x
  rfl

theorem failsWith_modeOfName (name : String) : FailsWith IsConfiguration (Mode.ofName name) := by
  unfold Mode.ofName
  dsimp only
  split_ifs
  · exact .ok _
  · exact .ok _
  · exact .ok _
  · exact .error rfl

theorem failsWith_parse (body : String) : FailsWith IsConfiguration (Placeholder.parse body) := by
  rw [Placeholder.parse]
  cases Placeholder.read body.toList with
  | ok p => exact .ok p
  | error fault => exact .error rfl

variable {r : Resolver}

theorem failsWith_applyAttribute (r : Resolver) (body : String) (sqlType : Option SqlType) (p : Parameter)
    (name value : String) :
    FailsWith IsConfiguration (r.applyAttribute body sqlType p name value) := by
  unfold applyAttribute
  split
  · exact (failsWith_data _).bind fun _ => .ok _
  · exact .ok _
  · exact (failsWith_modeOfName value).bind fun _ => .ok _
  · split
    · exact .ok _
    · exact .error rfl
  · exact .ok _
  · exact .ok _
  · exact .ok _
  · exact .ok _
  · exact .error rfl
  · exact .error rfl

theorem failsWith_requestedHandler (r : Resolver) (attributes : List (String × String)) :
    FailsWith IsConfiguration (r.requestedHandler attributes) := by
  unfold requestedHandler
  split
  · exact .ok _
  · split
    · exact .ok _
    · exact .error rfl

theorem failsWith_declaredSqlType (p : Placeholder) :
    FailsWith IsConfiguration (declaredSqlType p) := by
  unfold declaredSqlType
  split
  · exact .ok _
  · exact (failsWith_data _).map _

theorem failsWith_parameter (r : Resolver) (body : String) :
    FailsWith IsConfiguration (r.parameter body) := by
  rw [parameter]
  refine (failsWith_parse body).bind fun placeholder => ?_
  refine (failsWith_declaredSqlType placeholder).bind fun sqlType => ?_
  refine FailsWith.bind ?_ fun p => ?_
  · exact .foldlM (fun p (a : String × String) => r.failsWith_applyAttribute body sqlType p a.1 a.2) _ _
  · exact (r.failsWith_requestedHandler placeholder.attributes).bind fun _ => .ok _

theorem failsWith_part (r : Resolver) (piece : Piece) :
    FailsWith IsConfiguration (r.part piece) := by
  cases piece with
  | plain text => exact .ok _
  | token body => exact (r.failsWith_parameter _).map _

theorem failsWith_resolve (r : Resolver) (sql : String) :
    FailsWith IsConfiguration (r.resolve sql) := by
  rw [resolve_eq]
  exact (FailsWith.mapM fun piece _ => r.failsWith_part piece).map _

/-- A text is resolved just if each of its placeholders is. -/
theorem exists_resolve_iff {sql : String} :
    (∃ b, r.resolve sql = .ok b) ↔
      ∀ body ∈ placeholdersIn sql, ∃ p, r.parameter (String.ofList body) = .ok p := by
  constructor
  · rintro ⟨b, hb⟩ body hbody
    obtain ⟨p, -, hp⟩ := exists_mem_of_forall₂ (forall₂_placeholdersIn hb) body hbody
    exact ⟨p, hp⟩
  · intro h
    have hparts : ∀ piece ∈ Delimiters.placeholder.pieces false sql.toList, ∃ part,
        r.part piece = .ok part := by
      intro piece hpiece
      cases piece with
      | plain text => exact ⟨_, rfl⟩
      | token body =>
        obtain ⟨p, hp⟩ := h body (List.mem_filterMap.2 ⟨_, hpiece, rfl⟩)
        exact ⟨_, except_map_eq_ok.2 ⟨p, hp, rfl⟩⟩
    obtain ⟨parts, hparts⟩ := exists_forall₂ hparts
    exact ⟨_, resolve_eq_ok.2 ⟨parts, mapM_eq_ok.2 hparts, rfl⟩⟩

theorem exists_resolve_error_iff {sql : String} :
    (∃ e, r.resolve sql = .error e) ↔
      ∃ body ∈ placeholdersIn sql, ∃ e, r.parameter (String.ofList body) = .error e := by
  constructor
  · rintro ⟨e, he⟩
    by_contra hnone
    obtain ⟨b, hb⟩ := exists_resolve_iff.2 fun body hbody => by
      cases hp : r.parameter (String.ofList body) with
      | ok p => exact ⟨p, rfl⟩
      | error e => exact absurd ⟨body, hbody, e, hp⟩ hnone
    cases he.symm.trans hb
  · rintro ⟨body, hbody, e, hp⟩
    cases hresolve : r.resolve sql with
    | error e => exact ⟨e, rfl⟩
    | ok b =>
      obtain ⟨p, hp'⟩ := exists_resolve_iff.1 ⟨b, hresolve⟩ body hbody
      cases hp.symm.trans hp'

end Resolver

/-! ### Values -/

namespace Binder

variable {b : BoundStatement} {argument : Value} {p : Parameter} {ordinal : Nat}

theorem failsWith_valueOf (registry : Registry) (b : BoundStatement) (argument : Value) (p : Parameter) :
    FailsWith (¬ IsConfiguration ·) (valueOf registry b argument p) := by
  have hproperty : ∀ {α : Type} (x : Except DataError α),
      FailsWith (¬ IsConfiguration ·) (x.mapError (.property p.property)) := by
    refine fun x => .mapError (fun e => ?_) x
    exact Bool.false_ne_true
  rw [valueOf]
  exact (hproperty _).bind fun _ => hproperty _

theorem failsWith_checkOrdinal (ordinal : Nat) :
    FailsWith (¬ IsConfiguration ·) (Store.checkOrdinal ordinal) := by
  rw [Store.checkOrdinal]
  split
  · exact .error Bool.false_ne_true
  · exact .ok ()

theorem failsWith_setValue (store : Store) (ordinal : Nat) (v : Value) (t : Option SqlType) :
    FailsWith (¬ IsConfiguration ·) (store.setValue ordinal v t) :=
  (failsWith_checkOrdinal ordinal).bind fun _ => .ok _

theorem failsWith_setParameter (h : Handler) (store : Store) (ordinal : Nat) (v : Value)
    (t : Option SqlType) : FailsWith (¬ IsConfiguration ·) (h.setParameter store ordinal v t) := by
  unfold Handler.setParameter
  split
  · split
    · exact failsWith_setValue store ordinal .null _
    · exact .error Bool.false_ne_true
  · refine FailsWith.bind (fun e he => ?_) fun w => failsWith_setValue store ordinal w t
    cases h with
    | object => cases he
    | coercing target =>
      obtain ⟨unfit, -, rfl⟩ := mapError_eq_error.1 he
      exact Bool.false_ne_true

theorem of_writeInput_error {s s' : Binding} {e : BindError}
    (h : writeInput b argument ordinal p s = .error e s') : ¬ IsConfiguration e := by
  rw [writeInput] at h
  split at h
  · next hvalue =>
    cases h
    exact failsWith_valueOf _ _ _ _ e hvalue
  · dsimp only at h
    split at h
    · cases h
    · next cause hset =>
      cases h
      have hcause := failsWith_setParameter _ _ _ _ _ cause hset
      cases cause <;> exact hcause

theorem of_declareOutput_error {s s' : Binding} {e : BindError} (h : declareOutput ordinal p s = .error e s')
    (he : IsConfiguration e) : p.sqlType = none := by
  rw [declareOutput, registerOutput] at h
  cases htype : p.sqlType with
  | none => rfl
  | some t =>
    rw [htype] at h
    dsimp only at h
    split at h
    · cases h
    · next cause hregister =>
      cases h
      exact absurd he ((failsWith_checkOrdinal ordinal).bind (fun _ => .ok _) e hregister)

theorem declareOutput_untyped (hp : p.sqlType = none) (s : Binding) :
    declareOutput ordinal p s =
      .error (.invalidParameter p.property "output parameters require a jdbcType") s := by
  rw [declareOutput, registerOutput, hp]

theorem bindOne_eq (b : BoundStatement) (argument : Value) (ordinal : Nat) (p : Parameter) :
    bindOne b argument ordinal p =
      (if p.mode.isOutput then declareOutput ordinal p else pure ()) >>= fun _ =>
        if p.mode.isInput then writeInput b argument ordinal p else pure () := by
  rw [bindOne]
  split <;> rfl

/-- The parameter takes a value out of the statement, and its SQL type is not known. -/
def IsUndeclared (p : Parameter) : Prop := p.mode.isOutput = true ∧ p.sqlType = none

theorem bindOne_isConfiguration_iff (s : Binding) :
    (∃ e s', bindOne b argument ordinal p s = .error e s' ∧ IsConfiguration e) ↔ IsUndeclared p := by
  rw [bindOne_eq]
  constructor
  · rintro ⟨e, s', h, he⟩
    rcases bind_eq_error.1 h with h | ⟨_, t, -, h⟩
    · split at h
      · next houtput => exact ⟨houtput, of_declareOutput_error h he⟩
      · cases h
    · split at h
      · exact absurd he (of_writeInput_error h)
      · cases h
  · rintro ⟨houtput, htype⟩
    rw [if_pos houtput, bind_of_error (declareOutput_untyped htype s)]
    exact ⟨_, _, rfl, rfl⟩

theorem bindFrom_isConfiguration_iff (params : List Parameter) (ordinal : Nat) (s : Binding) :
    (∃ e s', bindFrom b argument ordinal params s = .error e s' ∧ IsConfiguration e) ↔
      ∃ before p after s', params = before ++ p :: after ∧
        bindFrom b argument ordinal before s = .ok () s' ∧ IsUndeclared p := by
  induction params generalizing ordinal s with
  | nil =>
    constructor
    · rintro ⟨e, s', h, -⟩
      cases h
    · rintro ⟨before, p, after, s', h, -⟩
      exact absurd h.symm (List.append_ne_nil_of_right_ne_nil _ (List.cons_ne_nil _ _))
  | cons p params ih =>
    rw [bindFrom]
    constructor
    · rintro ⟨e, s', h, he⟩
      rcases bind_eq_error.1 h with hone | ⟨⟨⟩, t, hone, hrest⟩
      · have hp := (bindOne_isConfiguration_iff s).1 ⟨e, s', hone, he⟩
        exact ⟨[], p, params, s, rfl, rfl, hp⟩
      · obtain ⟨before, q, after, t', rfl, hbefore, hq⟩ := (ih (ordinal + 1) t).1 ⟨e, s', hrest, he⟩
        refine ⟨p :: before, q, after, t', rfl, ?_, hq⟩
        rw [bindFrom, bind_of_ok hone]
        exact hbefore
    · rintro ⟨before, q, after, t', hparams, hbefore, hq⟩
      cases before with
      | nil =>
        obtain ⟨rfl, rfl⟩ := List.cons.inj hparams
        obtain ⟨e, s', hone, he⟩ := (bindOne_isConfiguration_iff s).2 hq
        exact ⟨e, s', bind_of_error hone _, he⟩
      | cons p' before =>
        obtain ⟨rfl, rfl⟩ := List.cons.inj hparams
        rw [bindFrom] at hbefore
        obtain ⟨⟨⟩, t, hone, hbefore⟩ := bind_eq_ok.1 hbefore
        obtain ⟨e, s', hrest, he⟩ := (ih (ordinal + 1) t).2 ⟨before, q, after, t', rfl, hbefore, hq⟩
        rw [bind_of_ok hone]
        exact ⟨e, s', hrest, he⟩

theorem bind_isConfiguration_iff (hvalid : b.validate = .ok ()) (s : Binding) :
    (∃ e s', bind b argument s = .error e s' ∧ IsConfiguration e) ↔
      ∃ before p after s', b.parameters = before ++ p :: after ∧
        bindFrom b (navigable argument) 1 before s = .ok () s' ∧ IsUndeclared p := by
  rw [bind, hvalid]
  exact bindFrom_isConfiguration_iff b.parameters 1 s

end Binder

end DynamicSql
