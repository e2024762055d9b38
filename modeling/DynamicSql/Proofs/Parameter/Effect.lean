import DynamicSql.Proofs.Parameter.Memory
import DynamicSql.Proofs.Parameter.Refused

/-!
# What binding writes

Binding writes at the ordinal of each input parameter what its handler makes of its value (`Binder.inputFor`), makes
each output parameter known at its ordinal, and leaves everything else in the statement as it was (`Binder.Wrote`).
Where it fails, this is what it has done for the parameters before the one at which it fails, and of this one at
most the output has been made known (`Binder.bind_effect`).
-/

namespace DynamicSql

open Step

namespace Binder

/-- What a handler makes of the value of a parameter. Null stays as it is. -/
def converted (h : Handler) (ordinal : Nat) (p : Parameter) (v : Value) : Except BindError Value :=
  if v.isNull then .ok v else (h.convert ordinal v).mapError (BindError.forParameter p.property ordinal h.name)

/-- What is written for a parameter: what its handler makes of its value, with the SQL type for the value. -/
def inputFor (registry : Registry) (nullType : SqlType) (b : BoundStatement) (argument : Value) (ordinal : Nat)
    (p : Parameter) : Except BindError Input := do
  let v ← valueOf registry b argument p
  (converted (afresh registry p v (sqlTypeFor nullType p v)) ordinal p v).map (⟨·, sqlTypeFor nullType p v⟩)

variable {registry : Registry} {nullType : SqlType} {b : BoundStatement} {argument v : Value} {ordinal : Nat}
  {p : Parameter} {e : BindError} {store store' : Store} {s s' : Binding}

theorem sqlTypeFor_of_isNull (hv : v.isNull = true) (nullType : SqlType) (p : Parameter) :
    sqlTypeFor nullType p v = some (p.sqlType.getD nullType) := by
  rw [sqlTypeFor, hv, if_pos rfl]
  cases p.sqlType <;> rfl

theorem of_converted_error {h : Handler} (herror : converted h ordinal p v = .error e) :
    v.isNull = false ∧ ∃ reason, e = .conversion p.property ordinal h.name reason := by
  rw [converted] at herror
  split at herror
  · cases herror
  · next hnull =>
    obtain ⟨cause, hcause, rfl⟩ := mapError_eq_error.1 herror
    cases h with
    | object => cases hcause
    | coercing target =>
      obtain ⟨unfit, -, rfl⟩ := mapError_eq_error.1 hcause
      exact ⟨Bool.eq_false_iff.2 hnull, unfit.message, rfl⟩

theorem exists_cause_of_valueOf_error (h : valueOf registry b argument p = .error e) :
    ∃ cause, e = .property p.property cause := by
  rcases except_bind_eq_error.1 h with hpath | ⟨path, -, hread⟩
  · obtain ⟨cause, -, rfl⟩ := mapError_eq_error.1 hpath
    exact ⟨cause, rfl⟩
  · obtain ⟨cause, -, rfl⟩ := mapError_eq_error.1 hread
    exact ⟨cause, rfl⟩

theorem of_inputFor_error (h : inputFor registry nullType b argument ordinal p = .error e) :
    (valueOf registry b argument p = .error e ∧ ∃ cause, e = .property p.property cause) ∨
      ∃ v reason, valueOf registry b argument p = .ok v ∧ v.isNull = false ∧
        e = .conversion p.property ordinal (afresh registry p v (sqlTypeFor nullType p v)).name reason := by
  rcases except_bind_eq_error.1 h with hvalue | ⟨v, hvalue, hwrite⟩
  · exact .inl ⟨hvalue, exists_cause_of_valueOf_error hvalue⟩
  · obtain ⟨hnull, reason, heq⟩ := of_converted_error (except_map_eq_error.1 hwrite)
    exact .inr ⟨v, reason, hvalue, hnull, heq⟩

/-! ### One parameter -/

/-- The store with an input in place of the one at the ordinal. -/
def withInput (store : Store) (ordinal : Nat) (input : Input) : Store :=
  { store with inputs := store.inputs.insert ordinal input }

/-- The store with an output in place of the one at the ordinal. -/
def withOutput (store : Store) (ordinal : Nat) (output : Output) : Store :=
  { store with outputs := store.outputs.insert ordinal output }

theorem setParameter_eq (h : Handler) (hordinal : ordinal ≠ 0) (store : Store) (p : Parameter) {t : Option SqlType}
    (hnull : v.isNull = true → ∃ u, t = some u) :
    (h.setParameter store ordinal v t).mapError (BindError.forParameter p.property ordinal h.name) =
      (converted h ordinal p v).map fun w => withInput store ordinal ⟨w, t⟩ := by
  unfold Handler.setParameter
  rw [converted]
  split
  · next hv =>
    obtain ⟨u, rfl⟩ := hnull hv
    obtain rfl := Value.eq_null_of_isNull hv
    dsimp only
    rw [Store.setNull, setValue_eq_ok hordinal]
    rfl
  · cases h.convert ordinal v with
    | error e => rfl
    | ok w =>
      show (store.setValue ordinal w t).mapError _ = _
      rw [setValue_eq_ok hordinal]
      rfl

theorem writeInput_eq (hs : s.binder.Sound) (hordinal : ordinal ≠ 0) (b : BoundStatement) (argument : Value)
    (p : Parameter) :
    ∃ binder, (∀ input, inputFor s.binder.registry s.binder.nullType b argument ordinal p = .ok input →
        writeInput b argument ordinal p s = .ok () ⟨binder, withInput s.store ordinal input⟩) ∧
      ∀ e, inputFor s.binder.registry s.binder.nullType b argument ordinal p = .error e →
        writeInput b argument ordinal p s = .error e ⟨binder, s.store⟩ := by
  rw [inputFor, writeInput]
  cases valueOf s.binder.registry b argument p with
  | error cause => exact ⟨s.binder, fun _ h => (by cases h), fun e h => by cases h; rfl⟩
  | ok v =>
    have hset := setParameter_eq (t := sqlTypeFor s.binder.nullType p v)
      (afresh s.binder.registry p v (sqlTypeFor s.binder.nullType p v)) hordinal s.store p
      (fun hv => ⟨_, sqlTypeFor_of_isNull hv s.binder.nullType p⟩)
    refine ⟨(s.binder.handlerFor p v (sqlTypeFor s.binder.nullType p v)).2, fun input hinput => ?_,
      fun e hinput => ?_⟩
    · obtain ⟨w, hw, rfl⟩ := except_map_eq_ok.1 hinput
      rw [hw] at hset
      dsimp only
      rw [handlerFor_eq_afresh hs, mapError_eq_ok.1 hset]
    · have herror := hset.trans (congrArg (Except.map _) (except_map_eq_error.1 hinput))
      obtain ⟨cause, hcause, rfl⟩ := mapError_eq_error.1 herror
      dsimp only
      rw [handlerFor_eq_afresh hs, hcause]

theorem declared_eq_ok (hordinal : ordinal ≠ 0) :
    declared store ordinal p = .ok store' ↔
      (p.mode.isOutput = false ∧ store' = store) ∨
        (p.mode.isOutput = true ∧ ∃ t, p.sqlType = some t ∧
          store' = withOutput store ordinal ⟨t, p.scale, p.sqlTypeName⟩) := by
  rw [declared, registerOutput]
  cases p.mode.isOutput with
  | false => simp [eq_comm (a := store')]
  | true =>
    cases p.sqlType with
    | none => simp
    | some t =>
      have hregister : store.registerOutput ordinal ⟨t, p.scale, p.sqlTypeName⟩ =
          .ok (withOutput store ordinal ⟨t, p.scale, p.sqlTypeName⟩) := by
        rw [Store.registerOutput, checkOrdinal_eq_ok hordinal]
        rfl
      simp [hregister, eq_comm (a := store')]

theorem declared_eq_error (hordinal : ordinal ≠ 0) (h : declared store ordinal p = .error e) :
    IsUndeclared p ∧ e = .invalidParameter p.property "output parameters require a jdbcType" := by
  rw [declared, registerOutput] at h
  cases hmode : p.mode.isOutput with
  | false =>
    rw [hmode] at h
    cases h
  | true =>
    rw [hmode, if_pos rfl] at h
    cases htype : p.sqlType with
    | none =>
      rw [htype] at h
      cases h
      exact ⟨⟨hmode, htype⟩, rfl⟩
    | some t =>
      rw [htype] at h
      dsimp only at h
      rw [Store.registerOutput, checkOrdinal_eq_ok hordinal] at h
      cases h

/-- From `before` to `after` the parameters are bound, the first of them at an ordinal: each input parameter has what
is written for it, each output parameter has been declared, and nothing else has changed. -/
structure Wrote (registry : Registry) (nullType : SqlType) (b : BoundStatement) (argument : Value) (first : Nat)
    (params : List Parameter) (before after : Store) : Prop where
  input : ∀ i p, params[i]? = some p → p.mode.isInput = true →
    ∃ written, inputFor registry nullType b argument (i + first) p = .ok written ∧
      after.inputs.find? (i + first) = some written
  output : ∀ i p, params[i]? = some p → p.mode.isOutput = true →
    ∃ t, p.sqlType = some t ∧ after.outputs.find? (i + first) = some ⟨t, p.scale, p.sqlTypeName⟩
  otherInputs : ∀ ordinal, (∀ i p, params[i]? = some p → p.mode.isInput = true → ordinal ≠ i + first) →
    after.inputs.find? ordinal = before.inputs.find? ordinal
  otherOutputs : ∀ ordinal, (∀ i p, params[i]? = some p → p.mode.isOutput = true → ordinal ≠ i + first) →
    after.outputs.find? ordinal = before.outputs.find? ordinal
  results : after.results = before.results

/-- How binding fails at a parameter, given what those before it have left in the store: it is an output without an
SQL type, or its output has been declared and it has no value that can be written. -/
inductive FailsAt (registry : Registry) (nullType : SqlType) (b : BoundStatement) (argument : Value) (ordinal : Nat)
    (p : Parameter) (store : Store) : BindError → Store → Prop
  | output : IsUndeclared p → FailsAt registry nullType b argument ordinal p store
      (.invalidParameter p.property "output parameters require a jdbcType") store
  | input {e : BindError} {store' : Store} : declared store ordinal p = .ok store' → p.mode.isInput = true →
      inputFor registry nullType b argument ordinal p = .error e →
      FailsAt registry nullType b argument ordinal p store e store'

variable {first : Nat} {params : List Parameter} {before middle after : Store}

theorem of_getElem?_singleton {α : Type} {a c : α} {i : Nat} (h : [a][i]? = some c) : i = 0 ∧ a = c := by
  rw [List.getElem?_singleton] at h
  split at h
  · next hi => exact ⟨hi, Option.some.inj h⟩
  · cases h

theorem Wrote.nil (registry : Registry) (nullType : SqlType) (b : BoundStatement) (argument : Value) (first : Nat)
    (store : Store) : Wrote registry nullType b argument first [] store store where
  input _ _ h := by cases h
  output _ _ h := by cases h
  otherInputs _ _ := rfl
  otherOutputs _ _ := rfl
  results := rfl

theorem Wrote.cons (hone : Wrote registry nullType b argument first [p] before middle)
    (hrest : Wrote registry nullType b argument (first + 1) params middle after) :
    Wrote registry nullType b argument first (p :: params) before after where
  input i q hq hinput := by
    cases i with
    | zero =>
      obtain rfl : p = q := Option.some.inj hq
      obtain ⟨written, hwritten, hfind⟩ := hone.input 0 p rfl hinput
      exact ⟨written, hwritten, (hrest.otherInputs _ fun i q _ _ => by omega).trans hfind⟩
    | succ i =>
      rw [show i + 1 + first = i + (first + 1) by omega]
      exact hrest.input i q hq hinput
  output i q hq houtput := by
    cases i with
    | zero =>
      obtain rfl : p = q := Option.some.inj hq
      obtain ⟨t, ht, hfind⟩ := hone.output 0 p rfl houtput
      exact ⟨t, ht, (hrest.otherOutputs _ fun i q _ _ => by omega).trans hfind⟩
    | succ i =>
      rw [show i + 1 + first = i + (first + 1) by omega]
      exact hrest.output i q hq houtput
  otherInputs ordinal hother := by
    have hothers := hrest.otherInputs ordinal fun i q hq hinput => by
      have := hother (i + 1) q hq hinput
      omega
    refine hothers.trans (hone.otherInputs ordinal fun i q hq hinput => ?_)
    obtain ⟨rfl, rfl⟩ := of_getElem?_singleton hq
    exact hother 0 p rfl hinput
  otherOutputs ordinal hother := by
    have hothers := hrest.otherOutputs ordinal fun i q hq houtput => by
      have := hother (i + 1) q hq houtput
      omega
    refine hothers.trans (hone.otherOutputs ordinal fun i q hq houtput => ?_)
    obtain ⟨rfl, rfl⟩ := of_getElem?_singleton hq
    exact hother 0 p rfl houtput
  results := hrest.results.trans hone.results

theorem wrote_singleton (hordinal : ordinal ≠ 0) (hdeclared : declared before ordinal p = .ok middle)
    (hinput : p.mode.isInput = true → ∃ written,
      inputFor registry nullType b argument ordinal p = .ok written ∧ after = withInput middle ordinal written)
    (hnone : p.mode.isInput = false → after = middle) :
    Wrote registry nullType b argument ordinal [p] before after := by
  have houtputs : after.outputs = middle.outputs ∧ after.results = middle.results := by
    cases hmode : p.mode.isInput with
    | false => rw [hnone hmode]; exact ⟨rfl, rfl⟩
    | true =>
      obtain ⟨written, -, rfl⟩ := hinput hmode
      exact ⟨rfl, rfl⟩
  have hinputs : middle.inputs = before.inputs ∧ middle.results = before.results := by
    rcases (declared_eq_ok hordinal).1 hdeclared with ⟨-, rfl⟩ | ⟨-, t, -, rfl⟩ <;> exact ⟨rfl, rfl⟩
  refine ⟨fun i q hq hmode => ?_, fun i q hq hmode => ?_, fun o ho => ?_, fun o ho => ?_,
    houtputs.2.trans hinputs.2⟩
  · obtain ⟨rfl, rfl⟩ := of_getElem?_singleton hq
    obtain ⟨written, hwritten, rfl⟩ := hinput hmode
    rw [Nat.zero_add]
    exact ⟨written, hwritten, Table.find?_insert_self _ _ _⟩
  · obtain ⟨rfl, rfl⟩ := of_getElem?_singleton hq
    rw [Nat.zero_add, houtputs.1]
    rcases (declared_eq_ok hordinal).1 hdeclared with ⟨hnot, -⟩ | ⟨-, t, ht, rfl⟩
    · cases hnot.symm.trans hmode
    · exact ⟨t, ht, Table.find?_insert_self _ _ _⟩
  · rw [← hinputs.1]
    cases hmode : p.mode.isInput with
    | false => rw [hnone hmode]
    | true =>
      obtain ⟨written, -, rfl⟩ := hinput hmode
      exact Table.find?_insert_of_ne _ _ fun heq => ho 0 p rfl hmode (by omega)
  · rw [houtputs.1]
    rcases (declared_eq_ok hordinal).1 hdeclared with ⟨-, rfl⟩ | ⟨hmode, t, -, rfl⟩
    · rfl
    · exact Table.find?_insert_of_ne _ _ fun heq => ho 0 p rfl hmode (by omega)

/-- Binding one parameter writes what belongs to it and nothing else, or fails at it. -/
theorem bindOne_effect (hs : s.binder.Sound) (hordinal : ordinal ≠ 0) (b : BoundStatement) (argument : Value)
    (p : Parameter) :
    (∀ s', bindOne b argument ordinal p s = .ok () s' →
      Wrote s.binder.registry s.binder.nullType b argument ordinal [p] s.store s'.store) ∧
    ∀ e s', bindOne b argument ordinal p s = .error e s' →
      FailsAt s.binder.registry s.binder.nullType b argument ordinal p s.store e s'.store := by
  cases hdeclared : declared s.store ordinal p with
  | error cause =>
    obtain ⟨hundeclared, rfl⟩ := declared_eq_error hordinal hdeclared
    rw [bindOne_of_not_declared hdeclared]
    refine ⟨fun _ h => (by cases h), fun e s' h => ?_⟩
    cases h
    exact .output hundeclared
  | ok store =>
    rw [bindOne_of_declared hdeclared]
    cases hmode : p.mode.isInput with
    | false =>
      refine ⟨fun s' h => ?_, fun _ _ h => (by cases h)⟩
      cases h
      exact wrote_singleton hordinal hdeclared (fun hinput => (Bool.false_ne_true (hmode.symm.trans hinput)).elim)
        fun _ => rfl
    | true =>
      obtain ⟨binder, hok, herror⟩ := writeInput_eq (s := { s with store }) hs hordinal b argument p
      rw [if_pos rfl]
      cases hinput : inputFor s.binder.registry s.binder.nullType b argument ordinal p with
      | ok written =>
        rw [hok written hinput]
        refine ⟨fun s' h => ?_, fun _ _ h => (by cases h)⟩
        cases h
        exact wrote_singleton hordinal hdeclared (fun _ => ⟨written, hinput, rfl⟩)
          fun hnone => (Bool.false_ne_true (hnone.symm.trans hmode)).elim
      | error cause =>
        rw [herror cause hinput]
        refine ⟨fun _ h => (by cases h), fun e s' h => ?_⟩
        cases h
        exact .input hdeclared hmode hinput

/-! ### All parameters -/

theorem bindFrom_effect (hs : s.binder.Sound) (hfirst : first ≠ 0) (b : BoundStatement) (argument : Value)
    (params : List Parameter) :
    (∀ s', bindFrom b argument first params s = .ok () s' →
      Wrote s.binder.registry s.binder.nullType b argument first params s.store s'.store) ∧
    ∀ e s', bindFrom b argument first params s = .error e s' →
      ∃ k p middle, params[k]? = some p ∧
        Wrote s.binder.registry s.binder.nullType b argument first (params.take k) s.store middle ∧
        FailsAt s.binder.registry s.binder.nullType b argument (k + first) p middle e s'.store := by
  induction params generalizing first s with
  | nil =>
    refine ⟨fun s' h => ?_, fun _ _ h => (by cases h)⟩
    cases h
    exact .nil _ _ b argument first s.store
  | cons p params ih =>
    obtain ⟨hok, herror⟩ := bindOne_effect hs hfirst b argument p
    have hextends := bindOne_preserves b argument first p s (.refl s.binder)
    rw [bindFrom]
    cases hone : bindOne b argument first p s with
    | error cause t =>
      rw [bind_of_error hone]
      refine ⟨fun _ h => (by cases h), fun e s' h => ?_⟩
      cases h
      exact ⟨0, p, s.store, rfl, .nil _ _ b argument first s.store, (Nat.zero_add first).symm ▸ herror _ _ hone⟩
    | ok u t =>
      rw [hone] at hextends
      rw [bind_of_ok hone]
      obtain ⟨hokRest, herrorRest⟩ := ih (hextends.sound hs) (Nat.succ_ne_zero first)
      rw [hextends.registry, hextends.nullType] at hokRest herrorRest
      have hfirstOne := hok t hone
      refine ⟨fun s' h => hfirstOne.cons (hokRest s' h), fun e s' h => ?_⟩
      obtain ⟨k, q, middle, hq, hwrote, hfails⟩ := herrorRest e s' h
      refine ⟨k + 1, q, middle, hq, hfirstOne.cons hwrote, ?_⟩
      rw [show k + 1 + first = k + (first + 1) by omega]
      exact hfails

theorem FailsAt.store_eq (h : FailsAt registry nullType b argument ordinal p middle e after)
    (hordinal : ordinal ≠ 0) :
    after = middle ∨ p.mode.isOutput = true ∧ ∃ t, p.sqlType = some t ∧
      after = withOutput middle ordinal ⟨t, p.scale, p.sqlTypeName⟩ := by
  cases h with
  | output => exact .inl rfl
  | input hdeclared =>
    exact ((declared_eq_ok hordinal).1 hdeclared).imp (·.2) id

theorem FailsAt.of_isNull (h : FailsAt registry nullType b argument ordinal p middle e after)
    (hvalue : valueOf registry b argument p = .ok v) (hnull : v.isNull = true) : IsUndeclared p := by
  cases h with
  | output hundeclared => exact hundeclared
  | input _ _ herror =>
    rcases of_inputFor_error herror with ⟨hnone, -⟩ | ⟨w, reason, hw, hwrite, -⟩
    · cases hvalue.symm.trans hnone
    · obtain rfl : v = w := Except.ok.inj (hvalue.symm.trans hw)
      cases hnull.symm.trans hwrite

theorem FailsAt.ne_untypedNull (h : FailsAt registry nullType b argument ordinal p middle e after) (o : Nat) :
    e ≠ .untypedNull o := by
  cases h with
  | output => exact BindError.noConfusion
  | input _ _ herror =>
    rcases of_inputFor_error herror with ⟨-, cause, rfl⟩ | ⟨w, reason, -, -, rfl⟩
    · exact BindError.noConfusion
    · exact BindError.noConfusion

theorem FailsAt.of_conversion {name handler reason : String} {o : Nat}
    (h : FailsAt registry nullType b argument ordinal p middle (.conversion name o handler reason) after) :
    name = p.property ∧ o = ordinal ∧ ∃ v, valueOf registry b argument p = .ok v ∧
      handler = (afresh registry p v (sqlTypeFor nullType p v)).name := by
  cases h with
  | input _ _ herror =>
    rcases of_inputFor_error herror with ⟨-, cause, heq⟩ | ⟨v, reason', hvalue, -, heq⟩
    · cases heq
    · obtain ⟨rfl, rfl, rfl, -⟩ := BindError.conversion.inj heq
      exact ⟨rfl, rfl, v, hvalue, rfl⟩

theorem Wrote.find?_of_le {k : Nat} (h : Wrote registry nullType b argument 1 (params.take k) before after)
    (hle : k < ordinal) :
    after.inputs.find? ordinal = before.inputs.find? ordinal ∧
      after.outputs.find? ordinal = before.outputs.find? ordinal := by
  have hlt : ∀ {i : Nat} {q : Parameter}, (params.take k)[i]? = some q → i < k := by
    intro i q hq
    by_contra hge
    rw [List.getElem?_take_eq_none (Nat.not_lt.1 hge)] at hq
    cases hq
  constructor
  · exact h.otherInputs ordinal fun i q hq _ => by have := hlt hq; omega
  · exact h.otherOutputs ordinal fun i q hq _ => by have := hlt hq; omega

/-- Binding a statement that succeeds writes at each ordinal what belongs to the parameter there, and leaves all else
in the store as it was. Where it fails, the number of markers is wrong and nothing is written, or it fails at a
parameter: then it has done so for those before it, and at most the output of this parameter has been made known. Null
is never refused because its SQL type is not known, and a failed conversion tells which parameter it was for. -/
theorem bind_effect (hs : s.binder.Sound) (b : BoundStatement) (argument : Value) :
    (∀ s', bind b argument s = .ok () s' →
      Wrote s.binder.registry s.binder.nullType b (navigable argument) 1 b.parameters s.store s'.store) ∧
    ∀ e s', bind b argument s = .error e s' →
      (∀ ordinal, e ≠ .untypedNull ordinal) ∧
      (b.validate = .error e ∧ s'.store = s.store ∨
        ∃ k p middle, b.parameters[k]? = some p ∧
          Wrote s.binder.registry s.binder.nullType b (navigable argument) 1 (b.parameters.take k) s.store middle ∧
          FailsAt s.binder.registry s.binder.nullType b (navigable argument) (k + 1) p middle e s'.store ∧
          (s'.store = middle ∨ p.mode.isOutput = true ∧ ∃ t, p.sqlType = some t ∧
            s'.store = withOutput middle (k + 1) ⟨t, p.scale, p.sqlTypeName⟩) ∧
          (∀ ordinal, k < ordinal → s'.store.inputs.find? ordinal = s.store.inputs.find? ordinal) ∧
          (∀ ordinal, k + 1 < ordinal → s'.store.outputs.find? ordinal = s.store.outputs.find? ordinal) ∧
          (∀ v, valueOf s.binder.registry b (navigable argument) p = .ok v → v.isNull = true → IsUndeclared p) ∧
          ∀ name ordinal handler reason, e = .conversion name ordinal handler reason →
            name = p.property ∧ ordinal = k + 1 ∧
              ∃ v, valueOf s.binder.registry b (navigable argument) p = .ok v ∧
                handler = (afresh s.binder.registry p v (sqlTypeFor s.binder.nullType p v)).name) := by
  rw [bind]
  cases hvalid : b.validate with
  | error cause =>
    refine ⟨fun _ h => (by cases h), fun e s' h => ?_⟩
    cases h
    refine ⟨fun ordinal => ?_, .inl ⟨rfl, rfl⟩⟩
    rintro rfl
    rw [BoundStatement.validate] at hvalid
    split at hvalid <;> cases hvalid
  | ok u =>
    obtain ⟨hok, herror⟩ := bindFrom_effect hs Nat.one_ne_zero b (navigable argument) b.parameters
    refine ⟨hok, fun e s' h => ?_⟩
    obtain ⟨k, p, middle, hp, hwrote, hfails⟩ := herror e s' h
    have hstore := hfails.store_eq (Nat.succ_ne_zero k)
    refine ⟨hfails.ne_untypedNull, .inr ⟨k, p, middle, hp, hwrote, hfails, hstore, fun ordinal hlt => ?_,
      fun ordinal hlt => ?_, fun v => hfails.of_isNull, ?_⟩⟩
    · have hbefore := (hwrote.find?_of_le hlt).1
      rcases hstore with heq | ⟨-, t, -, heq⟩ <;> rw [heq] <;> exact hbefore
    · have hbefore := (hwrote.find?_of_le (Nat.lt_of_succ_lt hlt)).2
      rcases hstore with heq | ⟨-, t, -, heq⟩
      · rw [heq]
        exact hbefore
      · rw [heq]
        exact (Table.find?_insert_of_ne _ _ (by omega)).trans hbefore
    · rintro name ordinal handler reason rfl
      exact hfails.of_conversion

/-! ### A value that is refused -/

/-- A parameter that is passed on as it is, and is an output as well. -/
def passedOn : Parameter :=
  { Parameter.ofType "a" .any with handler := some .object, mode := .both, sqlType := some .integer }

/-- A parameter that has to be a whole number, and is an output as well. -/
def wholeNumber : Parameter :=
  { Parameter.ofType "b" .any with handler := some (.coercing .int), mode := .both, sqlType := some .integer }

/-- A call with both, where the second one is no number. -/
def partlyBound : BoundStatement :=
  ⟨"f(?, ?)".toList, [2, 5], [passedOn, wholeNumber], [("a", .int 1), ("b", .string "x")]⟩

def unbound : Binding := ⟨.new .defaults .null, .empty⟩

/-- The second value is refused: the first one has been written, and of the second one nothing but the output is known
to the statement. -/
theorem bind_partlyBound :
    unbound.binder.Sound ∧ ∃ reason s',
      bind partlyBound .null unbound = .error (.conversion "b" 2 "longHandler" reason) s' ∧
      (∃ written, inputFor .defaults .null partlyBound .null 1 passedOn = .ok written ∧
        s'.store.inputs.find? 1 = some written) ∧
      (∀ ordinal, 1 < ordinal → s'.store.inputs.find? ordinal = none) ∧
      ∀ ordinal, 2 < ordinal → s'.store.outputs.find? ordinal = none := by
  obtain ⟨reason, s', hfails⟩ : ∃ reason s',
      bind partlyBound .null unbound = .error (.conversion "b" 2 "longHandler" reason) s' := ⟨_, _, rfl⟩
  refine ⟨sound_new _ _, reason, s', hfails, ?_⟩
  have heffect := (bind_effect (sound_new .defaults .null) partlyBound .null).2 _ s' hfails
  rcases heffect.2 with ⟨hvalid, -⟩ | ⟨k, p, middle, -, hwrote, -, hstore, hinputs, houtputs, -, hconversion⟩
  · cases hvalid
  · obtain ⟨-, hk, -⟩ := hconversion _ _ _ _ rfl
    obtain rfl : k = 1 := by omega
    obtain ⟨written, hwritten, hfind⟩ := hwrote.input 0 passedOn rfl rfl
    refine ⟨⟨written, hwritten, ?_⟩, hinputs, houtputs⟩
    rcases hstore with heq | ⟨-, t, -, heq⟩ <;> rw [heq] <;> exact hfind

end Binder

end DynamicSql
