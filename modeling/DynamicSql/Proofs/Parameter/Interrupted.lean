import DynamicSql.Proofs.Parameter.Outputs
import DynamicSql.Proofs.Path.Atomic

/-!
# Outputs up to a failing one

The values of output parameters are brought into the argument one after the other, and the first one that fails ends
it. Writing a single value is all or nothing, so nothing of the failing one is left; but the values of the parameters
before it stay in the argument (`Binder.applyOutputs_interrupted`). Bringing in all of them is therefore all or
nothing only where what was written before was in the argument already, as where the first output fails.
-/

namespace DynamicSql

open Step

namespace Value

theorem isNavigable_of_isScalar {v : Value} (h : v.dataType.isScalar = true) : v.isNavigable = false := by
  cases v <;> first | rfl | cases h

theorem Ordered.coerce {v w : Value} (hv : v.Ordered) {target : DataType} (h : v.coerce target = .ok w) :
    w.Ordered := by
  by_cases hscalar : target.isScalar = true
  · apply ordered_of_not_isNavigable
    apply isNavigable_of_isScalar
    rw [dataType_coerce hscalar h]
    exact hscalar
  · rw [coerce_of_not_isScalar (Bool.eq_false_iff.2 hscalar)] at h
    rwa [← Except.ok.inj h]

end Value

namespace Binder

variable {registry : Registry} {store : Store} {ordinal : Nat} {p : Parameter} {argument argument' : Value}
  {e : BindError}

theorem ordered_result {h : Handler} {v w : Value} (hv : v.Ordered) (hresult : h.result v = .ok w) :
    w.Ordered := by
  rw [Handler.result] at hresult
  split at hresult
  · rwa [← Except.ok.inj hresult]
  · cases h with
    | object => rwa [← Except.ok.inj hresult]
    | coercing target => exact hv.coerce (mapError_eq_ok.1 hresult)

theorem ordered_outputOf (hstore : ∀ v ∈ store.results.values, v.Ordered) {v : Value} {path : Path}
    (h : outputOf registry store ordinal p = .ok (v, path)) : v.Ordered := by
  rw [outputOf] at h
  split at h
  · cases h
  · next raw hraw =>
    dsimp only at h
    obtain ⟨w, hw, h⟩ := except_bind_eq_ok.1 h
    obtain ⟨path', -, h⟩ := except_bind_eq_ok.1 h
    obtain ⟨rfl, -⟩ := Prod.mk.inj (Except.ok.inj h)
    exact ordered_result (hstore raw (Table.mem_values_of_find? hraw)) (mapError_eq_ok.1 hw)

/-! ### One output -/

/-- How bringing an output parameter into an argument fails: the statement has no value for it, its handler refuses
the value, its path cannot be read, or the place that the path names cannot be written. -/
inductive OutputFails (registry : Registry) (store : Store) (argument : Value) (ordinal : Nat) (p : Parameter) :
    BindError → Prop
  | missing (h : store.output? ordinal = none) :
      OutputFails registry store argument ordinal p (.missingOutput ordinal p.sqlType)
  | refused {raw : Value} {cause : BindError} (h : store.output? ordinal = some raw)
      (hresult : (outputHandler registry p).result raw = .error cause) :
      OutputFails registry store argument ordinal p
        (cause.forParameter p.property ordinal (outputHandler registry p).name)
  | unreadable {raw v : Value} {cause : DataError} (h : store.output? ordinal = some raw)
      (hresult : (outputHandler registry p).result raw = .ok v) (hpath : Path.parse p.property = .error cause) :
      OutputFails registry store argument ordinal p (.property p.property cause)
  | unwritable {v : Value} {path : Path} {cause : DataError}
      (h : outputOf registry store ordinal p = .ok (v, path))
      (hwrite : (argument.writeAt path v).error = some cause) :
      OutputFails registry store argument ordinal p (.property p.property cause)

theorem outputFails_of_outputOf (argument : Value) (h : outputOf registry store ordinal p = .error e) :
    OutputFails registry store argument ordinal p e := by
  rw [outputOf] at h
  split at h
  · next hnone =>
    obtain rfl := Except.error.inj h
    exact .missing hnone
  · next raw hraw =>
    dsimp only at h
    rcases except_bind_eq_error.1 h with hresult | ⟨v, hv, h⟩
    · obtain ⟨cause, hcause, rfl⟩ := mapError_eq_error.1 hresult
      exact .refused hraw hcause
    · rcases except_bind_eq_error.1 h with hpath | ⟨path, -, h⟩
      · obtain ⟨cause, hcause, rfl⟩ := mapError_eq_error.1 hpath
        exact .unreadable hraw (mapError_eq_ok.1 hv) hcause
      · cases h

/-- An output that fails leaves the argument as it was. -/
theorem of_applyOne_error (hargument : argument.Ordered)
    (h : applyOne registry store ordinal p argument = .error e argument') :
    p.mode.isOutput = true ∧ OutputFails registry store argument ordinal p e ∧ argument' = argument := by
  cases hout : p.mode.isOutput with
  | false =>
    rw [applyOne_input hout] at h
    cases h
  | true =>
    rw [applyOne, if_pos hout] at h
    split at h
    · next cause houtput =>
      obtain ⟨rfl, rfl⟩ := EStateM.Result.error.inj h
      exact ⟨rfl, outputFails_of_outputOf _ houtput, rfl⟩
    · next v path houtput =>
      dsimp only at h
      split at h
      · cases h
      · next cause hwrite =>
        obtain ⟨rfl, rfl⟩ := EStateM.Result.error.inj h
        -- a write that fails has taken back what it did
        refine ⟨rfl, .unwritable houtput hwrite, Value.writeAt_eq_self hargument ?_⟩
        rw [hwrite]
        exact Option.some_ne_none cause

theorem ordered_applyOne (hstore : ∀ v ∈ store.results.values, v.Ordered) (hargument : argument.Ordered)
    (h : applyOne registry store ordinal p argument = .ok () argument') : argument'.Ordered := by
  cases hout : p.mode.isOutput with
  | false =>
    rw [applyOne_input hout] at h
    obtain ⟨-, rfl⟩ := EStateM.Result.ok.inj h
    exact hargument
  | true =>
    obtain ⟨v, path, houtput, -, rfl⟩ := (applyOne_eq_ok hout).1 h
    exact hargument.writeAt (ordered_outputOf hstore houtput) path

/-- If the parameter is an output parameter, its value is in the argument already, and is not null. -/
def Stands (registry : Registry) (store : Store) (argument : Value) (ordinal : Nat) (p : Parameter) : Prop :=
  p.mode.isOutput = true → ∀ v path, outputOf registry store ordinal p = .ok (v, path) →
    v ≠ .null ∧ argument.readAt path = .ok v

theorem applyOne_of_stands (hargument : argument.Ordered) (hp : Stands registry store argument ordinal p)
    (h : applyOne registry store ordinal p argument = .ok () argument') : argument' = argument := by
  cases hout : p.mode.isOutput with
  | false =>
    rw [applyOne_input hout] at h
    exact (EStateM.Result.ok.inj h).2.symm
  | true =>
    obtain ⟨v, path, houtput, -, rfl⟩ := (applyOne_eq_ok hout).1 h
    obtain ⟨hnull, hread⟩ := hp hout v path houtput
    exact Value.writeAt_of_readAt hargument hnull hread

/-! ### All outputs -/

theorem ordered_applyFrom (hstore : ∀ v ∈ store.results.values, v.Ordered) {ps : List Parameter}
    (hargument : argument.Ordered) (h : applyFrom registry store ordinal ps argument = .ok () argument') :
    argument'.Ordered := by
  induction ps generalizing ordinal argument with
  | nil =>
    obtain ⟨-, rfl⟩ := EStateM.Result.ok.inj h
    exact hargument
  | cons p ps ih =>
    obtain ⟨_, argument₁, hone, hrest⟩ := Step.bind_eq_ok.1 h
    exact ih (ordered_applyOne hstore hargument hone) hrest

theorem applyFrom_of_stands {ps : List Parameter} (hargument : argument.Ordered)
    (hps : ∀ i (hi : i < ps.length), Stands registry store argument (ordinal + i) ps[i])
    (h : applyFrom registry store ordinal ps argument = .ok () argument') : argument' = argument := by
  induction ps generalizing ordinal with
  | nil => exact (EStateM.Result.ok.inj h).2.symm
  | cons p ps ih =>
    obtain ⟨_, argument₁, hone, hrest⟩ := Step.bind_eq_ok.1 h
    -- the first value changes nothing, so the others are still in the argument
    obtain rfl := applyOne_of_stands hargument (hps 0 (Nat.zero_lt_succ _)) hone
    refine ih (fun i hi => ?_) hrest
    have hp := hps (i + 1) (Nat.succ_lt_succ hi)
    rwa [Nat.add_right_comm, Nat.add_assoc]

theorem exists_of_applyFrom_error {ps : List Parameter}
    (h : applyFrom registry store ordinal ps argument = .error e argument') :
    ∃ before p after argument₁, ps = before ++ p :: after ∧
      applyFrom registry store ordinal before argument = .ok () argument₁ ∧
      applyOne registry store (ordinal + before.length) p argument₁ = .error e argument' := by
  induction ps generalizing ordinal argument with
  | nil => cases h
  | cons p ps ih =>
    rcases Step.bind_eq_error.1 h with hone | ⟨_, argument₁, hone, hrest⟩
    · exact ⟨[], p, ps, argument, rfl, rfl, hone⟩
    · obtain ⟨before, q, after, argument₂, rfl, hbefore, hq⟩ := ih hrest
      refine ⟨p :: before, q, after, argument₂, rfl, Step.bind_eq_ok.2 ⟨(), argument₁, hone, hbefore⟩, ?_⟩
      rwa [List.length_cons, ← Nat.add_assoc, Nat.add_right_comm]

/-- What the outputs of the first parameters of a statement leave in an argument. -/
structure Leaves (registry : Registry) (store : Store) (ps : List Parameter) (argument argument' : Value) :
    Prop where
  /-- All of them are brought in, one after the other. -/
  written : applyFrom registry store 1 ps argument = .ok () argument'
  /-- Nothing is changed by values that were there already. -/
  kept : (∀ i (hi : i < ps.length), Stands registry store argument (i + 1) ps[i]) → argument' = argument
  /-- An output whose path parts from those of the others is found at its path. -/
  placed : ∀ before p after, ps = before ++ p :: after → p.mode.isOutput = true →
    (∀ path, pathOf p.property = .ok path → ∀ q ∈ before ++ after, PartsFrom argument path q) →
    ∃ v path, outputOf registry store (before.length + 1) p = .ok (v, path) ∧ argument'.readAt path = .ok v
  /-- A path that parts from those of all outputs reads what it read before. -/
  spared : ∀ path, (∀ p ∈ ps, PartsFrom argument path p) → argument'.readAt path = argument.readAt path

theorem leaves_of_applyFrom {ps : List Parameter} (hargument : argument.Ordered)
    (h : applyFrom registry store 1 ps argument = .ok () argument') :
    Leaves registry store ps argument argument' where
  written := h
  kept hps := applyFrom_of_stands hargument (fun i hi => Nat.add_comm i 1 ▸ hps i hi) h
  placed before p after hps hout hparts := by
    subst hps
    obtain ⟨v, path, houtput, hread, -, -⟩ := readAt_of_applyFrom hout
      (fun path hpath q hq => hparts path hpath q (List.mem_append_left _ hq))
      (fun path hpath q hq => hparts path hpath q (List.mem_append_right _ hq)) h
    rw [Nat.add_comm] at houtput
    exact ⟨v, path, houtput, hread⟩
  spared _ hparts := (spares_applyFrom hparts h).reads

variable {b : BoundStatement}

/-- Where bringing the outputs into the argument fails, one of them fails for its own reason, and the argument holds
exactly what the outputs before it have left there. It is as it was before if their values were in it already, and
so if the first output fails; otherwise the values that the statement has given for them remain in it. -/
theorem applyOutputs_interrupted (hargument : argument.Ordered)
    (hstore : ∀ v ∈ store.results.values, v.Ordered)
    (h : applyOutputs registry store b argument = .error e argument') :
    ∃ before p after, b.parameters = before ++ p :: after ∧ p.mode.isOutput = true ∧
      OutputFails registry store argument' (before.length + 1) p e ∧
      Leaves registry store before argument argument' := by
  obtain ⟨before, p, after, argument₁, hparameters, hbefore, hone⟩ := exists_of_applyFrom_error h
  obtain ⟨hout, hfails, rfl⟩ := of_applyOne_error (ordered_applyFrom hstore hargument hbefore) hone
  rw [Nat.add_comm] at hfails
  exact ⟨before, p, after, hparameters, hout, hfails, leaves_of_applyFrom hargument hbefore⟩

/-- What a statement gives that has a number for a user, and no name. -/
def numberOnly : Store := ⟨[], [], [(1, .int 5)]⟩

theorem applyOutputs_numberOnly :
    applyOutputs .defaults numberOnly renameCall (.map []) =
      .error (.missingOutput 2 (some .varChar)) (.map [("user", .map [("id", .int 5)])]) := by
  have hfirst : applyOne .defaults numberOnly 1 userId (.map []) =
      .ok () (.map [("user", .map [("id", .int 5)])]) :=
    (applyOne_eq_ok rfl).2 ⟨_, _, rfl, rfl, rfl⟩
  have hsecond : applyOne .defaults numberOnly 2 userName (.map [("user", .map [("id", .int 5)])]) =
      .error (.missingOutput 2 (some .varChar)) (.map [("user", .map [("id", .int 5)])]) := rfl
  exact Step.bind_eq_error.2 (.inr ⟨(), _, hfirst, Step.bind_eq_error.2 (.inl hsecond)⟩)

theorem applyOutputs_interrupted_rename :
    (Value.map []).Ordered ∧ (∀ v ∈ numberOnly.results.values, v.Ordered) ∧
    applyOutputs .defaults numberOnly renameCall (.map []) =
      .error (.missingOutput 2 (some .varChar)) (.map [("user", .map [("id", .int 5)])]) ∧
    ∃ before p after, renameCall.parameters = before ++ p :: after ∧ p.mode.isOutput = true ∧
      OutputFails .defaults numberOnly (.map [("user", .map [("id", .int 5)])]) (before.length + 1) p
        (.missingOutput 2 (some .varChar)) ∧
      Leaves .defaults numberOnly before (.map []) (.map [("user", .map [("id", .int 5)])]) := by
  have hargument : (Value.map []).Ordered := Value.ordered_map List.Pairwise.nil (List.forall_mem_nil _)
  have hstore : ∀ v ∈ numberOnly.results.values, v.Ordered := by
    intro v hv
    rw [List.mem_singleton.1 hv]
    exact Value.ordered_of_not_isNavigable rfl
  exact ⟨hargument, hstore, applyOutputs_numberOnly,
    applyOutputs_interrupted hargument hstore applyOutputs_numberOnly⟩

/-- Bringing in all outputs is not all or nothing: an empty argument has got a user from a call that fails. -/
theorem applyOutputs_ne_self :
    ∃ e argument', applyOutputs .defaults numberOnly renameCall (.map []) = .error e argument' ∧
      argument' ≠ .map [] :=
  ⟨_, _, applyOutputs_numberOnly, fun h => List.cons_ne_nil _ _ (Value.map.inj h)⟩

end Binder

end DynamicSql
