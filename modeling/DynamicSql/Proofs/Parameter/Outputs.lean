import DynamicSql.Proofs.Parameter.Refused
import DynamicSql.Proofs.Path.Lens

/-!
# Values of output parameters

The values of output parameters are brought into the argument one after the other, each at the path of its
parameter. A parameter that parts from all others is read from there afterwards
(`Binder.valueOf_of_applyOutputs`), unless its path begins with a variable: variables are read first, and they
are not written.
-/

namespace DynamicSql

open Step

namespace Binder

variable {registry : Registry} {store : Store} {ordinal : Nat} {p : Parameter} {argument argument' : Value}

theorem applyOne_input (h : p.mode.isOutput = false) :
    applyOne registry store ordinal p argument = .ok () argument := by
  rw [applyOne, h]
  rfl

theorem applyOne_eq_ok (hout : p.mode.isOutput = true) :
    applyOne registry store ordinal p argument = .ok () argument' ↔
      ∃ v path, outputOf registry store ordinal p = .ok (v, path) ∧
        (argument.writeAt path v).error = none ∧ argument' = (argument.writeAt path v).value := by
  rw [applyOne, if_pos hout]
  constructor
  · intro h
    split at h
    · cases h
    · next v path houtput =>
      dsimp only at h
      split at h
      · next herror =>
        obtain ⟨-, rfl⟩ := EStateM.Result.ok.inj h
        exact ⟨v, path, houtput, herror, rfl⟩
      · cases h
  · rintro ⟨v, path, houtput, herror, rfl⟩
    rw [houtput]
    dsimp only
    rw [herror]

theorem pathOf_of_outputOf {v : Value} {path : Path}
    (h : outputOf registry store ordinal p = .ok (v, path)) : pathOf p.property = .ok path := by
  rw [outputOf] at h
  split at h
  · cases h
  · dsimp only at h
    obtain ⟨v', -, h⟩ := except_bind_eq_ok.1 h
    obtain ⟨path', hpath, h⟩ := except_bind_eq_ok.1 h
    obtain ⟨-, rfl⟩ := Prod.mk.inj (Except.ok.inj h)
    exact hpath

theorem exists_of_applyFrom_append {ps qs : List Parameter}
    (h : applyFrom registry store ordinal (ps ++ qs) argument = .ok () argument') :
    ∃ argument₁, applyFrom registry store ordinal ps argument = .ok () argument₁ ∧
      applyFrom registry store (ordinal + ps.length) qs argument₁ = .ok () argument' := by
  induction ps generalizing ordinal argument with
  | nil => exact ⟨argument, rfl, h⟩
  | cons p ps ih =>
    obtain ⟨_, argument₁, hone, hrest⟩ := Step.bind_eq_ok.1 h
    obtain ⟨argument₂, hps, hqs⟩ := ih hrest
    rw [Nat.add_right_comm, Nat.add_assoc] at hqs
    exact ⟨argument₂, Step.bind_eq_ok.2 ⟨(), argument₁, hone, hps⟩, hqs⟩

/-! ### Parameters that part from each other -/

/-- If the parameter is an output parameter, its path parts in the argument from `path`. -/
def PartsFrom (argument : Value) (path : Path) (q : Parameter) : Prop :=
  q.mode.isOutput = true → ∀ path', pathOf q.property = .ok path' → argument.Apart path.keys path'.keys

/-- The argument is changed only at paths that part from `path`. -/
structure Spares (path : Path) (argument argument' : Value) : Prop where
  reads : argument'.readAt path = argument.readAt path
  dataType : argument'.dataType = argument.dataType
  apart : ∀ keys, argument.Apart path.keys keys → argument'.Apart path.keys keys

variable {path : Path}

theorem Spares.refl (path : Path) (argument : Value) : Spares path argument argument :=
  ⟨rfl, rfl, fun _ => id⟩

theorem Spares.trans {argument'' : Value} (h : Spares path argument argument')
    (h' : Spares path argument' argument'') : Spares path argument argument'' :=
  ⟨h'.reads.trans h.reads, h'.dataType.trans h.dataType, fun keys hkeys => h'.apart keys (h.apart keys hkeys)⟩

theorem Spares.partsFrom (h : Spares path argument argument') {q : Parameter}
    (hq : PartsFrom argument path q) : PartsFrom argument' path q :=
  fun hout path' hpath' => h.apart path'.keys (hq hout path' hpath')

theorem apart_writeAt {keys : List String} {path' : Path} {v : Value}
    (herror : (argument.writeAt path' v).error = none)
    (hwritten : path'.keys = path.keys ∨ argument.Apart path.keys path'.keys)
    (hkeys : argument.Apart path.keys keys) : (argument.writeAt path' v).value.Apart path.keys keys := by
  rw [Value.writeAt_of_keys_ne_nil (Value.keys_ne_nil_of_writeAt herror)]
  exact hkeys.write hwritten path'.raw v

theorem spares_applyOne {q : Parameter} (hq : PartsFrom argument path q)
    (h : applyOne registry store ordinal q argument = .ok () argument') : Spares path argument argument' := by
  cases hout : q.mode.isOutput with
  | false =>
    rw [applyOne_input hout] at h
    obtain ⟨-, rfl⟩ := EStateM.Result.ok.inj h
    exact .refl path argument
  | true =>
    obtain ⟨v, path', houtput, herror, rfl⟩ := (applyOne_eq_ok hout).1 h
    have hapart := hq hout path' (pathOf_of_outputOf houtput)
    exact ⟨Value.readAt_writeAt_of_apart hapart v, Value.dataType_writeAt herror,
      fun keys hkeys => apart_writeAt herror (.inr hapart) hkeys⟩

theorem spares_applyFrom {qs : List Parameter} (hqs : ∀ q ∈ qs, PartsFrom argument path q)
    (h : applyFrom registry store ordinal qs argument = .ok () argument') :
    Spares path argument argument' := by
  induction qs generalizing ordinal argument with
  | nil =>
    obtain ⟨-, rfl⟩ := EStateM.Result.ok.inj h
    exact .refl path argument
  | cons q qs ih =>
    obtain ⟨hq, hqs⟩ := List.forall_mem_cons.1 hqs
    obtain ⟨_, argument₁, hone, hrest⟩ := Step.bind_eq_ok.1 h
    have hspares := spares_applyOne hq hone
    exact hspares.trans (ih (fun q hq => hspares.partsFrom (hqs q hq)) hrest)

/-- The value of an output parameter that parts from the others is found at its path afterwards. -/
theorem readAt_of_applyFrom {before after : List Parameter} (hout : p.mode.isOutput = true)
    (hbefore : ∀ path, pathOf p.property = .ok path → ∀ q ∈ before, PartsFrom argument path q)
    (hafter : ∀ path, pathOf p.property = .ok path → ∀ q ∈ after, PartsFrom argument path q)
    (h : applyFrom registry store ordinal (before ++ p :: after) argument = .ok () argument') :
    ∃ v path, outputOf registry store (ordinal + before.length) p = .ok (v, path) ∧
      argument'.readAt path = .ok v ∧ argument.isNavigable = true ∧
      argument'.dataType = argument.dataType := by
  obtain ⟨argument₁, hfirst, h⟩ := exists_of_applyFrom_append h
  obtain ⟨_, argument₂, hone, hlast⟩ := Step.bind_eq_ok.1 h
  obtain ⟨v, path, houtput, herror, rfl⟩ := (applyOne_eq_ok hout).1 hone
  have hpath := pathOf_of_outputOf houtput
  have hspares₁ := spares_applyFrom (hbefore path hpath) hfirst
  have hrest : ∀ q ∈ after, PartsFrom (argument₁.writeAt path v).value path q :=
    fun q hq hqout path' hpath' =>
      apart_writeAt herror (.inl rfl) (hspares₁.apart _ (hafter path hpath q hq hqout path' hpath'))
  have hspares₂ := spares_applyFrom hrest hlast
  have hnavigable := Value.isNavigable_congr hspares₁.dataType ▸ Value.isNavigable_of_writeAt herror
  exact ⟨v, path, houtput, hspares₂.reads.trans (Value.readAt_writeAt herror), hnavigable,
    (hspares₂.dataType.trans (Value.dataType_writeAt herror)).trans hspares₁.dataType⟩

variable {b : BoundStatement}

theorem valueOf_of_isNavigable (hnavigable : argument.isNavigable = true)
    (hpath : pathOf p.property = .ok path) :
    valueOf registry b (navigable argument) p = Except.mapError (.property p.property)
      (if b.hasBinding path.root then (Value.map b.bindings).readAt path
        else if registry.isDirect argument.dataType then .ok argument
        else argument.readAt path) := by
  have hsame : navigable argument = argument := by
    cases argument <;> first | rfl | cases hnavigable
  rw [hsame, valueOf_of_parse (mapError_eq_ok.1 hpath), Value.isNull_of_isNavigable hnavigable,
    if_neg Bool.false_ne_true]

/-- What an output parameter leaves where its path parts from those of the others: its value is in the
argument, and the parameter is read from there, or is the whole argument if this is written as it is. A
parameter that begins with a variable keeps the value that it was bound with. -/
theorem valueOf_of_applyOutputs {before after : List Parameter}
    (hparameters : b.parameters = before ++ p :: after) (hout : p.mode.isOutput = true)
    (hapart : ∀ q ∈ before ++ after, q.mode.isOutput = true → ∀ path path',
      pathOf p.property = .ok path → pathOf q.property = .ok path' → argument.Apart path.keys path'.keys)
    (happly : applyOutputs registry store b argument = .ok () argument') :
    ∃ v path, outputOf registry store (before.length + 1) p = .ok (v, path) ∧
      argument'.readAt path = .ok v ∧
      valueOf registry b (navigable argument') p =
        if b.hasBinding path.root then valueOf registry b (navigable argument) p
        else if registry.isDirect argument.dataType then .ok argument'
        else .ok v := by
  rw [applyOutputs, hparameters] at happly
  obtain ⟨v, path, houtput, hread, hnavigable, htype⟩ := readAt_of_applyFrom hout
    (fun path hpath q hq hqout path' => hapart q (List.mem_append_left _ hq) hqout path path' hpath)
    (fun path hpath q hq hqout path' => hapart q (List.mem_append_right _ hq) hqout path path' hpath)
    happly
  have hpath := pathOf_of_outputOf houtput
  have hnavigable' : argument'.isNavigable = true := Value.isNavigable_congr htype ▸ hnavigable
  rw [Nat.add_comm] at houtput
  refine ⟨v, path, houtput, hread, ?_⟩
  rw [valueOf_of_isNavigable hnavigable' hpath, valueOf_of_isNavigable hnavigable hpath, htype, hread]
  split_ifs <;> rfl

/-- A parameter that is read and written back, and one that is only written. -/
def userId : Parameter := ⟨"user.id", .int, some .integer, none, .both, none, none, some .object⟩

def userName : Parameter := ⟨"user.name", .string, some .varChar, none, .output, none, none, some .object⟩

/-- A call with both. -/
def renameCall : BoundStatement := ⟨"call rename(?, ?)".toList, [12, 15], [userId, userName], []⟩

theorem pathOf_userId : pathOf userId.property = .ok ⟨"user.id", [⟨"user", none⟩, ⟨"id", none⟩]⟩ := rfl

theorem pathOf_userName : pathOf userName.property = .ok ⟨"user.name", [⟨"user", none⟩, ⟨"name", none⟩]⟩ :=
  rfl

theorem valueOf_renameCall :
    ∃ store argument', renameCall.parameters = [] ++ userId :: [userName] ∧ userId.mode.isOutput = true ∧
      (∀ q ∈ [] ++ [userName], q.mode.isOutput = true → ∀ path path',
        pathOf userId.property = .ok path → pathOf q.property = .ok path' →
          (Value.map []).Apart path.keys path'.keys) ∧
      applyOutputs .defaults store renameCall (.map []) = .ok () argument' ∧
      ∃ v path, outputOf .defaults store 1 userId = .ok (v, path) ∧ argument'.readAt path = .ok v ∧
        valueOf .defaults renameCall (navigable argument') userId =
          if renameCall.hasBinding path.root then valueOf .defaults renameCall (navigable (.map [])) userId
          else if Registry.defaults.isDirect (Value.map []).dataType then .ok argument'
          else .ok v := by
  let store : Store := ⟨[], [], [(1, .int 5), (2, .string "ann")]⟩
  have hapart : ∀ q ∈ [] ++ [userName], q.mode.isOutput = true → ∀ path path',
      pathOf userId.property = .ok path → pathOf q.property = .ok path' →
        (Value.map []).Apart path.keys path'.keys := by
    intro q hq _ path path' hpath hpath'
    obtain rfl := List.mem_singleton.1 hq
    obtain rfl := Except.ok.inj (pathOf_userId.symm.trans hpath)
    obtain rfl := Except.ok.inj (pathOf_userName.symm.trans hpath')
    refine Value.apart_of_not_prefix (by decide) (by decide) (by decide) _
  have hfirst : applyOne .defaults store 1 userId (.map []) =
      .ok () (.map [("user", .map [("id", .int 5)])]) :=
    (applyOne_eq_ok rfl).2 ⟨_, _, rfl, rfl, rfl⟩
  have hsecond : applyOne .defaults store 2 userName (.map [("user", .map [("id", .int 5)])]) =
      .ok () (.map [("user", .map [("id", .int 5), ("name", .string "ann")])]) :=
    (applyOne_eq_ok rfl).2 ⟨_, _, rfl, rfl, rfl⟩
  have happly : applyOutputs .defaults store renameCall (.map []) =
      .ok () (.map [("user", .map [("id", .int 5), ("name", .string "ann")])]) :=
    Step.bind_eq_ok.2 ⟨(), _, hfirst, Step.bind_eq_ok.2 ⟨(), _, hsecond, rfl⟩⟩
  exact ⟨store, _, rfl, rfl, hapart, happly, valueOf_of_applyOutputs rfl rfl hapart happly⟩

/-- A parameter for the item of a loop that has run once, over the item 1. -/
def nextItem : Parameter := ⟨"__frch_id_0", .int, some .integer, none, .both, none, none, some .object⟩

/-- A call with this parameter alone. -/
def nextCall : BoundStatement := ⟨"call next(?)".toList, [10], [nextItem], [("__frch_id_0", .int 1)]⟩

/-- The call is bound and gives 5, which goes into the argument under the name of the variable; the parameter
keeps the item. -/
theorem valueOf_ne_of_variable :
    ∃ binding argument' path, nextCall.parameters = [nextItem] ∧ nextItem.mode = .both ∧
      bind nextCall (.map [("ids", .list [.int 1])]) ⟨new .defaults .other, .empty⟩ = .ok () binding ∧
      applyOutputs .defaults (binding.store.setResult 1 (.int 5)) nextCall (.map [("ids", .list [.int 1])]) =
        .ok () argument' ∧
      outputOf .defaults (binding.store.setResult 1 (.int 5)) 1 nextItem = .ok (.int 5, path) ∧
      valueOf .defaults nextCall (navigable argument') nextItem = .ok (.int 1) := by
  let store : Store := ⟨[(1, ⟨.int 1, some .integer⟩)], [(1, ⟨.integer, none, none⟩)], []⟩
  have hvalue : ∀ argument, valueOf .defaults nextCall argument nextItem = .ok (.int 1) := fun _ => rfl
  have hdeclare : declareOutput 1 nextItem ⟨new .defaults .other, .empty⟩ =
      .ok () ⟨new .defaults .other, ⟨[], [(1, ⟨.integer, none, none⟩)], []⟩⟩ := rfl
  have hwrite : writeInput nextCall (.map [("ids", .list [.int 1])]) 1 nextItem
      ⟨new .defaults .other, ⟨[], [(1, ⟨.integer, none, none⟩)], []⟩⟩ =
        .ok () ⟨new .defaults .other, store⟩ := by
    have hread := hvalue (.map [("ids", .list [.int 1])])
    rw [writeInput]
    dsimp only
    rw [show (new Registry.defaults SqlType.other).registry = .defaults from rfl, hread]
    rfl
  have hbind : bind nextCall (.map [("ids", .list [.int 1])]) ⟨new .defaults .other, .empty⟩ =
      .ok () ⟨new .defaults .other, store⟩ :=
    Step.bind_eq_ok.2 ⟨(), _, Step.bind_eq_ok.2 ⟨(), _, hdeclare, hwrite⟩, rfl⟩
  have houtput : outputOf .defaults (store.setResult 1 (.int 5)) 1 nextItem =
      .ok (.int 5, ⟨"__frch_id_0", [⟨"__frch_id_0", none⟩]⟩) := rfl
  have hone : applyOne .defaults (store.setResult 1 (.int 5)) 1 nextItem (.map [("ids", .list [.int 1])]) =
      .ok () (.map [("__frch_id_0", .int 5), ("ids", .list [.int 1])]) :=
    (applyOne_eq_ok rfl).2 ⟨_, _, houtput, rfl, rfl⟩
  exact ⟨_, _, _, rfl, rfl, hbind, Step.bind_eq_ok.2 ⟨(), _, hone, rfl⟩, houtput, hvalue _⟩

end Binder

end DynamicSql
