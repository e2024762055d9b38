import Mathlib.Data.List.Forall2

/-!
# Steps that may fail

When a chain of steps succeeds, each of them has.
-/

namespace DynamicSql.Step

variable {ε σ α β : Type}

theorem except_bind_eq_ok {x : Except ε α} {k : α → Except ε β} {b : β} :
    x >>= k = .ok b ↔ ∃ a, x = .ok a ∧ k a = .ok b := by
  cases x with
  | ok a => exact ⟨fun h => ⟨a, rfl, h⟩, fun ⟨_, h, hk⟩ => by cases h; exact hk⟩
  | error e => exact ⟨(nomatch ·), fun ⟨_, h, _⟩ => nomatch h⟩

theorem exists_ok_of_bind {x : Except ε α} {k : α → Except ε β} {b : β} (h : x >>= k = .ok b) :
    ∃ a, x = .ok a := by
  obtain ⟨a, ha, -⟩ := except_bind_eq_ok.1 h
  exact ⟨a, ha⟩

theorem except_map_eq_ok {x : Except ε α} {f : α → β} {b : β} :
    x.map f = .ok b ↔ ∃ a, x = .ok a ∧ b = f a := by
  cases x with
  | ok a => exact ⟨fun h => ⟨a, rfl, by cases h; rfl⟩, fun ⟨_, h, hb⟩ => by cases h; rw [hb]; rfl⟩
  | error e => exact ⟨(nomatch ·), fun ⟨_, h, _⟩ => nomatch h⟩

theorem mapError_eq_ok {ε' : Type} {x : Except ε α} {f : ε → ε'} {a : α} :
    x.mapError f = .ok a ↔ x = .ok a := by
  cases x with
  | ok a => exact ⟨fun h => by cases h; rfl, fun h => by cases h; rfl⟩
  | error e => exact ⟨(nomatch ·), (nomatch ·)⟩

theorem toOption_mapError {ε' : Type} (x : Except ε α) (f : ε → ε') :
    (x.mapError f).toOption = x.toOption := by
  cases x <;> rfl

theorem toOption_bind (x : Except ε α) (k : α → Except ε β) :
    (x >>= k).toOption = x.toOption.bind fun a => (k a).toOption := by
  cases x <;> rfl

theorem toOption_eq_some {x : Except ε α} {a : α} : x.toOption = some a ↔ x = .ok a := by
  cases x with
  | ok b => exact ⟨fun h => congrArg _ (Option.some.inj h), fun h => congrArg _ (Except.ok.inj h)⟩
  | error e => exact ⟨(nomatch ·), (nomatch ·)⟩

theorem toOption_eq_none {x : Except ε α} : x.toOption = none ↔ ∃ e, x = .error e := by
  cases x with
  | ok a => exact ⟨(nomatch ·), fun ⟨_, h⟩ => nomatch h⟩
  | error e => exact ⟨fun _ => ⟨e, rfl⟩, fun _ => rfl⟩

theorem mapM_eq_ok {f : α → Except ε β} {l : List α} {r : List β} :
    l.mapM f = .ok r ↔ List.Forall₂ (fun a b => f a = .ok b) l r := by
  induction l generalizing r with
  | nil =>
    rw [List.mapM_nil, List.forall₂_nil_left_iff]
    exact ⟨fun h => (Except.ok.inj h).symm, fun h => by rw [h]; rfl⟩
  | cons a l ih =>
    rw [List.mapM_cons, except_bind_eq_ok, List.forall₂_cons_left_iff]
    constructor
    · rintro ⟨b, hb, h⟩
      obtain ⟨r, hr, h⟩ := except_bind_eq_ok.1 h
      exact ⟨b, r, hb, ih.1 hr, (Except.ok.inj h).symm⟩
    · rintro ⟨b, r, hb, hr, rfl⟩
      exact ⟨b, hb, except_bind_eq_ok.2 ⟨r, ih.2 hr, rfl⟩⟩

theorem mapM_congr {f g : α → Except ε β} {l : List α} (h : ∀ a ∈ l, f a = g a) : l.mapM f = l.mapM g := by
  induction l with
  | nil => rfl
  | cons a l ih =>
    obtain ⟨ha, hl⟩ := List.forall_mem_cons.1 h
    rw [List.mapM_cons, List.mapM_cons, ha, ih hl]

theorem exists_forall₂ {R : α → β → Prop} {l : List α} (h : ∀ a ∈ l, ∃ b, R a b) :
    ∃ r, List.Forall₂ R l r := by
  induction l with
  | nil => exact ⟨[], .nil⟩
  | cons a l ih =>
    obtain ⟨b, hb⟩ := h a (.head _)
    obtain ⟨r, hr⟩ := ih fun a' ha' => h a' (.tail _ ha')
    exact ⟨b :: r, .cons hb hr⟩

theorem exists_mem_of_forall₂ {R : α → β → Prop} {l : List α} {r : List β} (h : List.Forall₂ R l r) :
    ∀ a ∈ l, ∃ b ∈ r, R a b := by
  induction h with
  | nil => exact nofun
  | @cons a b l r hab _ ih =>
    refine List.forall_mem_cons.2 ⟨⟨b, .head _, hab⟩, fun a' ha' => ?_⟩
    obtain ⟨b', hb', hab'⟩ := ih a' ha'
    exact ⟨b', .tail _ hb', hab'⟩

theorem forall_mem_of_forall₂ {P : β → Prop} {l : List α} {r : List β}
    (h : List.Forall₂ (fun _ b => P b) l r) : ∀ b ∈ r, P b := by
  induction h with
  | nil => exact nofun
  | cons hb _ ih => exact List.forall_mem_cons.2 ⟨hb, ih⟩

theorem forall₂_iff_map_eq {γ : Type} {R : α → β → Prop} {Q : α → γ → Prop} {value? : β → Option γ}
    {l : List α} {r : List β} (hR : List.Forall₂ R l r)
    (h : ∀ a b, R a b → ∀ c, Q a c ↔ value? b = some c) {cs : List γ} :
    List.Forall₂ Q l cs ↔ r.map value? = cs.map some := by
  induction hR generalizing cs with
  | nil =>
    rw [List.forall₂_nil_left_iff, List.map_nil, eq_comm (a := []), List.map_eq_nil_iff]
  | cons hab _ ih =>
    cases cs with
    | nil => exact ⟨nofun, nofun⟩
    | cons c cs =>
      rw [List.forall₂_cons, List.map_cons, List.map_cons, List.cons.injEq, ih, h _ _ hab]

theorem map_mapM {γ : Type} (f : α → Except ε β) (u : β → γ) (l : List α) :
    (l.mapM f).map (List.map u) = l.mapM fun a => (f a).map u := by
  induction l with
  | nil => rfl
  | cons a l ih =>
    rw [List.mapM_cons, List.mapM_cons, ← ih]
    cases f a with
    | error e => rfl
    | ok b => cases l.mapM f <;> rfl

theorem except_bind_eq_error {x : Except ε α} {k : α → Except ε β} {e : ε} :
    x >>= k = .error e ↔ x = .error e ∨ ∃ a, x = .ok a ∧ k a = .error e := by
  cases x with
  | ok a => exact ⟨fun h => .inr ⟨a, rfl, h⟩, by rintro (h | ⟨_, h, hk⟩) <;> cases h; exact hk⟩
  | error e' =>
    exact ⟨fun h => .inl (by cases h; rfl), by rintro (h | ⟨_, h, -⟩) <;> cases h; rfl⟩

theorem except_map_eq_error {x : Except ε α} {f : α → β} {e : ε} : x.map f = .error e ↔ x = .error e := by
  cases x with
  | ok a => exact ⟨(nomatch ·), (nomatch ·)⟩
  | error e' => exact ⟨fun h => by cases h; rfl, fun h => by cases h; rfl⟩

theorem mapError_eq_error {ε' : Type} {x : Except ε α} {f : ε → ε'} {e' : ε'} :
    x.mapError f = .error e' ↔ ∃ e, x = .error e ∧ e' = f e := by
  cases x with
  | ok a => exact ⟨(nomatch ·), fun ⟨_, h, _⟩ => nomatch h⟩
  | error e => exact ⟨fun h => ⟨e, rfl, by cases h; rfl⟩, fun ⟨_, h, he⟩ => by cases h; rw [he]; rfl⟩

/-- The step fails only with errors that have `E`. -/
def FailsWith (E : ε → Prop) (x : Except ε α) : Prop := ∀ e, x = .error e → E e

variable {E : ε → Prop}

theorem FailsWith.ok (a : α) : FailsWith E (.ok a) := fun _ => nofun

theorem FailsWith.error {e : ε} (h : E e) : FailsWith E (.error e : Except ε α) :=
  fun _ he => Except.error.inj he ▸ h

theorem FailsWith.bind {x : Except ε α} {k : α → Except ε β} (hx : FailsWith E x)
    (hk : ∀ a, FailsWith E (k a)) : FailsWith E (x >>= k) := by
  intro e h
  rcases except_bind_eq_error.1 h with h | ⟨a, -, h⟩
  · exact hx e h
  · exact hk a e h

theorem FailsWith.mapError {ε' : Type} {E : ε' → Prop} {f : ε → ε'} (h : ∀ e, E (f e)) (x : Except ε α) :
    FailsWith E (x.mapError f) := by
  intro e' he
  obtain ⟨e, -, rfl⟩ := mapError_eq_error.1 he
  exact h e

theorem FailsWith.foldlM {f : β → α → Except ε β} (h : ∀ b a, FailsWith E (f b a)) (l : List α) (b : β) :
    FailsWith E (l.foldlM f b) := by
  induction l generalizing b with
  | nil => exact .ok b
  | cons a l ih =>
    rw [List.foldlM_cons]
    exact (h b a).bind ih

theorem FailsWith.map {x : Except ε α} (h : FailsWith E x) (f : α → β) : FailsWith E (x.map f) := by
  cases x with
  | ok a => exact .ok (f a)
  | error e => exact .error (h e rfl)

theorem FailsWith.mapM {f : α → Except ε β} {l : List α} (h : ∀ a ∈ l, FailsWith E (f a)) :
    FailsWith E (l.mapM f) := by
  induction l with
  | nil => exact .ok []
  | cons a l ih =>
    obtain ⟨ha, hl⟩ := List.forall_mem_cons.1 h
    rw [List.mapM_cons]
    exact ha.bind fun b => (ih hl).bind fun r => .ok (b :: r)

/-- The error of a step that fails. -/
def error? : Except ε α → Option ε
  | .ok _ => none
  | .error e => some e

theorem error?_eq_some {x : Except ε α} {e : ε} : error? x = some e ↔ x = .error e := by
  cases x with
  | ok a => exact ⟨(nomatch ·), (nomatch ·)⟩
  | error e' => exact ⟨fun h => congrArg _ (Option.some.inj h), fun h => congrArg _ (Except.error.inj h)⟩

/-! ### Steps that keep their state -/

variable {s s' : σ}

theorem bind_eq_ok {x : EStateM ε σ α} {k : α → EStateM ε σ β} {b : β} :
    (x >>= k) s = .ok b s' ↔ ∃ a t, x s = .ok a t ∧ k a t = .ok b s' := by
  show EStateM.bind x k s = _ ↔ _
  rw [EStateM.bind]
  cases x s with
  | ok a t => exact ⟨fun h => ⟨a, t, rfl, h⟩, fun ⟨_, _, h, hk⟩ => by cases h; exact hk⟩
  | error e t => exact ⟨(nomatch ·), fun ⟨_, _, h, _⟩ => nomatch h⟩

theorem bind_of_ok {x : EStateM ε σ α} {a : α} (h : x s = .ok a s') (k : α → EStateM ε σ β) :
    (x >>= k) s = k a s' := by
  show EStateM.bind x k s = _
  rw [EStateM.bind, h]

theorem bind_of_error {x : EStateM ε σ α} {e : ε} (h : x s = .error e s') (k : α → EStateM ε σ β) :
    (x >>= k) s = .error e s' := by
  show EStateM.bind x k s = _
  rw [EStateM.bind, h]

theorem bind_eq_error {x : EStateM ε σ α} {k : α → EStateM ε σ β} {e : ε} :
    (x >>= k) s = .error e s' ↔
      x s = .error e s' ∨ ∃ a t, x s = .ok a t ∧ k a t = .error e s' := by
  cases hx : x s with
  | ok a t =>
    rw [bind_of_ok hx]
    exact ⟨fun h => .inr ⟨a, t, rfl, h⟩, by rintro (h | ⟨_, _, h, hk⟩) <;> cases h; exact hk⟩
  | error cause t =>
    rw [bind_of_error hx]
    exact ⟨fun h => .inl (by cases h; rfl), by rintro (h | ⟨_, _, h, -⟩) <;> cases h; rfl⟩

theorem pure_eq_ok {a b : α} : (pure a : EStateM ε σ α) s = .ok b s' ↔ b = a ∧ s' = s := by
  show EStateM.Result.ok a s = _ ↔ _
  rw [EStateM.Result.ok.injEq, eq_comm, eq_comm (a := s)]

theorem modify_eq_ok {f : σ → σ} {u : Unit} :
    (modify f : EStateM ε σ Unit) s = .ok u s' ↔ s' = f s := by
  show EStateM.Result.ok () (f s) = _ ↔ _
  rw [EStateM.Result.ok.injEq, eq_comm (a := f s)]
  exact ⟨fun h => h.2, fun h => ⟨rfl, h⟩⟩

theorem map_eq_ok {x : EStateM ε σ α} {u : α → β} {b : β} :
    (u <$> x) s = .ok b s' ↔ ∃ a, x s = .ok a s' ∧ b = u a := by
  show EStateM.map u x s = _ ↔ _
  rw [EStateM.map]
  cases x s with
  | ok a t => exact ⟨fun h => by cases h; exact ⟨a, rfl, rfl⟩, fun ⟨_, h, hb⟩ => by cases h; rw [hb]⟩
  | error e t => exact ⟨(nomatch ·), fun ⟨_, h, _⟩ => nomatch h⟩

theorem discard_eq_ok {x : EStateM ε σ α} {u : Unit} :
    (discard x) s = .ok u s' ↔ ∃ a, x s = .ok a s' := by
  show EStateM.map _ x s = _ ↔ _
  rw [EStateM.map]
  cases x s with
  | ok a t => exact ⟨fun h => ⟨a, by cases h; rfl⟩, fun ⟨_, h⟩ => by cases h; rfl⟩
  | error e t => exact ⟨(nomatch ·), fun ⟨_, h⟩ => nomatch h⟩

/-- The state that a step ends in, whether it succeeds or fails. -/
def final : EStateM.Result ε σ α → σ
  | .ok _ s => s
  | .error _ s => s

/-- The error of a step that fails. -/
def fault? : EStateM.Result ε σ α → Option ε
  | .ok .. => none
  | .error e _ => some e

theorem final_map (u : α → β) (step : EStateM ε σ α) (s : σ) : final ((u <$> step) s) = final (step s) := by
  show final (EStateM.map u step s) = _
  rw [EStateM.map]
  cases step s <;> rfl

theorem fault?_map (u : α → β) (step : EStateM ε σ α) (s : σ) : fault? ((u <$> step) s) = fault? (step s) := by
  show fault? (EStateM.map u step s) = _
  rw [EStateM.map]
  cases step s <;> rfl

/-! ### Properties that steps preserve -/

variable {P : σ → Prop}

/-- The step keeps a property of states, whether it succeeds or fails. -/
def Preserves (P : σ → Prop) (step : EStateM ε σ α) : Prop :=
  ∀ s, P s → match step s with
    | .ok _ s' => P s'
    | .error _ s' => P s'

theorem Preserves.pure (a : α) : Preserves P (Pure.pure a : EStateM ε σ α) := fun _ hs => hs

theorem Preserves.throw (e : ε) : Preserves P (MonadExcept.throw e : EStateM ε σ α) := fun _ hs => hs

theorem Preserves.bind {step : EStateM ε σ α} {next : α → EStateM ε σ β} (hstep : Preserves P step)
    (hnext : ∀ a, Preserves P (next a)) : Preserves P (step >>= next) := by
  intro s hs
  have h := hstep s hs
  show match EStateM.bind step next s with
    | .ok _ s' => P s'
    | .error _ s' => P s'
  rw [EStateM.bind]
  cases hresult : step s with
  | ok a s' =>
    rw [hresult] at h
    exact hnext a s' h
  | error e s' =>
    rw [hresult] at h
    exact h

theorem Preserves.final {step : EStateM ε σ α} (h : Preserves P step) (hs : P s) : P (final (step s)) := by
  have hstep := h s hs
  cases hresult : step s with
  | ok a s' =>
    rw [hresult] at hstep
    exact hstep
  | error e s' =>
    rw [hresult] at hstep
    exact hstep

/-! ### Relations that steps keep -/

variable {R : σ → σ → Prop}

/-- The step leads from each state to a related one, whether it succeeds or fails, and fails only with errors
that have `E`. -/
def Relates (R : σ → σ → Prop) (E : ε → Prop) (step : EStateM ε σ α) : Prop :=
  ∀ s, R s (final (step s)) ∧ ∀ e, fault? (step s) = some e → E e

theorem Relates.of_ok {step : EStateM ε σ α} (h : Relates R E step) {a : α} (hs : step s = .ok a s') :
    R s s' := by
  have hR := (h s).1
  rw [hs] at hR
  exact hR

theorem Relates.of_error {step : EStateM ε σ α} (h : Relates R E step) {e : ε} (hs : step s = .error e s') :
    R s s' ∧ E e := by
  have hs' := h s
  rw [hs] at hs'
  exact ⟨hs'.1, hs'.2 e rfl⟩

theorem relates_of {step : EStateM ε σ α} (hok : ∀ s a s', step s = .ok a s' → R s s')
    (herror : ∀ s e s', step s = .error e s' → R s s' ∧ E e) : Relates R E step := by
  intro s
  cases hs : step s with
  | ok a s' => exact ⟨hok s a s' hs, fun _ => nofun⟩
  | error e s' =>
    obtain ⟨hR, hE⟩ := herror s e s' hs
    exact ⟨hR, fun _ h => Option.some.inj h ▸ hE⟩

theorem Relates.modify {f : σ → σ} (h : ∀ s, R s (f s)) : Relates R E (modify f : EStateM ε σ Unit) :=
  fun s => ⟨h s, fun _ => nofun⟩

theorem Relates.pure (hrefl : ∀ s, R s s) (a : α) : Relates R E (Pure.pure a : EStateM ε σ α) :=
  fun s => ⟨hrefl s, fun _ => nofun⟩

theorem Relates.bind (htrans : ∀ ⦃s t u⦄, R s t → R t u → R s u) {step : EStateM ε σ α}
    {next : α → EStateM ε σ β} (hstep : Relates R E step) (hnext : ∀ a, Relates R E (next a)) :
    Relates R E (step >>= next) := by
  refine relates_of (fun s b s' hs => ?_) fun s e s' hs => ?_
  · obtain ⟨a, t, hfirst, hrest⟩ := bind_eq_ok.1 hs
    exact htrans (hstep.of_ok hfirst) ((hnext a).of_ok hrest)
  · rcases bind_eq_error.1 hs with hfirst | ⟨a, t, hfirst, hrest⟩
    · exact hstep.of_error hfirst
    · obtain ⟨hR, hE⟩ := (hnext a).of_error hrest
      exact ⟨htrans (hstep.of_ok hfirst) hR, hE⟩

theorem Relates.map {step : EStateM ε σ α} (h : Relates R E step) (u : α → β) :
    Relates R E (u <$> step) := by
  intro s
  rw [final_map, fault?_map]
  exact h s

theorem Relates.discard {step : EStateM ε σ α} (h : Relates R E step) : Relates R E (discard step) := h.map _

end DynamicSql.Step
