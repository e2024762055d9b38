import DynamicSql.Proofs.Mapper.Loading
import DynamicSql.Proofs.Table
import Mathlib.Data.List.Nodup

/-!
# Statements for several databases

A statement for the configured database takes the place of the one for all databases, whichever of the two is
added first, and statements for other databases are left out. So what a configuration holds after some
statements have been added does not depend on their order (`addAll_of_perm`): under each id stands the statement
that is chosen among all of them (`chosen?`), as long as no two have both the id and the database in common. What
carries the proof is that this holds after every step, of the statements added so far (`Holds.add`). The table of
statements is kept in order, so that configurations with the same statements under the same ids are the same.
-/

namespace DynamicSql

open Step

/-! ### Statements to be added -/

/-- A statement to be added to a configuration: its namespace, the fragments that it can include, and its
definition. -/
structure Registration where
  namespaceId : String
  library : Library
  definition : Definition

namespace Registration

/-- The full id of the statement. -/
def id (r : Registration) : String := Configuration.qualified r.namespaceId r.definition.id

/-- The full id with the database that the statement is for, if it is not for all. -/
def key (r : Registration) : String × Option String := (r.id, r.definition.databaseId)

def statement (c : Configuration) (r : Registration) : Except MapperError MappedStatement :=
  c.statementOf r.library r.id r.definition

def add (r : Registration) : Loading Bool :=
  Configuration.addStatement r.namespaceId r.library r.definition

def addAll : List Registration → Loading Unit
  | [] => return ()
  | r :: rest => do
    discard r.add
    addAll rest

/-- The registration of an id for a database, or for all databases. -/
def under? (rs : List Registration) (key : String × Option String) : Option Registration :=
  rs.find? (·.key = key)

/-- The registration that counts for an id: the one for the configured database, or else the one for all. -/
def chosen? (configured : Option String) (rs : List Registration) (id : String) : Option Registration :=
  (under? rs (id, configured)).or (under? rs (id, none))

variable {c c₀ : Configuration} {r : Registration} {rs done : List Registration} {s : MappedStatement}
  {configured : Option String} {k : String × Option String} {i : String}

theorem under?_eq_none : under? rs k = none ↔ k ∉ rs.map key := by
  rw [under?, List.find?_eq_none, List.mem_map]
  constructor
  · rintro h ⟨r, hr, rfl⟩
    exact h r hr (decide_eq_true rfl)
  · exact fun h r hr hk => h ⟨r, hr, of_decide_eq_true hk⟩

theorem mem_of_under? (h : under? rs k = some r) : r ∈ rs ∧ r.key = k :=
  ⟨List.mem_of_find?_eq_some h, by simpa using List.find?_some h⟩

theorem under?_cons (hk : r.key ≠ k) : under? (r :: rs) k = under? rs k :=
  List.find?_cons_of_neg (by rwa [decide_eq_true_iff])

theorem under?_cons_self : under? (r :: rs) r.key = some r := List.find?_cons_of_pos (decide_eq_true rfl)

theorem under?_eq_some_iff (hdistinct : (rs.map key).Nodup) : under? rs k = some r ↔ r ∈ rs ∧ r.key = k := by
  refine ⟨mem_of_under?, fun ⟨hr, hk⟩ => ?_⟩
  cases hr' : under? rs k with
  | none => exact absurd (List.mem_map.2 ⟨r, hr, hk⟩) (under?_eq_none.1 hr')
  | some r' =>
    obtain ⟨hmem, hk'⟩ := mem_of_under? hr'
    exact congrArg some (List.inj_on_of_nodup_map hdistinct hmem hr (hk'.trans hk.symm))

theorem under?_of_perm {rs' : List Registration} (hdistinct : (rs.map key).Nodup) (hperm : rs'.Perm rs)
    (k : String × Option String) : under? rs' k = under? rs k := by
  refine Option.ext fun r => ?_
  rw [under?_eq_some_iff hdistinct, under?_eq_some_iff ((hperm.map key).nodup_iff.2 hdistinct),
    hperm.mem_iff]

theorem chosen?_of_perm {rs' : List Registration} (hdistinct : (rs.map key).Nodup) (hperm : rs'.Perm rs)
    (configured : Option String) (i : String) : chosen? configured rs' i = chosen? configured rs i := by
  rw [chosen?, chosen?, under?_of_perm hdistinct hperm, under?_of_perm hdistinct hperm]

/-- What is chosen for the id of one more registration: itself if it is for the configured database, and also if it
is for all databases, unless there is one for the configured database. -/
theorem chosen?_cons_self :
    chosen? configured (r :: rs) r.id =
      if r.definition.databaseId = configured then some r
      else if r.definition.databaseId = none then (under? rs (r.id, configured)).or (some r)
      else chosen? configured rs r.id := by
  have hother : ∀ d, r.definition.databaseId ≠ d → under? (r :: rs) (r.id, d) = under? rs (r.id, d) :=
    fun d hd => under?_cons fun h => hd (congrArg Prod.snd h)
  have hself : ∀ d, r.definition.databaseId = d → under? (r :: rs) (r.id, d) = some r := by
    rintro d rfl
    exact under?_cons_self
  rw [chosen?, chosen?]
  split_ifs with hconfigured hall
  · rw [hself _ hconfigured]
    rfl
  · rw [hother _ hconfigured, hself _ hall]
  · rw [hother _ hconfigured, hother _ hall]

theorem chosen?_cons_of_ne (hi : r.id ≠ i) : chosen? configured (r :: rs) i = chosen? configured rs i := by
  have hother : ∀ d, under? (r :: rs) (i, d) = under? rs (i, d) :=
    fun d => under?_cons fun h => hi (congrArg Prod.fst h)
  rw [chosen?, chosen?, hother, hother]

theorem mem_of_chosen? (h : chosen? configured rs i = some r) :
    r ∈ rs ∧ (r.key = (i, configured) ∨ r.key = (i, none)) := by
  rcases Option.or_eq_some_iff.1 h with h | ⟨-, h⟩
  · exact ⟨(mem_of_under? h).1, .inl (mem_of_under? h).2⟩
  · exact ⟨(mem_of_under? h).1, .inr (mem_of_under? h).2⟩

/-! ### One statement is added -/

theorem databaseId_of_statement (h : r.statement c = .ok s) : s.databaseId = r.definition.databaseId := by
  obtain ⟨type, -, h⟩ := except_bind_eq_ok.1 h
  obtain ⟨template, -, h⟩ := except_bind_eq_ok.1 h
  obtain ⟨source, -, h⟩ := except_bind_eq_ok.1 h
  cases h
  rfl

theorem add_of_not_isForDatabase (h : c.isForDatabase r.id r.definition.databaseId = false) :
    r.add c = .ok false c := by
  show Configuration.addStatement _ _ _ c = _
  rw [Configuration.addStatement]
  exact if_pos (by rw [← id, h]; rfl)

theorem add_of_canReplace (hfor : c.isForDatabase r.id r.definition.databaseId = true)
    (hreplace : c.canReplace r.id r.definition.databaseId = true) (hs : r.statement c = .ok s) :
    r.add c = .ok true { c with statements := c.statements.insert r.id s } := by
  have hs' : c.statementOf r.library (Configuration.qualified r.namespaceId r.definition.id) r.definition =
    .ok s := hs
  show Configuration.addStatement _ _ _ c = _
  rw [Configuration.addStatement]
  refine (if_neg (by rw [← id, hfor]; exact Bool.false_ne_true)).trans ?_
  refine (if_neg (by rw [← id, hreplace]; exact Bool.false_ne_true)).trans ?_
  rw [hs']
  rfl

theorem canReplace_of_absent (h : c.statements.find? i = none) (d : Option String) : c.canReplace i d = true := by
  rw [Configuration.canReplace, h]

theorem canReplace_of_general (h : c.statements.find? i = some s) (hs : s.databaseId = none) (d : String) :
    c.canReplace i (some d) = true := by
  rw [Configuration.canReplace, h]
  exact Bool.and_eq_true_iff.2 ⟨Option.isNone_iff_eq_none.2 hs, rfl⟩

theorem isForDatabase_of_absent (h : c.statements.find? i = none) : c.isForDatabase i none = true := by
  rw [Configuration.isForDatabase, h]
  rfl

theorem not_isForDatabase_of_present (h : c.statements.find? i = some s) (hs : s.databaseId ≠ none) :
    c.isForDatabase i none = false := by
  rw [Configuration.isForDatabase, h, Option.any_some, Option.isSome_iff_ne_none.2 hs]
  rfl

/-- The configuration has come of another one, which had no statements, by adding the statements `done`. -/
structure Holds (c₀ : Configuration) (done : List Registration) (c : Configuration) : Prop where
  rest : c = { c₀ with statements := c.statements }
  ordered : c.statements.IsOrdered
  builds : ∀ r ∈ done, ∃ s, r.statement c₀ = .ok s
  chosen : ∀ i, c.statements.find? i =
    (chosen? c₀.settings.databaseId done i).bind fun r => (r.statement c₀).toOption

theorem holds_nil (hempty : c.statements = []) : Holds c [] c where
  rest := rfl
  ordered := hempty ▸ List.Pairwise.nil
  builds := List.forall_mem_nil _
  chosen _ := hempty ▸ rfl

theorem Holds.perm (h : Holds c₀ done c) (hdistinct : (done.map key).Nodup) (hperm : rs.Perm done) :
    Holds c₀ rs c where
  rest := h.rest
  ordered := h.ordered
  builds r hr := h.builds r (hperm.mem_iff.1 hr)
  chosen i := by rw [h.chosen, chosen?_of_perm hdistinct hperm]

theorem Holds.unique {c' : Configuration} (h : Holds c₀ done c) (h' : Holds c₀ done c') : c = c' := by
  have hstatements : c.statements = c'.statements :=
    Table.eq_of_find?_eq h.ordered h'.ordered fun i => (h.chosen i).trans (h'.chosen i).symm
  rw [h.rest, h'.rest, hstatements]

theorem Holds.settings (h : Holds c₀ done c) : c.settings = c₀.settings := by
  rw [h.rest]

theorem Holds.statement (h : Holds c₀ done c) : r.statement c = r.statement c₀ := by
  rw [h.rest]
  rfl

theorem Holds.find?_of_chosen (h : Holds c₀ done c) {q : Registration}
    (hq : chosen? c₀.settings.databaseId done i = some q) :
    ∃ s, c.statements.find? i = some s ∧ s.databaseId = q.definition.databaseId := by
  obtain ⟨s, hs⟩ := h.builds q (mem_of_chosen? hq).1
  refine ⟨s, ?_, databaseId_of_statement hs⟩
  rw [h.chosen, hq]
  exact toOption_eq_some.2 hs

theorem Holds.find?_of_not_chosen (h : Holds c₀ done c) (hi : chosen? c₀.settings.databaseId done i = none) :
    c.statements.find? i = none := by
  rw [h.chosen, hi]
  rfl

theorem Holds.of_left_out (h : Holds c₀ done c) (hs : r.statement c₀ = .ok s)
    (hchosen : chosen? c₀.settings.databaseId (r :: done) r.id = chosen? c₀.settings.databaseId done r.id) :
    Holds c₀ (r :: done) c where
  rest := h.rest
  ordered := h.ordered
  builds := List.forall_mem_cons.2 ⟨⟨s, hs⟩, h.builds⟩
  chosen i := by
    rw [h.chosen]
    by_cases hi : r.id = i
    · rw [← hi, hchosen]
    · rw [chosen?_cons_of_ne hi]

theorem Holds.of_put_in (h : Holds c₀ done c) (hs : r.statement c₀ = .ok s)
    (hchosen : chosen? c₀.settings.databaseId (r :: done) r.id = some r) :
    Holds c₀ (r :: done) { c with statements := c.statements.insert r.id s } where
  rest := by rw [h.rest]
  ordered := Table.isOrdered_insert h.ordered _ _
  builds := List.forall_mem_cons.2 ⟨⟨s, hs⟩, h.builds⟩
  chosen i := by
    by_cases hi : r.id = i
    · subst hi
      rw [hchosen, Table.find?_insert_self]
      exact (toOption_eq_some.2 hs).symm
    · rw [chosen?_cons_of_ne hi, Table.find?_insert_of_ne _ _ (Ne.symm hi), h.chosen]

theorem Holds.add_of_put_in (h : Holds c₀ done c) (hs : r.statement c₀ = .ok s)
    (hfor : c.isForDatabase r.id r.definition.databaseId = true)
    (hreplace : c.canReplace r.id r.definition.databaseId = true)
    (hchosen : chosen? c₀.settings.databaseId (r :: done) r.id = some r) :
    ∃ added c', r.add c = .ok added c' ∧ Holds c₀ (r :: done) c' :=
  ⟨true, _, add_of_canReplace hfor hreplace (h.statement.trans hs), h.of_put_in hs hchosen⟩

theorem Holds.add_of_left_out (h : Holds c₀ done c) (hs : r.statement c₀ = .ok s)
    (hfor : c.isForDatabase r.id r.definition.databaseId = false)
    (hchosen : chosen? c₀.settings.databaseId (r :: done) r.id = chosen? c₀.settings.databaseId done r.id) :
    ∃ added c', r.add c = .ok added c' ∧ Holds c₀ (r :: done) c' :=
  ⟨false, c, add_of_not_isForDatabase hfor, h.of_left_out hs hchosen⟩

theorem Holds.add_special (h : Holds c₀ done c) (hnew : r.key ∉ done.map key) (hs : r.statement c₀ = .ok s)
    {d : String} (hd : r.definition.databaseId = some d) :
    ∃ added c', r.add c = .ok added c' ∧ Holds c₀ (r :: done) c' := by
  have hchosen := @chosen?_cons_self r done c₀.settings.databaseId
  have hfor : c.isForDatabase r.id r.definition.databaseId = (c₀.settings.databaseId == some d) := by
    rw [hd, Configuration.isForDatabase, h.settings]
  by_cases hconfigured : r.definition.databaseId = c₀.settings.databaseId
  · rw [if_pos hconfigured] at hchosen
    refine h.add_of_put_in hs (hfor.trans (beq_iff_eq.2 (hconfigured.symm.trans hd))) ?_ hchosen
    cases hq : chosen? c₀.settings.databaseId done r.id with
    | none => exact canReplace_of_absent (h.find?_of_not_chosen hq) _
    | some q =>
      -- what is under the id is for all databases, as the key is new
      obtain ⟨t, ht, htdatabase⟩ := h.find?_of_chosen hq
      have hgeneral : q.key = (r.id, none) := by
        obtain ⟨hmem, hq | hq⟩ := mem_of_chosen? hq
        · exact absurd (List.mem_map.2 ⟨q, hmem, hq.trans (hconfigured ▸ rfl)⟩) hnew
        · exact hq
      rw [hd]
      exact canReplace_of_general ht (htdatabase.trans (congrArg Prod.snd hgeneral)) d
  · rw [if_neg hconfigured, if_neg (hd ▸ Option.some_ne_none d)] at hchosen
    exact h.add_of_left_out hs (hfor.trans (beq_eq_false_iff_ne.2 (hd ▸ Ne.symm hconfigured))) hchosen

theorem Holds.add_general (h : Holds c₀ done c) (hnew : r.key ∉ done.map key) (hs : r.statement c₀ = .ok s)
    (hd : r.definition.databaseId = none) :
    ∃ added c', r.add c = .ok added c' ∧ Holds c₀ (r :: done) c' := by
  have hchosen := @chosen?_cons_self r done c₀.settings.databaseId
  have hgeneral : under? done (r.id, none) = none := under?_eq_none.2 (hd ▸ hnew)
  cases hspecial : under? done (r.id, c₀.settings.databaseId) with
  | none =>
    have habsent := h.find?_of_not_chosen (i := r.id) (by rw [chosen?, hspecial, hgeneral]; rfl)
    refine h.add_of_put_in hs (hd ▸ isForDatabase_of_absent habsent) (canReplace_of_absent habsent _) ?_
    rw [hchosen, if_pos hd, hspecial]
    exact ite_self _
  | some q =>
    have hconfigured : c₀.settings.databaseId ≠ none := fun hnone => by
      rw [hnone, hgeneral] at hspecial
      cases hspecial
    have hq : chosen? c₀.settings.databaseId done r.id = some q := by rw [chosen?, hspecial]; rfl
    obtain ⟨t, ht, htdatabase⟩ := h.find?_of_chosen hq
    have hpresent : t.databaseId = c₀.settings.databaseId :=
      htdatabase.trans (congrArg Prod.snd (mem_of_under? hspecial).2)
    refine h.add_of_left_out hs (hd ▸ not_isForDatabase_of_present ht (hpresent ▸ hconfigured)) ?_
    rw [hchosen, if_neg (hd ▸ Ne.symm hconfigured), if_pos hd, hspecial, hq]
    rfl

/-- Adding a statement with a new key that can be built succeeds, and leads to what is chosen among it and those
added before. -/
theorem Holds.add (h : Holds c₀ done c) (hnew : r.key ∉ done.map key) (hs : r.statement c₀ = .ok s) :
    ∃ added c', r.add c = .ok added c' ∧ Holds c₀ (r :: done) c' := by
  cases hd : r.definition.databaseId with
  | none => exact h.add_general hnew hs hd
  | some d => exact h.add_special hnew hs hd

/-! ### All statements are added -/

theorem Holds.addAll (h : Holds c₀ done c) (hdistinct : ((rs ++ done).map key).Nodup)
    (hbuilds : ∀ r ∈ rs, ∃ s, r.statement c₀ = .ok s) :
    ∃ c', addAll rs c = .ok () c' ∧ Holds c₀ (rs ++ done) c' := by
  induction rs generalizing done c with
  | nil => exact ⟨c, rfl, h⟩
  | cons r rs ih =>
    have hmiddle : (rs ++ r :: done).Perm (r :: rs ++ done) := List.perm_middle
    have hdistinct' := (hmiddle.map key).nodup_iff.2 hdistinct
    have hnew : r.key ∉ done.map key := by
      rw [List.map_append] at hdistinct'
      exact (List.nodup_cons.1 (List.Nodup.of_append_right hdistinct')).1
    obtain ⟨⟨s, hs⟩, hrest⟩ := List.forall_mem_cons.1 hbuilds
    obtain ⟨added, c₁, hadd, h₁⟩ := h.add hnew hs
    obtain ⟨c', hadds, h'⟩ := ih h₁ hdistinct' hrest
    refine ⟨c', ?_, h'.perm hdistinct' hmiddle.symm⟩
    exact bind_eq_ok.2 ⟨(), c₁, discard_eq_ok.2 ⟨added, hadd⟩, hadds⟩

/-- Statements of which no two have both the id and the database in common, and each of which can be built, can be
added in any order, and always lead to the same configuration: it differs from the one before by its statements
only, and under each id it has the statement for the configured database if there is one, else the statement for
all databases if there is one, and else nothing. -/
theorem addAll_of_perm (hempty : c.statements = []) (hdistinct : (rs.map key).Nodup)
    (hbuilds : ∀ r ∈ rs, ∃ s, r.statement c = .ok s) :
    ∃ c', (∀ rs', rs'.Perm rs → addAll rs' c = .ok () c') ∧
      c' = { c with statements := c'.statements } ∧
      ∀ i, c'.statements.find? i =
        (chosen? c.settings.databaseId rs i).bind fun r => (r.statement c).toOption := by
  have hrun : ∀ rs' : List Registration, rs'.Perm rs → ∃ c', addAll rs' c = .ok () c' ∧ Holds c rs c' := by
    intro rs' hperm
    have hdistinct' := (hperm.map key).nodup_iff.2 hdistinct
    have hdone : ((rs' ++ []).map key).Nodup := by rwa [List.append_nil]
    obtain ⟨c', hadd, h⟩ := (holds_nil hempty).addAll hdone fun r hr => hbuilds r (hperm.mem_iff.1 hr)
    rw [List.append_nil] at h
    exact ⟨c', hadd, h.perm hdistinct' hperm.symm⟩
  obtain ⟨c', -, h⟩ := hrun rs (.refl rs)
  refine ⟨c', fun rs' hperm => ?_, h.rest, h.chosen⟩
  obtain ⟨c'', hadd, h''⟩ := hrun rs' hperm
  rw [hadd, h''.unique h]

/-- A statement without fragments, for one database or for all. -/
def clock (databaseId : Option String) (text : String) : Registration :=
  ⟨"t", ⟨[], []⟩, { Configuration.wrapped text with databaseId }⟩

theorem statement_clock {text : String} (htext : substitute [] text = text) (databaseId : Option String) :
    (clock databaseId text).statement c =
      .ok ⟨"t.q", .select, none, databaseId, .dynamic (Configuration.wrappedTemplate text)⟩ := by
  have hbuild : (clock databaseId text).library.build (clock databaseId text).definition.body =
    .ok (Configuration.wrappedTemplate text) := Configuration.build_wrapped htext
  rw [statement, Configuration.statementOf, hbuild]
  rfl

/-- The statement for all databases, the one for the configured database, and one for another. -/
def clocks : List Registration :=
  [clock none "now()", clock (some "mysql") "sysdate()", clock (some "oracle") "sysdate"]

theorem addAll_of_perm_clocks :
    (Configuration.new { Settings.default with databaseId := some "mysql" }).statements = [] ∧
      (clocks.map key).Nodup ∧ ∃ c',
        addAll clocks (.new { Settings.default with databaseId := some "mysql" }) = .ok () c' ∧
        addAll clocks.reverse (.new { Settings.default with databaseId := some "mysql" }) = .ok () c' ∧
        c'.statements.find? "t.q" =
          some ⟨"t.q", .select, none, some "mysql", .dynamic (Configuration.wrappedTemplate "sysdate()")⟩ := by
  have hstatement : ∀ c databaseId text, (text.toList.all fun c => c != '$' && c != '\\') = true →
      (clock databaseId text).statement c =
        .ok ⟨"t.q", .select, none, databaseId, .dynamic (Configuration.wrappedTemplate text)⟩ :=
    fun c databaseId text h =>
      statement_clock (substitute_of_unopened (Configuration.unopened_of_all h) []) databaseId
  have hdistinct : (clocks.map key).Nodup := by decide
  have hbuilds : ∀ r ∈ clocks, ∃ s,
      r.statement (.new { Settings.default with databaseId := some "mysql" }) = .ok s := by
    refine List.forall_mem_cons.2 ⟨⟨_, hstatement _ _ _ (by decide)⟩, ?_⟩
    refine List.forall_mem_cons.2 ⟨⟨_, hstatement _ _ _ (by decide)⟩, ?_⟩
    exact List.forall_mem_singleton.2 ⟨_, hstatement _ _ _ (by decide)⟩
  obtain ⟨c', hadd, -, hfind⟩ := addAll_of_perm rfl hdistinct hbuilds
  refine ⟨rfl, hdistinct, c', hadd _ (.refl _), hadd _ (List.reverse_perm _), (hfind "t.q").trans ?_⟩
  have hchosen : chosen? (some "mysql") clocks "t.q" = some (clock (some "mysql") "sysdate()") := rfl
  refine (congrArg (Option.bind · _) hchosen).trans ?_
  exact toOption_eq_some.2 (hstatement _ _ _ (by decide))

end Registration

end DynamicSql
