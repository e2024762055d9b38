import DynamicSql.Proofs.Mapper.Fragments
import DynamicSql.Proofs.Text.Blank
import Mathlib.Data.List.Induction
import Mathlib.Data.List.Nodup

/-!
# Looking statements up

A statement is looked up by its full id, or by its short id if no other statement has the same one. The short ids
are collected over all statements; once a second statement has come with a short id, it stays ambiguous
(`ShortIds.find?_ofStatements`). So for all configurations that documents are loaded into, the ids of the statements
alone decide what a query comes to (`Configuration.Assembled.statement_eq_iff`).
-/

namespace DynamicSql

open Step

/-! ### The short ids of statements -/

namespace ShortIds

/-- What a short id stands for if it is that of just these statements. -/
def meaning? : List MappedStatement → Option (Option String)
  | [] => none
  | [s] => some (some s.id)
  | _ :: _ :: _ => some none

theorem meaning?_concat (l : List MappedStatement) (s : MappedStatement) :
    meaning? (l ++ [s]) = some (if (meaning? l).isSome then none else some s.id) := by
  cases l with
  | nil => rfl
  | cons t l => cases l <;> rfl

theorem find?_add (ids : ShortIds) (s : MappedStatement) (query : String) :
    (ids.add s).find? query =
      if query = s.shortId then some (if (ids.find? query).isSome then none else some s.id) else ids.find? query := by
  rw [add, Table.contains]
  by_cases h : query = s.shortId
  · rw [if_pos h, h, Table.find?_insert_self]
  · rw [if_neg h, Table.find?_insert_of_ne _ _ h]

theorem find?_ofStatements (statements : List MappedStatement) (query : String) :
    (ofStatements statements).find? query = meaning? (statements.filter (·.shortId = query)) := by
  induction statements using List.reverseRecOn with
  | nil => rfl
  | append_singleton l s ih =>
    have hadd : ofStatements (l ++ [s]) = (ofStatements l).add s := by
      rw [ofStatements, List.foldl_append]
      rfl
    rw [hadd, find?_add, ih, List.filter_append, List.filter_singleton]
    by_cases h : query = s.shortId
    · rw [if_pos h, decide_eq_true h.symm, cond_true, meaning?_concat]
    · rw [if_neg h, decide_eq_false (Ne.symm h), cond_false, List.append_nil]

end ShortIds

/-! ### The parts of a full id -/

open DynamicSql.Configuration

theorem not_mem_shortIdOf (id : String) : '.' ∉ (shortIdOf id).toList := by
  rw [shortIdOf, String.toList_ofList]
  exact fun hpoint => of_decide_eq_true (of_mem_takeEndWhile hpoint) rfl

theorem shortIdOf_qualified (namespaceId : String) {id : String} (h : '.' ∉ id.toList) :
    shortIdOf (qualified namespaceId id) = id := by
  have hid : ∀ c ∈ id.toList, decide (c ≠ '.') = true := fun c hc => decide_eq_true fun hpoint => h (hpoint ▸ hc)
  have hpoint : ∀ c ∈ (namespaceId.toList ++ ['.']).getLast?, decide (c ≠ '.') = false := by
    rw [List.getLast?_concat]
    rintro c ⟨⟩
    rfl
  rw [shortIdOf, toList_qualified, List.append_cons, takeEndWhile_append_of_last hid hpoint, String.ofList_toList]

theorem exists_eq_qualified {id : String} (h : '.' ∈ id.toList) :
    ∃ namespaceId, id = qualified namespaceId (shortIdOf id) := by
  have hsplit := Text.dropEndWhile_append_takeEndWhile (· ≠ '.') id.toList
  cases hlast : (Text.dropEndWhile (· ≠ '.') id.toList).getLast? with
  | none =>
    have hshort := not_mem_shortIdOf id
    rw [List.getLast?_eq_none_iff.1 hlast, List.nil_append] at hsplit
    rw [shortIdOf, String.toList_ofList, hsplit] at hshort
    exact absurd h hshort
  | some c =>
    obtain rfl : c = '.' := by simpa using getLast?_dropEndWhile _ _ c hlast
    obtain ⟨front, hfront⟩ := List.getLast?_eq_some_iff.1 hlast
    refine ⟨String.ofList front, String.toList_inj.1 ?_⟩
    rw [toList_qualified, shortIdOf, String.toList_ofList, String.toList_ofList, List.append_cons, ← hfront, hsplit]

namespace MappedStatement

variable {s : MappedStatement} {query : String}

/-- The full id is a namespace and the query, in which there is no point. -/
def HasShortId (s : MappedStatement) (query : String) : Prop :=
  '.' ∉ query.toList ∧ ∃ namespaceId, s.id = qualified namespaceId query

theorem shortId_eq_iff (h : '.' ∈ s.id.toList) : s.shortId = query ↔ s.HasShortId query := by
  constructor
  · rintro rfl
    exact ⟨not_mem_shortIdOf s.id, exists_eq_qualified h⟩
  · rintro ⟨hquery, namespaceId, hid⟩
    rw [shortId, hid, shortIdOf_qualified namespaceId hquery]

end MappedStatement

/-! ### The statements of a configuration -/

namespace Configuration

/-- Each statement is under its own id, which is a namespace and an id. -/
structure IsRegistered (statements : Table String MappedStatement) : Prop where
  ordered : statements.IsOrdered
  own : ∀ e ∈ statements, e.2.id = e.1
  qualified : ∀ e ∈ statements, '.' ∈ e.1.toList

namespace IsRegistered

variable {statements : Table String MappedStatement} {s t : MappedStatement} {query : String}

theorem insert (h : IsRegistered statements) {namespaceId id : String}
    (hid : s.id = Configuration.qualified namespaceId id) :
    IsRegistered (statements.insert (Configuration.qualified namespaceId id) s) where
  ordered := Table.isOrdered_insert h.ordered _ _
  own e he := by
    rcases Table.mem_insert he with rfl | he
    · exact hid
    · exact h.own e he
  qualified e he := by
    rcases Table.mem_insert he with rfl | he
    · exact mem_qualified _ _
    · exact h.qualified e he

theorem find?_eq_some_iff (h : IsRegistered statements) :
    statements.find? query = some s ↔ s ∈ statements.values ∧ s.id = query := by
  rw [Table.find?_eq_some_iff h.ordered]
  constructor
  · exact fun hmem => ⟨List.mem_map_of_mem hmem, h.own _ hmem⟩
  · rintro ⟨hs, rfl⟩
    obtain ⟨e, he, rfl⟩ := List.mem_map.1 hs
    rw [h.own e he]
    exact he

theorem find?_eq_none_iff (h : IsRegistered statements) :
    statements.find? query = none ↔ ∀ s ∈ statements.values, s.id ≠ query := by
  rw [Option.eq_none_iff_forall_not_mem]
  exact ⟨fun hnone s hs hid => hnone s (h.find?_eq_some_iff.2 ⟨hs, hid⟩),
    fun hnone s hs => hnone s (h.find?_eq_some_iff.1 hs).1 (h.find?_eq_some_iff.1 hs).2⟩

theorem nodup_ids (h : IsRegistered statements) : (statements.values.map (·.id)).Nodup := by
  have hids : statements.values.map (·.id) = statements.keys := by
    rw [Table.values, List.map_map]
    exact List.map_congr_left h.own
  rw [hids]
  refine List.Pairwise.imp ?_ h.ordered
  rintro i _ hlt rfl
  exact String.lt_irrefl i hlt

theorem eq_of_id (h : IsRegistered statements) (hs : s ∈ statements.values) (ht : t ∈ statements.values)
    (hid : s.id = t.id) : s = t :=
  Option.some.inj ((h.find?_eq_some_iff.2 ⟨hs, hid⟩).symm.trans (h.find?_eq_some_iff.2 ⟨ht, rfl⟩))

theorem mem_id (h : IsRegistered statements) (hs : s ∈ statements.values) : '.' ∈ s.id.toList := by
  obtain ⟨e, he, rfl⟩ := List.mem_map.1 hs
  rw [h.own e he]
  exact h.qualified e he

theorem mem_filter_iff (h : IsRegistered statements) :
    s ∈ statements.values.filter (·.shortId = query) ↔ s ∈ statements.values ∧ s.HasShortId query := by
  rw [List.mem_filter, decide_eq_true_iff]
  exact and_congr_right fun hs => MappedStatement.shortId_eq_iff (h.mem_id hs)

theorem id_ne_of_filter (h : IsRegistered statements) {rest : List MappedStatement}
    (hfilter : statements.values.filter (·.shortId = query) = s :: t :: rest) : s.id ≠ t.id := by
  have hsublist : (s :: t :: rest).Sublist statements.values := hfilter ▸ List.filter_sublist
  have hnodup := h.nodup_ids.sublist (hsublist.map MappedStatement.id)
  exact fun hid => (List.nodup_cons.1 hnodup).1 (hid ▸ .head _)

end IsRegistered

/-- What a query comes to among statements. -/
inductive IsAnswer (statements : List MappedStatement) (query : String) : Except MapperError MappedStatement → Prop
  /-- The query is a full id. -/
  | full {s : MappedStatement} : s ∈ statements → s.id = query → IsAnswer statements query (.ok s)
  /-- The query is no full id, and the short id of one statement only. -/
  | short {s : MappedStatement} : (∀ t ∈ statements, t.id ≠ query) → s ∈ statements → s.HasShortId query →
      (∀ t ∈ statements, t.HasShortId query → t = s) → IsAnswer statements query (.ok s)
  /-- The query is the short id of two statements or more. -/
  | ambiguous {s t : MappedStatement} : s ∈ statements → t ∈ statements → s.id ≠ t.id → s.HasShortId query →
      t.HasShortId query → IsAnswer statements query (.error (.ambiguousStatement query))
  | unknown : (∀ s ∈ statements, s.id ≠ query) → (∀ s ∈ statements, ¬ s.HasShortId query) →
      IsAnswer statements query (.error (.unknownStatement query))

variable {c : Configuration} {s t : MappedStatement} {query : String}

theorem statement_of_full (h : IsRegistered c.statements) (hs : s ∈ c.statements.values) :
    c.statement s.id = .ok s := by
  rw [statement, h.find?_eq_some_iff.2 ⟨hs, rfl⟩]

/-- What a query comes to that is no full id, and the short id of just these statements. -/
def answerAmong (query : String) : List MappedStatement → Except MapperError MappedStatement
  | [] => .error (.unknownStatement query)
  | [s] => .ok s
  | _ :: _ :: _ => .error (.ambiguousStatement query)

theorem statement_of_not_full (h : IsRegistered c.statements) (hfull : ∀ s ∈ c.statements.values, s.id ≠ query) :
    c.statement query = answerAmong query (c.statements.values.filter (·.shortId = query)) := by
  rw [statement, h.find?_eq_none_iff.2 hfull, ShortIds.find?_ofStatements]
  cases hfilter : c.statements.values.filter (·.shortId = query) with
  | nil => rfl
  | cons s rest =>
    cases rest with
    | nil =>
      have hs : s ∈ c.statements.values.filter (·.shortId = query) := hfilter ▸ .head _
      have hfind := h.find?_eq_some_iff.2 ⟨(List.mem_filter.1 hs).1, rfl⟩
      rw [ShortIds.meaning?, answerAmong]
      dsimp only
      rw [hfind]
    | cons t rest => rfl

theorem isAnswer_statement (h : IsRegistered c.statements) (query : String) :
    IsAnswer c.statements.values query (c.statement query) := by
  by_cases hfull : ∃ s ∈ c.statements.values, s.id = query
  · obtain ⟨s, hs, rfl⟩ := hfull
    rw [statement_of_full h hs]
    exact .full hs rfl
  · replace hfull : ∀ s ∈ c.statements.values, s.id ≠ query := fun s hs hid => hfull ⟨s, hs, hid⟩
    have hmem : ∀ s, s ∈ c.statements.values.filter (·.shortId = query) ↔
      s ∈ c.statements.values ∧ s.HasShortId query := fun s => h.mem_filter_iff
    rw [statement_of_not_full h hfull]
    cases hfilter : c.statements.values.filter (·.shortId = query) with
    | nil =>
      rw [hfilter] at hmem
      exact .unknown hfull fun s hs hshort => List.not_mem_nil ((hmem s).2 ⟨hs, hshort⟩)
    | cons s rest =>
      cases rest with
      | nil =>
        rw [hfilter] at hmem
        obtain ⟨hs, hshort⟩ := (hmem s).1 (.head _)
        exact .short hfull hs hshort fun t ht htshort => List.mem_singleton.1 ((hmem t).2 ⟨ht, htshort⟩)
      | cons t rest =>
        have hne := h.id_ne_of_filter hfilter
        rw [hfilter] at hmem
        obtain ⟨hs, hshort⟩ := (hmem s).1 (.head _)
        obtain ⟨ht, htshort⟩ := (hmem t).1 (.tail _ (.head _))
        exact .ambiguous hs ht hne hshort htshort

/-- The rules exclude one another, as there is a point in each full id and none in a short one. -/
theorem IsAnswer.unique {statements : Table String MappedStatement} {r r' : Except MapperError MappedStatement}
    (h : IsRegistered statements) (hr : IsAnswer statements.values query r)
    (hr' : IsAnswer statements.values query r') : r = r' := by
  cases hr with
  | full hs hid =>
    cases hr' with
    | full ht hid' => rw [h.eq_of_id hs ht (hid.trans hid'.symm)]
    | short hfull => exact absurd hid (hfull _ hs)
    | ambiguous _ _ _ hshort => exact absurd (hid ▸ h.mem_id hs) hshort.1
    | unknown hfull => exact absurd hid (hfull _ hs)
  | short hfull hs hshort hunique =>
    cases hr' with
    | full ht hid => exact absurd hid (hfull _ ht)
    | short _ ht htshort _ => rw [hunique _ ht htshort]
    | ambiguous ht hu hne htshort hushort =>
      exact absurd (by rw [hunique _ ht htshort, hunique _ hu hushort]) hne
    | unknown _ hnone => exact absurd hshort (hnone _ hs)
  | ambiguous hs ht hne hshort htshort =>
    cases hr' with
    | full hu hid => exact absurd (hid ▸ h.mem_id hu) hshort.1
    | short _ _ _ hunique => exact absurd (by rw [hunique _ hs hshort, hunique _ ht htshort]) hne
    | ambiguous => rfl
    | unknown _ hnone => exact absurd hshort (hnone _ hs)
  | unknown hfull hnone =>
    cases hr' with
    | full ht hid => exact absurd hid (hfull _ ht)
    | short _ ht htshort _ => exact absurd htshort (hnone _ ht)
    | ambiguous ht _ _ htshort => exact absurd htshort (hnone _ ht)
    | unknown => rfl

/-! ### Configurations that documents are loaded into -/

/-- A configuration that comes of one without statements by loading documents, to their ends or to a fault in them,
and by changing anything but the statements. -/
inductive Assembled : Configuration → Prop
  | empty {c : Configuration} : c.statements = [] → Assembled c
  | mapper {c : Configuration} (d : Document) : Assembled c → Assembled (final (addMapper d c))
  | other {c c' : Configuration} : Assembled c → c'.statements = c.statements → Assembled c'

theorem Assembled.isRegistered (h : Assembled c) : IsRegistered c.statements := by
  induction h with
  | empty hempty =>
    rw [hempty]
    exact ⟨.nil, List.forall_mem_nil _, List.forall_mem_nil _⟩
  | @mapper c d _ ih =>
    have hkept : Preserves (fun c : Configuration => IsRegistered c.statements) (addMapper d) :=
      preserves_addMapper (fun _ _ _ _ _ hc hs => hc.insert (id_of_statementOf hs)) (fun _ _ _ hc => hc) d
    exact hkept.final ih
  | other _ heq ih => rwa [heq]

/-- A query comes to the statement of which it is the full id, else to the only one of which it is the short id, and
else is ambiguous if there are several of these, and unknown if there is none. So a query with a point in it never
comes to a statement with another full id. -/
theorem Assembled.statement_eq_iff (h : Assembled c) (query : String) :
    (∀ r, c.statement query = r ↔ IsAnswer c.statements.values query r) ∧
      ∀ s, '.' ∈ query.toList → c.statement query = .ok s → s.id = query := by
  have hanswer := isAnswer_statement h.isRegistered query
  refine ⟨fun r => ⟨fun hr => hr ▸ hanswer, hanswer.unique h.isRegistered⟩, fun s hpoint hs => ?_⟩
  rw [hs] at hanswer
  cases hanswer with
  | full _ hid => exact hid
  | short _ _ hshort _ => exact absurd hpoint hshort.1

/-- A document with one statement, the id of which is `q`. -/
def clockIn (namespaceId : String) : Document := ⟨namespaceId, [], [wrapped "now()"]⟩

/-- The statement of this document. -/
def clockOf (namespaceId : String) : MappedStatement :=
  ⟨qualified namespaceId "q", .select, none, none, .dynamic (wrappedTemplate "now()")⟩

theorem Assembled.addClock (h : Assembled c) (hlibrary : c.library = ⟨[], []⟩) (namespaceId : String)
    (hnew : c.statements.find? (qualified namespaceId "q") = none) :
    Assembled { c with statements := c.statements.insert (qualified namespaceId "q") (clockOf namespaceId) } := by
  have hs : c.statementOf c.library (qualified namespaceId "q") (wrapped "now()") = .ok (clockOf namespaceId) := by
    rw [hlibrary, statementOf, build_wrapped (substitute_of_all (by decide))]
    rfl
  have hadd := h.mapper (clockIn namespaceId)
  rwa [clockIn, addMapper_single rfl hnew hs] at hadd

/-- The configuration with the statements of three such documents. -/
def withClocks : Configuration :=
  { new .default with
    statements := [("a.b.q", clockOf "a.b"), ("b.q", clockOf "b"), ("c.q", clockOf "c")] }

theorem assembled_withClocks : Assembled withClocks := by
  have hnew : Assembled (new .default) := .empty rfl
  have hone := hnew.addClock rfl "c" rfl
  have htwo := hone.addClock rfl "a.b" rfl
  exact htwo.addClock rfl "b" rfl

/-- Three statements share a short id. A full id is found though another one ends like it, and the end of a full id
alone is not. -/
theorem Assembled.statement_eq_iff_clocks :
    Assembled withClocks ∧ withClocks.statement "q" = .error (.ambiguousStatement "q") ∧
      withClocks.statement "b.q" = .ok (clockOf "b") ∧
      withClocks.statement "a.q" = .error (.unknownStatement "a.q") := by
  have hlookup := assembled_withClocks.statement_eq_iff
  refine ⟨assembled_withClocks, ((hlookup "q").1 _).2 ?_, ((hlookup "b.q").1 _).2 ?_, ((hlookup "a.q").1 _).2 ?_⟩
  · have hpoint : '.' ∉ "q".toList := by decide
    exact .ambiguous (s := clockOf "a.b") (t := clockOf "b") (.head _) (.tail _ (.head _)) (by decide)
      ⟨hpoint, "a.b", rfl⟩ ⟨hpoint, "b", rfl⟩
  · exact .full (.tail _ (.head _)) (by decide)
  · refine .unknown ?_ fun s _ hshort => hshort.1 (by decide)
    refine List.forall_mem_cons.2 ⟨by decide, ?_⟩
    exact List.forall_mem_cons.2 ⟨by decide, List.forall_mem_singleton.2 (by decide)⟩

end Configuration

end DynamicSql
