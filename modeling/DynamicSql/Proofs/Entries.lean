import DynamicSql.Assoc
import DynamicSql.Proofs.Table
import Mathlib.Data.List.Induction
import Mathlib.Data.List.Nodup

/-!
# Entries in the order in which they were given

Where several entries are given for one key, a table holds the last of them (`Table.find?_ofEntries`,
`Assoc.find?_ofEntries`). Where each key is given once, the order does not matter for what is found
(`filter_eq_of_perm`).
-/

namespace DynamicSql

variable {κ α : Type} [DecidableEq κ] {l l' : List (κ × α)} {k : κ} {v : α}

/-! ### The last entry of a key -/

/-- The value that was given last for a key. -/
def lastGiven? (entries : List (κ × α)) (key : κ) : Option α :=
  (entries.filter (·.1 = key)).getLast?.map Prod.snd

/-- The last of the entries, if all of them are for one key. -/
def onlyGiven? (entries : List (κ × α)) : Option α :=
  if ∀ a ∈ entries, ∀ b ∈ entries, a.1 = b.1 then entries.getLast?.map Prod.snd else none

theorem filterMap_concat {α β : Type} (f : α → Option β) (l : List α) (a : α) :
    (l ++ [a]).filterMap f = l.filterMap f ++ (f a).toList := by
  rw [List.filterMap_append, List.filterMap_cons]
  cases f a <;> rfl

theorem lastGiven?_concat (l : List (κ × α)) (j k : κ) (v : α) :
    lastGiven? (l ++ [(j, v)]) k = if k = j then some v else lastGiven? l k := by
  rw [lastGiven?, List.filter_append]
  by_cases h : k = j
  · simp [h]
  · simp [lastGiven?, h, Ne.symm h]

theorem lastGiven?_eq_none_iff : lastGiven? l k = none ↔ k ∉ l.map Prod.fst := by
  rw [lastGiven?, Option.map_eq_none_iff, List.getLast?_eq_none_iff, List.filter_eq_nil_iff, List.mem_map]
  constructor
  · rintro h ⟨e, he, rfl⟩
    exact h e he (decide_eq_true rfl)
  · exact fun h e he hk => h ⟨e, he, of_decide_eq_true hk⟩

theorem mem_of_lastGiven? (h : lastGiven? l k = some v) : (k, v) ∈ l := by
  obtain ⟨e, hlast, rfl⟩ := Option.map_eq_some_iff.1 h
  obtain ⟨hmem, hkey⟩ := List.mem_filter.1 (List.mem_of_getLast? hlast)
  obtain rfl := of_decide_eq_true hkey
  exact hmem

theorem lastGiven?_of_unique (hmem : (k, v) ∈ l) (hunique : ∀ w, (k, w) ∈ l → w = v) : lastGiven? l k = some v := by
  cases hlast : lastGiven? l k with
  | none => exact absurd (List.mem_map_of_mem hmem) (lastGiven?_eq_none_iff.1 hlast)
  | some w => rw [hunique w (mem_of_lastGiven? hlast)]

/-- What was given at a position counts for its key if no position behind it has the key. -/
theorem lastGiven?_of_getElem? {i : Nat} (h : l[i]? = some (k, v)) (hlast : ∀ j e, i < j → l[j]? = some e → e.1 ≠ k) :
    lastGiven? l k = some v := by
  induction l using List.reverseRecOn with
  | nil => cases h
  | append_singleton l e ih =>
    rw [lastGiven?_concat]
    rcases Nat.lt_or_ge i l.length with hi | hi
    · rw [if_neg (Ne.symm (hlast l.length e hi List.getElem?_concat_length))]
      rw [List.getElem?_append_left hi] at h
      refine ih h fun j e' hij he' => hlast j e' hij ?_
      rw [List.getElem?_append_left (List.getElem?_eq_some_iff.1 he').1, he']
    · obtain rfl : i = l.length := by
        have := (List.getElem?_eq_some_iff.1 h).1
        rw [List.length_append, List.length_singleton] at this
        omega
      rw [List.getElem?_concat_length] at h
      obtain rfl := Option.some.inj h
      exact if_pos rfl

namespace Assoc

/-- The pairs of the entries; of several under one key the last counts. -/
def ofEntries (entries : List (κ × α)) : Assoc κ α := entries.foldl (fun t e => t.insert e.1 e.2) []

theorem ofEntries_concat (l : List (κ × α)) (k : κ) (v : α) :
    ofEntries (l ++ [(k, v)]) = (ofEntries l).insert k v := by
  rw [ofEntries, List.foldl_append]
  rfl

theorem find?_ofEntries (l : List (κ × α)) (k : κ) : (ofEntries l).find? k = lastGiven? l k := by
  induction l using List.reverseRecOn with
  | nil => rfl
  | append_singleton l e ih =>
    rw [ofEntries_concat, find?_insert, ih, lastGiven?_concat]

theorem ofEntries_eq_singleton (hall : ∀ e ∈ l, e.1 = k) (hlast : l.getLast?.map Prod.snd = some v) :
    ofEntries l = [(k, v)] := by
  induction l using List.reverseRecOn generalizing v with
  | nil => cases hlast
  | append_singleton l e ih =>
    obtain ⟨j, w⟩ := e
    rw [List.getLast?_concat] at hlast
    obtain rfl : w = v := Option.some.inj hlast
    obtain ⟨hall, hkey⟩ := List.forall_mem_append.1 hall
    obtain rfl : j = k := hkey _ (.head _)
    rw [ofEntries_concat]
    cases hlast : l.getLast? with
    | none =>
      rw [List.getLast?_eq_none_iff.1 hlast]
      rfl
    | some e =>
      rw [ih hall (congrArg (Option.map Prod.snd) hlast), insert, if_pos rfl]

theorem eq_of_find?_singleton {j : κ} (h : find? [(k, v)] j ≠ none) : j = k := by
  rw [find?] at h
  split at h
  · next hj => exact hj
  · exact absurd rfl h

/-- The value of the only pair. -/
def only? : Assoc κ α → Option α
  | [(_, v)] => some v
  | _ => none

theorem only?_ofEntries (l : List (κ × α)) : (ofEntries l).only? = onlyGiven? l := by
  rw [onlyGiven?]
  cases hlast : l.getLast? with
  | none =>
    rw [List.getLast?_eq_none_iff.1 hlast]
    rfl
  | some e =>
    have he : e ∈ l := List.mem_of_getLast? hlast
    split
    · next hsame =>
      rw [ofEntries_eq_singleton (fun a ha => hsame a ha e he) (congrArg (Option.map Prod.snd) hlast)]
      rfl
    · next hdiffer =>
      -- a table with one pair finds nothing under another key, but every key that was given is found
      have hfound (a : κ × α) (ha : a ∈ l) : (ofEntries l).find? a.1 ≠ none := by
        rw [find?_ofEntries, Ne, lastGiven?_eq_none_iff, not_not]
        exact List.mem_map_of_mem ha
      rw [only?.eq_def]
      split
      · next k v hone =>
        refine absurd (fun a ha b hb => ?_) hdiffer
        have hkey (a : κ × α) (ha : a ∈ l) : a.1 = k := eq_of_find?_singleton (hone ▸ hfound a ha)
        rw [hkey a ha, hkey b hb]
      · rfl

end Assoc

namespace Table

theorem find?_ofEntries [LT κ] [DecidableLT κ] (l : List (κ × α)) (k : κ) :
    (ofEntries l).find? k = lastGiven? l k := by
  induction l using List.reverseRecOn with
  | nil => rfl
  | append_singleton l e ih =>
    have hinsert : ofEntries (l ++ [e]) = (ofEntries l).insert e.1 e.2 := by
      rw [ofEntries, List.foldl_append]
      rfl
    rw [hinsert, lastGiven?_concat, ← ih]
    split
    · next h => rw [h, find?_insert_self]
    · next h => exact find?_insert_of_ne _ _ h

theorem mem_keys_ofEntries_iff {l : List (String × α)} {k : String} : k ∈ (ofEntries l).keys ↔ k ∈ l.map Prod.fst := by
  rw [← not_iff_not, ← find?_eq_none_iff, find?_ofEntries, lastGiven?_eq_none_iff]

end Table

/-! ### Keys that are given once -/

theorem length_filter_le_one (hdistinct : (l.map Prod.fst).Nodup) (k : κ) : (l.filter (·.1 = k)).length ≤ 1 := by
  have hkeys : (l.filter (·.1 = k)).map Prod.fst = List.replicate (l.filter (·.1 = k)).length k := by
    refine List.eq_replicate_iff.2 ⟨List.length_map .., List.forall_mem_map.2 fun e he => ?_⟩
    exact of_decide_eq_true (List.mem_filter.1 he).2
  have hnodup := hdistinct.sublist ((List.filter_sublist (p := (·.1 = k))).map Prod.fst)
  rw [hkeys] at hnodup
  exact List.nodup_replicate.1 hnodup

theorem filter_eq_of_perm (hperm : l'.Perm l) (hdistinct : (l.map Prod.fst).Nodup) (k : κ) :
    l'.filter (·.1 = k) = l.filter (·.1 = k) := by
  have hfilter : (l'.filter (·.1 = k)).Perm (l.filter (·.1 = k)) := hperm.filter _
  have hlength := length_filter_le_one hdistinct k
  cases hl : l.filter (·.1 = k) with
  | nil => exact List.perm_nil.1 (hl ▸ hfilter)
  | cons e rest =>
    rw [hl] at hfilter hlength
    obtain rfl : rest = [] := List.length_eq_zero_iff.1 (by simpa using hlength)
    exact List.perm_singleton.1 hfilter

theorem lookup_eq_head?_filter [BEq κ] [LawfulBEq κ] (l : List (κ × α)) (k : κ) :
    l.lookup k = (l.filter (·.1 = k)).head?.map Prod.snd := by
  induction l with
  | nil => rfl
  | cons e l ih =>
    rw [List.lookup_cons, List.filter_cons, ih]
    by_cases he : e.1 = k
    · simp [he]
    · have hne : (k == e.1) = false := beq_eq_false_iff_ne.2 (Ne.symm he)
      simp [he, hne]

theorem lookup_eq_of_perm [BEq κ] [LawfulBEq κ] (hperm : l'.Perm l) (hdistinct : (l.map Prod.fst).Nodup) (k : κ) :
    l'.lookup k = l.lookup k := by
  rw [lookup_eq_head?_filter, lookup_eq_head?_filter, filter_eq_of_perm hperm hdistinct]

end DynamicSql
