import DynamicSql.Table
import Mathlib.Data.String.Basic

/-!
# Keys and values of tables

A table has a value under each of its keys, and nothing under others. Putting in a value keeps the order of the
keys, so that two tables with the same values under the same keys are the same (`Table.eq_of_find?_eq`).
-/

namespace DynamicSql

namespace Table

section Values

variable {κ α : Type} [DecidableEq κ] {t : Table κ α} {k : κ} {v w : α}

theorem mem_of_find? (h : t.find? k = some v) : (k, v) ∈ t := by
  induction t with
  | nil => cases h
  | cons e t ih =>
    rw [find?] at h
    split at h
    · next hk =>
      obtain rfl := Option.some.inj h
      exact hk ▸ .head _
    · exact .tail _ (ih h)

theorem mem_values_of_find? (h : t.find? k = some v) : v ∈ t.values := List.mem_map_of_mem (mem_of_find? h)

theorem mem_insert [LT κ] [DecidableLT κ] {e : κ × α} (h : e ∈ t.insert k v) : e = (k, v) ∨ e ∈ t := by
  induction t with
  | nil => exact .inl (List.mem_singleton.1 h)
  | cons e' t ih =>
    rw [insert] at h
    split_ifs at h
    · exact (List.mem_cons.1 h).imp_right (.tail _)
    · exact List.mem_cons.1 h
    · rcases List.mem_cons.1 h with rfl | h
      · exact .inr (.head _)
      · exact (ih h).imp_right (.tail _)

theorem mem_values_insert [LT κ] [DecidableLT κ] (h : w ∈ (t.insert k v).values) : w = v ∨ w ∈ t.values := by
  obtain ⟨e, he, rfl⟩ := List.mem_map.1 h
  exact (mem_insert he).imp (congrArg Prod.snd) (List.mem_map_of_mem ·)

end Values

variable {α : Type} {t u : Table String α} {k : String} {v : α}

/-- Each key is above those before it. -/
def IsOrdered (t : Table String α) : Prop := t.keys.Pairwise (· < ·)

theorem find?_eq_none_iff : t.find? k = none ↔ k ∉ t.keys := by
  induction t with
  | nil => exact ⟨fun _ => List.not_mem_nil, fun _ => rfl⟩
  | cons e t ih =>
    rw [find?]
    split_ifs with hk
    · exact ⟨False.elim, fun h => absurd (hk ▸ .head _) h⟩
    · rw [ih, keys, keys, List.map_cons, List.mem_cons, not_or]
      exact ⟨fun h => ⟨hk, h⟩, fun h => h.2⟩

theorem mem_keys_of_find? (h : t.find? k = some v) : k ∈ t.keys := List.mem_map_of_mem (mem_of_find? h)

theorem find?_insert_congr {j : String} (h : t.find? j = u.find? j) (k : String) (v : α) :
    (t.insert k v).find? j = (u.insert k v).find? j := by
  by_cases hj : j = k
  · rw [hj, find?_insert_self, find?_insert_self]
  · rw [find?_insert_of_ne t v hj, find?_insert_of_ne u v hj, h]

theorem mem_keys_insert {j : String} (h : j ∈ (t.insert k v).keys) : j = k ∨ j ∈ t.keys := by
  obtain ⟨e, he, rfl⟩ := List.mem_map.1 h
  exact (mem_insert he).imp (congrArg Prod.fst) (List.mem_map_of_mem ·)

theorem isOrdered_insert (ht : t.IsOrdered) (k : String) (v : α) : (t.insert k v).IsOrdered := by
  induction t with
  | nil => exact List.pairwise_singleton _ _
  | cons e t ih =>
    obtain ⟨hbelow, htail⟩ := List.pairwise_cons.1 ht
    rw [insert]
    split_ifs with heq hlt
    · exact List.pairwise_cons.2 ⟨fun j hj => heq ▸ hbelow j hj, htail⟩
    · refine List.pairwise_cons.2 ⟨List.forall_mem_cons.2 ⟨hlt, fun j hj => ?_⟩, ht⟩
      exact String.lt_trans hlt (hbelow j hj)
    · refine List.pairwise_cons.2 ⟨fun j hj => ?_, ih htail⟩
      rcases mem_keys_insert hj with rfl | hj
      · by_contra hnot
        exact heq (Std.Trichotomous.trichotomous _ _ hlt hnot)
      · exact hbelow j hj

theorem find?_tail_of_isOrdered {e : String × α} (h : IsOrdered (e :: t)) : t.find? e.1 = none := by
  by_contra hsome
  obtain ⟨v, hv⟩ := Option.ne_none_iff_exists'.1 hsome
  exact String.lt_irrefl _ ((List.pairwise_cons.1 h).1 _ (mem_keys_of_find? hv))

theorem find?_eq_some_iff (ht : t.IsOrdered) : t.find? k = some v ↔ (k, v) ∈ t := by
  refine ⟨mem_of_find?, fun h => ?_⟩
  induction t with
  | nil => cases h
  | cons e t ih =>
    obtain ⟨hbelow, htail⟩ := List.pairwise_cons.1 ht
    rw [find?]
    rcases List.mem_cons.1 h with rfl | h
    · exact if_pos rfl
    · have hne : k ≠ e.1 := fun hk => String.lt_irrefl _ (hk ▸ hbelow k (List.mem_map_of_mem h))
      rw [if_neg hne, ih htail h]

/-- Ordered tables with the same values under the same keys are the same. -/
theorem eq_of_find?_eq (ht : t.IsOrdered) (hu : u.IsOrdered) (h : ∀ k, t.find? k = u.find? k) : t = u := by
  induction t generalizing u with
  | nil =>
    cases u with
    | nil => rfl
    | cons e u => cases (h e.1).trans (if_pos rfl)
  | cons d t ih =>
    cases u with
    | nil => cases (h d.1).symm.trans (if_pos rfl)
    | cons e u =>
      obtain ⟨hd, ht'⟩ := List.pairwise_cons.1 ht
      obtain ⟨he, hu'⟩ := List.pairwise_cons.1 hu
      have hfirst : d.1 = e.1 := by
        by_contra hne
        have hde : find? (e :: u) d.1 = some d.2 := (h d.1).symm.trans (if_pos rfl)
        have hed : find? (d :: t) e.1 = some e.2 := (h e.1).trans (if_pos rfl)
        rw [find?, if_neg hne] at hde
        rw [find?, if_neg (Ne.symm hne)] at hed
        exact String.lt_asymm (hd _ (mem_keys_of_find? hed)) (he _ (mem_keys_of_find? hde))
      have hvalue : d.2 = e.2 := by
        have := h d.1
        rw [find?, find?, if_pos rfl, if_pos hfirst] at this
        exact Option.some.inj this
      have htail : t = u := by
        refine ih ht' hu' fun k => ?_
        by_cases hk : k = d.1
        · rw [hk, find?_tail_of_isOrdered ht, hfirst, find?_tail_of_isOrdered hu]
        · have := h k
          rwa [find?, find?, if_neg hk, if_neg (hfirst ▸ hk)] at this
      rw [Prod.ext hfirst hvalue, htail]

theorem insert_eq_self (ht : t.IsOrdered) (h : t.find? k = some v) : t.insert k v = t := by
  apply eq_of_find?_eq (isOrdered_insert ht k v) ht
  intro j
  by_cases hj : j = k
  · rw [hj, find?_insert_self, h]
  · rw [find?_insert_of_ne t v hj]

end Table

end DynamicSql
