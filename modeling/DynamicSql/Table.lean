/-!
# Ordered tables

A table is an association list kept in increasing order of its keys. Reading it in key order is
reading the list, and two tables with the same entries are the same list.
-/

namespace DynamicSql

/-- Entries in increasing order of their keys. -/
abbrev Table (κ : Type _) (α : Type _) := List (κ × α)

namespace Table

variable {κ : Type _} {α : Type _} {β : Type _}

section Lookup

variable [DecidableEq κ]

/-- The value under a key. -/
def find? (t : Table κ α) (k : κ) : Option α :=
  match t with
  | [] => none
  | (k', v) :: rest => if k = k' then some v else find? rest k

/-- Whether the table has a value under the key. -/
def contains (t : Table κ α) (k : κ) : Bool := (t.find? k).isSome

@[simp] theorem find?_nil (k : κ) : find? ([] : Table κ α) k = none := rfl

end Lookup

section Update

variable [DecidableEq κ] [LT κ] [DecidableLT κ]

/-- The table with `v` under `k`, in place of the value that was there. -/
def insert (t : Table κ α) (k : κ) (v : α) : Table κ α :=
  match t with
  | [] => [(k, v)]
  | (k', v') :: rest =>
    if k = k' then (k, v) :: rest
    else if k < k' then (k, v) :: (k', v') :: rest
    else (k', v') :: insert rest k v

/-- The table of the entries; of several under one key the last counts. -/
def ofEntries (entries : List (κ × α)) : Table κ α :=
  entries.foldl (fun t (k, v) => t.insert k v) []

/-- The keys, in order. -/
def keys (t : Table κ α) : List κ := t.map Prod.fst

/-- The values, in the order of their keys. -/
def values (t : Table κ α) : List α := t.map Prod.snd

@[simp] theorem find?_insert_self (t : Table κ α) (k : κ) (v : α) :
    (t.insert k v).find? k = some v := by
  induction t with
  | nil => simp [insert, find?]
  | cons e rest ih =>
    obtain ⟨k', v'⟩ := e
    by_cases h : k = k' <;> by_cases hlt : k < k' <;> simp [insert, find?, h, hlt, ih]

theorem find?_insert_of_ne (t : Table κ α) {k j : κ} (v : α) (h : j ≠ k) :
    (t.insert k v).find? j = t.find? j := by
  induction t with
  | nil => simp [insert, find?, h]
  | cons e rest ih =>
    obtain ⟨k', v'⟩ := e
    unfold insert
    split
    · rename_i hk; subst hk; simp [find?, h]
    · split
      · simp [find?, h]
      · simp only [find?, ih]

end Update

end Table

end DynamicSql
