/-!
# Association lists

Pairs of keys and values, each key once, in the order in which the keys were first given.
-/

namespace DynamicSql

/-- Values under keys. -/
abbrev Assoc (κ : Type _) (α : Type _) := List (κ × α)

namespace Assoc

variable {κ : Type _} {α : Type _} [DecidableEq κ]

/-- The value under a key. -/
def find? (t : Assoc κ α) (k : κ) : Option α :=
  match t with
  | [] => none
  | (k', v) :: rest => if k = k' then some v else find? rest k

/-- The pairs with `v` under `k`, in place of the value that was there. -/
def insert (t : Assoc κ α) (k : κ) (v : α) : Assoc κ α :=
  match t with
  | [] => [(k, v)]
  | (k', v') :: rest => if k = k' then (k, v) :: rest else (k', v') :: insert rest k v

@[simp] theorem find?_nil (k : κ) : find? ([] : Assoc κ α) k = none := rfl

theorem find?_insert (t : Assoc κ α) (k j : κ) (v : α) :
    (t.insert k v).find? j = if j = k then some v else t.find? j := by
  induction t with
  | nil => simp [insert, find?]
  | cons e rest ih =>
    obtain ⟨k', v'⟩ := e
    by_cases hk : k = k' <;> by_cases hj : j = k'
    · simp [insert, find?, hk, hj]
    · simp [insert, find?, hk, hj]
    · subst hj
      have : ¬ j = k := fun h => hk h.symm
      simp [insert, find?, hk, this]
    · simp [insert, find?, hk, hj, ih]

end Assoc

end DynamicSql
