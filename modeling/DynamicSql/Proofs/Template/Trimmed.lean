import DynamicSql.Proofs.Template.Composed
import DynamicSql.Proofs.Template.Dropped

/-!
# Clauses around composed texts

A clause of plain words leaves the placeholders of its body as they are: what it drops and what it writes
around the body are plain characters, and a body that it drops altogether has no placeholders
(`Composed.apply`).
-/

namespace DynamicSql

open Text

namespace Clause

/-- The words of a clause are plain. -/
structure IsPlain (c : Clause) : Prop where
  lead : ∀ s ∈ c.lead, ∀ d ∈ s.toList, isPlain d = true
  trail : ∀ s ∈ c.trail, ∀ d ∈ s.toList, isPlain d = true
  dropLead : ∀ s ∈ c.dropLead, ∀ d ∈ s.toList, isPlain d = true
  dropTrail : ∀ s ∈ c.dropTrail, ∀ d ∈ s.toList, isPlain d = true

theorem toLower_eq_self_or (c : Char) : c.toLower = c ∨ 97 ≤ c.toLower.toNat ∧ c.toLower.toNat ≤ 122 := by
  have hlower := toNat_toLower c
  by_cases hc : 65 ≤ c.toNat ∧ c.toNat ≤ 90
  · rw [if_pos hc] at hlower
    omega
  · rw [if_neg hc] at hlower
    exact .inl (Char.toNat_inj.1 hlower)

theorem isPlain_of_eqIgnoreAsciiCase {w c : Char} (hw : isPlain w = true)
    (h : eqIgnoreAsciiCase w c = true) : isPlain c = true := by
  rw [eqIgnoreAsciiCase, beq_iff_eq] at h
  by_contra hc
  obtain ⟨hplain, hlower, hrange⟩ :
      isPlain c = false ∧ c.toLower = c ∧ ¬ (97 ≤ c.toNat ∧ c.toNat ≤ 122) := by
    rcases eq_of_not_isPlain hc with rfl | rfl | rfl | rfl <;> decide
  rw [hlower] at h
  rcases toLower_eq_self_or w with hself | hletter
  · rw [← hself, h, hplain] at hw
    cases hw
  · rw [h] at hletter
    exact hrange hletter

theorem isPlain_of_map_toLower {word s : List Char} (hword : ∀ d ∈ word, isPlain d = true)
    (h : s.map Char.toLower = word.map Char.toLower) : ∀ d ∈ s, isPlain d = true := by
  intro d hd
  have hmem : d.toLower ∈ word.map Char.toLower := by
    rw [← h]
    exact List.mem_map_of_mem hd
  obtain ⟨w, hw, heq⟩ := List.mem_map.1 hmem
  exact isPlain_of_eqIgnoreAsciiCase (hword w hw) (beq_iff_eq.2 heq)

theorem of_stripHead? {word s rest : List Char} (hword : ∀ d ∈ word, isPlain d = true)
    (h : stripHead? word s = some rest) : ∃ front, s = front ++ rest ∧ ∀ d ∈ front, isPlain d = true := by
  obtain ⟨front, rfl, hfront⟩ := stripHead?_eq_some.1 h
  exact ⟨front, rfl, isPlain_of_map_toLower hword hfront⟩

theorem of_stripEnd? {word s rest : List Char} (hword : ∀ d ∈ word, isPlain d = true)
    (h : stripEnd? word s = some rest) : ∃ back, s = rest ++ back ∧ ∀ d ∈ back, isPlain d = true := by
  obtain ⟨back, rfl, hback⟩ := stripEnd?_eq_some.1 h
  exact ⟨back, rfl, isPlain_of_map_toLower hword hback⟩

end Clause

namespace Composed

variable {bs : List (List Char)} {t : List Char} {c : Clause}

theorem withoutLead (h : Composed bs t) (hc : c.IsPlain) : Composed bs (c.withoutLead t) := by
  have htrim := h.trimStart
  rw [Clause.withoutLead]
  split
  · next rest hfind =>
    obtain ⟨word, hword, hstrip⟩ := List.exists_of_findSome?_eq_some hfind
    obtain ⟨front, hfront, hplain⟩ := Clause.of_stripHead? (hc.dropLead word hword) hstrip
    rw [hfront] at htrim
    exact (htrim.of_append_left hplain).trimStart
  · exact htrim

theorem withoutTrail (h : Composed bs t) (hc : c.IsPlain) : Composed bs (c.withoutTrail t) := by
  rw [Clause.withoutTrail]
  dsimp only
  cases hfind : c.dropTrail.findSome? fun word =>
    let word := trim word.toList
    if word.isEmpty then none else Clause.stripEnd? word t with
  | none => exact h
  | some rest =>
    obtain ⟨word, hword, hstrip⟩ := List.exists_of_findSome?_eq_some hfind
    dsimp only at hstrip
    split at hstrip
    · cases hstrip
    · obtain ⟨back, rfl, hplain⟩ :=
        Clause.of_stripEnd? (fun d hd => hc.dropTrail word hword d (mem_of_mem_trim hd)) hstrip
      exact h.of_append_right hplain

theorem apply (h : Composed bs t) (hc : c.IsPlain) : Composed bs (c.apply t) := by
  have hlead := h.withoutLead hc
  have htrailing : ∀ d ∈ takeEndWhile isBlank (c.withoutLead t), isPlain d = true := by
    intro d hd
    rw [takeEndWhile, List.mem_reverse] at hd
    exact isPlain_of_isBlank (List.mem_takeWhile_imp hd)
  have hcore : Composed bs (c.withoutTrail (dropEndWhile isBlank (c.withoutLead t))) := by
    rw [← dropEndWhile_append_takeEndWhile isBlank (c.withoutLead t)] at hlead
    exact (hlead.of_append_right htrailing).withoutTrail hc
  rw [Clause.apply]
  split
  · next hblank =>
    rcases Bool.or_eq_true_iff.1 hblank with hblank | hblank
    · rw [h.eq_nil_of_allBlank hblank]
      exact nil
    · rw [hcore.eq_nil_of_allBlank hblank]
      exact nil
  · have hblank : ∀ d ∈ [' '], isPlain d = true := List.all_eq_true.1 (by decide)
    have hwords : Composed [] ((c.lead.map fun s => s.toList ++ [' ']).getD []) := by
      cases hs : c.lead with
      | none => exact nil
      | some s => exact (plain (hc.lead s hs)).append (plain hblank)
    have hwords' : Composed [] ((c.trail.map fun s => ' ' :: s.toList).getD []) := by
      cases hs : c.trail with
      | none => exact nil
      | some s => exact (plain hblank).append (plain (hc.trail s hs))
    have happend := ((hwords.append hcore).append hwords').append (plain htrailing)
    rw [List.nil_append, List.append_nil, List.append_nil] at happend
    exact happend

end Composed

end DynamicSql
