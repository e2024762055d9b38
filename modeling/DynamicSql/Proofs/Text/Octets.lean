import DynamicSql.Text.Utf8
import Mathlib.Data.List.Basic

/-!
# Octets of texts

The octets of the UTF-8 form of a text. A first octet of a character is never one of the octets behind the first,
so the octets of a text can be cut in front of it only where the text can be cut (`exists_of_octets_cut`). Where
octets of a word are found in the octets of a text, the word is found in the text (`exists_of_octets_eq`), and so it is
where the case of ASCII letters makes no difference (`exists_of_head_octets`, `exists_of_end_octets`).
-/

namespace DynamicSql.Text

/-- The octets of the UTF-8 form of the characters. -/
def octets (s : List Char) : List UInt8 := s.flatMap String.utf8EncodeChar

@[simp] theorem octets_nil : octets [] = [] := rfl

@[simp] theorem octets_cons (c : Char) (s : List Char) :
    octets (c :: s) = String.utf8EncodeChar c ++ octets s := rfl

@[simp] theorem octets_append (s t : List Char) : octets (s ++ t) = octets s ++ octets t :=
  List.flatMap_append

theorem length_octets (s : List Char) : (octets s).length = utf8Length s := by
  induction s with
  | nil => rfl
  | cons c s ih => simp [utf8Length, ih]

theorem octets_eq_nil {s : List Char} : octets s = [] ↔ s = [] := by
  cases s with
  | nil => simp
  | cons c s => simp

/-! ### First octets -/

theorem eq_nil_of_first {c : Char} {x y : List UInt8} {b : UInt8} (hb : b.IsUTF8FirstByte)
    (h : String.utf8EncodeChar c = x ++ b :: y) : x = [] := by
  have hlt : x.length < (String.utf8EncodeChar c).length := by simp [h]
  have hget : (String.utf8EncodeChar c)[x.length] = b := by simp [h]
  rw [← hget, UInt8.isUTF8FirstByte_getElem_utf8EncodeChar] at hb
  exact List.eq_nil_of_length_eq_zero hb

theorem exists_first_octet (c : Char) :
    ∃ b rest, String.utf8EncodeChar c = b :: rest ∧ b.IsUTF8FirstByte := by
  have hpos : 0 < (String.utf8EncodeChar c).length := by simp [c.utf8Size_pos]
  refine ⟨(String.utf8EncodeChar c)[0], (String.utf8EncodeChar c).tail, ?_, ?_⟩
  · rw [← List.head_eq_getElem_zero (List.ne_nil_of_length_pos hpos), List.cons_head_tail]
  · exact UInt8.isUTF8FirstByte_getElem_zero_utf8EncodeChar

theorem exists_of_octets_cut {s : List Char} {x y : List UInt8} {b : UInt8} (hb : b.IsUTF8FirstByte)
    (h : octets s = x ++ b :: y) : ∃ front back, s = front ++ back ∧ octets front = x ∧ octets back = b :: y := by
  induction s generalizing x with
  | nil => simp at h
  | cons c s ih =>
    by_cases hx : x = []
    · subst hx
      exact ⟨[], c :: s, rfl, rfl, h⟩
    · rw [octets_cons, List.append_eq_append_iff] at h
      rcases h with ⟨x', rfl, hrest⟩ | ⟨y', hc, hrest⟩
      · obtain ⟨front, back, rfl, rfl, hback⟩ := ih hrest
        exact ⟨c :: front, back, rfl, rfl, hback⟩
      · -- the cut lies in the first character or behind it
        cases y' with
        | nil =>
          rw [List.append_nil] at hc
          exact ⟨[c], s, rfl, by simp [hc], hrest.symm⟩
        | cons b' y' =>
          obtain ⟨rfl, -⟩ := List.cons.inj hrest
          exact absurd (eq_nil_of_first hb hc) hx

/-! ### Words -/

theorem eq_of_utf8EncodeChar_append {c d : Char} {x y : List UInt8}
    (h : String.utf8EncodeChar c ++ x = String.utf8EncodeChar d ++ y) : c = d := by
  have hc := @ByteArray.utf8DecodeChar?_utf8EncodeChar_append x.toByteArray c
  have hd := @ByteArray.utf8DecodeChar?_utf8EncodeChar_append y.toByteArray d
  rw [← List.toByteArray_append, h, List.toByteArray_append, hd] at hc
  exact (Option.some.inj hc).symm

theorem exists_of_octets_prefix {s word : List Char} {y : List UInt8} (h : octets s = octets word ++ y) :
    ∃ rest, s = word ++ rest ∧ octets rest = y := by
  induction word generalizing s with
  | nil => exact ⟨s, rfl, h⟩
  | cons w word ih =>
    cases s with
    | nil => simp at h
    | cons c s =>
      rw [octets_cons, octets_cons, List.append_assoc] at h
      obtain rfl := eq_of_utf8EncodeChar_append h
      obtain ⟨rest, rfl, hrest⟩ := ih (List.append_cancel_left h)
      exact ⟨rest, rfl, hrest⟩

theorem octets_inj {s t : List Char} : octets s = octets t ↔ s = t := by
  constructor
  · intro h
    rw [← List.append_nil (octets t)] at h
    obtain ⟨rest, rfl, hrest⟩ := exists_of_octets_prefix h
    rw [octets_eq_nil.1 hrest, List.append_nil]
  · exact congrArg octets

/-- Where the octets of a word are found in those of a text, the word is found in the text. -/
theorem exists_of_octets_eq {s word : List Char} (hword : word ≠ []) {x y : List UInt8}
    (h : octets s = x ++ (octets word ++ y)) :
    ∃ before after, s = before ++ (word ++ after) ∧ octets before = x ∧ octets after = y := by
  obtain ⟨w, word', rfl⟩ := List.exists_cons_of_ne_nil hword
  obtain ⟨b, rest, hw, hb⟩ := exists_first_octet w
  have hcut : octets (w :: word') ++ y = b :: (rest ++ octets word' ++ y) := by simp [hw]
  rw [hcut] at h
  obtain ⟨before, back, rfl, hbefore, hback⟩ := exists_of_octets_cut hb h
  rw [← hcut] at hback
  obtain ⟨after, rfl, hafter⟩ := exists_of_octets_prefix hback
  exact ⟨before, after, rfl, hbefore, hafter⟩

/-! ### The last octet -/

theorem getLast?_octets {s : List Char} {d : Char} {b : UInt8} (hd : String.utf8EncodeChar d = [b]) :
    (octets s).getLast? = some b ↔ s.getLast? = some d := by
  have hb : b.IsUTF8FirstByte := by
    obtain ⟨b', rest, hfirst, hb'⟩ := exists_first_octet d
    rw [hd] at hfirst
    obtain ⟨rfl, -⟩ := List.cons.inj hfirst
    exact hb'
  constructor
  · intro h
    obtain ⟨x, hx⟩ := List.getLast?_eq_some_iff.1 h
    obtain ⟨front, back, rfl, -, hback⟩ := exists_of_octets_cut hb hx
    have hback' : octets back = octets [d] := by simp [hback, hd]
    rw [octets_inj.1 hback', List.getLast?_concat]
  · intro h
    obtain ⟨front, rfl⟩ := List.getLast?_eq_some_iff.1 h
    simp [hd]

/-! ### Letter case -/

/-- The octet of the small letter for that of a capital one; any other octet as it is. -/
def lowerOctet (b : UInt8) : UInt8 := if 65 ≤ b ∧ b ≤ 90 then b + 32 else b

theorem lowerOctet_ofNat {n : Nat} (h : n < 256) :
    lowerOctet (UInt8.ofNat n) = UInt8.ofNat (if 65 ≤ n ∧ n ≤ 90 then n + 32 else n) := by
  have hlow : 65 ≤ UInt8.ofNat n ↔ 65 ≤ n := by
    rw [UInt8.le_iff_toNat_le, UInt8.toNat_ofNat', Nat.mod_eq_of_lt h]
    rfl
  have hhigh : UInt8.ofNat n ≤ 90 ↔ n ≤ 90 := by
    rw [UInt8.le_iff_toNat_le, UInt8.toNat_ofNat', Nat.mod_eq_of_lt h]
    rfl
  simp only [lowerOctet, hlow, hhigh]
  split
  · exact (UInt8.ofNat_add n 32).symm
  · rfl

theorem lowerOctet_of_le {n : Nat} (hlow : 128 ≤ n) (hhigh : n < 256) :
    lowerOctet (UInt8.ofNat n) = UInt8.ofNat n := by
  rw [lowerOctet_ofNat hhigh, if_neg (by omega)]

theorem toNat_toLower (c : Char) :
    c.toLower.toNat = if 65 ≤ c.toNat ∧ c.toNat ≤ 90 then c.toNat + 32 else c.toNat := by
  have hcapital : c.val ≥ 'A'.val ∧ c.val ≤ 'Z'.val ↔ 65 ≤ c.toNat ∧ c.toNat ≤ 90 := Iff.rfl
  unfold Char.toLower
  simp only [hcapital]
  split
  · next h =>
    show (c.val + 32).toNat = c.val.toNat + 32
    rw [UInt32.toNat_add]
    apply Nat.mod_eq_of_lt
    show c.toNat + 32 < 2 ^ 32
    omega
  · rfl

theorem map_lowerOctet_utf8EncodeChar (c : Char) :
    (String.utf8EncodeChar c).map lowerOctet = String.utf8EncodeChar c.toLower := by
  have hlower := toNat_toLower c
  by_cases hc : c.toNat ≤ 127
  · have hone : ∀ d : Char, d.toNat ≤ 127 → String.utf8EncodeChar d = [UInt8.ofNat d.toNat] := fun d hd => if_pos hd
    rw [hone c hc, hone _ (by rw [hlower]; split <;> omega), hlower, List.map_singleton, lowerOctet_ofNat (by omega)]
  · have hself : c.toLower = c := by
      rw [if_neg (by omega)] at hlower
      exact Char.toNat_inj.1 hlower
    rw [hself]
    have hmany : ¬ c.val.toNat ≤ 127 := hc
    rw [String.utf8EncodeChar, if_neg hmany]
    split
    · simp (disch := omega) only [List.map_cons, List.map_nil, lowerOctet_of_le]
    · split <;> simp (disch := omega) only [List.map_cons, List.map_nil, lowerOctet_of_le]

theorem octets_map_toLower (s : List Char) : octets (s.map Char.toLower) = (octets s).map lowerOctet := by
  induction s with
  | nil => rfl
  | cons c s ih => rw [List.map_cons, octets_cons, octets_cons, List.map_append, ih, map_lowerOctet_utf8EncodeChar]

theorem length_octets_of_map_toLower {s t : List Char} (h : s.map Char.toLower = t.map Char.toLower) :
    (octets s).length = (octets t).length := by
  have hoctets := congrArg octets h
  rw [octets_map_toLower, octets_map_toLower] at hoctets
  simpa using congrArg List.length hoctets

theorem exists_of_head_octets {s word : List Char} {x y : List UInt8} (h : octets s = x ++ y)
    (hx : x.map lowerOctet = (octets word).map lowerOctet) :
    ∃ front rest, s = front ++ rest ∧ octets front = x ∧ octets rest = y ∧
      front.map Char.toLower = word.map Char.toLower := by
  have hlower : octets (s.map Char.toLower) = octets (word.map Char.toLower) ++ y.map lowerOctet := by
    rw [octets_map_toLower, octets_map_toLower, h, List.map_append, hx]
  obtain ⟨lower, hsplit, -⟩ := exists_of_octets_prefix hlower
  obtain ⟨front, rest, rfl, hfront, -⟩ := List.map_eq_append_iff.1 hsplit
  have hlength : (octets front).length = x.length := by
    rw [length_octets_of_map_toLower hfront]
    simpa using (congrArg List.length hx).symm
  rw [octets_append] at h
  obtain ⟨hfront', hrest⟩ := List.append_inj h hlength
  exact ⟨front, rest, rfl, hfront', hrest, hfront⟩

theorem exists_of_end_octets {s word : List Char} (hword : word ≠ []) {x y : List UInt8} (h : octets s = y ++ x)
    (hx : x.map lowerOctet = (octets word).map lowerOctet) :
    ∃ rest back, s = rest ++ back ∧ octets rest = y ∧ octets back = x ∧
      back.map Char.toLower = word.map Char.toLower := by
  have hlower : octets (s.map Char.toLower) = y.map lowerOctet ++ (octets (word.map Char.toLower) ++ []) := by
    rw [octets_map_toLower, octets_map_toLower, h, List.map_append, hx, List.append_nil]
  obtain ⟨before, after, hsplit, -, hafter⟩ := exists_of_octets_eq (by simpa using hword) hlower
  rw [octets_eq_nil.1 hafter, List.append_nil] at hsplit
  obtain ⟨rest, back, rfl, -, hback⟩ := List.map_eq_append_iff.1 hsplit
  have hlength : (octets back).length = x.length := by
    rw [length_octets_of_map_toLower hback]
    simpa using (congrArg List.length hx).symm
  rw [octets_append] at h
  obtain ⟨hrest, hback'⟩ := List.append_inj' h hlength
  exact ⟨rest, back, rfl, hrest, hback', hback⟩

end DynamicSql.Text
