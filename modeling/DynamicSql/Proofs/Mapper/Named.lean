import DynamicSql.Mapper.Arguments
import DynamicSql.Proofs.Entries
import Mathlib.Tactic.Tauto

/-!
# Arguments under their names

What the map of the arguments of a call has under a name: the argument of the last position of this name
(`Arguments.find?_table_of_last`). Declared names are distinct, and so are the names that positions without one get; but
a position may get a name that an earlier one declares, and then the name stands for the argument of the later one. The
numbered names never get in the way of the names, so that each of them that is not a name itself stands for the argument
of its own position (`Arguments.find?_table_numberedName`).
-/

namespace DynamicSql.Arguments

variable {useActual : Bool} {declared : List (Option String)} {values : List Value} {ns : List String} {k name : String}
  {i j index : Nat} {v : Value} {pairs : List (String × Value)}

/-! ### Names -/

theorem repr_inj : Nat.repr i = Nat.repr j ↔ i = j := by
  refine ⟨fun h => ?_, congrArg Nat.repr⟩
  rw [Nat.repr_eq_ofList_toDigits, Nat.repr_eq_ofList_toDigits, String.ofList_inj] at h
  have hi := Nat.ofDigitChars_toDigits (b := 10) (n := i) (by decide) (by decide)
  rw [h, Nat.ofDigitChars_toDigits (by decide) (by decide)] at hi
  exact hi.symm

theorem numberedName_inj : numberedName i = numberedName j ↔ i = j := by
  rw [numberedName, numberedName, String.append_right_inj, repr_inj, Nat.add_right_cancel_iff]

theorem nameAt_none_inj : nameAt useActual i none = nameAt useActual j none ↔ i = j := by
  cases useActual with
  | true => exact (String.append_right_inj "arg").trans repr_inj
  | false => exact repr_inj

theorem getElem?_names_eq_some_iff : (names useActual declared)[i]? = some name ↔
    declared[i]? = some (some name) ∨ declared[i]? = some none ∧ nameAt useActual i none = name := by
  rw [names, List.getElem?_mapIdx, Option.map_eq_some_iff]
  constructor
  · rintro ⟨_ | other, hd, hname⟩
    · exact .inr ⟨hd, hname⟩
    · exact .inl (hd.trans (congrArg (some ∘ some) hname))
  · rintro (hd | ⟨hd, hname⟩)
    · exact ⟨some name, hd, rfl⟩
    · exact ⟨none, hd, hname⟩

theorem length_names (useActual : Bool) (declared : List (Option String)) :
    (names useActual declared).length = declared.length := List.length_mapIdx

theorem ne_of_declared (hdistinct : (declared.filterMap id).Nodup) (hij : i < j)
    (hi : declared[i]? = some (some name)) : declared[j]? ≠ some (some name) := by
  intro hj
  obtain ⟨hilt, hi⟩ := List.getElem?_eq_some_iff.1 hi
  obtain ⟨hjlt, hj⟩ := List.getElem?_eq_some_iff.1 hj
  exact List.pairwise_iff_getElem.1 (List.pairwise_filterMap.1 hdistinct) i j hilt hjlt hij name hi name hj rfl

/-! ### Entries -/

theorem mem_entries_iff {e : String × Value} : e ∈ entries ns index pairs ↔
    e ∈ pairs ∨ ∃ p ∈ pairs.zipIdx index, numberedName p.2 ∉ ns ∧ e = (numberedName p.2, p.1.2) := by
  induction pairs generalizing index with
  | nil => simp [entries]
  | cons p pairs ih =>
    rw [entries, List.mem_append, List.mem_cons, ih, List.zipIdx_cons, List.exists_mem_cons_iff, List.mem_cons]
    have hnumbered : e ∈ (if numberedName index ∈ ns then [] else [(numberedName index, p.2)]) ↔
        numberedName index ∉ ns ∧ e = (numberedName index, p.2) := by
      split
      · next h => simp [h]
      · next h => simp [h]
    rw [hnumbered]
    tauto

theorem lastGiven?_entries (hk : k ∈ ns) : lastGiven? (entries ns index pairs) k = lastGiven? pairs k := by
  have hfilter : (entries ns index pairs).filter (·.1 = k) = pairs.filter (·.1 = k) := by
    induction pairs generalizing index with
    | nil => rfl
    | cons p pairs ih =>
      rw [entries, List.filter_append, List.filter_cons, List.filter_cons, ih]
      split
      · rfl
      · next hnumbered =>
        have hne : numberedName index ≠ k := fun h => hnumbered (h ▸ hk)
        simp [hne]
  rw [lastGiven?, lastGiven?, hfilter]

/-- The map of arguments, each under its name and under its numbered one. -/
def table (ns : List String) (values : List Value) : Table String Value :=
  Table.ofEntries (entries ns 0 (ns.zip values))

theorem combine_eq_table (hlength : values.length = declared.length) (hsome : declared ≠ [])
    (hmany : declared ≠ [none]) :
    combine useActual declared values = .map (table (names useActual declared) values) := by
  rw [combine.eq_def]
  split
  · exact absurd rfl hsome
  · exact absurd (List.length_eq_zero_iff.1 hlength.symm) hsome
  · exact absurd rfl hmany
  · rfl

theorem find?_table_of_last (hname : ns[i]? = some name) (hvalue : values[i]? = some v)
    (hlast : ∀ j, i < j → ns[j]? ≠ some name) : (table ns values).find? name = some v := by
  rw [table, Table.find?_ofEntries, lastGiven?_entries (List.mem_of_getElem? hname)]
  refine lastGiven?_of_getElem? (List.getElem?_zip_eq_some.2 ⟨hname, hvalue⟩) fun j e hij he hkey => ?_
  exact hlast j hij (hkey ▸ (List.getElem?_zip_eq_some.1 he).1)

theorem find?_table_numberedName (hlength : values.length = ns.length) (hvalue : values[i]? = some v)
    (hfree : numberedName i ∉ ns) : (table ns values).find? (numberedName i) = some v := by
  have hi : i < ns.length := hlength ▸ (List.getElem?_eq_some_iff.1 hvalue).1
  have hpair : (ns.zip values)[i]? = some (ns[i], v) :=
    List.getElem?_zip_eq_some.2 ⟨List.getElem?_eq_getElem hi, hvalue⟩
  rw [table, Table.find?_ofEntries]
  refine lastGiven?_of_unique (mem_entries_iff.2 (.inr ?_)) fun w hw => ?_
  · exact ⟨((ns[i], v), i), List.mem_zipIdx_iff_getElem?.2 hpair, hfree, rfl⟩
  · rcases mem_entries_iff.1 hw with hw | ⟨⟨p, j⟩, hp, -, heq⟩
    · exact absurd (List.of_mem_zip hw).1 hfree
    · obtain ⟨hnumbered, rfl⟩ := Prod.mk.inj heq
      obtain rfl := numberedName_inj.1 hnumbered
      rw [List.mem_zipIdx_iff_getElem?, hpair] at hp
      rw [← Option.some.inj hp]

theorem mem_keys_table (hlength : values.length = ns.length) (hk : k ∈ ns) : k ∈ (table ns values).keys := by
  rw [← List.map_fst_zip hlength.ge, List.mem_map] at hk
  obtain ⟨e, he, rfl⟩ := hk
  exact Table.mem_keys_ofEntries_iff.2 (List.mem_map_of_mem (mem_entries_iff.2 (.inl he)))

theorem mem_keys_table_iff (hlength : values.length = ns.length) :
    k ∈ (table ns values).keys ↔ k ∈ ns ∨ ∃ i < ns.length, k = numberedName i := by
  constructor
  · intro hk
    obtain ⟨e, he, rfl⟩ := List.mem_map.1 (Table.mem_keys_ofEntries_iff.1 hk)
    rcases mem_entries_iff.1 he with he | ⟨p, hp, -, rfl⟩
    · exact .inl (List.of_mem_zip he).1
    · have hp := (List.getElem?_eq_some_iff.1 (List.mem_zipIdx_iff_getElem?.1 hp)).1
      rw [List.length_zip] at hp
      exact .inr ⟨p.2, by omega, rfl⟩
  · rintro (hk | ⟨i, hi, rfl⟩)
    · exact mem_keys_table hlength hk
    · by_cases hfree : numberedName i ∈ ns
      · exact mem_keys_table hlength hfree
      · have hvalue := List.getElem?_eq_getElem (hlength ▸ hi)
        exact Table.mem_keys_of_find? (find?_table_numberedName hlength hvalue hfree)

/-! ### The map of the arguments of a call -/

/-- The arguments of a call, unless there are none or only one without a declared name, make a map. A declared name
stands for the argument of its own position in it as long as no later position without a declared name gets the same
name, and otherwise for the argument of that position. A numbered name stands for the argument of its position unless
it is one of the names, and there are no keys but the names and the numbered names. -/
theorem combine_named (hlength : values.length = declared.length) (hsome : declared ≠ []) (hmany : declared ≠ [none])
    (hdistinct : (declared.filterMap id).Nodup) :
    ∃ t : Table String Value, combine useActual declared values = .map t ∧
      (∀ i name v, declared[i]? = some (some name) → values[i]? = some v →
        (∀ j, i < j → declared[j]? = some none → nameAt useActual j none ≠ name) → t.find? name = some v) ∧
      (∀ i j name v, i < j → declared[i]? = some (some name) → declared[j]? = some none →
        nameAt useActual j none = name → values[j]? = some v → t.find? name = some v) ∧
      (∀ i v, values[i]? = some v → numberedName i ∉ names useActual declared →
        t.find? (numberedName i) = some v) ∧
      ∀ k, k ∈ t.keys ↔ k ∈ names useActual declared ∨ ∃ i < declared.length, k = numberedName i := by
  have hnames : values.length = (names useActual declared).length := by rw [length_names, hlength]
  refine ⟨_, combine_eq_table hlength hsome hmany, fun i name v hname hvalue hlater => ?_,
    fun i j name v hij hname hnone hsame hvalue => ?_, fun i v => find?_table_numberedName hnames, fun k => ?_⟩
  · refine find?_table_of_last (getElem?_names_eq_some_iff.2 (.inl hname)) hvalue fun j hij hj => ?_
    rcases getElem?_names_eq_some_iff.1 hj with hj | ⟨hj, hsame⟩
    · exact ne_of_declared hdistinct hij hname hj
    · exact hlater j hij hj hsame
  · refine find?_table_of_last (getElem?_names_eq_some_iff.2 (.inr ⟨hnone, hsame⟩)) hvalue fun l hjl hl => ?_
    rcases getElem?_names_eq_some_iff.1 hl with hl | ⟨-, hsame'⟩
    · exact ne_of_declared hdistinct (hij.trans hjl) hname hl
    · exact hjl.ne (nameAt_none_inj.1 (hsame.trans hsame'.symm))
  · rw [mem_keys_table_iff hnames, length_names]

theorem combine_named_update :
    ∃ t : Table String Value,
      combine true [some "id", none, some "param1"] [.int 1, .string "x", .int 3] = .map t ∧
        t.find? "id" = some (.int 1) ∧ t.find? "param1" = some (.int 3) ∧ t.find? "param2" = some (.string "x") ∧
        "param4" ∉ t.keys := by
  obtain ⟨t, ht, hdeclared, -, hnumbered, hkeys⟩ :=
    @combine_named true [some "id", none, some "param1"] [.int 1, .string "x", .int 3] rfl (by decide) (by decide)
      (by decide)
  refine ⟨t, ht, hdeclared 0 "id" (.int 1) rfl rfl ?_, hdeclared 2 "param1" (.int 3) rfl rfl ?_,
    hnumbered 1 (.string "x") rfl (by decide), ?_⟩
  · rintro (_ | _ | _ | j) hj hnone
    · exact absurd hj (Nat.lt_irrefl 0)
    · decide
    · cases hnone
    · cases hnone
  · rintro (_ | _ | _ | j) hj hnone
    · cases hnone
    · exact absurd hj (by decide)
    · cases hnone
    · cases hnone
  · rw [hkeys, not_or]
    refine ⟨by decide, ?_⟩
    rintro ⟨i, hi, h⟩
    obtain rfl : 3 = i := numberedName_inj.1 (show numberedName 3 = numberedName i from h)
    exact absurd hi (by decide)

/-- The second argument gets the name that the first one declares, and takes its place. -/
theorem combine_overwritten :
    ∃ t : Table String Value, combine true [some "arg1", none] [.int 1, .int 2] = .map t ∧
      t.find? "arg1" = some (.int 2) ∧ t.find? "arg1" ≠ some (.int 1) :=
  ⟨_, rfl, rfl, fun h => by cases h⟩

end DynamicSql.Arguments
