import DynamicSql.Proofs.Path.Lens
import DynamicSql.Proofs.Path.Written

/-!
# Paths with chains of indexes

A step of a path can be written with any number of keys in brackets, as in `m[0][1]`, and every such path is
accepted. But a segment has room for one index: what stands between the first bracket and the last one is taken for
it, inner brackets and all, so that `m[0][1]` is followed by the keys `m` and `0][1` (`Chain.segment?_chars`). The
keys that a path is followed by are the names and keys written in it just if no step has two keys
(`Path.follows_chained`). Brackets behind a point, as in `m[0].[1]`, are steps of their own and read as written.
-/

namespace DynamicSql

open Text

/-- A step of a path as it is written: a name or none, and keys in brackets behind it. -/
structure Chain where
  name : Option String
  indexes : List String

namespace Chain

/-- The characters that neither a name nor a key holds. -/
def marks : List Char := ['[', ']', '\'', '"']

/-- A name or a key: it is not empty, has none of the characters `reserved`, and no blanks at its ends. -/
structure IsLabel (reserved : List Char) (s : String) : Prop where
  ne_nil : s.toList ≠ []
  free : ∀ c ∈ s.toList, c ∉ reserved
  trimmed : IsTrimmed s.toList

/-- A step with a name or a key at least. A name holds no points, a key may. -/
structure IsWritten (c : Chain) : Prop where
  nonempty : c.name ≠ none ∨ c.indexes ≠ []
  name : ∀ name ∈ c.name, IsLabel ('.' :: marks) name
  indexes : ∀ key ∈ c.indexes, IsLabel marks key

/-- The name and the keys that are written in the step. -/
def labels (c : Chain) : List String := c.name.toList ++ c.indexes

/-- The text of the step. -/
def chars (c : Chain) : List Char :=
  (c.name.getD "").toList ++ c.indexes.flatMap fun key => '[' :: (key.toList ++ [']'])

/-- The text between the first bracket of a chain of keys and the last one. -/
def between : String → List String → List Char
  | key, [] => key.toList
  | key, next :: rest => key.toList ++ ']' :: '[' :: between next rest

/-- What is taken for the index of the step. -/
def index? (c : Chain) : Option String :=
  match c.indexes with
  | [] => none
  | key :: rest => some (String.ofList (between key rest))

/-- The segment that is read from the step. -/
def segment (c : Chain) : Segment := ⟨c.name.getD "", c.index?⟩

/-- The keys by which the step is followed. -/
def lookups (c : Chain) : List String := c.name.toList ++ c.index?.toList

variable {c : Chain} {key : String} {rest : List String}

theorem isLabel_of_all {reserved : List Char} {s : String} (hne : s.toList ≠ [])
    (h : s.toList.all (fun d => !reserved.contains d && !isBlank d) = true) : IsLabel reserved s := by
  have hfree : ∀ d ∈ s.toList, d ∉ reserved ∧ isBlank d = false := fun d hd => by
    simpa using List.all_eq_true.1 h d hd
  exact ⟨hne, fun d hd => (hfree d hd).1, isTrimmed_of_forall fun d hd => (hfree d hd).2⟩

/-! ### Reading a step -/

theorem ne_of_free {reserved : List Char} {s : String} (h : IsLabel reserved s) {d e : Char} (hd : d ∈ s.toList)
    (he : e ∈ reserved) : d ≠ e := by
  rintro rfl
  exact h.free d hd he

theorem flatMap_brackets (key : String) (rest : List String) :
    (key :: rest).flatMap (fun key => '[' :: (key.toList ++ [']'])) = '[' :: (between key rest ++ [']']) := by
  induction rest generalizing key with
  | nil => simp [between]
  | cons next rest ih =>
    rw [List.flatMap_cons, ih, between]
    simp

theorem chars_of_nil (h : c.indexes = []) : c.chars = (c.name.getD "").toList := by
  rw [chars, h, List.flatMap_nil, List.append_nil]

theorem chars_of_cons (h : c.indexes = key :: rest) :
    c.chars = Path.bracketed (c.name.getD "").toList (between key rest) := by
  rw [chars, h, flatMap_brackets, Path.bracketed]

theorem between_ne_nil (h : IsLabel marks key) (rest : List String) : between key rest ≠ [] := by
  cases rest with
  | nil => exact h.ne_nil
  | cons next rest => exact List.append_ne_nil_of_left_ne_nil h.ne_nil _

theorem isTrimmed_between (h : ∀ k ∈ key :: rest, IsLabel marks k) : IsTrimmed (between key rest) := by
  induction rest generalizing key with
  | nil => exact (h key (.head _)).trimmed
  | cons next rest ih =>
    obtain ⟨hkey, hrest⟩ := List.forall_mem_cons.1 h
    have hbrackets : IsTrimmed [']', '['] := isTrimmed_of_forall (by simp; exact ⟨rfl, rfl⟩)
    exact hkey.trimmed.append (hbrackets.append (ih hrest))

theorem not_isQuote_of_mem_between (h : ∀ k ∈ key :: rest, IsLabel marks k) :
    ∀ d ∈ between key rest, Path.isQuote d = false := by
  have hlabel : ∀ k, IsLabel marks k → ∀ d ∈ k.toList, Path.isQuote d = false := fun k hk d hd => by
    simp [Path.isQuote, ne_of_free hk hd (e := '\'') (by decide), ne_of_free hk hd (e := '"') (by decide)]
  induction rest generalizing key with
  | nil => exact hlabel key (h key (.head _))
  | cons next rest ih =>
    obtain ⟨hkey, hrest⟩ := List.forall_mem_cons.1 h
    intro d hd
    rcases List.mem_append.1 hd with hd | hd
    · exact hlabel key hkey d hd
    · rcases List.mem_cons.1 hd with rfl | hd
      · rfl
      · rcases List.mem_cons.1 hd with rfl | hd
        · rfl
        · exact ih hrest d hd

theorem IsWritten.name_free (h : c.IsWritten) :
    (∀ d ∈ (c.name.getD "").toList, d ≠ '.' ∧ d ≠ '[' ∧ d ≠ ']') ∧ IsTrimmed (c.name.getD "").toList := by
  cases hname : c.name with
  | none => exact ⟨List.forall_mem_nil _, isTrimmed_of_forall (List.forall_mem_nil _)⟩
  | some name =>
    have hlabel := h.name name hname
    refine ⟨fun d hd => ⟨?_, ?_, ?_⟩, hlabel.trimmed⟩
    · exact ne_of_free hlabel hd (by decide)
    · exact ne_of_free hlabel hd (by decide)
    · exact ne_of_free hlabel hd (by decide)

theorem segment?_chars (h : c.IsWritten) : Path.segment? c.chars = .ok c.segment := by
  obtain ⟨hfree, htrimmed⟩ := h.name_free
  have hbracket : ∀ d ∈ (c.name.getD "").toList, d ≠ '[' := fun d hd => (hfree d hd).2.1
  rw [segment, index?]
  cases hindexes : c.indexes with
  | nil =>
    obtain ⟨name, hname⟩ := Option.ne_none_iff_exists'.1 (h.nonempty.resolve_right (· hindexes))
    rw [hname, Option.getD_some] at hbracket htrimmed
    rw [chars_of_nil hindexes, hname, Option.getD_some]
    exact Path.segment?_unindexed hbracket htrimmed (h.name name hname).ne_nil
  | cons key rest =>
    have hkeys : ∀ k ∈ key :: rest, IsLabel marks k := fun k hk => h.indexes k (hindexes ▸ hk)
    have hquote := not_isQuote_of_mem_between hkeys
    rw [chars_of_cons hindexes, Path.segment?_indexed hbracket htrimmed (isTrimmed_between hkeys)
      (between_ne_nil (hkeys key (.head _)) rest), dropWhile_eq_self hquote, dropEndWhile_eq_self hquote,
      String.ofList_toList]

theorem IsWritten.unsplit (h : c.IsWritten) : Path.Unsplit c.chars := by
  have hindexes : ∀ keys : List String, (∀ k ∈ keys, IsLabel marks k) →
      Path.Unsplit (keys.flatMap fun key => '[' :: (key.toList ++ [']'])) := by
    intro keys hkeys
    induction keys with
    | nil => exact id
    | cons key keys ih =>
      obtain ⟨hkey, hkeys⟩ := List.forall_mem_cons.1 hkeys
      refine Path.Unsplit.append (Path.unsplit_brackets fun d hd => ?_) (ih hkeys)
      exact ⟨ne_of_free hkey hd (by decide), ne_of_free hkey hd (by decide)⟩
  intro t part parts ht
  exact Path.Unsplit.append (Path.splitPoints_outside h.name_free.1) (hindexes c.indexes h.indexes) ht

theorem IsWritten.isTrimmed (h : c.IsWritten) : IsTrimmed c.chars := by
  obtain ⟨-, htrimmed⟩ := h.name_free
  cases hindexes : c.indexes with
  | nil => rwa [chars_of_nil hindexes]
  | cons key rest =>
    rw [chars_of_cons hindexes]
    exact Path.isTrimmed_bracketed htrimmed _

theorem IsWritten.chars_ne_nil (h : c.IsWritten) : c.chars ≠ [] := by
  cases hindexes : c.indexes with
  | nil =>
    obtain ⟨name, hname⟩ := Option.ne_none_iff_exists'.1 (h.nonempty.resolve_right (· hindexes))
    rw [chars_of_nil hindexes, hname]
    exact (h.name name hname).ne_nil
  | cons key rest =>
    rw [chars_of_cons hindexes]
    exact List.append_ne_nil_of_right_ne_nil _ (List.cons_ne_nil _ _)

theorem IsWritten.lookups_ne_nil (h : c.IsWritten) : c.lookups ≠ [] := by
  rw [lookups, index?]
  rcases h.nonempty with hname | hindexes
  · obtain ⟨name, hname⟩ := Option.ne_none_iff_exists'.1 hname
    rw [hname]
    exact List.cons_ne_nil _ _
  · obtain ⟨key, rest, hindexes⟩ := List.exists_cons_of_ne_nil hindexes
    rw [hindexes]
    exact List.append_ne_nil_of_right_ne_nil _ (List.cons_ne_nil _ _)

theorem IsWritten.keys_segment (h : c.IsWritten) : c.segment.keys = c.lookups := by
  rw [Segment.keys, segment, lookups]
  cases hname : c.name with
  | none => rfl
  | some name =>
    have hempty : name.isEmpty = false := by
      rw [String.isEmpty_eq_false_iff]
      exact fun heq => (h.name name hname).ne_nil (by rw [heq]; rfl)
    rw [Option.getD_some, hempty, if_neg Bool.false_ne_true]
    rfl

/-! ### What is looked up -/

theorem length_lookups (c : Chain) : c.lookups.length = c.name.toList.length + min c.indexes.length 1 := by
  rw [lookups, index?, List.length_append]
  cases c.indexes <;> simp

/-- A step is followed by what is written in it just if it has one key at most. -/
theorem lookups_eq_labels_iff : c.lookups = c.labels ↔ c.indexes.length ≤ 1 := by
  constructor
  · intro h
    have hlength := congrArg List.length h
    rw [length_lookups, labels, List.length_append] at hlength
    omega
  · intro h
    rw [lookups, labels, index?]
    cases hindexes : c.indexes with
    | nil => rfl
    | cons key rest =>
      have hrest : rest = [] := by
        rw [hindexes, List.length_cons] at h
        exact List.length_eq_zero_iff.1 (by omega)
      subst hrest
      simp only [between, String.ofList_toList, Option.toList_some]

theorem length_lookups_le (c : Chain) : c.lookups.length ≤ c.labels.length := by
  rw [length_lookups, labels, List.length_append]
  omega

theorem flatMap_lookups_eq_iff {cs : List Chain} :
    cs.flatMap lookups = cs.flatMap labels ↔ ∀ c ∈ cs, c.indexes.length ≤ 1 := by
  rw [flatMap_eq_flatMap_iff length_lookups_le]
  exact forall₂_congr fun c _ => lookups_eq_labels_iff

end Chain

/-! ### Paths -/

namespace Path

variable {first : Chain} {rest : List Chain}

/-- The text of a path of such steps. -/
def chained (first : Chain) (rest : List Chain) : List Char := first.chars ++ rest.flatMap fun c => '.' :: c.chars

theorem parse_chained (hfirst : first.IsWritten) (hrest : ∀ c ∈ rest, c.IsWritten) :
    ∃ path, parse (String.ofList (chained first rest)) = .ok path ∧ path.raw = String.ofList (chained first rest) ∧
      path.keys = (first :: rest).flatMap Chain.lookups := by
  have hall : ∀ c ∈ first :: rest, c.IsWritten := List.forall_mem_cons.2 ⟨hfirst, hrest⟩
  have hunsplit : ∀ w ∈ (first :: rest).map Chain.chars, Unsplit w :=
    List.forall_mem_map.2 fun c hc => (hall c hc).unsplit
  have htrimmed : ∀ w ∈ (first :: rest).map Chain.chars, IsTrimmed w :=
    List.forall_mem_map.2 fun c hc => (hall c hc).isTrimmed
  have hsegments : List.Forall₂ (fun part s => segment? part = .ok s) ((first :: rest).map Chain.chars)
      ((first :: rest).map Chain.segment) := by
    rw [List.forall₂_map_left_iff, List.forall₂_map_right_iff]
    exact List.forall₂_same.2 fun c hc => Chain.segment?_chars (hall c hc)
  have hparse := parse_joined hfirst.chars_ne_nil hunsplit htrimmed hsegments
  rw [List.flatMap_map] at hparse
  refine ⟨_, hparse, rfl, ?_⟩
  rw [keys, List.flatMap_map]
  exact List.flatMap_congr fun c hc => (hall c hc).keys_segment

/-- A path whose steps are names and chains of keys is accepted. Reading, writing and finding types follow it by
the lookup keys of its steps, and these are the names and keys that are written in it, from left to right, just if
no step has more than one key. -/
theorem follows_chained (hfirst : first.IsWritten) (hrest : ∀ c ∈ rest, c.IsWritten) :
    ∃ path, parse (String.ofList (chained first rest)) = .ok path ∧
      (∀ root new : Value,
        root.readAt path = Value.follow path.raw root ((first :: rest).flatMap Chain.lookups) ∧
        root.writeAt path new = Value.write path.raw new root ((first :: rest).flatMap Chain.lookups) ∧
        root.typeAt? path = Value.followType none root ((first :: rest).flatMap Chain.lookups)) ∧
      (path.keys = (first :: rest).flatMap Chain.labels ↔ ∀ c ∈ first :: rest, c.indexes.length ≤ 1) := by
  obtain ⟨path, hparse, -, hkeys⟩ := parse_chained hfirst hrest
  refine ⟨path, hparse, fun root new => ⟨?_, ?_, ?_⟩, ?_⟩
  · rw [Value.readAt, hkeys]
  · have hne : path.keys ≠ [] := by
      rw [hkeys, List.flatMap_cons]
      exact List.append_ne_nil_of_left_ne_nil hfirst.lookups_ne_nil _
    rw [Value.writeAt_of_keys_ne_nil hne, hkeys]
  · rw [Value.typeAt?, hkeys]
  · rw [hkeys]
    exact Chain.flatMap_lookups_eq_iff

/-- A name with two keys behind it. -/
def cell : Chain := ⟨some "m", ["0", "1"]⟩

theorem isWritten_cell : cell.IsWritten where
  nonempty := .inl (Option.some_ne_none _)
  name := fun name hname => by
    obtain rfl := Option.some.inj hname
    exact Chain.isLabel_of_all (by decide) (by decide)
  indexes := List.forall_mem_cons.2 ⟨Chain.isLabel_of_all (by decide) (by decide),
    List.forall_mem_singleton.2 (Chain.isLabel_of_all (by decide) (by decide))⟩

/-- A key on its own, with a point in it. -/
def dotted : Chain := ⟨none, ["a.b"]⟩

theorem isWritten_dotted : dotted.IsWritten where
  nonempty := .inr (List.cons_ne_nil _ _)
  name := fun _ hname => absurd hname (Option.not_mem_none _)
  indexes := List.forall_mem_singleton.2 (Chain.isLabel_of_all (by decide) (by decide))

/-- Of `m[0][1].[a.b]` the two keys of the first step are read as one, and the key of the second one as it is. -/
theorem follows_chained_cell : cell.IsWritten ∧ (∀ c ∈ [dotted], c.IsWritten) ∧
    ∃ path, parse "m[0][1].[a.b]" = .ok path ∧
      (∀ root, root.readAt path = Value.follow path.raw root ["m", "0][1", "a.b"]) ∧
      path.keys ≠ ["m", "0", "1", "a.b"] := by
  have hrest : ∀ c ∈ [dotted], c.IsWritten := List.forall_mem_singleton.2 isWritten_dotted
  obtain ⟨path, hparse, hfollow, hiff⟩ := follows_chained isWritten_cell hrest
  refine ⟨isWritten_cell, hrest, path, hparse, fun root => (hfollow root .null).1, fun hkeys => ?_⟩
  have hlength := hiff.1 hkeys cell (.head _)
  exact absurd hlength (by decide)

/-- A map of maps. -/
def grid : Value := .map [("m", .map [("0", .map [("1", .int 5)])])]

/-- The path `m[0][1]` is accepted and reads nothing where its name and keys lead to 5. -/
theorem keys_ne_labels_cell : cell.IsWritten ∧ ∃ path, parse "m[0][1]" = .ok path ∧
    path.keys ≠ cell.labels ∧ grid.readAt path = .ok .null ∧
    Value.follow "m[0][1]" grid cell.labels = .ok (.int 5) := by
  obtain ⟨path, hparse, -, hkeys⟩ := parse_chained isWritten_cell (List.forall_mem_nil _)
  have hkeys : path.keys = ["m", "0][1"] := hkeys
  refine ⟨isWritten_cell, path, hparse, ?_, ?_, rfl⟩
  · rw [hkeys]
    decide
  · rw [Value.readAt, hkeys]
    rfl

end Path

end DynamicSql
