import DynamicSql.Proofs.Template.Dropped
import DynamicSql.Proofs.Template.Render
import Mathlib.Data.String.Basic

/-!
# Optional parts of clauses

A query by any selection of filters is written as conditions with a test around each of them and a keyword in front
of each; an update of any selection of fields as assignments with a comma behind each. `OptionalPart.render_clauses`
says what is rendered, whichever tests hold: nothing if none does, and otherwise the clause of the selected parts,
without the first keyword or without the last comma.
-/

namespace DynamicSql

open Text

/-! ### The words of a list -/

namespace Clause

section Strokes

open String

-- Splitting is at the text behind `l`, has read `m` since the last stroke, and has `r` in front of it.

variable (l m r : List Char) (acc : List String)

theorem splitOnAux_nil : splitOnAux (ofList (l ++ m ++ [])) "|" ⟨utf8Len l⟩ ⟨utf8Len l + utf8Len m⟩ 0 acc =
    acc.reverse ++ [ofList m] := by
  have hend := atEnd_of_valid (l ++ m) []
  rw [utf8Len_append] at hend
  rw [splitOnAux, if_pos (hend.2 rfl), extract_of_valid l m []]
  exact List.reverse_cons

theorem splitOnAux_stroke :
    splitOnAux (ofList (l ++ m ++ '|' :: r)) "|" ⟨utf8Len l⟩ ⟨utf8Len l + utf8Len m⟩ 0 acc =
      splitOnAux (ofList ((l ++ m ++ ['|']) ++ [] ++ r)) "|" ⟨utf8Len (l ++ m ++ ['|'])⟩
        ⟨utf8Len (l ++ m ++ ['|']) + utf8Len []⟩ 0 (ofList m :: acc) := by
  have hend := atEnd_of_valid (l ++ m) ('|' :: r)
  have hget := get_of_valid (l ++ m) ('|' :: r)
  have hnext := next_of_valid (l ++ m) '|' r
  have hextract := extract_of_valid l m ('|' :: r)
  have hstroke : (List.headD ('|' :: r) default == Pos.Raw.get "|" 0) = true := rfl
  have hsep : Pos.Raw.atEnd "|" (Pos.Raw.next "|" 0) = true := rfl
  have hback : (⟨utf8Len l + utf8Len m + '|'.utf8Size⟩ : Pos.Raw).unoffsetBy (Pos.Raw.next "|" 0) =
      ⟨utf8Len l + utf8Len m⟩ := rfl
  have hsize : utf8Len (l ++ m ++ ['|']) = utf8Len l + utf8Len m + '|'.utf8Size := by simp [Nat.add_assoc]
  rw [utf8Len_append] at hend hget hnext
  rw [splitOnAux, if_neg fun h => List.cons_ne_nil _ r (hend.1 h), hget, if_pos hstroke]
  dsimp only
  rw [if_pos hsep, hnext, hback, hextract, hsize]
  simp

theorem splitOnAux_char {c : Char} (hc : c ≠ '|') :
    splitOnAux (ofList (l ++ m ++ c :: r)) "|" ⟨utf8Len l⟩ ⟨utf8Len l + utf8Len m⟩ 0 acc =
      splitOnAux (ofList (l ++ (m ++ [c]) ++ r)) "|" ⟨utf8Len l⟩ ⟨utf8Len l + utf8Len (m ++ [c])⟩ 0 acc := by
  have hend := atEnd_of_valid (l ++ m) (c :: r)
  have hget := get_of_valid (l ++ m) (c :: r)
  have hnext := next_of_valid (l ++ m) c r
  have hstroke : ¬ (List.headD (c :: r) default == Pos.Raw.get "|" 0) = true := fun h => hc (eq_of_beq h)
  have hback : (⟨utf8Len l + utf8Len m⟩ : Pos.Raw).unoffsetBy 0 = ⟨utf8Len l + utf8Len m⟩ := rfl
  rw [utf8Len_append] at hend hget hnext
  rw [splitOnAux, if_neg fun h => List.cons_ne_nil _ r (hend.1 h), hget, if_neg hstroke, hback, hnext]
  simp [Nat.add_assoc]

theorem splitOnAux_eq :
    splitOnAux (ofList (l ++ m ++ r)) "|" ⟨utf8Len l⟩ ⟨utf8Len l + utf8Len m⟩ 0 acc =
      acc.reverse ++ (List.splitOnPPrepend (· == '|') r m.reverse).map ofList := by
  induction r generalizing l m acc with
  | nil =>
    rw [splitOnAux_nil]
    simp
  | cons c r ih =>
    by_cases hc : c = '|'
    · subst hc
      rw [splitOnAux_stroke, ih]
      simp [List.splitOnPPrepend_cons_eq_if]
    · rw [splitOnAux_char _ _ _ _ hc, ih]
      simp [List.splitOnPPrepend_cons_eq_if, hc]

theorem splitOn_stroke (s : String) : s.splitOn "|" = (s.toList.splitOn '|').map ofList := by
  have h := splitOnAux_eq [] [] s.toList []
  rw [List.nil_append, List.nil_append, ofList_toList] at h
  exact h

theorem words_some (s : String) : words (some s) = ((s.toList.splitOn '|').map ofList).filter (!·.isEmpty) := by
  rw [words, splitOn_stroke]

end Strokes

theorem conditions_dropLead :
    conditions.dropLead = ["AND ", "OR ", "AND\n", "OR\n", "AND\r", "OR\r", "AND\t", "OR\t"] := by
  rw [conditions, ofLists, words_some]
  decide

theorem assignments_dropTrail : assignments.dropTrail = [","] := by
  rw [assignments, ofLists, words_some]
  decide

theorem conditions_dropTrail : conditions.dropTrail = [] := rfl

theorem assignments_dropLead : assignments.dropLead = [] := rfl

/-! ### Clauses of what they drop -/

variable {s joined : List Char}

theorem conditions_leaves {body inner : List Char} (hbody : ∀ c ∈ body.head?, isBlank c = false)
    (hword : (conditions.dropLead.map String.toList).findSome? (fun word => stripHead? word body) =
      some (inner ++ [' '])) (hhead : ∀ c ∈ (inner ++ [' ']).head?, isBlank c = false)
    (hlast : ∀ c ∈ inner.getLast?, isBlank c = false) : conditions.Leaves body inner [' '] := by
  have hbegin : trimStart body = body := dropWhile_eq_self_of_head hbody
  have hlead : conditions.withoutLead body = inner ++ [' '] := by
    rw [withoutLead_eq, hbegin, hword]
    exact dropWhile_eq_self_of_head hhead
  obtain ⟨hinner, htrailing⟩ := finishes_iff.1 ⟨Eq.refl (inner ++ [' ']), rfl, hlast⟩
  rw [leaves_iff, hlead, ← hinner, ← htrailing, withoutTrail_eq, conditions_dropTrail]
  exact ⟨rfl, rfl⟩

theorem assignments_leaves (hhead : ∀ c ∈ joined.head?, isBlank c = false) (hne : joined ≠ []) :
    assignments.Leaves (joined ++ [',', ' ']) joined [' '] := by
  have hbegin : trimStart (joined ++ [',', ' ']) = joined ++ [',', ' '] := by
    apply dropWhile_eq_self_of_head
    rwa [List.head?_append_of_ne_nil _ hne]
  have hlead : assignments.withoutLead (joined ++ [',', ' ']) = joined ++ [','] ++ [' '] := by
    rw [withoutLead_eq, assignments_dropLead, List.map_nil, List.findSome?_nil, Option.getD_none, hbegin, hbegin,
      List.append_assoc]
    rfl
  have hlast : ∀ c ∈ (joined ++ [',']).getLast?, isBlank c = false := by
    intro c hc
    rw [List.getLast?_concat] at hc
    obtain rfl := Option.some.inj hc
    rfl
  have hcomma : stripWord? (joined ++ [',']) [','] = some joined :=
    stripEnd?_eq_some.2 ⟨[','], rfl, rfl⟩
  have hword : trim ",".toList = [','] := rfl
  obtain ⟨hinner, htrailing⟩ := finishes_iff.1 ⟨Eq.refl (joined ++ [','] ++ [' ']), rfl, hlast⟩
  rw [leaves_iff, hlead, ← hinner, ← htrailing, withoutTrail_eq, assignments_dropTrail, List.map_singleton, hword,
    List.findSome?_singleton, hcomma]
  exact ⟨rfl, rfl⟩

theorem apply_nil (c : Clause) : c.apply [] = [] := by
  rw [apply]
  rfl

theorem allBlank_of_head (hne : s ≠ []) (hhead : ∀ c ∈ s.head?, isBlank c = false) : allBlank s = false := by
  obtain ⟨c, s, rfl⟩ := List.exists_cons_of_ne_nil hne
  rw [allBlank, List.all_cons, hhead c rfl]
  rfl

end Clause

/-! ### Parts -/

/-- An optional part: a test, a keyword that joins conditions, and a text that is not empty and has no blanks at its
ends. -/
structure OptionalPart where
  test : Formula
  keyword : List Char
  text : List Char
  isKeyword : keyword.map Char.toLower = ['a', 'n', 'd'] ∨ keyword.map Char.toLower = ['o', 'r']
  ne_nil : text ≠ []
  head : ∀ c ∈ text.head?, isBlank c = false
  last : ∀ c ∈ text.getLast?, isBlank c = false

/-- The template writes this text and does nothing else, wherever it stands. -/
def Node.IsVerbatim (n : Node) (s : List Char) : Prop :=
  ∀ f, ∃ selected, n.render f = .ok selected (f.append (String.ofList s))

theorem Node.isVerbatim_text (s : List Char) : (Node.text (String.ofList s)).IsVerbatim s :=
  fun f => ⟨true, render_text _ f⟩

theorem Node.IsVerbatim.composite {n : Node} {s : List Char} (h : n.IsVerbatim s) :
    (Node.composite [n]).IsVerbatim s := by
  intro f
  obtain ⟨selected, hn⟩ := h f
  refine ⟨true, render_composite ?_⟩
  rw [renderAll_cons hn]
  exact renderAll_nil _

namespace OptionalPart

/-- The part as a condition: the keyword in front, and a blank behind. -/
def condition (p : OptionalPart) : List Char := p.keyword ++ ' ' :: (p.text ++ [' '])

/-- The part as an assignment: a comma behind. -/
def assignment (p : OptionalPart) : List Char := p.text ++ [',', ' ']

/-- The parts whose tests hold. -/
def selected (parts : List OptionalPart) (outcomes : List Bool) : List OptionalPart :=
  ((parts.zip outcomes).filter Prod.snd).map Prod.fst

/-- The clause of the selected conditions: none has a keyword in front that nothing precedes. -/
def whereText : List OptionalPart → List Char
  | [] => []
  | p :: parts => "WHERE ".toList ++ (p.text ++ ' ' :: parts.flatMap condition)

/-- The clause of the selected assignments: commas stand only between them. -/
def setText : List OptionalPart → List Char
  | [] => []
  | p :: parts => "SET ".toList ++ ([',', ' '].intercalate ((p :: parts).map text) ++ [' '])

theorem whereText_cons (p : OptionalPart) (parts : List OptionalPart) :
    whereText (p :: parts) = "WHERE ".toList ++ (p.text ++ ' ' :: parts.flatMap condition) := rfl

theorem setText_cons (p : OptionalPart) (parts : List OptionalPart) :
    setText (p :: parts) = "SET ".toList ++ ([',', ' '].intercalate ((p :: parts).map text) ++ [' ']) := rfl

variable {parts : List OptionalPart} {outcomes : List Bool} {f : Frame}

theorem renderAll_parts {node : OptionalPart → Node} {written : OptionalPart → List Char}
    (hnode : ∀ p ∈ parts, (node p).IsVerbatim (written p))
    (houtcomes : List.Forall₂ (fun p holds => p.test.evalTruth f.lookup = .ok holds) parts outcomes) :
    Node.renderAll (parts.map fun p => .conditional p.test (node p)) f =
      .ok () (f.append (String.ofList ((selected parts outcomes).flatMap written))) := by
  -- what is written changes the frame, but not what names stand for
  generalize hlookup : f.lookup = lookup at houtcomes
  induction houtcomes generalizing f with
  | nil =>
    rw [List.map_nil, Node.renderAll_nil]
    show _ = EStateM.Result.ok () { f with text := f.text ++ "" }
    rw [String.append_empty]
  | @cons p holds parts outcomes hp _ ih =>
    obtain ⟨hbody, hrest⟩ := List.forall_mem_cons.1 hnode
    rw [← hlookup] at hp
    rw [List.map_cons]
    cases holds with
    | false =>
      rw [Node.renderAll_cons (Node.render_conditional_of_false hp _)]
      exact ih hrest hlookup
    | true =>
      obtain ⟨b, hwrite⟩ := hbody f
      have hlookup' : (f.append (String.ofList (written p))).lookup = lookup := hlookup
      rw [Node.renderAll_cons (Node.render_conditional_of_true hp hwrite), ih hrest hlookup']
      have hselected : (selected (p :: parts) (true :: outcomes)).flatMap written =
          written p ++ (selected parts outcomes).flatMap written := rfl
      rw [hselected, String.ofList_append]
      simp only [Frame.append, String.append_assoc]

/-- A clause around the parts is the clause of the texts of the selected ones. -/
theorem render_clause_parts {spec : Clause} {node : OptionalPart → Node} {written : OptionalPart → List Char}
    (hnode : ∀ p ∈ parts, (node p).IsVerbatim (written p))
    (houtcomes : List.Forall₂ (fun p holds => p.test.evalTruth f.lookup = .ok holds) parts outcomes) :
    (Node.clause spec (.composite (parts.map fun p => .conditional p.test (node p)))).render f =
      .ok true (f.append (String.ofList (spec.apply ((selected parts outcomes).flatMap written)))) := by
  have hall := @renderAll_parts parts outcomes { f with text := "" } node written hnode houtcomes
  rw [Node.render_clause (Node.render_composite hall)]
  simp [Frame.append]

/-! ### Conditions -/

theorem not_blank_of_toLower {c d : Char} (h : c.toLower = d) (hd : 97 ≤ d.toNat ∧ d.toNat ≤ 122) :
    isBlank c = false := by
  have hlower := toNat_toLower c
  rw [h] at hlower
  have hc : 65 ≤ c.toNat ∧ c.toNat ≤ 122 := by split at hlower <;> omega
  simp [isBlank]
  omega

theorem head?_keyword (p : OptionalPart) (s : List Char) : ∀ c ∈ (p.keyword ++ s).head?, isBlank c = false := by
  intro c hc
  rcases p.isKeyword with hand | hor
  · obtain ⟨a, more, hkeyword, ha, -⟩ := List.map_eq_cons_iff.1 hand
    rw [hkeyword] at hc
    obtain rfl := Option.some.inj hc
    exact not_blank_of_toLower ha (by decide)
  · obtain ⟨o, more, hkeyword, ho, -⟩ := List.map_eq_cons_iff.1 hor
    rw [hkeyword] at hc
    obtain rfl := Option.some.inj hc
    exact not_blank_of_toLower ho (by decide)

theorem stripHead?_keyword (p : OptionalPart) (s : List Char) {word : List Char}
    (h : p.keyword.map Char.toLower ++ [' '] = word.map Char.toLower) :
    Clause.stripHead? word (p.keyword ++ ' ' :: s) = some s := by
  refine Clause.stripHead?_eq_some.2 ⟨p.keyword ++ [' '], by simp, ?_⟩
  rw [List.map_append, ← h]
  rfl

theorem findSome?_keyword (p : OptionalPart) (s : List Char) :
    (Clause.conditions.dropLead.map String.toList).findSome?
      (fun word => Clause.stripHead? word (p.keyword ++ ' ' :: s)) = some s := by
  rw [Clause.conditions_dropLead, List.map_cons, List.findSome?_cons]
  rcases p.isKeyword with hand | hor
  · rw [p.stripHead?_keyword s (by rw [hand]; decide)]
  · have hother : Clause.stripHead? "AND ".toList (p.keyword ++ ' ' :: s) = none := by
      obtain ⟨o, more, hkeyword, ho, -⟩ := List.map_eq_cons_iff.1 hor
      have hne : ¬ eqIgnoreAsciiCase 'A' o = true := by
        rw [eqIgnoreAsciiCase, ho]
        decide
      rw [hkeyword]
      exact if_neg hne
    rw [hother, List.map_cons, List.findSome?_cons, p.stripHead?_keyword s (by rw [hor]; decide)]

theorem exists_inner (p : OptionalPart) (parts : List OptionalPart) :
    ∃ inner, p.text ++ ' ' :: parts.flatMap condition = p.text ++ inner ++ [' '] ∧
      ∀ c ∈ (p.text ++ inner).getLast?, isBlank c = false := by
  induction parts generalizing p with
  | nil => exact ⟨[], by simp, by simpa using p.last⟩
  | cons q parts ih =>
    obtain ⟨inner, hinner, hlast⟩ := ih q
    refine ⟨' ' :: (q.keyword ++ ' ' :: (q.text ++ inner)), ?_, ?_⟩
    · have hcondition : q.condition ++ parts.flatMap condition =
          q.keyword ++ ' ' :: (q.text ++ ' ' :: parts.flatMap condition) := by simp [condition]
      rw [List.flatMap_cons, hcondition, hinner]
      simp
    · have hne : q.text ++ inner ≠ [] := List.append_ne_nil_of_left_ne_nil q.ne_nil inner
      have hsplit : p.text ++ ' ' :: (q.keyword ++ ' ' :: (q.text ++ inner)) =
          (p.text ++ ' ' :: (q.keyword ++ [' '])) ++ (q.text ++ inner) := by simp
      rwa [hsplit, List.getLast?_append_of_ne_nil _ hne]

theorem head?_text_append (p : OptionalPart) (s : List Char) : ∀ c ∈ (p.text ++ s).head?, isBlank c = false := by
  rw [List.head?_append_of_ne_nil _ p.ne_nil]
  exact p.head

theorem conditions_apply (parts : List OptionalPart) :
    Clause.conditions.apply (parts.flatMap condition) = whereText parts := by
  cases parts with
  | nil => exact Clause.apply_nil _
  | cons p parts =>
    obtain ⟨inner, hinner, hlast⟩ := exists_inner p parts
    have hbody : (p :: parts).flatMap condition = p.keyword ++ ' ' :: (p.text ++ inner ++ [' ']) := by
      rw [← hinner]
      simp [condition]
    have hhead := p.head?_text_append (inner ++ [' '])
    rw [← List.append_assoc] at hhead
    have hleaves : Clause.conditions.Leaves (p.keyword ++ ' ' :: (p.text ++ inner ++ [' '])) (p.text ++ inner) [' '] :=
      Clause.conditions_leaves (p.head?_keyword _) (p.findSome?_keyword _) hhead hlast
    have hblank := Clause.allBlank_of_head (List.append_ne_nil_of_left_ne_nil p.ne_nil inner) (p.head?_text_append inner)
    rw [hbody, hleaves.apply_eq, hblank, whereText_cons, hinner]
    simp [Clause.around, Clause.conditions, Clause.ofLists]

/-! ### Assignments -/

theorem flatMap_assignment (p : OptionalPart) (parts : List OptionalPart) :
    (p :: parts).flatMap assignment = [',', ' '].intercalate ((p :: parts).map text) ++ [',', ' '] := by
  induction parts generalizing p with
  | nil => simp [assignment]
  | cons q parts ih =>
    rw [List.flatMap_cons, ih]
    simp [assignment]

theorem exists_intercalate (p : OptionalPart) (parts : List OptionalPart) :
    ∃ more, [',', ' '].intercalate ((p :: parts).map text) = p.text ++ more := by
  cases parts with
  | nil => exact ⟨[], by simp⟩
  | cons q parts => exact ⟨[',', ' '] ++ [',', ' '].intercalate ((q :: parts).map text), by simp⟩

theorem assignments_apply (parts : List OptionalPart) :
    Clause.assignments.apply (parts.flatMap assignment) = setText parts := by
  cases parts with
  | nil => exact Clause.apply_nil _
  | cons p parts =>
    obtain ⟨more, hmore⟩ := exists_intercalate p parts
    have hhead := p.head?_text_append more
    have hne : p.text ++ more ≠ [] := List.append_ne_nil_of_left_ne_nil p.ne_nil more
    rw [flatMap_assignment, setText_cons, hmore, (Clause.assignments_leaves hhead hne).apply_eq,
      Clause.allBlank_of_head hne hhead]
    simp [Clause.around, Clause.assignments, Clause.ofLists]

/-- Conditions and assignments with any selection of their parts: nothing is written where no test holds, and
otherwise the clause of the parts whose tests hold, in order. -/
theorem render_clauses {parts : List OptionalPart} {conditionOf assignmentOf : OptionalPart → Node}
    (hcondition : ∀ p ∈ parts, (conditionOf p).IsVerbatim p.condition)
    (hassignment : ∀ p ∈ parts, (assignmentOf p).IsVerbatim p.assignment) {outcomes : List Bool} {f : Frame}
    (houtcomes : List.Forall₂ (fun p holds => p.test.evalTruth f.lookup = .ok holds) parts outcomes) :
    (Node.clause .conditions (.composite (parts.map fun p => .conditional p.test (conditionOf p)))).render f =
        .ok true (f.append (String.ofList (whereText (selected parts outcomes)))) ∧
      (Node.clause .assignments (.composite (parts.map fun p => .conditional p.test (assignmentOf p)))).render f =
        .ok true (f.append (String.ofList (setText (selected parts outcomes)))) := by
  rw [← conditions_apply, ← assignments_apply]
  exact ⟨render_clause_parts hcondition houtcomes, render_clause_parts hassignment houtcomes⟩

/-! Two of three parts are selected, the texts of which begin with longer words than the keywords. -/

def filterById (holds : Bool) : OptionalPart where
  test := ⟨"id != null", .literal (.boolean holds)⟩
  keyword := ['a', 'N', 'd']
  text := "id = 1".toList
  isKeyword := .inl (by decide)
  ne_nil := by decide
  head := fun _ hc => Option.some.inj hc ▸ rfl
  last := fun _ hc => Option.some.inj hc ▸ rfl

def filterByOrder (holds : Bool) : OptionalPart where
  test := ⟨"order != null", .literal (.boolean holds)⟩
  keyword := ['O', 'R']
  text := "ORDER_ID = 2".toList
  isKeyword := .inr (by decide)
  ne_nil := by decide
  head := fun _ hc => Option.some.inj hc ▸ rfl
  last := fun _ hc => Option.some.inj hc ▸ rfl

theorem render_clauses_orders :
    (Node.clause .conditions (.composite ([filterById false, filterByOrder true, filterById true].map fun p =>
        .conditional p.test (.text (String.ofList p.condition))))).render (.start .null none) =
      .ok true ((Frame.start .null none).append "WHERE ORDER_ID = 2 aNd id = 1 ") ∧
    (Node.clause .assignments (.composite ([filterById false, filterByOrder true, filterById true].map fun p =>
        .conditional p.test (.text (String.ofList p.assignment))))).render (.start .null none) =
      .ok true ((Frame.start .null none).append "SET ORDER_ID = 2, id = 1 ") := by
  have houtcomes : List.Forall₂ (fun (p : OptionalPart) holds =>
      p.test.evalTruth (Frame.start .null none).lookup = .ok holds)
      [filterById false, filterByOrder true, filterById true] [false, true, true] :=
    .cons rfl (.cons rfl (.cons rfl .nil))
  have hwhere : whereText (selected [filterById false, filterByOrder true, filterById true] [false, true, true]) =
      "WHERE ORDER_ID = 2 aNd id = 1 ".toList := by decide
  have hset : setText (selected [filterById false, filterByOrder true, filterById true] [false, true, true]) =
      "SET ORDER_ID = 2, id = 1 ".toList := by decide
  have hclauses := render_clauses (fun p _ => Node.isVerbatim_text p.condition)
    (fun p _ => Node.isVerbatim_text p.assignment) houtcomes
  rwa [hwhere, hset, String.ofList_toList, String.ofList_toList] at hclauses

end OptionalPart

end DynamicSql
