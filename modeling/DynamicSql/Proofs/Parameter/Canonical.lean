import DynamicSql.Proofs.Parameter.Bare

/-!
# Placeholders in canonical form

The canonical form of a placeholder is its property, and behind it `, name=value` for each attribute. What is read
of a text is read back from its canonical form just if its property begins with a character above the blank that
is no bracket (`Placeholder.parse_canonical_iff`). A property begins otherwise only where one of the blanks that
are above the blank leads: reading starts at the first character above the blank, but trims the property of all
blanks, so that a no-break space hides what stands behind it, and a bracket there is not refused
(`Placeholder.parse_hidden`).

Every text comes apart at its commas and its first colon (`Parts`), and what is read of it is said by its parts
(`Parts.read_text`). All else follows from this.
-/

namespace DynamicSql

open Step Text

namespace Placeholder

variable {first name value w s : List Char} {options : List (List Char)} {p : Placeholder}

/-! ### Where reading starts -/

/-- The text from the first character above the blank on. -/
def body (text : List Char) : List Char := text.dropWhile fun c => c ≤ ' '

theorem forall_mem_body {P : Char → Prop} (h : ∀ c ∈ w, P c) : ∀ c ∈ body w, P c := fun c hc =>
  h c ((List.dropWhile_sublist _).subset hc)

theorem lt_of_mem_head?_body (text : List Char) : ∀ c ∈ (body text).head?, ' ' < c := fun c hc =>
  Char.not_le.1 (of_decide_eq_false (head?_dropWhile _ text c hc))

theorem body_eq_self_iff : body w = w ↔ ∀ c ∈ w.head?, ' ' < c := by
  constructor
  · intro h
    rw [← h]
    exact lt_of_mem_head?_body w
  · exact fun h => dropWhile_eq_self_of_head fun c hc => decide_eq_false (Char.not_le.2 (h c hc))

theorem body_append (hs : ∀ c ∈ s.head?, c = ',' ∨ c = ':') :
    body (w ++ s) = body w ++ s ∧ ((body w ++ s).head? = some '(' ↔ (body w).head? = some '(') := by
  constructor
  · have hself : body s = s := body_eq_self_iff.2 fun c hc => by
      rcases hs c hc with rfl | rfl <;> decide
    rw [body, body, List.dropWhile_append]
    split
    · next hempty => rw [List.isEmpty_iff.1 hempty, ← body, hself, List.nil_append]
    · rfl
  · rw [List.head?_append, Option.or_eq_some_iff]
    refine ⟨fun h => h.resolve_right fun ⟨_, h⟩ => ?_, .inl⟩
    rcases hs _ h with h | h <;> exact absurd h (by decide)

/-! ### Commas, colons and equals signs -/

/-- Options, each behind a comma. -/
def joined (options : List (List Char)) : List Char := options.flatMap (',' :: ·)

theorem splitCommas_append (hw : ∀ c ∈ w, c ≠ ',') (s : List Char) :
    splitCommas (w ++ ',' :: s) = w :: splitCommas s := by
  induction w with
  | nil => rw [List.nil_append, splitCommas, if_pos rfl]
  | cons c w ih =>
    rw [List.cons_append, splitCommas, if_neg (hw c (.head _)), ih fun d hd => hw d (.tail _ hd)]

theorem splitCommas_joined (hfirst : ∀ c ∈ first, c ≠ ',') (hoptions : ∀ option ∈ options, ∀ c ∈ option, c ≠ ',') :
    splitCommas (first ++ joined options) = first :: options := by
  induction options generalizing first with
  | nil =>
    rw [joined, List.flatMap_nil, List.append_nil]
    exact splitCommas_eq hfirst
  | cons option options ih =>
    obtain ⟨hoption, hoptions⟩ := List.forall_mem_cons.1 hoptions
    rw [joined, List.flatMap_cons, List.cons_append, splitCommas_append hfirst]
    exact congrArg _ (ih hoption hoptions)

theorem exists_joined (text : List Char) : ∃ first options, text = first ++ joined options ∧
    (∀ c ∈ first, c ≠ ',') ∧ ∀ option ∈ options, ∀ c ∈ option, c ≠ ',' := by
  induction text with
  | nil => exact ⟨[], [], rfl, List.forall_mem_nil _, List.forall_mem_nil _⟩
  | cons c text ih =>
    obtain ⟨first, options, rfl, hfirst, hoptions⟩ := ih
    by_cases hc : c = ','
    · subst hc
      exact ⟨[], first :: options, rfl, List.forall_mem_nil _, List.forall_mem_cons.2 ⟨hfirst, hoptions⟩⟩
    · exact ⟨c :: first, options, rfl, List.forall_mem_cons.2 ⟨hc, hfirst⟩, hoptions⟩

theorem takeWhile_of_ne {d : Char} (hw : ∀ c ∈ w, c ≠ d) (hs : ∀ c ∈ s.head?, c = d) :
    (w ++ s).takeWhile (fun c => decide (c ≠ d)) = w :=
  takeWhile_append_of_head (fun c hc => decide_eq_true (hw c hc)) fun c hc =>
    decide_eq_false (not_not_intro (hs c hc))

theorem readAttribute_append (hname : ∀ c ∈ name, c ≠ '=') (value : List Char) :
    readAttribute (name ++ '=' :: value) = .ok (String.ofList (trim name), String.ofList (trim value)) := by
  have htake := takeWhile_of_ne (s := '=' :: value) hname fun c hc => (Option.some.inj hc).symm
  rw [readAttribute, htake, List.drop_left]

theorem readAttribute_error (hw : ∀ c ∈ w, c ≠ '=') :
    readAttribute w = .error (.missingValue (String.ofList (trim w))) := by
  have htake := takeWhile_of_ne (s := []) hw fun _ h => absurd h (Option.not_mem_none _)
  rw [List.append_nil] at htake
  rw [readAttribute, htake, List.drop_length]

/-! ### The parts of a text -/

/-- An SQL type behind a colon, if there is one. -/
def typeText : Option (List Char) → List Char
  | some type => ':' :: type
  | none => []

/-- A text that has come apart at its commas, and the part in front of them at its first colon. -/
structure Parts where
  property : List Char
  type : Option (List Char)
  options : List (List Char)
  property_ne : ∀ c ∈ property, c ≠ ',' ∧ c ≠ ':'
  type_ne : ∀ t ∈ type, ∀ c ∈ t, c ≠ ','
  options_ne : ∀ option ∈ options, ∀ c ∈ option, c ≠ ','

/-- The attribute that an SQL type is read as. -/
def readType : Option (List Char) → Except Fault (List (String × String))
  | some type =>
    if (trim type).isEmpty then .error .missingType
    else .ok [(typeAttribute, String.ofList (trim type))]
  | none => .ok []

theorem head_typeText (hw : ∀ c ∈ w, c ≠ ':') (type : Option (List Char)) :
    head (w ++ typeText type) =
      if (trim w).isEmpty then .error .missingProperty
      else (readType type).map fun typed => (String.ofList (trim w), typed) := by
  cases type with
  | none =>
    have htake := takeWhile_of_ne (s := []) hw fun _ h => absurd h (Option.not_mem_none _)
    rw [List.append_nil] at htake
    rw [typeText, List.append_nil, head, htake, List.drop_length]
    rfl
  | some type =>
    have htake := takeWhile_of_ne (s := ':' :: type) hw fun c hc => (Option.some.inj hc).symm
    rw [typeText, head, htake, List.drop_left, readType]
    dsimp only
    split_ifs <;> rfl

namespace Parts

def text (q : Parts) : List Char := q.property ++ typeText q.type ++ joined q.options

theorem exists_text (text : List Char) : ∃ q : Parts, q.text = text := by
  obtain ⟨first, options, rfl, hfirst, hoptions⟩ := exists_joined text
  by_cases hcolon : ':' ∈ first
  · obtain ⟨property, type, rfl, hproperty⟩ := List.eq_append_cons_of_mem hcolon
    obtain ⟨hcommas, htype⟩ := List.forall_mem_append.1 hfirst
    refine ⟨⟨property, some type, options, fun c hc => ⟨hcommas c hc, fun heq => hproperty (heq ▸ hc)⟩, ?_,
      hoptions⟩, rfl⟩
    intro t ht
    obtain rfl := Option.some.inj ht
    exact (List.forall_mem_cons.1 htype).2
  · refine ⟨⟨first, none, options, fun c hc => ⟨hfirst c hc, fun heq => hcolon (heq ▸ hc)⟩,
      fun t ht => absurd ht (Option.not_mem_none t), hoptions⟩, ?_⟩
    rw [text, typeText, List.append_nil]

theorem head?_behind (q : Parts) : ∀ c ∈ (typeText q.type ++ joined q.options).head?, c = ',' ∨ c = ':' := by
  intro c hc
  cases htype : q.type with
  | some type =>
    rw [htype] at hc
    exact .inr (Option.some.inj hc).symm
  | none =>
    rw [htype, typeText, List.nil_append] at hc
    cases hoptions : q.options with
    | nil =>
      rw [hoptions] at hc
      cases hc
    | cons option options =>
      rw [hoptions] at hc
      exact .inl (Option.some.inj hc).symm

theorem body_text (q : Parts) : body q.text = body q.property ++ (typeText q.type ++ joined q.options) := by
  rw [text, List.append_assoc, (body_append q.head?_behind).1]

theorem opens_text (q : Parts) : (body q.text).head? = some '(' ↔ (body q.property).head? = some '(' := by
  rw [body_text, (body_append q.head?_behind).2]

theorem read_text (q : Parts) :
    read q.text =
      if (body q.property).head? = some '(' then .error .expression
      else if (trim (body q.property)).isEmpty then .error .missingProperty
      else do
        let typed ← readType q.type
        let attributes ← q.options.mapM readAttribute
        return ⟨String.ofList (trim (body q.property)), typed ++ attributes⟩ := by
  have hcommas : ∀ c ∈ body q.property ++ typeText q.type, c ≠ ',' := by
    refine List.forall_mem_append.2 ⟨forall_mem_body fun c hc => (q.property_ne c hc).1, ?_⟩
    cases htype : q.type with
    | none => exact List.forall_mem_nil _
    | some type => exact List.forall_mem_cons.2 ⟨by decide, q.type_ne type htype⟩
  rw [read, ← body]
  dsimp only
  by_cases hbracket : (body q.property).head? = some '('
  · rw [if_pos (q.opens_text.2 hbracket), if_pos hbracket]
    rfl
  · rw [if_neg (mt q.opens_text.1 hbracket), if_neg hbracket, body_text, ← List.append_assoc,
      splitCommas_joined hcommas q.options_ne]
    dsimp only
    rw [head_typeText (forall_mem_body fun c hc => (q.property_ne c hc).2)]
    split_ifs
    · rfl
    · cases readType q.type <;> rfl

end Parts

/-! ### What reading gives -/

/-- An attribute as it comes from a text. -/
structure IsAttribute (a : String × String) : Prop where
  name : IsTrimmed a.1.toList
  value : IsTrimmed a.2.toList
  name_ne : ∀ c ∈ a.1.toList, c ≠ ',' ∧ c ≠ '='
  value_ne : ∀ c ∈ a.2.toList, c ≠ ','

/-- A placeholder as it comes from a text. -/
structure IsRead (p : Placeholder) : Prop where
  property : IsTrimmed p.property.toList
  ne_nil : p.property.toList ≠ []
  property_ne : ∀ c ∈ p.property.toList, c ≠ ',' ∧ c ≠ ':'
  attributes : ∀ a ∈ p.attributes, IsAttribute a

theorem isAttribute_of {name : String} (htrimmed : IsTrimmed name.toList)
    (hname : ∀ c ∈ name.toList, c ≠ ',' ∧ c ≠ '=') (hvalue : ∀ c ∈ value, c ≠ ',') :
    IsAttribute (name, String.ofList (trim value)) := by
  refine ⟨htrimmed, ?_, hname, ?_⟩ <;> dsimp only <;> rw [String.toList_ofList]
  · exact isTrimmed_trim value
  · exact fun c hc => hvalue c (mem_of_mem_trim hc)

theorem of_readAttribute {a : String × String} (h : readAttribute w = .ok a) (hw : ∀ c ∈ w, c ≠ ',') :
    IsAttribute a := by
  by_cases hequals : '=' ∈ w
  · obtain ⟨name, value, rfl, hname⟩ := List.eq_append_cons_of_mem hequals
    obtain ⟨hleft, hright⟩ := List.forall_mem_append.1 hw
    rw [readAttribute_append fun c hc heq => hname (heq ▸ hc)] at h
    obtain rfl := Except.ok.inj h
    refine isAttribute_of ?_ (fun c hc => ?_) fun c hc => hright c (.tail _ hc)
    · rw [String.toList_ofList]
      exact isTrimmed_trim name
    · rw [String.toList_ofList] at hc
      have hc := mem_of_mem_trim hc
      exact ⟨hleft c hc, fun heq => hname (heq ▸ hc)⟩
  · rw [readAttribute_error fun c hc heq => hequals (heq ▸ hc)] at h
    cases h

theorem isAttribute_type (hvalue : ∀ c ∈ value, c ≠ ',') :
    IsAttribute (typeAttribute, String.ofList (trim value)) := by
  have hall : typeAttribute.toList.all (fun c => !isBlank c && c != ',' && c != '=') = true := by decide
  have hchars : ∀ c ∈ typeAttribute.toList, isBlank c = false ∧ c ≠ ',' ∧ c ≠ '=' := fun c hc => by
    simpa [and_assoc] using List.all_eq_true.1 hall c hc
  exact isAttribute_of (isTrimmed_of_forall fun c hc => (hchars c hc).1) (fun c hc => (hchars c hc).2) hvalue

theorem of_readType {type : Option (List Char)} {typed : List (String × String)} (h : readType type = .ok typed)
    (htype : ∀ t ∈ type, ∀ c ∈ t, c ≠ ',') : ∀ a ∈ typed, IsAttribute a := by
  cases type with
  | none =>
    obtain rfl := Except.ok.inj h
    exact List.forall_mem_nil _
  | some type =>
    rw [readType] at h
    split_ifs at h
    obtain rfl := Except.ok.inj h
    exact List.forall_mem_singleton.2 (isAttribute_type (htype type rfl))

theorem Parts.of_read {q : Parts} (h : read q.text = .ok p) :
    p.IsRead ∧ (body q.property).head? ≠ some '(' ∧ p.property.toList = trim (body q.property) := by
  rw [q.read_text] at h
  split_ifs at h with hbracket hempty
  obtain ⟨typed, htyped, h⟩ := except_bind_eq_ok.1 h
  obtain ⟨attributes, hattributes, h⟩ := except_bind_eq_ok.1 h
  obtain rfl := Except.ok.inj h
  have hproperty : (String.ofList (trim (body q.property))).toList = trim (body q.property) := String.toList_ofList
  have hrest : ∀ a ∈ attributes, IsAttribute a := by
    intro a ha
    obtain ⟨option, hoption, hread⟩ := exists_mem_of_forall₂ (mapM_eq_ok.1 hattributes).flip a ha
    exact of_readAttribute hread (q.options_ne option hoption)
  refine ⟨⟨?_, ?_, ?_, List.forall_mem_append.2 ⟨of_readType htyped q.type_ne, hrest⟩⟩, hbracket, hproperty⟩
  · dsimp only
    rw [hproperty]
    exact isTrimmed_trim _
  · dsimp only
    rw [hproperty]
    exact fun hnil => hempty (List.isEmpty_iff.2 hnil)
  · dsimp only
    rw [hproperty]
    exact fun c hc => forall_mem_body q.property_ne c (mem_of_mem_trim hc)

theorem isRead_of_read {text : List Char} (h : read text = .ok p) : p.IsRead := by
  obtain ⟨q, rfl⟩ := Parts.exists_text text
  exact (Parts.of_read h).1

theorem head?_property {text : List Char} (h : read text = .ok p)
    (hlead : ∀ c ∈ (body text).head?, isBlank c = false) :
    ∀ c ∈ p.property.toList.head?, ' ' < c ∧ c ≠ '(' := by
  obtain ⟨q, rfl⟩ := Parts.exists_text text
  obtain ⟨-, hbracket, hproperty⟩ := Parts.of_read h
  have hbody : ∀ c ∈ (body q.property).head?, c ∈ (body q.text).head? := fun c hc => by
    rw [q.body_text, List.head?_append]
    exact Option.or_eq_some_iff.2 (.inl hc)
  have hstart : trimStart (body q.property) = body q.property :=
    dropWhile_eq_self_of_head fun c hc => hlead c (hbody c hc)
  intro c hc
  rw [hproperty, trim, hstart] at hc
  have hc := of_mem_head?_dropEndWhile hc
  exact ⟨lt_of_mem_head?_body _ c hc, fun heq => hbracket (heq ▸ hc)⟩

theorem parse_eq_ok {text : String} : parse text = .ok p ↔ read text.toList = .ok p := by
  rw [parse]
  cases read text.toList with
  | ok q => exact ⟨fun h => congrArg _ (Except.ok.inj h), fun h => congrArg _ (Except.ok.inj h)⟩
  | error fault => exact ⟨fun h => (by cases h), fun h => (by cases h)⟩

theorem toOption_parse (text : String) : (parse text).toOption = (read text.toList).toOption := by
  rw [parse]
  cases read text.toList <;> rfl

/-! ### The canonical form -/

/-- An attribute as it stands behind a comma. -/
def optionText (name value : List Char) : List Char := ' ' :: (name ++ '=' :: value)

theorem readAttribute_optionText (htrimmed : IsTrimmed name) (hname : ∀ c ∈ name, c ≠ '=') (value : List Char) :
    readAttribute (optionText name value) = .ok (String.ofList name, String.ofList (trim value)) := by
  have htrim : trim (' ' :: name) = name := htrimmed.trim_eq
  rw [optionText, ← List.cons_append, readAttribute_append (List.forall_mem_cons.2 ⟨by decide, hname⟩), htrim]

theorem optionText_ne (hname : ∀ c ∈ name, c ≠ ',') (hvalue : ∀ c ∈ value, c ≠ ',') :
    ∀ c ∈ optionText name value, c ≠ ',' :=
  List.forall_mem_cons.2 ⟨by decide, List.forall_mem_append.2 ⟨hname, List.forall_mem_cons.2 ⟨by decide, hvalue⟩⟩⟩

/-- The attributes of a placeholder as options. -/
def optionsOf (p : Placeholder) : List (List Char) := p.attributes.map fun a => optionText a.1.toList a.2.toList

/-- The property, and behind it `, name=value` for each attribute. -/
def canonical (p : Placeholder) : String := String.ofList (p.property.toList ++ joined p.optionsOf)

theorem IsRead.read_options (h : p.IsRead) (hw : ∀ c ∈ w, c ≠ ',' ∧ c ≠ ':') :
    read (w ++ joined p.optionsOf) =
      if (body w).head? = some '(' then .error .expression
      else if (trim (body w)).isEmpty then .error .missingProperty
      else .ok ⟨String.ofList (trim (body w)), p.attributes⟩ := by
  let q : Parts :=
    { property := w
      type := none
      options := p.optionsOf
      property_ne := hw
      type_ne := fun t ht => absurd ht (Option.not_mem_none t)
      options_ne := List.forall_mem_map.2 fun a ha =>
        optionText_ne (fun c hc => ((h.attributes a ha).name_ne c hc).1) (h.attributes a ha).value_ne }
  have htext : w ++ joined p.optionsOf = q.text := by
    rw [Parts.text, typeText, List.append_nil]
  have hattributes : p.optionsOf.mapM readAttribute = .ok p.attributes := by
    rw [mapM_eq_ok, optionsOf, List.forall₂_map_left_iff, List.forall₂_same]
    intro a ha
    have hattribute := h.attributes a ha
    rw [readAttribute_optionText hattribute.name (fun c hc => (hattribute.name_ne c hc).2), hattribute.value.trim_eq,
      String.ofList_toList, String.ofList_toList]
  rw [htext, q.read_text, hattributes]
  rfl

/-- Whatever has the form of what is read is read of some text. -/
theorem IsRead.exists_parse (h : p.IsRead) : ∃ text, parse text = .ok p := by
  -- A no-break space in front keeps reading from starting within the property, and is trimmed.
  have htrim : trim ('\u00a0' :: p.property.toList) = p.property.toList := h.property.trim_eq
  have hbody : body ('\u00a0' :: p.property.toList) = '\u00a0' :: p.property.toList := body_eq_self_iff.2 fun c hc => by
    obtain rfl := Option.some.inj hc
    decide
  have hempty : ¬ p.property.toList.isEmpty = true := fun hempty => h.ne_nil (List.isEmpty_iff.1 hempty)
  refine ⟨String.ofList ('\u00a0' :: p.property.toList ++ joined p.optionsOf), parse_eq_ok.2 ?_⟩
  rw [String.toList_ofList, h.read_options (List.forall_mem_cons.2 ⟨by decide, h.property_ne⟩), hbody, htrim,
    String.ofList_toList, if_neg hempty, if_neg (by simp)]

theorem IsRead.read_canonical_iff (h : p.IsRead) :
    read p.canonical.toList = .ok p ↔ ∀ c ∈ p.property.toList.head?, ' ' < c ∧ c ≠ '(' := by
  rw [canonical, String.toList_ofList, h.read_options h.property_ne]
  constructor
  · intro hread
    split_ifs at hread with hbracket hempty
    have hproperty : trim (body p.property.toList) = p.property.toList := by
      have hproperty := congrArg (fun q => q.property.toList) (Except.ok.inj hread)
      rwa [String.toList_ofList] at hproperty
    -- Nothing is lost at either end, so that reading starts where the property begins.
    have hlength := length_trim_le (body p.property.toList)
    rw [hproperty] at hlength
    have hself : body p.property.toList = p.property.toList := (List.dropWhile_sublist _).eq_of_length_le hlength
    rw [hself] at hbracket
    exact fun c hc => ⟨body_eq_self_iff.1 hself c hc, fun heq => hbracket (heq ▸ hc)⟩
  · intro hhead
    have hself : body p.property.toList = p.property.toList := body_eq_self_iff.2 fun c hc => (hhead c hc).1
    have hbracket : p.property.toList.head? ≠ some '(' := fun hbracket => (hhead _ hbracket).2 rfl
    have hempty : ¬ p.property.toList.isEmpty = true := fun hempty => h.ne_nil (List.isEmpty_iff.1 hempty)
    rw [hself, h.property.trim_eq, String.ofList_toList, if_neg hbracket, if_neg hempty]

/-! ### An SQL type behind a colon -/

theorem read_abbreviated {property type : List Char} (hproperty : ∀ c ∈ property, c ≠ ',' ∧ c ≠ ':')
    (hblank : ∃ c ∈ type, isBlank c = false) (htype : ∀ c ∈ type, c ≠ ',') (hs : ∀ c ∈ s.head?, c = ',') :
    read (property ++ ':' :: type ++ s) = read (property ++ ',' :: optionText typeAttribute.toList type ++ s) := by
  obtain ⟨first, options, rfl, hfirst, hoptions⟩ := exists_joined s
  obtain rfl : first = [] := by
    cases first with
    | nil => rfl
    | cons c first => exact absurd (hs c rfl) (hfirst c (.head _))
  have hattribute := isAttribute_type htype
  have hoption := optionText_ne (fun c hc => (hattribute.name_ne c hc).1) htype
  let short : Parts :=
    { property, type := some type, options, property_ne := hproperty, options_ne := hoptions
      type_ne := fun t ht => Option.some.inj ht ▸ htype }
  let long : Parts :=
    { property, type := none, options := optionText typeAttribute.toList type :: options
      property_ne := hproperty, options_ne := List.forall_mem_cons.2 ⟨hoption, hoptions⟩
      type_ne := fun t ht => absurd ht (Option.not_mem_none t) }
  have hshort : property ++ ':' :: type ++ ([] ++ joined options) = short.text := rfl
  have hlong : property ++ ',' :: optionText typeAttribute.toList type ++ ([] ++ joined options) = long.text := by
    simp [long, Parts.text, typeText, joined]
  have hnonempty : ¬ (trim type).isEmpty = true := by
    obtain ⟨c, hc, hblank⟩ := hblank
    exact fun hempty => List.ne_nil_of_mem (mem_trim hc hblank) (List.isEmpty_iff.1 hempty)
  have hread := readAttribute_optionText hattribute.name (fun c hc => (hattribute.name_ne c hc).2) type
  rw [hshort, hlong, short.read_text, long.read_text]
  dsimp only [short, long]
  rw [readType, readType, if_neg hnonempty, List.mapM_cons, hread, String.ofList_toList]
  split_ifs
  · rfl
  · rfl
  · cases options.mapM readAttribute <;> rfl

theorem parse_abbreviated {property type rest : String} (hproperty : ∀ c ∈ property.toList, c ≠ ',' ∧ c ≠ ':')
    (hblank : ∃ c ∈ type.toList, isBlank c = false) (htype : ∀ c ∈ type.toList, c ≠ ',')
    (hrest : ∀ c ∈ rest.toList.head?, c = ',') :
    (parse (property ++ ":" ++ type ++ rest)).toOption =
      (parse (property ++ ", jdbcType=" ++ type ++ rest)).toOption := by
  have hshort : (property ++ ":" ++ type ++ rest).toList =
      property.toList ++ ':' :: type.toList ++ rest.toList := by
    simp [String.toList_append]
  have hlong : (property ++ ", jdbcType=" ++ type ++ rest).toList =
      property.toList ++ ',' :: optionText typeAttribute.toList type.toList ++ rest.toList := by
    simp [String.toList_append, optionText, typeAttribute]
  rw [toOption_parse, toOption_parse, hshort, hlong, read_abbreviated hproperty hblank htype hrest]

/-! ### Reading back -/

/-- What is read of a text is read back from its canonical form just if its property, which is never empty, begins
with a character above the blank that is no bracket. So it is wherever reading starts at a character that is no
blank. An SQL type behind a colon and the attribute that it stands for are read alike, or refused alike. -/
theorem parse_canonical_iff (text : String) :
    (∀ p, parse text = .ok p →
      p.property ≠ "" ∧
      (parse p.canonical = .ok p ↔ ∀ c ∈ p.property.toList.head?, ' ' < c ∧ c ≠ '(') ∧
      ((∀ c ∈ (body text.toList).head?, isBlank c = false) →
        parse p.canonical = .ok p ∧ ∀ c ∈ p.property.toList.head?, c ≠ '(')) ∧
    ∀ property type rest : String, (∀ c ∈ property.toList, c ≠ ',' ∧ c ≠ ':') →
      (∃ c ∈ type.toList, isBlank c = false) → (∀ c ∈ type.toList, c ≠ ',') → (∀ c ∈ rest.toList.head?, c = ',') →
      (parse (property ++ ":" ++ type ++ rest)).toOption =
        (parse (property ++ ", jdbcType=" ++ type ++ rest)).toOption := by
  refine ⟨fun p h => ?_, fun _ _ _ => parse_abbreviated⟩
  have hread := parse_eq_ok.1 h
  have hp := isRead_of_read hread
  have hiff : parse p.canonical = .ok p ↔ ∀ c ∈ p.property.toList.head?, ' ' < c ∧ c ≠ '(' := by
    rw [parse_eq_ok, hp.read_canonical_iff]
  refine ⟨fun hempty => hp.ne_nil (by rw [hempty]; rfl), hiff, fun hlead => ?_⟩
  have hhead := head?_property hread hlead
  exact ⟨hiff.2 hhead, fun c hc => (hhead c hc).2⟩

theorem parse_canonical_iff_userName :
    parse " user.name : VARCHAR, =a=b" = .ok ⟨"user.name", [("jdbcType", "VARCHAR"), ("", "a=b")]⟩ ∧
      parse "user.name, jdbcType=VARCHAR, =a=b" = .ok ⟨"user.name", [("jdbcType", "VARCHAR"), ("", "a=b")]⟩ ∧
      (parse ("user.name " ++ ":" ++ " VARCHAR" ++ ", =a=b")).toOption =
        (parse ("user.name " ++ ", jdbcType=" ++ " VARCHAR" ++ ", =a=b")).toOption := by
  have hread : parse " user.name : VARCHAR, =a=b" = .ok ⟨"user.name", [("jdbcType", "VARCHAR"), ("", "a=b")]⟩ := rfl
  obtain ⟨hback, htyped⟩ := parse_canonical_iff " user.name : VARCHAR, =a=b"
  obtain ⟨-, -, hcanonical⟩ := hback _ hread
  have hlead : ∀ c ∈ (body " user.name : VARCHAR, =a=b".toList).head?, isBlank c = false := fun c hc => by
    obtain rfl := Option.some.inj hc
    rfl
  have hproperty : "user.name ".toList.all (fun c => c != ',' && c != ':') = true := by decide
  have htype : " VARCHAR".toList.all (fun c => c != ',') = true := by decide
  refine ⟨hread, (hcanonical hlead).1,
    htyped _ _ _ (fun c hc => ?_) ⟨'V', by decide, rfl⟩ (fun c hc => ?_) fun c hc => ?_⟩
  · simpa using List.all_eq_true.1 hproperty c hc
  · simpa using List.all_eq_true.1 htype c hc
  · exact (Option.some.inj hc).symm

/-- A no-break space hides a bracket: the property is an expression, which its canonical form is refused for. -/
theorem parse_hidden :
    parse "\u00a0(id)" = .ok ⟨"(id)", []⟩ ∧ (⟨"(id)", []⟩ : Placeholder).canonical = "(id)" ∧
      parse "(id)" = .error (.invalidParameter "(id)" Fault.expression.message) := by
  exact ⟨rfl, rfl, rfl⟩

end Placeholder

end DynamicSql
