import DynamicSql.Proofs.Template.Occurrence
import DynamicSql.Proofs.Template.Rescan
import DynamicSql.Template.Build

/-!
# Variables put into a text

A text falls into spans in exactly one way (`Span.Splits`): plain characters, escaped opening delimiters, tokens, and
an opening delimiter that is never closed, with all that follows it. Putting variables into the text changes escaped
opening delimiters, which lose their backslash, and tokens; everything else stays as it is (`substitute_spans`). A
token of a known variable becomes the value, which is not read again. A token of an unknown one is written anew from
its inside, and the inside has been read without the backslashes that escape closing delimiters in it: so such a token
stays as it is written just if there are none.
-/

namespace DynamicSql

theorem Delimiters.body?_congr {d d' : Delimiters} (h : d.closing = d'.closing) (s : List Char) :
    d.body? s = d'.body? s := by
  fun_induction body? d s with
  | case1 => rw [body?]
  | case2 c s rest hclose =>
    rw [body?_cons, ← h, hclose]
  | case3 s rest hescaped hclose ih =>
    rw [body?_cons, ← h, hclose]
    dsimp only
    rw [if_pos rfl, hescaped, ih]
  | case4 s hescaped hclose ih =>
    rw [body?_cons, ← h, hclose]
    dsimp only
    rw [if_pos rfl, hescaped, ih]
  | case5 c s hclose hne ih =>
    rw [body?_cons, ← h, hclose]
    dsimp only
    rw [if_neg hne, ih]

theorem substitute_of_unopened {text : String} (h : ∀ c ∈ text.toList, c ≠ '$' ∧ c ≠ '\\')
    (vars : Table String String) : substitute vars text = text := by
  rw [substitute]
  refine (congrArg String.ofList ?_).trans String.ofList_toList
  refine (Delimiters.replace_eq_flatMap .substitution false _ text.toList).trans ?_
  rw [Delimiters.pieces_of_unopened h, List.flatMap_map]
  exact List.flatMap_singleton' text.toList

theorem Delimiters.body?_substitution (s : List Char) : substitution.body? s = placeholder.body? s :=
  @body?_congr substitution placeholder rfl s

/-- A part of a text into which variables are put. -/
inductive Span where
  | plain (c : Char)
  | escaped
  | token (body : List Char)
  | unclosed (rest : List Char)

namespace Span

/-- The part as it is written. -/
def source : Span → List Char
  | plain c => [c]
  | escaped => ['\\', '$', '\x7b']
  | token body => '$' :: '\x7b' :: (escapedBody body ++ ['\x7d'])
  | unclosed rest => '$' :: '\x7b' :: rest

/-- The value of the variable that the inside of a token names. -/
def value? (vars : Table String String) (body : List Char) : Option String :=
  vars.find? (String.ofList (Text.trim body))

/-- What becomes of the part: a token of an unknown variable is written around its inside again. -/
def result (vars : Table String String) : Span → List Char
  | plain c => [c]
  | escaped => ['$', '\x7b']
  | token body =>
    match value? vars body with
    | some v => v.toList
    | none => '$' :: '\x7b' :: (body ++ ['\x7d'])
  | unclosed rest => '$' :: '\x7b' :: rest

/-- The part with the token of a known variable replaced, and that of an unknown one left as it is written. -/
def verbatim (vars : Table String String) (span : Span) : List Char :=
  match span with
  | token body =>
    match value? vars body with
    | some v => v.toList
    | none => span.source
  | _ => span.result vars

/-- The parts of a text, from left to right. A token runs to the first closing delimiter that is not escaped. -/
inductive Splits : List Span → List Char → Prop
  | nil : Splits [] []
  | plain {c : Char} {text : List Char} {spans : List Span} (hopen : ∀ rest, c :: text ≠ '$' :: '\x7b' :: rest)
      (hescape : c = '\\' → ∀ rest, text ≠ '$' :: '\x7b' :: rest) (htext : Splits spans text) :
      Splits (.plain c :: spans) (c :: text)
  | escaped {text : List Char} {spans : List Span} (htext : Splits spans text) :
      Splits (.escaped :: spans) ('\\' :: '$' :: '\x7b' :: text)
  | token {body rest text : List Char} {spans : List Span} (hbody : Closable body)
      (hsplit : text = escapedBody body ++ '\x7d' :: rest) (hrest : Splits spans rest) :
      Splits (.token body :: spans) ('$' :: '\x7b' :: text)
  | unclosed {text : List Char} (h : ∀ body rest, Closable body → text ≠ escapedBody body ++ '\x7d' :: rest) :
      Splits [.unclosed text] ('$' :: '\x7b' :: text)

variable {spans spans' : List Span} {text : List Char} {vars : Table String String}

theorem Splits.source (h : Splits spans text) : spans.flatMap Span.source = text := by
  induction h with
  | nil => rfl
  | plain _ _ _ ih => exact congrArg _ ih
  | escaped _ ih => rw [List.flatMap_cons, ih]; rfl
  | token _ hsplit _ ih =>
    rw [List.flatMap_cons, ih, hsplit]
    simp [Span.source]
  | unclosed _ => exact List.append_nil _

/-- A text has these parts and no others. -/
theorem Splits.unique (h : Splits spans text) (h' : Splits spans' text) : spans = spans' := by
  induction h generalizing spans' with
  | nil => cases h'; rfl
  | plain hopen hescape _ ih =>
    cases h' with
    | plain _ _ htext => rw [ih htext]
    | escaped _ => exact absurd rfl (hescape rfl _)
    | token _ _ _ => exact absurd rfl (hopen _)
    | unclosed _ => exact absurd rfl (hopen _)
  | escaped _ ih =>
    cases h' with
    | plain _ hescape _ => exact absurd rfl (hescape rfl _)
    | escaped htext => rw [ih htext]
  | token hbody hsplit _ ih =>
    cases h' with
    | plain hopen _ _ => exact absurd rfl (hopen _)
    | token hbody' hsplit' hrest' =>
      -- reading the inside finds both of them
      have hread := congrArg Delimiters.placeholder.body? (hsplit.symm.trans hsplit')
      rw [Delimiters.body?_escaped hbody, Delimiters.body?_escaped hbody'] at hread
      obtain ⟨rfl, rfl⟩ := Prod.mk.inj (Option.some.inj hread)
      rw [ih hrest']
    | unclosed h => exact absurd hsplit (h _ _ hbody)
  | unclosed h =>
    cases h' with
    | plain hopen _ _ => exact absurd rfl (hopen _)
    | token hbody hsplit _ => exact absurd hsplit (h _ _ hbody)
    | unclosed _ => rfl

/-- The part as the scanner finds it. -/
def piece : Span → Piece
  | plain c => .plain [c]
  | escaped => .plain ['$', '\x7b']
  | token body => .token body
  | unclosed rest => .plain ('$' :: '\x7b' :: rest)

open Delimiters in
/-- The scanner finds the parts of a text. -/
theorem exists_splits (text : List Char) :
    ∃ spans, Splits spans text ∧ substitution.pieces false text = spans.map piece := by
  fun_induction pieces substitution false text with
  | case1 => exact ⟨[], .nil, rfl⟩
  | case2 c text inner hopen body rest hbody ih =>
    obtain ⟨spans, hsplits, hpieces⟩ := ih
    rw [body?_substitution] at hbody
    obtain ⟨hsplit, hclosable⟩ := eq_escaped_of_body? hbody
    rw [Delimiter.strip?_eq_some.1 hopen, hpieces]
    exact ⟨.token body :: spans, .token hclosable hsplit hsplits, rfl⟩
  | case3 c text inner hopen hbody =>
    have hunclosed : ∀ body rest, Closable body → inner ≠ escapedBody body ++ '\x7d' :: rest := by
      rintro body rest hclosable rfl
      rw [body?_substitution, body?_escaped hclosable] at hbody
      cases hbody
    rw [Delimiter.strip?_eq_some.1 hopen]
    exact ⟨[.unclosed inner], .unclosed hunclosed, rfl⟩
  | case4 text inner hopen hhead ih =>
    obtain ⟨spans, hsplits, hpieces⟩ := ih
    rw [Delimiter.strip?_eq_some.1 hopen, hpieces]
    exact ⟨.escaped :: spans, .escaped hsplits, rfl⟩
  | case5 text hopen hhead ih =>
    obtain ⟨spans, hsplits, hpieces⟩ := ih
    rw [hpieces]
    exact ⟨.plain '\\' :: spans, .plain (Delimiter.strip?_eq_none.1 hhead) (fun _ => Delimiter.strip?_eq_none.1 hopen)
      hsplits, rfl⟩
  | case6 c text hhead hne ih =>
    obtain ⟨spans, hsplits, hpieces⟩ := ih
    rw [hpieces]
    exact ⟨.plain c :: spans, .plain (Delimiter.strip?_eq_none.1 hhead) (fun hc => absurd hc hne) hsplits, rfl⟩

theorem substitute_of_splits {text : String} (h : Splits spans text.toList) (vars : Table String String) :
    substitute vars text = String.ofList (spans.flatMap (result vars)) := by
  obtain ⟨spans', hsplits, hpieces⟩ := exists_splits text.toList
  obtain rfl := h.unique hsplits
  rw [substitute]
  refine congrArg String.ofList ?_
  refine (Delimiters.replace_eq_flatMap .substitution false _ text.toList).trans ?_
  rw [hpieces, List.flatMap_map]
  refine List.flatMap_congr fun span _ => ?_
  cases span <;> rfl

/-! ### Tokens of unknown variables -/

theorem length_escapedBody (body : List Char) : (escapedBody body).length = body.length + body.count '\x7d' := by
  induction body with
  | nil => rfl
  | cons c body ih =>
    by_cases hc : c = '\x7d'
    · subst hc
      rw [escapedBody_close, List.count_cons_self, List.length_cons, List.length_cons, List.length_cons, ih]
      omega
    · rw [escapedBody_cons hc, List.count_cons_of_ne hc, List.length_cons, List.length_cons, ih]
      omega

theorem escapedBody_eq_self_iff {body : List Char} : escapedBody body = body ↔ '\x7d' ∉ body := by
  rw [← List.count_eq_zero]
  constructor
  · intro h
    have hlength := length_escapedBody body
    rw [h] at hlength
    omega
  · intro h
    rw [List.count_eq_zero] at h
    have hself : escapedBody body = body.flatMap fun c => [c] := by
      refine List.flatMap_congr fun c hc => if_neg ?_
      rintro rfl
      exact h hc
    rw [hself, List.flatMap_singleton']

theorem length_result_le (vars : Table String String) (span : Span) :
    (span.result vars).length ≤ (span.verbatim vars).length := by
  cases span with
  | token body =>
    rw [result, verbatim]
    split
    · exact Nat.le_refl _
    · have hlength := length_escapedBody body
      simp only [source, List.length_cons, List.length_append]
      omega
  | _ => exact Nat.le_refl _

theorem result_eq_verbatim_iff {span : Span} : span.result vars = span.verbatim vars ↔
    ∀ body, span = .token body → value? vars body = none → '\x7d' ∉ body := by
  cases span with
  | token body =>
    rw [result, verbatim]
    cases hvalue : value? vars body with
    | some v =>
      refine iff_of_true rfl fun body' heq hnone => ?_
      cases heq
      cases hnone.symm.trans hvalue
    | none =>
      dsimp only [source]
      rw [List.cons_inj_right, List.cons_inj_right, List.append_left_inj, eq_comm, escapedBody_eq_self_iff]
      refine ⟨fun h body' heq _ => ?_, fun h => h body rfl hvalue⟩
      cases heq
      exact h
  | _ => exact iff_of_true rfl fun _ heq => Span.noConfusion heq

end Span

/-- Putting variables into a text is done part by part. Of a text that falls into parts in exactly one way, plain
characters stay as they are, escaped opening delimiters lose their backslash, tokens of known variables become the
values, and an opening delimiter that is never closed stays with all that follows it. The tokens of unknown variables
are left as they are written, just if none of them has an escaped closing delimiter inside. -/
theorem substitute_spans (vars : Table String String) (text : String) :
    ∃ spans, Span.Splits spans text.toList ∧ (∀ spans', Span.Splits spans' text.toList → spans' = spans) ∧
      spans.flatMap Span.source = text.toList ∧
      substitute vars text = String.ofList (spans.flatMap (Span.result vars)) ∧
      (substitute vars text = String.ofList (spans.flatMap (Span.verbatim vars)) ↔
        ∀ body, .token body ∈ spans → Span.value? vars body = none → '\x7d' ∉ body) := by
  obtain ⟨spans, hsplits, -⟩ := Span.exists_splits text.toList
  have hresult := Span.substitute_of_splits hsplits vars
  refine ⟨spans, hsplits, fun _ h => h.unique hsplits, hsplits.source, hresult, ?_⟩
  rw [hresult, String.ofList_inj, flatMap_eq_flatMap_iff (Span.length_result_le vars)]
  constructor
  · intro h body hbody
    exact Span.result_eq_verbatim_iff.1 (h _ hbody) body rfl
  · intro h span hspan
    refine Span.result_eq_verbatim_iff.2 ?_
    rintro body rfl
    exact h body hspan

/-- A token with a closing delimiter inside. -/
def braced : String := "$\x7ba\\\x7db\x7d"

theorem splits_braced : Span.Splits [.token ['a', '\x7d', 'b']] braced.toList :=
  .token (fun h => absurd (Option.some.inj h) (by decide)) rfl .nil

/-- The token names no variable, and yet it loses the backslash in front of the closing delimiter. -/
theorem substitute_braced :
    Span.Splits [.token ['a', '\x7d', 'b']] braced.toList ∧ Span.value? [] ['a', '\x7d', 'b'] = none ∧
      substitute [] braced = "$\x7ba\x7db\x7d" ∧ substitute [] braced ≠ braced := by
  have hresult : substitute [] braced = "$\x7ba\x7db\x7d" := Span.substitute_of_splits splits_braced []
  refine ⟨splits_braced, rfl, hresult, ?_⟩
  rw [hresult]
  decide

end DynamicSql
