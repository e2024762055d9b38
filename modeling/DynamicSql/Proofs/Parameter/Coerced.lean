import DynamicSql.Proofs.Expr.Printed
import DynamicSql.Proofs.Parameter.Defaults
import DynamicSql.Proofs.Text.Blank
import DynamicSql.Proofs.Value.Document
import DynamicSql.Proofs.Value.Exact

/-!
# Values that have been coerced

A coercion to a type of single values gives a value of this type, and coercing it again gives the same value, so that
a value that is bound, read back and bound again does not drift (`Value.coerce_settles`). A coercion from one exact
numeric type to another succeeds just if the type has the number, and keeps it (`Value.coerce_exact`); and a whole
number or a truth value comes back from its text.
-/

namespace DynamicSql

open Number

/-! ### Handlers of types -/

theorem Registry.handler_defaults {t : DataType} (h : t.isScalar = true) :
    (∀ sqlType, defaults.get? t sqlType = some (.coercing t)) ∨
      t = .json ∧ defaults.forSqlType? .json = some (.coercing t) := by
  by_cases hjson : t = .json
  · subst hjson
    exact .inr ⟨rfl, rfl⟩
  · have hdirect : t ∈ directTypes := by
      cases t <;> first | cases h; done | exact absurd rfl hjson | decide
    exact .inl fun sqlType => by rw [get?_defaults, if_pos hdirect]

namespace Value

variable {v w : Value} {x : ℚ} {target : DataType}

theorem setParameter_dataType (hv : v.isNull = false) (store : Store) (ordinal : Nat) (sqlType : Option SqlType) :
    (Handler.coercing v.dataType).setParameter store ordinal v sqlType = store.setValue ordinal v sqlType := by
  unfold Handler.setParameter
  rw [hv, if_neg Bool.false_ne_true, Handler.convert, coerce_dataType]
  rfl

theorem not_isNull_of_isScalar (h : v.dataType.isScalar = true) : v.isNull = false := by
  cases v <;> first | rfl | cases h

theorem coerce_of_coerce (h : v.coerce target = .ok w) : w.coerce target = .ok w := by
  by_cases hscalar : target.isScalar = true
  · rw [← dataType_coerce hscalar h]
    exact w.coerce_dataType
  · exact coerce_of_not_isScalar (Bool.eq_false_iff.2 hscalar) w

/-- What a coercion gives is of the type, or the value itself if the type is not one of single values, and coercing it
again changes nothing. A value of the type is coerced to itself, so the handler that its type has from the start writes
it as it is. -/
theorem coerce_settles (v : Value) (target : DataType) :
    (∀ w, v.coerce target = .ok w →
      (target.isScalar = true → w.dataType = target) ∧ (target.isScalar = false → w = v) ∧
        w.coerce target = .ok w) ∧
    (v.dataType = target → target.isScalar = true →
      v.coerce target = .ok v ∧
      ∃ h, ((∀ sqlType, Registry.defaults.get? target sqlType = some h) ∨
          target = .json ∧ Registry.defaults.forSqlType? .json = some h) ∧
        ∀ store ordinal sqlType, h.setParameter store ordinal v sqlType = store.setValue ordinal v sqlType) := by
  refine ⟨fun w h => ⟨fun hscalar => dataType_coerce hscalar h, fun hscalar => ?_, coerce_of_coerce h⟩, ?_⟩
  · rw [coerce_of_not_isScalar hscalar] at h
    exact (Except.ok.inj h).symm
  · rintro rfl hscalar
    refine ⟨v.coerce_dataType, .coercing v.dataType, Registry.handler_defaults hscalar, fun store ordinal sqlType => ?_⟩
    exact setParameter_dataType (not_isNull_of_isScalar hscalar) store ordinal sqlType

theorem coerce_settles_padded :
    (string " 12 ").coerce .smallInt = .ok (smallInt 12) ∧ (smallInt 12).coerce .smallInt = .ok (smallInt 12) ∧
      ∃ h, Registry.defaults.get? .smallInt (some .integer) = some h ∧
        h.setParameter .empty 1 (smallInt 12) (some .integer) =
          Store.empty.setValue 1 (smallInt 12) (some .integer) := by
  have htext : (string " 12 ").coerce .smallInt = .ok (smallInt 12) := rfl
  obtain ⟨-, -, hagain⟩ := (coerce_settles (string " 12 ") .smallInt).1 _ htext
  obtain ⟨-, h, hdefault, hwrites⟩ := (coerce_settles (smallInt 12) .smallInt).2 rfl rfl
  refine ⟨htext, hagain, h, hdefault.elim (fun hget => hget _) fun hjson => ?_, hwrites _ _ _⟩
  exact absurd hjson.1 (by decide)

/-! ### Whole numbers that fit -/

theorem int16?_eq_some_iff {n : Int} {k : Int16} : int16? n = some k ↔ k.toInt = n := by
  constructor
  · intro h
    unfold int16? at h
    split at h
    · next hn =>
      obtain rfl := Option.some.inj h
      exact Int16.toInt_ofInt_of_le (by omega) (by omega)
    · cases h
  · rintro rfl
    exact int16?_toInt k

theorem int32?_eq_some_iff {n : Int} {k : Int32} : int32? n = some k ↔ k.toInt = n := by
  constructor
  · intro h
    unfold int32? at h
    split at h
    · next hn =>
      obtain rfl := Option.some.inj h
      exact Int32.toInt_ofInt_of_le (by omega) (by omega)
    · cases h
  · rintro rfl
    exact int32?_toInt k

theorem whole?_eq_some_iff (hx : v.number? = some x) {k : Int64} : v.whole? = some k ↔ x = (k.toInt : ℚ) := by
  rcases number?_eq_some_iff.1 hx with ⟨n, hn, rfl⟩ | ⟨d, rfl, rfl⟩
  · have hwhole : v.whole? = int64? n := by
      cases v <;> first | cases hn; done | (obtain rfl := Option.some.inj hn; rfl)
    rw [hwhole, int64?_eq_some_iff, Int.cast_inj, eq_comm]
  · show d.toInt?.bind int64? = some k ↔ d.toRat = k.toInt
    rw [Option.bind_eq_some_iff]
    constructor
    · rintro ⟨n, hn, hk⟩
      rw [Decimal.toInt?_eq_some_iff.1 hn, int64?_eq_some_iff.1 hk]
    · intro h
      exact ⟨k.toInt, Decimal.toInt?_eq_some_iff.2 h, int64?_toInt k⟩

theorem exists_fit_iff {α : Type} {fit? : Int → Option α} {toInt : α → Int} {build : α → Value}
    (hfit : ∀ {n a}, fit? n = some a ↔ toInt a = n) (hrange : ∀ a, FitsInt64 (toInt a)) (hx : v.number? = some x) :
    (∃ k a, v.whole? = some k ∧ fit? k.toInt = some a ∧ w = build a) ↔ ∃ a, x = (toInt a : ℚ) ∧ w = build a := by
  constructor
  · rintro ⟨k, a, hk, ha, rfl⟩
    refine ⟨a, ?_, rfl⟩
    rw [(whole?_eq_some_iff hx).1 hk, hfit.1 ha]
  · rintro ⟨a, ha, rfl⟩
    obtain ⟨k, hk⟩ := Option.ne_none_iff_exists'.1 fun hnone => int64?_eq_none_iff.1 hnone (hrange a)
    have htoInt := int64?_eq_some_iff.1 hk
    refine ⟨k, a, (whole?_eq_some_iff hx).2 ?_, hfit.2 htoInt.symm, rfl⟩
    rw [ha, htoInt]

theorem fitsInt64_smallInt (n : Int16) : FitsInt64 n.toInt :=
  Expr.fitsInt64_of_integer? (show (smallInt n).integer? = some n.toInt from rfl)

theorem fitsInt64_int32 (n : Int32) : FitsInt64 n.toInt :=
  Expr.fitsInt64_of_integer? (show (int32 n).integer? = some n.toInt from rfl)

theorem coerce_smallInt_iff (hx : v.number? = some x) :
    v.coerce .smallInt = .ok w ↔ ∃ n : Int16, x = (n.toInt : ℚ) ∧ w = smallInt n := by
  rw [coerce_smallInt_eq_ok_iff]
  exact exists_fit_iff int16?_eq_some_iff fitsInt64_smallInt hx

theorem coerce_int32_iff (hx : v.number? = some x) :
    v.coerce .int32 = .ok w ↔ ∃ n : Int32, x = (n.toInt : ℚ) ∧ w = int32 n := by
  rw [coerce_int32_eq_ok_iff]
  exact exists_fit_iff int32?_eq_some_iff fitsInt64_int32 hx

theorem coerce_int_iff (hx : v.number? = some x) :
    v.coerce .int = .ok w ↔ ∃ n : Int64, x = (n.toInt : ℚ) ∧ w = int n := by
  rw [coerce_int_eq_ok_iff]
  exact exists_fit_iff int64?_eq_some_iff fitsInt64_toInt hx

theorem exists_coerce_decimal (hx : v.number? = some x) :
    ∃ d : Decimal, v.coerce .decimal = .ok (decimal d) ∧ d.toRat = x := by
  obtain ⟨d, hd, hnumber⟩ := decimal?_of_number? hx
  refine ⟨d, ?_, hnumber⟩
  cases v with
  | decimal | smallInt | int32 | int =>
    obtain rfl := Option.some.inj hd
    rfl
  | _ => cases hx

/-! ### Exact numeric types -/

end Value

namespace DataType

/-- The types of whole numbers and decimals. -/
def exactTypes : List DataType := [.smallInt, .int32, .int, .decimal]

/-- The type has the number. -/
def Represents : DataType → ℚ → Prop
  | .smallInt, x => ∃ n : Int, x = n ∧ -2 ^ 15 ≤ n ∧ n < 2 ^ 15
  | .int32, x => ∃ n : Int, x = n ∧ -2 ^ 31 ≤ n ∧ n < 2 ^ 31
  | .int, x => ∃ n : Int, x = n ∧ -2 ^ 63 ≤ n ∧ n < 2 ^ 63
  | .decimal, _ => True
  | _, _ => False

variable {x : ℚ}

theorem represents_smallInt_iff : smallInt.Represents x ↔ ∃ n : Int16, x = (n.toInt : ℚ) := by
  constructor
  · rintro ⟨n, rfl, hlow, hhigh⟩
    exact ⟨.ofInt n, by rw [Int16.toInt_ofInt_of_le hlow hhigh]⟩
  · rintro ⟨n, rfl⟩
    exact ⟨n.toInt, rfl, n.le_toInt, n.toInt_lt⟩

theorem represents_int32_iff : int32.Represents x ↔ ∃ n : Int32, x = (n.toInt : ℚ) := by
  constructor
  · rintro ⟨n, rfl, hlow, hhigh⟩
    exact ⟨.ofInt n, by rw [Int32.toInt_ofInt_of_le hlow hhigh]⟩
  · rintro ⟨n, rfl⟩
    exact ⟨n.toInt, rfl, n.le_toInt, n.toInt_lt⟩

theorem represents_int_iff : int.Represents x ↔ ∃ n : Int64, x = (n.toInt : ℚ) := by
  constructor
  · rintro ⟨n, rfl, hlow, hhigh⟩
    exact ⟨.ofInt n, by rw [Int64.toInt_ofInt_of_le hlow hhigh]⟩
  · rintro ⟨n, rfl⟩
    exact ⟨n.toInt, rfl, n.le_toInt, n.toInt_lt⟩

end DataType

namespace Value

open DataType

variable {v w : Value} {x : ℚ} {target : DataType}

theorem isScalar_of_mem_exactTypes (h : target ∈ exactTypes) : target.isScalar = true := by
  have hscalar : ∀ t ∈ exactTypes, t.isScalar = true := by decide
  exact hscalar target h

theorem exists_number? (h : v.dataType ∈ exactTypes) : ∃ x, v.number? = some x := by
  cases v with
  | smallInt | int32 | int | decimal => exact ⟨_, rfl⟩
  | _ => simp [exactTypes, dataType, Schema.type] at h

/-- A number is coerced to an exact type just if the type has it. -/
theorem exists_coerce_iff (hx : v.number? = some x) (htarget : target ∈ exactTypes) :
    (∃ w, v.coerce target = .ok w) ↔ target.Represents x := by
  simp only [exactTypes, List.mem_cons, List.not_mem_nil, or_false] at htarget
  rcases htarget with rfl | rfl | rfl | rfl
  · simp [coerce_smallInt_iff hx, represents_smallInt_iff]
  · simp [coerce_int32_iff hx, represents_int32_iff]
  · simp [coerce_int_iff hx, represents_int_iff]
  · obtain ⟨d, hd, -⟩ := exists_coerce_decimal hx
    exact iff_of_true ⟨_, hd⟩ trivial

theorem number?_of_coerce (hx : v.number? = some x) (htarget : target ∈ exactTypes)
    (h : v.coerce target = .ok w) : w.number? = some x := by
  simp only [exactTypes, List.mem_cons, List.not_mem_nil, or_false] at htarget
  rcases htarget with rfl | rfl | rfl | rfl
  · obtain ⟨n, rfl, rfl⟩ := (coerce_smallInt_iff hx).1 h
    rfl
  · obtain ⟨n, rfl, rfl⟩ := (coerce_int32_iff hx).1 h
    rfl
  · obtain ⟨n, rfl, rfl⟩ := (coerce_int_iff hx).1 h
    rfl
  · obtain ⟨d, hd, rfl⟩ := exists_coerce_decimal hx
    obtain rfl := Except.ok.inj (hd.symm.trans h)
    rfl

/-! ### Texts of whole numbers -/

theorem toList_intText_ofNat (n : Nat) : (intText n).toList = Nat.toDigits 10 n := Nat.toList_repr

theorem toList_intText_negSucc (n : Nat) : (intText (.negSucc n)).toList = '-' :: Nat.toDigits 10 (n + 1) := by
  rw [intText, String.toList_append, Nat.toList_repr]
  rfl

theorem trim_intText (n : Int) : Text.trim (intText n).toList = (intText n).toList := by
  have hdigits : ∀ m : Nat, ∀ c ∈ Nat.toDigits 10 m, Text.isBlank c = false := fun m c hc =>
    not_blank_of_isNameChar (isNameChar_of_mem_toDigits hc)
  refine trim_eq_self fun c hc => ?_
  cases n with
  | ofNat n => exact hdigits n c (by rwa [Int.ofNat_eq_natCast, toList_intText_ofNat] at hc)
  | negSucc n =>
    rw [toList_intText_negSucc] at hc
    rcases List.mem_cons.1 hc with rfl | hc
    · decide
    · exact hdigits _ c hc

theorem readInt?_toDigits (n : Nat) : readInt? (Nat.toDigits 10 n) = some (n : Int) := by
  have hdigit : ∀ c s, Nat.toDigits 10 n = c :: s → c.isDigit = true := fun c s hs =>
    (Expr.isDigits_toDigits n).digits c (by rw [hs]; exact .head _)
  have hsigned : ∀ s, Nat.toDigits 10 n ≠ '-' :: s := fun s hs => absurd (hdigit _ s hs) (by decide)
  have hplus : ∀ s, Nat.toDigits 10 n ≠ '+' :: s := fun s hs => absurd (hdigit _ s hs) (by decide)
  rw [readInt?.eq_def]
  split
  · next heq => exact absurd heq (hsigned _)
  · rw [readNat?.eq_def]
    split
    · next heq => exact absurd heq (hplus _)
    · rw [Expr.digits?_of_isDigits (Expr.isDigits_toDigits n)]
      rfl

theorem readInt?_intText (n : Int) : readInt? (intText n).toList = some n := by
  cases n with
  | ofNat n =>
    rw [Int.ofNat_eq_natCast]
    exact (congrArg readInt? (toList_intText_ofNat n)).trans (readInt?_toDigits n)
  | negSucc n =>
    rw [toList_intText_negSucc, readInt?, Expr.digits?_of_isDigits (Expr.isDigits_toDigits _)]
    rfl

theorem whole?_intText (k : Int64) : (string (intText k.toInt)).whole? = some k := by
  show (readInt? (Text.trim (intText k.toInt).toList)).bind int64? = some k
  rw [trim_intText, readInt?_intText]
  exact int64?_toInt k

theorem whole?_text {n : Int} (h : FitsInt64 n) : ∃ k, (string (intText n)).whole? = some k ∧ k.toInt = n := by
  obtain ⟨k, hk⟩ := Option.ne_none_iff_exists'.1 fun hnone => int64?_eq_none_iff.1 hnone h
  obtain rfl := int64?_eq_some_iff.1 hk
  exact ⟨k, whole?_intText k, rfl⟩

/-- The types of whole numbers and truth values. -/
def discreteTypes : List DataType := [.boolean, .smallInt, .int32, .int]

theorem coerce_text (h : v.dataType ∈ discreteTypes) :
    ∃ s, v.coerce .string = .ok (string s) ∧ (string s).coerce v.dataType = .ok v := by
  cases v with
  | boolean b =>
    refine ⟨if b then "true" else "false", rfl, ?_⟩
    cases b <;> rfl
  | smallInt n =>
    obtain ⟨k, hk, hn⟩ := whole?_text (fitsInt64_smallInt n)
    exact ⟨intText n.toInt, rfl, coerce_smallInt_eq_ok_iff.2 ⟨k, n, hk, hn ▸ int16?_toInt n, rfl⟩⟩
  | int32 n =>
    obtain ⟨k, hk, hn⟩ := whole?_text (fitsInt64_int32 n)
    exact ⟨intText n.toInt, rfl, coerce_int32_eq_ok_iff.2 ⟨k, n, hk, hn ▸ int32?_toInt n, rfl⟩⟩
  | int n => exact ⟨intText n.toInt, rfl, coerce_int_eq_ok_iff.2 ⟨n, n, whole?_intText n, int64?_toInt n, rfl⟩⟩
  | _ => simp [discreteTypes, dataType, Schema.type] at h

/-- A whole number of any width and a decimal have an exact number. They can be coerced to each other's types just if
the type has this number, which stays the same; and a whole number or a truth value comes back from its text. -/
theorem coerce_exact :
    (∀ v : Value, v.dataType ∈ exactTypes → ∃ x, v.number? = some x ∧ ∀ target ∈ exactTypes,
      ((∃ w, v.coerce target = .ok w) ↔ target.Represents x) ∧
      ∀ w, v.coerce target = .ok w → w.dataType = target ∧ w.number? = some x) ∧
    ∀ v : Value, v.dataType ∈ discreteTypes →
      ∃ s, v.coerce .string = .ok (string s) ∧ (string s).coerce v.dataType = .ok v := by
  refine ⟨fun v hv => ?_, fun v => coerce_text⟩
  obtain ⟨x, hx⟩ := exists_number? hv
  refine ⟨x, hx, fun target htarget => ⟨exists_coerce_iff hx htarget, fun w h => ⟨?_, ?_⟩⟩⟩
  · exact dataType_coerce (isScalar_of_mem_exactTypes htarget) h
  · exact number?_of_coerce hx htarget h

theorem coerce_exact_places :
    (∃ w, (decimal ⟨200, 2⟩).coerce .smallInt = .ok w ∧ w.number? = some 2) ∧
      ¬ ∃ w, (decimal ⟨25, 1⟩).coerce .int = .ok w := by
  obtain ⟨hexact, -⟩ := coerce_exact
  have htwo : Decimal.toRat ⟨200, 2⟩ = 2 := by norm_num [Decimal.toRat]
  have hhalf : Decimal.toRat ⟨25, 1⟩ = 5 / 2 := by norm_num [Decimal.toRat]
  constructor
  · obtain ⟨x, hx, hcoerce⟩ := hexact (decimal ⟨200, 2⟩) (by decide)
    obtain rfl := Option.some.inj hx
    obtain ⟨hiff, hsame⟩ := hcoerce .smallInt (by decide)
    obtain ⟨w, hw⟩ := hiff.2 ⟨2, htwo, by decide, by decide⟩
    exact ⟨w, hw, htwo ▸ (hsame w hw).2⟩
  · obtain ⟨x, hx, hcoerce⟩ := hexact (decimal ⟨25, 1⟩) (by decide)
    obtain rfl := Option.some.inj hx
    intro h
    obtain ⟨n, hn, -⟩ := (hcoerce .int (by decide)).1.1 h
    rw [hhalf, div_eq_iff (by norm_num)] at hn
    have hodd : (5 : Int) = n * 2 := by exact_mod_cast hn
    omega

end Value

end DynamicSql
