/-!
# UTF-8 and hexadecimal text of octets

Offsets into a text count the octets of its UTF-8 form. Octets that are not the UTF-8 form of a text
are read with one replacement character for each longest run that could have begun a character.
-/

namespace DynamicSql.Text

/-- The number of octets of the UTF-8 form of the characters. -/
def utf8Length : List Char → Nat
  | [] => 0
  | c :: rest => c.utf8Size + utf8Length rest

/-- The text before an offset and the text from there on. An offset inside a character counts as one
in front of it. -/
def splitOffset : Nat → List Char → List Char × List Char
  | _, [] => ([], [])
  | n, c :: rest =>
    if c.utf8Size ≤ n then
      let (before, after) := splitOffset (n - c.utf8Size) rest
      (c :: before, after)
    else ([], c :: rest)

@[simp] theorem utf8Length_append (s t : List Char) :
    utf8Length (s ++ t) = utf8Length s + utf8Length t := by
  induction s with
  | nil => simp [utf8Length]
  | cons c s ih => simp only [List.cons_append, utf8Length, ih, Nat.add_assoc]

@[simp] theorem splitOffset_zero (s : List Char) : splitOffset 0 s = ([], s) := by
  cases s with
  | nil => rfl
  | cons c s =>
    have := c.utf8Size_pos
    rw [splitOffset, if_neg (by omega)]

theorem splitOffset_append (s t : List Char) (n : Nat) :
    splitOffset (utf8Length s + n) (s ++ t) =
      (s ++ (splitOffset n t).1, (splitOffset n t).2) := by
  induction s with
  | nil => simp [utf8Length]
  | cons c s ih =>
    rw [List.cons_append, utf8Length, splitOffset, if_pos (by omega), Nat.add_assoc,
      Nat.add_sub_cancel_left, ih]
    rfl

@[simp] theorem splitOffset_utf8Length (s t : List Char) :
    splitOffset (utf8Length s) (s ++ t) = (s, t) := by
  have h := splitOffset_append s t 0
  rwa [Nat.add_zero, splitOffset_zero, List.append_nil] at h

/-- The octets of the UTF-8 form of a text. -/
def utf8Bytes (s : String) : List UInt8 := s.toUTF8.toList

/-- For an octet that begins a character of several octets: how many follow, the bounds of the first
that follows, and the bits the octet contributes. -/
private def leadByte? (b : Nat) : Option (Nat × Nat × Nat × Nat) :=
  if 0xc2 ≤ b ∧ b ≤ 0xdf then some (1, 0x80, 0xbf, b - 0xc0)
  else if b = 0xe0 then some (2, 0xa0, 0xbf, 0)
  else if b = 0xed then some (2, 0x80, 0x9f, 0xd)
  else if 0xe1 ≤ b ∧ b ≤ 0xef then some (2, 0x80, 0xbf, b - 0xe0)
  else if b = 0xf0 then some (3, 0x90, 0xbf, 0)
  else if 0xf1 ≤ b ∧ b ≤ 0xf3 then some (3, 0x80, 0xbf, b - 0xf0)
  else if b = 0xf4 then some (3, 0x80, 0x8f, 4)
  else none

/-- Reads `need` further octets, the first between `lo` and `hi`: the code point if they are all
there, and how many octets were read. -/
private def readTail (need lo hi acc used : Nat) : List UInt8 → Option Nat × Nat
  | [] => (if need = 0 then some acc else none, used)
  | b :: rest =>
    match need with
    | 0 => (some acc, used)
    | need + 1 =>
      if lo ≤ b.toNat ∧ b.toNat ≤ hi then
        readTail need 0x80 0xbf (acc * 64 + (b.toNat - 0x80)) (used + 1) rest
      else (none, used)

/-- The text of UTF-8 octets, with `�` for whatever is not UTF-8. -/
def ofUtf8Lossy : List UInt8 → List Char
  | [] => []
  | b :: rest =>
    if b.toNat < 0x80 then Char.ofNat b.toNat :: ofUtf8Lossy rest
    else match leadByte? b.toNat with
      | none => '\ufffd' :: ofUtf8Lossy rest
      | some (need, lo, hi, bits) =>
        let (code, used) := readTail need lo hi bits 0 rest
        (code.map Char.ofNat).getD '\ufffd' :: ofUtf8Lossy (rest.drop used)
termination_by s => s.length
decreasing_by
  all_goals
    simp only [List.length_cons, List.length_drop]
    omega

/-- The lower case hexadecimal digit of a number below sixteen. -/
def hexDigit (n : Nat) : Char := (Nat.digitChar n).toLower

/-- Two lower case hexadecimal digits for each octet. -/
def hexOfBytes (bytes : List UInt8) : List Char :=
  bytes.flatMap fun b => [hexDigit (b.toNat / 16), hexDigit (b.toNat % 16)]

/-- The value of a hexadecimal digit of either case. -/
def hexValue? (c : Char) : Option Nat :=
  if '0' ≤ c ∧ c ≤ '9' then some (c.toNat - '0'.toNat)
  else if 'a' ≤ c ∧ c ≤ 'f' then some (c.toNat - 'a'.toNat + 10)
  else if 'A' ≤ c ∧ c ≤ 'F' then some (c.toNat - 'A'.toNat + 10)
  else none

/-- The number that hexadecimal digits denote, none if some character is not one. -/
def hexNumber? (digits : List Char) : Option Nat :=
  digits.foldl (fun acc c => do return (← acc) * 16 + (← hexValue? c)) (some 0)

/-- The octets that pairs of hexadecimal digits denote. -/
def bytesOfHex? : List Char → Option (List UInt8)
  | [] => some []
  | [_] => none
  | hi :: lo :: rest => do
    let h ← hexValue? hi
    let l ← hexValue? lo
    return UInt8.ofNat (h * 16 + l) :: (← bytesOfHex? rest)

end DynamicSql.Text
