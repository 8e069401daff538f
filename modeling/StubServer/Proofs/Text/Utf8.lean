import Mathlib.Data.Nat.Notation
import StubServer.Text.Utf8

/-! # Reading what has been encoded

The encoding of a character is of one of four lengths, and `front` reads each back as the character and
its length (`front_encoded`); so reading leniently what has been encoded gives the text back
(`decodeLossy_encode`).  A byte below 128 is a character wherever it stands, and what comes before it is
read as if nothing followed (`readLossy_append_ascii`).
-/

namespace StubServer.Text.Utf8

theorem toNat_ofNat_of_lt {n : Nat} (fits : n < 256) : (UInt8.ofNat n).toNat = n := by
  rw [UInt8.toNat_ofNat']
  exact Nat.mod_eq_of_lt fits

theorem toNat_ofNat_of_valid {n : Nat} (valid : n.isValidChar) : (Char.ofNat n).toNat = n := by
  rw [Char.ofNat, dif_pos valid]
  rfl

theorem between_iff (low high b : UInt8) :
    (low ≤ b && b ≤ high) = true ↔ low.toNat ≤ b.toNat ∧ b.toNat ≤ high.toNat := by
  simp [UInt8.le_iff_toNat_le]

/-! ## Bytes behind the first -/

/-- The byte that holds the lowest six bits of `n`. -/
def tailByte (n : Nat) : UInt8 := .ofNat (n % 64 + 128)

theorem toNat_tailByte (n : Nat) : (tailByte n).toNat = n % 64 + 128 :=
  toNat_ofNat_of_lt (by omega)

theorem isTail_tailByte (n : Nat) : isTail (tailByte n) = true := by
  simp only [isTail, between_iff, toNat_tailByte, UInt8.reduceToNat]
  omega

theorem tailValue_tailByte (n : Nat) : tailValue (tailByte n) = n % 64 := by
  unfold tailValue
  rw [toNat_tailByte]
  omega

/-! ## Whole characters -/

section Characters

variable {n : Nat} (rest : Bytes)

theorem front_one (fits : n ≤ 127) : front (.ofNat n) rest = .char (.ofNat n) 1 := by
  have lead : (UInt8.ofNat n).toNat = n := toNat_ofNat_of_lt (by omega)
  have isAscii : UInt8.ofNat n < 0x80 := by
    rw [UInt8.lt_iff_toNat_lt, lead]
    exact Nat.lt_succ_of_le fits
  unfold front
  rw [if_pos isAscii, lead]

theorem front_two (large : 127 < n) (fits : n ≤ 2047) :
    front (.ofNat (n / 64 % 32 + 192)) (tailByte n :: rest) = .char (.ofNat n) 2 := by
  have lead : (UInt8.ofNat (n / 64 % 32 + 192)).toNat = n / 64 + 192 := by
    rw [toNat_ofNat_of_lt (by omega)]
    omega
  generalize UInt8.ofNat (n / 64 % 32 + 192) = a at lead
  have notAscii : ¬a < 0x80 := by
    simp only [UInt8.lt_iff_toNat_lt, lead, UInt8.reduceToNat]
    omega
  have leadsTwo : (0xC2 ≤ a && a ≤ 0xDF) = true := by
    simp only [between_iff, lead, UInt8.reduceToNat]
    omega
  have value : (a.toNat - 0xC0) * 64 + tailValue (tailByte n) = n := by
    rw [tailValue_tailByte, lead]
    omega
  unfold front
  rw [if_neg notAscii, if_pos leadsTwo]
  dsimp only
  rw [if_pos (isTail_tailByte n), value]

theorem front_three (large : 2047 < n) (fits : n ≤ 65535) (scalar : n < 0xD800 ∨ 0xDFFF < n) :
    front (.ofNat (n / 4096 % 16 + 224)) (tailByte (n / 64) :: tailByte n :: rest) =
      .char (.ofNat n) 3 := by
  have lead : (UInt8.ofNat (n / 4096 % 16 + 224)).toNat = n / 4096 + 224 := by
    rw [toNat_ofNat_of_lt (by omega)]
    omega
  generalize UInt8.ofNat (n / 4096 % 16 + 224) = a at lead
  have notAscii : ¬a < 0x80 := by
    simp only [UInt8.lt_iff_toNat_lt, lead, UInt8.reduceToNat]
    omega
  have notTwo : ¬(0xC2 ≤ a && a ≤ 0xDF) = true := by
    simp only [between_iff, lead, UInt8.reduceToNat]
    omega
  have leadsThree : (0xE0 ≤ a && a ≤ 0xEF) = true := by
    simp only [between_iff, lead, UInt8.reduceToNat]
    omega
  -- the two narrower ranges keep out what two bytes can hold, and the surrogates
  have second : secondOfThree a (tailByte (n / 64)) = true := by
    simp only [secondOfThree, ← UInt8.toNat_inj, lead, UInt8.reduceToNat]
    split
    · simp only [between_iff, toNat_tailByte, UInt8.reduceToNat]
      omega
    · split
      · simp only [between_iff, toNat_tailByte, UInt8.reduceToNat]
        omega
      · exact isTail_tailByte _
  have value :
      (a.toNat - 0xE0) * 4096 + tailValue (tailByte (n / 64)) * 64 + tailValue (tailByte n) = n := by
    rw [tailValue_tailByte, tailValue_tailByte, lead]
    omega
  unfold front
  rw [if_neg notAscii, if_neg notTwo, if_pos leadsThree]
  dsimp only
  rw [if_pos second, if_pos (isTail_tailByte n), value]

theorem front_four (large : 65535 < n) (fits : n < 0x110000) :
    front (.ofNat (n / 262144 % 8 + 240))
        (tailByte (n / 4096) :: tailByte (n / 64) :: tailByte n :: rest) = .char (.ofNat n) 4 := by
  have lead : (UInt8.ofNat (n / 262144 % 8 + 240)).toNat = n / 262144 + 240 := by
    rw [toNat_ofNat_of_lt (by omega)]
    omega
  generalize UInt8.ofNat (n / 262144 % 8 + 240) = a at lead
  have notAscii : ¬a < 0x80 := by
    simp only [UInt8.lt_iff_toNat_lt, lead, UInt8.reduceToNat]
    omega
  have notTwo : ¬(0xC2 ≤ a && a ≤ 0xDF) = true := by
    simp only [between_iff, lead, UInt8.reduceToNat]
    omega
  have notThree : ¬(0xE0 ≤ a && a ≤ 0xEF) = true := by
    simp only [between_iff, lead, UInt8.reduceToNat]
    omega
  have leadsFour : (0xF0 ≤ a && a ≤ 0xF4) = true := by
    simp only [between_iff, lead, UInt8.reduceToNat]
    omega
  have second : secondOfFour a (tailByte (n / 4096)) = true := by
    simp only [secondOfFour, ← UInt8.toNat_inj, lead, UInt8.reduceToNat]
    split
    · simp only [between_iff, toNat_tailByte, UInt8.reduceToNat]
      omega
    · split
      · simp only [between_iff, toNat_tailByte, UInt8.reduceToNat]
        omega
      · exact isTail_tailByte _
  have value :
      (a.toNat - 0xF0) * 262144 + tailValue (tailByte (n / 4096)) * 4096 +
        tailValue (tailByte (n / 64)) * 64 + tailValue (tailByte n) = n := by
    rw [tailValue_tailByte, tailValue_tailByte, tailValue_tailByte, lead]
    omega
  unfold front
  rw [if_neg notAscii, if_neg notTwo, if_neg notThree, if_pos leadsFour]
  dsimp only
  rw [if_pos second, if_pos (isTail_tailByte _), if_pos (isTail_tailByte n), value]

theorem front_encoded (c : Char) :
    ∃ a tail, String.utf8EncodeChar c = a :: tail ∧
      front a (tail ++ rest) = .char c (tail.length + 1) := by
  have valid : c.val.toNat < 0xD800 ∨ 0xDFFF < c.val.toNat ∧ c.val.toNat < 0x110000 := c.valid
  have same : Char.ofNat c.val.toNat = c := Char.ofNat_toNat c
  unfold String.utf8EncodeChar
  generalize c.val.toNat = n at valid same
  subst same
  dsimp only
  split
  · next one => exact ⟨_, [], rfl, front_one _ one⟩
  · split
    · next more two => exact ⟨_, [tailByte n], rfl, front_two _ (by omega) two⟩
    · split
      · next more three =>
        exact ⟨_, [tailByte (n / 64), tailByte n], rfl,
          front_three _ (by omega) three (valid.imp_right And.left)⟩
      · exact ⟨_, [tailByte (n / 4096), tailByte (n / 64), tailByte n], rfl,
          front_four _ (by omega) (by omega)⟩

end Characters

/-! ## Whole texts -/

theorem readLossy_append (tail rest : Bytes) :
    readLossy tail.length (tail ++ rest) = readLossy 0 rest := by
  induction tail with
  | nil => rfl
  | cons b tail ih => exact ih

theorem readLossy_encodeChars (cs : List Char) : readLossy 0 (encodeChars cs) = cs := by
  induction cs with
  | nil => rfl
  | cons c cs ih =>
    obtain ⟨a, tail, encoded, read⟩ := front_encoded (encodeChars cs) c
    have split : encodeChars (c :: cs) = a :: (tail ++ encodeChars cs) := by
      rw [encodeChars, List.flatMap_cons, encoded]
      rfl
    rw [split, readLossy, read]
    dsimp only
    rw [Nat.add_sub_cancel, readLossy_append, ih]

theorem decodeLossy_encode (s : String) : decodeLossy (encode s) = s := by
  rw [decodeLossy, encode, readLossy_encodeChars, String.ofList_toList]

/-! ## Characters of one byte -/

theorem encodeChars_ascii {c : Char} (ascii : c.toNat < 128) (cs : List Char) :
    encodeChars (c :: cs) = .ofNat c.toNat :: encodeChars cs := by
  have single : String.utf8EncodeChar c = [.ofNat c.toNat] := by
    rw [String.utf8EncodeChar]
    exact if_pos (Nat.le_of_lt_succ ascii)
  rw [encodeChars, List.flatMap_cons, single]
  rfl

section Ascii

variable {a : UInt8} (ascii : a < 0x80)
include ascii

theorem not_between {low high : UInt8} (notAscii : 0x80 ≤ low) : (low ≤ a && a ≤ high) = false := by
  have below : ¬low ≤ a := UInt8.not_le.2 (UInt8.lt_of_lt_of_le ascii notAscii)
  simp [below]

theorem not_tail : isTail a = false := not_between ascii (by decide)

theorem not_second (lead : UInt8) :
    secondOfThree lead a = false ∧ secondOfFour lead a = false := by
  unfold secondOfThree secondOfFour
  rw [not_tail ascii, not_between ascii (by decide), not_between ascii (by decide),
    not_between ascii (by decide), not_between ascii (by decide)]
  simp

/-- A byte below 128 ends whatever was begun before it, as the end of the bytes does. -/
theorem front_append_ascii (lead : UInt8) (tail rest : Bytes) :
    front lead (tail ++ a :: rest) = front lead tail := by
  obtain ⟨noThird, noFourth⟩ := not_second ascii lead
  have noTail := not_tail ascii
  unfold front
  rcases tail with _ | ⟨b, _ | ⟨c, _ | ⟨d, more⟩⟩⟩
  · simp [noTail, noThird, noFourth]
  · simp [noTail]
  · simp [noTail]
  · simp

end Ascii

theorem size_front_le (lead : UInt8) (tail : Bytes) : (front lead tail).size ≤ tail.length + 1 := by
  fun_cases front lead tail <;> simp [Front.size]

/-- What comes before a byte below 128 is read without regard to it and to what follows. -/
theorem readLossy_append_ascii {a : UInt8} (ascii : a < 0x80) {before : Bytes} {n : Nat}
    (fits : n ≤ before.length) (rest : Bytes) :
    readLossy n (before ++ a :: rest) =
      readLossy n before ++ Char.ofNat a.toNat :: readLossy 0 rest := by
  induction before generalizing n with
  | nil =>
    obtain rfl : n = 0 := Nat.le_zero.1 fits
    have alone : front a rest = .char (.ofNat a.toNat) 1 := by
      unfold front
      rw [if_pos ascii]
    simp only [List.nil_append, readLossy, alone]
  | cons lead tail ih =>
    cases n with
    | succ n => exact ih (Nat.le_of_succ_le_succ fits)
    | zero =>
      have inside := size_front_le lead tail
      rw [List.cons_append, readLossy, readLossy, front_append_ascii ascii lead tail]
      cases isFront : front lead tail with
      | char c size =>
        rw [isFront] at inside
        exact congrArg (c :: ·) (ih (Nat.sub_le_of_le_add inside))
      | broken size =>
        rw [isFront] at inside
        exact congrArg (replacement :: ·) (ih (Nat.sub_le_of_le_add inside))

end StubServer.Text.Utf8
