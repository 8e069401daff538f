import StubServer.Proofs.Text.Utf8
import StubServer.Text.Percent

/-! # What percent escapes stand for

`replaceEscapes` reads bytes from the left and leaves open which two bytes behind a `%` stand for one.  With
two hexadecimal digits it is the reading that queries are written for.  The decoder takes a plus sign in
place of the first digit too; so the two agree as long as no `%` stands before a plus sign and a digit, and
on every other text they differ (`decode_eq_decodeExactly_iff`).
-/

namespace StubServer.Text.Percent

open Utf8 (Bytes)

/-- A hexadecimal digit has its place among the sixteen as its value; the letters are capital or small. -/
def hexValue? (c : Char) : Option Nat :=
  ("0123456789abcdef".toList.idxOf? c).or ("0123456789ABCDEF".toList.idxOf? c)

def digit? (b : UInt8) : Option Nat := hexValue? (Char.ofNat b.toNat)

/-- Two hexadecimal digits stand for a byte. -/
def twoDigits? (high low : UInt8) : Option UInt8 :=
  (digit? high).bind fun h => (digit? low).map fun l => .ofNat (h * 16 + l)

/-- Two hexadecimal digits stand for a byte, and so do a plus sign and one digit. -/
def signedDigits? (high low : UInt8) : Option UInt8 :=
  if high = 43 then (digit? low).map .ofNat else twoDigits? high low

/-- A `%` and the two bytes behind it become the byte that they stand for, and a plus sign becomes a blank.
All else stays, a `%` too when the next two bytes stand for none. -/
def replaceEscapes (escaped? : UInt8 → UInt8 → Option UInt8) : Bytes → Bytes
  | [] => []
  | 37 :: high :: low :: rest =>
    match escaped? high low with
    | some byte => byte :: replaceEscapes escaped? rest
    | none => 37 :: replaceEscapes escaped? (high :: low :: rest)
  | 43 :: rest => 32 :: replaceEscapes escaped? rest
  | b :: rest => b :: replaceEscapes escaped? rest

/-- The decoder that takes two hexadecimal digits, and nothing else, for an escape. -/
def decodeExactly (s : String) : String :=
  Utf8.decodeLossy (replaceEscapes twoDigits? (Utf8.encode s))

/-- Somewhere a `%` stands before a plus sign and a hexadecimal digit. -/
def HasSigned (bs : Bytes) : Prop :=
  ∃ digit, (digit? digit).isSome ∧ [37, 43, digit] <:+: bs

variable {high low value : UInt8} {bs rest : Bytes}

/-! ## The decoder as a replacement -/

theorem hexDigit?_eq (b : UInt8) : hexDigit? b = (digit? b).map .ofNat := by
  have checked : ∀ n < 256, hexDigit? (.ofNat n) = (digit? (.ofNat n)).map .ofNat := by decide +kernel
  simpa using checked b.toNat b.toNat_lt

theorem escaped?_eq (high low : UInt8) : escaped? high low = signedDigits? high low := by
  unfold escaped? signedDigits? twoDigits?
  rw [hexDigit?_eq, hexDigit?_eq]
  cases digit? low with
  | none => simp
  | some l =>
    simp only [Option.map_some]
    split
    · rfl
    · cases digit? high with
      | none => rfl
      | some h => simp

theorem unescape_percent (high low : UInt8) (rest : Bytes) : unescape 0 (37 :: high :: low :: rest) =
    match signedDigits? high low with
    | some byte => byte :: unescape 0 rest
    | none => 37 :: unescape 0 (high :: low :: rest) := by
  rw [unescape, if_pos rfl, escaped?_eq]
  cases signedDigits? high low <;> rfl

theorem unescape_plus (rest : Bytes) : unescape 0 (43 :: rest) = 32 :: unescape 0 rest := by
  rw [unescape.eq_def]
  rfl

theorem unescape_other {b : UInt8}
    (tooShort : ∀ high low behind, b = 37 → rest ≠ high :: low :: behind) (notPlus : b ≠ 43) :
    unescape 0 (b :: rest) = b :: unescape 0 rest := by
  rw [unescape.eq_def]
  dsimp only
  rw [if_neg notPlus]
  split
  · next isPercent =>
    split
    · exact absurd rfl (tooShort _ _ _ isPercent)
    · rfl
  · rfl

/-- The count of bytes that have been read already does what leaving them out would do. -/
theorem unescape_eq (bs : Bytes) : unescape 0 bs = replaceEscapes signedDigits? bs := by
  fun_induction replaceEscapes signedDigits? bs with
  | case1 => rfl
  | case2 high low rest byte escapes ih => rw [unescape_percent, escapes, ← ih]
  | case3 high low rest noEscape ih => rw [unescape_percent, noEscape, ← ih]
  | case4 rest ih => rw [unescape_plus, ih]
  | case5 b rest tooShort notPlus ih => rw [unescape_other tooShort notPlus, ih]

theorem decode_eq (s : String) :
    decode s = Utf8.decodeLossy (replaceEscapes signedDigits? (Utf8.encode s)) := by
  rw [decode, unescape_eq]

/-! ## Signs -/

theorem hexValue?_lt {c : Char} {v : Nat} (isDigit : hexValue? c = some v) : v < 16 := by
  rcases Option.or_eq_some_iff.1 isDigit with small | ⟨_, capital⟩
  · exact (List.idxOf?_eq_some_iff.1 small).1
  · exact (List.idxOf?_eq_some_iff.1 capital).1

theorem digit?_plus : digit? 43 = none := by decide

theorem ne_percent (isDigit : (digit? value).isSome) : value ≠ 37 := by
  rintro rfl
  revert isDigit
  decide

theorem ne_plus (isDigit : (digit? value).isSome) : value ≠ 43 := by
  rintro rfl
  rw [digit?_plus] at isDigit
  cases isDigit

theorem digits_of_twoDigits? (escapes : twoDigits? high low = some value) :
    (digit? high).isSome ∧ (digit? low).isSome := by
  obtain ⟨h, isHigh, escapes⟩ := Option.bind_eq_some_iff.1 escapes
  obtain ⟨l, isLow, _⟩ := Option.map_eq_some_iff.1 escapes
  exact ⟨by rw [isHigh]; rfl, by rw [isLow]; rfl⟩

theorem signedDigits?_of_digit (isDigit : (digit? high).isSome) (low : UInt8) :
    signedDigits? high low = twoDigits? high low := by
  rw [signedDigits?, if_neg (ne_plus isDigit)]

theorem twoDigits?_eq_none (noEscape : signedDigits? high low = none) : twoDigits? high low = none := by
  rw [Option.eq_none_iff_forall_ne_some]
  intro value escapes
  rw [signedDigits?_of_digit (digits_of_twoDigits? escapes).1, escapes] at noEscape
  cases noEscape

theorem signedDigits?_cases (escapes : signedDigits? high low = some value) :
    twoDigits? high low = some value ∨ high = 43 ∧ (digit? low).isSome ∧ value < 16 := by
  rw [signedDigits?] at escapes
  split at escapes
  · next isPlus =>
    obtain ⟨l, isLow, rfl⟩ := Option.map_eq_some_iff.1 escapes
    have small : l < 16 := hexValue?_lt isLow
    refine .inr ⟨isPlus, by rw [isLow]; rfl, ?_⟩
    rw [UInt8.lt_iff_toNat_lt, Utf8.toNat_ofNat_of_lt (by omega)]
    exact small
  · exact .inl escapes

/-- A signed escape begins with the first byte, or stands behind it. -/
theorem hasSigned_cons {b : UInt8} : HasSigned (b :: rest) ↔
    (b = 37 ∧ ∃ digit behind, rest = 43 :: digit :: behind ∧ (digit? digit).isSome) ∨ HasSigned rest := by
  simp only [HasSigned, List.infix_cons_iff, and_or_left, exists_or]
  refine or_congr_left ?_
  constructor
  · rintro ⟨digit, isDigit, behind, same⟩
    cases same
    exact ⟨rfl, digit, behind, rfl, isDigit⟩
  · rintro ⟨rfl, digit, behind, rfl, isDigit⟩
    exact ⟨digit, isDigit, behind, rfl⟩

/-- No signed escape reaches into two digits behind a `%`. -/
theorem hasSigned_escape (escapes : twoDigits? high low = some value) :
    HasSigned (37 :: high :: low :: rest) ↔ HasSigned rest := by
  obtain ⟨isHigh, isLow⟩ := digits_of_twoDigits? escapes
  rw [hasSigned_cons, hasSigned_cons, hasSigned_cons]
  simp [ne_percent isHigh, ne_percent isLow, ne_plus isHigh]

/-! ## Where the two readings agree -/

theorem replaceEscapes_of_unsigned (unsigned : ¬HasSigned bs) :
    replaceEscapes signedDigits? bs = replaceEscapes twoDigits? bs := by
  fun_induction replaceEscapes signedDigits? bs with
  | case1 => rfl
  | case2 high low rest value escapes ih =>
    rcases signedDigits?_cases escapes with two | ⟨rfl, isDigit, _⟩
    · rw [replaceEscapes, two, ih (by rwa [hasSigned_escape two] at unsigned)]
    · exact absurd (hasSigned_cons.2 (.inl ⟨rfl, low, rest, rfl, isDigit⟩)) unsigned
  | case3 high low rest noEscape ih =>
    rw [replaceEscapes, twoDigits?_eq_none noEscape,
      ih fun signed => unsigned (hasSigned_cons.2 (.inr signed))]
  | case4 rest ih =>
    rw [replaceEscapes, ih fun signed => unsigned (hasSigned_cons.2 (.inr signed))]
  | case5 b rest tooShort notPlus ih =>
    rw [replaceEscapes, ih fun signed => unsigned (hasSigned_cons.2 (.inr signed))]
    · exact tooShort
    · exact notPlus

/-- The first reading has a value below 16 where the second, the same up to there, has a `%`. -/
def Departs (read read' : Bytes) : Prop :=
  ∃ before value behind behind', value < 16 ∧ read = before ++ value :: behind ∧
    read' = before ++ 37 :: behind'

theorem Departs.cons {read read' : Bytes} (departs : Departs read read') (b : UInt8) :
    Departs (b :: read) (b :: read') := by
  obtain ⟨before, value, behind, behind', small, rfl, rfl⟩ := departs
  exact ⟨b :: before, value, behind, behind', small, rfl, rfl⟩

theorem replaceEscapes_of_signed (signed : HasSigned bs) :
    Departs (replaceEscapes signedDigits? bs) (replaceEscapes twoDigits? bs) := by
  fun_induction replaceEscapes signedDigits? bs with
  | case1 =>
    obtain ⟨digit, _, within⟩ := signed
    simp at within
  | case2 high low rest value escapes ih =>
    rcases signedDigits?_cases escapes with two | ⟨rfl, isDigit, small⟩
    · rw [replaceEscapes, two]
      exact (ih ((hasSigned_escape two).1 signed)).cons value
    · -- here the two part: one has read a value, and the other keeps the `%`
      refine ⟨[], value, _, replaceEscapes twoDigits? (43 :: low :: rest), small, rfl, ?_⟩
      rw [replaceEscapes, twoDigits?, digit?_plus]
      rfl
  | case3 high low rest noEscape ih =>
    rw [replaceEscapes, twoDigits?_eq_none noEscape]
    rcases hasSigned_cons.1 signed with ⟨_, digit, behind, same, isDigit⟩ | later
    · -- a signed escape in front would have been read
      cases same
      simp [signedDigits?, Option.isSome_iff_ne_none.1 isDigit] at noEscape
    · exact (ih later).cons 37
  | case4 rest ih =>
    rw [replaceEscapes]
    rcases hasSigned_cons.1 signed with ⟨noPercent, _⟩ | later
    · cases noPercent
    · exact (ih later).cons 32
  | case5 b rest tooShort notPlus ih =>
    rw [replaceEscapes]
    · rcases hasSigned_cons.1 signed with ⟨isPercent, digit, behind, rfl, _⟩ | later
      · exact absurd rfl (tooShort 43 digit behind isPercent)
      · exact (ih later).cons b
    · exact tooShort
    · exact notPlus

/-- A `%` and a value below 16 are read as different characters, whatever surrounds them. -/
theorem Departs.decodeLossy_ne {read read' : Bytes} (departs : Departs read read') :
    Utf8.decodeLossy read ≠ Utf8.decodeLossy read' := by
  obtain ⟨before, value, behind, behind', small, rfl, rfl⟩ := departs
  have ascii : value < 0x80 := UInt8.lt_trans small (by decide)
  intro same
  have sameChars := String.ofList_injective same
  -- a byte of ASCII is a character of its own, even behind a broken piece
  rw [Utf8.readLossy_append_ascii ascii (Nat.zero_le _),
    Utf8.readLossy_append_ascii (by decide) (Nat.zero_le _)] at sameChars
  have sameChar := (List.cons.inj (List.append_cancel_left sameChars)).1
  have checked : ∀ n < 16, Char.ofNat n ≠ '%' := by decide
  exact checked value.toNat (UInt8.lt_iff_toNat_lt.1 small) sameChar

/-! ## Texts -/

/-- Decoding a text replaces its escapes, and takes a plus sign and one digit behind a `%` for one as well.
It does what two hexadecimal digits alone would do exactly if no `%` in the text stands before a plus sign
and a hexadecimal digit. -/
theorem decode_eq_decodeExactly_iff (s : String) :
    decode s = Utf8.decodeLossy (replaceEscapes signedDigits? (Utf8.encode s)) ∧
      (decode s = decodeExactly s ↔ ¬HasSigned (Utf8.encode s)) := by
  refine ⟨decode_eq s, ?_⟩
  rw [decode_eq, decodeExactly]
  constructor
  · intro same signed
    exact (replaceEscapes_of_signed signed).decodeLossy_ne same
  · intro unsigned
    rw [replaceEscapes_of_unsigned unsigned]

/-- The sign and the digit are taken for an escape, instead of staying behind the `%`. -/
theorem decode_ne_decodeExactly :
    decode "%+5" = "\x05" ∧ decodeExactly "%+5" = "% 5" ∧ decode "%+5" ≠ decodeExactly "%+5" := by
  decide +kernel

end StubServer.Text.Percent
