import Mathlib
import StubServer.Proofs.Text.Escapes

/-! # Writing escapes

A text is escaped when only letters and digits of ASCII stand for themselves in it, and every other byte as
`%` and two digits; then nothing but letters, digits and `%` is left (`Escaped.notMem`).  Every text can be
escaped (`exists_escaped`), and decoding gives it back (`Escaped.decode`).
-/

namespace StubServer.Text.Percent

open Utf8 (Bytes)

/-- The text stands for these bytes: each letter or digit of ASCII for itself, and any other byte as `%` and
its two hexadecimal digits. -/
inductive Escaped : Bytes → List Char → Prop
  | nil : Escaped [] []
  | plain {c : Char} {bytes : Bytes} {cs : List Char} (isPlain : c.isAlphanum)
      (rest : Escaped bytes cs) : Escaped (.ofNat c.toNat :: bytes) (c :: cs)
  | escape {b : UInt8} {high low : Char} {bytes : Bytes} {cs : List Char}
      (notPlain : ¬(Char.ofNat b.toNat).isAlphanum) (isHigh : hexValue? high = some (b.toNat / 16))
      (isLow : hexValue? low = some (b.toNat % 16)) (rest : Escaped bytes cs) :
      Escaped (b :: bytes) ('%' :: high :: low :: cs)

variable {c : Char} {bytes : Bytes} {cs : List Char}

theorem range_of_isAlphanum (isPlain : c.isAlphanum) : 48 ≤ c.toNat ∧ c.toNat < 128 := by
  have ranges : (65 ≤ c.toNat ∧ c.toNat ≤ 90 ∨ 97 ≤ c.toNat ∧ c.toNat ≤ 122) ∨
      48 ≤ c.toNat ∧ c.toNat ≤ 57 := by
    simpa [Char.isAlphanum, Char.isAlpha, Char.isUpper, Char.isLower, Char.isDigit,
      UInt32.le_iff_toNat_le] using isPlain
  omega

theorem isAlphanum_of_hexValue? {v : Nat} (isDigit : hexValue? c = some v) : c.isAlphanum := by
  have small : ∀ c ∈ "0123456789abcdef".toList, c.isAlphanum := List.all_eq_true.1 (by decide)
  have capital : ∀ c ∈ "0123456789ABCDEF".toList, c.isAlphanum := List.all_eq_true.1 (by decide)
  rcases Option.or_eq_some_iff.1 isDigit with isSmall | ⟨_, isCapital⟩
  · exact small c (List.isSome_idxOf?.1 (Option.isSome_of_eq_some isSmall))
  · exact capital c (List.isSome_idxOf?.1 (Option.isSome_of_eq_some isCapital))

/-! ## What is left in an escaped text -/

/-- Escaping leaves no other character than letters, digits and `%`. -/
theorem Escaped.notMem (escaped : Escaped bytes cs) {sep : Char} (notPlain : ¬sep.isAlphanum)
    (notPercent : sep ≠ '%') : sep ∉ cs := by
  have distinct {d : Char} (isPlain : d.isAlphanum) : sep ≠ d := fun same => notPlain (same ▸ isPlain)
  induction escaped with
  | nil => exact List.not_mem_nil
  | plain isPlain _ ih => exact List.not_mem_cons_of_ne_of_not_mem (distinct isPlain) ih
  | escape _ isHigh isLow _ ih =>
    refine List.not_mem_cons_of_ne_of_not_mem notPercent ?_
    refine List.not_mem_cons_of_ne_of_not_mem (distinct (isAlphanum_of_hexValue? isHigh)) ?_
    exact List.not_mem_cons_of_ne_of_not_mem (distinct (isAlphanum_of_hexValue? isLow)) ih

/-! ## Decoding -/

theorem ascii_of_hexValue? {v : Nat} (isDigit : hexValue? c = some v) : c.toNat < 128 :=
  (range_of_isAlphanum (isAlphanum_of_hexValue? isDigit)).2

theorem digit?_ofNat {v : Nat} (isDigit : hexValue? c = some v) :
    digit? (.ofNat c.toNat) = some v := by
  have ascii := ascii_of_hexValue? isDigit
  rw [digit?, Utf8.toNat_ofNat_of_lt (by omega), Char.ofNat_toNat, isDigit]

/-- The two digits of a byte stand for it. -/
theorem twoDigits?_of_digits {b : UInt8} {high low : Char} (isHigh : hexValue? high = some (b.toNat / 16))
    (isLow : hexValue? low = some (b.toNat % 16)) :
    twoDigits? (.ofNat high.toNat) (.ofNat low.toNat) = some b := by
  rw [twoDigits?, digit?_ofNat isHigh, digit?_ofNat isLow, Option.bind_some, Option.map_some,
    Nat.div_add_mod', UInt8.ofNat_toNat]

theorem unescape_plain (isPlain : c.isAlphanum) (rest : Bytes) :
    unescape 0 (.ofNat c.toNat :: rest) = .ofNat c.toNat :: unescape 0 rest := by
  obtain ⟨least, ascii⟩ := range_of_isAlphanum isPlain
  have value := Utf8.toNat_ofNat_of_lt (n := c.toNat) (by omega)
  generalize UInt8.ofNat c.toNat = b at value
  refine unescape_other (fun _ _ _ isPercent => ?_) fun isPlus => ?_
  · simp only [isPercent, UInt8.reduceToNat] at value
    omega
  · simp only [isPlus, UInt8.reduceToNat] at value
    omega

/-- Decoding restores the bytes that were escaped. -/
theorem Escaped.unescape (escaped : Escaped bytes cs) :
    Percent.unescape 0 (Utf8.encodeChars cs) = bytes := by
  induction escaped with
  | nil => rfl
  | plain isPlain _ ih =>
    rw [Utf8.encodeChars_ascii (range_of_isAlphanum isPlain).2, unescape_plain isPlain, ih]
  | escape _ isHigh isLow _ ih =>
    have two := twoDigits?_of_digits isHigh isLow
    have isDigit := (digits_of_twoDigits? two).1
    rw [Utf8.encodeChars_ascii (by decide), Utf8.encodeChars_ascii (ascii_of_hexValue? isHigh),
      Utf8.encodeChars_ascii (ascii_of_hexValue? isLow)]
    change Percent.unescape 0 (37 :: _) = _
    rw [unescape_percent, signedDigits?_of_digit isDigit, two, ih]

theorem Escaped.decode {s : String} (escaped : Escaped (Utf8.encode s) cs) :
    Percent.decode (String.ofList cs) = s := by
  rw [Percent.decode, Utf8.encode, String.toList_ofList, escaped.unescape, Utf8.decodeLossy_encode]

/-! ## Every text can be escaped -/

theorem exists_escaped (bytes : Bytes) : ∃ cs, Escaped bytes cs := by
  have digits : ∀ n < 16, hexValue? (Nat.digitChar n) = some n := by decide
  induction bytes with
  | nil => exact ⟨[], .nil⟩
  | cons b bytes ih =>
    obtain ⟨cs, escaped⟩ := ih
    have bound := b.toNat_lt
    by_cases isPlain : (Char.ofNat b.toNat).isAlphanum
    · have valid : b.toNat.isValidChar := .inl (by omega)
      have same : UInt8.ofNat (Char.ofNat b.toNat).toNat = b := by
        rw [Utf8.toNat_ofNat_of_valid valid, UInt8.ofNat_toNat]
      exact ⟨Char.ofNat b.toNat :: cs, by simpa only [same] using escaped.plain isPlain⟩
    · exact ⟨_, .escape isPlain (digits _ (by omega)) (digits _ (by omega)) escaped⟩

end StubServer.Text.Percent
