import StubServer.Proofs.Text.Utf8
import StubServer.Text.Case

/-! # Small letters in and outside of ASCII

A text of ASCII is put in small letters character by character (`lowerFrom_ascii`).  Outside of ASCII every
character keeps a part outside, with a single exception: the small letter of the Kelvin sign is `k`
(`lowerBetween_cases`).  So a text has the small letters of a text of ASCII exactly if the two are equal up to
the case of ASCII letters, once `k` stands for this sign (`eq_lowerFrom_iff`).
-/

namespace StubServer.Text

def IsAscii (cs : List Char) : Prop := ∀ c ∈ cs, c.toNat < 128

def kelvinSign : Char := '\u212A'

/-- The letter `k` for the Kelvin sign, and any other character itself. -/
def latin (c : Char) : Char := if c = kelvinSign then 'k' else c

variable {c mark : Char} {cs before rest : List Char}

/-! ## Single characters -/

theorem toNat_asciiLowerChar (c : Char) :
    (asciiLowerChar c).toNat = if 65 ≤ c.toNat ∧ c.toNat ≤ 90 then c.toNat + 32 else c.toNat := by
  have isCapital : ('A' ≤ c ∧ c ≤ 'Z') ↔ 65 ≤ c.toNat ∧ c.toNat ≤ 90 := Iff.rfl
  rw [asciiLowerChar]
  simp only [isCapital]
  split
  · rw [Utf8.toNat_ofNat_of_valid (.inl (by omega))]
  · rfl

theorem asciiLowerChar_idem (c : Char) : asciiLowerChar (asciiLowerChar c) = asciiLowerChar c := by
  rw [← Char.toNat_inj, toNat_asciiLowerChar, toNat_asciiLowerChar]
  grind

/-- Each run of the table stays outside of ASCII, or is that of the Kelvin sign. -/
theorem lowerRuns_outside : ∀ run ∈ lowerRuns,
    run.low = 0x212A ∧ run.high = 0x212A ∨
      128 ≤ run.low + run.delta ∧ (run.high + run.delta < 0xD800 ∨
        0xDFFF < run.low + run.delta ∧ run.high + run.delta < 0x110000) := by
  decide +kernel

/-- The characters hold one from outside of ASCII, and from ASCII nothing but small letters. -/
def ReachesOutside (cs : List Char) : Prop :=
  (∃ d ∈ cs, 128 ≤ d.toNat) ∧ ∀ d ∈ cs, 128 ≤ d.toNat ∨ 97 ≤ d.toNat ∧ d.toNat ≤ 122

theorem reachesOutside_singleton (outside : 128 ≤ c.toNat) : ReachesOutside [c] := by
  simp [ReachesOutside, outside]

theorem lowerChar_outside (outside : 128 ≤ c.toNat) (notKelvin : c ≠ kelvinSign) :
    ReachesOutside (lowerChar c) := by
  rw [lowerChar, if_neg (Nat.not_lt.2 outside), shiftCase]
  -- the capital I with a dot is the only character that becomes two
  by_cases isDotted : c.toNat = 0x130
  · have expands : lowerExpansions.find? (·.1 == c.toNat) = some (0x130, [0x69, 0x307]) := by
      rw [isDotted]
      rfl
    rw [expands]
    dsimp only
    have isSmall : 97 ≤ (Char.ofNat 0x69).toNat ∧ (Char.ofNat 0x69).toNat ≤ 122 := by decide
    exact ⟨⟨Char.ofNat 0x307, by decide, by decide⟩,
      List.forall_mem_cons.2 ⟨.inr isSmall, List.forall_mem_singleton.2 (.inl (by decide))⟩⟩
  have single : lowerExpansions.find? (·.1 == c.toNat) = none := by
    simpa [lowerExpansions] using Ne.symm isDotted
  rw [single]
  dsimp only
  cases found : CaseRun.find? lowerRuns c.toNat with
  | none => exact reachesOutside_singleton outside
  | some run =>
    dsimp only
    have within := List.find?_some found
    simp only [Bool.and_eq_true, decide_eq_true_eq] at within
    rcases lowerRuns_outside run (List.mem_of_find?_eq_some found) with ⟨low, high⟩ | ⟨clear, valid⟩
    · have isKelvin : c.toNat = 0x212A := by omega
      exact absurd (Char.toNat_inj.1 isKelvin) notKelvin
    · refine reachesOutside_singleton ?_
      have isValid : (c.toNat + run.delta).toNat.isValidChar := by
        unfold Nat.isValidChar
        omega
      rw [Utf8.toNat_ofNat_of_valid isValid]
      omega

/-! ## Texts -/

/-- What becomes of a character between others; only a capital sigma looks at them. -/
def lowerBetween (before : List Char) (c : Char) (rest : List Char) : List Char :=
  if c = 'Σ' then if meetsCased before && !meetsCased rest then ['ς'] else ['σ'] else lowerChar c

theorem lowerFrom_cons (before : List Char) (c : Char) (rest : List Char) :
    lowerFrom before (c :: rest) = lowerBetween before c rest ++ lowerFrom (c :: before) rest := rfl

/-- A character becomes a single one of ASCII, or keeps a part outside. -/
theorem lowerBetween_cases (before : List Char) (c : Char) (rest : List Char) :
    (latin c).toNat < 128 ∧ lowerBetween before c rest = [asciiLowerChar (latin c)] ∨
      128 ≤ (latin c).toNat ∧ ReachesOutside (lowerBetween before c rest) := by
  by_cases isKelvin : c = kelvinSign
  · subst isKelvin
    have small : lowerChar kelvinSign = ['k'] := by decide +kernel
    exact .inl ⟨by decide, by rw [lowerBetween, if_neg (by decide), small]; rfl⟩
  rw [latin, if_neg isKelvin]
  rcases Nat.lt_or_ge c.toNat 128 with ascii | outside
  · have notSigma : c ≠ 'Σ' := by
      rintro rfl
      revert ascii
      decide
    exact .inl ⟨ascii, by rw [lowerBetween, if_neg notSigma, lowerChar, if_pos ascii]⟩
  · refine .inr ⟨outside, ?_⟩
    rw [lowerBetween]
    split
    · split
      · exact reachesOutside_singleton (by decide)
      · exact reachesOutside_singleton (by decide)
    · exact lowerChar_outside outside isKelvin

theorem isAscii_map (ascii : IsAscii cs) : IsAscii (cs.map asciiLowerChar) := by
  intro d inMap
  obtain ⟨c, inText, rfl⟩ := List.mem_map.1 inMap
  have := ascii c inText
  rw [toNat_asciiLowerChar]
  split <;> omega

theorem isAscii_of_map (ascii : IsAscii (cs.map asciiLowerChar)) : IsAscii cs := by
  intro c inText
  have := ascii _ (List.mem_map_of_mem inText)
  rw [toNat_asciiLowerChar] at this
  split at this <;> omega

/-- Nothing comes into ASCII from outside but the Kelvin sign. -/
theorem isAscii_of_lowerFrom (ascii : IsAscii (lowerFrom before cs)) : IsAscii (cs.map latin) := by
  induction cs generalizing before with
  | nil => exact List.forall_mem_nil _
  | cons c cs ih =>
    rw [lowerFrom_cons] at ascii
    obtain ⟨first, later⟩ := List.forall_mem_append.1 ascii
    refine List.forall_mem_cons.2 ⟨?_, ih later⟩
    rcases lowerBetween_cases before c cs with ⟨inside, _⟩ | ⟨_, ⟨d, inPiece, isOutside⟩, _⟩
    · exact inside
    · exact absurd (first d inPiece) (Nat.not_lt.2 isOutside)

theorem lowerFrom_latin (ascii : IsAscii (cs.map latin)) (before : List Char) :
    lowerFrom before cs = (cs.map latin).map asciiLowerChar := by
  induction cs generalizing before with
  | nil => rfl
  | cons c cs ih =>
    obtain ⟨first, later⟩ := List.forall_mem_cons.1 ascii
    rcases lowerBetween_cases before c cs with ⟨_, isPiece⟩ | ⟨outside, _⟩
    · rw [lowerFrom_cons, isPiece, ih later]
      rfl
    · exact absurd first (Nat.not_lt.2 outside)

theorem map_latin (noKelvin : kelvinSign ∉ cs) : cs.map latin = cs := by
  have kept : ∀ c ∈ cs, latin c = id c := by
    intro c inText
    exact if_neg (ne_of_mem_of_not_mem inText noKelvin)
  rw [List.map_congr_left kept, List.map_id]

theorem lowerFrom_ascii (ascii : IsAscii cs) (before : List Char) :
    lowerFrom before cs = cs.map asciiLowerChar := by
  have same : cs.map latin = cs := map_latin fun within => absurd (ascii _ within) (by decide)
  rw [lowerFrom_latin (same.symm ▸ ascii), same]

/-- A text of ASCII in small letters is another text in small letters exactly if the two are equal up to
the case of ASCII letters. -/
theorem eq_lowerFrom_iff {text : List Char} (ascii : IsAscii text) (before : List Char) :
    text.map asciiLowerChar = lowerFrom before cs ↔
      text.map asciiLowerChar = (cs.map latin).map asciiLowerChar := by
  have small := isAscii_map ascii
  constructor
  · intro same
    rw [same, lowerFrom_latin (isAscii_of_lowerFrom (same ▸ small))]
  · intro same
    rw [same, lowerFrom_latin (isAscii_of_map (same ▸ small))]

/-- Small letters of small letters are the same small letters. -/
theorem eq_map_lowerFrom_iff {text : List Char} (ascii : IsAscii text) (before : List Char) :
    text.map asciiLowerChar = (lowerFrom before cs).map asciiLowerChar ↔
      text.map asciiLowerChar = (cs.map latin).map asciiLowerChar := by
  have small := isAscii_map ascii
  have again : ((cs.map latin).map asciiLowerChar).map asciiLowerChar =
      (cs.map latin).map asciiLowerChar := by simp [asciiLowerChar_idem]
  constructor
  · intro same
    have isAscii := isAscii_of_lowerFrom (isAscii_of_map (same ▸ small))
    rw [same, lowerFrom_latin isAscii, again]
  · intro same
    rw [same, lowerFrom_latin (isAscii_of_map (same ▸ small)), again]

/-! ## Marks -/

/-- A character of ASCII that is no letter. -/
def IsMark (c : Char) : Prop :=
  c.toNat < 65 ∨ 90 < c.toNat ∧ c.toNat < 97 ∨ 122 < c.toNat ∧ c.toNat < 128

instance (c : Char) : Decidable (IsMark c) := inferInstanceAs (Decidable (_ ∨ _))

theorem asciiLowerChar_eq_mark (isMark : IsMark mark) : asciiLowerChar c = mark ↔ c = mark := by
  unfold IsMark at isMark
  rw [← Char.toNat_inj, ← Char.toNat_inj, toNat_asciiLowerChar]
  split <;> omega

theorem latin_eq_mark (isMark : IsMark mark) : latin c = mark ↔ c = mark := by
  rw [latin]
  split
  · next isKelvin =>
    subst isKelvin
    refine iff_of_false ?_ ?_
    · rintro rfl
      revert isMark
      decide
    · rintro rfl
      revert isMark
      decide
  · rfl

theorem mem_map_latin (isMark : IsMark mark) : mark ∈ cs.map latin ↔ mark ∈ cs := by
  simp [List.mem_map, latin_eq_mark isMark]

theorem head?_map_latin (isMark : IsMark mark) : (cs.map latin).head? = some mark ↔ cs.head? = some mark := by
  cases cs with
  | nil => rfl
  | cons c cs => simp [latin_eq_mark isMark]

theorem mem_lowerBetween (isMark : IsMark mark) (before : List Char) (c : Char) (rest : List Char) :
    mark ∈ lowerBetween before c rest ↔ c = mark := by
  rcases lowerBetween_cases before c rest with ⟨_, isPiece⟩ | ⟨outside, _, letters⟩
  · rw [isPiece, List.mem_singleton, eq_comm, asciiLowerChar_eq_mark isMark, latin_eq_mark isMark]
  · refine iff_of_false (fun inPiece => ?_) fun same => ?_
    · have := letters mark inPiece
      unfold IsMark at isMark
      omega
    · rw [(latin_eq_mark isMark).2 same] at outside
      unfold IsMark at isMark
      omega

theorem mem_lowerFrom (isMark : IsMark mark) : mark ∈ lowerFrom before cs ↔ mark ∈ cs := by
  induction cs generalizing before with
  | nil => rfl
  | cons c cs ih => rw [lowerFrom_cons, List.mem_append, mem_lowerBetween isMark, ih, List.mem_cons, eq_comm]

theorem lowerBetween_ne_nil (before : List Char) (c : Char) (rest : List Char) :
    lowerBetween before c rest ≠ [] := by
  rcases lowerBetween_cases before c rest with ⟨_, isPiece⟩ | ⟨_, ⟨d, inPiece, _⟩, _⟩
  · simp [isPiece]
  · exact List.ne_nil_of_mem inPiece

theorem head?_lowerFrom (isMark : IsMark mark) :
    (lowerFrom before cs).head? = some mark ↔ cs.head? = some mark := by
  cases cs with
  | nil => rfl
  | cons c cs =>
    obtain ⟨d, piece, isPiece⟩ := List.exists_cons_of_ne_nil (lowerBetween_ne_nil before c cs)
    rw [lowerFrom_cons, isPiece, List.cons_append, List.head?_cons, List.head?_cons, Option.some.injEq,
      Option.some.injEq, ← mem_lowerBetween isMark before c cs, isPiece]
    rcases lowerBetween_cases before c cs with ⟨_, single⟩ | ⟨_, _, letters⟩
    · cases isPiece.symm.trans single
      rw [List.mem_singleton, eq_comm]
    · -- no character of the piece is a mark
      have noMark : mark ∉ d :: piece := by
        intro inPiece
        have := letters mark (isPiece ▸ inPiece)
        unfold IsMark at isMark
        omega
      exact iff_of_false (fun isFirst => noMark (isFirst ▸ List.mem_cons_self)) noMark

end StubServer.Text
