import StubServer.Text.Blank

/-! # Cutting and replacing

A text is cut at a character as the library does it (`splitChars_eq_splitOn`), or at the first occurrence
alone (`splitOnce_append`).  Replacing works piece by piece, when no occurrence reaches from one piece into
the next (`replaceAll_flatMap`).
-/

namespace StubServer.Text

theorem splitChars_eq_splitOn (sep : Char) (cs : List Char) :
    splitChars sep cs = cs.splitOn sep := by
  induction cs with
  | nil => rfl
  | cons c cs ih =>
    rw [splitChars, ih, List.splitOn_cons_eq_if_modifyHead]
    simp only [beq_iff_eq]
    split
    · rfl
    · cases pieces : cs.splitOn sep with
      | nil => exact absurd pieces (List.splitOn_ne_nil sep cs)
      | cons piece others => rfl

/-- What stands before the first separator is cut off. -/
theorem splitOnce_append {sep : Char} {before : List Char} (notMem : sep ∉ before)
    (behind : List Char) : splitOnce sep (before ++ sep :: behind) = some (before, behind) := by
  induction before with
  | nil => simp [splitOnce]
  | cons c before ih =>
    obtain ⟨distinct, notLater⟩ := not_or.1 fun within => notMem (List.mem_cons.2 within)
    rw [List.cons_append, splitOnce, if_neg (Ne.symm distinct), ih notLater]
    rfl

theorem splitOnce_eq_none {sep : Char} {cs : List Char} (notMem : sep ∉ cs) :
    splitOnce sep cs = none := by
  induction cs with
  | nil => rfl
  | cons c cs ih =>
    obtain ⟨distinct, notLater⟩ := not_or.1 fun within => notMem (List.mem_cons.2 within)
    rw [splitOnce, if_neg (Ne.symm distinct), ih notLater]
    rfl

/-- When each piece of a text is replaced without regard to what follows, so is the whole text. -/
theorem replaceAll_flatMap {o : Char} {os new : List Char} {piece result : Char → List Char}
    (alone : ∀ c rest, replaceAll.go new (o :: os) 0 (piece c ++ rest) =
      result c ++ replaceAll.go new (o :: os) 0 rest) (cs : List Char) :
    replaceAll (o :: os) new (cs.flatMap piece) = cs.flatMap result := by
  rw [replaceAll]
  induction cs with
  | nil => rfl
  | cons c cs ih => rw [List.flatMap_cons, alone, ih, List.flatMap_cons]

/-- A single character is replaced wherever it stands. -/
theorem replaceAll_char (old : Char) (new cs : List Char) :
    replaceAll [old] new cs = cs.flatMap fun c => if c = old then new else [c] := by
  have pieces : cs.flatMap (fun c => [c]) = cs := by simp
  conv => lhs; rw [← pieces]
  refine replaceAll_flatMap (fun c rest => ?_) cs
  by_cases isOld : c = old
  · subst isOld
    simp [replaceAll.go]
  · simp [replaceAll.go, isOld, Ne.symm isOld]

end StubServer.Text
