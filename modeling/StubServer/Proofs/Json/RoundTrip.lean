import Mathlib.Tactic.IntervalCases
import StubServer.Json.Printer
import StubServer.Json.Reader
import StubServer.Proofs.Table.Order

/-! # Reading what has been written

The reader takes a written value off the front of a text, as far as it is written in full
(`value_compactChars`): a string ends at its closing quote, an array or an object at its closing
bracket, and a number at the comma or the bracket behind it.  So the compact form of a value is read
as the value (`parse?_compact`); floating point numbers are left out here (`Plain`).
-/

namespace StubServer.Json

/-! ## Strings -/

theorem hexDigit?_hexDigit {n : Nat} (fits : n < 16) : hexDigit? (hexDigit n) = some n := by
  revert n
  decide

theorem hexFour?_low {n : Nat} (fits : n < 32) :
    hexFour? '0' '0' (hexDigit (n / 16)) (hexDigit (n % 16)) = some n := by
  have zero : hexDigit? '0' = some 0 := by decide
  have high : hexDigit? (hexDigit (n / 16)) = some (n / 16) := hexDigit?_hexDigit (by omega)
  have low : hexDigit? (hexDigit (n % 16)) = some (n % 16) := hexDigit?_hexDigit (by omega)
  simp only [hexFour?, zero, high, low, Option.bind_eq_bind, Option.bind_some, Option.pure_def,
    Option.some.injEq]
  omega

theorem stringBody_escapeChar (c : Char) (tail : List Char) :
    stringBody (escapeChar c ++ tail) = (stringBody tail).add c := by
  by_cases named : c ∈ ['"', '\\', '\x08', '\x0c', '\n', '\r', '\t']
  · simp only [List.mem_cons, List.not_mem_nil, or_false] at named
    rcases named with rfl | rfl | rfl | rfl | rfl | rfl | rfl <;> rfl
  simp only [List.mem_cons, List.not_mem_nil, or_false, not_or] at named
  unfold escapeChar
  simp only [named, if_false]
  split
  · next low =>
    simp only [List.cons_append, List.nil_append, stringBody, hexFour?_low low]
    rw [if_pos (by omega), Char.ofNat_toNat]
  · next notLow =>
    rw [List.singleton_append, stringBody, if_neg (by simp [notLow, named])]
    · exact named.1
    · exact fun _ _ _ _ _ isBackslash _ => named.2.1 isBackslash
    · exact fun _ _ isBackslash _ => named.2.1 isBackslash

theorem stringBody_escaped (cs rest : List Char) :
    stringBody (cs.flatMap escapeChar ++ '"' :: rest) = some (cs, rest) := by
  induction cs with
  | nil => rfl
  | cons c cs ih =>
    rw [List.flatMap_cons, List.append_assoc, stringBody_escapeChar, ih]
    rfl

/-! ## Numbers -/

/-- What follows ends a number: a comma, a closing bracket, or nothing. -/
def Stops (rest : List Char) : Prop := ∀ c ∈ rest.head?, c = ',' ∨ c = ']' ∨ c = '}'

theorem stops_cons {c : Char} (ends : c = ',' ∨ c = ']' ∨ c = '}') (rest : List Char) :
    Stops (c :: rest) := by
  rintro _ ⟨⟩
  exact ends

theorem digitValue_digitChar {d : Nat} (isDigit : d < 10) : digitValue d.digitChar = d := by
  revert d
  decide

theorem fits_iff (n : Nat) : Number.fits 64 n = true ↔ n < 2 ^ 64 := by
  simp [Number.fits, Nat.shiftLeft_eq]

theorem addWhole_fits {value : Nat} {c : Char} (fits : value * 10 + digitValue c < 2 ^ 64) :
    Significand.addWhole ⟨value, 0, false⟩ c = ⟨value * 10 + digitValue c, 0, false⟩ := by
  simp only [Significand.addWhole, (fits_iff _).2 fits]
  rfl

theorem foldl_addWhole_toDigits {n : Nat} (fits : n < 2 ^ 64) :
    (Nat.toDigits 10 n).foldl Significand.addWhole ⟨0, 0, false⟩ = ⟨n, 0, false⟩ := by
  induction n using Nat.strongRecOn with
  | ind n ih =>
    rw [Nat.toDigits_eq_if (by decide)]
    split
    · next small =>
      have last : digitValue n.digitChar = n := digitValue_digitChar small
      rw [List.foldl_cons, List.foldl_nil, addWhole_fits (by omega), last, Nat.zero_mul, Nat.zero_add]
    · next large =>
      have last : digitValue (n % 10).digitChar = n % 10 := digitValue_digitChar (by omega)
      rw [List.foldl_append, ih (n / 10) (by omega) (by omega), List.foldl_cons, List.foldl_nil,
        addWhole_fits (by omega), last]
      congr 1
      omega

theorem range_of_isDigit {c : Char} (isDigit : c.isDigit = true) : 48 ≤ c.toNat ∧ c.toNat ≤ 57 := by
  simpa [Char.isDigit, UInt32.le_iff_toNat_le] using isDigit

theorem digits_toDigits (n : Nat) : ∀ c ∈ Nat.toDigits 10 n, c.isDigit = true :=
  fun _ inDigits => Nat.isDigit_of_mem_toDigits (by decide) (by decide) inDigits

/-- No number but zero is written with a leading zero. -/
theorem head?_toDigits {n : Nat} (positive : 0 < n) : (Nat.toDigits 10 n).head? ≠ some '0' := by
  induction n using Nat.strongRecOn with
  | ind n ih =>
    rw [Nat.toDigits_eq_if (by decide)]
    split
    · next small => interval_cases n <;> decide
    · next large =>
      rw [List.head?_append_of_ne_nil _ Nat.toDigits_ne_nil]
      exact ih (n / 10) (by omega) (by omega)

theorem leadingZero_toDigits (n : Nat) :
    ((Nat.toDigits 10 n).length > 1 && (Nat.toDigits 10 n).head? == some '0') = false := by
  rcases Nat.eq_zero_or_pos n with rfl | positive
  · decide
  · simp [head?_toDigits positive]

/-- A number written in digits is read up to where it stops, and not as a floating point number. -/
theorem number_toDigits (negative : Bool) {n : Nat} (fits : n < 2 ^ 64) {rest : List Char}
    (stops : Stops rest) :
    number negative (Nat.toDigits 10 n ++ rest) = number.wholeNumber negative ⟨n, 0, false⟩ rest := by
  have digits := digits_toDigits n
  have noneAfter : rest.takeWhile Char.isDigit = [] ∧ rest.dropWhile Char.isDigit = rest := by
    cases rest with
    | nil => exact ⟨rfl, rfl⟩
    | cons c after => rcases stops c rfl with rfl | rfl | rfl <;> exact ⟨rfl, rfl⟩
  unfold number
  dsimp only
  rw [List.takeWhile_append_of_pos digits, List.dropWhile_append_of_pos digits, noneAfter.1,
    noneAfter.2, List.append_nil, leadingZero_toDigits, foldl_addWhole_toDigits fits]
  rw [if_neg (by simp [Nat.toDigits_ne_nil])]
  cases rest with
  | nil => rfl
  | cons c after => rcases stops c rfl with rfl | rfl | rfl <;> rfl

theorem number_natural {n : Nat} (fits : n < 2 ^ 64) {rest : List Char} (stops : Stops rest) :
    number false (Nat.toDigits 10 n ++ rest) = some (.int n, rest) := by
  rw [number_toDigits false fits stops]
  rfl

theorem number_negative {n : Nat} (positive : 0 < n) (fits : n ≤ 2 ^ 63) {rest : List Char}
    (stops : Stops rest) :
    number true (Nat.toDigits 10 n ++ rest) = some (.int (-(n : Int)), rest) := by
  have signed : Number.fitsSigned 64 (-(n : Int)) = true := by
    simpa [Number.fitsSigned, Nat.shiftLeft_eq, Nat.ne_of_gt positive] using fits
  rw [number_toDigits true (by omega) stops]
  simp [number.wholeNumber, signed, Nat.ne_of_gt positive]

/-! ## Values -/

/-- Values of which nothing is lost in writing: no floating point numbers, integers of 64 bits, the
members of an object in order, and containers of at most this depth. -/
inductive Plain : Nat → Json → Prop where
  | null {depth} : Plain depth .null
  | bool {depth} (b : Bool) : Plain depth (.bool b)
  | int {depth} {n : Int} (low : -2 ^ 63 ≤ n) (high : n < 2 ^ 64) : Plain depth (.num (.int n))
  | str {depth} (s : String) : Plain depth (.str s)
  | arr {depth} {items : List Json} (plain : ∀ x ∈ items, Plain depth x) :
      Plain (depth + 1) (.arr items)
  | obj {depth} {members : List (String × Json)} (ascending : Table.Ascending members)
      (plain : ∀ row ∈ members, Plain depth row.2) : Plain (depth + 1) (.obj members)

/-- The value is read off the front of a text. -/
def ReadsBack (depth : Nat) (j : Json) : Prop :=
  ∀ fuel rest, 2 * j.compactChars.length < fuel → Stops rest →
    value fuel depth (j.compactChars ++ rest) = some (j, rest)

theorem readsBack_of_succ {depth : Nat} {j : Json}
    (reads : ∀ fuel rest, 2 * j.compactChars.length ≤ fuel → Stops rest →
      value (fuel + 1) depth (j.compactChars ++ rest) = some (j, rest)) : ReadsBack depth j := by
  intro fuel rest enough stops
  cases fuel with
  | zero => exact absurd enough (Nat.not_lt_zero _)
  | succ fuel => exact reads fuel rest (Nat.le_of_lt_succ enough) stops

theorem value_digit {c : Char} (isDigit : c.isDigit = true) (fuel depth : Nat) (cs : List Char) :
    value (fuel + 1) depth (c :: cs) = (number false (c :: cs)).map fun (n, r) => (.num n, r) := by
  have bounds := range_of_isDigit isDigit
  rw [← Char.ofNat_toNat c]
  generalize c.toNat = n at bounds
  obtain ⟨low, high⟩ := bounds
  interval_cases n <;> rfl

theorem exists_toDigits (n : Nat) : ∃ c cs, Nat.toDigits 10 n = c :: cs ∧ c.isDigit = true := by
  obtain ⟨c, cs, digits⟩ := List.exists_cons_of_ne_nil (Nat.toDigits_ne_nil (n := n) (b := 10))
  exact ⟨c, cs, digits, digits_toDigits n c (digits ▸ List.mem_cons_self)⟩

theorem readsBack_str (depth : Nat) (s : String) : ReadsBack depth (.str s) := by
  refine readsBack_of_succ fun fuel rest _ _ => ?_
  change (stringBody (s.toList.flatMap escapeChar ++ ['"'] ++ rest)).map _ = _
  simp only [List.append_assoc, List.singleton_append, stringBody_escaped, Option.map_some,
    String.ofList_toList]

theorem readsBack_int (depth : Nat) {n : Int} (low : -2 ^ 63 ≤ n) (high : n < 2 ^ 64) :
    ReadsBack depth (.num (.int n)) := by
  refine readsBack_of_succ fun fuel rest _ stops => ?_
  change value (fuel + 1) depth (intText n ++ rest) = _
  unfold intText
  split
  · next negative =>
    have read := number_negative (n := n.natAbs) (by omega) (by omega) stops
    change (number true (Nat.toDigits 10 n.natAbs ++ rest)).map _ = _
    rw [read, Option.map_some, Int.ofNat_natAbs_of_nonpos (by omega), Int.neg_neg]
  · next natural =>
    have read := number_natural (n := n.natAbs) (by omega) stops
    obtain ⟨c, cs, digits, isDigit⟩ := exists_toDigits n.natAbs
    rw [digits, List.cons_append] at read ⊢
    rw [value_digit isDigit, read, Option.map_some, Int.natAbs_of_nonneg (by omega)]

/-! ## Containers -/

/-- No value is taken for a blank, or for the end of an array. -/
theorem Plain.begins {depth : Nat} {j : Json} (plain : Plain depth j) :
    ∃ c cs, j.compactChars = c :: cs ∧ isSpace c = false ∧ c ≠ ']' := by
  cases plain with
  | null => exact ⟨_, _, rfl, by decide, by decide⟩
  | bool b => cases b <;> exact ⟨_, _, rfl, by decide, by decide⟩
  | str s => exact ⟨_, _, rfl, by decide, by decide⟩
  | arr => exact ⟨_, _, rfl, by decide, by decide⟩
  | obj => exact ⟨_, _, rfl, by decide, by decide⟩
  | @int _ n =>
    change ∃ c cs, intText n = _ ∧ _
    unfold intText
    split
    · exact ⟨_, _, rfl, by decide, by decide⟩
    · obtain ⟨c, cs, digits, isDigit⟩ := exists_toDigits n.natAbs
      refine ⟨c, cs, digits, ?_, by rintro rfl; cases isDigit⟩
      cases space : isSpace c with
      | false => rfl
      | true =>
        simp only [isSpace, Bool.or_eq_true, beq_iff_eq] at space
        rcases space with ((rfl | rfl) | rfl) | rfl <;> cases isDigit

theorem items_compactItems {depth fuel : Nat} {x : Json} {xs : List Json} (rest : List Char)
    (reads : ∀ y ∈ x :: xs, ReadsBack depth y)
    (enough : 2 * (compactItems true (x :: xs)).length + 1 < fuel) :
    items fuel depth (compactItems true (x :: xs) ++ ']' :: rest) = some (x :: xs, rest) := by
  induction xs generalizing x fuel with
  | nil =>
    cases fuel with
    | zero => exact absurd enough (Nat.not_lt_zero _)
    | succ fuel =>
      have first : value fuel depth (x.compactChars ++ ']' :: rest) = some (x, ']' :: rest) :=
        reads x List.mem_cons_self _ _ (by simp [compactItems] at enough; omega)
          (stops_cons (.inr (.inl rfl)) rest)
      simp only [compactItems, if_true, List.nil_append, List.append_nil, items, first]
      rfl
  | cons y ys ih =>
    cases fuel with
    | zero => exact absurd enough (Nat.not_lt_zero _)
    | succ fuel =>
      have text : compactItems true (x :: y :: ys) =
          x.compactChars ++ ',' :: compactItems true (y :: ys) := by
        simp [compactItems]
      rw [text, List.length_append, List.length_cons] at enough
      have first := reads x List.mem_cons_self fuel _ (by omega)
        (stops_cons (.inl rfl) (compactItems true (y :: ys) ++ ']' :: rest))
      have later : items fuel depth (compactItems true (y :: ys) ++ ']' :: rest) =
          some (y :: ys, rest) :=
        ih (fun z inRest => reads z (List.mem_cons_of_mem _ inRest)) (by omega)
      rw [text, List.append_assoc, List.cons_append, items, first]
      change (items fuel depth _).map _ = _
      rw [later]
      rfl

section Members

variable {fuel depth : Nat} {x : Json} {key body text rest : List Char}
  (name : stringBody body = some (key, ':' :: text))

include name

theorem members_last (first : value fuel depth text = some (x, '}' :: rest)) :
    members (fuel + 1) depth ('"' :: body) = some ([(String.ofList key, x)], rest) := by
  have quote : skipSpace ('"' :: body) = '"' :: body := rfl
  have colon : skipSpace (':' :: text) = ':' :: text := rfl
  have brace : skipSpace ('}' :: rest) = '}' :: rest := rfl
  simp only [members, quote, name, colon, first, brace]

theorem members_more (first : value fuel depth text = some (x, ',' :: rest)) :
    members (fuel + 1) depth ('"' :: body) =
      (members fuel depth rest).map fun (xs, r) => ((String.ofList key, x) :: xs, r) := by
  have quote : skipSpace ('"' :: body) = '"' :: body := rfl
  have colon : skipSpace (':' :: text) = ':' :: text := rfl
  have comma : skipSpace (',' :: rest) = ',' :: rest := rfl
  simp only [members, quote, name, colon, first, comma]

end Members

theorem members_compactMembers {depth fuel : Nat} {k : String} {x : Json}
    {xs : List (String × Json)} (rest : List Char)
    (reads : ∀ row ∈ (k, x) :: xs, ReadsBack depth row.2)
    (enough : 2 * (compactMembers true ((k, x) :: xs)).length + 1 < fuel) :
    members fuel depth (compactMembers true ((k, x) :: xs) ++ '}' :: rest) =
      some ((k, x) :: xs, rest) := by
  induction xs generalizing k x fuel with
  | nil =>
    cases fuel with
    | zero => exact absurd enough (Nat.not_lt_zero _)
    | succ fuel =>
      have text : compactMembers true [(k, x)] ++ '}' :: rest =
          '"' :: (k.toList.flatMap escapeChar ++ '"' :: ':' :: (x.compactChars ++ '}' :: rest)) := by
        simp [compactMembers, quoted]
      have first := reads (k, x) List.mem_cons_self fuel _
        (by simp [compactMembers] at enough ⊢; omega) (stops_cons (.inr (.inr rfl)) rest)
      rw [text, members_last (stringBody_escaped ..) first, String.ofList_toList]
  | cons row xs ih =>
    obtain ⟨k', y⟩ := row
    cases fuel with
    | zero => exact absurd enough (Nat.not_lt_zero _)
    | succ fuel =>
      have text : compactMembers true ((k, x) :: (k', y) :: xs) ++ '}' :: rest =
          '"' :: (k.toList.flatMap escapeChar ++ '"' :: ':' ::
            (x.compactChars ++ ',' :: (compactMembers true ((k', y) :: xs) ++ '}' :: rest))) := by
        simp [compactMembers, quoted]
      have longer : x.compactChars.length + (compactMembers true ((k', y) :: xs)).length <
          (compactMembers true ((k, x) :: (k', y) :: xs)).length := by
        simp [compactMembers]
        omega
      have first := reads (k, x) List.mem_cons_self fuel _ (by dsimp only; omega)
        (stops_cons (.inl rfl) (compactMembers true ((k', y) :: xs) ++ '}' :: rest))
      have later : members fuel depth (compactMembers true ((k', y) :: xs) ++ '}' :: rest) =
          some ((k', y) :: xs, rest) :=
        ih (fun other inRest => reads other (List.mem_cons_of_mem _ inRest)) (by omega)
      rw [text, members_more (stringBody_escaped ..) first, later, Option.map_some,
        String.ofList_toList]

theorem value_arr {c : Char} (notSpace : isSpace c = false) (notEnd : c ≠ ']') (fuel depth : Nat)
    (cs : List Char) :
    value (fuel + 1) (depth + 1) ('[' :: c :: cs) =
      (items fuel depth (c :: cs)).map fun (xs, r) => (.arr xs, r) := by
  have bracket : skipSpace ('[' :: c :: cs) = '[' :: c :: cs := rfl
  have front : skipSpace (c :: cs) = c :: cs := List.dropWhile_cons_of_neg (by simp [notSpace])
  simp only [value, bracket, front]
  split
  · next same => exact absurd (List.cons.inj same).1 notEnd
  · rfl

theorem readsBack_arr {depth : Nat} {xs : List Json} (plain : ∀ x ∈ xs, Plain depth x)
    (reads : ∀ x ∈ xs, ReadsBack depth x) : ReadsBack (depth + 1) (.arr xs) := by
  refine readsBack_of_succ fun fuel rest enough _ => ?_
  cases xs with
  | nil => rfl
  | cons x xs =>
    have text : compactChars (.arr (x :: xs)) ++ rest =
        '[' :: (compactItems true (x :: xs) ++ ']' :: rest) := by
      simp [compactChars]
    have shorter : 2 * (compactItems true (x :: xs)).length + 1 < fuel := by
      simp [compactChars] at enough
      omega
    have read := items_compactItems rest reads shorter
    obtain ⟨c, cs, begins, notSpace, notEnd⟩ := (plain x List.mem_cons_self).begins
    have front : compactItems true (x :: xs) ++ ']' :: rest =
        c :: (cs ++ (compactItems false xs ++ ']' :: rest)) := by
      simp [compactItems, begins]
    rw [front] at read
    rw [text, front, value_arr notSpace notEnd, read, Option.map_some]

theorem value_obj (fuel depth : Nat) (cs : List Char) :
    value (fuel + 1) (depth + 1) ('{' :: '"' :: cs) =
      (members fuel depth ('"' :: cs)).map fun (xs, r) => (.object xs, r) :=
  rfl

theorem readsBack_obj {depth : Nat} {xs : Members} (ascending : xs.Ascending)
    (reads : ∀ row ∈ xs, ReadsBack depth row.2) : ReadsBack (depth + 1) (.obj xs) := by
  refine readsBack_of_succ fun fuel rest enough _ => ?_
  cases xs with
  | nil => rfl
  | cons row xs =>
    obtain ⟨k, x⟩ := row
    have text : compactChars (.obj ((k, x) :: xs)) ++ rest =
        '{' :: (compactMembers true ((k, x) :: xs) ++ '}' :: rest) := by
      simp [compactChars]
    have shorter : 2 * (compactMembers true ((k, x) :: xs)).length + 1 < fuel := by
      simp [compactChars] at enough
      omega
    have read := members_compactMembers rest reads shorter
    obtain ⟨cs, front⟩ : ∃ cs, compactMembers true ((k, x) :: xs) ++ '}' :: rest = '"' :: cs :=
      ⟨_, rfl⟩
    rw [front] at read
    rw [text, front, value_obj, read]
    exact congrArg (fun members => some (Json.obj members, rest))
      (Table.ofList_of_ascending ascending)

theorem Plain.readsBack {depth : Nat} {j : Json} (plain : Plain depth j) : ReadsBack depth j := by
  induction plain with
  | null => exact readsBack_of_succ fun _ _ _ _ => rfl
  | bool b => cases b <;> exact readsBack_of_succ fun _ _ _ _ => rfl
  | str s => exact readsBack_str _ s
  | int low high => exact readsBack_int _ low high
  | arr plain ih => exact readsBack_arr plain ih
  | obj ascending plain ih => exact readsBack_obj ascending ih

/-- An object of plain members is plain, in whatever order they are listed. -/
theorem plain_object {depth : Nat} {rows : List (String × Json)}
    (plain : ∀ row ∈ rows, Plain depth row.2) : Plain (depth + 1) (.object rows) :=
  .obj (Table.ascending_ofList rows) fun row inTable => plain row (Table.mem_ofList inTable)

/-- The compact form of a plain value is read as that value. -/
theorem parse?_compact {j : Json} (plain : Plain 127 j) : parse? j.compact = some j := by
  have read := plain.readsBack (2 * j.compactChars.length + 2) [] (by omega) nofun
  rw [List.append_nil] at read
  rw [parse?, compact, String.toList_ofList, parseChars?, read]
  rfl

end StubServer.Json
