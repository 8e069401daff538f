import StubServer.Json.Pointer
import StubServer.Proofs.Json.RoundTrip
import StubServer.Proofs.Text.Pieces

/-! # Pointers as texts and as ways

Writing tokens down as a pointer and reading it gives them back, whatever characters they hold
(`pointerTokens?_pointerText`).  The tokens then lead from a value to a place below it, over the names of
members and over indices that are written plainly: without a sign and without leading zeros
(`resolve?_eq_some_iff`).  The last index of an edit is read less strictly; where it is written plainly,
the two readings agree (`plainIndex?_of_editIndex?`).
-/

namespace StubServer

namespace Json

/-! ## The text of a pointer -/

/-- A token as it stands in a pointer: first each `~` becomes `~0`, then each slash `~1`. -/
def escapeToken (token : String) : List Char :=
  Text.replaceAll ['/'] ['~', '1'] (Text.replaceAll ['~'] ['~', '0'] token.toList)

/-- The pointer with these tokens. -/
def pointerText (tokens : List String) : String :=
  String.ofList (tokens.flatMap fun token => '/' :: escapeToken token)

/-- What a single character becomes. -/
def escapeTokenChar (c : Char) : List Char :=
  if c = '~' then ['~', '0'] else if c = '/' then ['~', '1'] else [c]

variable {token : String} {tokens : List String}

theorem escapeToken_eq (token : String) : escapeToken token = token.toList.flatMap escapeTokenChar := by
  rw [escapeToken, Text.replaceAll_char, Text.replaceAll_char, List.flatMap_assoc]
  refine List.flatMap_congr fun c _ => ?_
  unfold escapeTokenChar
  split <;> simp

theorem slash_notMem_escapeToken : '/' ∉ escapeToken token := by
  rw [escapeToken_eq, List.mem_flatMap]
  rintro ⟨c, _, inPiece⟩
  unfold escapeTokenChar at inPiece
  split at inPiece
  · simp at inPiece
  · split at inPiece
    · simp at inPiece
    · next notSlash => exact notSlash (List.mem_singleton.1 inPiece).symm

/-- The two steps back: in between, the slashes are restored and each `~` is still written as `~0`. -/
theorem unescapeToken_escapeToken (token : String) : unescapeToken (escapeToken token) = token := by
  -- a slash came out as `~1`, and a `~1` in the token as `~01`, where no `~` stands before the `1`
  have slashes : Text.replaceAll ['~', '1'] ['/'] (token.toList.flatMap escapeTokenChar) =
      token.toList.flatMap fun c => if c = '~' then ['~', '0'] else [c] := by
    refine Text.replaceAll_flatMap (fun c rest => ?_) _
    by_cases isTilde : c = '~'
    · simp [isTilde, escapeTokenChar, Text.replaceAll.go]
    by_cases isSlash : c = '/'
    · simp [isSlash, escapeTokenChar, Text.replaceAll.go]
    · simp [isTilde, isSlash, escapeTokenChar, Text.replaceAll.go, Ne.symm isTilde]
  have tildes : Text.replaceAll ['~', '0'] ['~']
      (token.toList.flatMap fun c => if c = '~' then ['~', '0'] else [c]) =
      token.toList.flatMap fun c => [c] := by
    refine Text.replaceAll_flatMap (fun c rest => ?_) _
    by_cases isTilde : c = '~'
    · simp [isTilde, Text.replaceAll.go]
    · simp [isTilde, Text.replaceAll.go, Ne.symm isTilde]
  rw [unescapeToken, escapeToken_eq, slashes, tildes]
  simp

theorem splitChars_pointer (token : String) (tokens : List String) :
    Text.splitChars '/' (escapeToken token ++ tokens.flatMap fun t => '/' :: escapeToken t) =
      (token :: tokens).map escapeToken := by
  rw [Text.splitChars_eq_splitOn]
  induction tokens generalizing token with
  | nil => simp [List.splitOn_eq_singleton slash_notMem_escapeToken]
  | cons next tokens ih =>
    rw [List.flatMap_cons, List.cons_append,
      List.splitOn_append_cons_self_of_not_mem slash_notMem_escapeToken, ih]
    rfl

/-- Every list of tokens is that of the pointer with its text. -/
theorem pointerTokens?_pointerText (tokens : List String) :
    pointerTokens? (pointerText tokens) = some tokens := by
  rw [pointerTokens?, pointerText, String.toList_ofList]
  cases tokens with
  | nil => rfl
  | cons token tokens =>
    rw [List.flatMap_cons, List.cons_append]
    change some ((Text.splitChars '/' _).map unescapeToken) = _
    rw [splitChars_pointer, List.map_map]
    simp [Function.comp_def, unescapeToken_escapeToken]

/-! ## Indices -/

theorem digitChar_of_isDigit {c : Char} (isDigit : c.isDigit = true) :
    c.toNat - 48 < 10 ∧ Nat.digitChar (c.toNat - 48) = c := by
  have range := range_of_isDigit isDigit
  have small : c.toNat - 48 < 10 := by omega
  refine ⟨small, Char.toNat_inj.1 ?_⟩
  rw [Nat.toNat_digitChar_of_lt_ten small]
  omega

/-- Further digits are appended to those of a number that is not zero. -/
theorem toDigits_foldl {n : Nat} (positive : 0 < n) {cs : List Char}
    (digits : ∀ c ∈ cs, c.isDigit = true) :
    Nat.toDigits 10 (cs.foldl (fun n c => n * 10 + (c.toNat - 48)) n) = Nat.toDigits 10 n ++ cs := by
  induction cs generalizing n with
  | nil => simp
  | cons c cs ih =>
    obtain ⟨isDigit, later⟩ := List.forall_mem_cons.1 digits
    obtain ⟨small, isChar⟩ := digitChar_of_isDigit isDigit
    have one : Nat.toDigits 10 (n * 10 + (c.toNat - 48)) = Nat.toDigits 10 n ++ [c] := by
      rw [Nat.mul_comm, ← Nat.toDigits_append_toDigits (by decide) positive small,
        Nat.toDigits_of_lt_base small, isChar]
    rw [List.foldl_cons, ih (by omega) later, one, List.append_assoc, List.singleton_append]

/-- Digits without a leading zero are those of their value. -/
theorem toDigits_decimalValue {cs : List Char} (notEmpty : cs ≠ [])
    (digits : ∀ c ∈ cs, c.isDigit = true) (plain : ∀ next rest, cs ≠ '0' :: next :: rest) :
    Nat.toDigits 10 (decimalValue cs) = cs := by
  obtain ⟨c, cs, rfl⟩ := List.exists_cons_of_ne_nil notEmpty
  obtain ⟨isDigit, later⟩ := List.forall_mem_cons.1 digits
  obtain ⟨small, isChar⟩ := digitChar_of_isDigit isDigit
  have first : Nat.toDigits 10 (c.toNat - 48) = [c] := by rw [Nat.toDigits_of_lt_base small, isChar]
  rw [decimalValue, List.foldl_cons, Nat.zero_mul, Nat.zero_add]
  rcases Nat.eq_zero_or_pos (c.toNat - 48) with zero | positive
  · -- only the number zero begins with one
    have isZero : c = '0' := by rw [← isChar, zero]; rfl
    subst isZero
    cases cs with
    | nil => rfl
    | cons next rest => exact absurd rfl (plain next rest)
  · rw [toDigits_foldl positive later, first, List.singleton_append]

theorem decimalValue_toDigits (n : Nat) : decimalValue (Nat.toDigits 10 n) = n := by
  have asRead : decimalValue (Nat.toDigits 10 n) = Nat.ofDigitChars 10 (Nat.toDigits 10 n) 0 := by
    rw [decimalValue, Nat.ofDigitChars_eq_foldl]
    simp only [Nat.mul_comm]
    rfl
  rw [asRead, Nat.ofDigitChars_ten_toDigits]

theorem digitsIndex?_eq_some_iff {cs : List Char} {i : Nat} : digitsIndex? cs = some i ↔
    cs ≠ [] ∧ (∀ c ∈ cs, c.isDigit = true) ∧ i < 2 ^ 64 ∧ decimalValue cs = i := by
  rw [digitsIndex?, Option.ite_none_left_eq_some]
  simp only [Bool.or_eq_true, List.isEmpty_iff, Bool.not_eq_true', not_or, Bool.not_eq_false,
    List.all_eq_true, fits_iff, Option.some.injEq, and_assoc]
  refine and_congr_right fun _ => and_congr_right fun _ => and_congr_left fun isValue => ?_
  rw [isValue]

theorem digitsIndex?_toDigits {i : Nat} (fits : i < 2 ^ 64) :
    digitsIndex? (Nat.toDigits 10 i) = some i :=
  digitsIndex?_eq_some_iff.2
    ⟨Nat.toDigits_ne_nil, digits_toDigits i, fits, decimalValue_toDigits i⟩

/-- A number in plain digits is read alike on the way and in last place. -/
theorem indices_toString (n : Nat) :
    plainIndex? (toString n) = digitsIndex? (Nat.toDigits 10 n) ∧
      editIndex? (toString n) = digitsIndex? (Nat.toDigits 10 n) := by
  rw [plainIndex?, editIndex?, Nat.toString_eq_ofList_toDigits, String.toList_ofList]
  constructor
  · split
    · next next rest isPadded =>
      have notPadded := leadingZero_toDigits n
      simp [isPadded] at notPadded
    · rfl
  · -- a sign is no digit
    split
    · next rest isSigned =>
      have isDigit : ('+').isDigit = true := digits_toDigits n '+' (by simp [isSigned])
      cases isDigit
    · rfl

/-- On the way, an index is the text of a number of 64 bits. -/
theorem plainIndex?_eq_some_iff {token : String} {i : Nat} :
    plainIndex? token = some i ↔ token = toString i ∧ i < 2 ^ 64 := by
  constructor
  · intro isIndex
    unfold plainIndex? at isIndex
    split at isIndex
    · cases isIndex
    · next plain =>
      obtain ⟨notEmpty, digits, fits, rfl⟩ := digitsIndex?_eq_some_iff.1 isIndex
      refine ⟨?_, fits⟩
      rw [Nat.toString_eq_ofList_toDigits, toDigits_decimalValue notEmpty digits plain,
        String.ofList_toList]
  · rintro ⟨rfl, fits⟩
    rw [(indices_toString i).1, digitsIndex?_toDigits fits]

theorem plainIndex?_eq_none {token : String} (other : ¬ ∃ n : Nat, token = toString n) :
    plainIndex? token = none := by
  rw [Option.eq_none_iff_forall_ne_some]
  exact fun i isIndex => other ⟨i, (plainIndex?_eq_some_iff.1 isIndex).1⟩

/-- An index that is written plainly means the same on the way and in last place. -/
theorem plainIndex?_of_editIndex? {token : String} {i : Nat} (index : editIndex? token = some i)
    (plain : ∃ n : Nat, token = toString n) : plainIndex? token = some i := by
  obtain ⟨n, rfl⟩ := plain
  obtain ⟨onWay, inLastPlace⟩ := indices_toString n
  rw [onWay, ← inLastPlace, index]

theorem dash_ne_toString (n : Nat) : "-" ≠ toString n := by
  intro same
  have isDigits : Nat.toDigits 10 n = ['-'] := by
    rw [Nat.toString_eq_ofList_toDigits] at same
    simpa using (congrArg String.toList same).symm
  have isDigit : ('-').isDigit = true := digits_toDigits n '-' (by simp [isDigits])
  cases isDigit

/-! ## The way over tokens -/

/-- One step below a value: to a member by its name, or to an item by its index. -/
inductive Child : Json → String → Json → Prop
  | member {members : Members} {name : String} {c : Json} (found : Table.get? members name = some c) :
      Child (.obj members) name c
  | item {items : List Json} {i : Nat} {c : Json} (found : items[i]? = some c) (fits : i < 2 ^ 64) :
      Child (.arr items) (toString i) c

/-- The tokens lead from a value step by step to a place below it. -/
inductive LeadsTo : Json → List String → Json → Prop
  | here (j : Json) : LeadsTo j [] j
  | step {j c target : Json} {token : String} {rest : List String} (child : Child j token c)
      (further : LeadsTo c rest target) : LeadsTo j (token :: rest) target

variable {j c target : Json}

theorem child?_eq_some_iff : j.child? token = some c ↔ j.Child token c := by
  constructor
  · intro isChild
    cases j with
    | obj members => exact .member isChild
    | arr items =>
      obtain ⟨i, isIndex, found⟩ := Option.bind_eq_some_iff.1 isChild
      obtain ⟨rfl, fits⟩ := plainIndex?_eq_some_iff.1 isIndex
      exact .item found fits
    | _ => cases isChild
  · rintro (found | ⟨found, fits⟩)
    · exact found
    · rw [child?, plainIndex?_eq_some_iff.2 ⟨rfl, fits⟩]
      exact found

theorem resolve?_eq_some_iff : j.resolve? tokens = some target ↔ j.LeadsTo tokens target := by
  induction tokens generalizing j with
  | nil =>
    rw [resolve?, Option.some.injEq]
    refine ⟨fun same => same ▸ .here j, fun leads => ?_⟩
    cases leads
    rfl
  | cons token rest ih =>
    rw [resolve?, Option.bind_eq_some_iff]
    constructor
    · rintro ⟨c, isChild, further⟩
      exact .step (child?_eq_some_iff.1 isChild) (ih.1 further)
    · rintro (_ | ⟨child, further⟩)
      exact ⟨_, child?_eq_some_iff.2 child, ih.2 further⟩

theorem resolve?_append (front back : List String) :
    j.resolve? (front ++ back) = (j.resolve? front).bind fun c => c.resolve? back := by
  induction front generalizing j with
  | nil => rfl
  | cons token front ih => simp only [List.cons_append, resolve?, Option.bind_assoc, ih]

/-- The value that a pointer names. -/
def pointer? (j : Json) (path : String) : Option Json := (pointerTokens? path).bind j.resolve?

theorem pointer?_pointerText (j : Json) (tokens : List String) :
    j.pointer? (pointerText tokens) = j.resolve? tokens := by
  rw [pointer?, pointerTokens?_pointerText, Option.bind_some]

end Json

end StubServer
