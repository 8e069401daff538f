import StubServer.Net.SocketAddress
import StubServer.Proofs.Json.RoundTrip
import StubServer.Proofs.Text.Pieces

/-! # The text of a socket address

A number that is written in digits is read as itself (`valueOf_toDigits`), and numbers between separators are
taken apart where they were joined (`splitChars_joinWith`).  A longer address leaves out a run of zeros, which
are as many as are missing when it is read (`address?_writeGroups`).  So an address whose numbers have their
widths is read back from its text (`read?_write`), and all that are read are such addresses
(`wellFormed_of_read?`).
-/

namespace StubServer

theorem mapM_eq_some_iff {α β : Type} {f : α → Option β} {xs : List α} {ys : List β} :
    xs.mapM f = some ys ↔ List.Forall₂ (fun x y => f x = some y) xs ys := by
  induction xs generalizing ys with
  | nil => simp [eq_comm]
  | cons x xs ih =>
    simp only [List.mapM_cons, Option.bind_eq_bind, Option.bind_eq_some_iff, Option.pure_def,
      Option.some.injEq, ih, List.forall₂_cons_left_iff]
    constructor
    · rintro ⟨y, first, rest, later, rfl⟩
      exact ⟨y, rest, first, later, rfl⟩
    · rintro ⟨y, rest, first, later, rfl⟩
      exact ⟨y, first, rest, later, rfl⟩

/-- What has been written piece by piece is read piece by piece. -/
theorem mapM_map_eq_some {α β : Type} {read : β → Option α} {write : α → β} {as : List α}
    (reads : ∀ a ∈ as, read (write a) = some a) : (as.map write).mapM read = some as := by
  rw [mapM_eq_some_iff, List.forall₂_map_left_iff, List.forall₂_same]
  exact reads

/-- What holds of all that is read from one piece holds of all that is read. -/
theorem forall_of_mapM {α β : Type} {f : α → Option β} {P : β → Prop}
    (each : ∀ {x : α} {y : β}, f x = some y → P y) {xs : List α} {ys : List β}
    (read : xs.mapM f = some ys) : ∀ y ∈ ys, P y := by
  rw [mapM_eq_some_iff] at read
  induction read with
  | nil => exact List.forall_mem_nil _
  | cons first _ ih => exact List.forall_mem_cons.2 ⟨each first, ih⟩

theorem exists_of_mapM {α β : Type} {f : α → Option β} {xs : List α} {ys : List β}
    (read : xs.mapM f = some ys) : ∀ x ∈ xs, ∃ y, f x = some y := by
  rw [mapM_eq_some_iff] at read
  induction read with
  | nil => exact List.forall_mem_nil _
  | cons first _ ih => exact List.forall_mem_cons.2 ⟨⟨_, first⟩, ih⟩

namespace Net.SocketAddress

open Text (splitChars splitOnce)

/-- The numbers of an address have their widths, and there are as many as it takes. -/
inductive WellFormed : SocketAddress → Prop
  | v4 {octets : List Nat} {port : Nat} (count : octets.length = 4) (small : ∀ n ∈ octets, n ≤ 255)
      (portSmall : port ≤ 65535) : WellFormed (.v4 octets port)
  | v6 {groups : List Nat} {scope port : Nat} (count : groups.length = 8)
      (small : ∀ n ∈ groups, n < 65536) (scopeSmall : scope ≤ 0xFFFFFFFF) (portSmall : port ≤ 65535) :
      WellFormed (.v6 groups scope port)

theorem wellFormed_loopback : loopback.WellFormed := .v4 rfl (by decide) (by decide)

/-! ## Digits -/

def digitValue (c : Char) : Nat := if c.isDigit then c.toNat - 48 else c.toLower.toNat - 87

theorem valueOf_eq (base : Nat) (cs : List Char) :
    valueOf base cs = cs.foldl (fun n c => n * base + digitValue c) 0 := rfl

theorem digitValue_digitChar {d : Nat} (fits : d < 16) : digitValue d.digitChar = d := by
  revert d
  decide

theorem valueOf_toDigits {base : Nat} (least : 1 < base) (most : base ≤ 16) (n : Nat) :
    valueOf base (Nat.toDigits base n) = n := by
  rw [valueOf_eq]
  induction n using Nat.strongRecOn with
  | ind n ih =>
    rw [Nat.toDigits_eq_if least]
    split
    · next small =>
      rw [List.foldl_cons, List.foldl_nil, Nat.zero_mul, Nat.zero_add, digitValue_digitChar (by omega)]
    · next large =>
      have lastSmall : n % base < base := Nat.mod_lt _ (by omega)
      rw [List.foldl_append, ih (n / base) (Nat.div_lt_self (by omega) least), List.foldl_cons,
        List.foldl_nil, digitValue_digitChar (by omega)]
      exact Nat.div_add_mod' n base

theorem hexDigits_toDigits (n : Nat) : ∀ c ∈ Nat.toDigits 16 n, isHexDigit c = true := by
  have digit : ∀ d < 16, isHexDigit d.digitChar = true := by decide
  induction n using Nat.strongRecOn with
  | ind n ih =>
    rw [Nat.toDigits_eq_if (by decide)]
    split
    · next small => simpa using digit n small
    · next large =>
      intro c inDigits
      rcases List.mem_append.1 inDigits with earlier | last
      · exact ih (n / 16) (by omega) c earlier
      · rw [List.mem_singleton.1 last]
        exact digit (n % 16) (by omega)

theorem notMem_decimal {c : Char} (noDigit : c.isDigit = false) (n : Nat) : c ∉ decimal n := fun inDigits =>
  absurd (Json.digits_toDigits n c inDigits) (by simp [noDigit])

theorem notMem_hexadecimal {c : Char} (noDigit : isHexDigit c = false) (n : Nat) : c ∉ hexadecimal n :=
  fun inDigits => absurd (hexDigits_toDigits n c inDigits) (by simp [noDigit])

theorem number?_decimal {most n : Nat} (small : n ≤ most) : number? most (decimal n) = some n := by
  have isValue : valueOf 10 (decimal n) = n := valueOf_toDigits (by decide) (by decide) n
  have digits : (decimal n).all Char.isDigit = true := List.all_eq_true.2 (Json.digits_toDigits n)
  have notEmpty : (decimal n).isEmpty = false := List.isEmpty_eq_false_iff.2 Nat.toDigits_ne_nil
  rw [number?, isValue, digits, notEmpty, if_neg (by decide), if_pos small]

theorem octet?_decimal {n : Nat} (small : n ≤ 255) : octet? (decimal n) = some n := by
  have short : (decimal n).length ≤ 3 := (Nat.length_toDigits_le_iff (by decide) (by decide)).2 (by omega)
  have notPadded := Json.leadingZero_toDigits n
  simp only [Bool.and_eq_false_iff, decide_eq_false_iff_not, beq_eq_false_iff_ne] at notPadded
  rw [octet?, if_neg, number?_decimal small]
  rintro (long | ⟨long, padded⟩)
  · omega
  · exact notPadded.elim (· long) (· padded)

theorem group?_hexadecimal {n : Nat} (small : n < 65536) : group? (hexadecimal n) = some n := by
  have isValue : valueOf 16 (hexadecimal n) = n := valueOf_toDigits (by decide) (by decide) n
  have short : (hexadecimal n).length ≤ 4 := (Nat.length_toDigits_le_iff (by decide) (by decide)).2 (by omega)
  have digits : (hexadecimal n).all isHexDigit = true := List.all_eq_true.2 (hexDigits_toDigits n)
  rw [group?, isValue, if_neg]
  simp only [Bool.or_eq_true, List.isEmpty_iff, decide_eq_true_eq, digits, Bool.not_true, Bool.false_eq_true,
    or_false, not_or]
  exact ⟨Nat.toDigits_ne_nil, by omega⟩

/-! ## Numbers between separators -/

theorem joinWith_cons_cons (sep : Char) (part next : List Char) (rest : List (List Char)) :
    joinWith sep (part :: next :: rest) = part ++ sep :: joinWith sep (next :: rest) := rfl

theorem joinWith_eq_intercalate (sep : Char) (parts : List (List Char)) :
    joinWith sep parts = [sep].intercalate parts := by
  induction parts with
  | nil => rfl
  | cons part rest ih =>
    cases rest with
    | nil => simp [joinWith]
    | cons next rest => rw [joinWith_cons_cons, ih, List.intercalate_cons_cons, List.append_assoc, List.singleton_append]

theorem splitChars_joinWith {sep : Char} {parts : List (List Char)} (notEmpty : parts ≠ [])
    (free : ∀ part ∈ parts, sep ∉ part) : splitChars sep (joinWith sep parts) = parts := by
  rw [Text.splitChars_eq_splitOn, joinWith_eq_intercalate, List.splitOn_intercalate sep free notEmpty]

theorem exists_joinWith_cons (sep : Char) (part : List Char) (rest : List (List Char)) :
    ∃ behind, joinWith sep (part :: rest) = part ++ behind := by
  cases rest with
  | nil => exact ⟨[], (List.append_nil _).symm⟩
  | cons next rest => exact ⟨_, joinWith_cons_cons sep part next rest⟩

theorem notMem_joinWith {c sep : Char} (distinct : c ≠ sep) {parts : List (List Char)}
    (free : ∀ part ∈ parts, c ∉ part) : c ∉ joinWith sep parts := by
  induction parts with
  | nil => exact List.not_mem_nil
  | cons part rest ih =>
    obtain ⟨notFirst, notLater⟩ := List.forall_mem_cons.1 free
    cases rest with
    | nil => exact notFirst
    | cons next rest =>
      rw [joinWith_cons_cons, List.mem_append, List.mem_cons]
      rintro (first | same | later)
      · exact notFirst first
      · exact distinct same
      · exact ih notLater later

theorem octets?_joinWith {octets : List Nat} (count : octets.length = 4) (small : ∀ n ∈ octets, n ≤ 255) :
    octets? (joinWith '.' (octets.map decimal)) = some octets := by
  have parts : splitChars '.' (joinWith '.' (octets.map decimal)) = octets.map decimal := by
    refine splitChars_joinWith (by rintro nothing; simp [List.map_eq_nil_iff.1 nothing] at count) ?_
    exact List.forall_mem_map.2 fun n _ => notMem_decimal rfl n
  simp only [octets?, parts, List.length_map, count, if_true]
  exact mapM_map_eq_some fun n inOctets => octet?_decimal (small n inOctets)

theorem octets?_eq_none {cs : List Char} (notMem : '.' ∉ cs) : octets? cs = none := by
  have whole : splitChars '.' cs = [cs] := by
    have alone : ∀ part ∈ [cs], '.' ∉ part := by simpa using notMem
    simpa [joinWith] using splitChars_joinWith (List.cons_ne_nil _ _) alone
  simp [octets?, whole]

theorem groups?_joinWith {groups : List Nat} (small : ∀ n ∈ groups, n < 65536) :
    groups? (joinWith ':' (groups.map hexadecimal)) = some groups := by
  rcases List.eq_nil_or_concat' groups with rfl | ⟨before, last, rfl⟩
  · rfl
  have parts : splitChars ':' (joinWith ':' ((before ++ [last]).map hexadecimal)) =
      (before ++ [last]).map hexadecimal :=
    splitChars_joinWith (by simp) (List.forall_mem_map.2 fun n _ => notMem_hexadecimal rfl n)
  have lastPart : ((before ++ [last]).map hexadecimal).getLast? = some (hexadecimal last) := by simp
  have notEmpty : joinWith ':' ((before ++ [last]).map hexadecimal) ≠ [] := by
    intro nothing
    rw [← parts, nothing] at lastPart
    exact Nat.toDigits_ne_nil (Option.some.inj lastPart).symm
  unfold groups?
  rw [if_neg (by simpa using notEmpty)]
  simp only [parts, lastPart, octets?_eq_none (notMem_hexadecimal rfl last)]
  exact mapM_map_eq_some fun n inGroups => group?_hexadecimal (small n inGroups)

/-- The last two groups may be written as octets. -/
theorem groups?_octets {a b c d : Nat} (small : ∀ n ∈ [a, b, c, d], n ≤ 255) :
    groups? ("ffff:".toList ++ joinWith '.' ([a, b, c, d].map decimal)) =
      some [0xFFFF, a * 256 + b, c * 256 + d] := by
  have free : ∀ part ∈ ["ffff".toList, joinWith '.' ([a, b, c, d].map decimal)], ':' ∉ part := by
    refine List.forall_mem_cons.2 ⟨by decide, List.forall_mem_singleton.2 ?_⟩
    exact notMem_joinWith (by decide) (List.forall_mem_map.2 fun n _ => notMem_decimal rfl n)
  have parts : splitChars ':' ("ffff:".toList ++ joinWith '.' ([a, b, c, d].map decimal)) =
      ["ffff".toList, joinWith '.' ([a, b, c, d].map decimal)] :=
    splitChars_joinWith (List.cons_ne_nil _ _) free
  have front : ["ffff".toList].mapM group? = some [0xFFFF] := by decide
  unfold groups?
  rw [if_neg (by simp)]
  simp only [parts, List.getLast?_cons_cons, List.getLast?_singleton, List.dropLast_cons_cons,
    List.dropLast_singleton, octets?_joinWith rfl small, front, Option.map_some, List.cons_append,
    List.nil_append]

/-! ## Left out zeros -/

theorem splitGap_append {piece : List Char} (free : ':' ∉ piece) (rest : List Char) :
    splitGap (piece ++ rest) = (splitGap rest).map fun (before, after) => (piece ++ before, after) := by
  induction piece with
  | nil => simp
  | cons c piece ih =>
    obtain ⟨distinct, free⟩ := not_or.1 fun within => free (List.mem_cons.2 within)
    rw [List.cons_append, splitGap, ih free, Option.map_map]
    · rfl
    · exact fun _ isColon _ => distinct isColon.symm

/-- A single colon is no gap. -/
theorem splitGap_colon {c : Char} (noColon : c ≠ ':') (rest : List Char) :
    splitGap (':' :: c :: rest) =
      (splitGap (c :: rest)).map fun (before, after) => (':' :: before, after) := by
  rw [splitGap]
  rintro _ _ same
  exact noColon (List.cons.inj same).1

/-- The first gap does not lie among pieces that are not empty, but where it lies behind them. -/
theorem splitGap_joinWith {pieces : List (List Char)} (free : ∀ piece ∈ pieces, piece ≠ [] ∧ ':' ∉ piece)
    {rest : List Char} {found : Option (List Char × List Char)} (gap : splitGap rest = found) :
    splitGap (joinWith ':' pieces ++ rest) =
      found.map fun (before, after) => (joinWith ':' pieces ++ before, after) := by
  induction pieces with
  | nil => simp [joinWith, gap]
  | cons piece others ih =>
    obtain ⟨⟨-, notFirst⟩, later⟩ := List.forall_mem_cons.1 free
    cases others with
    | nil => rw [joinWith, splitGap_append notFirst, gap]
    | cons next others =>
      -- the next piece begins with something else than a colon, so no gap lies between the two
      obtain ⟨⟨notEmpty, notNext⟩, -⟩ := List.forall_mem_cons.1 later
      obtain ⟨c, cs, isNext⟩ := List.exists_cons_of_ne_nil notEmpty
      obtain ⟨behind, joined⟩ := exists_joinWith_cons ':' next others
      have noColon : c ≠ ':' := by
        rintro rfl
        exact notNext (isNext ▸ List.mem_cons_self)
      have begins : joinWith ':' (next :: others) ++ rest = c :: (cs ++ behind ++ rest) := by
        rw [joined, isNext]
        rfl
      rw [joinWith_cons_cons, List.append_assoc, List.cons_append, splitGap_append notFirst, begins,
        splitGap_colon noColon, ← begins, ih later, Option.map_map, Option.map_map]
      congr 1
      funext gap
      simp

/-- A run that is found has the length and the place that are said. -/
theorem longestZeroRun_spec (position : Nat) (groups : List Nat)
    (found : (longestZeroRun position groups).2 ≠ 0) : ∃ before after,
      groups = before ++ List.replicate (longestZeroRun position groups).2 0 ++ after ∧
        (longestZeroRun position groups).1 = position + before.length := by
  induction groups generalizing position with
  | nil => exact absurd rfl found
  | cons g rest ih =>
    rw [longestZeroRun] at found ⊢
    split at found
    · next here =>
      -- no later run is longer than the one that begins here, which may be empty
      rw [if_pos here]
      have zeros : (g :: rest).takeWhile (· == 0) = List.replicate (zeroRun (g :: rest)) 0 :=
        List.eq_replicate_iff.2 ⟨rfl, fun n inRun => by
          simpa using List.all_eq_true.1 List.all_takeWhile n inRun⟩
      refine ⟨[], (g :: rest).dropWhile (· == 0), ?_, rfl⟩
      rw [List.nil_append, ← zeros, List.takeWhile_append_dropWhile]
    · next later =>
      rw [if_neg later]
      obtain ⟨before, after, isRest, start⟩ := ih (position + 1) found
      refine ⟨g :: before, after, ?_, ?_⟩
      · rw [List.cons_append, List.cons_append, ← isRest]
      · rw [start, List.length_cons]
        omega

/-- What is left out is as long as what is missing. -/
theorem address?_gap {front back : List Nat} {length : Nat} (long : 1 < length)
    (count : front.length + length + back.length = 8)
    (small : ∀ n ∈ front ++ back, n < 65536) :
    address? (joinWith ':' (front.map hexadecimal) ++ [':', ':'] ++ joinWith ':' (back.map hexadecimal)) =
      some (front ++ List.replicate length 0 ++ back) := by
  have pieces : ∀ piece ∈ front.map hexadecimal, piece ≠ [] ∧ ':' ∉ piece :=
    List.forall_mem_map.2 fun n _ => ⟨Nat.toDigits_ne_nil, notMem_hexadecimal rfl n⟩
  have gap : splitGap (':' :: ':' :: joinWith ':' (back.map hexadecimal)) =
      some ([], joinWith ':' (back.map hexadecimal)) := rfl
  have noDot : (joinWith ':' (front.map hexadecimal)).contains '.' = false := by
    have free : '.' ∉ joinWith ':' (front.map hexadecimal) :=
      notMem_joinWith (by decide) (List.forall_mem_map.2 fun n _ => notMem_hexadecimal rfl n)
    simpa using free
  obtain ⟨frontSmall, backSmall⟩ := List.forall_mem_append.1 small
  rw [address?, List.append_assoc, List.cons_append, List.singleton_append, splitGap_joinWith pieces gap]
  simp only [Option.map_some, List.append_nil, noDot, groups?_joinWith frontSmall,
    groups?_joinWith backSmall]
  rw [if_pos (by omega), show 8 - front.length - back.length = length by omega]

theorem address?_full {groups : List Nat} (count : groups.length = 8) (small : ∀ n ∈ groups, n < 65536) :
    address? (joinWith ':' (groups.map hexadecimal)) = some groups := by
  have pieces : ∀ piece ∈ groups.map hexadecimal, piece ≠ [] ∧ ':' ∉ piece :=
    List.forall_mem_map.2 fun n _ => ⟨Nat.toDigits_ne_nil, notMem_hexadecimal rfl n⟩
  have noGap : splitGap (joinWith ':' (groups.map hexadecimal)) = none := by
    have nothing : splitGap [] = none := rfl
    simpa using splitGap_joinWith pieces nothing
  rw [address?, noGap]
  simp only [groups?_joinWith small, count, if_true]

theorem address?_mapped {a b : Nat} (aSmall : a < 65536) (bSmall : b < 65536) :
    address? ("::ffff:".toList ++
      joinWith '.' ([a / 256, a % 256, b / 256, b % 256].map decimal)) =
      some [0, 0, 0, 0, 0, 0xFFFF, a, b] := by
  have small : ∀ n ∈ [a / 256, a % 256, b / 256, b % 256], n ≤ 255 := by
    simp only [List.mem_cons, List.not_mem_nil, or_false]
    rintro n (rfl | rfl | rfl | rfl) <;> omega
  have gap : splitGap ("::ffff:".toList ++
      joinWith '.' ([a / 256, a % 256, b / 256, b % 256].map decimal)) =
      some ([], "ffff:".toList ++ joinWith '.' ([a / 256, a % 256, b / 256, b % 256].map decimal)) := rfl
  rw [address?, gap]
  simp only [List.contains_nil, groups?_octets small, show groups? [] = some [] from rfl]
  rw [Nat.div_add_mod' a 256, Nat.div_add_mod' b 256]
  rfl

theorem address?_writeGroups {groups : List Nat} (count : groups.length = 8)
    (small : ∀ n ∈ groups, n < 65536) : address? (writeGroups groups) = some groups := by
  unfold writeGroups
  split
  · next a b => exact address?_mapped (small a (by simp)) (small b (by simp))
  · dsimp only
    split
    · next long =>
      -- a run of one zero is written out, so what is left out are at least two
      obtain ⟨before, after, isGroups, begins⟩ := longestZeroRun_spec 0 groups (by omega)
      generalize longestZeroRun 0 groups = run at long isGroups begins ⊢
      obtain ⟨start, length⟩ := run
      rw [Nat.zero_add] at begins
      subst isGroups begins
      have front : (before ++ List.replicate length 0 ++ after).take before.length = before := by simp
      have back : (before ++ List.replicate length 0 ++ after).drop (before.length + length) = after := by
        simp
      rw [front, back]
      refine address?_gap long (by simpa [Nat.add_assoc] using count) fun n within => small n ?_
      simp only [List.mem_append] at within ⊢
      exact within.elim (fun early => .inl (.inl early)) .inr
    · exact address?_full count small

/-- No character occurs in groups that is no digit, no colon and no dot. -/
theorem notMem_writeGroups {c : Char} (noDigit : isHexDigit c = false) (noColon : c ≠ ':') (noDot : c ≠ '.')
    (groups : List Nat) : c ∉ writeGroups groups := by
  have joined (ns : List Nat) : c ∉ joinWith ':' (ns.map hexadecimal) :=
    notMem_joinWith noColon (List.forall_mem_map.2 fun n _ => notMem_hexadecimal noDigit n)
  have noDecimal : c.isDigit = false := (Bool.or_eq_false_iff.1 noDigit).1
  unfold writeGroups
  split
  · next a b =>
    have octets : c ∉ joinWith '.' ([a / 256, a % 256, b / 256, b % 256].map decimal) :=
      notMem_joinWith noDot (List.forall_mem_map.2 fun n _ => notMem_decimal noDecimal n)
    have front : c ∉ "::ffff:".toList := by
      have isDigit : isHexDigit 'f' = true := by decide
      simp only [String.reduceToList, List.mem_cons, List.not_mem_nil, or_false, noColon, false_or, not_or]
      refine ⟨?_, ?_, ?_, ?_⟩ <;> (rintro rfl; simp [isDigit] at noDigit)
    exact fun within => (List.mem_append.1 within).elim front octets
  · dsimp only
    split
    · simp only [List.mem_append, List.mem_cons, List.not_mem_nil, or_false, noColon, or_self, not_or]
      exact ⟨joined _, joined _⟩
    · exact joined groups

/-! ## Addresses -/

theorem read?_write_v4 {octets : List Nat} {port : Nat} (count : octets.length = 4)
    (small : ∀ n ∈ octets, n ≤ 255) (portSmall : port ≤ 65535) :
    read? (write (.v4 octets port)) = some (.v4 octets port) := by
  have free (c : Char) (noDigit : c.isDigit = false) (noDot : c ≠ '.') :
      c ∉ joinWith '.' (octets.map decimal) :=
    notMem_joinWith noDot (List.forall_mem_map.2 fun n _ => notMem_decimal noDigit n)
  have cut := Text.splitOnce_append (free ':' rfl (by decide)) (decimal port)
  rw [read?, write, String.toList_ofList]
  split
  · next rest isBracket =>
    have bracket : '[' ∈ joinWith '.' (octets.map decimal) ++ ':' :: decimal port :=
      isBracket ▸ List.mem_cons_self
    simp [free '[' rfl (by decide), notMem_decimal (c := '[') rfl port] at bracket
  · simp only [cut, octets?_joinWith count small, number?_decimal portSmall]

/-- What stands between the brackets. -/
def writeInner (groups : List Nat) (scope : Nat) : List Char :=
  writeGroups groups ++ if scope = 0 then [] else '%' :: decimal scope

theorem toList_write_v6 (groups : List Nat) (scope port : Nat) :
    (write (.v6 groups scope port)).toList =
      '[' :: (writeInner groups scope ++ ']' :: ':' :: decimal port) := by
  simp [write, writeInner]

theorem notMem_writeInner (groups : List Nat) (scope : Nat) : ']' ∉ writeInner groups scope := by
  have notGroups := notMem_writeGroups (c := ']') (by decide) (by decide) (by decide) groups
  have notScope : ']' ∉ decimal scope := notMem_decimal rfl scope
  rw [writeInner, List.mem_append]
  split <;> simp [notGroups, notScope]

theorem read?_write_v6 {groups : List Nat} {scope port : Nat} (count : groups.length = 8)
    (small : ∀ n ∈ groups, n < 65536) (scopeSmall : scope ≤ 0xFFFFFFFF) (portSmall : port ≤ 65535) :
    read? (write (.v6 groups scope port)) = some (.v6 groups scope port) := by
  have cut := Text.splitOnce_append (notMem_writeInner groups scope) (':' :: decimal port)
  have noZone := notMem_writeGroups (c := '%') (by decide) (by decide) (by decide) groups
  rw [read?, toList_write_v6]
  simp only [cut, number?_decimal portSmall]
  by_cases unscoped : scope = 0
  · simp only [writeInner, unscoped, if_true, List.append_nil, Text.splitOnce_eq_none noZone,
      address?_writeGroups count small]
  · simp only [writeInner, unscoped, if_false, Text.splitOnce_append noZone,
      address?_writeGroups count small, number?_decimal scopeSmall]

/-- An address is read back from its text. -/
theorem read?_write {address : SocketAddress} (wellFormed : address.WellFormed) :
    read? address.write = some address := by
  cases wellFormed with
  | v4 count small portSmall => exact read?_write_v4 count small portSmall
  | v6 count small scopeSmall portSmall => exact read?_write_v6 count small scopeSmall portSmall

/-! ## What is read -/

theorem le_of_number? {most n : Nat} {cs : List Char} (read : number? most cs = some n) : n ≤ most := by
  rw [number?, Option.ite_none_left_eq_some, Option.ite_none_right_eq_some] at read
  obtain ⟨-, small, isValue⟩ := read
  exact Option.some.inj isValue ▸ small

theorem octet?_le {cs : List Char} {n : Nat} (read : octet? cs = some n) : n ≤ 255 := by
  rw [octet?, Option.ite_none_left_eq_some] at read
  exact le_of_number? read.2

theorem octets?_spec {cs : List Char} {octets : List Nat} (read : octets? cs = some octets) :
    octets.length = 4 ∧ ∀ n ∈ octets, n ≤ 255 := by
  rw [octets?, Option.ite_none_right_eq_some] at read
  obtain ⟨count, each⟩ := read
  exact ⟨(mapM_eq_some_iff.1 each).length_eq ▸ count, forall_of_mapM octet?_le each⟩

theorem digitValue_lt {c : Char} (isHex : isHexDigit c = true) : digitValue c < 16 := by
  unfold digitValue
  split
  · next isDigit =>
    have bounds := Json.range_of_isDigit isDigit
    omega
  · next noDigit =>
    simp only [isHexDigit, noDigit, Bool.false_or, Bool.and_eq_true, decide_eq_true_eq] at isHex
    have most : c.toLower.toNat ≤ 102 := UInt32.le_iff_toNat_le.1 isHex.2
    omega

theorem valueOf_lt {cs : List Char} (digits : ∀ c ∈ cs, isHexDigit c = true) :
    valueOf 16 cs < 16 ^ cs.length := by
  induction cs using List.reverseRecOn with
  | nil => exact Nat.one_pos
  | append_singleton cs c ih =>
    obtain ⟨early, last⟩ := List.forall_mem_append.1 digits
    have bound := ih early
    have lastBound := digitValue_lt (last c List.mem_cons_self)
    rw [valueOf_eq] at bound ⊢
    rw [List.foldl_append, List.foldl_cons, List.foldl_nil, List.length_append, List.length_singleton,
      Nat.pow_succ]
    omega

theorem group?_lt {cs : List Char} {n : Nat} (read : group? cs = some n) : n < 65536 := by
  rw [group?, Option.ite_none_left_eq_some] at read
  obtain ⟨isGroup, isValue⟩ := read
  simp only [Bool.or_eq_true, decide_eq_true_eq, Bool.not_eq_true', not_or, Bool.not_eq_false,
    List.all_eq_true] at isGroup
  obtain ⟨⟨-, short⟩, digits⟩ := isGroup
  calc n = valueOf 16 cs := (Option.some.inj isValue).symm
    _ < 16 ^ cs.length := valueOf_lt digits
    _ ≤ 16 ^ 4 := Nat.pow_le_pow_right (by decide) (by omega)

theorem groups?_lt {cs : List Char} {groups : List Nat} (read : groups? cs = some groups) :
    ∀ n ∈ groups, n < 65536 := by
  unfold groups? at read
  split at read
  · cases read
    exact List.forall_mem_nil _
  dsimp only at read
  split at read
  · cases read
    exact List.forall_mem_nil _
  split at read
  · next a b c d octets =>
    obtain ⟨front, isFront, rfl⟩ := Option.map_eq_some_iff.1 read
    have small : ∀ n ∈ [a, b, c, d], n ≤ 255 := (octets?_spec octets).2
    simp only [List.forall_mem_cons] at small
    -- two octets make up one group
    refine List.forall_mem_append.2 ⟨forall_of_mapM group?_lt isFront, ?_⟩
    simp only [List.forall_mem_cons, List.not_mem_nil, false_implies, implies_true, and_true]
    omega
  · exact forall_of_mapM group?_lt read

theorem address?_spec {cs : List Char} {groups : List Nat} (read : address? cs = some groups) :
    groups.length = 8 ∧ ∀ n ∈ groups, n < 65536 := by
  unfold address? at read
  split at read
  · split at read
    · next before after _ front back _ isFront isBack =>
      rw [Option.ite_none_right_eq_some] at read
      obtain ⟨fits, same⟩ := read
      cases same
      refine ⟨by simp; omega, List.forall_mem_append.2 ⟨List.forall_mem_append.2
        ⟨groups?_lt isFront, fun n zero => ?_⟩, groups?_lt isBack⟩⟩
      rw [List.eq_of_mem_replicate zero]
      decide
    · cases read
  · split at read
    · next isGroups =>
      rw [Option.ite_none_right_eq_some] at read
      obtain ⟨count, same⟩ := read
      cases same
      exact ⟨count, groups?_lt isGroups⟩
    · cases read

/-- Whatever is read as an address is one. -/
theorem wellFormed_of_read? {text : String} {address : SocketAddress} (read : read? text = some address) :
    address.WellFormed := by
  unfold read? at read
  split at read
  · split at read
    · dsimp only at read
      split at read
      · next groups scope port isAddress isScope isPort =>
        cases read
        obtain ⟨count, small⟩ := address?_spec isAddress
        refine .v6 count small ?_ (le_of_number? isPort)
        -- without a zone the scope is zero
        split at isScope
        · exact le_of_number? isScope
        · cases isScope
          exact Nat.zero_le _
      · cases read
    · cases read
  · split at read
    · split at read
      · next octets port isOctets isPort =>
        cases read
        obtain ⟨count, small⟩ := octets?_spec isOctets
        exact .v4 count small (le_of_number? isPort)
      · cases read
    · cases read

end Net.SocketAddress

end StubServer
