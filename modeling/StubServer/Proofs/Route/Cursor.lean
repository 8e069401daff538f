import Mathlib.Data.Nat.PSub
import StubServer.Proofs.Route.Selection
import StubServer.Proofs.Route.Trail

/-! # A walk by index

A walk can also keep the whole path and an index into it.  `Cursor.turn?` is one turn of such a loop, with
every access to the path checked: the segment at hand, each slice, and the last index of the path.
`Tree.after?` takes turn after turn, and comes to nothing as soon as one of them reaches outside of the path.
A turn is a move of the walk (`turn?_of_move?`), so it goes down a level of the tree, and that is why the loop
ends (`walk_in_turns`).  The index is no measure for it: a turn that enters `**` may leave it where it is
(`resume?_spec`).
-/

namespace StubServer.Route

/-- The segments from one index up to another, if these lie in order within the path. -/
def slice? (path : List String) (first last : Nat) : Option (List String) :=
  if first ≤ last ∧ last ≤ path.length then some (path.extract first last) else none

/-- Where a walk stands: the index is that of the next segment. -/
structure Cursor where
  node : Tree
  index : Nat
  matched : List String
  params : Captures

/-- What a walk has come to. -/
inductive Progress where
  /-- There are segments left. -/
  | going (c : Cursor)
  /-- The path is at its end. -/
  | arrived (c : Cursor)
  /-- There are segments left, and no branch leads on. -/
  | lost (matched : List String)

/-- The index at which a walk that enters `**` at index `i` goes on: that of the first segment with a literal
branch below, else the last one if `*` follows, else the end of the path. -/
def Tree.resume? (multi : Tree) (path : List String) (i : Nat) : Option Nat := do
  let left ← slice? path i path.length
  match left.findIdx? fun s => (multi.literalChild? s).isSome with
  | some offset => return i + offset
  -- an empty path has no last index
  | none => if multi.wildcardChild?.isSome then path.length.ppred else return path.length

namespace Cursor

def start (t : Tree) : Cursor := ⟨t, 0, [], []⟩

/-- The condition of the loop. -/
def check (path : List String) (c : Cursor) : Progress :=
  if c.index < path.length then .going c else .arrived c

/-- One turn of the loop. -/
def turn? (path : List String) (c : Cursor) : Option Progress := do
  let s ← path[c.index]?
  match c.node.literalChild? s with
  | some child => return check path ⟨child, c.index + 1, c.matched ++ [s], c.params⟩
  | none =>
    match c.node.wildcardChild? with
    | some child =>
      return check path ⟨child, c.index + 1, c.matched ++ [s], c.params.bindAll child.names s⟩
    | none =>
      match c.node.multiChild? with
      | some multi =>
        let next ← multi.resume? path c.index
        let passed ← slice? path c.index next
        return check path ⟨multi, next, c.matched ++ passed, c.params⟩
      | none => return .lost c.matched

end Cursor

/-- What has ended stays as it is. -/
def Progress.next? (path : List String) : Progress → Option Progress
  | .going c => c.turn? path
  | ended => some ended

/-- The end of the walk for a method, if it has come to one. -/
def Progress.outcome? (method : String) : Progress → Option (Except (List String) Arrival)
  | .going _ => none
  | .arrived c => some (.ok ⟨c.node.settle method, c.params⟩)
  | .lost matched => some (.error matched)

/-- What the loop has come to after a number of turns. -/
def Tree.after? (t : Tree) (path : List String) : Nat → Option Progress
  | 0 => some ((Cursor.start t).check path)
  | n + 1 => (t.after? path n).bind (Progress.next? path)

/-! ## Where a walk goes on below `**` -/

variable {t : Tree} {path rest : List String} {s : String} {i k n : Nat} {c : Cursor} {m : Move}

theorem slice?_add (within : i + k ≤ path.length) :
    slice? path i (i + k) = some ((path.drop i).take k) := by
  have inOrder : i ≤ i + k ∧ i + k ≤ path.length := ⟨Nat.le_add_right i k, within⟩
  rw [slice?, if_pos inOrder, List.extract_eq_take_drop, Nat.add_sub_cancel_left]

theorem slice?_to_end (within : i ≤ path.length) : slice? path i path.length = some (path.drop i) := by
  rw [slice?, if_pos ⟨within, le_rfl⟩, List.extract_eq_take_drop, ← List.length_drop, List.take_length]

theorem getElem?_of_drop (left : path.drop i = s :: rest) : path[i]? = some s := by
  rw [← List.head?_drop, left, List.head?_cons]

namespace Tree

theorem taken_le (multi : Tree) (segments : List String) : multi.taken segments ≤ segments.length := by
  unfold taken
  split
  · next first =>
    obtain ⟨within, _⟩ := List.findIdx?_eq_some_iff_findIdx_eq.1 first
    exact Nat.le_of_lt within
  · split
    · exact Nat.sub_le ..
    · exact le_rfl

/-- `**` takes nothing where the first segment has a literal branch below, and where the last one is left to
a `*` below. -/
theorem taken_eq_zero_iff {multi : Tree} : multi.taken (s :: rest) = 0 ↔
    (multi.literalChild? s).isSome ∨ rest = [] ∧ multi.wildcardChild?.isSome := by
  unfold taken
  rw [List.findIdx?_cons]
  by_cases here : (multi.literalChild? s).isSome
  · simp [here]
  · simp only [here, Bool.false_eq_true, if_false, false_or]
    cases behind : rest.findIdx? fun s => (multi.literalChild? s).isSome with
    | some offset =>
      have notEnd : rest ≠ [] := by
        rintro rfl
        simp at behind
      simp [notEnd]
    | none => by_cases single : multi.wildcardChild?.isSome <;> simp [single]

theorem resume?_eq (multi : Tree) (within : i < path.length) :
    multi.resume? path i = some (i + multi.taken (path.drop i)) := by
  have lengths : i + (path.drop i).length = path.length := by
    rw [List.length_drop]
    omega
  simp only [resume?, taken, slice?_to_end (Nat.le_of_lt within), Option.bind_eq_bind, Option.bind_some]
  cases (path.drop i).findIdx? fun s => (multi.literalChild? s).isSome with
  | some offset => rfl
  | none =>
    dsimp only
    split
    · exact Nat.ppred_eq_some.2 (by omega)
    · exact congrArg some lengths.symm

/-- A walk that enters `**` goes on no earlier than where it stands and no later than at the end of the path.
It stays where it is if the next segment has a literal branch below, or if this is the last one and `*`
follows. -/
theorem resume?_spec (multi : Tree) (within : i < path.length) :
    ∃ next, multi.resume? path i = some next ∧ i ≤ next ∧ next ≤ path.length ∧
      (next = i ↔ (∃ s, path[i]? = some s ∧ (multi.literalChild? s).isSome) ∨
        i + 1 = path.length ∧ multi.wildcardChild?.isSome) := by
  have left := List.drop_eq_getElem_cons within
  have bounded := taken_le multi (path.drop i)
  rw [List.length_drop] at bounded
  refine ⟨_, resume?_eq multi within, Nat.le_add_right .., by omega, ?_⟩
  rw [Nat.add_eq_left, left, taken_eq_zero_iff, List.drop_eq_nil_iff, List.getElem?_eq_getElem within]
  have isLast : path.length ≤ i + 1 ↔ i + 1 = path.length := by omega
  simp [isLast]

end Tree

/-! ## A turn is a move -/

namespace Cursor

/-- The cursor behind a move. -/
def move (c : Cursor) (m : Move) : Cursor :=
  ⟨m.node, c.index + m.passed.length, c.matched ++ m.passed, m.capture c.params⟩

theorem turn?_of_move? (left : path.drop c.index = s :: rest) (moved : c.node.move? s rest = some m) :
    c.turn? path = some ((c.move m).check path) := by
  have here := getElem?_of_drop left
  have within : c.index < path.length := (List.getElem?_eq_some_iff.1 here).1
  simp only [turn?, here, Option.bind_eq_bind, Option.bind_some]
  rcases Tree.move?_cases moved with ⟨child, found, rfl⟩ | ⟨noLiteral, child, found, rfl⟩ |
    ⟨noLiteral, noWildcard, multi, found, rfl⟩
  · have notWildcard : s ≠ wildcardKey := (Tree.literalChild?_eq_some.1 found).1
    simp [found, move, Move.capture, notWildcard]
  · simp [noLiteral, found, move, Move.capture]
  · have bounded := Tree.taken_le multi (path.drop c.index)
    have passed : ((path.drop c.index).take (multi.taken (path.drop c.index))).length =
        multi.taken (path.drop c.index) := List.length_take_of_le bounded
    rw [List.length_drop] at bounded
    have sliced : slice? path c.index (c.index + multi.taken (path.drop c.index)) =
        some ((path.drop c.index).take (multi.taken (path.drop c.index))) := slice?_add (by omega)
    rw [← left]
    simp [noLiteral, noWildcard, found, Tree.resume?_eq multi within, sliced, move, Move.capture,
      wildcardKey_ne_multiKey.symm, passed]

theorem turn?_of_stuck (left : path.drop c.index = s :: rest) (stuck : c.node.move? s rest = none) :
    c.turn? path = some (.lost c.matched) := by
  have here := getElem?_of_drop left
  obtain ⟨noLiteral, noWildcard, noMulti⟩ := Tree.move?_eq_none.1 stuck
  simp [turn?, here, noLiteral, noWildcard, noMulti]

end Cursor

/-! ## What every turn keeps -/

theorem Tree.height_pos (t : Tree) : 0 < t.height := by
  cases t with
  | node children names endpoints => exact Nat.succ_pos _

/-- A cursor stands in the walk of the path from `t`: it has matched what lies before it, and the walk is that
from its node over what lies ahead. -/
structure Follows (t : Tree) (path : List String) (c : Cursor) : Prop where
  within : c.index ≤ path.length
  matched : c.matched = path.take c.index
  ahead (method : String) :
    c.node.walkFrom method (path.drop c.index) c.matched c.params = t.walk method path

/-- What the loop has come to after `n` turns agrees with the walk from `t`.  While it goes on, it has come down
a level with each turn. -/
inductive Sound (t : Tree) (path : List String) (n : Nat) : Progress → Prop
  | going {c : Cursor} (follows : Follows t path c) (left : c.index < path.length)
      (depth : n + c.node.height ≤ t.height) : Sound t path n (.going c)
  | arrived {c : Cursor} (follows : Follows t path c) (atEnd : c.index = path.length) :
      Sound t path n (.arrived c)
  | lost {matched : List String} (isLost : ∀ method, t.walk method path = .error matched) :
      Sound t path n (.lost matched)

theorem follows_start (t : Tree) (path : List String) : Follows t path (.start t) where
  within := Nat.zero_le _
  matched := rfl
  ahead _ := rfl

theorem Follows.move (follows : Follows t path c) (left : path.drop c.index = s :: rest)
    (moved : c.node.move? s rest = some m) : Follows t path (c.move m) := by
  have split : path.drop c.index = m.passed ++ m.rest := left.trans (Tree.move?_passed_append moved).symm
  have behind : path.drop (c.index + m.passed.length) = m.rest := by
    rw [← List.drop_drop, split, List.drop_left]
  refine { within := ?_, matched := ?_, ahead := fun method => ?_ }
  · have lengths := congrArg List.length split
    have := follows.within
    rw [List.length_drop, List.length_append] at lengths
    simp only [Cursor.move]
    omega
  · calc c.matched ++ m.passed
        = path.take c.index ++ (path.drop c.index).take m.passed.length := by
          rw [follows.matched, split, List.take_left]
      _ = path.take (c.index + m.passed.length) := List.take_add.symm
  · rw [← follows.ahead method, left, Tree.walkFrom_of_move? method moved, ← behind]
    rfl

theorem Follows.check (follows : Follows t path c) (depth : n + c.node.height ≤ t.height) :
    Sound t path n (c.check path) := by
  unfold Cursor.check
  split
  · next left => exact .going follows left depth
  · next notLeft => exact .arrived follows (Nat.le_antisymm follows.within (Nat.le_of_not_lt notLeft))

/-- A turn stays within the path and keeps to the walk. -/
theorem Sound.next {p : Progress} (sound : Sound t path n p) :
    ∃ p', p.next? path = some p' ∧ Sound t path (n + 1) p' := by
  cases sound with
  | @going c follows inPath depth =>
    have left := List.drop_eq_getElem_cons inPath
    cases isMove : c.node.move? path[c.index] (path.drop (c.index + 1)) with
    | some m =>
      have lower : (c.move m).node.height < c.node.height := Tree.child?_height (Tree.move?_child? isMove)
      exact ⟨_, Cursor.turn?_of_move? left isMove, (follows.move left isMove).check (by omega)⟩
    | none =>
      refine ⟨_, Cursor.turn?_of_stuck left isMove, .lost fun method => ?_⟩
      rw [← follows.ahead method, left, Tree.walkFrom_of_stuck method isMove]
  | arrived follows atEnd => exact ⟨_, rfl, .arrived follows atEnd⟩
  | lost isLost => exact ⟨_, rfl, .lost isLost⟩

/-- So does any number of turns. -/
theorem sound_after (t : Tree) (path : List String) (n : Nat) :
    ∃ p, t.after? path n = some p ∧ Sound t path n p := by
  induction n with
  | zero => exact ⟨_, rfl, (follows_start t path).check (Nat.le_of_eq (Nat.zero_add _))⟩
  | succ n ih =>
    obtain ⟨p, run, sound⟩ := ih
    obtain ⟨p', turned, sound'⟩ := sound.next
    exact ⟨p', by rw [Tree.after?, run]; exact turned, sound'⟩

/-- After as many turns as the tree is high the loop has ended, with the outcome of the walk: no node is left
below. -/
theorem Sound.outcome {p : Progress} (sound : Sound t path n p) (high : t.height ≤ n) (method : String) :
    p.outcome? method = some (t.walk method path) := by
  cases sound with
  | @going c follows left depth =>
    have := c.node.height_pos
    omega
  | @arrived c follows atEnd =>
    have ahead := follows.ahead method
    rw [atEnd, List.drop_length, Tree.walkFrom] at ahead
    exact congrArg some ahead
  | lost isLost => exact congrArg some (isLost method).symm

/-- For every tree and every path, the loop ends after at most as many turns as there are nodes on the longest
way down the tree, with the outcome of the walk, and no turn reaches outside of the path.  At the beginning of
each turn there is a segment at the index, what has been matched are the segments before it, the walk goes
on as that from the node over the segments from there, and the height of the node leaves room for the turns
made so far.  If the turn is to enter `**`, the index where it goes on lies between this one and the end of
the path; it may be the same. -/
theorem Tree.walk_in_turns (t : Tree) (path : List String) :
    (∃ n ≤ t.height, ∃ ending, t.after? path n = some ending ∧
      ∀ method, ending.outcome? method = some (t.walk method path)) ∧
    (∀ n, (t.after? path n).isSome) ∧
    ∀ n c, t.after? path n = some (.going c) →
      n + c.node.height ≤ t.height ∧ c.index < path.length ∧ c.matched = path.take c.index ∧
      (∀ method, c.node.walkFrom method (path.drop c.index) c.matched c.params = t.walk method path) ∧
      ∀ multi, c.node.multiChild? = some multi →
        ∃ next, multi.resume? path c.index = some next ∧ c.index ≤ next ∧ next ≤ path.length ∧
          (next = c.index ↔ (∃ s, path[c.index]? = some s ∧ (multi.literalChild? s).isSome) ∨
            c.index + 1 = path.length ∧ multi.wildcardChild?.isSome) := by
  refine ⟨?_, fun n => ?_, fun n c run => ?_⟩
  · obtain ⟨ending, run, sound⟩ := sound_after t path t.height
    exact ⟨t.height, le_rfl, ending, run, sound.outcome le_rfl⟩
  · obtain ⟨p, run, _⟩ := sound_after t path n
    exact Option.isSome_iff_exists.2 ⟨p, run⟩
  · obtain ⟨_, run', sound⟩ := sound_after t path n
    cases run.symm.trans run'
    cases sound with
    | going follows left depth =>
      exact ⟨depth, left, follows.matched, follows.ahead, fun multi _ => multi.resume?_spec left⟩

/-- The endpoint `GET /**/foo/**/{id}`. -/
def belowFoo : Endpoint :=
  .plain "below-foo" "GET" ⟨[.multi, .literal "foo", .multi, .param "id"],
    by simp [Segment.WellFormed, Segment.isBrace]⟩

/-- What is below `foo` there: a `*` below a `**`. -/
def underFoo : Tree :=
  .node [(multiKey, .node [(wildcardKey, .node [] ["id"] [("GET", [belowFoo])])] [] [])] [] []

/-- On the path `/foo/7` the third turn begins at `foo` and enters the second `**`, for which it takes no
segment: the last one is left to `{id}`.  So the fourth turn begins at the same index. -/
theorem Tree.walk_in_turns_staying :
    (Tree.ofList [belowFoo]).after? ["foo", "7"] 2 = some (.going ⟨underFoo, 1, ["foo"], []⟩) ∧
      2 + underFoo.height ≤ (Tree.ofList [belowFoo]).height ∧ ["foo"] = ["foo", "7"].take 1 ∧
      ∃ multi, underFoo.multiChild? = some multi ∧ multi.resume? ["foo", "7"] 1 = some 1 ∧
        (Tree.ofList [belowFoo]).after? ["foo", "7"] 3 = some (.going ⟨multi, 1, ["foo"], []⟩) := by
  have run : (Tree.ofList [belowFoo]).after? ["foo", "7"] 2 =
      some (.going ⟨underFoo, 1, ["foo"], []⟩) := by cbv
  obtain ⟨_, _, turns⟩ := Tree.walk_in_turns (Tree.ofList [belowFoo]) ["foo", "7"]
  obtain ⟨depth, _, matched, _, resumes⟩ := turns 2 _ run
  obtain ⟨next, isNext, _, _, stays⟩ := resumes _ rfl
  -- `7` is the last segment, and `*` follows
  have isStay : next = 1 := stays.2 (.inr ⟨rfl, rfl⟩)
  exact ⟨run, depth, matched, _, rfl, isStay ▸ isNext, by cbv⟩

end StubServer.Route
