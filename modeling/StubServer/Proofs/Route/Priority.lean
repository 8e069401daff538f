import StubServer.Route.Tree

/-! # Order by priority

A node keeps the endpoints of one method with the highest priority first, and those of equal
priority in the order in which they came.  `InPriorityOrder` says so without any sorting: the
priorities fall, and the endpoints of each single priority are those of the list in its order.
There is only one such arrangement (`InPriorityOrder.unique`), so registration one by one
(`foldl_insertByPriority`) and a stable sort give the same list.
-/

namespace StubServer.Route

/-- `ordered` holds the endpoints of `listed`, highest priority first, and of those of one priority
the earlier before the later. -/
structure InPriorityOrder (listed ordered : List Endpoint) : Prop where
  descending : ordered.Pairwise fun a b => b.priority ≤ a.priority
  stable : ∀ p : Int, (ordered.filter fun e => e.priority = p) = listed.filter fun e => e.priority = p

/-- A list in priority order. -/
def highestFirst (listed : List Endpoint) : List Endpoint :=
  listed.mergeSort fun a b => b.priority ≤ a.priority

/-! ## There is one order -/

theorem InPriorityOrder.mem_iff {listed ordered : List Endpoint} (order : InPriorityOrder listed ordered)
    (e : Endpoint) : e ∈ ordered ↔ e ∈ listed := by
  have same := congrArg (e ∈ ·) (order.stable e.priority)
  simpa using same

/-- The first endpoint of an order has the highest priority. -/
theorem priority_le_head {first : Endpoint} {rest : List Endpoint}
    (falls : (first :: rest).Pairwise fun a b => b.priority ≤ a.priority) :
    ∀ e ∈ first :: rest, e.priority ≤ first.priority := by
  intro e inList
  rcases List.mem_cons.1 inList with rfl | later
  · exact Int.le_refl _
  · exact (List.pairwise_cons.1 falls).1 e later

theorem head_priority_eq {first second : Endpoint} {firsts seconds : List Endpoint}
    (falls : (first :: firsts).Pairwise fun a b => b.priority ≤ a.priority)
    (falls' : (second :: seconds).Pairwise fun a b => b.priority ≤ a.priority)
    (same : ∀ e, e ∈ first :: firsts ↔ e ∈ second :: seconds) : first.priority = second.priority := by
  have below := priority_le_head falls second ((same second).2 (List.mem_cons_self ..))
  have above := priority_le_head falls' first ((same first).1 (List.mem_cons_self ..))
  omega

theorem InPriorityOrder.unique {listed ordered ordered' : List Endpoint}
    (order : InPriorityOrder listed ordered) (order' : InPriorityOrder listed ordered') :
    ordered = ordered' := by
  induction ordered generalizing listed ordered' with
  | nil =>
    cases ordered' with
    | nil => rfl
    | cons e rest =>
      have inList := (order'.mem_iff e).1 (List.mem_cons_self ..)
      exact absurd ((order.mem_iff e).2 inList) (List.not_mem_nil)
  | cons first firsts ih =>
    cases ordered' with
    | nil =>
      have inList := (order.mem_iff first).1 (List.mem_cons_self ..)
      exact absurd ((order'.mem_iff first).2 inList) (List.not_mem_nil)
    | cons second seconds =>
      have top : first.priority = second.priority :=
        head_priority_eq order.descending order'.descending fun e =>
          (order.mem_iff e).trans (order'.mem_iff e).symm
      -- the two heads lead the endpoints of their priority, which are the same on both sides
      have blocks := (order.stable first.priority).trans (order'.stable first.priority).symm
      simp only [List.filter_cons, top.symm, decide_true, if_true, List.cons.injEq] at blocks
      obtain ⟨rfl, -⟩ := blocks
      have tails : InPriorityOrder firsts seconds := by
        refine ⟨(List.pairwise_cons.1 order'.descending).2, fun p => ?_⟩
        have blocks := (order'.stable p).trans (order.stable p).symm
        by_cases here : first.priority = p <;> simpa [List.filter_cons, here] using blocks
      rw [ih ⟨(List.pairwise_cons.1 order.descending).2, fun _ => rfl⟩ tails]

/-! ## Registration and sorting keep it -/

theorem mem_insertByPriority (e x : Endpoint) (ordered : List Endpoint) :
    x ∈ Tree.insertByPriority e ordered ↔ x = e ∨ x ∈ ordered := by
  induction ordered with
  | nil => simp [Tree.insertByPriority]
  | cons y rest ih =>
    unfold Tree.insertByPriority
    split
    · exact List.mem_cons
    · rw [List.mem_cons, ih, List.mem_cons]
      exact or_left_comm

theorem insertByPriority_descending (e : Endpoint) {ordered : List Endpoint}
    (descending : ordered.Pairwise fun a b => b.priority ≤ a.priority) :
    (Tree.insertByPriority e ordered).Pairwise fun a b => b.priority ≤ a.priority := by
  induction ordered with
  | nil => simp [Tree.insertByPriority]
  | cons y rest ih =>
    obtain ⟨top, falls⟩ := List.pairwise_cons.1 descending
    unfold Tree.insertByPriority
    split
    · next lower =>
      refine List.pairwise_cons.2 ⟨fun x inList => ?_, descending⟩
      rcases List.mem_cons.1 inList with rfl | later
      · exact Int.le_of_lt lower
      · exact Int.le_trans (top x later) (Int.le_of_lt lower)
    · next notLower =>
      refine List.pairwise_cons.2 ⟨fun x inList => ?_, ih falls⟩
      rcases (mem_insertByPriority e x rest).1 inList with rfl | later
      · exact Int.not_lt.1 notLower
      · exact top x later

/-- The new endpoint comes behind all that have its priority. -/
theorem insertByPriority_filter (e : Endpoint) {ordered : List Endpoint}
    (descending : ordered.Pairwise fun a b => b.priority ≤ a.priority) (p : Int) :
    ((Tree.insertByPriority e ordered).filter fun x => x.priority = p) =
      (ordered ++ [e]).filter fun x => x.priority = p := by
  induction ordered with
  | nil => rfl
  | cons y rest ih =>
    obtain ⟨_, falls⟩ := List.pairwise_cons.1 descending
    unfold Tree.insertByPriority
    split
    · next lower =>
      by_cases here : e.priority = p
      · -- from here on every priority is lower than that of the new endpoint
        have noneLeft : ((y :: rest).filter fun x => x.priority = p) = [] := by
          refine List.filter_eq_nil_iff.2 fun x inList => ?_
          have belowHead := priority_le_head descending x inList
          simp only [decide_eq_true_eq]
          omega
        rw [List.filter_append, noneLeft, List.filter_cons_of_pos (by simpa using here), noneLeft]
        simp [here]
      · simp [List.filter_append, List.filter_cons, here]
    · rw [List.cons_append, List.filter_cons, List.filter_cons, ih falls]

theorem InPriorityOrder.insert {listed ordered : List Endpoint}
    (order : InPriorityOrder listed ordered) (e : Endpoint) :
    InPriorityOrder (listed ++ [e]) (Tree.insertByPriority e ordered) where
  descending := insertByPriority_descending e order.descending
  stable p := by
    rw [insertByPriority_filter e order.descending, List.filter_append, order.stable,
      List.filter_append]

theorem InPriorityOrder.insertAll {before ordered : List Endpoint}
    (order : InPriorityOrder before ordered) (listed : List Endpoint) :
    InPriorityOrder (before ++ listed)
      (listed.foldl (fun ordered e => Tree.insertByPriority e ordered) ordered) := by
  induction listed generalizing before ordered with
  | nil => simpa using order
  | cons e rest ih =>
    have := ih (order.insert e)
    rwa [List.append_assoc, List.singleton_append] at this

theorem highestFirst_inPriorityOrder (listed : List Endpoint) :
    InPriorityOrder listed (highestFirst listed) := by
  have trans : ∀ a b c : Endpoint, decide (b.priority ≤ a.priority) = true →
      decide (c.priority ≤ b.priority) = true → decide (c.priority ≤ a.priority) = true := by
    intro a b c ab bc
    simp only [decide_eq_true_eq] at ab bc ⊢
    omega
  have total : ∀ a b : Endpoint,
      (decide (b.priority ≤ a.priority) || decide (a.priority ≤ b.priority)) = true := by
    intro a b
    simp only [Bool.or_eq_true, decide_eq_true_eq]
    omega
  refine ⟨?_, fun p => ?_⟩
  · simpa [highestFirst] using List.pairwise_mergeSort trans total listed
  -- the endpoints of one priority are a sorted part of the list, which a stable sort keeps
  have level : (listed.filter fun e => e.priority = p).Pairwise
      fun a b => decide (b.priority ≤ a.priority) = true := by
    refine List.pairwise_iff_forall_sublist.2 fun {a b} inOrder => ?_
    have onA := (List.mem_filter.1 (inOrder.subset (List.mem_cons_self ..))).2
    have onB := (List.mem_filter.1 (inOrder.subset (List.mem_cons_of_mem _ (List.mem_singleton_self b)))).2
    simp only [decide_eq_true_eq] at onA onB ⊢
    omega
  have kept := (List.sublist_mergeSort trans total level List.filter_sublist).filter
    fun e => decide (e.priority = p)
  rw [List.filter_filter] at kept
  simp only [Bool.and_self] at kept
  exact (kept.eq_of_length ((List.mergeSort_perm ..).filter _).length_eq.symm).symm

/-- Endpoints that are registered one after the other stand in priority order. -/
theorem foldl_insertByPriority (listed : List Endpoint) :
    listed.foldl (fun ordered e => Tree.insertByPriority e ordered) [] = highestFirst listed := by
  have empty : InPriorityOrder [] [] := ⟨.nil, fun _ => rfl⟩
  exact (empty.insertAll listed).unique (highestFirst_inPriorityOrder listed)

end StubServer.Route
