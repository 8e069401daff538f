import StubServer.Proofs.Route.Priority

/-! # What a route tree holds

The view of a tree that proofs use: the node at a sequence of keys, and the endpoints there for a
method.  Registering an endpoint makes the nodes on its way and changes one list, the one at its own
keys and method (`endpointsAt_register`).  So the tree of a list of endpoints holds at each place the
listed endpoints of that place, in priority order and no others (`endpointsAt_ofList`), and its nodes
are the beginnings of their keys (`nodeAt?_ofList`).
-/

namespace StubServer.Route

namespace Tree

/-- The node that the keys lead to. -/
def nodeAt? : Tree → List String → Option Tree
  | t, [] => some t
  | t, key :: keys =>
    match t.child? key with
    | some child => child.nodeAt? keys
    | none => none

/-- The endpoints for a method at the node that the keys lead to. -/
def endpointsAt (t : Tree) (keys : List String) (method : String) : List Endpoint :=
  match t.nodeAt? keys with
  | some place => place.endpointsFor method
  | none => []

@[simp] theorem nodeAt?_nil (t : Tree) : t.nodeAt? [] = some t := rfl

@[simp] theorem endpointsAt_nil (t : Tree) (method : String) :
    t.endpointsAt [] method = t.endpointsFor method := rfl

theorem nodeAt?_of_child? {t child : Tree} {key : String} (found : t.child? key = some child)
    (keys : List String) : t.nodeAt? (key :: keys) = child.nodeAt? keys := by
  simp only [nodeAt?, found]

theorem endpointsAt_of_child? {t child : Tree} {key : String} (found : t.child? key = some child)
    (keys : List String) (method : String) :
    t.endpointsAt (key :: keys) method = child.endpointsAt keys method := by
  simp only [endpointsAt, nodeAt?_of_child? found]

theorem nodeAt?_of_no_child? {t : Tree} {key : String} (missing : t.child? key = none)
    (keys : List String) : t.nodeAt? (key :: keys) = none := by
  simp only [nodeAt?, missing]

theorem endpointsAt_of_no_child? {t : Tree} {key : String} (missing : t.child? key = none)
    (keys : List String) (method : String) : t.endpointsAt (key :: keys) method = [] := by
  simp only [endpointsAt, nodeAt?_of_no_child? missing]

theorem nodeAt?_append {t place : Tree} {keys : List String} (found : t.nodeAt? keys = some place)
    (more : List String) : t.nodeAt? (keys ++ more) = place.nodeAt? more := by
  induction keys generalizing t with
  | nil => cases found; rfl
  | cons key keys ih =>
    simp only [nodeAt?] at found
    split at found
    · next child isChild =>
      rw [List.cons_append, nodeAt?_of_child? isChild]
      exact ih found
    · cases found

theorem endpointsAt_of_nodeAt? {t place : Tree} {keys : List String}
    (found : t.nodeAt? keys = some place) (method : String) :
    t.endpointsAt keys method = place.endpointsFor method := by
  simp only [endpointsAt, found]

theorem nodeAt?_empty (key : String) (keys : List String) : empty.nodeAt? (key :: keys) = none := rfl

theorem endpointsAt_empty (keys : List String) (method : String) :
    empty.endpointsAt keys method = [] := by
  cases keys <;> rfl

/-! ## The parts of a registration -/

theorem child?_bind (t : Tree) (s : Segment) (key : String) : (t.bind s).child? key = t.child? key := by
  cases t
  cases s <;> rfl

theorem endpointsFor_bind (t : Tree) (s : Segment) (method : String) :
    (t.bind s).endpointsFor method = t.endpointsFor method := by
  cases t
  cases s <;> rfl

theorem child?_setChild (t : Tree) (key other : String) (child : Tree) :
    (t.setChild key child).child? other = if key = other then some child else t.child? other := by
  cases t with
  | node children _ _ => exact Table.get?_insert children key other child

theorem endpointsFor_setChild (t : Tree) (key method : String) (child : Tree) :
    (t.setChild key child).endpointsFor method = t.endpointsFor method := by
  cases t
  rfl

theorem child?_addEndpoint (t : Tree) (e : Endpoint) (key : String) :
    (t.addEndpoint e).child? key = t.child? key := by
  cases t
  rfl

theorem endpointsFor_addEndpoint (t : Tree) (e : Endpoint) (method : String) :
    (t.addEndpoint e).endpointsFor method =
      if e.method = method then insertByPriority e (t.endpointsFor method)
      else t.endpointsFor method := by
  cases t with
  | node children names endpoints =>
    simp only [addEndpoint, endpointsFor, Tree.endpoints, Table.update, Table.get?_insert]
    split
    · next same => subst same; rfl
    · rfl

/-! ## One registration -/

theorem child?_register (e : Endpoint) (s : Segment) (rest : List Segment) (t : Tree) (key : String) :
    (register e (s :: rest) t).child? key =
      if s.key = key then some (register e rest (((t.child? s.key).getD empty).bind s))
      else t.child? key :=
  child?_setChild t s.key key _

/-- The child that a registration goes on in holds what was below the key before. -/
theorem endpointsAt_child (t : Tree) (s : Segment) (keys : List String) (method : String) :
    (((t.child? s.key).getD empty).bind s).endpointsAt keys method =
      t.endpointsAt (s.key :: keys) method := by
  cases found : t.child? s.key with
  | none =>
    rw [endpointsAt_of_no_child? found, Option.getD_none]
    cases keys with
    | nil => rw [endpointsAt_nil, endpointsFor_bind]; rfl
    | cons key keys =>
      exact endpointsAt_of_no_child? (by rw [child?_bind]; rfl) keys method
  | some child =>
    rw [endpointsAt_of_child? found, Option.getD_some]
    cases keys with
    | nil => rw [endpointsAt_nil, endpointsFor_bind, endpointsAt_nil]
    | cons key keys => simp only [endpointsAt, nodeAt?, child?_bind]

/-- That child is there already or is made now. -/
theorem nodeAt?_child (t : Tree) (s : Segment) (keys : List String) :
    ((((t.child? s.key).getD empty).bind s).nodeAt? keys).isSome ↔
      (t.nodeAt? (s.key :: keys)).isSome ∨ keys = [] := by
  cases keys with
  | nil => simp
  | cons key keys =>
    cases found : t.child? s.key with
    | none =>
      have missing : (empty.bind s).child? key = none := by rw [child?_bind]; rfl
      simp [nodeAt?_of_no_child? found, nodeAt?_of_no_child? missing]
    | some child => simp [nodeAt?, child?_bind, found]

/-- A registration changes the list at its own place and no other. -/
theorem endpointsAt_register (e : Endpoint) (segments : List Segment) (t : Tree)
    (keys : List String) (method : String) :
    (register e segments t).endpointsAt keys method =
      if keys = segments.map Segment.key ∧ e.method = method then
        insertByPriority e (t.endpointsAt keys method)
      else t.endpointsAt keys method := by
  induction segments generalizing t keys with
  | nil =>
    cases keys with
    | nil => simp [register, endpointsFor_addEndpoint]
    | cons key keys => simp [register, endpointsAt, nodeAt?, child?_addEndpoint]
  | cons s rest ih =>
    cases keys with
    | nil => simp [register, endpointsFor_setChild]
    | cons key keys =>
      have below := child?_register e s rest t key
      by_cases onWay : s.key = key
      · subst onWay
        rw [if_pos rfl] at below
        rw [endpointsAt_of_child? below, ih, endpointsAt_child]
        simp
      · -- the keys leave the way at once, into a branch that stays as it is
        rw [if_neg onWay] at below
        have apart : key :: keys ≠ (s :: rest).map Segment.key := fun equal =>
          onWay (List.cons.inj equal).1.symm
        simp only [endpointsAt, nodeAt?, below, apart, false_and, if_false]

/-- A registration makes the nodes on its way and no others. -/
theorem nodeAt?_register (e : Endpoint) (segments : List Segment) (t : Tree) (keys : List String) :
    ((register e segments t).nodeAt? keys).isSome ↔
      (t.nodeAt? keys).isSome ∨ keys <+: segments.map Segment.key := by
  induction segments generalizing t keys with
  | nil =>
    cases keys with
    | nil => simp
    | cons key keys => simp [register, nodeAt?, child?_addEndpoint]
  | cons s rest ih =>
    cases keys with
    | nil => simp
    | cons key keys =>
      have below := child?_register e s rest t key
      by_cases onWay : s.key = key
      · subst onWay
        rw [if_pos rfl] at below
        rw [nodeAt?_of_child? below, ih, nodeAt?_child, List.map_cons, List.cons_prefix_cons,
          or_assoc]
        refine or_congr_right ⟨fun cases => ⟨rfl, ?_⟩, fun isPrefix => .inr isPrefix.2⟩
        rcases cases with rfl | isPrefix
        · exact List.nil_prefix
        · exact isPrefix
      · rw [if_neg onWay] at below
        have apart : ¬ key :: keys <+: (s :: rest).map Segment.key := fun isPrefix =>
          onWay (List.cons_prefix_cons.1 isPrefix).1.symm
        simp only [nodeAt?, below, apart, or_false]

/-! ## A whole load -/

theorem endpointsAt_foldl_add (es : List Endpoint) (t : Tree) (keys : List String)
    (method : String) :
    (es.foldl add t).endpointsAt keys method =
      (es.filter fun e => e.keys = keys ∧ e.method = method).foldl
        (fun ordered e => insertByPriority e ordered) (t.endpointsAt keys method) := by
  induction es generalizing t with
  | nil => rfl
  | cons e rest ih =>
    have place : (t.add e).endpointsAt keys method = if keys = e.keys ∧ e.method = method then
        insertByPriority e (t.endpointsAt keys method) else t.endpointsAt keys method :=
      endpointsAt_register e e.request.pattern.segments t keys method
    rw [List.foldl_cons, ih, place]
    by_cases here : e.keys = keys ∧ e.method = method
    · rw [List.filter_cons_of_pos (by simpa using here), List.foldl_cons,
        if_pos ⟨here.1.symm, here.2⟩]
    · rw [List.filter_cons_of_neg (by simpa using here), if_neg fun other =>
        here ⟨other.1.symm, other.2⟩]

theorem nodeAt?_foldl_add (es : List Endpoint) (t : Tree) (keys : List String) :
    ((es.foldl add t).nodeAt? keys).isSome ↔
      (t.nodeAt? keys).isSome ∨ ∃ e ∈ es, keys <+: e.keys := by
  induction es generalizing t with
  | nil => simp
  | cons e rest ih =>
    have place : ((t.add e).nodeAt? keys).isSome ↔ (t.nodeAt? keys).isSome ∨ keys <+: e.keys :=
      nodeAt?_register e e.request.pattern.segments t keys
    simp only [List.foldl_cons, ih, place, List.mem_cons, exists_eq_or_imp, or_assoc]

end Tree

/-- The listed endpoints with these keys and this method, highest priority first and those of equal
priority in the order of the list. -/
def candidates (es : List Endpoint) (keys : List String) (method : String) : List Endpoint :=
  highestFirst (es.filter fun e => e.keys = keys ∧ e.method = method)

theorem mem_candidates {es : List Endpoint} {keys : List String} {method : String} {e : Endpoint} :
    e ∈ candidates es keys method ↔ e ∈ es ∧ e.keys = keys ∧ e.method = method := by
  rw [candidates, (highestFirst_inPriorityOrder _).mem_iff]
  simp

namespace Tree

/-- The tree of a list holds at each place the candidates of that place. -/
theorem endpointsAt_ofList (es : List Endpoint) (keys : List String) (method : String) :
    (ofList es).endpointsAt keys method = candidates es keys method := by
  rw [ofList, endpointsAt_foldl_add, endpointsAt_empty, foldl_insertByPriority, candidates]

/-- The nodes of the tree of a list are its root and those on the way to some endpoint. -/
theorem nodeAt?_ofList (es : List Endpoint) (keys : List String) :
    ((ofList es).nodeAt? keys).isSome ↔ keys = [] ∨ ∃ e ∈ es, keys <+: e.keys := by
  rw [ofList, nodeAt?_foldl_add]
  cases keys with
  | nil => simp
  | cons key keys => simp [nodeAt?_empty]

end Tree

end StubServer.Route
