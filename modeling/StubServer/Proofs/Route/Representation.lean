import StubServer.Proofs.Route.Contents
import StubServer.Proofs.Route.Selection
import StubServer.Proofs.Table.Order

/-! # What every node of a route tree stands for

A node holds parameter names, a table of endpoints by method, and its children.  One registration
notes at most one name at every node on its way and adds to one table, the one at its end
(`labels_register`).  So everything that the tree of a list of endpoints holds can be read off the
list (`root_represents`): where there are nodes, which endpoints each of them lists for a method and
in which order, and which names lead to it.
-/

namespace StubServer

namespace Route

/-! ## Names of parameters -/

/-- The name that is given to what the segment stands for. -/
def Segment.name? : Segment → Option String
  | .param name => some name
  | _ => none

/-- The name that a pattern gives to the segment at the end of `keys`, if it begins with them. -/
def boundName? (segments : List Segment) (keys : List String) : Option String :=
  if keys <+: segments.map Segment.key then
    (segments.take keys.length).getLast?.bind Segment.name?
  else none

section BoundNames

variable (s : Segment) (rest : List Segment) (keys : List String)

theorem boundName?_root (segments : List Segment) : boundName? segments [] = none := by
  simp [boundName?]

theorem boundName?_first : boundName? (s :: rest) [s.key] = s.name? := by
  simp [boundName?]

theorem boundName?_behind (key : String) :
    boundName? (s :: rest) (s.key :: key :: keys) = boundName? rest (key :: keys) := by
  simp only [boundName?, List.map_cons, List.cons_prefix_cons, true_and]
  cases rest with
  | nil => simp
  | cons next more => simp [List.getLast?_cons_cons]

theorem boundName?_apart {s : Segment} {key : String} (apart : s.key ≠ key) :
    boundName? (s :: rest) (key :: keys) = none := by
  refine if_neg fun isPrefix => apart ?_
  exact (List.cons_prefix_cons.1 isPrefix).1.symm

/-- The name at the end of `keys` stands in the pattern at the place of the last key. -/
theorem boundName?_eq_some_iff {segments : List Segment} {keys : List String} {k : Nat} {name : String}
    (places : keys.length = k + 1) : boundName? segments keys = some name ↔
      keys <+: segments.map Segment.key ∧ segments[k]? = some (.param name) := by
  have isLast (long : keys <+: segments.map Segment.key) :
      (segments.take keys.length).getLast? = segments[k]? := by
    have := long.length_le
    rw [List.length_map] at this
    rw [places, List.getLast?_take, if_neg (Nat.succ_ne_zero k), Nat.add_sub_cancel,
      List.getElem?_eq_getElem (by omega), Option.some_or]
  rw [boundName?, Option.ite_none_right_eq_some]
  refine and_congr_right fun long => ?_
  rw [isLast long]
  cases segments[k]? with
  | none => simp
  | some s => cases s <;> simp [Segment.name?]

end BoundNames

/-- The names with one more, unless they have it already. -/
def noteName (names : List String) : Option String → List String
  | some name => if names.contains name then names else names ++ [name]
  | none => names

/-- Names that are noted one after the other stand in the order of their first occurrence. -/
theorem eraseDups_concat (names : List String) (name : String) :
    (names ++ [name]).eraseDups = noteName names.eraseDups (some name) := by
  rw [List.eraseDups_append, noteName]
  by_cases known : name ∈ names
  · simp [known, List.removeAll, List.mem_eraseDups]
  · simp [known, List.removeAll, List.mem_eraseDups, List.eraseDups_cons]

namespace Tree

/-! ## Nodes -/

/-- The node that the keys lead to, an empty one where there is none. -/
def nodeAtD (t : Tree) (keys : List String) : Tree := (t.nodeAt? keys).getD empty

theorem nodeAtD_of_nodeAt? {t place : Tree} {keys : List String}
    (found : t.nodeAt? keys = some place) : t.nodeAtD keys = place := by
  rw [nodeAtD, found, Option.getD_some]

theorem nodeAtD_root (t : Tree) : t.nodeAtD [] = t := rfl

theorem nodeAtD_empty (keys : List String) : empty.nodeAtD keys = empty := by
  cases keys <;> rfl

theorem nodeAtD_cons (t : Tree) (key : String) (keys : List String) :
    t.nodeAtD (key :: keys) = ((t.child? key).getD empty).nodeAtD keys := by
  cases found : t.child? key with
  | none => rw [Option.getD_none, nodeAtD_empty, nodeAtD, nodeAt?_of_no_child? found, Option.getD_none]
  | some child => rw [nodeAtD, nodeAt?_of_child? found]; rfl

theorem nodeAtD_bind (t : Tree) (s : Segment) (key : String) (keys : List String) :
    (t.bind s).nodeAtD (key :: keys) = t.nodeAtD (key :: keys) := by
  rw [nodeAtD_cons, child?_bind, nodeAtD_cons]

theorem names_bind (t : Tree) (s : Segment) : (t.bind s).names = noteName t.names s.name? := by
  cases t
  cases s <;> rfl

theorem endpoints_bind (t : Tree) (s : Segment) : (t.bind s).endpoints = t.endpoints := by
  cases t
  cases s <;> rfl

theorem children_bind (t : Tree) (s : Segment) : (t.bind s).children = t.children := by
  cases t
  cases s <;> rfl

theorem names_setChild (t : Tree) (key : String) (child : Tree) :
    (t.setChild key child).names = t.names := by
  cases t
  rfl

theorem endpoints_setChild (t : Tree) (key : String) (child : Tree) :
    (t.setChild key child).endpoints = t.endpoints := by
  cases t
  rfl

theorem children_setChild (t : Tree) (key : String) (child : Tree) :
    (t.setChild key child).children = Table.insert t.children key child := by
  cases t
  rfl

theorem names_addEndpoint (t : Tree) (e : Endpoint) : (t.addEndpoint e).names = t.names := by
  cases t
  rfl

theorem endpoints_addEndpoint (t : Tree) (e : Endpoint) :
    (t.addEndpoint e).endpoints = Table.update t.endpoints e.method [] (insertByPriority e) := by
  cases t
  rfl

theorem children_addEndpoint (t : Tree) (e : Endpoint) :
    (t.addEndpoint e).children = t.children := by
  cases t
  rfl

/-! ## One registration -/

/-- What a registration does to the names and to the endpoints of each node. -/
theorem labels_register (e : Endpoint) (segments : List Segment) (t : Tree) (keys : List String) :
    ((register e segments t).nodeAtD keys).names =
        noteName (t.nodeAtD keys).names (boundName? segments keys) ∧
      ((register e segments t).nodeAtD keys).endpoints =
        if keys = segments.map Segment.key then
          Table.update (t.nodeAtD keys).endpoints e.method [] (insertByPriority e)
        else (t.nodeAtD keys).endpoints := by
  induction segments generalizing t keys with
  | nil =>
    cases keys with
    | nil => simp [register, nodeAtD_root, names_addEndpoint, endpoints_addEndpoint, boundName?,
        noteName]
    | cons key keys => simp [register, nodeAtD_cons, child?_addEndpoint, boundName?, noteName]
  | cons s rest ih =>
    cases keys with
    | nil =>
      rw [boundName?_root]
      simp [register, nodeAtD_root, names_setChild, endpoints_setChild, noteName]
    | cons key keys =>
      have below := child?_register e s rest t key
      by_cases onWay : s.key = key
      · subst onWay
        rw [if_pos rfl] at below
        obtain ⟨names, endpoints⟩ := ih (((t.child? s.key).getD empty).bind s) keys
        rw [nodeAtD_cons, below, Option.getD_some, names, endpoints, nodeAtD_cons t]
        -- the name of `s` is noted at its own node, which is the first on the way
        cases keys with
        | nil =>
          rw [boundName?_root, boundName?_first, nodeAtD_root, nodeAtD_root, names_bind,
            endpoints_bind]
          simp [noteName]
        | cons key' keys =>
          rw [boundName?_behind, nodeAtD_bind]
          simp
      · rw [if_neg onWay] at below
        rw [nodeAtD_cons, below, boundName?_apart _ _ onWay, nodeAtD_cons t]
        simp [noteName, Ne.symm onWay]

theorem children_register {t : Tree} (ascending : ∀ keys, (t.nodeAtD keys).children.Ascending)
    (e : Endpoint) (segments : List Segment) (keys : List String) :
    ((register e segments t).nodeAtD keys).children.Ascending := by
  induction segments generalizing t keys with
  | nil =>
    cases keys with
    | nil =>
      rw [register, nodeAtD_root, children_addEndpoint]
      exact ascending []
    | cons key keys =>
      rw [register, nodeAtD_cons, child?_addEndpoint, ← nodeAtD_cons]
      exact ascending (key :: keys)
  | cons s rest ih =>
    cases keys with
    | nil =>
      rw [register, nodeAtD_root, children_setChild]
      exact (ascending []).insert _ _
    | cons key keys =>
      rw [nodeAtD_cons, child?_register]
      by_cases onWay : s.key = key
      · rw [if_pos onWay, Option.getD_some]
        refine ih (fun others => ?_) keys
        cases others with
        | nil =>
          rw [nodeAtD_root, children_bind, ← nodeAtD_root ((t.child? s.key).getD empty),
            ← nodeAtD_cons]
          exact ascending [s.key]
        | cons key' others =>
          rw [nodeAtD_bind, ← nodeAtD_cons]
          exact ascending (s.key :: key' :: others)
      · rw [if_neg onWay, ← nodeAtD_cons]
        exact ascending (key :: keys)

/-! ## A whole load -/

theorem ofList_concat (es : List Endpoint) (e : Endpoint) :
    ofList (es ++ [e]) = register e e.request.pattern.segments (ofList es) := by
  rw [ofList, List.foldl_append]
  rfl

section Load

variable (es : List Endpoint) (keys : List String)

/-- The names at a node are those that endpoints give it, each where it comes first. -/
theorem names_ofList :
    ((ofList es).nodeAtD keys).names =
      (es.filterMap fun e => boundName? e.request.pattern.segments keys).eraseDups := by
  induction es using List.reverseRecOn with
  | nil => rw [ofList, List.foldl_nil, nodeAtD_empty]; rfl
  | append_singleton before e ih =>
    rw [ofList_concat, (labels_register ..).1, ih, List.filterMap_append]
    cases named : boundName? e.request.pattern.segments keys with
    | none => simp [named, noteName]
    | some name =>
      rw [← eraseDups_concat]
      simp [named]

theorem mem_names_ofList {name : String} : name ∈ ((ofList es).nodeAtD keys).names ↔
    ∃ e ∈ es, boundName? e.request.pattern.segments keys = some name := by
  rw [names_ofList, List.mem_eraseDups, List.mem_filterMap]

/-- The table of a node has one row for each method, and no row without endpoints. -/
theorem endpoints_ofList :
    ((ofList es).nodeAtD keys).endpoints.Ascending ∧
      ∀ method, Table.get? ((ofList es).nodeAtD keys).endpoints method ≠ some [] := by
  induction es using List.reverseRecOn with
  | nil =>
    rw [ofList, List.foldl_nil, nodeAtD_empty]
    exact ⟨Table.ascending_nil, fun method => by simp [empty, Tree.endpoints, Table.get?]⟩
  | append_singleton before e ih =>
    obtain ⟨ascending, noneEmpty⟩ := ih
    rw [ofList_concat, (labels_register ..).2]
    split
    · refine ⟨ascending.update .., fun method => ?_⟩
      rw [Table.update, Table.get?_insert]
      split
      · intro emptied
        have inList := (mem_insertByPriority e e
          ((Table.get? ((ofList before).nodeAtD keys).endpoints e.method).getD [])).2 (.inl rfl)
        rw [Option.some.inj emptied] at inList
        exact absurd inList List.not_mem_nil
      · exact noneEmpty method
    · exact ⟨ascending, noneEmpty⟩

theorem children_ofList : ((ofList es).nodeAtD keys).children.Ascending := by
  induction es using List.reverseRecOn generalizing keys with
  | nil =>
    rw [ofList, List.foldl_nil, nodeAtD_empty]
    exact Table.ascending_nil
  | append_singleton before e ih =>
    rw [ofList_concat]
    exact children_register ih e _ keys

end Load

/-- A node of the tree of a list has a row for a method exactly if there are candidates. -/
theorem get?_endpoints_eq_some {es : List Endpoint} {keys : List String} {place : Tree}
    (found : (ofList es).nodeAt? keys = some place) {method : String} {listed : List Endpoint} :
    Table.get? place.endpoints method = some listed ↔
      listed ≠ [] ∧ listed = candidates es keys method := by
  have noneEmpty := (endpoints_ofList es keys).2 method
  rw [nodeAtD_of_nodeAt? found] at noneEmpty
  have held := endpointsAt_ofList es keys method
  rw [endpointsAt_of_nodeAt? found, endpointsFor] at held
  constructor
  · intro isRow
    rw [isRow] at noneEmpty held
    exact ⟨fun isNil => noneEmpty (congrArg some isNil), held⟩
  · rintro ⟨notNil, rfl⟩
    cases isRow : Table.get? place.endpoints method with
    | none =>
      rw [isRow] at held
      exact absurd held.symm notNil
    | some listed =>
      rw [isRow] at held
      exact congrArg some held

end Tree

end Route

namespace Registry

open Route

/-- The tree of a registry has a node for every beginning of the keys of an endpoint and no others.
A node lists for a method the endpoints with its keys and this method, in priority order and without
an empty list; it knows the names that endpoints give to its place, in the order of registration; and
neither a method nor a child has two rows. -/
theorem root_represents (es : List Endpoint) (keys : List String) :
    (((ofList es).root.nodeAt? keys).isSome ↔ keys = [] ∨ ∃ e ∈ es, keys <+: e.keys) ∧
    ∀ place, (ofList es).root.nodeAt? keys = some place →
      (∀ method listed, Table.get? place.endpoints method = some listed ↔
        listed ≠ [] ∧ InPriorityOrder (es.filter fun e => e.keys = keys ∧ e.method = method) listed) ∧
      place.names = (es.filterMap fun e => boundName? e.request.pattern.segments keys).eraseDups ∧
      place.endpoints.Ascending ∧ place.children.Ascending := by
  refine ⟨Tree.nodeAt?_ofList es keys, fun place found => ?_⟩
  have atKeys : (Tree.ofList es).nodeAtD keys = place := Tree.nodeAtD_of_nodeAt? found
  refine ⟨fun method listed => ?_, atKeys ▸ Tree.names_ofList es keys,
    atKeys ▸ (Tree.endpoints_ofList es keys).1, atKeys ▸ Tree.children_ofList es keys⟩
  rw [Tree.get?_endpoints_eq_some found]
  refine and_congr_right fun _ => ⟨fun same => same ▸ highestFirst_inPriorityOrder _, fun order => ?_⟩
  exact order.unique (highestFirst_inPriorityOrder _)

def byId : Endpoint :=
  .plain "by-id" "GET" ⟨[.param "id"], by simp [Segment.WellFormed, Segment.isBrace]⟩

def byName : Endpoint :=
  { Endpoint.plain "by-name" "GET" ⟨[.param "name"], by simp [Segment.WellFormed, Segment.isBrace]⟩
    with priority := 1 }

/-- Two endpoints that name the same segment differently share its node; the later one is listed
first for its priority, and its name is noted behind the other. -/
theorem root_represents_shared :
    ∃ place, (ofList [byId, byName]).root.nodeAt? ["*"] = some place ∧
      Table.get? place.endpoints "GET" = some [byName, byId] ∧ place.names = ["id", "name"] := by
  obtain ⟨isNode, holds⟩ := root_represents [byId, byName] ["*"]
  obtain ⟨place, found⟩ :=
    Option.isSome_iff_exists.1 (isNode.2 (.inr ⟨byId, List.mem_cons_self .., List.prefix_rfl⟩))
  obtain ⟨lists, names, _⟩ := holds place found
  have inOrder : highestFirst ([byId, byName].filter fun e => e.keys = ["*"] ∧ e.method = "GET") =
      [byName, byId] := by
    rw [← foldl_insertByPriority]
    cbv
  refine ⟨place, found, (lists "GET" _).2 ⟨by simp, ?_⟩, names.trans (by cbv)⟩
  exact inOrder ▸ highestFirst_inPriorityOrder _

end Registry

end StubServer
