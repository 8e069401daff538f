import StubServer.Endpoint.Basic
import StubServer.Table

/-! # The route tree

A tree over the keys of path segments.  Every node knows the parameter names that lead to it and
the endpoints that end at it, by method and with the highest priority first.  `child?_height` is
why a walk down the tree comes to an end.
-/

namespace StubServer.Route

inductive Tree where
  | node (children : List (String × Tree)) (names : List String)
      (endpoints : Table (List Endpoint))

namespace Tree

def empty : Tree := .node [] [] []

def children : Tree → Table Tree
  | .node children _ _ => children

/-- Parameter names bound to this node, each once, in the order of registration. -/
def names : Tree → List String
  | .node _ names _ => names

def endpoints : Tree → Table (List Endpoint)
  | .node _ _ endpoints => endpoints

def child? (t : Tree) (key : String) : Option Tree := Table.get? t.children key

/-- The branch of a literal segment; the keys of `*` and `**` are none. -/
def literalChild? (t : Tree) (segment : String) : Option Tree :=
  if segment = wildcardKey ∨ segment = multiKey then none else t.child? segment

def wildcardChild? (t : Tree) : Option Tree := t.child? wildcardKey

def multiChild? (t : Tree) : Option Tree := t.child? multiKey

/-- The endpoints that end here for a method, highest priority first. -/
def endpointsFor (t : Tree) (method : String) : List Endpoint :=
  (Table.get? t.endpoints method).getD []

/-! ## Registration -/

/-- Puts an endpoint before the first one of lower priority. -/
def insertByPriority (e : Endpoint) : List Endpoint → List Endpoint
  | [] => [e]
  | x :: rest => if x.priority < e.priority then e :: x :: rest else x :: insertByPriority e rest

def addEndpoint (t : Tree) (e : Endpoint) : Tree :=
  match t with
  | .node children names endpoints =>
    .node children names (Table.update endpoints e.method [] (insertByPriority e))

/-- Notes the name of a parameter that leads to this node. -/
def bind (t : Tree) (segment : Segment) : Tree :=
  match t, segment with
  | .node children names endpoints, .param name =>
    .node children (if names.contains name then names else names ++ [name]) endpoints
  | t, _ => t

def setChild (t : Tree) (key : String) (child : Tree) : Tree :=
  match t with
  | .node children names endpoints => .node (Table.insert children key child) names endpoints

/-- Adds an endpoint below the node that the segments lead to, making the way there. -/
def register (e : Endpoint) : List Segment → Tree → Tree
  | [], t => t.addEndpoint e
  | s :: rest, t => t.setChild s.key (register e rest (((t.child? s.key).getD empty).bind s))

def add (t : Tree) (e : Endpoint) : Tree := register e e.request.pattern.segments t

/-- The tree of endpoints in load order. -/
def ofList (es : List Endpoint) : Tree := es.foldl add empty

/-! ## Height -/

mutual

/-- The number of nodes on the longest way down. -/
def height : Tree → Nat
  | .node children _ _ => heights children + 1

def heights : List (String × Tree) → Nat
  | [] => 0
  | (_, t) :: rest => max (height t) (heights rest)

end

theorem height_le_heights {children : List (String × Tree)} {key : String} {t : Tree}
    (found : Table.get? children key = some t) : t.height ≤ heights children := by
  induction children with
  | nil => simp [Table.get?] at found
  | cons row rest ih =>
    obtain ⟨k, v⟩ := row
    simp only [Table.get?] at found
    simp only [heights]
    split at found
    · cases found; omega
    · have := ih found; omega

theorem child?_height {t child : Tree} {key : String} (found : t.child? key = some child) :
    child.height < t.height := by
  cases t with
  | node children names endpoints =>
    have := @height_le_heights children _ _ found
    simp only [height]
    omega

theorem literalChild?_height {t child : Tree} {segment : String}
    (found : t.literalChild? segment = some child) : child.height < t.height := by
  unfold literalChild? at found
  split at found
  · cases found
  · exact child?_height found

end Tree

end StubServer.Route
