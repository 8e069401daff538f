import StubServer.Route.Tree

/-! # Walking the route tree

A walk follows the segments of a path down the tree.  At every node a literal branch goes before
`*`, and `*` before `**`; what has been chosen is not taken back.  Below `**` the walk goes on at
the first segment that has a literal branch there, else at the last segment if `*` follows, else
`**` takes all that is left.
-/

namespace StubServer.Route

/-- Captured segments by parameter name. -/
abbrev Captures := Table String

/-- Where a walk ended, and what it captured. -/
structure Arrival where
  node : Tree
  params : Captures

/-- Captures one segment under all of the names. -/
def Captures.bindAll (params : Captures) (names : List String) (segment : String) : Captures :=
  names.foldl (fun params name => Table.insert params name segment) params

namespace Tree

/-- How many segments `**` takes before the walk goes on below its node. -/
def taken (multi : Tree) (segments : List String) : Nat :=
  match segments.findIdx? fun s => (multi.literalChild? s).isSome with
  | some n => n
  | none => if multi.wildcardChild?.isSome then segments.length - 1 else segments.length

/-- A path that ends at a node without endpoints for the method may still end at the `**` below
it, which then takes no segment. -/
def settle (t : Tree) (method : String) : Tree :=
  if (t.endpointsFor method).isEmpty then t.multiChild?.getD t else t

/-- Walks from a node.  `matched` are the segments passed so far; they come back when the tree
has no way on. -/
def walkFrom (method : String) (t : Tree) (segments matched : List String) (params : Captures) :
    Except (List String) Arrival :=
  match segments with
  | [] => .ok ⟨t.settle method, params⟩
  | s :: rest =>
    match _ : t.literalChild? s with
    | some child => walkFrom method child rest (matched ++ [s]) params
    | none =>
      match _ : t.wildcardChild? with
      | some child => walkFrom method child rest (matched ++ [s]) (params.bindAll child.names s)
      | none =>
        match _ : t.multiChild? with
        | some child =>
          -- nothing is captured here: a parameter stands for one segment
          let n := child.taken (s :: rest)
          walkFrom method child ((s :: rest).drop n) (matched ++ (s :: rest).take n) params
        | none => .error matched
termination_by t.height
decreasing_by
  · exact literalChild?_height ‹t.literalChild? s = some child›
  · exact child?_height ‹t.wildcardChild? = some child›
  · exact child?_height ‹t.multiChild? = some child›

def walk (t : Tree) (method : String) (segments : List String) : Except (List String) Arrival :=
  t.walkFrom method segments [] []

end Tree

end StubServer.Route
