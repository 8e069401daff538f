import StubServer.Proofs.Route.Literals

/-! # What a mismatch says

A mismatch on the path says where the walk got stuck and one on the method where it arrived.  The keys
of its way are a beginning of the keys of a listed endpoint, so in both cases it has followed the
beginning of a listed pattern, and this beginning takes up the segments that were passed (`Reaches`).
No walk stops within a literal beginning that the path shares with a listed pattern (`shared_le_walked`);
among literal patterns it stops exactly behind the longest of them.
-/

namespace StubServer

namespace Route

variable {es : List Endpoint} {front : List Segment} {path segments : List String} {place : Tree}

/-- The beginning of a listed pattern takes up the segments, and its keys lead to the node. -/
structure Reaches (es : List Endpoint) (front : List Segment) (segments : List String)
    (place : Tree) : Prop where
  listed : front = [] ∨ ∃ e ∈ es, front <+: e.request.pattern.segments
  accepts : Accepts front segments
  node : (Tree.ofList es).nodeAt? (front.map Segment.key) = some place

/-- The walk of the path passes its first `k` segments, along the beginning of a listed pattern, and at the
node where it stops no branch is open to the next one. -/
structure Stuck (es : List Endpoint) (path : List String) (k : Nat) : Prop where
  within : k < path.length
  lost (method : String) : (Tree.ofList es).walk method path = .error (path.take k)
  reaches : ∃ front, Reaches es front (path.take k) ((Tree.ofList es).stop path)
  noLiteral : ((Tree.ofList es).stop path).literalChild? path[k] = none
  noWildcard : ((Tree.ofList es).stop path).wildcardChild? = none
  noMulti : ((Tree.ofList es).stop path).multiChild? = none

/-- The first `n` segments of the path are literals at the beginning of a listed pattern. -/
def Shares (es : List Endpoint) (path : List String) (n : Nat) : Prop :=
  n ≤ path.length ∧ ∃ e ∈ es, (path.take n).map .literal <+: e.request.pattern.segments

/-- Every node of the tree is reached by the beginning of a listed pattern. -/
theorem exists_reaches {keys : List String}
    (found : (Tree.ofList es).nodeAt? keys = some place)
    (accepts : ∀ pattern : List Segment, (∀ s ∈ pattern, s.WellFormed) →
      pattern.map Segment.key = keys → Accepts pattern segments) :
    ∃ front, Reaches es front segments place := by
  rcases (Tree.nodeAt?_ofList es keys).1 (by rw [found]; rfl) with rfl | ⟨e, listed, isFront⟩
  · exact ⟨[], .inl rfl, accepts [] (List.forall_mem_nil _) rfl, found⟩
  · obtain ⟨front, ofPattern, rfl⟩ := List.prefix_map_iff.1 isFront
    have wellFormed : ∀ s ∈ front, s.WellFormed := fun s inFront =>
      e.request.pattern.wellFormed s (ofPattern.subset inFront)
    exact ⟨front, .inr ⟨e, listed, ofPattern⟩, accepts front wellFormed rfl, found⟩

/-- A walk that leaves something of its path is stuck behind what it has passed. -/
theorem stuck_of_left (someLeft : (Tree.ofList es).unwalked path ≠ []) :
    Stuck es path ((Tree.ofList es).walked path).length := by
  -- the next segment is the first of those that are left, and no move is open before it
  obtain ⟨s, rest, left⟩ := List.exists_cons_of_ne_nil someLeft
  have whole : path = (Tree.ofList es).walked path ++ s :: rest :=
    left ▸ (Tree.walked_append_unwalked (Tree.ofList es) path).symm
  have within : ((Tree.ofList es).walked path).length < path.length := by
    have lengths := congrArg List.length whole
    simp only [List.length_append, List.length_cons] at lengths
    omega
  have passed := List.prefix_iff_eq_take.1 ⟨s :: rest, whole.symm⟩
  have next : path[((Tree.ofList es).walked path).length] = s := List.getElem_of_append whole rfl
  have blocked := Tree.move?_eq_none.1 (Tree.move?_stop left)
  rw [← next] at blocked
  obtain ⟨noLiteral, noWildcard, noMulti⟩ := blocked
  refine { within, noLiteral, noWildcard, noMulti, lost := fun method => ?_, reaches := ?_ }
  · rw [Tree.walk_eq, if_neg someLeft, ← passed]
  · rw [← passed]
    exact exists_reaches (Tree.nodeAt?_wayKeys _ path) fun pattern wellFormed atKeys =>
      Tree.accepts_walked _ path wellFormed atKeys

/-! ## Literal beginnings -/

theorem Accepts.eq_of_literals {texts : List String} (accepted : Accepts (texts.map .literal) path) :
    path = texts := by
  induction texts generalizing path with
  | nil =>
    cases accepted
    rfl
  | cons text rest ih =>
    cases accepted with
    | literal _ behind => rw [ih behind]

/-- What has been passed on the way of a literal pattern is a beginning of it. -/
theorem Reaches.shares {n : Nat} (reaches : Reaches es front (path.take n) place)
    (within : n ≤ path.length)
    (literal : ∀ e ∈ es, ∃ texts : List String, e.request.pattern.segments = texts.map .literal) :
    n = 0 ∨ Shares es path n := by
  rcases reaches.listed with rfl | ⟨e, listed, ofPattern⟩
  · left
    have nothing : path.take n = [] := Accepts.eq_of_literals reaches.accepts
    simpa [Nat.min_eq_left within] using congrArg List.length nothing
  · right
    obtain ⟨texts, areTexts⟩ := literal e listed
    obtain ⟨passed, _, rfl⟩ := List.prefix_map_iff.1 (areTexts ▸ ofPattern)
    rw [← reaches.accepts.eq_of_literals] at ofPattern
    exact ⟨within, e, listed, ofPattern⟩

/-- A walk passes every literal beginning that its path shares with a listed pattern. -/
theorem shared_le_walked {n : Nat} (shares : Shares es path n) :
    n ≤ ((Tree.ofList es).walked path).length := by
  obtain ⟨within, e, listed, shared⟩ := shares
  have free : ∀ s ∈ path.take n, s ≠ wildcardKey ∧ s ≠ multiKey := fun s inShared =>
    Segment.literal_key_ne
      (e.request.pattern.wellFormed (.literal s) (shared.subset (List.mem_map_of_mem inShared)))
  have onWay : path.take n <+: e.keys := by
    have keys := shared.map Segment.key
    rwa [List.map_map, show Segment.key ∘ Segment.literal = id from rfl, List.map_id] at keys
  obtain ⟨place, found⟩ :=
    Option.isSome_iff_exists.1 ((Tree.nodeAt?_ofList es _).2 (.inr ⟨e, listed, onWay⟩))
  -- the walk follows the literal branches up to the node and passes the rest from there
  have passed := (Tree.trail_append_of_literals found free (path.drop n)).1
  rw [List.take_append_drop] at passed
  rw [passed, List.length_append, List.length_take_of_le within]
  exact Nat.le_add_right ..

end Route

namespace Registry

open Route

variable {es : List Endpoint} {r : Http.Request}

/-! ## Mismatches -/

/-- A mismatch on the path is reported exactly if the walk is stuck.  It names the request path and a proper
beginning of it, which is taken up by the beginning of a listed pattern; at the node that this leads to, no
branch is open to the next segment.  The reported beginning is not shorter than any that the path shares with
the literals of a listed pattern, and among literal patterns it is one of these.  A mismatch on the method is
reported exactly if the beginning of a listed pattern takes up the whole path, and the node where the walk
arrives by it holds no endpoint for the method. -/
theorem findMatch_mismatch (es : List Endpoint) (r : Http.Request) :
    (∀ text matched, (ofList es).findMatch r = .error (.path text matched) ↔
      text = r.path ∧ ∃ k, matched = String.intercalate "/" ((splitPath r.path).take k) ∧
        Stuck es (splitPath r.path) k ∧ (∀ n, Shares es (splitPath r.path) n → n ≤ k) ∧
        ((∀ e ∈ es, ∃ texts : List String, e.request.pattern.segments = texts.map .literal) →
          k = 0 ∨ Shares es (splitPath r.path) k)) ∧
    ∀ text method, (ofList es).findMatch r = .error (.method text method) ↔
      text = r.path ∧ method = r.method ∧
      ∃ front arrival, (ofList es).root.walk r.method (splitPath r.path) = .ok arrival ∧
        Reaches es front (splitPath r.path) arrival.node ∧
        arrival.node.endpointsFor r.method = [] := by
  have ends := findMatch_endsWith es r
  constructor
  · intro text matched
    constructor
    · intro outcome
      rw [outcome] at ends
      cases ends with
      | lost isLost =>
        have stuck := stuck_of_left (Tree.walk_eq_error isLost).1
        have passed := Except.error.inj (isLost.symm.trans (stuck.lost r.method))
        refine ⟨rfl, _, by rw [passed], stuck, fun n => shared_le_walked, ?_⟩
        intro literal
        obtain ⟨front, reaches⟩ := stuck.reaches
        exact reaches.shares (Nat.le_of_lt stuck.within) literal
    · rintro ⟨rfl, k, rfl, stuck, _⟩
      exact findMatch_of_lost (stuck.lost r.method)
  · intro text method
    constructor
    · intro outcome
      rw [outcome] at ends
      cases ends with
      | unserved arrived noEndpoint =>
        obtain ⟨keys, found, accepts⟩ := Tree.walk_place arrived
        obtain ⟨front, reaches⟩ := exists_reaches found accepts
        exact ⟨rfl, rfl, front, _, arrived, reaches, noEndpoint⟩
    · rintro ⟨rfl, rfl, front, arrival, arrived, _, noEndpoint⟩
      exact findMatch_of_unserved arrived noEndpoint

/-- The pattern `/static/styles`. -/
def styles : Pattern :=
  ⟨[.literal "static", .literal "styles"], by simp [Segment.WellFormed, Segment.isBrace]⟩

/-- Behind `/static` there is a way to the styles only, and at `/static` itself nothing to be read. -/
theorem findMatch_mismatch_static :
    let es : List Endpoint := [.plain "styles" "GET" styles, .plain "upload" "POST" staticRoot]
    Stuck es ["static", "images"] 1 ∧ Shares es ["static", "images"] 1 ∧
      ∃ front place, Reaches es front ["static"] place ∧ place.endpointsFor "GET" = [] := by
  intro es
  obtain ⟨ofPath, _⟩ := findMatch_mismatch es (.plain "GET" "/static/images")
  obtain ⟨_, ofMethod⟩ := findMatch_mismatch es (.plain "GET" "/static")
  have literal : ∀ e ∈ es, ∃ texts : List String, e.request.pattern.segments = texts.map .literal := by
    simp only [es, List.forall_mem_cons]
    exact ⟨⟨["static", "styles"], rfl⟩, ⟨["static"], rfl⟩, List.forall_mem_nil _⟩
  obtain ⟨_, k, isMatched, stuck, _, shares⟩ := (ofPath "/static/images" "static").1 (by cbv)
  obtain ⟨_, _, front, arrival, _, reaches, unserved⟩ := (ofMethod "/static" "GET").1 (by cbv)
  have within : k < 2 := stuck.within
  have notZero : k ≠ 0 := by
    rintro rfl
    exact absurd isMatched (by decide)
  obtain rfl : k = 1 := by omega
  have shared := (shares literal).resolve_left Nat.one_ne_zero
  exact ⟨stuck, shared, front, arrival.node, reaches, unserved⟩

end Registry

end StubServer
