import StubServer.Proofs.Endpoint.Loading

/-! # Loading a configuration again

The counter of generated ids moves on with every load, so a later load of the same configuration gives
other ids to the definitions that declare none.  All else that it reads is the same
(`SameButGenerated`).  It fails exactly if one of the ids that it would generate is declared by another
definition (`load_again`), which can happen for a few values of the counter only.
-/

namespace StubServer.Endpoint

open Config (EndpointDefinition)

/-- The endpoints of two loads of the same definitions: an endpoint that declares its id is the same
in both, and any other the same but for the id. -/
inductive SameButGenerated :
    List (String × EndpointDefinition) → List Endpoint → List Endpoint → Prop where
  | nil : SameButGenerated [] [] []
  | cons {mock d rest e e' es es'} (same : e' = { e with id := e'.id })
      (kept : d.id.isSome → e' = e) (more : SameButGenerated rest es es') :
      SameButGenerated ((mock, d) :: rest) (e :: es) (e' :: es')

/-- What can be read once can be read at any other time. -/
theorem reads_again {counter : Nat} {defs : List (String × EndpointDefinition)} {es : List Endpoint}
    (all : List.Forall₂ (fun n e => n.read = .ok e) (named counter defs) es) (later : Nat) :
    ∃ es', List.Forall₂ (fun n e => n.read = .ok e) (named later defs) es' ∧
      SameButGenerated defs es es' := by
  induction defs generalizing counter later es with
  | nil =>
    cases all
    exact ⟨[], .nil, .nil⟩
  | cons row rest ih =>
    obtain ⟨mock, d⟩ := row
    rcases chosen : chooseId counter d.id with ⟨id, next⟩
    rcases chosen' : chooseId later d.id with ⟨id', next'⟩
    rw [named_cons chosen] at all
    rw [named_cons chosen']
    obtain ⟨e, more, read, allMore, rfl⟩ := List.forall₂_cons_left_iff.1 all
    obtain ⟨more', allMore', same⟩ := ih allMore next'
    refine ⟨{ e with id := id' } :: more', .cons (compile_rename id' read) allMore',
      .cons rfl (fun declares => ?_) same⟩
    -- a declared id is chosen both times
    obtain ⟨declared, isDeclared⟩ := Option.isSome_iff_exists.1 declares
    rw [isDeclared] at chosen chosen'
    cases chosen
    cases chosen'
    have isId : e.id = id := id_compile read
    rw [← isId]

theorem forall_read {named : List Named} {es : List Endpoint}
    (all : List.Forall₂ (fun n e => n.read = .ok e) named es) : ∀ n ∈ named, ∃ e, n.read = .ok e := by
  induction all with
  | nil => simp
  | cons read _ ih => exact List.forall_mem_cons.2 ⟨⟨_, read⟩, ih⟩

/-- Only the first few values of the counter lead to ids that are declared. -/
theorem exists_undeclared_from (defs : List (String × EndpointDefinition)) :
    ∃ bound, ∀ counter ≥ bound, ∀ id ∈ generatedIds counter (undeclared defs),
      id ∉ declaredIds defs := by
  have finite : {k | generatedId k ∈ declaredIds defs}.Finite :=
    (List.finite_toSet (declaredIds defs)).preimage fun _ _ _ _ => generatedId_injective
  obtain ⟨bound, isBound⟩ := finite.bddAbove
  refine ⟨bound, fun counter beyond id generated declared => ?_⟩
  obtain ⟨k, above, _, rfl⟩ := mem_generatedIds.1 generated
  have := isBound declared
  omega

/-- When a configuration has been loaded, any other load of it gives the same endpoints in the same
order up to generated ids, unless one of the ids to be generated is declared; then it fails for an id
of this kind.  From some value of the counter on there is none. -/
theorem load_again {counter : Nat} {config : Config} {es : List Endpoint}
    (loaded : (load counter config).2 = .ok es) (later : Nat) :
    let defs := config.definitions
    let generated := generatedIds later (undeclared defs)
    ((∀ id ∈ generated, id ∉ declaredIds defs) →
      ∃ es', (load later config).2 = .ok es' ∧ SameButGenerated defs es es') ∧
    ((∃ id ∈ generated, id ∈ declaredIds defs) →
      ∃ id ∈ generated, id ∈ declaredIds defs ∧ (load later config).2 = .error (.duplicateId id)) ∧
    ∃ bound, ∀ counter ≥ bound, ∀ id ∈ generatedIds counter (undeclared defs),
      id ∉ declaredIds defs := by
  intro defs generated
  obtain ⟨distinct, all⟩ := load_eq_ok_iff.1 loaded
  obtain ⟨distinctDeclared, _⟩ := nodup_ids_iff.1 distinct
  obtain ⟨es', all', same⟩ := reads_again all later
  refine ⟨fun apart => ?_, fun ⟨id, isGenerated, isDeclared⟩ => ?_, exists_undeclared_from defs⟩
  · exact ⟨es', load_eq_ok_iff.2 ⟨nodup_ids_iff.2 ⟨distinctDeclared, apart⟩, all'⟩, same⟩
  · cases outcome : (load later config).2 with
    | ok others =>
      obtain ⟨distinctLater, _⟩ := load_eq_ok_iff.1 outcome
      exact absurd isDeclared ((nodup_ids_iff.1 distinctLater).2 id isGenerated)
    | error cause =>
      obtain ⟨clash, rfl, twice⟩ := loadFrom_eq_duplicate (forall_read all') outcome
      obtain ⟨clashGenerated, clashDeclared⟩ :=
        declared_and_generated distinctDeclared (by simpa using twice)
      exact ⟨clash, clashGenerated, clashDeclared, rfl⟩

/-- Two endpoints of which the first leaves its id open. -/
def twoPages (second : String) : Config where
  settings := .default
  mockFiles := []
  mocks := [⟨"pages", [⟨none, 0, ⟨none, none, "GET", "/a", [], [], none⟩, .default⟩,
    ⟨some second, 0, ⟨none, none, "GET", "/b", [], [], none⟩, .default⟩]⟩]

/-- The open id is another one when the configuration is loaded a second time; nothing else changes. -/
theorem load_again_renumbered :
    ∃ es es', (load 0 (twoPages "about")).2 = .ok es ∧
      (load (load 0 (twoPages "about")).1 (twoPages "about")).2 = .ok es' ∧
      SameButGenerated (twoPages "about").definitions es es' ∧
      es.map (·.id) = ["endpoint-1", "about"] := by
  obtain ⟨es, loaded, ids⟩ : ∃ es, (load 0 (twoPages "about")).2 = .ok es ∧
      es.map (·.id) = ["endpoint-1", "about"] := ⟨_, by cbv, rfl⟩
  have moved : (load 0 (twoPages "about")).1 = 1 := by cbv
  obtain ⟨es', again, same⟩ := (load_again loaded 1).1 (by decide)
  exact ⟨es, es', loaded, moved ▸ again, same, ids⟩

/-- When the second endpoint declares the id that the first is to get at the second load, this load
fails. -/
theorem load_again_fails :
    (∃ es, (load 0 (twoPages "endpoint-2")).2 = .ok es) ∧
      (load (load 0 (twoPages "endpoint-2")).1 (twoPages "endpoint-2")).2 =
        .error (.duplicateId "endpoint-2") :=
  ⟨⟨_, rfl⟩, by cbv⟩

end StubServer.Endpoint
