import StubServer.Config.Validate
import StubServer.Proofs.Endpoint.Loading

/-! # Checked configurations

Validation walks through the groups, and for each through its definitions: first each by itself, then
their ids beside those of the groups before.  All in all it succeeds exactly for the configurations
that are `Valid` (`validate_eq_ok_iff`), where ids are compared over all groups at once.  What is loaded
from such a configuration has ids that are not empty, declared or generated (`Endpoint.id_ne_empty`).
-/

namespace StubServer

namespace Config

/-! ## A definition by itself -/

namespace EndpointDefinition

def HasSlash (d : EndpointDefinition) : Prop := d.request.path.toList.head? = some '/'

def HasOneBody (d : EndpointDefinition) : Prop := d.response.body = none ∨ d.response.bodyFile = none

theorem hasOneBody_iff {d : EndpointDefinition} :
    d.HasOneBody ↔ ¬ (d.response.body.isSome && d.response.bodyFile.isSome) = true := by
  unfold HasOneBody
  cases d.response.body <;> cases d.response.bodyFile <;> simp

/-- What is asked of a definition, whatever others there are. -/
@[mk_iff]
structure WellFormed (d : EndpointDefinition) : Prop where
  id : d.id ≠ some ""
  slash : d.HasSlash
  method : ∃ c ∈ d.request.method.toList, ¬ Text.isBlank c = true
  oneBody : d.HasOneBody

theorem check_eq_ok_iff {d : EndpointDefinition} : d.check = .ok () ↔ d.WellFormed := by
  have notBlank : (∃ c ∈ d.request.method.toList, ¬ Text.isBlank c = true) ↔
      ¬ Text.isAllBlank d.request.method = true := by
    simp [Text.isAllBlank]
  rw [wellFormed_iff, notBlank, hasOneBody_iff, HasSlash, check]
  split_ifs <;> simp_all

end EndpointDefinition

theorem checkEndpoints_eq_ok_iff (index : Nat) {es : List EndpointDefinition} :
    checkEndpoints index es = .ok () ↔ ∀ e ∈ es, e.WellFormed := by
  induction es generalizing index with
  | nil => simp [checkEndpoints]
  | cons e rest ih =>
    rw [checkEndpoints, List.forall_mem_cons, ← EndpointDefinition.check_eq_ok_iff]
    split
    · next cause refused => simp [refused]
    · next passes => simp [passes, ih]

theorem MockDefinition.check_eq_ok_iff {m : MockDefinition} :
    m.check = .ok () ↔ m.name ≠ "" ∧ ∀ e ∈ m.endpoints, e.WellFormed := by
  rw [check, ← checkEndpoints_eq_ok_iff 0]
  split <;> simp_all

/-! ## Ids -/

theorem claimIds_append (used : List String) (front back : List EndpointDefinition) :
    claimIds used (front ++ back) = (claimIds used front).bind fun used => claimIds used back := by
  induction front generalizing used with
  | nil => rfl
  | cons e rest ih =>
    rw [List.cons_append, claimIds, claimIds]
    cases e.id with
    | none => exact ih used
    | some id =>
      dsimp only
      split
      · rfl
      · exact ih (id :: used)

theorem exists_claimIds_iff {used : List String} {es : List EndpointDefinition} :
    (∃ used', claimIds used es = .ok used') ↔
      (∀ id ∈ es.filterMap (·.id), id ∉ used) ∧ (es.filterMap (·.id)).Nodup := by
  induction es generalizing used with
  | nil => simp [claimIds]
  | cons e rest ih =>
    rw [claimIds, List.filterMap_cons]
    cases e.id with
    | none => exact ih
    | some id =>
      dsimp only
      rw [Endpoint.new_cons, ← ih]
      split
      · next isUsed => simp_all
      · next isNew => simp_all

/-- The groups are checked one after the other, but for the ids it is as if they were one group. -/
theorem checkMocks_eq_ok_iff {used : List String} {index : Nat} {mocks : List MockDefinition} :
    checkMocks used index mocks = .ok () ↔ (∀ m ∈ mocks, m.check = .ok ()) ∧
      ∃ used', claimIds used (mocks.flatMap (·.endpoints)) = .ok used' := by
  induction mocks generalizing used index with
  | nil => simp [checkMocks, claimIds]
  | cons m rest ih =>
    rw [checkMocks, List.forall_mem_cons, List.flatMap_cons, claimIds_append]
    split
    · next cause refused => simp [refused]
    · next passes =>
      cases claimIds used m.endpoints with
      | error cause => simp [Except.bind]
      | ok used' => simp [passes, ih, Except.bind]

/-! ## All checks -/

/-- All that validation asks of a configuration. -/
structure Valid (config : Config) : Prop where
  idHeader : Http.isHeaderName config.settings.endpointIdHeader = true
  names : ∀ m ∈ config.mocks, m.name ≠ ""
  definitions : ∀ row ∈ config.definitions, row.2.WellFormed
  distinct : (Endpoint.declaredIds config.definitions).Nodup

theorem map_definitions (config : Config) :
    config.definitions.map (·.2) = config.mocks.flatMap (·.endpoints) := by
  simp [definitions, List.map_flatMap, Function.comp_def]

theorem validate_eq_ok_iff {config : Config} : config.validate = .ok () ↔ config.Valid := by
  have definitions : (∀ row ∈ config.definitions, row.2.WellFormed) ↔
      ∀ m ∈ config.mocks, ∀ e ∈ m.endpoints, e.WellFormed := by
    rw [← List.forall_mem_map (f := Prod.snd) (P := EndpointDefinition.WellFormed), map_definitions]
    simp only [List.mem_flatMap]
    exact ⟨fun all m inMocks e inMock => all e ⟨m, inMocks, inMock⟩,
      fun all e ⟨m, inMocks, inMock⟩ => all m inMocks e inMock⟩
  rw [validate]
  split
  · next isName =>
    rw [checkMocks_eq_ok_iff, exists_claimIds_iff, ← map_definitions, ← Endpoint.declaredIds_eq]
    simp only [MockDefinition.check_eq_ok_iff]
    constructor
    · rintro ⟨checked, _, distinct⟩
      exact ⟨isName, fun m inMocks => (checked m inMocks).1,
        definitions.2 fun m inMocks => (checked m inMocks).2, distinct⟩
    · rintro ⟨_, names, wellFormed, distinct⟩
      exact ⟨fun m inMocks => ⟨names m inMocks, definitions.1 wellFormed m inMocks⟩,
        fun _ _ => List.not_mem_nil, distinct⟩
  · next notName =>
    exact iff_of_false (fun passes => nomatch passes) fun valid => notName valid.idHeader

end Config

namespace Endpoint

theorem generatedId_ne_empty (n : Nat) : generatedId n ≠ "" := by
  simp [generatedId]

theorem id_ne_empty {config : Config} {counter : Nat} {endpoints : List Endpoint}
    (valid : config.validate = .ok ()) (loaded : (load counter config).2 = .ok endpoints)
    {e : Endpoint} (isLoaded : e ∈ endpoints) : e.id ≠ "" := by
  obtain ⟨_, reads⟩ := load_eq_ok_iff.1 loaded
  -- the id is one of those that the definitions got, and these are declared or generated
  have isGiven : e.id ∈ ids counter config.definitions := by
    rw [ids, ← map_id_of_read reads]
    exact List.mem_map_of_mem isLoaded
  rw [(ids_perm counter config.definitions).mem_iff, List.mem_append] at isGiven
  rcases isGiven with isDeclared | isGenerated
  · obtain ⟨row, inList, declares⟩ := List.mem_filterMap.1 isDeclared
    intro isEmpty
    exact ((Config.validate_eq_ok_iff.1 valid).definitions row inList).id
      (declares.trans (congrArg some isEmpty))
  · obtain ⟨k, _, _, isNumbered⟩ := mem_generatedIds.1 isGenerated
    rw [isNumbered]
    exact generatedId_ne_empty k

end Endpoint

end StubServer
