import StubServer.Proofs.Endpoint.Numbering
import StubServer.Proofs.Server.Checks

/-! # Loading what has been validated

Validation and loading are written apart from each other, and ask some of the same of a configuration:
the name of the header, the slash in front of a path, one body at most, and distinct ids.  What
validation has found in order, loading does not refuse (`Config.validates_exactly`).  Only of ids does it
see more: those that it generates may clash with declared ones, but not with each other
(`pairwise_named`).
-/

namespace StubServer

open Config (EndpointDefinition)

namespace Endpoint

variable {counter : Nat} {defs : List (String × EndpointDefinition)}

/-- The id is one from the counter. -/
def Named.IsGenerated (n : Named) : Prop := n.definition.id = none

theorem id_of_declared {n : Named} (inList : n ∈ named counter defs) {id : String}
    (declares : n.definition.id = some id) : n.id = id := by
  induction defs generalizing counter with
  | nil => cases inList
  | cons row rest ih =>
    rw [named] at inList
    rcases List.mem_cons.1 inList with rfl | inRest
    · rw [show row.2.id = some id from declares]
      rfl
    · exact ih inRest

theorem pairwise_declared (counter : Nat) (distinct : (declaredIds defs).Nodup) :
    (named counter defs).Pairwise fun n m =>
      ∀ a ∈ n.definition.id, ∀ b ∈ m.definition.id, a ≠ b := by
  rw [declaredIds_eq, ← map_definition_named counter, List.filterMap_map] at distinct
  exact List.pairwise_filterMap.1 distinct

theorem pairwise_generated :
    (named counter defs).Pairwise fun n m => n.IsGenerated → m.IsGenerated → n.id ≠ m.id := by
  have distinct : (givenOut counter defs).Nodup := givenOut_eq counter defs ▸ nodup_generatedIds ..
  rw [givenOut, List.Nodup, List.pairwise_map, List.pairwise_filter] at distinct
  simpa [Named.IsGenerated] using distinct

/-- Of two definitions with the same id one declares it and the other gets it from the counter. -/
theorem pairwise_named (distinct : (declaredIds defs).Nodup) :
    (named counter defs).Pairwise fun n m => n.id = m.id →
      (n.IsGenerated ∧ m.definition.id = some n.id) ∨
        (n.definition.id = some n.id ∧ m.IsGenerated) := by
  have both := (pairwise_declared counter distinct).and pairwise_generated
  refine both.imp_of_mem fun {n m} inList inList' ⟨notDeclared, notGenerated⟩ same => ?_
  cases declares : n.definition.id with
  | none =>
    cases declares' : m.definition.id with
    | none => exact absurd same (notGenerated declares declares')
    | some id' => exact .inl ⟨declares, by rw [same, id_of_declared inList' declares']⟩
  | some id =>
    have isId : n.id = id := id_of_declared inList declares
    cases declares' : m.definition.id with
    | none => exact .inr ⟨by rw [isId], declares'⟩
    | some id' =>
      refine absurd ?_ (notDeclared id declares id' declares')
      rw [← isId, same, id_of_declared inList' declares']

end Endpoint

namespace Source

/-- Two definitions come to the same id, which one declares and the other gets from the counter. -/
def Clashes (source : Source) (id : String) : Prop :=
  ∃ n m : Endpoint.Named, [n, m].Sublist source.named ∧ n.id = id ∧ m.id = id ∧
    ((n.IsGenerated ∧ m.definition.id = some id) ∨ (n.definition.id = some id ∧ m.IsGenerated))

/-- The errors that are left for loading a configuration that has been validated. -/
def Leaves (source : Source) : LoadError → Prop
  | .invalidIdHeader _ => False
  | .bodyAndBodyFile _ => False
  | .invalidPath _ _ cause => cause ≠ .noLeadingSlash
  | .duplicateId id => source.Clashes id
  | .invalidBodyPattern _ => True
  | .invalidHeaderName _ _ => True
  | .unreadableBodyFile _ _ => True
  | .invalidTemplate _ _ => True

variable {source : Source} {error : LoadError}

theorem clashes_of_used (distinct : (Endpoint.declaredIds source.definitions).Nodup)
    {n : Endpoint.Named} {before : List String} (isAsked : .newId n before ∈ source.checks)
    (isUsed : n.id ∈ before) : source.Clashes n.id := by
  obtain ⟨front, back, isSplit, rfl⟩ := before_of_asked isAsked
  obtain ⟨m, inFront, same⟩ := List.mem_map.1 (List.mem_reverse.1 isUsed)
  have inOrder : [m, n].Sublist source.named := by
    rw [isSplit]
    exact (List.singleton_sublist.2 inFront).append ((List.nil_sublist back).cons_cons n)
  have oneEach := List.pairwise_iff_forall_sublist.1 (Endpoint.pairwise_named distinct) inOrder same
  rw [same] at oneEach
  exact ⟨m, n, inOrder, same, rfl, oneEach⟩

theorem leaves_of_build (valid : source.config.Valid) (fails : source.build = .error error) :
    source.Leaves error := by
  obtain ⟨before, c, after, isSplit, _, failing, reports⟩ := source.decides_build.first_of_error fails
  have isAsked : c ∈ source.checks := isSplit ▸ List.mem_append_cons_self
  have isWellFormed {n : Endpoint.Named} (isAbout : c.named? = some n) : n.definition.WellFormed :=
    (Endpoint.forall_named_iff _).2 valid.definitions n (mem_named_of_asked isAsked isAbout)
  cases c with
  -- these two checks are made by validation too
  | idHeader => exact absurd valid.idHeader failing
  | oneBody n => exact absurd (isWellFormed rfl).oneBody failing
  | newId n others =>
    cases reports
    exact clashes_of_used valid.distinct isAsked (not_not.1 failing)
  | path n =>
    obtain ⟨cause, refused, rfl⟩ := reports
    rintro rfl
    exact Route.Pattern.parse_eq_noLeadingSlash_iff.1 refused (isWellFormed rfl).slash
  | bodyPattern n =>
    cases reports
    trivial
  | headerNames n =>
    obtain ⟨row, _, _, rfl⟩ := reports
    trivial
  | bodyFile n =>
    obtain ⟨file, _, rfl⟩ := reports
    trivial
  | template n stage =>
    cases reports
    trivial

end Source

/-- Validation finds in order exactly the valid configurations.  When one of these is loaded, by a
counter that stands anywhere, neither the name of the header nor a definition with two bodies nor a path
without a slash can be what is refused, and an id only if it is both declared and generated. -/
theorem Config.validates_exactly (config : Config) :
    (config.validate = .ok () ↔ config.Valid) ∧
    (config.validate = .ok () → ∀ files counter error,
      let source : Source := ⟨files, config, counter⟩
      source.build = .error error → source.Leaves error) := by
  refine ⟨validate_eq_ok_iff, fun passes files counter error => ?_⟩
  intro source fails
  exact source.leaves_of_build (validate_eq_ok_iff.1 passes) fails

/-- The id that the second page declares is the one that the first gets. -/
theorem Config.validates_exactly_clash :
    let source : Source := ⟨noFiles, Endpoint.twoPages "endpoint-1", 0⟩
    source.config.validate = .ok () ∧ source.build = .error (.duplicateId "endpoint-1") ∧
      source.Clashes "endpoint-1" := by
  intro source
  have passes : source.config.validate = .ok () := by decide +kernel
  have fails : source.build = .error (.duplicateId "endpoint-1") := by cbv
  exact ⟨passes, fails, (validates_exactly source.config).2 passes _ _ _ fails⟩

end StubServer
