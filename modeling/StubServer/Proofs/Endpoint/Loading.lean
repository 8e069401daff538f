import Mathlib
import StubServer.Endpoint.Load

/-! # Which definitions load

A load gives every definition an id (`named`), and succeeds exactly if no id comes twice and every
definition can be read under its own (`load_eq_ok_iff`).  The ids are those that are declared and, for
the other definitions, the next ones of the counter (`ids_perm`); so an id comes twice only if
it is declared twice, or declared and generated (`declared_and_generated`).  Nothing but the id itself
depends on the id that a definition is read under (`compile_rename`).
-/

namespace StubServer.Endpoint

open Config (EndpointDefinition)

/-! ## Reading under another id -/

section Renaming

variable {id : String} (other : String)

theorem readBodyPattern_rename {text : Option String} {body : Option BodyPattern}
    (read : readBodyPattern id text = .ok body) : readBodyPattern other text = .ok body := by
  cases text with
  | none => exact read
  | some text =>
    simp only [readBodyPattern] at read ⊢
    cases parsed : Regex.parse? text with
    | none => simp [parsed] at read
    | some regex => simpa [parsed] using read

theorem readHeaders_rename {rows headers : List (String × String)}
    (read : readHeaders id rows = .ok headers) : readHeaders other rows = .ok headers := by
  induction rows generalizing headers with
  | nil => exact read
  | cons row rest ih =>
    obtain ⟨name, value⟩ := row
    simp only [readHeaders] at read ⊢
    split at read
    · cases read
    · split at read
      · cases read
      · next more isMore =>
        rw [ih isMore]
        exact read

theorem readExpectation_rename {d : Config.RequestDefinition} {request : Expectation}
    (read : readExpectation id d = .ok request) : readExpectation other d = .ok request := by
  simp only [readExpectation] at read ⊢
  split at read
  · cases read
  · split at read
    · cases read
    · next body isBody =>
      split at read
      · cases read
      · next headers isHeaders =>
        rw [readBodyPattern_rename other isBody, readHeaders_rename other isHeaders]
        exact read

/-- A definition can be read under any id or under none, and gives the same endpoint but for the id. -/
theorem compile_rename {mock : String} {d : EndpointDefinition} {e : Endpoint}
    (read : compile id mock d = .ok e) : compile other mock d = .ok { e with id := other } := by
  simp only [compile] at read ⊢
  split at read
  · cases read
  · next request isRequest =>
    rw [readExpectation_rename other isRequest]
    split at read
    · cases read
    · next exclusive =>
      cases read
      simp only [exclusive, if_false, Bool.false_eq_true]

theorem id_compile {mock : String} {d : EndpointDefinition} {e : Endpoint}
    (read : compile id mock d = .ok e) : e.id = id := by
  have same := compile_rename id read
  rw [read] at same
  exact congrArg Endpoint.id (Except.ok.inj same)

theorem response_compile {mock : String} {d : EndpointDefinition} {e : Endpoint}
    (read : compile id mock d = .ok e) : e.response = d.response := by
  unfold compile at read
  split at read
  · cases read
  · split at read
    · cases read
    · cases read
      rfl

end Renaming

/-! ## Ids -/

theorem generatedId_injective {m n : Nat} (same : generatedId m = generatedId n) : m = n :=
  Nat.repr_injective ((String.append_right_inj "endpoint-").1 same)

/-- The next `n` ids of a counter. -/
def generatedIds (counter n : Nat) : List String := (List.range' (counter + 1) n).map generatedId

theorem mem_generatedIds {counter n : Nat} {id : String} :
    id ∈ generatedIds counter n ↔ ∃ k, counter < k ∧ k ≤ counter + n ∧ id = generatedId k := by
  simp only [generatedIds, List.mem_map, List.mem_range'_1]
  constructor
  · rintro ⟨k, ⟨above, below⟩, rfl⟩
    exact ⟨k, by omega, by omega, rfl⟩
  · rintro ⟨k, above, below, rfl⟩
    exact ⟨k, ⟨by omega, by omega⟩, rfl⟩

theorem nodup_generatedIds (counter n : Nat) : (generatedIds counter n).Nodup :=
  (List.nodup_range' 1).map fun _ _ => generatedId_injective

theorem generatedIds_succ (counter n : Nat) :
    generatedIds counter (n + 1) = generatedId (counter + 1) :: generatedIds (counter + 1) n := by
  simp [generatedIds, List.range'_succ]

/-- The ids that definitions declare. -/
def declaredIds (defs : List (String × EndpointDefinition)) : List String :=
  defs.filterMap fun row => row.2.id

theorem declaredIds_eq (defs : List (String × EndpointDefinition)) :
    declaredIds defs = (defs.map (·.2)).filterMap (·.id) := by
  rw [List.filterMap_map]
  rfl

/-- The number of definitions that declare no id. -/
def undeclared (defs : List (String × EndpointDefinition)) : Nat :=
  defs.countP fun row => row.2.id.isNone

section Undeclared

variable {mock : String} {d : EndpointDefinition} {rest : List (String × EndpointDefinition)}

theorem undeclared_of_declared {id : String} (declared : d.id = some id) :
    undeclared ((mock, d) :: rest) = undeclared rest := by
  simp [undeclared, declared]

theorem undeclared_of_none (declared : d.id = none) :
    undeclared ((mock, d) :: rest) = undeclared rest + 1 := by
  simp [undeclared, declared]

end Undeclared

/-- A definition with the id that it is read under and the name of its group. -/
structure Named where
  id : String
  mock : String
  definition : EndpointDefinition

def Named.read (n : Named) : Except LoadError Endpoint := compile n.id n.mock n.definition

/-- The definitions with their ids, in the order of declaration. -/
def named (counter : Nat) : List (String × EndpointDefinition) → List Named
  | [] => []
  | (mock, d) :: rest =>
    ⟨(chooseId counter d.id).1, mock, d⟩ :: named (chooseId counter d.id).2 rest

def ids (counter : Nat) (defs : List (String × EndpointDefinition)) : List String :=
  (named counter defs).map (·.id)

theorem map_definition_named (counter : Nat) (defs : List (String × EndpointDefinition)) :
    (named counter defs).map (·.definition) = defs.map (·.2) := by
  induction defs generalizing counter with
  | nil => rfl
  | cons row rest ih => rw [named, List.map_cons, List.map_cons, ih]

/-- What holds of the definitions holds of them under their ids. -/
theorem forall_named_iff {counter : Nat} {defs : List (String × EndpointDefinition)}
    (holds : EndpointDefinition → Prop) :
    (∀ n ∈ named counter defs, holds n.definition) ↔ ∀ row ∈ defs, holds row.2 := by
  rw [← List.forall_mem_map (f := Named.definition), map_definition_named,
    List.forall_mem_map (f := Prod.snd)]

section First

variable {counter next : Nat} {id mock : String} {d : EndpointDefinition}
  {rest : List (String × EndpointDefinition)}

theorem named_cons (chosen : chooseId counter d.id = (id, next)) :
    named counter ((mock, d) :: rest) = ⟨id, mock, d⟩ :: named next rest := by
  rw [named, chosen]

theorem ids_cons (chosen : chooseId counter d.id = (id, next)) :
    ids counter ((mock, d) :: rest) = id :: ids next rest := by
  rw [ids, named_cons chosen, List.map_cons]
  rfl

/-- What becomes of the first definition, and of the others behind it. -/
theorem loadFrom_cons (chosen : chooseId counter d.id = (id, next)) (used : List String) :
    (loadFrom counter used ((mock, d) :: rest)).2 =
      if id ∈ used then .error (.duplicateId id)
      else (compile id mock d).bind fun e => (loadFrom next (id :: used) rest).2.map (e :: ·) := by
  rw [loadFrom, chosen]
  dsimp only
  by_cases isUsed : id ∈ used
  · simp [isUsed]
  rw [if_neg (by simpa using isUsed), if_neg isUsed]
  cases compile id mock d with
  | error cause => rfl
  | ok e =>
    dsimp only [Except.bind]
    rcases loadFrom next (id :: used) rest with ⟨last, _ | _⟩ <;> rfl

end First

/-- Every declared id is given out, and the next ids of the counter to all others. -/
theorem ids_perm (counter : Nat) (defs : List (String × EndpointDefinition)) :
    (ids counter defs).Perm (declaredIds defs ++ generatedIds counter (undeclared defs)) := by
  induction defs generalizing counter with
  | nil => exact .nil
  | cons row rest ih =>
    obtain ⟨mock, d⟩ := row
    cases declared : d.id with
    | some id =>
      have more : declaredIds ((mock, d) :: rest) = id :: declaredIds rest := by
        simp [declaredIds, declared]
      rw [ids_cons (declared ▸ rfl : chooseId counter d.id = (id, counter)), more,
        undeclared_of_declared declared]
      exact (ih counter).cons id
    | none =>
      have more : declaredIds ((mock, d) :: rest) = declaredIds rest := by
        simp [declaredIds, declared]
      rw [ids_cons (declared ▸ rfl : chooseId counter d.id = (generatedId (counter + 1), counter + 1)),
        more, undeclared_of_none declared, generatedIds_succ]
      exact ((ih (counter + 1)).cons _).trans List.perm_middle.symm

theorem nodup_ids_iff {counter : Nat} {defs : List (String × EndpointDefinition)} :
    (ids counter defs).Nodup ↔ (declaredIds defs).Nodup ∧
      ∀ id ∈ generatedIds counter (undeclared defs), id ∉ declaredIds defs := by
  rw [(ids_perm counter defs).nodup_iff, List.nodup_append]
  refine and_congr_right fun _ => ⟨fun ⟨_, apart⟩ id generated declared => ?_, fun apart => ?_⟩
  · exact apart id declared id generated rfl
  · refine ⟨nodup_generatedIds .., fun id declared other generated same => ?_⟩
    exact apart other generated (same ▸ declared)

/-- Of two equal ids one is generated, unless both are declared. -/
theorem declared_and_generated {counter : Nat} {defs : List (String × EndpointDefinition)}
    (distinct : (declaredIds defs).Nodup) {id : String} (twice : 2 ≤ (ids counter defs).count id) :
    id ∈ generatedIds counter (undeclared defs) ∧ id ∈ declaredIds defs := by
  rw [(ids_perm counter defs).count_eq, List.count_append] at twice
  have onceDeclared := List.nodup_iff_count_le_one.1 distinct id
  have onceGenerated := List.nodup_iff_count_le_one.1
    (nodup_generatedIds counter (undeclared defs)) id
  exact ⟨List.count_pos_iff.1 (by omega), List.count_pos_iff.1 (by omega)⟩

/-! ## Loads -/

section Loads

variable {counter : Nat} {used : List String} {defs : List (String × EndpointDefinition)}

/-- A list of ids is new and distinct if its first id is new, and the others are so beside it. -/
theorem new_cons {more : List String} {id : String} :
    ((∀ other ∈ id :: more, other ∉ used) ∧ (id :: more).Nodup) ↔
      id ∉ used ∧ (∀ other ∈ more, other ∉ id :: used) ∧ more.Nodup := by
  rw [List.forall_mem_cons, List.nodup_cons]
  simp only [List.mem_cons, not_or]
  constructor
  · rintro ⟨⟨isNew, newBehind⟩, notBehind, distinct⟩
    exact ⟨isNew, fun other given => ⟨fun same => notBehind (same ▸ given), newBehind other given⟩,
      distinct⟩
  · rintro ⟨isNew, newBehind, distinct⟩
    exact ⟨⟨isNew, fun other given => (newBehind other given).2⟩,
      fun given => (newBehind id given).1 rfl, distinct⟩

/-- A load succeeds exactly if the ids are new and distinct and every definition can be read; the
endpoints are then what has been read. -/
theorem loadFrom_eq_ok_iff {es : List Endpoint} :
    (loadFrom counter used defs).2 = .ok es ↔
      (∀ id ∈ ids counter defs, id ∉ used) ∧ (ids counter defs).Nodup ∧
        List.Forall₂ (fun n e => n.read = .ok e) (named counter defs) es := by
  induction defs generalizing counter used es with
  | nil => simp [loadFrom, ids, named, eq_comm]
  | cons row rest ih =>
    obtain ⟨mock, d⟩ := row
    rcases chosen : chooseId counter d.id with ⟨id, next⟩
    rw [loadFrom_cons chosen, ids_cons chosen, named_cons chosen, ← and_assoc, new_cons]
    by_cases isUsed : id ∈ used
    · simp [isUsed]
    rw [if_neg isUsed]
    cases read : compile id mock d with
    | error cause => simp [List.forall₂_cons_left_iff, Named.read, read, Except.bind]
    | ok e =>
      constructor
      · intro loaded
        cases outcome : (loadFrom next (id :: used) rest).2 with
        | error cause => simp [outcome, Except.bind, Except.map] at loaded
        | ok more =>
          simp only [outcome, Except.bind, Except.map, Except.ok.injEq] at loaded
          obtain ⟨isNew, distinct, all⟩ := ih.1 outcome
          exact ⟨⟨isUsed, isNew, distinct⟩, loaded ▸ .cons read all⟩
      · rintro ⟨⟨_, isNew, distinct⟩, all⟩
        obtain ⟨first, more, readFirst, allMore, rfl⟩ := List.forall₂_cons_left_iff.1 all
        cases read.symm.trans readFirst
        rw [ih.2 ⟨isNew, distinct, allMore⟩]
        rfl

theorem load_eq_ok_iff {config : Config} {es : List Endpoint} :
    (load counter config).2 = .ok es ↔ (ids counter config.definitions).Nodup ∧
      List.Forall₂ (fun n e => n.read = .ok e) (named counter config.definitions) es := by
  rw [load, loadFrom_eq_ok_iff]
  simp

theorem map_id_of_read {named : List Named} {es : List Endpoint}
    (reads : List.Forall₂ (fun n e => n.read = .ok e) named es) :
    es.map (·.id) = named.map (·.id) := by
  induction reads with
  | nil => rfl
  | cons read _ ih => rw [List.map_cons, List.map_cons, ih, id_compile read]

/-- When every definition can be read, all that a load can fail for is an id that comes twice. -/
theorem loadFrom_eq_duplicate (reads : ∀ n ∈ named counter defs, ∃ e, n.read = .ok e)
    {cause : LoadError} (failed : (loadFrom counter used defs).2 = .error cause) :
    ∃ id, cause = .duplicateId id ∧ 2 ≤ (used ++ ids counter defs).count id := by
  induction defs generalizing counter used with
  | nil => cases failed
  | cons row rest ih =>
    obtain ⟨mock, d⟩ := row
    rcases chosen : chooseId counter d.id with ⟨id, next⟩
    rw [loadFrom_cons chosen] at failed
    rw [named_cons chosen, List.forall_mem_cons] at reads
    rw [ids_cons chosen]
    by_cases isUsed : id ∈ used
    · rw [if_pos isUsed] at failed
      cases failed
      have once := List.count_pos_iff.2 isUsed
      exact ⟨id, rfl, by rw [List.count_append, List.count_cons_self]; omega⟩
    · obtain ⟨⟨e, read⟩, readsRest⟩ := reads
      rw [if_neg isUsed, show compile id mock d = .ok e from read] at failed
      have failedRest : (loadFrom next (id :: used) rest).2 = .error cause := by
        cases outcome : (loadFrom next (id :: used) rest).2 with
        | error other => simpa [outcome, Except.bind, Except.map] using failed
        | ok more => simp [outcome, Except.bind, Except.map] at failed
      obtain ⟨clash, isCause, twice⟩ := ih readsRest failedRest
      exact ⟨clash, isCause, by rwa [List.perm_middle.count_eq]⟩

end Loads

end StubServer.Endpoint
