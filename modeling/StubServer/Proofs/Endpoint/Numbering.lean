import StubServer.Proofs.Endpoint.Repetition

/-! # Numbers of generated ids

A load looks at its definitions in order, up to the first that it refuses (`visited`), and takes a
number from the counter for each of these that declares no id, also for the one that it refuses
(`counter_loadFrom`).  The next load goes on from there, whatever this one has come to.  So the ids
that are generated in a run of loads are numbered without a gap and without a repetition
(`handedOut_eq`), and those of one load stand in the order of the definitions (`ids_of_loads`).
-/

namespace StubServer.Endpoint

open Config (EndpointDefinition)

/-! ## How far a load gets -/

/-- The definitions that a load looks at when the ids `used` are taken. -/
def visited (counter : Nat) (used : List String) :
    List (String × EndpointDefinition) → List (String × EndpointDefinition)
  | [] => []
  | (mock, d) :: rest =>
    let (id, counter) := chooseId counter d.id
    if id ∈ used then [(mock, d)]
    else
      match compile id mock d with
      | .error _ => [(mock, d)]
      | .ok _ => (mock, d) :: visited counter (id :: used) rest

/-- Why a definition is refused behind others, which have the ids `used`. -/
inductive Named.Refused (n : Named) (used : List String) : LoadError → Prop
  | duplicate (isUsed : n.id ∈ used) : Refused n used (.duplicateId n.id)
  | unreadable {cause : LoadError} (isNew : n.id ∉ used) (fails : n.read = .error cause) :
      Refused n used cause

/-- What a load comes to when it has looked at the definitions `seen`: at all of them, which are then
read under distinct ids; or at one that is refused, and at those before it, which would have been
read. -/
inductive ComesTo (counter : Nat) (used : List String) (defs : List (String × EndpointDefinition)) :
    List (String × EndpointDefinition) → Except LoadError (List Endpoint) → Prop
  | loaded {es : List Endpoint} (isNew : ∀ id ∈ ids counter defs, id ∉ used)
      (distinct : (ids counter defs).Nodup)
      (reads : List.Forall₂ (fun n e => n.read = .ok e) (named counter defs) es) :
      ComesTo counter used defs defs (.ok es)
  | refused {before after : List (String × EndpointDefinition)} {row : String × EndpointDefinition}
      {n : Named} {cause : LoadError} (split : defs = before ++ row :: after)
      (isNext : named counter (before ++ [row]) = named counter before ++ [n])
      (isNew : ∀ id ∈ ids counter before, id ∉ used) (distinct : (ids counter before).Nodup)
      (reads : ∀ m ∈ named counter before, ∃ e, m.read = .ok e)
      (refuses : n.Refused (used ++ ids counter before) cause) :
      ComesTo counter used defs (before ++ [row]) (.error cause)

section First

variable {counter next : Nat} {used : List String} {id mock : String} {d : EndpointDefinition}
  {rest seen : List (String × EndpointDefinition)} (chosen : chooseId counter d.id = (id, next))

include chosen

theorem comesTo_of_refused {cause : LoadError} (refuses : Named.Refused ⟨id, mock, d⟩ used cause) :
    ComesTo counter used ((mock, d) :: rest) [(mock, d)] (.error cause) := by
  have first : named counter [(mock, d)] = [⟨id, mock, d⟩] := named_cons chosen
  have noneBefore : used ++ ids counter [] = used := List.append_nil used
  have split : (mock, d) :: rest = [] ++ (mock, d) :: rest := rfl
  exact .refused split first (List.forall_mem_nil _) List.nodup_nil (List.forall_mem_nil _)
    (noneBefore.symm ▸ refuses)

/-- What a load comes to behind a definition that is read. -/
theorem ComesTo.behind (isNew : id ∉ used) {e : Endpoint} (read : compile id mock d = .ok e)
    {result : Except LoadError (List Endpoint)} (later : ComesTo next (id :: used) rest seen result) :
    ComesTo counter used ((mock, d) :: rest) ((mock, d) :: seen) (result.map (e :: ·)) := by
  cases later with
  | @loaded es isNewLater distinct reads =>
    have all := new_cons.2 ⟨isNew, isNewLater, distinct⟩
    rw [← ids_cons chosen] at all
    refine .loaded all.1 all.2 ?_
    rw [named_cons chosen]
    exact .cons read reads
  | @refused before after row n cause split isNext isNewLater distinct reads refuses =>
    have all := new_cons.2 ⟨isNew, isNewLater, distinct⟩
    rw [← ids_cons chosen] at all
    have readsAll : ∀ m ∈ named counter ((mock, d) :: before), ∃ e, m.read = .ok e := by
      rw [named_cons chosen]
      exact List.forall_mem_cons.2 ⟨⟨e, read⟩, reads⟩
    have isNextAll : named counter ((mock, d) :: before ++ [row]) =
        named counter ((mock, d) :: before) ++ [n] := by
      rw [List.cons_append, named_cons chosen, named_cons chosen, isNext]
      rfl
    -- the id of the first is now among those before, no longer among those taken from the start
    have perm : (id :: used ++ ids next before).Perm (used ++ ids counter ((mock, d) :: before)) := by
      rw [ids_cons chosen]
      exact List.perm_middle.symm
    have splitAll : (mock, d) :: rest = (mock, d) :: before ++ row :: after := congrArg _ split
    refine .refused splitAll isNextAll all.1 all.2 readsAll ?_
    cases refuses with
    | duplicate isUsed => exact .duplicate (perm.mem_iff.1 isUsed)
    | unreadable notUsed fails => exact .unreadable (fun isUsed => notUsed (perm.mem_iff.2 isUsed)) fails

end First

/-- What a load comes to, by the definitions that it looks at. -/
theorem comesTo_visited (counter : Nat) (used : List String)
    (defs : List (String × EndpointDefinition)) :
    ComesTo counter used defs (visited counter used defs) (loadFrom counter used defs).2 := by
  induction defs generalizing counter used with
  | nil => exact .loaded (List.forall_mem_nil _) List.nodup_nil .nil
  | cons row rest ih =>
    obtain ⟨mock, d⟩ := row
    rcases chosen : chooseId counter d.id with ⟨id, next⟩
    rw [loadFrom_cons chosen, visited, chosen]
    dsimp only
    by_cases isUsed : id ∈ used
    · rw [if_pos isUsed, if_pos isUsed]
      exact comesTo_of_refused chosen (.duplicate isUsed)
    rw [if_neg isUsed, if_neg isUsed]
    cases read : compile id mock d with
    | error cause => exact comesTo_of_refused chosen (.unreadable isUsed read)
    | ok e => exact (ih next (id :: used)).behind chosen isUsed read

theorem ComesTo.of_ok {counter : Nat} {used : List String}
    {defs seen : List (String × EndpointDefinition)} {es : List Endpoint}
    (comesTo : ComesTo counter used defs seen (.ok es)) :
    seen = defs ∧ (ids counter defs).Nodup ∧
      List.Forall₂ (fun n e => n.read = .ok e) (named counter defs) es := by
  cases comesTo with
  | loaded _ distinct reads => exact ⟨rfl, distinct, reads⟩

/-! ## The counter -/

theorem undeclared_cons {counter next : Nat} {id mock : String} {d : EndpointDefinition}
    (chosen : chooseId counter d.id = (id, next)) (rest : List (String × EndpointDefinition)) :
    counter + undeclared ((mock, d) :: rest) = next + undeclared rest := by
  cases declared : d.id with
  | some other =>
    rw [declared] at chosen
    cases chosen
    rw [undeclared_of_declared declared]
  | none =>
    rw [declared] at chosen
    cases chosen
    rw [undeclared_of_none declared]
    omega

/-- A load takes one number for each definition without an id that it looks at. -/
theorem counter_loadFrom (counter : Nat) (used : List String)
    (defs : List (String × EndpointDefinition)) :
    (loadFrom counter used defs).1 = counter + undeclared (visited counter used defs) := by
  induction defs generalizing counter used with
  | nil => rfl
  | cons row rest ih =>
    obtain ⟨mock, d⟩ := row
    rcases chosen : chooseId counter d.id with ⟨id, next⟩
    have one : next = counter + undeclared [(mock, d)] := by
      rw [undeclared_cons chosen []]
      rfl
    rw [loadFrom, visited, chosen]
    dsimp only
    -- the number is taken before the definition is looked at, so a refused one counts as well
    by_cases isUsed : id ∈ used
    · rw [if_pos (by simpa using isUsed), if_pos isUsed]
      exact one
    rw [if_neg (by simpa using isUsed), if_neg isUsed]
    cases read : compile id mock d with
    | error cause => exact one
    | ok e =>
      dsimp only
      rw [undeclared_cons chosen, ← ih next (id :: used)]
      rcases loadFrom next (id :: used) rest with ⟨last, _ | _⟩ <;> rfl

/-- The ids that definitions get from the counter, in their order. -/
def givenOut (counter : Nat) (defs : List (String × EndpointDefinition)) : List String :=
  ((named counter defs).filter fun n => n.definition.id.isNone).map (·.id)

theorem givenOut_eq (counter : Nat) (defs : List (String × EndpointDefinition)) :
    givenOut counter defs = generatedIds counter (undeclared defs) := by
  induction defs generalizing counter with
  | nil => rfl
  | cons row rest ih =>
    obtain ⟨mock, d⟩ := row
    cases declared : d.id with
    | some id =>
      have chosen : chooseId counter d.id = (id, counter) := declared ▸ rfl
      have same : givenOut counter ((mock, d) :: rest) = givenOut counter rest := by
        simp [givenOut, named_cons chosen, declared]
      rw [same, undeclared_of_declared declared, ih]
    | none =>
      have chosen : chooseId counter d.id = (generatedId (counter + 1), counter + 1) := declared ▸ rfl
      have more : givenOut counter ((mock, d) :: rest) =
          generatedId (counter + 1) :: givenOut (counter + 1) rest := by
        simp [givenOut, named_cons chosen, declared]
      rw [more, undeclared_of_none declared, generatedIds_succ, ih]

/-! ## Runs of loads -/

/-- The counter after a run of loads. -/
def counterAfter (counter : Nat) (configs : List Config) : Nat :=
  configs.foldl (fun counter config => (load counter config).1) counter

/-- All ids that a run of loads takes from the counter, also those of loads that fail. -/
def handedOut (counter : Nat) : List Config → List String
  | [] => []
  | config :: rest =>
    givenOut counter (visited counter [] config.definitions) ++
      handedOut (load counter config).1 rest

theorem counterAfter_concat (counter : Nat) (configs : List Config) (config : Config) :
    counterAfter counter (configs ++ [config]) = (load (counterAfter counter configs) config).1 := by
  rw [counterAfter, List.foldl_append]
  rfl

theorem generatedIds_append (counter m n : Nat) :
    generatedIds counter m ++ generatedIds (counter + m) n = generatedIds counter (m + n) := by
  have numbers : List.range' (counter + 1) m ++ List.range' (counter + m + 1) n =
      List.range' (counter + 1) (m + n) := by
    rw [show counter + m + 1 = counter + 1 + m by omega]
    exact List.range'_append_1 ..
  rw [generatedIds, generatedIds, ← List.map_append, numbers]
  rfl

theorem handedOut_eq (counter : Nat) (configs : List Config) :
    ∃ n, counterAfter counter configs = counter + n ∧
      handedOut counter configs = generatedIds counter n := by
  induction configs generalizing counter with
  | nil => exact ⟨0, rfl, rfl⟩
  | cons config rest ih =>
    let m := undeclared (visited counter [] config.definitions)
    have moved : (load counter config).1 = counter + m := counter_loadFrom ..
    obtain ⟨n, after, others⟩ := ih (counter + m)
    refine ⟨m + n, ?_, ?_⟩
    · rw [counterAfter, List.foldl_cons, moved, ← Nat.add_assoc]
      exact after
    · rw [handedOut, moved, givenOut_eq, others]
      exact generatedIds_append ..

/-- The endpoint is what the definition reads as under its id, which is the declared one if there is
one. -/
structure Keeps (row : String × EndpointDefinition) (e : Endpoint) : Prop where
  read : compile e.id row.1 row.2 = .ok e
  id_eq : ∀ id, row.2.id = some id → e.id = id

/-- The ids of the endpoints whose definitions declare none, in their order. -/
def openIds (defs : List (String × EndpointDefinition)) (es : List Endpoint) : List String :=
  ((defs.zip es).filter fun pair => pair.1.2.id.isNone).map fun pair => pair.2.id

theorem keeps_of_reads {counter : Nat} {defs : List (String × EndpointDefinition)}
    {es : List Endpoint} (reads : List.Forall₂ (fun n e => n.read = .ok e) (named counter defs) es) :
    List.Forall₂ Keeps defs es ∧ openIds defs es = givenOut counter defs := by
  induction defs generalizing counter es with
  | nil =>
    cases reads
    exact ⟨.nil, rfl⟩
  | cons row rest ih =>
    obtain ⟨mock, d⟩ := row
    rcases chosen : chooseId counter d.id with ⟨id, next⟩
    rw [named_cons chosen] at reads
    obtain ⟨e, more, read, readsRest, rfl⟩ := List.forall₂_cons_left_iff.1 reads
    obtain ⟨keepsRest, openRest⟩ := ih readsRest
    have isId : e.id = id := id_compile read
    subst isId
    have keeps : Keeps (mock, d) e := by
      refine ⟨read, fun declared isDeclared => ?_⟩
      rw [isDeclared] at chosen
      cases chosen
      rfl
    refine ⟨.cons keeps keepsRest, ?_⟩
    -- the first endpoint stands in both lists or in none
    simp only [openIds, givenOut, named_cons chosen] at openRest ⊢
    cases isOpen : d.id.isNone with
    | true => simpa [isOpen] using openRest
    | false => simpa [isOpen] using openRest

/-- In any run of loads with one counter, the ids that are taken from the counter, by loads that succeed
and by loads that fail, are numbered in the order in which they are taken, without a gap; so none comes
twice.  Every load takes one for each definition without an id that it looks at.  A load that succeeds
has looked at all definitions; it gives their endpoints in the order of declaration, under the ids that
they declare and the next ids of the counter, and no two under the same. -/
theorem ids_of_loads (start : Nat) (configs : List Config) :
    (∃ n, counterAfter start configs = start + n ∧ handedOut start configs = generatedIds start n) ∧
    (handedOut start configs).Nodup ∧
    ∀ config,
      let counter := counterAfter start configs
      let defs := config.definitions
      let seen := visited counter [] defs
      ComesTo counter [] defs seen (load counter config).2 ∧
      counterAfter start (configs ++ [config]) = counter + undeclared seen ∧
      ∀ es, (load counter config).2 = .ok es →
        seen = defs ∧ List.Forall₂ Keeps defs es ∧ (es.map (·.id)).Nodup ∧
        openIds defs es = generatedIds counter (undeclared defs) := by
  obtain ⟨n, after, numbered⟩ := handedOut_eq start configs
  refine ⟨⟨n, after, numbered⟩, numbered ▸ nodup_generatedIds start n, fun config => ?_⟩
  intro counter defs seen
  have comesTo : ComesTo counter [] defs seen (load counter config).2 := comesTo_visited counter [] defs
  have moved : (load counter config).1 = counter + undeclared seen := counter_loadFrom counter [] defs
  refine ⟨comesTo, by rw [counterAfter_concat, moved], fun es loaded => ?_⟩
  rw [loaded] at comesTo
  obtain ⟨seenAll, distinct, reads⟩ := comesTo.of_ok
  obtain ⟨keeps, opened⟩ := keeps_of_reads reads
  refine ⟨seenAll, keeps, ?_, by rw [opened, givenOut_eq]⟩
  rw [map_id_of_read reads]
  exact distinct

/-- A load that fails has used up the first id, so the next load begins with the second. -/
theorem ids_of_loads_failure :
    let failing := twoPages "endpoint-1"
    let config := twoPages "about"
    (load 0 failing).2 = .error (.duplicateId "endpoint-1") ∧
      ∃ es, (load (counterAfter 0 [failing]) config).2 = .ok es ∧ (es.map (·.id)).Nodup ∧
        openIds config.definitions es = ["endpoint-2"] ∧
        handedOut 0 [failing, config] = ["endpoint-1", "endpoint-2"] := by
  intro failing config
  have failed : (load 0 failing).2 = .error (.duplicateId "endpoint-1") := by cbv
  have moved : counterAfter 0 [failing] = 1 := by cbv
  obtain ⟨es, loaded⟩ : ∃ es, (load 1 config).2 = .ok es := ⟨_, by cbv⟩
  rw [← moved] at loaded
  obtain ⟨_, _, onLoad⟩ := ids_of_loads 0 [failing]
  obtain ⟨_, _, onSuccess⟩ := onLoad config
  obtain ⟨_, _, distinct, opened⟩ := onSuccess es loaded
  rw [moved] at opened
  exact ⟨failed, es, loaded, distinct, opened.trans (by cbv), by cbv⟩

end StubServer.Endpoint
