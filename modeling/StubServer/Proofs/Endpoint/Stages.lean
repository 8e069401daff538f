import StubServer.Proofs.Endpoint.Compilation
import StubServer.Proofs.Json.Pointers
import StubServer.Proofs.Template.Agreement

/-! # Stages of a response

The templates of an endpoint are rendered stage by stage, each from the documents that the one before
has left: `TemplateSet.output` is what one of them comes to by itself, and `Renders` what the first few
of them make of a response.  Rendering succeeds when all three stages are through, and else it stops
at the first that fails, by itself or because its text is not what the stage asks for
(`TemplateSet.render_cases`).  The texts that stages ask for are the status codes (`IsStatus`) and the
mappings of scalars (`IsHeaderBlock`).
-/

namespace StubServer

open Template (runFrom runFrom_bind runFrom_get)

/-! ## Status codes -/

section Status

open Json (decimalValue)

variable {cs : List Char} {text : String} {code : Nat}

theorem decimalValue_zeros (zeros : Nat) (cs : List Char) :
    decimalValue (List.replicate zeros '0' ++ cs) = decimalValue cs := by
  induction zeros with
  | zero => rfl
  | succ n ih =>
    rw [List.replicate_succ, List.cons_append, ← ih]
    rfl

theorem exists_zeros (cs : List Char) :
    ∃ zeros rest, cs = List.replicate zeros '0' ++ rest ∧ rest.head? ≠ some '0' := by
  induction cs with
  | nil => exact ⟨0, [], rfl, by simp⟩
  | cons c rest ih =>
    by_cases isZero : c = '0'
    · obtain ⟨zeros, rest, rfl, head⟩ := ih
      exact ⟨zeros + 1, rest, by rw [isZero, List.replicate_succ, List.cons_append], head⟩
    · exact ⟨0, c :: rest, rfl, by simpa using isZero⟩

/-- Digits of a number that is not zero are its own, behind zeros. -/
theorem decimalValue_eq_iff (positive : 0 < code) :
    (cs ≠ [] ∧ (∀ c ∈ cs, c.isDigit = true) ∧ decimalValue cs = code) ↔
      ∃ zeros, cs = List.replicate zeros '0' ++ Nat.toDigits 10 code := by
  constructor
  · rintro ⟨_, digits, rfl⟩
    obtain ⟨zeros, rest, rfl, head⟩ := exists_zeros cs
    rw [decimalValue_zeros] at positive ⊢
    have notEmpty : rest ≠ [] := by
      rintro rfl
      cases positive
    have plain : ∀ next more, rest ≠ '0' :: next :: more := by
      rintro next more rfl
      exact head rfl
    exact ⟨zeros, by rw [Json.toDigits_decimalValue notEmpty (List.forall_mem_append.1 digits).2 plain]⟩
  · rintro ⟨zeros, rfl⟩
    refine ⟨by simp [Nat.toDigits_ne_nil], List.forall_mem_append.2 ⟨fun c isZero => ?_, ?_⟩, ?_⟩
    · rw [List.eq_of_mem_replicate isZero]
      rfl
    · exact Json.digits_toDigits code
    · rw [decimalValue_zeros, Json.decimalValue_toDigits]

/-- The text is the number of a status code, perhaps with zeros and a sign in front, and with blanks
around it. -/
@[mk_iff]
structure IsStatus (text : String) (code : Nat) : Prop where
  least : 100 ≤ code
  greatest : code ≤ 999
  written : ∃ sign zeros, (sign = [] ∨ sign = ['+']) ∧
    (Text.trim text).toList = sign ++ (List.replicate zeros '0' ++ Nat.toDigits 10 code)

/-- What stands behind a plus sign, if there is one. -/
def unsigned : List Char → List Char
  | '+' :: rest => rest
  | cs => cs

theorem unsigned_eq_iff {digits : List Char} (noSign : digits.head? ≠ some '+') :
    unsigned cs = digits ↔ ∃ sign, (sign = [] ∨ sign = ['+']) ∧ cs = sign ++ digits := by
  constructor
  · rintro rfl
    unfold unsigned
    split
    · exact ⟨['+'], .inr rfl, rfl⟩
    · exact ⟨[], .inl rfl, rfl⟩
  · rintro ⟨sign, rfl | rfl, rfl⟩
    · unfold unsigned
      split
      · exact absurd rfl noSign
      · rfl
    · rfl

theorem readStatus?_eq_some_iff : readStatus? text = some code ↔ IsStatus text code := by
  generalize isDigits : unsigned (Text.trim text).toList = digits at *
  have asRead : readStatus? text = some code ↔ 100 ≤ code ∧ code ≤ 999 ∧
      digits ≠ [] ∧ (∀ c ∈ digits, c.isDigit = true) ∧ decimalValue digits = code := by
    have unfolded : readStatus? text =
        if digits.isEmpty || !digits.all Char.isDigit then none
        else if 100 ≤ decimalValue digits ∧ decimalValue digits ≤ 999 then some (decimalValue digits)
        else none := by
      rw [← isDigits]
      rfl
    rw [unfolded, Option.ite_none_left_eq_some, Option.ite_none_right_eq_some, Option.some.injEq]
    simp only [Bool.or_eq_true, List.isEmpty_iff, Bool.not_eq_true', not_or, Bool.not_eq_false,
      List.all_eq_true]
    constructor
    · rintro ⟨⟨notEmpty, areDigits⟩, ⟨least, greatest⟩, rfl⟩
      exact ⟨least, greatest, notEmpty, areDigits, rfl⟩
    · rintro ⟨least, greatest, notEmpty, areDigits, rfl⟩
      exact ⟨⟨notEmpty, areDigits⟩, ⟨least, greatest⟩, rfl⟩
  rw [asRead, isStatus_iff]
  refine and_congr_right fun least => and_congr_right fun _ => ?_
  rw [decimalValue_eq_iff (by omega), exists_comm, ← isDigits]
  refine exists_congr fun zeros => unsigned_eq_iff ?_
  -- a digit is no sign
  intro isSign
  have isDigit : ('+').isDigit = true := by
    rcases List.mem_append.1 (List.mem_of_mem_head? isSign) with isZero | inDigits
    · cases List.eq_of_mem_replicate isZero
    · exact Json.digits_toDigits code _ inDigits
  cases isDigit

end Status

/-! ## Blocks of headers -/

section Headers

open Yaml (Value)

/-- The entry has scalars for its name and its value, which are those of the row. -/
structure IsRow (entry : Value × Value) (row : String × String) : Prop where
  name : entry.1.scalarText? = some row.1
  value : entry.2.scalarText? = some row.2

/-- The text is a mapping of scalars, or nothing but blanks. -/
inductive IsHeaderBlock (text : String) : List (String × String) → Prop
  | blank (isBlank : Text.isAllBlank text = true) : IsHeaderBlock text []
  | mapping {entries : List (Value × Value)} {rows : List (String × String)}
      (notBlank : ¬ Text.isAllBlank text = true) (isMapping : Yaml.mapping? text = some entries)
      (scalars : List.Forall₂ IsRow entries rows) : IsHeaderBlock text rows

variable {text : String} {rows : List (String × String)}

theorem readHeaderEntries_eq_ok_iff {entries : List (Value × Value)} :
    readHeaderEntries entries = .ok rows ↔ List.Forall₂ IsRow entries rows := by
  induction entries generalizing rows with
  | nil => simp [readHeaderEntries, eq_comm]
  | cons entry rest ih =>
    obtain ⟨name, value⟩ := entry
    rw [List.forall₂_cons_left_iff, readHeaderEntries]
    constructor
    · intro read
      cases isName : name.scalarText? with
      | none => simp [isName] at read
      | some nameText =>
        cases isValue : value.scalarText? with
        | none => simp [isName, isValue] at read
        | some valueText =>
          cases readRest : readHeaderEntries rest with
          | error reason => simp [isName, isValue, readRest] at read
          | ok more =>
            simp only [isName, isValue, readRest, Except.ok.injEq] at read
            exact ⟨(nameText, valueText), more, ⟨isName, isValue⟩, ih.1 readRest, read.symm⟩
    · rintro ⟨row, more, isRow, scalars, rfl⟩
      simp [isRow.name, isRow.value, ih.2 scalars]

theorem readHeaderBlock_eq_ok_iff : readHeaderBlock text = .ok rows ↔ IsHeaderBlock text rows := by
  unfold readHeaderBlock
  by_cases isBlank : Text.isAllBlank text = true
  · rw [if_pos isBlank, Except.ok.injEq]
    constructor
    · rintro rfl
      exact .blank isBlank
    · intro isBlock
      cases isBlock with
      | blank => rfl
      | mapping notBlank => exact absurd isBlank notBlank
  · rw [if_neg isBlank]
    constructor
    · intro read
      cases isMapping : Yaml.mapping? text with
      | none => simp [isMapping] at read
      | some entries =>
        simp only [isMapping] at read
        exact .mapping isBlank isMapping (readHeaderEntries_eq_ok_iff.1 read)
    · intro isBlock
      cases isBlock with
      | blank isBlank' => exact absurd isBlank' isBlank
      | mapping _ isMapping scalars => simp only [isMapping, readHeaderEntries_eq_ok_iff.2 scalars]

end Headers

/-! ## Stages -/

namespace Stage

/-- The order in which the stages are rendered. -/
def order : List Stage := [.headers, .status, .body]

/-- What the template of the stage has given, if there is one, can be made the stage's part of the
response. -/
def Accepts (x : Rendered) : Stage → Option String → Prop
  | .headers, none => x.headers = []
  | .headers, some text => IsHeaderBlock text x.headers
  | .status, none => False
  | .status, some text => IsStatus text x.status
  | .body, text? => x.body = text?.getD ""

/-- The reason for which the stage refuses a text. -/
def Refuses (reason : RenderReason) : Stage → String → Prop
  | .headers, text => readHeaderBlock text = .error reason
  | .status, text => reason = .notAStatus (Text.trim text)
  | .body, _ => False

end Stage

namespace TemplateSet

section Rendering

variable (set : TemplateSet) (now : Time.Instant) (data : Json) (id : String)

/-- What the template of a stage comes to, if there is one, and what it leaves. -/
def output (stage : Stage) (r : Resources) : Option (Except Template.Failure String) × Resources :=
  match Table.get? set.templates (templateName id stage) with
  | none => (none, r)
  | some t =>
    let (store, chance, result) :=
      t.render ⟨data, set.endpointIds, set.templates, now⟩ r.store r.chance
    (some result, ⟨store, chance⟩)

/-- The templates of the stages, one after the other, have given parts of the response `x`. -/
inductive Renders (x : Rendered) : List Stage → Resources → Resources → Prop
  | nil {r : Resources} : Renders x [] r r
  | cons {stage : Stage} {rest : List Stage} {r r' r'' : Resources} (text? : Option String)
      (gives : set.output now data id stage r = (text?.map .ok, r')) (accepts : stage.Accepts x text?)
      (others : Renders x rest r' r'') : Renders x (stage :: rest) r r''

/-- The stage fails: its template, or what it has given. -/
inductive Fails (r : Resources) : Stage → RenderReason → Resources → Prop
  | template {stage : Stage} {failure : Template.Failure} {r' : Resources}
      (fails : set.output now data id stage r = (some (.error failure), r')) :
      Fails r stage (.template failure) r'
  | refused {stage : Stage} {text : String} {reason : RenderReason} {r' : Resources}
      (gives : set.output now data id stage r = (some (.ok text), r'))
      (refused : ∀ x, ¬ stage.Accepts x (some text)) (isReason : stage.Refuses reason text) :
      Fails r stage reason r'

/-- The stage is the first that fails; `r'` is what it leaves. -/
def FailsFirst (r : Resources) (stage : Stage) (reason : RenderReason) (r' : Resources) : Prop :=
  ∃ x before after middle, Stage.order = before ++ stage :: after ∧
    set.Renders now data id x before r middle ∧ set.Fails now data id middle stage reason r'

variable {set now data id}

theorem Renders.append {x : Rendered} {stages more : List Stage} {r r' r'' : Resources}
    (first : set.Renders now data id x stages r r') (rest : set.Renders now data id x more r' r'') :
    set.Renders now data id x (stages ++ more) r r'' := by
  induction first with
  | nil => exact rest
  | cons text? gives accepts _ ih => exact .cons text? gives accepts (ih rest)

theorem Renders.exists_isStatus {x : Rendered} {stages : List Stage} {r r' : Resources}
    (renders : set.Renders now data id x stages r r') (through : .status ∈ stages) :
    ∃ text, IsStatus text x.status := by
  induction renders with
  | nil => cases through
  | cons text? _ accepts _ ih =>
    rcases List.mem_cons.1 through with rfl | inRest
    · cases text? with
      | none => exact accepts.elim
      | some text => exact ⟨text, accepts⟩
    · exact ih inRest

/-! ## Rendering a stage -/

theorem runFrom_renderStage (stage : Stage) (r : Resources) :
    runFrom (set.renderStage now data id stage) r =
      match set.output now data id stage r with
      | (none, r') => (.ok none, r')
      | (some (.ok text), r') => (.ok (some text), r')
      | (some (.error failure), r') => (.error ⟨id, stage, .template failure⟩, r') := by
  unfold renderStage output
  cases Table.get? set.templates (templateName id stage) with
  | none => rfl
  | some t =>
    dsimp only
    rw [runFrom_bind, runFrom_get]
    dsimp only
    rcases t.render ⟨data, set.endpointIds, set.templates, now⟩ r.store r.chance with
      ⟨store, chance, _ | _⟩ <;> rfl

theorem headers_cases (r : Resources) :
    (∃ rows r', runFrom (set.renderHeaders now data id) r = (.ok rows, r') ∧
      ∀ x : Rendered, x.headers = rows → set.Renders now data id x [.headers] r r') ∨
    ∃ reason r', runFrom (set.renderHeaders now data id) r = (.error ⟨id, .headers, reason⟩, r') ∧
      set.Fails now data id r .headers reason r' := by
  unfold renderHeaders
  rw [runFrom_bind, runFrom_renderStage]
  rcases gives : set.output now data id .headers r with ⟨_ | failure | text, r'⟩
  · exact .inl ⟨[], r', rfl, fun x isPart => .cons none gives isPart .nil⟩
  · exact .inr ⟨_, r', rfl, .template gives⟩
  · cases read : readHeaderBlock text with
    | ok rows =>
      have isBlock : IsHeaderBlock text rows := readHeaderBlock_eq_ok_iff.1 read
      refine .inl ⟨rows, r', by simp only [read]; rfl, fun x isPart => ?_⟩
      subst isPart
      exact .cons (some text) gives isBlock .nil
    | error reason =>
      refine .inr ⟨reason, r', by simp only [read]; rfl, .refused gives (fun x isBlock => ?_) read⟩
      rw [readHeaderBlock_eq_ok_iff.2 isBlock] at read
      cases read

theorem status_cases (compiled : (Table.get? set.templates (templateName id .status)).isSome)
    (r : Resources) :
    (∃ code r', runFrom (set.renderStatus now data id) r = (.ok code, r') ∧
      ∀ x : Rendered, x.status = code → set.Renders now data id x [.status] r r') ∨
    ∃ reason r', runFrom (set.renderStatus now data id) r = (.error ⟨id, .status, reason⟩, r') ∧
      set.Fails now data id r .status reason r' := by
  unfold renderStatus
  rw [runFrom_bind, runFrom_renderStage]
  rcases gives : set.output now data id .status r with ⟨_ | failure | text, r'⟩
  · -- there is a template
    obtain ⟨t, found⟩ := Option.isSome_iff_exists.1 compiled
    simp [output, found] at gives
  · exact .inr ⟨_, r', rfl, .template gives⟩
  · cases read : readStatus? text with
    | some code =>
      have isStatus : IsStatus text code := readStatus?_eq_some_iff.1 read
      refine .inl ⟨code, r', by simp only [read]; rfl, fun x isPart => ?_⟩
      subst isPart
      exact .cons (some text) gives isStatus .nil
    | none =>
      refine .inr ⟨_, r', by simp only [read]; rfl, .refused gives (fun x isStatus => ?_) rfl⟩
      rw [readStatus?_eq_some_iff.2 isStatus] at read
      cases read

theorem body_cases (r : Resources) :
    (∃ text? r', runFrom (set.renderStage now data id .body) r = (.ok text?, r') ∧
      ∀ x : Rendered, x.body = text?.getD "" → set.Renders now data id x [.body] r r') ∨
    ∃ reason r', runFrom (set.renderStage now data id .body) r = (.error ⟨id, .body, reason⟩, r') ∧
      set.Fails now data id r .body reason r' := by
  rw [runFrom_renderStage]
  rcases gives : set.output now data id .body r with ⟨_ | failure | text, r'⟩
  · exact .inl ⟨none, r', rfl, fun x isPart => .cons none gives isPart .nil⟩
  · exact .inr ⟨_, r', rfl, .template gives⟩
  · exact .inl ⟨some text, r', rfl, fun x isPart => .cons (some text) gives isPart .nil⟩

/-- Rendering goes through all stages, or stops at the first that fails. -/
theorem render_cases (compiled : (Table.get? set.templates (templateName id .status)).isSome)
    (now : Time.Instant) (data : Json) (r : Resources) :
    (∃ x r', runFrom (set.render now data id) r = (.ok x, r') ∧
      set.Renders now data id x Stage.order r r') ∨
    ∃ stage reason r', runFrom (set.render now data id) r = (.error ⟨id, stage, reason⟩, r') ∧
      set.FailsFirst now data id r stage reason r' := by
  unfold render
  rw [runFrom_bind]
  rcases headers_cases r with ⟨rows, r₁, ran, headers⟩ | ⟨reason, r₁, ran, fails⟩
  · rw [ran]
    dsimp only
    rw [runFrom_bind]
    rcases status_cases compiled r₁ with ⟨code, r₂, ran, status⟩ | ⟨reason, r₂, ran, fails⟩
    · rw [ran]
      dsimp only
      rw [runFrom_bind]
      -- what the body is to be is still open here
      have both (x : Rendered) (isHeaders : x.headers = rows) (isStatus : x.status = code) :
          set.Renders now data id x [.headers, .status] r r₂ :=
        (headers x isHeaders).append (status x isStatus)
      rcases body_cases r₂ with ⟨text?, r₃, ran, body⟩ | ⟨reason, r₃, ran, fails⟩
      · rw [ran]
        let x : Rendered := ⟨code, rows, text?.getD ""⟩
        exact .inl ⟨x, r₃, rfl, (both x rfl rfl).append (body x rfl)⟩
      · rw [ran]
        have first : set.FailsFirst now data id r .body reason r₃ :=
          ⟨⟨code, rows, ""⟩, [.headers, .status], [], r₂, rfl, both _ rfl rfl, fails⟩
        exact .inr ⟨.body, reason, r₃, rfl, first⟩
    · rw [ran]
      have first : set.FailsFirst now data id r .status reason r₂ :=
        ⟨⟨0, rows, ""⟩, [.headers], [.body], r₁, rfl, headers _ rfl, fails⟩
      exact .inr ⟨.status, reason, r₂, rfl, first⟩
  · rw [ran]
    have first : set.FailsFirst now data id r .headers reason r₁ :=
      ⟨⟨0, [], ""⟩, [], [.status, .body], r, rfl, .nil, fails⟩
    exact .inr ⟨.headers, reason, r₁, rfl, first⟩

end Rendering

end TemplateSet

end StubServer
