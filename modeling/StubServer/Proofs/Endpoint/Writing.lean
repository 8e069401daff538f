import StubServer.Endpoint.Response

/-! # Headers of a response

Headers that are rendered come behind those that are there already, each under its name in small
letters (`appendHeaders_eq_ok_iff`), up to the first row that no header can be, which is reported
(`appendHeaders_eq_error_iff`).  When rendering fails, or renders such a row, nothing of it is sent: the
response keeps the headers that were there and makes plain text its one content type
(`ofRendering_of_failsWith`).  So a response has all of the rendered headers or none
(`ofRendering_allOrNothing`), and the first value of a name outlasts both ways of writing it, but for a
content type that gives way to plain text (`head?_values_ofRendering`).
-/

namespace StubServer

/-! ## Values of a name -/

namespace Http.Headers

theorem values_append (hs more : Headers) (name : String) :
    (hs ++ more : Headers).values name = hs.values name ++ more.values name :=
  List.filterMap_append

theorem values_cons (line value : String) (rest : Headers) (name : String) :
    values ((line, value) :: rest) name =
      if line = name then value :: values rest name else values rest name := by
  by_cases same : line = name <;> simp [values, same]

theorem values_remove (hs : Headers) (name other : String) :
    (hs.remove name).values other = if other = name then [] else hs.values other := by
  induction hs with
  | nil => simp [remove, values]
  | cons first rest ih =>
    obtain ⟨line, value⟩ := first
    have kept : remove ((line, value) :: rest) name =
        if line = name then remove rest name else (line, value) :: remove rest name := by
      by_cases same : line = name <;> simp [remove, same]
    rw [kept, values_cons]
    by_cases isName : line = name
    · -- the line is dropped, which shows only to those who ask for its name
      subst isName
      rw [if_pos rfl, ih]
      by_cases asked : other = line
      · rw [if_pos asked, if_pos asked]
      · rw [if_neg asked, if_neg asked, if_neg (Ne.symm asked)]
    · rw [if_neg isName, values_cons, ih]
      by_cases asked : other = name
      · have different : line ≠ other := fun same => isName (same.trans asked)
        rw [if_pos asked, if_neg different, if_pos asked]
      · rw [if_neg asked, if_neg asked]

theorem values_set (hs : Headers) (name value other : String) :
    (hs.set name value).values other = if other = name then [value] else hs.values other := by
  rw [set, values_append, values_remove]
  by_cases asked : other = name
  · subst asked
    simp [values]
  · simp [values, asked, Ne.symm asked]

end Http.Headers

/-! ## Rendered headers -/

namespace Rendered

/-- A header can have the name and the value. -/
def IsHeader (row : String × String) : Prop :=
  Http.isHeaderName row.1 = true ∧ Http.isHeaderValue row.2 = true

instance : DecidablePred IsHeader := fun _ => instDecidableAnd

/-- All that has been rendered as a header can be one. -/
def Sendable (r : Rendered) : Prop := ∀ row ∈ r.headers, IsHeader row

instance (r : Rendered) : Decidable r.Sendable :=
  inferInstanceAs (Decidable (∀ row ∈ r.headers, IsHeader row))

/-- The rows as lines of a message. -/
def lines (rows : List (String × String)) : Http.Headers :=
  rows.map fun row => (Text.asciiLower row.1, row.2)

/-- The values that the rows give to a name, in whatever case they write it. -/
def valuesUnder (rows : List (String × String)) (name : String) : List String :=
  (rows.filter fun row => Text.asciiLower row.1 = name).map (·.2)

theorem values_lines (rows : List (String × String)) (name : String) :
    (lines rows).values name = valuesUnder rows name := by
  induction rows with
  | nil => rfl
  | cons row rest ih =>
    rw [lines, List.map_cons, Http.Headers.values_cons, ← lines, ih]
    by_cases same : Text.asciiLower row.1 = name <;> simp [valuesUnder, same]

/-- Why a row can be no header: the name is looked at before the value. -/
def refusal (row : String × String) : RenderReason :=
  if Http.isHeaderName row.1 then .invalidValue (Text.asciiLower row.1) else .invalidName row.1

/-- The first of the rows that can be no header. -/
inductive FirstRefused : List (String × String) → String × String → Prop
  | here {row : String × String} {rest : List (String × String)} :
      ¬ IsHeader row → FirstRefused (row :: rest) row
  | later {first row : String × String} {rest : List (String × String)} :
      IsHeader first → FirstRefused rest row → FirstRefused (first :: rest) row

theorem headerName?_eq_some_iff {name lower : String} :
    Http.headerName? name = some lower ↔
      Http.isHeaderName name = true ∧ lower = Text.asciiLower name := by
  unfold Http.headerName?
  split
  · next isName => simp [isName, eq_comm]
  · next notName => simp [notName]

section Rows

variable {id : String} {base after : Http.Headers} {row : String × String}
  {rows rest : List (String × String)} {cause : RenderError}

theorem exists_firstRefused (refused : ¬ ∀ row ∈ rows, IsHeader row) :
    ∃ row, FirstRefused rows row := by
  induction rows with
  | nil => exact absurd (List.forall_mem_nil _) refused
  | cons first rest ih =>
    by_cases isHeader : IsHeader first
    · rw [List.forall_mem_cons, not_and] at refused
      obtain ⟨row, isFirst⟩ := ih (refused isHeader)
      exact ⟨row, .later isHeader isFirst⟩
    · exact ⟨first, .here isHeader⟩

theorem appendHeaders_of_isHeader (isHeader : IsHeader row) :
    appendHeaders id base (row :: rest) =
      appendHeaders id (base.append (Text.asciiLower row.1) row.2) rest := by
  have isName := headerName?_eq_some_iff.2 ⟨isHeader.1, rfl⟩
  simp only [appendHeaders, isName, isHeader.2, if_true]

theorem appendHeaders_of_refused (refused : ¬ IsHeader row) :
    appendHeaders id base (row :: rest) = .error ⟨id, .headers, refusal row⟩ := by
  by_cases isName : Http.isHeaderName row.1 = true
  · have notValue : ¬ Http.isHeaderValue row.2 = true := fun isValue => refused ⟨isName, isValue⟩
    have inSmall := headerName?_eq_some_iff.2 ⟨isName, rfl⟩
    simp [appendHeaders, inSmall, notValue, refusal, isName]
  · have noName : Http.headerName? row.1 = none := by rw [Http.headerName?, if_neg isName]
    simp [appendHeaders, noName, refusal, isName]

theorem appendHeaders_eq_ok_iff : appendHeaders id base rows = .ok after ↔
    (∀ row ∈ rows, IsHeader row) ∧ after = base ++ lines rows := by
  induction rows generalizing base with
  | nil => simp [appendHeaders, lines, eq_comm]
  | cons row rest ih =>
    rw [List.forall_mem_cons]
    by_cases isHeader : IsHeader row
    · rw [appendHeaders_of_isHeader isHeader, ih]
      simp [isHeader, lines, Http.Headers.append]
    · rw [appendHeaders_of_refused isHeader]
      simp [isHeader]

/-- An error is about the first row that can be no header, whatever has been appended before it. -/
theorem appendHeaders_eq_error_iff : appendHeaders id base rows = .error cause ↔
    ∃ row, FirstRefused rows row ∧ cause = ⟨id, .headers, refusal row⟩ := by
  induction rows generalizing base with
  | nil =>
    constructor
    · intro refused
      cases refused
    · rintro ⟨row, first, _⟩
      cases first
  | cons first rest ih =>
    by_cases isHeader : IsHeader first
    · -- what is reported is reported of the rest
      rw [appendHeaders_of_isHeader isHeader, ih]
      constructor
      · rintro ⟨row, isFirst, isCause⟩
        exact ⟨row, .later isHeader isFirst, isCause⟩
      · rintro ⟨row, isFirst, isCause⟩
        cases isFirst with
        | here refused => exact absurd isHeader refused
        | later _ isFirst => exact ⟨row, isFirst, isCause⟩
    · rw [appendHeaders_of_refused isHeader, Except.error.injEq]
      constructor
      · intro isCause
        exact ⟨first, .here isHeader, isCause.symm⟩
      · rintro ⟨row, isFirst, isCause⟩
        cases isFirst with
        | here _ => exact isCause.symm
        | later isHeader' _ => exact absurd isHeader' isHeader

end Rows

end Rendered

/-! ## Writing a response -/

namespace Http.Response

variable {base : Headers} {id : String} {outcome : Except RenderError Rendered} {r : Rendered}

theorem ofRendering_of_sendable (rendered : outcome = .ok r) (sendable : r.Sendable) :
    ofRendering base id outcome = ⟨r.status, base ++ Rendered.lines r.headers, r.body⟩ := by
  have appended : Rendered.appendHeaders id base r.headers = .ok (base ++ Rendered.lines r.headers) :=
    Rendered.appendHeaders_eq_ok_iff.2 ⟨sendable, rfl⟩
  have written : r.toResponse id base =
      .ok ⟨r.status, base ++ Rendered.lines r.headers, r.body⟩ := by
    rw [Rendered.toResponse, appended]
    rfl
  rw [ofRendering, rendered]
  simp only [Except.bind, written]

/-- What keeps a response from being sent as it was to be rendered. -/
inductive FailsWith (id : String) : Except RenderError Rendered → RenderError → Prop
  | rendering (cause : RenderError) : FailsWith id (.error cause) cause
  | header {r : Rendered} {row : String × String} : Rendered.FirstRefused r.headers row →
      FailsWith id (.ok r) ⟨id, .headers, Rendered.refusal row⟩

theorem exists_failsWith (failed : ∀ r, outcome = .ok r → ¬ r.Sendable) :
    ∃ cause, FailsWith id outcome cause := by
  cases outcome with
  | error cause => exact ⟨cause, .rendering cause⟩
  | ok r =>
    obtain ⟨row, isFirst⟩ := Rendered.exists_firstRefused (failed r rfl)
    exact ⟨_, .header isFirst⟩

theorem ofRendering_of_failsWith {cause : RenderError} (fails : FailsWith id outcome cause) :
    ofRendering base id outcome = .text 500 base cause.message := by
  cases fails with
  | rendering cause => rfl
  | @header r row isFirst =>
    have refused : r.toResponse id base = .error ⟨id, .headers, Rendered.refusal row⟩ := by
      rw [Rendered.toResponse, Rendered.appendHeaders_eq_error_iff.2 ⟨row, isFirst, rfl⟩]
      rfl
    rw [ofRendering]
    simp only [Except.bind, refused]
    rfl

theorem ofRendering_of_failed (failed : ∀ r, outcome = .ok r → ¬ r.Sendable) :
    ∃ cause : RenderError, ofRendering base id outcome = .text 500 base cause.message := by
  obtain ⟨cause, fails⟩ := exists_failsWith failed
  exact ⟨cause, ofRendering_of_failsWith fails⟩

/-- The first value of a name stays the first, except that a failure to render replaces the content
type. -/
theorem head?_values_ofRendering {label first : String}
    (present : (base.values label).head? = some first) :
    ((ofRendering base id outcome).headers.values label).head? = some first ↔
      label ≠ "content-type" ∨ (∃ r, outcome = .ok r ∧ r.Sendable) ∨
        first = "text/plain; charset=utf-8" := by
  by_cases succeeds : ∃ r, outcome = .ok r ∧ r.Sendable
  · obtain ⟨r, rendered, sendable⟩ := succeeds
    have stays : ((ofRendering base id outcome).headers.values label).head? = some first := by
      rw [ofRendering_of_sendable rendered sendable, Headers.values_append, List.head?_append, present]
      rfl
    exact ⟨fun _ => .inr (.inl ⟨r, rendered, sendable⟩), fun _ => stays⟩
  · have failed : ∀ r, outcome = .ok r → ¬ r.Sendable := fun r rendered sendable =>
      succeeds ⟨r, rendered, sendable⟩
    obtain ⟨cause, response⟩ : ∃ cause : RenderError,
        ofRendering base id outcome = .text 500 base cause.message := ofRendering_of_failed failed
    have values : (ofRendering base id outcome).headers.values label =
        if label = "content-type" then ["text/plain; charset=utf-8"] else base.values label := by
      rw [response]
      exact Headers.values_set ..
    rw [values]
    by_cases isType : label = "content-type"
    · simp [isType, succeeds, eq_comm]
    · simp [isType, present]

/-- A response has all that has been rendered, or nothing of it.  When every rendered row can be a header,
each name has the values that were there and behind them those rendered for it, in order.  Else the headers
are those that were there, but with plain text as the one content type, and the body names the stage that
failed: the headers, and the first row that can be none, if rendering itself has not failed. -/
theorem ofRendering_allOrNothing (base : Headers) (id : String)
    (outcome : Except RenderError Rendered) :
    let response := ofRendering base id outcome
    (∀ r, outcome = .ok r → r.Sendable →
      response.status = r.status ∧ response.body = r.body ∧
      ∀ name, response.headers.values name =
        base.values name ++ Rendered.valuesUnder r.headers name) ∧
    ((∀ r, outcome = .ok r → ¬ r.Sendable) →
      ∃ cause, FailsWith id outcome cause ∧ response.status = 500 ∧
        response.body = "failed to render " ++ cause.stage.name ++ " for endpoint '" ++ cause.id ++
          "': " ++ cause.reason.message ∧
        ∀ name, response.headers.values name =
          if name = "content-type" then ["text/plain; charset=utf-8"] else base.values name) := by
  intro response
  constructor
  · intro r rendered sendable
    have written : response = ⟨r.status, base ++ Rendered.lines r.headers, r.body⟩ :=
      ofRendering_of_sendable rendered sendable
    rw [written]
    refine ⟨rfl, rfl, fun name => ?_⟩
    rw [Headers.values_append, Rendered.values_lines]
  · intro failed
    obtain ⟨cause, fails⟩ := exists_failsWith failed
    have written : response = .text 500 base cause.message := ofRendering_of_failsWith fails
    rw [written]
    exact ⟨cause, fails, rfl, rfl, fun name => Headers.values_set ..⟩

/-- A name in capitals adds to the values of the label; and a header in front of one that cannot be sent is
not sent either. -/
theorem ofRendering_allOrNothing_label :
    let base : Headers := [("endpoint-id", "page"), ("content-type", "text/html")]
    let rendered : Rendered := ⟨201, [("Endpoint-ID", "a"), ("X", "b"), ("endpoint-id", "c")], "made"⟩
    let refused : Rendered := ⟨201, [("X", "b"), ("a name", "c"), ("Y", "\n")], "made"⟩
    rendered.Sendable ∧
      (ofRendering base "page" (.ok rendered)).headers.values "endpoint-id" = ["page", "a", "c"] ∧
      ¬ refused.Sendable ∧
      (ofRendering base "page" (.ok refused)).headers.values "x" = [] ∧
      (ofRendering base "page" (.ok refused)).body =
        "failed to render headers for endpoint 'page': invalid header name 'a name'" := by
  intro base rendered refused
  have sendable : rendered.Sendable := by decide
  have notSendable : ¬ refused.Sendable := by decide
  obtain ⟨_, _, values⟩ :=
    (ofRendering_allOrNothing base "page" (.ok rendered)).1 rendered rfl sendable
  obtain ⟨cause, fails, _, body, kept⟩ :=
    (ofRendering_allOrNothing base "page" (.ok refused)).2 fun r isRefused => by
      cases isRefused
      exact notSendable
  -- the second row is the first that can be no header
  have isCause : cause = ⟨"page", .headers, .invalidName "a name"⟩ := by
    cases fails with
    | header isFirst =>
      cases isFirst with
      | here refuses => exact absurd (by decide) refuses
      | later _ isFirst =>
        cases isFirst with
        | here _ => rw [Rendered.refusal, if_neg (by decide)]
        | later isHeader _ => exact absurd isHeader (by decide)
  subst isCause
  exact ⟨sendable, (values "endpoint-id").trans (by decide), notSendable,
    (kept "x").trans (by decide), body.trans (by decide)⟩

end Http.Response

end StubServer
