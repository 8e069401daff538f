import Mathlib
import StubServer.Proofs.Route.Selection
import StubServer.Proofs.Text.Lowering
import StubServer.Proofs.Text.Pieces

/-! # Hosts with and without a port

A host is a name or an address in brackets, with or without a port; taking the port off leaves the name or
the address (`Host.dropPort_chars`).  The host of an endpoint is compared with that of a request as a whole
when it is a name with a port, and with the host without its port when it has none.  An address with a port
is compared in the second way too, and so with something that it never is.  The host of the endpoint has been
put in small letters, of which those of the Kelvin sign are the only ones to come into ASCII from outside
(`hostHolds_iff_covers`).
-/

namespace StubServer

namespace Http

/-- What stands before the port: a name without colons, or an address in brackets. -/
inductive HostName where
  | name (cs : List Char) (noColon : ':' ∉ cs) (noBracket : cs.head? ≠ some '[')
  | address (cs : List Char) (noBracket : ']' ∉ cs)

namespace HostName

def chars : HostName → List Char
  | name cs _ _ => cs
  | address cs _ => '[' :: cs ++ [']']

def isAddress : HostName → Bool
  | name .. => false
  | address .. => true

/-- The same with `k` for the Kelvin sign. -/
def latin : HostName → HostName
  | name cs noColon noBracket =>
    name (cs.map Text.latin) (mt (Text.mem_map_latin (by decide)).1 noColon)
      (mt (Text.head?_map_latin (by decide)).1 noBracket)
  | address cs noBracket => address (cs.map Text.latin) (mt (Text.mem_map_latin (by decide)).1 noBracket)

theorem chars_latin (n : HostName) : n.latin.chars = n.chars.map Text.latin := by
  cases n with
  | name cs noColon noBracket => rfl
  | address cs noBracket =>
    simp only [latin, chars, List.cons_append, List.map_cons, List.map_append, List.map_nil]
    rfl

@[simp] theorem isAddress_latin (n : HostName) : n.latin.isAddress = n.isAddress := by
  cases n <;> rfl

end HostName

/-- A host as it is written. -/
structure Host where
  name : HostName
  port : Option (List Char)
  areDigits : ∀ digits ∈ port, ∀ d ∈ digits, d.isDigit

namespace Host

def portChars (h : Host) : List Char :=
  match h.port with
  | none => []
  | some digits => ':' :: digits

def chars (h : Host) : List Char := h.name.chars ++ h.portChars

def text (h : Host) : String := String.ofList h.chars

/-- The same with `k` for the Kelvin sign; a port does not have it. -/
def latin (h : Host) : Host := { h with name := h.name.latin }

/-- The host that was sent is the expected one, up to the case of ASCII letters; its port counts only where
one is expected. -/
def Covers (expected sent : Host) : Prop :=
  if expected.port.isSome then Text.eqIgnoringAsciiCase sent.text expected.text = true
  else Text.eqIgnoringAsciiCase (String.ofList sent.name.chars) expected.text = true

variable {h expected sent : Host}

theorem head?_chars_address (isAddress : h.name.isAddress = true) : h.chars.head? = some '[' := by
  obtain ⟨name, port, areDigits⟩ := h
  cases name with
  | name cs noColon noBracket => cases isAddress
  | address cs noBracket => rfl

theorem head?_chars_name (isName : h.name.isAddress = false) : h.chars.head? ≠ some '[' := by
  obtain ⟨name, port, areDigits⟩ := h
  cases name with
  | address cs noBracket => cases isName
  | name cs noColon noBracket =>
    cases cs with
    | cons c cs => exact noBracket
    | nil => cases port <;> simp [chars, HostName.chars, portChars]

/-- A name has a colon exactly if it has a port. -/
theorem colon_mem_chars (isName : h.name.isAddress = false) : ':' ∈ h.chars ↔ h.port.isSome := by
  obtain ⟨name, port, areDigits⟩ := h
  cases name with
  | address cs noBracket => cases isName
  | name cs noColon noBracket => cases port <;> simp [chars, HostName.chars, portChars, noColon]

theorem chars_latin (h : Host) : h.latin.chars = h.chars.map Text.latin := by
  obtain ⟨name, port, areDigits⟩ := h
  cases port with
  | none => simp [chars, portChars, latin, HostName.chars_latin]
  | some digits =>
    have noKelvin : Text.kelvinSign ∉ ':' :: digits := by
      rw [List.mem_cons, not_or]
      exact ⟨by decide, fun within => by cases areDigits digits rfl _ within⟩
    simp only [chars, portChars, latin, HostName.chars_latin, List.map_append, Text.map_latin noKelvin]

/-! ## The host without its port -/

theorem dropPort_address (isAddress : h.name.isAddress = true) :
    Request.dropPort h.chars = h.name.chars := by
  obtain ⟨name, port, areDigits⟩ := h
  cases name with
  | name cs noColon noBracket => cases isAddress
  | address cs noBracket =>
    have notMem : ']' ∉ '[' :: cs := by simpa using noBracket
    have cut := Text.splitOnce_append notMem (portChars ⟨.address cs noBracket, port, areDigits⟩)
    simp only [chars, HostName.chars, List.cons_append, List.append_assoc, List.nil_append,
      Request.dropPort] at cut ⊢
    rw [cut]
    rfl

theorem dropPort_of_head? {cs : List Char} (noBracket : cs.head? ≠ some '[') : Request.dropPort cs =
    match Text.splitOnce ':' cs.reverse with
    | some (port, name) => if port.all Char.isDigit then name.reverse else cs
    | none => cs := by
  unfold Request.dropPort
  split
  · exact absurd rfl noBracket
  · rfl

theorem dropPort_name (isName : h.name.isAddress = false) :
    Request.dropPort h.chars = h.name.chars := by
  rw [dropPort_of_head? (head?_chars_name isName)]
  obtain ⟨name, port, areDigits⟩ := h
  cases name with
  | address cs noBracket => cases isName
  | name cs noColon noBracket =>
    have notMem : ':' ∉ cs.reverse := by simpa using noColon
    cases port with
    | none =>
      have whole :
          Text.splitOnce ':' (chars ⟨.name cs noColon noBracket, none, areDigits⟩).reverse = none := by
        simpa [chars, HostName.chars, portChars] using Text.splitOnce_eq_none notMem
      rw [whole]
      simp [chars, HostName.chars, portChars]
    | some digits =>
      have isPort := areDigits digits rfl
      have noColon' : ':' ∉ digits.reverse := by
        intro within
        cases isPort ':' (List.mem_reverse.1 within)
      have cut := Text.splitOnce_append noColon' cs.reverse
      have reversed : (chars ⟨.name cs noColon noBracket, some digits, areDigits⟩).reverse =
          digits.reverse ++ ':' :: cs.reverse := by simp [chars, HostName.chars, portChars]
      rw [reversed, cut]
      dsimp only
      rw [if_pos (by simpa using isPort), List.reverse_reverse]
      rfl

theorem dropPort_chars (h : Host) : Request.dropPort h.chars = h.name.chars := by
  cases which : h.name.isAddress with
  | false => exact dropPort_name which
  | true => exact dropPort_address which

/-! ## Comparing -/

theorem eqIgnoringAsciiCase_ofList (cs ds : List Char) :
    Text.eqIgnoringAsciiCase (String.ofList cs) (String.ofList ds) = true ↔
      cs.map Text.asciiLowerChar = ds.map Text.asciiLowerChar := by
  rw [Text.eqIgnoringAsciiCase, beq_iff_eq, Text.asciiLower, Text.asciiLower, String.toList_ofList,
    String.toList_ofList]
  exact ⟨fun same => String.ofList_injective same, congrArg _⟩

/-- Small letters keep the bracket that closes an address where it is. -/
theorem splitOnce_map_address {cs : List Char} (noBracket : ']' ∉ cs) (behind : List Char) :
    Text.splitOnce ']' (('[' :: cs ++ ']' :: behind).map Text.asciiLowerChar) =
      some ('[' :: cs.map Text.asciiLowerChar, behind.map Text.asciiLowerChar) := by
  have notMem : ']' ∉ '[' :: cs.map Text.asciiLowerChar := by
    simp only [List.mem_cons, List.mem_map, not_or, not_exists, not_and]
    refine ⟨by decide, fun c inAddress isBracket => ?_⟩
    rw [Text.asciiLowerChar_eq_mark (by decide)] at isBracket
    exact noBracket (isBracket ▸ inAddress)
  rw [List.map_append, List.map_cons]
  exact Text.splitOnce_append notMem _

/-- No host without its port is an address with a port. -/
theorem ne_address_with_port (sent : Host) (isAddress : expected.name.isAddress = true)
    (hasPort : expected.port.isSome) :
    ¬Text.eqIgnoringAsciiCase (String.ofList sent.name.chars) expected.text = true := by
  rw [text, eqIgnoringAsciiCase_ofList]
  obtain ⟨address | ⟨v, noBracket⟩, none | digits, areDigits⟩ := expected
  · cases isAddress
  · cases isAddress
  · cases hasPort
  intro same
  -- cut at the bracket that closes the address, the text with the port leaves the port
  have cut := splitOnce_map_address noBracket (':' :: digits)
  have isText : chars ⟨.address v noBracket, some digits, areDigits⟩ =
      '[' :: v ++ ']' :: ':' :: digits := by simp [chars, HostName.chars, portChars]
  rw [← isText, ← same] at cut
  cases which : sent.name with
  | name cs noColon noBracket' =>
    -- the text of the address begins with a bracket, and that of a name does not
    rw [which, isText] at same
    cases cs with
    | nil => cases same
    | cons c cs =>
      have isBracket : Text.asciiLowerChar c = '[' := (List.cons.inj same).1
      rw [Text.asciiLowerChar_eq_mark (by decide)] at isBracket
      exact noBracket' (congrArg some isBracket)
  | address cs noBracket' =>
    rw [which, HostName.chars, splitOnce_map_address noBracket'] at cut
    simp at cut

end Host

end Http

namespace Route

open Http (Host Request isPlainValue)

variable {expected sent : Host} {r : Request} {message : Http.Message}

theorem isAscii_of_isPlainValue {text : String} (plain : isPlainValue text = true) :
    Text.IsAscii text.toList := by
  intro c inText
  rw [isPlainValue, List.all_eq_true] at plain
  have isPlain := plain c inText
  simp only [Bool.or_eq_true, beq_iff_eq, Bool.and_eq_true, decide_eq_true_eq] at isPlain
  rcases isPlain with rfl | ⟨_, below⟩
  · decide
  · omega

/-- The host of a request is ASCII, if it is so in its target. -/
theorem isAscii_of_hostOf {host : String}
    (inTarget : ∀ authority ∈ message.target.authority, Text.IsAscii authority.toList)
    (received : Request.hostOf message = some host) : Text.IsAscii host.toList := by
  unfold Request.hostOf at received
  split at received
  · split at received
    · next plain =>
      cases received
      exact isAscii_of_isPlainValue plain
    · exact inTarget host received
  · exact inTarget host received

/-- Only a name with a port is compared as a whole. -/
theorem hostMatches_lower_iff (expected : Host) (r : Request) :
    hostMatches (Text.lower expected.text) r = true ↔
      if expected.name.isAddress = false ∧ expected.port.isSome then
        ∃ host, r.host = some host ∧ Text.eqIgnoringAsciiCase host (Text.lower expected.text) = true
      else r.hostName = some (Text.lower expected.text) := by
  have isText : (Text.lower expected.text).toList = Text.lowerFrom [] expected.chars := by
    rw [Text.lower, String.toList_ofList, Host.text, String.toList_ofList]
  have asWhole : ((Text.lower expected.text).toList.contains ':' &&
      (Text.lower expected.text).toList.head? != some '[') = true ↔
        expected.name.isAddress = false ∧ expected.port.isSome := by
    rw [isText, Bool.and_eq_true, List.contains_iff_mem, bne_iff_ne, ne_eq,
      Text.mem_lowerFrom (by decide),
      Text.head?_lowerFrom (by decide)]
    cases which : expected.name.isAddress with
    | true => simp [Host.head?_chars_address which]
    | false => simp [Host.head?_chars_name which, Host.colon_mem_chars which]
  rw [hostMatches]
  simp only [asWhole]
  split
  · cases r.host <;> simp
  · rw [beq_iff_eq]

theorem hostName_eq_iff (received : r.host = some sent.text) (ascii : Text.IsAscii sent.chars) :
    r.hostName = some (Text.lower expected.text) ↔
      Text.eqIgnoringAsciiCase (String.ofList sent.name.chars) expected.latin.text = true := by
  have asciiName : Text.IsAscii sent.name.chars := fun c inName => ascii c (List.mem_append_left _ inName)
  have isName : r.hostName = some (String.ofList (sent.name.chars.map Text.asciiLowerChar)) := by
    rw [Request.hostName, received, Option.map_some, Host.text, String.toList_ofList,
      Host.dropPort_chars, Text.lower, String.toList_ofList, Text.lowerFrom_ascii asciiName]
  rw [isName, Option.some.injEq, Text.lower, Host.text, Host.text, String.toList_ofList,
    Host.eqIgnoringAsciiCase_ofList, Host.chars_latin, ← Text.eq_lowerFrom_iff asciiName []]
  exact ⟨fun same => String.ofList_injective same, congrArg _⟩

theorem eqIgnoringAsciiCase_lower (ascii : Text.IsAscii sent.chars) :
    Text.eqIgnoringAsciiCase sent.text (Text.lower expected.text) = true ↔
      Text.eqIgnoringAsciiCase sent.text expected.latin.text = true := by
  rw [Text.lower, Host.text, Host.text, Host.text, String.toList_ofList, Host.eqIgnoringAsciiCase_ofList,
    Host.eqIgnoringAsciiCase_ofList, Host.chars_latin, Text.eq_map_lowerFrom_iff ascii]

/-- The expectation of an endpoint has the host of its definition in small letters. -/
theorem host_of_compile {id mock : String} {d : Config.EndpointDefinition} {e : Endpoint}
    (compiled : Endpoint.compile id mock d = .ok e) :
    e.request.host = d.request.host.map Text.lower := by
  unfold Endpoint.compile Endpoint.readExpectation at compiled
  grind

/-- An endpoint with this host takes the host that a request was sent to exactly if the two are the same up
to the case of ASCII letters, with the port if it has one and else without; but for an address with a port,
which it never takes.  A Kelvin sign in its host has become the letter `k` and is compared as such; without
one the host is compared as it is written. -/
theorem hostHolds_iff_covers {id mock : String} {d : Config.EndpointDefinition} {e : Endpoint}
    (compiled : Endpoint.compile id mock d = .ok e) (configured : d.request.host = some expected.text)
    (inTarget : ∀ authority ∈ message.target.authority, Text.IsAscii authority.toList)
    (received : Request.hostOf message = some sent.text) :
    (hostHolds e.request (.capture message) = true ↔
      expected.latin.Covers sent ∧ ¬(expected.name.isAddress ∧ expected.port.isSome)) ∧
    (Text.kelvinSign ∉ expected.chars → expected.latin.text = expected.text) := by
  have ascii : Text.IsAscii sent.chars := by
    simpa [Host.text] using isAscii_of_hostOf inTarget received
  have isHost : e.request.host = some (Text.lower expected.text) := by
    rw [host_of_compile compiled, configured, Option.map_some]
  have received' : (Request.capture message).host = some sent.text := received
  have samePort : expected.latin.port = expected.port := rfl
  refine ⟨?_, fun noKelvin => by rw [Host.text, Host.chars_latin, Text.map_latin noKelvin, Host.text]⟩
  rw [hostHolds, isHost]
  dsimp only
  rw [hostMatches_lower_iff, hostName_eq_iff received' ascii, received', Host.Covers, samePort]
  simp only [Option.some.injEq, exists_eq_left', eqIgnoringAsciiCase_lower ascii]
  by_cases hasPort : expected.port.isSome
  · cases which : expected.name.isAddress with
    | false => simp [hasPort]
    | true =>
      have isAddress : expected.latin.name.isAddress = true := by
        rw [Host.latin, Http.HostName.isAddress_latin, which]
      -- compared without the port that it has itself
      have never := Host.ne_address_with_port sent isAddress hasPort
      simpa [hasPort] using never
  · simp [hasPort]

/-- An endpoint that serves the root on one host. -/
def endpointOn (host : String) : Config.EndpointDefinition :=
  ⟨none, 0, ⟨none, some host, "GET", "/", [], [], none⟩, .default⟩

/-- A request for the root of a host. -/
def requestTo (host : String) : Http.Message := ⟨"GET", .ofText "/", [("host", host)], none⟩

/-- A host without a port takes the same host with one, in letters of any case. -/
theorem hostHolds_iff_covers_name :
    let expected : Host := ⟨.name "API.local".toList (by decide) (by decide), none, nofun⟩
    let sent : Host := ⟨.name "api.LOCAL".toList (by decide) (by decide), some "9000".toList,
      fun _ isPort => by cases isPort; exact List.all_eq_true.1 (by decide)⟩
    ∃ e, Endpoint.compile "api" "hosts" (endpointOn "API.local") = .ok e ∧
      expected.text = "API.local" ∧ sent.text = "api.LOCAL:9000" ∧
      hostHolds e.request (.capture (requestTo "api.LOCAL:9000")) = true := by
  intro expected sent
  have isExpected : expected.text = "API.local" := by decide
  have isSent : sent.text = "api.LOCAL:9000" := by decide
  obtain ⟨e, compiled⟩ : ∃ e, Endpoint.compile "api" "hosts" (endpointOn "API.local") = .ok e :=
    ⟨_, by cbv⟩
  refine ⟨e, compiled, isExpected, isSent, ?_⟩
  have configured : (endpointOn "API.local").request.host = some expected.text := by rw [isExpected]; rfl
  have received : Request.hostOf (requestTo "api.LOCAL:9000") = some sent.text := by rw [isSent]; decide
  have noAuthority : ∀ authority ∈ (requestTo "api.LOCAL:9000").target.authority,
      Text.IsAscii authority.toList := by
    intro authority isAuthority
    cases isAuthority
  have covers : expected.latin.Covers sent := by
    change Text.eqIgnoringAsciiCase _ _ = true
    decide
  exact (hostHolds_iff_covers compiled configured noAuthority received).1.2 ⟨covers, by decide⟩

/-- An address with a port does not even take itself. -/
theorem not_hostHolds_address :
    let host : Host := ⟨.address "::1".toList (by decide), some "8080".toList,
      fun _ isPort => by cases isPort; exact List.all_eq_true.1 (by decide)⟩
    ∃ e, Endpoint.compile "api" "hosts" (endpointOn "[::1]:8080") = .ok e ∧
      host.text = "[::1]:8080" ∧ host.Covers host ∧
      hostHolds e.request (.capture (requestTo "[::1]:8080")) = false := by
  intro host
  have isText : host.text = "[::1]:8080" := by decide
  have covers : host.Covers host := by
    change Text.eqIgnoringAsciiCase _ _ = true
    decide
  exact ⟨_, by cbv, isText, covers, by decide⟩

end Route

end StubServer
