import NexusCua.Provider.Registration

/-!
# A decoder for registrations

The JSON parser and the readers of the fields make a decoder with the two
properties that a registration store asks of it.  It accepts no text but the one
that is written for what it read.
-/

namespace NexusCua.Provider

open NexusCua.Foundation NexusCua.Protocol NexusCua.Mcp

def decodeRegistration (text : List Char) : Option AuthenticatedRegistration :=
  ((Json.parse text).bind AuthenticatedRegistration.ofJson).filter fun registration =>
    registration.text == text

theorem decodeRegistration_text (registration : AuthenticatedRegistration) :
    decodeRegistration registration.text = some registration := by
  have hparse : Json.parse registration.text = some registration.json :=
    Json.parse_print_newline true 0 registration.json
  simp [decodeRegistration, hparse, AuthenticatedRegistration.ofJson_json]

theorem text_of_decodeRegistration {text : List Char} {registration : AuthenticatedRegistration}
    (h : decodeRegistration text = some registration) : registration.text = text := by
  simp only [decodeRegistration, Option.filter_eq_some_iff, beq_iff_eq] at h
  exact h.2

theorem eq_of_text_append {registration registration' : AuthenticatedRegistration}
    {rest : List Char} (h : registration.text ++ rest = registration'.text) :
    registration = registration' := by
  have hdelimited : ∀ rest : List Char, Json.Delimited ('\n' :: rest) := fun _ => rfl
  have hread : ∀ (value : Json) (rest : List Char), ∀ fuel ≥ Json.cost value,
      Json.parseValue fuel (value.pretty ++ '\n' :: rest) = some (value, '\n' :: rest) :=
    fun value rest fuel hfuel => Json.parseValue_print true value 0 fuel _ hfuel (hdelimited rest)
  have hinput : registration.json.pretty ++ '\n' :: rest = registration'.json.pretty ++ ['\n'] := by
    simpa [AuthenticatedRegistration.text] using h
  let fuel := Json.cost registration.json + Json.cost registration'.json
  have hleft := hread registration.json rest fuel (Nat.le_add_right _ _)
  have hright := hread registration'.json [] fuel (Nat.le_add_left _ _)
  rw [hinput, hright, Option.some.injEq, Prod.mk.injEq] at hleft
  have hjson := congrArg AuthenticatedRegistration.ofJson hleft.1
  rw [AuthenticatedRegistration.ofJson_json, AuthenticatedRegistration.ofJson_json,
    Option.some.injEq] at hjson
  exact hjson.symm

def zeroDigest : Sha256 := ⟨List.replicate 32 0, by decide⟩

def parsingStore : RegistrationStore where
  mac _ _ := zeroDigest
  decode := decodeRegistration
  decode_text registration _ _ := decodeRegistration_text registration
  decode_take registration decoded n _ _ h := by
    have hbegins : decoded.text ++ registration.text.drop n = registration.text := by
      rw [text_of_decodeRegistration h, List.take_append_drop]
    exact eq_of_text_append hbegins

/-! ## A request -/

def zeroSecret : Secret := ⟨List.replicate 32 0, by decide⟩

/-- A read-only registration of a command line host with a given identity and
designated requirement. -/
def readOnlyRequest (registrationId designatedRequirement : String) : RegistrationRequest where
  registrationId := registrationId
  providerId := "local"
  productVersion := "1"
  adapterProfile := .cli
  hostIdentity :=
    ⟨zeroDigest.hex, zeroDigest.hex, .macos none (some designatedRequirement)⟩
  principal := "owner"
  workScope := "desk"
  authority :=
    { schemaVersion := authoritySchemaVersion
      mode := .readOnly
      applicationIds := ["editor"]
      allowedActions := []
      allowForegroundInput := false
      restoreForegroundAfterInput := false
      allowDisplayCapture := false
      allowClipboardRead := false
      allowClipboardWrite := false
      allowApplicationLaunch := false
      allowApplicationLaunchActivation := false
      ttlSeconds := 60 }

def shortRequest : RegistrationRequest := readOnlyRequest "registration_0001" ""

def emptyVault : Vault := ⟨∅, 0, ∅⟩

theorem readOnlyRequest_validate {registrationId designatedRequirement : String}
    (h : validateRegistrationId registrationId = .ok ()) :
    (readOnlyRequest registrationId designatedRequirement).validate = .ok () := by
  simp only [RegistrationRequest.validate, readOnlyRequest, h, bind_eq_ok]
  exact ⟨(), trivial, (), by decide, (), by decide, (), by decide, (), by decide, (), rfl, (),
    by decide, (), by decide, by decide⟩

theorem shortRequest_validate : shortRequest.validate = .ok () :=
  readOnlyRequest_validate (by decide)

end NexusCua.Provider
