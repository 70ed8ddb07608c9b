import LogSearch.Client.Http
import LogSearch.Proofs.Text.Base64

/-!
# Credentials on their way

A name and its secret are any texts, line breaks and all; a header takes only what is visible in ASCII.
Base64 stands between them: what it spells can always be sent, and it is read back to the same bytes.  So
credentials that are set reach the server as they are, and the look at them before a message is sent finds
nothing (`credentials_reach_server`).

There is another source of credentials.  A URL can carry a name and a password of its own, and a message
that has none from the settings takes these.

## What is here

* `isHeaderValue_header` — credentials make a header;
* `IsGiven`, `Settings.credentials_eq_some_iff` — what the variables have to say;
* `credentials_reach_server` — the header of all messages, for all variables.
-/

set_option autoImplicit false
namespace LogSearch

/-! ## Headers -/

theorem HttpRequest.lookup_authorization (message : HttpRequest) :
    message.headers.lookup "authorization" = message.authorization := by
  cases h : message.authorization <;> simp [headers, h]

theorem isHeaderValue_append {text more : String} :
    isHeaderValue (text ++ more) = (isHeaderValue text && isHeaderValue more) := by
  simp [isHeaderValue]

/-- What base64 spells can be sent. -/
theorem isHeaderValue_encodeText (text : String) : isHeaderValue (Text.Base64.encodeText text) = true := by
  rw [isHeaderValue, Text.Base64.encodeText, String.toList_ofList, List.all_map, List.all_eq_true]
  intro b hb
  obtain ⟨hlow, hhigh⟩ := Text.Base64.isSpelling_visible (Text.Base64.isSpelling_of_mem_encode b hb)
  have hb' : (Char.ofNat b.toNat).toNat = b.toNat :=
    Text.Utf8.toNat_ofNat_of_isValidChar (Or.inl (by omega))
  simp [hb', Nat.le_of_lt hlow, hhigh]

/-- Credentials make a header, whatever characters they have. -/
theorem isHeaderValue_header (mode : AuthMode) (credentials : Credentials) :
    isHeaderValue (credentials.header mode) = true := by
  rw [Credentials.header.eq_def, isHeaderValue_append, isHeaderValue_append, isHeaderValue_encodeText]
  cases mode <;> decide

/-! ## What the variables have to say -/

section settings

variable {lookup : String → Option String} {settings : Settings}

/-- The variables hold a name and its secret, neither of them empty. -/
structure IsGiven (lookup : String → Option String) (credentials : Credentials) : Prop where
  name : lookup "ELASTICSEARCH_USERNAME" = some credentials.name
  name_ne : credentials.name ≠ ""
  secret : lookup "ELASTICSEARCH_PASSWORD" = some credentials.secret
  secret_ne : credentials.secret ≠ ""

theorem Settings.parts_of_read (h : Settings.read lookup = .ok settings) :
    settings.username = (lookup "ELASTICSEARCH_USERNAME").filter (· != "") ∧
      settings.password = (lookup "ELASTICSEARCH_PASSWORD").filter (· != "") := by
  simp only [read, bind, Except.bind, pure, Except.pure, throw, throwThe, MonadExceptOf.throw] at h
  -- the other variables decide whether there are settings, not about these two
  repeat' split at h
  all_goals cases h
  all_goals exact ⟨rfl, rfl⟩

/-- Settings have the credentials that the variables hold. -/
theorem Settings.credentials_eq_some_iff (h : Settings.read lookup = .ok settings)
    {credentials : Credentials} : settings.credentials = some credentials ↔ IsGiven lookup credentials := by
  obtain ⟨husername, hpassword⟩ := parts_of_read h
  have hiff : settings.credentials = some credentials ↔
      settings.username = some credentials.name ∧ settings.password = some credentials.secret := by
    obtain ⟨name, secret⟩ := credentials
    rw [Settings.credentials]
    cases settings.username <;> cases settings.password <;> simp
  rw [hiff, husername, hpassword, Option.filter_eq_some_iff, Option.filter_eq_some_iff]
  simp only [bne_iff_ne]
  exact ⟨fun ⟨⟨hname, hname'⟩, hsecret, hsecret'⟩ ↦ ⟨hname, hname', hsecret, hsecret'⟩,
    fun ⟨hname, hname', hsecret, hsecret'⟩ ↦ ⟨⟨hname, hname'⟩, hsecret, hsecret'⟩⟩

theorem Client.authorization_of_ofSettings {client : Client} (h : Client.ofSettings settings = .ok client) :
    client.authorization = settings.credentials.map (·.header settings.authMode) := by
  simp only [ofSettings, bind_eq_ok_iff] at h
  obtain ⟨url, -, plain, -, hclient⟩ := h
  cases hclient
  rfl

end settings

/-! ## What is sent -/

section sent

variable {client : Client}

theorem Client.checkedBackend_eq {σ : Type} (h : client.credentialsFault? = none) (carrier : Carrier σ) :
    client.checkedBackend carrier = client.backend carrier := by
  simp only [checkedBackend, h]

theorem Client.authorization_of_request? {request : SearchRequest} {message : HttpRequest}
    (h : client.request? request = some message) :
    message.authorization = client.authorization.or (message.url.userInfo?.map fun (user, password) ↦
      Credentials.header .basic ⟨user, password.getD ""⟩) := by
  rw [request?] at h
  split at h
  · cases h
    rfl
  · cases h

end sent

/-- The header that the settings of variables and a URL ask for: with the credentials of the variables in
base64 behind the word for their kind, or else with those of the URL. -/
structure Presents (lookup : String → Option String) (mode : AuthMode) (message : HttpRequest) : Prop where
  isSome_iff : (message.headers.lookup "authorization").isSome ↔
    (∃ credentials, IsGiven lookup credentials) ∨ message.url.userInfo?.isSome
  given : ∀ credentials, IsGiven lookup credentials → ∃ token : String,
    message.headers.lookup "authorization" = some (mode.scheme ++ " " ++ token) ∧
      Text.Base64.decode (Text.Utf8.encode token.toList)
        = .ok (Text.Utf8.encode (credentials.name ++ ":" ++ credentials.secret).toList)
  fromUrl : (¬ ∃ credentials, IsGiven lookup credentials) →
    message.headers.lookup "authorization" = message.url.userInfo?.map fun (user, password) ↦
      Credentials.header .basic ⟨user, password.getD ""⟩

/-- **Credentials reach the server intact.**  For all variables that a client can be made from, its
credentials pass the look at them, so that searches are put as if there were none.  Every message has a
header with the credentials if the variables hold both parts: base64 behind the word of the mode, of the
bytes of the name, a colon and the secret.  Otherwise it has one just if its URL has a user. -/
theorem Client.credentials_reach_server {lookup : String → Option String} {settings : Settings}
    {client : Client} (hsettings : Settings.read lookup = .ok settings)
    (hclient : Client.ofSettings settings = .ok client) :
    client.credentialsFault? = none ∧
      (∀ {σ : Type} (carrier : Carrier σ), client.checkedBackend carrier = client.backend carrier) ∧
      ∀ (request : SearchRequest) (message : HttpRequest), client.request? request = some message →
        Presents lookup settings.authMode message := by
  have hgiven := @Settings.credentials_eq_some_iff lookup settings hsettings
  have hauthorization := authorization_of_ofSettings hclient
  have hfault : client.credentialsFault? = none := by
    rw [credentialsFault?, hauthorization]
    cases settings.credentials <;> simp [isHeaderValue_header]
  refine ⟨hfault, fun carrier ↦ checkedBackend_eq hfault carrier, fun request message hmessage ↦ ?_⟩
  have hsent := authorization_of_request? hmessage
  rw [hauthorization] at hsent
  cases hcredentials : settings.credentials with
  | none =>
    have hnone : ¬ ∃ credentials, IsGiven lookup credentials := by
      rintro ⟨credentials, h⟩
      rw [hgiven.2 h] at hcredentials
      cases hcredentials
    rw [hcredentials, Option.map_none, Option.none_or, ← HttpRequest.lookup_authorization] at hsent
    refine ⟨?_, fun credentials h ↦ absurd ⟨credentials, h⟩ hnone, fun _ ↦ hsent⟩
    rw [hsent, Option.isSome_map]
    exact (or_iff_right hnone).symm
  | some credentials =>
    have hsome := hgiven.1 hcredentials
    rw [hcredentials, Option.map_some, Option.some_or, ← HttpRequest.lookup_authorization] at hsent
    refine ⟨?_, fun other h ↦ ?_, fun hnone ↦ absurd ⟨credentials, hsome⟩ hnone⟩
    · rw [hsent]
      exact iff_of_true rfl (.inl ⟨credentials, hsome⟩)
    · obtain rfl : credentials = other := Option.some.inj (hcredentials.symm.trans (hgiven.2 h))
      exact ⟨_, hsent, Text.Base64.decode_text_eq_ok_iff.2 rfl⟩

/-- A name with a colon and a line break, and a secret that is not all ASCII, in front of what the URL
holds. -/
theorem Client.credentials_reach_server_sample :
    let lookup : String → Option String := fun name ↦
      [("ELASTICSEARCH_URL", "http://a:b@[::1]"), ("ELASTICSEARCH_AUTH_MODE", "ApiKey"),
        ("ELASTICSEARCH_USERNAME", "us:er\n"), ("ELASTICSEARCH_PASSWORD", "pä")].lookup name
    let client : Client := ⟨"http://a:b@[::1]", some "ApiKey dXM6ZXIKOnDDpA=="⟩
    let request : SearchRequest := ⟨"logs", .present "message", "@timestamp", 10, [], none⟩
    client.credentialsFault? = none ∧ ∃ message, client.request? request = some message ∧
      Presents lookup .apiKey message := by
  intro lookup client request
  have hsettings : Settings.read lookup
      = .ok ⟨"http://a:b@[::1]", some "us:er\n", some "pä", .apiKey, Settings.defaultTimeout⟩ := by
    decide +kernel
  have hclient : Client.ofSettings
      ⟨"http://a:b@[::1]", some "us:er\n", some "pä", .apiKey, Settings.defaultTimeout⟩ = .ok client := by
    decide +kernel
  obtain ⟨hfault, -, hmessages⟩ := Client.credentials_reach_server hsettings hclient
  obtain ⟨message, hmessage⟩ : ∃ message, client.request? request = some message :=
    Option.isSome_iff_exists.1 (by decide +kernel)
  exact ⟨hfault, message, hmessage, hmessages request message hmessage⟩

/-- A header without a name or secret in the variables: the URL has a user. -/
theorem Client.url_credentials_sent :
    let lookup : String → Option String := fun name ↦
      [("ELASTICSEARCH_URL", "http://u:p@[::1]")].lookup name
    let settings : Settings := ⟨"http://u:p@[::1]", none, none, .basic, Settings.defaultTimeout⟩
    let client : Client := ⟨"http://u:p@[::1]", none⟩
    let request : SearchRequest := ⟨"logs", .present "message", "@timestamp", 10, [], none⟩
    Settings.read lookup = .ok settings ∧ Client.ofSettings settings = .ok client ∧
      (client.request? request).map (·.headers.lookup "authorization") = some (some "Basic dTpw") ∧
      lookup "ELASTICSEARCH_USERNAME" = none ∧ lookup "ELASTICSEARCH_PASSWORD" = none ∧
      ¬ ∃ credentials, IsGiven lookup credentials := by
  intro lookup settings client request
  refine ⟨by decide +kernel, by decide +kernel, by decide +kernel, rfl, rfl, ?_⟩
  rintro ⟨credentials, h⟩
  cases h.name

end LogSearch
