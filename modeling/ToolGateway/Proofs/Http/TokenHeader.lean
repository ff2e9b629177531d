import ToolGateway.Proofs.Callers.TokenOwner
import ToolGateway.Proofs.Gateway.Report
import ToolGateway.Proofs.Http.Admission
import ToolGateway.Proofs.Text.Percent
import ToolGateway.Server

/-!
# Tokens that let a caller in

A valid configuration may give its callers any tokens without blanks, but an authorization header is
only read if all of its bytes are plain. So a caller gets in with a token of visible ASCII
characters, and is then known by its id, whatever other tokens there are. With any other token the
header is as good as missing: its caller is taken for a stranger on every route.
-/

namespace ToolGateway

namespace Http

/-! ## Header values that are read -/

/-- A character that a header value may hold to be read: printable ASCII, the space or the tab. -/
def IsPlainChar (c : Char) : Prop := 0x20 ≤ c.toNat ∧ c.toNat ≤ 0x7E ∨ c.toNat = 0x09

/-- A character that is seen: printable ASCII but for the space. -/
def IsVisible (c : Char) : Prop := 0x21 ≤ c.toNat ∧ c.toNat ≤ 0x7E

instance (c : Char) : Decidable (IsVisible c) := inferInstanceAs (Decidable (_ ∧ _))

/-- Of the plain characters just the space and the tab are blank. -/
theorem isPlainChar_iff_isVisible {c : Char} (h : Text.isBlank c = false) :
    IsPlainChar c ↔ IsVisible c := by
  have hspace : c.toNat ≠ 0x20 := by
    intro hc
    simp [Text.isBlank, hc] at h
  have htab : c.toNat ≠ 0x09 := by
    intro hc
    simp [Text.isBlank, hc] at h
  unfold IsPlainChar IsVisible
  omega

/-- A byte is plain by its number. -/
theorem isPlain_eq_true_iff {b : UInt8} :
    isPlain b = true ↔ 0x20 ≤ b.toNat ∧ b.toNat ≤ 0x7E ∨ b.toNat = 0x09 := by
  simp [isPlain, UInt8.le_iff_toNat_le, ← UInt8.toNat_inj]

/-- A text of plain characters is read from its bytes. -/
theorem plainText?_encode {s : String} (h : ∀ c ∈ s.toList, IsPlainChar c) :
    plainText? (Text.Utf8.encode s) = some s := by
  have hascii : ∀ c ∈ s.toList, c.toNat < 0x80 := by
    intro c hc
    rcases h c hc with hrange | hrange <;> omega
  have hall : (Text.Utf8.encode s).all isPlain = true := by
    rw [Text.Utf8.encode, Text.Utf8.encodeChars_of_ascii hascii, List.all_map, List.all_eq_true]
    intro c hc
    rw [Function.comp_apply, isPlain_eq_true_iff, Text.Utf8.toNat_code (hascii c hc)]
    exact h c hc
  rw [plainText?, if_pos hall, Text.Utf8.encode, Text.Utf8.map_ofNat_encodeChars hascii,
    String.ofList_toList]

/-- No text is read from the bytes of another one. -/
theorem of_plainText?_encode {s t : String} (h : plainText? (Text.Utf8.encode s) = some t) :
    t = s ∧ ∀ c ∈ s.toList, IsPlainChar c := by
  unfold plainText? at h
  split at h
  · next hall =>
    have hplain (b : UInt8) (hb : b ∈ Text.Utf8.encode s) :
        0x20 ≤ b.toNat ∧ b.toNat ≤ 0x7E ∨ b.toNat = 0x09 :=
      isPlain_eq_true_iff.mp (List.all_eq_true.mp hall b hb)
    have hascii : ∀ b ∈ Text.Utf8.encode s, b < 0x80 := by
      intro b hb
      have hrange := hplain b hb
      change b.toNat < 0x80
      omega
    -- So the bytes are those of the characters with their numbers, which are the ones of the text.
    have hchars : (Text.Utf8.encode s).map (fun b => Char.ofNat b.toNat) = s.toList :=
      Text.Utf8.encodeChars_injective (Text.Utf8.encodeChars_map_ofNat hascii)
    rw [hchars, String.ofList_toList] at h
    refine ⟨(Option.some.inj h).symm, fun c hc => ?_⟩
    rw [← hchars] at hc
    obtain ⟨b, hb, rfl⟩ := List.mem_map.mp hc
    rw [IsPlainChar, Text.Utf8.toNat_ofNat]
    exact hplain b hb
  · cases h

end Http

/-! ## Tokens of known callers -/

/-- A token without blanks is presented behind the word. -/
theorem Callers.presents_word {token : String} (hne : token ≠ "")
    (hblank : ∀ c ∈ token.toList, Text.isBlank c = false)
    (hlength : ("Bearer " ++ token).utf8ByteSize ≤ maxHeaderLength) :
    Presents (some ("Bearer " ++ token)) token := by
  have hchars : ("Bearer " ++ token).toList = "Bearer".toList ++ ' ' :: token.toList :=
    String.toList_append
  have hcs : token.toList ≠ [] := fun h => hne (String.toList_inj.mp h)
  have hwhole : Text.trimChars ("Bearer " ++ token).toList = ("Bearer " ++ token).toList := by
    apply Text.trimChars_eq_self
    · intro c hc
      rw [hchars] at hc
      obtain rfl : 'B' = c := Option.some.inj hc
      rfl
    · intro c hc
      have hsome : token.toList.getLast?.isSome := List.getLast?_isSome.mpr hcs
      rw [String.toList_append, List.getLast?_append, Option.or_of_isSome hsome] at hc
      exact hblank c (List.mem_of_mem_getLast? hc)
  have htoken : Text.trimChars token.toList = token.toList :=
    Text.trimChars_eq_self (fun c hc => hblank c (List.mem_of_mem_head? hc))
      fun c hc => hblank c (List.mem_of_mem_getLast? hc)
  refine ⟨_, rfl, hlength, "Bearer".toList, token.toList, ?_, by decide, by decide, ?_⟩
  · rw [← hchars]
    exact Text.trimChars_eq_iff.mp hwhole
  · exact Text.trimChars_eq_iff.mp htoken

namespace Config

variable {c : Config} {caller : Caller}

/-- A token in a header that is read tells whose it is. -/
theorem IsValid.authenticate_token (h : c.IsValid) (hmode : c.listener.callers.mode = .bearerToken)
    (hcaller : caller ∈ c.listener.callers.callers) (peer : Option IpAddress) :
    c.listener.callers.authenticate peer (some ("Bearer " ++ caller.token)) =
      .ok ⟨caller.id, some (Callers.fingerprint caller.token)⟩ := by
  obtain ⟨hne, hlong, hblank⟩ := token_of_callerFaults (h.callerFaults_eq_nil hcaller)
  have hlength : ("Bearer " ++ caller.token).utf8ByteSize ≤ Callers.maxHeaderLength := by
    have hword : "Bearer ".utf8ByteSize = 7 := rfl
    rw [String.utf8ByteSize_append, hword]
    simp only [maxTokenLength] at hlong
    simp only [Callers.maxHeaderLength]
    omega
  have hpresents := Callers.presents_word hne hblank hlength
  exact (h.authenticate_eq_ok_iff hmode peer).mpr ⟨caller, hcaller, hpresents, rfl⟩

end Config

/-! ## Responses to known callers -/

/-- Only strangers are told that callers must be known. -/
theorem Rejection.failure_ne_unauthenticated (r : Rejection) (message : String) :
    r.failure ≠ .unauthenticated message := by
  unfold failure
  split <;> simp

/-- The gateway itself tells nobody so. -/
theorem Session.told_ne_unauthenticated (s : Gateway.Settings) (session : Session) (event : Event)
    (message : String) :
    (session.step s event).1.told ≠ .result (.error (.unauthenticated message)) := by
  intro htold
  obtain ⟨request, -, hcall | ⟨call, r, -, -, hfailure⟩⟩ :=
    of_told_error (fun cause => (Rejection.delivery cause).failure_ne_unauthenticated message) htold
  · obtain ⟨_, hfailure⟩ := Request.of_toCall_eq_error hcall
    cases hfailure
  · exact r.failure_ne_unauthenticated message hfailure

namespace Http

/-- The status says who is told to be a stranger. -/
theorem status_failureResponse_eq_iff (failure : Failure) :
    (failureResponse failure).status = 401 ↔ ∃ message, failure = .unauthenticated message := by
  cases failure <;> simp [failureResponse, Response.json, Failure.status]

namespace Service

variable {service : Service} {r : Request} {who : Identity}

/-- What a caller is told by the gateway never has that status. -/
theorem status_toldResponse_ne {told : Told}
    (h : ∀ message, told ≠ .result (.error (.unauthenticated message))) :
    (toldResponse told).status ≠ 401 := by
  unfold toldResponse
  split
  · simp [outputResponse, Response.json]
  · next failure =>
    intro hstatus
    obtain ⟨message, rfl⟩ := (status_failureResponse_eq_iff failure).mp hstatus
    exact h message rfl
  · simp [Response.empty]

/-- A known caller's call is turned away for its names or its size only. -/
theorem accept_ne_unauthenticated (hwho : service.sender r = .ok who)
    (label tool message : String) :
    service.accept r label tool ≠ .error (.unauthenticated message) := by
  rw [accept, identify_of_sender_eq_ok hwho]
  intro h
  simp only [bind, Except.bind] at h
  split at h
  · split at h <;> cases h
  · cases h

/-- A route answers no known caller with that status. -/
theorem status_serve_ne (hwho : service.sender r = .ok who) (session : Session)
    (event : ToolGateway.Request → Event) (route : Route) :
    (service.serve session r event route).1.status ≠ 401 := by
  cases route with
  | health => simp [serve, healthResponse, Response.json]
  | tools =>
    rw [serve, identify_of_sender_eq_ok hwho, Gateway.list]
    cases session.gateway.registryOutage with
    | none => simp [listResponse, Response.json]
    | some _ => simp [failureResponse, Response.json, Failure.status]
  | call label tool =>
    rw [serve]
    cases haccept : service.accept r label tool with
    | error failure =>
      intro hstatus
      obtain ⟨message, rfl⟩ := (status_failureResponse_eq_iff failure).mp hstatus
      exact accept_ne_unauthenticated hwho label tool message haccept
    | ok request =>
      apply status_toldResponse_ne
      exact Session.told_ne_unauthenticated _ _ _

/-- So a request of a known caller is never answered so. -/
theorem status_take_ne (hwho : service.sender r = .ok who) (session : Session)
    (event : ToolGateway.Request → Event) : (service.take session r event).1.status ≠ 401 := by
  unfold take
  split
  · simp [Response.empty]
  · next route _ =>
    split
    · have hserve := status_serve_ne hwho session event route
      dsimp only
      split
      · exact hserve
      · exact hserve
    · simp [Response.empty]

end Service

end Http

namespace Server

variable {c : Config} {caller : Caller} {r : Http.Request}

/-- The header of a caller is read if its token is visible, and else it is not read at all. -/
theorem headerText?_token_eq_some_iff
    (hheader : Http.header? r.headers "authorization" =
      some (Text.Utf8.encode ("Bearer " ++ caller.token)))
    (hblank : ∀ ch ∈ caller.token.toList, Text.isBlank ch = false) {text : String} :
    r.headerText? "authorization" = some text ↔
      text = "Bearer " ++ caller.token ∧ ∀ ch ∈ caller.token.toList, Http.IsVisible ch := by
  have hplain : (∀ ch ∈ ("Bearer " ++ caller.token).toList, Http.IsPlainChar ch) ↔
      ∀ ch ∈ caller.token.toList, Http.IsVisible ch := by
    have hword : ∀ ch ∈ "Bearer ".toList, Http.IsPlainChar ch := by
      simp [Http.IsPlainChar]
    rw [String.toList_append, List.forall_mem_append, and_iff_right hword]
    apply forall₂_congr
    intro ch hch
    exact Http.isPlainChar_iff_isVisible (hblank ch hch)
  rw [Http.Request.headerText?, hheader, Option.bind_some, ← hplain]
  constructor
  · exact Http.of_plainText?_encode
  · rintro ⟨rfl, h⟩
    exact Http.plainText?_encode h

/-- A server of a valid configuration with tokens knows a caller by its token if and only if all
characters of the token are visible ASCII. A request that carries the word, a space and the bytes of
such a token is that of the caller, whatever else is in it, and is never answered with the status
401. With any other token every route that asks for a caller answers with that status, although the
configuration is valid. -/
theorem knows_caller_iff (h : c.IsValid) (hmode : c.listener.callers.mode = .bearerToken)
    (hcaller : caller ∈ c.listener.callers.callers)
    (hheader : Http.header? r.headers "authorization" =
      some (Text.Utf8.encode ("Bearer " ++ caller.token)))
    (address : SocketAddress) (key : Option CredentialKey) (sink : Option Audit.Sink) :
    let service := (ofConfig c address key sink).service
    (service.callers.authenticate (some r.peer) (r.headerText? "authorization") =
        .ok ⟨caller.id, some (Callers.fingerprint caller.token)⟩ ↔
      ∀ ch ∈ caller.token.toList, Http.IsVisible ch) ∧
    ∀ route, Http.Route.ofTarget? r.target = some route → route.serves r.method = true →
      route ≠ .health → ∀ session event,
        ((service.take session r event).1.status = 401 ↔
          ¬ ∀ ch ∈ caller.token.toList, Http.IsVisible ch) := by
  intro service
  obtain ⟨-, -, hblank⟩ := Config.token_of_callerFaults (h.callerFaults_eq_nil hcaller)
  have hread {text : String} : r.headerText? "authorization" = some text ↔
      text = "Bearer " ++ caller.token ∧ ∀ ch ∈ caller.token.toList, Http.IsVisible ch :=
    headerText?_token_eq_some_iff hheader hblank
  have hknown (hvisible : ∀ ch ∈ caller.token.toList, Http.IsVisible ch) :
      service.sender r = .ok ⟨caller.id, some (Callers.fingerprint caller.token)⟩ := by
    rw [Http.Service.sender, hread.mpr ⟨rfl, hvisible⟩]
    exact h.authenticate_token hmode hcaller _
  -- Without a header that can be read there is no token to compare.
  have hstranger (hhidden : ¬ ∀ ch ∈ caller.token.toList, Http.IsVisible ch) :
      service.sender r = .error .missing := by
    have hnone : r.headerText? "authorization" = none := by
      rw [Option.eq_none_iff_forall_ne_some]
      intro text htext
      exact hhidden (hread.mp htext).2
    have hservice : service.callers.mode = .bearerToken := hmode
    rw [Http.Service.sender, hnone, Callers.authenticate, hservice]
    rfl
  constructor
  · constructor
    · intro hwho
      apply Classical.byContradiction
      intro hhidden
      cases hwho.symm.trans (hstranger hhidden)
    · exact hknown
  · intro route hroute hserves hguarded session event
    constructor
    · intro hstatus hvisible
      exact Http.Service.status_take_ne (hknown hvisible) session event hstatus
    · intro hhidden
      rw [Http.Service.turnsAway_of_sender_eq_error hroute hserves hguarded (hstranger hhidden)
        session event]
      dsimp only
      split <;> rfl

/-- Of two callers of one valid configuration the one without accents in its token gets in, and the
other is told to make itself known. -/
theorem knows_caller_iff_of_accents :
    let callers : List Caller := [⟨"plain", "token"⟩, ⟨"accented", "tökén"⟩]
    let c : Config :=
      { Config.standard with listener := { Config.Listener.standard with
          callers := ⟨.bearerToken, callers⟩ } }
    let request (token : String) : Http.Request :=
      ⟨"GET", "/mcp/v1/tools", [("authorization", Text.Utf8.encode ("Bearer " ++ token))], [],
        .v4 ⟨127, 0, 0, 1⟩⟩
    let server := ofConfig c ⟨.v4 ⟨127, 0, 0, 1⟩, 0, 8088⟩ none none
    c.IsValid ∧
      server.service.callers.authenticate (some (request "token").peer)
          ((request "token").headerText? "authorization") =
        .ok ⟨"plain", some (Callers.fingerprint "token")⟩ ∧
      (server.service.take server.session (request "tökén") fun _ => .advance 0).1.status =
        401 := by
  intro callers c request server
  have hvalid : c.IsValid := by decide +kernel +revert
  have hroute : Http.Route.ofTarget? "/mcp/v1/tools" = some .tools := by decide +kernel
  have hheader (token : String) : Http.header? (request token).headers "authorization" =
      some (Text.Utf8.encode ("Bearer " ++ token)) := by
    have hname : "authorization".toLower = "authorization" := by decide +kernel
    simp [Http.header?, request, hname]
  refine ⟨hvalid, ?_, ?_⟩
  · have hcaller : (⟨"plain", "token"⟩ : Caller) ∈ c.listener.callers.callers := by
      simp [c, callers]
    have h := knows_caller_iff hvalid rfl hcaller (hheader "token") server.address none none
    exact h.1.mpr (by simp [Http.IsVisible])
  · have hcaller : (⟨"accented", "tökén"⟩ : Caller) ∈ c.listener.callers.callers := by
      simp [c, callers]
    have h := knows_caller_iff hvalid rfl hcaller (hheader "tökén") server.address none none
    apply (h.2 .tools hroute rfl (by decide) _ _).mpr
    intro hvisible
    have haccent := hvisible 'ö' (by decide)
    revert haccent
    decide

end Server

end ToolGateway
