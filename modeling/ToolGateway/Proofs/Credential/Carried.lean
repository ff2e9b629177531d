import ToolGateway.Command.SecretInput
import ToolGateway.Proofs.Config.Registry
import ToolGateway.Proofs.Credential.Sealing
import ToolGateway.Proofs.Gateway.FirstFault
import ToolGateway.Proofs.Text.Trimming
import ToolGateway.Proofs.Text.WellFormed
import ToolGateway.Server

/-!
# A credential on its way to a tool server

A secret is typed in and sealed by one program, written into a configuration, and opened by another
program for each call. What leaves with a call is the secret that was typed, without the line end
behind it: both programs read the same key out of the same variable, and blanks that get around the
sealed text on the way do not matter.
-/

namespace ToolGateway

open Text (AllBlank)

/-! ## Typing in -/

namespace Command

/-- A text is what is left of it without its line end, and that line end. -/
theorem exists_eq_withoutLineEnd_append (cs : List Char) :
    ∃ lineEnd ∈ [[], ['\n'], ['\r', '\n']], cs = withoutLineEnd cs ++ lineEnd := by
  fun_induction withoutLineEnd cs with
  | case1 => exact ⟨[], by simp, rfl⟩
  | case2 => exact ⟨['\n'], by simp, rfl⟩
  | case3 => exact ⟨['\r', '\n'], by simp, rfl⟩
  | case4 c cs _ _ ih =>
    obtain ⟨lineEnd, hlineEnd, hcs⟩ := ih
    refine ⟨lineEnd, hlineEnd, ?_⟩
    rw [List.cons_append, ← hcs]

/-- A secret that was read is what was typed, but for a line end. -/
theorem eq_encode_append_of_secretOfInput {bytes : Bytes} {secret : Secret}
    (h : secretOfInput (bytes.take (maxSecretLength + 1)) = .ok secret) :
    secret.text ≠ "" ∧ ∃ lineEnd ∈ [[], [0x0A], [0x0D, 0x0A]],
      bytes = Text.Utf8.encode secret.text ++ lineEnd := by
  unfold secretOfInput at h
  by_cases hlong : maxSecretLength < (bytes.take (maxSecretLength + 1)).length
  · rw [if_pos hlong] at h
    cases h
  · rw [List.length_take] at hlong
    have hshort : bytes.length ≤ maxSecretLength + 1 := by omega
    rw [if_neg (by rwa [List.length_take]), List.take_of_length_le hshort] at h
    cases hdecode : Text.Utf8.decode? bytes with
    | none => simp [hdecode] at h
    | some text =>
      obtain ⟨lineEnd, hlineEnd, htext⟩ := exists_eq_withoutLineEnd_append text.toList
      cases hcs : withoutLineEnd text.toList with
      | nil => simp [hdecode, hcs] at h
      | cons c cs =>
        simp only [hdecode, hcs, Except.ok.injEq] at h
        subst h
        rw [hcs] at htext
        have hbytes : bytes = Text.Utf8.encodeChars (c :: cs) ++ Text.Utf8.encodeChars lineEnd := by
          rw [← Text.Utf8.encode_of_decode? hdecode, Text.Utf8.encode, htext,
            Text.Utf8.encodeChars, Text.Utf8.encodeChars, Text.Utf8.encodeChars,
            List.flatMap_append]
        refine ⟨by simp [← String.toList_inj], Text.Utf8.encodeChars lineEnd, ?_, ?_⟩
        · simp only [List.mem_cons, List.not_mem_nil, or_false] at hlineEnd
          rcases hlineEnd with rfl | rfl | rfl <;> decide
        · rw [hbytes, Text.Utf8.encode, String.toList_ofList]

end Command

/-! ## The key -/

/-- The sealing program reads a key out of a text that is not blank. -/
theorem Command.keyOfVariable_some (variableName text : String) :
    keyOfVariable variableName (some text) =
      if Text.trim text = "" then .error (.keyMissing variableName)
      else (CredentialKey.ofBase64 text).mapError fun _ => .keyInvalid variableName := by
  unfold keyOfVariable
  by_cases h : Text.trim text = ""
  · rw [Option.filter_some, if_neg (by simp [h]), if_pos h]
  · rw [Option.filter_some, if_pos (decide_eq_true h), if_neg h]
    dsimp only
    generalize CredentialKey.ofBase64 text = found
    cases found <;> rfl

/-- So does the gateway. -/
theorem Config.key_of_lookup {c : Config} {lookup : String → Option String} {text : String}
    (h : lookup c.keyName = some text) :
    c.key lookup =
      if Text.trim text = "" then
        if c.needsKey then .error (.missing c.keyName) else .ok none
      else ((CredentialKey.ofBase64 text).mapError fun _ => .invalid c.keyName).map some := by
  unfold key
  rw [h]
  by_cases hblank : Text.trim text = ""
  · rw [Option.filter_some, if_neg (by simp [hblank]), if_pos hblank]
  · rw [Option.filter_some, if_pos (decide_eq_true hblank), if_neg hblank]
    dsimp only
    generalize CredentialKey.ofBase64 text = found
    cases found <;> rfl

/-- A text that is sealed under has a key in it. -/
theorem Command.of_sealUnder_eq_ok {variableName text stored : String} {nonce : Bytes}
    {secret : Secret} (h : sealUnder variableName (some text) nonce secret = .ok stored) :
    Text.trim text ≠ "" ∧ ∃ key, CredentialKey.ofBase64 text = .ok key ∧
      stored = key.sealSecret nonce secret := by
  rw [sealUnder, keyOfVariable_some] at h
  by_cases hblank : Text.trim text = ""
  · rw [if_pos hblank] at h
    cases h
  · rw [if_neg hblank] at h
    cases hkey : CredentialKey.ofBase64 text with
    | error cause =>
      rw [hkey] at h
      cases h
    | ok key =>
      rw [hkey] at h
      cases h
      exact ⟨hblank, key, rfl, rfl⟩

/-- Both programs refuse the same texts, for the same reason. -/
theorem Command.sealUnder_eq_error_iff {variableName text : String} {nonce : Bytes}
    {secret : Secret} {c : Config} {lookup : String → Option String}
    (h : lookup c.keyName = some text) {r : SealError} :
    sealUnder variableName (some text) nonce secret = .error r ↔
      (r = .keyMissing variableName ∧
          c.key lookup = if c.needsKey then .error (.missing c.keyName) else .ok none) ∨
        r = .keyInvalid variableName ∧ c.key lookup = .error (.invalid c.keyName) := by
  rw [sealUnder, keyOfVariable_some, Config.key_of_lookup h]
  by_cases hblank : Text.trim text = ""
  · rw [if_pos hblank, if_pos hblank]
    cases c.needsKey <;> simp [Except.map, eq_comm]
  · rw [if_neg hblank, if_neg hblank]
    cases hkey : CredentialKey.ofBase64 text with
    | error cause => cases c.needsKey <;> simp [Except.map, Except.mapError, eq_comm]
    | ok key => cases c.needsKey <;> simp [Except.map, Except.mapError]

/-! ## The sealed text -/

namespace CredentialKey

/-- Blanks around a stored text do not matter. -/
theorem decodeStored_append_of_allBlank {left right : String} (hleft : AllBlank left.toList)
    (hright : AllBlank right.toList) (stored : String) :
    decodeStored (left ++ stored ++ right) = decodeStored stored := by
  rw [decodeStored, Text.trim_append_of_allBlank hleft hright, decodeStored]

/-- Nor do they for what it opens to. -/
theorem openStored_append_of_allBlank {left right : String} (hleft : AllBlank left.toList)
    (hright : AllBlank right.toList) (key : CredentialKey) (stored : String) :
    key.openStored (left ++ stored ++ right) = key.openStored stored := by
  rw [openStored, decodeStored_append_of_allBlank hleft hright, openStored]

/-- A text that opens passes the check of a configuration. -/
theorem credentialFaults_of_openStored {key : CredentialKey} {stored : String} {secret : Secret}
    (h : key.openStored stored = .ok secret) {scheme : Scheme} (hscheme : scheme ≠ .none) :
    Config.credentialFaults scheme (some stored) = [] := by
  cases hdecode : decodeStored stored with
  | error cause => simp [openStored, hdecode, bind, Except.bind] at h
  | ok bytes => cases scheme <;> simp_all [Config.credentialFaults]

end CredentialKey

/-! ## Calls -/

/-- An event adds a record of a label. -/
def Event.Registers (label : String) : Event → Prop
  | .register record => record.label = label
  | _ => False

namespace Session

variable {s : Gateway.Settings} {session : Session} {request : Request} {server : ToolServer}
  {key : CredentialKey} {stored : String} {secret : Secret}

/-- A call to a tool server whose stored credential opens is not rejected for it. -/
theorem faultAt_credential_of_openStored (hserver : session.serverOf request = some server)
    (hkey : s.key = some key) (hstored : server.credential = some stored)
    (hopen : key.openStored stored = .ok secret) (reply : Outgoing → Reply) :
    session.faultAt s request reply .credential = none := by
  rw [faultAt, hserver, Option.bind_some, Gateway.openCredential, hstored, hkey]
  by_cases hscheme : server.scheme = .none
  · rw [if_pos hscheme]
  · rw [if_neg hscheme]
    simp [hopen]

/-- What leaves for such a call carries the secret. -/
theorem credential_of_openStored {event : Event} {out : Outgoing}
    (hrequest : event.request? = some request) (hserver : session.serverOf request = some server)
    (hkey : s.key = some key) (hscheme : server.scheme ≠ .none)
    (hstored : server.credential = some stored) (hopen : key.openStored stored = .ok secret)
    (hout : out ∈ (session.step s event).1.forwarded) :
    out.credential = some ⟨server.scheme, secret⟩ := by
  obtain ⟨request', hrequest', server', body, hclears⟩ :=
    ((forwarded_step session event).2 out).mp hout
  obtain rfl : request = request' := Option.some.inj (hrequest.symm.trans hrequest')
  obtain rfl : server = server' := Option.some.inj (hserver.symm.trans hclears.found)
  rcases hclears.opened with ⟨hnone, -⟩ | ⟨-, stored', key', secret', hstored', hkey', hopen', hout⟩
  · exact absurd hnone hscheme
  · obtain rfl : stored = stored' := Option.some.inj (hstored.symm.trans hstored')
    obtain rfl : key = key' := Option.some.inj (hkey.symm.trans hkey')
    obtain rfl : secret = secret' := Except.ok.inj (hopen.symm.trans hopen')
    exact hout

/-- The request that an event brings leaves if and only if no stage before the delivery finds a
fault. -/
theorem exists_forwarded_iff_faultAt {event : Event} (hrequest : event.request? = some request)
    (reply : Outgoing → Reply) :
    (∃ out, (session.step s event).1.forwarded = [out]) ↔
      ∀ stage, stage ≠ .delivery → session.faultAt s request reply stage = none := by
  obtain ⟨hone, hmem⟩ := forwarded_step (s := s) session event
  rw [← exists_clears_iff_faultAt]
  constructor
  · rintro ⟨out, hout⟩
    obtain ⟨request', hrequest', server, body, hclears⟩ := (hmem out).mp (hout ▸ List.mem_cons_self)
    obtain rfl : request = request' := Option.some.inj (hrequest.symm.trans hrequest')
    exact ⟨server, body, out, hclears⟩
  · rintro ⟨server, body, out, hclears⟩
    have hout := (hmem out).mpr ⟨request, hrequest, server, body, hclears⟩
    obtain ⟨first, hfirst⟩ :=
      List.length_eq_one_iff.mp (Nat.le_antisymm hone (List.length_pos_of_mem hout))
    exact ⟨first, hfirst⟩

/-- A label keeps its record until another is added for it. -/
theorem get?_registry_reach {events : List Event} {i : Nat} {label : String}
    (hkept : ∀ event ∈ events.take i, ¬ event.Registers label) :
    (session.reach s events i).gateway.registry.get? label =
      session.gateway.registry.get? label := by
  let P (later : Session) : Prop :=
    later.gateway.registry.get? label = session.gateway.registry.get? label
  refine reach_induction (P := P) rfl fun later event hevent hsame => ?_
  dsimp only [P]
  rw [registry_step, ← hsame]
  cases event with
  | register record => exact Table.get?_insert_of_ne _ _ (hkept _ hevent)
  | _ => rfl

end Session

/-! ## All the way -/

/-- A stored text carries a secret: where the variable of the key holds `keyText`, a configuration
that has it for a tool server is accepted, and its gateway sends the secret with every call that the
other checks let pass. -/
structure Config.Carries (keyText stored : String) (secret : Secret) (key : CredentialKey) :
    Prop where
  loads : ∀ (c : Config) (lookup : String → Option String), lookup c.keyName = some keyText →
    c.key lookup = .ok (some key)
  passes : ∀ scheme, scheme ≠ .none → credentialFaults scheme (some stored) = []
  opens : key.openStored stored = .ok secret
  /-- No call is rejected for the credential: it leaves if and only if the other checks find nothing
  amiss, and what leaves carries the secret. -/
  sends : ∀ (c : Config) (server : ToolServer) (address : SocketAddress)
    (sink : Option Audit.Sink) (events : List Event) (i : Nat) (event : Event) (request : Request),
    let s := Server.settings c (some key)
    let session := (Server.ofConfig c address (some key) sink).session
    c.IsValid → server ∈ c.servers → server.credential = some stored → server.scheme ≠ .none →
      (∀ earlier ∈ events.take i, ¬ earlier.Registers server.label) → events[i]? = some event →
      event.request? = some request → Text.trim request.label = server.label →
      (∀ reply, (session.reach s events i).faultAt s request reply .credential = none) ∧
        ∃ effects, (session.run s events).1[i]? = some effects ∧
          (∀ out ∈ effects.forwarded, out.credential = some ⟨server.scheme, secret⟩) ∧
          ∀ reply, (∃ out, effects.forwarded = [out]) ↔
            ∀ stage, stage ≠ .credential → stage ≠ .delivery →
              (session.reach s events i).faultAt s request reply stage = none

/-- A text that opens under the key in a variable carries its secret. -/
theorem Config.carries_of_openStored {keyText stored : String} {secret : Secret}
    {key : CredentialKey} (hblank : Text.trim keyText ≠ "")
    (hkey : CredentialKey.ofBase64 keyText = .ok key)
    (hopen : key.openStored stored = .ok secret) : Carries keyText stored secret key where
  loads c lookup hlookup := by
    rw [key_of_lookup hlookup, if_neg hblank, hkey]
    rfl
  passes scheme hscheme := CredentialKey.credentialFaults_of_openStored hopen hscheme
  opens := hopen
  sends := by
    intro c server address sink events i event request s session hvalid hin hstored hscheme hkept
      hevent hrequest hlabel
    have hfound : (session.reach s events i).serverOf request = some (registered server) := by
      rw [Session.serverOf, hlabel, Session.get?_registry_reach hkept]
      exact hvalid.get?_registry_eq_some_iff.mpr ⟨server, hin, rfl, rfl⟩
    have hstored : (registered server).credential = some stored := hstored
    have hscheme : (registered server).scheme ≠ .none := hscheme
    have hcredential (reply : Outgoing → Reply) :
        (session.reach s events i).faultAt s request reply .credential = none :=
      Session.faultAt_credential_of_openStored hfound rfl hstored hopen reply
    refine ⟨hcredential, ((session.reach s events i).step s event).1, ?_, fun out hout => ?_,
      fun reply => ?_⟩
    · rw [Session.getElem?_run_fst, hevent, Option.map_some]
    · have hcarried :=
        Session.credential_of_openStored hrequest hfound rfl hscheme hstored hopen hout
      exact hcarried
    · rw [Session.exists_forwarded_iff_faultAt hrequest reply]
      refine forall_congr' fun stage => ⟨fun h _ => h, fun h hdelivery => ?_⟩
      by_cases hstage : stage = .credential
      · exact hstage ▸ hcredential reply
      · exact h hstage hdelivery

namespace Command

/-- A secret that is typed in and sealed is the one that the gateway sends, whatever blanks get
around the sealed text: all that was typed but for a line end. A key is refused at the sealing if
and only if the gateway finds it blank or invalid as well. -/
theorem sealed_secret_carried {bytes nonce : Bytes} {secret : Secret}
    (hnonce : nonce.length = Gcm.nonceLength)
    (hread : secretOfInput (bytes.take (maxSecretLength + 1)) = .ok secret)
    (variableName keyText : String) :
    (∃ lineEnd ∈ [[], [0x0A], [0x0D, 0x0A]],
        bytes = Text.Utf8.encode secret.text ++ lineEnd) ∧
      (∀ stored, sealUnder variableName (some keyText) nonce secret = .ok stored →
        ∃ key, ∀ left right : String, AllBlank left.toList → AllBlank right.toList →
          Config.Carries keyText (left ++ stored ++ right) secret key) ∧
      ∀ (c : Config) (lookup : String → Option String), lookup c.keyName = some keyText →
        ∀ r, sealUnder variableName (some keyText) nonce secret = .error r ↔
          (r = .keyMissing variableName ∧
              c.key lookup = if c.needsKey then .error (.missing c.keyName) else .ok none) ∨
            r = .keyInvalid variableName ∧ c.key lookup = .error (.invalid c.keyName) := by
  refine ⟨(eq_encode_append_of_secretOfInput hread).2, fun stored hsealed => ?_,
    fun c lookup hlookup r => sealUnder_eq_error_iff hlookup⟩
  obtain ⟨hblank, key, hkey, rfl⟩ := of_sealUnder_eq_ok hsealed
  refine ⟨key, fun left right hleft hright => Config.carries_of_openStored hblank hkey ?_⟩
  rw [CredentialKey.openStored_append_of_allBlank hleft hright, key.openStored_sealSecret hnonce]

/-- A secret that ends in a blank and a line end is sealed under a key with blanks around it, and
the sealed text is written into a configuration between blanks. A call to that tool server carries
the secret. -/
theorem sealed_secret_carried_of_line :
    let keyText : String := " AAAAAAAAAAAAAAAAAAAAAAAAAAAAAAAAAAAAAAAAAAA=\n"
    let secret : Secret := ⟨"red door "⟩
    let bytes : Bytes := Text.Utf8.encode "red door \r\n"
    let server (stored : String) : ToolServer :=
      ⟨"s", "http://127.0.0.1:9100", .bearer, some ("\n" ++ stored ++ " "), true, none⟩
    let c (stored : String) : Config :=
      { Config.standard with servers := [server stored], trust := ⟨[⟨"*", .auto, 0⟩], [], []⟩ }
    let address : SocketAddress := ⟨.v4 ⟨127, 0, 0, 1⟩, 0, 8088⟩
    let event : Event := .call ⟨"me", "s", "echo", [0x7b, 0x7d]⟩ (fun _ => .ok ⟨200, .null⟩) ⟨0, 0⟩
    secretOfInput (bytes.take (maxSecretLength + 1)) = .ok secret ∧
      ∃ stored key, sealUnder "KEY" (some keyText) (List.replicate 12 7) secret = .ok stored ∧
        (c stored).IsValid ∧ (c stored).key (fun _ => some keyText) = .ok (some key) ∧
        key.openStored ("\n" ++ stored ++ " ") = .ok secret ∧
        ∃ effects out,
          ((Server.ofConfig (c stored) address (some key) none).session.run
            (Server.settings (c stored) (some key)) [event]).1[0]? = some effects ∧
          effects.forwarded = [out] ∧ out.credential = some ⟨.bearer, secret⟩ := by
  intro keyText secret bytes server c address event
  have hread : secretOfInput (bytes.take (maxSecretLength + 1)) = .ok secret := by
    decide +kernel +revert
  obtain ⟨stored, hsealed⟩ : ∃ stored,
      sealUnder "KEY" (some keyText) (List.replicate 12 7) secret = .ok stored := by
    have hblank : Text.trim keyText ≠ "" := by decide +kernel +revert
    have hkey : (CredentialKey.ofBase64 keyText).isOk = true := by decide +kernel +revert
    rw [sealUnder, keyOfVariable_some, if_neg hblank]
    cases hfound : CredentialKey.ofBase64 keyText with
    | error cause => simp [hfound, Except.isOk, Except.toBool] at hkey
    | ok key => exact ⟨_, rfl⟩
  have hnonce : (List.replicate 12 7 : Bytes).length = Gcm.nonceLength := rfl
  obtain ⟨-, hcarried, -⟩ := sealed_secret_carried hnonce hread "KEY" keyText
  obtain ⟨key, hcarries⟩ := hcarried stored hsealed
  have h := hcarries "\n" " " (by decide) (by decide)
  have hscheme : Scheme.bearer ≠ .none := by decide
  have hvalid : (c stored).IsValid := by
    have hserver : Config.serverFaults (server stored) = [] := by
      have hothers : Config.labelFaults "s" ++
          (Config.endpointFaults "http://127.0.0.1:9100" ++ [] ++
            Config.ServerFault.breaker.when (Breaker.Settings.parse? none = none)).map
              (.server "s") = [] := by
        decide +kernel
      rw [Config.serverFaults, h.passes .bearer hscheme]
      exact hothers
    have hrest : ({ Config.standard with
        servers := [], trust := ⟨[⟨"*", .auto, 0⟩], [], []⟩ } : Config).IsValid := by
      decide +kernel
    simp only [Config.IsValid, Config.faults, List.append_eq_nil_iff] at hrest ⊢
    refine ⟨⟨hrest.1.1, ?_⟩, hrest.2⟩
    simp [c, Config.serversFaults, Config.maxServers, Config.faultsOfEach,
      Config.serverFaultsBehind, hserver]
  obtain ⟨-, effects, heffects, hcredential, hleaves⟩ := h.sends (c stored) (server stored) address
    none [event] 0 event _ hvalid List.mem_cons_self rfl hscheme (by simp) rfl rfl
    (show Text.trim "s" = "s" by decide +kernel)
  have hdecision : (CallBody.parse? [0x7b, 0x7d]).map (fun body =>
      ((Trust.Policy.empty.addDefault ⟨"*", .auto, 0⟩).source.during .none).decide
        ⟨Text.trim "echo", body.agent, body.workspace⟩) = some (.ok .auto) := by
    decide +kernel
  obtain ⟨out, hout⟩ : ∃ out, effects.forwarded = [out] := by
    rw [hleaves fun _ => .ok ⟨200, .null⟩]
    intro stage hstage hdelivery
    cases stage with
    | body => exact if_pos (by decide +kernel)
    | policy => exact congrArg (Option.bind · _) hdecision
    | tier => exact congrArg (Option.bind · _) hdecision
    | credential => exact absurd rfl hstage
    | delivery => exact absurd rfl hdelivery
    | _ => rfl
  exact ⟨hread, stored, key, hsealed, hvalid, h.loads _ _ rfl, h.opens, effects, out, heffects,
    hout, hcredential out (hout ▸ List.mem_cons_self)⟩

end Command

end ToolGateway
