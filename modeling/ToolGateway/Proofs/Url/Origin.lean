import ToolGateway.Proofs.Config.Acceptance
import ToolGateway.Proofs.Delivery.Buildable
import ToolGateway.Proofs.Url.ToolSegment
import ToolGateway.Proofs.Url.UrlText

/-!
# The origin of a call

The secret of a tool server goes where the URL of the call points, and the name of the tool is part
of that URL. Whatever the name is, it ends up in the path: the URL of a tool is canonical like the
endpoint it lies below, with the scheme, the host and the `portNumber` of the endpoint and with
nothing beside them but a path (`toolUrl_keepsOrigin`). It is read back from its text as it is, if
no label of the host takes more than the characters that a reader of Punycode admits.
-/

namespace ToolGateway

namespace Url

/-! ## Endpoints -/

/-- What is read as a URL of the web is read behind its slashes. -/
theorem exists_readBehindSlashes? {text : String} {u : Url} (h : parse? text = some u)
    (hkind : u.kind = .special) : ∃ cs, readBehindSlashes? u.scheme cs = some u := by
  simp only [parse?, Option.bind_eq_bind, Option.bind_eq_some_iff] at h
  obtain ⟨⟨scheme, rest⟩, -, h⟩ := h
  dsimp only at h
  have hslashes {cs : List Char} (h : readBehindSlashes? scheme cs = some u) :
      ∃ cs, readBehindSlashes? u.scheme cs = some u :=
    ⟨cs, (of_readBehindSlashes? h).1 ▸ h⟩
  have hother (hscheme : u.scheme = scheme) (hk : kindOf scheme = .other) : False := by
    rw [kind, hscheme, hk] at hkind
    contradiction
  split at h
  · rw [kind, scheme_of_readFile? h] at hkind
    contradiction
  · exact hslashes h
  · next hk =>
    split at h
    · exact hslashes h
    · exact (hother (Option.some.inj h ▸ rfl) hk).elim
    · exact (hother (Option.some.inj h ▸ rfl) hk).elim

/-- The URL of a valid endpoint is canonical. -/
theorem exists_isCanonical {endpoint : String} (h : Config.endpointFaults endpoint = []) :
    ∃ u, parse? (Text.trim endpoint) = some u ∧ u.IsCanonical := by
  obtain ⟨u, a, hparse, hweb, hauthority, hname, hpassword, hquery, hfragment⟩ :=
    Config.endpointFaults_eq_nil_iff.mp h
  have hkind := kindOf_of_web (scheme_of_isWeb hweb)
  obtain ⟨cs, hread⟩ := exists_readBehindSlashes? hparse hkind
  simp only [readBehindSlashes?, hkind, Option.bind_eq_bind, Option.bind_eq_some_iff] at hread
  obtain ⟨⟨found, more⟩, hfound, hdone⟩ := hread
  obtain ⟨hhost, hport⟩ := of_readAuthority? hkind hfound
  have hparts := Option.some.inj hdone
  have ha : found = a := Option.some.inj ((congrArg Url.authority hparts).trans hauthority)
  refine ⟨u, hparse, hweb, ⟨a.host, a.portNumber, ?_, ha ▸ hhost, ha ▸ hport⟩,
    ⟨_, (congrArg Url.path hparts).symm, ne_nil_of_readPath rfl, isKept_of_readPath rfl⟩, hquery,
    hfragment⟩
  rw [hauthority, ← hname, ← hpassword]

/-! ## Adding segments -/

/-- What is added to kept segments leaves kept ones. -/
theorem isKept_push {segments : List String} (h : ∀ s ∈ segments, IsKept s) (text : String) :
    ∀ s ∈ push .special segments text, IsKept s := by
  by_cases hskipped : text = "." ∨ text = ".."
  · rwa [push, if_pos hskipped]
  · have hdone : ∀ s ∈ (if segments = [""] then [] else segments).reverse, IsKept s := by
      intro s hs
      rw [List.mem_reverse] at hs
      split at hs
      · cases hs
      · exact h s hs
    have hmore (b : UInt8) (hb : escapedInSegment .special b = false) :
        escapedInPath b = false := by
      simp only [escapedInSegment, Bool.or_eq_false_iff] at hb
      exact hb.1.1
    have hchars : ∀ c ∈ (escapeText (escapedInSegment .special) text.toList).toList, IsPathChar c :=
      fun c hc => isPathChar_of_mem_escapeText hmore (Or.inl (by decide)) (Or.inl (by decide)) hc
    rw [push_special hskipped]
    exact fun s hs => isKept_addSegment hdone hchars true s (List.mem_reverse.mp hs)

/-- And there are segments behind it. -/
theorem push_ne_nil {segments : List String} {text : String}
    (h : segments ≠ [] ∨ ¬ (text = "." ∨ text = "..")) : push .special segments text ≠ [] := by
  by_cases hskipped : text = "." ∨ text = ".."
  · rw [push, if_pos hskipped]
    exact h.resolve_right (not_not_intro hskipped)
  · rw [push_special hskipped]
    exact fun hnil => addSegment_last_ne_nil _ _ (List.reverse_eq_nil_iff.mp hnil)

/-- The URL of a tool below a canonical URL is canonical, and differs from it in the path alone. -/
theorem IsCanonical.withTool? {u : Url} (h : u.IsCanonical) (tool : String) :
    ∃ v, u.withTool? tool = some v ∧ v.scheme = u.scheme ∧ v.authority = u.authority ∧
      v.IsCanonical := by
  obtain ⟨hweb, hauthority, ⟨segments, hpath, -, hsegments⟩, hquery, hfragment⟩ := h
  have hkind : u.kind = .special := kindOf_of_web (scheme_of_isWeb hweb)
  let below := push .special (push .special (dropEmptyEnd segments) toolsSegment) tool
  have hfront : ∀ s ∈ dropEmptyEnd segments, IsKept s := by
    intro s hs
    unfold dropEmptyEnd at hs
    split at hs
    · exact hsegments s ((List.dropLast_sublist _).subset hs)
    · exact hsegments s hs
  have htool : u.withTool? tool = some { u with path := .segments false below } := by
    simp only [Url.withTool?, hpath, hkind, below]
  refine ⟨_, htool, rfl, rfl, hweb, hauthority, ⟨below, rfl, ?_, ?_⟩, hquery, hfragment⟩
  · exact push_ne_nil (Or.inl (push_ne_nil (Or.inr (by decide))))
  · exact isKept_push (isKept_push hfront toolsSegment) tool

/-- A URL has the origin of another, and beside it nothing but a path. -/
structure KeepsOrigin (u v : Url) : Prop where
  scheme : v.scheme = u.scheme
  host : v.authority.map Authority.host = u.authority.map Authority.host
  portNumber : v.authority.map Authority.portNumber = u.authority.map Authority.portNumber
  nobody : ∃ a, v.authority = some a ∧ a.username = "" ∧ a.password = none
  query : v.query = none
  fragment : v.fragment = none
  path : v.path.render.toList.head? = some '/'

/-- A canonical URL with the scheme and the authority of another has its origin. -/
theorem IsCanonical.keepsOrigin {u v : Url} (h : v.IsCanonical) (hscheme : v.scheme = u.scheme)
    (hauthority : v.authority = u.authority) : u.KeepsOrigin v := by
  obtain ⟨-, ⟨host, portNumber, hplace, -, -⟩, ⟨segments, hpath, hne, -⟩, hquery, hfragment⟩ := h
  obtain ⟨segment, more, rfl⟩ := List.exists_cons_of_ne_nil hne
  exact {
    scheme := hscheme
    host := by rw [hauthority]
    portNumber := by rw [hauthority]
    nobody := ⟨_, hplace, rfl, rfl⟩
    query := hquery
    fragment := hfragment
    path := by simp [hpath, Path.render, toList_renderSegments, segmentChars] }

end Url

namespace Post

/-- A canonical URL has no name and no password that could be taken out of it. -/
theorem extractUser_of_isCanonical {u : Url} (h : u.IsCanonical) : extractUser u = (u, none) := by
  obtain ⟨host, portNumber, hauthority, -, -⟩ := h.authority
  have hempty : unescaped? "" = some "" := by decide +kernel
  have huser : userOf? u = none := by simp [userOf?, hauthority, hempty]
  rw [extractUser, huser]

/-- A credential is presented in its own header. -/
theorem eq_presented?_of_authorization? {c : Credential} {header : Option String}
    (h : authorization? c = .ok header) : header = presented? c := by
  unfold authorization? at h
  split at h
  · next hnone => rw [← Except.ok.inj h, hnone]
  · next hsome =>
    split at h
    · rw [← Except.ok.inj h, hsome]
    · cases h

/-- A call to a canonical URL is posted there, with no header but that for its credential. -/
theorem of_ofOutgoing {o : Outgoing} {p : Post} {url : Url}
    (hurl : toolUrl o.endpoint o.tool = .ok url) (hcanonical : url.IsCanonical)
    (h : ofOutgoing o = .ok p) :
    p.url = url ∧ p.authorization = (o.credential.bind presented?).toList := by
  obtain ⟨url', presented, hurl', hpresented, rfl⟩ := exists_of_ofOutgoing h
  obtain rfl := Except.ok.inj (hurl.symm.trans hurl')
  rw [extractUser_of_isCanonical hcanonical]
  refine ⟨rfl, ?_⟩
  cases hcredential : o.credential with
  | none =>
    rw [hcredential] at hpresented
    rw [← Except.ok.inj hpresented]
    rfl
  | some c =>
    rw [hcredential] at hpresented
    rw [eq_presented?_of_authorization? hpresented]
    rfl

/-- Below a valid endpoint every tool has a URL with the origin of the endpoint and nothing beside
it but a path. It is read back from its text as it is, if the labels of its host can be, and a call
of the tool is posted to it, with no header but that for the credential. -/
theorem toolUrl_keepsOrigin {endpoint : String} (h : Config.endpointFaults endpoint = [])
    (tool : String) :
    ∃ u v, Url.parse? (Text.trim endpoint) = some u ∧ toolUrl (Text.trim endpoint) tool = .ok v ∧
      u.KeepsOrigin v ∧
      ((∀ a ∈ v.authority, a.host.HasShortLabels) → Url.parse? v.render = some v) ∧
      ∀ (o : Outgoing) (p : Post), o.endpoint = Text.trim endpoint → o.tool = tool →
        ofOutgoing o = .ok p →
          p.url = v ∧ p.authorization = (o.credential.bind presented?).toList := by
  obtain ⟨u, hparse, hcanonical⟩ := Url.exists_isCanonical h
  obtain ⟨v, htool, hscheme, hauthority, hkept⟩ := hcanonical.withTool? tool
  have hurl : toolUrl (Text.trim endpoint) tool = .ok v := by
    simp only [toolUrl, hparse, htool]
  refine ⟨u, v, hparse, hurl, hkept.keepsOrigin hscheme hauthority, Url.parse?_render hkept, ?_⟩
  rintro o p hendpoint rfl hpost
  exact of_ofOutgoing (hendpoint ▸ hurl) hkept hpost

/-- A name with all delimiters of a URL stays in the path, and a host beyond ASCII is the one in
Punycode. -/
theorem toolUrl_keepsOrigin_of_delimiters :
    let endpoint := "https://Ü.de:9100/v1/"
    let tool := "\\@evil.example:1/../?x#y%"
    Config.endpointFaults endpoint = [] ∧
      ∃ v, toolUrl (Text.trim endpoint) tool = .ok v ∧
        v.render = "https://xn--tda.de:9100/v1/tools/%5C@evil.example:1%2F..%2F%3Fx%23y%25" ∧
        v.authority.map Url.Authority.host = some (.domain "xn--tda.de") ∧
        Url.parse? v.render = some v := by
  intro endpoint tool
  have hvalid : Config.endpointFaults endpoint = [] := by decide +kernel
  have hhost : (Url.parse? (Text.trim endpoint)).map (fun u => u.authority.map Url.Authority.host) =
      some (some (.domain "xn--tda.de")) := by decide +kernel
  have htext : (toolUrl (Text.trim endpoint) tool).toOption.map Url.render =
      some "https://xn--tda.de:9100/v1/tools/%5C@evil.example:1%2F..%2F%3Fx%23y%25" := by
    decide +kernel
  obtain ⟨u, v, hparse, hurl, hkeeps, hread, -⟩ := toolUrl_keepsOrigin hvalid tool
  rw [hparse, Option.map_some, Option.some.injEq, ← hkeeps.host] at hhost
  rw [hurl, Except.toOption, Option.map_some, Option.some.injEq] at htext
  refine ⟨hvalid, v, hurl, htext, hhost, hread fun a ha name hname => ?_⟩
  obtain rfl : "xn--tda.de" = name := by
    simpa [Option.mem_def.mp ha, hname] using hhost.symm
  unfold Url.HasShortLabels
  decide

end Post

end ToolGateway
