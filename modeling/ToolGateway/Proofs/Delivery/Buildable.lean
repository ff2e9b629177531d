import ToolGateway.Delivery.Post
import ToolGateway.Proofs.Text.Written
import ToolGateway.Proofs.Url.ToolSegment

/-!
# Calls that can be built

Below a valid endpoint there is a URL for every tool, and what the basic scheme presents is written
in Base64, which every header can hold. So only a secret that is presented as it is can keep a call
from being built.
-/

namespace ToolGateway.Post

/-- Below a valid endpoint every tool has a URL. -/
theorem exists_toolUrl {endpoint : String} (h : Config.endpointFaults endpoint = [])
    (tool : String) : ∃ url, toolUrl (Text.trim endpoint) tool = .ok url := by
  obtain ⟨u, parts, hparse, -, hpath⟩ := Url.parse?_of_endpointFaults h
  simp [toolUrl, hparse, Url.withTool?, hpath]

/-- A header can hold what the basic scheme presents. -/
theorem inHeader_basic (s : String) : (basic s).toList.all inHeader = true := by
  have hchars : (Text.Base64.encode (Text.Utf8.encode s)).toList =
      Text.Base64.encodeChars (Text.Utf8.encode s) := String.toList_ofList
  rw [basic, String.toList_append, hchars, List.all_append, Bool.and_eq_true]
  refine ⟨by decide, List.all_eq_true.mpr fun c hc => ?_⟩
  exact Text.Base64.of_mem_encodeChars (P := (inHeader · = true)) (by decide) (by decide) hc

/-- A header can hold a bearer secret if it has no control characters but tabs. -/
theorem inHeader_bearer (text : String) :
    ("Bearer " ++ text).toList.all inHeader = text.toList.all inHeader := by
  rw [String.toList_append, List.all_append,
    (by decide : "Bearer ".toList.all inHeader = true), Bool.true_and]

/-- Only a bearer secret cannot be presented, and only if no header can hold it. -/
theorem authorization?_eq_error_iff {c : Credential} {failure : DeliveryFailure} :
    authorization? c = .error failure ↔
      (c.scheme = .bearer ∧ c.secret.text.toList.all inHeader = false) ∧
        failure = .invalidRequest "credential is not a valid header" := by
  obtain ⟨scheme, secret⟩ := c
  unfold authorization?
  cases scheme with
  | none => simp [presented?]
  | basic => simp [presented?, inHeader_basic]
  | bearer =>
    simp only [presented?, inHeader_bearer]
    cases secret.text.toList.all inHeader <;> simp [eq_comm]

/-- What a post is built of. -/
theorem exists_of_ofOutgoing {o : Outgoing} {p : Post} (h : ofOutgoing o = .ok p) :
    ∃ url presented, toolUrl o.endpoint o.tool = .ok url ∧
      o.credential.elim (.ok none) authorization? = .ok presented ∧
      p = ⟨(extractUser url).1, (extractUser url).2.toList ++ presented.toList,
        o.arguments.render⟩ := by
  unfold ofOutgoing at h
  cases hurl : toolUrl o.endpoint o.tool with
  | error failure => simp [hurl, bind, Except.bind] at h
  | ok url =>
    cases hcredential : o.credential with
    | none =>
      simp only [hurl, hcredential, bind, Except.bind, pure, Except.pure, Except.ok.injEq] at h
      exact ⟨url, none, rfl, rfl, h.symm⟩
    | some c =>
      cases hpresented : authorization? c with
      | error failure => simp [hurl, hcredential, hpresented, bind, Except.bind] at h
      | ok presented =>
        simp only [hurl, hcredential, hpresented, bind, Except.bind, pure, Except.pure,
          Except.ok.injEq] at h
        exact ⟨url, presented, rfl, hpresented, h.symm⟩

/-- A call with a URL cannot be built if and only if it carries such a secret. -/
theorem ofOutgoing_eq_error_iff {o : Outgoing} {url : Url} (h : toolUrl o.endpoint o.tool = .ok url)
    {failure : DeliveryFailure} :
    ofOutgoing o = .error failure ↔
      (∃ secret, o.credential = some ⟨.bearer, secret⟩ ∧
          secret.text.toList.all inHeader = false) ∧
        failure = .invalidRequest "credential is not a valid header" := by
  unfold ofOutgoing
  rw [h]
  cases hcredential : o.credential with
  | none => simp [bind, Except.bind, pure, Except.pure]
  | some c =>
    have hbearer : (∃ secret, some c = some ⟨.bearer, secret⟩ ∧
        secret.text.toList.all inHeader = false) ↔
          c.scheme = .bearer ∧ c.secret.text.toList.all inHeader = false := by
      obtain ⟨scheme, secret⟩ := c
      simp [and_assoc]
    rw [hbearer, ← authorization?_eq_error_iff]
    cases hpresented : authorization? c <;>
      simp [hpresented, bind, Except.bind, pure, Except.pure]

end ToolGateway.Post
