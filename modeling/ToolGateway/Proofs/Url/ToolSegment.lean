import ToolGateway.Config.Validity
import ToolGateway.Delivery.Post
import ToolGateway.Proofs.Gateway.Checks
import ToolGateway.Proofs.Url.Segment

/-!
# The segment of a tool

A call is decided and counted under the name of its tool, and the name is put into the URL of the
call as one segment. The tool server should find the same name there. It does, with three
exceptions: the names `.` and `..` leave no segment at all, tabs and line breaks are lost, and
below an endpoint whose path is two slashes the empty segment between them is lost.

`toolUrl_carriesTool_iff` says that these are all.
-/

namespace ToolGateway

namespace Url

/-! ## Endpoints of the web -/

/-- Every URL of a file has the scheme of files. -/
theorem scheme_of_readFile? {cs : List Char} {u : Url} (h : readFile? cs = some u) :
    u.scheme = "file" := by
  have hfile (a : Authority) (cs : List Char) : (fileUrl a cs).scheme = "file" := rfl
  unfold readFile? at h
  split at h
  · split at h
    · split at h
      · unfold readFileBehindSlashes? at h
        dsimp only at h
        split at h
        · exact Option.some.inj h ▸ hfile _ _
        · split at h
          · exact Option.some.inj h ▸ hfile _ _
          · obtain ⟨host, -, rfl⟩ := Option.map_eq_some_iff.mp h
            split
            · exact hfile _ _
            · exact hfile _ _
      · exact Option.some.inj h ▸ hfile _ _
    · exact Option.some.inj h ▸ hfile _ _
  · exact Option.some.inj h ▸ hfile _ _
  · exact Option.some.inj h ▸ hfile _ _

/-- What stands behind two slashes keeps the scheme and has a path of segments. -/
theorem of_readBehindSlashes? {scheme : String} {cs : List Char} {u : Url}
    (h : readBehindSlashes? scheme cs = some u) :
    u.scheme = scheme ∧ ∃ parts, u.path = .segments false parts := by
  simp only [readBehindSlashes?, Option.bind_eq_bind, Option.bind_eq_some_iff] at h
  obtain ⟨⟨authority, more⟩, -, h⟩ := h
  obtain rfl := Option.some.inj h
  exact ⟨rfl, _, rfl⟩

/-- A URL of the web has a path of segments. -/
theorem path_of_isWeb {text : String} {u : Url} (h : parse? text = some u)
    (hweb : u.isWeb = true) : u.kind = .special ∧ ∃ parts, u.path = .segments false parts := by
  have hkind : u.kind = .special := by
    simp only [isWeb, Bool.or_eq_true, decide_eq_true_eq] at hweb
    rcases hweb with hweb | hweb <;> rw [kind, hweb] <;> rfl
  refine ⟨hkind, ?_⟩
  simp only [parse?, Option.bind_eq_bind, Option.bind_eq_some_iff] at h
  obtain ⟨⟨scheme, rest⟩, -, h⟩ := h
  dsimp only at h
  have hother (hscheme : u.scheme = scheme) (hk : kindOf scheme = .other) : False := by
    rw [kind, hscheme, hk] at hkind
    contradiction
  split at h
  · rw [kind, scheme_of_readFile? h] at hkind
    contradiction
  · exact (of_readBehindSlashes? h).2
  · next hk =>
    split at h
    · exact (of_readBehindSlashes? h).2
    · exact (hother (Option.some.inj h ▸ rfl) hk).elim
    · exact (hother (Option.some.inj h ▸ rfl) hk).elim

/-- A valid endpoint is a URL of the web. -/
theorem parse?_of_endpointFaults {endpoint : String} (h : Config.endpointFaults endpoint = []) :
    ∃ u parts, parse? (Text.trim endpoint) = some u ∧ u.kind = .special ∧
      u.path = .segments false parts := by
  unfold Config.endpointFaults at h
  cases hparse : parse? (Text.trim endpoint) with
  | none => simp [hparse] at h
  | some u =>
    have hweb : u.isWeb = true := by
      cases hweb : u.isWeb with
      | true => rfl
      | false => simp [hparse, hweb, Config.ServerFault.when] at h
    obtain ⟨hkind, parts, hpath⟩ := path_of_isWeb hparse hweb
    exact ⟨u, parts, rfl, hkind, hpath⟩

/-! ## Adding segments -/

/-- The segments of a path without an empty one at the end. -/
def withoutEmptyEnd (parts : List String) : List String :=
  if parts.getLast? = some "" then parts.dropLast else parts

/-- The segments in front of those that are added: the single empty segment counts as none. -/
def front (parts : List String) : List String :=
  if parts = ["", ""] then [] else withoutEmptyEnd parts

/-- Dropping the empty end and then a single empty segment leaves what stands in front. -/
theorem front_eq (parts : List String) :
    (if dropEmptyEnd parts = [""] then [] else dropEmptyEnd parts) = front parts := by
  by_cases hlast : parts.getLast? = some ""
  · obtain ⟨init, rfl⟩ := List.getLast?_eq_some_iff.mp hlast
    cases init with
    | nil => rfl
    | cons first init =>
      have hdrop : dropEmptyEnd (first :: init ++ [""]) = first :: init := by
        rw [dropEmptyEnd, if_pos ⟨by simp, hlast⟩, List.dropLast_concat]
      have hend : withoutEmptyEnd (first :: init ++ [""]) = first :: init := by
        rw [withoutEmptyEnd, if_pos hlast, List.dropLast_concat]
      have htwo : first :: init ++ [""] = ["", ""] ↔ first :: init = [""] := by
        rw [← List.append_cancel_right_eq (first :: init) [""] [""]]
        rfl
      simp only [hdrop, front, hend, htwo]
  · have hdrop : dropEmptyEnd parts = parts := if_neg fun h => hlast h.2
    have hone : parts ≠ [""] := fun h => hlast (h ▸ rfl)
    have htwo : parts ≠ ["", ""] := fun h => hlast (h ▸ rfl)
    rw [hdrop, if_neg hone, front, if_neg htwo, withoutEmptyEnd, if_neg hlast]

/-- A text that is neither of the two skipped is added as an escaped segment. -/
theorem push_special {segments : List String} {text : String} (h : ¬ (text = "." ∨ text = "..")) :
    push .special segments text =
      (addSegment (if segments = [""] then [] else segments).reverse
        (escapeText (escapedInSegment .special) text.toList) true).reverse := by
  rw [push, if_neg h]
  rfl

/-- The first segment that is added stands behind those of the endpoint. -/
theorem push_tools (parts : List String) :
    push .special (dropEmptyEnd parts) toolsSegment = front parts ++ [toolsSegment] := by
  have hescaped : escapeText (escapedInSegment .special) toolsSegment.toList = toolsSegment := by
    decide
  have hup : ¬ isDotDot (escapeText (escapedInSegment .special) toolsSegment.toList) = true :=
    fun h => absurd (withoutIgnored_of_isDotDot h) (by decide)
  have hhere : ¬ isDot (escapeText (escapedInSegment .special) toolsSegment.toList) = true :=
    fun h => absurd (withoutIgnored_of_isDot h) (by decide)
  rw [push_special (by decide), front_eq, addSegment, if_neg hup, if_neg hhere, hescaped,
    List.reverse_cons, List.reverse_reverse]

/-- The segments of the URL of a tool. -/
theorem push_behind_tools (before : List String) {tool : String}
    (h : ¬ (tool = "." ∨ tool = "..")) :
    let segment := escapeText (escapedInSegment .special) tool.toList
    push .special (before ++ [toolsSegment]) tool =
      if isDotDot segment then before ++ [""]
      else if isDot segment then before ++ [toolsSegment, ""]
      else before ++ [toolsSegment, segment] := by
  intro segment
  have hne : before ++ [toolsSegment] ≠ [""] := by
    intro h
    have := congrArg List.getLast? h
    simp [toolsSegment] at this
  rw [push_special h, if_neg hne, List.reverse_append, List.reverse_singleton,
    List.singleton_append, addSegment]
  have hdrive : beginsWithDrive toolsSegment = false := by decide
  split
  · simp [dropLastSegment, hdrive]
  · split <;> simp [segment]

/-! ## The name of a tool in its URL -/

/-- A path carries the name of a tool below the segments of an endpoint: behind these and `tools`
it ends in one segment that is read as the name. -/
def CarriesTool (parts : List String) (path : Path) (tool : String) : Prop :=
  ∃ segment, path = .segments false (withoutEmptyEnd parts ++ [toolsSegment, segment]) ∧
    (∀ c ∈ segment.toList, c ≠ '/' ∧ c ≠ '\\' ∧ c ≠ '?' ∧ c ≠ '#') ∧
    Text.Percent.decode (Text.Utf8.encode segment) = Text.Utf8.encode tool

/-- At most one segment of an endpoint is lost in front. -/
theorem length_front_le (parts : List String) :
    (front parts).length ≤ (withoutEmptyEnd parts).length := by
  unfold front
  split
  · exact Nat.zero_le _
  · exact Nat.le_refl _

/-- A path of fewer than two segments behind those in front carries no name. -/
theorem not_carriesTool_of_length {parts segments : List String} (tool : String)
    (h : segments.length < (withoutEmptyEnd parts).length + 2) :
    ¬ CarriesTool parts (.segments false segments) tool := by
  rintro ⟨segment, hpath, -⟩
  rw [(Path.segments.inj hpath).2] at h
  simp at h

/-- A text loses no character if and only if none of its characters is ignored. -/
theorem withoutIgnored_eq_self_iff {cs : List Char} :
    withoutIgnored cs = cs ↔ ∀ c ∈ cs, isIgnored c = false := by
  simp [withoutIgnored]

/-- A name is not carried by an empty segment that stands for a point. -/
theorem not_carriesTool_of_isDot {parts before : List String} {tool : String}
    (h : isDot (escapeText (escapedInSegment .special) tool.toList) = true) :
    ¬ CarriesTool parts (.segments false (before ++ [toolsSegment, ""])) tool := by
  rintro ⟨segment, hpath, -, hread⟩
  obtain rfl : "" = segment := by
    simpa using congrArg List.getLast? (Path.segments.inj hpath).2
  have hnothing : Text.Percent.decode (Text.Utf8.encode "") = Text.Utf8.encodeChars [] := by
    simp [Text.Percent.decode, Text.Utf8.encode, Text.Utf8.encodeChars, Text.Percent.decodeOnto]
  have hempty : [] = tool.toList := Text.Utf8.encodeChars_injective (hnothing.symm.trans hread)
  have hpoint := withoutIgnored_of_isDot h
  rw [← hempty] at hpoint
  contradiction

/-- A name is carried by its own segment if and only if it loses no character and no segment is
lost in front. -/
theorem carriesTool_segment_iff (parts : List String) (tool : String) :
    CarriesTool parts (.segments false (front parts ++
        [toolsSegment, escapeText (escapedInSegment .special) tool.toList])) tool ↔
      withoutIgnored tool.toList = tool.toList ∧ parts ≠ ["", ""] := by
  constructor
  · rintro ⟨segment, hpath, -, hread⟩
    obtain ⟨hbefore, hlast⟩ := List.append_inj' (Path.segments.inj hpath).2 rfl
    obtain rfl : escapeText (escapedInSegment .special) tool.toList = segment := by
      simpa using hlast
    rw [decode_escapeText] at hread
    refine ⟨Text.Utf8.encodeChars_injective hread, ?_⟩
    rintro rfl
    contradiction
  · rintro ⟨hkept, hparts⟩
    rw [front, if_neg hparts]
    refine ⟨_, rfl, fun c hc => of_mem_escapeText hc, ?_⟩
    rw [decode_escapeText, hkept]
    rfl

/-- A name is carried as it is unless it is skipped, loses characters or stands below two
slashes. -/
theorem carriesTool_iff (parts : List String) (tool : String) :
    CarriesTool parts (.segments false (push .special (front parts ++ [toolsSegment]) tool)) tool ↔
      tool ≠ "." ∧ tool ≠ ".." ∧ (∀ c ∈ tool.toList, isIgnored c = false) ∧
        parts ≠ ["", ""] := by
  have hfront := length_front_le parts
  rw [← withoutIgnored_eq_self_iff]
  by_cases hskipped : tool = "." ∨ tool = ".."
  · rw [push, if_pos hskipped]
    refine iff_of_false (not_carriesTool_of_length tool (by simp; omega)) fun h => ?_
    rcases hskipped with hskipped | hskipped
    · exact h.1 hskipped
    · exact h.2.1 hskipped
  · rw [push_behind_tools _ hskipped]
    obtain ⟨hdot, hdotdot⟩ := not_or.mp hskipped
    rw [and_iff_right hdot, and_iff_right hdotdot]
    split
    · next hup =>
      refine iff_of_false (not_carriesTool_of_length tool (by simp; omega)) fun h => hdotdot ?_
      rw [← String.toList_inj, ← h.1, withoutIgnored_of_isDotDot hup]
      rfl
    · split
      · next hhere =>
        refine iff_of_false (not_carriesTool_of_isDot hhere) fun h => hdot ?_
        rw [← String.toList_inj, ← h.1, withoutIgnored_of_isDot hhere]
        rfl
      · exact carriesTool_segment_iff parts tool

end Url

namespace Post

/-- Below a valid endpoint every tool has a URL, and it differs from the endpoint in the path
alone. The path carries the name of the tool, which is the name that the policy decided and the
limiter counted, unless the name is a point or two, has a tab or a line break, or the path of the
endpoint is two slashes. -/
theorem toolUrl_carriesTool_iff {endpoint : String} (h : Config.endpointFaults endpoint = [])
    (tool : String) :
    ∃ u v parts, Url.parse? (Text.trim endpoint) = some u ∧ u.path = .segments false parts ∧
      toolUrl (Text.trim endpoint) tool = .ok v ∧ v = { u with path := v.path } ∧
      (Url.CarriesTool parts v.path tool ↔
        tool ≠ "." ∧ tool ≠ ".." ∧ (∀ c ∈ tool.toList, Url.isIgnored c = false) ∧
          parts ≠ ["", ""]) ∧
      ∀ (g : Gateway) (s : Gateway.Settings) (now : Nat) (call : Call) (flight : InFlight),
        (g.start s now call).1 = .ok flight → flight.request.tool = tool →
          ∃ body, CallBody.parse? call.body = some body ∧
            (g.policy.source.during g.outages).decide ⟨tool, body.agent, body.workspace⟩ =
              .ok .auto ∧
            (g.limiter.spend (Limiter.callKey call.label tool call.caller) s.limit s.window
              now).1.permitted = true := by
  obtain ⟨u, parts, hparse, hkind, hpath⟩ := Url.parse?_of_endpointFaults h
  let below := Url.push .special (Url.front parts ++ [Url.toolsSegment]) tool
  have hurl : toolUrl (Text.trim endpoint) tool =
      .ok { u with path := .segments false below } := by
    simp only [toolUrl, hparse, Url.withTool?, hpath, hkind, Url.push_tools, below]
  refine ⟨u, _, parts, hparse, hpath, hurl, rfl, Url.carriesTool_iff parts tool, ?_⟩
  rintro g s now call flight hstart rfl
  obtain ⟨server, -, -, hprepare, -, -⟩ := Gateway.start_fst_eq_ok_iff.mp hstart
  obtain ⟨body, credential, hbody, htrust, hspend, -, hrequest, -⟩ :=
    Gateway.prepare_fst_eq_ok_iff.mp hprepare
  have htool : flight.request.tool = call.tool := congrArg Outgoing.tool hrequest
  rw [htool]
  exact ⟨body, hbody, htrust, hspend⟩

/-- A name with a slash is carried as one segment, and a name with a tab is not. -/
theorem toolUrl_carriesTool_slash_and_tab :
    let endpoint := "https://127.0.0.1:9100/v1/"
    Config.endpointFaults endpoint = [] ∧
      (∃ v, toolUrl (Text.trim endpoint) "a/b" = .ok v ∧
        Url.CarriesTool ["v1", ""] v.path "a/b") ∧
      ∃ v, toolUrl (Text.trim endpoint) "a\tb" = .ok v ∧
        ¬ Url.CarriesTool ["v1", ""] v.path "a\tb" := by
  intro endpoint
  have hvalid : Config.endpointFaults endpoint = [] := by decide +kernel
  have hpaths : (Url.parse? (Text.trim endpoint)).map Url.path =
      some (.segments false ["v1", ""]) := by decide +kernel
  obtain ⟨u, v, parts, hparse, hpath, hurl, -, hslash, -⟩ := toolUrl_carriesTool_iff hvalid "a/b"
  obtain ⟨u', v', parts', hparse', hpath', hurl', -, htab, -⟩ :=
    toolUrl_carriesTool_iff hvalid "a\tb"
  rw [hparse, Option.map_some, hpath, Option.some.injEq, Url.Path.segments.injEq] at hpaths
  obtain rfl := Option.some.inj (hparse.symm.trans hparse')
  obtain rfl := (Url.Path.segments.inj (hpath.symm.trans hpath')).2
  obtain ⟨-, rfl⟩ := hpaths
  have hplain : ∀ c ∈ "a/b".toList, Url.isIgnored c = false := by simp [Url.isIgnored]
  refine ⟨hvalid, ⟨v, hurl, hslash.mpr ⟨by decide, by decide, hplain, by decide⟩⟩, v', hurl', ?_⟩
  intro hcarries
  obtain ⟨-, -, hkept, -⟩ := htab.mp hcarries
  exact absurd (hkept '\t' (by simp)) (by decide)

end Post

end ToolGateway
