import ToolGateway.Proofs.Gateway.Mediation
import ToolGateway.Proofs.Json.Members
import ToolGateway.Proofs.Json.Values

/-!
# Members of a call body

Of the members of a call body three count: the arguments, the workspace and the agent. Each may be
written once, in any place and with a name that is escaped in any way, and members of other names
and of objects within do not matter. So nobody can make the policy see another agent or workspace
than a reader of the body sees, and two bodies with the same three values are the same call.
-/

namespace ToolGateway

open Json (Document Piece maxDepth text?)
open Json.Document (NamesDecode valuesOf)

namespace CallBody

variable {members : List (List Piece × Document)} {table table' : Table Json}
  {body body' : Bytes} {b b' : CallBody}

/-! ## Fields -/

/-- What a field gives that may hold a text: nothing where it is missing or null. -/
inductive GivesText : List Document → Option String → Prop
  | missing : GivesText [] none
  | null : GivesText [.null] none
  | text {pieces : List Piece} {s : String} (h : text? pieces = some s) :
    GivesText [.string pieces] (some s)

/-- What a field gives that may hold any value: null where it is missing. -/
inductive GivesValue : List Document → Json → Prop
  | missing : GivesValue [] .null
  | value {d : Document} {v : Json} (h : d.toJson? (maxDepth - 1) = some v) : GivesValue [d] v

/-- A field that holds a text is written once. -/
theorem GivesText.length_le {values : List Document} {given : Option String}
    (h : GivesText values given) : values.length ≤ 1 := by
  cases h <;> simp

/-- So is a field that holds any value. -/
theorem GivesValue.length_le {values : List Document} {v : Json} (h : GivesValue values v) :
    values.length ≤ 1 := by
  cases h <;> simp

/-- A field that may hold a text is a field that holds a text or null. -/
theorem givesText_iff_givesValue {values : List Document} {given : Option String} :
    GivesText values given ↔ GivesValue values (Json.ofText? given) := by
  constructor
  · intro h
    cases h with
    | missing => exact .missing
    | null => exact .value rfl
    | text h => exact .value (by rw [Document.toJson?, h, Option.map_some, Json.ofText?])
  · generalize hv : Json.ofText? given = v
    rintro (_ | h)
    · cases given with
      | none => exact .missing
      | some s => cases hv
    · have hkind := Json.Document.readsAs_of_toJson? h
      cases given with
      | none =>
        cases hv
        cases hkind
        exact .null
      | some s =>
        cases hv
        cases hkind with
        | string h => exact .text h

/-- A field that may hold a text is read as what it gives. -/
theorem withDefault_text_eq_some_iff {r : Record Document} {key : String}
    {given : Option String} :
    r.withDefault key none (Document.orNull (·.string?)) = some given ↔
      GivesText (r.find? key).toList given := by
  refine Json.Document.withDefault_eq_some_iff (fun given => ?_) fun d given => ?_
  · constructor
    · rintro ⟨⟩
      rfl
    · rintro rfl
      exact .missing
  · rw [Json.Document.orNull_eq_some_iff rfl]
    constructor
    · rintro (⟨rfl, rfl⟩ | ⟨s, hs, rfl⟩)
      · exact .null
      · unfold Document.string? at hs
        split at hs
        · exact .text hs
        · cases hs
    · rintro (_ | _ | h)
      · exact Or.inl ⟨rfl, rfl⟩
      · exact Or.inr ⟨_, h, rfl⟩

/-- So is a field that may hold any value. -/
theorem withDefault_value_eq_some_iff {r : Record Document} {key : String} {v : Json} :
    r.withDefault key .null (·.toJson? (maxDepth - 1)) = some v ↔
      GivesValue (r.find? key).toList v := by
  refine Json.Document.withDefault_eq_some_iff (fun v => ?_) fun d v => ?_
  · constructor
    · rintro ⟨⟩
      rfl
    · rintro rfl
      exact .missing
  · constructor
    · exact .value
    · rintro ⟨⟩
      assumption

/-- The body of an object has what the members give that its field names stand for. -/
theorem ofDocument?_object_iff :
    ofDocument? (.object members) = some b ↔ NamesDecode members ∧
      GivesValue (valuesOf "arguments" members) b.arguments ∧
      GivesText (valuesOf "workspace_id" members) b.workspace ∧
      GivesText (valuesOf "agent_id" members) b.agent := by
  -- First what the fields of the record give, then which members they are.
  have hread : ofDocument? (.object members) = some b ↔
      ∃ r, (Document.object members).record? maxDepth fieldNames = some r ∧
        GivesValue (r.find? "arguments").toList b.arguments ∧
        GivesText (r.find? "workspace_id").toList b.workspace ∧
        GivesText (r.find? "agent_id").toList b.agent := by
    obtain ⟨arguments, workspace, agent⟩ := b
    simp only [ofDocument?, Option.bind_eq_bind, Option.bind_eq_some_iff, Option.pure_def,
      Option.some.injEq, withDefault_value_eq_some_iff, withDefault_text_eq_some_iff, mk.injEq]
    constructor
    · rintro ⟨r, hr, _, hvalue, _, hworkspace, _, hagent, rfl, rfl, rfl⟩
      exact ⟨r, hr, hvalue, hworkspace, hagent⟩
    · rintro ⟨r, hr, hvalue, hworkspace, hagent⟩
      exact ⟨r, hr, _, hvalue, _, hworkspace, _, hagent, rfl, rfl, rfl⟩
  rw [hread]
  constructor
  · rintro ⟨r, hr, hgives⟩
    obtain ⟨hdecode, hfields⟩ := Json.Document.record?_object_eq_some hr
    rw [hfields _ (by decide), hfields _ (by decide), hfields _ (by decide)] at hgives
    exact ⟨hdecode, hgives⟩
  · rintro ⟨hdecode, hvalue, hworkspace, hagent⟩
    have hone : ∀ key ∈ fieldNames, (valuesOf key members).length ≤ 1 := by
      intro key hkey
      simp only [fieldNames, List.mem_cons, List.not_mem_nil, or_false] at hkey
      rcases hkey with rfl | rfl | rfl
      · exact hvalue.length_le
      · exact hworkspace.length_le
      · exact hagent.length_le
    have hdepth : maxDepth ≠ 0 := by decide
    obtain ⟨r, hr⟩ := Json.Document.exists_record?_object hdepth hdecode hone
    obtain ⟨-, hfields⟩ := Json.Document.record?_object_eq_some hr
    refine ⟨r, hr, ?_⟩
    rw [hfields _ (by decide), hfields _ (by decide), hfields _ (by decide)]
    exact ⟨hvalue, hworkspace, hagent⟩

/-! ## Members of a table -/

/-- What a table has under a name, and null if it has nothing. -/
def memberOf (table : Table Json) (key : String) : Json := (table.get? key).getD .null

/-- The table of members, each of which has a value. -/
structure IsTableOf (table : Table Json) (members : List (List Piece × Document)) : Prop where
  names : NamesDecode members
  values : ∀ member ∈ members, (member.2.toJson? (maxDepth - 1)).isSome = true
  last : ∀ key, table.get? key = (valuesOf key members).getLast?.bind (·.toJson? (maxDepth - 1))

/-- A text that is read as a table is an object, whose members it has. -/
theorem exists_isTableOf (h : Json.parse? body = some (.object table)) :
    ∃ members, (Document.object members).SpelledBy body ∧ IsTableOf table members := by
  obtain ⟨d, hd, htable⟩ := Option.bind_eq_some_iff.mp h
  generalize hdepth : maxDepth = depth at htable
  cases Json.Document.readsAs_of_toJson? htable with | object hmembers =>
  next inner members =>
  obtain rfl : maxDepth - 1 = inner := congrArg (· - 1) hdepth
  obtain ⟨hnames, hvalues, hlast⟩ := Json.Document.of_membersOnto hmembers
  refine ⟨members, Json.Document.parse?_eq_some_iff.mp hd, hnames, hvalues, fun key => ?_⟩
  rw [hlast, Table.get?, Option.or_none]

/-- Every value of a name has a value. -/
theorem IsTableOf.isSome_toJson? (h : IsTableOf table members) (key : String) :
    ∀ d ∈ valuesOf key members, (d.toJson? (maxDepth - 1)).isSome = true := by
  intro d hd
  obtain ⟨member, hmember, rfl⟩ := List.mem_map.mp hd
  exact h.values member (List.mem_filter.mp hmember).1

/-- A field of any value gives what the table has under its name. -/
theorem IsTableOf.givesValue_iff (h : IsTableOf table members) {key : String} {v : Json} :
    GivesValue (valuesOf key members) v ↔
      (valuesOf key members).length ≤ 1 ∧ v = memberOf table key := by
  have hread := h.isSome_toJson? key
  rw [memberOf, h.last]
  match valuesOf key members, hread with
  | [], _ =>
    constructor
    · rintro ⟨⟩
      exact ⟨Nat.zero_le _, rfl⟩
    · rintro ⟨-, rfl⟩
      exact .missing
  | [d], hread =>
    obtain ⟨w, hw⟩ := Option.isSome_iff_exists.mp (hread d List.mem_cons_self)
    constructor
    · rintro ⟨⟩
      next hv => simp [hv]
    · rintro ⟨-, rfl⟩
      exact .value (by simp [hw])
  | _ :: _ :: _, _ =>
    constructor
    · rintro ⟨⟩
    · rintro ⟨hlength, -⟩
      simp at hlength

/-- A field of a text gives what the table has under its name, if that is null or a text. -/
theorem IsTableOf.givesText_iff (h : IsTableOf table members) {key : String}
    {given : Option String} :
    GivesText (valuesOf key members) given ↔
      (valuesOf key members).length ≤ 1 ∧ Json.ofText? given = memberOf table key := by
  rw [givesText_iff_givesValue, h.givesValue_iff]

/-- The body of a text that is read as a table has the members of the table. It can be read if each
field is written once at most, and the workspace and the agent are null or texts. -/
theorem parse?_eq_some_iff (hspelled : (Document.object members).SpelledBy body)
    (htable : IsTableOf table members) :
    parse? body = some b ↔ (∀ key ∈ fieldNames, (valuesOf key members).length ≤ 1) ∧
      b.arguments = memberOf table "arguments" ∧
      Json.ofText? b.workspace = memberOf table "workspace_id" ∧
      Json.ofText? b.agent = memberOf table "agent_id" := by
  rw [parse?, Json.Document.parse?_eq_some_iff.mpr hspelled, Option.bind_some,
    ofDocument?_object_iff, htable.givesValue_iff, htable.givesText_iff, htable.givesText_iff]
  simp only [fieldNames, List.forall_mem_cons]
  constructor
  · rintro ⟨-, ⟨harguments, hvalue⟩, ⟨hworkspace, htext⟩, hagent, htext'⟩
    exact ⟨⟨harguments, hworkspace, hagent, List.forall_mem_nil _⟩, hvalue, htext, htext'⟩
  · rintro ⟨⟨harguments, hworkspace, hagent, -⟩, hvalue, htext, htext'⟩
    exact ⟨htable.names, ⟨harguments, hvalue⟩, ⟨hworkspace, htext⟩, hagent, htext'⟩

/-- So there is a body if the fields have values of these kinds. -/
theorem isSome_parse?_iff (hspelled : (Document.object members).SpelledBy body)
    (htable : IsTableOf table members) :
    (parse? body).isSome = true ↔ (∀ key ∈ fieldNames, (valuesOf key members).length ≤ 1) ∧
      ∀ key ∈ ["workspace_id", "agent_id"],
        memberOf table key = .null ∨ ∃ s, memberOf table key = .string s := by
  constructor
  · intro hsome
    obtain ⟨b, hb⟩ := Option.isSome_iff_exists.mp hsome
    obtain ⟨hone, -, hworkspace, hagent⟩ := (parse?_eq_some_iff hspelled htable).mp hb
    have hkind (text : Option String) :
        Json.ofText? text = .null ∨ ∃ s, Json.ofText? text = .string s := by
      cases text with
      | none => exact Or.inl rfl
      | some s => exact Or.inr ⟨s, rfl⟩
    refine ⟨hone, ?_⟩
    simpa [hworkspace, hagent] using And.intro (hkind b.workspace) (hkind b.agent)
  · rintro ⟨hone, htexts⟩
    have htext : ∀ key ∈ ["workspace_id", "agent_id"],
        ∃ text, Json.ofText? text = memberOf table key := by
      intro key hkey
      rcases htexts key hkey with hnull | ⟨s, hs⟩
      · exact ⟨none, hnull.symm⟩
      · exact ⟨some s, hs.symm⟩
    obtain ⟨workspace, hworkspace⟩ := htext "workspace_id" (by decide)
    obtain ⟨agent, hagent⟩ := htext "agent_id" (by decide)
    exact Option.isSome_iff_exists.mpr ⟨⟨_, workspace, agent⟩,
      (parse?_eq_some_iff hspelled htable).mpr ⟨hone, rfl, hworkspace, hagent⟩⟩

/-- A body that is read has the members of the table. -/
theorem members_of_parse? (h : Json.parse? body = some (.object table))
    (hb : parse? body = some b) : b.arguments = memberOf table "arguments" ∧
      Json.ofText? b.workspace = memberOf table "workspace_id" ∧
      Json.ofText? b.agent = memberOf table "agent_id" := by
  obtain ⟨members, hspelled, htable⟩ := exists_isTableOf h
  exact ((parse?_eq_some_iff hspelled htable).mp hb).2

/-- A text that may be null tells what text it is. -/
theorem ofText?_injective : Function.Injective Json.ofText? := by
  intro text text' h
  cases text <;> cases text' <;> simp_all [Json.ofText?]

end CallBody

/-! ## Calls with the same members -/

/-- A request with another body. -/
def Request.withBody (request : Request) (body : Bytes) : Request := { request with body }

/-- A call with another body. -/
def Call.withBody (call : Call) (body : Bytes) : Call := { call with body }

/-- A call that waits, with another body. -/
def InFlight.withBody (flight : InFlight) (body : Bytes) : InFlight :=
  { flight with call := flight.call.withBody body }

/-- Another body leaves the names of a call. -/
theorem Request.toCall_withBody (request : Request) (body : Bytes) :
    (request.withBody body).toCall = request.toCall.map (·.withBody body) := by
  unfold toCall withBody
  dsimp only
  split
  · rfl
  · split <;> rfl

namespace Gateway

variable {call : Call} {body : Bytes}

/-- The checks behind the breaker look at what a body is read as. -/
theorem prepare_withBody (h : CallBody.parse? body = CallBody.parse? call.body) (g : Gateway)
    (s : Settings) (now : Nat) (server : ToolServer) :
    g.prepare s now (call.withBody body) server = g.prepare s now call server := by
  have hread : readBody (call.withBody body) = readBody call := by
    unfold readBody Call.withBody
    dsimp only
    rw [h]
  unfold prepare
  rw [hread]
  rfl

/-- So a call begins in the same way. -/
theorem start_withBody (h : CallBody.parse? body = CallBody.parse? call.body) (g : Gateway)
    (s : Settings) (now : Nat) :
    g.start s now (call.withBody body) =
      ((g.start s now call).1.map (·.withBody body), (g.start s now call).2) := by
  have hlabel : (call.withBody body).label = call.label := rfl
  unfold start
  simp only [hlabel, prepare_withBody h]
  cases g.resolve call.label with
  | error r => rfl
  | ok found =>
    dsimp only
    rcases g.breakers.attempt call.label found.2 now with ⟨admission, breakers⟩
    cases admission with
    | none => rfl
    | some admission =>
      rcases g.prepare s now call found.1 with ⟨outcome, limiter⟩
      cases outcome <;> rfl

end Gateway

namespace Session

variable {s : Gateway.Settings} {session : Session} {request : Request} {body : Bytes}

/-- The body of a call does not matter at its end. -/
theorem finishCall_withBody (session : Session) (forwarded : List Outgoing) (flight : InFlight)
    (body : Bytes) (reply : Reply) (reading : Reading) :
    session.finishCall s forwarded (flight.withBody body) reply reading =
      session.finishCall s forwarded flight reply reading := by
  have hfinish : session.gateway.finish session.now (flight.withBody body) reply =
      session.gateway.finish session.now flight reply := by
    cases reply <;> rfl
  unfold finishCall
  rw [hfinish]
  rfl

/-- A call that is read in the same way begins in the same way, and then goes on. -/
theorem startCall_withBody (h : CallBody.parse? body = CallBody.parse? request.body)
    (session : Session) (reading : Reading) (goOn : Session → InFlight → Effects × Session) :
    session.startCall s (request.withBody body) reading goOn =
      session.startCall s request reading fun session flight =>
        goOn session (flight.withBody body) := by
  unfold startCall
  rw [Request.toCall_withBody]
  cases hcall : request.toCall with
  | error failure => rfl
  | ok call =>
    rw [← (Request.toCall_eq_ok_iff.mp hcall).2.2.2.2.2] at h
    have hstart := Gateway.start_withBody h session.gateway s session.now
    dsimp only [Except.map]
    rw [hstart]
    rcases session.gateway.start s session.now call with ⟨outcome, gateway⟩
    cases outcome <;> rfl

/-- A call that is read in the same way has the same effects, and leaves the same session. -/
theorem step_call_withBody (h : CallBody.parse? body = CallBody.parse? request.body)
    (session : Session) (reply : Outgoing → Reply) (reading : Reading) :
    session.step s (.call (request.withBody body) reply reading) =
      session.step s (.call request reply reading) := by
  rw [step, step, startCall_withBody h]
  simp only [finishCall_withBody]
  rfl

/-- One that waits for its reply does so in the same way. -/
theorem step_start_withBody (h : CallBody.parse? body = CallBody.parse? request.body)
    (session : Session) (id : String) (reading : Reading) :
    (session.step s (.start id (request.withBody body) reading)).1 =
      (session.step s (.start id request reading)).1 := by
  rw [step, step, startCall_withBody h]
  unfold startCall
  cases request.toCall with
  | error failure => rfl
  | ok call =>
    dsimp only
    rcases session.gateway.start s session.now call with ⟨outcome, gateway⟩
    cases outcome <;> rfl

/-- What leaves for a call has the arguments of its body. -/
theorem arguments_of_mem_forwarded {b : CallBody} (h : CallBody.parse? request.body = some b)
    {event : Event} (hevent : event.request? = some request) {out : Outgoing}
    (hout : out ∈ (session.step s event).1.forwarded) : out.arguments = b.arguments := by
  obtain ⟨request', hrequest, _, body, hclears⟩ := ((forwarded_step session event).2 out).mp hout
  obtain rfl := Option.some.inj (hevent.symm.trans hrequest)
  obtain rfl := Option.some.inj (h.symm.trans hclears.parsed)
  exact hclears.arguments_eq

end Session

namespace CallBody

/-- What a call body names is not in doubt. Of the texts that are JSON objects, those are read whose
three fields are written once at most, with null or a text for the workspace and the agent; and what
is read is what the object has under these names, wherever and however they are written, whatever
else the object has, and whatever the arguments have. So the policy says the same to two bodies that
have the same agent and workspace, and if they have the same arguments too, then they are the same
call to every session. -/
theorem isSome_parse?_iff_and_step_eq :
    (∀ (body : Bytes) (table : Table Json), Json.parse? body = some (.object table) →
      ∃ members, (Document.object members).SpelledBy body ∧
        (∀ key, table.get? key =
          (valuesOf key members).getLast?.bind (·.toJson? (maxDepth - 1))) ∧
        ((parse? body).isSome = true ↔
          (∀ key ∈ fieldNames, (valuesOf key members).length ≤ 1) ∧
          ∀ key ∈ ["workspace_id", "agent_id"],
            memberOf table key = .null ∨ ∃ s, memberOf table key = .string s) ∧
        ∀ b, parse? body = some b →
          b.arguments = memberOf table "arguments" ∧
          Json.ofText? b.workspace = memberOf table "workspace_id" ∧
          Json.ofText? b.agent = memberOf table "agent_id") ∧
    ∀ (body body' : Bytes) (table table' : Table Json) (b b' : CallBody),
      Json.parse? body = some (.object table) → Json.parse? body' = some (.object table') →
      parse? body = some b → parse? body' = some b' →
      memberOf table "workspace_id" = memberOf table' "workspace_id" →
      memberOf table "agent_id" = memberOf table' "agent_id" →
        (∀ (g : Gateway) tool, g.checkTrust tool b = g.checkTrust tool b') ∧
        (memberOf table "arguments" = memberOf table' "arguments" →
          ∀ (s : Gateway.Settings) (session : Session) (request : Request) reply reading id,
            (∀ out ∈ (session.step s (.call (request.withBody body) reply reading)).1.forwarded,
              out.arguments = memberOf table "arguments") ∧
            session.step s (.call (request.withBody body) reply reading) =
              session.step s (.call (request.withBody body') reply reading) ∧
            (session.step s (.start id (request.withBody body) reading)).1 =
              (session.step s (.start id (request.withBody body') reading)).1) := by
  constructor
  · intro body table h
    obtain ⟨members, hspelled, htable⟩ := exists_isTableOf h
    exact ⟨members, hspelled, htable.last, isSome_parse?_iff hspelled htable,
      fun b => members_of_parse? h⟩
  · intro body body' table table' b b' h h' hb hb' hworkspace hagent
    obtain ⟨hargumentsOf, hworkspaceOf, hagentOf⟩ := members_of_parse? h hb
    obtain ⟨hargumentsOf', hworkspaceOf', hagentOf'⟩ := members_of_parse? h' hb'
    rw [hworkspace, ← hworkspaceOf'] at hworkspaceOf
    rw [hagent, ← hagentOf'] at hagentOf
    have hsameWorkspace := ofText?_injective hworkspaceOf
    have hsameAgent := ofText?_injective hagentOf
    constructor
    · intro g tool
      rw [Gateway.checkTrust, Gateway.checkTrust, hsameWorkspace, hsameAgent]
    · intro harguments s session request reply reading id
      have hsame : b = b' := by
        rw [harguments, ← hargumentsOf'] at hargumentsOf
        cases b
        cases b'
        simp_all
      have hparse : parse? body = parse? (request.withBody body').body := by
        rw [hb, hsame]
        exact hb'.symm
      refine ⟨fun out hout => ?_, ?_, ?_⟩
      · have hbody : parse? (request.withBody body).body = some b := hb
        rw [← hargumentsOf]
        exact Session.arguments_of_mem_forwarded hbody rfl hout
      · exact Session.step_call_withBody hparse session reply reading
      · exact Session.step_start_withBody hparse session id reading

/-- An agent that is named behind the arguments, with an escape in the name of the member, is the
agent; one that is named in the arguments is not. -/
theorem isSome_parse?_iff_and_step_eq_of_escaped_name :
    let arguments : Json := .object [("agent_id", .string "x")]
    let table : Table Json := [("agent_id", .string "a"), ("arguments", arguments)]
    let body := Text.Utf8.encode (Json.object table).render
    let body' := Text.Utf8.encode
      "\x7b\"arguments\":\x7b\"agent_id\":\"x\"\x7d,\"\\u0061gent_id\":\"a\"\x7d"
    let session := Session.new (Gateway.new [] .empty)
    let request : Request := ⟨"ann", "s", "echo", []⟩
    let s : Gateway.Settings := ⟨60, 60 * Time.second, none⟩
    Json.parse? body' = some (.object table) ∧
      (∀ b, parse? body' = some b → b.agent = some "a") ∧
      session.step s (.call (request.withBody body) (fun _ => .error .timeout) ⟨0, 0⟩) =
        session.step s (.call (request.withBody body') (fun _ => .error .timeout) ⟨0, 0⟩) := by
  intro arguments table body body' session request s
  let inner : Document := .object [(Json.piecesOf "agent_id", .string (Json.piecesOf "x"))]
  let d : Document := .object [(Json.piecesOf "arguments", inner),
    (.unit 0x61 :: Json.piecesOf "gent_id", .string (Json.piecesOf "a"))]
  have hname : Piece.ListDenotes (.unit 0x61 :: Json.piecesOf "gent_id") "agent_id".toList :=
    .unit 'a' (Json.listDenotes_piecesOf "gent_id")
  have hinner : inner.Denotes arguments :=
    .object (.cons (Json.listDenotes_piecesOf _) (.string (Json.listDenotes_piecesOf _)) .nil)
      (List.pairwise_singleton _ _) (List.Perm.refl _)
  have hdenotes : d.Denotes (.object table) :=
    .object (.cons (Json.listDenotes_piecesOf _) hinner
      (.cons hname (.string (Json.listDenotes_piecesOf _)) .nil)) (by simp [Json.DistinctNames])
      (List.Perm.swap _ _ _)
  have hspelled : d.SpelledBy body' := .of_tokens? (by decide +kernel)
  have hfits : Json.Fits maxDepth (.object table) := by
    refine ⟨⟨Table.sorted_of_keys (by decide +kernel), ?_⟩, by decide +kernel⟩
    simp [Json.MembersExact, Json.IsExact, Table.Sorted, table, arguments]
  have htable : Json.parse? body = some (.object table) := Json.parse?_render hfits
  have htable' : Json.parse? body' = some (.object table) :=
    Json.parse?_of_denotes hspelled hdenotes hfits
  obtain ⟨b, hb⟩ : ∃ b, parse? body = some b :=
    Option.isSome_iff_exists.mp (by decide +kernel)
  obtain ⟨b', hb'⟩ : ∃ b, parse? body' = some b :=
    Option.isSome_iff_exists.mp (by decide +kernel)
  obtain ⟨hread, hsame⟩ := isSome_parse?_iff_and_step_eq
  obtain ⟨-, -, -, -, hmembers⟩ := hread body' table htable'
  obtain ⟨-, hstep⟩ := hsame body body' table table b b' htable htable' hb hb' rfl rfl
  refine ⟨htable', fun b hb => ?_, (hstep rfl s session request _ _ "").2.1⟩
  exact ofText?_injective (hmembers b hb).2.2

end CallBody

end ToolGateway
