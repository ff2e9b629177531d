import ToolGateway.Delivery.Send
import ToolGateway.Http.Service
import ToolGateway.Proofs.Delivery.Buildable
import ToolGateway.Proofs.Gateway.CallMembers
import ToolGateway.Proofs.Gateway.Report
import ToolGateway.Proofs.Json.Trimming

/-!
# Payloads

Arguments on their way to a tool server and answers on their way back are read and printed again.
A value without doubles arrives as it was, however it was written; an answer that is no JSON
arrives as its text.
-/

namespace ToolGateway

open Json (Document Piece maxDepth)
open Json.Document (NamesDecode valuesOf)

/-! ## Arguments -/

namespace CallBody

variable {members : List (List Piece × Document)} {body : Bytes} {b : CallBody} {d : Document}
  {v : Json}

/-- A body whose arguments are written once is read with their value if its other fields can be
read. -/
theorem parse?_iff_of_arguments (hspelled : (Document.object members).SpelledBy body)
    (harguments : valuesOf "arguments" members = [d]) (hread : d.toJson? (maxDepth - 1) = some v) :
    parse? body = some b ↔ NamesDecode members ∧ b.arguments = v ∧
      GivesText (valuesOf "workspace_id" members) b.workspace ∧
      GivesText (valuesOf "agent_id" members) b.agent := by
  have hvalue : GivesValue [d] b.arguments ↔ b.arguments = v := by
    constructor
    · rintro ⟨⟩
      next h => exact Option.some.inj (h.symm.trans hread)
    · rintro rfl
      exact .value hread
  rw [parse?, Json.Document.parse?_eq_some_iff.mpr hspelled, Option.bind_some,
    ofDocument?_object_iff, harguments, hvalue]

end CallBody

/-- The body of a post are the printed arguments. -/
theorem Post.body_of_ofOutgoing {o : Outgoing} {post : Post} (h : Post.ofOutgoing o = .ok post) :
    post.body = o.arguments.render := by
  obtain ⟨_, _, -, -, rfl⟩ := exists_of_ofOutgoing h
  rfl

/-! ## Answers -/

namespace Arrival

/-- A visible byte is no blank. -/
theorem isBlankByte_of_isVisible {b : UInt8} (h : Json.IsVisible b) : isBlankByte b = false := by
  simp only [isBlankByte, Bool.or_eq_false_iff, beq_eq_false_iff_ne]
  refine ⟨⟨⟨⟨?_, ?_⟩, ?_⟩, ?_⟩, ?_⟩ <;> (rintro rfl; exact absurd h (by decide))

/-- A text of a document is not blank. -/
theorem all_isBlankByte_of_spelledBy {d : Document} {bytes : Bytes} (h : d.SpelledBy bytes) :
    bytes.all isBlankByte = false := by
  obtain ⟨b, hb, hvisible⟩ := h.exists_isVisible
  exact List.all_eq_false.mpr ⟨b, hb, by simp [isBlankByte_of_isVisible hvisible]⟩

/-- A text of a value is read as the value. -/
theorem readBody_of_denotes {d : Document} {v : Json} {bytes : Bytes} (h : d.SpelledBy bytes)
    (hdenotes : d.Denotes v) (hfits : Json.Fits maxDepth v) : readBody bytes = v := by
  rw [readBody, if_neg (by simp [all_isBlankByte_of_spelledBy h]),
    Json.parse?_of_denotes h hdenotes hfits]
  rfl

/-- A blank body is null. -/
theorem readBody_of_blank {bytes : Bytes} (h : bytes.all isBlankByte = true) :
    readBody bytes = .null :=
  if_pos h

/-- A body that is no JSON is its text. -/
theorem readBody_of_parse?_eq_none {bytes : Bytes} (hblank : bytes.all isBlankByte = false)
    (h : Json.parse? bytes = none) : readBody bytes = .string (Text.Utf8.decodeLossy bytes) := by
  rw [readBody, if_neg (by simp [hblank]), h]
  rfl

end Arrival

namespace Exchange

/-- A call leaves as `post`, and of `arrival`, which comes back, all bytes are within the limit. -/
structure Delivers (exchange : Exchange) (limit : Nat) (o : Outgoing) (post : Post)
    (arrival : Arrival) (bytes : Bytes) : Prop where
  built : Post.ofOutgoing o = .ok post
  sendable : post.isSendable = true
  arrives : exchange post = .ok arrival
  complete : arrival.body limit = .ok bytes

variable {exchange : Exchange} {limit : Nat} {o : Outgoing}

/-- A call that is delivered is answered with what arrives. -/
theorem send_of_delivers {post : Post} {arrival : Arrival} {bytes : Bytes}
    (h : exchange.Delivers limit o post arrival bytes) :
    exchange.send limit o = .ok ⟨arrival.status, Arrival.readBody bytes⟩ := by
  simp [send, h.built, h.sendable, h.arrives, h.complete, bind, Except.bind, pure, Except.pure]

end Exchange

/-! ## Responses -/

/-- The response to a call is read with the body of the answer. -/
theorem Http.parse?_outputResponse {o : Output} (hbody : Json.Fits (maxDepth - 1) o.body)
    (hstatus : o.status < UInt64.size) (hlatency : o.latency < UInt64.size) :
    Json.parse? (Text.Utf8.encode (Http.outputResponse o).body) = some (.object
      [("body", o.body), ("latency_ms", .ofNat o.latency), ("status_code", .ofNat o.status)]) := by
  have hword {n : Nat} (hn : n < UInt64.size) : Json.Fits (maxDepth - 1) (.ofNat n) :=
    ⟨Json.fitsWord_natCast hn, Nat.zero_le _⟩
  have hmembers : Json.Fits (maxDepth - 1 + 1) (.object
      [("body", o.body), ("latency_ms", .ofNat o.latency), ("status_code", .ofNat o.status)]) := by
    have hkeys : ["body", "latency_ms", "status_code"].Pairwise (· < ·) := by decide +kernel
    refine Json.fits_object_iff.mpr ⟨Table.sorted_of_keys hkeys, ?_⟩
    simp only [List.forall_mem_cons]
    exact ⟨hbody, hword hlatency, hword hstatus, by simp⟩
  refine Json.parse?_render_object (by simp [Json.DistinctNames]) ?_ hmembers
  exact List.perm_append_singleton _ [_, _]

namespace Session

variable {s : Gateway.Settings} {session : Session} {event : Event} {request : Request}

/-- What leaves for a call is read with the arguments of the call. -/
theorem parse?_body_of_mem_forwarded {b : CallBody} (hread : CallBody.parse? request.body = some b)
    (hfits : Json.Fits maxDepth b.arguments) (hevent : event.request? = some request)
    {out : Outgoing} (hout : out ∈ (session.step s event).1.forwarded) {post : Post}
    (hpost : Post.ofOutgoing out = .ok post) :
    Json.parse? (Text.Utf8.encode post.body) = some b.arguments := by
  rw [Post.body_of_ofOutgoing hpost, arguments_of_mem_forwarded hread hevent hout]
  exact Json.parse?_render hfits

/-- A call that leaves has a body that can be read. -/
theorem exists_parse?_of_mem_forwarded (hevent : event.request? = some request) {out : Outgoing}
    (hout : out ∈ (session.step s event).1.forwarded) :
    ∃ b, CallBody.parse? request.body = some b := by
  obtain ⟨request', hrequest, _, b, hclears⟩ := ((forwarded_step session event).2 out).mp hout
  obtain rfl := Option.some.inj (hevent.symm.trans hrequest)
  exact ⟨b, hclears.parsed⟩

/-- The caller of a call that is delivered is told what arrives. -/
theorem told_of_delivers {exchange : Exchange} {limit : Nat} {flight : InFlight} {post : Post}
    {arrival : Arrival} {bytes : Bytes}
    (hcompletes : session.completes s event = some (flight, exchange.send limit flight.request))
    (hdelivers : exchange.Delivers limit flight.request post arrival bytes) :
    ∃ o, (session.step s event).1.told = .result (.ok o) ∧ o.status = arrival.status ∧
      o.body = Arrival.readBody bytes := by
  rw [Exchange.send_of_delivers hdelivers] at hcompletes
  obtain ⟨reading, -, htold⟩ := report_of_completes hcompletes
  exact ⟨_, htold, rfl, rfl⟩

end Session

/-! ## Both ways -/

namespace Exchange

/-- Payloads pass through. Take an exact value and a document that denotes it, which says how it is
written. A call whose body has that document as its arguments is read with the value if its other
fields can be read, and what is posted for it is a text of the value. An answer that is a text of
that document is read as the value; a blank one is null, and one that is no JSON is its text. A call
to which an answer is delivered ends well, and the response to it is a JSON object that has what was
read of the answer as its body. -/
theorem arguments_and_answers_read_back :
    (∀ v (d : Document), Json.Fits (maxDepth - 1) v → d.Denotes v →
      (∀ members body, (Document.object members).SpelledBy body →
        valuesOf "arguments" members = [d] →
          (∀ b, CallBody.parse? body = some b ↔ NamesDecode members ∧ b.arguments = v ∧
            CallBody.GivesText (valuesOf "workspace_id" members) b.workspace ∧
            CallBody.GivesText (valuesOf "agent_id" members) b.agent) ∧
          ∀ (s : Gateway.Settings) (session : Session) (event : Event) request,
            event.request? = some request → request.body = body →
            ∀ out ∈ (session.step s event).1.forwarded, ∀ post,
              Post.ofOutgoing out = .ok post → Json.parse? (Text.Utf8.encode post.body) = some v) ∧
      ∀ bytes, d.SpelledBy bytes → Arrival.readBody bytes = v) ∧
    (∀ bytes, bytes.all Arrival.isBlankByte = true → Arrival.readBody bytes = .null) ∧
    (∀ bytes, bytes.all Arrival.isBlankByte = false → Json.parse? bytes = none →
      Arrival.readBody bytes = .string (Text.Utf8.decodeLossy bytes)) ∧
    ∀ (exchange : Exchange) limit (s : Gateway.Settings) (session : Session) event flight post
      arrival bytes,
      session.completes s event = some (flight, exchange.send limit flight.request) →
      exchange.Delivers limit flight.request post arrival bytes →
      ∃ o, (session.step s event).1.told = .result (.ok o) ∧ o.body = Arrival.readBody bytes ∧
        (Json.Fits (maxDepth - 1) o.body → arrival.status < UInt64.size →
          o.latency < UInt64.size →
            Json.parse? (Text.Utf8.encode (Http.toldResponse (session.step s event).1.told).body) =
              some (.object [("body", o.body), ("latency_ms", .ofNat o.latency),
                ("status_code", .ofNat arrival.status)])) := by
  refine ⟨fun v d hfits hdenotes => ⟨fun members body hspelled harguments => ?_, ?_⟩,
    fun bytes => Arrival.readBody_of_blank, fun bytes => Arrival.readBody_of_parse?_eq_none, ?_⟩
  · have hiff (b : CallBody) := CallBody.parse?_iff_of_arguments (b := b) hspelled harguments
      (Json.toJson?_of_denotes hdenotes hfits)
    refine ⟨hiff, fun s session event request hevent hbody out hout post hpost => ?_⟩
    -- A call that leaves has been read, so its arguments are the value.
    obtain ⟨b, hread⟩ := Session.exists_parse?_of_mem_forwarded hevent hout
    have hvalue : b.arguments = v := ((hiff b).mp (hbody ▸ hread)).2.1
    rw [← hvalue] at hfits ⊢
    exact Session.parse?_body_of_mem_forwarded hread (hfits.mono (Nat.sub_le _ _)) hevent hout hpost
  · exact fun bytes hspelled =>
      Arrival.readBody_of_denotes hspelled hdenotes (hfits.mono (Nat.sub_le _ _))
  · intro exchange limit s session event flight post arrival bytes hcompletes hdelivers
    obtain ⟨o, htold, hstatus, hbody⟩ := Session.told_of_delivers hcompletes hdelivers
    refine ⟨o, htold, hbody, fun hfits hsmall hlatency => ?_⟩
    rw [htold, ← hstatus]
    exact Http.parse?_outputResponse hfits (hstatus ▸ hsmall) hlatency

/-- An object with its members out of order and with escapes goes to a tool server that sends its
arguments back, and comes back with its members in order. -/
theorem arguments_and_answers_read_back_of_echo :
    let v : Json := .object [("a", .integer (-1)), ("b", .string "é")]
    let text := "\x7b\"b\":\"\\u00e9\", \"\\u0061\":-1\x7d"
    let body := Text.Utf8.encode ("\x7b\"arguments\":" ++ text ++ "\x7d")
    let exchange : Exchange := fun _ => .ok ⟨200, [Text.Utf8.encode text], none⟩
    let s : Gateway.Settings := ⟨60, 60 * Time.second, none⟩
    let session := ((Session.new (Gateway.new [] .empty)).run s [.addDefault ⟨"*", .auto, 0⟩,
      .register ⟨"s", "http://127.0.0.1:9100", .none, none, true, none⟩]).2
    let event : Event := .call ⟨"me", "s", "echo", body⟩ (exchange.send 100) ⟨0, 0⟩
    (∃ out ∈ (session.step s event).1.forwarded, ∃ post, Post.ofOutgoing out = .ok post ∧
        Json.parse? (Text.Utf8.encode post.body) = some v) ∧
      (∃ o, (session.step s event).1.told = .result (.ok o) ∧ o.body = v) ∧
      Arrival.readBody [0x20, 0x0A] = .null ∧
      Arrival.readBody [0x6E, 0x6F, 0xFF] = .string "no\uFFFD" := by
  intro v text body exchange s session event
  let d : Document := .object [(Json.piecesOf "b", .string [.unit 0xE9]),
    ([.unit 0x61], .number ⟨true, [1], [], none⟩)]
  have hname : Piece.ListDenotes [.unit 0x61] "a".toList := .unit 'a' .nil
  have htail : Piece.ListDenotes [.unit 0xE9] "é".toList := .unit 'é' .nil
  have hdenotes : d.Denotes v :=
    .object (.cons (Json.listDenotes_piecesOf "b") (.string htail)
      (.cons hname (.number ⟨rfl, rfl, rfl, rfl⟩) .nil)) (by simp [Json.DistinctNames])
      (List.Perm.swap _ _ _)
  have hminus : Json.FitsWord (-1) := by constructor <;> decide
  have hfits : Json.Fits (maxDepth - 1) v :=
    ⟨⟨Table.sorted_of_keys (by decide +kernel), hminus, trivial, trivial⟩, by decide +kernel⟩
  have hspelled : (Document.object [(Json.piecesOf "arguments", d)]).SpelledBy body :=
    .of_tokens? (by decide +kernel)
  have htext : d.SpelledBy (Text.Utf8.encode text) := .of_tokens? (by decide +kernel)
  have harguments : valuesOf "arguments" [(Json.piecesOf "arguments", d)] = [d] := by
    rw [Json.Document.valuesOf_cons, if_pos (Json.text?_piecesOf _)]
    rfl
  have hnothing : Json.parse? [0x6E, 0x6F, 0xFF] = none :=
    Option.isNone_iff_eq_none.mp (by decide +kernel)
  have hlossy : Text.Utf8.decodeLossy [0x6E, 0x6F, 0xFF] = "no\uFFFD" := by decide +kernel
  have hleaves : ((session.left? s ⟨"me", "s", "echo", body⟩).bind fun flight =>
      (Post.ofOutgoing flight.request).toOption.filter (·.isSendable)).isSome = true := by
    decide +kernel
  obtain ⟨post, hfound⟩ := Option.isSome_iff_exists.mp hleaves
  obtain ⟨flight, hleft, hfound⟩ := Option.bind_eq_some_iff.mp hfound
  obtain ⟨hfound, hsendable⟩ := Option.filter_eq_some_iff.mp hfound
  have hpost : Post.ofOutgoing flight.request = .ok post := by
    cases hbuilt : Post.ofOutgoing flight.request with
    | error failure => simp [hbuilt, Except.toOption] at hfound
    | ok built => simpa [hbuilt, Except.toOption] using hfound
  have hcomplete : Arrival.body 100 ⟨200, [Text.Utf8.encode text], none⟩ =
      .ok (Text.Utf8.encode text) := by
    decide +kernel
  clear_value session body text
  obtain ⟨hpasses, hblank, hlossily, htold⟩ := arguments_and_answers_read_back
  obtain ⟨hcall, hanswer⟩ := hpasses v d hfits hdenotes
  have hforwarded : flight.request ∈ (session.step s event).1.forwarded := by
    obtain ⟨call, hcall, hstart⟩ := Session.left?_eq_some_iff.mp hleft
    rw [Session.step, Session.startCall_of_ok hcall hstart, Session.finishCall_forwarded]
    exact List.mem_singleton_self _
  have hcompletes : session.completes s event =
      some (flight, exchange.send 100 flight.request) := by
    rw [Session.completes, hleft, Option.map_some]
  obtain ⟨o, hresult, hbody, -⟩ := htold exchange 100 s session event flight post _ _ hcompletes
    ⟨hpost, hsendable, rfl, hcomplete⟩
  refine ⟨⟨flight.request, hforwarded, post, hpost, ?_⟩,
    ⟨o, hresult, hbody.trans (hanswer _ htext)⟩, hblank _ rfl, ?_⟩
  · exact (hcall _ body hspelled harguments).2 s session event _ rfl rfl _ hforwarded post hpost
  · rw [hlossily _ rfl hnothing, hlossy]

end Exchange

end ToolGateway
