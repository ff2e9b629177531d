import Mathlib.Data.List.Forall2
import ToolGateway.Gateway.Session

/-!
# What may differ unseen

Two gateways are alike if they differ in secrets and in the texts of inner failures alone: in the
key, in what is sealed under it, and in why a source cannot be read or a tool server did not answer.
A credential opens under both keys or fails to open in the same way; what it holds may differ. The
relations here say so for every kind of data that a session keeps, receives or gives away, and
tables of alike data go on being alike as they are changed.
-/

namespace ToolGateway

/-- Both results are failures, related by `E`, or both are not, related by `A`. -/
inductive ExceptAlike {ε ε' α α' : Type} (E : ε → ε' → Prop) (A : α → α' → Prop) :
    Except ε α → Except ε' α' → Prop where
  | error {e : ε} {e' : ε'} (h : E e e') : ExceptAlike E A (.error e) (.error e')
  | ok {a : α} {a' : α'} (h : A a a') : ExceptAlike E A (.ok a) (.ok a')

namespace ExceptAlike

variable {ε ε' α α' β β' : Type} {E : ε → ε' → Prop} {A : α → α' → Prop} {B : β → β' → Prop}
  {x : Except ε α} {x' : Except ε' α'}

/-- Related results may be passed on, each in its way. -/
theorem map {f : α → β} {f' : α' → β'} (h : ExceptAlike E A x x')
    (hf : ∀ a a', A a a' → B (f a) (f' a')) : ExceptAlike E B (x.map f) (x'.map f') := by
  cases h with
  | error he => exact .error he
  | ok ha => exact .ok (hf _ _ ha)

/-- Failures may be renamed. -/
theorem mapError {δ δ' : Type} {D : δ → δ' → Prop} {f : ε → δ} {f' : ε' → δ'}
    (h : ExceptAlike E A x x') (hf : ∀ e e', E e e' → D (f e) (f' e')) :
    ExceptAlike D A (x.mapError f) (x'.mapError f') := by
  cases h with
  | error he => exact .error (hf _ _ he)
  | ok ha => exact .ok ha

/-- Computations may go on in related ways. -/
theorem bind {f : α → Except ε β} {f' : α' → Except ε' β'} (h : ExceptAlike E A x x')
    (hf : ∀ a a', A a a' → ExceptAlike E B (f a) (f' a')) :
    ExceptAlike E B (x >>= f) (x' >>= f') := by
  cases h with
  | error he => exact .error he
  | ok ha => exact hf _ _ ha

end ExceptAlike

/-- Both are there, whatever they are, or neither is. -/
abbrev BothOrNeither {α : Type} : Option α → Option α → Prop := Option.Rel fun _ _ => True

/-! ## Tables -/

namespace Table

variable {α : Type} {R : α → α → Prop} {table table' : Table α} {v v' : α}

/-- Two tables have the same keys, with related values. -/
def Alike (R : α → α → Prop) (table table' : Table α) : Prop :=
  List.Forall₂ (fun b b' => b.1 = b'.1 ∧ R b.2 b'.2) table table'

/-- A key is bound in both, to related values, or in neither. -/
theorem Alike.get? (h : table.Alike R table') (key : String) :
    Option.Rel R (table.get? key) (table'.get? key) := by
  induction h with
  | nil => exact Option.Rel.none
  | @cons b b' rest rest' hb _ ih =>
    obtain ⟨k, v⟩ := b
    obtain ⟨k', v'⟩ := b'
    obtain ⟨rfl, hv⟩ := hb
    simp only [Table.get?]
    split
    · exact Option.Rel.some hv
    · exact ih

/-- Related values may be bound to a key. -/
theorem Alike.insert (h : table.Alike R table') (key : String) (hv : R v v') :
    (table.insert key v).Alike R (table'.insert key v') := by
  induction h with
  | nil => exact .cons ⟨rfl, hv⟩ .nil
  | @cons b b' rest rest' hb hrest ih =>
    obtain ⟨k, w⟩ := b
    obtain ⟨k', w'⟩ := b'
    obtain ⟨rfl, hw⟩ := hb
    simp only [Table.insert]
    split
    · exact .cons ⟨rfl, hv⟩ hrest
    · split
      · exact .cons ⟨rfl, hv⟩ (.cons ⟨rfl, hw⟩ hrest)
      · exact .cons ⟨rfl, hw⟩ ih

/-- A key may be taken out. -/
theorem Alike.erase (h : table.Alike R table') (key : String) :
    (table.erase key).Alike R (table'.erase key) := by
  induction h with
  | nil => exact .nil
  | @cons b b' rest rest' hb _ ih =>
    unfold Table.erase at ih ⊢
    rw [List.filter_cons, List.filter_cons, hb.1]
    split
    · exact .cons hb ih
    · exact ih

end Table

/-! ## What a gateway keeps -/

/-- Two stored credentials both open, or fail to open in the same way. -/
def OpenAlike (key key' : Option CredentialKey) (stored stored' : String) : Prop :=
  ∀ k ∈ key, ∀ k' ∈ key',
    ExceptAlike Eq (fun _ _ => True) (k.openStored stored) (k'.openStored stored')

/-- Two records differ in what is sealed. -/
structure ToolServer.Alike (key key' : Option CredentialKey) (server server' : ToolServer) :
    Prop where
  label : server.label = server'.label
  endpoint : server.endpoint = server'.endpoint
  scheme : server.scheme = server'.scheme
  credential : Option.Rel (OpenAlike key key') server.credential server'.credential
  enabled : server.enabled = server'.enabled
  breaker : server.breaker = server'.breaker

/-- The same parts of a policy cannot be read. -/
structure Trust.Outages.Alike (outages outages' : Trust.Outages) : Prop where
  overrides : BothOrNeither outages.overrides outages'.overrides
  rules : BothOrNeither outages.rules outages'.rules
  defaults : BothOrNeither outages.defaults outages'.defaults

/-- Two gateways have the same settings but for the key. -/
structure Gateway.Settings.Alike (s s' : Gateway.Settings) : Prop where
  limit : s.limit = s'.limit
  window : s.window = s'.window
  key : BothOrNeither s.key s'.key

/-- Two gateways differ in secrets and in the texts of failures. -/
structure Gateway.Alike (key key' : Option CredentialKey) (g g' : Gateway) : Prop where
  registry : g.registry.Alike (ToolServer.Alike key key') g'.registry
  registryOutage : BothOrNeither g.registryOutage g'.registryOutage
  policy : g.policy = g'.policy
  outages : g.outages.Alike g'.outages
  breakers : g.breakers = g'.breakers
  limiter : g.limiter = g'.limiter

/-! ## Calls -/

/-- Two requests that leave differ in the secret. -/
structure Outgoing.Alike (outgoing outgoing' : Outgoing) : Prop where
  label : outgoing.label = outgoing'.label
  endpoint : outgoing.endpoint = outgoing'.endpoint
  tool : outgoing.tool = outgoing'.tool
  arguments : outgoing.arguments = outgoing'.arguments
  credential :
    outgoing.credential.map Credential.scheme = outgoing'.credential.map Credential.scheme

/-- Two calls that wait differ in the secret. -/
structure InFlight.Alike (flight flight' : InFlight) : Prop where
  call : flight.call = flight'.call
  admission : flight.admission = flight'.admission
  since : flight.since = flight'.since
  breaker : flight.breaker = flight'.breaker
  remaining : flight.remaining = flight'.remaining
  request : flight.request.Alike flight'.request

/-- Two failed deliveries differ in their texts. -/
inductive DeliveryFailure.Alike : DeliveryFailure → DeliveryFailure → Prop where
  | invalidRequest (reason reason' : String) :
    DeliveryFailure.Alike (.invalidRequest reason) (.invalidRequest reason')
  | transport (reason reason' : String) :
    DeliveryFailure.Alike (.transport reason) (.transport reason')
  | timeout : DeliveryFailure.Alike .timeout .timeout
  | tooLarge (limit limit' : Nat) : DeliveryFailure.Alike (.tooLarge limit) (.tooLarge limit')

/-- Two replies are the same but for the text of a failure. -/
abbrev Reply.Alike : Reply → Reply → Prop := ExceptAlike DeliveryFailure.Alike Eq

/-- Two causes of a rejection do not differ for the caller, the audit log and the breaker. -/
structure Rejection.Alike (r r' : Rejection) : Prop where
  failure : r.failure = r'.failure
  outcome : r.outcome = r'.outcome
  recorded : r.recorded = r'.recorded

/-- A cause does not differ from itself. -/
theorem Rejection.Alike.rfl {r : Rejection} : r.Alike r := ⟨Eq.refl _, Eq.refl _, Eq.refl _⟩

/-- Failed deliveries that differ in their texts are such causes. -/
theorem DeliveryFailure.Alike.rejection {cause cause' : DeliveryFailure}
    (h : cause.Alike cause') : (Rejection.delivery cause).Alike (.delivery cause') := by
  cases h <;> exact ⟨rfl, rfl, rfl⟩

/-! ## Sessions -/

/-- Two sessions have the same clock and keep alike data. -/
structure Session.Alike (key key' : Option CredentialKey) (session session' : Session) : Prop where
  gateway : session.gateway.Alike key key' session'.gateway
  now : session.now = session'.now
  pending : session.pending.Alike InFlight.Alike session'.pending

/-- The same event happens to two sessions. What is replied, measured and sealed and why sources
fail is their own. -/
inductive Event.Alike (key key' : Option CredentialKey) : Event → Event → Prop where
  | call (request : Request) (reply reply' : Outgoing → Reply) (reading reading' : Reading) :
    Event.Alike key key' (.call request reply reading) (.call request reply' reading')
  | start (id : String) (request : Request) (reading reading' : Reading) :
    Event.Alike key key' (.start id request reading) (.start id request reading')
  | finish (id : String) (reply reply' : Outgoing → Reply) (reading reading' : Reading) :
    Event.Alike key key' (.finish id reply reading) (.finish id reply' reading')
  | drop (id : String) : Event.Alike key key' (.drop id) (.drop id)
  | advance (nanoseconds : Nat) : Event.Alike key key' (.advance nanoseconds) (.advance nanoseconds)
  | register {server server' : ToolServer} (h : server.Alike key key' server') :
    Event.Alike key key' (.register server) (.register server')
  | addOverride (row : Trust.Override) : Event.Alike key key' (.addOverride row) (.addOverride row)
  | addRule (workspace : String) (row : Trust.Rule) :
    Event.Alike key key' (.addRule workspace row) (.addRule workspace row)
  | addDefault (row : Trust.Default) : Event.Alike key key' (.addDefault row) (.addDefault row)
  | outage {registry registry' : Option String} {policy policy' : Trust.Outages}
    (hregistry : BothOrNeither registry registry') (hpolicy : policy.Alike policy') :
    Event.Alike key key' (.outage registry policy) (.outage registry' policy')

/-- A record without what was measured. -/
def Audit.Entry.untimed (entry : Audit.Entry) : Audit.Entry :=
  { entry with details := { entry.details with latency := 0 }, timestamp := 0 }

/-- What a caller is told, without what was measured. -/
def Told.untimed : Told → Told
  | .result (.ok output) => .result (.ok { output with latency := 0 })
  | told => told

/-- Two events give rise to the same but for the secrets that leave and what is measured. -/
structure Effects.Alike (effects effects' : Effects) : Prop where
  forwarded : List.Forall₂ Outgoing.Alike effects.forwarded effects'.forwarded
  audited : effects.audited.map Audit.Entry.untimed = effects'.audited.map Audit.Entry.untimed
  told : effects.told.untimed = effects'.told.untimed

end ToolGateway
