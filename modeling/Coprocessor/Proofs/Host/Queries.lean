import Coprocessor.Proofs.Handoff.Waiting
import Coprocessor.Proofs.Host.Linked
import Coprocessor.Proofs.Host.Replies
import Coprocessor.Proofs.Host.Requests
import Coprocessor.Proofs.Wire.Formats

/-!
# Calls return what the device wrote

Every call but an upload is one request and the reading of one reply (`Host.Query`). What a
reply carries is said for each of them (`Host.Query.Carries`), without its bytes : a reply to a
greeting carries the version and the capabilities, and one to a run carries a value even where
it is refused.

The device always writes such a reply (`Host.Query.exists_carries_answer`), and the host reads
from its bytes what it carries (`Host.Query.Carries.reads`). So over a link that loses nothing
the result of a call is what the device wrote if the status that it wrote is good, and else a
refusal with this status (`Host.Linked.asks`). A reply is never found too short or surprising,
and no checksum fails. The only other result is that there is no reply in time, and then the
time is less than what the two frames and the device may take (`Host.Query.wait`).
-/

namespace Coprocessor

open Handoff Link

/-! ## What is said to requests to run -/

namespace Device

variable {σ τ : Type}

/-- A request to run the code is refused, or what the job comes to is said. -/
theorem exec_cases (payload : Bytes) (d : Device σ τ) :
    (∃ s, d.exec payload = (.error s, d)) ∨ ∃ values limit job,
      readField (withLimit codeArguments) payload = .ok (values, limit) ∧
      let ran := d.station.run job (d.limitOr limit).toNat
      d.exec payload = (ran.1.map .codeValue, { d with station := ran.2, execState := .done }) := by
  unfold exec
  split
  · exact .inl ⟨_, rfl⟩
  split
  · exact .inl ⟨_, rfl⟩
  case h_2 hr =>
  split
  · exact .inl ⟨_, rfl⟩
  split
  · exact .inl ⟨_, rfl⟩
  · exact .inr ⟨_, _, _, hr, rfl⟩

/-- A request to run the script is refused, or what the job comes to is said. -/
theorem scriptExec_cases (payload : Bytes) (d : Device σ τ) :
    (∃ s, d.scriptExec payload = (.error s, d)) ∨ ∃ arguments limit job,
      readField (withLimit Arguments.read) payload = .ok (arguments, limit) ∧
      let ran := d.station.run job ((d.limitOr limit).toNat + scriptSlack)
      d.scriptExec payload = (ran.1.map .value, { d with station := ran.2 }) := by
  unfold scriptExec
  split
  · exact .inl ⟨_, rfl⟩
  split
  · exact .inl ⟨_, rfl⟩
  case h_2 hr =>
  split
  · exact .inl ⟨_, rfl⟩
  split
  · exact .inl ⟨_, rfl⟩
  · exact .inr ⟨_, _, _, hr, rfl⟩

/-- A call of a function is refused, or the value is said. -/
theorem call_cases (payload : Bytes) (d : Device σ τ) :
    (∃ s, d.call payload = (.error s, d)) ∨ ∃ value mailbox pins,
      d.call payload =
        (.ok (.value value), { d with station := { d.station with mailbox, pins } }) := by
  unfold call
  split
  · exact .inl ⟨_, rfl⟩
  split
  · exact .inl ⟨_, rfl⟩
  split
  · exact .inl ⟨_, rfl⟩
  · exact .inr ⟨_, _, _, rfl⟩

end Device

namespace Host

open Device (Reply fieldsOf payloadOf_eq statusOf)

/-- A call that is one request and its reply, with a result of type `α`. -/
inductive Query : Type → Type where
  /-- Asks for the protocol version and the capabilities. -/
  | hello : Query Greeting
  /-- Asks for the state of the device. -/
  | info : Query Information
  /-- Asks for the execution state. -/
  | status : Query ExecState
  /-- Runs the code. -/
  | exec (arguments : List Int32) (limit : UInt32) : Query Int32
  /-- Runs the script. -/
  | scriptExec (arguments : List Int32) (limit : UInt32) (form : Arguments.Form) : Query Int32
  /-- Calls a function. -/
  | func (name : Bytes) (arguments : List Int32) (form : Arguments.Form) : Query Int32
  /-- Reads a text from the mailbox. -/
  | readMail (limit : UInt32) : Query Bytes
  /-- Asks a job to stop. -/
  | cancel : Query Unit
  /-- Drops everything. -/
  | reset : Query Unit
  /-- Turns the programming mode on. -/
  | enterProgramming : Query Unit
  /-- Turns the programming mode off. -/
  | leaveProgramming : Query Unit

namespace Query

variable {α : Type}

/-- The call. -/
def call : Query α → Call α
  | hello => Call.hello
  | info => Call.info
  | status => Call.status
  | exec arguments limit => Call.exec arguments limit
  | scriptExec arguments limit form => Call.scriptExec arguments limit form
  | func name arguments form => Call.func name arguments form
  | readMail limit => Call.readMail limit
  | cancel => Call.cancel
  | reset => Call.reset
  | enterProgramming => Call.enterProgramming
  | leaveProgramming => Call.leaveProgramming

/-- The command of the request. -/
def command : Query α → Command
  | hello => .hello
  | info => .info
  | status => .status
  | exec _ _ => .exec
  | scriptExec _ _ _ => .scriptExec
  | func _ _ _ => .func
  | readMail _ => .mailboxRead
  | cancel => .cancel
  | reset => .reset
  | enterProgramming => .ispEnter
  | leaveProgramming => .ispExit

/-- The payload of the request. -/
def payload : Query α → Bytes
  | exec arguments limit => Call.execPayload arguments limit
  | scriptExec arguments limit form => Call.scriptPayload arguments limit form
  | func name arguments form => Call.funcPayload name arguments form
  | readMail limit => Codec.u32.encode limit
  | hello | info | status | cancel | reset | enterProgramming | leaveProgramming => []

/-- The milliseconds that the device gets beyond what it gets for any request. -/
def extra : Query α → Nat
  | exec _ limit | scriptExec _ limit _ => limit.toNat
  | hello | info | status | func _ _ _ | readMail _ | cancel | reset | enterProgramming
  | leaveProgramming => 0

/-- What is read after the status of the reply. -/
def fields : Query α → Fields α
  | hello => do
    let version ← Fields.half
    let _ ← Fields.half
    return ⟨version, ← Fields.word⟩
  | info => return ⟨← Fields.word, ← Fields.word, ← Fields.word⟩
  | status => Fields.value 1 (Codec.tagged .u32 ExecState.code ExecState.ofCode?).decode
  | exec _ _ | scriptExec _ _ _ | func _ _ _ => Fields.signed
  | readMail _ => do Fields.bytes (← Fields.word).toNat
  | cancel | reset | enterProgramming | leaveProgramming => return ()

/-- A query is one request and the reading of its reply. -/
theorem call_eq (q : Query α) : q.call = (do
    Call.ofExcept (q.fields.of (← Call.call q.command q.payload q.extra))) := by
  cases q <;> rfl

/-! ## What the device writes -/

/-- What a reply to a query carries after its status. -/
inductive Carries : {α : Type} → Query α → Except Status Reply → α → Prop
  | greeting (capabilities : UInt32) :
    Carries hello (.ok (.greeting capabilities)) ⟨Header.protocol, capabilities⟩
  | information (flags codeLength mailboxSize : UInt32) :
    Carries info (.ok (.info flags codeLength mailboxSize)) ⟨flags, codeLength, mailboxSize⟩
  | execState (state : ExecState) : Carries status (.ok (.execState state)) state
  | execValue {arguments : List Int32} {limit : UInt32} (value : Int32) :
    Carries (exec arguments limit) (.ok (.codeValue value)) value
  | scriptValue {arguments : List Int32} {limit : UInt32} {form : Arguments.Form} (value : Int32) :
    Carries (scriptExec arguments limit form) (.ok (.value value)) value
  | funcValue {name : Bytes} {arguments : List Int32} {form : Arguments.Form} (value : Int32) :
    Carries (func name arguments form) (.ok (.value value)) value
  | noExecValue {arguments : List Int32} {limit : UInt32} (s : Status) :
    Carries (exec arguments limit) (.error s) 0
  | noScriptValue {arguments : List Int32} {limit : UInt32} {form : Arguments.Form} (s : Status) :
    Carries (scriptExec arguments limit form) (.error s) 0
  | noFuncValue {name : Bytes} {arguments : List Int32} {form : Arguments.Form} (s : Status) :
    Carries (func name arguments form) (.error s) 0
  | mail {limit : UInt32} {text : Bytes} (h : text.length ≤ limit.toNat) :
    Carries (readMail limit) (.ok (.mail text)) text
  | cancelled : Carries cancel (.ok .done) ()
  | cleared : Carries reset (.ok .cleared) ()
  | entered : Carries enterProgramming (.ok .done) ()
  | left : Carries leaveProgramming (.ok .done) ()

variable {σ τ : Type}

/-- Unless a device refuses, its reply carries something. -/
theorem exists_carries_answer (q : Query α) (d : Device σ τ)
    (hs : statusOf (d.answer q.command q.payload).1 = .ok) :
    ∃ a, q.Carries (d.answer q.command q.payload).1 a := by
  cases q with
  | hello => exact ⟨_, .greeting _⟩
  | info => exact ⟨_, .information _ _ _⟩
  | status => exact ⟨_, .execState _⟩
  | exec arguments limit =>
    change ∃ a, Carries _ (d.exec (Call.execPayload arguments limit)).1 a
    rcases Device.exec_cases (Call.execPayload arguments limit) d with ⟨s, h⟩ | ⟨_, word, job, -, h⟩
    · rw [h]
      exact ⟨_, .noExecValue s⟩
    · rw [h]
      rcases (d.station.run job (d.limitOr word).toNat).1 with s | v
      · exact ⟨_, .noExecValue s⟩
      · exact ⟨_, .execValue v⟩
  | scriptExec arguments limit form =>
    change ∃ a, Carries _ (d.scriptExec (Call.scriptPayload arguments limit form)).1 a
    rcases Device.scriptExec_cases (Call.scriptPayload arguments limit form) d with
      ⟨s, h⟩ | ⟨_, word, job, -, h⟩
    · rw [h]
      exact ⟨_, .noScriptValue s⟩
    · rw [h]
      rcases (d.station.run job ((d.limitOr word).toNat + Device.scriptSlack)).1 with s | v
      · exact ⟨_, .noScriptValue s⟩
      · exact ⟨_, .scriptValue v⟩
  | func name arguments form =>
    change ∃ a, Carries _ (d.call (Call.funcPayload name arguments form)).1 a
    rcases Device.call_cases (Call.funcPayload name arguments form) d with ⟨s, h⟩ | ⟨v, _, _, h⟩
    · rw [h]
      exact ⟨_, .noFuncValue s⟩
    · rw [h]
      exact ⟨_, .funcValue v⟩
  | readMail limit =>
    have hmail : (d.answer .mailboxRead (Codec.u32.encode limit)).1 =
        .ok (.mail (d.station.mailbox.read limit.toNat)) := by
      simp only [Device.answer, Device.readMail, Device.readField_u32]
      rfl
    rw [command, payload, hmail]
    exact ⟨_, .mail (List.length_take_le _ _)⟩
  | cancel => exact ⟨_, .cancelled⟩
  | reset =>
    simp only [command, Device.answer, Device.reset] at hs ⊢
    split at hs
    case isTrue => cases hs
    case isFalse hb =>
      rw [if_neg hb]
      exact ⟨_, .cleared⟩
  | enterProgramming =>
    simp only [command, Device.answer, Device.enterProgramming] at hs ⊢
    split at hs
    case isTrue => cases hs
    case isFalse hb =>
      rw [if_neg hb]
      exact ⟨_, .entered⟩
  | leaveProgramming => exact ⟨_, .left⟩

/-! ## How long it takes -/

/-- The milliseconds that a device may take for a query : a run is waited for and then given
up within the grace period, and nothing else takes any time. -/
def wait (d : Device σ τ) : Query α → Nat
  | exec _ limit => (d.limitOr limit).toNat + d.station.grace
  | scriptExec _ limit _ => (d.limitOr limit).toNat + Device.scriptSlack + d.station.grace
  | hello | info | status | func _ _ _ | readMail _ | cancel | reset | enterProgramming
  | leaveProgramming => 0

theorem wait_of_idles {d d' : Device σ τ} (q : Query α) (h : d.Idles d') :
    q.wait d' = q.wait d := by
  obtain ⟨s, hs, rfl⟩ := h
  cases q with
  | exec | scriptExec =>
    simp only [wait, hs.grace_eq]
    rfl
  | _ => rfl

theorem clock_exec_le {payload : Bytes} {values : List Int32} {limit : UInt32}
    (hr : Device.readField (Device.withLimit Device.codeArguments) payload = .ok (values, limit))
    (d : Device σ τ) : (d.exec payload).2.station.clock ≤
      d.station.clock + millis ((d.limitOr limit).toNat + d.station.grace) := by
  rcases d.exec_cases payload with ⟨s, h⟩ | ⟨_, _, job, hr', h⟩
  · rw [h]
    exact Nat.le_add_right _ _
  · rw [hr] at hr'
    cases hr'
    rw [h]
    exact Station.clock_run_le _ _ _

theorem clock_scriptExec_le {payload : Bytes} {arguments : Arguments} {limit : UInt32}
    (hr : Device.readField (Device.withLimit Arguments.read) payload = .ok (arguments, limit))
    (d : Device σ τ) : (d.scriptExec payload).2.station.clock ≤ d.station.clock +
      millis ((d.limitOr limit).toNat + Device.scriptSlack + d.station.grace) := by
  rcases d.scriptExec_cases payload with ⟨s, h⟩ | ⟨_, _, job, hr', h⟩
  · rw [h]
    exact Nat.le_add_right _ _
  · rw [hr] at hr'
    cases hr'
    rw [h]
    exact Station.clock_run_le _ _ _

theorem clock_call (payload : Bytes) (d : Device σ τ) :
    (d.call payload).2.station.clock = d.station.clock := by
  rcases d.call_cases payload with ⟨s, h⟩ | ⟨v, _, _, h⟩ <;> rw [h]

/-- A device takes no longer for a query. -/
theorem clock_answer_le (q : Query α) (hf : q.payload.length < 4294967296) (d : Device σ τ) :
    (d.answer q.command q.payload).2.station.clock ≤
      d.station.clock + millis (q.wait d) := by
  cases q with
  | hello | info | status | readMail | cancel | leaveProgramming => exact Nat.le_add_right _ _
  | exec arguments limit =>
    rcases Nat.lt_or_ge Arguments.maxCount arguments.length with hv | hv
    · have declined : d.answer .exec (Call.execPayload arguments limit) = _ :=
        Device.declines_exec hv limit d hf
      rw [command, payload, declined]
      exact Nat.le_add_right _ _
    · exact clock_exec_le (d.takesExec hv limit).1 d
  | scriptExec arguments limit form =>
    rcases Nat.lt_or_ge Arguments.maxCount arguments.length with hv | hv
    · have declined : d.answer .scriptExec (Call.scriptPayload arguments limit form) = _ :=
        Device.declines_scriptExec hv limit form d hf
      rw [command, payload, declined]
      exact Nat.le_add_right _ _
    · exact clock_scriptExec_le (d.takesScript hv limit form).1 d
  | func name arguments form =>
    exact Nat.le_add_right_of_le (Nat.le_of_eq (clock_call _ d))
  | reset =>
    simp only [command, Device.answer, Device.reset]
    split <;> exact Nat.le_add_right _ _
  | enterProgramming =>
    simp only [command, Device.answer, Device.enterProgramming]
    split <;> exact Nat.le_add_right _ _

/-! ## What the host reads -/

variable {q : Query α} {x : Except Status Reply} {a : α}

/-- What a reply carries is read from it, whatever follows. -/
theorem Carries.reads (h : q.Carries x a) (t : Bytes) :
    q.fields.Reads (fieldsOf q.command x ++ t) a t := by
  cases h with
  | greeting capabilities =>
    simp only [fieldsOf, Reply.fields, List.append_assoc]
    exact (Fields.reads_half _ _).bind <| (Fields.reads_half _ _).bind <|
      (Fields.reads_word _ _).bind <| Fields.reads_pure _ _
  | information flags codeLength mailboxSize =>
    simp only [fieldsOf, Reply.fields, List.append_assoc]
    exact (Fields.reads_word _ _).bind <| (Fields.reads_word _ _).bind <|
      (Fields.reads_word _ _).bind <| Fields.reads_pure _ _
  | execState state =>
    exact Fields.reads_value
      (Codec.u32_lossless.tagged ExecState.ofCode?_code ExecState.code_of_ofCode?) 1 state t
  | execValue v | scriptValue v | funcValue v => exact Fields.reads_signed v t
  | noExecValue s | noScriptValue s | noFuncValue s => exact Fields.reads_signed 0 t
  | @mail limit text htext =>
    have hlen : (UInt32.ofNat text.length).toNat = text.length :=
      UInt32.toNat_ofNat_of_lt' (Nat.lt_of_le_of_lt htext limit.toNat_lt)
    simp only [fieldsOf, Reply.fields, List.append_assoc]
    refine (Fields.reads_word _ _).bind ?_
    rw [hlen]
    exact Fields.reads_bytes text t
  | cancelled | cleared | entered | left => exact Fields.reads_pure _ t

/-- A reply carries no more than one thing. -/
theorem Carries.unique {b : α} (ha : q.Carries x a) (hb : q.Carries x b) : a = b := by
  obtain ⟨_, hreads⟩ := ha.reads [] 0
  obtain ⟨_, hreads'⟩ := hb.reads [] 0
  rw [hreads] at hreads'
  cases hreads'
  rfl

/-- The result of a query that a device replies to : what the reply carries if its status is
good, and else a refusal with its status. -/
def Yields (q : Query α) (x : Except Status Reply) (r : Except CallError α) : Prop :=
  if statusOf x = .ok then ∃ a, q.Carries x a ∧ r = .ok a
  else r = .error (.refused (statusOf x))

variable {δ : Type} {k k' : Client δ}

/-- Where an exchange returns a reply of a device, the query yields what the reply carries or a
refusal, and at most the log of the client changes. -/
theorem run_of_reply (hc : statusOf x = .ok → ∃ a, q.Carries x a)
    (h : k.exchange q.command q.payload q.extra = (.ok (Reply.payloadOf q.command x), k')) :
    ∃ r entries, k.run q.call.run = (r, { k' with line := k'.line.report entries }) ∧
      q.Yields x r := by
  rw [payloadOf_eq] at h
  rw [call_eq]
  by_cases hs : statusOf x = .ok
  · obtain ⟨a, ha⟩ := hc hs
    have hreads := ha.reads []
    rw [List.append_nil] at hreads
    rw [hs] at h
    refine ⟨.ok a, [], ?_, ?_⟩
    · rw [Client.run_bind_of_ok (Client.run_call_of_ok h), hreads.of_eq]
      rfl
    · rw [Yields, if_pos hs]
      exact ⟨a, ha, rfl⟩
  · obtain ⟨entries, hcall⟩ := Client.run_call_of_refused hs h
    refine ⟨_, entries, Client.run_bind_of_error hcall _, ?_⟩
    rw [Yields, if_neg hs]

end Query

/-! ## Queries over a link -/

/-- Whether a failure says that a reply was not understood. -/
def CallError.IsMisread : CallError → Prop
  | .short _ _ | .surprise _ | .checksum _ _ => True
  | .link _ | .noReply _ | .refused _ => False

variable {σ τ α : Type} {s : Settings} {c : Framing} {k : Client (Loopback σ τ)} {d : Device σ τ}

theorem Query.Yields.not_isMisread {q : Query α} {x : Except Status Reply}
    {r : Except CallError α} (h : q.Yields x r) {e : CallError} (he : r = .error e) :
    ¬e.IsMisread := by
  unfold Query.Yields at h
  split at h
  · obtain ⟨a, -, rfl⟩ := h
    cases he
  · rw [h] at he
    cases he
    exact not_false

/-- Over a link that loses nothing a query yields what the device says to it when the request is
written, whatever the device does and holds : the fields of the reply if the status is good, and
the status if not. Client and device are then linked again. The reply is never found too short,
surprising or damaged. If there is no reply in time, the time is less than what may be needed
for the request, the device and the reply. -/
theorem Linked.asks (hk : Linked s c k d) (ha : s.framing.trailing = c.trailing) (q : Query α)
    (hf : Fits c q.payload)
    (hr : ∀ d', d.WaitsUntil (k.writtenAt q.payload) d' →
      Fits s.framing (d'.handle q.command q.payload).1) :
    ∃ d₁ r k', d.WaitsUntil (k.writtenAt q.payload) d₁ ∧ k.run q.call.run = (r, k') ∧
      (∀ e, r = .error e → ¬e.IsMisread) ∧
      (q.Yields (d₁.answer q.command q.payload).1 r ∧
          (∃ d₂, (d₁.answer q.command q.payload).2.Idles d₂ ∧ Linked s c k' d₂) ∨
        s.timeout + q.extra < s.framing.delay q.payload + q.wait d +
            c.delay (d₁.handle q.command q.payload).1 ∧
          r = .error (.noReply (s.timeout + q.extra))) := by
  obtain ⟨d₁, waits, ⟨d₂, k', hexchange, idles', hk'⟩ | ⟨overdue, k', hexchange⟩⟩ :=
    hk.exchange_or_overdue ha hf hr q.extra
  · obtain ⟨r, entries, hrun, hyields⟩ := q.run_of_reply (q.exists_carries_answer d₁) hexchange
    exact ⟨d₁, r, _, waits, hrun, fun _ => hyields.not_isMisread, .inl ⟨hyields, d₂, idles',
      hk'.settings, hk'.joined.of_eq rfl rfl rfl, hk'.inlet, hk'.clock⟩⟩
  · have hrun : k.run q.call.run = (.error (.noReply (s.timeout + q.extra)), k') := by
      rw [q.call_eq]
      exact Client.run_bind_of_error (Client.run_call_of_error hexchange) _
    have hclock : (d₁.handle q.command q.payload).2.station.clock ≤
        d₁.station.clock + millis (q.wait d₁) := q.clock_answer_le hf.2 d₁
    have hreached := waits.clock_le (Nat.le_add_right_of_le hk.clock)
    rw [q.wait_of_idles waits.idles] at hclock
    refine ⟨d₁, _, k', waits, hrun, fun e he => ?_, .inr ⟨?_, rfl⟩⟩
    · cases he
      exact not_false
    · simp only [Overdue, Client.givesUpAt, Client.writtenAt, hk.settings, millis]
        at overdue hclock hreached
      omega

/-- A device that was just turned on adds two and three, and refuses to run the code that it
does not hold. -/
theorem asks_for_sum :
    let d := Device.start {} Pins.Bank.board (·.waited) (.emulator Emulation.usualBudget) {}
    let k := joinedAtStart d
    Linked {} {} k d ∧
      (∃ k', k.run (Call.func (Bytes.ofText "add") [2, 3] .binary).run = (.ok 5, k')) ∧
      ∃ k', k.run (Call.exec [1] 0).run = (.error (.refused .state), k') := by
  intro d k
  have linked : Linked {} {} k d :=
    ⟨rfl, ⟨rfl, rfl, rfl, rfl, rfl, rfl, rfl, rfl⟩, rfl, Nat.le_refl _⟩
  have yields : ∀ (q : Query Int32) (x : Except Status Reply), Fits {} q.payload →
      Fits {} (Reply.payloadOf q.command x) → 0 + q.wait d + 0 ≤ 2000 + q.extra →
      (∀ d', d.Idles d' → ∃ e, d'.answer q.command q.payload = (x, e)) →
      ∃ r k', k.run q.call.run = (r, k') ∧ q.Yields x r := by
    intro q x hf hr hw ha
    obtain ⟨d₁, r, k', waits, hrun, -, h⟩ := linked.asks rfl q hf fun d' waits => by
      obtain ⟨e, he⟩ := ha d' waits.idles
      rw [Device.handle, he]
      exact hr
    obtain ⟨e, he⟩ := ha d₁ waits.idles
    refine ⟨r, k', hrun, ?_⟩
    rcases h with ⟨h, -⟩ | ⟨h, -⟩
    · rwa [he] at h
    · rw [Framing.delay_eq_zero rfl rfl, Framing.delay_eq_zero rfl rfl] at h
      exact absurd h (Nat.not_lt.mpr hw)
  have fits : ∀ s : Bytes, s.length ≤ 65536 → Fits {} s := fun s hs =>
    ⟨hs, Nat.lt_of_le_of_lt hs (by decide)⟩
  refine ⟨linked, ?_, ?_⟩
  · obtain ⟨r, k', hrun, h⟩ := yields (.func (Bytes.ofText "add") [2, 3] .binary)
      (.ok (.value 5)) (fits _ (by decide)) (fits _ (by decide)) (by decide) fun d' hd => by
        have htakes : d'.TakesFunc _ (Bytes.ofText "add") [2, 3] :=
          Device.takesFunc (by decide) (by decide) (by decide) .binary d'
        obtain ⟨s, -, rfl⟩ := hd
        exact ⟨{ d with station := s }, htakes.2 rfl⟩
    obtain ⟨a, ha, rfl⟩ := h
    obtain rfl := ha.unique (.funcValue 5)
    exact ⟨k', hrun⟩
  · obtain ⟨r, k', hrun, h⟩ := yields (.exec [1] 0)
      (.error .state) (fits _ (by decide)) (fits _ (by decide)) (by decide) fun d' hd => by
        obtain ⟨s, -, rfl⟩ := hd
        exact ⟨_, rfl⟩
    cases h
    exact ⟨k', hrun⟩

end Host

end Coprocessor
