import Coprocessor.Proofs.Host.Replies

/-!
# Dialogues

What a session asks for depends on what it is told, and on nothing else. A dialogue of a session
is a list of requests, each with what came of it, and the result that the session then has
(`Host.Session.Dialogue`). Whatever is at the other end, a client that carries a session out has
such a dialogue (`Host.Client.dialogue_turns`). So what holds of all dialogues of a session holds
over every link and with every device, one that lies or falls silent included.

What goes out are the frames of the requests, one after the other and with numbers one after the
other; a frame is cut short only if there is no reply to it (`Host.Client.written_turns`).
-/

namespace Coprocessor

/-- An outlet takes a beginning of what is written, and all of it unless it fails. -/
theorem Link.Outlet.prefix_of_accept {o o' : Outlet} {s taken : Bytes} {fault : Option Fault}
    (h : o.accept s = (taken, o', fault)) : taken <+: s ∧ (fault = none → taken = s) := by
  unfold accept at h
  split at h
  case h_1 =>
    cases h
    exact ⟨List.prefix_refl _, fun _ => rfl⟩
  case h_2 =>
    split at h
    case isTrue =>
      cases h
      exact ⟨List.prefix_refl _, fun _ => rfl⟩
    case isFalse =>
      cases h
      exact ⟨List.take_prefix _ _, nofun⟩

namespace Host

open Link

/-- A request, and what came of it. -/
structure Turn where
  /-- The command. -/
  command : Command
  /-- The payload of the request. -/
  payload : Bytes
  /-- The payload of the reply, or why there is none. -/
  result : Except CallError Bytes

variable {α β : Type}

namespace Session

/-- A session makes these requests, if this comes of them, and has this result. -/
inductive Dialogue : Session α → List Turn → α → Prop
  | done (a : α) : Dialogue (.done a) [] a
  | request {c : Command} {payload : Bytes} {extra : Nat}
      {next : Except CallError Bytes → Session α} {turns : List Turn} {a : α}
      (result : Except CallError Bytes) (h : Dialogue (next result) turns a) :
      Dialogue (.request c payload extra next) (⟨c, payload, result⟩ :: turns) a
  | pause {millis : Nat} {next : Session α} {turns : List Turn} {a : α}
      (h : Dialogue next turns a) : Dialogue (.pause millis next) turns a
  | report {e : Log.Entry} {next : Session α} {turns : List Turn} {a : α}
      (h : Dialogue next turns a) : Dialogue (.report e next) turns a

/-- A dialogue of one session and then another is one of each. -/
theorem Dialogue.exists_of_andThen {x : Session α} {f : α → Session β} {turns : List Turn}
    {b : β} (h : (x.andThen f).Dialogue turns b) : ∃ a before after,
      x.Dialogue before a ∧ (f a).Dialogue after b ∧ turns = before ++ after := by
  induction x generalizing turns with
  | done a => exact ⟨a, [], turns, .done a, h, rfl⟩
  | request c payload extra next ih =>
    cases h with
    | request result h =>
      obtain ⟨a, before, after, hx, hf, rfl⟩ := ih result h
      exact ⟨a, _, after, .request result hx, hf, rfl⟩
  | pause millis next ih =>
    cases h with
    | pause h =>
      obtain ⟨a, before, after, hx, hf, hturns⟩ := ih h
      exact ⟨a, before, after, .pause hx, hf, hturns⟩
  | report e next ih =>
    cases h with
    | report h =>
      obtain ⟨a, before, after, hx, hf, hturns⟩ := ih h
      exact ⟨a, before, after, .report hx, hf, hturns⟩

end Session

/-! ## Dialogues of calls -/

namespace Call

variable {x : Call α} {f : α → Call β} {turns : List Turn} {r : Except CallError β}

/-- A call stops where its first part fails, or goes on with what that part came to. -/
theorem dialogue_bind (h : (x >>= f).run.Dialogue turns r) :
    (∃ e, x.run.Dialogue turns (.error e) ∧ r = .error e) ∨
      ∃ a before after, x.run.Dialogue before (.ok a) ∧ (f a).run.Dialogue after r ∧
        turns = before ++ after := by
  have hbind : (x >>= f).run = x.run.andThen (ExceptT.bindCont f) := rfl
  rw [hbind] at h
  obtain ⟨first, before, after, hx, hf, rfl⟩ := h.exists_of_andThen
  cases first with
  | ok a => exact .inr ⟨a, before, after, hx, hf, rfl⟩
  | error e =>
    cases hf
    exact .inl ⟨e, by rwa [List.append_nil], rfl⟩

theorem dialogue_ofExcept {y r : Except CallError α} (h : (ofExcept y).run.Dialogue turns r) :
    turns = [] ∧ r = y := by
  cases h
  exact ⟨rfl, rfl⟩

theorem dialogue_request {c : Command} {payload : Bytes} {extra : Nat}
    {r : Except CallError Bytes} (h : (request c payload extra).run.Dialogue turns r) :
    turns = [⟨c, payload, r⟩] := by
  cases h with
  | request result h =>
    cases h
    rfl

theorem dialogue_pause {millis : Nat} {r : Except CallError Unit}
    (h : (pause millis).run.Dialogue turns r) : turns = [] ∧ r = .ok () := by
  cases h with
  | pause h =>
    cases h
    exact ⟨rfl, rfl⟩

theorem dialogue_report {level : Log.Level} {message : String} {r : Except CallError Unit}
    (h : (report level message).run.Dialogue turns r) : turns = [] ∧ r = .ok () := by
  cases h with
  | report h =>
    cases h
    exact ⟨rfl, rfl⟩

/-- A call goes on with a value that is there, and else it fails. -/
theorem dialogue_ofExcept_bind {y : Except CallError α}
    (h : (ofExcept y >>= f).run.Dialogue turns r) :
    (∃ e, y = .error e ∧ turns = [] ∧ r = .error e) ∨
      ∃ a, y = .ok a ∧ (f a).run.Dialogue turns r := by
  rcases dialogue_bind h with ⟨e, hy, rfl⟩ | ⟨a, before, after, hy, hf, rfl⟩
  · obtain ⟨rfl, rfl⟩ := dialogue_ofExcept hy
    exact .inl ⟨e, rfl, rfl, rfl⟩
  · obtain ⟨rfl, rfl⟩ := dialogue_ofExcept hy
    exact .inr ⟨a, rfl, hf⟩

theorem dialogue_pause_bind {millis : Nat} {f : Unit → Call β}
    (h : (pause millis >>= f).run.Dialogue turns r) : (f ()).run.Dialogue turns r := by
  rcases dialogue_bind h with ⟨e, hpause, -⟩ | ⟨⟨⟩, before, after, hpause, hf, rfl⟩
  · cases (dialogue_pause hpause).2
  · obtain ⟨rfl, -⟩ := dialogue_pause hpause
    exact hf

theorem dialogue_report_bind {level : Log.Level} {message : String} {f : Unit → Call β}
    (h : (report level message >>= f).run.Dialogue turns r) : (f ()).run.Dialogue turns r := by
  rcases dialogue_bind h with ⟨e, hreport, -⟩ | ⟨⟨⟩, before, after, hreport, hf, rfl⟩
  · cases (dialogue_report hreport).2
  · obtain ⟨rfl, -⟩ := dialogue_report hreport
    exact hf

theorem dialogue_refuse {c : Command} {status : Status} {r : Except CallError α}
    (h : (refuse c status : Call α).run.Dialogue turns r) :
    turns = [] ∧ r = .error (.refused status) :=
  dialogue_ofExcept (dialogue_report_bind h)

/-- What follows the status of a reply that is no refusal. -/
def accepted (c : Command) (result : Except CallError Bytes) : Except CallError Bytes := do
  let (status, rest) ← split c (← result)
  if status = .ok then .ok rest else .error (.refused status)

theorem eq_ok_of_accepted {c : Command} {result : Except CallError Bytes} {body : Bytes}
    (h : accepted c result = .ok body) : result = .ok (Device.Reply.statusBytes .ok ++ body) := by
  cases result with
  | error e => cases h
  | ok reply =>
    simp only [accepted, bind, Except.bind] at h
    split at h
    · cases h
    case h_2 p hsplit =>
      split at h
      case isTrue hstatus =>
        cases h
        rw [eq_append_of_split hsplit, hstatus]
      case isFalse => cases h

/-- A request is made once, whatever comes of it. -/
theorem dialogue_call {c : Command} {payload : Bytes} {extra : Nat} {r : Except CallError Bytes}
    (h : (call c payload extra).run.Dialogue turns r) :
    ∃ result, turns = [⟨c, payload, result⟩] ∧ r = accepted c result := by
  rcases dialogue_bind h with ⟨e, hrequest, rfl⟩ | ⟨reply, before, after, hrequest, hrest, rfl⟩
  · exact ⟨_, dialogue_request hrequest, rfl⟩
  refine ⟨.ok reply, ?_⟩
  rw [dialogue_request hrequest]
  rcases dialogue_ofExcept_bind hrest with ⟨e, hsplit, rfl, rfl⟩ | ⟨⟨status, rest⟩, hsplit, h⟩
  · refine ⟨rfl, ?_⟩
    simp only [accepted, bind, Except.bind, hsplit]
  dsimp only at h
  split at h
  case isTrue hstatus =>
    cases h
    refine ⟨rfl, ?_⟩
    simp only [accepted, bind, Except.bind, hsplit, if_pos hstatus]
  case isFalse hstatus =>
    obtain ⟨rfl, rfl⟩ := dialogue_refuse h
    refine ⟨rfl, ?_⟩
    simp only [accepted, bind, Except.bind, hsplit, if_neg hstatus]

theorem dialogue_call_bind {c : Command} {payload : Bytes} {extra : Nat} {f : Bytes → Call β}
    (h : (call c payload extra >>= f).run.Dialogue turns r) :
    ∃ result rest, turns = ⟨c, payload, result⟩ :: rest ∧
      ((∃ e, accepted c result = .error e ∧ rest = [] ∧ r = .error e) ∨
        ∃ body, accepted c result = .ok body ∧ (f body).run.Dialogue rest r) := by
  rcases dialogue_bind h with ⟨e, hcall, rfl⟩ | ⟨body, before, after, hcall, hf, rfl⟩
  · obtain ⟨result, rfl, haccepted⟩ := dialogue_call hcall
    exact ⟨result, [], rfl, .inl ⟨e, haccepted.symm, rfl, rfl⟩⟩
  · obtain ⟨result, rfl, haccepted⟩ := dialogue_call hcall
    exact ⟨result, after, rfl, .inr ⟨body, haccepted.symm, hf⟩⟩

end Call

/-! ## Dialogues over a link -/

namespace Line

variable {δ : Type} {l : Line δ}

@[simp] theorem output_report (entries : List Log.Entry) (l : Line δ) :
    (l.report entries).output = l.output :=
  rfl

@[simp] theorem output_deliver (s : Bytes) (l : Line δ) :
    (l.deliver s).output = l.output ++ s := by
  simp [deliver, output, report]

@[simp] theorem output_receive (framing : Framing) (c : Command) (sequence : UInt32)
    (deadline : Nat) (l : Line δ) :
    (l.receive framing c sequence deadline).2.output = l.output := by
  unfold receive
  dsimp only
  split
  case h_1 | h_2 => rfl
  case h_3 =>
    split
    · split <;> rfl
    · rfl

/-- What goes out of some bursts is their beginning, and all of them unless the sending stops. -/
theorem output_send (deadline : Nat) (bursts : List Burst) (l : Line δ) :
    ∃ s, (l.send deadline bursts).2.output = l.output ++ s ∧ s <+: bursts.flatMap (·.bytes) ∧
      ((l.send deadline bursts).1 = .ok () → s = bursts.flatMap (·.bytes)) := by
  induction bursts generalizing l with
  | nil => exact ⟨[], by simp [send], List.prefix_refl _, fun _ => rfl⟩
  | cons b bursts ih =>
    rw [send]
    split
    case isTrue => exact ⟨[], by simp [output], List.nil_prefix, nofun⟩
    case isFalse =>
      rcases haccept : l.outlet.accept b.bytes with ⟨taken, outlet, fault⟩
      have htaken := Outlet.prefix_of_accept haccept
      cases fault with
      | some f =>
        refine ⟨taken, ?_, htaken.1.trans (List.prefix_append _ _), nofun⟩
        exact output_deliver taken _
      | none =>
        obtain ⟨s, hs, hprefix, hall⟩ :=
          ih ({ l with clock := l.clock + millis b.pause, outlet }.deliver taken)
        obtain rfl := htaken.2 rfl
        refine ⟨b.bytes ++ s, ?_, List.prefix_append_right_inj _ |>.mpr hprefix, fun h => ?_⟩
        · exact hs.trans (by rw [output_deliver, List.append_assoc]; rfl)
        · rw [List.flatMap_cons, hall h]

end Line

/-- Some bytes are the frames of some requests, the numbers of which go on from the number
`sequence`. A frame may be cut short if there is no reply to it. -/
inductive Written (framing : Framing) : (sequence : UInt32) → List Turn → Bytes → Prop
  | nil {sequence : UInt32} : Written framing sequence [] []
  | cons {sequence : UInt32} {t : Turn} {turns : List Turn} {s rest : Bytes}
      (hs : s <+: framing.frame (.request t.command (sequence + 1) t.payload) t.payload)
      (hall : ∀ reply, t.result = .ok reply →
        s = framing.frame (.request t.command (sequence + 1) t.payload) t.payload)
      (h : Written framing (sequence + 1) turns rest) :
      Written framing sequence (t :: turns) (s ++ rest)

namespace Client

variable {δ : Type} {k : Client δ}

/-- The requests of a session that is carried out, the first one first. -/
def turns : Session α → Client δ → List Turn
  | .done _, _ => []
  | .request c payload extra next, k =>
    let (r, k) := k.exchange c payload extra
    ⟨c, payload, r⟩ :: turns (next r) k
  | .pause n next, k =>
    turns next { k with line := { k.line with clock := k.line.clock + millis n } }
  | .report e next, k => turns next { k with line := k.line.report [e] }

/-- Whatever is at the other end, a client has a dialogue of its session. -/
theorem dialogue_turns (x : Session α) (k : Client δ) : x.Dialogue (k.turns x) (k.run x).1 := by
  induction x generalizing k with
  | done a => exact .done a
  | request c payload extra next ih => exact .request _ (ih _ _)
  | pause millis next ih => exact .pause (ih _)
  | report e next ih => exact .report (ih _)

/-- An exchange takes the next number and keeps the settings. It writes the frame of its request,
and all of it if there is a reply. -/
theorem exchange_output (c : Command) (payload : Bytes) (extra : Nat) (k : Client δ) :
    (k.exchange c payload extra).2.settings = k.settings ∧
    (k.exchange c payload extra).2.sequence = k.sequence + 1 ∧
    ∃ s, (k.exchange c payload extra).2.line.output = k.line.output ++ s ∧
      s <+: k.settings.framing.frame (.request c (k.sequence + 1) payload) payload ∧
      ∀ reply, (k.exchange c payload extra).1 = .ok reply →
        s = k.settings.framing.frame (.request c (k.sequence + 1) payload) payload := by
  obtain ⟨s, hs, hprefix, hall⟩ := k.line.output_send
    (k.line.clock + millis (k.settings.timeout + extra))
    (k.settings.framing.bursts (.request c (k.sequence + 1) payload) payload)
  rw [Framing.bytes_bursts] at hprefix hall
  unfold exchange
  dsimp only
  generalize k.line.send _ _ = sending at hs hall ⊢
  rcases sending with ⟨sent, l⟩
  cases sent with
  | error stop => cases stop <;> exact ⟨rfl, rfl, s, hs, hprefix, nofun⟩
  | ok =>
    dsimp only at hs ⊢
    have hreceive := l.output_receive k.settings.framing c (k.sequence + 1)
      (k.line.clock + millis (k.settings.timeout + extra))
    generalize l.receive _ _ _ _ = receipt at hreceive ⊢
    rcases receipt with ⟨received, l'⟩
    rw [hs] at hreceive
    cases received with
    | error stop => cases stop <;> exact ⟨rfl, rfl, s, hreceive, hprefix, nofun⟩
    | ok f => exact ⟨rfl, rfl, s, hreceive, hprefix, fun _ _ => hall rfl⟩

/-- What goes out of a session that is carried out are the frames of its requests. -/
theorem written_turns (x : Session α) (k : Client δ) : ∃ s,
    (k.run x).2.line.output = k.line.output ++ s ∧
      Written k.settings.framing k.sequence (k.turns x) s := by
  induction x generalizing k with
  | done a => exact ⟨[], by simp [run], .nil⟩
  | request c payload extra next ih =>
    obtain ⟨hsettings, hsequence, s, hs, hprefix, hall⟩ := k.exchange_output c payload extra
    obtain ⟨rest, hrest, hwritten⟩ := ih (k.exchange c payload extra).1
      (k.exchange c payload extra).2
    rw [hsettings, hsequence] at hwritten
    refine ⟨s ++ rest, ?_, .cons hprefix hall hwritten⟩
    rw [← List.append_assoc, ← hs]
    exact hrest
  | pause millis next ih => exact ih _
  | report e next ih => exact ih _

/-- What a client finds wrong with a frame is not its length. -/
theorem exchange_ne_short (c : Command) (payload : Bytes) (extra : Nat) (k : Client δ)
    (needed got : Nat) : (k.exchange c payload extra).1 ≠ .error (.short needed got) := by
  unfold exchange
  dsimp only
  generalize k.line.send _ _ = sending
  rcases sending with ⟨sent, l⟩
  cases sent with
  | error stop => cases stop <;> nofun
  | ok =>
    dsimp only
    generalize l.receive _ _ _ _ = receipt
    rcases receipt with ⟨received, l'⟩
    cases received with
    | error stop => cases stop <;> nofun
    | ok f =>
      dsimp only
      unfold accept
      dsimp only
      split
      · nofun
      · split <;> nofun

/-- So no request that is made has this result. -/
theorem result_ne_short {x : Session α} {t : Turn} (h : t ∈ k.turns x) (needed got : Nat) :
    t.result ≠ .error (.short needed got) := by
  induction x generalizing k with
  | done a => cases h
  | request c payload extra next ih =>
    rcases List.mem_cons.mp h with rfl | h
    · exact k.exchange_ne_short c payload extra needed got
    · exact ih _ h
  | pause millis next ih => exact ih h
  | report e next ih => exact ih h

/-- A client on a link on which some bytes have come before it ended. -/
def facing (arrived : Bytes) : Client Unit where
  settings := {}
  line := {
    react := fun _ _ _ => (([], []), ())
    far := ()
    inlet := [⟨0, arrived⟩]
    closing := .hungUp }

end Client

/-- The frame of a reply, as devices send it that are left at their defaults. -/
def replyBytes (c : Command) (sequence : UInt32) (payload : Bytes) : Bytes :=
  Framing.frame {} (.reply (.request c sequence []) payload) payload

end Host

end Coprocessor
