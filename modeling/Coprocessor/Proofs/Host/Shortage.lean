import Coprocessor.Proofs.Host.Queries
import Coprocessor.Proofs.Host.ScriptUpload
import Mathlib.Algebra.Ring.Nat

/-!
# Replies that are too short

A call that finds a reply too short tells how many bytes there would have to be and how many there
are. The fields of a reply have widths that its command determines (`Command.fieldWidths`), and
those of the first field that is not all there tell where it ends (`Host.cut?`). For every call,
whatever is at the other end, it is the last reply that was too short. What there would have to be
reaches to the end of that field, and there is less (`Host.Shortage`).

The execution state is the exception. It is four bytes wide and named as one byte wide, and a value
that is no state is said to be too short as well. So there may be more bytes than there would have
to be (`Host.Client.blames_long_state`).
-/

namespace Coprocessor

/-- The widths of the fields that follow the status of a reply. -/
def Command.fieldWidths (body : Bytes) : Command → List Nat
  | .hello => [2, 2, 4]
  | .info => [4, 4, 4]
  | .scriptEnd => [4, 4]
  | .mailboxRead =>
    match Codec.u32.decode body with
    | (.ok n, _) => [4, n.toNat]
    | (.error _, _) => [4]
  | .loadData | .loadEnd | .exec | .status | .scriptData | .scriptExec | .func => [4]
  | .loadBegin | .cancel | .reset | .scriptBegin | .ispEnter | .ispExit => []

namespace Host

open Device.Reply (statusBytes)

variable {α β : Type}

/-- The end of the first field that is not all there, the first one beginning at `offset`, if
there are `got` bytes. -/
def cut? (got : Nat) : (offset : Nat) → (widths : List Nat) → Option Nat
  | _, [] => none
  | offset, width :: widths =>
    if got < offset + width then some (offset + width) else cut? got (offset + width) widths

theorem lt_of_cut? {needed got offset : Nat} {widths : List Nat}
    (h : cut? got offset widths = some needed) :
    got < needed := by
  induction widths generalizing offset with
  | nil => cases h
  | cons width widths ih =>
    rw [cut?] at h
    split at h
    case isTrue hlt =>
      cases h
      exact hlt
    case isFalse => exact ih h

/-! ## Fields -/

namespace Fields

variable {x : Decoder α} {f : α → Fields β} {n : Nat} {u : Unread} {widths : List Nat}

/-- A reader of fields with these widths that fails only where one of them is cut, and says so. -/
def ReportsCut (x : Fields α) (u : Unread) (widths : List Nat) : Prop :=
  ∀ e, x u = .error e → ∃ needed, cut? (u.offset + u.rest.length) u.offset widths = some needed ∧
    e = .short needed (u.offset + u.rest.length)

theorem reportsCut_of_eq_ok {x : Fields α} {a : α × Unread} (h : x u = .ok a) :
    x.ReportsCut u widths := by
  intro e he
  rw [h] at he
  cases he

theorem reportsCut_pure (a : α) : (pure a : Fields α).ReportsCut u widths :=
  reportsCut_of_eq_ok rfl

/-- A value that takes `n` bytes, and what is read after it. -/
theorem reportsCut_value_bind (hx : x.Needs n)
    (hf : ∀ a rest, x u.rest = (.ok a, rest) → (f a).ReportsCut ⟨u.offset + n, rest⟩ widths) :
    (value n x >>= f).ReportsCut u (n :: widths) := by
  intro e he
  rw [cut?]
  by_cases hlen : n ≤ u.rest.length
  · obtain ⟨a, rest, ha⟩ := hx.succeeds hlen
    have htaken := hx.takes _ _ _ ha
    -- What follows reports places of the same bytes, since the offset grows by what is taken.
    have hvalue : value n x u = .ok (a, ⟨u.offset + n, rest⟩) := by
      simp only [value, ha]
      congr 3
      omega
    have hrest : (f a) ⟨u.offset + n, rest⟩ = .error e := by
      rw [← he]
      simp only [Bind.bind, StateT.bind, hvalue, Except.bind]
    have htotal : u.offset + n + rest.length = u.offset + u.rest.length := by omega
    rw [if_neg (by omega), ← htotal]
    exact hf a rest ha e hrest
  · have hvalue : value n x u = .error (.short (u.offset + n) (u.offset + u.rest.length)) := by
      rcases hx' : x u.rest with ⟨a | a, rest⟩
      · simp only [value, hx']
      · have htaken := hx.takes _ _ _ hx'
        omega
    simp only [Bind.bind, StateT.bind, hvalue, Except.bind] at he
    cases he
    exact ⟨_, if_pos (by omega), rfl⟩

theorem reportsCut_value (hx : x.Needs n) : (value n x).ReportsCut u (n :: widths) := by
  rw [← bind_pure (value n x)]
  exact reportsCut_value_bind hx fun a _ _ => reportsCut_pure a

theorem ReportsCut.of_eq_error {x : Fields α} {s : Bytes} {e : CallError}
    (h : x.ReportsCut ⟨0, s⟩ widths) (he : x.of s = .error e) :
    ∃ needed, cut? s.length 0 widths = some needed ∧ e = .short needed s.length := by
  simp only [Fields.of, Bind.bind, Except.bind] at he
  split at he
  case h_1 e' hx =>
    cases he
    have hcut := h e hx
    rwa [Nat.zero_add] at hcut
  case h_2 => cases he

end Fields

/-- A query other than for the execution state reads fields of the widths that its reply has. -/
theorem Query.reportsCut (q : Query α) (hq : q.command ≠ .status) (body : Bytes) :
    q.fields.ReportsCut ⟨0, body⟩ (q.command.fieldWidths body) := by
  cases q with
  | hello =>
    exact Fields.reportsCut_value_bind Codec.needs_u16 fun _ _ _ =>
      Fields.reportsCut_value_bind Codec.needs_u16 fun _ _ _ =>
      Fields.reportsCut_value_bind Codec.needs_u32 fun _ _ _ => Fields.reportsCut_pure _
  | info =>
    exact Fields.reportsCut_value_bind Codec.needs_u32 fun _ _ _ =>
      Fields.reportsCut_value_bind Codec.needs_u32 fun _ _ _ =>
      Fields.reportsCut_value_bind Codec.needs_u32 fun _ _ _ => Fields.reportsCut_pure _
  | status => exact absurd rfl hq
  | exec | scriptExec | func => exact Fields.reportsCut_value Codec.needs_i32
  | readMail limit =>
    change (Fields.word >>= fun n => Fields.bytes n.toNat).ReportsCut ⟨0, body⟩
      (Command.fieldWidths body .mailboxRead)
    rcases hn : Codec.u32.decode body with ⟨e | n, rest⟩
    · simp only [Command.fieldWidths, hn]
      refine Fields.reportsCut_value_bind Codec.needs_u32 fun n rest' hn' => ?_
      rw [hn] at hn'
      cases hn'
    · simp only [Command.fieldWidths, hn]
      refine Fields.reportsCut_value_bind Codec.needs_u32 fun n' rest' hn' => ?_
      rw [hn] at hn'
      cases hn'
      exact Fields.reportsCut_value (.take n.toNat)
  | cancel | reset | enterProgramming | leaveProgramming => exact Fields.reportsCut_pure _

/-- What a device writes after the status of a reply has fields of these widths. -/
theorem Query.Carries.length_fieldsOf {q : Query α} {x : Except Status Device.Reply} {a : α}
    (h : q.Carries x a) : (Device.fieldsOf q.command x).length =
      (q.command.fieldWidths (Device.fieldsOf q.command x)).sum := by
  cases h with
  | @mail limit text htext =>
    have hlen : (UInt32.ofNat text.length).toNat = text.length :=
      UInt32.toNat_ofNat_of_lt' (Nat.lt_of_le_of_lt htext limit.toNat_lt)
    simp only [Device.fieldsOf, Query.command, Device.Reply.fields, Command.fieldWidths,
      Codec.u32_lossless.faithful, hlen, List.length_append, Codec.length_encode_u32]
    rfl
  | _ => rfl

/-- What a reply to a request is like, if a call fails because it is too short. -/
inductive Shortage (c : Command) : (reply : Bytes) → (needed got : Nat) → Prop
  /-- The status is cut. -/
  | status {reply : Bytes} {needed : Nat} (h : cut? reply.length 0 [4] = some needed) :
    Shortage c reply needed reply.length
  /-- A field after the status is cut. -/
  | field {s : Status} {body : Bytes} {needed : Nat} (hc : c ≠ .status)
    (h : cut? body.length 0 (c.fieldWidths body) = some needed) :
    Shortage c (statusBytes s ++ body) needed body.length
  /-- What follows the status is no execution state. -/
  | execState {body : Bytes} (hc : c = .status)
    (h : body.length < 4 ∨ ∃ code rest, body = Codec.u32.encode code ++ rest ∧
      ExecState.ofCode? code = none) :
    Shortage c (statusBytes .ok ++ body) 1 body.length

/-- There is less than there would have to be, unless there is no execution state. -/
theorem Shortage.lt_or {c : Command} {reply : Bytes} {needed got : Nat}
    (h : Shortage c reply needed got) : got < needed ∨ c = .status ∧ needed = 1 := by
  cases h with
  | status h => exact .inl (lt_of_cut? h)
  | field hc h => exact .inl (lt_of_cut? h)
  | execState hc h => exact .inr ⟨hc, rfl⟩

/-! ## Which reply is too short -/

/-- If requests with these results lead to a failure for a reply that is too short, this is the
last one. -/
def BlamesLast (turns : List Turn) (r : Except CallError α) : Prop :=
  ∀ needed got, r = .error (.short needed got) → ∃ t ∈ turns.getLast?,
    t.result = .error (.short needed got) ∨
      ∃ reply, t.result = .ok reply ∧ Shortage t.command reply needed got

theorem BlamesLast.append {turns : List Turn} {r : Except CallError α} (h : BlamesLast turns r)
    (before : List Turn) : BlamesLast (before ++ turns) r := by
  intro needed got hr
  obtain ⟨t, ht, hblamed⟩ := h needed got hr
  refine ⟨t, ?_, hblamed⟩
  rw [List.getLast?_append, ht]
  rfl

namespace Call

/-- A call that fails for a reply that is too short only if this is the last one. -/
def Blames (x : Call α) : Prop :=
  ∀ turns r, x.run.Dialogue turns r → BlamesLast turns r

variable {x : Call α} {f : α → Call β} {c : Command} {payload body : Bytes} {extra : Nat}
  {e : CallError}

theorem Blames.bind (hx : x.Blames) (hf : ∀ a, (f a).Blames) : (x >>= f).Blames := by
  intro turns r h
  rcases dialogue_bind h with ⟨e, hfailed, rfl⟩ | ⟨a, before, after, -, hrest, rfl⟩
  · intro needed got he
    cases he
    exact hx _ _ hfailed needed got rfl
  · exact (hf a _ _ hrest).append before

theorem blames_pure (a : α) : (pure a : Call α).Blames := by
  intro turns r h
  cases h
  exact nofun

theorem blames_throw (he : ∀ needed got, e ≠ .short needed got) : (throw e : Call α).Blames := by
  intro turns r h needed got hr
  cases h
  cases hr
  exact absurd rfl (he needed got)

theorem blames_pause (millis : Nat) : (pause millis).Blames := by
  intro turns r h
  obtain ⟨-, rfl⟩ := dialogue_pause h
  exact nofun

theorem blames_report (level : Log.Level) (message : String) : (report level message).Blames := by
  intro turns r h
  obtain ⟨-, rfl⟩ := dialogue_report h
  exact nofun

theorem blames_refuse (c : Command) (status : Status) : (refuse c status : Call α).Blames :=
  (blames_report _ _).bind fun _ => blames_throw nofun

/-- A reply that cannot be split is too short for a status, or its status has no meaning. -/
theorem shortage_of_split {reply : Bytes} {needed got : Nat}
    (h : split c reply = .error (.short needed got)) : Shortage c reply needed got := by
  cases hread : Fields.of (do return (← Fields.signed, ← Fields.rest)) reply with
  | error e =>
    rw [split, hread] at h
    cases h
    have hcut : Fields.ReportsCut (do return (← Fields.signed, ← Fields.rest)) ⟨0, reply⟩ [4] :=
      Fields.reportsCut_value_bind Codec.needs_i32 fun _ _ _ => Fields.reportsCut_of_eq_ok rfl
    obtain ⟨needed, hneeded, hshort⟩ := hcut.of_eq_error hread
    cases hshort
    exact .status hneeded
  | ok p =>
    obtain ⟨code, rest⟩ := p
    rw [split, hread] at h
    simp only [Bind.bind, Except.bind] at h
    cases hstatus : Status.ofCode? code <;> rw [hstatus] at h <;> cases h

/-- A request, and the splitting of its reply, and what is done with the status and the rest. -/
theorem blames_split_bind {f : Status × Bytes → Call α}
    (hf : ∀ s rest turns r, (f (s, rest)).run.Dialogue turns r →
      BlamesLast (⟨c, payload, .ok (statusBytes s ++ rest)⟩ :: turns) r) :
    (request c payload extra >>= fun reply => ofExcept (split c reply) >>= f).Blames := by
  intro turns r h
  rcases dialogue_bind h with ⟨e, hrequest, rfl⟩ | ⟨reply, before, after, hrequest, hrest, rfl⟩
  · rw [dialogue_request hrequest]
    intro needed got he
    cases he
    exact ⟨_, rfl, .inl rfl⟩
  rw [dialogue_request hrequest]
  rcases dialogue_ofExcept_bind hrest with ⟨e, hsplit, rfl, rfl⟩ | ⟨⟨s, rest⟩, hsplit, hread⟩
  · intro needed got he
    cases he
    exact ⟨_, rfl, .inr ⟨reply, rfl, shortage_of_split hsplit⟩⟩
  · rw [eq_append_of_split hsplit]
    exact hf s rest after r hread

theorem blames_call (c : Command) (payload : Bytes) (extra : Nat) :
    (call c payload extra).Blames := by
  refine blames_split_bind fun s rest turns r h => ?_
  dsimp only at h
  split at h
  case isTrue => exact (blames_pure rest _ _ h).append [_]
  case isFalse => exact (blames_refuse c s _ _ h).append [_]

theorem blames_call_bind {f : Bytes → Call α}
    (hf : ∀ body turns r, (f body).run.Dialogue turns r →
      BlamesLast (⟨c, payload, .ok (statusBytes .ok ++ body)⟩ :: turns) r) :
    (call c payload extra >>= f).Blames := by
  intro turns r h
  rcases dialogue_bind h with ⟨e, hfailed, rfl⟩ | ⟨body, before, after, hcall, hrest, rfl⟩
  · intro needed got he
    cases he
    exact blames_call c payload extra _ _ hfailed needed got rfl
  · obtain ⟨result, rfl, haccepted⟩ := dialogue_call hcall
    rw [eq_ok_of_accepted haccepted.symm]
    exact hf body after r hrest

/-- Fields that cannot be read of a reply with a status are cut. -/
theorem blamesLast_of_fields {x : Fields β} {s : Status} (hc : c ≠ .status)
    (hx : x.ReportsCut ⟨0, body⟩ (c.fieldWidths body)) (h : x.of body = .error e) :
    BlamesLast [⟨c, payload, .ok (statusBytes s ++ body)⟩] (.error e : Except CallError α) := by
  intro needed got he
  cases he
  obtain ⟨needed, hneeded, hshort⟩ := hx.of_eq_error h
  cases hshort
  exact ⟨_, rfl, .inr ⟨_, rfl, .field hc hneeded⟩⟩

theorem blamesLast_of_ofExcept_fields {x : Fields α} {s : Status} {turns : List Turn}
    {r : Except CallError α} (hc : c ≠ .status) (hx : x.ReportsCut ⟨0, body⟩ (c.fieldWidths body))
    (h : (ofExcept (x.of body)).run.Dialogue turns r) :
    BlamesLast (⟨c, payload, .ok (statusBytes s ++ body)⟩ :: turns) r := by
  obtain ⟨rfl, rfl⟩ := dialogue_ofExcept h
  cases hfields : x.of body with
  | ok a => exact nofun
  | error e => exact blamesLast_of_fields hc hx hfields

theorem blamesLast_of_fields_bind {x : Fields α} {s : Status} {turns : List Turn}
    {r : Except CallError β} (hc : c ≠ .status)
    (hx : x.ReportsCut ⟨0, body⟩ (c.fieldWidths body)) (hf : ∀ a, (f a).Blames)
    (h : (ofExcept (x.of body) >>= f).run.Dialogue turns r) :
    BlamesLast (⟨c, payload, .ok (statusBytes s ++ body)⟩ :: turns) r := by
  rcases dialogue_ofExcept_bind h with ⟨e, hfields, rfl, rfl⟩ | ⟨a, -, hrest⟩
  · exact blamesLast_of_fields hc hx hfields
  · exact (hf a _ _ hrest).append [_]

/-- An execution state that cannot be read is said to be one byte wide. -/
theorem shortage_of_execState
    (h : (Fields.value 1 (Codec.tagged .u32 ExecState.code ExecState.ofCode?).decode).of body =
      .error e) :
    e = .short 1 body.length ∧ (body.length < 4 ∨
      ∃ code rest, body = Codec.u32.encode code ++ rest ∧ ExecState.ofCode? code = none) := by
  rcases hd : (Codec.tagged .u32 ExecState.code ExecState.ofCode?).decode body with ⟨e' | state, rest⟩
  · simp only [Fields.of, Fields.value, hd, Bind.bind, Except.bind, Nat.zero_add] at h
    cases h
    refine ⟨rfl, ?_⟩
    by_cases hlen : 4 ≤ body.length
    · obtain ⟨code, rest, hcode⟩ := Codec.needs_u32.succeeds hlen
      refine .inr ⟨code, rest, Codec.u32_lossless.canonical hcode, ?_⟩
      cases hstate : ExecState.ofCode? code with
      | none => rfl
      | some state =>
        simp [Codec.tagged, Decoder.filterMap, Bind.bind, hcode, hstate, Pure.pure] at hd
    · exact .inl (Nat.lt_of_not_le hlen)
  · simp only [Fields.of, Fields.value, hd, Bind.bind, Except.bind] at h
    cases h

theorem blames_status : status.Blames := by
  refine blames_call_bind fun body turns r h => ?_
  obtain ⟨rfl, rfl⟩ := dialogue_ofExcept h
  intro needed got he
  obtain ⟨hshort, hbody⟩ := shortage_of_execState he
  cases hshort
  exact ⟨_, rfl, .inr ⟨_, rfl, .execState rfl hbody⟩⟩

/-! ## Calls -/

theorem blames_query {α : Type} (q : Query α) : q.call.Blames := by
  by_cases hc : q.command = .status
  · cases q <;> first | exact blames_status | cases hc
  · rw [q.call_eq]
    exact blames_call_bind fun body _ _ => blamesLast_of_ofExcept_fields hc (q.reportsCut hc body)

theorem blames_sendPieces (s : Uploading) (data : Command) (pieces : List Bytes) (sent : UInt32)
    (hc : data ≠ .status) (hw : ∀ body, data.fieldWidths body = [4]) :
    (sendPieces s data pieces sent).Blames := by
  induction pieces generalizing sent with
  | nil => exact blames_pure ()
  | cons piece pieces ih =>
    refine blames_call_bind fun body turns r h =>
      blamesLast_of_fields_bind hc ((hw body).symm ▸ Fields.reportsCut_value Codec.needs_u32)
        (fun held => ?_) h
    dsimp only
    split
    case isTrue =>
      exact .bind (blames_throw fun _ _ => nofun) fun _ => (blames_pause _).bind fun _ => ih _
    case isFalse => exact (blames_pause _).bind fun _ => ih _

theorem blames_upload (s : Uploading) (start data : Command) (content : Bytes)
    (hc : data ≠ .status) (hw : ∀ body, data.fieldWidths body = [4]) :
    (upload s start data content).Blames :=
  (blames_call _ _ _).bind fun _ => blames_sendPieces s data _ _ hc hw

theorem blames_loadCode (s : Uploading) (code : Bytes) : (loadCode s code).Blames :=
  (blames_upload s .loadBegin .loadData code nofun fun _ => rfl).bind fun _ =>
    blames_call_bind fun _ _ _ =>
      blamesLast_of_fields_bind nofun (Fields.reportsCut_value Codec.needs_u32) fun length =>
        (blames_report _ _).bind fun _ => blames_pure length

theorem blames_endScript (script : Bytes) : (endScript script).Blames := by
  refine blames_split_bind fun s rest turns r h => ?_
  dsimp only at h
  split at h
  case isTrue => exact (blames_refuse _ _ _ _ h).append [_]
  case isFalse =>
    refine blamesLast_of_fields_bind nofun ?_ (fun _ => ?_) h
    · exact Fields.reportsCut_value_bind Codec.needs_u32 fun _ _ _ =>
        Fields.reportsCut_value_bind Codec.needs_u32 fun _ _ _ => Fields.reportsCut_pure _
    split
    case isTrue => exact blames_pure _
    case isFalse =>
    split
    case isTrue => exact (blames_report _ _).bind fun _ => blames_throw fun _ _ => nofun
    case isFalse =>
      exact (blames_report _ _).bind fun _ => blames_call_bind fun _ _ _ =>
        blamesLast_of_ofExcept_fields nofun (Fields.reportsCut_value Codec.needs_u32)

theorem blames_loadScript (s : Uploading) (script : Bytes) : (loadScript s script).Blames :=
  (blames_upload s .scriptBegin .scriptData script nofun fun _ => rfl).bind fun _ =>
    blames_endScript script

end Call

/-- A call of any kind, with a result of type `α`. -/
inductive AnyCall : Type → Type 1 where
  /-- A request and the reading of its reply. -/
  | query {α : Type} (q : Query α) : AnyCall α
  /-- Uploads code. -/
  | loadCode (s : Uploading) (code : Bytes) : AnyCall UInt32
  /-- Uploads a script. -/
  | loadScript (s : Uploading) (script : Bytes) : AnyCall UInt32

/-- The call. -/
def AnyCall.call : AnyCall α → Call α
  | query q => q.call
  | loadCode s code => Call.loadCode s code
  | loadScript s script => Call.loadScript s script

theorem AnyCall.blames (x : AnyCall α) : x.call.Blames := by
  cases x with
  | query q => exact Call.blames_query q
  | loadCode s code => exact Call.blames_loadCode s code
  | loadScript s script => exact Call.blames_loadScript s script

/-- Whatever is at the other end of a link, if a call fails because a reply is too short, it is the
reply to its last request. What there is is the length of the part that was being read, and what
there would have to be is the end of the first field of it that is not all there, except that an
execution state is named as one byte wide whatever is the matter with it. -/
theorem Client.blames_short_reply {δ : Type} (x : AnyCall α) (k : Client δ) {needed got : Nat}
    (h : (k.run x.call.run).1 = .error (.short needed got)) :
    ∃ t reply, (k.turns x.call.run).getLast? = some t ∧ t.result = .ok reply ∧
      Shortage t.command reply needed got ∧
      (got < needed ∨ t.command = .status ∧ needed = 1) := by
  obtain ⟨t, ht, hblamed⟩ := x.blames _ _ (k.dialogue_turns x.call.run) needed got h
  rcases hblamed with hshort | ⟨reply, hreply, hshortage⟩
  · exact absurd hshort (Client.result_ne_short (List.mem_of_getLast? ht) needed got)
  · exact ⟨t, reply, ht, hreply, hshortage, hshortage.lt_or⟩

/-- A device that tells its state with two bytes of the first word. -/
theorem Client.blames_short_information :
    let k := facing (replyBytes .info 1 (statusBytes .ok ++ [0, 0]))
    (k.run (AnyCall.query .info).call.run).1 = .error (.short 4 2) ∧
      ∃ t reply, (k.turns (AnyCall.query .info).call.run).getLast? = some t ∧
        t.result = .ok reply ∧ Shortage t.command reply 4 2 ∧
        ((2 : Nat) < 4 ∨ t.command = .status ∧ (4 : Nat) = 1) := by
  have h : ((facing (replyBytes .info 1 (statusBytes .ok ++ [0, 0]))).run
      (AnyCall.query .info).call.run).1 = .error (.short 4 2) := by decide +kernel
  exact ⟨h, Client.blames_short_reply (.query .info) _ h⟩

/-- Two bytes of an execution state are said to be more than there would have to be, and so are
four bytes that are no state. -/
theorem Client.blames_long_state :
    ((facing (replyBytes .status 1 (statusBytes .ok ++ [0, 0]))).run Call.status.run).1 =
        .error (.short 1 2) ∧
      ((facing (replyBytes .status 1 (statusBytes .ok ++ [9, 0, 0, 0]))).run Call.status.run).1 =
        .error (.short 1 4) := by
  constructor <;> decide +kernel

end Host

end Coprocessor
