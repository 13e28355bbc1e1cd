import Coprocessor.Proofs.Host.Correspondence
import Coprocessor.Proofs.Link.Transcript
import Mathlib.Data.List.Induction
import Mathlib.Data.List.Nodup

/-!
# Replies that come late

The device answers requests in order, so the replies under way stand in the order of their
calls, and there are no more of them than there are calls without an answer. While these are
fewer than half of the numbers on the wire, comparing two numbers tells which call was earlier
(`isEarlier_ofNat`). A call then drops the replies to earlier ones and returns its own
(`Run.drop_of_reading`, `Run.finish_of_reading`).

The loop of a call reads the bytes of the replies that have arrived. It takes the same steps, one
reply after the other (`Run.sifts`), and what it comes to is what the call returns over a line
(`Run.returns`). So a run is attributed, by its steps and by the bytes (`Run.attributed`).
-/

namespace Coprocessor

/-! ## Numbers on the wire -/

namespace Host

open Link

theorem toInt_toInt32_ofNat {n : Nat} (h : n < 2 ^ 31) : (UInt32.ofNat n).toInt32.toInt = n := by
  have hword : (UInt32.ofNat n).toInt32.toInt = (BitVec.ofNat 32 n).toInt := rfl
  have hnat : (BitVec.ofNat 32 n).toNat = n :=
    BitVec.toNat_ofNat n 32 ▸ Nat.mod_eq_of_lt (by omega)
  rw [hword, BitVec.toInt_eq_toNat_of_lt (by omega), hnat]

/-- Numbers are compared up to their overflow, if they are not too far apart. -/
theorem isEarlier_ofNat {m n : Nat} (hle : m ≤ n) (hlt : n - m < 2 ^ 31) :
    isEarlier (.ofNat m) (.ofNat n) = decide (m < n) := by
  rw [isEarlier, ← UInt32.ofNat_sub hle, decide_eq_decide, Int32.lt_iff_toInt_lt,
    toInt_toInt32_ofNat hlt, Int32.toInt_zero]
  omega

/-! ## Exchanges -/

section

variable {δ : Type} {k : Client δ} {l l' : Line δ} {near : Framing} {c : Command}
  {sequence : UInt32} {payload : Bytes} {extra deadline : Nat}

/-- Bursts can be written by a deadline if their pauses end by then, and where the other end says
nothing, nothing more arrives. -/
theorem exists_send_of_silent {bursts : List Burst}
    (hsilent : ∀ time s far, l.react time s far = (([], []), far)) (hroom : l.outlet.room = none)
    (hd : l.clock + millis (pauses bursts) ≤ deadline) :
    ∃ l', l.send deadline bursts = (.ok (), l') ∧ l'.inlet = l.inlet := by
  induction bursts generalizing l with
  | nil => exact ⟨l, rfl, rfl⟩
  | cons b bursts ih =>
    rw [pauses_cons, millis, Nat.mul_add] at hd
    have htime : ¬deadline < l.clock + millis b.pause := by
      rw [millis]
      omega
    have haccept : l.outlet.accept b.bytes = (b.bytes, l.outlet, none) := by
      rw [Outlet.accept, hroom]
    simp only [Line.send, if_neg htime, haccept]
    obtain ⟨l', hsend, hinlet⟩ := ih
      (l := { l with clock := l.clock + millis b.pause }.deliver b.bytes)
      (by simp [Line.deliver, hsilent, Line.report])
      (by simpa [Line.deliver, hsilent, Line.report] using hroom)
      (by simpa [Line.deliver, hsilent, Line.report, millis, Nat.add_assoc] using hd)
    exact ⟨l', hsend, by simpa [Line.deliver, hsilent, Line.report] using hinlet⟩

theorem exists_receive_of_frame {f : Frame} {rest : Bytes} {entries : List Log.Entry}
    (h : awaitReply near c sequence (received (l.inlet.takeWhile (·.time ≤ deadline))) =
      ⟨.frame f, rest, entries⟩) :
    ∃ l', l.receive near c sequence deadline = (.ok f, l') := by
  simp only [Line.receive, List.span_eq_takeWhile_dropWhile, h]
  exact ⟨_, rfl⟩

theorem exists_receive_of_starved {x : Bool} {rest : Bytes} {entries : List Log.Entry}
    (h : awaitReply near c sequence (received (l.inlet.takeWhile (·.time ≤ deadline))) =
      ⟨.starved x, rest, entries⟩) :
    ∃ stop l', l.receive near c sequence deadline = (.error stop, l') := by
  simp only [Line.receive, List.span_eq_takeWhile_dropWhile, h]
  split
  · split <;> exact ⟨_, _, rfl⟩
  · exact ⟨_, _, rfl⟩

/-- Once the request is written, an exchange returns what is made of the frame that is found. -/
theorem exchange_of_received {f : Frame}
    (hs : k.line.send (k.line.clock + millis (k.settings.timeout + extra))
      (k.settings.framing.bursts (.request c (k.sequence + 1) payload) payload) = (.ok (), l))
    (hr : l.receive k.settings.framing c (k.sequence + 1)
      (k.line.clock + millis (k.settings.timeout + extra)) = (.ok f, l')) :
    (k.exchange c payload extra).1 = (accept k.settings.strict c (k.sequence + 1) f).1 := by
  simp only [Client.exchange, hs, hr]

/-- Where no frame is found, there is no reply in time or the link has failed. -/
theorem exchange_of_stopped {stop : Stop}
    (hs : k.line.send (k.line.clock + millis (k.settings.timeout + extra))
      (k.settings.framing.bursts (.request c (k.sequence + 1) payload) payload) = (.ok (), l))
    (hr : l.receive k.settings.framing c (k.sequence + 1)
      (k.line.clock + millis (k.settings.timeout + extra)) = (.error stop, l')) :
    (k.exchange c payload extra).1 = match stop with
      | .late => .error (.noReply (k.settings.timeout + extra))
      | .failed f => .error (.link f) := by
  cases stop <;> simp only [Client.exchange, hs, hr]

end

end Host

namespace Correspondence

open Host Link

variable {σ τ : Type} {strict : Bool} {d : Device σ τ} {events : List Event} {t t' : Parties σ τ}
  {e : Event}

/-! ## Order -/

@[simp] theorem called_concat (events : List Event) (e : Event) :
    called (events ++ [e]) = called events ++ e.called?.toList := by
  cases h : e.called? <;> simp [called, h]

@[simp] theorem sent_concat (events : List Event) (e : Event) :
    sent (events ++ [e]) = sent events ++ e.sent?.toList := by
  cases h : e.sent? <;> simp [sent, h]

@[simp] theorem answered_concat (events : List Event) (e : Event) :
    answered (events ++ [e]) = answered events ++ e.answered?.toList := by
  cases h : e.answered? <;> simp [answered, h]

@[simp] theorem replied_concat (events : List Event) (e : Event) :
    replied (events ++ [e]) = replied events ++ e.read?.toList := by
  cases h : e.read? <;> simp [replied, h]

/-- Nothing is lost or overtaken between the client and the device. -/
structure Queued (events : List Event) (t : Parties σ τ) : Prop where
  /-- The requests that are not answered are under way. -/
  requests : sent events = (answered events).map Prod.fst ++ t.requests
  /-- The replies that are not read are under way. -/
  replies : (answered events).map Prod.snd = replied events ++ t.replies

theorem Queued.step (h : Queued events t) (hs : Step strict t e t') :
    Queued (events ++ [e]) t' := by
  obtain ⟨hrequests, hreplies⟩ := h
  constructor
  · rw [sent_concat, answered_concat, List.map_append, hrequests]
    cases hs with
    | answer _ hr => simp [hr, Event.sent?, Event.answered?]
    | _ => simp [Event.sent?, Event.answered?]
  · rw [answered_concat, replied_concat, List.map_append, hreplies]
    cases hs with
    | drop _ ha | finish _ _ ha =>
      simp [ha, Event.answered?, Event.read?]
    | _ => simp [Event.answered?, Event.read?]

theorem Run.queued (h : Run strict d events t) : Queued events t := by
  induction h with
  | start => exact ⟨rfl, rfl⟩
  | step _ last ih => exact ih.step last

/-! ## Labels -/

/-- The request of a call. -/
def Letter.request (number : Nat) (c : Command) (payload : Bytes) : Letter :=
  ⟨number, .request c (.ofNat number) payload, payload⟩

/-- Calls are numbered, and requests are labelled with their calls. -/
structure Numbered (events : List Event) (t : Parties σ τ) : Prop where
  /-- The number on the wire is that of the call, up to overflow. -/
  sequence : t.sequence = .ofNat t.calls
  /-- The calls are numbered in order. -/
  calls : (called events).map Prod.fst = List.range' 1 t.calls
  /-- A request is that of its call. -/
  requests : ∀ r ∈ sent events, ∃ c payload, (r.call, c, payload) ∈ called events ∧
    r = .request r.call c payload
  /-- The requests are written in the order of the calls. -/
  ordered : ((sent events).map Letter.call).Pairwise (· < ·)
  /-- The request of a call that is about to write it was not written. -/
  writing : ∀ {c payload}, t.phase = .writing c payload →
    (t.calls, c, payload) ∈ called events ∧
      ∀ r ∈ sent events, r.call < t.calls
  /-- The request of a call that reads replies was written. -/
  reading : ∀ {c}, t.phase = .reading c →
    ∃ payload, .request t.calls c payload ∈ sent events

theorem Numbered.mem_called (h : Numbered events t) {n : Nat} {x : Command × Bytes}
    (hx : (n, x) ∈ called events) : 1 ≤ n ∧ n ≤ t.calls := by
  have hn : n ∈ List.range' 1 t.calls := h.calls ▸ List.mem_map_of_mem hx
  rw [List.mem_range'_1] at hn
  omega

theorem Numbered.mem_sent (h : Numbered events t) {r : Letter} (hr : r ∈ sent events) :
    1 ≤ r.call ∧ r.call ≤ t.calls := by
  obtain ⟨c, payload, hc, -⟩ := h.requests r hr
  exact h.mem_called hc

/-- A step that neither begins a call nor writes a request leaves the labels as they are. -/
theorem Numbered.congr (h : Numbered events t) (hc : e.called? = none) (hs : e.sent? = none)
    (hn : t'.sequence = t.sequence) (hcalls : t'.calls = t.calls)
    (hp : t'.phase = t.phase ∨ t'.phase = .free) : Numbered (events ++ [e]) t' := by
  have hcalled : called (events ++ [e]) = called events := by
    simp [hc]
  have hsent : sent (events ++ [e]) = sent events := by
    simp [hs]
  refine ⟨by rw [hn, hcalls, h.sequence], ?_, ?_, ?_, fun {c payload} hw => ?_, fun {c} hr => ?_⟩
  · rw [hcalled, hcalls, h.calls]
  · rw [hcalled, hsent]
    exact h.requests
  · rw [hsent]
    exact h.ordered
  · rw [hcalled, hsent, hcalls]
    rcases hp with hp | hp
    · exact h.writing (hp ▸ hw)
    · cases hp.symm.trans hw
  · rw [hsent, hcalls]
    rcases hp with hp | hp
    · exact h.reading (hp ▸ hr)
    · cases hp.symm.trans hr

theorem Numbered.step (h : Numbered events t) (hs : Step strict t e t') :
    Numbered (events ++ [e]) t' := by
  cases hs with
  | call c payload =>
    have hsent : sent (events ++ [.call (t.calls + 1) c payload]) =
        sent events := by simp [Event.sent?]
    have hcalled : called (events ++ [.call (t.calls + 1) c payload]) =
        called events ++ [(t.calls + 1, c, payload)] := by
      simp [Event.called?]
    refine ⟨?_, ?_, fun r hr => ?_, ?_, fun {c' payload'} hw => ?_, nofun⟩
    · rw [h.sequence]
      exact (UInt32.ofNat_add t.calls 1).symm
    · rw [hcalled, List.map_append, h.calls, List.range'_1_concat, Nat.add_comm 1]
      rfl
    · rw [hsent] at hr
      obtain ⟨c', payload', hc, he⟩ := h.requests r hr
      exact ⟨c', payload', hcalled ▸ List.mem_append_left _ hc, he⟩
    · rw [hsent]
      exact h.ordered
    · cases hw
      rw [hcalled, hsent]
      exact ⟨by simp, fun r hr => Nat.lt_succ_of_le (h.mem_sent hr).2⟩
  | @send c payload hp =>
    obtain ⟨hmem, hlt⟩ := h.writing hp
    have hrequest : (⟨t.calls, .request c t.sequence payload, payload⟩ : Letter) =
        .request t.calls c payload := by rw [h.sequence, Letter.request]
    rw [hrequest]
    have hcalled : called (events ++ [.send (.request t.calls c payload)]) =
        called events := by simp [Event.called?]
    have hsent : sent (events ++ [.send (.request t.calls c payload)]) =
        sent events ++ [.request t.calls c payload] := by
      simp [Event.sent?]
    refine ⟨h.sequence, hcalled ▸ h.calls, fun r hr => ?_, ?_, nofun, fun {c'} hr => ?_⟩
    · rw [hcalled]
      rcases List.mem_append.mp (hsent ▸ hr) with hr | hr
      · exact h.requests r hr
      · rw [List.mem_singleton.mp hr]
        exact ⟨c, payload, hmem, rfl⟩
    · rw [hsent, List.map_append, List.pairwise_append]
      refine ⟨h.ordered, List.pairwise_singleton _ _, fun n hn m hm => ?_⟩
      obtain ⟨r, hr, rfl⟩ := List.mem_map.mp hn
      obtain rfl := List.mem_singleton.mp hm
      exact hlt r hr
    · cases hr
      exact ⟨payload, hsent ▸ by simp⟩
  | answer | drop | rest => exact h.congr rfl rfl rfl rfl (.inl rfl)
  | finish | expire => exact h.congr rfl rfl rfl rfl (.inr rfl)

theorem Run.numbered (h : Run strict d events t) : Numbered events t := by
  induction h with
  | start => exact ⟨rfl, rfl, nofun, .nil, nofun, nofun⟩
  | step _ last ih => exact ih.step last

/-- A reply has the label and the number of its request, and its command with the reply bit. -/
theorem Run.echoed (h : Run strict d events t) {r a : Letter} (hx : (r, a) ∈ answered events) :
    a.call = r.call ∧ a.header = .reply r.header a.payload := by
  induction h with
  | start => cases hx
  | @step events t e t' _ last ih =>
    rw [answered_concat] at hx
    rcases List.mem_append.mp hx with hx | hx
    · exact ih hx
    · cases last with
      | answer verdict hr hd =>
        obtain ⟨rfl, rfl⟩ := Prod.mk.inj (List.mem_singleton.mp hx)
        rw [Device.handleFrame] at hd
        cases hd
        exact ⟨rfl, rfl⟩
      | _ => cases hx

/-! ## The oldest reply -/

/-- Numbers that grow from above `k` on are ahead of their places. -/
theorem length_add_lt_of_pairwise {k n : Nat} {before after : List Nat}
    (h : (before ++ n :: after).Pairwise (· < ·)) (hk : ∀ m ∈ before ++ n :: after, k < m) :
    before.length + k < n := by
  induction before generalizing k with
  | nil => simpa using hk n (by simp)
  | cons m before ih =>
    obtain ⟨hm, h⟩ := List.pairwise_cons.mp h
    have hkm := hk m List.mem_cons_self
    have hlt := ih h hm
    rw [List.length_cons]
    omega

/-- The requests in the order in which they were written are those of the replies that were
read, of the replies under way, and the ones under way. -/
theorem Run.map_call_sent (h : Run strict d events t) : (sent events).map Letter.call =
    (replied events).map Letter.call ++ t.replies.map Letter.call ++
      t.requests.map Letter.call := by
  have hlabels : ((answered events).map Prod.fst).map Letter.call =
      ((answered events).map Prod.snd).map Letter.call := by
    rw [List.map_map, List.map_map]
    exact List.map_congr_left fun x hx => (h.echoed hx).1.symm
  rw [h.queued.requests, List.map_append, hlabels, h.queued.replies, List.map_append]

/-- The oldest reply under way was given to a request. -/
theorem Run.exists_request_of_replies (h : Run strict d events t) {a : Letter}
    {rest : List Letter} (ha : t.replies = a :: rest) :
    ∃ r, (r, a) ∈ answered events ∧ r ∈ sent events ∧ a.call = r.call ∧ a.call ≤ t.calls := by
  have hmem : a ∈ (answered events).map Prod.snd := by simp [h.queued.replies, ha]
  obtain ⟨⟨r, a'⟩, hx, rfl⟩ := List.mem_map.mp hmem
  have hsent : r ∈ sent events := by
    rw [h.queued.requests]
    exact List.mem_append_left _ (List.mem_map_of_mem hx)
  obtain ⟨hcall, -⟩ := h.echoed hx
  exact ⟨r, hx, hsent, hcall, hcall ▸ (h.numbered.mem_sent hsent).2⟩

theorem Run.length_called (h : Run strict d events t) : (called events).length = t.calls := by
  simpa using congrArg List.length h.numbered.calls

/-- The requests whose replies were not read are those of the replies under way, and the ones
under way. -/
theorem Run.map_call_waiting (h : Run strict d events t) : (waiting events).map Letter.call =
    t.replies.map Letter.call ++ t.requests.map Letter.call := by
  have hlength : (replied events).length = ((replied events).map Letter.call).length :=
    (List.length_map _).symm
  rw [waiting, List.map_drop, h.map_call_sent, List.append_assoc, hlength, List.drop_left]

/-- There are never more calls unanswered than there are calls whose replies were not read. -/
theorem Run.unanswered_le (h : Run strict d events t) :
    unanswered events ≤ (called events).length - (replied events).length := by
  unfold unanswered
  split
  case h_1 => exact Nat.zero_le _
  case h_2 oldest rest hw =>
    have hsplit : (sent events).map Letter.call =
        ((sent events).take (replied events).length).map Letter.call ++
          oldest.call :: rest.map Letter.call := by
      rw [← List.map_cons, ← hw, waiting, ← List.map_append, List.take_append_drop]
    have hlength : (replied events).length ≤ (sent events).length := by
      have := congrArg List.length h.map_call_sent
      simp only [List.length_append, List.length_map] at this
      omega
    have hlt := @length_add_lt_of_pairwise 0 oldest.call
      (((sent events).take (replied events).length).map Letter.call) (rest.map Letter.call)
      (hsplit ▸ h.numbered.ordered) ?_
    · rw [List.length_map, List.length_take] at hlt
      omega
    · intro n hn
      rw [← hsplit] at hn
      obtain ⟨r, hr, rfl⟩ := List.mem_map.mp hn
      exact (h.numbered.mem_sent hr).1

/-- The number of the oldest reply tells whether it is to an earlier call. -/
theorem Run.isEarlier_of_replies (h : Run strict d events t) (hu : unanswered events < 2 ^ 31)
    {a : Letter} {rest : List Letter} (ha : t.replies = a :: rest) :
    isEarlier a.header.sequence t.sequence = decide (a.call < t.calls) := by
  obtain ⟨r, hx, hsent, hcall, hle⟩ := h.exists_request_of_replies ha
  obtain ⟨c, payload, -, hrequest⟩ := h.numbered.requests r hsent
  have hsequence : a.header.sequence = .ofNat a.call := by
    rw [(h.echoed hx).2, hrequest, hcall]
    rfl
  have hwaiting := h.map_call_waiting
  rw [ha, List.map_cons, List.cons_append] at hwaiting
  obtain ⟨oldest, others, hw, holdest, -⟩ := List.map_eq_cons_iff.mp hwaiting
  simp only [unanswered, hw, h.length_called, holdest] at hu
  rw [hsequence, h.numbered.sequence, isEarlier_ofNat hle (by omega)]

/-- The request of the present call was written once. -/
theorem Run.eq_request (h : Run strict d events t) {c : Command} (hp : t.phase = .reading c)
    {r : Letter} (hr : r ∈ sent events) (hn : r.call = t.calls) :
    ∃ payload, r = .request t.calls c payload := by
  obtain ⟨payload, hsent⟩ := h.numbered.reading hp
  have hinj := List.inj_on_of_nodup_map
    (h.numbered.ordered.imp fun hlt => Nat.ne_of_lt hlt : ((sent events).map Letter.call).Nodup)
  exact ⟨payload, hinj hr hsent hn⟩

/-! ## What a call does with it -/

/-- A call drops a reply if it is to an earlier call. -/
theorem Run.drop_of_reading (h : Run strict d events t) (hu : unanswered events < 2 ^ 31)
    {n : Nat} {a : Letter} (hs : Step strict t (.drop n a) t') : n = t.calls ∧ a.call < n := by
  cases hs with
  | drop hp ha he =>
    rw [h.isEarlier_of_replies hu ha, decide_eq_true_iff] at he
    exact ⟨rfl, he⟩

/-- A call returns what the device has said to its own request. -/
theorem Run.finish_of_reading (h : Run strict d events t) (hu : unanswered events < 2 ^ 31)
    {n : Nat} {a : Letter} {result : Except CallError Bytes}
    (hs : Step strict t (.finish n a result) t') :
    n = t.calls ∧ result = .ok a.payload ∧ ∃ r, (r, a) ∈ answered events ∧ r.call = n := by
  cases hs with
  | @finish c _ rest verdict hp ha he =>
    rw [h.isEarlier_of_replies hu ha, decide_eq_false_iff_not, Nat.not_lt] at he
    obtain ⟨r, hx, hsent, hcall, hle⟩ := h.exists_request_of_replies ha
    have hn : r.call = t.calls := hcall ▸ Nat.le_antisymm hle he
    obtain ⟨payload, rfl⟩ := h.eq_request hp hsent hn
    refine ⟨rfl, ?_, _, hx, rfl⟩
    rw [(h.echoed hx).2, h.numbered.sequence]
    exact congrArg Prod.fst (accept_reply strict c (.ofNat t.calls) payload a.payload verdict)

theorem Run.exists_of_concat (h : Run strict d (events ++ [e]) t') :
    ∃ t, Run strict d events t ∧ Step strict t e t' := by
  generalize hl : events ++ [e] = all at h
  cases h with
  | start => simp at hl
  | step before last =>
    obtain ⟨rfl, hlast⟩ := List.append_inj' hl rfl
    obtain rfl := List.singleton_inj.mp hlast
    exact ⟨_, before, last⟩

/-- A run goes through the step of each of its events. -/
theorem Run.exists_step {before after : List Event} (h : Run strict d (before ++ e :: after) t') :
    ∃ t₁ t₂, Run strict d before t₁ ∧ Step strict t₁ e t₂ := by
  induction after using List.reverseRecOn generalizing t' with
  | nil =>
    obtain ⟨t, hrun, hs⟩ := h.exists_of_concat
    exact ⟨t, t', hrun, hs⟩
  | append_singleton after e' ih =>
    rw [← List.cons_append, ← List.append_assoc] at h
    obtain ⟨t, hrun, -⟩ := h.exists_of_concat
    exact ih hrun

/-! ## The loop that awaits a reply -/

/-- One reply less to wait for leaves no more calls unanswered. -/
theorem Run.unanswered_drop (h : Run strict d events t) (n : Nat) (a : Letter) :
    unanswered (events ++ [.drop n a]) ≤ unanswered events := by
  have hcalled : called (events ++ [.drop n a]) = called events := by
    simp [Event.called?]
  have hwaiting : waiting (events ++ [.drop n a]) = (waiting events).tail := by
    simp [waiting, Event.sent?, Event.read?]
  have hordered : ((waiting events).map Letter.call).Pairwise (· < ·) := by
    rw [waiting, List.map_drop]
    exact h.numbered.ordered.drop
  rw [unanswered, unanswered, hcalled, hwaiting]
  match waiting events, hordered with
  | [], _ => exact Nat.le_refl _
  | [oldest], _ => exact Nat.zero_le _
  | oldest :: second :: rest, hordered =>
    have hlt : oldest.call < second.call := (List.pairwise_cons.mp hordered).1 _ (by simp)
    exact Nat.sub_le_sub_left (Nat.le_of_lt hlt) _

/-- The bytes of letters. -/
def bytes (near : Framing) (letters : List Letter) : Bytes :=
  letters.flatMap fun a => near.frame a.header a.payload

/-- What a letter is read as. -/
def Letter.frame (near : Framing) (a : Letter) : Frame :=
  ⟨a.header, a.payload, Segment.verdict near, 0⟩

/-- A reply under way whose payload fits is read as a frame with nothing odd about it. -/
theorem Run.exists_parcel (h : Run strict d events t) {a : Letter} {rest : List Letter}
    (ha : t.replies = a :: rest) {near : Framing} (hf : Fits near a.payload) :
    ∃ p : Parcel near.maxPayload, p.header = a.header ∧ p.payload = a.payload ∧
      p.oddities = [] := by
  obtain ⟨r, hx, -⟩ := h.exists_request_of_replies ha
  obtain ⟨-, he⟩ := h.echoed hx
  have hmagic : a.header.magic = Header.magicWord := by
    rw [he]
    rfl
  have hlength : a.header.length.toNat = a.payload.length := by
    rw [he]
    exact UInt32.toNat_ofNat_of_lt hf.2
  have hchecksum : a.header.checksum = Checksum.ofPayload a.payload := by
    rw [he]
    rfl
  exact ⟨⟨a.header, a.payload, hmagic, hlength, hf.1⟩, rfl, rfl, if_pos hchecksum⟩

/-- The oldest reply under way is read first. -/
theorem Run.read_bytes (h : Run strict d events t) {a : Letter} {rest : List Letter}
    (ha : t.replies = a :: rest) {near : Framing} (hf : Fits near a.payload)
    (letters : List Letter) :
    near.read (bytes near (a :: letters)) = ⟨.frame (a.frame near), bytes near letters, []⟩ := by
  obtain ⟨p, hheader, hpayload, hoddities⟩ := h.exists_parcel ha hf
  have hread := near.read_append p (bytes near letters)
  rwa [hheader, hpayload, hoddities] at hread

/-- What the loop of a call that awaits its reply makes of the replies that have arrived, `later`
being the ones that have not, and the run that this belongs to. Of each reply that is dropped there
is an entry in the log. -/
inductive Sifts (strict : Bool) (d : Device σ τ) (near : Framing) (c : Command)
    (events : List Event) (t : Parties σ τ) (arrived later : List Letter) : Prop
  /-- All are to earlier calls. They are dropped, and no bytes are left. -/
  | starved (late : ∀ a ∈ arrived, a.call < t.calls)
      (loop : awaitReply near c t.sequence (bytes near arrived) =
        ⟨.starved false, [], arrived.map fun a => lateEntry c t.sequence a.header⟩)
      (run : Run strict d (events ++ arrived.map (.drop t.calls)) { t with replies := later })
  /-- Those to earlier calls are dropped up to the reply to the request of the call itself, and
  that is accepted. -/
  | found (dropped : List Letter) (own : Letter) (rest : List Letter)
      (split : arrived = dropped ++ own :: rest) (late : ∀ a ∈ dropped, a.call < t.calls)
      (present : own.call = t.calls) (answer : ∃ r, (r, own) ∈ answered events ∧ r.call = t.calls)
      (loop : awaitReply near c t.sequence (bytes near arrived) =
        ⟨.frame (own.frame near), bytes near rest,
          dropped.map fun a => lateEntry c t.sequence a.header⟩)
      (accepted : (accept strict c t.sequence (own.frame near)).1 = .ok own.payload)
      (run : Run strict d
        (events ++ dropped.map (.drop t.calls) ++ [.finish t.calls own (.ok own.payload)])
        { t with phase := .free, replies := rest ++ later })

/-- Awaiting a reply among the bytes of those that have arrived takes the steps of the run : the
replies to earlier calls are dropped, one by one, and the first other one ends the call. -/
theorem Run.sifts (h : Run strict d events t) (hu : unanswered events < 2 ^ 31) {c : Command}
    (hp : t.phase = .reading c) {near : Framing} {arrived later : List Letter}
    (hr : t.replies = arrived ++ later) (hf : ∀ a ∈ arrived, Fits near a.payload) :
    Sifts strict d near c events t arrived later := by
  induction arrived generalizing t events with
  | nil =>
    refine .starved nofun (awaitReply_of_starved c t.sequence rfl) ?_
    rw [List.map_nil, List.append_nil, ← List.nil_append later, ← hr]
    exact h
  | cons a rest ih =>
    obtain ⟨hfits, hrest⟩ := List.forall_mem_cons.mp hf
    have hread := h.read_bytes hr hfits rest
    have hfinding := congrArg Reading.finding hread
    cases he : isEarlier a.header.sequence t.sequence with
    | true =>
      have drop : Step strict t (.drop t.calls a) { t with replies := rest ++ later } :=
        .drop t hp hr he
      have hlate := (h.drop_of_reading hu drop).2
      have hless := Nat.lt_of_le_of_lt (h.unanswered_drop t.calls a) hu
      have hloop := awaitReply_of_earlier c hfinding he
      rw [hread] at hloop
      cases ih (h.step drop) hless hp rfl hrest with
      | starved late loop run =>
        refine .starved (List.forall_mem_cons.mpr ⟨hlate, late⟩) ?_ (by simpa using run)
        rw [hloop, loop]
        rfl
      | found dropped own rest split late present answer loop accepted run =>
        refine .found (a :: dropped) own rest (by rw [split, List.cons_append])
          (List.forall_mem_cons.mpr ⟨hlate, late⟩) present (by simpa [Event.answered?] using answer)
          ?_ accepted (by simpa using run)
        rw [hloop, loop]
        rfl
    | false =>
      have finish : Step strict t _ _ := .finish t (Segment.verdict near) hp hr he
      obtain ⟨-, hresult, r, hx, hcall⟩ := h.finish_of_reading hu finish
      have hloop := awaitReply_of_not_earlier c hfinding he
      rw [hread] at hloop
      rw [hresult] at finish
      exact .found [] a rest rfl nofun ((h.echoed hx).1.trans hcall) ⟨r, hx, hcall⟩ hloop hresult
        (by simpa using h.step finish)

/-- A call of a client comes to where the parties are : it has the number of their call, its request
is written in time, and the replies that have come by its deadline are whole. -/
structure Makes {δ : Type} (strict : Bool) (t : Parties σ τ) (c : Command) (payload : Bytes)
    (extra : Nat) (arrived : List Letter) (k : Client δ) : Prop where
  /-- The client refuses the same. -/
  strict_eq : k.settings.strict = strict
  /-- It has the number of the call. -/
  sequence_eq : k.sequence + 1 = t.sequence
  /-- Its request is written, and then the replies come. -/
  reached : let deadline := k.line.clock + millis (k.settings.timeout + extra)
    ∃ l, k.line.send deadline
        (k.settings.framing.bursts (.request c t.sequence payload) payload) = (.ok (), l) ∧
      received (l.inlet.takeWhile (·.time ≤ deadline)) = bytes k.settings.framing arrived
  /-- They can be read. -/
  fits : ∀ a ∈ arrived, Fits k.settings.framing a.payload

/-- What a call returns : what the device said to its own request if that reply has arrived, and
else that there is none, or that the link has failed. -/
inductive Returns (events : List Event) (t : Parties σ τ) (arrived : List Letter) :
    Except CallError Bytes → Prop
  | answered (own : Letter) (mem : own ∈ arrived) (present : own.call = t.calls)
      (answer : ∃ r, (r, own) ∈ answered events ∧ r.call = t.calls) :
      Returns events t arrived (.ok own.payload)
  | late (late : ∀ a ∈ arrived, a.call < t.calls) (budget : Nat) :
      Returns events t arrived (.error (.noReply budget))
  | broken (late : ∀ a ∈ arrived, a.call < t.calls) (f : Failure) :
      Returns events t arrived (.error (.link f))

theorem Run.returns (h : Run strict d events t) (hu : unanswered events < 2 ^ 31) {c : Command}
    (hp : t.phase = .reading c) {arrived later : List Letter} (hr : t.replies = arrived ++ later)
    {δ : Type} {k : Client δ} {payload : Bytes} {extra : Nat}
    (hk : Makes strict t c payload extra arrived k) :
    Returns events t arrived (k.exchange c payload extra).1 := by
  obtain ⟨rfl, hsequence, ⟨l, hsend, hreceived⟩, hf⟩ := hk
  rw [← hsequence] at hsend
  cases h.sifts hu hp hr hf with
  | starved late loop run =>
    rw [← hreceived, ← hsequence] at loop
    obtain ⟨stop, l', hreceive⟩ := exists_receive_of_starved loop
    rw [exchange_of_stopped hsend hreceive]
    cases stop with
    | late => exact .late late _
    | failed f => exact .broken late f
  | found dropped own rest split late present answer loop accepted run =>
    rw [← hreceived, ← hsequence] at loop
    obtain ⟨l', hreceive⟩ := exists_receive_of_frame loop
    rw [exchange_of_received hsend hreceive, hsequence, accepted]
    exact .answered own (by simp [split]) present answer

/-! ## Runs -/

/-- What holds of a run. -/
structure Attributed (strict : Bool) (d : Device σ τ) (events : List Event) (t : Parties σ τ) :
    Prop where
  /-- The calls are numbered in order. -/
  calls_numbered : (called events).map Prod.fst = List.range' 1 t.calls
  /-- A request is that of its call, and has its number on the wire, up to overflow. -/
  requests_numbered : ∀ r ∈ sent events, ∃ c payload, (r.call, c, payload) ∈ called events ∧
    r.header = .request c (.ofNat r.call) payload ∧ r.payload = payload
  /-- The device answers each request once, in order. -/
  answered_in_order : sent events =
    (answered events).map Prod.fst ++ t.requests
  /-- A reply has the label and the number of its request, its command with the reply bit, and
  what the device said to it. -/
  echoed : ∀ {before r a after}, events = before ++ .answer r a :: after →
    a.call = r.call ∧ a.header.sequence = r.header.sequence ∧
      a.header.command = r.header.command ||| Command.replyBit ∧
      ∃ t₁, Run strict d before t₁ ∧ ∃ c, (r.call, c, r.payload) ∈ called before ∧
        a.payload = (t₁.device.handle c r.payload).1
  /-- The client reads the replies in order, and loses none. -/
  read_in_order : (answered events).map Prod.snd = replied events ++ t.replies
  /-- A call that does not expire returns what the device said to its own request. -/
  finished : ∀ {before n a result after}, events = before ++ .finish n a result :: after →
    n = (called before).length ∧ result = .ok a.payload ∧
      ∃ r, (r, a) ∈ answered before ∧ r.call = n
  /-- A call drops only replies to earlier calls. -/
  dropped : ∀ {before n a after}, events = before ++ .drop n a :: after →
    n = (called before).length ∧ a.call < n
  /-- Wherever a call awaits its reply, that is what its loop does, whichever of the replies under
  way have arrived. -/
  sifted : ∀ {before after t₁ c near arrived later}, events = before ++ after →
    Run strict d before t₁ → t₁.phase = .reading c → t₁.replies = arrived ++ later →
    (∀ a ∈ arrived, Fits near a.payload) → Sifts strict d near c before t₁ arrived later
  /-- That is what a call of a client returns over any line. -/
  returned : ∀ {before after t₁ c payload extra arrived later} {δ : Type} {k : Client δ},
    events = before ++ after → Run strict d before t₁ → t₁.phase = .reading c →
    t₁.replies = arrived ++ later → Makes strict t₁ c payload extra arrived k →
    Returns before t₁ arrived (k.exchange c payload extra).1

/-- Whenever calls expire, and however long the run is and often the numbers overflow : if
fewer calls are without an answer at any time than half of the numbers on the wire, then each
call that does not expire returns what the device said to its request, and the replies to
earlier calls are dropped. So it is by the steps of the client, and by the loop that reads the bytes
of the replies. -/
theorem Run.attributed (h : Run strict d events t)
    (hu : ∀ before, before <+: events → unanswered before < 2 ^ 31) :
    Attributed strict d events t where
  calls_numbered := h.numbered.calls
  requests_numbered r hr := by
    obtain ⟨c, payload, hc, he⟩ := h.numbered.requests r hr
    rw [he] at hc ⊢
    exact ⟨c, payload, hc, rfl, rfl⟩
  answered_in_order := h.queued.requests
  echoed := by
    rintro before r a after rfl
    obtain ⟨t₁, t₂, hrun, hs⟩ := h.exists_step
    cases hs with
    | @answer _ rest verdict reply d' hr hd =>
      have hsent : r ∈ sent before := by simp [hrun.queued.requests, hr]
      obtain ⟨c, payload, hc, he⟩ := hrun.numbered.requests r hsent
      rw [he, Letter.request, handleFrame_request] at hd
      cases hd
      rw [he] at hc ⊢
      exact ⟨rfl, rfl, rfl, t₁, hrun, c, hc, rfl⟩
  read_in_order := h.queued.replies
  finished := by
    rintro before n a result after rfl
    obtain ⟨t₁, t₂, hrun, hs⟩ := h.exists_step
    rw [hrun.length_called]
    exact hrun.finish_of_reading (hu before (List.prefix_append _ _)) hs
  dropped := by
    rintro before n a after rfl
    obtain ⟨t₁, t₂, hrun, hs⟩ := h.exists_step
    rw [hrun.length_called]
    exact hrun.drop_of_reading (hu before (List.prefix_append _ _)) hs
  sifted := by
    rintro before after t₁ c near arrived later rfl hrun hp hr hf
    exact hrun.sifts (hu before (List.prefix_append _ _)) hp hr hf
  returned := by
    rintro before after t₁ c payload extra arrived later δ k rfl hrun hp hr hk
    exact hrun.returns (hu before (List.prefix_append _ _)) hp hr hk

/-- The reply of a call. -/
def Letter.reply (number : Nat) (c : Command) (payload reply : Bytes) : Letter :=
  ⟨number, .reply (.request c (.ofNat number) payload) reply, reply⟩

/-- There are never more calls unanswered than there are calls. -/
theorem Run.unanswered_le_of_prefix (h : Run strict d events t) {before : List Event}
    (hb : before <+: events) : unanswered before ≤ (called events).length := by
  obtain ⟨after, rfl⟩ := hb
  obtain ⟨t', hrun⟩ : ∃ t', Run strict d before t' := by
    cases after with
    | nil => exact ⟨t, List.append_nil before ▸ h⟩
    | cons e after =>
      obtain ⟨t', -, hrun, -⟩ := h.exists_step
      exact ⟨t', hrun⟩
  have hprefix : (called before).length ≤ (called (before ++ after)).length :=
    ((List.prefix_append before after).filterMap Event.called?).length_le
  have hle := hrun.unanswered_le
  omega

/-- A call expires while its request is under way. When the next call awaits its reply, the reply to
the first one has come before it. -/
theorem exists_run_of_late (strict : Bool) (d : Device σ τ) (c c' : Command)
    (payload payload' : Bytes) :
    let late := Letter.reply 1 c payload (d.handle c payload).1
    let own := Letter.reply 2 c' payload' ((d.handle c payload).2.handle c' payload').1
    ∃ events t, Run strict d events t ∧ t.phase = .reading c' ∧ t.calls = 2 ∧ t.sequence = 2 ∧
      t.replies = [late, own] ∧ .expire ∈ events := by
  intro late own
  have empty : Run strict d [] { device := d } := .start
  have expired := ((empty.step (.call _ c payload rfl)).step (.send _ rfl)).step (.expire _ nofun)
  have asked := (expired.step (.call _ c' payload' rfl)).step (.send _ rfl)
  have answered := (asked.step (.answer _ none rfl (handleFrame_request _ _ _ _ _))).step
    (.answer _ none rfl (handleFrame_request _ _ _ _ _))
  exact ⟨_, _, answered, rfl, rfl, rfl, rfl, by simp⟩

/-- The client asks a device that was just turned on for its state, and the call expires. It then
greets the device over a line on which the reply to the first call comes first. The call drops it
and returns the greeting. -/
theorem attributed_of_late :
    let d := Device.start {} Pins.Bank.board (·.waited)
      (.emulator Handoff.Emulation.usualBudget) {}
    let late := Letter.reply 1 .status [] (d.handle .status []).1
    let own := Letter.reply 2 .hello [] ((d.handle .status []).2.handle .hello []).1
    let k : Client Unit :=
      { settings := { strict := true }
        line := {
          react := fun _ _ far => (([], []), far)
          far := ()
          inlet := [⟨0, bytes {} [late]⟩, ⟨1000, bytes {} [own]⟩] }
        sequence := 1 }
    ∃ events t, Run true d events t ∧
      (∀ before, before <+: events → unanswered before < 2 ^ 31) ∧ .expire ∈ events ∧
      (∃ t', Run true d (events ++ [.drop 2 late, .finish 2 own (.ok own.payload)]) t') ∧
      own.payload = [0, 0, 0, 0, 1, 0, 0, 0, 0x0F, 0, 0, 0] ∧
      (k.exchange .hello [] 0).1 = .ok own.payload := by
  intro d late own k
  obtain ⟨events, t, h, hp, hcalls, hsequence, hr, hexpire⟩ :=
    exists_run_of_late true d .status .hello [] []
  have few : ∀ before, before <+: events → unanswered before < 2 ^ 31 := fun before hb => by
    have hle := h.unanswered_le_of_prefix hb
    rw [h.length_called, hcalls] at hle
    omega
  have held := h.attributed few
  have hr' : t.replies = [late, own] ++ [] := hr
  have hfits : ∀ a ∈ [late, own], Fits {} a.payload :=
    List.forall_mem_cons.mpr ⟨⟨by decide, by decide⟩,
      List.forall_mem_singleton.mpr ⟨by decide, by decide⟩⟩
  have notLate : ¬∀ a ∈ [late, own], a.call < t.calls := fun hl => by
    have hlt : 2 < t.calls := hl own (by simp)
    omega
  refine ⟨events, t, h, few, hexpire, ?_, by decide, ?_⟩
  · cases held.sifted (List.append_nil events).symm h hp hr' hfits with
    | starved hl => exact absurd hl notLate
    | found dropped own' rest split hl present answer loop accepted run =>
      match dropped, split with
      | [], split =>
        obtain ⟨rfl, -⟩ := List.cons.inj split
        cases hcalls.symm.trans present.symm
      | [_], split =>
        cases split
        rw [hcalls, List.append_assoc] at run
        exact ⟨_, run⟩
      | _ :: _ :: dropped, split =>
        have hlength := congrArg List.length split
        simp at hlength
  · have hk : Makes true t .hello [] 0 [late, own] k := by
      refine ⟨rfl, hsequence.symm, ?_, hfits⟩
      have htime : k.line.clock + millis (pauses (k.settings.framing.bursts
          (.request .hello t.sequence []) [])) ≤
          k.line.clock + millis (k.settings.timeout + 0) := by
        rw [Framing.pauses_bursts, Framing.delay_eq_zero rfl rfl]
        exact Nat.le_add_right _ _
      obtain ⟨l, hsend, hinlet⟩ := exists_send_of_silent (fun _ _ _ => rfl) rfl htime
      refine ⟨l, hsend, ?_⟩
      rw [hinlet]
      simp [k, received, bytes, millis]
    generalize hresult : (k.exchange .hello [] 0).1 = result
    cases hresult ▸ held.returned (List.append_nil events).symm h hp hr' hk with
    | answered own' mem present answer =>
      rcases List.mem_pair.mp mem with rfl | rfl
      · cases hcalls.symm.trans present.symm
      · rfl
    | late hl | broken hl => exact absurd hl notLate

end Correspondence

end Coprocessor
