import Coprocessor.Pins.Bank
import Coprocessor.Proofs.Device.Execution

/-!
# Code that can be called

There are two rules for code. What a device accepts has an even length within the limit
(`Upload.Proper.seals`), and what the worker can be asked to run is not empty either
(`Thumb.Core.accepts`). An upload to which no piece comes is accepted, so they differ in one
point : if code is reported to be loaded, a well-formed request to call it is answered as
malformed exactly where the code is empty (`Device.Reachable.answers_call`).

That holds if the runner does not speak of malformed requests itself (`Handoff.Runner.Willing`).
The emulated core does not.
-/

namespace Coprocessor

/-! ## Runners -/

namespace Handoff

variable {σ τ : Type}

/-- A runner never answers that a request is malformed. -/
def Runner.Willing (r : Runner σ τ) : Prop :=
  ∀ cancelled pins t, r.step cancelled pins t ≠ .inl (.error .parameter)

theorem willing_emulator (budget : Nat) (pace : Emulation → Nat) (costs : Costs) :
    (Runner.emulator (σ := σ) budget pace costs).Willing := by
  intro cancelled pins e h
  simp only [Runner.emulator, Emulation.step] at h
  split at h
  · cases h
  split at h
  · cases h
  split at h <;> cases h

/-! ## Jobs that the worker can be asked to do -/

/-- The worker can be asked to do a job. -/
def Job.Acceptable : Job → Prop
  | .code content _ => Thumb.Core.accepts content = true
  | .script _ _ _ => True

namespace Station

variable {s s' : Station σ τ} {job : Job}

/-- Nothing on the way to an answer, nor the answer, is of a malformed request. -/
structure Sound (s : Station σ τ) : Prop where
  /-- The runner does not speak of malformed requests. -/
  runner : s.facility.runner.Willing
  /-- The job in the slot can be done. -/
  job : ∀ job ∈ s.slot.job, job.Acceptable
  /-- The result in the slot is another one. -/
  result : s.slot.result ≠ some (.error .parameter)

theorem Sound.congr (h : s.Sound) (hf : s'.facility = s.facility) (hs : s'.slot = s.slot) :
    s'.Sound :=
  ⟨hf ▸ h.runner, hs ▸ h.job, hs ▸ h.result⟩

theorem Sound.deliver (h : s.Sound) {answer : Answer} (ha : answer ≠ .error .parameter) :
    (s.deliver answer).Sound :=
  ⟨h.runner, h.job, fun hr => ha (Option.some.inj hr)⟩

theorem Sound.takeUp (h : s.Sound) (hj : job.Acceptable) : (s.takeUp job).Sound := by
  cases job with
  | code content arguments =>
    have hj : Thumb.Core.accepts content = true := hj
    rw [Station.takeUp, if_pos hj]
    exact h.congr rfl rfl
  | script content arguments limit =>
    rw [Station.takeUp]
    split
    case h_1 => exact h.congr rfl rfl
    case h_2 cause _ =>
      have told : (s.remark (.rejected cause)).Sound := h.congr rfl rfl
      exact told.deliver (fun h => by cases h)

theorem Sound.conclude (h : s.Sound) (outcome : Script.Outcome) (statements : Nat) :
    (s.conclude outcome statements).Sound := by
  have told : (s.remark (.finished outcome statements)).Sound := h.congr rfl rfl
  simp only [Station.conclude]
  split
  · exact told.deliver (fun h => by cases h)
  · have told' : ((s.remark (.finished outcome statements)).remark (.stopped outcome)).Sound :=
      told.congr rfl rfl
    exact told'.deliver (fun h => by cases h)

theorem Sound.stepTask (h : s.Sound) (task : Task τ) : (s.stepTask task).Sound := by
  cases task with
  | code state =>
    simp only [Station.stepTask]
    split
    case h_1 answer hs => exact h.deliver fun ha => h.runner _ _ _ (ha ▸ hs)
    case h_2 => exact h.congr rfl rfl
  | script code limit registers counter steps began =>
    simp only [Station.stepTask]
    split
    case h_1 outcome m _ =>
      have left : { s with mailbox := m.mailbox, pins := m.pins }.Sound := h.congr rfl rfl
      exact left.conclude _ _
    case h_2 => exact h.congr rfl rfl

/-- The worker takes the job out of the slot. -/
theorem Sound.work (h : s.Sound) : s.work.Sound := by
  cases ht : s.task with
  | some task =>
    rw [work_of_task ht]
    exact h.stepTask task
  | none =>
    cases hc : s.slot.claim? with
    | none =>
      rw [work_of_none ht hc]
      exact h
    | some slot =>
      obtain rfl : slot = s.slot.publish .running := by
        unfold Slot.claim? at hc
        split at hc <;> cases hc
        rfl
      have taken : { s with slot := (s.slot.publish .running).takeJob.2 }.Sound :=
        ⟨h.runner, nofun, h.result⟩
      cases hj : s.slot.job with
      | some job =>
        rw [work_of_claim ht hc hj]
        exact taken.takeUp (h.job job hj)
      | none =>
        rw [work_of_miss ht hc hj]
        exact taken.deliver nofun

theorem Sound.works (h : s.Sound) (hw : s.Works s') : s'.Sound := by
  induction hw with
  | refl => exact h
  | work _ ih => exact ih.work
  | elapse _ _ _ _ _ _ ih => exact ih.congr rfl rfl

/-- A job that can be done is not answered as malformed, whenever the wait for it ends. -/
theorem run_ne_parameter (hb : s.isBusy = false) (hr : s.facility.runner.Willing)
    (hj : job.Acceptable) (budget : Nat) : (s.run job budget).1 ≠ .error .parameter := by
  obtain ⟨remarks, hs⟩ := exists_submit_eq job hb
  have hready : (s.accepting job remarks).Sound :=
    ⟨hr, fun job' hj' => Option.some.inj hj' ▸ hj, nofun⟩
  rw [Station.run, hs]
  generalize s.accepting job remarks = ready at *
  have hacted : (ready.acted budget).Sound := hready.works (works_workUntil _ _)
  -- Either the answer is there when the wait ends, or the job is given up.
  by_cases hd : (ready.acted budget).slot.tag = .done
  · have hcollect : (ready.acted budget).slot.collect.1 = (ready.acted budget).slot.result := by
      rw [Slot.collect, if_pos hd]
      rfl
    dsimp only
    rw [wait_of_some (await_of_done rfl hd), hcollect]
    intro heq
    cases hresult : (ready.acted budget).slot.result with
    | none =>
      rw [hresult] at heq
      cases heq
    | some answer =>
      rw [hresult] at heq
      exact hacted.result (hresult.trans (congrArg some heq))
  · obtain ⟨r, hwait⟩ := exists_wait_eq (await_of_ne_done rfl hd)
    dsimp only
    rw [hwait]
    intro h
    cases h

/-- Code that the worker cannot be asked to run is answered as malformed, and nothing else
happens. -/
theorem answers_unacceptable {content : Bytes} {arguments : Vector Int32 Arguments.codeCount}
    {wait : Nat} (hb : s.isBusy = false) (ht : s.task = none)
    (hc : Thumb.Core.accepts content = false)
    (hd : s.facility.runner.costs.wake ≤ millis wait) :
    s.Answers (.code content arguments) wait (.error .parameter) s.mailbox s.pins := by
  refine answers_of_delivers hb (fun remarks => .inl ?_) (Nat.le_refl _) (by omega)
  have htaken : (s.claimed remarks).takeUp (.code content arguments) =
      (s.claimed remarks).deliver (.error .parameter) := by
    rw [Station.takeUp, hc, if_neg Bool.false_ne_true]
  rw [work_accepting ht, htaken]
  exact delivered_deliver _ (s.claimed remarks)

end Station

end Handoff

/-! ## Requests to call code -/

namespace Device

open Handoff

variable {σ τ : Type} {d : Device σ τ} {values : List Int32}

/-- The reply to the request for information tells that code is loaded. -/
def ReportsCode (d : Device σ τ) : Prop :=
  ∃ flags length size : UInt32, flags &&& 1 = 1 ∧
    (d.handle .info []).1 = (Reply.info flags length size).payload

theorem flags_and_one : d.flags &&& 1 = if d.code.isSealed then 1 else 0 := by
  unfold flags
  cases d.code.isSealed <;> cases d.station.isBusy <;> cases d.programming <;>
    by_cases h : d.station.mailbox.length = 0 <;> simp only [h, if_true, if_false] <;> decide

theorem reportsCode_iff : d.ReportsCode ↔ ∃ content, d.code.content? = some content := by
  rw [← Option.isSome_iff_exists, ← Upload.isSealed]
  constructor
  case mp =>
    rintro ⟨flags, length, size, hone, hreply⟩
    have hfields := (Codec.i32_lossless.append_inj hreply).2
    simp only [Reply.fields, List.append_assoc] at hfields
    have hflags : d.flags = flags := (Codec.u32_lossless.append_inj hfields).1
    have hand := flags_and_one (d := d)
    rw [hflags, hone] at hand
    by_contra hn
    rw [if_neg hn] at hand
    cases hand
  case mpr =>
    intro hs
    exact ⟨_, _, _, by rw [flags_and_one, if_pos hs], rfl⟩

theorem exists_optionalWord (s : Bytes) :
    ∃ word t, Arguments.optionalWord s = (.ok word, t) := by
  cases hd : Codec.u32.decode s with
  | mk result t =>
    cases result with
    | ok word =>
      refine ⟨some word, t, ?_⟩
      rw [Arguments.optionalWord, Decoder.bind_of_ok (Arguments.peek_of_ok hd)]
      exact Decoder.bind_of_ok hd
    | error e =>
      have hpeek : Codec.u32.decode.peek s = (.ok none, s) := by
        rw [Decoder.peek, hd]
        rfl
      refine ⟨none, s, ?_⟩
      rw [Arguments.optionalWord, Decoder.bind_of_ok hpeek]
      rfl

/-- A request with all of its arguments is read, whatever follows them. -/
theorem exists_readField_call (hv : values.length ≤ Arguments.maxCount) (rest : Bytes) :
    ∃ word, readField (withLimit codeArguments) (Arguments.writeAs values .binary ++ rest) =
      .ok (values, word) := by
  have hvalues : codeArguments (Arguments.writeAs values .binary ++ rest) = (.ok values, rest) := by
    rw [codeArguments, Arguments.writeAs.eq_def, List.append_assoc,
      Decoder.bind_of_ok (Codec.u32_lossless.faithful _ _)]
    exact Arguments.decode_words hv rest
  obtain ⟨word, t, hword⟩ := exists_optionalWord rest
  refine ⟨word.getD 0, readField_of_ok (t := t) ?_⟩
  rw [withLimit, Decoder.bind_of_ok hvalues, Decoder.bind_of_ok hword]
  rfl

/-! ## Calls -/

/-- What is said to a well-formed request to call the code that is loaded. -/
structure AnswersCall (d : Device σ τ) (content payload : Bytes) : Prop where
  /-- The code is sealed. -/
  holds : d.code.content? = some content
  /-- Its length is within the limit, and even. -/
  seals : content.length ≤ d.config.codeLimit ∧ content.length % 2 = 0
  /-- The worker can be asked to run it unless it is empty. -/
  accepts : Thumb.Core.accepts content = true ↔ content ≠ []
  /-- If it is not empty, the request is not answered as malformed. -/
  wellFormed : content ≠ [] → ∀ fields,
    (d.handle .exec payload).1 ≠ Reply.statusBytes .parameter ++ fields
  /-- If it is empty, the request is, unless nobody waits until the worker has seen the job. -/
  malformed : content = [] → d.config.timeout ≠ 0 →
    d.station.facility.runner.costs.wake ≤ millis 1 →
      (d.handle .exec payload).1 = Reply.refusal .exec .parameter

/-- Only an answer that the request is malformed is told as such. -/
theorem eq_parameter_of_payloadOf {c : Command} {answer : Answer} {f : Int32 → Reply}
    (hf : ∀ value, (f value).status = .ok) {fields : Bytes}
    (h : Reply.payloadOf c (answer.map f) = Reply.statusBytes .parameter ++ fields) :
    answer = .error .parameter := by
  have hstatus := statusBytes_append_inj ((payloadOf_eq c (answer.map f)).symm.trans h)
  cases answer with
  | ok value =>
    have hvalue : (f value).status = .parameter := hstatus
    rw [hf] at hvalue
    cases hvalue
  | error status => exact congrArg Except.error hstatus

theorem limitOr_pos (h : d.config.timeout ≠ 0) (word : UInt32) : 0 < (d.limitOr word).toNat := by
  refine Nat.pos_of_ne_zero fun h0 => ?_
  have hzero : d.limitOr word = 0 := UInt32.toNat_inj.mp h0
  unfold limitOr at hzero
  split at hzero
  case isTrue => exact h hzero
  case isFalse hw => exact hw hzero

/-- Whatever happened to a device before, if it reports that code is loaded, is not in the
programming mode and runs no job, a request to call the code that has all of its arguments is
answered as malformed only if the code is empty. -/
theorem Reachable.answers_call (h : d.Reachable) (hr : d.station.facility.runner.Willing)
    (hp : d.programming = false) (hb : d.station.isBusy = false) (hc : d.ReportsCode)
    (hv : values.length ≤ Arguments.maxCount) (rest : Bytes) :
    ∃ content, d.AnswersCall content (Arguments.writeAs values .binary ++ rest) := by
  obtain ⟨content, hcontent⟩ := reportsCode_iff.mp hc
  obtain ⟨hlength, heven⟩ := h.stocked.code.seals hcontent
  have haccepts : Thumb.Core.accepts content = true ↔ content ≠ [] := by
    simp [Thumb.Core.accepts, heven]
  obtain ⟨word, hread⟩ := exists_readField_call hv rest
  have hexec : d.answer .exec (Arguments.writeAs values .binary ++ rest) = _ :=
    exec_eq hp hread hcontent hb
  refine ⟨content, hcontent, ⟨hlength, heven⟩, haccepts, fun hne fields hreply => ?_,
    fun hnil ht hw => ?_⟩
  · have hrun := @Station.run_ne_parameter σ τ d.station (.code content (Arguments.padded _ values))
      hb hr (haccepts.mpr hne) (d.limitOr word).toNat
    rw [handle, hexec] at hreply
    exact hrun (eq_parameter_of_payloadOf (fun _ => rfl) hreply)
  · have hempty : Thumb.Core.accepts content = false := by
      rw [hnil]
      rfl
    have htime : d.station.facility.runner.costs.wake ≤ millis (d.limitOr word).toNat :=
      Nat.le_trans hw (Nat.mul_le_mul_left _ (limitOr_pos ht word))
    exact (replies_exec hp hread hcontent hb
      (Station.answers_unacceptable hb (h.task_eq_none hb) hempty htime)).1

/-- Code that adds its arguments is uploaded and called with something behind them. -/
theorem answers_call_of_sum : ∃ d : Device Pins.Bank Emulation, d.Reachable ∧
    d.station.facility.runner.Willing ∧ d.programming = false ∧ d.station.isBusy = false ∧
    d.ReportsCode ∧ d.AnswersCall [0x40, 0x18, 0x70, 0x47]
      (Arguments.writeAs [3, 4] .binary ++ [9]) ∧
    (d.handle .exec (Arguments.writeAs [3, 4] .binary ++ [9])).1 = (Reply.codeValue 7).payload := by
  let content : Bytes := [0x40, 0x18, 0x70, 0x47]
  let fresh := start {} Pins.Bank.board (·.waited) (.emulator 100) {}
  let announced := (fresh.answer .loadBegin (Codec.u32.encode 4)).2
  let sent := (announced.answer .loadData content).2
  let d := (sent.answer .loadEnd (Codec.u32.encode (Checksum.crc32 content))).2
  have hfresh : fresh.Reachable := .start {} _ _ _ _
  have hd : d.Reachable := ((hfresh.answer _ _).answer _ _).answer _ _
  have hholds : d.code.content? = some content := by decide +kernel
  have hreports : d.ReportsCode := reportsCode_iff.mpr ⟨content, hholds⟩
  obtain ⟨content', hcall⟩ :=
    @Reachable.answers_call _ _ d [3, 4] hd (willing_emulator 100 _ _) rfl rfl hreports
      (by decide) [9]
  obtain rfl : content' = content := Option.some.inj (hcall.holds.symm.trans hholds)
  exact ⟨d, hd, willing_emulator 100 _ _, rfl, rfl, hreports, hcall, by decide +kernel⟩

/-- Four bytes of code are announced, none are sent, and the upload is verified. The device says
that all is well and reports that code is loaded, and it answers a call as malformed. -/
theorem refuses_call_of_nothing : ∃ d : Device Pins.Bank Emulation, d.Reachable ∧
    Succeeds (uploadRequests .code 4 [] 0)
      (start {} Pins.Bank.board Pins.Bank.waited (.emulator Emulation.usualBudget) {}) d ∧
    d.programming = false ∧ d.station.isBusy = false ∧ d.ReportsCode ∧
    (d.handle .exec (Arguments.writeAs [] .binary ++ Codec.u32.encode 100)).1 =
      Reply.refusal .exec .parameter := by
  let fresh := start {} Pins.Bank.board Pins.Bank.waited (.emulator Emulation.usualBudget) {}
  let announced := (fresh.answer .loadBegin (Codec.u32.encode 4)).2
  let d := (announced.answer .loadEnd (Codec.u32.encode 0)).2
  have hfresh : fresh.Reachable := .start {} _ _ _ _
  have hd : d.Reachable := (hfresh.answer _ _).answer _ _
  have hu : Succeeds (uploadRequests .code 4 [] 0) fresh d := .cons rfl rfl (.cons rfl rfl .nil)
  have hreports : d.ReportsCode := reportsCode_iff.mpr ⟨[], by decide +kernel⟩
  exact ⟨d, hd, hu, rfl, rfl, hreports, by decide +kernel⟩

end Device

end Coprocessor
