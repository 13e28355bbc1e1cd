import Coprocessor.Pins.Bank
import Coprocessor.Proofs.Device.Reachable
import Coprocessor.Proofs.Device.Uploading
import Coprocessor.Proofs.Handoff.Completion
import Coprocessor.Proofs.Script.Listing
import Coprocessor.Proofs.Wire.Section

/-!
# What is uploaded is what runs

A script that a device accepts runs as on a machine of its own : from the mailbox and the
pins as they are, with the first sixteen arguments in the registers. Code that it accepts
runs as on a core of its own, with the first eight. It does not matter how the content was
cut, in which form the arguments come, or what earlier jobs, cancellations and results
nobody collected have left behind (`Device.runs_uploaded`). Nor does it matter how long a
statement or an instruction takes, as long as the wait for the job is not over. The board may
be one that logs its uses (`Pins.Board.logged`), so the pins are also used in the same way.
-/

namespace Coprocessor

open Handoff

namespace Device

variable {σ τ : Type}

/-! ## Requests to run are read -/

/-- A time limit as it is sent, nothing if it is left out. -/
def limitBytes : Option UInt32 → Bytes
  | none => []
  | some limit => Codec.u32.encode limit

theorem optionalWord_limitBytes (limit : Option UInt32) :
    Arguments.optionalWord (limitBytes limit) = (.ok limit, []) := by
  cases limit with
  | none => rfl
  | some limit =>
    have hd := Codec.u32_lossless.faithful limit []
    rw [List.append_nil] at hd
    rw [limitBytes, Arguments.optionalWord, Decoder.bind_of_ok (Arguments.peek_of_ok hd)]
    exact Decoder.bind_of_ok hd

theorem readField_withLimit {α : Type} {x : Decoder α} {s : Bytes} {a : α} {limit : Option UInt32}
    (h : x (s ++ limitBytes limit) = (.ok a, limitBytes limit)) :
    readField (withLimit x) (s ++ limitBytes limit) = .ok (a, limit.getD 0) := by
  refine readField_of_ok (t := []) ?_
  rw [withLimit, Decoder.bind_of_ok h, Decoder.bind_of_ok (optionalWord_limitBytes limit)]
  rfl

variable {values : List Int32} {limit : Option UInt32}

theorem readField_arguments (hv : values.length ≤ Arguments.maxCount) (form : Arguments.Form)
    (limit : Option UInt32) :
    readField (withLimit Arguments.read) (Arguments.write values form ++ limitBytes limit) =
      .ok (⟨Arguments.formFor values form, values⟩, limit.getD 0) :=
  readField_withLimit (Arguments.read_write hv form _)

theorem readField_codeArguments (hv : values.length ≤ Arguments.maxCount)
    (limit : Option UInt32) :
    readField (withLimit codeArguments) (Arguments.writeAs values .binary ++ limitBytes limit) =
      .ok (values, limit.getD 0) := by
  refine readField_withLimit ?_
  rw [codeArguments, Arguments.writeAs.eq_def, List.append_assoc,
    Decoder.bind_of_ok (Codec.u32_lossless.faithful _ _)]
  exact Arguments.decode_words hv _

/-! ## Requests to run are carried out -/

variable {d d' : Device σ τ} {content payload : Bytes}

theorem exec_eq {word : UInt32} (hp : d.programming = false)
    (hr : readField (withLimit codeArguments) payload = .ok (values, word))
    (hc : d.code.content? = some content) (hb : d.station.isBusy = false) :
    let ran := d.station.run (.code content (Arguments.padded _ values)) (d.limitOr word).toNat
    d.exec payload = (ran.1.map .codeValue, { d with station := ran.2, execState := .done }) := by
  simp only [exec, hp, hr, hc, hb, Bool.false_eq_true, if_false]

theorem scriptExec_eq {form : Arguments.Form} {word : UInt32} (hp : d.programming = false)
    (hr : readField (withLimit Arguments.read) payload = .ok (⟨form, values⟩, word))
    (hc : d.script.content? = some content) (hb : d.station.isBusy = false) :
    let ran := d.station.run
      (.script content (values.take Arguments.scriptCount) (d.limitOr word))
      ((d.limitOr word).toNat + scriptSlack)
    d.scriptExec payload = (ran.1.map .value, { d with station := ran.2 }) := by
  simp only [scriptExec, hp, hr, hc, hb, Bool.false_eq_true, if_false]

/-- The device replies to a request in some way, and leaves a mailbox and pins. -/
def Replies (d : Device σ τ) (c : Command) (payload reply : Bytes) (mailbox : Mailbox)
    (pins : σ) : Prop :=
  (d.handle c payload).1 = reply ∧ (d.handle c payload).2.station.mailbox = mailbox ∧
    (d.handle c payload).2.station.pins = pins

/-- Whatever script is uploaded, it is refused as no program, or its runs are those of the
machine : if a run comes to an end of its own before the wait for it is over, the device
replies with the value of the run and is left with its mailbox and its pins. The wait lasts for
the time limit and the slack; the worker has to see the job, and then each statement takes its
time. -/
def RunsScripts (d : Device σ τ) : Prop :=
  ∀ (total expected : UInt32) (pieces : List Bytes) (d' : Device σ τ),
    Succeeds (uploadRequests .script total pieces expected) d d' →
  ∀ (values : List Int32) (form : Arguments.Form) (timeout : Option UInt32),
    values.length ≤ Arguments.maxCount →
  let s := d.station
  let request := Arguments.write values form ++ limitBytes timeout
  let limit := d.limitOr (timeout.getD 0)
  let wait := millis (limit.toNat + scriptSlack)
  (∀ e, Script.Program.parse s.facility.limits pieces.flatten = .error e →
    s.facility.runner.costs.wake ≤ wait →
    d'.Replies .scriptExec request (Reply.refusal .scriptExec .execution) s.mailbox s.pins) ∧
  (∀ program, Script.Program.parse s.facility.limits pieces.flatten = .ok program →
    let code := program.instructions
    let first := Script.Run.start (.load (values.take Arguments.scriptCount) s.mailbox s.pins)
    ∀ fuel outcome m,
      first.finish s.facility.board code limit (s.facility.watch code first) fuel =
        some (outcome, m) →
      outcome.ending.isSuccess = true →
      s.facility.runner.costs.wake + (s.facility.laps code first outcome.steps).1 ≤ wait →
      d'.Replies .scriptExec request (Reply.value outcome.value).payload m.mailbox m.pins)

/-- Whatever code is uploaded, a call of it that ends before the wait for it is over returns
what a core with a budget of instructions returns. The worker has to see the job, and then each
instruction takes its time. -/
def RunsCode (budget : Nat) (d : Device σ Emulation) : Prop :=
  ∀ (total expected : UInt32) (pieces : List Bytes) (d' : Device σ Emulation),
    Succeeds (uploadRequests .code total pieces expected) d d' →
  ∀ (values : List Int32) (timeout : Option UInt32), values.length ≤ Arguments.maxCount →
  let arguments := Arguments.padded Arguments.codeCount values
  let runner := d.station.facility.runner
  runner.costs.wake + Emulation.laps runner.pace pieces.flatten.toArray budget (.start arguments) ≤
      millis (d.limitOr (timeout.getD 0)).toNat →
  d'.Replies .exec (Arguments.writeAs values .binary ++ limitBytes timeout)
    (Reply.payloadOf .exec
      ((Thumb.Core.invoke pieces.flatten arguments (fun _ => false) budget).map .codeValue))
    d.station.mailbox d.station.pins

/-- A request to run a script is answered as the station answers the job. -/
theorem replies_scriptExec {form : Arguments.Form} {word : UInt32} {answer : Answer}
    {mailbox : Mailbox} {pins : σ} (hp : d.programming = false)
    (hr : readField (withLimit Arguments.read) payload = .ok (⟨form, values⟩, word))
    (hc : d.script.content? = some content) (hb : d.station.isBusy = false)
    (hrun : d.station.Answers
      (.script content (values.take Arguments.scriptCount) (d.limitOr word))
      ((d.limitOr word).toNat + scriptSlack) answer mailbox pins) :
    d.Replies .scriptExec payload (Reply.payloadOf .scriptExec (answer.map .value)) mailbox pins := by
  obtain ⟨rfl, rfl, rfl⟩ := hrun
  have he : d.answer .scriptExec payload = _ := scriptExec_eq hp hr hc hb
  rw [Replies, handle, he]
  exact ⟨rfl, rfl, rfl⟩

/-- A request to run code is answered as the station answers the job. -/
theorem replies_exec {word : UInt32} {answer : Answer} {mailbox : Mailbox} {pins : σ}
    (hp : d.programming = false)
    (hr : readField (withLimit codeArguments) payload = .ok (values, word))
    (hc : d.code.content? = some content) (hb : d.station.isBusy = false)
    (hrun : d.station.Answers (.code content (Arguments.padded _ values))
      (d.limitOr word).toNat answer mailbox pins) :
    d.Replies .exec payload (Reply.payloadOf .exec (answer.map .codeValue)) mailbox pins := by
  obtain ⟨rfl, rfl, rfl⟩ := hrun
  have he : d.answer .exec payload = _ := exec_eq hp hr hc hb
  rw [Replies, handle, he]
  exact ⟨rfl, rfl, rfl⟩

theorem runsScripts_of_reachable (h : Reachable d) (hb : d.station.isBusy = false)
    (hp : d.programming = false) : d.RunsScripts := by
  intro total expected pieces d' hu values form timeout hv
  obtain ⟨hcontent, hstation, hconfig, hp'⟩ := hu.content hp
  have ht := h.task_eq_none hb
  have hread := readField_arguments hv form timeout
  have hlimit : d.limitOr (timeout.getD 0) = d'.limitOr (timeout.getD 0) := by
    rw [limitOr, limitOr, hconfig]
  rw [← hstation] at hb ht ⊢
  rw [hlimit]
  refine ⟨fun e he htime => ?_, fun program hparse => ?_⟩
  · exact replies_scriptExec hp' hread hcontent hb (Station.answers_rejected hb ht he htime)
  · intro code first fuel outcome m hfinish hs htime
    have hrun := Station.answers_script hb ht hparse rfl hfinish htime
    rw [Answer.ofOutcome, if_pos hs] at hrun
    exact replies_scriptExec hp' hread hcontent hb hrun

theorem runsCode_of_reachable {d : Device σ Emulation} {budget : Nat} {pace : Emulation → Nat}
    {costs : Costs} (h : Reachable d) (hb : d.station.isBusy = false) (hp : d.programming = false)
    (hr : d.station.facility.runner = .emulator budget pace costs) : d.RunsCode budget := by
  intro total expected pieces d' hu values timeout hv arguments runner htime
  obtain ⟨hcontent, hstation, hconfig, hp'⟩ := hu.content hp
  have ht := h.task_eq_none hb
  have hread := readField_codeArguments hv timeout
  have hrunner : runner = .emulator budget pace costs := hr
  rw [hrunner] at htime
  rw [← hstation] at hb ht hr ⊢
  refine replies_exec hp' hread hcontent hb (Station.answers_code hb ht hr ?_)
  rw [limitOr, hconfig]
  exact htime

/-- Whatever happened to a device before, if it runs no job and is not in the programming mode,
what is uploaded to it is what runs. -/
theorem runs_uploaded :
    (∀ d : Device σ τ, Reachable d → d.station.isBusy = false → d.programming = false →
      d.RunsScripts) ∧
    (∀ (d : Device σ Emulation) (budget : Nat) (pace : Emulation → Nat) (costs : Costs),
      Reachable d → d.station.isBusy = false → d.programming = false →
      d.station.facility.runner = .emulator budget pace costs → d.RunsCode budget) :=
  ⟨fun _ h hb hp => runsScripts_of_reachable h hb hp,
    fun _ _ _ _ h hb hp hr => runsCode_of_reachable h hb hp hr⟩

/-- A device whose cancel flag is raised, and whose worker is slow, adds three and four, by a
script and by code. -/
theorem replies_of_sum :
    let runner := Runner.emulator 100 (fun _ => 250000)
      { wake := 2000000, statement := fun n => 500000 * (n + 1) }
    let d : Device Pins.Bank Emulation :=
      (answer .cancel [] (.start {} Pins.Bank.board (·.waited) runner {})).2
    let script := Bytes.ofText "ADD R0 R1; RET R0"
    let code := [0x40, 0x18, 0x70, 0x47]
    (∃ d' mailbox pins, Succeeds (uploadRequests .script 17 [script] 0xFFFFFFFF) d d' ∧
      d'.Replies .scriptExec (Arguments.write [3, 4] .ascii ++ limitBytes none)
        (Reply.value 7).payload mailbox pins) ∧
    ∃ d' mailbox pins, Succeeds (uploadRequests .code 4 [code] (Checksum.crc32 code)) d d' ∧
      d'.Replies .exec (Arguments.writeAs [3, 4] .binary ++ limitBytes (some 5))
        (Reply.codeValue 7).payload mailbox pins := by
  intro runner d script code
  have hd : Reachable d := (Reachable.start {} _ _ _ _).answer .cancel []
  obtain ⟨hscripts, hcodes⟩ := @runs_uploaded Pins.Bank Emulation
  constructor
  · obtain ⟨x, hu⟩ := @succeeds_script _ _ d 17 0xFFFFFFFF [script] rfl rfl (by decide +kernel) rfl
      (by decide +kernel) (Or.inl rfl)
    obtain ⟨-, hrun⟩ := hscripts d hd rfl rfl _ _ _ _ hu [3, 4] .ascii none (by decide)
    let f := d.station.facility
    let first := Script.Run.start (.load [3, 4] d.station.mailbox d.station.pins)
    obtain ⟨program, hp, hends⟩ := @Script.exists_program_of_any f.limits script (fun program =>
        (first.finish f.board program.instructions 1000 (f.watch program.instructions first) 3).any
            (·.1 = ⟨7, .returned, 2⟩) &&
          (f.laps program.instructions first 2).1 = 500000) (by decide +kernel)
    obtain ⟨hfinish, hlaps⟩ := Bool.and_eq_true_iff.mp hends
    obtain ⟨⟨outcome, m⟩, hfinish, ho⟩ := (Option.any_eq_true _ _).mp hfinish
    obtain rfl : outcome = ⟨7, .returned, 2⟩ := of_decide_eq_true ho
    have htime : runner.costs.wake + (f.laps program.instructions first 2).1 ≤
        millis (1000 + scriptSlack) := by
      rw [of_decide_eq_true hlaps]
      decide
    exact ⟨_, _, _, hu, hrun program hp 3 _ m hfinish rfl htime⟩
  · have hvalue : Reply.payloadOf .exec ((Thumb.Core.invoke code (Arguments.padded 8 [3, 4])
        (fun _ => false) 100).map .codeValue) = (Reply.codeValue 7).payload := by
      decide +kernel
    obtain ⟨x, hu⟩ := @succeeds_code _ _ d 4 [code] rfl rfl (by decide +kernel) rfl
      (by decide +kernel) (by decide +kernel)
    have hreplies := hcodes d 100 _ _ hd rfl rfl rfl _ _ _ _ hu [3, 4] (some 5) (by decide)
      (by decide +kernel)
    rw [← hvalue]
    exact ⟨_, _, _, hu, hreplies⟩

end Device

end Coprocessor
