import Coprocessor.Pins.Bank
import Coprocessor.Proofs.Device.Reachable
import Coprocessor.Proofs.Device.Twins
import Coprocessor.Proofs.Handoff.Gear

/-!
# A reset is as good as new

A device has a past (`Device.Aged`) : uploads, jobs that were abandoned, results that nobody has
collected, texts in the mailbox, a raised flag. A request to reset is refused while a job waits
or runs. When it is granted, the device becomes the twin of one that was turned on just now, with
the settings, the functions and the pins of the old one (`Device.Aged.twins_of_reset`). So
nothing of the past shows in what it says to later requests, or in how it uses the pins
(`Device.Aged.renews`). The board may be one that logs its uses (`Pins.Board.logged`); then the
states of the pins tell of every use.
-/

namespace Coprocessor

open Handoff

variable {σ τ : Type}

theorem Upload.Proper.free_eq {u : Upload} {kind : Upload.Kind} {limit : Nat}
    (h : u.Proper kind limit) : u.free = .empty kind limit := by
  rw [Upload.free, h.kind_eq, h.limit_eq]
  rfl

namespace Device

variable {d d' : Device σ τ}

/-! ## Devices with a past -/

/-- A device that some history of requests, turns of the worker and time leads to. Others may
write to the mailbox, whose buffer is as large as ever, and use the pins. They may add functions
that use the mailbox as a text. -/
inductive Aged : Device σ τ → Prop
  | start (config : Config) (board : Pins.Board σ) (waited : σ → Nat) (runner : Runner σ τ)
    (pins : σ) : Aged (.start config board waited runner pins)
  | answer {d : Device σ τ} (h : Aged d) (c : Command) (payload : Bytes) :
    Aged (d.answer c payload).2
  | work {d : Device σ τ} (h : Aged d) : Aged { d with station := d.station.work }
  | pass {d : Device σ τ} (h : Aged d) (time : Nat) :
    Aged { d with station := d.station.passTo time }
  | touch {d : Device σ τ} (h : Aged d) (mailbox : Mailbox) (pins : σ)
    (hm : mailbox.capacity = d.station.mailbox.capacity) :
    Aged { d with station := { d.station with mailbox := mailbox, pins := pins } }
  | equip {d : Device σ τ} (h : Aged d) (functions : FunctionTable σ) (memory : Nat → Bool)
    (hf : ∀ f ∈ functions, f.Discreet) :
    Aged { d with functions := functions, memory := memory }
  | log {d : Device σ τ} (h : Aged d) : Aged d.takeEntries.2

/-- What is true of all reachable devices is true of those with a past. -/
theorem Aged.reachable (h : d.Aged) : d.Reachable := by
  induction h with
  | start config board waited runner pins => exact .start config board waited runner pins
  | answer h c payload ih => exact ih.answer c payload
  | work h ih => exact ih.work
  | pass h time ih => exact ih.pass time
  | touch h mailbox pins hm ih => exact ih.touch mailbox pins
  | equip h functions memory hf ih => exact ih.equip functions memory
  | log h ih => exact ih.log

/-- Where no job waits or runs, no task is left of the jobs before. -/
theorem Aged.rested (h : d.Aged) : d.station.Rested :=
  h.reachable.task_eq_none

theorem Effect.functions_eq (h : Effect d d') : d'.functions = d.functions := by
  cases h with
  | announces kind | appends kind | verifies kind => cases kind <;> rfl
  | uses | cancels | runs | clears | programs | leaves => rfl

/-- The functions that were added use the mailbox as a text. -/
theorem Aged.discreet (h : d.Aged) : ∀ f ∈ d.functions, f.Discreet := by
  induction h with
  | start config board waited runner pins => exact FunctionTable.discreet_builtin board
  | answer h c payload ih =>
    rw [(effect_answer c payload).functions_eq]
    exact ih
  | work h ih | pass h time ih | touch h mailbox pins hm ih | log h ih => exact ih
  | equip h functions memory hf ih => exact hf

/-! ## What requests leave as it is -/

theorem gear_exec (payload : Bytes) : (d.exec payload).2.station.gear = d.station.gear := by
  unfold exec
  split
  · rfl
  split
  · rfl
  split
  · rfl
  split
  · rfl
  · exact Station.gear_run _ _ _

theorem gear_scriptExec (payload : Bytes) :
    (d.scriptExec payload).2.station.gear = d.station.gear := by
  unfold scriptExec
  split
  · rfl
  split
  · rfl
  split
  · rfl
  split
  · rfl
  · exact Station.gear_run _ _ _

theorem gear_call (hf : ∀ f ∈ d.functions, f.Discreet) (payload : Bytes) :
    (d.call payload).2.station.gear = d.station.gear := by
  unfold call
  split
  case isTrue => rfl
  case isFalse =>
  split
  case h_1 => rfl
  case h_2 name arguments _ =>
  rcases FunctionTable.call_of_alike hf name arguments (.refl d.station.mailbox) d.station.pins
    with ⟨e, he, -⟩ | ⟨value, w, _, pins, he, -, -, hw⟩
  · rw [he]
  · rw [he]
    exact Prod.ext rfl (Prod.ext rfl hw)

/-- Requests leave a station what it has for good. -/
theorem gear_answer (hf : ∀ f ∈ d.functions, f.Discreet) (c : Command) (payload : Bytes) :
    (d.answer c payload).2.station.gear = d.station.gear := by
  have hupload : ∀ kind, IsUpload kind c →
      (d.answer c payload).2.station.gear = d.station.gear := fun kind hc =>
    congrArg Station.gear (answer_station hc payload d d.station).2
  cases c with
  | hello | info | status | mailboxRead | cancel | ispExit => rfl
  | loadBegin => exact hupload .code (.inl rfl)
  | loadData => exact hupload .code (.inr (.inl rfl))
  | loadEnd => exact hupload .code (.inr (.inr rfl))
  | scriptBegin => exact hupload .script (.inl rfl)
  | scriptData => exact hupload .script (.inr (.inl rfl))
  | scriptEnd => exact hupload .script (.inr (.inr rfl))
  | exec => exact gear_exec payload
  | scriptExec => exact gear_scriptExec payload
  | func => exact gear_call hf payload
  | reset =>
    simp only [answer, reset]
    split <;> rfl
  | ispEnter =>
    simp only [answer, enterProgramming]
    split <;> rfl

/-! ## A device turned on anew -/

/-- A device that was turned on just now, with the settings, the functions and the pins of an
old one. -/
def renewed (d : Device σ τ) : Device σ τ :=
  { start d.config d.station.facility.board d.station.facility.waited d.station.facility.runner
      d.station.pins with
    functions := d.functions
    memory := d.memory }

theorem Aged.renewed (h : d.Aged) : d.renewed.Aged :=
  (Aged.start _ _ _ _ _).equip d.functions d.memory h.discreet

/-- What the stations have for good stays the same as long as the settings and what the old
station has do. -/
theorem gear_renewed_of_eq (h : d.renewed.station.gear = d.station.gear)
    (hc : d'.config = d.config) (hg : d'.station.gear = d.station.gear) :
    d'.renewed.station.gear = d'.station.gear := by
  have hfacility : d'.station.facility = d.station.facility := congrArg Prod.fst hg
  rw [hg, ← h]
  simp only [Device.renewed, start, Station.gear, hc, hfacility]

/-- What a station has for good, it has by the settings. -/
theorem Aged.gear_renewed (h : d.Aged) : d.renewed.station.gear = d.station.gear := by
  induction h with
  | start config board waited runner pins => rfl
  | @answer d h c payload ih =>
    have kept := (effect_answer c payload).stocked h.reachable.stocked
    exact gear_renewed_of_eq ih kept.config_eq (gear_answer h.discreet c payload)
  | @work d h ih => exact gear_renewed_of_eq ih rfl d.station.gear_work
  | @pass d h time ih => exact gear_renewed_of_eq ih rfl (d.station.gear_passTo time)
  | touch h mailbox pins hm ih =>
    exact gear_renewed_of_eq ih rfl (Prod.ext rfl (Prod.ext rfl hm))
  | equip h functions memory hf ih => exact ih
  | log h ih => exact gear_renewed_of_eq ih rfl rfl

/-- A reset is granted if no job waits or runs. -/
theorem isBusy_of_reset {payload : Bytes} (hr : IsOk (d.handle .reset payload).1) :
    d.station.isBusy = false := by
  cases hb : d.station.isBusy with
  | false => rfl
  | true =>
    have hanswer : d.reset.1 = .error .state := by
      have hcancel : d.station.cancel.isBusy = true := hb
      simp only [reset, hcancel, if_true]
    have hstatus := statusOf_of_isOk (c := .reset) (x := d.reset.1) hr
    rw [hanswer] at hstatus
    cases hstatus

theorem reset_of_idle (hb : d.station.isBusy = false) : d.reset = (.ok .cleared,
    { d with
      code := d.code.free
      script := d.script.free
      station := { d.station.cancel with mailbox := d.station.mailbox.clear }
      execState := .idle
      programming := false }) := by
  have hcancel : d.station.cancel.isBusy = false := hb
  simp only [reset, hcancel, Bool.false_eq_true, if_false]
  rfl

/-- When a reset is granted the device is the twin of one that was turned on anew. -/
theorem Aged.twins_of_reset (h : d.Aged) {payload : Bytes}
    (hr : IsOk (d.handle .reset payload).1) : (d.handle .reset payload).2.Twins d.renewed := by
  have hb := isBusy_of_reset hr
  have hgear := h.gear_renewed
  have hstocked := h.reachable.stocked
  have hreset : (d.handle .reset payload).2 = d.reset.2 := rfl
  rw [hreset, reset_of_idle hb]
  refine ⟨⟨congrArg Prod.fst hgear, congrArg (·.2.1) hgear, ⟨congrArg (·.2.2) hgear, rfl⟩, rfl,
    hb.symm, fun hb' => absurd hb' (Bool.eq_false_iff.mp hb)⟩, ?_⟩
  rw [hstocked.code.free_eq, hstocked.script.free_eq]
  rfl

/-! ## Later requests -/

/-- The device after a pause, in nanoseconds. -/
def after (pause : Nat) (d : Device σ τ) : Device σ τ :=
  { d with station := d.station.passTo (d.station.clock + pause) }

/-- The replies of a device to requests with pauses before them, each with the pins after it. -/
def attend (pauses : Nat → Nat) : List (Command × Bytes) → Device σ τ → List (Bytes × σ)
  | [], _ => []
  | (c, payload) :: requests, d =>
    let (reply, d) := (d.after (pauses 0)).handle c payload
    (reply, d.station.pins) :: attend (fun n => pauses (n + 1)) requests d

/-- Each job ends before the device replies to the request that submits it. -/
def Timely (pauses : Nat → Nat) : List (Command × Bytes) → Device σ τ → Prop
  | [], _ => True
  | (c, payload) :: requests, d =>
    let d := ((d.after (pauses 0)).handle c payload).2
    d.station.isBusy = false ∧ Timely (fun n => pauses (n + 1)) requests d

theorem Aged.after (h : d.Aged) (pause : Nat) : (d.after pause).Aged :=
  h.pass _

theorem Aged.handle (h : d.Aged) (c : Command) (payload : Bytes) : (d.handle c payload).2.Aged :=
  h.answer c payload

theorem Twins.handle (h : d.Twins d') (hd : d.Aged) (hd' : d'.Aged) (c : Command)
    (payload : Bytes) : (d'.handle c payload).1 = (d.handle c payload).1 ∧
      (d.handle c payload).2.Twins (d'.handle c payload).2 := by
  obtain ⟨hanswer, hafter⟩ := h.answer hd.rested hd'.rested hd.discreet c payload
  exact ⟨congrArg (Reply.payloadOf c) hanswer, hafter⟩

/-- Twins stay twins over the same pause, and over any pauses while no job waits or runs. -/
theorem Twins.after (h : d.Twins d') {pause pause' : Nat}
    (hp : pause = pause' ∨ d'.station.isBusy = false) :
    (d.after pause).Twins (d'.after pause') := by
  refine ⟨?_, ?_⟩
  · rcases hp with rfl | hb
    · exact h.level.pause pause
    · exact h.level.of_idle (h.level.isBusy.symm.trans hb) _ _
  · rw [Device.after, Device.after, h.eq]

/-- Twins say the same to later requests that come at the same pace, or at any pace if each job
ends in time. -/
theorem Twins.attend (h : d.Twins d') (hd : d.Aged) (hd' : d'.Aged) (pauses pauses' : Nat → Nat)
    (requests : List (Command × Bytes))
    (hp : pauses = pauses' ∨ d'.station.isBusy = false ∧ Timely pauses' requests d') :
    d.attend pauses requests = d'.attend pauses' requests := by
  -- Each device has a past of its own, so the induction is over all twins.
  induction requests generalizing d d' pauses pauses' with
  | nil => rfl
  | cons request requests ih =>
    obtain ⟨c, payload⟩ := request
    have hfirst : pauses 0 = pauses' 0 ∨ d'.station.isBusy = false :=
      hp.imp (congrFun · 0) And.left
    obtain ⟨hreply, hafter⟩ :=
      (h.after hfirst).handle (hd.after (pauses 0)) (hd'.after (pauses' 0)) c payload
    have hrest := ih hafter ((hd.after _).handle c payload) ((hd'.after _).handle c payload)
      (fun n => pauses (n + 1)) (fun n => pauses' (n + 1))
      (hp.imp (fun heq => by rw [heq]) And.right)
    simp only [Device.attend, hreply, hafter.level.pins, hrest]

/-- After a reset that is granted, whatever happened before, a device replies to requests and
uses the pins like one that was turned on just now : if the requests come at the same pace, even
where jobs are given up, and at any pace if each job ends in time. -/
theorem Aged.renews (h : d.Aged) {payload : Bytes} (hr : IsOk (d.handle .reset payload).1)
    (requests : List (Command × Bytes)) (pauses : Nat → Nat) :
    (d.handle .reset payload).2.attend pauses requests = d.renewed.attend pauses requests ∧
      ∀ pauses', Timely pauses' requests d.renewed →
        (d.handle .reset payload).2.attend pauses requests =
          d.renewed.attend pauses' requests := by
  have htwins := h.twins_of_reset hr
  have hafter := h.handle .reset payload
  exact ⟨htwins.attend hafter h.renewed pauses pauses requests (.inl rfl), fun pauses' ht =>
    htwins.attend hafter h.renewed pauses pauses' requests (.inr ⟨rfl, ht⟩)⟩

/-- The requests of an upload of a script that writes a pin and a text, and then its run, the
text and an attempt to run code. -/
def trial : List (Command × Bytes) :=
  let script := Bytes.ofText "DWRITE 13 1; PRINT \"new\"; RET R3"
  uploadRequests .script (.ofNat script.length) [script] 0xFFFFFFFF ++
    [(.scriptExec, Codec.u32.encode 0), (.mailboxRead, Codec.u32.encode 8), (.info, []),
      (.exec, Codec.u32.encode 0)]

/-- A device is as good as new that has given up on code which does not heed the cancel flag, and
whose result nobody has collected : the flag is up, the mailbox holds a text and the programming
mode is on. -/
theorem renews_of_veteran : ∃ d : Device (Pins.Bank × List Pins.Use) Nat, d.Aged ∧
    d.code.content? = some [0, 0] ∧ d.station.mailbox.text = [0x6F, 0x6C, 0x64] ∧
    d.programming = true ∧ d.station.slot.cancelled = true ∧
    d.station.slot.tag = .done ∧
    (d.handle .reset []).2.attend (fun _ => 5) trial = d.renewed.attend (fun _ => 0) trial := by
  let runner : Runner (Pins.Bank × List Pins.Use) Nat :=
    { start := fun _ _ => 2
      step := fun _ _ n => if n = 0 then .inl (.ok 7) else .inr (n - 1)
      pace := fun _ => 1000000000 }
  let fresh := start {} Pins.Bank.board.logged (·.1.waited) runner ({}, [])
  have haged : fresh.Aged := .start {} _ _ _ _
  have used := haged.touch (fresh.station.mailbox.append [0x6F, 0x6C, 0x64]) ({}, []) rfl
  have uploaded := ((used.answer .loadBegin (Codec.u32.encode 2)).answer .loadData [0, 0]).answer
    .loadEnd (Codec.u32.encode (Checksum.crc32 [0, 0]))
  have gone := ((uploaded.answer .exec (Codec.u32.encode 0)).pass 10000000000).answer .ispEnter []
  refine ⟨_, gone, ?_, ?_, ?_, ?_, ?_, (gone.renews ⟨[], ?granted⟩ _ _).2 _ ?timely⟩
  case timely => refine ⟨?_, ?_, ?_, ?_, ?_, ?_, ?_, trivial⟩ <;> decide +kernel
  all_goals decide +kernel

end Device

end Coprocessor
