import Coprocessor.Proofs.Device.Uploading
import Coprocessor.Proofs.Handoff.Shift

/-!
# What a device cannot tell

Two devices are twins if they have the same but for their stations, and these are level
(`Device.Twins`) : the mailboxes have the same text and the pins are the same, but the cancel
flag, a result that nobody has collected, the clock and what is behind the text may differ.
Twins say the same to every request and stay twins (`Device.Twins.answer`), if the functions
they have make nothing of what is behind the text either (`HostFunction.Discreet`). The
functions that every device has are like that (`FunctionTable.discreet_builtin`).
-/

namespace Coprocessor

open Handoff

variable {σ τ : Type}

/-! ## Functions -/

/-- A function that uses the mailbox as a text in a buffer of some size : it keeps to the buffer,
and makes nothing of what is behind the text. -/
structure HostFunction.Discreet (f : HostFunction σ) : Prop where
  /-- The size of the buffer stays. -/
  capacity : ∀ arguments m s, (f.call arguments m s).2.1.capacity = m.capacity
  /-- The value is the same. -/
  value : ∀ arguments {m m' : Mailbox} (s : σ), m.Alike m' →
    (f.call arguments m' s).1 = (f.call arguments m s).1
  /-- So is the text. -/
  mailbox : ∀ arguments {m m' : Mailbox} (s : σ), m.Alike m' →
    (f.call arguments m s).2.1.Alike (f.call arguments m' s).2.1
  /-- So is the state of the board. -/
  pins : ∀ arguments {m m' : Mailbox} (s : σ), m.Alike m' →
    (f.call arguments m' s).2.2 = (f.call arguments m s).2.2

namespace FunctionTable

theorem discreet_builtin (board : Pins.Board σ) : ∀ f ∈ builtin board, f.Discreet := by
  simp only [builtin, List.forall_mem_cons]
  refine ⟨?add, ?sum, ?read, ?write, ?length, nofun⟩
  case length =>
    exact ⟨fun _ _ _ => rfl, fun _ _ _ _ h => congrArg Int32.ofNat h.length, fun _ _ _ _ h => h,
      fun _ _ _ _ _ => rfl⟩
  all_goals
    exact ⟨fun _ _ _ => rfl, fun _ _ _ _ _ => rfl, fun _ _ _ _ h => h, fun _ _ _ _ _ => rfl⟩

/-- Calls with mailboxes that are alike fail alike, or come to the same value. -/
theorem call_of_alike {t : FunctionTable σ} (ht : ∀ f ∈ t, f.Discreet) (name : Bytes)
    (arguments : List Int32) {m m' : Mailbox} (h : m.Alike m') (s : σ) :
    (∃ e, t.call name arguments m s = .error e ∧ t.call name arguments m' s = .error e) ∨
      ∃ value w w' s', t.call name arguments m s = .ok (value, w, s') ∧
        t.call name arguments m' s = .ok (value, w', s') ∧ w.Alike w' ∧
        w.capacity = m.capacity := by
  unfold call
  split
  case h_1 f hf =>
    have hdiscreet := ht f (List.mem_of_find?_eq_some hf)
    split
    case isTrue =>
      refine .inr ⟨_, _, _, _, rfl, ?_, hdiscreet.mailbox arguments s h,
        hdiscreet.capacity arguments m s⟩
      rw [← hdiscreet.value arguments s h, ← hdiscreet.pins arguments s h]
    case isFalse => exact .inl ⟨_, rfl, rfl⟩
  case h_2 => exact .inl ⟨_, rfl, rfl⟩

end FunctionTable

namespace Device

/-! ## Twins -/

/-- Two devices with the same but for their stations, which are level. -/
structure Twins (d d' : Device σ τ) : Prop where
  /-- The stations. -/
  level : d.station.Level d'.station
  /-- All else. -/
  eq : d' = { d with station := d'.station }

/-- The same is said, and the devices afterwards are twins. -/
def Agree (x x' : Except Status Reply × Device σ τ) : Prop :=
  x'.1 = x.1 ∧ x.2.Twins x'.2

section

variable {d : Device σ τ} {s' : Station σ τ}

theorem agree_of_level (h : d.station.Level s') (answer : Except Status Reply) :
    Agree (answer, d) (answer, { d with station := s' }) :=
  ⟨rfl, h, rfl⟩

/-- A job is refused by both devices, or run to the same answer. -/
theorem agree_run (h : d.station.Level s') (hr : d.station.Rested) (hr' : s'.Rested) (job : Job)
    (budget : Nat) (f : Int32 → Reply) (x : ExecState) :
    Agree
      (if d.station.isBusy then (.error .state, d)
        else ((d.station.run job budget).1.map f,
          { d with station := (d.station.run job budget).2, execState := x }))
      (if s'.isBusy then (.error .state, { d with station := s' })
        else ((s'.run job budget).1.map f,
          { d with station := (s'.run job budget).2, execState := x })) := by
  rw [h.isBusy]
  cases hb : d.station.isBusy with
  | true => exact agree_of_level h _
  | false =>
    obtain ⟨hanswer, hafter⟩ := h.run hr hr' hb job budget
    exact ⟨congrArg (Except.map f) hanswer, hafter, rfl⟩

theorem agree_exec (h : d.station.Level s') (hr : d.station.Rested) (hr' : s'.Rested)
    (payload : Bytes) : Agree (d.exec payload) ({ d with station := s' }.exec payload) := by
  unfold Device.exec
  dsimp only
  split
  · exact agree_of_level h _
  split
  · exact agree_of_level h _
  split
  · exact agree_of_level h _
  · exact agree_run h hr hr' _ _ .codeValue .done

theorem agree_scriptExec (h : d.station.Level s') (hr : d.station.Rested) (hr' : s'.Rested)
    (payload : Bytes) :
    Agree (d.scriptExec payload) ({ d with station := s' }.scriptExec payload) := by
  unfold Device.scriptExec
  dsimp only
  split
  · exact agree_of_level h _
  split
  · exact agree_of_level h _
  split
  · exact agree_of_level h _
  · exact agree_run h hr hr' _ _ .value d.execState

theorem agree_call (h : d.station.Level s') (hf : ∀ f ∈ d.functions, f.Discreet)
    (payload : Bytes) : Agree (d.call payload) ({ d with station := s' }.call payload) := by
  unfold Device.call
  dsimp only
  split
  case isTrue => exact agree_of_level h _
  case isFalse =>
  split
  case h_1 => exact agree_of_level h _
  case h_2 name arguments _ =>
  rw [h.pins]
  rcases FunctionTable.call_of_alike hf name arguments h.mailbox d.station.pins with
    ⟨e, he, he'⟩ | ⟨value, w, w', pins, he, he', hw, -⟩
  · rw [he, he']
    exact agree_of_level h _
  · rw [he, he']
    exact ⟨rfl, h.uses hw rfl, rfl⟩

theorem agree_reset (h : d.station.Level s') :
    Agree d.reset { d with station := s' }.reset := by
  have hcancel := h.cancel
  unfold Device.reset
  dsimp only
  rw [hcancel.isBusy]
  split
  · exact ⟨rfl, hcancel, rfl⟩
  · exact ⟨rfl, hcancel.uses h.mailbox.clear h.pins, rfl⟩

theorem agree_enterProgramming (h : d.station.Level s') :
    Agree d.enterProgramming { d with station := s' }.enterProgramming := by
  unfold Device.enterProgramming
  dsimp only
  rw [h.isBusy]
  split
  · exact agree_of_level h _
  · exact ⟨rfl, h, rfl⟩

theorem agree_upload {kind : Upload.Kind} {c : Command} (hc : IsUpload kind c)
    (h : d.station.Level s') (payload : Bytes) :
    Agree (d.answer c payload) ({ d with station := s' }.answer c payload) := by
  obtain ⟨hanswer, hstation⟩ := answer_station hc payload d s'
  rw [hanswer]
  refine ⟨rfl, ?_, rfl⟩
  rw [hstation]
  exact h

end

variable {d d' : Device σ τ}

/-- Twins say the same to every request, and stay twins. -/
theorem Twins.answer (h : d.Twins d') (hr : d.station.Rested) (hr' : d'.station.Rested)
    (hf : ∀ f ∈ d.functions, f.Discreet) (c : Command) (payload : Bytes) :
    Agree (d.answer c payload) (d'.answer c payload) := by
  obtain ⟨h, heq⟩ := h
  generalize d'.station = s' at *
  subst heq
  have hupload : ∀ kind, IsUpload kind c →
      Agree (d.answer c payload) ({ d with station := s' }.answer c payload) := fun _ hc =>
    agree_upload hc h payload
  cases c with
  | hello => exact agree_of_level h _
  | info =>
    have hflags : flags { d with station := s' } = d.flags := by
      simp only [flags, h.isBusy, h.mailbox.length]
    refine ⟨?_, h, rfl⟩
    simp only [Device.answer, hflags, h.mailbox.capacity]
  | status =>
    refine ⟨?_, h, rfl⟩
    simp only [Device.answer, reported, h.isBusy]
  | mailboxRead =>
    refine ⟨?_, h, rfl⟩
    simp only [Device.answer, readMail, h.mailbox.read]
  | loadBegin => exact hupload .code (.inl rfl)
  | loadData => exact hupload .code (.inr (.inl rfl))
  | loadEnd => exact hupload .code (.inr (.inr rfl))
  | scriptBegin => exact hupload .script (.inl rfl)
  | scriptData => exact hupload .script (.inr (.inl rfl))
  | scriptEnd => exact hupload .script (.inr (.inr rfl))
  | exec => exact agree_exec h hr hr' payload
  | scriptExec => exact agree_scriptExec h hr hr' payload
  | func => exact agree_call h hf payload
  | reset => exact agree_reset h
  | cancel => exact ⟨rfl, h.cancel, rfl⟩
  | ispEnter => exact agree_enterProgramming h
  | ispExit => exact ⟨rfl, h, rfl⟩

end Device

end Coprocessor
