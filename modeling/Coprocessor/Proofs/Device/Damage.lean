import Coprocessor.Device.Frames
import Coprocessor.Pins.Bank
import Coprocessor.Proofs.Link.FirstFrame
import Coprocessor.Proofs.Wire.Damage
import Mathlib.Tactic.IntervalCases

/-!
# Damaged requests are refused

A request whose payload was damaged on the link is no longer vouched for : neither by its
header, nor by a second checksum, which was taken before the damage as well. So whatever the
command and the device, the request is refused for its checksum before the command is looked
at, and the device stays as it is (`Device.refuses_damaged`).
-/

namespace Coprocessor

open Checksum

variable {σ τ : Type} {payload damaged : Bytes}

/-- A second checksum that was taken before the damage is not that of the payload. -/
theorem Framing.verdict_of_damages (h : Damages payload damaged) (c : Framing) :
    c.verdict damaged (c.trailer payload) = if c.trailing then some false else none := by
  unfold verdict trailer
  split
  · have hne : Codec.u32.encode (ofPayload payload) ≠ Codec.u32.encode (ofPayload damaged) :=
      fun he => h.ofPayload_ne (Codec.u32_lossless.encode_inj.mp he).symm
    rw [decide_eq_false hne]
  · rfl

/-- A damaged request is read as it came. -/
theorem Framing.read_of_damages (h : Damages payload damaged) {c : Framing} (command : Command)
    (sequence : UInt32) (hc : payload.length ≤ c.maxPayload) (hl : payload.length < 2 ^ 32)
    (following : Bytes) :
    let header := Header.request command sequence payload
    let r := c.read (Header.codec.encode header ++ (damaged ++ (c.trailer payload ++ following)))
    r.finding = .frame ⟨header, damaged, if c.trailing then some false else none, 0⟩ ∧
      r.rest = following := by
  intro header r
  have hlength : header.length.toNat = payload.length := UInt32.toNat_ofNat_of_lt' hl
  have htrailer : (c.trailer payload).length = if c.trailing then 4 else 0 := by
    unfold trailer
    split <;> simp
  have hbody := readBody_of_whole (c := c) 0 (h := header) following
    (h.length_eq.trans hlength.symm) htrailer
  have hread := scan_of_header c 0 0 (h := header)
    (damaged ++ (c.trailer payload ++ following)) rfl
  rw [if_pos (hlength ▸ hc : header.length.toNat ≤ c.maxPayload)] at hread
  rw [← hread, verdict_of_damages h c] at hbody
  exact hbody

namespace Device

/-- What is said to a frame that no checksum vouches for. -/
theorem handleFrame_of_damages (h : Damages payload damaged) (command : Command)
    (sequence : UInt32) {verdict : Option Bool} (hv : verdict ≠ some true) (d : Device σ τ) :
    d.handleFrame (.request command sequence payload) damaged verdict =
      ((Header.reply (.request command sequence payload) (Reply.statusBytes .checksum),
        Reply.statusBytes .checksum), d) := by
  have hvouch : (Header.request command sequence payload).vouchesFor damaged = false :=
    beq_eq_false_iff_ne.mpr h.ofPayload_ne.symm
  have hscreen : screen (.request command sequence payload) damaged verdict =
      .error (.payload command) := by
    rw [screen, Header.validate_request]
    simp [hvouch, hv]
  rw [handleFrame, respond, hscreen]
  rfl

/-- Damage within four bytes in a row changes the checksum. Every device, in whatever state,
refuses a request with such damage for its checksum and stays as it is : without a second
checksum, with one taken before the damage, and as the request is read from a link. -/
theorem refuses_damaged (h : Damages payload damaged) :
    ofPayload damaged ≠ ofPayload payload ∧
    ∀ (command : Command) (sequence : UInt32) (d : Device σ τ),
      let header := Header.request command sequence payload
      let refused := ((Header.reply header (Reply.statusBytes .checksum),
        Reply.statusBytes .checksum), d)
      d.handleFrame header damaged none = refused ∧
      d.handleFrame header damaged (some (ofPayload payload == ofPayload damaged)) = refused ∧
      ∀ (c : Framing) (following : Bytes), payload.length ≤ c.maxPayload →
        payload.length < 2 ^ 32 →
        ∃ f : Link.Frame, f.header = header ∧ f.payload = damaged ∧
          (c.read (Header.codec.encode header ++
            (damaged ++ (c.trailer payload ++ following)))).finding = .frame f ∧
          d.handleFrame f.header f.payload f.verdict = refused := by
  refine ⟨h.ofPayload_ne, fun command sequence d => ?_⟩
  have refuses : ∀ verdict, verdict ≠ some true →
      d.handleFrame (.request command sequence payload) damaged verdict =
        ((Header.reply (.request command sequence payload) (Reply.statusBytes .checksum),
          Reply.statusBytes .checksum), d) :=
    fun verdict hv => handleFrame_of_damages h command sequence hv d
  refine ⟨refuses none nofun, refuses _ ?_, fun c following hc hl => ?_⟩
  · rw [beq_eq_false_iff_ne.mpr h.ofPayload_ne.symm]
    decide
  · obtain ⟨hread, -⟩ := Framing.read_of_damages h command sequence hc hl following
    refine ⟨_, rfl, rfl, hread, refuses _ ?_⟩
    cases c.trailing <;> exact nofun

/-- A request to run code whose last argument was damaged is refused by a device in the
programming mode, which would refuse the request as it was sent for another reason. -/
theorem handleFrame_of_damaged_arguments :
    let payload : Bytes := [1, 0, 0, 0, 7, 0, 0, 0]
    let damaged : Bytes := [1, 0, 0, 0, 9, 0, 1, 0]
    let d := (answer .ispEnter [] (.start {} Pins.Bank.board (·.waited)
      (.emulator Handoff.Emulation.usualBudget) {})).2
    let header := Header.request .exec 5 payload
    Damages payload damaged ∧
      d.handleFrame header damaged (some false) =
        ((Header.reply header (Reply.statusBytes .checksum), Reply.statusBytes .checksum), d) ∧
      (d.handleFrame header payload none).1.2 = Reply.refusal .exec .state := by
  intro payload damaged d header
  have window : Damages payload damaged := by
    refine ⟨rfl, by decide, 4, fun i hi => ?_⟩
    rcases hi with hi | hi
    · interval_cases i <;> rfl
    · rw [List.getElem?_eq_none (show payload.length ≤ i from hi),
        List.getElem?_eq_none (show damaged.length ≤ i from hi)]
  obtain ⟨hne, hrefuses⟩ := @refuses_damaged _ _ payload damaged window
  have hrefused := (hrefuses .exec 5 d).2.1
  rw [beq_eq_false_iff_ne.mpr hne.symm] at hrefused
  exact ⟨window, hrefused, by decide +kernel⟩

end Device

end Coprocessor
