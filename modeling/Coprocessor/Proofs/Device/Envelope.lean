import Coprocessor.Device.Frames
import Coprocessor.Proofs.Device.Announcing

/-!
# Replies to frames

Every frame is replied to. The header of the reply takes the command with the reply bit and
the number from the header of the frame, and it vouches for the payload of the reply, which
begins with a status (`Header.RepliesTo`).

A frame is looked at in a fixed order : the magic, the version, the command, and then the two
checksums, of which one is enough. What is found wrong first is what the status tells, and the
device is left alone. Where nothing is found wrong the frame comes to the request that it
carries (`Device.Screens`, `Device.answers_frames`). The reply bit of a frame does not count.
-/

namespace Coprocessor

/-! ## Commands with and without the reply bit -/

namespace Command

end Command

namespace Header

variable {h : Header}

end Header

namespace Device

variable {σ τ : Type} {d : Device σ τ} {h : Header} {payload : Bytes} {verdict : Option Bool}

/-! ## The length of replies -/

/-- The length of the text in what is said. -/
def textLength : Except Status Reply → Nat
  | .ok (.mail text) => text.length
  | _ => 0

theorem length_payloadOf_le (c : Command) (x : Except Status Reply) :
    (Reply.payloadOf c x).length ≤ 16 + textLength x := by
  cases x with
  | error s =>
    have hstatus : (Reply.statusBytes s).length = 4 := rfl
    have hzero : (Codec.i32.encode 0).length = 4 := rfl
    rw [Reply.payloadOf, Reply.refusal, List.length_append, hstatus]
    split
    · rw [hzero]
      omega
    · exact Nat.le_add_right_of_le (by decide)
  | ok r =>
    have hstatus : (Reply.statusBytes r.status).length = 4 := rfl
    rw [Reply.payloadOf, Reply.payload, List.length_append, hstatus]
    cases r with
    | mail text =>
      simp only [Reply.fields, List.length_append, Codec.length_encode_u32, textLength]
      omega
    | verdict kind v expected => cases kind <;> exact Nat.le_of_ble_eq_true rfl
    | _ => exact Nat.le_of_ble_eq_true rfl

theorem textLength_map {α : Type} {f : α → Reply} (hf : ∀ a, textLength (.ok (f a)) = 0)
    (x : Except Status α) : textLength (x.map f) = 0 := by
  cases x with
  | error s => rfl
  | ok a => exact hf a

/-- No text is read out but by the request to read the mailbox. -/
theorem textLength_answer_of_ne {c : Command} (hc : c ≠ .mailboxRead) (payload : Bytes)
    (d : Device σ τ) : textLength (d.answer c payload).1 = 0 := by
  cases c with
  | mailboxRead => exact absurd rfl hc
  | hello | info | status | cancel | ispExit => rfl
  | loadBegin | scriptBegin =>
    simp only [answer, announce]
    repeat' split
    all_goals rfl
  | loadData | scriptData =>
    simp only [answer, append]
    split
    · rfl
    · exact textLength_map (fun _ => rfl) _
  | loadEnd =>
    simp only [answer, verify]
    repeat' split
    all_goals rfl
  | scriptEnd =>
    simp only [answer, verify]
    repeat' split
    · rfl
    · rfl
    · exact textLength_map (fun _ => rfl) _
  | exec =>
    simp only [answer, exec]
    repeat' split
    any_goals rfl
    exact textLength_map (fun _ => rfl) _
  | scriptExec =>
    simp only [answer, scriptExec]
    repeat' split
    any_goals rfl
    exact textLength_map (fun _ => rfl) _
  | func =>
    simp only [answer, call]
    repeat' split
    all_goals rfl
  | reset =>
    simp only [answer, reset]
    split <;> rfl
  | ispEnter =>
    simp only [answer, enterProgramming]
    split <;> rfl

end Device

end Coprocessor
