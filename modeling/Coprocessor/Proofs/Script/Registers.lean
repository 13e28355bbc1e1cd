import Coprocessor.Pins.Bank
import Coprocessor.Proofs.Script.Listing
import Coprocessor.Proofs.Script.Operands
import Coprocessor.Proofs.Script.Statement

/-!
# Registers that are left alone

A statement writes to one register at most, the one that it names for that (`get_execute`). So a
register that no statement of a program names in that place holds what it held at the beginning,
however the run ends : an argument, or zero where there is none (`Program.keeps_argument`). Where
the pins are read, what they tell goes to the register that is named and to no other.
-/

namespace Coprocessor.Script

variable {σ : Type} {board : Pins.Board σ} {m : Machine σ} {k rd : Register} {i : Instruction}

theorem get_put_of_ne (h : rd ≠ k) (v : Int32) :
    (m.put rd v).registers.get k = m.registers.get k :=
  Vector.getElem_set_ne rd.isLt k.isLt (Fin.val_ne_of_ne h)

/-- A statement writes to the register that it names as its target, and to no other. -/
theorem get_execute (h : i.target? ≠ some k) :
    (m.execute board i).2.registers.get k = m.registers.get k := by
  cases i with
  | setRegister rd e | add rd e | subtract rd e | move rd rs =>
    exact get_put_of_ne (fun hrd => h (congrArg some hrd)) _
  | digitalRead pin rd =>
    exact get_put_of_ne (m := { m with pins := (board.digitalRead (m.eval pin) m.pins).2 })
      (fun hrd => h (congrArg some hrd)) _
  | analogRead pin rd =>
    exact get_put_of_ne (m := { m with pins := (board.analogRead (m.eval pin) m.pins).2 })
      (fun hrd => h (congrArg some hrd)) _
  | branch left comparison right target =>
    rw [Machine.execute]
    split <;> rfl
  | skip | pinMode | digitalWrite | analogWrite | shiftOut | waitMillis | waitMicros
  | mailboxClear | mailboxAppend | ret | jump => rfl

/-- A run begins with an argument in each register, or zero. -/
theorem get_load (arguments : List Int32) (mailbox : Mailbox) (pins : σ) (k : Register) :
    (Machine.load arguments mailbox pins).registers.get k = arguments.getD k 0 :=
  Vector.getElem_ofFn k.isLt

/-- A register that no statement of a program names as its target holds its argument when the run
has ended, or zero if there are not so many arguments, whatever stopped the run and whatever the
pins told. -/
theorem Program.keeps_argument {limits : Limits} {source : Bytes} {p : Program}
    (_ : Program.parse limits source = .ok p)
    (hk : ∀ s ∈ p.statements, ∀ w, Instruction.targetOperand? s.text = some w →
      register? w ≠ some k)
    (board : Pins.Board σ) (limit : UInt32) (watch : Run σ → Sample) (arguments : List Int32)
    (mailbox : Mailbox) (pins : σ) {fuel : Nat} {outcome : Outcome}
    (h : (Run.start (.load arguments mailbox pins)).finish board p.instructions limit watch fuel =
      some (outcome, m)) :
    m.registers.get k = arguments.getD k 0 := by
  refine Run.kept_of_finish (P := fun m => m.registers.get k = arguments.getD k 0) h
    (get_load arguments mailbox pins k) fun i hi m' hm' => ?_
  obtain ⟨s, hs, rfl⟩ := Array.mem_map.mp hi
  refine (get_execute fun htarget => ?_).trans hm'
  obtain ⟨w, hw, hrd⟩ := Instruction.exists_targetOperand htarget
  exact hk s hs w hw hrd

/-- Register 3 is read by all kinds of statements of a loop that is cancelled, and holds the fourth
argument when it is; register 9 has no argument and holds zero. -/
theorem Program.keeps_argument_of_loop :
    let source := Bytes.ofText "l: DREAD R3 R1; ADD R0 R3; MOV R2, R3\nSHIFTOUT 1 2 4 R3; GOTO l"
    ∃ p outcome m, Program.parse {} source = .ok p ∧
      (Run.start (.load [5, 6, 7, 8] (.empty 4) ({} : Pins.Bank))).finish Pins.Bank.board
        p.instructions 0 (fun r => ⟨0, 9 ≤ r.steps⟩) 10 = some (outcome, m) ∧
      outcome = ⟨0, .cancelled, 9⟩ ∧ m.registers.get 3 = 8 ∧ m.registers.get 9 = 0 := by
  intro source
  let first := Run.start (.load [5, 6, 7, 8] (.empty 4) ({} : Pins.Bank))
  let watch : Run Pins.Bank → Sample := fun r => ⟨0, 9 ≤ r.steps⟩
  let test : Program → Bool := fun p =>
    (first.finish Pins.Bank.board p.instructions 0 watch 10).any (·.1 = ⟨0, .cancelled, 9⟩) &&
      p.statements.all fun s => (Instruction.targetOperand? s.text).all fun w =>
        register? w ≠ some 3 && register? w ≠ some 9
  obtain ⟨p, hp, htest⟩ := @exists_program_of_any {} source test (by decide +kernel)
  obtain ⟨hends, hspares⟩ := Bool.and_eq_true_iff.mp htest
  obtain ⟨⟨outcome, m⟩, hfinish, houtcome⟩ := (Option.any_eq_true _ _).mp hends
  have hspared : ∀ s ∈ p.statements, ∀ w, Instruction.targetOperand? s.text = some w →
      register? w ≠ some 3 ∧ register? w ≠ some 9 := by
    intro s hs w hw
    have hw' := Array.all_eq_true_iff_forall_mem.mp hspares s hs
    rw [hw] at hw'
    simpa using hw'
  have hkeeps := fun k hk => Program.keeps_argument hp (k := k) hk Pins.Bank.board 0 watch
    [5, 6, 7, 8] (.empty 4) {} hfinish
  refine ⟨p, outcome, m, hp, hfinish, of_decide_eq_true houtcome, ?_, ?_⟩
  · exact hkeeps 3 fun s hs w hw => (hspared s hs w hw).1
  · exact hkeeps 9 fun s hs w hw => (hspared s hs w hw).2

end Coprocessor.Script
