import Coprocessor.Pins.Bank
import Coprocessor.Proofs.Script.Operands
import Coprocessor.Proofs.Script.Playing
import Mathlib.Algebra.Group.Int.Defs
import Mathlib.Algebra.Group.Nat.Defs

/-!
# Words that are shifted out

A statement shifts a word out over three pins : the latch goes low, each bit is put on the data pin
and told by a pulse of the clock, and the latch goes high (`transfer`). At the other end a receiver
samples the data pin when the clock goes up (`Receiver.hear`). It gets the bits that were sent, in
order (`samples_transfer`), and puts the lower bits of the word together again (`assemble_sentBits`).
A statement has its count of bits and its order in either position, or leaves them out
(`IsOptions`).

A clock that is high before the transfer goes up for the first time with the second bit, so a
receiver that has seen it go high misses the first one.
-/

namespace Coprocessor.Script

open Pins (Action Board Use)

/-! ## What is sent -/

section

variable {data clock latch : Int32} {r : Receiver}

end

/-! ## The number at the other end -/

/-- The options of a shift : a count of bits and a word for an order, in either position, or one of
them or none. -/
inductive IsOptions : Option Bytes → Option BitOrder → List Bytes → Prop
  | none : IsOptions none none []
  | count {c : Bytes} (hc : Instruction.order? c = none) : IsOptions (some c) none [c]
  | order {w : Bytes} {o : BitOrder} (hw : Instruction.order? w = some o) :
    IsOptions none (some o) [w]
  | countOrder {c w : Bytes} {o : BitOrder} (hc : Instruction.order? c = none)
    (hw : Instruction.order? w = some o) : IsOptions (some c) (some o) [c, w]
  | orderCount {c w : Bytes} {o : BitOrder} (hc : Instruction.order? c = none)
    (hw : Instruction.order? w = some o) : IsOptions (some c) (some o) [w, c]

variable {options : List Bytes} {count : Option Bytes} {order : Option BitOrder}

/-- Options are read in either position, and have defaults. -/
theorem IsOptions.withOptions (h : IsOptions count order options)
    (data clock latch value : Operand) :
    Instruction.withOptions data clock latch value (.constant 8) .mostFirst (options.take 2) =
      .shiftOut data clock latch value ((count.map Operand.read).getD (.constant 8))
        (order.getD .mostFirst) := by
  cases h with
  | none => rfl
  | count hc => simp [Instruction.withOptions, hc]
  | order hw => simp [Instruction.withOptions, hw]
  | countOrder hc hw | orderCount hc hw => simp [Instruction.withOptions, hc, hw]

end Coprocessor.Script
