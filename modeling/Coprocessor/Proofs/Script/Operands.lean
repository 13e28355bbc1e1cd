import Coprocessor.Script.Instruction

/-!
# The operands of a statement

A statement is a keyword and operands (`Instruction.keyword?`, `Instruction.operands`), and each
keyword has its operands in their places. So it can be told from the text of a statement which
register it may write to and which label it may go to : those that stand in the place that the
keyword has for them. Whatever a statement is read as, it writes to no other register
(`Instruction.exists_targetOperand`) and goes to no other label
(`Instruction.exists_labelOperand`).
-/

namespace Coprocessor.Script

/-! ## Places -/

namespace Keyword

/-- The place among the operands of the register that is written to. -/
def targetPlace? : Keyword → Option Nat
  | setRegister | add | subtract | move => some 0
  | digitalRead | analogRead => some 1
  | _ => none

/-- The place among the operands of the label to go on at. -/
def labelPlace? : Keyword → Option Nat
  | jump => some 0
  | branch => some 4
  | _ => none

end Keyword

namespace Instruction

/-- The keyword that a statement begins with. -/
def keyword? (statement : Bytes) : Option Keyword :=
  Keyword.ofWord? (statement.takeWhile fun b => !endsOperand b)

/-- The text of a statement behind its first word. -/
def behindWord (statement : Bytes) : Bytes :=
  statement.dropWhile fun b => !endsOperand b

/-- The operands of a statement, in order. -/
def operands (statement : Bytes) : List Bytes :=
  Ascii.tokens endsOperand (behindWord statement)

/-- The operand of a statement that stands in the place that its keyword has for it. -/
def operandAt? (place? : Keyword → Option Nat) (statement : Bytes) : Option Bytes := do
  (operands statement)[← place? (← keyword? statement)]?

/-- The operand that names the register a statement writes to : the first one of `LET`, `ADD`,
`SUB` and `MOV`, and the second one of `DREAD` and `AREAD`. -/
def targetOperand? : Bytes → Option Bytes :=
  operandAt? Keyword.targetPlace?

/-- The operand that names the label a statement goes to : the first one of `GOTO`, and the fifth
one of `IF`. -/
def labelOperand? : Bytes → Option Bytes :=
  operandAt? Keyword.labelPlace?

/-- The register that is written to. -/
def target? : Instruction → Option Register
  | setRegister rd _ | add rd _ | subtract rd _ | move rd _ | digitalRead _ rd | analogRead _ rd =>
    some rd
  | _ => none

/-- The number of the statement that may be gone to. -/
def destination? : Instruction → Option Nat
  | jump target | branch _ _ _ target => target
  | _ => none

/-! ## What is read -/

variable {resolve : Bytes → Option Nat} {statement text : Bytes} {k : Keyword} {ts : List Bytes}
  {i : Instruction}

theorem read_eq (resolve : Bytes → Option Nat) (statement : Bytes) : read resolve statement =
    ((keyword? statement).bind fun k =>
      ofKeyword? resolve (behindWord statement) k (operands statement)).getD .skip :=
  rfl

/-- A statement does nothing, or what its keyword does with its operands. -/
theorem read_cases (resolve : Bytes → Option Nat) (statement : Bytes) :
    read resolve statement = .skip ∨ ∃ k, keyword? statement = some k ∧
      ofKeyword? resolve (behindWord statement) k (operands statement) =
        some (read resolve statement) := by
  rw [read_eq]
  cases hk : keyword? statement with
  | none => exact .inl rfl
  | some k =>
    rw [Option.bind_some]
    cases hi : ofKeyword? resolve (behindWord statement) k (operands statement) with
    | none => exact .inl rfl
    | some i => exact .inr ⟨k, rfl, hi⟩

theorem withOptions_eq (data clock latch value bits : Operand) (order : BitOrder)
    (options : List Bytes) : ∃ bits' order',
      withOptions data clock latch value bits order options =
        .shiftOut data clock latch value bits' order' := by
  induction options generalizing bits order with
  | nil => exact ⟨bits, order, rfl⟩
  | cons token options ih =>
    rw [withOptions]
    split <;> exact ih _ _

/-- An instruction writes to the register, and goes to the label, that stand in the places of its
keyword. -/
theorem fields_of_ofKeyword? (h : ofKeyword? resolve text k ts = some i) :
    i.target? = (k.targetPlace?.bind (ts[·]?)).bind register? ∧
      i.destination? = (k.labelPlace?.bind (ts[·]?)).bind resolve := by
  cases k with
  | mailboxClear =>
    cases h
    exact ⟨rfl, rfl⟩
  | mailboxAppend =>
    obtain ⟨text, -, rfl⟩ := Option.map_eq_some_iff.mp h
    exact ⟨rfl, rfl⟩
  | ret =>
    rcases ts with _ | ⟨a, ts⟩ <;> cases h <;> exact ⟨rfl, rfl⟩
  | waitMillis | waitMicros | jump =>
    rcases ts with _ | ⟨a, ts⟩
    iterate 2 cases h
    exact ⟨rfl, rfl⟩
  | pinMode | digitalWrite | analogWrite =>
    rcases ts with _ | ⟨a, _ | ⟨b, ts⟩⟩
    iterate 3 cases h
    exact ⟨rfl, rfl⟩
  | setRegister | add | subtract | digitalRead | analogRead =>
    rcases ts with _ | ⟨a, _ | ⟨b, ts⟩⟩
    iterate 2 cases h
    obtain ⟨rd, hrd, h⟩ := Option.bind_eq_some_iff.mp h
    cases h
    exact ⟨hrd.symm, rfl⟩
  | move =>
    rcases ts with _ | ⟨a, _ | ⟨b, ts⟩⟩
    iterate 2 cases h
    obtain ⟨rd, hrd, h⟩ := Option.bind_eq_some_iff.mp h
    obtain ⟨rs, -, h⟩ := Option.bind_eq_some_iff.mp h
    cases h
    exact ⟨hrd.symm, rfl⟩
  | shiftOut =>
    rcases ts with _ | ⟨data, _ | ⟨clock, _ | ⟨latch, _ | ⟨e, options⟩⟩⟩⟩
    iterate 4 cases h
    obtain ⟨bits, order, hshift⟩ := withOptions_eq (.read data) (.read clock) (.read latch) (.read e)
      (.constant 8) .mostFirst (options.take 2)
    rw [ofKeyword?, hshift] at h
    cases h
    exact ⟨rfl, rfl⟩
  | branch =>
    rcases ts with _ | ⟨left, _ | ⟨comparison, _ | ⟨right, _ | ⟨go, _ | ⟨label, ts⟩⟩⟩⟩⟩
    iterate 5 cases h
    rw [ofKeyword?] at h
    split at h
    case isTrue =>
      obtain ⟨c, -, rfl⟩ := Option.map_eq_some_iff.mp h
      exact ⟨rfl, rfl⟩
    case isFalse => cases h

theorem exists_targetOperand {rd : Register} (h : (read resolve statement).target? = some rd) :
    ∃ w, targetOperand? statement = some w ∧ register? w = some rd := by
  rcases read_cases resolve statement with hskip | ⟨k, hk, hi⟩
  · rw [hskip] at h
    cases h
  · rw [(fields_of_ofKeyword? hi).1] at h
    rw [targetOperand?, operandAt?, hk]
    exact Option.bind_eq_some_iff.mp h

theorem exists_labelOperand {t : Nat} (h : (read resolve statement).destination? = some t) :
    ∃ w, labelOperand? statement = some w ∧ resolve w = some t := by
  rcases read_cases resolve statement with hskip | ⟨k, hk, hi⟩
  · rw [hskip] at h
    cases h
  · rw [(fields_of_ofKeyword? hi).2] at h
    rw [labelOperand?, operandAt?, hk]
    exact Option.bind_eq_some_iff.mp h

end Instruction

end Coprocessor.Script
