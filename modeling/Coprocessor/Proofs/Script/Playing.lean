import Coprocessor.Proofs.Script.Statement
import Mathlib.Data.List.Forall2

/-!
# What statements do to a board

Statements play actions if a run that comes to them goes on after them, has done the actions
to the board, and is the same otherwise but for its registers (`Run.Plays`). Statements that
each do one action play them in order (`Run.plays_block`), and a loop that counts a register
down plays its body as often as the register says (`Run.plays_loop`).
-/

namespace Coprocessor.Script

variable {σ : Type}

/-- A machine after actions. -/
def Machine.acts (board : Pins.Board σ) (actions : List Pins.Action) (m : Machine σ) : Machine σ :=
  { m with pins := actions.foldl (fun s a => board.act a s) m.pins }

/-- A board with a log does the actions, and they are the newest ones of its log. -/
theorem foldl_act_logged (board : Pins.Board σ) (actions : List Pins.Action)
    (s : σ × List Pins.Use) : actions.foldl (fun s a => board.logged.act a s) s =
      (actions.foldl (fun s a => board.act a s) s.1,
        actions.reverse.map Pins.Use.action ++ s.2) := by
  induction actions generalizing s with
  | nil => rfl
  | cons a actions ih =>
    rw [List.foldl_cons, ih, Pins.Board.logged_act]
    simp

/-- A statement does an action and nothing else. -/
def Instruction.Does (board : Pins.Board σ) (i : Instruction) (a : Pins.Action) : Prop :=
  ∀ m : Machine σ, m.execute board i = (.next, m.act board a)

namespace Run

variable {board : Pins.Board σ} {code : Array Instruction} {r r' r'' : Run σ}

/-! ## Steps in a row -/

/-- Steps that nothing stops make one run of another. -/
inductive Leads (board : Pins.Board σ) (code : Array Instruction) : Run σ → Run σ → Prop
  | refl (r : Run σ) : Leads board code r r
  | step {r r' r'' : Run σ} (h : r.step board code 0 .calm = .inr r')
    (hr : Leads board code r' r'') : Leads board code r r''

theorem Leads.trans (h : Leads board code r r') (h' : Leads board code r' r'') :
    Leads board code r r'' := by
  induction h with
  | refl => exact h'
  | step hs _ ih => exact .step hs (ih h')

/-- Without a time limit a sample stops nothing unless the run is cancelled. -/
theorem step_of_not_cancelled {sample : Sample} (hc : sample.cancelled = false) :
    r.step board code 0 sample = r.step board code 0 .calm := by
  have hl : ∀ s : Sample, s.isLate 0 = false := fun _ => rfl
  unfold step
  simp only [hl, hc]
  rfl

/-- A run that leads to a last step finishes with it. -/
theorem Leads.exists_finish {done : Outcome × Machine σ} (h : Leads board code r r')
    (hlast : r'.step board code 0 .calm = .inl done) {watch : Run σ → Sample}
    (hw : ∀ r, (watch r).cancelled = false) :
    ∃ fuel, r.finish board code 0 watch fuel = some done := by
  induction h with
  | refl r =>
    refine ⟨1, ?_⟩
    rw [finish, step_of_not_cancelled (hw r), hlast]
  | @step r next _ hs _ ih =>
    obtain ⟨fuel, hfuel⟩ := ih hlast
    refine ⟨fuel + 1, ?_⟩
    rw [finish, step_of_not_cancelled (hw r), hs]
    exact hfuel

/-! ## Blocks of statements -/

/-- Statements stand at a place in a program. -/
def Listed (code : Array Instruction) (at' : Nat) (block : List Instruction) : Prop :=
  block <+: code.toList.drop at'

variable {place : Nat} {block block' : List Instruction}

theorem Listed.left (h : Listed code place (block ++ block')) : Listed code place block :=
  (List.prefix_append block block').trans h

theorem Listed.right (h : Listed code place (block ++ block')) :
    Listed code (place + block.length) block' := by
  obtain ⟨rest, hrest⟩ := h
  refine ⟨rest, ?_⟩
  rw [← List.drop_drop, ← hrest, List.append_assoc, List.drop_left]

theorem Listed.tail {i : Instruction} (h : Listed code place (i :: block)) :
    Listed code (place + 1) block := by
  rw [← List.singleton_append] at h
  exact h.right

theorem Listed.getElem?_eq {i : Instruction} (h : Listed code place (i :: block)) :
    code[place]? = some i := by
  obtain ⟨rest, hrest⟩ := h
  rw [← Array.getElem?_toList, ← List.head?_drop, ← hrest]
  rfl

theorem Listed.lt_size (h : Listed code place block) (hne : block ≠ []) : place < code.size := by
  have hpos : 0 < (code.toList.drop place).length :=
    Nat.lt_of_lt_of_le (List.length_pos_iff.mpr hne) h.length_le
  rw [List.length_drop, Array.length_toList] at hpos
  exact Nat.lt_of_sub_pos hpos

/-- A statement that goes on is followed by the next one. -/
theorem leads_of_next {i : Instruction} {m m' : Machine σ} {steps : Nat}
    (h : Listed code place (i :: block)) (hm : m.execute board i = (.next, m')) :
    Leads board code ⟨m, place, steps⟩ ⟨m', place + 1, steps + 1⟩ := by
  refine .step ?_ (.refl _)
  rw [step_calm h.getElem?_eq, perform]
  simp only [hm]

variable {actions : List Pins.Action}

/-- Statements that do one action each do them one after the other. -/
theorem leads_block (h : List.Forall₂ (Instruction.Does board) block actions)
    (hc : Listed code place block) (m : Machine σ) (steps : Nat) :
    Leads board code ⟨m, place, steps⟩
      ⟨m.acts board actions, place + block.length, steps + block.length⟩ := by
  induction h generalizing place m steps with
  | nil => exact .refl _
  | @cons i a block actions hi _ ih =>
    have hfirst : Leads board code ⟨m, place, steps⟩ _ := leads_of_next hc (hi m)
    have hlast := ih hc.tail (m.act board a) (steps + 1)
    rw [List.length_cons, Nat.add_comm block.length 1, ← Nat.add_assoc, ← Nat.add_assoc]
    exact hfirst.trans hlast

/-- A run that comes to the statements between two places goes on at the second, the actions
are done, and nothing else is different but the registers. -/
def Plays (board : Pins.Board σ) (code : Array Instruction) (place place' : Nat)
    (actions : List Pins.Action) : Prop :=
  ∀ (m : Machine σ) (steps : Nat), ∃ m' steps',
    Leads board code ⟨m, place, steps⟩ ⟨m', place', steps'⟩ ∧
      m'.mailbox = m.mailbox ∧ m'.pins = (m.acts board actions).pins

theorem Plays.nil : Plays board code place place [] :=
  fun m steps => ⟨m, steps, .refl _, rfl, rfl⟩

theorem Plays.append {place' place'' : Nat} {actions' : List Pins.Action}
    (h : Plays board code place place' actions) (h' : Plays board code place' place'' actions') :
    Plays board code place place'' (actions ++ actions') := by
  intro m steps
  obtain ⟨m', steps', hleads, hmailbox, hpins⟩ := h m steps
  obtain ⟨m'', steps'', hleads', hmailbox', hpins'⟩ := h' m' steps'
  refine ⟨m'', steps'', hleads.trans hleads', hmailbox'.trans hmailbox, ?_⟩
  rw [hpins', Machine.acts, hpins, Machine.acts, Machine.acts, List.foldl_append]

theorem plays_block (h : List.Forall₂ (Instruction.Does board) block actions)
    (hc : Listed code place block) : Plays board code place (place + block.length) actions :=
  fun m steps => ⟨_, _, leads_block h hc m steps, rfl, rfl⟩

/-- A program that plays actions and then returns a value finishes with it. -/
theorem Plays.exists_finish {v : Int32} (h : Plays board code 0 place actions)
    (hc : Listed code place (.ret (.constant v) :: block)) (m : Machine σ)
    {watch : Run σ → Sample} (hw : ∀ r, (watch r).cancelled = false) :
    ∃ fuel steps m', (start m).finish board code 0 watch fuel =
        some (⟨v, .returned, steps⟩, m') ∧
      m'.mailbox = m.mailbox ∧ m'.pins = (m.acts board actions).pins := by
  obtain ⟨m', steps, hleads, hmailbox, hpins⟩ := h m 0
  have hlast : step board code 0 .calm ⟨m', place, steps⟩ =
      .inl (⟨v, .returned, steps + 1⟩, m') := by
    rw [step_calm hc.getElem?_eq]
    rfl
  obtain ⟨fuel, hfinish⟩ := hleads.exists_finish hlast hw
  exact ⟨fuel, steps + 1, m', hfinish, hmailbox, hpins⟩

/-! ## Counted loops -/

@[simp] theorem get_put (m : Machine σ) (rd : Register) (v : Int32) :
    (m.put rd v).registers.get rd = v :=
  Vector.getElem_set_self rd.isLt

theorem ofNat_pos_iff {k : Nat} (hk : k < 2147483648) : (0 : Int32) < .ofNat k ↔ 0 < k := by
  rw [Int32.lt_iff_toInt_lt, Int32.toInt_ofNat_of_lt hk, Int32.toInt_zero, Int.natCast_pos]

/-- The end of a loop : a register is counted down, and while it is positive the run goes on at
the beginning. -/
def countdown (rd : Register) (start : Nat) : List Instruction :=
  [.subtract rd (.constant 1), .branch (.register rd) .gt (.constant 0) (some start)]

theorem leads_countdown {rd : Register} {start k : Nat} (hk : k < 2147483648)
    (hc : Listed code place (countdown rd start)) (hs : start < code.size) (m : Machine σ)
    (hm : m.registers.get rd = .ofNat (k + 1)) (steps : Nat) :
    Leads board code ⟨m, place, steps⟩
      ⟨m.put rd (.ofNat k), if 0 < k then start else place + 2, steps + 2⟩ := by
  have hsub : m.execute board (.subtract rd (.constant 1)) = (.next, m.put rd (.ofNat k)) := by
    rw [Machine.execute, hm, Int32.ofNat_add]
    exact congrArg (fun v => (Flow.next, m.put rd v)) (Int32.add_sub_cancel _ _)
  refine (leads_of_next hc hsub).trans (.step ?_ (.refl _))
  rw [step_calm hc.tail.getElem?_eq, perform, Machine.execute]
  simp only [Machine.eval, get_put, Comparison.holds, decide_eq_true_eq, ofNat_pos_iff hk]
  by_cases hpos : 0 < k
  · simp only [if_pos hpos, follow, if_pos hs]
  · simp only [if_neg hpos]

/-- A body and a countdown after it play the body as often as the register says. -/
theorem plays_countdown (h : List.Forall₂ (Instruction.Does board) block actions) {rd : Register}
    {k : Nat} (hlt : k + 1 < 2147483648) (hc : Listed code place (block ++ countdown rd place))
    (m : Machine σ) (hm : m.registers.get rd = .ofNat (k + 1)) (steps : Nat) :
    ∃ m' steps', Leads board code ⟨m, place, steps⟩ ⟨m', place + block.length + 2, steps'⟩ ∧
      m'.mailbox = m.mailbox ∧
        m'.pins = (m.acts board (List.replicate (k + 1) actions).flatten).pins := by
  have hsize : place < code.size := hc.lt_size (by simp [countdown])
  induction k generalizing m steps with
  | zero =>
    have hbody := leads_block h hc.left m steps
    have hend := @leads_countdown _ board _ _ _ _ 0 (by decide) hc.right hsize
      (m.acts board actions) hm (steps + block.length)
    refine ⟨_, _, hbody.trans hend, rfl, ?_⟩
    simp [Machine.acts, Machine.put]
  | succ k ih =>
    have hbody := leads_block h hc.left m steps
    have hend := @leads_countdown _ board _ _ _ _ (k + 1) (by omega) hc.right hsize
      (m.acts board actions) hm (steps + block.length)
    rw [if_pos (Nat.succ_pos k)] at hend
    obtain ⟨m', steps', hleads, hmailbox, hpins⟩ := ih (by omega)
      ((m.acts board actions).put rd (.ofNat (k + 1))) (get_put _ _ _) (steps + block.length + 2)
    refine ⟨m', steps', (hbody.trans hend).trans hleads, hmailbox, ?_⟩
    rw [hpins]
    simp [Machine.acts, Machine.put, List.replicate_succ, List.foldl_append]

/-- A loop that counts down from a positive number plays its body so many times. -/
theorem plays_loop (h : List.Forall₂ (Instruction.Does board) block actions) {rd : Register}
    {k : Nat} (hk : 0 < k) (hlt : k < 2147483648)
    (hc : Listed code place
      ([.setRegister rd (.constant (.ofNat k))] ++ (block ++ countdown rd (place + 1)))) :
    Plays board code place (place + 1 + block.length + 2) (List.replicate k actions).flatten := by
  intro m steps
  obtain ⟨k, rfl⟩ := Nat.exists_eq_succ_of_ne_zero (Nat.ne_of_gt hk)
  have hset : Leads board code ⟨m, place, steps⟩
      ⟨m.put rd (.ofNat (k + 1)), place + 1, steps + 1⟩ := leads_of_next hc rfl
  obtain ⟨m', steps', hleads, hmailbox, hpins⟩ :=
    plays_countdown h hlt hc.right (m.put rd (.ofNat (k + 1))) (get_put _ _ _) (steps + 1)
  exact ⟨m', steps', hset.trans hleads, hmailbox, hpins⟩

end Run

end Coprocessor.Script
