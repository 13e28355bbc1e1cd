import Coprocessor.Pins.Bank
import Coprocessor.Proofs.Tune.Assembly

/-!
# Performances

What playing a tune does to the pins (`Tune.performance`) : the pins are set to output, a
note drives the buzzer high and low for as many periods as fit into its duration, at least
one, a rest waits, and the gap follows each of them. The score of a tune, where it is a program
at all, does just that and returns zero (`Tune.plays_score`).
-/

namespace Coprocessor.Tune

open Script Pins

/-! ## Actions -/

/-- A rest : whole milliseconds, and then the rest of it in microseconds. -/
def restActions (micros : Nat) : List Action :=
  (if micros / 1000 = 0 then [] else [.waitMillis (.ofNat (micros / 1000))]) ++
    (if micros % 1000 = 0 then [] else [.waitMicros (.ofNat (micros % 1000))])

/-- Drives the lamp, if there is one. -/
def lampActions (t : Tune) (high : Bool) : List Action :=
  if t.hasLamp then [.digital t.lamp.toInt32 high] else []

/-- One period of a note. -/
def periodActions (buzzer : UInt32) (half : Nat) : List Action :=
  [.digital buzzer.toInt32 true, .waitMicros (.ofNat half), .digital buzzer.toInt32 false,
    .waitMicros (.ofNat half)]

/-- A note that sounds : the periods that fit into its duration, at least one. -/
def soundActions (t : Tune) (half : Nat) (n : Note) : List Action :=
  lampActions t true ++
    (List.replicate (max 1 (n.duration.toNat / (2 * half)))
      (periodActions t.buzzer half)).flatten ++ lampActions t false

/-- The pause after a note. A number that does not fit into 31 bits is no time. -/
def gapActions (t : Tune) : List Action :=
  if t.gap = 0 then [] else [.waitMillis (if t.gap.toNat < 2147483648 then t.gap else 0)]

/-- A note and the pause after it. -/
def noteActions (halfPeriod : UInt8 → Nat) (t : Tune) (n : Note) : List Action :=
  (if n.isRest then restActions n.duration.toNat else soundActions t (halfPeriod n.pitch) n) ++
    gapActions t

/-- Sets the pins to output. -/
def openingActions (t : Tune) : List Action :=
  .mode t.buzzer.toInt32 .output :: if t.hasLamp then [.mode t.lamp.toInt32 .output] else []

/-- All of a tune. -/
def performance (halfPeriod : UInt8 → Nat) (t : Tune) : List Action :=
  openingActions t ++ t.notes.flatMap (noteActions halfPeriod t)

/-! ## What the code does -/

variable {σ : Type} {board : Board σ}

/-- Code does actions one by one. -/
abbrev DoAll (board : Board σ) (is : List Instruction) (actions : List Action) : Prop :=
  List.Forall₂ (Instruction.Does board) is actions

theorem does_output (pin : UInt32) :
    (outputCode pin).Does board (.mode pin.toInt32 .output) :=
  fun _ => rfl

theorem does_level (pin : UInt32) (high : Bool) :
    (levelCode pin high).Does board (.digital pin.toInt32 high) := by
  cases high <;> exact fun _ => rfl

theorem waitTime_ofNat {n : Nat} (hn : n < 2147483648) :
    Machine.waitTime (.ofNat n) = .ofNat n := by
  have hpos : ¬Int32.ofNat n < 0 := by
    rw [Int32.lt_iff_toInt_lt, Int32.toInt_ofNat_of_lt hn, Int32.toInt_zero]
    omega
  rw [Machine.waitTime, if_neg hpos]
  rfl

theorem waitTime_of_le {n : Nat} (hle : 2147483648 ≤ n) (hn : n < 4294967296) :
    Machine.waitTime (.ofNat n) = 0 := by
  have hneg : Int32.ofNat n < 0 := by
    rw [Int32.lt_iff_toInt_lt, Int32.toInt_ofNat', Int32.toInt_zero, Int.bmod_def]
    simp only [Int32.size]
    split <;> omega
  rw [Machine.waitTime, if_pos hneg]

theorem does_millis {n : Nat} (hn : n < 2147483648) :
    (millisCode n).Does board (.waitMillis (.ofNat n)) := by
  intro m
  rw [← waitTime_ofNat hn]
  rfl

theorem does_micros {n : Nat} (hn : n < 2147483648) :
    (microsCode n).Does board (.waitMicros (.ofNat n)) := by
  intro m
  rw [← waitTime_ofNat hn]
  rfl

theorem doAll_rest {micros : Nat} (hd : micros < 4294967296) :
    DoAll board (restCode micros) (restActions micros) := by
  refine List.rel_append ?_ ?_
  · split
    · exact .nil
    · exact .cons (does_millis (by omega)) .nil
  · split
    · exact .nil
    · exact .cons (does_micros (by omega)) .nil

theorem doAll_lamp (t : Tune) (high : Bool) :
    DoAll board (lampCode t high) (lampActions t high) := by
  unfold lampCode lampActions
  split
  · exact .cons (does_level _ _) .nil
  · exact .nil

theorem doAll_period (buzzer : UInt32) {half : Nat} (hh : half < 2147483648) :
    DoAll board (periodCode buzzer half) (periodActions buzzer half) :=
  .cons (does_level _ _) (.cons (does_micros hh) (.cons (does_level _ _)
    (.cons (does_micros hh) .nil)))

/-- A wait for a number that does not fit into 31 bits does not wait. -/
theorem doAll_gap (t : Tune) : DoAll board (gapCode t) (gapActions t) := by
  unfold gapCode gapActions
  split
  · exact .nil
  · refine .cons ?_ .nil
    split
    case isTrue h =>
      have hdoes := @does_millis _ board _ h
      rwa [UInt32.ofNat_toNat] at hdoes
    case isFalse h =>
      have hwait := waitTime_of_le (Nat.le_of_not_lt h) t.gap.toNat_lt
      intro m
      rw [← hwait]
      rfl

theorem doAll_opening (t : Tune) : DoAll board (openingCode t) (openingActions t) := by
  refine .cons (does_output _) ?_
  split
  · exact .cons (does_output _) .nil
  · exact .nil

/-! ## Notes -/

variable {code : Array Instruction} {place : Nat} {t : Tune} {halfPeriod : UInt8 → Nat}

/-- There are fewer than `2 ^ 31` periods in a note. -/
theorem cycles_lt {half : Nat} (hh : 1 ≤ half) (n : Note) : cycles half n < 2147483648 := by
  have hd := n.duration.toNat_lt
  have hle : n.duration.toNat / (2 * half) ≤ n.duration.toNat / 2 :=
    Nat.div_le_div_left (by omega) (by decide)
  unfold cycles
  omega

theorem plays_sound {half : Nat} (hh : 1 ≤ half) (hlt : half < 2147483648) {n : Note}
    (hc : Run.Listed code place (soundCode t half place n)) :
    Run.Plays board code place (place + (soundCode t half place n).length)
      (soundActions t half n) := by
  have hlamp := Run.plays_block (@doAll_lamp _ board t true) hc.left.left
  have hloop := Run.plays_loop (@doAll_period _ board t.buzzer _ hlt)
    (Nat.le_max_left 1 (n.duration.toNat / (2 * half))) (cycles_lt hh n) hc.left.right
  have hdark := Run.plays_block (@doAll_lamp _ board t false) hc.right
  have hplace : place + (lampCode t true).length + 1 + (periodCode t.buzzer half).length + 2 =
      place + (lampCode t true ++ ([setCode (cycles half n)] ++ (periodCode t.buzzer half ++
        Run.countdown counter (place + (lampCode t true).length + 1)))).length := by
    simp [Run.countdown]
    omega
  rw [hplace] at hloop
  have hall := (hlamp.append hloop).append hdark
  rw [soundCode, List.length_append, ← Nat.add_assoc]
  exact hall

theorem plays_note {n : Note} (hh : 1 ≤ halfPeriod n.pitch) (hlt : halfPeriod n.pitch < 2147483648)
    (hc : Run.Listed code place (noteCode halfPeriod t place n)) :
    Run.Plays board code place (place + (noteCode halfPeriod t place n).length)
      (noteActions halfPeriod t n) := by
  have hgap := Run.plays_block (@doAll_gap _ board t) hc.right
  rw [noteCode, noteActions, List.length_append, ← Nat.add_assoc]
  refine Run.Plays.append ?_ hgap
  have hnote := hc.left
  by_cases hr : n.isRest = true
  · rw [if_pos hr] at hnote
    rw [if_pos hr, if_pos hr]
    exact Run.plays_block (doAll_rest n.duration.toNat_lt) hnote
  · rw [if_neg hr] at hnote
    rw [if_neg hr, if_neg hr]
    exact plays_sound hh hlt hnote

theorem plays_notes {ns : List Note}
    (hh : ∀ n ∈ ns, 1 ≤ halfPeriod n.pitch ∧ halfPeriod n.pitch < 2147483648)
    (hc : Run.Listed code place (notesCode halfPeriod t place ns)) :
    Run.Plays board code place (place + (notesCode halfPeriod t place ns).length)
      (ns.flatMap (noteActions halfPeriod t)) := by
  induction ns generalizing place with
  | nil => exact .nil
  | cons n ns ih =>
    obtain ⟨hn, hns⟩ := List.forall_mem_cons.mp hh
    rw [notesCode, List.length_append, ← Nat.add_assoc, List.flatMap_cons]
    exact (plays_note hn.1 hn.2 hc.left).append (ih hns hc.right)

/-! ## Tunes -/

theorem log_acts (board : Board σ) (actions : List Action) (s : σ × List Use) :
    (actions.foldl (fun s a => board.logged.act a s) s).2 =
      actions.reverse.map Use.action ++ s.2 := by
  rw [foldl_act_logged]

/-- A score that is a program returns zero, however long it takes to play it, and all that it
does to the pins, on whatever board, is the performance of the tune. The mailbox is as it was. -/
theorem plays_score {limits : Limits} {p : Program}
    (hp : Program.parse limits (t.scoreWith halfPeriod) = .ok p)
    (hh : ∀ pitch, 1 ≤ halfPeriod pitch ∧ halfPeriod pitch < 1073741824) (board : Board σ)
    (mailbox : Mailbox) (pins : σ) (log : List Use) {watch : Run (σ × List Use) → Sample}
    (hw : ∀ r, (watch r).cancelled = false) :
    ∃ fuel steps m, (Run.start (.load [] mailbox (pins, log))).finish board.logged p.instructions 0
        watch fuel = some (⟨0, .returned, steps⟩, m) ∧
      m.mailbox = mailbox ∧
        m.pins.2 = (t.performance halfPeriod).reverse.map Use.action ++ log := by
  have hlisted : Run.Listed p.instructions 0 (openingCode t ++
      notesCode halfPeriod t (openingCode t).length t.notes ++ [.ret (.constant 0)]) := by
    rw [Run.Listed, instructions_score hp, code]
    exact List.prefix_refl _
  have hbound : ∀ n ∈ t.notes, 1 ≤ halfPeriod n.pitch ∧ halfPeriod n.pitch < 2147483648 :=
    fun n _ => ⟨(hh n.pitch).1, Nat.lt_trans (hh n.pitch).2 (by decide)⟩
  have hopening := Run.plays_block (@doAll_opening _ board.logged t) hlisted.left.left
  have hright := hlisted.left.right
  rw [Nat.zero_add] at hopening hright
  have hnotes := @plays_notes _ board.logged _ _ _ _ _ hbound hright
  have hlast := hlisted.right
  rw [List.length_append, Nat.zero_add] at hlast
  obtain ⟨fuel, steps, m, hfinish, hmailbox, hpins⟩ :=
    (hopening.append hnotes).exists_finish hlast (.load [] mailbox (pins, log)) hw
  refine ⟨fuel, steps, m, hfinish, hmailbox, ?_⟩
  rw [hpins]
  exact log_acts board _ _

/-- A rest of 2.5 ms and a note of two periods, with a lamp at pin -1 and a gap, are played. -/
theorem plays_two_notes :
    let t : Tune := ⟨1, 25, 0xFFFFFFFF, 5, [⟨0, 0, 0, 2500⟩, ⟨69, 0, 0, 5000⟩]⟩
    let period : List Action :=
      [.digital 25 true, .waitMicros 1000, .digital 25 false, .waitMicros 1000]
    let played : List Action := [.mode 25 .output, .mode (-1) .output, .waitMillis 2,
      .waitMicros 500, .waitMillis 5, .digital (-1) true] ++ period ++ period ++
        [.digital (-1) false, .waitMillis 5]
    ∃ p, Program.parse {} (t.scoreWith fun _ => 1000) = .ok p ∧
      ∃ fuel steps m, (Run.start (.load [] (.empty 16) (({} : Bank), []))).finish
          Bank.board.logged p.instructions 0 (fun _ => .calm) fuel =
            some (⟨0, .returned, steps⟩, m) ∧
        m.mailbox = .empty 16 ∧ m.pins.2 = played.reverse.map Use.action := by
  intro t period played
  have admitted : (Program.parse {} (t.scoreWith fun _ => 1000)).isOk = true := by decide +kernel
  obtain ⟨p, hp⟩ : ∃ p, Program.parse {} (t.scoreWith fun _ => 1000) = .ok p := by
    cases h : Program.parse {} (t.scoreWith fun _ => 1000) with
    | ok p => exact ⟨p, rfl⟩
    | error e =>
      rw [h] at admitted
      cases admitted
  obtain ⟨fuel, steps, m, hfinish, hmailbox, hlog⟩ := plays_score hp
    (fun _ => ⟨by decide, by decide⟩) Bank.board (.empty 16) {} []
    fun _ => (rfl : Sample.calm.cancelled = false)
  refine ⟨p, hp, fuel, steps, m, hfinish, hmailbox, ?_⟩
  rw [hlog]
  decide +kernel

end Coprocessor.Tune
