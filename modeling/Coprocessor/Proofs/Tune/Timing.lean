import Coprocessor.Proofs.Tune.Performance
import Mathlib.Data.Nat.Dist

/-!
# Playing times

How long a score waits in all, and how far that is from the playing time that its tune
announces (`Tune.plays_timely`). A rest waits for its duration to the microsecond. A note that
sounds is played in whole periods, at least one, so it may miss its duration by one period
(`Tune.dist_sound`), and these add up over the notes.

Pauses are exact below `2 ^ 31` milliseconds only. From there on the numeral of a pause is read
as a negative number, for which there is no wait, while the playing time counts it in full
(`Tune.skips_long_gap`).
-/

namespace Coprocessor

namespace Pins

/-- The time that actions wait, in microseconds. -/
def totalMicros (actions : List Action) : Nat :=
  (actions.map Action.micros).sum

/-- The time that a use of a board waits, in microseconds. -/
def Use.micros : Use → Nat
  | .action a => a.micros
  | .digitalRead _ | .analogRead _ => 0

/-- The time that all the uses in a log wait, in microseconds. -/
def waited (log : List Use) : Nat :=
  (log.map Use.micros).sum

@[simp] theorem totalMicros_nil : totalMicros [] = 0 :=
  rfl

@[simp] theorem totalMicros_cons (a : Action) (actions : List Action) :
    totalMicros (a :: actions) = a.micros + totalMicros actions :=
  rfl

@[simp] theorem totalMicros_append (actions actions' : List Action) :
    totalMicros (actions ++ actions') = totalMicros actions + totalMicros actions' := by
  simp [totalMicros]

theorem totalMicros_replicate (count : Nat) (actions : List Action) :
    totalMicros (List.replicate count actions).flatten = count * totalMicros actions := by
  induction count with
  | zero => simp
  | succ count ih =>
    rw [List.replicate_succ, List.flatten_cons, totalMicros_append, ih, Nat.succ_mul, Nat.add_comm]

/-- A log waits as long as the actions in it. -/
theorem waited_log (actions : List Action) :
    waited (actions.reverse.map Use.action) = totalMicros actions := by
  have hmicros : Use.micros ∘ Use.action = Action.micros := rfl
  rw [waited, List.map_map, hmicros, List.map_reverse, List.sum_reverse, totalMicros]

end Pins

namespace Tune

open Script Pins

variable {halfPeriod : UInt8 → Nat} {t : Tune}

/-! ## Announced times -/

/-- The playing time of a tune, in microseconds, if the pause after each note takes so many
milliseconds. -/
def playingTime (t : Tune) (pause : Nat) : Nat :=
  (t.notes.map fun n => n.duration.toNat + pause * 1000).sum

/-- The length of the pause that is played after each note, in milliseconds. -/
def playedGap (t : Tune) : Nat :=
  if t.gap.toNat < 2147483648 then t.gap.toNat else 0

/-- How far the playing time of a note may be off : one period, if it sounds. -/
def noteSlack (halfPeriod : UInt8 → Nat) (n : Note) : Nat :=
  if n.isRest then 0 else 2 * halfPeriod n.pitch

/-- How far the playing time of a tune may be off : one period of every note that sounds. -/
def slack (halfPeriod : UInt8 → Nat) (t : Tune) : Nat :=
  (t.notes.map (noteSlack halfPeriod)).sum

/-- A total in 64 bits is what the times of notes amount to, as far as 64 bits go. -/
theorem toNat_foldl_times (gap : UInt32) (ns : List Note) (total : UInt64) :
    (ns.foldl (fun total n => total + (n.duration.toUInt64 + gap.toUInt64 * 1000)) total).toNat =
      (total.toNat + (ns.map fun n => n.duration.toNat + gap.toNat * 1000).sum) %
        18446744073709551616 := by
  induction ns generalizing total with
  | nil => exact (Nat.mod_eq_of_lt total.toNat_lt).symm
  | cons n ns ih =>
    rw [List.foldl_cons, ih, List.map_cons, List.sum_cons, UInt64.toNat_add, UInt64.toNat_add,
      UInt64.toNat_mul, UInt32.toNat_toUInt64, UInt32.toNat_toUInt64]
    simp [Nat.add_assoc]

/-- The announced time is the playing time with the pauses that the tune asks for, as far as
64 bits go. -/
theorem toNat_duration (t : Tune) :
    t.duration.toNat = t.playingTime t.gap.toNat % 18446744073709551616 := by
  rw [duration, toNat_foldl_times, UInt64.toNat_zero, Nat.zero_add, playingTime]

/-! ## Played times -/

theorem totalMicros_rest {micros : Nat} (hd : micros < 4294967296) :
    totalMicros (restActions micros) = micros := by
  have hmillis : (UInt32.ofNat (micros / 1000)).toNat = micros / 1000 :=
    UInt32.toNat_ofNat_of_lt' (by simp only [UInt32.size]; omega)
  have hmicros : (UInt32.ofNat (micros % 1000)).toNat = micros % 1000 :=
    UInt32.toNat_ofNat_of_lt' (by simp only [UInt32.size]; omega)
  rw [restActions, totalMicros_append]
  split <;> split <;> simp only [totalMicros_nil, totalMicros_cons, Action.micros, hmillis,
    hmicros] <;> omega

theorem totalMicros_lamp (t : Tune) (high : Bool) : totalMicros (lampActions t high) = 0 := by
  unfold lampActions
  split <;> rfl

theorem totalMicros_opening (t : Tune) : totalMicros (openingActions t) = 0 := by
  unfold openingActions
  split <;> rfl

theorem totalMicros_period (buzzer : UInt32) {half : Nat} (hh : half < 4294967296) :
    totalMicros (periodActions buzzer half) = 2 * half := by
  have hhalf : (UInt32.ofNat half).toNat = half := UInt32.toNat_ofNat_of_lt' hh
  simp only [periodActions, totalMicros_nil, totalMicros_cons, Action.micros, hhalf]
  omega

theorem totalMicros_gap (t : Tune) : totalMicros (gapActions t) = t.playedGap * 1000 := by
  unfold gapActions playedGap
  by_cases hzero : t.gap = 0
  · simp [hzero]
  · rw [if_neg hzero]
    split <;> simp [Action.micros]

theorem totalMicros_sound {half : Nat} (hh : half < 4294967296) (n : Note) :
    totalMicros (soundActions t half n) =
      max 1 (n.duration.toNat / (2 * half)) * (2 * half) := by
  rw [soundActions, totalMicros_append, totalMicros_append, totalMicros_lamp, totalMicros_lamp,
    totalMicros_replicate, totalMicros_period _ hh, Nat.zero_add, Nat.add_zero]

/-- Whole periods miss a duration by one period at most : they are too short by the remainder,
or there is only one of them. -/
theorem dist_periods {period : Nat} (hp : 0 < period) (micros : Nat) :
    Nat.dist (max 1 (micros / period) * period) micros ≤ period := by
  have hdiv := Nat.div_add_mod micros period
  have hmod := Nat.mod_lt micros hp
  rcases Nat.eq_zero_or_pos (micros / period) with hzero | hpos
  · rw [hzero, Nat.mul_zero] at hdiv
    rw [hzero, Nat.max_eq_left (Nat.zero_le 1), Nat.one_mul, Nat.dist]
    omega
  · rw [Nat.max_eq_right hpos, Nat.mul_comm, Nat.dist]
    omega

theorem dist_sound {half : Nat} (hh : 1 ≤ half) (hlt : half < 4294967296) (n : Note) :
    Nat.dist (totalMicros (soundActions t half n)) n.duration.toNat ≤ 2 * half := by
  rw [totalMicros_sound hlt]
  exact dist_periods (by omega) _

theorem dist_note {n : Note} (hh : 1 ≤ halfPeriod n.pitch)
    (hlt : halfPeriod n.pitch < 4294967296) :
    Nat.dist (totalMicros (noteActions halfPeriod t n))
      (n.duration.toNat + t.playedGap * 1000) ≤ noteSlack halfPeriod n := by
  rw [noteActions, totalMicros_append, totalMicros_gap, Nat.dist_add_add_right, noteSlack]
  by_cases hr : n.isRest = true
  · rw [if_pos hr, if_pos hr, totalMicros_rest n.duration.toNat_lt, Nat.dist_self]
  · rw [if_neg hr, if_neg hr]
    exact dist_sound hh hlt n

/-- Distances add up. -/
theorem dist_add_le {a b c d s s' : Nat} (h : Nat.dist a b ≤ s) (h' : Nat.dist c d ≤ s') :
    Nat.dist (a + c) (b + d) ≤ s + s' := by
  simp only [Nat.dist] at *
  omega

theorem dist_notes {ns : List Note}
    (hh : ∀ n ∈ ns, 1 ≤ halfPeriod n.pitch ∧ halfPeriod n.pitch < 4294967296) :
    Nat.dist (totalMicros (ns.flatMap (noteActions halfPeriod t)))
      (ns.map fun n => n.duration.toNat + t.playedGap * 1000).sum ≤
        (ns.map (noteSlack halfPeriod)).sum := by
  induction ns with
  | nil => exact Nat.le_refl 0
  | cons n ns ih =>
    obtain ⟨hn, hns⟩ := List.forall_mem_cons.mp hh
    rw [List.flatMap_cons, totalMicros_append, List.map_cons, List.sum_cons, List.map_cons,
      List.sum_cons]
    exact dist_add_le (dist_note hn.1 hn.2) (ih hns)

/-- A performance takes the playing time with the pauses that are played, give or take one
period of every note that sounds. -/
theorem dist_performance
    (hh : ∀ pitch, 1 ≤ halfPeriod pitch ∧ halfPeriod pitch < 4294967296) (t : Tune) :
    Nat.dist (totalMicros (t.performance halfPeriod)) (t.playingTime t.playedGap) ≤
      t.slack halfPeriod := by
  rw [performance, totalMicros_append, totalMicros_opening, Nat.zero_add]
  exact dist_notes fun n _ => hh n.pitch

/-! ## Runs -/

variable {σ : Type} {limits : Limits} {p : Program}

/-- The half periods that scores have. -/
theorem halfPeriod_bounds :
    ∀ pitch, 1 ≤ Note.halfPeriod pitch ∧ Note.halfPeriod pitch < 1073741824 := by
  have table : ∀ n < 256, 1 ≤ Note.halfPeriod (.ofNat n) ∧
      Note.halfPeriod (.ofNat n) < 1073741824 := by
    decide +kernel
  intro pitch
  have h := table pitch.toNat pitch.toNat_lt
  rwa [UInt8.ofNat_toNat] at h

theorem exists_parse_of_isOk {text : Bytes} (h : (Program.parse limits text).isOk = true) :
    ∃ p, Program.parse limits text = .ok p := by
  cases hp : Program.parse limits text with
  | ok p => exact ⟨p, rfl⟩
  | error e =>
    rw [hp] at h
    cases h

/-- A score that is a program plays the performance and comes to its last statement. -/
theorem plays_performance (hp : Program.parse limits (t.scoreWith halfPeriod) = .ok p)
    (hh : ∀ pitch, 1 ≤ halfPeriod pitch ∧ halfPeriod pitch < 1073741824) (board : Board σ) :
    ∃ place, Run.Listed p.instructions place [.ret (.constant 0)] ∧
      Run.Plays board p.instructions 0 place (t.performance halfPeriod) := by
  have hlisted : Run.Listed p.instructions 0 (t.code halfPeriod) := by
    rw [Run.Listed, instructions_score hp]
    exact List.prefix_refl _
  have hopening := Run.plays_block (@doAll_opening _ board t) hlisted.left.left
  have hright := hlisted.left.right
  rw [Nat.zero_add] at hopening hright
  have hnotes := @plays_notes _ board _ _ _ _ _
    (fun n _ => (hh n.pitch).imp_right fun h => Nat.lt_trans h (by decide)) hright
  have hlast := hlisted.right
  rw [List.length_append, Nat.zero_add] at hlast
  exact ⟨_, hlast, hopening.append hnotes⟩

/-- A score that is a program finishes, and it waits as long as the performance does. -/
theorem exists_finish_score (hp : Program.parse limits (t.scoreWith halfPeriod) = .ok p)
    (hh : ∀ pitch, 1 ≤ halfPeriod pitch ∧ halfPeriod pitch < 1073741824) (board : Board σ)
    (mailbox : Mailbox) (pins : σ) {watch : Run (σ × List Use) → Sample}
    (hw : ∀ r, (watch r).cancelled = false) :
    ∃ fuel steps m, (Run.start (.load [] mailbox (pins, []))).finish board.logged p.instructions 0
        watch fuel = some (⟨0, .returned, steps⟩, m) ∧
      waited m.pins.2 = totalMicros (t.performance halfPeriod) := by
  obtain ⟨place, hlast, hplays⟩ := plays_performance hp hh board.logged
  obtain ⟨fuel, steps, m, hfinish, -, hpins⟩ :=
    hplays.exists_finish hlast (.load [] mailbox (pins, [])) hw
  have hlog : m.pins.2 = (t.performance halfPeriod).reverse.map Use.action ++ [] := by
    rw [hpins]
    exact log_acts board _ _
  refine ⟨fuel, steps, m, hfinish, ?_⟩
  rw [hlog, List.append_nil, waited_log]

/-- A score that is a program finishes, and what it waits in all differs from the playing time
that its tune announces by at most one period of every note that sounds, if a pause is less than
`2 ^ 31` milliseconds and the playing time fits into 64 bits. Without these two provisos it is as
close to the playing time with the pauses that are played, which are none from `2 ^ 31`
milliseconds on. -/
theorem plays_timely (hp : Program.parse limits (t.scoreWith halfPeriod) = .ok p)
    (hh : ∀ pitch, 1 ≤ halfPeriod pitch ∧ halfPeriod pitch < 1073741824) (board : Board σ)
    (mailbox : Mailbox) (pins : σ) {watch : Run (σ × List Use) → Sample}
    (hw : ∀ r, (watch r).cancelled = false) :
    ∃ fuel steps m, (Run.start (.load [] mailbox (pins, []))).finish board.logged p.instructions 0
        watch fuel = some (⟨0, .returned, steps⟩, m) ∧
      (t.gap.toNat < 2147483648 → t.playingTime t.gap.toNat < 18446744073709551616 →
        Nat.dist (waited m.pins.2) t.duration.toNat ≤ t.slack halfPeriod) ∧
      Nat.dist (waited m.pins.2) (t.playingTime t.playedGap) ≤ t.slack halfPeriod := by
  obtain ⟨fuel, steps, m, hfinish, hwaited⟩ := exists_finish_score hp hh board mailbox pins hw
  have hclose : Nat.dist (waited m.pins.2) (t.playingTime t.playedGap) ≤ t.slack halfPeriod := by
    rw [hwaited]
    exact dist_performance (fun pitch => (hh pitch).imp_right fun h => Nat.lt_trans h (by decide)) t
  refine ⟨fuel, steps, m, hfinish, fun hgap hfits => ?_, hclose⟩
  rw [toNat_duration, Nat.mod_eq_of_lt hfits]
  rwa [playedGap, if_pos hgap] at hclose

/-- A rest of 2.5 ms and a note of 5 ms with pauses of 5 ms are played in 17.5 ms, give or take
one period of 440 Hz. -/
theorem plays_timely_of_two_notes :
    let t : Tune := ⟨1, 25, 13, 5, [⟨0, 0, 0, 2500⟩, ⟨69, 0, 0, 5000⟩]⟩
    ∃ p, Program.parse {} t.score = .ok p ∧
      ∃ fuel steps m, (Run.start (.load [] (.empty 16) (({} : Bank), []))).finish
          Bank.board.logged p.instructions 0 (fun _ => .calm) fuel =
            some (⟨0, .returned, steps⟩, m) ∧
        Nat.dist (waited m.pins.2) 17500 ≤ 2272 := by
  intro t
  obtain ⟨p, hp⟩ : ∃ p, Program.parse {} t.score = .ok p :=
    exists_parse_of_isOk (by decide +kernel)
  obtain ⟨fuel, steps, m, hfinish, htimely, -⟩ := plays_timely hp halfPeriod_bounds Bank.board
    (.empty 16) {} fun _ => (rfl : Sample.calm.cancelled = false)
  have hannounced : t.duration.toNat = 17500 := by decide +kernel
  have hslack : t.slack Note.halfPeriod = 2272 := by decide +kernel
  have hclose := htimely (by decide +kernel) (by decide +kernel)
  rw [hannounced, hslack] at hclose
  exact ⟨p, hp, fuel, steps, m, hfinish, hclose⟩

/-- A pause of `2 ^ 31` milliseconds is not played, though nothing sounds that could take some
other time than announced. -/
theorem skips_long_gap :
    let t : Tune := ⟨0, 25, 0, 2147483648, [⟨0, 0, 0, 1000⟩]⟩
    ∃ p, Program.parse {} t.score = .ok p ∧
      ∃ fuel steps m, (Run.start (.load [] (.empty 16) (({} : Bank), []))).finish
          Bank.board.logged p.instructions 0 (fun _ => .calm) fuel =
            some (⟨0, .returned, steps⟩, m) ∧
        waited m.pins.2 = 1000 ∧ t.duration.toNat = 2147483649000 ∧
          t.slack Note.halfPeriod < Nat.dist (waited m.pins.2) t.duration.toNat := by
  intro t
  obtain ⟨p, hp⟩ : ∃ p, Program.parse {} t.score = .ok p :=
    exists_parse_of_isOk (by decide +kernel)
  obtain ⟨fuel, steps, m, hfinish, hwaited⟩ := exists_finish_score hp halfPeriod_bounds Bank.board
    (.empty 16) {} fun _ => (rfl : Sample.calm.cancelled = false)
  have hplayed : totalMicros (t.performance Note.halfPeriod) = 1000 := by decide +kernel
  have hannounced : t.duration.toNat = 2147483649000 := by decide +kernel
  refine ⟨p, hp, fuel, steps, m, hfinish, hwaited.trans hplayed, hannounced, ?_⟩
  rw [hwaited, hplayed, hannounced]
  decide +kernel

end Tune

end Coprocessor
