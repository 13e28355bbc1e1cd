import Coprocessor.CommandLine.Host
import Coprocessor.Proofs.Tune.ByteForm
import Coprocessor.Proofs.Tune.Timing
import Mathlib.Algebra.Group.Action.Defs
import Mathlib.Algebra.Order.BigOperators.Group.List

/-!
# Announced times and time limits

The time limit of the run that plays a tune comes from the announced time : it is one second
more, as far as 32 bits go (`Tune.toNat_budget`). The announced time is a sum in 64 bits. So it
is the playing time if that fits into 64 bits, and else it is less (`Tune.announces_playing_time`).

The notes decide which it is. A note and its pause take less than `2 ^ 42` microseconds, so some
four million notes fit whatever they are (`Tune.playingTime_lt`). A file may hold more of them :
with the longest pause there is, one of 34 megabytes announces five weeks for a playing time of
584 thousand years (`Tune.understates_long_pauses`).
-/

namespace Coprocessor.Tune

open Host CommandLine

variable {t : Tune}

/-! ## Playing times -/

/-- The longest time that a note and its pause may take, in microseconds. -/
def longestNote : Nat :=
  1001 * 4294967295

/-- The greatest number of notes whose times fit into 64 bits whatever they are. -/
def safeCount : Nat :=
  4290676

theorem playingTime_le (t : Tune) :
    t.playingTime t.gap.toNat ≤ t.notes.length * longestNote := by
  have hgap := t.gap.toNat_lt
  have hnote : ∀ x ∈ t.notes.map (fun n => n.duration.toNat + t.gap.toNat * 1000),
      x ≤ longestNote := by
    intro x hx
    obtain ⟨n, -, rfl⟩ := List.mem_map.mp hx
    have hduration := n.duration.toNat_lt
    rw [longestNote]
    omega
  have hsum := List.sum_le_card_nsmul _ _ hnote
  rwa [List.length_map, smul_eq_mul] at hsum

/-- Few notes play for less than `2 ^ 64` microseconds. -/
theorem playingTime_lt (h : t.notes.length ≤ safeCount) :
    t.playingTime t.gap.toNat < 2 ^ 64 :=
  calc t.playingTime t.gap.toNat
    _ ≤ t.notes.length * longestNote := playingTime_le t
    _ ≤ safeCount * longestNote := Nat.mul_le_mul_right _ h
    _ < 2 ^ 64 := by decide

/-- Equal notes play as many times as long as one of them. -/
theorem playingTime_of_replicate {count : Nat} {n : Note} (h : t.notes = List.replicate count n)
    (pause : Nat) : t.playingTime pause = count * (n.duration.toNat + pause * 1000) := by
  rw [playingTime, h, List.map_replicate, List.sum_replicate_nat]

/-! ## Announced times -/

theorem duration_eq_iff :
    t.duration.toNat = t.playingTime t.gap.toNat ↔ t.playingTime t.gap.toNat < 2 ^ 64 := by
  rw [toNat_duration]
  exact Nat.mod_eq_iff_lt (by decide)

/-- The time limit of a run, in milliseconds. -/
theorem toNat_budget (t : Tune) :
    t.budget.toNat = min (2 ^ 32 - 1) (t.duration.toNat / 1000 + 1000) :=
  UInt32.toNat_ofNat_of_lt' (Nat.lt_of_le_of_lt (Nat.min_le_left _ _) (by decide))

/-- The playing time of a tune that is read is announced up to multiples of `2 ^ 64` microseconds,
so it is announced exactly if it is less, as it is in all files of less than 34 megabytes. Then the
run that plays the tune may take the playing time and one second, as far as 32 bits go. -/
theorem announces_playing_time {data : Bytes} (h : read data = .ok t) :
    t.duration.toNat = t.playingTime t.gap.toNat % 2 ^ 64 ∧
    t.budget.toNat = min (2 ^ 32 - 1) (t.playingTime t.gap.toNat % 2 ^ 64 / 1000 + 1000) ∧
    (t.duration.toNat = t.playingTime t.gap.toNat ↔ t.playingTime t.gap.toNat < 2 ^ 64) ∧
    (t.playingTime t.gap.toNat < 2 ^ 64 →
      t.budget.toNat = min (2 ^ 32 - 1) (t.playingTime t.gap.toNat / 1000 + 1000)) ∧
    (data.length < headerSize + Note.size * (safeCount + 1) →
      t.playingTime t.gap.toNat < 2 ^ 64) ∧
    ∀ (up : Uploading) (files : HostOrder.Files) (path : String) (play : Bool),
      files path = .ok data →
      HostOrder.calls up files (.tune path play) = .ok (do
        let _ ← Call.loadScript up t.score
        HostOrder.line (Call.scriptExec [] t.budget .binary) toString) := by
  have hduration : t.duration.toNat = t.playingTime t.gap.toNat % 2 ^ 64 := toNat_duration t
  have hbudget := toNat_budget t
  rw [hduration] at hbudget
  refine ⟨hduration, hbudget, duration_eq_iff, fun hlt => ?_, fun hlength => ?_, ?_⟩
  · rw [hbudget, Nat.mod_eq_of_lt hlt]
  · obtain ⟨hwhole, -⟩ := write_of_read h
    refine playingTime_lt ?_
    simp only [Note.size] at hwhole hlength
    omega
  · intro up files path play hfile
    simp only [HostOrder.calls, HostOrder.tuneIn, hfile, h]
    rfl

/-- A rest of half a second and a note of five milliseconds, with pauses of two milliseconds. -/
theorem announces_playing_time_of_two_notes :
    let t : Tune := ⟨0, 9, 13, 2, [⟨0, 0, 0, 500000⟩, ⟨69, 0, 0, 5000⟩]⟩
    read t.write = .ok t ∧ t.write.length < headerSize + Note.size * (safeCount + 1) ∧
      t.playingTime t.gap.toNat < 2 ^ 64 ∧ t.duration.toNat = 509000 ∧ t.budget.toNat = 1509 ∧
      HostOrder.calls {} (fun _ => .ok t.write) (.tune "two" true) = .ok (do
        let _ ← Call.loadScript {} t.score
        HostOrder.line (Call.scriptExec [] t.budget .binary) toString) := by
  intro t
  have few : t.notes.length < 2 ^ 32 := by decide
  have hread : read t.write = .ok t := by
    have hwhole := read_write_append few []
    rwa [List.append_nil] at hwhole
  have hlength : t.write.length < headerSize + Note.size * (safeCount + 1) := by decide
  have htime : t.playingTime t.gap.toNat = 509000 := by decide
  obtain ⟨-, -, hduration, hbudget, hbound, hcalls⟩ := announces_playing_time hread
  have hlt := hbound hlength
  have hduration := hduration.mpr hlt
  have hbudget := hbudget hlt
  rw [htime] at hduration hbudget
  exact ⟨hread, hlength, hlt, hduration, hbudget, hcalls {} _ "two" true rfl⟩

/-- A tune with pauses of `2 ^ 32 - 1` milliseconds, the longest there are, is read back, but
4294968 of them and more are no longer announced in full, and the time limit falls short of what
it could be. -/
theorem understates_long_pauses :
    let t : Tune := ⟨0, 25, 0, 4294967295, List.replicate 4294968 ⟨0, 0, 0, 0⟩⟩
    read t.write = .ok t ∧
      t.playingTime t.gap.toNat = 18446747093071560000 ∧
      t.duration.toNat = 3019362008384 ∧
      t.duration.toNat ≠ t.playingTime t.gap.toNat ∧
      t.budget.toNat = 3019363008 ∧
      t.budget.toNat ≠ min (2 ^ 32 - 1) (t.playingTime t.gap.toNat / 1000 + 1000) := by
  intro t
  have few : t.notes.length < 2 ^ 32 := by
    rw [List.length_replicate]
    decide
  have hread : read t.write = .ok t := by
    have hwhole := read_write_append few []
    rwa [List.append_nil] at hwhole
  have htime : t.playingTime t.gap.toNat = 18446747093071560000 :=
    @playingTime_of_replicate t 4294968 ⟨0, 0, 0, 0⟩ rfl 4294967295
  have hduration : t.duration.toNat = 3019362008384 := by
    rw [toNat_duration, htime]
  have hbudget : t.budget.toNat = 3019363008 := by
    rw [toNat_budget, hduration]
    rfl
  refine ⟨hread, htime, hduration, ?_, hbudget, ?_⟩
  · rw [hduration, htime]
    decide
  · rw [hbudget, htime]
    decide

end Coprocessor.Tune
