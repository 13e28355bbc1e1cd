import Coprocessor.Proofs.Device.Execution
import Coprocessor.Proofs.Script.Printing
import Mathlib.Data.Bool.AllAny

/-!
# What is printed is read out

A script of prints, laid out in any way, leaves in the mailbox the text that was there and behind
it all the texts that it prints, up to one byte less than the buffer has. Who then reads the mailbox
is shown this text, as much of it as asked for, and the device keeps it (`Device.prints_texts`).

A run of such a script takes what its statements cost (`Handoff.Costs.statements`), so a device
that is asked to run it gets to its end within any limit on the time that is not shorter than that
(`Device.replies_of_appends`).
-/

namespace Coprocessor

open Handoff Script

/-! ## The time that texts take -/

namespace Handoff.Costs

/-- The time that the first statements of a script take if none of them waits, in nanoseconds. -/
def statements (costs : Costs) : Nat → Nat
  | 0 => 0
  | n + 1 => costs.statements n + max 1 (costs.statement n)

theorem statements_mono (costs : Costs) {m n : Nat} (h : m ≤ n) :
    costs.statements m ≤ costs.statements n := by
  induction h with
  | refl => exact Nat.le_refl _
  | step _ ih => exact Nat.le_add_right_of_le ih

/-- Where no times are given a statement takes a microsecond. -/
theorem statements_usual (n : Nat) : ({} : Costs).statements n = 1000 * n := by
  induction n with
  | zero => rfl
  | succ n ih => rw [statements, ih, Nat.mul_succ]; rfl

end Handoff.Costs

namespace Handoff.Facility

variable {σ τ : Type} {f : Facility σ τ} {m : Machine σ} {texts : List Bytes} {n : Nat}

theorem laps_appends (hn : n ≤ texts.length) :
    f.laps (appends texts) (.start m) n =
      (f.runner.costs.statements n, .along f.board (appends texts) m n) := by
  induction n with
  | zero => rfl
  | succ n ih =>
    have hstep : (Run.along f.board (appends texts) m n).step f.board (appends texts) 0 .calm =
        .inr (.along f.board (appends texts) m (n + 1)) :=
      Run.step_along (fun _ => isStraight_of_mem_appends) (by rwa [size_appends]) rfl
    have hlaps := laps_of_next (ih (Nat.le_of_succ_le hn)) hstep
    have hpins : ∀ n, (Run.along f.board (appends texts) m n).machine.pins = m.pins := fun n => by
      rw [Run.along, Machine.along_appends]
    rwa [timeBetween, hpins, hpins, Nat.sub_self] at hlaps

/-- As long as the texts do not take longer than the limit no look stops the run. -/
theorem stops_watch_appends {limit : UInt32}
    (ht : limit = 0 ∨ f.runner.costs.statements texts.length ≤ millis limit.toNat)
    (hn : n < texts.length) :
    (f.watch (appends texts) (.start m) (.along f.board (appends texts) m n)).stops limit =
      false := by
  have hlaps := laps_appends (f := f) (m := m) (Nat.le_of_lt hn)
  have hwatch : f.watch (appends texts) (.start m) (.along f.board (appends texts) m n) =
      ⟨f.runner.costs.statements n / 1000, false⟩ := by
    rw [watch, Run.along, hlaps]
  rw [hwatch, Sample.stops, Bool.or_false, Sample.isLate]
  rcases ht with rfl | ht
  · rfl
  · have hle := f.runner.costs.statements_mono (Nat.le_of_lt hn)
    simp only [millis] at ht
    simp only [Bool.and_eq_false_iff, decide_eq_false_iff_not]
    exact .inr (by omega)

end Handoff.Facility

namespace Device

variable {σ τ : Type} {d d' : Device σ τ}

/-- A script that appends texts to the mailbox is run to its end. -/
theorem replies_of_appends (h : Reachable d) (hb : d.station.isBusy = false)
    (hp : d.programming = false) {total expected : UInt32} {pieces : List Bytes}
    (hu : Succeeds (uploadRequests .script total pieces expected) d d') {program : Program}
    {texts : List Bytes}
    (hparse : Program.parse d.station.facility.limits pieces.flatten = .ok program)
    (hcode : program.instructions = appends texts) (values : List Int32) (form : Arguments.Form)
    (timeout : Option UInt32) (hv : values.length ≤ Arguments.maxCount)
    (ht : d.limitOr (timeout.getD 0) = 0 ∨
      d.station.facility.runner.costs.statements texts.length ≤
        millis (d.limitOr (timeout.getD 0)).toNat)
    (hwait : d.station.facility.runner.costs.wake +
      d.station.facility.runner.costs.statements texts.length ≤
        millis ((d.limitOr (timeout.getD 0)).toNat + scriptSlack)) :
    d'.Replies .scriptExec (Arguments.write values form ++ limitBytes timeout)
      (Reply.value 0).payload (texts.foldl Mailbox.append d.station.mailbox) d.station.pins := by
  have hruns := (runsScripts_of_reachable h hb hp _ _ _ _ hu values form timeout hv).2 program hparse
  rw [hcode] at hruns
  refine hruns _ _ _ (Run.finish_of_appends (fun _ => Facility.stops_watch_appends ht)
    (Nat.lt_succ_self texts.length)) rfl ?_
  rwa [Facility.laps_appends (Nat.le_refl _)]

/-! ## Reading the mailbox -/

/-- The device shows a text to whoever reads its mailbox : as many bytes as are asked for, behind
their number. It keeps the text, and all else. -/
def Shows (d : Device σ τ) (text : Bytes) : Prop :=
  ∀ max : UInt32, ∃ count : UInt32, count.toNat = min max.toNat text.length ∧
    d.handle .mailboxRead (Codec.u32.encode max) =
      (Reply.statusBytes .ok ++ (Codec.u32.encode count ++ text.take max.toNat), d)

theorem shows_text (d : Device σ τ) : d.Shows d.station.mailbox.text := by
  intro max
  have hlength : (d.station.mailbox.text.take max.toNat).length =
      min max.toNat d.station.mailbox.text.length := List.length_take
  have hcount : (UInt32.ofNat (d.station.mailbox.text.take max.toNat).length).toNat =
      (d.station.mailbox.text.take max.toNat).length := by
    refine UInt32.toNat_ofNat_of_lt' (Nat.lt_of_le_of_lt ?_ max.toNat_lt)
    rw [hlength]
    exact Nat.min_le_left _ _
  refine ⟨_, hcount.trans hlength, ?_⟩
  rw [handle, answer, readMail, readField_u32]
  rfl

/-! ## Scripts of prints -/

theorem foldl_append_texts (mailbox : Mailbox) (prints : List Print) :
    let after := (prints.map Print.text).foldl Mailbox.append mailbox
    after.capacity = mailbox.capacity ∧
      after.text = (mailbox.text ++ prints.flatMap Print.text).take (mailbox.capacity - 1) := by
  rw [List.flatMap_def]
  refine mailbox.text_appends fun s hs => ?_
  obtain ⟨p, -, rfl⟩ := List.mem_map.mp hs
  exact fun h => (p.quotable 0 h).1.2 rfl

/-- A script of prints, laid out in any way and within the limits, is a program. A run of it that no
sample stops does each statement once. It leaves everything as it was but the mailbox, and that
holds the text from before and all that was printed, cut off where the buffer has room for nothing
but the NUL. A device that has this mailbox shows the text.

So does a device that was idle when the script was uploaded and that is asked to run it, with a time
limit that the statements do not exceed. -/
theorem prints_texts {iss : List (List Item)} {source : Bytes} (h : IsScriptOf iss source)
    {prints : List Print} (hsaid : saidStatements iss = prints.map Print.statement) (limits : Limits)
    (hs : prints.length ≤ limits.statements)
    (hl : ((saidLabels iss).map Ascii.folded).dedup.length ≤ limits.labels) :
    let printed := fun mailbox : Mailbox =>
      (mailbox.text ++ prints.flatMap Print.text).take (mailbox.capacity - 1)
    (∃ p, Program.parse limits source = .ok p ∧
      ∀ (board : Pins.Board σ) (limit : UInt32) (watch : Run σ → Sample),
        (∀ r, (watch r).stops limit = false) →
      ∀ (arguments : List Int32) (mailbox : Mailbox) (pins : σ),
        let first := Run.start (.load arguments mailbox pins)
        ∃ mailbox' : Mailbox, mailbox'.capacity = mailbox.capacity ∧
          mailbox'.text = printed mailbox ∧
          (∀ fuel, prints.length < fuel →
            first.finish board p.instructions limit watch fuel =
              some (⟨0, .fellOffEnd, prints.length⟩, { first.machine with mailbox := mailbox' })) ∧
          ∀ d : Device σ τ, d.station.mailbox = mailbox' → d.Shows (printed mailbox)) ∧
    ∀ d d' : Device σ τ, Reachable d → d.station.isBusy = false → d.programming = false →
      d.station.facility.limits = limits →
    ∀ (total expected : UInt32) (pieces : List Bytes), pieces.flatten = source →
      Succeeds (uploadRequests .script total pieces expected) d d' →
    ∀ (values : List Int32) (form : Arguments.Form) (timeout : Option UInt32),
      values.length ≤ Arguments.maxCount →
      let limit := d.limitOr (timeout.getD 0)
      let costs := d.station.facility.runner.costs
      (limit = 0 ∨ costs.statements prints.length ≤ millis limit.toNat) →
      costs.wake + costs.statements prints.length ≤ millis (limit.toNat + scriptSlack) →
      let ran := d'.handle .scriptExec (Arguments.write values form ++ limitBytes timeout)
      ran.1 = (Reply.value 0).payload ∧ ran.2.station.pins = d.station.pins ∧
        ran.2.station.mailbox.capacity = d.station.mailbox.capacity ∧
        ran.2.Shows (printed d.station.mailbox) := by
  intro printed
  obtain ⟨p, hp, hcode⟩ := h.parses_prints hsaid limits hs hl
  have hlength : (prints.map Print.text).length = prints.length := List.length_map _
  constructor
  · refine ⟨p, hp, fun board limit watch hw arguments mailbox pins => ?_⟩
    obtain ⟨hcapacity, htext⟩ := foldl_append_texts mailbox prints
    refine ⟨_, hcapacity, htext, fun fuel hfuel => ?_, fun d hd => ?_⟩
    · rw [hcode, ← hlength]
      exact Run.finish_of_appends (fun k _ => hw _) (by rwa [hlength])
    · have hshows := d.shows_text
      rwa [hd, htext] at hshows
  · intro d d' hd hb hfree hlimits total expected pieces hpieces hu values form timeout hv limit
      costs htime hwait ran
    rw [← hpieces, ← hlimits] at hp
    rw [← hlength] at htime hwait
    obtain ⟨hreply, hmailbox, hpins⟩ := replies_of_appends hd hb hfree hu hp hcode values form timeout
      hv htime hwait
    obtain ⟨hcapacity, htext⟩ := foldl_append_texts d.station.mailbox prints
    have hshows := ran.2.shows_text
    rw [hmailbox, htext] at hshows
    exact ⟨hreply, hpins, (congrArg Mailbox.capacity hmailbox).trans hcapacity, hshows⟩

/-- Texts with every mark that means something outside quotes, written with both words and joined in
both ways, are printed behind an old text, and the last one is cut off. The host asks for twenty
bytes. -/
theorem prints_texts_of_marks :
    let source := Bytes.ofText " print  \"a;b//c#d:e, f \" ;MBAPP \"x: y;\" # \"z" ++
      [0x0D, 0x0A] ++ Bytes.ofText ";;PrInT\t\" lead\"" ++ 0 :: Bytes.ofText "PRINT \"no\""
    let mailbox := (Mailbox.empty 24).append (Bytes.ofText "ab")
    let printed := Bytes.ofText "aba;b//c#d:e, f x: y; l"
    (∃ p mailbox', Program.parse {} source = .ok p ∧
      (Run.start (.load [] mailbox ({} : Pins.Bank))).finish Pins.Bank.board p.instructions 0
        (fun _ => .calm) 4 = some (⟨0, .fellOffEnd, 3⟩, .load [] mailbox' {}) ∧
      mailbox'.text = printed) ∧
    ∃ d d' : Device Pins.Bank Emulation, d.station.mailbox = mailbox ∧
      Succeeds (uploadRequests .script 72 [source.take 30, source.drop 30] 0xFFFFFFFF) d d' ∧
      let ran := d'.handle .scriptExec (Arguments.write [1, 2] .ascii ++ limitBytes none)
      ran.1 = (Reply.value 0).payload ∧
        ran.2.handle .mailboxRead (Codec.u32.encode 20) =
          (Reply.statusBytes .ok ++ (Codec.u32.encode 20 ++ printed.take 20), ran.2) := by
  intro source mailbox printed
  let first : Print := ⟨Bytes.ofText "print", [0x20, 0x20], Bytes.ofText "a;b//c#d:e, f ",
    .inr (by decide), by decide, List.all_iff_forall_prop.mp (by decide),
    List.all_iff_forall_prop.mp (by decide)⟩
  let second : Print := ⟨Bytes.ofText "MBAPP", [0x20], Bytes.ofText "x: y;", .inl (by decide),
    by decide, List.forall_mem_singleton.mpr (by decide), List.all_iff_forall_prop.mp (by decide)⟩
  let third : Print := ⟨Bytes.ofText "PrInT", [0x09], Bytes.ofText " lead", .inr (by decide),
    by decide, List.forall_mem_singleton.mpr (by decide), List.all_iff_forall_prop.mp (by decide)⟩
  let empty : Item := ⟨[], none, List.forall_mem_nil _, fun _ h => (Option.not_mem_none _ h).elim⟩
  have noGap : IsGap [] := List.forall_mem_nil _
  have space : IsGap [0x20] := List.forall_mem_singleton.mpr (by decide)
  have nothing : empty.IsText [] := .blank noGap
  have comment : IsComment (Bytes.ofText "# \"z") :=
    ⟨.inl rfl, List.all_iff_forall_prop.mp (by decide)⟩
  have first_line : IsLineOf [first.item, second.item] _ :=
    .commented (.cons (.statement space space) (.cons (.statement noGap noGap) .nil)) space
      (.inr (by decide)) comment
  have last_line : IsLineOf [empty, empty, third.item] _ :=
    .bare (.cons nothing (.cons nothing (.cons (.statement noGap noGap) .nil))) noGap
  have script : IsScriptOf [[first.item, second.item], [empty, empty, third.item]] source := by
    have laid := IsScriptOf.returnFeed first_line
      (.lastEnded last_line (Bytes.ofText "PRINT \"no\""))
    convert laid using 1
    decide
  obtain ⟨⟨p, hp, hruns⟩, hdevices⟩ := @prints_texts Pins.Bank Emulation _ _ script
    [first, second, third] rfl {} (by decide) (by decide)
  have htext : (mailbox.text ++ [first, second, third].flatMap Print.text).take
      (mailbox.capacity - 1) = printed := by decide
  constructor
  · obtain ⟨mailbox', -, hprinted, hfinish, -⟩ := hruns Pins.Bank.board 0 (fun _ => .calm)
      (fun _ => rfl) [] mailbox {}
    exact ⟨p, mailbox', hp, hfinish 4 (by decide), hprinted.trans htext⟩
  · let fresh : Device Pins.Bank Emulation :=
      start {} Pins.Bank.board (·.waited) (.emulator Emulation.usualBudget) {}
    let d : Device Pins.Bank Emulation :=
      { fresh with station := { fresh.station with mailbox := mailbox } }
    have hfresh : Reachable fresh := .start _ _ _ _ _
    have hd : Reachable d := hfresh.touch mailbox fresh.station.pins
    obtain ⟨x, hu⟩ := @succeeds_script _ _ d 72 0xFFFFFFFF [source.take 30, source.drop 30] rfl rfl
      (by decide) rfl (by decide) (.inl rfl)
    obtain ⟨hreply, -, -, hshows⟩ := hdevices d _ hd rfl rfl rfl 72 0xFFFFFFFF
      [source.take 30, source.drop 30] (by simp) hu [1, 2] .ascii none (by decide)
      (.inr (by decide)) (by decide)
    obtain ⟨count, hcount, hread⟩ := hshows 20
    have hlength := hcount.trans (congrArg (fun text : Bytes => min 20 text.length) htext)
    have hcount : count = 20 := UInt32.toNat_inj.mp (hlength.trans (by decide))
    refine ⟨d, _, rfl, hu, hreply, hread.trans ?_⟩
    rw [hcount]
    exact congrArg (fun text : Bytes =>
      (Reply.statusBytes .ok ++ (Codec.u32.encode 20 ++ text.take 20), _)) htext

end Device

end Coprocessor
