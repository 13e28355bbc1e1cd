import Coprocessor.Proofs.Device.Execution

/-!
# Announcements that are refused

An announcement is refused in the programming mode, where its length is missing, where the
length is not admitted, and where there is no memory for it. The first three leave the device
as it is. For want of memory the old content is lost, though : it goes before memory is asked
for, and the execution state stays what it was (`Device.refuses_announcements`). So a device
may go on to report that code is loaded and refuse to run it (`Device.reports_lost_code`).
-/

namespace Coprocessor

/-- A buffer that refuses a length is as it was, unless there is no memory. -/
theorem Upload.eq_of_announce_error {memory : Nat → Bool} {u u' : Upload} {total : UInt32}
    {status : Status} (h : u.announce memory total = (.error status, u')) :
    (status = .size ∧ u' = u) ∨
      (status = .noMemory ∧ memory total.toNat = false ∧ u' = u.free) := by
  unfold announce at h
  split at h
  case isTrue =>
    split at h
    case isTrue => cases h
    case isFalse hm =>
      obtain ⟨rfl, rfl⟩ : Status.noMemory = status ∧ u.free = u' := by simpa using h
      exact .inr ⟨rfl, Bool.eq_false_iff.mpr hm, rfl⟩
  case isFalse =>
    obtain ⟨rfl, rfl⟩ : Status.size = status ∧ u = u' := by simpa using h
    exact .inl ⟨rfl, rfl⟩

namespace Device

open Handoff

variable {σ τ : Type} {d d' : Device σ τ} {kind : Upload.Kind} {payload : Bytes} {status : Status}

/-- A field that cannot be read is refused as such. -/
theorem eq_parameter_of_readField {α : Type} {x : Decoder α}
    (h : readField x payload = .error status) : status = .parameter := by
  unfold readField at h
  cases hx : (x payload).1 with
  | ok a =>
    rw [hx] at h
    cases h
  | error e =>
    rw [hx] at h
    exact (Except.error.inj h).symm

/-- An announcement is refused as the device stands, or the buffer has its say. -/
theorem answer_announcing_cases (d : Device σ τ) (kind : Upload.Kind) (payload : Bytes) :
    (∃ status, (status = .state ∨ status = .parameter) ∧
      d.answer (announcing kind) payload = (.error status, d)) ∨
    ∃ total answer u, (d.upload kind).announce d.memory total = (answer, u) ∧
      d.answer (announcing kind) payload = (answer.map fun _ => .reserved kind total,
        { d with execState := afterUpload kind answer.isOk .idle d.execState }.holding u kind) := by
  have hanswer : d.answer (announcing kind) payload = d.announce kind payload := by
    cases kind <;> rfl
  rw [hanswer, announce]
  split
  case isTrue => exact .inl ⟨.state, .inl rfl, rfl⟩
  case isFalse =>
  split
  case h_1 status hr => exact .inl ⟨status, .inr (eq_parameter_of_readField hr), rfl⟩
  case h_2 total hr =>
    obtain ⟨answer, u, ha⟩ : ∃ answer u, (d.upload kind).announce d.memory total = (answer, u) :=
      ⟨_, _, rfl⟩
    refine .inr ⟨total, answer, u, ha, ?_⟩
    cases kind <;>
    · rw [upload] at ha
      cases answer <;>
      · simp only [ha]
        rfl

/-- What an announcement makes of a device that refuses it. -/
structure Refuses (kind : Upload.Kind) (status : Status) (d d' : Device σ τ) : Prop where
  /-- Unless memory is wanting, it is refused by the device as it stands or for its length, and
  nothing is different. -/
  spares : status ≠ .noMemory →
    (status = .state ∨ status = .parameter ∨ status = .size) ∧ d' = d
  /-- Where memory is wanting, the content of the buffer is gone and nothing else is different. -/
  drops : status = .noMemory → d' = d.holding (d.upload kind).free kind
  /-- The execution state that is reported is the one from before. -/
  reports : ∀ payload, (d'.handle .status payload).1 = (d.handle .status payload).1
  /-- Code that is gone is not run. -/
  stops : status = .noMemory → kind = .code → ∀ payload,
    ∃ s, (s = .state ∨ s = .parameter) ∧ d'.answer .exec payload = (.error s, d')

theorem Refuses.of_spared (hs : status = .state ∨ status = .parameter ∨ status = .size) :
    Refuses kind status d d where
  spares _ := ⟨hs, rfl⟩
  drops hn := by simp [hn] at hs
  reports _ := rfl
  stops hn := by simp [hn] at hs

/-- A device without code runs none. -/
theorem answer_exec_of_content_eq_none (hc : d.code.content? = none) (payload : Bytes) :
    ∃ s, (s = .state ∨ s = .parameter) ∧ d.answer .exec payload = (.error s, d) := by
  simp only [answer, exec, hc]
  split
  case isTrue => exact ⟨.state, .inl rfl, rfl⟩
  case isFalse =>
  split
  case h_1 s hr => exact ⟨s, .inr (eq_parameter_of_readField hr), rfl⟩
  case h_2 => exact ⟨.state, .inl rfl, rfl⟩

theorem Refuses.of_dropped : Refuses kind .noMemory d (d.holding (d.upload kind).free kind) where
  spares h := absurd rfl h
  drops _ := rfl
  reports _ := by cases kind <;> rfl
  stops _ hk payload := by
    subst hk
    exact answer_exec_of_content_eq_none rfl payload

/-- A reply that is a status and nothing else begins with this status. -/
theorem statusOf_of_handle {c : Command} (h : (d.handle c payload).1 = Reply.statusBytes status) :
    statusOf (d.answer c payload).1 = status := by
  have hbytes : Reply.statusBytes (statusOf (d.answer c payload).1) ++
      fieldsOf c (d.answer c payload).1 = Reply.statusBytes status ++ [] := by
    rw [← payloadOf_eq, List.append_nil]
    exact h
  exact statusBytes_append_inj hbytes

/-- A buffer that refuses a length is as it was, and so is a device that refuses an announcement,
with one exception : where memory is wanting the content is lost, and what the device reports
does not tell. -/
theorem refuses_announcements :
    (∀ (memory : Nat → Bool) (u u' : Upload) (total : UInt32) (status : Status),
      u.announce memory total = (.error status, u') →
        (status = .size ∧ u' = u) ∨
          (status = .noMemory ∧ memory total.toNat = false ∧ u' = u.free)) ∧
    ∀ (d : Device σ τ) (kind : Upload.Kind) (payload : Bytes) (status : Status),
      (d.handle (announcing kind) payload).1 = Reply.statusBytes status → status ≠ .ok →
        Refuses kind status d (d.handle (announcing kind) payload).2 := by
  refine ⟨fun _ _ _ _ _ => Upload.eq_of_announce_error, fun d kind payload status hreply hs => ?_⟩
  have hstatus := statusOf_of_handle hreply
  rw [Device.handle]
  rcases answer_announcing_cases d kind payload with ⟨s, hrefused, ha⟩ | ⟨total, answer, u, hu, ha⟩
  · rw [ha] at hstatus ⊢
    subst hstatus
    exact .of_spared (hrefused.imp_right .inl)
  · rw [ha] at hstatus ⊢
    cases answer with
    | ok => exact absurd hstatus.symm hs
    | error s =>
      subst hstatus
      have hkept : afterUpload kind (Except.error s : Except Status Unit).isOk .idle d.execState =
          d.execState := by
        cases kind <;> rfl
      rw [hkept]
      rcases Upload.eq_of_announce_error hu with ⟨rfl, rfl⟩ | ⟨rfl, -, rfl⟩
      · have hsame : d.holding (d.upload kind) kind = d := by cases kind <;> rfl
        rw [hsame]
        exact .of_spared (.inr (.inr rfl))
      · exact .of_dropped

/-- A device that has code and no memory to spare refuses three bytes and keeps the code, and
loses it when it refuses four. -/
theorem refuses_announcements_of_loaded :
    ∃ d : Device Pins.Bank Emulation, d.code.content? = some [0, 0] ∧ d.execState = .loaded ∧
      Refuses .code .size d (d.handle .loadBegin (Codec.u32.encode 3)).2 ∧
      Refuses .code .noMemory d (d.handle .loadBegin (Codec.u32.encode 4)).2 := by
  let fresh := start {} Pins.Bank.board (·.waited) (.emulator 100) {}
  let d : Device Pins.Bank Emulation := { fresh with
    code := fresh.code.sealed [0, 0], execState := .loaded, memory := fun _ => false }
  have hrefuses := (@refuses_announcements Pins.Bank Emulation).2 d .code
  exact ⟨d, rfl, rfl, hrefuses _ .size (by decide +kernel) nofun,
    hrefuses _ .noMemory (by decide +kernel) nofun⟩

/-- A device without memory to spare that reports that code is loaded and would return 42 :
after an announcement that it refuses for want of memory it still reports so, and runs nothing. -/
theorem reports_lost_code : ∃ d : Device Pins.Bank Emulation, Reachable d ∧
    d.code.content? = some [0x2A, 0x20, 0x70, 0x47] ∧ d.reported = .loaded ∧
    (d.handle .exec (Codec.u32.encode 0)).1 = (Reply.codeValue 42).payload ∧
    let d' := (d.handle .loadBegin (Codec.u32.encode 4)).2
    (d.handle .loadBegin (Codec.u32.encode 4)).1 = Reply.statusBytes .noMemory ∧
      d'.code.content? = none ∧ d'.reported = .loaded ∧
      (d'.handle .exec (Codec.u32.encode 0)).1 = Reply.refusal .exec .state := by
  let content : Bytes := [0x2A, 0x20, 0x70, 0x47]
  let fresh := start {} Pins.Bank.board (·.waited) (.emulator 100) {}
  have started : Reachable fresh := .start {} _ _ _ _
  have uploaded := ((started.answer .loadBegin (Codec.u32.encode 4)).answer .loadData content).answer
    .loadEnd (Codec.u32.encode (Checksum.crc32 content))
  refine ⟨_, uploaded.equip fresh.functions fun _ => false, ?_⟩
  decide +kernel

end Device

end Coprocessor
