import Coprocessor.CommandLine.Device
import Coprocessor.Proofs.Device.Envelope
import Coprocessor.Proofs.Device.Printing
import Coprocessor.Proofs.Device.Renewal
import Coprocessor.Proofs.Link.Transcript

/-!
# Replies that can be read

A reader has a limit on the length of payloads, and bytes with a greater length in front of
them are noise to it. Replies are short, up to the text that is read out of the mailbox, and that
is as long as the request and the size of the buffer allow. So a reader can read every reply of a
device whose mailbox leaves room for eight bytes and the NUL within its limit; with a larger
mailbox it never reads a text that is too long (`Device.Aged.heard`).
-/

namespace Coprocessor

open Link Script

namespace Device

variable {σ τ : Type} {d : Device σ τ} {c : Command} {payload : Bytes}

/-! ## The length of replies -/

theorem Aged.length_mailbox_lt (h : d.Aged) :
    d.station.mailbox.length < max d.config.mailbox 1 := by
  have hcapacity : max d.config.mailbox 1 = d.station.mailbox.capacity :=
    congrArg (·.2.2) h.gear_renewed
  rw [hcapacity]
  exact d.station.mailbox.held_lt

/-- A text that is read out has a status and its length before it. -/
theorem length_handle_mailboxRead {n : UInt32}
    (hn : readField Codec.u32.decode payload = .ok n) :
    (d.handle .mailboxRead payload).1.length = 8 + min n.toNat d.station.mailbox.length := by
  have hanswer : (d.answer .mailboxRead payload).1 =
      .ok (.mail (d.station.mailbox.read n.toNat)) := by
    rw [answer, readMail, hn]
    rfl
  have hstatus : (Reply.statusBytes .ok).length = 4 := rfl
  have hreply : (d.handle .mailboxRead payload).1 =
      Reply.payloadOf .mailboxRead (d.answer .mailboxRead payload).1 := rfl
  rw [hreply, hanswer]
  simp only [Reply.payloadOf, Reply.payload, Reply.status, Reply.fields, List.length_append,
    hstatus, Codec.length_encode_u32, Mailbox.read, List.length_take, Mailbox.text,
    List.length_reverse, Mailbox.length]
  omega

/-- A reply that is longer than sixteen bytes is a text of the mailbox. -/
theorem lt_length_handle_iff {limit : Nat} (hl : 16 ≤ limit) :
    limit < (d.handle c payload).1.length ↔ c = .mailboxRead ∧
      ∃ n, readField Codec.u32.decode payload = .ok n ∧
        limit < 8 + min n.toNat d.station.mailbox.length := by
  have hle := length_payloadOf_le c (d.answer c payload).1
  have hreply : (d.handle c payload).1 = Reply.payloadOf c (d.answer c payload).1 := rfl
  constructor
  case mp =>
    intro hlt
    obtain rfl : c = .mailboxRead := by
      by_contra hc
      rw [textLength_answer_of_ne hc] at hle
      rw [hreply] at hlt
      omega
    cases hn : readField Codec.u32.decode payload with
    | ok n =>
      rw [length_handle_mailboxRead hn] at hlt
      exact ⟨rfl, n, rfl, hlt⟩
    | error s =>
      have hanswer : (d.answer .mailboxRead payload).1 = .error s := by
        rw [answer, readMail, hn]
        rfl
      have hzero : textLength (.error s) = 0 := rfl
      rw [hanswer, hzero] at hle
      rw [hreply, hanswer] at hlt
      omega
  case mpr =>
    rintro ⟨rfl, n, hn, hlt⟩
    rwa [length_handle_mailboxRead hn]

/-! ## Replies in a row -/

/-- The frames of the replies of a device to requests in a row, each a command and a payload with
the header of its frame. -/
def replyFrames : List (Header × Command × Bytes) → Device σ τ → List (Header × Bytes)
  | [], _ => []
  | (request, c, payload) :: requests, d =>
    let reply := (d.handle c payload).1
    (request.reply reply, reply) :: replyFrames requests (d.handle c payload).2

/-- A mailbox that leaves room for what stands before its text makes no reply too long. -/
theorem Aged.length_replyFrames_le {limit : Nat} (h : d.Aged) (hl : 16 ≤ limit)
    (hm : d.config.mailbox + 7 ≤ limit) (requests : List (Header × Command × Bytes)) :
    ∀ r ∈ d.replyFrames requests, r.2.length ≤ limit := by
  induction requests generalizing d with
  | nil => exact nofun
  | cons request requests ih =>
    obtain ⟨header, c, payload⟩ := request
    have hconfig : (d.handle c payload).2.config = d.config :=
      ((effect_answer c payload).stocked h.reachable.stocked).config_eq
    rw [← hconfig] at hm
    rw [replyFrames]
    refine List.forall_mem_cons.mpr ⟨Nat.le_of_not_lt fun hlt => ?_, ih (h.handle c payload) hm⟩
    obtain ⟨-, n, -, hlt⟩ := (lt_length_handle_iff hl).mp hlt
    have hheld := h.length_mailbox_lt
    rw [← hconfig] at hheld
    omega

/-- Replies that are not too long are read one after the other. -/
theorem readAll_replyFrames {writer reader : Framing} (ha : writer.trailing = reader.trailing)
    (hl : reader.maxPayload < 2 ^ 32) (requests : List (Header × Command × Bytes))
    (hr : ∀ r ∈ d.replyFrames requests, r.2.length ≤ reader.maxPayload) :
    (reader.readAll ((d.replyFrames requests).flatMap fun r => writer.frame r.1 r.2)).map
        (·.finding) =
      (d.replyFrames requests).map (fun r => .frame ⟨r.1, r.2, Segment.verdict reader, 0⟩) ++
        [.starved false] := by
  induction requests generalizing d with
  | nil =>
    rw [replyFrames, List.flatMap_nil, Framing.readAll]
    rfl
  | cons request requests ih =>
    obtain ⟨header, c, payload⟩ := request
    rw [replyFrames] at hr ⊢
    obtain ⟨hfits, hrest⟩ := List.forall_mem_cons.mp hr
    let parcel : Parcel reader.maxPayload := {
      header := header.reply (d.handle c payload).1
      payload := (d.handle c payload).1
      magic := rfl
      length := toNat_ofNat_length hfits hl
      fits := hfits }
    have hread := reader.read_append parcel
      (((d.handle c payload).2.replyFrames requests).flatMap fun r => writer.frame r.1 r.2)
    rw [← Framing.frame_congr ha] at hread
    have hfirst := Framing.readAll_of_frame (congrArg Reading.finding hread)
    rw [hread] at hfirst
    rw [List.flatMap_cons, List.map_cons, List.cons_append, ← ih hrest]
    exact congrArg (List.map Reading.finding) hfirst

/-! ## Texts that are printed -/

/-- A script that prints a text. -/
def printing (text : Bytes) : Bytes :=
  Bytes.ofText "PRINT \"" ++ text ++ [0x22]

/-- Whether a byte means nothing in a script. -/
abbrev IsIdle (b : UInt8) : Prop :=
  IsInLine b ∧ IsPlain b ∧ b ≠ 0x3A

/-- A text that means nothing in a script can be printed. -/
theorem exists_print {text : Bytes} (ht : ∀ b ∈ text, IsIdle b) :
    ∃ p : Print, p.statement = printing text ∧ p.text = text := by
  have quotable : ∀ b ∈ text, IsQuotable b := fun b hb => ⟨(ht b hb).1, (ht b hb).2.1.1⟩
  refine ⟨⟨Bytes.ofText "PRINT", [0x20], text, .inr (by decide), by decide,
    List.forall_mem_singleton.mpr (by decide), quotable⟩, ?_, rfl⟩
  have hopening : Bytes.ofText "PRINT" ++ [0x20] ++ [0x22] = Bytes.ofText "PRINT \"" := by decide
  rw [Print.statement, Print.opening, hopening, printing]

/-- A script that prints a text does only that. -/
theorem exists_program_printing {limits : Limits} (hl : 1 ≤ limits.statements) {text : Bytes}
    (ht : ∀ b ∈ text, IsIdle b) :
    ∃ p, Program.parse limits (printing text) = .ok p ∧ p.instructions = appends [text] := by
  obtain ⟨q, hstatement, htext⟩ := exists_print ht
  have noGap : IsGap [] := nofun
  have item_text : q.item.IsText ([] ++ q.statement ++ []) := .statement noGap noGap
  have script := IsScriptOf.last (.bare (.cons item_text .nil) noGap)
  obtain ⟨p, hp, hcode⟩ := @IsScriptOf.parses_prints _ _ script [q] rfl limits hl (Nat.zero_le _)
  rw [List.intercalate_singleton, List.nil_append, List.append_nil, List.append_nil, hstatement]
    at hp
  rw [List.map_singleton, htext] at hcode
  exact ⟨p, hp, hcode⟩

theorem length_append_idle {m : Mailbox} {text : Bytes} (ht : ∀ b ∈ text, IsIdle b) :
    (m.append text).length = min (m.capacity - 1 - m.length) text.length + m.length := by
  have hnul : Mailbox.upToNul text = text :=
    List.takeWhile_eq_self_iff.mpr fun b hb => bne_iff_ne.mpr (ht b hb).1.2
  simp [Mailbox.length, Mailbox.append, Mailbox.stored, hnul]

/-- A text that is printed is in the mailbox. -/
theorem replies_printing {d d' : Device σ τ} (h : Reachable d) (hb : d.station.isBusy = false)
    (hp : d.programming = false) (hl : 1 ≤ d.station.facility.limits.statements)
    (hc : d.station.facility.runner.costs = {}) {text : Bytes} (ht : ∀ b ∈ text, IsIdle b)
    {total expected : UInt32} {pieces : List Bytes} (hpieces : pieces.flatten = printing text)
    (hu : Succeeds (uploadRequests .script total pieces expected) d d') :
    d'.Replies .scriptExec (Arguments.write [] .binary ++ limitBytes none) (Reply.value 0).payload
      (d.station.mailbox.append text) d.station.pins := by
  obtain ⟨program, hparse, hcode⟩ := exists_program_printing hl ht
  rw [← hpieces] at hparse
  have hcost : d.station.facility.runner.costs.statements [text].length = 1000 := by
    rw [hc, Handoff.Costs.statements_usual]
    rfl
  have hwake : d.station.facility.runner.costs.wake = 1000 := by rw [hc]
  have hslack : scriptSlack = 100 := rfl
  refine replies_of_appends h hb hp hu hparse hcode [] .binary none (Nat.zero_le _) ?_ ?_
  · rcases Nat.eq_zero_or_pos (d.limitOr 0).toNat with hzero | hpos
    · exact .inl (UInt32.toNat_inj.mp hzero)
    · refine .inr ?_
      rw [hcost]
      simp only [Option.getD_none, millis]
      omega
  · rw [hcost, hwake, millis]
    omega

/-! ## What readers make of replies -/

/-- What a reader makes of the replies of a device. -/
structure Heard (writer reader : Framing) (d : Device σ τ) : Prop where
  /-- A reply is too long only if more text is read out of the mailbox than fits. -/
  exceeds : ∀ c payload, reader.maxPayload < (d.handle c payload).1.length ↔
    c = .mailboxRead ∧ ∃ n, readField Codec.u32.decode payload = .ok n ∧
      reader.maxPayload < 8 + min n.toNat d.station.mailbox.length
  /-- A reply that is too long is read out of no bytes. -/
  unread : ∀ c payload, reader.maxPayload < (d.handle c payload).1.length → ∀ s f,
    (reader.read s).finding = .frame f → f.payload ≠ (d.handle c payload).1
  /-- If the mailbox leaves room, no reply is ever too long. -/
  fits : d.config.mailbox + 7 ≤ reader.maxPayload → ∀ requests,
    ∀ r ∈ d.replyFrames requests, r.2.length ≤ reader.maxPayload
  /-- Replies that are not too long are read in order, without noise. -/
  reads : ∀ requests, (∀ r ∈ d.replyFrames requests, r.2.length ≤ reader.maxPayload) →
    (reader.readAll ((d.replyFrames requests).flatMap fun r => writer.frame r.1 r.2)).map
        (·.finding) =
      (d.replyFrames requests).map (fun r => .frame ⟨r.1, r.2, Segment.verdict reader, 0⟩) ++
        [.starved false]

/-- Whatever happened to a device before, all of its replies are read that are not too long, which
can be only those that read out the mailbox, and those only if it is larger than the limit of the
reader allows. -/
theorem Aged.heard (h : d.Aged) {writer reader : Framing}
    (ha : writer.trailing = reader.trailing) (hl : 16 ≤ reader.maxPayload)
    (hl' : reader.maxPayload < 2 ^ 32) : d.Heard writer reader where
  exceeds c payload := lt_length_handle_iff hl
  unread c payload hlt s f hf heq := by
    have hle := Framing.length_payload_of_scan hf
    rw [heq] at hle
    omega
  fits hm := h.length_replyFrames_le hl hm
  reads := readAll_replyFrames ha hl'

/-- A device with the largest mailbox that leaves room is greeted and asked for its text, and both
replies are read. -/
theorem heard_of_text : ∃ d : Device Pins.Bank Handoff.Emulation, d.Aged ∧
    d.config.mailbox = 65529 ∧
    let requests : List (Header × Command × Bytes) :=
      [(⟨Header.magicWord, Header.protocol, 1, 7, 0, 0⟩, .hello, []),
        (⟨Header.magicWord, Header.protocol, 0x22, 8, 4, 0⟩, .mailboxRead,
          Codec.u32.encode 0xFFFFFFFF)]
    let frames := d.replyFrames requests
    frames.map (·.2) = [(Reply.greeting 0x0F).payload, (Reply.mail [0x68, 0x69]).payload] ∧
      (({} : Framing).readAll (frames.flatMap fun r => ({} : Framing).frame r.1 r.2)).map
          (·.finding) =
        frames.map (fun r => .frame ⟨r.1, r.2, none, 0⟩) ++ [.starved false] := by
  let fresh := start { mailbox := 65529 } Pins.Bank.board (·.waited)
    (.emulator Handoff.Emulation.usualBudget) {}
  have haged : fresh.Aged := .start _ _ _ _ _
  have held := haged.touch (fresh.station.mailbox.append [0x68, 0x69]) {} rfl
  have heard : Heard {} {} _ := held.heard rfl (by decide) (by decide)
  exact ⟨_, held, rfl, by decide +kernel, heard.reads _ (heard.fits (by decide) _)⟩

/-- A device is told by its command line that its mailbox has seventy thousand bytes. When it has
run a script that prints 65529 letters, the reply with the text of the mailbox is too long for a
reader with the usual limit. -/
theorem exceeds_of_letters : ∃ (order : CommandLine.DeviceOrder)
    (d : Device Pins.Bank Handoff.Emulation),
    let ran := d.handle .scriptExec (Arguments.write [] .binary ++ limitBytes none)
    (CommandLine.DeviceOrder.ofArguments
      ["127.0.0.1:7000", "--mailbox", "70000", "--max-script", "70000"]).toOption = some order ∧
    Succeeds (uploadRequests .script 65537
      [Bytes.ofText "PRINT \"", List.replicate 65529 0x61, [0x22]] 0xFFFFFFFF)
        order.server.device d ∧
    ran.1 = (Reply.value 0).payload ∧
    ({} : Framing).maxPayload <
      (ran.2.handle .mailboxRead (Codec.u32.encode 0xFFFFFFFF)).1.length := by
  have told : (CommandLine.DeviceOrder.ofArguments
      ["127.0.0.1:7000", "--mailbox", "70000", "--max-script", "70000"]).toOption.map (·.config) =
        some { mailbox := 70000, scriptLimit := 70000 } := by
    decide +kernel
  obtain ⟨order, horder, hconfig⟩ := Option.map_eq_some_iff.mp told
  generalize hletters : List.replicate 65529 (0x61 : UInt8) = letters
  have hlength : letters.length = 65529 := by
    rw [← hletters, List.length_replicate]
  have hidle : ∀ b ∈ letters, IsIdle b := fun b hb => by
    rw [← hletters] at hb
    rw [List.eq_of_mem_replicate hb]
    decide
  have hpieces : [Bytes.ofText "PRINT \"", letters, [0x22]].flatten = printing letters := by
    simp [printing]
  have hsize : (Bytes.ofText "PRINT \"").length = 7 := by decide
  have htotal : [Bytes.ofText "PRINT \"", letters, [0x22]].flatten.length =
      (65537 : UInt32).toNat := by
    rw [hpieces, printing, List.length_append, List.length_append, hlength, hsize]
    rfl
  let fresh := order.server.device
  have hscript : fresh.script = .empty .script order.config.scriptLimit := rfl
  have hmailbox : fresh.station.mailbox = .empty order.config.mailbox := rfl
  have hlimits : fresh.station.facility.limits = order.config.limits := rfl
  rw [hconfig] at hscript hmailbox hlimits
  have hadmits : fresh.script.admits 65537 = true := by
    rw [hscript]
    decide +kernel
  obtain ⟨x, hu⟩ := @succeeds_script _ _ fresh 65537 0xFFFFFFFF
    [Bytes.ofText "PRINT \"", letters, [0x22]] rfl rfl hadmits rfl htotal (.inl rfl)
  have hstatements : 1 ≤ fresh.station.facility.limits.statements := by
    rw [hlimits]
    decide
  have hfresh : Reachable fresh := .start _ _ _ _ _
  obtain ⟨hreply, hheld, -⟩ := replies_printing hfresh rfl rfl hstatements rfl hidle hpieces hu
  refine ⟨order, _, horder, hu, hreply, ?_⟩
  rw [length_handle_mailboxRead (readField_u32 _), hheld, hmailbox, length_append_idle hidle,
    hlength]
  decide

end Device

end Coprocessor
