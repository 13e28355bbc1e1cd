import Coprocessor.Proofs.Host.Dialogue
import Coprocessor.Proofs.Host.Replies
import Mathlib.Data.List.Basic

/-!
# What is sent in an upload of a script

The requests of an upload of a script are one that announces its length, some with pieces, and at
most two that end it (`Host.ScriptUpload`). Whatever the device says to them, the pieces are a
beginning of the script, nothing ends the upload before all of the script is sent, and a second
end follows only if the device did not leave the checksum to itself and has the right one
(`Host.ScriptUpload.Proper`). A device has confirmed each piece that anything follows, and an
upload has a result only if the last end was accepted.

So it is for every dialogue of an upload (`Host.Call.proper_of_dialogue`) and over every link
(`Host.Client.uploads_properly`).
-/

namespace Coprocessor.Host

open Device.Reply (statusBytes)

/-- The payloads of some requests, one after the other. -/
def contents (turns : List Turn) : Bytes :=
  turns.flatMap (·.payload)

theorem contents_eq_flatten (turns : List Turn) :
    contents turns = (turns.map (·.payload)).flatten :=
  List.flatMap_def

namespace Turn

/-- The reply has a good status, and then a number. -/
def Says (t : Turn) (n : UInt32) : Prop :=
  ∃ more, t.result = .ok (statusBytes .ok ++ (Codec.u32.encode n ++ more))

/-- The reply says that a number of bytes is held. -/
def Confirms (t : Turn) (n : Nat) : Prop :=
  ∃ held : UInt32, held.toNat = n ∧ t.Says held

/-- The reply says that the checksum is another one, with a length and the right one. -/
def Objects (t : Turn) (checksum : UInt32) : Prop :=
  ∃ length more, t.result =
    .ok (statusBytes .checksum ++ (Codec.u32.encode length ++ (Codec.u32.encode checksum ++ more)))

end Turn

/-! ## Pieces -/

/-- Requests with pieces of some content that begins after `sent` bytes, in order. Each one that
another one follows is confirmed, and all of them are if the sending does not fail. -/
structure SendsPieces (data : Command) (pieces : List Bytes) (sent : Nat) (turns : List Turn)
    (r : Except CallError Unit) : Prop where
  command : ∀ t ∈ turns, t.command = data
  cut : turns.map (·.payload) <+: pieces
  whole : r = .ok () → turns.map (·.payload) = pieces
  confirmed : ∀ before t after, turns = before ++ t :: after → after ≠ [] ∨ r = .ok () →
    t.Confirms (sent + (contents (before ++ [t])).length)

namespace SendsPieces

variable {data : Command} {piece : Bytes} {pieces : List Bytes} {sent : Nat} {turns : List Turn}
  {result : Except CallError Bytes} {r : Except CallError Unit}

/-- The sending stops at a piece that is not confirmed. -/
theorem stop (result : Except CallError Bytes) (e : CallError) :
    SendsPieces data (piece :: pieces) sent [⟨data, piece, result⟩] (.error e) where
  command t ht := by
    obtain rfl := List.mem_singleton.mp ht
    rfl
  cut := List.prefix_append [piece] pieces
  whole := nofun
  confirmed before t after hsplit hnext := by
    rcases List.singleton_eq_append_iff.mp hsplit with ⟨rfl, h⟩ | ⟨rfl, h⟩
    · cases h
      simp at hnext
    · cases h

/-- The sending goes on after a piece that is confirmed. -/
theorem cons (ht : Turn.Confirms ⟨data, piece, result⟩ (sent + piece.length))
    (h : SendsPieces data pieces (sent + piece.length) turns r) :
    SendsPieces data (piece :: pieces) sent (⟨data, piece, result⟩ :: turns) r where
  command t ht := by
    rcases List.mem_cons.mp ht with rfl | ht
    · rfl
    · exact h.command t ht
  cut := (List.prefix_cons_inj piece).mpr h.cut
  whole hr := by rw [List.map_cons, h.whole hr]
  confirmed before t after hsplit hnext := by
    rcases List.cons_eq_append_iff.mp hsplit with ⟨rfl, hcons⟩ | ⟨before, rfl, hrest⟩
    · cases hcons
      simpa [contents] using ht
    · have hconfirmed := h.confirmed before t after hrest hnext
      rwa [Nat.add_assoc, ← List.length_append] at hconfirmed

end SendsPieces

namespace Call

/-- A request whose reply is read as a number says it. -/
theorem says_of_accepted {c : Command} {payload body : Bytes} {result : Except CallError Bytes}
    {n : UInt32} (h : accepted c result = .ok body) (hn : Fields.word.of body = .ok n) :
    Turn.Says ⟨c, payload, result⟩ n := by
  obtain ⟨more, rfl⟩ := eq_append_of_word hn
  exact ⟨more, eq_ok_of_accepted h⟩

theorem sendsPieces_of_dialogue {s : Uploading} {data : Command} {pieces : List Bytes}
    {sent : UInt32} {turns : List Turn} {r : Except CallError Unit}
    (h : (sendPieces s data pieces sent).run.Dialogue turns r)
    (hlen : sent.toNat + pieces.flatten.length < 2 ^ 32) :
    SendsPieces data pieces sent.toNat turns r := by
  induction pieces generalizing sent turns with
  | nil =>
    cases h
    exact ⟨nofun, List.prefix_refl _, fun _ => rfl, fun before t after h => by simp at h⟩
  | cons piece pieces ih =>
    rw [sendPieces] at h
    rw [List.flatten_cons, List.length_append] at hlen
    obtain ⟨result, rest, rfl, ⟨e, -, rfl, rfl⟩ | ⟨body, haccepted, h⟩⟩ := dialogue_call_bind h
    · exact .stop _ e
    rcases dialogue_ofExcept_bind h with ⟨e, -, rfl, rfl⟩ | ⟨held, hheld, h⟩
    · exact .stop _ e
    dsimp only at h
    split at h
    case isTrue =>
      cases h
      exact .stop _ _
    case isFalse hne =>
      -- The client counts in 32 bits, which is exact for a script this short.
      have hpiece : (UInt32.ofNat piece.length).toNat = piece.length :=
        UInt32.toNat_ofNat_of_lt' (Nat.lt_of_le_of_lt (by omega) hlen)
      have hsum : (sent + .ofNat piece.length).toNat = sent.toNat + piece.length := by
        rw [UInt32.toNat_add, hpiece]
        omega
      have hsends := ih (dialogue_pause_bind h) (by omega)
      rw [hsum] at hsends
      refine .cons ⟨held, ?_, says_of_accepted haccepted hheld⟩ hsends
      rw [Classical.not_not.mp hne, hsum]

end Call

namespace SendsPieces

variable {data : Command} {pieces : List Bytes} {sent : Nat} {turns : List Turn}
  {r : Except CallError Unit}

theorem nil_of_error (e : CallError) : SendsPieces data pieces sent [] (.error e) :=
  ⟨nofun, List.nil_prefix, nofun, fun before t after h => by simp at h⟩

theorem contents_prefix {text : Bytes} {n : Nat}
    (h : SendsPieces data (text.pieces n) sent turns r) : contents turns <+: text := by
  obtain ⟨rest, hrest⟩ := h.cut
  refine ⟨rest.flatten, ?_⟩
  rw [contents_eq_flatten, ← List.flatten_append, hrest, Bytes.flatten_pieces]

theorem contents_eq {text : Bytes} {n : Nat}
    (h : SendsPieces data (text.pieces n) sent turns r) (hr : r = .ok ()) :
    contents turns = text := by
  rw [contents_eq_flatten, h.whole hr, Bytes.flatten_pieces]

end SendsPieces

/-- An upload announces its content, and then its pieces are sent. -/
theorem Call.sendsPieces_of_upload {s : Uploading} {start data : Command} {content : Bytes}
    {turns : List Turn} {r : Except CallError Unit} (hlen : content.length < 2 ^ 32)
    (h : (upload s start data content).run.Dialogue turns r) :
    ∃ result rest, turns = ⟨start, Codec.u32.encode (.ofNat content.length), result⟩ :: rest ∧
      SendsPieces data (content.pieces (s.piece - 1)) 0 rest r := by
  rw [upload] at h
  obtain ⟨result, rest, rfl, ⟨e, -, rfl, rfl⟩ | ⟨body, -, h⟩⟩ := dialogue_call_bind h
  · exact ⟨result, [], rfl, .nil_of_error e⟩
  · refine ⟨result, rest, rfl, sendsPieces_of_dialogue h ?_⟩
    rw [Bytes.flatten_pieces]
    exact (Nat.zero_add _).symm ▸ hlen

/-! ## Ends -/

/-- Requests that end the upload of a script, with a result : at most two, of which the first
leaves the checksum to the device. The second follows only if the device says that this is
another one than that of the script, and names that of the script. The result is what the device
says to the last one. -/
structure EndsScript (text : Bytes) (turns : List Turn) (r : Except CallError UInt32) : Prop where
  command : ∀ t ∈ turns, t.command = .scriptEnd
  few : turns.length ≤ 2
  trusts : ∀ t ∈ turns.head?, t.payload = Codec.u32.encode Upload.trustingChecksum
  insists : ∀ first second, turns = [first, second] → first.Objects (Checksum.crc32 text) ∧
    second.payload = Codec.u32.encode (Checksum.crc32 text)
  returns : ∀ n, r = .ok n → ∃ last ∈ turns.getLast?, last.Says n

namespace EndsScript

variable {text : Bytes} {r : Except CallError UInt32}

theorem nil_of_error (text : Bytes) (e : CallError) : EndsScript text [] (.error e) where
  command := nofun
  few := Nat.zero_le 2
  trusts t ht := by cases ht
  insists first second h := by cases h
  returns := nofun

theorem one (text : Bytes) {result : Except CallError Bytes}
    (hr : ∀ n, r = .ok n →
      Turn.Says ⟨.scriptEnd, Codec.u32.encode Upload.trustingChecksum, result⟩ n) :
    EndsScript text [⟨.scriptEnd, Codec.u32.encode Upload.trustingChecksum, result⟩] r where
  command t ht := by
    obtain rfl := List.mem_singleton.mp ht
    rfl
  few := Nat.le_succ 1
  trusts t ht := by
    obtain rfl := Option.some.inj ht
    rfl
  insists first second h := by simp at h
  returns n hn := ⟨_, rfl, hr n hn⟩

theorem two {result result' : Except CallError Bytes}
    (hfirst : Turn.Objects ⟨.scriptEnd, Codec.u32.encode Upload.trustingChecksum, result⟩
      (Checksum.crc32 text))
    (hr : ∀ n, r = .ok n →
      Turn.Says ⟨.scriptEnd, Codec.u32.encode (Checksum.crc32 text), result'⟩ n) :
    EndsScript text [⟨.scriptEnd, Codec.u32.encode Upload.trustingChecksum, result⟩,
      ⟨.scriptEnd, Codec.u32.encode (Checksum.crc32 text), result'⟩] r where
  command t ht := by
    rcases List.mem_cons.mp ht with rfl | ht
    · rfl
    · obtain rfl := List.mem_singleton.mp ht
      rfl
  few := Nat.le_refl 2
  trusts t ht := by
    obtain rfl := Option.some.inj ht
    rfl
  insists first second h := by
    obtain ⟨rfl, rfl⟩ : _ ∧ _ := by simpa using h
    exact ⟨hfirst, rfl⟩
  returns n hn := ⟨_, rfl, hr n hn⟩

end EndsScript

namespace Call

/-- Ends the upload of a script. -/
def endScript (script : Bytes) : Call UInt32 := do
  let reply ← request .scriptEnd (Codec.u32.encode Upload.trustingChecksum)
  let (status, rest) ← ofExcept (split .scriptEnd reply)
  if status ≠ .ok && status ≠ .checksum then refuse .scriptEnd status
  else
    let (length, actual) ← ofExcept (Fields.of (return (← Fields.word, ← Fields.word)) rest)
    if status = .ok then return length
    else
      let checksum := Checksum.crc32 script
      if actual ≠ checksum then
        report .warn s!"script crc: host {Text.hex32 checksum}, device {Text.hex32 actual}"
        throw (.checksum checksum actual)
      else
        report .debug s!"device ignored the crc sentinel, retrying END with {Text.hex32 actual}"
        ofExcept (Fields.word.of (← call .scriptEnd (Codec.u32.encode actual)))

theorem loadScript_eq (s : Uploading) (script : Bytes) : loadScript s script =
    upload s .scriptBegin .scriptData script >>= fun _ => endScript script :=
  rfl

theorem endsScript_of_dialogue {text : Bytes} {turns : List Turn} {r : Except CallError UInt32}
    (h : (endScript text).run.Dialogue turns r) : EndsScript text turns r := by
  rw [endScript] at h
  rcases dialogue_bind h with ⟨e, hrequest, rfl⟩ | ⟨reply, before, after, hrequest, hrest, rfl⟩
  · rw [dialogue_request hrequest]
    exact .one text nofun
  rw [dialogue_request hrequest]
  rcases dialogue_ofExcept_bind hrest with ⟨e, -, rfl, rfl⟩ | ⟨⟨status, rest⟩, hsplit, hread⟩
  · exact .one text nofun
  obtain rfl := eq_append_of_split hsplit
  dsimp only at hread
  split at hread
  case isTrue =>
    obtain ⟨rfl, rfl⟩ := dialogue_refuse hread
    exact .one text nofun
  case isFalse hstatus =>
  rcases dialogue_ofExcept_bind hread with ⟨e, -, rfl, rfl⟩ | ⟨⟨length, actual⟩, hwords, hend⟩
  · exact .one text nofun
  obtain ⟨more, rfl⟩ := eq_append_of_words hwords
  dsimp only at hend
  -- Of the two statuses that are left, only the one about the checksum leads to a second end.
  by_cases hok : status = .ok
  · rw [if_pos hok] at hend
    cases hend
    refine .one text fun n hn => ?_
    cases hn
    exact ⟨_, by rw [hok]⟩
  have hchecksum : status = .checksum := by simpa [hok] using hstatus
  rw [if_neg hok] at hend
  split at hend
  case isTrue =>
    cases dialogue_report_bind hend
    exact .one text nofun
  case isFalse hactual =>
    obtain rfl := Classical.not_not.mp hactual
    obtain ⟨result, ends, rfl, ⟨e, -, rfl, rfl⟩ | ⟨body, haccepted, hword⟩⟩ :=
      dialogue_call_bind (dialogue_report_bind hend)
    · exact .two ⟨length, more, by rw [hchecksum]⟩ nofun
    · obtain ⟨rfl, rfl⟩ := dialogue_ofExcept hword
      exact .two ⟨length, more, by rw [hchecksum]⟩ fun n hn => says_of_accepted haccepted hn

end Call

/-! ## Uploads of scripts -/

/-- The requests of an upload of a script. -/
structure ScriptUpload where
  /-- The one that announces it. -/
  opening : Turn
  /-- Those with its pieces. -/
  pieces : List Turn
  /-- Those that end it. -/
  ends : List Turn

namespace ScriptUpload

/-- All requests, in order. -/
def turns (u : ScriptUpload) : List Turn :=
  u.opening :: (u.pieces ++ u.ends)

/-- The requests of an upload of the script `text` with the result `r` are as they ought to be. -/
structure Proper (s : Uploading) (text : Bytes) (u : ScriptUpload) (r : Except CallError UInt32) :
    Prop where
  /-- The first request announces the length. -/
  announces : u.opening.command = .scriptBegin ∧
    ∃ n : UInt32, n.toNat = text.length ∧ u.opening.payload = Codec.u32.encode n
  sendsPieces : ∀ t ∈ u.pieces, t.command = .scriptData
  /-- The pieces are the first ones that the script is cut into. -/
  cut : u.pieces.map (·.payload) <+: text.pieces (s.piece - 1)
  part : contents u.pieces <+: text
  sendsEnds : ∀ t ∈ u.ends, t.command = .scriptEnd
  few : u.ends.length ≤ 2
  /-- No end is sent before all of the script. -/
  whole : u.ends ≠ [] → contents u.pieces = text
  /-- The first end leaves the checksum to the device. -/
  trusts : ∀ t ∈ u.ends.head?, t.payload = Codec.u32.encode Upload.trustingChecksum
  /-- The second end carries the checksum of the script, which the device gave. -/
  insists : ∀ first second, u.ends = [first, second] →
    first.Objects (Checksum.crc32 text) ∧
      second.payload = Codec.u32.encode (Checksum.crc32 text)
  /-- Each piece is confirmed with all before it if anything follows, or if the upload does not
  fail. -/
  confirmed : ∀ before t after, u.pieces = before ++ t :: after →
    after ++ u.ends ≠ [] ∨ (∃ n, r = .ok n) → t.Confirms (contents (before ++ [t])).length
  /-- The result is what the device says to the last end. -/
  returns : ∀ n, r = .ok n → ∃ last ∈ u.ends.getLast?, last.Says n

/-- An upload is proper if the pieces are sent as they ought to be and the ends are, and if there
are ends only after all of the pieces. -/
theorem Proper.of_parts {s : Uploading} {text : Bytes} (hlen : text.length < 2 ^ 32)
    (result : Except CallError Bytes) {pieces ends : List Turn} {sent : Except CallError Unit}
    {r : Except CallError UInt32}
    (hpieces : SendsPieces .scriptData (text.pieces (s.piece - 1)) 0 pieces sent)
    (hends : EndsScript text ends r) (hsent : ends ≠ [] → sent = .ok ()) :
    Proper s text ⟨⟨.scriptBegin, Codec.u32.encode (.ofNat text.length), result⟩, pieces, ends⟩
      r where
  announces := ⟨rfl, _, UInt32.toNat_ofNat_of_lt' hlen, rfl⟩
  sendsPieces := hpieces.command
  cut := hpieces.cut
  part := hpieces.contents_prefix
  sendsEnds := hends.command
  few := hends.few
  whole hne := hpieces.contents_eq (hsent hne)
  trusts := hends.trusts
  insists := hends.insists
  confirmed before t after hsplit hnext := by
    have hnext : after ≠ [] ∨ sent = .ok () := by
      rcases hnext with hne | ⟨n, hr⟩
      · by_cases hends : ends = []
        · rw [hends, List.append_nil] at hne
          exact .inl hne
        · exact .inr (hsent hends)
      · obtain ⟨last, hlast, -⟩ := hends.returns n hr
        exact .inr (hsent (List.ne_nil_of_mem (List.mem_of_getLast? hlast)))
    have hconfirmed := hpieces.confirmed before t after hsplit hnext
    rwa [Nat.zero_add] at hconfirmed
  returns := hends.returns

end ScriptUpload

/-- Whatever comes of its requests, an upload of a script sends what it ought to. -/
theorem Call.proper_of_dialogue {s : Uploading} {text : Bytes} (hlen : text.length < 2 ^ 32)
    {turns : List Turn} {r : Except CallError UInt32}
    (h : (loadScript s text).run.Dialogue turns r) :
    ∃ u : ScriptUpload, u.turns = turns ∧ u.Proper s text r := by
  rw [loadScript_eq] at h
  rcases dialogue_bind h with ⟨e, hupload, rfl⟩ | ⟨⟨⟩, before, after, hupload, hend, rfl⟩
  · obtain ⟨result, pieces, rfl, hpieces⟩ := sendsPieces_of_upload hlen hupload
    have hends := EndsScript.nil_of_error text e
    refine ⟨_, ?_, .of_parts hlen result hpieces hends (absurd rfl)⟩
    rw [ScriptUpload.turns, List.append_nil]
  · obtain ⟨result, pieces, rfl, hpieces⟩ := sendsPieces_of_upload hlen hupload
    exact ⟨_, rfl, .of_parts hlen result hpieces (endsScript_of_dialogue hend) fun _ => rfl⟩

/-- Whatever is at the other end of a link, a client that uploads a script of less than 2³² bytes
sends what it ought to, each request in one frame. The frames have numbers one after the other,
and one is cut short only if there is no reply to it. -/
theorem Client.uploads_properly {δ : Type} (s : Uploading) {text : Bytes}
    (hlen : text.length < 2 ^ 32) (k : Client δ) :
    ∃ (u : ScriptUpload) (r : Except CallError UInt32) (k' : Client δ) (written : Bytes),
      k.run (Call.loadScript s text).run = (r, k') ∧
      u.turns = k.turns (Call.loadScript s text).run ∧ u.Proper s text r ∧
      k'.line.output = k.line.output ++ written ∧
      Written k.settings.framing k.sequence u.turns written := by
  obtain ⟨u, hturns, hproper⟩ :=
    Call.proper_of_dialogue hlen (k.dialogue_turns (Call.loadScript s text).run)
  obtain ⟨written, houtput, hwritten⟩ := k.written_turns (Call.loadScript s text).run
  rw [← hturns] at hwritten
  exact ⟨u, _, _, written, rfl, hturns, hproper, houtput, hwritten⟩

/-- A script of one byte. -/
def shortScript : Bytes :=
  [0x45]

/-- The replies of a device that wants to be told the checksum of the script. -/
def insistence : Bytes :=
  replyBytes .scriptBegin 1 (statusBytes .ok) ++
  replyBytes .scriptData 2 (statusBytes .ok ++ [1, 0, 0, 0]) ++
  replyBytes .scriptEnd 3
    (statusBytes .checksum ++ [1, 0, 0, 0] ++ Codec.u32.encode (Checksum.crc32 shortScript)) ++
  replyBytes .scriptEnd 4 (statusBytes .ok ++ [1, 0, 0, 0])

/-- A device that wants to be told the checksum is told it. -/
theorem Client.uploads_properly_of_insistence :
    shortScript.length < 2 ^ 32 ∧ ∃ (u : ScriptUpload) (k' : Client Unit) (written : Bytes),
      (facing insistence).run (Call.loadScript {} shortScript).run = (.ok 1, k') ∧
      u.turns.length = 4 ∧ u.Proper {} shortScript (.ok 1) ∧ Written {} 0 u.turns written := by
  have hlen : shortScript.length < 2 ^ 32 := by decide
  obtain ⟨u, r, k', written, hrun, hturns, hproper, -, hwritten⟩ :=
    (facing insistence).uploads_properly {} hlen
  have hcourse : ((facing insistence).turns (Call.loadScript {} shortScript).run).length = 4 ∧
      ((facing insistence).run (Call.loadScript {} shortScript).run).1 = .ok 1 := by decide +kernel
  rw [← hturns, hrun] at hcourse
  obtain ⟨hfour, rfl⟩ : _ ∧ r = .ok 1 := hcourse
  exact ⟨hlen, u, k', written, hrun, hfour, hproper, hwritten⟩

end Coprocessor.Host
