import Coprocessor.Proofs.Device.Reachable
import Coprocessor.Proofs.Host.Linked
import Coprocessor.Proofs.Host.Replies

/-!
# Uploads over a link

A call on a client that is linked to a device comes to a result and makes one device of the
other, whatever else the worker did in the meantime (`Host.Brings`). Calls in a row are calls
one after the other (`Host.Brings.bind`), so what the calls of an upload bring is put together
from what the device says to each request.

The client cuts the content, the device puts it together. So an upload comes to its end
exactly if the length may be announced, and then the device holds the content sealed; or else
it stops at the announcement, before anything is dropped.
-/

namespace Coprocessor

open Handoff

/-! ## Requests that take no time -/

namespace Device

variable {σ τ : Type} {d d' : Device σ τ} {kind : Upload.Kind}

/-- However long the device was left alone, it says the same to a request and takes no time
for it. -/
def Answers (c : Command) (payload : Bytes) (x : Except Status Reply) (d d' : Device σ τ) : Prop :=
  ∀ e, d.Idles e →
    ∃ e', e.answer c payload = (x, e') ∧ d'.Idles e' ∧ e'.station = e.station

theorem answers_of_upload {c : Command} {payload : Bytes} {x : Except Status Reply}
    (hc : IsUpload kind c) (h : d.answer c payload = (x, d')) : d.Answers c payload x d' := by
  rintro e ⟨s, hs, rfl⟩
  obtain ⟨hanswer, hstation⟩ := answer_station hc payload d s
  rw [h] at hanswer hstation
  exact ⟨_, hanswer, ⟨s, hstation ▸ hs, rfl⟩, rfl⟩

/-- Where no job waits or runs, the execution state is the one reported. -/
theorem reported_eq (hb : d.station.isBusy = false) : d.reported = d.execState :=
  if_neg (Bool.eq_false_iff.mp hb)

theorem Idles.reported (h : d.Idles d') (hb : d.station.isBusy = false) :
    d'.reported = d.execState := by
  obtain ⟨s, hs, rfl⟩ := h
  exact reported_eq (hs.isBusy hb)

end Device

namespace Host

open Link

variable {σ τ : Type} {α β : Type} {s : Settings} {c : Framing} {d d' d'' : Device σ τ}

/-! ## Calls -/

/-- On any client linked to a device, however long that was left alone, a call comes to a
result and makes one device of the other. -/
def Brings (s : Settings) (c : Framing) (x : Call α) (d : Device σ τ) (r : Except CallError α)
    (d' : Device σ τ) : Prop :=
  ∀ (k : Client (Loopback σ τ)) (e : Device σ τ), Linked s c k e → d.Idles e →
    ∃ k' e', k.run x.run = (r, k') ∧ Linked s c k' e' ∧ d'.Idles e'

theorem Brings.bind {x : Call α} {f : α → Call β} {a : α} {r : Except CallError β}
    (hx : Brings s c x d (.ok a) d') (hf : Brings s c (f a) d' r d'') :
    Brings s c (x >>= f) d r d'' := by
  intro k e hk he
  obtain ⟨k', e', hrun, hk', he'⟩ := hx k e hk he
  obtain ⟨k'', e'', hrun', hk'', he''⟩ := hf k' e' hk' he'
  exact ⟨k'', e'', (Client.run_bind_of_ok hrun f).trans hrun', hk'', he''⟩

/-- What comes after a call that fails is left out. -/
theorem Brings.bind_error {x : Call α} {e : CallError} (hx : Brings s c x d (.error e) d')
    (f : α → Call β) : Brings s c (x >>= f) d (.error e) d' := by
  intro k e hk he
  obtain ⟨k', e', hrun, hk', he'⟩ := hx k e hk he
  exact ⟨k', e', Client.run_bind_of_error hrun f, hk', he'⟩

theorem brings_ofExcept (r : Except CallError α) (d : Device σ τ) :
    Brings s c (Call.ofExcept r) d r d :=
  fun k e hk he => ⟨k, e, rfl, hk, he⟩

/-- A call goes on with a value that is there. -/
theorem Brings.ofExcept_bind {x : Except CallError α} {f : α → Call β} {a : α}
    {r : Except CallError β} (hx : x = .ok a) (hf : Brings s c (f a) d r d') :
    Brings s c (Call.ofExcept x >>= f) d r d' := by
  rw [hx]
  exact (brings_ofExcept (.ok a) d).bind hf

theorem brings_return (a : α) (d : Device σ τ) : Brings s c (return a) d (.ok a) d :=
  brings_ofExcept (.ok a) d

theorem brings_report (level : Log.Level) (message : String) (d : Device σ τ) :
    Brings s c (Call.report level message) d (.ok ()) d :=
  fun _ e hk he => ⟨_, e, rfl, ⟨hk.settings, hk.joined.of_eq rfl rfl rfl, hk.inlet, hk.clock⟩, he⟩

theorem brings_pause (n : Nat) (d : Device σ τ) : Brings s c (Call.pause n) d (.ok ()) d :=
  fun _ e hk he => ⟨_, e, rfl, ⟨hk.settings, hk.joined.of_eq rfl rfl rfl, hk.inlet,
    Nat.le_trans hk.clock (Nat.le_add_right _ _)⟩, he⟩

/-! ## Requests of an upload -/

/-- Client and device can carry an upload of some pieces out : they agree on the framing, the
frames are not too long for them, and the time is enough for the pauses in the frames. -/
structure Carries (s : Settings) (c : Framing) (pieces : List Bytes) : Prop where
  /-- Both have a second checksum, or none. -/
  trailing : s.framing.trailing = c.trailing
  /-- The device reads the requests. -/
  room : ∀ request : Bytes, request.length = 4 ∨ request ∈ pieces →
    request.length ≤ c.maxPayload
  /-- The client reads the replies. -/
  replyRoom : 12 ≤ s.framing.maxPayload
  /-- There is time for a request and its reply. -/
  patience : ∀ request : Bytes, request.length = 4 ∨ request ∈ pieces →
    ∀ reply : Bytes, reply.length ≤ 12 → s.framing.delay request + c.delay reply ≤ s.timeout

section

variable {pieces : List Bytes} {command : Command} {payload : Bytes}
  {x : Except Status Device.Reply} {r : Device.Reply}

theorem brings_request (hs : Carries s c pieces) (hp : payload.length = 4 ∨ payload ∈ pieces)
    (hlen : payload.length < 4294967296) (ha : d.Answers command payload x d')
    (hx : (Device.Reply.payloadOf command x).length ≤ 12) :
    Brings s c (Call.request command payload) d (.ok (Device.Reply.payloadOf command x)) d' := by
  intro k e hk he
  have handle : ∀ e', d.Idles e' → ∃ e'', e'.handle command payload =
      (Device.Reply.payloadOf command x, e'') ∧ d'.Idles e'' ∧ e''.station = e'.station := by
    intro e' he'
    obtain ⟨e'', hanswer, hafter, hstation⟩ := ha e' he'
    refine ⟨e'', ?_, hafter, hstation⟩
    rw [Device.handle, hanswer]
  have prompt : Prompt 0 12 command payload e := by
    intro e' he'
    obtain ⟨e'', hhandle, -, hstation⟩ := handle e' (he.trans he')
    rw [hhandle, hstation]
    exact ⟨Nat.le_refl _, hx⟩
  obtain ⟨e₁, e₂, k', hexchange, idles, idles', hk'⟩ :=
    @Linked.exchange _ _ _ _ _ _ _ 0 12 0 _ hk hs.trailing prompt hlen (hs.room _ hp) (by decide)
      hs.replyRoom (hs.patience _ hp)
  obtain ⟨e'', hhandle, hafter, -⟩ := handle e₁ (he.trans idles)
  rw [hhandle] at hexchange idles'
  refine ⟨k', e₂, ?_, hk', hafter.trans idles'⟩
  exact hexchange

/-- A request that the device does not refuse gives the fields of its reply. -/
theorem brings_call (hs : Carries s c pieces) (hp : payload.length = 4 ∨ payload ∈ pieces)
    (hlen : payload.length < 4294967296) (ha : d.Answers command payload (.ok r) d')
    (hr : r.status = .ok) (hx : r.fields.length ≤ 8) :
    Brings s c (Call.call command payload) d (.ok r.fields) d' := by
  have hlength : (Device.Reply.payloadOf command (.ok r)).length ≤ 12 := by
    rw [Device.Reply.payloadOf, Device.Reply.payload, List.length_append, length_statusBytes]
    omega
  have hsplit : Call.split command (Device.Reply.payloadOf command (.ok r)) =
      .ok (.ok, r.fields) := by
    rw [Device.Reply.payloadOf, Device.Reply.payload, hr, split_statusBytes]
  exact (brings_request hs hp hlen ha hlength).bind
    (Brings.ofExcept_bind hsplit (brings_return r.fields d'))

/-- A request that the device refuses fails with the status. -/
theorem brings_call_of_refused {status : Status} (hs : Carries s c pieces)
    (hp : payload.length = 4 ∨ payload ∈ pieces) (hlen : payload.length < 4294967296)
    (ha : d.Answers command payload (.error status) d') (hr : status ≠ .ok) :
    Brings s c (Call.call command payload) d (.error (.refused status)) d' := by
  have hlength : (Device.Reply.payloadOf command (.error status)).length ≤ 12 := by
    rw [Device.Reply.payloadOf, Device.Reply.refusal, List.length_append, length_statusBytes]
    split
    · exact Nat.le_of_ble_eq_true rfl
    · exact Nat.le_of_ble_eq_true rfl
  refine (brings_request hs hp hlen ha hlength).bind
    (Brings.ofExcept_bind (split_statusBytes _ _ _) ?_)
  dsimp only
  rw [if_neg hr]
  exact (brings_report _ _ _).bind (brings_ofExcept _ _)

end

/-! ## Uploads -/

section

variable {pieces : List Bytes} {kind : Upload.Kind} {u : Upload} {content : Bytes}

theorem brings_sendPieces (v : Uploading) {total : Nat} {rest done : List Bytes}
    (hs : Carries s c pieces) (hshort : ∀ piece ∈ pieces, piece.length < 4294967296)
    (hp : d.programming = false) (hrest : ∀ piece ∈ rest, piece ∈ pieces)
    (hl : done.flatten.length + rest.flatten.length ≤ total) :
    Brings s c (Call.sendPieces v (Device.appending kind) rest (.ofNat done.flatten.length))
      (d.holding (u.loading total done) kind) (.ok ())
      (d.holding (u.loading total (done ++ rest)) kind) := by
  induction rest generalizing done with
  | nil =>
    rw [List.append_nil]
    exact brings_return _ _
  | cons piece rest ih =>
    rw [List.flatten_cons, List.length_append] at hl
    have hmem := hrest piece List.mem_cons_self
    have hanswer := @Device.answer_appending _ _ d kind u total done piece hp (by omega)
    have hdone : (done ++ [piece]).flatten = done.flatten ++ piece := by simp
    have hsent : UInt32.ofNat done.flatten.length + .ofNat piece.length =
        .ofNat (done ++ [piece]).flatten.length := by
      rw [hdone, List.length_append, UInt32.ofNat_add]
    have hcall := brings_call hs (.inr hmem) (hshort piece hmem)
      (Device.answers_of_upload (.inr (.inl rfl)) hanswer) rfl (by simp [Device.Reply.fields])
    have hheld := word_encode (.ofNat (done ++ [piece]).flatten.length) []
    rw [List.append_nil, hdone] at hheld
    refine hcall.bind (Brings.ofExcept_bind hheld ?_)
    dsimp only
    rw [hsent, hdone, if_neg (not_not.mpr rfl), ← hdone, List.append_cons done piece rest]
    refine (brings_pause _ _).bind (ih (fun p hp => hrest p (List.mem_cons_of_mem _ hp)) ?_)
    rw [hdone, List.length_append]
    omega

variable (kind) in
/-- If the length may be announced, all of the content is held in the end. -/
theorem brings_upload (v : Uploading) (hs : Carries s c (content.pieces (v.piece - 1)))
    (hp : d.programming = false) (hl : content.length < 4294967296)
    (ha : (d.upload kind).admits (.ofNat content.length) = true)
    (hm : d.memory content.length = true) :
    Brings s c (Call.upload v (Device.announcing kind) (Device.appending kind) content) d (.ok ())
      ({ d with execState := Device.afterUpload kind true .idle d.execState }.holding
        ((d.upload kind).loading content.length (content.pieces (v.piece - 1))) kind) := by
  have htotal : (UInt32.ofNat content.length).toNat = content.length := UInt32.toNat_ofNat_of_lt' hl
  have hanswer := Device.answer_announcing hp ha (by rwa [htotal])
  rw [htotal] at hanswer
  have hcall := brings_call hs (.inl (Codec.length_encode_u32 _)) (by simp)
    (Device.answers_of_upload (.inl rfl) hanswer) rfl (by simp [Device.Reply.fields])
  have hfits : ([] : List Bytes).flatten.length + (content.pieces (v.piece - 1)).flatten.length ≤
      content.length := by simp [Bytes.flatten_pieces]
  exact hcall.bind (@brings_sendPieces _ _ s c
    { d with execState := Device.afterUpload kind true .idle d.execState } _ kind (d.upload kind) v
    _ _ _ hs (fun piece hmem => Nat.lt_of_le_of_lt (Bytes.length_le_of_mem_pieces hmem) hl) hp
    (fun _ h => h) hfits)

theorem answer_announcing_of_not_admits {total : UInt32} (hp : d.programming = false)
    (ha : (d.upload kind).admits total = false) :
    d.answer (Device.announcing kind) (Codec.u32.encode total) = (.error .size, d) := by
  have hann : (d.upload kind).announce d.memory total = (.error .size, d.upload kind) := by
    rw [Upload.announce, ha]
    rfl
  cases kind <;>
  · simp only [Device.upload] at hann
    simp only [Device.answer, Device.announcing, Device.announce]
    rw [if_neg (Bool.eq_false_iff.mp hp), Device.readField_u32]
    simp only [hann]

variable (kind) in
/-- If the length may not be announced, nothing is sent after it, and the device is as it was. -/
theorem brings_upload_of_not_admits (v : Uploading)
    (hs : Carries s c (content.pieces (v.piece - 1))) (hp : d.programming = false)
    (ha : (d.upload kind).admits (.ofNat content.length) = false) :
    Brings s c (Call.upload v (Device.announcing kind) (Device.appending kind) content) d
      (.error (.refused .size)) d :=
  (brings_call_of_refused hs (.inl (Codec.length_encode_u32 _)) (by simp)
    (Device.answers_of_upload (.inl rfl) (answer_announcing_of_not_admits hp ha))
    (by decide)).bind_error _

/-- Code of a length that may be announced is loaded. -/
theorem brings_loadCode (v : Uploading) (hs : Carries s c (content.pieces (v.piece - 1)))
    (hp : d.programming = false) (hl : content.length < 4294967296) (hk : d.code.kind = .code)
    (ha : d.code.admits (.ofNat content.length) = true) (hm : d.memory content.length = true)
    (heven : content.length % 2 = 0) :
    Brings s c (Call.loadCode v content) d (.ok (.ofNat content.length))
      { d with code := d.code.sealed content, execState := .loaded } := by
  have hverify := @Upload.verify_loading_code d.code content.length
    (content.pieces (v.piece - 1)) hk (by rwa [Bytes.flatten_pieces])
  rw [Bytes.flatten_pieces] at hverify
  have hanswer := @Device.answer_verifying _ _ { d with execState := .idle } .code _ _ _ _ hp
    hverify rfl
  have hcall := brings_call hs (.inl (Codec.length_encode_u32 _)) (by simp)
    (Device.answers_of_upload (.inr (.inr rfl)) hanswer) rfl (by simp [Device.Reply.fields])
  have hlength := word_encode (.ofNat content.length) []
  rw [List.append_nil] at hlength
  exact (brings_upload .code v hs hp hl ha hm).bind
    (hcall.bind (.ofExcept_bind hlength ((brings_report _ _ _).bind (brings_return _ _))))

/-- A script of a length that may be announced is loaded. -/
theorem brings_loadScript (v : Uploading) (hs : Carries s c (content.pieces (v.piece - 1)))
    (hp : d.programming = false) (hl : content.length < 4294967296) (hk : d.script.kind = .script)
    (ha : d.script.admits (.ofNat content.length) = true) (hm : d.memory content.length = true) :
    Brings s c (Call.loadScript v content) d (.ok (.ofNat content.length))
      { d with script := d.script.sealed content } := by
  have hverify := @Upload.verify_loading_script d.script (content.pieces (v.piece - 1))
    Upload.trustingChecksum hk (.inl rfl)
  rw [Bytes.flatten_pieces] at hverify
  have hanswer := @Device.answer_verifying _ _ d .script _ _ _ _ hp hverify rfl
  have hrequest := brings_request hs (.inl (Codec.length_encode_u32 _)) (by simp)
    (Device.answers_of_upload (.inr (.inr rfl)) hanswer)
    (by simp [Device.Reply.payloadOf, Device.Reply.payload, Device.Reply.fields])
  have hfields := words_encode (.ofNat content.length) (Checksum.crc32 content) []
  rw [List.append_nil] at hfields
  refine (brings_upload .script v hs hp hl ha hm).bind
    (hrequest.bind (.ofExcept_bind (split_statusBytes _ _ _) ?_))
  exact .ofExcept_bind hfields (brings_return _ _)

/-! ## Which lengths are loaded -/

theorem ofNat_eq_zero_iff {n : Nat} (hn : n < 4294967296) : UInt32.ofNat n = 0 ↔ n = 0 := by
  rw [← UInt32.toNat_inj, UInt32.toNat_ofNat_of_lt' hn]
  rfl

theorem admits_code_iff {limit n : Nat} (h : u.Proper .code limit) (hn : n < 4294967296) :
    u.admits (.ofNat n) = true ↔ n ≠ 0 ∧ n % 2 = 0 ∧ n ≤ limit := by
  have heven : UInt32.ofNat n % 2 = 0 ↔ n % 2 = 0 := by
    rw [← UInt32.toNat_inj, UInt32.toNat_mod, UInt32.toNat_ofNat_of_lt' hn]
    rfl
  simp [Upload.admits, h.kind_eq, h.limit_eq, UInt32.toNat_ofNat_of_lt' hn, ofNat_eq_zero_iff hn,
    heven, and_assoc]

theorem admits_script_iff {limit n : Nat} (h : u.Proper .script limit) (hn : n < 4294967295) :
    u.admits (.ofNat n) = true ↔ n ≠ 0 ∧ n ≤ limit := by
  have hn' : n < 4294967296 := Nat.lt_succ_of_lt hn
  have hlast : UInt32.ofNat n ≠ 0xFFFFFFFF := fun he => by
    have := congrArg UInt32.toNat he
    rw [UInt32.toNat_ofNat_of_lt' hn'] at this
    exact Nat.ne_of_lt hn this
  simp [Upload.admits, h.kind_eq, h.limit_eq, UInt32.toNat_ofNat_of_lt' hn', ofNat_eq_zero_iff hn',
    hlast]

end

/-! ## Uploads of a client -/

variable {k : Client (Loopback σ τ)} {content : Bytes}

/-- What a call brings to a device that runs nothing. -/
theorem Linked.run {x : Call α} {r : Except CallError α} (hk : Linked s c k d)
    (hx : Brings s c x d r d') (hb : d'.station.isBusy = false) :
    ∃ k' e, k.run x.run = (r, k') ∧ Linked s c k' e ∧
      e.code = d'.code ∧ e.script = d'.script ∧ e.reported = d'.execState := by
  obtain ⟨k', e, hrun, hk', idles⟩ := hx k d hk .refl
  have hreported := idles.reported hb
  obtain ⟨s', -, rfl⟩ := idles
  exact ⟨k', _, hrun, hk', rfl, rfl, hreported⟩

/-- A device that runs nothing loads code of an even length within its limit, and refuses any
other. -/
theorem Linked.loadCode (hk : Linked s c k d) (hd : d.Reachable) (hp : d.programming = false)
    (hb : d.station.isBusy = false) (hm : d.memory content.length = true)
    (hl : content.length < 4294967295) (v : Uploading)
    (hs : Carries s c (content.pieces (v.piece - 1))) :
    ∃ r k' d', k.run (Call.loadCode v content).run = (r, k') ∧ Linked s c k' d' ∧
      if content.length ≠ 0 ∧ content.length % 2 = 0 ∧ content.length ≤ d.config.codeLimit then
        r = .ok (.ofNat content.length) ∧ d'.code.content? = some content ∧
          d'.script = d.script ∧ d'.reported = .loaded
      else
        r = .error (.refused .size) ∧ d'.code = d.code ∧ d'.script = d.script ∧
          d'.reported = d.reported := by
  have hl' : content.length < 4294967296 := Nat.lt_succ_of_lt hl
  have hadmits := admits_code_iff hd.stocked.code hl'
  split
  case isTrue h =>
    obtain ⟨k', d', hrun, hk', hcode, hscript, hreported⟩ := hk.run
      (brings_loadCode v hs hp hl' hd.stocked.code.kind_eq (hadmits.mpr h) hm h.2.1) hb
    exact ⟨_, k', d', hrun, hk', rfl, by rw [hcode]; rfl, hscript, hreported⟩
  case isFalse h =>
    have hrefused : d.code.admits (.ofNat content.length) = false :=
      Bool.eq_false_iff.mpr (mt hadmits.mp h)
    obtain ⟨k', d', hrun, hk', hcode, hscript, hreported⟩ := hk.run
      ((brings_upload_of_not_admits .code v hs hp hrefused).bind_error _) hb
    exact ⟨_, k', d', hrun, hk', rfl, hcode, hscript, hreported.trans (Device.reported_eq hb).symm⟩

/-- A device that runs nothing loads a script within its limit that is not empty, and refuses
any other. -/
theorem Linked.loadScript (hk : Linked s c k d) (hd : d.Reachable) (hp : d.programming = false)
    (hb : d.station.isBusy = false) (hm : d.memory content.length = true)
    (hl : content.length < 4294967295) (v : Uploading)
    (hs : Carries s c (content.pieces (v.piece - 1))) :
    ∃ r k' d', k.run (Call.loadScript v content).run = (r, k') ∧ Linked s c k' d' ∧
      if content.length ≠ 0 ∧ content.length ≤ d.config.scriptLimit then
        r = .ok (.ofNat content.length) ∧ d'.script.content? = some content ∧
          d'.code = d.code ∧ d'.reported = d.reported
      else
        r = .error (.refused .size) ∧ d'.code = d.code ∧ d'.script = d.script ∧
          d'.reported = d.reported := by
  have hl' : content.length < 4294967296 := Nat.lt_succ_of_lt hl
  have hadmits := admits_script_iff hd.stocked.script hl
  have hsame := Device.reported_eq hb
  split
  case isTrue h =>
    obtain ⟨k', d', hrun, hk', hcode, hscript, hreported⟩ := hk.run
      (brings_loadScript v hs hp hl' hd.stocked.script.kind_eq (hadmits.mpr h) hm) hb
    exact ⟨_, k', d', hrun, hk', rfl, by rw [hscript]; rfl, hcode, hreported.trans hsame.symm⟩
  case isFalse h =>
    have hrefused : d.script.admits (.ofNat content.length) = false :=
      Bool.eq_false_iff.mpr (mt hadmits.mp h)
    obtain ⟨k', d', hrun, hk', hcode, hscript, hreported⟩ := hk.run
      ((brings_upload_of_not_admits .script v hs hp hrefused).bind_error _) hb
    exact ⟨_, k', d', hrun, hk', rfl, hcode, hscript, hreported.trans hsame.symm⟩

/-- On a link that loses nothing a client loads code and scripts of admissible lengths into any
device that runs nothing and has the memory. Any other content is refused for its size, and
nothing that was loaded is touched. -/
theorem Linked.loads (hk : Linked s c k d) (hd : d.Reachable) (hp : d.programming = false)
    (hb : d.station.isBusy = false) (hm : d.memory content.length = true)
    (hl : content.length < 4294967295) (v : Uploading)
    (hs : Carries s c (content.pieces (v.piece - 1))) :
    (∃ r k' d', k.run (Call.loadCode v content).run = (r, k') ∧ Linked s c k' d' ∧
      if content.length ≠ 0 ∧ content.length % 2 = 0 ∧ content.length ≤ d.config.codeLimit then
        r = .ok (.ofNat content.length) ∧ d'.code.content? = some content ∧
          d'.script = d.script ∧ d'.reported = .loaded
      else
        r = .error (.refused .size) ∧ d'.code = d.code ∧ d'.script = d.script ∧
          d'.reported = d.reported) ∧
    ∃ r k' d', k.run (Call.loadScript v content).run = (r, k') ∧ Linked s c k' d' ∧
      if content.length ≠ 0 ∧ content.length ≤ d.config.scriptLimit then
        r = .ok (.ofNat content.length) ∧ d'.script.content? = some content ∧
          d'.code = d.code ∧ d'.reported = d.reported
      else
        r = .error (.refused .size) ∧ d'.code = d.code ∧ d'.script = d.script ∧
          d'.reported = d.reported :=
  ⟨hk.loadCode hd hp hb hm hl v hs, hk.loadScript hd hp hb hm hl v hs⟩

/-- Two bytes, sent one by one, are loaded as code and as a script. -/
theorem loads_two_bytes :
    let d := Device.start {} Pins.Bank.board (·.waited) (.emulator Handoff.Emulation.usualBudget) {}
    let content : Bytes := [0xFE, 0xE7]
    let k := joinedAtStart d
    Linked {} {} k d ∧ Carries {} {} (content.pieces 0) ∧
      (∃ k' d', k.run (Call.loadCode { piece := 1 } content).run = (.ok 2, k') ∧
        Linked {} {} k' d' ∧ d'.code.content? = some content ∧ d'.reported = .loaded) ∧
      ∃ k' d', k.run (Call.loadScript { piece := 1 } content).run = (.ok 2, k') ∧
        Linked {} {} k' d' ∧ d'.script.content? = some content := by
  intro d content k
  have linked : Linked {} {} k d :=
    ⟨rfl, ⟨rfl, rfl, rfl, rfl, rfl, rfl, rfl, rfl⟩, rfl, Nat.le_refl _⟩
  have carries : Carries {} {} (content.pieces 0) := {
    trailing := rfl
    room := fun request h => by
      rcases h with h | h
      · exact h ▸ (by decide)
      · exact Nat.le_trans (Bytes.length_le_of_mem_pieces h) (by decide)
    replyRoom := by decide
    patience := fun request _ reply _ => by
      rw [Framing.delay_eq_zero rfl rfl, Framing.delay_eq_zero rfl rfl]
      decide }
  obtain ⟨⟨r, k', d', hrun, hk', hcode⟩, r', k'', d'', hrun', hk'', hscript⟩ :=
    linked.loads (.start _ _ _ _ _) rfl rfl rfl (by decide) { piece := 1 } carries
  rw [if_pos (by decide)] at hcode hscript
  obtain ⟨rfl, hcontent, -, hloaded⟩ := hcode
  obtain ⟨rfl, hcontent', -⟩ := hscript
  exact ⟨linked, carries, ⟨k', d', hrun, hk', hcontent, hloaded⟩, k'', d'', hrun', hk'', hcontent'⟩

end Host

end Coprocessor
