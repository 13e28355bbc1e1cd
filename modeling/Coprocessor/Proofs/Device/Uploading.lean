import Coprocessor.Device
import Coprocessor.Proofs.Wire.RoundTrip

/-!
# Uploading

An upload is an announcement, pieces, and the wish to verify. A device that has memory
takes every content of admissible length, cut into pieces in any way, and says that all is
well to each request (`Device.succeeds_script`, `Device.succeeds_code`). Code may be
shorter than announced, a script may not.

Whenever a device says that all is well to each request of an upload, it holds the pieces
sealed, one after the other, and nothing else about it is different except the execution
state (`Device.Succeeds.uploaded`).
-/

namespace Coprocessor

/-! ## Buffers -/

namespace Upload

/-- A buffer that holds the pieces so far of an upload. -/
def loading (u : Upload) (total : Nat) (pieces : List Bytes) : Upload :=
  ⟨u.kind, u.limit, .loading total pieces.flatten
    (pieces.foldl Checksum.Rolling.update Checksum.Rolling.empty)⟩

/-- A buffer with verified content. -/
def sealed (u : Upload) (content : Bytes) : Upload :=
  ⟨u.kind, u.limit, .sealed content⟩

variable {u : Upload}

theorem announce_of_admits {memory : Nat → Bool} {total : UInt32} (ha : u.admits total = true)
    (hm : memory total.toNat = true) :
    u.announce memory total = (.ok (), u.loading total.toNat []) := by
  rw [announce, if_pos ha, if_pos hm]
  rfl

/-- A piece that fits is taken. -/
theorem append_loading {total : Nat} {pieces : List Bytes} {piece : Bytes}
    (h : pieces.flatten.length + piece.length ≤ total) :
    (u.loading total pieces).append piece =
      (.ok ⟨.ok, .ofNat (pieces.flatten ++ piece).length⟩, u.loading total (pieces ++ [piece])) := by
  have htake : piece.take (total - pieces.flatten.length) = piece :=
    List.take_of_length_le (by omega)
  have hflat : (pieces ++ [piece]).flatten = pieces.flatten ++ piece := by simp
  simp only [append, loading, htake, if_neg (Nat.lt_irrefl _), hflat, List.foldl_append,
    List.foldl_cons, List.foldl_nil]

/-- What is said to a piece that does not fit. -/
theorem exists_append_eq {total : Nat} {pieces : List Bytes} {piece : Bytes}
    (h : total - pieces.flatten.length < piece.length) :
    ∃ r u', (u.loading total pieces).append piece = (.ok r, u') ∧ r.status = .size := by
  have htake : (piece.take (total - pieces.flatten.length)).length < piece.length := by
    rw [List.length_take]
    omega
  exact ⟨_, _, rfl, if_pos htake⟩

theorem exists_verify_eq (total : Nat) (pieces : List Bytes) (expected : UInt32) :
    ∃ v, (u.loading total pieces).verify expected = (.ok v,
      if v.status = .ok then u.sealed pieces.flatten else u.loading total pieces) :=
  ⟨_, rfl⟩

theorem verify_loading_code {total : Nat} {pieces : List Bytes} (hk : u.kind = .code)
    (heven : pieces.flatten.length % 2 = 0) :
    (u.loading total pieces).verify (Checksum.crc32 pieces.flatten) =
      (.ok ⟨.ok, .ofNat pieces.flatten.length, Checksum.crc32 pieces.flatten⟩,
        u.sealed pieces.flatten) := by
  simp only [verify, loading, judge, hk, Checksum.Rolling.value_foldl_update, heven, ne_eq,
    not_true_eq_false, if_false, if_true, sealed]

theorem verify_loading_script {pieces : List Bytes} {expected : UInt32} (hk : u.kind = .script)
    (he : expected = trustingChecksum ∨ expected = Checksum.crc32 pieces.flatten) :
    (u.loading pieces.flatten.length pieces).verify expected =
      (.ok ⟨.ok, .ofNat pieces.flatten.length, Checksum.crc32 pieces.flatten⟩,
        u.sealed pieces.flatten) := by
  have hb : (decide (expected = trustingChecksum) ||
      decide (expected = Checksum.crc32 pieces.flatten)) = true := by simpa using he
  simp only [verify, loading, judge, hk, hb, ne_eq, not_true_eq_false, if_false, if_true, sealed]

end Upload

namespace Device

variable {σ τ : Type}

/-! ## Requests in a row -/

/-- The payloads of the replies to requests in a row, and the device after them. -/
def handleAll : List (Command × Bytes) → Device σ τ → List Bytes × Device σ τ
  | [], d => ([], d)
  | (c, payload) :: requests, d =>
    let (reply, d) := d.handle c payload
    let (replies, d) := handleAll requests d
    (reply :: replies, d)

/-- The command that announces an upload. -/
def announcing : Upload.Kind → Command
  | .code => .loadBegin
  | .script => .scriptBegin

/-- The command that sends a piece of an upload. -/
def appending : Upload.Kind → Command
  | .code => .loadData
  | .script => .scriptData

/-- The command that verifies an upload. -/
def verifying : Upload.Kind → Command
  | .code => .loadEnd
  | .script => .scriptEnd

/-- A request of an upload. -/
def IsUpload (kind : Upload.Kind) (c : Command) : Prop :=
  c = announcing kind ∨ c = appending kind ∨ c = verifying kind

/-- The requests of an upload. -/
def uploadRequests (kind : Upload.Kind) (total : UInt32) (pieces : List Bytes)
    (expected : UInt32) : List (Command × Bytes) :=
  (announcing kind, Codec.u32.encode total) ::
    (pieces.map (appending kind, ·) ++ [(verifying kind, Codec.u32.encode expected)])

/-- The buffer for uploads of a kind. -/
def upload (d : Device σ τ) : Upload.Kind → Upload
  | .code => d.code
  | .script => d.script

/-- The device with another buffer for uploads of a kind. -/
def holding (d : Device σ τ) (u : Upload) : Upload.Kind → Device σ τ
  | .code => { d with code := u }
  | .script => { d with script := u }

/-- A reply that begins with the status that all is well. -/
def IsOk (reply : Bytes) : Prop :=
  ∃ fields, reply = Reply.statusBytes .ok ++ fields

theorem isOk_payload {r : Reply} (h : r.status = .ok) : IsOk r.payload :=
  ⟨r.fields, by rw [Reply.payload, h]⟩

section

variable {α : Type} {x : Decoder α} {payload : Bytes}

theorem readField_of_ok {t : Bytes} {a : α} (h : x payload = (.ok a, t)) :
    readField x payload = .ok a := by
  rw [readField, h]
  rfl

theorem readField_of_error {e : DecodeError} (h : (x payload).1 = .error e) :
    readField x payload = .error .parameter := by
  rw [readField, h]
  rfl

end

theorem readField_u32 (v : UInt32) : readField Codec.u32.decode (Codec.u32.encode v) = .ok v := by
  have hd := Codec.u32_lossless.faithful v []
  rw [List.append_nil] at hd
  exact readField_of_ok hd

variable {d d' d'' : Device σ τ} {requests : List (Command × Bytes)} {kind : Upload.Kind}

/-- All is well with requests, and they make one device of the other. -/
def Succeeds (requests : List (Command × Bytes)) (d d' : Device σ τ) : Prop :=
  ∃ replies, handleAll requests d = (replies, d') ∧ ∀ reply ∈ replies, IsOk reply

theorem Succeeds.nil : Succeeds [] d d :=
  ⟨[], rfl, nofun⟩

theorem Succeeds.cons {c : Command} {payload : Bytes} {r : Reply}
    (ha : d.answer c payload = (.ok r, d')) (hr : r.status = .ok)
    (hrest : Succeeds requests d' d'') : Succeeds ((c, payload) :: requests) d d'' := by
  obtain ⟨replies, hrest, hall⟩ := hrest
  refine ⟨r.payload :: replies, ?_, List.forall_mem_cons.mpr ⟨isOk_payload hr, hall⟩⟩
  simp only [handleAll, handle, ha, Reply.payloadOf, hrest]

/-! ## The requests of an upload -/

variable {u : Upload}

/-- The execution state after a request for an upload : a new one if it is for code and all
went well. -/
def afterUpload (kind : Upload.Kind) (good : Bool) (new x : ExecState) : ExecState :=
  if kind = .code ∧ good = true then new else x

theorem answer_announcing {total : UInt32} (hp : d.programming = false)
    (ha : (d.upload kind).admits total = true) (hm : d.memory total.toNat = true) :
    d.answer (announcing kind) (Codec.u32.encode total) =
      (.ok (.reserved kind total),
        { d with execState := afterUpload kind true .idle d.execState }.holding
          ((d.upload kind).loading total.toNat []) kind) := by
  have hann := Upload.announce_of_admits ha hm
  cases kind <;>
  · simp only [answer, announcing, announce, hp, readField_u32, Bool.false_eq_true, if_false]
    simp only [upload] at hann
    simp only [hann]
    rfl

theorem answer_appending {total : Nat} {pieces : List Bytes} {piece : Bytes}
    (hp : d.programming = false) (hl : pieces.flatten.length + piece.length ≤ total) :
    (d.holding (u.loading total pieces) kind).answer (appending kind) piece =
      (.ok (.receipt ⟨.ok, .ofNat (pieces.flatten ++ piece).length⟩),
        d.holding (u.loading total (pieces ++ [piece])) kind) := by
  cases kind <;>
    simp only [answer, appending, append, holding, hp, Upload.append_loading hl,
      Bool.false_eq_true, if_false, Except.map]

theorem answer_verifying {content : Bytes} {expected : UInt32} {v : Upload.Verdict}
    (hp : d.programming = false) (hv : u.verify expected = (.ok v, u.sealed content))
    (hok : v.status = .ok) :
    (d.holding u kind).answer (verifying kind) (Codec.u32.encode expected) =
      (.ok (.verdict kind v expected),
        { d with execState := afterUpload kind true .loaded d.execState }.holding
          (u.sealed content) kind) := by
  cases kind <;>
  · simp only [answer, verifying, verify, holding, hp, readField_u32, Bool.false_eq_true, if_false,
      hv, hok, if_true, Except.map]
    rfl

/-- The requests of an upload have nothing to do with the station. -/
theorem answer_station {c : Command} (hc : IsUpload kind c) (payload : Bytes) (d : Device σ τ)
    (s : Handoff.Station σ τ) : { d with station := s }.answer c payload =
      ((d.answer c payload).1, { (d.answer c payload).2 with station := s }) ∧
        (d.answer c payload).2.station = d.station := by
  rcases hc with rfl | rfl | rfl <;> cases kind
  case inl.code | inl.script =>
    simp only [answer, announcing, announce]
    split
    · exact ⟨rfl, rfl⟩
    split
    · exact ⟨rfl, rfl⟩
    split <;> exact ⟨rfl, rfl⟩
  case inr.inl.code | inr.inl.script =>
    simp only [answer, appending, append]
    split <;> exact ⟨rfl, rfl⟩
  case inr.inr.code =>
    simp only [answer, verifying, verify]
    split
    · exact ⟨rfl, rfl⟩
    split
    · exact ⟨rfl, rfl⟩
    split <;> exact ⟨rfl, rfl⟩
  case inr.inr.script =>
    simp only [answer, verifying, verify]
    split
    · exact ⟨rfl, rfl⟩
    split <;> exact ⟨rfl, rfl⟩

/-- Pieces that fit are taken one after the other. -/
theorem Succeeds.pieces {total : Nat} {done pieces : List Bytes} (hp : d.programming = false)
    (hl : done.flatten.length + pieces.flatten.length ≤ total)
    (hrest : Succeeds requests (d.holding (u.loading total (done ++ pieces)) kind) d') :
    Succeeds (pieces.map (appending kind, ·) ++ requests) (d.holding (u.loading total done) kind)
      d' := by
  induction pieces generalizing done with
  | nil => simpa using hrest
  | cons piece pieces ih =>
    rw [List.flatten_cons, List.length_append] at hl
    refine .cons (answer_appending hp (by omega)) rfl (ih ?_ (by simpa using hrest))
    have hdone : (done ++ [piece]).flatten.length = done.flatten.length + piece.length := by simp
    omega

/-- What is verified was uploaded. -/
theorem succeeds_upload {total expected : UInt32} {pieces : List Bytes} {v : Upload.Verdict}
    (hp : d.programming = false) (ha : (d.upload kind).admits total = true)
    (hm : d.memory total.toNat = true) (hl : pieces.flatten.length ≤ total.toNat)
    (hv : ((d.upload kind).loading total.toNat pieces).verify expected =
      (.ok v, (d.upload kind).sealed pieces.flatten)) (hok : v.status = .ok) :
    ∃ x, Succeeds (uploadRequests kind total pieces expected) d
      ({ d with execState := x }.holding ((d.upload kind).sealed pieces.flatten) kind) := by
  have hver := @answer_verifying σ τ { d with execState := afterUpload kind true .idle d.execState }
    kind _ _ _ _ hp hv hok
  have hlast : Succeeds [(verifying kind, Codec.u32.encode expected)] _ _ := .cons hver hok .nil
  refine ⟨afterUpload kind true .loaded (afterUpload kind true .idle d.execState),
    .cons (answer_announcing hp ha hm) rfl ?_⟩
  exact Succeeds.pieces (d := { d with execState := afterUpload kind true .idle d.execState }) hp
    (by simpa using hl) hlast

/-- A script of admissible length is uploaded in pieces, with its checksum or without. -/
theorem succeeds_script {total expected : UInt32} {pieces : List Bytes}
    (hp : d.programming = false) (hk : d.script.kind = .script)
    (ha : d.script.admits total = true) (hm : d.memory total.toNat = true)
    (hl : pieces.flatten.length = total.toNat)
    (he : expected = Upload.trustingChecksum ∨ expected = Checksum.crc32 pieces.flatten) :
    ∃ x, Succeeds (uploadRequests .script total pieces expected) d
      { d with script := d.script.sealed pieces.flatten, execState := x } := by
  have hv := Upload.verify_loading_script hk he
  rw [hl] at hv
  exact @succeeds_upload σ τ d .script _ _ _ _ hp ha hm (Nat.le_of_eq hl) hv rfl

/-- Code of even length that is not longer than announced is uploaded in pieces. -/
theorem succeeds_code {total : UInt32} {pieces : List Bytes} (hp : d.programming = false)
    (hk : d.code.kind = .code) (ha : d.code.admits total = true)
    (hm : d.memory total.toNat = true) (hl : pieces.flatten.length ≤ total.toNat)
    (heven : pieces.flatten.length % 2 = 0) :
    ∃ x, Succeeds (uploadRequests .code total pieces (Checksum.crc32 pieces.flatten)) d
      { d with code := d.code.sealed pieces.flatten, execState := x } :=
  @succeeds_upload σ τ d .code _ _ _ _ hp ha hm hl (Upload.verify_loading_code hk heven) rfl

/-! ## What is accepted was taken as it is -/

/-- The status with which the reply to a request begins. -/
def statusOf : Except Status Reply → Status
  | .ok r => r.status
  | .error status => status

/-- What comes after the status. -/
def fieldsOf (c : Command) : Except Status Reply → Bytes
  | .ok r => r.fields
  | .error _ => if Reply.bearsValue c then Codec.i32.encode 0 else []

/-- Every reply begins with its status. -/
theorem payloadOf_eq (c : Command) (x : Except Status Reply) :
    Reply.payloadOf c x = Reply.statusBytes (statusOf x) ++ fieldsOf c x := by
  cases x <;> rfl

theorem statusBytes_append_inj {a b : Status} {s s' : Bytes}
    (h : Reply.statusBytes a ++ s = Reply.statusBytes b ++ s') : a = b := by
  have hcode := (Codec.i32_lossless.append_inj h).1
  have hfound := Status.ofCode?_code b
  rw [← hcode, Status.ofCode?_code a] at hfound
  exact Option.some.inj hfound

theorem statusOf_of_isOk {c : Command} {x : Except Status Reply} (h : IsOk (Reply.payloadOf c x)) :
    statusOf x = .ok := by
  obtain ⟨fields, h⟩ := h
  cases x with
  | ok r => exact statusBytes_append_inj h
  | error status => exact statusBytes_append_inj h

theorem Succeeds.of_nil (h : Succeeds [] d d') : d' = d := by
  obtain ⟨replies, hall, -⟩ := h
  exact (Prod.mk.inj hall).2.symm

theorem Succeeds.of_cons {c : Command} {payload : Bytes}
    (h : Succeeds ((c, payload) :: requests) d d'') :
    statusOf (d.answer c payload).1 = .ok ∧ Succeeds requests (d.answer c payload).2 d'' := by
  obtain ⟨replies, hall, hok⟩ := h
  obtain ⟨hreplies, hlast⟩ := Prod.mk.inj hall
  subst hreplies
  obtain ⟨hfirst, hrest⟩ := List.forall_mem_cons.mp hok
  exact ⟨statusOf_of_isOk hfirst, _, Prod.ext rfl hlast, hrest⟩

theorem admits_of_announcing {total : UInt32} (hp : d.programming = false)
    (h : statusOf (d.answer (announcing kind) (Codec.u32.encode total)).1 = .ok) :
    (d.upload kind).admits total = true ∧ d.memory total.toNat = true := by
  cases kind <;> cases ha : (d.upload _).admits total <;> cases hm : d.memory total.toNat <;>
    simp_all [answer, announcing, announce, readField_u32, Upload.announce, upload, statusOf]

theorem fits_of_appending {total : Nat} {pieces : List Bytes} {piece : Bytes}
    (hp : d.programming = false)
    (h : statusOf ((d.holding (u.loading total pieces) kind).answer (appending kind) piece).1 =
      .ok) :
    piece.length ≤ total - pieces.flatten.length := by
  refine Nat.le_of_not_lt fun hlt => ?_
  obtain ⟨r, u', happend, hr⟩ := Upload.exists_append_eq (u := u) hlt
  cases kind <;>
    simp [answer, appending, append, holding, hp, happend, Except.map, statusOf, Reply.status, hr]
      at h

theorem answer_verifying_of_ok {total : Nat} {pieces : List Bytes} {expected : UInt32}
    (hp : d.programming = false)
    (h : statusOf ((d.holding (u.loading total pieces) kind).answer (verifying kind)
      (Codec.u32.encode expected)).1 = .ok) :
    ∃ x, ((d.holding (u.loading total pieces) kind).answer (verifying kind)
      (Codec.u32.encode expected)).2 =
        { d with execState := x }.holding (u.sealed pieces.flatten) kind := by
  obtain ⟨v, hv⟩ := Upload.exists_verify_eq (u := u) total pieces expected
  have hok : v.status = .ok := by
    cases kind <;>
      simpa [answer, verifying, verify, holding, hp, readField_u32, hv, Except.map, statusOf,
        Reply.status] using h
  rw [if_pos hok] at hv
  rw [@answer_verifying σ τ d kind _ _ _ _ hp hv hok]
  exact ⟨_, rfl⟩

/-- Pieces that are taken one after the other are all held. -/
theorem Succeeds.of_pieces {total : Nat} {done pieces : List Bytes} (hp : d.programming = false)
    (hl : done.flatten.length ≤ total)
    (h : Succeeds (pieces.map (appending kind, ·) ++ requests)
      (d.holding (u.loading total done) kind) d') :
    Succeeds requests (d.holding (u.loading total (done ++ pieces)) kind) d' := by
  induction pieces generalizing done with
  | nil => simpa using h
  | cons piece pieces ih =>
    obtain ⟨hfirst, hrest⟩ := h.of_cons
    have hfits := fits_of_appending hp hfirst
    rw [answer_appending hp (by omega)] at hrest
    have hdone : (done ++ [piece]).flatten.length ≤ total := by
      simp only [List.flatten_append, List.flatten_singleton, List.length_append]
      omega
    rw [List.append_cons]
    exact ih hdone hrest

/-- What a device accepts in pieces is what it holds sealed, and nothing else about it is
different except the execution state. -/
theorem Succeeds.uploaded {total expected : UInt32} {pieces : List Bytes}
    (hp : d.programming = false)
    (h : Succeeds (uploadRequests kind total pieces expected) d d') :
    ∃ x, d' = { d with execState := x }.holding ((d.upload kind).sealed pieces.flatten) kind := by
  obtain ⟨hfirst, hrest⟩ := h.of_cons
  obtain ⟨hadmits, hmemory⟩ := admits_of_announcing hp hfirst
  rw [answer_announcing hp hadmits hmemory] at hrest
  have hheld := Succeeds.of_pieces
    (d := { d with execState := afterUpload kind true .idle d.execState }) hp (Nat.zero_le _) hrest
  obtain ⟨hlast, hnil⟩ := hheld.of_cons
  obtain ⟨y, hsealed⟩ := answer_verifying_of_ok
    (d := { d with execState := afterUpload kind true .idle d.execState }) hp hlast
  rw [hsealed] at hnil
  exact ⟨y, hnil.of_nil⟩

/-- After an upload the content is there to be run, on the station as it was. -/
theorem Succeeds.content {total expected : UInt32} {pieces : List Bytes}
    (hp : d.programming = false)
    (h : Succeeds (uploadRequests kind total pieces expected) d d') :
    (d'.upload kind).content? = some pieces.flatten ∧ d'.station = d.station ∧
      d'.config = d.config ∧ d'.programming = false := by
  obtain ⟨x, rfl⟩ := h.uploaded hp
  cases kind with
  | code => exact ⟨rfl, rfl, rfl, hp⟩
  | script => exact ⟨rfl, rfl, rfl, hp⟩

end Device

end Coprocessor
