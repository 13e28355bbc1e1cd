import Coprocessor.Link.Reading
import Coprocessor.Proofs.Wire.RoundTrip

/-!
# The first frame in a string

A frame may be read where the magic stands and begins a header whose length is within
the limit (`Framing.Opens`). Reading goes for the least such offset
(`Framing.FirstAt`). The magic does not overlap itself one byte later
(`beginsFrame_tail`), so behind a magic that turns out to be noise the limit of noise
is checked at once, and no frame is read beyond it (`scan_ne_frame`).
-/

namespace Coprocessor

namespace Framing

open Link

variable {c : Framing} {s : Bytes}

/-- An acceptable header stands at the front. -/
def Opens (c : Framing) (s : Bytes) : Prop :=
  ∃ h body, s = Header.codec.encode h ++ body ∧ h.magic = Header.magicWord ∧
    h.length.toNat ≤ c.maxPayload

/-- Whether an acceptable header is read at the front. -/
def opens (c : Framing) (s : Bytes) : Bool :=
  match Header.codec.decode s with
  | (.ok h, _) => h.magic == Header.magicWord && h.length.toNat ≤ c.maxPayload
  | (.error _, _) => false

theorem opens_eq_true_iff : c.opens s = true ↔ c.Opens s := by
  unfold opens
  constructor
  · intro hd
    split at hd
    case h_1 h body he =>
      simp only [Bool.and_eq_true, beq_iff_eq, decide_eq_true_eq] at hd
      exact ⟨h, body, Header.lossless.canonical he, hd⟩
    case h_2 => cases hd
  · rintro ⟨h, body, rfl, hm, hl⟩
    rw [Header.lossless.faithful]
    simp [hm, hl]

instance : Decidable (c.Opens s) :=
  decidable_of_iff _ opens_eq_true_iff

/-- The least offset at which an acceptable header stands. -/
def FirstAt (c : Framing) (s : Bytes) (p : Nat) : Prop :=
  c.Opens (s.drop p) ∧ ∀ q < p, ¬c.Opens (s.drop q)

instance {p : Nat} : Decidable (c.FirstAt s p) :=
  inferInstanceAs (Decidable (c.Opens (s.drop p) ∧ ∀ q < p, ¬c.Opens (s.drop q)))

/-! ## The magic -/

theorem beginsFrame_encode (h : Header) (body : Bytes) :
    beginsFrame (Header.codec.encode h ++ body) = true ↔ h.magic = Header.magicWord := by
  have ht : (Header.codec.encode h ++ body).take 4 = Codec.u32.encode h.magic := by
    simp [Header.codec]
  rw [beginsFrame, ht, beq_iff_eq]
  exact Codec.u32_lossless.encode_inj

/-- The magic does not begin one byte after itself. -/
theorem beginsFrame_tail {b : UInt8} (h : beginsFrame (b :: s) = true) :
    beginsFrame s = false := by
  rw [beginsFrame, beq_iff_eq] at h
  have hs : s.take 3 = [0x50, 0x52, 0x30] := (List.cons.inj h).2
  cases s with
  | nil => cases hs
  | cons b' s =>
    obtain ⟨rfl, -⟩ := List.cons.inj hs
    rfl

theorem Opens.beginsFrame (h : c.Opens s) : beginsFrame s = true := by
  obtain ⟨h, body, rfl, hm, -⟩ := h
  exact (beginsFrame_encode h body).mpr hm

theorem Opens.size_le (h : c.Opens s) : Header.size ≤ s.length := by
  obtain ⟨h, body, rfl, -⟩ := h
  simp

/-- Where an acceptable header stands, there is a least offset. -/
theorem exists_firstAt {p : Nat} (h : c.Opens (s.drop p)) : ∃ q ≤ p, c.FirstAt s q := by
  induction p using Nat.strongRecOn with
  | ind p ih =>
    by_cases hq : ∃ q < p, c.Opens (s.drop q)
    · obtain ⟨q, hq, ho⟩ := hq
      obtain ⟨r, hr, hf⟩ := ih q hq ho
      exact ⟨r, Nat.le_trans hr (Nat.le_of_lt hq), hf⟩
    · exact ⟨p, Nat.le_refl p, h, fun q hlt ho => hq ⟨q, hlt, ho⟩⟩

/-! ## Steps of the search -/

theorem scan_of_short (c : Framing) (ahead skipped : Nat) (h : s.length < 4) :
    c.scan ahead skipped s = ⟨.starved (skipped ≠ 0), [], []⟩ := by
  cases s with
  | nil => rfl
  | cons b s =>
    have hl : (s.take 3).length < 3 := by
      simp only [List.length_cons, List.length_take] at h ⊢
      omega
    rw [scan, if_pos hl]

/-- A string of four bytes or more is searched byte by byte. -/
theorem scan_cons (c : Framing) (ahead skipped : Nat) {b : UInt8} (h : 4 ≤ (b :: s).length) :
    c.scan ahead skipped (b :: s) =
      if beginsFrame (b :: s) then
        match Header.codec.decode (b :: s) with
        | (.error _, _) => ⟨.starved false, [], []⟩
        | (.ok h, body) =>
          if h.length.toNat ≤ c.maxPayload then c.readBody skipped h body
          else (c.scan (Header.size - 1) (skipped + 1) s).after (.tooLong h.length c.maxPayload)
      else if c.maxScan ≤ skipped then ⟨.noise, (b :: s).drop (max ahead 4), []⟩
      else c.scan (ahead - 1) (skipped + 1) s := by
  have hl : ¬(s.take 3).length < 3 := by
    simp only [List.length_cons, List.length_take] at h ⊢
    omega
  exact (scan.eq_def c ahead skipped (b :: s)).trans (if_neg hl)

theorem scan_of_cut (c : Framing) (ahead skipped : Nat) (hb : beginsFrame s = true)
    (h : s.length < Header.size) : c.scan ahead skipped s = ⟨.starved false, [], []⟩ := by
  cases s with
  | nil => cases hb
  | cons b s =>
    have hl : 4 ≤ (b :: s).length := by
      have := congrArg List.length (beq_iff_eq.mp hb)
      simp only [List.length_take, Codec.length_encode_u32] at this
      omega
    rw [scan_cons c ahead skipped hl, if_pos hb]
    cases hd : Header.codec.decode (b :: s) with
    | mk result body =>
      cases result with
      | error => rfl
      | ok header =>
        have := Header.takes_codec _ _ _ hd
        omega

theorem scan_of_header (c : Framing) (ahead skipped : Nat) {h : Header} (body : Bytes)
    (hm : h.magic = Header.magicWord) :
    c.scan ahead skipped (Header.codec.encode h ++ body) =
      if h.length.toNat ≤ c.maxPayload then c.readBody skipped h body
      else (c.scan (Header.size - 1) (skipped + 1) (Header.codec.encode h ++ body).tail).after
        (.tooLong h.length c.maxPayload) := by
  have hb := (beginsFrame_encode h body).mpr hm
  have hl : Header.size ≤ (Header.codec.encode h ++ body).length := by simp
  have hd := Header.lossless.faithful h body
  generalize Header.codec.encode h ++ body = s at hb hl hd
  cases s with
  | nil => cases hb
  | cons b s => rw [scan_cons c ahead skipped (Nat.le_trans (by decide) hl), if_pos hb, hd,
      List.tail_cons]

theorem scan_of_noise (c : Framing) (ahead skipped : Nat) (hb : beginsFrame s = false)
    (h : 4 ≤ s.length) :
    c.scan ahead skipped s =
      if c.maxScan ≤ skipped then ⟨.noise, s.drop (max ahead 4), []⟩
      else c.scan (ahead - 1) (skipped + 1) s.tail := by
  cases s with
  | nil => cases h
  | cons b s => rw [scan_cons c ahead skipped h, if_neg (by simp [hb]), List.tail_cons]

/-! ## What is read -/

theorem FirstAt.of_cons {b : UInt8} {p : Nat} (h : c.FirstAt (b :: s) (p + 1)) :
    c.FirstAt s p ∧ ¬c.Opens (b :: s) :=
  ⟨⟨h.1, fun q hq => h.2 (q + 1) (Nat.succ_lt_succ hq)⟩, h.2 0 (Nat.succ_pos p)⟩

/-- Where no acceptable header stands, a magic is followed by a length over the limit. -/
theorem exists_header_of_not_opens (hb : beginsFrame s = true) (hl : Header.size ≤ s.length)
    (hn : ¬c.Opens s) : ∃ h body, s = Header.codec.encode h ++ body ∧
      h.magic = Header.magicWord ∧ ¬h.length.toNat ≤ c.maxPayload := by
  obtain ⟨h, body, rfl⟩ := Header.exists_encode_append hl
  have hm := (beginsFrame_encode h body).mp hb
  exact ⟨h, body, rfl, hm, fun hle => hn ⟨h, body, rfl, hm, hle⟩⟩

/-- The search counts the noise before the first frame, and reads on after its header. -/
theorem exists_scan_eq {p skipped ahead : Nat} {h : Header} {body : Bytes} (hf : c.FirstAt s p)
    (hs : s.drop p = Header.codec.encode h ++ body) (hp : skipped + p ≤ c.maxScan) :
    ∃ before, c.scan ahead skipped s =
      { c.readBody (skipped + p) h body with
        oddities := before ++ (c.readBody (skipped + p) h body).oddities } := by
  induction p generalizing s skipped ahead with
  | zero =>
    rw [List.drop_zero] at hs
    obtain ⟨h', body', he, hm, hl⟩ := hf.1
    rw [List.drop_zero, hs] at he
    obtain ⟨rfl, rfl⟩ := Header.lossless.append_inj he
    rw [hs, scan_of_header c ahead skipped body hm, if_pos hl]
    exact ⟨[], rfl⟩
  | succ p ih =>
    cases s with
    | nil => simpa [Header.size] using hf.1.size_le
    | cons b s =>
      obtain ⟨hf', hn⟩ := hf.of_cons
      have hlen := hf'.1.size_le
      rw [List.length_drop] at hlen
      rw [List.drop_succ_cons] at hs
      have hk : skipped + 1 + p ≤ c.maxScan := by omega
      have hadd : skipped + (p + 1) = skipped + 1 + p := by omega
      rw [hadd]
      by_cases hb : beginsFrame (b :: s) = true
      · -- a magic whose length is over the limit
        obtain ⟨h', body', he, hm, hl⟩ :=
          exists_header_of_not_opens hb (Nat.le_trans hlen (by simp; omega)) hn
        obtain ⟨before, hscan⟩ := @ih s (skipped + 1) (Header.size - 1) hf' hs hk
        rw [he, scan_of_header c ahead skipped body' hm, if_neg hl, ← he, List.tail_cons, hscan]
        exact ⟨.tooLong h'.length c.maxPayload :: before, rfl⟩
      · rw [scan_of_noise c ahead skipped (by simpa using hb) (by simp [Header.size] at hlen ⊢; omega),
          if_neg (by omega), List.tail_cons]
        exact ih hf' hs hk

/-- What the second checksum tells of a payload, if there is one. -/
def verdict (c : Framing) (payload trail : Bytes) : Option Bool :=
  if c.trailing then some (decide (trail = Codec.u32.encode (Checksum.ofPayload payload)))
  else none

/-- Where all of a frame stands, it is read, and what follows it is left. -/
theorem readBody_of_whole (skipped : Nat) {h : Header} {payload trail : Bytes} (rest : Bytes)
    (hp : payload.length = h.length.toNat) (ht : trail.length = if c.trailing then 4 else 0) :
    (c.readBody skipped h (payload ++ (trail ++ rest))).finding =
        .frame ⟨h, payload, c.verdict payload trail, skipped⟩ ∧
      (c.readBody skipped h (payload ++ (trail ++ rest))).rest = rest := by
  have hs : Bytes.splitAt? h.length.toNat (payload ++ (trail ++ rest)) =
      some (payload, trail ++ rest) := by
    rw [← hp, Bytes.splitAt?_append]
  unfold readBody verdict
  simp only [hs]
  by_cases htr : c.trailing = true
  · simp only [htr, if_true] at ht ⊢
    obtain ⟨word, trail', hd⟩ := Codec.needs_u32.succeeds (Nat.le_of_eq ht.symm)
    obtain rfl := Codec.u32_lossless.canonical hd
    have hnil : trail' = [] := by simpa using ht
    subst hnil
    rw [List.append_nil, Codec.u32_lossless.faithful]
    have heq : (word == Checksum.ofPayload payload) =
        decide (Codec.u32.encode word = Codec.u32.encode (Checksum.ofPayload payload)) := by
      rw [Bool.eq_iff_iff, beq_iff_eq, decide_eq_true_iff, Codec.u32_lossless.encode_inj]
    simp only [heq, and_self]
  · simp only [htr] at ht ⊢
    obtain rfl := List.length_eq_zero_iff.mp ht
    exact ⟨rfl, rfl⟩

/-- A search that meets no acceptable header within the limit of noise reads no frame. -/
theorem scan_ne_frame {skipped ahead : Nat} (hs : skipped ≤ c.maxScan ∨ beginsFrame s = false)
    (hn : ∀ p, skipped + p ≤ c.maxScan → ¬c.Opens (s.drop p)) (f : Frame) :
    (c.scan ahead skipped s).finding ≠ .frame f := by
  induction s generalizing skipped ahead with
  | nil => nofun
  | cons b s ih =>
    have hn' : ∀ p, skipped + 1 + p ≤ c.maxScan → ¬c.Opens (s.drop p) := fun p hp =>
      hn (p + 1) (by omega)
    by_cases hl : 4 ≤ (b :: s).length
    · cases hb : beginsFrame (b :: s) with
      | true =>
        have hk : skipped ≤ c.maxScan := hs.resolve_right (by simp [hb])
        by_cases hcut : (b :: s).length < Header.size
        · rw [scan_of_cut c ahead skipped hb hcut]
          nofun
        · -- the next byte is looked at even beyond the limit, but no magic begins there
          obtain ⟨h, body, he, hm, hlong⟩ :=
            exists_header_of_not_opens hb (Nat.le_of_not_lt hcut) (hn 0 hk)
          rw [he, scan_of_header c ahead skipped body hm, if_neg hlong, ← he, List.tail_cons]
          exact ih (Or.inr (beginsFrame_tail hb)) hn'
      | false =>
        rw [scan_of_noise c ahead skipped hb hl]
        split
        case isTrue => nofun
        case isFalse hk => exact ih (Or.inl (Nat.lt_of_not_le hk)) hn'
    · rw [scan_of_short c ahead skipped (Nat.lt_of_not_le hl)]
      nofun

/-- The first frame in a string is read, if the noise before it is within the limit. -/
theorem read_of_firstAt {p : Nat} {h : Header} {payload trail rest : Bytes}
    (hf : c.FirstAt s p) (hp : p ≤ c.maxScan)
    (hs : s.drop p = Header.codec.encode h ++ (payload ++ (trail ++ rest)))
    (hl : payload.length = h.length.toNat) (ht : trail.length = if c.trailing then 4 else 0) :
    (c.read s).finding = .frame ⟨h, payload, c.verdict payload trail, p⟩ ∧
      (c.read s).rest = rest := by
  obtain ⟨before, hscan⟩ := @exists_scan_eq c s p 0 0 h _ hf hs (by omega)
  obtain ⟨hfinding, hrest⟩ := c.readBody_of_whole (0 + p) rest hl ht
  rw [read, hscan]
  rw [Nat.zero_add] at hfinding hrest ⊢
  exact ⟨hfinding, hrest⟩

/-- No frame is read where the noise goes on beyond the limit, or to the end. -/
theorem read_ne_frame (hn : ∀ p, c.FirstAt s p → c.maxScan < p) (f : Frame) :
    (c.read s).finding ≠ .frame f := by
  refine scan_ne_frame (Or.inl (Nat.zero_le _)) (fun p hp ho => ?_) f
  obtain ⟨q, hq, hf⟩ := exists_firstAt ho
  have := hn q hf
  omega

/-! ## How much is read -/

theorem length_payload_of_readBody {skipped : Nat} {h : Header} {f : Frame}
    (hf : (c.readBody skipped h s).finding = .frame f) :
    f.payload.length = h.length.toNat := by
  unfold readBody at hf
  split at hf
  case h_1 => cases hf
  case h_2 payload rest hs =>
    have hlength : payload.length = h.length.toNat := by
      simp only [Bytes.splitAt?, Option.ite_none_right_eq_some, Option.some.injEq,
        Prod.mk.injEq] at hs
      rw [← hs.2.1, hs.1]
    dsimp only at hf
    split at hf
    · split at hf <;> cases hf
      exact hlength
    · cases hf
      exact hlength

/-- Whatever is searched, the payload of a frame that is found is within the limit. -/
theorem length_payload_of_scan {ahead skipped : Nat} {f : Frame}
    (hf : (c.scan ahead skipped s).finding = .frame f) : f.payload.length ≤ c.maxPayload := by
  induction s generalizing ahead skipped with
  | nil => cases hf
  | cons b s ih =>
    by_cases hl : 4 ≤ (b :: s).length
    · rw [scan_cons c ahead skipped hl] at hf
      split at hf
      · split at hf
        case h_1 => cases hf
        case h_2 h body hd =>
          split at hf
          case isTrue hfits =>
            exact Nat.le_trans (Nat.le_of_eq (length_payload_of_readBody hf)) hfits
          case isFalse => exact ih hf
      · split at hf
        · cases hf
        · exact ih hf
    · rw [scan_of_short c ahead skipped (Nat.lt_of_not_le hl)] at hf
      cases hf

end Framing

end Coprocessor
