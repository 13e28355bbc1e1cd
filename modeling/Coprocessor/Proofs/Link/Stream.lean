import Coprocessor.Proofs.Link.FirstFrame

/-!
# Streams of frames

A stream is frames with noise before them. If no acceptable header stands in the noise
before a frame (`Segment.Clean`), then that frame is the first one, whatever the noise
and the payload hold otherwise, and reading it leaves the rest of the stream
(`Segment.Clean.read`). In a string without any acceptable header no frame is ever
read, however often reading begins again (`Framing.Quiet.rest`).
-/

namespace Coprocessor

namespace Framing

open Link

variable {c : Framing} {s : Bytes}

/-- No acceptable header stands anywhere. -/
def Quiet (c : Framing) (s : Bytes) : Prop :=
  ∀ p, ¬c.Opens (s.drop p)

/-- Whether an acceptable header stands at the front is seen in the first twenty bytes. -/
theorem opens_append_iff (hs : Header.size ≤ s.length) (t : Bytes) :
    c.Opens (s ++ t) ↔ c.Opens s := by
  obtain ⟨h, body, rfl⟩ := Header.exists_encode_append hs
  rw [List.append_assoc]
  constructor
  · rintro ⟨h', body', he, hm, hl⟩
    obtain ⟨rfl, -⟩ := Header.lossless.append_inj he
    exact ⟨h, body, rfl, hm, hl⟩
  · rintro ⟨h', body', he, hm, hl⟩
    obtain ⟨rfl, -⟩ := Header.lossless.append_inj he
    exact ⟨h, body ++ t, rfl, hm, hl⟩

/-! ## What is left -/

theorem readBody_rest_suffix (c : Framing) (skipped : Nat) (h : Header) (s : Bytes) :
    (c.readBody skipped h s).rest <:+ s := by
  unfold readBody
  split
  case h_1 => exact List.nil_suffix
  case h_2 payload rest hs =>
    have hrest : rest <:+ s := by
      simp only [Bytes.splitAt?, Option.ite_none_right_eq_some, Option.some.injEq,
        Prod.mk.injEq] at hs
      rw [← hs.2.2]
      exact List.drop_suffix _ _
    dsimp only
    split
    · split
      case h_1 => exact List.nil_suffix
      case h_2 word rest' hd =>
        rw [Codec.u32_lossless.canonical hd] at hrest
        exact (List.suffix_append _ _).trans hrest
    · exact hrest

/-- What a search leaves is the end of the string. -/
theorem scan_rest_suffix (c : Framing) (ahead skipped : Nat) (s : Bytes) :
    (c.scan ahead skipped s).rest <:+ s := by
  induction s generalizing ahead skipped with
  | nil => exact List.nil_suffix
  | cons b s ih =>
    have hs : s <:+ b :: s := List.suffix_cons b s
    by_cases hl : 4 ≤ (b :: s).length
    · rw [scan_cons c ahead skipped hl]
      split
      · split
        case h_1 => exact List.nil_suffix
        case h_2 h body hd =>
          split
          · rw [Header.lossless.canonical hd]
            exact (c.readBody_rest_suffix skipped h body).trans (List.suffix_append _ _)
          · exact (ih _ _).trans hs
      · split
        · exact List.drop_suffix _ _
        · exact (ih _ _).trans hs
    · rw [scan_of_short c ahead skipped (Nat.lt_of_not_le hl)]
      exact List.nil_suffix

theorem Quiet.of_suffix {t : Bytes} (h : c.Quiet s) (ht : t <:+ s) : c.Quiet t := by
  obtain ⟨r, rfl⟩ := ht
  intro p ho
  refine h (r.length + p) ?_
  rwa [List.drop_length_add_append]

/-- A string that is shorter than a header holds none. -/
theorem quiet_of_length_lt (h : s.length < Header.size) : c.Quiet s := by
  intro p ho
  have hl := ho.size_le
  rw [List.length_drop] at hl
  omega

/-- Reading goes on without an acceptable header. -/
theorem Quiet.rest (h : c.Quiet s) : c.Quiet (c.read s).rest :=
  h.of_suffix (c.scan_rest_suffix 0 0 s)

theorem Quiet.read_ne_frame (h : c.Quiet s) (f : Frame) : (c.read s).finding ≠ .frame f :=
  Framing.read_ne_frame (fun p hp => absurd hp.1 (h p)) f

end Framing

namespace Link

/-- A frame with noise before it. -/
structure Segment where
  /-- The noise. -/
  noise : Bytes
  /-- The header. -/
  header : Header
  /-- The payload. -/
  payload : Bytes
  deriving DecidableEq, Repr

namespace Segment

variable {c : Framing} {g : Segment}

/-- The bytes of the segment. -/
def bytes (c : Framing) (g : Segment) : Bytes :=
  g.noise ++ c.frame g.header g.payload

/-- The frame is acceptable, the noise is within the limit, and no acceptable header stands
in it, read on into the frame. -/
structure Clean (c : Framing) (g : Segment) : Prop where
  /-- The magic is right. -/
  magic : g.header.magic = Header.magicWord
  /-- The length is that of the payload. -/
  length : g.header.length.toNat = g.payload.length
  /-- The payload is within the limit. -/
  fits : g.payload.length ≤ c.maxPayload
  /-- The noise is within the limit. -/
  short : g.noise.length ≤ c.maxScan
  /-- No acceptable header stands in the noise. -/
  quiet : ∀ q < g.noise.length, ¬c.Opens ((g.bytes c).drop q)

/-- What the second checksum of a frame that was written tells, if there is one. -/
def verdict (c : Framing) : Option Bool :=
  if c.trailing then some true else none

theorem size_le_drop {q : Nat} (hq : q ≤ g.noise.length) :
    Header.size ≤ ((g.bytes c).drop q).length := by
  simp [bytes, Framing.frame]
  omega

/-- The frame of a clean segment is the first one of any stream that the segment begins. -/
theorem Clean.firstAt (h : g.Clean c) (rest : Bytes) :
    c.FirstAt (g.bytes c ++ rest) g.noise.length := by
  have hdrop : ∀ q ≤ g.noise.length, c.Opens ((g.bytes c ++ rest).drop q) ↔
      c.Opens ((g.bytes c).drop q) := fun q hq => by
    have hl : q ≤ (g.bytes c).length := Nat.le_trans hq (by simp [bytes])
    rw [List.drop_append_of_le_length hl, Framing.opens_append_iff (size_le_drop hq)]
  refine ⟨(hdrop _ (Nat.le_refl _)).mpr ?_, fun q hq ho => ?_⟩
  · refine ⟨g.header, g.payload ++ c.trailer g.payload, ?_, h.magic, ?_⟩
    · simp [bytes, Framing.frame]
    · rw [h.length]
      exact h.fits
  · exact h.quiet q hq ((hdrop q (Nat.le_of_lt hq)).mp ho)

/-- Reading a stream that begins with a clean segment finds its frame, and leaves the rest. -/
theorem Clean.read (h : g.Clean c) (rest : Bytes) :
    (c.read (g.bytes c ++ rest)).finding =
        .frame ⟨g.header, g.payload, verdict c, g.noise.length⟩ ∧
      (c.read (g.bytes c ++ rest)).rest = rest := by
  have hs : (g.bytes c ++ rest).drop g.noise.length =
      Header.codec.encode g.header ++ (g.payload ++ (c.trailer g.payload ++ rest)) := by
    simp [bytes, Framing.frame]
  have ht : (c.trailer g.payload).length = if c.trailing then 4 else 0 := by
    unfold Framing.trailer
    split <;> simp
  have hv : c.verdict g.payload (c.trailer g.payload) = verdict c := by
    unfold Framing.verdict verdict Framing.trailer
    split <;> simp
  have hread := Framing.read_of_firstAt (h.firstAt rest) h.short hs h.length.symm ht
  rwa [hv] at hread

end Segment

end Link

end Coprocessor
