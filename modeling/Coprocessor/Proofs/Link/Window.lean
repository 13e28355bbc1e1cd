import Coprocessor.Proofs.Link.FirstFrame

/-!
# Reading through a window

A reader on a link has no string to look at : it takes bytes in as it needs them. It
slides a window of four bytes along until it holds the magic, takes in the sixteen
bytes behind it and, when the length in them is over the limit, holds back all but the
first byte of the header, to look at them again (`Intake.read`). This finds what
`Framing.read` finds in the whole string, and leaves on the link what that leaves;
whenever it finds a frame, it holds nothing back (`Intake.read_eq`).
-/

namespace Coprocessor.Link

/-- What a reader has of a stream. -/
structure Intake where
  /-- The bytes that it holds back. -/
  pending : Bytes
  /-- The bytes on the link. -/
  link : Bytes
  deriving DecidableEq, Repr

namespace Intake

variable {c : Framing} {i i' : Intake}

/-- All bytes that are to be looked at. -/
def all (i : Intake) : Bytes :=
  i.pending ++ i.link

/-- The next `n` bytes, those held back first. -/
def fill (n : Nat) (i : Intake) : Option (Bytes × Intake) :=
  let front := i.pending.take n
  match Bytes.splitAt? (n - front.length) i.link with
  | some (more, link) => some (front ++ more, ⟨i.pending.drop n, link⟩)
  | none => none

/-- The next byte, one held back first. -/
def next : Intake → Option (UInt8 × Intake)
  | ⟨b :: pending, link⟩ => some (b, ⟨pending, link⟩)
  | ⟨[], b :: link⟩ => some (b, ⟨[], link⟩)
  | ⟨[], []⟩ => none

/-! ## Taking bytes in -/

theorem fill_of_le {n : Nat} (h : n ≤ i.all.length) : i.fill n =
    some (i.all.take n, ⟨i.pending.drop n, i.link.drop (n - i.pending.length)⟩) := by
  have hl : (i.link.take (n - (i.pending.take n).length)).length =
      n - (i.pending.take n).length := by
    simp only [all, List.length_append, List.length_take] at h ⊢
    omega
  have hk : n - (i.pending.take n).length = n - i.pending.length := by
    rw [List.length_take]
    omega
  simp only [fill, Bytes.splitAt?, if_pos hl]
  rw [hk, all, List.take_append]

theorem fill_of_lt {n : Nat} (h : i.all.length < n) : i.fill n = none := by
  have hn : Bytes.splitAt? (n - (i.pending.take n).length) i.link = none := by
    rw [Bytes.splitAt?_eq_none_iff]
    simp only [all, List.length_append, List.length_take] at h ⊢
    omega
  simp only [fill, hn]

/-- Bytes that are taken in come from the front, and those held back are taken first. -/
theorem eq_of_fill_eq_some {n : Nat} {front : Bytes} (h : i.fill n = some (front, i')) :
    i.all = front ++ i'.all ∧ front.length = n ∧ i'.pending = i.pending.drop n := by
  by_cases hn : n ≤ i.all.length
  · rw [fill_of_le hn] at h
    cases h
    have hdrop : all ⟨i.pending.drop n, i.link.drop (n - i.pending.length)⟩ = i.all.drop n := by
      rw [all, all, List.drop_append]
    refine ⟨?_, by simp [hn], rfl⟩
    rw [hdrop, List.take_append_drop]
  · rw [fill_of_lt (Nat.lt_of_not_le hn)] at h
    cases h

theorem length_of_fill_eq_none {n : Nat} (h : i.fill n = none) : i.all.length < n := by
  refine Nat.lt_of_not_le fun hn => ?_
  rw [fill_of_le hn] at h
  cases h

theorem eq_of_next_eq_some {b : UInt8} (h : i.next = some (b, i')) :
    i.all = b :: i'.all ∧ i'.pending = i.pending.tail := by
  obtain ⟨pending, link⟩ := i
  cases pending with
  | cons => cases h; exact ⟨rfl, rfl⟩
  | nil =>
    cases link with
    | cons => cases h; exact ⟨rfl, rfl⟩
    | nil => cases h

theorem eq_of_next_eq_none (h : i.next = none) : i = ⟨[], []⟩ := by
  obtain ⟨pending, link⟩ := i
  cases pending with
  | cons => cases h
  | nil =>
    cases link with
    | cons => cases h
    | nil => rfl

/-! ## The window -/

/-- What comes of sliding the window. -/
inductive Slide where
  /-- It holds the magic, after some bytes of noise. -/
  | magic (skipped : Nat) (i : Intake)
  /-- The search ends. -/
  | stop (finding : Finding) (i : Intake)

/-- Slides the window until it holds the magic. -/
def slide (c : Framing) (window : Bytes) (skipped : Nat) (i : Intake) : Slide :=
  if window = Codec.u32.encode Header.magicWord then .magic skipped i
  else if c.maxScan ≤ skipped then .stop .noise i
  else match _h : i.next with
    | none => .stop (.starved true) i
    | some (b, i') => slide c (window.tail ++ [b]) (skipped + 1) i'
termination_by i.all.length
decreasing_by
  simp [(eq_of_next_eq_some _h).1]

/-- Sliding takes no bytes back. -/
theorem length_of_slide {window : Bytes} {skipped k : Nat}
    (h : slide c window skipped i = .magic k i') : i'.all.length ≤ i.all.length := by
  fun_induction slide c window skipped i with
  | case1 => cases h; exact Nat.le_refl _
  | case2 | case3 => cases h
  | case4 window skipped i hw hs b j hn ih =>
    have := ih h
    simp [(eq_of_next_eq_some hn).1]
    omega

/-- Reads on after a header. -/
def readBody (c : Framing) (skipped : Nat) (h : Header) (i : Intake) : Finding × Intake :=
  match i.fill h.length.toNat with
  | none => (.starved false, ⟨[], []⟩)
  | some (payload, i) =>
    if c.trailing then
      match i.fill 4 with
      | none => (.starved false, ⟨[], []⟩)
      | some (trail, i) =>
        let word := UInt32.ofNat (Codec.ofLittleEndian trail)
        (.frame ⟨h, payload, some (word == Checksum.ofPayload payload), skipped⟩, i)
    else (.frame ⟨h, payload, none, skipped⟩, i)

/-- The bytes of a header, from those behind the magic. -/
def behindMagic (fields : Bytes) : Bytes :=
  Codec.u32.encode Header.magicWord ++ fields

/-- Reads a frame. -/
def read (c : Framing) (skipped : Nat) (i : Intake) : Finding × Intake :=
  match _hfill : i.fill 4 with
  | none => (.starved false, ⟨[], []⟩)
  | some (window, i₁) =>
    match _hslide : slide c window skipped i₁ with
    | .stop finding i₂ => (finding, i₂)
    | .magic skipped i₂ =>
      match _hfields : i₂.fill 16 with
      | none => (.starved false, ⟨[], []⟩)
      | some (fields, i₃) =>
        match _hd : Header.codec.decode (behindMagic fields) with
        | (.error _, _) => (.starved false, i₃)
        | (.ok h, _) =>
          if h.length.toNat ≤ c.maxPayload then readBody c skipped h i₃
          else read c (skipped + 1) ⟨(behindMagic fields).tail ++ i₃.pending, i₃.link⟩
termination_by i.all.length
decreasing_by
  have h4 := eq_of_fill_eq_some _hfill
  have hs := length_of_slide _hslide
  have h16 := eq_of_fill_eq_some _hfields
  have hl : (all ⟨(behindMagic fields).tail ++ i₃.pending, i₃.link⟩).length =
      3 + fields.length + i₃.all.length := by
    simp [behindMagic, all]
  rw [hl]
  rw [h4.1, List.length_append, h4.2.1]
  rw [h16.1, List.length_append, h16.2.1] at hs
  omega

/-! ## The reader finds what the search finds -/

/-- A window at the front of a string holds the magic if the string begins with it. -/
theorem beginsFrame_window {window : Bytes} (hw : window.length = 4) (s : Bytes) :
    Framing.beginsFrame (window ++ s) = true ↔ window = Codec.u32.encode Header.magicWord := by
  rw [Framing.beginsFrame, List.take_left' hw, beq_iff_eq]

/-- Sliding comes to what a search comes to : to a magic, with at most `n` bytes held back, or
to an end without a frame. -/
def Slide.Agrees (c : Framing) (r : Reading) (n : Nat) : Slide → Prop
  | magic k i => i.pending.length ≤ n ∧
    ∃ ahead, r = c.scan ahead k (Codec.u32.encode Header.magicWord ++ i.all)
  | stop finding i => (∀ f, finding ≠ .frame f) ∧ r = ⟨finding, i.link, []⟩

theorem Slide.Agrees.mono {r : Reading} {m n : Nat} {x : Slide} (h : x.Agrees c r m)
    (hn : m ≤ n) : x.Agrees c r n := by
  cases x with
  | magic k i => exact ⟨Nat.le_trans h.1 hn, h.2⟩
  | stop finding i => exact h

/-- The window slides as the search goes on. -/
theorem slide_agrees {window : Bytes} {skipped ahead : Nat} (hw : window.length = 4)
    (ha : max ahead 4 = 4 + i.pending.length) :
    (slide c window skipped i).Agrees c (c.scan ahead skipped (window ++ i.all))
      i.pending.length := by
  fun_induction slide c window skipped i generalizing ahead with
  | case1 skipped i => exact ⟨Nat.le_refl _, ahead, rfl⟩
  | case2 window skipped i hm hs =>
    have hb := mt (beginsFrame_window hw i.all).mp hm
    refine ⟨nofun, ?_⟩
    rw [Framing.scan_of_noise c ahead skipped (by simpa using hb) (by simp [hw]), if_pos hs, ha]
    have hdrop : (window ++ i.all).drop (4 + i.pending.length) = i.link := by
      simp [← hw, all]
    rw [hdrop]
  | case3 window skipped i hm hs hn =>
    have hb := mt (beginsFrame_window hw i.all).mp hm
    have hi := eq_of_next_eq_none hn
    refine ⟨nofun, ?_⟩
    rw [Framing.scan_of_noise c ahead skipped (by simpa using hb) (by simp [hw]), if_neg hs,
      Framing.scan_of_short]
    · rw [hi]
      rfl
    · rw [hi]
      simp [all, hw]
  | case4 window skipped i hm hs b j hn ih =>
    have hb := mt (beginsFrame_window hw i.all).mp hm
    obtain ⟨hall, hpending⟩ := eq_of_next_eq_some hn
    have htail : (window ++ i.all).tail = window.tail ++ [b] ++ j.all := by
      rw [List.tail_append_of_ne_nil (List.ne_nil_of_length_pos (by omega)), hall,
        List.append_assoc]
      rfl
    have hstep : c.scan ahead skipped (window ++ i.all) =
        c.scan (ahead - 1) (skipped + 1) (window.tail ++ [b] ++ j.all) := by
      rw [Framing.scan_of_noise c ahead skipped (by simpa using hb) (by simp [hw]), if_neg hs,
        htail]
    have hl : j.pending.length = i.pending.length - 1 := by rw [hpending, List.length_tail]
    rw [hstep]
    exact (@ih (ahead - 1) (by simp [hw]) (by omega)).mono (by omega)

/-- Where nothing is held back, bytes come from the link. -/
theorem fill_nil (n : Nat) (link : Bytes) :
    fill n ⟨[], link⟩ = (Bytes.splitAt? n link).map fun r => (r.1, ⟨[], r.2⟩) := by
  cases hs : Bytes.splitAt? n link <;> simp [fill, hs]

/-- With nothing held back, what follows a header is read as from a string. -/
theorem readBody_eq (c : Framing) (skipped : Nat) (h : Header) (link : Bytes) :
    readBody c skipped h ⟨[], link⟩ =
      ((c.readBody skipped h link).finding, ⟨[], (c.readBody skipped h link).rest⟩) := by
  unfold readBody Framing.readBody
  rw [fill_nil]
  cases Bytes.splitAt? h.length.toNat link with
  | none => rfl
  | some front =>
    obtain ⟨payload, link⟩ := front
    simp only [Option.map_some, fill_nil]
    split
    case isTrue ht =>
      simp only [Codec.u32, Codec.word, Bind.bind, Decoder.take, Pure.pure]
      cases Bytes.splitAt? 4 link <;> rfl
    case isFalse => rfl

/-- The magic and the sixteen bytes behind it are a header. -/
theorem exists_header_of_fields {fields : Bytes} (hl : fields.length = 16) :
    ∃ h, behindMagic fields = Header.codec.encode h ∧ h.magic = Header.magicWord := by
  have hlen : (behindMagic fields).length = Header.size := by
    simp [behindMagic, hl, Header.size]
  obtain ⟨h, rest, he⟩ := Header.exists_encode_append (Nat.le_of_eq hlen.symm)
  have hrest : rest = [] := by
    have := congrArg List.length he
    rw [hlen] at this
    simpa using this
  rw [hrest, List.append_nil] at he
  refine ⟨h, he, (Framing.beginsFrame_encode h []).mp ?_⟩
  rw [List.append_nil, ← he]
  rfl

/-- What a reader comes to is what a search comes to, and with a frame it holds nothing
back. -/
structure Finds (x : Finding × Intake) (r : Reading) : Prop where
  /-- It finds the same. -/
  finding : x.1 = r.finding
  /-- It leaves the same on the link. -/
  rest : x.2.link = r.rest
  /-- It holds nothing back when it has found a frame. -/
  pending : ∀ f, x.1 = .frame f → x.2.pending = []

/-- The first window of a stream of which nothing or nineteen bytes are held back. -/
theorem agrees_of_fill {window : Bytes} {skipped ahead : Nat}
    (hi : i.pending = [] ∨ i.pending.length = 19) (ha : max ahead 4 = max i.pending.length 4)
    (hfill : i.fill 4 = some (window, i')) :
    (slide c window skipped i').Agrees c (c.scan ahead skipped i.all) 15 := by
  obtain ⟨hall, hw, hp⟩ := eq_of_fill_eq_some hfill
  have hl : i'.pending.length = i.pending.length - 4 := by rw [hp, List.length_drop]
  rw [hall]
  rcases hi with hi | hi
  · rw [hi] at ha hl
    exact (slide_agrees hw (by simpa [hl] using ha)).mono (by simp [hl])
  · exact (slide_agrees hw (by omega)).mono (by omega)

/-- The sixteen bytes behind the magic are all that was held back, or more, and they are the
rest of a header. -/
theorem Slide.Agrees.fields {r : Reading} {fields : Bytes} {k : Nat}
    (h : (Slide.magic k i).Agrees c r 15) (hfill : i.fill 16 = some (fields, i')) :
    i'.pending = [] ∧ ∃ ahead h, h.magic = Header.magicWord ∧
      behindMagic fields = Header.codec.encode h ∧
      Header.codec.decode (behindMagic fields) = (.ok h, []) ∧
      r = c.scan ahead k (Header.codec.encode h ++ i'.link) := by
  obtain ⟨hle, ahead, rfl⟩ := h
  obtain ⟨hall, hl, hp⟩ := eq_of_fill_eq_some hfill
  have hnil : i'.pending = [] := by rw [hp, List.drop_eq_nil_of_le (by omega)]
  obtain ⟨h, he, hm⟩ := exists_header_of_fields hl
  have hd := Header.lossless.faithful h []
  rw [List.append_nil, ← he] at hd
  refine ⟨hnil, ahead, h, hm, he, hd, ?_⟩
  rw [hall, ← List.append_assoc, ← behindMagic, he, all, hnil, List.nil_append]

/-- What is held back after a header that is not acceptable is all of it but its first byte. -/
theorem heldBack_of_header {fields link : Bytes} {h : Header}
    (he : behindMagic fields = Header.codec.encode h) :
    ((behindMagic fields).tail ++ []).length = 19 ∧
      all ⟨(behindMagic fields).tail ++ [], link⟩ = (Header.codec.encode h ++ link).tail := by
  have hl : (behindMagic fields).length = 20 := by
    rw [he, Header.length_encode]
    rfl
  have hne : behindMagic fields ≠ [] := List.ne_nil_of_length_pos (by omega)
  refine ⟨by simp [hl], ?_⟩
  rw [← he, List.tail_append_of_ne_nil hne, all, List.append_nil]

/-- From a stream of which nothing or nineteen bytes are held back, a reader finds what the
search finds in all the bytes. -/
theorem read_finds {skipped ahead : Nat}
    (hi : i.pending = [] ∧ skipped = 0 ∨ i.pending.length = 19)
    (ha : max ahead 4 = max i.pending.length 4) :
    Finds (read c skipped i) (c.scan ahead skipped i.all) := by
  have hp : ∀ {i : Intake} {k : Nat}, i.pending = [] ∧ k = 0 ∨ i.pending.length = 19 →
      i.pending = [] ∨ i.pending.length = 19 := fun h => h.imp_left And.left
  fun_induction read c skipped i generalizing ahead with
  | case1 skipped i hfill =>
    have hl := length_of_fill_eq_none hfill
    rw [Framing.scan_of_short c ahead skipped hl]
    rcases hi with ⟨-, rfl⟩ | hi
    · exact ⟨rfl, rfl, nofun⟩
    · simp only [all, List.length_append] at hl
      omega
  | case2 skipped i window j hfill finding i' hslide =>
    have agrees := @agrees_of_fill c _ _ _ skipped _ (hp hi) ha hfill
    rw [hslide] at agrees
    obtain ⟨hf, hr⟩ := agrees
    rw [hr]
    exact ⟨rfl, rfl, fun f h => absurd h (hf f)⟩
  | case3 skipped i window j hfill k i' hslide hfields =>
    have agrees := @agrees_of_fill c _ _ _ skipped _ (hp hi) ha hfill
    rw [hslide] at agrees
    obtain ⟨-, ahead', hr⟩ := agrees
    rw [hr, Framing.scan_of_cut]
    · exact ⟨rfl, rfl, nofun⟩
    · exact (beginsFrame_window (Codec.length_encode_u32 _) _).mpr rfl
    · have hl := length_of_fill_eq_none hfields
      simp [Header.size]
      omega
  | case4 skipped i window j hfill k i' hslide fields i'' hfields e rest hd =>
    have agrees := @agrees_of_fill c _ _ _ skipped _ (hp hi) ha hfill
    rw [hslide] at agrees
    obtain ⟨-, -, h, -, -, hd', -⟩ := agrees.fields hfields
    rw [hd] at hd'
    cases hd'
  | case5 skipped i window j hfill k i' hslide fields i'' hfields h rest hd hle =>
    have agrees := @agrees_of_fill c _ _ _ skipped _ (hp hi) ha hfill
    rw [hslide] at agrees
    obtain ⟨hnil, ahead', h', hm, -, hd', hr⟩ := agrees.fields hfields
    rw [hd] at hd'
    cases hd'
    obtain ⟨pending, link⟩ := i''
    cases hnil
    rw [hr, Framing.scan_of_header c ahead' k link hm, if_pos hle, readBody_eq]
    exact ⟨rfl, rfl, fun _ _ => rfl⟩
  | case6 skipped i window j hfill k i' hslide fields i'' hfields h rest hd hlong ih =>
    have agrees := @agrees_of_fill c _ _ _ skipped _ (hp hi) ha hfill
    rw [hslide] at agrees
    obtain ⟨hnil, ahead', h', hm, he, hd', hr⟩ := agrees.fields hfields
    rw [hd] at hd'
    cases hd'
    obtain ⟨pending, link⟩ := i''
    cases hnil
    obtain ⟨hl, hall⟩ := @heldBack_of_header fields link h he
    have finds := @ih (Header.size - 1) (Or.inr hl) (by rw [hl]; rfl)
    rw [hall] at finds
    rw [hr, Framing.scan_of_header c ahead' k link hm, if_neg hlong]
    exact ⟨finds.finding, finds.rest, finds.pending⟩

/-- A reader finds what is found in the whole string. -/
theorem read_eq (c : Framing) (s : Bytes) :
    (read c 0 ⟨[], s⟩).1 = (c.read s).finding ∧ (read c 0 ⟨[], s⟩).2.link = (c.read s).rest ∧
      ∀ f, (read c 0 ⟨[], s⟩).1 = .frame f → (read c 0 ⟨[], s⟩).2.pending = [] := by
  have finds : Finds (read c 0 ⟨[], s⟩) (c.scan 0 0 s) := read_finds (Or.inl ⟨rfl, rfl⟩) rfl
  exact ⟨finds.finding, finds.rest, finds.pending⟩

/-- Where an acceptable header stands first, within the limit of noise, and all of its frame
follows, a reader finds that frame after as many bytes of noise, the verdicts on it are true,
and exactly what follows it is left. Where none stands within the limit of noise, no frame is
found. -/
theorem read_first (c : Framing) (s : Bytes) :
    (∀ p h payload trail rest, c.FirstAt s p → p ≤ c.maxScan →
      s.drop p = Header.codec.encode h ++ (payload ++ (trail ++ rest)) →
      payload.length = h.length.toNat → trail.length = (if c.trailing then 4 else 0) →
      ∃ f : Frame, f.header = h ∧ f.payload = payload ∧ f.skipped = p ∧
        (h.vouchesFor payload = true ↔ h.checksum = Checksum.ofPayload payload) ∧
        f.verdict = (if c.trailing then
          some (decide (trail = Codec.u32.encode (Checksum.ofPayload payload))) else none) ∧
        read c 0 ⟨[], s⟩ = (.frame f, ⟨[], rest⟩) ∧
        (c.read s).finding = .frame f ∧ (c.read s).rest = rest) ∧
    ((∀ p, c.FirstAt s p → c.maxScan < p) →
      ∀ f, (read c 0 ⟨[], s⟩).1 ≠ .frame f ∧ (c.read s).finding ≠ .frame f) := by
  obtain ⟨hfinding, hlink, hpending⟩ := read_eq c s
  constructor
  · intro p h payload trail rest hf hp hs hl ht
    obtain ⟨hframe, hrest⟩ := Framing.read_of_firstAt hf hp hs hl ht
    rw [hframe] at hfinding
    rw [hrest] at hlink
    have hempty := hpending _ hfinding
    refine ⟨_, rfl, rfl, rfl, beq_iff_eq, rfl, ?_, hframe, hrest⟩
    generalize read c 0 ⟨[], s⟩ = x at hfinding hlink hempty ⊢
    obtain ⟨finding, pending, link⟩ := x
    cases hfinding
    cases hempty
    cases hlink
    rfl
  · intro hnone f
    have hne := Framing.read_ne_frame hnone f
    exact ⟨by rw [hfinding]; exact hne, hne⟩

/-- A reader finds a frame behind a magic whose length is over the limit, even if the bytes
that it takes in to see that reach into the frame. -/
theorem read_behind_false_magic : read {} 0 ⟨[], [0x43, 0x50, 0x52, 0x30, 0xFF, 0xFF] ++
      (Header.codec.encode ⟨Header.magicWord, 1, 18, 2, 3, 0⟩ ++ [120, 121, 122])⟩ =
    (.frame ⟨⟨Header.magicWord, 1, 18, 2, 3, 0⟩, [120, 121, 122], none, 6⟩, ⟨[], []⟩) := by
  obtain ⟨⟨h, payload, verdict, skipped⟩, rfl, rfl, rfl, -, rfl, hr, -⟩ :=
    (read_first {} ([0x43, 0x50, 0x52, 0x30, 0xFF, 0xFF] ++
      (Header.codec.encode ⟨Header.magicWord, 1, 18, 2, 3, 0⟩ ++ [120, 121, 122]))).1
      6 _ [120, 121, 122] [] [] (by decide) (by decide) rfl rfl rfl
  exact hr

end Intake

end Coprocessor.Link
