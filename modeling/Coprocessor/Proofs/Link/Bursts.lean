import Coprocessor.Handoff.Station
import Coprocessor.Proofs.Link.Stream

/-!
# Frames in bursts

A frame is written in bursts, so for some time the other end has only the beginning of it.
A beginning of a frame that is not all of it reads as too few bytes, wherever it ends
(`Framing.exists_read_of_cut`).

The bursts of a frame arrive one after the other (`Link.arrivals`). All have arrived by the
time that the pauses take (`Framing.delay`), and the last bytes no earlier
(`Framing.exists_arrivals_bursts`).
-/

namespace Coprocessor

open Link

/-! ## Beginnings of frames -/

namespace Framing

variable {c : Framing} {h : Header} {payload s : Bytes}

theorem length_trailer (c : Framing) (payload : Bytes) :
    (c.trailer payload).length = if c.trailing then 4 else 0 := by
  unfold trailer
  split <;> simp

/-- Two ends that agree about second checksums have the same frames. -/
theorem frame_congr {far near : Framing} (ha : far.trailing = near.trailing) (h : Header)
    (payload : Bytes) : far.frame h payload = near.frame h payload := by
  simp only [frame, trailer, ha]

theorem readBody_of_cut (skipped : Nat) (hl : h.length.toNat = payload.length)
    (hs : s <+: payload ++ c.trailer payload)
    (hlt : s.length < (payload ++ c.trailer payload).length) :
    (c.readBody skipped h s).finding = .starved false := by
  obtain ⟨t, ht⟩ := hs
  unfold readBody
  by_cases hp : s.length < payload.length
  · rw [Bytes.splitAt?_eq_none_iff.mpr (by omega)]
  · -- the payload has come, but not all of a second checksum
    obtain ⟨trail, rfl⟩ : ∃ trail, s = payload ++ trail :=
      (List.prefix_of_prefix_length_le ⟨_, rfl⟩ ⟨t, ht⟩ (Nat.le_of_not_lt hp)).imp
        fun _ h => h.symm
    rw [List.length_append, List.length_append, length_trailer] at hlt
    have htrailing : c.trailing = true := Decidable.byContradiction fun hn => by
      rw [if_neg hn] at hlt
      omega
    rw [if_pos htrailing] at hlt
    rw [hl, Bytes.splitAt?_append]
    simp only [htrailing, if_true]
    have hcut : Bytes.splitAt? 4 trail = none := Bytes.splitAt?_eq_none_iff.mpr (by omega)
    simp only [Codec.u32, Codec.word, Bind.bind, Decoder.take, hcut]

/-- Where a frame has begun to come but has not all come, too few bytes are found. -/
theorem exists_read_of_cut (hm : h.magic = Header.magicWord)
    (hl : h.length.toNat = payload.length) (hf : payload.length ≤ c.maxPayload)
    (hs : s <+: c.frame h payload) (hlt : s.length < (c.frame h payload).length) :
    ∃ x, (c.read s).finding = .starved x := by
  obtain ⟨t, ht⟩ := hs
  have hframe : c.frame h payload = Header.codec.encode h ++ (payload ++ c.trailer payload) := by
    rw [frame, List.append_assoc]
  rw [hframe] at ht hlt
  by_cases h4 : s.length < 4
  · rw [read, scan_of_short c 0 0 h4]
    exact ⟨_, rfl⟩
  by_cases h20 : s.length < Header.size
  · have hb : beginsFrame s = true := by
      have hb := (beginsFrame_encode h (payload ++ c.trailer payload)).mpr hm
      rw [← ht, beginsFrame, List.take_append_of_le_length (Nat.le_of_not_lt h4)] at hb
      exact hb
    rw [read, scan_of_cut c 0 0 hb h20]
    exact ⟨_, rfl⟩
  · obtain ⟨body, rfl⟩ : ∃ body, s = Header.codec.encode h ++ body :=
      (List.prefix_of_prefix_length_le ⟨_, rfl⟩ ⟨t, ht⟩ (by simpa using h20)).imp
        fun _ h => h.symm
    rw [List.append_assoc] at ht
    refine ⟨false, ?_⟩
    rw [read, scan_of_header c 0 0 body hm, if_pos (by omega)]
    refine readBody_of_cut 0 hl ⟨t, List.append_cancel_left ht⟩ ?_
    simpa using hlt

/-- Where all of a frame has come, it is read, and nothing is left. -/
theorem read_frame (hm : h.magic = Header.magicWord) (hl : h.length.toNat = payload.length)
    (hf : payload.length ≤ c.maxPayload) :
    (c.read (c.frame h payload)).finding = .frame ⟨h, payload, Segment.verdict c, 0⟩ ∧
      (c.read (c.frame h payload)).rest = [] := by
  have hclean : Segment.Clean c ⟨[], h, payload⟩ := ⟨hm, hl, hf, Nat.zero_le _, nofun⟩
  have hread := hclean.read []
  rw [List.append_nil] at hread
  exact hread

end Framing

/-! ## Arrivals -/

namespace Link

/-- The milliseconds of the pauses in bursts. -/
def pauses : List Burst → Nat
  | [] => 0
  | b :: bursts => b.pause + pauses bursts

/-- What arrives of bursts that are written from some time on. -/
def arrivals (time : Nat) : List Burst → List Arrival
  | [] => []
  | b :: bursts =>
    let time := time + millis b.pause
    ⟨time, b.bytes⟩ :: arrivals time bursts

variable {bursts : List Burst} {time : Nat}

@[simp] theorem pauses_nil : pauses [] = 0 :=
  rfl

@[simp] theorem pauses_cons (b : Burst) (bursts : List Burst) :
    pauses (b :: bursts) = b.pause + pauses bursts :=
  rfl

theorem pauses_append (bursts bursts' : List Burst) :
    pauses (bursts ++ bursts') = pauses bursts + pauses bursts' := by
  induction bursts with
  | nil => exact (Nat.zero_add _).symm
  | cons b bursts ih => rw [List.cons_append, pauses_cons, pauses_cons, ih, Nat.add_assoc]

theorem pauses_eq_zero (h : ∀ b ∈ bursts, b.pause = 0) : pauses bursts = 0 := by
  induction bursts with
  | nil => rfl
  | cons b bursts ih =>
    obtain ⟨hb, hbursts⟩ := List.forall_mem_cons.mp h
    rw [pauses_cons, hb, ih hbursts]

theorem received_arrivals (time : Nat) (bursts : List Burst) :
    received (arrivals time bursts) = bursts.flatMap (·.bytes) := by
  induction bursts generalizing time with
  | nil => rfl
  | cons b bursts ih => exact congrArg (b.bytes ++ ·) (ih _)

theorem arrivals_append (time : Nat) (bursts bursts' : List Burst) :
    arrivals time (bursts ++ bursts') =
      arrivals time bursts ++ arrivals (time + millis (pauses bursts)) bursts' := by
  induction bursts generalizing time with
  | nil => rfl
  | cons b bursts ih =>
    simp only [List.cons_append, arrivals, ih, pauses_cons, millis, Nat.mul_add,
      Nat.add_assoc]

/-- All bursts have arrived when their pauses are over. -/
theorem time_le_of_mem_arrivals {a : Arrival} (ha : a ∈ arrivals time bursts) :
    a.time ≤ time + millis (pauses bursts) := by
  induction bursts generalizing time with
  | nil => cases ha
  | cons b bursts ih =>
    simp only [arrivals, List.mem_cons] at ha
    simp only [pauses_cons, millis, Nat.mul_add] at ih ⊢
    rcases ha with rfl | ha
    · simp only [millis]
      omega
    · have := ih ha
      simp only [millis] at this
      omega

end Link

namespace Framing

/-- The time that a frame takes to be written, in milliseconds. -/
def delay (c : Framing) (payload : Bytes) : Nat :=
  pauses (c.chunks payload)

theorem pauses_bursts (c : Framing) (h : Header) (payload : Bytes) :
    pauses (c.bursts h payload) = c.delay payload := by
  simp [bursts, delay, pauses_append]

/-- Without pauses a frame takes no time. -/
theorem delay_eq_zero {c : Framing} (hc : c.chunkPause = 0) (hh : c.headerPause = 0)
    (payload : Bytes) : c.delay payload = 0 := by
  refine pauses_eq_zero fun b hb => ?_
  unfold chunks at hb
  split at hb
  case h_1 => cases hb
  case h_2 => rw [List.mem_singleton.mp hb]
  case h_3 =>
    rcases List.mem_cons.mp hb with rfl | hb
    · exact hh
    · obtain ⟨piece, -, rfl⟩ := List.mem_map.mp hb
      exact hc

theorem ne_nil_of_mem_chunks {c : Framing} {payload : Bytes} {b : Burst}
    (h : b ∈ c.chunks payload) : b.bytes ≠ [] := by
  unfold chunks at h
  split at h
  case h_1 => cases h
  case h_2 only hs =>
    obtain rfl := List.mem_singleton.mp h
    exact Bytes.ne_nil_of_mem_pieces (hs ▸ List.mem_singleton_self only)
  case h_3 first rest _ hs =>
    rcases List.mem_cons.mp h with rfl | h
    · exact Bytes.ne_nil_of_mem_pieces (hs ▸ List.mem_cons_self)
    · obtain ⟨piece, hp, rfl⟩ := List.mem_map.mp h
      exact Bytes.ne_nil_of_mem_pieces (hs ▸ List.mem_cons_of_mem _ hp)

/-- The last bytes of a frame arrive when the pauses are over. -/
theorem exists_arrivals_bursts (c : Framing) (h : Header) (payload : Bytes) (time : Nat) :
    ∃ before last after, arrivals time (c.bursts h payload) = before ++ last :: after ∧
      last.bytes ≠ [] ∧ last.time = time + millis (c.delay payload) := by
  -- the last burst before a second checksum, which may be empty but follows at once
  obtain ⟨front, b, hfront⟩ := (List.eq_nil_or_concat (⟨0, Header.codec.encode h⟩ ::
    c.chunks payload)).resolve_left (List.cons_ne_nil _ _)
  rw [List.concat_eq_append] at hfront
  have hb : b.bytes ≠ [] := by
    have hmem : b ∈ ⟨0, Header.codec.encode h⟩ :: c.chunks payload := by simp [hfront]
    rcases List.mem_cons.mp hmem with rfl | hmem
    · exact List.ne_nil_of_length_pos (by simp [Header.size])
    · exact ne_nil_of_mem_chunks hmem
  have htime : pauses (front ++ [b]) = c.delay payload := by
    rw [← hfront, pauses_cons, Nat.zero_add, delay]
  rw [pauses_append, pauses_cons] at htime
  have harrivals : arrivals time (c.bursts h payload) = arrivals time front ++
      arrivals (time + millis (pauses front)) [b, ⟨0, c.trailer payload⟩] := by
    rw [bursts, hfront, List.append_assoc, arrivals_append]
    rfl
  refine ⟨_, _, _, harrivals, hb, ?_⟩
  rw [← htime]
  simp [millis, Nat.mul_add, Nat.add_assoc]

end Framing

end Coprocessor
