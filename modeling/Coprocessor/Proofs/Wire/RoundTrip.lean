import Coprocessor.Header
import Mathlib.Algebra.Group.Nat.Defs

/-!
# Byte forms are read back

A codec is lossless if it reads back what it writes, whatever follows, and reads
nothing else (`Codec.Lossless`). Integers of fixed width are lossless, and so is what
is made of lossless codecs by `pair` and `iso`, in particular frame headers
(`Header.lossless`). A lossless codec of fixed width reads every string that is long
enough.
-/

namespace Coprocessor

namespace Codec

/-! ## Little-endian numbers -/

@[simp] theorem length_littleEndian (width n : Nat) : (littleEndian width n).length = width := by
  induction width generalizing n with
  | zero => rfl
  | succ width ih => rw [littleEndian, List.length_cons, ih]

theorem ofLittleEndian_littleEndian (width n : Nat) :
    ofLittleEndian (littleEndian width n) = n % 256 ^ width := by
  induction width generalizing n with
  | zero => simp [littleEndian, ofLittleEndian, Nat.mod_one]
  | succ width ih =>
    have hb : (UInt8.ofNat n).toNat = n % 256 := UInt8.toNat_ofNat'
    rw [littleEndian, ofLittleEndian, ih, hb, Nat.pow_succ', Nat.mod_mul]

theorem ofLittleEndian_lt (s : Bytes) : ofLittleEndian s < 256 ^ s.length := by
  induction s with
  | nil => exact Nat.one_pos
  | cons b s ih =>
    have hb := b.toNat_lt
    rw [ofLittleEndian, List.length_cons, Nat.pow_succ']
    omega

theorem littleEndian_ofLittleEndian (s : Bytes) :
    littleEndian s.length (ofLittleEndian s) = s := by
  induction s with
  | nil => rfl
  | cons b s ih =>
    have hb := b.toNat_lt
    have hquot : (b.toNat + 256 * ofLittleEndian s) / 256 = ofLittleEndian s := by omega
    have hrem : UInt8.ofNat (b.toNat + 256 * ofLittleEndian s) = b := by
      apply UInt8.toNat_inj.mp
      rw [UInt8.toNat_ofNat']
      omega
    rw [List.length_cons, littleEndian, ofLittleEndian, hquot, hrem, ih]

/-! ## Lossless codecs -/

variable {α β : Type}

@[simp] theorem encode_word (width : Nat) (toNat : α → Nat) (ofNat : Nat → α) (v : α) :
    (word width toNat ofNat).encode v = littleEndian width (toNat v) :=
  rfl

@[simp] theorem encode_pair (a : Codec α) (b : Codec β) (v : α × β) :
    (pair a b).encode v = a.encode v.1 ++ b.encode v.2 :=
  rfl

@[simp] theorem encode_iso (make : α → β) (back : β → α) (c : Codec α) (v : β) :
    (iso make back c).encode v = c.encode (back v) :=
  rfl

/-- A codec that reads back what it writes, and nothing else. -/
structure Lossless (c : Codec α) : Prop where
  /-- What is written is read, and what follows is left. -/
  faithful : ∀ v rest, c.decode (c.encode v ++ rest) = (.ok v, rest)
  /-- What is read is what would be written. -/
  canonical : ∀ {s v rest}, c.decode s = (.ok v, rest) → s = c.encode v ++ rest

/-- A string begins with one value. -/
theorem Lossless.append_inj {c : Codec α} (hc : c.Lossless) {v v' : α} {s s' : Bytes}
    (he : c.encode v ++ s = c.encode v' ++ s') : v = v' ∧ s = s' := by
  have hd := hc.faithful v s
  rw [he, hc.faithful] at hd
  cases hd
  exact ⟨rfl, rfl⟩

theorem Lossless.encode_inj {c : Codec α} (hc : c.Lossless) {v v' : α} :
    c.encode v = c.encode v' ↔ v = v' :=
  ⟨fun he => (@Lossless.append_inj _ _ hc v v' [] [] (by rw [he])).1, fun he => by rw [he]⟩

theorem Lossless.word {width : Nat} {toNat : α → Nat} {ofNat : Nat → α}
    (hlt : ∀ v, toNat v < 256 ^ width) (hof : ∀ v, ofNat (toNat v) = v)
    (hto : ∀ n, n < 256 ^ width → toNat (ofNat n) = n) :
    (word width toNat ofNat).Lossless where
  faithful v rest := by
    have hs := Bytes.splitAt?_append (littleEndian width (toNat v)) rest
    rw [length_littleEndian] at hs
    simp only [Codec.word, Bind.bind, Decoder.take, hs, Pure.pure, ofLittleEndian_littleEndian,
      Nat.mod_eq_of_lt (hlt v), hof]
  canonical {s v rest} h := by
    by_cases hw : width ≤ s.length
    · have hl : (s.take width).length = width := by simp [hw]
      have hb : ofLittleEndian (s.take width) < 256 ^ width := by
        simpa [hl] using ofLittleEndian_lt (s.take width)
      simp only [Codec.word, Bind.bind, Decoder.take, Bytes.splitAt?, hl, if_true, Pure.pure,
        Prod.mk.injEq, Except.ok.injEq] at h
      obtain ⟨rfl, rfl⟩ := h
      have hf := littleEndian_ofLittleEndian (s.take width)
      rw [hl] at hf
      rw [encode_word, hto _ hb, hf, List.take_append_drop]
    · have hn := Bytes.splitAt?_eq_none_iff.mpr (Nat.lt_of_not_le hw)
      simp [Codec.word, Bind.bind, Decoder.take, hn] at h

theorem Lossless.pair {a : Codec α} {b : Codec β} (ha : a.Lossless) (hb : b.Lossless) :
    (pair a b).Lossless where
  faithful v rest := by
    simp only [Codec.pair, Bind.bind, List.append_assoc, ha.faithful, hb.faithful, Pure.pure]
  canonical {s v rest} h := by
    simp only [Codec.pair, Bind.bind, Pure.pure] at h
    split at h
    case h_1 x s' hx =>
      split at h
      case h_1 y s'' hy =>
        cases h
        rw [encode_pair, List.append_assoc, ← hb.canonical hy, ← ha.canonical hx]
      case h_2 => cases h
    case h_2 => cases h

theorem Lossless.iso {c : Codec α} {make : α → β} {back : β → α} (hc : c.Lossless)
    (hmake : ∀ b, make (back b) = b) (hback : ∀ a, back (make a) = a) :
    (iso make back c).Lossless where
  faithful v rest := by
    simp only [Codec.iso, Bind.bind, hc.faithful, Pure.pure, hmake]
  canonical {s v rest} h := by
    simp only [Codec.iso, Bind.bind, Pure.pure] at h
    split at h
    case h_1 x s' hx =>
      cases h
      rw [encode_iso, hback, ← hc.canonical hx]
    case h_2 => cases h

theorem u16_lossless : u16.Lossless :=
  .word UInt16.toNat_lt (fun _ => UInt16.ofNat_toNat) fun _ h => UInt16.toNat_ofNat_of_lt' h

theorem u32_lossless : u32.Lossless :=
  .word UInt32.toNat_lt (fun _ => UInt32.ofNat_toNat) fun _ h => UInt32.toNat_ofNat_of_lt' h

theorem i32_lossless : i32.Lossless :=
  .word (fun v => v.toUInt32.toNat_lt) (fun v => by simp) fun _ h =>
    UInt32.toNat_ofNat_of_lt' h

@[simp] theorem length_encode_u32 (v : UInt32) : (u32.encode v).length = 4 :=
  length_littleEndian 4 _

end Codec

/-! ## Readings in a row -/

namespace Decoder

variable {α β : Type} {x : Decoder α} {f : α → Decoder β} {s rest : Bytes} {a : α}

theorem bind_of_ok (h : x s = (.ok a, rest)) : (x >>= f) s = f a rest := by
  simp only [Bind.bind, h]

theorem fst_bind_of_error {e : DecodeError} (h : (x s).1 = .error e) :
    ((x >>= f) s).1 = .error e := by
  rcases hx : x s with ⟨r, s'⟩
  rw [hx] at h
  cases h
  simp only [Bind.bind, hx]

/-- What succeeds in a row succeeds one after the other. -/
theorem bind_eq_ok_iff {b : β} :
    (x >>= f) s = (.ok b, rest) ↔ ∃ a s', x s = (.ok a, s') ∧ f a s' = (.ok b, rest) := by
  constructor
  · intro h
    simp only [Bind.bind] at h
    split at h
    case h_1 a s' hx => exact ⟨a, s', hx, h⟩
    case h_2 => cases h
  · rintro ⟨a, s', hx, hf⟩
    rw [bind_of_ok hx, hf]

theorem ite_false_apply {p : Prop} [Decidable p] {y : Decoder α} (h : ¬p) :
    (if p then x else y) s = y s := by
  rw [if_neg h]

theorem ite_true_apply {p : Prop} [Decidable p] {y : Decoder α} (h : p) :
    (if p then x else y) s = x s := by
  rw [if_pos h]

theorem take_append (a b : Bytes) : take a.length (a ++ b) = (.ok a, b) := by
  rw [take, Bytes.splitAt?_append]

/-- What is taken stood in front of what is left. -/
theorem eq_append_of_take {n : Nat} {front : Bytes} (h : take n s = (.ok front, rest)) :
    front.length = n ∧ s = front ++ rest := by
  by_cases hl : (s.take n).length = n
  · simp only [take, Bytes.splitAt?, if_pos hl, Prod.mk.injEq, Except.ok.injEq] at h
    obtain ⟨rfl, rfl⟩ := h
    exact ⟨hl, (List.take_append_drop n s).symm⟩
  · simp only [take, Bytes.splitAt?, if_neg hl] at h
    cases h

/-- A value that a partial function makes of what is read. -/
theorem filterMap_eq_ok_iff {g : α → Option β} {b : β} :
    filterMap g x s = (.ok b, rest) ↔ ∃ a, x s = (.ok a, rest) ∧ g a = some b := by
  rw [filterMap, bind_eq_ok_iff]
  constructor
  · rintro ⟨a, s', hx, hg⟩
    cases hb : g a with
    | none =>
      rw [hb] at hg
      cases hg
    | some b' =>
      rw [hb] at hg
      cases hg
      exact ⟨a, hx, hb⟩
  · rintro ⟨a, hx, hg⟩
    exact ⟨a, rest, hx, by rw [hg]; rfl⟩

theorem manyAfter_eq (x : Decoder α) (n : Nat) (done : List α) (s : Bytes) :
    x.manyAfter n done s = (x.many n >>= fun as => pure (done.reverse ++ as)) s := by
  induction n generalizing done s with
  | zero => simp [manyAfter, many, Bind.bind, Pure.pure]
  | succ n ih =>
    simp only [many, manyAfter, Bind.bind]
    rcases x s with ⟨r, s'⟩
    cases r with
    | error e => rfl
    | ok a =>
      simp only [ih, Bind.bind]
      rcases x.many n s' with ⟨r, s''⟩
      cases r <;> simp [Pure.pure]

/-- A reading and then more of them. -/
theorem many_succ (x : Decoder α) (n : Nat) (s : Bytes) :
    x.many (n + 1) s = (x >>= fun a => x.many n >>= fun as => pure (a :: as)) s := by
  simp only [many, manyAfter, Bind.bind]
  split
  case h_1 a s' hx => exact manyAfter_eq x n [a] s'
  case h_2 => rfl

variable {encode : α → Bytes}

/-- Values that are read one by one are read as a list. -/
theorem many_flatMap {vs : List α}
    (hx : ∀ v ∈ vs, ∀ rest, x (encode v ++ rest) = (.ok v, rest)) (rest : Bytes) :
    x.many vs.length (vs.flatMap encode ++ rest) = (.ok vs, rest) := by
  induction vs with
  | nil => rfl
  | cons v vs ih =>
    obtain ⟨hv, hvs⟩ := List.forall_mem_cons.mp hx
    rw [List.flatMap_cons, List.append_assoc, List.length_cons, many_succ, bind_of_ok (hv _),
      bind_of_ok (ih hvs)]
    rfl

/-- Where a list is read its values stand one after the other. -/
theorem eq_flatMap_of_many {p : α → Prop}
    (hx : ∀ {s v rest}, x s = (.ok v, rest) → p v ∧ s = encode v ++ rest) {n : Nat} {s : Bytes}
    {vs : List α} (h : x.many n s = (.ok vs, rest)) :
    vs.length = n ∧ (∀ v ∈ vs, p v) ∧ s = vs.flatMap encode ++ rest := by
  induction n generalizing s vs with
  | zero =>
    cases h
    exact ⟨rfl, nofun, rfl⟩
  | succ n ih =>
    rw [many_succ, bind_eq_ok_iff] at h
    obtain ⟨v, s', hv, h⟩ := h
    obtain ⟨vs', s'', hvs, h⟩ := bind_eq_ok_iff.mp h
    cases h
    obtain ⟨hp, rfl⟩ := hx hv
    obtain ⟨rfl, hps, rfl⟩ := ih hvs
    exact ⟨rfl, List.forall_mem_cons.mpr ⟨hp, hps⟩, by rw [List.flatMap_cons, List.append_assoc]⟩

end Decoder

/-! ## Bytes -/

namespace Codec

/-- Bytes are written as they are. -/
theorem flatMap_encode_u8 (s : Bytes) : s.flatMap u8.encode = s := by
  induction s with
  | nil => rfl
  | cons b s ih =>
    have hb : u8.encode b = [b] := by simp [u8, littleEndian]
    rw [List.flatMap_cons, ih, hb]
    rfl

theorem encode_bytes (s : Bytes) : bytes.encode s = u32.encode (.ofNat s.length) ++ s := by
  have he : bytes.encode s = u32.encode (.ofNat s.length) ++ s.flatMap u8.encode := rfl
  rw [he, flatMap_encode_u8]

end Codec

/-! ## Decoders that always succeed -/

namespace Decoder

variable {α β : Type}

/-- A decoder that takes `n` bytes of every input that has as many. -/
structure Needs (n : Nat) (x : Decoder α) : Prop where
  /-- It takes `n` bytes. -/
  takes : x.Takes n
  /-- It succeeds. -/
  succeeds : ∀ {s : Bytes}, n ≤ s.length → ∃ a rest, x s = (.ok a, rest)

theorem Needs.take (n : Nat) : (take n).Needs n where
  takes := takes_take n
  succeeds {s} hs := by
    have hl : (s.take n).length = n := by simp [hs]
    exact ⟨s.take n, s.drop n, by rw [Decoder.take, Bytes.splitAt?, if_pos hl]⟩

theorem Needs.pure (a : α) : (Pure.pure a : Decoder α).Needs 0 :=
  ⟨takes_pure a, fun _ => ⟨a, _, rfl⟩⟩

theorem Needs.bind {x : Decoder α} {f : α → Decoder β} {m n : Nat} (hx : x.Needs m)
    (hf : ∀ a, (f a).Needs n) : (x >>= f).Needs (m + n) where
  takes := hx.takes.bind fun a => (hf a).takes
  succeeds {s} hs := by
    obtain ⟨a, s', hxs⟩ := hx.succeeds (Nat.le_trans (Nat.le_add_right m n) hs)
    have hl := hx.takes _ _ _ hxs
    obtain ⟨b, rest, hfs⟩ := (hf a).succeeds (s := s') (by omega)
    exact ⟨b, rest, by simp only [Bind.bind, hxs, hfs]⟩

end Decoder

namespace Codec

variable {α β : Type}

theorem needs_word (width : Nat) (toNat : α → Nat) (ofNat : Nat → α) :
    (word width toNat ofNat).decode.Needs width :=
  .bind (.take width) fun _ => .pure _

theorem needs_pair {a : Codec α} {b : Codec β} {m n : Nat} (ha : a.decode.Needs m)
    (hb : b.decode.Needs n) : (pair a b).decode.Needs (m + n) :=
  .bind ha fun _ => .bind (n := 0) hb fun _ => .pure _

theorem needs_iso {c : Codec α} {n : Nat} (make : α → β) (back : β → α) (hc : c.decode.Needs n) :
    (iso make back c).decode.Needs n :=
  .bind (n := 0) hc fun _ => .pure _

theorem needs_u16 : u16.decode.Needs 2 :=
  needs_word _ _ _

theorem needs_u32 : u32.decode.Needs 4 :=
  needs_word _ _ _

theorem needs_i32 : i32.decode.Needs 4 :=
  needs_word _ _ _

end Codec

namespace Header

theorem lossless : codec.Lossless :=
  .iso (.pair Codec.u32_lossless <| .pair Codec.u16_lossless <| .pair Codec.u16_lossless <|
    .pair Codec.u32_lossless <| .pair Codec.u32_lossless Codec.u32_lossless)
    (fun _ => rfl) fun _ => rfl

theorem needs_codec : codec.decode.Needs size :=
  Codec.needs_iso _ _ <| Codec.needs_pair Codec.needs_u32 <| Codec.needs_pair Codec.needs_u16 <|
    Codec.needs_pair Codec.needs_u16 <| Codec.needs_pair Codec.needs_u32 <|
    Codec.needs_pair Codec.needs_u32 Codec.needs_u32

@[simp] theorem length_encode (h : Header) : (codec.encode h).length = size := by
  simp [codec, Codec.u32, Codec.u16, size]

/-- Every string that is long enough begins with a header. -/
theorem exists_encode_append {s : Bytes} (hs : size ≤ s.length) :
    ∃ h rest, s = codec.encode h ++ rest := by
  obtain ⟨h, rest, hd⟩ := needs_codec.succeeds hs
  exact ⟨h, rest, lossless.canonical hd⟩

end Header

end Coprocessor
