import Coprocessor.Proofs.Wire.RoundTrip
import Coprocessor.Wire.Format

/-!
# Every format has one byte form for a value

The values that a format can carry are those whose lists and texts are within the limit
(`Format.Fits`). Each of them is read back from its byte form, whatever follows, and nothing
else is read as a value (`Format.lossless`). So no value has two byte forms, no byte form begins
with a shorter one, and the strings that are read as a whole are the byte forms
(`Format.byteForms`).

The proof follows the format : what is made of lossless codecs is lossless for the values made
of values that they are lossless for (`Codec.LosslessOn`).
-/

namespace Coprocessor

namespace Codec

variable {α β : Type} {c : Codec α} {p : α → Prop}

/-! ## Codecs that are lossless for some values -/

/-- A codec that reads back what it writes for the values that have a property, and reads nothing
but these. -/
structure LosslessOn (c : Codec α) (p : α → Prop) : Prop where
  /-- What is written for such a value is read, and what follows is left. -/
  faithful : ∀ {v}, p v → ∀ rest, c.decode (c.encode v ++ rest) = (.ok v, rest)
  /-- What is read is what would be written for such a value. -/
  canonical : ∀ {s v rest}, c.decode s = (.ok v, rest) → p v ∧ s = c.encode v ++ rest

theorem Lossless.on (h : c.Lossless) : c.LosslessOn fun _ => True :=
  ⟨fun _ => h.faithful _, fun hd => ⟨trivial, h.canonical hd⟩⟩

theorem encode_list (c : Codec α) (vs : List α) :
    (list c).encode vs = u32.encode (.ofNat vs.length) ++ vs.flatMap c.encode :=
  rfl

theorem encode_text (s : String) : text.encode s = bytes.encode (.ofText s) :=
  rfl

namespace LosslessOn

variable (h : c.LosslessOn p)
include h

/-- The strings that are read as a whole are the byte forms. -/
theorem whole_eq_ok_iff {s : Bytes} {v : α} :
    c.decode.whole s = .ok v ↔ p v ∧ s = c.encode v := by
  constructor
  · intro hw
    unfold Decoder.whole at hw
    split at hw
    case h_1 v' hd =>
      cases hw
      obtain ⟨hp, hs⟩ := h.canonical hd
      exact ⟨hp, by rw [hs, List.append_nil]⟩
    case h_2 => cases hw
    case h_3 => cases hw
  · rintro ⟨hp, rfl⟩
    have hd := h.faithful hp []
    rw [List.append_nil] at hd
    rw [Decoder.whole, hd]

/-- No value is read from a part of a byte form. -/
theorem eq_encode_of_prefix {s rest : Bytes} {v v' : α} (hp : p v) (hs : s <+: c.encode v)
    (hd : c.decode s = (.ok v', rest)) : s = c.encode v := by
  obtain ⟨t, ht⟩ := hs
  obtain ⟨hp', hs'⟩ := h.canonical hd
  have hv := h.faithful hp []
  rw [List.append_nil, ← ht, hs', List.append_assoc, h.faithful hp'] at hv
  obtain ⟨-, htail⟩ := Prod.mk.inj hv
  obtain ⟨rfl, rfl⟩ := List.append_eq_nil_iff.mp htail
  rw [← ht, List.append_nil]

/-- A list of values within the limit. -/
theorem list : (list c).LosslessOn fun vs => vs.length ≤ maxLength ∧ ∀ v ∈ vs, p v where
  faithful {vs} hvs rest := by
    obtain ⟨hl, hp⟩ := hvs
    have hn : (UInt32.ofNat vs.length).toNat = vs.length :=
      UInt32.toNat_ofNat_of_lt' (Nat.lt_of_le_of_lt hl (by decide))
    have hlength : length (u32.encode (.ofNat vs.length) ++ (vs.flatMap c.encode ++ rest)) =
        (.ok vs.length, vs.flatMap c.encode ++ rest) := by
      rw [length, Decoder.bind_of_ok (u32_lossless.faithful _ _), hn,
        Decoder.ite_false_apply (Nat.not_lt.mpr hl)]
      rfl
    rw [encode_list, List.append_assoc]
    refine (Decoder.bind_of_ok hlength).trans ?_
    exact Decoder.many_flatMap (fun v hv => h.faithful (hp v hv)) rest
  canonical {s vs rest} hd := by
    obtain ⟨n, s', hn, hmany⟩ := Decoder.bind_eq_ok_iff.mp hd
    obtain ⟨w, s'', hw, hn⟩ := Decoder.bind_eq_ok_iff.mp hn
    by_cases hmax : maxLength < w.toNat
    · rw [Decoder.ite_true_apply hmax] at hn
      cases hn
    rw [Decoder.ite_false_apply hmax] at hn
    cases hn
    obtain ⟨hl, hp, rfl⟩ := Decoder.eq_flatMap_of_many h.canonical hmany
    refine ⟨⟨hl ▸ Nat.le_of_not_lt hmax, hp⟩, ?_⟩
    rw [u32_lossless.canonical hw, encode_list, hl, UInt32.ofNat_toNat, List.append_assoc]

/-- An array of values. -/
theorem array (n : Nat) : (array c n).LosslessOn fun vs => ∀ v ∈ vs.1, p v where
  faithful {vs} hp rest := by
    obtain ⟨vs, rfl⟩ := vs
    refine Decoder.filterMap_eq_ok_iff.mpr ⟨vs, ?_, by rw [sized?, dif_pos rfl]⟩
    exact Decoder.many_flatMap (fun v hv => h.faithful (hp v hv)) rest
  canonical {s vs rest} hd := by
    obtain ⟨vs', hmany, hsized⟩ := Decoder.filterMap_eq_ok_iff.mp hd
    obtain ⟨hl, hp, rfl⟩ := Decoder.eq_flatMap_of_many h.canonical hmany
    rw [sized?, dif_pos hl] at hsized
    cases hsized
    exact ⟨hp, rfl⟩

end LosslessOn

/-! ## Integers, choices and texts -/

theorem u8_lossless : u8.Lossless :=
  .word UInt8.toNat_lt (fun _ => UInt8.ofNat_toNat) fun _ h => UInt8.toNat_ofNat_of_lt' h

theorem u64_lossless : u64.Lossless :=
  .word UInt64.toNat_lt (fun _ => UInt64.ofNat_toNat) fun _ h => UInt64.toNat_ofNat_of_lt' h

theorem i8_lossless : i8.Lossless :=
  .word (fun v => v.toUInt8.toNat_lt) (fun v => by simp) fun _ h => UInt8.toNat_ofNat_of_lt' h

theorem i16_lossless : i16.Lossless :=
  .word (fun v => v.toUInt16.toNat_lt) (fun v => by simp) fun _ h => UInt16.toNat_ofNat_of_lt' h

theorem i64_lossless : i64.Lossless :=
  .word (fun v => v.toUInt64.toNat_lt) (fun v => by simp) fun _ h => UInt64.toNat_ofNat_of_lt' h

/-- A choice is lossless if its tags tell the values, and no others are read. -/
theorem Lossless.tagged {τ : Type} {tag : Codec τ} {toTag : α → τ} {ofTag? : τ → Option α}
    (htag : tag.Lossless) (hof : ∀ v, ofTag? (toTag v) = some v)
    (hto : ∀ {t v}, ofTag? t = some v → toTag v = t) : (tagged tag toTag ofTag?).Lossless where
  faithful v rest := Decoder.filterMap_eq_ok_iff.mpr ⟨_, htag.faithful _ rest, hof v⟩
  canonical {s v rest} h := by
    obtain ⟨t, ht, hv⟩ := Decoder.filterMap_eq_ok_iff.mp h
    rw [htag.canonical ht, ← hto hv]
    rfl

theorem bool_lossless : bool.Lossless := by
  refine u8_lossless.tagged (by decide) fun {t v} h => ?_
  split at h
  · cases h
    exact ‹t = 0›.symm
  split at h
  · cases h
    exact ‹t = 1›.symm
  · cases h

theorem ofUtf8?_ofText (s : String) : Text.ofUtf8? (.ofText s) = some s :=
  dif_pos s.isValidUTF8

theorem ofText_of_ofUtf8? {b : Bytes} {s : String} (h : Text.ofUtf8? b = some s) :
    Bytes.ofText s = b := by
  unfold Text.ofUtf8? String.fromUTF8? at h
  split at h
  · cases h
    rfl
  · cases h

theorem text_losslessOn : text.LosslessOn fun s => (Bytes.ofText s).length ≤ maxLength where
  faithful {s} hs rest :=
    Decoder.filterMap_eq_ok_iff.mpr
      ⟨_, (u8_lossless.on.list).faithful ⟨hs, fun _ _ => trivial⟩ rest, ofUtf8?_ofText s⟩
  canonical {b s rest} hd := by
    obtain ⟨read, hread, hs⟩ := Decoder.filterMap_eq_ok_iff.mp hd
    obtain ⟨⟨hl, -⟩, rfl⟩ := u8_lossless.on.list.canonical hread
    rw [← ofText_of_ofUtf8? hs] at hl ⊢
    exact ⟨hl, rfl⟩

/-! ## Lengths -/

theorem length_flatMap_encode {size : α → Nat} (h : ∀ v, (c.encode v).length = size v)
    (vs : List α) : (vs.flatMap c.encode).length = (vs.map size).foldl (· + ·) 0 := by
  rw [List.length_flatMap, List.map_congr_left fun v _ => h v, List.sum_eq_foldl]

theorem length_encode_list {size : α → Nat} (h : ∀ v, (c.encode v).length = size v)
    (vs : List α) : ((list c).encode vs).length = 4 + (vs.map size).foldl (· + ·) 0 := by
  rw [encode_list, List.length_append, length_encode_u32, length_flatMap_encode h]

theorem length_encode_text (s : String) : (text.encode s).length = 4 + s.utf8ByteSize := by
  rw [encode_text, encode_bytes, List.length_append, length_encode_u32]
  rfl

end Codec

theorem Note.lossless : Note.codec.Lossless :=
  .iso (.pair Codec.u8_lossless <| .pair Codec.u8_lossless <|
    .pair Codec.u16_lossless Codec.u32_lossless) (fun _ => rfl) fun _ => rfl

theorem Note.length_encode (n : Note) : (codec.encode n).length = size := by
  simp [codec, size, Codec.iso, Codec.pair, Codec.u8, Codec.u16, Codec.u32, Codec.word]

namespace Format

/-! ## Formats -/

/-- Whether the lists and texts in a value are within the limit. -/
def Fits : (f : Format) → f.Value → Prop
  | text, (s : String) => (Bytes.ofText s).length ≤ Codec.maxLength
  | list f, (vs : List f.Value) => vs.length ≤ Codec.maxLength ∧ ∀ v ∈ vs, f.Fits v
  | array f _, vs => ∀ v ∈ vs.1, f.Fits v
  | u8, _ | i8, _ | u16, _ | i16, _ | u32, _ | i32, _ | u64, _ | i64, _ | bool, _ | status, _
  | execState, _ | header, _ | note, _ => True

/-- Every format is lossless for the values that it can carry. -/
theorem lossless (f : Format) : f.codec.LosslessOn f.Fits := by
  induction f with
  | u8 => exact Codec.u8_lossless.on
  | i8 => exact Codec.i8_lossless.on
  | u16 => exact Codec.u16_lossless.on
  | i16 => exact Codec.i16_lossless.on
  | u32 => exact Codec.u32_lossless.on
  | i32 => exact Codec.i32_lossless.on
  | u64 => exact Codec.u64_lossless.on
  | i64 => exact Codec.i64_lossless.on
  | bool => exact Codec.bool_lossless.on
  | text => exact Codec.text_losslessOn
  | list f ih => exact ih.list
  | array f n ih => exact ih.array n
  | status =>
    exact (Codec.i32_lossless.tagged Status.ofCode?_code Status.code_of_ofCode?).on
  | execState =>
    exact (Codec.u32_lossless.tagged ExecState.ofCode?_code ExecState.code_of_ofCode?).on
  | header => exact Header.lossless.on
  | note => exact Note.lossless.on

/-! ## Lengths -/

/-- The length of a byte form is known before it is written. -/
theorem length_encode (f : Format) (v : f.Value) : (f.codec.encode v).length = f.sizeOf v := by
  induction f with
  | u8 | i8 | u16 | i16 | u32 | i32 | u64 | i64 | bool | status | execState =>
    exact Codec.length_littleEndian _ _
  | text => exact Codec.length_encode_text v
  | list f ih => exact Codec.length_encode_list ih v
  | array f n ih => exact Codec.length_flatMap_encode ih v.1
  | header => exact Header.length_encode v
  | note => exact Note.length_encode v

/-! ## Byte forms -/

/-- A value that a format can carry is read back from its byte form, and what follows is left.
What is read is the byte form of such a value. So these byte forms are the strings that are read
as a whole, and no part of one is read. The length is that of the byte form. -/
theorem byteForms (f : Format) :
    (∀ v, f.Fits v → ∀ rest, f.codec.decode (f.codec.encode v ++ rest) = (.ok v, rest)) ∧
    (∀ s v rest, f.codec.decode s = (.ok v, rest) → f.Fits v ∧ s = f.codec.encode v ++ rest) ∧
    (∀ s v, f.codec.decode.whole s = .ok v ↔ f.Fits v ∧ s = f.codec.encode v) ∧
    (∀ v, f.Fits v → ∀ s, s <+: f.codec.encode v → s ≠ f.codec.encode v →
      ∀ v' rest, f.codec.decode s ≠ (.ok v', rest)) ∧
    ∀ v, f.sizeOf v = (f.codec.encode v).length :=
  ⟨fun _ hv rest => f.lossless.faithful hv rest,
    fun _ _ _ hd => f.lossless.canonical hd,
    fun _ _ => f.lossless.whole_eq_ok_iff,
    fun _ hv _ hs hne _ _ hd => hne (f.lossless.eq_encode_of_prefix hv hs hd),
    fun v => (f.length_encode v).symm⟩

/-- A list of pairs of texts takes sixteen bytes. It is read back from these, and nothing is read
from fifteen of them. -/
theorem byteForms_of_texts :
    let f : Format := .list (.array .text 2)
    let v : f.Value := [⟨["é", "ab"], rfl⟩]
    f.Fits v ∧ f.codec.decode (f.codec.encode v ++ [1]) = (.ok v, [1]) ∧
      (∀ v' rest, f.codec.decode ((f.codec.encode v).take 15) ≠ (.ok v', rest)) ∧
      f.sizeOf v = 16 ∧ (f.codec.encode v).length = 16 := by
  intro f v
  have short : ∀ s ∈ ["é", "ab"], (Bytes.ofText s).length ≤ Codec.maxLength := by decide
  have fits : f.Fits v := ⟨by decide, List.forall_mem_singleton.mpr short⟩
  obtain ⟨faithful, -, -, prefixes, sizes⟩ := byteForms f
  have size : f.sizeOf v = 16 := by decide
  have length : (f.codec.encode v).length = 16 := sizes v ▸ size
  have part : (f.codec.encode v).take 15 ≠ f.codec.encode v := fun h => by
    have := congrArg List.length h
    rw [List.length_take, length] at this
    cases this
  exact ⟨fits, faithful v fits [1], prefixes v fits _ (List.take_prefix _ _) part, size, length⟩

end Format

end Coprocessor
