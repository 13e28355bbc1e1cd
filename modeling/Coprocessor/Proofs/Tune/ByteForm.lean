import Coprocessor.Proofs.Wire.Formats
import Coprocessor.Tune

/-!
# Tunes are read back from their byte form

The byte form of a header holds one byte without meaning, the one after the version. It is
written as zero and may be anything when it is read (`Tune.Head.form`). Everything else in a
byte form means something, the reserved fields of notes included, and the header tells how many
notes there are. So a tune is read back from its byte form whatever follows, a byte form that is
cut short is refused for its length, and what is read is the byte form of the tune up to the byte
without meaning (`Tune.reads_back`).
-/

namespace Coprocessor

namespace Tune

/-! ## Headers -/

namespace Head

variable {h : Head} {s rest : Bytes}

/-- The bytes of a header, with any byte after the version. -/
def form (h : Head) (reserved : UInt8) : Bytes :=
  h.magic ++ Codec.u8.encode h.version ++ Codec.u8.encode reserved ++ Codec.u16.encode h.flags ++
    Codec.u32.encode h.buzzer ++ Codec.u32.encode h.lamp ++ Codec.u32.encode h.gap ++
    Codec.u32.encode h.count

theorem length_form (hm : h.magic.length = 4) (reserved : UInt8) :
    (h.form reserved).length = headerSize := by
  simp [form, hm, Codec.u8, Codec.u16, Codec.u32, headerSize]

/-- Writing zero over the byte after the version gives the form that is written. -/
theorem set_form (hm : h.magic.length = 4) (reserved : UInt8) :
    (h.form reserved).set 5 0 = h.form 0 := by
  obtain ⟨m, version, flags, buzzer, lamp, gap, count⟩ := h
  match m, hm with
  | [_, _, _, _], _ => rfl

/-- A header is read from each of its forms. -/
theorem read_form (hm : h.magic.length = 4) (reserved : UInt8) (rest : Bytes) :
    read (h.form reserved ++ rest) = (.ok h, rest) := by
  have hmagic (s : Bytes) : Decoder.take 4 (h.magic ++ s) = (.ok h.magic, s) :=
    hm ▸ Decoder.take_append h.magic s
  simp only [form, List.append_assoc]
  rw [read, Decoder.bind_of_ok (hmagic _),
    Decoder.bind_of_ok (Codec.u8_lossless.faithful h.version _),
    Decoder.bind_of_ok (Codec.u8_lossless.faithful reserved _),
    Decoder.bind_of_ok (Codec.u16_lossless.faithful h.flags _),
    Decoder.bind_of_ok (Codec.u32_lossless.faithful h.buzzer _),
    Decoder.bind_of_ok (Codec.u32_lossless.faithful h.lamp _),
    Decoder.bind_of_ok (Codec.u32_lossless.faithful h.gap _),
    Decoder.bind_of_ok (Codec.u32_lossless.faithful h.count _)]
  rfl

/-- What is read as a header is one of its forms. -/
theorem exists_form_of_read (hr : read s = (.ok h, rest)) :
    h.magic.length = 4 ∧ ∃ reserved, s = h.form reserved ++ rest := by
  obtain ⟨m, s₁, hmagic, hr⟩ := Decoder.bind_eq_ok_iff.mp hr
  obtain ⟨v, s₂, hversion, hr⟩ := Decoder.bind_eq_ok_iff.mp hr
  obtain ⟨reserved, s₃, hreserved, hr⟩ := Decoder.bind_eq_ok_iff.mp hr
  obtain ⟨flags, s₄, hflags, hr⟩ := Decoder.bind_eq_ok_iff.mp hr
  obtain ⟨buzzer, s₅, hbuzzer, hr⟩ := Decoder.bind_eq_ok_iff.mp hr
  obtain ⟨lamp, s₆, hlamp, hr⟩ := Decoder.bind_eq_ok_iff.mp hr
  obtain ⟨gap, s₇, hgap, hr⟩ := Decoder.bind_eq_ok_iff.mp hr
  obtain ⟨count, s₈, hcount, hr⟩ := Decoder.bind_eq_ok_iff.mp hr
  cases hr
  obtain ⟨hlength, rfl⟩ := Decoder.eq_append_of_take hmagic
  refine ⟨hlength, reserved, ?_⟩
  rw [Codec.u8_lossless.canonical hversion, Codec.u8_lossless.canonical hreserved,
    Codec.u16_lossless.canonical hflags, Codec.u32_lossless.canonical hbuzzer,
    Codec.u32_lossless.canonical hlamp, Codec.u32_lossless.canonical hgap,
    Codec.u32_lossless.canonical hcount]
  simp only [form, List.append_assoc]

end Head

/-! ## Tunes -/

variable {t : Tune} {s data rest : Bytes}

/-- The header of the byte form of a tune. -/
def head (t : Tune) : Head :=
  ⟨magic, version, t.flags, t.buzzer, t.lamp, t.gap, .ofNat t.notes.length⟩

theorem write_eq (t : Tune) : t.write = t.head.form 0 ++ t.notes.flatMap Note.codec.encode :=
  rfl

theorem length_notes (notes : List Note) :
    (notes.flatMap Note.codec.encode).length = Note.size * notes.length := by
  rw [List.length_flatMap, List.map_congr_left fun n _ => n.length_encode, List.map_const',
    List.sum_replicate_nat, Nat.mul_comm]

theorem length_write (t : Tune) : t.write.length = headerSize + Note.size * t.notes.length := by
  rw [write_eq, List.length_append, Head.length_form rfl, length_notes]

/-- What is made of the bytes behind a header that is as it should be. -/
theorem read_form_append {h : Head} (hm : h.magic = magic) (hv : h.version = version)
    (reserved : UInt8) (rest : Bytes) :
    read (h.form reserved ++ rest) =
      if rest.length < Note.size * h.count.toNat then
        .error (.truncated (headerSize + Note.size * h.count.toNat) (headerSize + rest.length))
      else match (Note.codec.decode.many h.count.toNat rest).1 with
        | .error e => .error (cutShort e)
        | .ok notes => .ok ⟨h.flags, h.buzzer, h.lamp, h.gap, notes⟩ := by
  have hm' : h.magic.length = 4 := by rw [hm]; rfl
  have hl : (h.form reserved ++ rest).length = headerSize + rest.length := by
    rw [List.length_append, Head.length_form hm']
  have hhead : ¬headerSize + rest.length < headerSize := by omega
  have hread := read.eq_def (h.form reserved ++ rest)
  simp only [hl, if_neg hhead, Head.read_form hm', hm, hv, ne_eq, not_true_eq_false, if_false,
    Nat.add_lt_add_iff_left] at hread
  exact hread

/-- A tune is read from its header and its notes, whatever the byte after the version is. -/
theorem read_head_append (h : t.notes.length < 2 ^ 32) (reserved : UInt8) (rest : Bytes) :
    read (t.head.form reserved ++ (t.notes.flatMap Note.codec.encode ++ rest)) = .ok t := by
  have hcount : t.head.count.toNat = t.notes.length := UInt32.toNat_ofNat_of_lt' h
  have hmany : Note.codec.decode.many t.notes.length
      (t.notes.flatMap Note.codec.encode ++ rest) = (.ok t.notes, rest) :=
    Decoder.many_flatMap (fun n _ => Note.lossless.faithful n) rest
  have hl : ¬(t.notes.flatMap Note.codec.encode ++ rest).length < Note.size * t.notes.length := by
    rw [List.length_append, length_notes]
    omega
  rw [read_form_append rfl rfl, hcount, if_neg hl, hmany]
  rfl

theorem read_write_append (h : t.notes.length < 2 ^ 32) (rest : Bytes) :
    read (t.write ++ rest) = .ok t := by
  rw [write_eq, List.append_assoc, read_head_append h]

/-- A byte form that is cut short is refused, within the header for the length of the header and
behind it for the length of the whole. -/
theorem read_prefix (h : t.notes.length < 2 ^ 32) (hs : s <+: t.write) (hne : s ≠ t.write) :
    read s = .error (.truncated (if s.length < headerSize then headerSize else t.write.length)
      s.length) := by
  have hlt : s.length < t.write.length :=
    Nat.lt_of_le_of_ne hs.length_le fun hl => hne (hs.eq_of_length hl)
  by_cases hshort : s.length < headerSize
  · rw [read, if_pos hshort, if_pos hshort]
  · have hcount : t.head.count.toNat = t.notes.length := UInt32.toNat_ofNat_of_lt' h
    have hform : (t.head.form 0).length = headerSize := Head.length_form rfl 0
    -- Behind the header, what is cut short are the notes.
    obtain ⟨rest, rfl⟩ : t.head.form 0 <+: s :=
      List.prefix_of_prefix_length_le (List.prefix_append _ _) (write_eq t ▸ hs) (by omega)
    rw [List.length_append, hform, length_write] at hlt
    rw [if_neg hshort, read_form_append rfl rfl, hcount, if_pos (by omega), List.length_append,
      hform, length_write]

/-- A tune that is read is that of a header and of the notes behind it. -/
theorem exists_form_of_read (h : read data = .ok t) :
    t.notes.length < 2 ^ 32 ∧ ∃ reserved rest,
      data = t.head.form reserved ++ (t.notes.flatMap Note.codec.encode ++ rest) := by
  unfold read at h
  split at h
  case isTrue => cases h
  split at h
  case h_1 => cases h
  case h_2 r rest hhead =>
    obtain ⟨-, reserved, rfl⟩ := Head.exists_form_of_read hhead
    dsimp only at h
    split at h
    case isTrue => cases h
    case isFalse hm =>
    split at h
    case isTrue => cases h
    case isFalse hv =>
    split at h
    case isTrue => cases h
    split at h
    case h_1 => cases h
    case h_2 notes hmany =>
      cases h
      obtain ⟨rest', hall⟩ : ∃ rest', Note.codec.decode.many r.count.toNat rest =
          (.ok notes, rest') := ⟨_, Prod.ext hmany rfl⟩
      have hcanonical {s' : Bytes} {n : Note} {rest : Bytes}
          (hd : Note.codec.decode s' = (.ok n, rest)) :
          True ∧ s' = Note.codec.encode n ++ rest := ⟨trivial, Note.lossless.canonical hd⟩
      obtain ⟨hcount, -, rfl⟩ := Decoder.eq_flatMap_of_many hcanonical hall
      have hhead : head ⟨r.flags, r.buzzer, r.lamp, r.gap, notes⟩ = r := by
        rw [head, hcount, UInt32.ofNat_toNat, ← Decidable.not_not.mp hm,
          ← Decidable.not_not.mp hv]
      exact ⟨hcount ▸ r.count.toNat_lt, reserved, rest', by rw [hhead]⟩

/-- What is read is the byte form of the tune, up to the byte after the version. -/
theorem write_of_read (h : read data = .ok t) :
    headerSize + Note.size * t.notes.length ≤ data.length ∧
      t.write = (data.take (headerSize + Note.size * t.notes.length)).set 5 0 := by
  obtain ⟨-, reserved, rest, rfl⟩ := exists_form_of_read h
  have hform : (t.head.form reserved).length = headerSize := Head.length_form rfl reserved
  have hl : (t.head.form reserved ++ t.notes.flatMap Note.codec.encode).length =
      headerSize + Note.size * t.notes.length := by
    rw [List.length_append, hform, length_notes]
  rw [← List.append_assoc]
  refine ⟨?_, ?_⟩
  · rw [List.length_append, hl]
    exact Nat.le_add_right _ _
  · rw [← hl, List.take_left, List.set_append_left _ _ (by rw [hform]; decide),
      Head.set_form rfl, write_eq]

/-- A tune of less than `2 ^ 32` notes is read back from its byte form, and what follows does not
count. A part of a byte form is refused : it is said how long it is, and how long a header is if
there is none, or else the whole. What a tune is read from begins with its byte form, except that
the byte after the version may be another one. -/
theorem reads_back :
    (∀ t : Tune, t.notes.length < 2 ^ 32 →
      (∀ extra, read (t.write ++ extra) = .ok t) ∧
      ∀ part, part <+: t.write → part ≠ t.write →
        read part = .error (.truncated
          (if part.length < headerSize then headerSize else t.write.length) part.length)) ∧
    ∀ (data : Bytes) (t : Tune), read data = .ok t →
      headerSize + Note.size * t.notes.length ≤ data.length ∧
        t.write = (data.take (headerSize + Note.size * t.notes.length)).set 5 0 :=
  ⟨fun _ hl => ⟨read_write_append hl, fun _ hs hne => read_prefix hl hs hne⟩,
    fun _ _ => write_of_read⟩

/-- A tune of two notes, the second with something in its reserved fields, takes forty bytes. It
is read back from these and from more, not from ten or from thirty of them, and it is also read
where another byte follows the version. -/
theorem reads_back_of_two_notes :
    let t : Tune := ⟨lampFlag, 9, 13, 2, [⟨69, 0, 0, 4544⟩, ⟨0, 7, 515, 1500⟩]⟩
    let data := t.write.set 5 0xAB ++ [1, 2, 3]
    t.notes.length < 2 ^ 32 ∧ read (t.write ++ [1, 2]) = .ok t ∧
      read (t.write.take 10) = .error (.truncated 24 10) ∧
      read (t.write.take 30) = .error (.truncated 40 30) ∧
      read data = .ok t ∧ data.take 40 ≠ t.write ∧ t.write = (data.take 40).set 5 0 := by
  intro t data
  have few : t.notes.length < 2 ^ 32 := by decide
  have form : data = t.head.form 0xAB ++ (t.notes.flatMap Note.codec.encode ++ [1, 2, 3]) := by
    decide
  have found : read data = .ok t := form ▸ read_head_append few 0xAB [1, 2, 3]
  obtain ⟨whole, parts⟩ := reads_back.1 t few
  exact ⟨few, whole _, parts _ (List.take_prefix 10 _) (by decide),
    parts _ (List.take_prefix 30 _) (by decide), found, by decide,
    (reads_back.2 data t found).2⟩

end Tune

end Coprocessor
