import Coprocessor.Device.Reply
import Coprocessor.Host.Calls
import Coprocessor.Host.Client
import Coprocessor.Proofs.Wire.RoundTrip

/-!
# Replies are read

A call is a request and the reading of its reply. The host splits a reply where the device
joined status and fields (`Host.split_statusBytes`), and reads the fields one after the other
(`Host.Fields.Reads.bind`). So a call comes to what the fields hold, or to the status of the
refusal (`Host.Client.run_call_of_ok`, `Host.Client.run_call_of_refused`).
-/

namespace Coprocessor.Host

variable {α β : Type}

/-! ## Fields -/

namespace Fields

variable {x : Fields α} {f : α → Fields β} {s t u : Bytes} {a : α} {b : β}

/-- Wherever it begins, a reader takes a value from the front of some bytes and leaves the
others. -/
def Reads (x : Fields α) (s : Bytes) (a : α) (t : Bytes) : Prop :=
  ∀ offset, ∃ offset', x ⟨offset, s⟩ = .ok (a, ⟨offset', t⟩)

theorem Reads.bind (hx : x.Reads s a t) (hf : (f a).Reads t b u) : (x >>= f).Reads s b u := by
  intro offset
  obtain ⟨offset', hx⟩ := hx offset
  obtain ⟨offset'', hf⟩ := hf offset'
  refine ⟨offset'', ?_⟩
  simp only [Bind.bind, StateT.bind, hx, Except.bind]
  exact hf

theorem reads_pure (a : α) (s : Bytes) : (pure a : Fields α).Reads s a s :=
  fun offset => ⟨offset, rfl⟩

theorem reads_rest (s : Bytes) : rest.Reads s s s :=
  fun offset => ⟨offset, rfl⟩

theorem reads_value {c : Codec α} (hc : c.Lossless) (width : Nat) (v : α) (t : Bytes) :
    (value width c.decode).Reads (c.encode v ++ t) v t := by
  intro offset
  simp only [value, hc.faithful]
  exact ⟨_, rfl⟩

theorem reads_bytes (s t : Bytes) : (bytes s.length).Reads (s ++ t) s t := by
  intro offset
  simp only [bytes, value, Decoder.take_append]
  exact ⟨_, rfl⟩

theorem reads_half (v : UInt16) (t : Bytes) : half.Reads (Codec.u16.encode v ++ t) v t :=
  reads_value Codec.u16_lossless 2 v t

theorem reads_word (v : UInt32) (t : Bytes) : word.Reads (Codec.u32.encode v ++ t) v t :=
  reads_value Codec.u32_lossless 4 v t

theorem reads_signed (v : Int32) (t : Bytes) : signed.Reads (Codec.i32.encode v ++ t) v t :=
  reads_value Codec.i32_lossless 4 v t

theorem Reads.of_eq (h : x.Reads s a t) : x.of s = .ok a := by
  obtain ⟨offset, hx⟩ := h 0
  rw [Fields.of, hx]
  rfl

theorem exists_of_bind {u v : Unread} (h : (x >>= f) u = .ok (b, v)) :
    ∃ a w, x u = .ok (a, w) ∧ f a w = .ok (b, v) := by
  simp only [Bind.bind, StateT.bind, Except.bind] at h
  split at h
  · cases h
  case h_2 p hx => exact ⟨p.1, p.2, hx, h⟩

theorem exists_of_of (h : x.of s = .ok a) : ∃ u, x ⟨0, s⟩ = .ok (a, u) := by
  simp only [Fields.of, Bind.bind, Except.bind] at h
  split at h
  · cases h
  case h_2 p hx =>
    cases h
    exact ⟨p.2, hx⟩

theorem eq_append_of_value {c : Codec α} (hc : c.Lossless) {width : Nat} {u w : Unread}
    (h : value width c.decode u = .ok (a, w)) : u.rest = c.encode a ++ w.rest := by
  simp only [value] at h
  split at h
  case h_1 hd =>
    cases h
    exact hc.canonical hd
  case h_2 => cases h

end Fields

theorem word_encode (v : UInt32) (rest : Bytes) :
    Fields.word.of (Codec.u32.encode v ++ rest) = .ok v :=
  (Fields.reads_word v rest).of_eq

theorem words_encode (v w : UInt32) (rest : Bytes) :
    Fields.of (return (← Fields.word, ← Fields.word))
      (Codec.u32.encode v ++ (Codec.u32.encode w ++ rest)) = .ok (v, w) :=
  Fields.Reads.of_eq <| (Fields.reads_word v _).bind <| (Fields.reads_word w rest).bind <|
    Fields.reads_pure _ rest

theorem eq_append_of_word {v : UInt32} {s : Bytes} (h : Fields.word.of s = .ok v) :
    ∃ rest, s = Codec.u32.encode v ++ rest := by
  obtain ⟨u, hword⟩ := Fields.exists_of_of h
  exact ⟨u.rest, Fields.eq_append_of_value Codec.u32_lossless hword⟩

theorem eq_append_of_words {v w : UInt32} {s : Bytes}
    (h : Fields.of (return (← Fields.word, ← Fields.word)) s = .ok (v, w)) :
    ∃ rest, s = Codec.u32.encode v ++ (Codec.u32.encode w ++ rest) := by
  obtain ⟨u, h⟩ := Fields.exists_of_of h
  obtain ⟨v', u₁, hfirst, h⟩ := Fields.exists_of_bind h
  obtain ⟨w', u₂, hsecond, h⟩ := Fields.exists_of_bind h
  cases h
  refine ⟨u.rest, ?_⟩
  rw [← Fields.eq_append_of_value Codec.u32_lossless hsecond]
  exact Fields.eq_append_of_value Codec.u32_lossless hfirst

@[simp] theorem length_statusBytes (status : Status) :
    (Device.Reply.statusBytes status).length = 4 :=
  rfl

theorem split_statusBytes (command : Command) (status : Status) (rest : Bytes) :
    Call.split command (Device.Reply.statusBytes status ++ rest) = .ok (status, rest) := by
  have hfields : Fields.of (do return (← Fields.signed, ← Fields.rest))
      (Device.Reply.statusBytes status ++ rest) = .ok (status.code, rest) :=
    Fields.Reads.of_eq <| (Fields.reads_signed status.code rest).bind <|
      (Fields.reads_rest rest).bind <| Fields.reads_pure _ rest
  rw [Call.split, hfields]
  simp only [Bind.bind, Except.bind, Status.ofCode?_code]
  rfl

theorem eq_append_of_split {command : Command} {status : Status} {reply rest : Bytes}
    (h : Call.split command reply = .ok (status, rest)) :
    reply = Device.Reply.statusBytes status ++ rest := by
  simp only [Call.split, Bind.bind, Except.bind] at h
  split at h
  · cases h
  case h_2 p hfields =>
    obtain ⟨u, hfields⟩ := Fields.exists_of_of hfields
    obtain ⟨code, u₁, hcode, hfields⟩ := Fields.exists_of_bind hfields
    obtain ⟨left, u₂, hrest, hfields⟩ := Fields.exists_of_bind hfields
    cases hfields
    cases hrest
    split at h
    case h_1 s hs =>
      cases h
      rw [Device.Reply.statusBytes, Status.code_of_ofCode? hs]
      exact Fields.eq_append_of_value Codec.i32_lossless hcode
    case h_2 => cases h

/-! ## Calls -/

namespace Client

variable {δ : Type} {k k' : Client δ}

theorem run_andThen (x : Session α) (f : α → Session β) (k : Client δ) :
    k.run (x.andThen f) = (k.run x).2.run (f (k.run x).1) := by
  induction x generalizing k with
  | done a => rfl
  | request c payload extra next ih => exact ih _ _
  | pause millis next ih => exact ih _
  | report e next ih => exact ih _

theorem run_bind_of_ok {x : Call α} {a : α} (h : k.run x.run = (.ok a, k')) (f : α → Call β) :
    k.run (x >>= f).run = k'.run (f a).run := by
  have hbind : k.run (x >>= f).run = k.run (x.run.andThen (ExceptT.bindCont f)) := rfl
  rw [hbind, run_andThen, h]
  rfl

theorem run_bind_of_error {x : Call α} {e : CallError} (h : k.run x.run = (.error e, k'))
    (f : α → Call β) : k.run (x >>= f).run = (.error e, k') := by
  have hbind : k.run (x >>= f).run = k.run (x.run.andThen (ExceptT.bindCont f)) := rfl
  rw [hbind, run_andThen, h]
  rfl

variable {command : Command} {payload rest : Bytes} {extra : Nat} {status : Status}

/-- A call that the device carries out gives the fields of the reply. -/
theorem run_call_of_ok (h : k.exchange command payload extra =
    (.ok (Device.Reply.statusBytes .ok ++ rest), k')) :
    k.run (Call.call command payload extra).run = (.ok rest, k') := by
  have hrequest : k.run (Call.request command payload extra).run = _ := h
  rw [Call.call, run_bind_of_ok hrequest, split_statusBytes]
  rfl

/-- A call that the device refuses fails with the status, and this is written to the log. -/
theorem run_call_of_refused (hs : status ≠ .ok) (h : k.exchange command payload extra =
    (.ok (Device.Reply.statusBytes status ++ rest), k')) :
    ∃ entries, k.run (Call.call command payload extra).run =
      (.error (.refused status), { k' with line := k'.line.report entries }) := by
  have hrequest : k.run (Call.request command payload extra).run = _ := h
  refine ⟨[⟨.warn, s!"{command.name}: device status {status.message}"⟩], ?_⟩
  rw [Call.call, run_bind_of_ok hrequest, split_statusBytes]
  have hok : k'.run (Call.ofExcept (.ok (status, rest))).run = (.ok (status, rest), k') := rfl
  rw [run_bind_of_ok hok]
  dsimp only
  rw [if_neg hs]
  rfl

/-- A call without a reply fails as the exchange does. -/
theorem run_call_of_error {e : CallError} (h : k.exchange command payload extra = (.error e, k')) :
    k.run (Call.call command payload extra).run = (.error e, k') := by
  have hrequest : k.run (Call.request command payload extra).run = _ := h
  exact run_bind_of_error hrequest _

end Client

end Coprocessor.Host
