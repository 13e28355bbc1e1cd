import Coprocessor.Proofs.Device.Serving

/-!
# Noise of any length

Noise that is given up on is taken away window by window. A window is the bytes that
are put up with and the four that were looked at last (`Framing.window`), so the last
one may reach into the frame behind the noise : the first bytes of its magic are then
gone, although they were never seen to be noise (`Framing.read_of_window`).

What becomes of the frame depends on how much noise there is beyond whole windows
(`Server.serve_of_bare`). The frame is answered if that is within the limit of noise,
and loses one to three bytes if it is not, as a greeting behind nine bytes of noise
does where the limit is eight (`Server.greeting_of_nine`).
-/

namespace Coprocessor

namespace Framing

open Link

variable {c : Framing} {s : Bytes}

/-- The number of bytes that are taken away when noise without a magic is given up on. -/
def window (c : Framing) : Nat :=
  c.maxScan + 4

/-- Whether the magic stands at the front is seen in the first four bytes. -/
theorem beginsFrame_append (hs : 4 ≤ s.length) (t : Bytes) :
    beginsFrame (s ++ t) = beginsFrame s := by
  rw [beginsFrame, beginsFrame, List.take_append_of_le_length hs]

/-- A search that meets no magic within the limit of noise gives up, and the four bytes that
it looks at then are gone. -/
theorem scan_of_window {k skipped : Nat} (hk : skipped + k = c.maxScan) (hl : k + 4 ≤ s.length)
    (hq : ∀ q ≤ k, beginsFrame (s.drop q) = false) :
    c.scan 0 skipped s = ⟨.noise, s.drop (k + 4), []⟩ := by
  have hb : beginsFrame s = false := hq 0 (Nat.zero_le k)
  induction k generalizing s skipped with
  | zero =>
    rw [scan_of_noise c 0 skipped hb (by omega), if_pos (by omega)]
    rfl
  | succ k ih =>
    have htail : ∀ q, s.tail.drop q = s.drop (q + 1) := fun q => List.drop_tail
    have hq' : ∀ q ≤ k, beginsFrame (s.tail.drop q) = false := fun q hle => by
      rw [htail]
      exact hq (q + 1) (by omega)
    have hscan : c.scan 0 (skipped + 1) s.tail = ⟨.noise, s.tail.drop (k + 4), []⟩ :=
      ih (by omega) (by rw [List.length_tail]; omega) hq' (hq' 0 (Nat.zero_le k))
    rw [scan_of_noise c 0 skipped hb (by omega), if_neg (by omega), Nat.zero_sub, hscan, htail,
      Nat.add_right_comm]

/-- Reading gives up on a window in which no magic begins. -/
theorem read_of_window (hl : c.window ≤ s.length)
    (hq : ∀ q ≤ c.maxScan, beginsFrame (s.drop q) = false) :
    c.read s = ⟨.noise, s.drop c.window, []⟩ :=
  scan_of_window (Nat.zero_add _) hl hq

end Framing

namespace Link.Segment

variable {c : Framing} {g : Segment}

/-- The frame is acceptable, and no magic begins in the noise, read on into the frame. The
noise may be of any length. -/
structure Bare (c : Framing) (g : Segment) : Prop where
  /-- The magic is right. -/
  magic : g.header.magic = Header.magicWord
  /-- The length is that of the payload. -/
  length : g.header.length.toNat = g.payload.length
  /-- The payload is within the limit. -/
  fits : g.payload.length ≤ c.maxPayload
  /-- No magic begins in the noise. -/
  quiet : ∀ q < g.noise.length, Framing.beginsFrame ((g.bytes c).drop q) = false

/-- The segment without the first `n` bytes of its noise. -/
def past (n : Nat) (g : Segment) : Segment :=
  { g with noise := g.noise.drop n }

theorem bytes_past {n : Nat} (hn : n ≤ g.noise.length) :
    (g.past n).bytes c = (g.bytes c).drop n :=
  (List.drop_append_of_le_length hn).symm

theorem Bare.past (h : g.Bare c) {n : Nat} (hn : n ≤ g.noise.length) : (g.past n).Bare c where
  magic := h.magic
  length := h.length
  fits := h.fits
  quiet q hq := by
    have hl : (g.past n).noise.length = g.noise.length - n := List.length_drop
    rw [bytes_past hn, List.drop_drop]
    exact h.quiet (n + q) (by omega)

/-- No magic begins in the noise, whatever follows the frame. -/
theorem Bare.beginsFrame (h : g.Bare c) (rest : Bytes) {q : Nat} (hq : q < g.noise.length) :
    Framing.beginsFrame ((g.bytes c ++ rest).drop q) = false := by
  have hl : Header.size ≤ ((g.bytes c).drop q).length := size_le_drop (Nat.le_of_lt hq)
  have hle : q ≤ (g.bytes c).length := Nat.le_trans (Nat.le_of_lt hq) (by simp [bytes])
  rw [List.drop_append_of_le_length hle,
    Framing.beginsFrame_append (Nat.le_trans (by decide) hl)]
  exact h.quiet q hq

/-- Noise without a magic is clean if it is within the limit. -/
theorem Bare.clean (h : g.Bare c) (hs : g.noise.length ≤ c.maxScan) : g.Clean c where
  magic := h.magic
  length := h.length
  fits := h.fits
  short := hs
  quiet q hq ho := by
    have hb := h.quiet q hq
    rw [ho.beginsFrame] at hb
    cases hb

end Link.Segment

namespace Device.Server

open Link

variable {σ τ : Type} {v : Server σ τ} {s : Bytes}

/-- Noise is taken away window by window, and nothing is said to it. -/
theorem serve_of_windows (hb : v.broken = none) (hr : v.outlet.room = none) (k : Nat)
    (hl : k * v.framing.window ≤ s.length)
    (hq : ∀ q, q + 4 ≤ k * v.framing.window → Framing.beginsFrame (s.drop q) = false) :
    ∃ v', Wrote v v' [] v.device ∧ v.serve s = v'.serve (s.drop (k * v.framing.window)) := by
  induction k generalizing v s with
  | zero =>
    rw [Nat.zero_mul]
    exact ⟨v, wrote_nil hb hr, rfl⟩
  | succ k ih =>
    have hw : (k + 1) * v.framing.window = v.framing.window + k * v.framing.window :=
      (Nat.succ_mul _ _).trans (Nat.add_comm _ _)
    rw [hw] at hl hq ⊢
    have hread : v.framing.read s = ⟨.noise, s.drop v.framing.window, []⟩ :=
      Framing.read_of_window (by omega) fun q hle => hq q (by unfold Framing.window; omega)
    have logged := wrote_report hb hr v.device [noiseEntry]
    obtain ⟨v', written, hserve⟩ := @ih (v.report [noiseEntry]) (s.drop v.framing.window)
      logged.broken logged.room (by rw [List.length_drop, logged.framing]; omega) (by
        intro q hle
        rw [logged.framing] at hle
        rw [List.drop_drop]
        exact hq _ (by omega))
    refine ⟨v', logged.trans written, ?_⟩
    rw [serve_of_noise hb (by rw [hread]), hread]
    refine hserve.trans ?_
    rw [List.drop_drop, logged.framing]

/-- A frame behind noise without a magic is answered if what the noise has beyond whole
windows is within the limit of noise. Otherwise nothing is said, and the frame is served
without the bytes that the last window has taken from it. -/
theorem serve_of_bare (hb : v.broken = none) (hr : v.outlet.room = none) {g : Segment}
    (hg : g.Bare v.framing) (rest : Bytes) :
    (g.noise.length % v.framing.window ≤ v.framing.maxScan →
      ∃ v', Wrote v v' ((v.device.replies v.framing [g]).1.flatMap fun reply =>
            v.framing.frame reply.1 reply.2) (v.device.replies v.framing [g]).2 ∧
        v.serve (g.bytes v.framing ++ rest) = v'.serve rest) ∧
    (v.framing.maxScan < g.noise.length % v.framing.window →
      ∃ v', Wrote v v' [] v.device ∧ v.serve (g.bytes v.framing ++ rest) =
        v'.serve ((v.framing.frame g.header g.payload ++ rest).drop
          (v.framing.window - g.noise.length % v.framing.window))) := by
  have hsplit := Nat.mod_add_div g.noise.length v.framing.window
  rw [Nat.mul_comm] at hsplit
  have hlong : g.noise.length ≤ (g.bytes v.framing ++ rest).length := by
    simp only [Segment.bytes, List.length_append]
    omega
  generalize hn : g.noise.length % v.framing.window = n at hsplit ⊢
  generalize g.noise.length / v.framing.window = k at hsplit
  constructor
  · intro hle
    have hpast : k * v.framing.window ≤ g.noise.length := by omega
    obtain ⟨v', away, hserve⟩ := serve_of_windows hb hr k
      (Nat.le_trans hpast hlong) fun q hq => hg.beginsFrame rest (by omega)
    have hclean : (g.past (k * v.framing.window)).Clean v'.framing := by
      rw [away.framing]
      refine (hg.past hpast).clean ?_
      have hl : (g.past (k * v.framing.window)).noise.length =
        g.noise.length - k * v.framing.window := List.length_drop
      omega
    have hdrop : (g.bytes v.framing ++ rest).drop (k * v.framing.window) =
        (g.past (k * v.framing.window)).bytes v.framing ++ rest := by
      rw [Segment.bytes_past hpast,
        List.drop_append_of_le_length (Nat.le_trans hpast (by simp [Segment.bytes]))]
    rcases hh : v.device.handleFrame g.header g.payload (Segment.verdict v.framing) with ⟨reply, d⟩
    have hh' : v'.device.handleFrame g.header g.payload (Segment.verdict v'.framing) =
        (reply, d) := by rw [away.device, away.framing, hh]
    obtain ⟨v'', answered, hserve'⟩ := serve_of_clean away.broken away.room hclean rest hh'
    rw [away.framing] at answered hserve'
    refine ⟨v'', ?_, by rw [hserve, hdrop, hserve']⟩
    simp only [replies, hh, List.flatMap_cons, List.flatMap_nil, List.append_nil]
    exact away.trans answered
  · intro hlt
    have hover : (k + 1) * v.framing.window = g.noise.length + (v.framing.window - n) := by
      have hle : n < v.framing.window := hn ▸ Nat.mod_lt _ (Nat.succ_pos _)
      rw [Nat.succ_mul]
      omega
    obtain ⟨v', away, hserve⟩ := serve_of_windows (s := g.bytes v.framing ++ rest) hb hr (k + 1)
      (by
        rw [hover, Segment.bytes, Framing.frame]
        simp only [List.length_append, Header.length_encode, Header.size]
        unfold Framing.window
        omega)
      fun q hq => hg.beginsFrame rest (by unfold Framing.window at hover hq; omega)
    refine ⟨v', away, ?_⟩
    rw [hserve, hover, Segment.bytes, List.append_assoc, List.drop_length_add_append]

/-- A greeting is answered behind a window of noise and one byte more, where eight bytes are
put up with. -/
theorem greeting_of_thirteen :
    let c : Framing := { maxScan := 8 }
    let d := start {} Pins.Bank.board (·.waited) (.emulator Handoff.Emulation.usualBudget) {}
    let g : Segment := ⟨List.replicate 13 0x55, .request .hello 1 [], []⟩
    g.Bare c ∧ ∃ v', Wrote { framing := c, device := d } v'
        (c.frame (.reply (.request .hello 1 []) [0, 0, 0, 0, 1, 0, 0, 0, 15, 0, 0, 0])
          [0, 0, 0, 0, 1, 0, 0, 0, 15, 0, 0, 0]) (d.replies c [g]).2 ∧
      serve (g.bytes c) { framing := c, device := d } = v'.serve [] := by
  intro c d g
  have hg : g.Bare c := ⟨rfl, rfl, by decide, by decide⟩
  obtain ⟨v', answered, hserve⟩ :=
    (serve_of_bare (v := { framing := c, device := d }) rfl rfl hg []).1 (by decide)
  rw [List.append_nil] at hserve
  have hreply : ((d.replies c [g]).1.flatMap fun reply => c.frame reply.1 reply.2) =
      c.frame (.reply (.request .hello 1 []) [0, 0, 0, 0, 1, 0, 0, 0, 15, 0, 0, 0])
        [0, 0, 0, 0, 1, 0, 0, 0, 15, 0, 0, 0] := by
    decide +kernel
  exact ⟨hg, v', hreply ▸ answered, hserve⟩

/-- A greeting behind nine bytes of noise is not answered where eight are put up with : no
magic begins in the noise, but three bytes of the greeting go with it. -/
theorem greeting_of_nine :
    let c : Framing := { maxScan := 8 }
    let d := start {} Pins.Bank.board (·.waited) (.emulator Handoff.Emulation.usualBudget) {}
    let g : Segment := ⟨List.replicate 9 0x55, .request .hello 1 [], []⟩
    g.Bare c ∧ Wrote { framing := c, device := d }
      (serve (g.bytes c) { framing := c, device := d }).2 [] d := by
  intro c d g
  have hg : g.Bare c := ⟨rfl, rfl, by decide, by decide⟩
  have hread : c.read (g.bytes c) = ⟨.noise, (c.frame g.header g.payload).drop 3, []⟩ := by
    decide
  have hquiet : c.Quiet ((c.frame g.header g.payload).drop 3) :=
    Framing.quiet_of_length_lt (by decide)
  have logged := wrote_report (v := { framing := c, device := d }) rfl rfl d [noiseEntry]
  have ignored := serve_of_quiet logged.broken logged.room hquiet
  refine ⟨hg, ?_⟩
  rw [serve_of_noise rfl (congrArg Reading.finding hread), hread]
  exact logged.trans ignored

end Device.Server

end Coprocessor
