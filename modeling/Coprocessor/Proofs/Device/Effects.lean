import Coprocessor.Proofs.Device.Uploading

/-!
# Effects of requests

A request has one of a few effects on a device, each under guards of its own
(`Device.Effect`, `Device.effect_answer`) : it opens a buffer, adds to it or seals it, it
submits a job (`Device.Submits`), it turns the programming mode on or off, it asks the
worker to stop, it drops everything, or it only touches the mailbox and the pins.

What is true of devices after requests is proved from the effects. The buffers keep to the
limits of the settings : what is sealed is no longer than the limit, code has an even
length and a script is not empty (`Device.Effect.stocked`).
-/

namespace Coprocessor

/-! ## Buffers within their limits -/

namespace Upload

/-- Whether content of a length may be sealed. -/
def Kind.Seals (kind : Kind) (limit length : Nat) : Prop :=
  length ≤ limit ∧
    match kind with
    | .code => length % 2 = 0
    | .script => length ≠ 0

/-- What is announced, held or sealed is within a limit. -/
def Stage.Within (kind : Kind) (limit : Nat) : Stage → Prop
  | .empty => True
  | .loading announced held _ => announced ≠ 0 ∧ announced ≤ limit ∧ held.length ≤ announced
  | .sealed content => kind.Seals limit content.length

/-- A buffer for uploads of a kind that keeps to a limit. -/
structure Proper (kind : Kind) (limit : Nat) (u : Upload) : Prop where
  /-- The kind. -/
  kind_eq : u.kind = kind
  /-- The limit. -/
  limit_eq : u.limit = limit
  /-- What is in the buffer. -/
  within : u.stage.Within kind limit

variable {u : Upload} {kind : Kind} {limit : Nat}

theorem proper_empty (kind : Kind) (limit : Nat) : (empty kind limit).Proper kind limit :=
  ⟨rfl, rfl, trivial⟩

theorem Proper.free (h : u.Proper kind limit) : u.free.Proper kind limit :=
  ⟨h.kind_eq, h.limit_eq, trivial⟩

theorem Proper.announce (h : u.Proper kind limit) (memory : Nat → Bool) (total : UInt32) :
    (u.announce memory total).2.Proper kind limit := by
  unfold Upload.announce
  split
  case isTrue ha =>
    have hz : total ≠ 0 ∧ total.toNat ≤ u.limit := by
      unfold admits at ha
      split at ha <;> simp only [Bool.and_eq_true, decide_eq_true_eq] at ha
      · exact ⟨ha.1.1, ha.2⟩
      · exact ⟨ha.1.1, ha.2⟩
    split
    case isTrue =>
      exact ⟨h.kind_eq, h.limit_eq, fun h0 => hz.1 (UInt32.toNat_inj.mp h0), h.limit_eq ▸ hz.2,
        Nat.zero_le _⟩
    case isFalse => exact h.free
  case isFalse => exact h

theorem Proper.append (h : u.Proper kind limit) (piece : Bytes) :
    (u.append piece).2.Proper kind limit := by
  unfold Upload.append
  split
  case h_1 announced held checksum hs =>
    have hw := h.within
    rw [hs] at hw
    refine ⟨h.kind_eq, h.limit_eq, hw.1, hw.2.1, ?_⟩
    have := hw.2.2
    simp only [List.length_append, List.length_take]
    omega
  case h_2 => exact h

/-- Content that is found good may be sealed. -/
theorem seals_of_judge {announced : Nat} {held : Bytes} {checksum : Checksum.Rolling}
    {expected : UInt32} (hw : (Stage.loading announced held checksum).Within kind limit)
    (hok : (judge kind announced held checksum expected).status = .ok) :
    kind.Seals limit held.length := by
  obtain ⟨hz, hle, hl⟩ := hw
  refine ⟨Nat.le_trans hl hle, ?_⟩
  cases kind with
  | code =>
    refine Decidable.byContradiction fun hodd => ?_
    simp [judge, hodd] at hok
  | script =>
    have heq : held.length = announced := Decidable.byContradiction fun hne => by
      simp [judge, hne] at hok
    simp only
    omega

theorem Proper.verify (h : u.Proper kind limit) (expected : UInt32) :
    (u.verify expected).2.Proper kind limit := by
  unfold Upload.verify
  split
  case h_1 announced held checksum hs =>
    have hw := h.within
    rw [hs] at hw
    dsimp only
    rw [h.kind_eq]
    split
    case isTrue hok => exact ⟨rfl, h.limit_eq, seals_of_judge hw hok⟩
    case isFalse => exact h
  case h_2 => exact h

theorem Proper.seals (h : u.Proper kind limit) {content : Bytes} (hc : u.content? = some content) :
    kind.Seals limit content.length := by
  have hw := h.within
  unfold content? at hc
  split at hc
  case h_1 hs =>
    cases hc
    rwa [hs] at hw
  case h_2 => cases hc

end Upload

namespace Device

open Handoff

variable {σ τ : Type} {d d' : Device σ τ}

/-! ## Effects -/

/-- A request submits a job. -/
inductive Submits (d : Device σ τ) : Command → Bytes → Job → Prop
  /-- It calls the code. -/
  | code {payload content : Bytes} {values : List Int32} {limit : UInt32}
      (hp : d.programming = false)
      (hr : readField (withLimit codeArguments) payload = .ok (values, limit))
      (hc : d.code.content? = some content) (hb : d.station.isBusy = false) :
      Submits d .exec payload (.code content (Arguments.padded _ values))
  /-- It runs the script. -/
  | script {payload content : Bytes} {arguments : Arguments} {limit : UInt32}
      (hp : d.programming = false)
      (hr : readField (withLimit Arguments.read) payload = .ok (arguments, limit))
      (hc : d.script.content? = some content) (hb : d.station.isBusy = false) :
      Submits d .scriptExec payload
        (.script content (arguments.values.take Arguments.scriptCount) (d.limitOr limit))

variable {c : Command} {payload : Bytes} {job : Job}

theorem Submits.programming (hs : d.Submits c payload job) : d.programming = false := by
  cases hs with
  | code hp => exact hp
  | script hp => exact hp

theorem Submits.isBusy (hs : d.Submits c payload job) : d.station.isBusy = false := by
  cases hs with
  | code _ _ _ hb => exact hb
  | script _ _ _ hb => exact hb

/-- The execution state after the job of a request. -/
def afterJob (c : Command) (x : ExecState) : ExecState :=
  if c = .exec then .done else x

/-- A request that submits a job runs it, and makes nothing else different but the execution
state. -/
theorem answer_of_submits (h : d.Submits c payload job) : ∃ budget, (d.answer c payload).2 =
      { d with station := (d.station.run job budget).2, execState := afterJob c d.execState } := by
  cases h with
  | @code payload content values limit hp hr hc hb =>
    refine ⟨(d.limitOr limit).toNat, ?_⟩
    simp only [answer, exec, hp, hr, hc, hb, Bool.false_eq_true, if_false]
    rfl
  | @script payload content arguments limit hp hr hc hb =>
    refine ⟨(d.limitOr limit).toNat + scriptSlack, ?_⟩
    simp only [answer, scriptExec, hp, hr, hc, hb, Bool.false_eq_true, if_false]
    rfl

/-- Whether content was found good. -/
def isGood : Except Status Upload.Verdict → Bool
  | .ok v => v.status = .ok
  | .error _ => false

/-- What a request may make of a device. -/
inductive Effect (d : Device σ τ) : Device σ τ → Prop
  /-- It uses the mailbox and the pins at most. -/
  | uses (mailbox : Mailbox) (pins : σ) :
      Effect d { d with station := { d.station with mailbox := mailbox, pins := pins } }
  /-- It asks the worker to stop. -/
  | cancels : Effect d { d with station := d.station.cancel }
  /-- It announces an upload. -/
  | announces (kind : Upload.Kind) {total : UInt32} {answer : Except Status Unit} {u : Upload}
      (h : (d.upload kind).announce d.memory total = (answer, u)) :
      Effect d
        ({ d with execState := afterUpload kind answer.isOk .idle d.execState }.holding u kind)
  /-- It adds a piece to an upload. -/
  | appends (kind : Upload.Kind) (piece : Bytes) :
      Effect d (d.holding ((d.upload kind).append piece).2 kind)
  /-- It verifies an upload. -/
  | verifies (kind : Upload.Kind) {expected : UInt32} {answer : Except Status Upload.Verdict}
      {u : Upload} (h : (d.upload kind).verify expected = (answer, u)) :
      Effect d
        ({ d with execState := afterUpload kind (isGood answer) .loaded d.execState }.holding u
          kind)
  /-- It submits a job and waits for it. -/
  | runs {c : Command} {payload : Bytes} {job : Job} (hs : d.Submits c payload job)
      (budget : Nat) :
      Effect d
        { d with station := (d.station.run job budget).2, execState := afterJob c d.execState }
  /-- It drops everything. -/
  | clears (hb : d.station.isBusy = false) :
      Effect d
        { d with
          code := d.code.free
          script := d.script.free
          station := { d.station.cancel with mailbox := d.station.mailbox.clear }
          execState := .idle
          programming := false }
  /-- It turns the programming mode on. -/
  | programs (hb : d.station.isBusy = false) : Effect d { d with programming := true }
  /-- It turns the programming mode off. -/
  | leaves : Effect d { d with programming := false }

/-- A request that is refused has no effect. -/
theorem Effect.refl : Effect d d :=
  .uses d.station.mailbox d.station.pins

theorem effect_announce (kind : Upload.Kind) (payload : Bytes) :
    Effect d (d.announce kind payload).2 := by
  unfold announce
  split
  · exact .refl
  split
  · exact .refl
  cases kind with
  | code =>
    dsimp only
    split
    case h_1 h => exact .announces .code h
    case h_2 h => exact .announces .code h
  | script =>
    dsimp only
    split
    case h_1 h => exact .announces .script h
    case h_2 h => exact .announces .script h

theorem effect_append (kind : Upload.Kind) (piece : Bytes) :
    Effect d (d.append kind piece).2 := by
  unfold append
  split
  · exact .refl
  · cases kind with
    | code => exact .appends .code piece
    | script => exact .appends .script piece

theorem effect_verify (kind : Upload.Kind) (payload : Bytes) :
    Effect d (d.verify kind payload).2 := by
  unfold verify
  split
  · exact .refl
  split
  · exact .refl
  cases kind with
  | code =>
    dsimp only
    split
    case h_1 v code h =>
      have verified := Effect.verifies .code h
      simpa [holding, afterUpload, isGood] using verified
    case h_2 h => exact .verifies .code h
  | script => exact .verifies .script rfl

theorem effect_exec (payload : Bytes) : Effect d (d.exec payload).2 := by
  unfold exec
  split
  case isTrue => exact .refl
  case isFalse hp =>
  split
  case h_1 => exact .refl
  case h_2 hr =>
  split
  case h_1 => exact .refl
  case h_2 hc =>
  split
  case isTrue => exact .refl
  case isFalse hb =>
  exact .runs (.code (by simpa using hp) hr hc (by simpa using hb)) _

theorem effect_scriptExec (payload : Bytes) : Effect d (d.scriptExec payload).2 := by
  unfold scriptExec
  split
  case isTrue => exact .refl
  case isFalse hp =>
  split
  case h_1 => exact .refl
  case h_2 hr =>
  split
  case h_1 => exact .refl
  case h_2 hc =>
  split
  case isTrue => exact .refl
  case isFalse hb =>
  exact .runs (.script (by simpa using hp) hr hc (by simpa using hb)) _

theorem effect_call (payload : Bytes) : Effect d (d.call payload).2 := by
  unfold call
  split
  · exact .refl
  split
  · exact .refl
  split
  · exact .refl
  · exact .uses _ _

theorem effect_reset : Effect d d.reset.2 := by
  unfold reset
  dsimp only
  split
  case isTrue => exact .cancels
  case isFalse hb => exact .clears (Bool.eq_false_iff.mpr hb)

theorem effect_enterProgramming : Effect d d.enterProgramming.2 := by
  unfold enterProgramming
  split
  case isTrue => exact .refl
  case isFalse hb => exact .programs (by simpa using hb)

/-- Every request has one of the effects. -/
theorem effect_answer (c : Command) (payload : Bytes) : Effect d (d.answer c payload).2 := by
  cases c with
  | loadBegin => exact effect_announce .code payload
  | loadData => exact effect_append .code payload
  | loadEnd => exact effect_verify .code payload
  | scriptBegin => exact effect_announce .script payload
  | scriptData => exact effect_append .script payload
  | scriptEnd => exact effect_verify .script payload
  | exec => exact effect_exec payload
  | scriptExec => exact effect_scriptExec payload
  | func => exact effect_call payload
  | reset => exact effect_reset
  | ispEnter => exact effect_enterProgramming
  | ispExit => exact .leaves
  | cancel => exact .cancels
  | hello | info | status | mailboxRead => exact .refl

/-! ## Buffers of a device -/

/-- The device has its settings, and its buffers keep to their limits. -/
structure Stocked (config : Config) (d : Device σ τ) : Prop where
  /-- The settings. -/
  config_eq : d.config = config
  /-- The buffer for code. -/
  code : d.code.Proper .code config.codeLimit
  /-- The buffer for scripts. -/
  script : d.script.Proper .script config.scriptLimit

/-- The limit of uploads of a kind. -/
def Config.uploadLimit (config : Config) : Upload.Kind → Nat
  | .code => config.codeLimit
  | .script => config.scriptLimit

variable {config : Config}

theorem Stocked.upload (h : d.Stocked config) (kind : Upload.Kind) :
    (d.upload kind).Proper kind (config.uploadLimit kind) := by
  cases kind with
  | code => exact h.code
  | script => exact h.script

theorem Stocked.holding (h : d.Stocked config) {kind : Upload.Kind} {u : Upload}
    (hu : u.Proper kind (config.uploadLimit kind)) (x : ExecState) :
    ({ d with execState := x }.holding u kind).Stocked config := by
  cases kind with
  | code => exact ⟨h.config_eq, hu, h.script⟩
  | script => exact ⟨h.config_eq, h.code, hu⟩

theorem stocked_start (config : Config) (board : Pins.Board σ) (waited : σ → Nat)
    (runner : Runner σ τ) (pins : σ) : (start config board waited runner pins).Stocked config :=
  ⟨rfl, Upload.proper_empty _ _, Upload.proper_empty _ _⟩

theorem Effect.stocked (h : Effect d d') (hd : d.Stocked config) : d'.Stocked config := by
  cases h with
  | uses | cancels | runs | programs | leaves => exact ⟨hd.config_eq, hd.code, hd.script⟩
  | @announces kind total answer u h =>
    have kept := (hd.upload kind).announce d.memory total
    rw [h] at kept
    exact hd.holding kept _
  | appends kind piece => exact hd.holding ((hd.upload kind).append piece) d.execState
  | @verifies kind expected answer u h =>
    have kept := (hd.upload kind).verify expected
    rw [h] at kept
    exact hd.holding kept _
  | clears => exact ⟨hd.config_eq, hd.code.free, hd.script.free⟩

end Device

end Coprocessor
