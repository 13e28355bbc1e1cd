import Coprocessor.Host.Calls
import Coprocessor.Proofs.Device.Execution

/-!
# Requests to run are read as they are meant

The device reads from a request to run code, a script or a function what the call was made
with : the name, the arguments and the time limit. Up to sixty-four arguments are read, in
either form. More of them are refused before anything is done (`Device.reads_requests`). The
programming mode comes first : while it is on, such a request is refused for the state like any
other (`Device.refuses_many_while_programming`).
-/

namespace Coprocessor

variable {α : Type}

namespace Host

/-- A call begins with a request. -/
def Asks (x : Call α) (c : Command) (payload : Bytes) (extra : Nat) : Prop :=
  ∃ next, x.run = .request c payload extra next

namespace Call

/-- The payload of a request to run the code. -/
def execPayload (values : List Int32) (limit : UInt32) : Bytes :=
  Arguments.writeAs values .binary ++ Codec.u32.encode limit

/-- The payload of a request to run the script. -/
def scriptPayload (values : List Int32) (limit : UInt32) (form : Arguments.Form) : Bytes :=
  Arguments.write values form ++ Codec.u32.encode limit

/-- The payload of a request to call a function. -/
def funcPayload (name : Bytes) (values : List Int32) (form : Arguments.Form) : Bytes :=
  Codec.bytes.encode name ++ Arguments.write values form

theorem asks_exec (values : List Int32) (limit : UInt32) :
    Asks (exec values limit) .exec (execPayload values limit) limit.toNat :=
  ⟨_, rfl⟩

theorem asks_scriptExec (values : List Int32) (limit : UInt32) (form : Arguments.Form) :
    Asks (scriptExec values limit form) .scriptExec (scriptPayload values limit form)
      limit.toNat :=
  ⟨_, rfl⟩

theorem asks_func (name : Bytes) (values : List Int32) (form : Arguments.Form) :
    Asks (func name values form) .func (funcPayload name values form) 0 :=
  ⟨_, rfl⟩

end Call

end Host

namespace Device

open Host

variable {σ τ : Type} {d : Device σ τ} {values : List Int32} {name payload : Bytes}

/-! ## Calls of functions -/

/-- The name of a function is read, and then its arguments. -/
theorem functionCall_append (hn : name ≠ []) (hl : name.length ≤ FunctionTable.maxName)
    (s : Bytes) (hs : s ≠ []) : functionCall (Codec.bytes.encode name ++ s) =
      (do return (name, (← Arguments.read).values) : Decoder (Bytes × List Int32)) s := by
  have hlen := toNat_ofNat_length hl (by decide)
  have hne : UInt32.ofNat name.length ≠ 0 := fun h0 => by
    rw [h0] at hlen
    exact hn (List.length_eq_zero_iff.mp hlen.symm)
  have hname : ¬(decide (UInt32.ofNat name.length = 0) ||
      decide (FunctionTable.maxName < (UInt32.ofNat name.length).toNat)) = true := by
    rw [hlen]
    simpa using ⟨hne, hl⟩
  have hrest : ¬s.length = 0 := fun h => hs (List.length_eq_zero_iff.mp h)
  rw [Codec.encode_bytes, List.append_assoc, functionCall,
    Decoder.bind_of_ok (Codec.u32_lossless.faithful _ _), Decoder.ite_false_apply hname, hlen,
    Decoder.bind_of_ok (Decoder.take_append _ _)]
  exact Decoder.ite_false_apply hrest

theorem write_ne_nil (values : List Int32) (form : Arguments.Form) :
    Arguments.write values form ≠ [] := fun h => by
  have hl := congrArg List.length h
  rw [Arguments.write, Arguments.writeAs.eq_def, List.length_append, Codec.length_encode_u32,
    List.length_nil] at hl
  omega

theorem readField_funcPayload (hn : name ≠ []) (hl : name.length ≤ FunctionTable.maxName)
    (hv : values.length ≤ Arguments.maxCount) (form : Arguments.Form) :
    readField functionCall (Call.funcPayload name values form) = .ok (name, values) := by
  have hread := Arguments.read_write hv form []
  rw [List.append_nil] at hread
  refine readField_of_ok (t := []) ?_
  rw [Call.funcPayload, functionCall_append hn hl _ (write_ne_nil values form),
    Decoder.bind_of_ok hread]
  rfl

/-! ## Requests that are carried out -/

/-- A request is read as one to run the code with some arguments, and carried out as such if
there is code and nothing runs. -/
def TakesExec (d : Device σ τ) (payload : Bytes) (values : List Int32) (limit : UInt32) : Prop :=
  readField (withLimit codeArguments) payload = .ok (values, limit) ∧
    (d.programming = false → d.station.isBusy = false →
      ∀ content, d.code.content? = some content →
        let ran := d.station.run (.code content (Arguments.padded _ values)) (d.limitOr limit).toNat
        d.answer .exec payload =
          (ran.1.map .codeValue, { d with station := ran.2, execState := .done }))

/-- A request is read as one to run the script with some arguments, and carried out as such if
there is a script and nothing runs. -/
def TakesScript (d : Device σ τ) (payload : Bytes) (arguments : Arguments) (limit : UInt32) :
    Prop :=
  readField (withLimit Arguments.read) payload = .ok (arguments, limit) ∧
    (d.programming = false → d.station.isBusy = false →
      ∀ content, d.script.content? = some content →
        let limit := d.limitOr limit
        let ran := d.station.run
          (.script content (arguments.values.take Arguments.scriptCount) limit)
          (limit.toNat + scriptSlack)
        d.answer .scriptExec payload = (ran.1.map .value, { d with station := ran.2 }))

/-- A request is read as one to call a function with some arguments, and carried out as such. -/
def TakesFunc (d : Device σ τ) (payload name : Bytes) (values : List Int32) : Prop :=
  readField functionCall payload = .ok (name, values) ∧
    (d.programming = false → d.answer .func payload =
      match d.functions.call name values d.station.mailbox d.station.pins with
      | .error status => (.error status, d)
      | .ok (value, mailbox, pins) =>
        (.ok (.value value), { d with station := { d.station with mailbox, pins } }))

theorem takesExec (hv : values.length ≤ Arguments.maxCount) (limit : UInt32) (d : Device σ τ) :
    d.TakesExec (Call.execPayload values limit) values limit := by
  have hread := readField_codeArguments hv (some limit)
  exact ⟨hread, fun hp hb content hc => exec_eq hp hread hc hb⟩

theorem takesScript (hv : values.length ≤ Arguments.maxCount) (limit : UInt32)
    (form : Arguments.Form) (d : Device σ τ) :
    d.TakesScript (Call.scriptPayload values limit form)
      ⟨Arguments.formFor values form, values⟩ limit := by
  have hread := readField_arguments hv form (some limit)
  exact ⟨hread, fun hp hb content hc => scriptExec_eq hp hread hc hb⟩

theorem takesFunc (hn : name ≠ []) (hl : name.length ≤ FunctionTable.maxName)
    (hv : values.length ≤ Arguments.maxCount) (form : Arguments.Form) (d : Device σ τ) :
    d.TakesFunc (Call.funcPayload name values form) name values := by
  have hread := readField_funcPayload hn hl hv form
  refine ⟨hread, fun hp => ?_⟩
  simp only [answer, call, hread]
  refine (if_neg (Bool.eq_false_iff.mp hp)).trans ?_
  rcases d.functions.call name values d.station.mailbox d.station.pins with status | result <;> rfl

/-! ## Requests with too many arguments -/

/-- A request that fits a frame is refused, for the state in the programming mode and for the
parameters otherwise, and the device is as before. -/
def Declines (d : Device σ τ) (c : Command) (payload : Bytes) : Prop :=
  payload.length < 4294967296 →
    d.answer c payload = (.error (if d.programming then .state else .parameter), d)

theorem readField_withLimit_of_error {x : Decoder α} {e : DecodeError}
    (h : (x payload).1 = .error e) : readField (withLimit x) payload = .error .parameter :=
  readField_of_error (Decoder.fst_bind_of_error h)

theorem declines_exec (hv : Arguments.maxCount < values.length) (limit : UInt32)
    (d : Device σ τ) : d.Declines .exec (Call.execPayload values limit) := by
  intro hfits
  have hlen := Arguments.length_le_length_writeAs values .binary
  rw [Call.execPayload, List.length_append] at hfits
  have hread : readField (withLimit codeArguments) (Call.execPayload values limit) =
      .error .parameter := by
    refine readField_withLimit_of_error (e := .invalidValue) ?_
    rw [codeArguments, Call.execPayload, Arguments.writeAs.eq_def, List.append_assoc,
      Decoder.bind_of_ok (Codec.u32_lossless.faithful _ _),
      Arguments.words_of_many hv (by omega)]
  simp only [answer, exec, hread]
  split <;> rfl

theorem declines_scriptExec (hv : Arguments.maxCount < values.length) (limit : UInt32)
    (form : Arguments.Form) (d : Device σ τ) :
    d.Declines .scriptExec (Call.scriptPayload values limit form) := by
  intro hfits
  have hlen := Arguments.length_le_length_writeAs values (Arguments.formFor values form)
  rw [Call.scriptPayload, Arguments.write, List.length_append] at hfits
  have hread : readField (withLimit Arguments.read) (Call.scriptPayload values limit form) =
      .error .parameter :=
    readField_withLimit_of_error (Arguments.read_of_many hv (by omega) _ _)
  simp only [answer, scriptExec, hread]
  split <;> rfl

theorem declines_func (hn : name ≠ []) (hl : name.length ≤ FunctionTable.maxName)
    (hv : Arguments.maxCount < values.length) (form : Arguments.Form) (d : Device σ τ) :
    d.Declines .func (Call.funcPayload name values form) := by
  intro hfits
  have hlen := Arguments.length_le_length_writeAs values (Arguments.formFor values form)
  rw [Call.funcPayload, Arguments.write, List.length_append] at hfits
  have hmany := Arguments.read_of_many hv (by omega) (Arguments.formFor values form) []
  rw [List.append_nil] at hmany
  have hread : readField functionCall (Call.funcPayload name values form) = .error .parameter := by
    refine readField_of_error (e := .invalidValue) ?_
    rw [Call.funcPayload, functionCall_append hn hl _ (write_ne_nil values form)]
    exact Decoder.fst_bind_of_error hmany
  simp only [answer, call, hread]
  split <;> rfl

/-! ## Requests to run -/

/-- Up to sixty-four arguments are read back from a section, in the form that was reported for
them, and what follows the section is left. So a request to run the code or the script or to
call a function is taken as what the call was made with. With more arguments it is declined. -/
theorem reads_requests (values : List Int32) (form : Arguments.Form) :
    (values.length ≤ Arguments.maxCount →
      (∀ rest, Arguments.read (Arguments.write values form ++ rest) =
        (.ok ⟨Arguments.formFor values form, values⟩, rest)) ∧
      ∀ (d : Device σ τ) (limit : UInt32) (name : Bytes),
        name ≠ [] → name.length ≤ FunctionTable.maxName →
        d.TakesExec (Call.execPayload values limit) values limit ∧
        d.TakesScript (Call.scriptPayload values limit form)
          ⟨Arguments.formFor values form, values⟩ limit ∧
        d.TakesFunc (Call.funcPayload name values form) name values) ∧
    (Arguments.maxCount < values.length →
      ∀ (d : Device σ τ) (limit : UInt32) (name : Bytes),
        name ≠ [] → name.length ≤ FunctionTable.maxName →
        d.Declines .exec (Call.execPayload values limit) ∧
        d.Declines .scriptExec (Call.scriptPayload values limit form) ∧
        d.Declines .func (Call.funcPayload name values form)) ∧
    ∀ (limit : UInt32) (name : Bytes),
      Asks (Call.exec values limit) .exec (Call.execPayload values limit) limit.toNat ∧
      Asks (Call.scriptExec values limit form) .scriptExec (Call.scriptPayload values limit form)
        limit.toNat ∧
      Asks (Call.func name values form) .func (Call.funcPayload name values form) 0 :=
  ⟨fun hv => ⟨fun rest => Arguments.read_write hv form rest, fun d limit _ hn hl =>
      ⟨takesExec hv limit d, takesScript hv limit form d, takesFunc hn hl hv form d⟩⟩,
    fun hv d limit _ hn hl =>
      ⟨declines_exec hv limit d, declines_scriptExec hv limit form d,
        declines_func hn hl hv form d⟩,
    fun limit _ => ⟨Call.asks_exec values limit, Call.asks_scriptExec values limit form,
      Call.asks_func _ values form⟩⟩

/-- The argument that equals the marker is read back, as is what looks like a marker after no
arguments. Sixty-five arguments are declined. -/
theorem reads_requests_of_marker :
    let d : Device Pins.Bank Handoff.Emulation :=
      .start {} Pins.Bank.board (·.waited) (.emulator 100) {}
    let sum := Bytes.ofText "sum"
    let rest := Codec.u32.encode Arguments.marker
    Arguments.read (Arguments.write [-1] .binary ++ rest) = (.ok ⟨.ascii, [-1]⟩, rest) ∧
      Arguments.read (Arguments.write [] .ascii ++ rest) = (.ok ⟨.binary, []⟩, rest) ∧
      d.TakesFunc (Call.funcPayload sum [-1] .binary) sum [-1] ∧
      d.Declines .exec (Call.execPayload (List.replicate 65 0) 5) := by
  intro d sum rest
  obtain ⟨few, -, -⟩ := @reads_requests Pins.Bank Handoff.Emulation [-1] .binary
  obtain ⟨none, -, -⟩ := @reads_requests Pins.Bank Handoff.Emulation [] .ascii
  obtain ⟨-, many, -⟩ := @reads_requests Pins.Bank Handoff.Emulation (List.replicate 65 0) .binary
  obtain ⟨back, takes⟩ := few (by decide)
  obtain ⟨-, -, func⟩ := takes d 5 sum (by decide) (by decide)
  obtain ⟨exec, -, -⟩ := many (by decide) d 5 sum (by decide) (by decide)
  exact ⟨back rest, (none (by decide)).1 rest, func, exec⟩

/-- In the programming mode it is not the parameters that sixty-five arguments are refused
for. -/
theorem refuses_many_while_programming :
    let d : Device Pins.Bank Handoff.Emulation :=
      (answer .ispEnter [] (.start {} Pins.Bank.board (·.waited) (.emulator 100) {})).2
    let values : List Int32 := List.replicate 65 0
    Reachable d ∧ Arguments.maxCount < values.length ∧
      Asks (Call.exec values 0) .exec (Call.execPayload values 0) 0 ∧
      (d.answer .exec (Call.execPayload values 0)).1 = .error .state ∧
      (d.answer .exec (Call.execPayload values 0)).1 ≠ .error .parameter :=
  ⟨.answer (.start _ _ _ _ _) _ _, by decide, Call.asks_exec _ _, rfl, nofun⟩

end Device

end Coprocessor
