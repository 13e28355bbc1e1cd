import Coprocessor.Numeral
import Coprocessor.Tune

/-!
# Scores

The script that plays a tune. It sets the pins to output, and then for each note
drives the buzzer high and low in a counted loop of half periods, or waits if the
note is a rest. A loop has a label of its own, and the last statement returns zero.
Half a period is a function of the pitch that the score is given.
-/

namespace Coprocessor.Tune

/-- The numeral of a number. -/
def numeral (n : Nat) : Bytes :=
  Numeral.digits 10 n

/-- A statement : words with blanks between them. -/
def statement (words : List Bytes) : Bytes :=
  List.intercalate [0x20] words

/-- A statement that sets a pin to output. -/
def outputLine (pin : UInt32) : Bytes :=
  statement [Bytes.ofText "PINMODE", numeral pin.toNat, Bytes.ofText "OUTPUT"]

/-- A statement that drives a pin high or low. -/
def levelLine (pin : UInt32) (high : Bool) : Bytes :=
  let level := Bytes.ofText (if high then "HIGH" else "LOW")
  statement [Bytes.ofText "DWRITE", numeral pin.toNat, level]

/-- A statement that waits for milliseconds. -/
def millisLine (n : Nat) : Bytes :=
  statement [Bytes.ofText "DELAY", numeral n]

/-- A statement that waits for microseconds. -/
def microsLine (n : Nat) : Bytes :=
  statement [Bytes.ofText "DELAY_US", numeral n]

/-- The lines that wait for the duration of a rest, none for what is zero. -/
def restLines (micros : Nat) : List Bytes :=
  (if micros / 1000 = 0 then [] else [millisLine (micros / 1000)]) ++
    (if micros % 1000 = 0 then [] else [microsLine (micros % 1000)])

/-- The number of periods of a note, at least one. -/
def cycles (half : Nat) (n : Note) : Nat :=
  max 1 (n.duration.toNat / (2 * half))

/-- The label of the loop of a note. -/
def loopLabel (index : Nat) : Bytes :=
  Bytes.ofText "n" ++ numeral index

/-- The line with the loop of a note. -/
def loopLine (buzzer : UInt32) (half index : Nat) : Bytes :=
  loopLabel index ++ Bytes.ofText ": " ++
    List.intercalate (Bytes.ofText "; ")
      [levelLine buzzer true, microsLine half, levelLine buzzer false, microsLine half,
        Bytes.ofText "SUB R1 1", Bytes.ofText "IF R1 > 0 GOTO " ++ loopLabel index]

/-- The lines of a note that sounds. -/
def soundLines (t : Tune) (half index : Nat) (n : Note) : List Bytes :=
  (if t.hasLamp then [levelLine t.lamp true] else []) ++
    [statement [Bytes.ofText "LET R1", numeral (cycles half n)], loopLine t.buzzer half index] ++
    (if t.hasLamp then [levelLine t.lamp false] else [])

/-- The lines of a note and the pause after it. -/
def noteLines (halfPeriod : UInt8 → Nat) (t : Tune) (index : Nat) (n : Note) : List Bytes :=
  (if n.isRest then restLines n.duration.toNat else soundLines t (halfPeriod n.pitch) index n) ++
    (if t.gap = 0 then [] else [millisLine t.gap.toNat])

/-- The lines of the score of a tune. -/
def scoreLines (halfPeriod : UInt8 → Nat) (t : Tune) : List Bytes :=
  let title := statement [Bytes.ofText "#", numeral t.notes.length, Bytes.ofText "notes"]
  [title, outputLine t.buzzer] ++
    (if t.hasLamp then [outputLine t.lamp] else []) ++
    (t.notes.mapIdx (noteLines halfPeriod t)).flatten ++ [Bytes.ofText "RET 0"]

/-- The score of a tune for given half periods. -/
def scoreWith (halfPeriod : UInt8 → Nat) (t : Tune) : Bytes :=
  (t.scoreLines halfPeriod).flatMap fun line => line ++ [0x0A]

/-- The score of a tune. -/
def score (t : Tune) : Bytes :=
  t.scoreWith Note.halfPeriod

end Coprocessor.Tune
