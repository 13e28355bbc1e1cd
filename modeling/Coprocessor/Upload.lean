import Coprocessor.Checksum
import Coprocessor.Status

/-!
# Uploads

Code and scripts are uploaded in three steps : a length is announced, pieces are
sent, and the whole is verified. What is verified is sealed : it stays as it is
until the next upload. What does not fit the announced length is dropped.

Code must have an even length, and it may come out shorter than announced. A script
must have the length announced, and the host may leave its checksum to the device.
-/

namespace Coprocessor

namespace Upload

/-- What is uploaded. -/
inductive Kind where
  /-- Code. -/
  | code
  /-- A script. -/
  | script
  deriving DecidableEq, Repr

/-- How far an upload is. -/
inductive Stage where
  /-- Nothing is announced. -/
  | empty
  /-- A length is announced, and some bytes are held, with their checksum so far. -/
  | loading (announced : Nat) (held : Bytes) (checksum : Checksum.Rolling)
  /-- The content is verified. -/
  | sealed (content : Bytes)
  deriving DecidableEq, Repr

/-- What is said to a piece : whether all of it was taken, and the number of bytes held. -/
structure Receipt where
  /-- `size` if something was dropped, or else `ok`. -/
  status : Status
  /-- The number of bytes held. -/
  total : UInt32
  deriving DecidableEq, Repr

/-- What is said to the wish to verify. -/
structure Verdict where
  /-- Whether the content is verified, or what is wrong. -/
  status : Status
  /-- The number of bytes held. -/
  length : UInt32
  /-- Their checksum. -/
  checksum : UInt32
  deriving DecidableEq, Repr

/-- The checksum by which a host leaves it to the device. -/
def trustingChecksum : UInt32 := 0xFFFFFFFF

end Upload

/-- A buffer for uploads of one kind. -/
structure Upload where
  /-- What is uploaded. -/
  kind : Upload.Kind
  /-- The greatest length. -/
  limit : Nat
  /-- How far the upload is. -/
  stage : Upload.Stage
  deriving DecidableEq, Repr

namespace Upload

/-- A buffer without content. -/
def empty (kind : Kind) (limit : Nat) : Upload :=
  ⟨kind, limit, .empty⟩

/-- The bytes held, sealed or not. -/
def held (u : Upload) : Bytes :=
  match u.stage with
  | .empty => []
  | .loading _ held _ => held
  | .sealed content => content

/-- The content, if it is verified. -/
def content? (u : Upload) : Option Bytes :=
  match u.stage with
  | .sealed content => some content
  | _ => none

/-- Whether the content is verified. -/
def isSealed (u : Upload) : Bool :=
  u.content?.isSome

/-- The buffer without its content. -/
def free (u : Upload) : Upload :=
  { u with stage := .empty }

/-- Whether a length may be announced. -/
def admits (u : Upload) (total : UInt32) : Bool :=
  (match u.kind with
    | .code => total ≠ 0 && total % 2 = 0
    | .script => total ≠ 0 && total ≠ 0xFFFFFFFF) &&
  total.toNat ≤ u.limit

/-- Announces a length. The old content is gone before memory is asked for, so it is
gone too if there is none. -/
def announce (memory : Nat → Bool) (u : Upload) (total : UInt32) : Except Status Unit × Upload :=
  if u.admits total then
    if memory total.toNat then
      (.ok (), { u with stage := .loading total.toNat [] Checksum.Rolling.empty })
    else (.error .noMemory, u.free)
  else (.error .size, u)

/-- Takes as much of a piece as fits the announced length. -/
def append (u : Upload) (piece : Bytes) : Except Status Receipt × Upload :=
  match u.stage with
  | .loading announced held checksum =>
    let taken := piece.take (announced - held.length)
    let held := held ++ taken
    (.ok ⟨if taken.length < piece.length then .size else .ok, .ofNat held.length⟩,
      { u with stage := .loading announced held (checksum.update taken) })
  | _ => (.error .state, u)

/-- What is said of bytes that are held when the host expects a checksum. -/
def judge (kind : Kind) (announced : Nat) (held : Bytes) (checksum : Checksum.Rolling)
    (expected : UInt32) : Verdict :=
  let length := UInt32.ofNat held.length
  match kind with
  | .code =>
    let actual := checksum.value
    let status : Status :=
      if held.length % 2 ≠ 0 then .size else if actual ≠ expected then .checksum else .ok
    ⟨status, length, actual⟩
  | .script =>
    let actual := Checksum.crc32 held
    let status : Status :=
      if held.length ≠ announced then .size
      else if expected = trustingChecksum || expected = actual then .ok
      else .checksum
    ⟨status, length, actual⟩

/-- Verifies the content, and seals it if nothing is wrong. -/
def verify (u : Upload) (expected : UInt32) : Except Status Verdict × Upload :=
  match u.stage with
  | .loading announced held checksum =>
    let verdict := judge u.kind announced held checksum expected
    (.ok verdict, if verdict.status = .ok then { u with stage := .sealed held } else u)
  | _ => (.error .state, u)

end Upload

end Coprocessor
