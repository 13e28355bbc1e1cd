import Coprocessor.Text.Number

/-!
# Socket addresses

An address is four octets, or eight groups of 16 bits that may belong to a scope,
and the number of a service. Groups that are zero may be left out once; the text that
is written leaves out the longest run of at least two.
-/

namespace Coprocessor.CommandLine

/-- An address of a host. -/
inductive HostAddress where
  /-- Four octets. -/
  | octets (a b c d : UInt8)
  /-- Eight groups, and the number of a scope or zero. -/
  | groups (gs : List UInt16) (scope : UInt32)
  deriving DecidableEq, Repr

/-- An address that something can listen at. -/
structure SocketAddress where
  /-- The host. -/
  host : HostAddress
  /-- The number of the service there. -/
  service : UInt16
  deriving DecidableEq, Repr

namespace SocketAddress

/-! ## Reading -/

/-- What is read from the front of a text, and the text after it. -/
abbrev Reader (α : Type) := List Char → Option (α × List Char)

/-- The value of a digit, or more than any digit has. -/
def digitValue (c : Char) : Nat :=
  if c.isDigit then c.toNat - 0x30
  else if 'a' ≤ c && c ≤ 'f' then c.toNat - 0x61 + 10
  else if 'A' ≤ c && c ≤ 'F' then c.toNat - 0x41 + 10
  else 16

/-- A number below a limit, in at most so many digits if that is given. -/
def number (base : Nat) (most : Option Nat) (zeros : Bool) (limit : Nat) : Reader Nat := fun s =>
  let digits := s.takeWhile (digitValue · < base)
  let value := digits.foldl (fun n c => n * base + digitValue c) 0
  if digits.isEmpty || most.any (· < digits.length) || limit ≤ value ||
      (!zeros && digits.head? == some '0' && 1 < digits.length) then none
  else some (value, s.drop digits.length)

/-- The text after a character. -/
def skip (c : Char) : List Char → Option (List Char)
  | [] => none
  | d :: r => if c = d then some r else none

/-- An octet : no zero stands before another digit. -/
def octet : Reader UInt8 := fun s =>
  (number 10 (some 3) false 256 s).map fun p => (.ofNat p.1, p.2)

/-- Four octets. -/
def fourOctets : Reader (UInt8 × UInt8 × UInt8 × UInt8) := fun s => do
  let (a, s) ← octet s
  let (b, s) ← octet (← skip '.' s)
  let (c, s) ← octet (← skip '.' s)
  let (d, s) ← octet (← skip '.' s)
  return ((a, b, c, d), s)

/-- The group that two octets are. -/
def pairOf (a b : UInt8) : UInt16 :=
  .ofNat (a.toNat * 256 + b.toNat)

/-- At most `room` groups, the last two of which may be four octets; whether they are is
told, and the text after the groups. -/
def groupsFrom : (room : Nat) → (first : Bool) → List Char → List UInt16 × Bool × List Char
  | 0, _, s => ([], false, s)
  | room + 1, first, s =>
    let front := if first then some s else skip ':' s
    match if room = 0 then none else front.bind fourOctets with
    | some ((a, b, c, d), r) => ([pairOf a b, pairOf c d], true, r)
    | none =>
      match front.bind (number 16 (some 4) true 65536) with
      | some (g, r) =>
        let (gs, ends, r) := groupsFrom room false r
        (.ofNat g :: gs, ends, r)
      | none => ([], false, s)

/-- Eight groups, some of which may be left out. -/
def eightGroups : Reader (List UInt16) := fun s =>
  let (front, ends, s) := groupsFrom 8 true s
  if front.length = 8 then some (front, s)
  else if ends then none
  else do
    let s ← skip ':' (← skip ':' s)
    let (back, _, s) := groupsFrom (7 - front.length) true s
    return (front ++ List.replicate (8 - front.length - back.length) 0 ++ back, s)

/-- The number of a scope, if there is one. -/
def scope (s : List Char) : UInt32 × List Char :=
  match (skip '%' s).bind (number 10 none true 0x100000000) with
  | some (n, r) => (.ofNat n, r)
  | none => (0, s)

/-- A host address as it stands before the service. -/
def hostAddress : Reader HostAddress := fun s =>
  match fourOctets s with
  | some ((a, b, c, d), r) => some (.octets a b c d, r)
  | none => do
    let (gs, s) ← eightGroups (← skip '[' s)
    let (n, s) := scope s
    return (.groups gs n, ← skip ']' s)

/-- The address that a text is. -/
def ofString? (text : String) : Option SocketAddress := do
  let (host, s) ← hostAddress text.toList
  let (service, s) ← number 10 none true 65536 (← skip ':' s)
  if s.isEmpty then some ⟨host, .ofNat service⟩ else none

/-! ## Writing -/

/-- Groups with colons between them. -/
def groupsText (gs : List UInt16) : String :=
  ":".intercalate (gs.map fun g => String.ofList (Nat.toDigits 16 g.toNat))

/-- A run of zeros. -/
structure ZeroRun where
  /-- The number of groups before it. -/
  start : Nat := 0
  /-- The number of groups in it. -/
  length : Nat := 0

/-- The longest run of zeros from the group of number `i` on, the first of several,
`present` being the run that ends there and `longest` the longest so far. -/
def longestZeroRun (i : Nat) (present longest : ZeroRun) : List UInt16 → ZeroRun
  | [] => longest
  | g :: gs =>
    if g = 0 then
      let present := if present.length = 0 then ⟨i, 1⟩ else ⟨present.start, present.length + 1⟩
      let longest := if longest.length < present.length then present else longest
      longestZeroRun (i + 1) present longest gs
    else longestZeroRun (i + 1) {} longest gs

/-- Four octets with points between them. -/
def octetsText (a b c d : UInt8) : String :=
  s!"{a.toNat}.{b.toNat}.{c.toNat}.{d.toNat}"

/-- Eight groups, the longest run of zeros left out. -/
def eightGroupsText (gs : List UInt16) : String :=
  match gs with
  | [0, 0, 0, 0, 0, 0xFFFF, g, h] =>
    "::ffff:" ++ octetsText (g >>> 8).toUInt8 g.toUInt8 (h >>> 8).toUInt8 h.toUInt8
  | _ =>
    let run := longestZeroRun 0 {} {} gs
    if 1 < run.length then
      groupsText (gs.take run.start) ++ "::" ++ groupsText (gs.drop (run.start + run.length))
    else groupsText gs

/-- An address as a text. -/
def text (a : SocketAddress) : String :=
  match a.host with
  | .octets x y z w => s!"{octetsText x y z w}:{a.service}"
  | .groups gs scope =>
    let within := if scope = 0 then "" else s!"%{scope}"
    s!"[{eightGroupsText gs}{within}]:{a.service}"

/-- Whether an address means the host itself. -/
def isLoopback (a : SocketAddress) : Bool :=
  match a.host with
  | .octets x _ _ _ => x = 127
  | .groups gs _ => gs = [0, 0, 0, 0, 0, 0, 0, 1]

/-- Whether an address means a group of hosts. -/
def isMulticast (a : SocketAddress) : Bool :=
  match a.host with
  | .octets x _ _ _ => 224 ≤ x && x < 240
  | .groups gs _ => gs.head?.any (0xFF00 ≤ ·)

end SocketAddress

end Coprocessor.CommandLine
