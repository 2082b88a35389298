import HilBridge.Text.Digits
import HilBridge.Text.Hex

/-!
# `HilBridge.Connection.Endpoint` — internet addresses with a port

Addresses of both versions are read in their numeric notations and written in the usual short form: of an
address of version six, the longest run of two or more zero groups is left out, the first of several as
long, and an address that stands for one of version four ends in its dotted form. A percent sign stands
between an address of version six and its zone.
-/

namespace HilBridge

/-- A numeric internet address. -/
inductive IpAddress where
  /-- Four numbers below 256. -/
  | v4 (octets : List Nat)
  /-- Eight numbers below 65536, and the number of the network that the address belongs to or zero. -/
  | v6 (groups : List Nat) (zone : Nat)
  deriving Repr, DecidableEq

/-- An address and a port. -/
structure Endpoint where
  address : IpAddress
  port : UInt16
  deriving Repr, DecidableEq

namespace IpAddress

/-! ## Writing -/

/-- Numbers in decimal with points between them. -/
def dotted (octets : List Nat) : String :=
  ".".intercalate (octets.map toString)

/-- A group in lower-case hexadecimal. -/
def groupText (group : Nat) : String :=
  String.ofList (Nat.toDigits 16 group)

/-- Groups with colons between them. -/
def groupTexts (groups : List Nat) : String :=
  ":".intercalate (groups.map groupText)

/-- Start and length of the longest run of zeros, the first of several as long. -/
def longestZeroRun (groups : List Nat) : Nat × Nat :=
  let runAt (start : Nat) : Nat := ((groups.drop start).takeWhile (· == 0)).length
  (List.range groups.length).foldl
    (fun best start => if best.2 < runAt start then (start, runAt start) else best) (0, 0)

/-- Eight groups in short form. -/
def shortForm (groups : List Nat) : String :=
  match groups with
  | [0, 0, 0, 0, 0, 0xffff, hi, lo] => "::ffff:" ++ dotted [hi / 256, hi % 256, lo / 256, lo % 256]
  | _ =>
    let (start, length) := longestZeroRun groups
    if length < 2 then groupTexts groups
    else groupTexts (groups.take start) ++ "::" ++ groupTexts (groups.drop (start + length))

/-- The text of an address. -/
def toText : IpAddress → String
  | .v4 octets => dotted octets
  | .v6 groups zone => shortForm groups ++ if zone = 0 then "" else s!"%{zone}"

/-! ## Reading -/

/-- The parts of a text between separators. -/
def parts (separator : Char) : List Char → List (List Char)
  | [] => [[]]
  | c :: rest =>
    if c = separator then [] :: parts separator rest
    else
      match parts separator rest with
      | [] => [[c]]
      | part :: more => (c :: part) :: more

/-- A decimal number below 256 without leading zeros. -/
def octet? (text : List Char) : Option Nat :=
  if text.head? == some '0' && text.length ≠ 1 then none
  else Text.decimalBelow? 256 text

/-- Four octets with points between them. -/
def octets? (text : List Char) : Option (List Nat) :=
  match (parts '.' text).mapM octet? with
  | some [a, b, c, d] => some [a, b, c, d]
  | _ => none

/-- A hexadecimal number of at most four digits. -/
def group? (text : List Char) : Option Nat :=
  if text.isEmpty || 4 < text.length then none
  else (text.mapM Text.hexDigit?).map (·.foldl (fun n d => 16 * n + d) 0)

/-- Groups with colons between them; the last two may be written as four octets. -/
def groups? (text : List Char) : Option (List Nat) :=
  if text.isEmpty then some []
  else
    let fields := parts ':' text
    match octets? (fields.getLast?.getD []) with
    | some [a, b, c, d] =>
      (fields.dropLast.mapM group?).map (· ++ [256 * a + b, 256 * c + d])
    | _ => fields.mapM group?

/-- What stands before and after the first double colon, if there is one. -/
def splitGap : List Char → List Char × Option (List Char)
  | [] => ([], none)
  | ':' :: ':' :: rest => ([], some rest)
  | c :: rest =>
    let (front, back) := splitGap rest
    (c :: front, back)

/-- Eight groups, some zero ones of which a double colon may stand for. -/
def allGroups? (text : List Char) : Option (List Nat) := do
  match splitGap text with
  | (front, none) =>
    let groups ← groups? front
    if groups.length = 8 then some groups else none
  | (front, some back) =>
    let front ← if (octets? ((parts ':' front).getLast?.getD [])).isSome then none else groups? front
    let back ← groups? back
    if front.length + back.length < 8 then
      some (front ++ List.replicate (8 - front.length - back.length) 0 ++ back)
    else none

/-- What stands before a percent sign, and what behind the first one. -/
def splitZone (text : List Char) : List Char × Option (List Char) :=
  (text.takeWhile (· != '%'), (text.dropWhile (· != '%')).tail?)

/-- The number of a zone. -/
def zone? (text : List Char) : Option Nat :=
  Text.decimalBelow? (Nat.pow 2 32) text

def isV4 : IpAddress → Bool
  | .v4 _ => true
  | .v6 .. => false

end IpAddress

namespace Endpoint

/-- The text of an endpoint; an address of version six stands in brackets. -/
def toText (e : Endpoint) : String :=
  match e.address with
  | .v4 _ => e.address.toText ++ ":" ++ toString e.port.toNat
  | .v6 .. => "[" ++ e.address.toText ++ "]:" ++ toString e.port.toNat

/-- A decimal number below 65536. -/
def port? (text : List Char) : Option UInt16 :=
  (Text.decimalBelow? 65536 text).map UInt16.ofNat

/-- The address of version six that a text writes, maybe with a zone. -/
def v6? (text : List Char) : Option IpAddress := do
  let (address, zone) := IpAddress.splitZone text
  let groups ← IpAddress.allGroups? address
  let zone ← zone.elim (some 0) IpAddress.zone?
  some (.v6 groups zone)

/-- The endpoint that a text writes. -/
def ofText? (text : String) : Option Endpoint := do
  let chars := text.toList
  let portText := (chars.reverse.takeWhile (· != ':')).reverse
  let host := chars.take (chars.length - portText.length - 1)
  let port ← port? portText
  match host with
  | '[' :: inner =>
    if inner.getLast? = some ']' then (v6? inner.dropLast).map (⟨·, port⟩) else none
  | _ => (IpAddress.octets? host).map fun octets => ⟨.v4 octets, port⟩

/-- Whether no single host can be meant: everyone on the local network. -/
def isBroadcast (e : Endpoint) : Bool :=
  e.address == .v4 [255, 255, 255, 255]

end Endpoint

end HilBridge
