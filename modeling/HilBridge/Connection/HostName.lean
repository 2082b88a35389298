import HilBridge.Connection.Endpoint

/-!
# `HilBridge.Connection.HostName` — host names that are addresses

An address may be given in place of a host name. One of version four may then have fewer than four numbers,
the last of which fills the octets that are left, and each number may be octal behind a zero or hexadecimal
behind `0x`. The zone of an address of version six may be a number, or the name of an interface where the
address is only good on one network.
-/

namespace HilBridge.HostName

/-! ## Version four -/

/-- The number that some digits write to a base, if all are below the base. -/
def inBase? (base : Nat) (digits : List Char) : Option Nat := do
  let values ← digits.mapM Text.hexDigit?
  if values.all (· < base) then some (values.foldl (fun n d => base * n + d) 0) else none

/-- A number: hexadecimal behind `0x`, octal behind a zero, otherwise decimal. -/
def number? : List Char → Option Nat
  | '0' :: 'x' :: digits => if digits.isEmpty then none else inBase? 16 digits
  | '0' :: 'X' :: digits => if digits.isEmpty then none else inBase? 16 digits
  | '0' :: digits => inBase? 8 digits
  | digits => Text.decimal? digits

/-- The lowest `count` octets of a number, the highest first. -/
def octetsOf (count n : Nat) : List Nat :=
  (List.range count).reverse.map fun i => n / Nat.pow 256 i % 256

/-- Four octets, the last of them maybe written as one number. -/
def octets? (text : List Char) : Option (List Nat) := do
  let numbers ← (IpAddress.parts '.' text).mapM number?
  let leading := numbers.dropLast
  let last ← numbers.getLast?
  let left := 4 - leading.length
  if leading.length < 4 && leading.all (· < 256) && last < Nat.pow 256 left then
    some (leading ++ octetsOf left last)
  else none

/-! ## Version six -/

/-- Whether an address of version six is good on one network only. -/
def isLocal (groups : List Nat) : Bool :=
  match groups.head? with
  | some first => first / 64 = 0xfe80 / 64 || (first / 256 = 0xff && (first % 16 = 1 || first % 16 = 2))
  | none => false

/-- The number of an interface. Every host has one that leads back to itself, the first. -/
def interface? (name : List Char) : Option Nat :=
  if name = ['l', 'o'] then some 1 else none

/-- The zone of an address. -/
def zone? (groups : List Nat) (text : List Char) : Option Nat :=
  if isLocal groups then (interface? text).or (IpAddress.zone? text) else IpAddress.zone? text

/-- An address of version six, maybe with a zone. -/
def v6? (text : List Char) : Option IpAddress := do
  let (address, zoneText) := IpAddress.splitZone text
  let groups ← IpAddress.allGroups? address
  let zone ← zoneText.elim (some 0) (zone? groups)
  some (.v6 groups zone)

/-- What every host is to itself. -/
def thisHost : IpAddress :=
  .v4 [127, 0, 0, 1]

/-- The address that a host name stands for by itself. -/
def address? (host : String) : Option IpAddress :=
  if host.toLower == "localhost" then some thisHost
  else
    match octets? host.toList with
    | some octets => some (.v4 octets)
    | none => v6? host.toList

end HilBridge.HostName
