import HilBridge.Json.Number

/-!
# `HilBridge.Json.Basic` — JSON values

The tree of a JSON text. Nothing is decided here about what a value means: numbers keep their literal,
objects keep all their members in order, repeated names included. A text with an unpaired surrogate escape
is well-formed JSON but no sequence of characters; it is kept as `none`.
-/

namespace HilBridge

/-- A JSON value. -/
inductive Json where
  | null
  | bool (b : Bool)
  | number (n : Json.Number)
  | string (text : Option String)
  | array (elements : List Json)
  | object (members : List (Option String × Json))
  deriving Repr, Inhabited

namespace Json

/-- The text of a string. -/
def text? : Json → Option String
  | .string text => text
  | _ => none

def bool? : Json → Option Bool
  | .bool b => some b
  | _ => none

/-- A natural number below `bound`. -/
def natBelow? (bound : Nat) : Json → Option Nat
  | .number n => n.toNat?.filter (decide <| · < bound)
  | _ => none

def float? : Json → Option Float
  | .number n => n.toFloat?
  | _ => none

def binary32? : Json → Option Binary32
  | .number n => n.toBinary32?
  | _ => none

/-- `null`, or a value that `read` takes. -/
def nullable? {β : Type} (read : Json → Option β) : Json → Option (Option β)
  | .null => some none
  | j => (read j).map some

/-- An array all of whose elements `read` takes. -/
def list? {β : Type} (read : Json → Option β) : Json → Option (List β)
  | .array elements => elements.mapM read
  | _ => none

/-- The name of a variant: a string, or an object that gives `null` to the name. -/
def variant? : Json → Option String
  | .string text => text
  | .object [(name, .null)] => name
  | _ => none

/-- The value of the first member of that name. -/
def member? (name : String) : Json → Option Json
  | .object members => (members.find? (·.1 == some name)).map (·.2)
  | _ => none

end Json

end HilBridge
