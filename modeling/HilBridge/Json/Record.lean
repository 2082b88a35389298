import HilBridge.Json.Basic

/-!
# `HilBridge.Json.Record` — records with named fields

A record of known fields is written as an object, where the order is free, unknown names are skipped and a
known name may stand only once, or as an array of the fields in their order, with fields at the end left
out. `Json.record?` brings both to the list of the settings that are given, and `Record.get?` looks one up.
A reader of a record then says for each field how its value is read and what holds when it is missing.
-/

namespace HilBridge.Json

/-- The settings given in a record, by name. -/
abbrev Record := List (String × Json)

/-- The members of known names, if every member has a text for a name and no known name occurs twice. -/
def knownMembers? (names : List String) : List (Option String × Json) → Option Record
  | [] => some []
  | (none, _) :: _ => none
  | (some name, value) :: rest => do
    let given ← knownMembers? names rest
    if names.contains name then
      if given.any (·.1 == name) then none else some ((name, value) :: given)
    else some given

/-- The settings given in a record of the named fields. -/
def record? (names : List String) : Json → Option Record
  | .object members => knownMembers? names members
  | .array elements => if elements.length ≤ names.length then some (names.zip elements) else none
  | _ => none

namespace Record

/-- The value given for a field. -/
def get? (r : Record) (name : String) : Option Json :=
  (r.find? (·.1 == name)).map (·.2)

/-- A field that must be given. -/
def required {β : Type} (r : Record) (name : String) (read : Json → Option β) : Option β :=
  (r.get? name).bind read

/-- A field that holds `missing` when it is not given. -/
def optional {β : Type} (r : Record) (name : String) (read : Json → Option β) (missing : β) :
    Option β :=
  match r.get? name with
  | some value => read value
  | none => some missing

end Record

end HilBridge.Json
