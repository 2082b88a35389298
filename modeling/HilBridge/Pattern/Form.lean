import HilBridge.Pattern.Sign
import HilBridge.Text.Alphanumeric
import HilBridge.Text.Blank

/-!
# `HilBridge.Pattern.Form` — whether a text is a search pattern

A pattern is a sequence of items with bars between alternatives. An item is a character, a point for any
character, a place in the text, a set of characters in brackets or a group in parentheses, and may be repeated
by `?`, `*` or `+` behind it. A group may have a name, `(?<name>…)`, or switch how its inside is read,
`(?i-x:…)`; a switch alone, `(?i)`, holds to the end of the group around it.

No tables of letters and of their cases come with a pattern. So what would need them is not a pattern: families
and edges of words over all scripts, and characters whose case does not count. With all scripts switched off a
pattern must still fit whole characters only. Repetition by numbers in braces is not known.

`Reader` takes in the signs of a pattern one by one.
-/

namespace HilBridge.Pattern

/-! ## Ways of reading -/

/-- How a part of a pattern is read. -/
structure Mode where
  /-- Whether the case of letters does not count. -/
  anyCase : Bool
  /-- Whether characters are those of all scripts, and not bytes. -/
  allScripts : Bool
  /-- Whether blanks, and all from a number sign to the end of its line, are passed over. -/
  spaced : Bool
  deriving Repr, DecidableEq

namespace Mode

/-- How a pattern is read from its beginning. -/
def standard : Mode :=
  ⟨false, true, false⟩

/-- The letters that switch something, also what no reading depends on. -/
def letters : List Char :=
  ['i', 'm', 's', 'U', 'u', 'R', 'x']

/-- Switches what a letter stands for. -/
def switch (m : Mode) (letter : Char) (on : Bool) : Mode :=
  match letter with
  | 'i' => { m with anyCase := on }
  | 'u' => { m with allScripts := on }
  | 'x' => { m with spaced := on }
  | _ => m

/-- Switches on what stands in front of a dash, and off what stands behind it. -/
def switchAll (m : Mode) (given : List Char) : Mode :=
  let on := given.takeWhile (· != '-')
  let off := given.dropWhile (· != '-')
  off.foldl (fun m letter => m.switch letter false) (on.foldl (fun m letter => m.switch letter true) m)

/-- Whether a character can be an item. -/
def takesItem (m : Mode) (c : Char) (isByte : Bool) : Bool :=
  if m.allScripts then !m.anyCase else c.toNat < 0x80 || !isByte

/-- Whether a character can be a member of a set. -/
def takesMember (m : Mode) (c : Char) : Bool :=
  if m.allScripts then !m.anyCase else c.toNat < 0x80

/-- Whether a family can be an item or a member. -/
def takesFamily (m : Mode) (isNegated : Bool) : Bool :=
  !m.allScripts && !isNegated

/-- Whether a sign is passed over. -/
def passesOver (m : Mode) (s : Sign) : Bool :=
  match s with
  | .plain c => m.spaced && Text.isBlank c
  | _ => false

end Mode

/-! ## Places -/

/-- What stands in front of a place in a sequence. -/
inductive Before where
  /-- Nothing that could be repeated. -/
  | nothing
  /-- The parenthesis that opens a group. -/
  | parenthesis
  | item
  deriving Repr, DecidableEq

/-- A place in a set. -/
inductive SetPlace where
  /-- Behind the bracket. -/
  | opening
  /-- Behind the caret, or behind dashes at the beginning. -/
  | leading (isDashed : Bool)
  /-- Where anything may stand. -/
  | between
  /-- Behind a member, which may begin a range if it is a character. -/
  | member (first : Option Char)
  /-- Behind the dash of a range. -/
  | range (first : Option Char)
  /-- Between the two signs of an operation on sets. -/
  | doubled
  deriving Repr, DecidableEq

/-- A place in a pattern. -/
inductive Place where
  | sequence (before : Before)
  /-- Among the letters of a switch, those given so far in order. -/
  | switches (given : List Char)
  /-- In front of the angle that opens a name. -/
  | angle
  /-- In a name, of which these characters have been read. -/
  | name (letters : List Char)
  /-- In a set, inside so many brackets. -/
  | set (depth : Nat) (place : SetPlace)
  deriving Repr, DecidableEq

/-- A pattern that has been read up to a place. -/
structure Reader where
  mode : Mode
  /-- The modes to return to at the ends of the groups that are open. -/
  outer : List Mode
  /-- The names of groups. -/
  names : List (List Char)
  inComment : Bool
  place : Place
  deriving Repr, DecidableEq

namespace Reader

/-- Nothing has been read. -/
def start : Reader :=
  ⟨.standard, [], [], false, .sequence .nothing⟩

/-- Whether a pattern may end here. -/
def isComplete (r : Reader) : Bool :=
  match r.place with
  | .sequence _ => r.outer.isEmpty
  | _ => false

/-- The reader at another place. -/
def at? (r : Reader) (place : Place) : Option Reader :=
  some { r with place }

/-! ## Sequences -/

/-- Reads an item, if it can be one. -/
def readItem (r : Reader) (isFit : Bool) : Option Reader :=
  if isFit then r.at? (.sequence .item) else none

/-- Reads a sign of a sequence. -/
def readSequence (r : Reader) (before : Before) (s : Sign) : Option Reader :=
  match s with
  | .plain '(' => some { r with outer := r.mode :: r.outer, place := .sequence .parenthesis }
  | .plain ')' =>
    match r.outer with
    | [] => none
    | mode :: outer => some { r with mode, outer, place := .sequence .item }
  | .plain '|' => r.at? (.sequence .nothing)
  | .plain '[' => r.at? (.set 1 .opening)
  | .plain '?' =>
    match before with
    | .nothing => none
    | .parenthesis => r.at? (.switches [])
    | .item => r.at? (.sequence .item)
  | .plain '*' | .plain '+' => r.readItem (before == .item)
  | .plain '\x7b' => none
  | .plain '.' => r.readItem r.mode.allScripts
  | .plain '^' | .plain '$' | .textEdge => r.readItem true
  | .wordEdge => r.readItem !r.mode.allScripts
  | .family isNegated => r.readItem (r.mode.takesFamily isNegated)
  | .plain c => r.readItem (r.mode.takesItem c false)
  | .escaped c isByte => r.readItem (r.mode.takesItem c isByte)
  | .unreadable => none

/-! ## The beginning of a group -/

/-- Reads a character among the letters of a switch. -/
def readSwitch (r : Reader) (given : List Char) (c : Char) : Option Reader :=
  let isDangling := given.getLast? == some '-'
  match c with
  | ')' =>
    match r.outer with
    | mode :: outer =>
      if given.isEmpty || isDangling then none
      else some { r with mode := mode.switchAll given, outer, place := .sequence .nothing }
    | [] => none
  | ':' =>
    if isDangling then none
    else some { r with mode := r.mode.switchAll given, place := .sequence .nothing }
  | '<' => if given.isEmpty then r.at? (.name []) else none
  | 'P' => if given.isEmpty then r.at? .angle else none
  | c =>
    if (c == '-' || Mode.letters.contains c) && !given.contains c then r.at? (.switches (given ++ [c]))
    else none

/-- Whether a character can be in a name. -/
def isNameCharacter (isFirst : Bool) (c : Char) : Bool :=
  c == '_'
    || (if isFirst then Text.isLetter c else Text.isAlphanumeric c || c == '.' || c == '[' || c == ']')

/-- Reads a character of a name. No two groups have the same one. -/
def readName (r : Reader) (letters : List Char) (c : Char) : Option Reader :=
  if c = '>' then
    if letters.isEmpty || r.names.contains letters then none
    else some { r with names := letters :: r.names, place := .sequence .nothing }
  else if isNameCharacter letters.isEmpty c then r.at? (.name (letters ++ [c]))
  else none

/-! ## Sets -/

/-- Families that a set may name in brackets and colons. -/
def familyNames : List String :=
  ["alnum", "alpha", "ascii", "blank", "cntrl", "digit", "graph", "lower", "print", "punct", "space", "upper",
    "word", "xdigit"]

/--
Whether signs behind a bracket name all characters outside a family. Other names read like a set of the
characters they are written with.
-/
def namesNegatedFamily : List Sign → Bool
  | .plain ':' :: .plain '^' :: rest =>
    let name := rest.takeWhile (· != .plain ':')
    let letters := name.filterMap fun | .plain c => some c | _ => none
    letters.length = name.length && familyNames.contains (String.ofList letters)
      && (rest.drop (name.length + 1)).head? == some (.plain ']')
  | _ => false

/-- The character that a sign is in a set. -/
def member? : Sign → Option Char
  | .plain c => some c
  | .escaped c _ => some c
  | _ => none

/-- Reads a member of a set or what else may stand between members. -/
def readBetween (r : Reader) (depth : Nat) (s : Sign) (ahead : List Sign) : Option Reader :=
  let member (c : Char) := if r.mode.takesMember c then r.at? (.set depth (.member (some c))) else none
  match s with
  | .plain ']' => r.at? (if depth ≤ 1 then .sequence .item else .set (depth - 1) .between)
  | .plain '[' =>
    if !r.mode.allScripts && namesNegatedFamily ahead then none else r.at? (.set (depth + 1) .opening)
  | .plain c =>
    if (c == '&' || c == '-' || c == '~') && ahead.head? == some (.plain c) then r.at? (.set depth .doubled)
    else member c
  | .escaped c _ => member c
  | .family isNegated =>
    if r.mode.takesFamily isNegated then r.at? (.set depth (.member none)) else none
  | .textEdge | .wordEdge | .unreadable => none

/-- Reads the end of a range. -/
def readRange (r : Reader) (depth : Nat) (first : Option Char) (s : Sign) : Option Reader :=
  match first, member? s with
  | some first, some last =>
    if first ≤ last && r.mode.takesMember last then r.at? (.set depth .between) else none
  | _, _ => none

/--
Reads a sign of a set. A dash behind a member makes a range of it, unless the set or an operation on sets
follows. Dashes at the beginning are members, and so is a bracket that would leave the set empty.
-/
def readSet (r : Reader) (depth : Nat) (place : SetPlace) (s : Sign) (ahead : List Sign) :
    Option Reader :=
  let next := ahead.find? (!r.mode.passesOver ·)
  let leads (place : SetPlace) (c : Char) := if r.mode.takesMember c then r.at? (.set depth place) else none
  match place, s with
  | .doubled, _ => r.at? (.set depth .between)
  | .range first, s => r.readRange depth first s
  | .opening, .plain '^' => if r.mode.allScripts then r.at? (.set depth (.leading false)) else none
  | .opening, .plain '-' => leads (.leading true) '-'
  | .leading _, .plain '-' => leads (.leading true) '-'
  | .opening, .plain ']' => leads .between ']'
  | .leading false, .plain ']' => leads .between ']'
  | .member first, .plain '-' =>
    if next == some (.plain ']') || next == some (.plain '-') then r.readBetween depth s ahead
    else r.at? (.set depth (.range first))
  | _, s => r.readBetween depth s ahead

/-! ## Patterns -/

/-- Reads a sign, with others ahead. -/
def read? (r : Reader) (s : Sign) (ahead : List Sign) : Option Reader :=
  if r.inComment then some { r with inComment := s != .plain '\n' }
  else
    match r.place, s with
    | .switches given, .plain c => r.readSwitch given c
    | .angle, .plain '<' => r.at? (.name [])
    | .name letters, .plain c => r.readName letters c
    | .sequence before, s =>
      if r.mode.passesOver s then some r
      else if r.mode.spaced && s == .plain '#' then some { r with inComment := true }
      else r.readSequence before s
    | .set depth place, s =>
      if r.mode.passesOver s then some r
      else if r.mode.spaced && s == .plain '#' then some { r with inComment := true }
      else r.readSet depth place s ahead
    | _, _ => none

/-- Whether a reader can take in all signs to the end of a pattern. -/
def accepts (r : Reader) : List Sign → Bool
  | [] => r.isComplete
  | s :: ahead =>
    match r.read? s ahead with
    | some r => r.accepts ahead
    | none => false

end Reader

/-- Whether a text is a pattern. -/
def isPattern (text : List Char) : Bool :=
  Reader.start.accepts (signs text)

end HilBridge.Pattern
