import HilBridge.Pattern.Form
import HilBridge.Text.Alphanumeric
import HilBridge.Text.Blank
import HilBridge.Text.ByteOffset
import HilBridge.Text.Digits

/-!
# `HilBridge.CommandLine.LogFilter` — which events are shown

An event has a level, comes from a part of the program and has named fields. A filter is a list of rules with
commas between them, each written in one of the forms

    level    beginning    beginning=level    beginning[span{field}]=level

where in the last one the beginning, the span, the field in its braces and the level may be left out. A rule
says how far down it shows events of the parts whose names begin in its way and, if it names a field, that
have the field. Of the rules that apply to an event the most specific one decides.

Rules about a span, or about a field with a value, `field=value`, are about what surrounds an event. As nothing
surrounds the events of this program they show nothing; still they are rules, so a filter of such rules alone is
not empty, and the value has to be a number or a search pattern.
-/

namespace HilBridge.CommandLine

/-! ## Levels -/

/-- How much an event matters; the order is that of the constructors. -/
inductive LogLevel where
  | error
  | warn
  | info
  | debug
  | trace
  deriving Repr, DecidableEq

namespace LogLevel

/-- How far down an event of the level is; a rule shows what is no further down than it says. -/
def depth : LogLevel → Nat
  | .error => 1
  | .warn => 2
  | .info => 3
  | .debug => 4
  | .trace => 5

def name : LogLevel → String
  | .error => "ERROR"
  | .warn => "WARN"
  | .info => "INFO"
  | .debug => "DEBUG"
  | .trace => "TRACE"

end LogLevel

/-- A level, as a number or as a word in small or capital letters. None at all is depth zero. -/
def depth? (word : String) : Option Nat :=
  match Text.unsigned? 6 word.toList with
  | some depth => some depth
  | none =>
    match word.toLower with
    | "off" => some 0
    | "error" => some 1
    | "warn" => some 2
    | "info" => some 3
    | "debug" => some 4
    | "trace" => some 5
    | _ => none

/-! ## Rules -/

/-- How far down events are shown. -/
structure LogRule where
  /-- How the names of the parts begin. -/
  beginning : String
  /-- The field that an event has to have. -/
  field : Option String
  depth : Nat
  deriving Repr, DecidableEq

namespace LogRule

/-- Whether the rule applies to an event of a part of the program with some fields. -/
def appliesTo (r : LogRule) (part : String) (fields : List String) : Bool :=
  r.beginning.toList.isPrefixOf part.toList && r.field.all fields.contains

/--
Whether a rule gives way to another that applies too: to a longer beginning, else to a field, else to a
field later in the alphabet. Of two rules about the same the later one decides.
-/
def givesWayTo (r s : LogRule) : Bool :=
  if r.beginning.length = s.beginning.length then
    match r.field, s.field with
    | none, _ => true
    | some _, none => false
    | some f, some g => f ≤ g
  else r.beginning.length < s.beginning.length

end LogRule

/-! ## Reading rules -/

/-- Why a rule cannot be read. -/
inductive FilterFault where
  | unreadable
  /-- A piece of the rule would begin or end inside a character. -/
  | splitCharacter
  deriving Repr, DecidableEq

/-- Reading may fail, and may find a rule that shows nothing. -/
abbrev FilterRead := Except FilterFault

namespace LogRule

/-- Whether a rule can begin with a character. -/
def isOpening (c : Char) : Bool :=
  c == '[' || c == '-' || c == ':' || c == '_' || Text.isAlphanumeric c

/-- A piece that must not split a character. -/
def piece (text : Option (List Char)) : FilterRead String :=
  match text with
  | some text => .ok (String.ofList text)
  | none => .error .splitCharacter

/-- The level behind an equals sign. Without one everything is shown. -/
def readLevel (text : List Char) (offset : Nat) : FilterRead Nat := do
  let word ← piece (Text.sliceFrom? text offset)
  if word.isEmpty then .ok 5
  else
    match depth? word with
    | some depth => .ok depth
    | none => .error .unreadable

/-- What follows the brackets of a rule: nothing, or a level. -/
def readTail (text tail : List Char) (offset : Nat) : FilterRead Nat :=
  match tail with
  | [] => .ok 5
  | '=' :: _ => readLevel text (offset + 1)
  | _ => .error .unreadable

/-- What is asked of a field's value behind an equals sign, up to a second one. -/
def fieldValue? (field : String) : Option (List Char) :=
  ((field.toList.dropWhile (· != '=')).tail?).map (·.takeWhile (· != '='))

/-- Whether a text can be asked of a value: a number, or a pattern. -/
def isValueTest (value : List Char) : Bool :=
  Text.isNumber value || Pattern.isPattern value

/-- Whether a text can stand in the braces of a rule. -/
def isFieldTest (field : String) : Bool :=
  !field.isEmpty && (fieldValue? field).all isValueTest

/-- What is in the brackets of a rule, `inner` being all from there on at an offset. -/
def readBrackets (text : List Char) (beginning : String) (inner : List Char) (offset : Nat) :
    FilterRead (Option LogRule) := do
  let name := inner.takeWhile fun c => c != ']' && c != '\x7b'
  let ending := offset + Text.byteLength name
  let behind := inner.drop name.length
  if behind.isEmpty then .error .unreadable
  else
    let span ← piece (Text.slice? text offset ending)
    match behind with
    | '\x7b' :: body =>
      let field := body.takeWhile (· != '\x7d')
      let close := ending + 1 + Text.byteLength field
      match body.drop field.length with
      | [] => .error .unreadable
      | _ :: tail =>
        let field ← piece (Text.slice? text (ending + 1) close)
        match isFieldTest field, tail with
        | true, ']' :: tail =>
          let depth ← readTail text tail (close + 2)
          .ok (if span.isEmpty && (fieldValue? field).isNone then some ⟨beginning, some field, depth⟩
            else none)
        | _, _ => .error .unreadable
    | _ =>
      let _ ← readTail text (behind.drop 1) (ending + 1)
      .ok none

/--
The rule that a word writes. The signs between its pieces are looked for in the word without the blanks at
its ends, but the pieces are cut from the word itself at the offsets found.
-/
def read (text : List Char) : FilterRead (Option LogRule) := do
  let word := Text.trim text
  if !word.head?.any isOpening then .error .unreadable
  else
    let head := word.takeWhile fun c => c != '=' && c != '['
    let ending := Text.byteLength head
    match word.drop head.length with
    | [] =>
      let word := String.ofList text
      .ok (some (match depth? word with
        | some depth => ⟨"", none, depth⟩
        | none => ⟨word, none, 5⟩))
    | sign :: behind =>
      let beginning ← piece (Text.slice? text 0 ending)
      if sign = '=' then
        let depth ← readLevel text (ending + 1)
        .ok (some ⟨beginning, none, depth⟩)
      else readBrackets text beginning behind (ending + 1)

end LogRule

/-! ## Filters -/

abbrev LogFilter := List LogRule

namespace LogFilter

/-- Errors only. -/
def errors : LogFilter :=
  [⟨"", none, 1⟩]

/-- What is shown when nothing is said. -/
def standard : LogFilter :=
  [⟨"", none, 3⟩]

/-- The filter that a text writes, if it can be cut into pieces. An unreadable text says nothing. -/
def ofText? (text : String) : Option LogFilter :=
  let words := (text.splitOn ",").filter (!·.isEmpty)
  if words.isEmpty then some errors
  else
    match words.mapM fun word => LogRule.read word.toList with
    | .ok rules => some (rules.filterMap id)
    | .error .unreadable => some standard
    | .error .splitCharacter => none

/-- The one of two rules that decides. -/
def prefer (best : Option LogRule) (rule : LogRule) : Option LogRule :=
  match best with
  | none => some rule
  | some best => if best.givesWayTo rule then some rule else some best

/-- Whether an event of a level is shown, with the part of the program it comes from and its fields. -/
def shows (filter : LogFilter) (level : LogLevel) (part : String) (fields : List String) : Bool :=
  let rules := filter.filter (·.appliesTo part fields)
  (rules.foldl prefer none).any fun rule => level.depth ≤ rule.depth

end LogFilter

end HilBridge.CommandLine
