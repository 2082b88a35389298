import HilBridge.Scalar

/-!
# `HilBridge.Sensor.Discovery` — range sensors found by the names of their links

A vehicle's links are named in scopes separated by `::`. A link belongs to a range sensor when its name ends
as the sensor's naming pattern says and one of the scopes in front begins with one of the pattern's words.
Among several patterns the first that matches decides.
-/

namespace HilBridge

/-- The kinds of range sensor. -/
inductive RangeKind where
  | lidar
  | sonar
  deriving Repr, DecidableEq

namespace RangeKind

/-- Least and greatest distance that a sensor of the kind reports, in metres. -/
def limits {α : Type} [Scalar α] : RangeKind → α × α
  | .lidar => (0.06, 35.0)
  | .sonar => (0.2, 7.65)

/-- The kind in words. -/
def name : RangeKind → String
  | .lidar => "lidar"
  | .sonar => "sonar"

def ofName? (name : String) : Option RangeKind :=
  [lidar, sonar].find? (·.name == name)

end RangeKind

/-- How links of one kind of sensor are named. -/
structure NamingPattern where
  kind : RangeKind
  /-- Beginnings of a scope. -/
  words : List String
  ending : String
  deriving Repr, DecidableEq

namespace NamingPattern

/-- The usual names of laser and ultrasonic range finders. -/
def standard : List NamingPattern :=
  [⟨.lidar, ["lidar", "sf10a"], "::link"⟩, ⟨.sonar, ["sonar", "mb1240-xl-ez4"], "::link"⟩]

/-- What stands in front of an ending. -/
def withoutEnding? (ending name : List Char) : Option (List Char) :=
  if ending.isSuffixOf name then some (name.take (name.length - ending.length)) else none

/-- The parts between the separators `::`, read from the left. -/
def scopes : List Char → List (List Char)
  | [] => [[]]
  | ':' :: ':' :: rest => [] :: scopes rest
  | c :: rest =>
    match scopes rest with
    | [] => [[c]]
    | scope :: more => (c :: scope) :: more

/-- Whether a link of that name belongs to a sensor named by the pattern. -/
def isMatch (p : NamingPattern) (link : String) : Bool :=
  match withoutEnding? p.ending.toList link.toList with
  | none => false
  | some front =>
    (scopes front).any fun scope => p.words.any fun word => word.toList.isPrefixOf scope

end NamingPattern

/-- A link that carries a range sensor. -/
structure RangeLink where
  name : String
  kind : RangeKind
  deriving Repr, DecidableEq

/-- The kind of sensor on a link, by the first pattern that matches. -/
def rangeKind? (patterns : List NamingPattern) (link : String) : Option RangeKind :=
  (patterns.find? (·.isMatch link)).map (·.kind)

/-- The range sensors among the links, in the order of the links. -/
def discoverRangeLinks (patterns : List NamingPattern) (links : List String) : List RangeLink :=
  links.filterMap fun name => (rangeKind? patterns name).map fun kind => ⟨name, kind⟩

end HilBridge
