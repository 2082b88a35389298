import HilBridge.Actuator.Outputs

/-!
# `HilBridge.Lockstep.CommandChannel` — the newest command, seen or not

The link publishes commands, the bridge looks at the newest one. A command that is overtaken by another
before anyone looks is lost, so a slow reader never holds up the link. A channel starts with no command in
it, and an empty value may also be published; whoever waits passes over it.
-/

namespace HilBridge

variable {α : Type}

/-- The newest value and whether it has been looked at. -/
structure CommandChannel (α : Type) where
  newest : Option (Command α)
  unseen : Bool
  /-- Whether nothing more can be published. -/
  closed : Bool
  deriving Repr, DecidableEq

namespace CommandChannel

def empty : CommandChannel α :=
  ⟨none, false, false⟩

/-- Puts a value in the place of the newest, unless the channel is closed. -/
def publish (c : CommandChannel α) (value : Option (Command α)) : CommandChannel α :=
  if c.closed then c else { c with newest := value, unseen := true }

/-- Lets nothing more be published. -/
def close (c : CommandChannel α) : CommandChannel α :=
  { c with closed := true }

/-- The channel after its value was looked at. -/
def markSeen (c : CommandChannel α) : CommandChannel α :=
  { c with unseen := false }

/-- The newest command if it has not been seen, without waiting. A closed channel yields none. -/
def takeLatest (c : CommandChannel α) : Option (Command α) × CommandChannel α :=
  if c.unseen && !c.closed then (c.newest, c.markSeen) else (none, c)

@[simp]
theorem unseen_takeLatest (c : CommandChannel α) (h : c.closed = false) :
    c.takeLatest.2.unseen = false := by
  cases hu : c.unseen <;> simp [takeLatest, markSeen, h, hu]

end CommandChannel

end HilBridge
