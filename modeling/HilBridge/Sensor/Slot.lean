import HilBridge.Sensor.Sample

/-!
# `HilBridge.Sensor.Slot` — the newest value and whether it is still to be sent

A `Slot` keeps one value. A new value replaces an old one whether that was taken or not, so nothing queues
up. A `Feed` is a slot of samples that also remembers the time of the last one taken and refuses older ones.
The `ImuStore` numbers its samples, with a counter of eight bits that runs over.
-/

namespace HilBridge

variable {β : Type}

/-! ## Slots -/

/-- The newest value, if there was any, and whether it has not been taken yet. -/
structure Slot (β : Type) where
  latest : Option β
  updated : Bool
  deriving Repr, DecidableEq

namespace Slot

def empty : Slot β :=
  ⟨none, false⟩

/-- Puts a value in, in place of the one before. -/
def store (_ : Slot β) (x : β) : Slot β :=
  ⟨some x, true⟩

/-- The value not taken so far. -/
def pending? (s : Slot β) : Option β :=
  if s.updated then s.latest else none

/-- The value not taken so far, which then counts as taken. -/
def take (s : Slot β) : Option β × Slot β :=
  (s.pending?, { s with updated := false })

@[simp]
theorem pending?_take (s : Slot β) : s.take.2.pending? = none :=
  rfl

end Slot

/-! ## Feeds -/

/-- A slot of samples with the time of the last one that was sent. -/
structure Feed (β : Type) where
  slot : Slot (Stamped β)
  lastSent : Option Nat
  deriving Repr, DecidableEq

namespace Feed

def empty : Feed β :=
  ⟨.empty, none⟩

/-- Whether a sample of that time is older than the last one sent. -/
def isStale (f : Feed β) (time : Nat) : Bool :=
  f.lastSent.any (time < ·)

/-- The feed with a sample delivered to it, unless the sample is stale. -/
def offer? (f : Feed β) (sample : Stamped β) : Option (Feed β) :=
  if f.isStale sample.time then none else some { f with slot := f.slot.store sample }

/-- Whether `interval` has passed at `now` since the last sample sent. -/
def isElapsed (f : Feed β) (now interval : Nat) : Bool :=
  f.lastSent.all fun last => interval ≤ now - last

/-- The pending sample, which then counts as sent. -/
def send (f : Feed β) : Option (Stamped β) × Feed β :=
  match f.slot.take with
  | (some sample, slot) => (some sample, ⟨slot, some sample.time⟩)
  | (none, slot) => (none, { f with slot })

/-- The pending sample, if the last one was sent at least `interval` ago. -/
def sendDue (f : Feed β) (now interval : Nat) : Option (Stamped β) × Feed β :=
  if f.isElapsed now interval then f.send else (none, f)

end Feed

/-! ## The inertial measurement unit -/

variable {α : Type}

/-- A sample with its number. -/
structure Numbered (β : Type) where
  seq : UInt8
  value : β
  deriving Repr, DecidableEq

/-- The newest sample of the inertial measurement unit and the number of the next one. -/
structure ImuStore (α : Type) where
  slot : Slot (Numbered (Stamped (ImuReading α)))
  nextSeq : UInt8
  deriving Repr, DecidableEq

namespace ImuStore

def empty : ImuStore α :=
  ⟨.empty, 0⟩

/-- Stores a sample under the next number, which is the first result. -/
def store (s : ImuStore α) (sample : Stamped (ImuReading α)) : UInt8 × ImuStore α :=
  (s.nextSeq, ⟨s.slot.store ⟨s.nextSeq, sample⟩, s.nextSeq + 1⟩)

/-- The sample not taken so far. -/
def take (s : ImuStore α) : Option (Numbered (Stamped (ImuReading α))) × ImuStore α :=
  let (sample, slot) := s.slot.take
  (sample, { s with slot })

/-- The newest sample, taken or not. -/
def peek (s : ImuStore α) : Option (Numbered (Stamped (ImuReading α))) :=
  s.slot.latest

/-- Whether the newest sample has not been taken yet. -/
def isUpdated (s : ImuStore α) : Bool :=
  s.slot.updated

end ImuStore

end HilBridge
