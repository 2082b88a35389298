import HilBridge.Lockstep.Wait

/-!
# `HilBridge.Proofs.Lockstep.Sighting` — which commands a wait gets to see

The channel keeps the newest value only, so what a waiting tick sees of a schedule of bursts is one value for
each look: the one that was unread when the wait began, and then, of every burst before the deadline, the
value published last. `sightings` lists the commands among them.

All that the wait has to do with channel and schedule goes through this list: `sightings_cons` and
`sightings_cut` are the two ways in which it goes on or ends with the next burst.
-/

namespace HilBridge

variable {α : Type}

/-! ## What is left unread -/

namespace CommandChannel

/-- The command in the channel, if nobody has looked at it. -/
def unread (c : CommandChannel α) : Option (Command α) :=
  if c.unseen then c.newest else none

/-- What a look that does not wait has to find: what is unread, unless the channel is closed. -/
def readable (c : CommandChannel α) : Option (Command α) :=
  if c.closed then none else c.unread

theorem readable_of_open {c : CommandChannel α} (h : c.closed = false) : c.readable = c.unread := by
  rw [readable, h, if_neg Bool.false_ne_true]

@[simp]
theorem unread_markSeen (c : CommandChannel α) : c.markSeen.unread = none :=
  rfl

@[simp]
theorem closed_markSeen (c : CommandChannel α) : c.markSeen.closed = c.closed :=
  rfl

@[simp]
theorem closed_publish (c : CommandChannel α) (value : Option (Command α)) :
    (c.publish value).closed = c.closed := by
  unfold publish
  split <;> rfl

/-- A value published on an open channel is the unread one. -/
@[simp]
theorem unread_publish {c : CommandChannel α} (h : c.closed = false) (value : Option (Command α)) :
    (c.publish value).unread = value := by
  simp [publish, unread, h]

@[simp]
theorem closed_foldl_publish (c : CommandChannel α) (values : List (Option (Command α))) :
    (values.foldl publish c).closed = c.closed := by
  induction values generalizing c with
  | nil => rfl
  | cons value rest ih => rw [List.foldl_cons, ih, closed_publish]

/-- Of several values published on an open channel only the last can still be read. -/
theorem unread_foldl_publish {c : CommandChannel α} (h : c.closed = false)
    (values : List (Option (Command α))) :
    (values.foldl publish c).unread = values.getLast?.getD c.unread := by
  induction values generalizing c with
  | nil => rfl
  | cons value rest ih =>
    have hc : (c.publish value).closed = false := by rw [closed_publish, h]
    rw [List.foldl_cons, ih hc, unread_publish h, List.getLast?_cons]
    rfl

/-- A look takes what is there for it. -/
theorem takeLatest_fst (c : CommandChannel α) : c.takeLatest.1 = c.readable := by
  cases hu : c.unseen <;> cases hc : c.closed <;> simp [takeLatest, readable, unread, hu, hc]

/-- A look that finds nothing leaves the channel as it was to be read. -/
theorem unread_takeLatest_of_none {c : CommandChannel α} (h : c.readable = none) :
    c.takeLatest.2.unread = c.unread := by
  cases hu : c.unseen <;> cases hc : c.closed <;> simp_all [takeLatest, readable, unread, markSeen]

/-- After a look at an open channel nothing is unread. -/
theorem unread_takeLatest {c : CommandChannel α} (h : c.closed = false) :
    c.takeLatest.2.unread = none := by
  simp [unread, unseen_takeLatest c h]

theorem closed_takeLatest (c : CommandChannel α) : c.takeLatest.2.closed = c.closed := by
  unfold takeLatest
  split <;> rfl

end CommandChannel

/-! ## What a burst leaves unread -/

namespace WaitEvent

/-- The values published in some events, oldest first. -/
def published (events : List (WaitEvent α)) : List (Option (Command α)) :=
  events.filterMap fun
    | .publish value => some value
    | .shutdown => none

/-- The command that some events leave to be read, if the value published last is one. -/
def newest (events : List (WaitEvent α)) : Option (Command α) :=
  (published events).getLast?.join

/-- Whether the bridge is told to shut down in the course of some events. -/
def endsWait (events : List (WaitEvent α)) : Bool :=
  events.any fun
    | .publish _ => false
    | .shutdown => true

theorem applyAll_eq (channel : CommandChannel α) (isShutdown : Bool) (events : List (WaitEvent α)) :
    applyAll channel isShutdown events
      = ((published events).foldl CommandChannel.publish channel, isShutdown || endsWait events) := by
  induction events generalizing channel isShutdown with
  | nil => simp [applyAll, published, endsWait]
  | cons event rest ih =>
    cases event with
    | publish value => simp [applyAll, ih, published, endsWait]
    | shutdown => simp [applyAll, ih, published, endsWait]

/-- Behind a look, events leave unread what they published last. -/
theorem unread_applyAll {channel : CommandChannel α} (h : channel.closed = false) (isShutdown : Bool)
    (events : List (WaitEvent α)) :
    (applyAll channel.markSeen isShutdown events).1.unread = newest events := by
  have hc : channel.markSeen.closed = false := h
  rw [applyAll_eq, CommandChannel.unread_foldl_publish hc, CommandChannel.unread_markSeen, newest]
  cases (published events).getLast? <;> rfl

@[simp]
theorem closed_applyAll (channel : CommandChannel α) (isShutdown : Bool) (events : List (WaitEvent α)) :
    (applyAll channel isShutdown events).1.closed = channel.closed := by
  rw [applyAll_eq, CommandChannel.closed_foldl_publish]

/-- The command left to be read is one of those published. -/
theorem mem_published_of_newest {events : List (WaitEvent α)} {c : Command α}
    (h : newest events = some c) : some c ∈ published events := by
  rw [newest, Option.join_eq_some_iff] at h
  exact List.mem_of_getLast? h

end WaitEvent

namespace Burst

/-- The bursts that a wait of so many milliseconds could last for, up to a shutdown. -/
def window (timeout : Nat) (bursts : List (Burst α)) : List (Burst α) :=
  bursts.takeWhile fun burst => burst.time < timeout && !WaitEvent.endsWait burst.events

/-- Whether a shutdown comes before the deadline. -/
def isInterrupted (timeout : Nat) (bursts : List (Burst α)) : Bool :=
  (bursts.takeWhile fun burst => burst.time < timeout).any fun burst => WaitEvent.endsWait burst.events

end Burst

/--
The commands that a wait can come to see, in order: one at most for its first look and for each burst. On a
closed channel nothing can be published any more.
-/
def sightings (timeout : Nat) (channel : CommandChannel α) (bursts : List (Burst α)) :
    List (Command α) :=
  channel.unread.toList
    ++ if channel.closed then []
       else (Burst.window timeout bursts).filterMap fun burst => WaitEvent.newest burst.events

/-- A burst in time adds what it leaves unread to what the wait has seen before. -/
theorem sightings_cons {timeout : Nat} {channel : CommandChannel α} {burst : Burst α}
    (hopen : channel.closed = false) (htime : burst.time < timeout)
    (hquiet : WaitEvent.endsWait burst.events = false) (rest : List (Burst α)) :
    sightings timeout channel (burst :: rest)
      = channel.unread.toList
        ++ sightings timeout (WaitEvent.applyAll channel.markSeen false burst.events).1 rest := by
  -- the look before the burst has read the channel, so the burst alone decides what is unread behind it
  have hc : (WaitEvent.applyAll channel.markSeen false burst.events).1.closed = false := by
    rw [WaitEvent.closed_applyAll, CommandChannel.closed_markSeen, hopen]
  have hw : Burst.window timeout (burst :: rest) = burst :: Burst.window timeout rest := by
    simp [Burst.window, htime, hquiet]
  rw [sightings, sightings, hopen, hc, hw, WaitEvent.unread_applyAll hopen]
  cases hn : WaitEvent.newest burst.events <;> simp [hn]

/-- Behind the deadline or a shutdown a wait sees nothing more. -/
theorem sightings_cut {timeout : Nat} {channel : CommandChannel α} {burst : Burst α}
    (h : ¬ burst.time < timeout ∨ WaitEvent.endsWait burst.events = true) (rest : List (Burst α)) :
    sightings timeout channel (burst :: rest) = channel.unread.toList := by
  have hw : Burst.window timeout (burst :: rest) = [] := by
    rcases h with h | h <;> simp [Burst.window, h]
  simp [sightings, hw]

end HilBridge
