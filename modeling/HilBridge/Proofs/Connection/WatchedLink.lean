import HilBridge.Connection.ScriptedLink
import HilBridge.Connection.UdpLink
import HilBridge.Proofs.Recording

/-!
# `HilBridge.Proofs.Connection.WatchedLink` — a link that keeps a record of what is asked of it

A connection treats all links alike. So whatever is to be said about what it asks of a link can be read off a
link that writes it down: a `WatchedLink` does what the link inside it does, and keeps a record of every call.
The record also shows where among the calls the bridge was told to shut down.

`Heeds` says of an entry, in view of the entries before it, that the shutdown was heeded.
-/

namespace HilBridge

/-- What is asked of a link, and the moment from which nothing more should be. -/
inductive LinkCall where
  /-- It is told to open, which it was before or not, and does or refuses to. -/
  | opening (wasOpen : Bool) (remote : Endpoint) (ok : Bool)
  | sending (ok : Bool)
  | closing (ok : Bool)
  /-- The bridge is told to shut down. -/
  | shutdown
  deriving Repr, DecidableEq

namespace LinkCall

def isOpened : LinkCall → Bool
  | .opening _ _ ok => ok
  | _ => false

def isRefusedOpening : LinkCall → Bool
  | .opening _ _ ok => !ok
  | _ => false

def isFailedSending : LinkCall → Bool
  | .sending ok => !ok
  | _ => false

def isOpening : LinkCall → Bool
  | .opening .. => true
  | _ => false

/--
No message is sent after the shutdown. A link may still be opened, if the shutdown came while it was being
closed to be opened again, but only once.
-/
def Heeds (before : List LinkCall) : LinkCall → Prop
  | .sending _ => .shutdown ∉ before
  | .opening .. =>
    .shutdown ∉ before ∨ ∃ front, before = front ++ [.closing true, .shutdown] ∧ .shutdown ∉ front
  | .closing _ => True
  | .shutdown => True

/-- A link that was closed before any shutdown may be opened again, though the shutdown comes meanwhile. -/
theorem heeds_reopening {front : List LinkCall} (hfront : .shutdown ∉ front) (down wasOpen : Bool)
    (remote : Endpoint) (ok : Bool) :
    Heeds (front ++ .closing true :: if down then [.shutdown] else []) (.opening wasOpen remote ok) := by
  cases down with
  | false => exact .inl (by simp [hfront])
  | true => exact .inr ⟨front, rfl, hfront⟩

/-- Every entry heeds the shutdown, in view of those before it. -/
def AllHeed (calls : List LinkCall) : Prop :=
  ∀ before call after, calls = before ++ call :: after → call.Heeds before

theorem AllHeed.concat {calls : List LinkCall} (h : AllHeed calls) {call : LinkCall}
    (hcall : call.Heeds calls) : AllHeed (calls ++ [call]) := by
  have heach : EachAfter (fun before call => call.Heeds before) calls := h
  exact heach.concat hcall

end LinkCall

/-- A link with the record of what was asked of it, oldest first. -/
structure WatchedLink (L : Type) where
  link : L
  calls : List LinkCall

namespace WatchedLink

variable {L α : Type}

/-- The outcome of a call with its entry. If the bridge was told to shut down meanwhile, that comes behind. -/
def record (w : WatchedLink L) (o : LinkOutcome L α) (call : LinkCall) : LinkOutcome (WatchedLink L) α where
  result := o.result
  link := ⟨o.link, w.calls ++ call :: if o.isShutdown then [.shutdown] else []⟩
  published := o.published
  isShutdown := o.isShutdown

instance [AutopilotLink L α] : AutopilotLink (WatchedLink L) α where
  name w := AutopilotLink.name w.link
  openTo w remote :=
    let o := AutopilotLink.openTo w.link remote
    w.record o (.opening (AutopilotLink.isOpen w.link) remote o.result.isOk)
  send w message :=
    let o := AutopilotLink.send w.link message
    w.record o (.sending o.result.isOk)
  close w :=
    let o := AutopilotLink.close w.link
    w.record o (.closing o.result.isOk)
  isOpen w := AutopilotLink.isOpen w.link
  isListening w := AutopilotLink.isListening w.link

end WatchedLink

/-- Closing a link, if it goes well, leaves it closed. -/
def AutopilotLink.ClosesWell (L : Type) {α : Type} [AutopilotLink L α] : Prop :=
  ∀ l : L, (AutopilotLink.close l).result = .ok () → AutopilotLink.isOpen (AutopilotLink.close l).link = false

theorem ScriptedLink.closesWell {α : Type} : AutopilotLink.ClosesWell (ScriptedLink α) := by
  intro l hok
  by_cases hrefuses : l.refusesClose = true
  · have hresult : l.close.result = .ok () := hok
    rw [ScriptedLink.close, if_pos hrefuses] at hresult
    cases hresult
  · show l.close.link.isOpen = false
    rw [ScriptedLink.close, if_neg hrefuses]
    rfl

theorem UdpLink.closesWell : AutopilotLink.ClosesWell UdpLink :=
  fun _ _ => rfl

end HilBridge
