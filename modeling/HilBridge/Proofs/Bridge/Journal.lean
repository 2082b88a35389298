import HilBridge.Proofs.Lockstep.AfterCall
import Mathlib.Data.List.Induction

/-!
# `HilBridge.Proofs.Bridge.Journal` — what has happened, in order

A journal lists what happened between a bridge and its autopilot: openings, attempts to close, commands
published, inertial reports that went out and ticks that obtained an actuator state. It is kept beside the
bridge, which does not know of it, so that statements can speak of the past.

Each question that is asked of a journal has the last relevant event as its answer: which report was sent
last (`lastReport`), which is unanswered (`outstanding`), which command nobody has read (`leftUnread`).
`latest` is the one form of all of them, and `exists_of_latest` turns an answer into a place in the journal.
-/

namespace HilBridge

variable {α β : Type}

/-- Something that happened between a bridge and its autopilot. -/
inductive Event (α : Type) where
  /-- The link was opened: a new connection begins. -/
  | opened
  /-- A reconnection set about closing the link. -/
  | closing
  /-- The link is closed without anyone having closed it. -/
  | dropped
  | published (value : Option (Command α))
  /-- An inertial report with this time went out. -/
  | reported (time : Nat)
  /-- A tick obtained its actuator state. -/
  | tick (status : SyncStatus) (command : Option (Command α))
  deriving Repr, DecidableEq

namespace Event

def isOpened : Event α → Bool
  | .opened => true
  | _ => false

/-- Whether the event is an acknowledgement. -/
def isAcknowledged : Event α → Bool
  | .tick .acknowledged _ => true
  | _ => false

/-- Whether the event has to do with the link and the channel alone. -/
def isConnecting : Event α → Bool
  | .opened => true
  | .closing => true
  | .dropped => true
  | .published _ => true
  | .reported _ => false
  | .tick .. => false

end Event

/-- What has happened, oldest first. -/
abbrev Journal (α : Type) := List (Event α)

namespace Journal

/-! ## The last relevant event -/

/-- What a journal leaves of something that each event sets anew, clears or leaves alone. -/
def latest (effect : Event α → Option (Option β)) (j : Journal α) : Option β :=
  (j.filterMap effect).getLast?.join

section
variable {effect : Event α → Option (Option β)}

/-- Of two stretches the later decides, if there is a relevant event in it. -/
theorem latest_append (j k : Journal α) :
    latest effect (j ++ k) = (k.filterMap effect).getLast?.getD (latest effect j) := by
  unfold latest
  rw [List.filterMap_append, List.getLast?_append]
  cases (k.filterMap effect).getLast? <;> rfl

theorem latest_concat (j : Journal α) (e : Event α) :
    latest effect (j ++ [e]) = (effect e).getD (latest effect j) := by
  rw [latest_append]
  cases h : effect e <;> simp [h]

/-- Events that leave something alone can be left out. -/
theorem latest_append_of_none {k : Journal α} (h : ∀ e ∈ k, effect e = none) (j : Journal α) :
    latest effect (j ++ k) = latest effect j := by
  rw [latest_append, List.filterMap_eq_nil_iff.mpr h]
  rfl

/-- What a journal leaves was set somewhere in it, and left alone ever since. -/
theorem exists_of_latest {j : Journal α} {x : β} (h : latest effect j = some x) :
    ∃ before e after, j = before ++ e :: after ∧ effect e = some (some x)
      ∧ ∀ e ∈ after, effect e = none := by
  induction j using List.reverseRecOn with
  | nil => cases h
  | append_singleton j e ih =>
    rw [latest_concat] at h
    cases he : effect e with
    | some value =>
      -- the last event decides, so it is the place
      rw [he, Option.getD_some] at h
      exact ⟨j, e, [], rfl, by rw [he, h], by simp⟩
    | none =>
      rw [he, Option.getD_none] at h
      obtain ⟨before, d, after, rfl, hd, hafter⟩ := ih h
      refine ⟨before, d, after ++ [e], by simp, hd, fun b hb => ?_⟩
      rcases List.mem_append.mp hb with hb | hb
      · exact hafter b hb
      · rw [List.mem_singleton.mp hb, he]

/-- What is left by a stretch stays, though it may be set anew, as long as nothing clears it. -/
theorem isSome_latest_append {j k : Journal α} (h : (latest effect j).isSome = true)
    (hk : ∀ e ∈ k, effect e ≠ some none) : (latest effect (j ++ k)).isSome = true := by
  induction k using List.reverseRecOn with
  | nil => rwa [List.append_nil]
  | append_singleton k e ih =>
    have hrest := ih fun d hd => hk d (List.mem_append_left [e] hd)
    have he := hk e (by simp)
    rw [← List.append_assoc, latest_concat]
    rcases heffect : effect e with _ | _ | _
    · exact hrest
    · exact absurd heffect he
    · rfl

/-- What nothing is left of is not left either by a stretch that does not set it. -/
theorem latest_append_eq_none {j k : Journal α} (h : latest effect j = none)
    (hk : ∀ e ∈ k, ∀ x, effect e ≠ some (some x)) : latest effect (j ++ k) = none := by
  induction k using List.reverseRecOn with
  | nil => rwa [List.append_nil]
  | append_singleton k e ih =>
    have hrest := ih fun d hd => hk d (List.mem_append_left [e] hd)
    have he := hk e (by simp)
    rw [← List.append_assoc, latest_concat]
    rcases heffect : effect e with _ | _ | x
    · exact hrest
    · rfl
    · exact absurd heffect (he x)

theorem latest_of_split {before after : Journal α} {e : Event α} {value : Option β}
    (he : effect e = some value) (hafter : ∀ e ∈ after, effect e = none) :
    latest effect (before ++ e :: after) = value := by
  rw [List.append_cons, latest_append_of_none hafter, latest_concat, he, Option.getD_some]

end

/-! ## What is asked of a journal -/

/-- A report is of its connection only. -/
def reportEffect : Event α → Option (Option Nat)
  | .opened => some none
  | .reported time => some (some time)
  | .closing => none
  | .dropped => none
  | .published _ => none
  | .tick .. => none

/-- A report stands out until it is acknowledged or given up, or the link opened anew. -/
def outstandingEffect : Event α → Option (Option Nat)
  | .opened => some none
  | .reported time => some (some time)
  | .tick status _ => if status.settles then some none else none
  | .closing => none
  | .dropped => none
  | .published _ => none

/-- The link may be closed until it is opened again or a report goes out over it. -/
def closingEffect : Event α → Option (Option Unit)
  | .closing => some (some ())
  | .dropped => some (some ())
  | .opened => some none
  | .reported _ => some none
  | .published _ => none
  | .tick .. => none

/-- Every tick reads what was published. -/
def unreadEffect : Event α → Option (Option (Command α))
  | .published value => some value
  | .tick .. => some none
  | .opened => none
  | .closing => none
  | .dropped => none
  | .reported _ => none

/-- The time of the report that went out last over the connection. -/
def lastReport (j : Journal α) : Option Nat :=
  latest reportEffect j

/-- The time of the report that is neither answered nor given up, over the connection. -/
def outstanding (j : Journal α) : Option Nat :=
  latest outstandingEffect j

/-- Whether the link may have been closed after the last report, and was not opened again. -/
def isAdrift (j : Journal α) : Bool :=
  (latest closingEffect j).isSome

/-- The command that was published last and that no tick has read. -/
def leftUnread (j : Journal α) : Option (Command α) :=
  latest unreadEffect j

/-! ## Stretches of events of one kind -/

/-- Commands that come in, one after the other. -/
def publications (values : List (Option (Command α))) : Journal α :=
  values.map .published

@[simp]
theorem publications_nil : publications ([] : List (Option (Command α))) = [] :=
  rfl

theorem isConnecting_of_mem_publications {values : List (Option (Command α))} {e : Event α}
    (h : e ∈ publications values) : e.isConnecting = true := by
  obtain ⟨value, -, rfl⟩ := List.mem_map.mp h
  rfl

theorem countP_isOpened_publications (values : List (Option (Command α))) :
    (publications values).countP Event.isOpened = 0 := by
  simp [publications, List.countP_eq_zero, Event.isOpened]

theorem leftUnread_append_publications (j : Journal α) (values : List (Option (Command α))) :
    (j ++ publications values).leftUnread = values.getLast?.getD j.leftUnread := by
  have hvalues : (publications values).filterMap unreadEffect = values := by
    rw [publications, List.filterMap_map]
    exact List.filterMap_some
  rw [leftUnread, latest_append, hvalues, leftUnread]

/-- Without an opening nothing that has to do with link and channel alone touches what is reported. -/
theorem latest_append_connecting {effect : Event α → Option (Option β)}
    (heffect : ∀ e : Event α, e.isConnecting = true → effect e = if e.isOpened then some none else none)
    (j : Journal α) {k : Journal α} (hk : ∀ e ∈ k, e.isConnecting = true) :
    latest effect (j ++ k) = if k.countP Event.isOpened = 0 then latest effect j else none := by
  induction k using List.reverseRecOn with
  | nil => simp
  | append_singleton k e ih =>
    have hrest := ih fun d hd => hk d (List.mem_append_left [e] hd)
    have he := heffect e (hk e (by simp))
    rw [← List.append_assoc, latest_concat, he, hrest, List.countP_append]
    cases hopened : e.isOpened <;> simp [hopened]

theorem lastReport_append_connecting (j : Journal α) {k : Journal α}
    (hk : ∀ e ∈ k, e.isConnecting = true) :
    (j ++ k).lastReport = if k.countP Event.isOpened = 0 then j.lastReport else none :=
  latest_append_connecting (by rintro (_ | _ | _ | _ | _ | _) h <;> first | rfl | cases h) j hk

theorem outstanding_append_connecting (j : Journal α) {k : Journal α}
    (hk : ∀ e ∈ k, e.isConnecting = true) :
    (j ++ k).outstanding = if k.countP Event.isOpened = 0 then j.outstanding else none :=
  latest_append_connecting (by rintro (_ | _ | _ | _ | _ | _) h <;> first | rfl | cases h) j hk

theorem countP_isAcknowledged_connecting {k : Journal α} (hk : ∀ e ∈ k, e.isConnecting = true) :
    k.countP Event.isAcknowledged = 0 := by
  rw [List.countP_eq_zero]
  intro e he
  have := hk e he
  cases e <;> simp_all [Event.isConnecting, Event.isAcknowledged]

/-- Of several reports the last one counts. -/
theorem latest_append_reports {effect : Event α → Option (Option β)} {k : Journal α} {xs : List β}
    (hk : k.filterMap effect = xs.map some) (j : Journal α) :
    latest effect (j ++ k) = xs.getLast?.or (latest effect j) := by
  rw [latest_append, hk, List.getLast?_map]
  cases xs.getLast? <;> rfl

end Journal

end HilBridge
