import HilBridge.Bridge.Basic
import HilBridge.Proofs.Connection.Passing
import HilBridge.Proofs.Connection.WatchedLink

/-!
# `HilBridge.Proofs.Connection.Lifetime` — a connection from its start to its shutdown

A run is any sequence of operations on a connection, over any link and any name service, with everything that
may happen in between: time passes, commands come in, the link changes by itself, the bridge is told to shut
down. Closing a link may take time of its own, so there the world may go on in the middle of an operation too
(`Connection.reconnectWith`).

`Connection.Kept` is what connection and record have in common: the counters are those of the record, and every
entry heeds the shutdown.

**Main statement.** `kept_live`: `Kept` holds after every run.
-/

namespace HilBridge

variable {L α : Type}

/-! ## Reconnecting, in two parts -/

namespace Connection

section
variable [AutopilotLink L α]

/-- Closes the link, to open it again. -/
def closeLink (c : Connection L α) : Except BridgeError Unit × Connection L α :=
  let o := AutopilotLink.close c.link
  (o.result, c.absorb o)

/-- Opens the closed link with the address that is known, or sees to it that there will be one. -/
def reopen (c : Connection L α) : Except BridgeError Unit × Connection L α :=
  match c.resolution with
  | .resolved remote => c.openLink remote
  | _ => if c.isResolving then (.error .notReady, c) else (.error .notReady, c.join.spawnResolver)

/-- Closes the link and opens it again, where something goes on until the closing returns. -/
def reconnectWith (meanwhile : Connection L α → Connection L α) (c : Connection L α) :
    Except BridgeError Unit × Connection L α :=
  if c.isShutdown then (.error .shutdown, c)
  else
    match c.closeLink with
    | (.error e, c) => (.error e, c)
    | (.ok (), c) => (meanwhile c).reopen

/-- A reconnection is one in which nothing else goes on. -/
theorem reconnectWith_id (c : Connection L α) : c.reconnectWith id = c.reconnect := by
  unfold reconnectWith reconnect closeLink
  dsimp only
  cases (AutopilotLink.close c.link).result with
  | error e => rfl
  | ok _ => rfl

end

/-- Records that the bridge was told to shut down, if that is new. -/
def note (c : Connection (WatchedLink L) α) (before : Bool) : Connection (WatchedLink L) α :=
  if c.isShutdown && !before then
    { c with link := { c.link with calls := c.link.calls ++ [.shutdown] } }
  else c

section
variable (c : Connection (WatchedLink L) α) (before : Bool)

@[simp]
theorem isShutdown_note : (c.note before).isShutdown = c.isShutdown := by
  unfold note
  split <;> rfl

@[simp]
theorem resolver_note : (c.note before).resolver = c.resolver := by
  unfold note
  split <;> rfl

@[simp]
theorem link_note : (c.note before).link.link = c.link.link := by
  unfold note
  split <;> rfl

theorem calls_note : (c.note before).link.calls
    = c.link.calls ++ if c.isShutdown && !before then [.shutdown] else [] := by
  unfold note
  split
  · rfl
  · exact (List.append_nil _).symm

end

end Connection

/-! ## Runs -/

/-- What can be done with a connection, and what may happen to it. -/
inductive LifeCall (L α : Type) where
  | start
  | pollReady
  | send (message : Message α)
  /-- The messages of one cycle. -/
  | sendAll (messages : List (Message α))
  /-- If the closing takes time, so long and with these bursts. -/
  | reconnect (closing : Option (Nat × List (Burst α)))
  | shutdown
  /-- The bridge is told to shut down, by whomever. -/
  | cancel
  | advance (ms : Nat) (bursts : List (Burst α))
  | waitSettled (bursts : List (Burst α))
  /-- The link changes by itself. -/
  | relink (change : L → L)

section
variable [AutopilotLink L α]

namespace LifeCall

/-- What goes on while a link is being closed. -/
def meanwhile (closing : Option (Nat × List (Burst α))) (c : Connection (WatchedLink L) α) :
    Connection (WatchedLink L) α :=
  match closing with
  | some (ms, bursts) => (c.advance ms bursts).note c.isShutdown
  | none => c

/-- The connection after a call. -/
def apply (c : Connection (WatchedLink L) α) : LifeCall L α → Connection (WatchedLink L) α
  | .start => c.start.2
  | .pollReady => c.pollReady.2
  | .send message => (c.send message).2
  | .sendAll messages => (Bridge.sendAll c messages).connection
  | .reconnect none => c.reconnect.2
  | .reconnect (some closing) => (c.reconnectWith (meanwhile (some closing))).2
  | .shutdown => (c.cancel.note c.isShutdown).shutdown
  | .cancel => c.cancel.note c.isShutdown
  | .advance ms bursts => (c.advance ms bursts).note c.isShutdown
  | .waitSettled bursts => (c.waitSettled bursts).note c.isShutdown
  | .relink change => { c with link := { c.link with link := change c.link.link } }

/-- A closing that takes no time is one in which nothing else goes on. -/
theorem apply_reconnect (c : Connection (WatchedLink L) α) (closing : Option (Nat × List (Burst α))) :
    apply c (.reconnect closing) = (c.reconnectWith (meanwhile closing)).2 := by
  cases closing with
  | none => exact congrArg Prod.snd c.reconnectWith_id.symm
  | some _ => rfl

end LifeCall

/-- A run of a connection that begins with the given link. -/
def Connection.live (c : Config α) (link : L) (names : NameService) (calls : List (LifeCall L α)) :
    Connection (WatchedLink L) α :=
  calls.foldl LifeCall.apply (.new c ⟨link, []⟩ names)

end

/-! ## The invariant -/

namespace Connection

/-- What a connection has in common with the record of its link. -/
structure Kept (c : Connection (WatchedLink L) α) : Prop where
  epoch : c.epoch = c.link.calls.countP LinkCall.isOpened
  openFailures : c.openFailures = c.link.calls.countP LinkCall.isRefusedOpening
  sendFailures : c.sendFailures = c.link.calls.countP LinkCall.isFailedSending
  isShutdown : c.isShutdown = true ↔ .shutdown ∈ c.link.calls
  heeds : LinkCall.AllHeed c.link.calls

variable {c c' : Connection (WatchedLink L) α}

theorem kept_new (c : Config α) (link : L) (names : NameService) :
    Kept (.new c ⟨link, []⟩ names : Connection (WatchedLink L) α) where
  epoch := rfl
  openFailures := rfl
  sendFailures := rfl
  isShutdown := ⟨nofun, nofun⟩
  heeds := by
    intro before call after hsplit
    simp [new] at hsplit

theorem Kept.not_mem (h : c.Kept) (hs : c.isShutdown = false) : .shutdown ∉ c.link.calls := by
  intro hmem
  rw [h.isShutdown.mpr hmem] at hs
  cases hs

/-- Record and counters stay. -/
theorem Kept.congr (h : c.Kept) (hcalls : c'.link.calls = c.link.calls) (hepoch : c'.epoch = c.epoch)
    (hopen : c'.openFailures = c.openFailures) (hsend : c'.sendFailures = c.sendFailures)
    (hshutdown : c'.isShutdown = c.isShutdown) : c'.Kept where
  epoch := by rw [hepoch, hcalls, h.epoch]
  openFailures := by rw [hopen, hcalls, h.openFailures]
  sendFailures := by rw [hsend, hcalls, h.sendFailures]
  isShutdown := by rw [hshutdown, hcalls, h.isShutdown]
  heeds := by
    rw [hcalls]
    exact h.heeds

/-- A shutdown that is new is recorded. -/
theorem Kept.note (h : c.Kept) (hepoch : c'.epoch = c.epoch) (hlink : c'.link = c.link)
    (hopen : c'.openFailures = c.openFailures) (hsend : c'.sendFailures = c.sendFailures)
    (hshutdown : c.isShutdown = true → c'.isShutdown = true) : (c'.note c.isShutdown).Kept := by
  unfold Connection.note
  by_cases hnew : (c'.isShutdown && !c.isShutdown) = true
  · rw [if_pos hnew]
    simp only [Bool.and_eq_true, Bool.not_eq_true'] at hnew
    refine ⟨?_, ?_, ?_, ?_, ?_⟩
    · simp [hepoch, hlink, h.epoch, List.countP_append, LinkCall.isOpened]
    · simp [hopen, hlink, h.openFailures, List.countP_append, LinkCall.isRefusedOpening]
    · simp [hsend, hlink, h.sendFailures, List.countP_append, LinkCall.isFailedSending]
    · simp [hnew.1]
    · rw [hlink]
      exact h.heeds.concat trivial
  · rw [if_neg hnew]
    have hsame : c'.isShutdown = c.isShutdown := by
      cases hs : c.isShutdown with
      | true => exact hshutdown hs
      | false => simpa [hs] using hnew
    exact h.congr (by rw [hlink]) hepoch hopen hsend hsame

theorem Passes.kept (h : c.Passes c') (hsame : c'.isShutdown = c.isShutdown) (hc : c.Kept) : c'.Kept :=
  hc.congr (by rw [h.link]) h.epoch h.openFailures h.sendFailures hsame

theorem Passes.kept_note (h : c.Passes c') (hc : c.Kept) : (c'.note c.isShutdown).Kept :=
  hc.note h.epoch h.link h.openFailures h.sendFailures h.isShutdown

theorem Passes.calls_note (h : c.Passes c') :
    (c'.note c.isShutdown).link.calls
      = c.link.calls ++ if c'.isShutdown && !c.isShutdown then [.shutdown] else [] := by
  rw [Connection.calls_note, h.link]

/-- A call is recorded, behind it a shutdown that came meanwhile, and it is counted. -/
theorem Kept.asked (h : c.Kept) (call : LinkCall) (down : Bool) (c' : Connection (WatchedLink L) α)
    (hcall : call ≠ .shutdown)
    (hcalls : c'.link.calls = c.link.calls ++ call :: if down then [.shutdown] else [])
    (hshutdown : c'.isShutdown = (c.isShutdown || down))
    (hepoch : c'.epoch = c.epoch + if call.isOpened then 1 else 0)
    (hopen : c'.openFailures = c.openFailures + if call.isRefusedOpening then 1 else 0)
    (hsend : c'.sendFailures = c.sendFailures + if call.isFailedSending then 1 else 0)
    (hheeds : call.Heeds c.link.calls) : c'.Kept := by
  have hasked : LinkCall.AllHeed (c.link.calls ++ [call]) := h.heeds.concat hheeds
  cases down with
  | false =>
    rw [if_neg Bool.false_ne_true] at hcalls
    refine ⟨?_, ?_, ?_, ?_, ?_⟩
    · rw [hepoch, hcalls, h.epoch, List.countP_append, List.countP_singleton]
    · rw [hopen, hcalls, h.openFailures, List.countP_append, List.countP_singleton]
    · rw [hsend, hcalls, h.sendFailures, List.countP_append, List.countP_singleton]
    · rw [hshutdown, Bool.or_false, hcalls, List.mem_append, List.mem_singleton, h.isShutdown]
      simp [hcall.symm]
    · rw [hcalls]
      exact hasked
  | true =>
    rw [if_pos rfl, ← List.singleton_append, ← List.append_assoc] at hcalls
    refine ⟨?_, ?_, ?_, ?_, ?_⟩
    · rw [hepoch, hcalls, h.epoch, List.countP_append, List.countP_append, List.countP_singleton]
      rfl
    · rw [hopen, hcalls, h.openFailures, List.countP_append, List.countP_append, List.countP_singleton]
      rfl
    · rw [hsend, hcalls, h.sendFailures, List.countP_append, List.countP_append, List.countP_singleton]
      rfl
    · simp [hshutdown, hcalls]
    · rw [hcalls]
      exact hasked.concat trivial

/-! ### Every operation keeps it -/

variable [AutopilotLink L α]

theorem kept_openLink (h : c.Kept) (remote : Endpoint)
    (hheeds : ∀ wasOpen ok, LinkCall.Heeds c.link.calls (.opening wasOpen remote ok)) :
    (c.openLink remote).2.Kept := by
  have hasked := h.asked
    (.opening (AutopilotLink.isOpen c.link.link) remote (AutopilotLink.openTo c.link.link remote).result.isOk)
    (AutopilotLink.openTo c.link.link remote).isShutdown
  cases hresult : (AutopilotLink.openTo c.link.link remote).result with
  | ok =>
    have hopened : (c.openLink remote).2
        = { c.absorb (AutopilotLink.openTo c.link remote) with epoch := c.epoch + 1 } := by
      have hwatched : (AutopilotLink.openTo c.link remote).result = .ok () := hresult
      simp only [openLink, hwatched]
      rfl
    rw [hopened]
    rw [hresult] at hasked
    exact hasked _ nofun (by rw [← hresult]; rfl) rfl rfl rfl rfl (hheeds _ _)
  | error e =>
    have hrefused : (c.openLink remote).2
        = { c.absorb (AutopilotLink.openTo c.link remote) with openFailures := c.openFailures + 1 } := by
      have hwatched : (AutopilotLink.openTo c.link remote).result = .error e := hresult
      simp only [openLink, hwatched]
      rfl
    rw [hrefused]
    rw [hresult] at hasked
    exact hasked _ nofun (by rw [← hresult]; rfl) rfl rfl rfl rfl (hheeds _ _)

theorem kept_closeLink (h : c.Kept) : c.closeLink.2.Kept :=
  h.asked (.closing (AutopilotLink.close c.link.link).result.isOk) (AutopilotLink.close c.link.link).isShutdown
    _ nofun rfl rfl rfl rfl rfl trivial

omit [AutopilotLink L α] in
theorem kept_start (h : c.Kept) : c.start.2.Kept := by
  unfold start
  split
  · exact h
  · split
    · exact h.congr rfl rfl rfl rfl rfl
    · exact h

theorem kept_pollReady (h : c.Kept) : c.pollReady.2.Kept := by
  unfold pollReady
  split
  · exact h
  case isFalse hs =>
    split
    · exact h
    · split
      · exact h
      · exact kept_openLink h _ fun _ _ => .inl (h.not_mem (Bool.eq_false_iff.mpr hs))

theorem kept_send (h : c.Kept) (message : Message α) : (c.send message).2.Kept := by
  have hasked := h.asked (.sending (AutopilotLink.send c.link.link message).result.isOk)
    (AutopilotLink.send c.link.link message).isShutdown
  unfold send
  split
  · exact h
  case isFalse hs =>
    have hheeds := h.not_mem (Bool.eq_false_iff.mpr hs)
    split
    · cases hresult : (AutopilotLink.send c.link.link message).result with
      | ok =>
        have hwatched : (AutopilotLink.send c.link message).result = .ok () := hresult
        simp only [hwatched]
        rw [hresult] at hasked
        exact hasked _ nofun (by rw [← hresult]; rfl) rfl rfl rfl rfl hheeds
      | error e =>
        have hwatched : (AutopilotLink.send c.link message).result = .error e := hresult
        simp only [hwatched]
        rw [hresult] at hasked
        exact hasked _ nofun (by rw [← hresult]; rfl) rfl rfl rfl rfl hheeds
    · exact h

theorem kept_sendAll (h : c.Kept) (messages : List (Message α)) : (Bridge.sendAll c messages).connection.Kept := by
  induction messages generalizing c with
  | nil => exact h
  | cons message rest ih =>
    have hsent := kept_send h message
    unfold Bridge.sendAll
    rcases hresult : c.send message with ⟨e | _, c'⟩ <;> rw [hresult] at hsent
    · cases e with
      | shutdown => exact hsent
      | _ => exact ih hsent
    · exact ih hsent

theorem kept_reopen (h : c.Kept)
    (hheeds : ∀ wasOpen remote ok, LinkCall.Heeds c.link.calls (.opening wasOpen remote ok)) :
    c.reopen.2.Kept := by
  unfold reopen
  split
  case h_1 remote _ => exact kept_openLink h remote fun wasOpen ok => hheeds wasOpen remote ok
  case h_2 =>
    split
    · exact h
    · have hjoined := c.passes_join.kept c.isShutdown_join h
      exact hjoined.congr rfl rfl rfl rfl rfl

/-- What goes on while the link is being closed. -/
theorem kept_meanwhile (h : c.Kept) (closing : Option (Nat × List (Burst α))) :
    (LifeCall.meanwhile closing c).Kept := by
  cases closing with
  | none => exact h
  | some during => exact (passes_advance c during.1 during.2).kept_note h

/-- When a link has been closed before any shutdown, at most the shutdown is recorded until it is opened again. -/
theorem calls_meanwhile (hs : c.isShutdown = false) (closing : Option (Nat × List (Burst α)))
    (hclosed : c.closeLink.1 = .ok ()) :
    ∃ down : Bool, (LifeCall.meanwhile closing c.closeLink.2).link.calls
      = c.link.calls ++ .closing true :: if down then [.shutdown] else [] := by
  have hcalls : c.closeLink.2.link.calls
      = c.link.calls ++ .closing true :: if c.closeLink.2.isShutdown then [.shutdown] else [] := by
    have hresult : (AutopilotLink.close c.link.link).result = .ok () := hclosed
    show c.link.calls ++ .closing (AutopilotLink.close c.link.link).result.isOk :: _ = _
    rw [hresult]
    show _ = c.link.calls ++ _ :: if c.isShutdown || _ then _ else _
    rw [hs]
    rfl
  cases closing with
  | none => exact ⟨_, hcalls⟩
  | some during =>
    have hpass := passes_advance c.closeLink.2 during.1 during.2
    refine ⟨(c.closeLink.2.advance during.1 during.2).isShutdown, ?_⟩
    show ((c.closeLink.2.advance during.1 during.2).note c.closeLink.2.isShutdown).link.calls = _
    rw [hpass.calls_note, hcalls]
    -- it is recorded once: with the closing itself, or when it comes later
    cases hdown : c.closeLink.2.isShutdown with
    | false => simp
    | true => simp [hpass.isShutdown hdown]

theorem kept_reconnectWith (h : c.Kept) (closing : Option (Nat × List (Burst α))) :
    (c.reconnectWith (LifeCall.meanwhile closing)).2.Kept := by
  unfold reconnectWith
  split
  · exact h
  case isFalse hs =>
    have hs : c.isShutdown = false := Bool.eq_false_iff.mpr hs
    have hclosed := kept_closeLink h
    have hcalls := calls_meanwhile hs closing
    rcases hresult : c.closeLink with ⟨e | _, c'⟩ <;> rw [hresult] at hclosed hcalls
    · exact hclosed
    · -- the shutdown may have come since the link began to close, and then it is opened all the same
      obtain ⟨down, hcalls⟩ := hcalls rfl
      refine kept_reopen (kept_meanwhile hclosed closing) fun wasOpen remote ok => ?_
      rw [hcalls]
      exact LinkCall.heeds_reopening (h.not_mem hs) down wasOpen remote ok

theorem kept_shutdown (h : c.Kept) (hs : c.isShutdown = true) : c.shutdown.Kept := by
  have hpass : c.Passes c.cancel.join := c.passes_cancel.trans c.cancel.passes_join
  have hsame : c.cancel.join.isShutdown = c.isShutdown := by
    rw [isShutdown_join, hs]
    rfl
  exact kept_closeLink (hpass.kept hsame h)

theorem kept_apply (h : c.Kept) (call : LifeCall L α) : (call.apply c).Kept := by
  cases call with
  | start => exact kept_start h
  | pollReady => exact kept_pollReady h
  | send message => exact kept_send h message
  | sendAll messages => exact kept_sendAll h messages
  | reconnect closing =>
    rw [LifeCall.apply_reconnect]
    exact kept_reconnectWith h closing
  | shutdown => exact kept_shutdown (c.passes_cancel.kept_note h) (by simp [cancel])
  | cancel => exact c.passes_cancel.kept_note h
  | advance ms bursts => exact (c.passes_advance ms bursts).kept_note h
  | waitSettled bursts => exact (c.passes_waitSettled bursts).kept_note h
  | relink change => exact h.congr rfl rfl rfl rfl rfl

theorem kept_run (h : c.Kept) (calls : List (LifeCall L α)) : (calls.foldl LifeCall.apply c).Kept := by
  induction calls generalizing c with
  | nil => exact h
  | cons call rest ih => exact ih (kept_apply h call)

/-- After every run the counters are those of the record, and the shutdown was heeded. -/
theorem kept_live (c : Config α) (link : L) (names : NameService) (calls : List (LifeCall L α)) :
    (live c link names calls).Kept :=
  kept_run (kept_new c link names) calls

end Connection

end HilBridge
