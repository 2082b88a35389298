import HilBridge.Proofs.Connection.Lifetime

/-!
# `HilBridge.Proofs.Connection.Order` — one thing after the other

A connection has one resolver at a time: another one begins only when the one before has ended
(`Resolver.Succession`). It opens its link only while that is closed, with the address that the resolver has
found. `Connection.Orderly` says both of the connection before an operation and after it.

After its shutdown a connection is at rest (`AtRest`), and stays so whatever is asked of it.

**Main statements.** `lives_in_order` is about all runs: the counters are those of the record, every operation
is orderly, no message is sent after a shutdown, and what a shutdown leaves behind. `opening_after_shutdown` is
about the one opening that a shutdown does not prevent, and `reopened_after_shutdown` a run with it.
-/

namespace HilBridge

variable {L α : Type}

/-- What can be in the place of a resolver after one operation. -/
inductive Resolver.Succession (names : NameService) (r? : Option Resolver) : Option Resolver → Prop
  | stays {r'? : Option Resolver} : Works names true r? r'? → Succession names r? r'?
  /-- It has ended, and another one begins. -/
  | follows {r'? : Option Resolver} (policy : RetryPolicy) (now lookups : Nat) :
    Works names true r? r'? → r'?.any (·.isRunning) = false →
      Succession names r? (some (.spawn policy now lookups))

theorem Resolver.Works.trans_succession {names : NameService} {r? r'? r''? : Option Resolver}
    (h : Works names true r? r'?) (h' : Succession names r'? r''?) : Succession names r? r''? := by
  cases h' with
  | stays hworks => exact .stays (h.trans hworks)
  | follows policy now lookups hworks hended => exact .follows policy now lookups (h.trans hworks) hended

namespace Connection

/-! ## Operations one by one -/

/--
The link is opened in order: with the address that has been found, and only while it is closed, provided that it is
closed when it has said so.
-/
structure Orderly [AutopilotLink L α] (c c' : Connection (WatchedLink L) α) : Prop where
  names : c'.names = c.names
  resolver : Resolver.Succession c.names c.resolver c'.resolver
  opens : ∃ new, c'.link.calls = c.link.calls ++ new ∧
    ∀ wasOpen remote ok, LinkCall.opening wasOpen remote ok ∈ new →
      c'.resolution = .resolved remote ∧ (AutopilotLink.ClosesWell L → wasOpen = false)

/-- The link is not opened, and no resolver begins. -/
structure Continues (c c' : Connection (WatchedLink L) α) : Prop where
  names : c'.names = c.names
  resolver : Resolver.Works c.names true c.resolver c'.resolver
  calls : ∃ new, c'.link.calls = c.link.calls ++ new ∧ ∀ call ∈ new, call.isOpening = false

section
variable {c c' c'' : Connection (WatchedLink L) α}

theorem Continues.quiet (hnames : c'.names = c.names) (hresolver : c'.resolver = c.resolver)
    (hcalls : c'.link.calls = c.link.calls) : c.Continues c' where
  names := hnames
  resolver := by
    rw [hresolver]
    exact .refl _
  calls := ⟨[], by rw [hcalls, List.append_nil], nofun⟩

theorem Continues.refl (c : Connection (WatchedLink L) α) : c.Continues c :=
  .quiet rfl rfl rfl

theorem Continues.trans (h : c.Continues c') (h' : c'.Continues c'') : c.Continues c'' where
  names := h'.names.trans h.names
  resolver := by
    have hsecond := h'.resolver
    rw [h.names] at hsecond
    exact h.resolver.trans hsecond
  calls := by
    obtain ⟨new, hnew, hnone⟩ := h.calls
    obtain ⟨new', hnew', hnone'⟩ := h'.calls
    refine ⟨new ++ new', by rw [hnew', hnew, List.append_assoc], fun call hcall => ?_⟩
    rcases List.mem_append.mp hcall with hcall | hcall
    · exact hnone call hcall
    · exact hnone' call hcall

theorem Continues.orderly [AutopilotLink L α] (h : c.Continues c') : c.Orderly c' where
  names := h.names
  resolver := .stays h.resolver
  opens := by
    obtain ⟨new, hnew, hnone⟩ := h.calls
    refine ⟨new, hnew, fun wasOpen remote ok hcall => ?_⟩
    cases hnone _ hcall

theorem Continues.trans_orderly [AutopilotLink L α] (h : c.Continues c') (h' : c'.Orderly c'') :
    c.Orderly c'' where
  names := h'.names.trans h.names
  resolver := by
    have hsecond := h'.resolver
    rw [h.names] at hsecond
    exact h.resolver.trans_succession hsecond
  opens := by
    obtain ⟨new, hnew, hnone⟩ := h.calls
    obtain ⟨new', hnew', hopens⟩ := h'.opens
    refine ⟨new ++ new', by rw [hnew', hnew, List.append_assoc], fun wasOpen remote ok hcall => ?_⟩
    rcases List.mem_append.mp hcall with hcall | hcall
    · cases hnone _ hcall
    · exact hopens wasOpen remote ok hcall

theorem Passes.continues (h : c.Passes c') : c.Continues c' where
  names := h.names
  resolver := h.resolver.mono fun _ => rfl
  calls := ⟨[], by rw [h.link, List.append_nil], nofun⟩

theorem continues_note (c : Connection (WatchedLink L) α) (before : Bool) : c.Continues (c.note before) where
  names := by
    unfold note
    split <;> rfl
  resolver := by
    rw [resolver_note]
    exact .refl _
  calls := by
    refine ⟨_, c.calls_note before, fun call hcall => ?_⟩
    split at hcall
    · rw [List.mem_singleton.mp hcall]
      rfl
    · cases hcall

/-- A call other than an opening is recorded, behind it perhaps a shutdown. -/
theorem Continues.asked (call : LinkCall) (down : Bool) (hcall : call.isOpening = false)
    (hnames : c'.names = c.names) (hresolver : c'.resolver = c.resolver)
    (hcalls : c'.link.calls = c.link.calls ++ call :: if down then [.shutdown] else []) : c.Continues c' where
  names := hnames
  resolver := by
    rw [hresolver]
    exact .refl _
  calls := by
    refine ⟨_, hcalls, fun call' hcall' => ?_⟩
    rcases List.mem_cons.mp hcall' with rfl | hmark
    · exact hcall
    · split at hmark
      · rw [List.mem_singleton.mp hmark]
        rfl
      · cases hmark

variable [AutopilotLink L α]

theorem continues_closeLink (c : Connection (WatchedLink L) α) : c.Continues c.closeLink.2 :=
  .asked (.closing (AutopilotLink.close c.link.link).result.isOk) (AutopilotLink.close c.link.link).isShutdown
    rfl rfl rfl rfl

theorem continues_send (c : Connection (WatchedLink L) α) (message : Message α) :
    c.Continues (c.send message).2 := by
  unfold send
  split
  · exact .refl c
  · split
    · dsimp only
      split <;>
        exact .asked (.sending (AutopilotLink.send c.link.link message).result.isOk)
          (AutopilotLink.send c.link.link message).isShutdown rfl rfl rfl rfl
    · exact .refl c

theorem continues_sendAll (c : Connection (WatchedLink L) α) (messages : List (Message α)) :
    c.Continues (Bridge.sendAll c messages).connection := by
  induction messages generalizing c with
  | nil => exact .refl c
  | cons message rest ih =>
    have hsent := continues_send c message
    unfold Bridge.sendAll
    rcases hresult : c.send message with ⟨e | _, c'⟩ <;> rw [hresult] at hsent
    · cases e with
      | shutdown => exact hsent
      | _ => exact hsent.trans (ih c')
    · exact hsent.trans (ih c')

theorem orderly_start (c : Connection (WatchedLink L) α) : c.Orderly c.start.2 := by
  unfold start
  split
  · exact (Continues.refl c).orderly
  · split
    case isTrue hnone =>
      have hresolver : c.resolver = none := Option.isNone_iff_eq_none.mp hnone
      refine ⟨rfl, .follows c.policy c.now c.lookupCount (.refl _) ?_, [], (List.append_nil _).symm, nofun⟩
      rw [hresolver]
      rfl
    · exact (Continues.refl c).orderly

/-- Beyond what the link does, an opening is counted. -/
theorem exists_openLink_eq (c : Connection (WatchedLink L) α) (remote : Endpoint) :
    ∃ epoch openFailures,
      (c.openLink remote).2 = { c.absorb (AutopilotLink.openTo c.link remote) with epoch, openFailures } := by
  unfold openLink
  dsimp only
  split
  · exact ⟨_, _, rfl⟩
  · exact ⟨_, _, rfl⟩

theorem orderly_openLink {remote : Endpoint}
    (hclosed : AutopilotLink.ClosesWell L → AutopilotLink.isOpen c.link.link = false)
    (hremote : c.resolution = .resolved remote) : c.Orderly (c.openLink remote).2 := by
  obtain ⟨epoch, openFailures, hopened⟩ := exists_openLink_eq c remote
  rw [hopened]
  refine ⟨rfl, .stays (.refl _), _, rfl, fun wasOpen remote' ok hcall => ?_⟩
  rcases List.mem_cons.mp hcall with hcall | hmark
  · cases hcall
    exact ⟨hremote, hclosed⟩
  · split at hmark
    · cases List.mem_singleton.mp hmark
    · cases hmark

theorem orderly_pollReady (c : Connection (WatchedLink L) α) : c.Orderly c.pollReady.2 := by
  unfold pollReady
  split
  · exact (Continues.refl c).orderly
  · split
    · exact (Continues.refl c).orderly
    case isFalse hclosed =>
      split
      · exact (Continues.refl c).orderly
      case h_2 remote hremote =>
        refine orderly_openLink (fun _ => Bool.eq_false_iff.mpr hclosed) ?_
        unfold Connection.remote at hremote
        split at hremote <;> cases hremote
        assumption

theorem orderly_reopen (hclosed : AutopilotLink.ClosesWell L → AutopilotLink.isOpen c.link.link = false) :
    c.Orderly c.reopen.2 := by
  unfold reopen
  split
  case h_1 remote hremote => exact orderly_openLink hclosed hremote
  case h_2 =>
    split
    · exact (Continues.refl c).orderly
    case isFalse hended =>
      -- whoever starts the resolution over waits for the old resolver first, and that has ended already
      have hpass := c.passes_join
      have hended : c.isResolving = false := Bool.eq_false_iff.mpr hended
      exact
        { names := hpass.names
          resolver := .follows c.join.policy c.join.now c.join.lookupCount (.refl _) hended
          opens := ⟨[], by rw [List.append_nil, ← hpass.link]; rfl, nofun⟩ }

theorem orderly_reconnectWith (c : Connection (WatchedLink L) α) (closing : Option (Nat × List (Burst α))) :
    c.Orderly (c.reconnectWith (LifeCall.meanwhile closing)).2 := by
  unfold reconnectWith
  split
  · exact (Continues.refl c).orderly
  · have hcontinues := continues_closeLink c
    rcases hresult : c.closeLink with ⟨e | _, c'⟩ <;> rw [hresult] at hcontinues
    · exact hcontinues.orderly
    · have hok : (AutopilotLink.close c.link.link).result = .ok () := congrArg Prod.fst hresult
      have hclosed : AutopilotLink.ClosesWell L → AutopilotLink.isOpen c'.link.link = false := by
        intro hcloses
        rw [← hcloses _ hok, ← show c.closeLink.2 = c' from congrArg Prod.snd hresult]
        rfl
      cases closing with
      | none => exact hcontinues.trans_orderly (orderly_reopen hclosed)
      | some during =>
        have hpass := passes_advance c' during.1 during.2
        have hnoted := hpass.continues.trans (continues_note _ c'.isShutdown)
        refine (hcontinues.trans hnoted).trans_orderly (orderly_reopen ?_)
        rw [link_note, hpass.link]
        exact hclosed

/-- Every operation is orderly. -/
theorem orderly_apply (c : Connection (WatchedLink L) α) (call : LifeCall L α) : c.Orderly (call.apply c) := by
  cases call with
  | start => exact orderly_start c
  | pollReady => exact orderly_pollReady c
  | send message => exact (continues_send c message).orderly
  | sendAll messages => exact (continues_sendAll c messages).orderly
  | reconnect closing =>
    rw [LifeCall.apply_reconnect]
    exact orderly_reconnectWith c closing
  | shutdown =>
    have hnoted := c.passes_cancel.continues.trans (continues_note _ c.isShutdown)
    have hended := (passes_cancel _).trans (passes_join (c.cancel.note c.isShutdown).cancel)
    exact ((hnoted.trans hended.continues).trans (continues_closeLink _)).orderly
  | cancel => exact (c.passes_cancel.continues.trans (continues_note _ _)).orderly
  | advance ms bursts => exact ((c.passes_advance ms bursts).continues.trans (continues_note _ _)).orderly
  | waitSettled bursts => exact ((c.passes_waitSettled bursts).continues.trans (continues_note _ _)).orderly
  | relink change =>
    have hcontinues : c.Continues (LifeCall.apply c (.relink change)) := .quiet rfl rfl rfl
    exact hcontinues.orderly

/-! ## After the shutdown -/

omit [AutopilotLink L α] in
theorem start_of_isShutdown (hs : c.isShutdown = true) : c.start = (.error .shutdown, c) :=
  if_pos hs

theorem pollReady_of_isShutdown (hs : c.isShutdown = true) : c.pollReady = (false, c) :=
  if_pos hs

theorem send_of_isShutdown (hs : c.isShutdown = true) (message : Message α) :
    c.send message = (.error .shutdown, c) :=
  if_pos hs

theorem reconnect_of_isShutdown (hs : c.isShutdown = true) : c.reconnect = (.error .shutdown, c) :=
  if_pos hs

theorem sendAll_of_isShutdown (hs : c.isShutdown = true) (messages : List (Message α)) :
    (Bridge.sendAll c messages).connection = c := by
  cases messages with
  | nil => rfl
  | cons message rest => rw [Bridge.sendAll, send_of_isShutdown hs]

/-- The bridge was told to shut down, and no resolver runs. -/
structure AtRest (c : Connection (WatchedLink L) α) : Prop where
  isShutdown : c.isShutdown = true
  isResolving : c.isResolving = false

omit [AutopilotLink L α] in
theorem AtRest.note (h : c.AtRest) (before : Bool) : (c.note before).AtRest where
  isShutdown := by rw [isShutdown_note, h.isShutdown]
  isResolving := by rw [Connection.isResolving, resolver_note]; exact h.isResolving

omit [AutopilotLink L α] in
theorem AtRest.passes (h : c.AtRest) (hpass : c.Passes c') : c'.AtRest where
  isShutdown := hpass.isShutdown h.isShutdown
  isResolving := hpass.isResolving_eq_false h.isResolving

/-- A shutdown brings a connection to rest. -/
theorem atRest_shutdown (c : Connection (WatchedLink L) α) : c.shutdown.AtRest where
  isShutdown := by
    show (c.cancel.join.isShutdown || _) = true
    rw [isShutdown_join]
    rfl
  isResolving := c.cancel.isResolving_join

/-- Whatever is asked of a connection at rest. -/
theorem AtRest.apply (h : c.AtRest) (call : LifeCall L α) : (call.apply c).AtRest := by
  have hs := h.isShutdown
  cases call with
  | start =>
    show c.start.2.AtRest
    rw [start_of_isShutdown hs]
    exact h
  | pollReady =>
    show c.pollReady.2.AtRest
    rw [pollReady_of_isShutdown hs]
    exact h
  | send message =>
    show (c.send message).2.AtRest
    rw [send_of_isShutdown hs]
    exact h
  | sendAll messages =>
    show (Bridge.sendAll c messages).connection.AtRest
    rw [sendAll_of_isShutdown hs]
    exact h
  | reconnect closing =>
    rw [LifeCall.apply_reconnect, reconnectWith, if_pos hs]
    exact h
  | shutdown => exact atRest_shutdown _
  | cancel => exact (h.passes c.passes_cancel).note _
  | advance ms bursts => exact (h.passes (c.passes_advance ms bursts)).note _
  | waitSettled bursts => exact (h.passes (c.passes_waitSettled bursts)).note _
  | relink change => exact ⟨h.isShutdown, h.isResolving⟩

theorem AtRest.run (h : c.AtRest) (calls : List (LifeCall L α)) : (calls.foldl LifeCall.apply c).AtRest := by
  induction calls generalizing c with
  | nil => exact h
  | cons call rest ih => exact ih (h.apply call)

theorem isOpen_shutdown (hcloses : AutopilotLink.ClosesWell L) (c : Connection (WatchedLink L) α)
    (hok : (AutopilotLink.close c.link.link).result = .ok ()) :
    AutopilotLink.isOpen c.shutdown.link.link = false := by
  have hlink : c.cancel.join.link = c.link := c.cancel.passes_join.link
  show AutopilotLink.isOpen (AutopilotLink.close c.cancel.join.link.link).link = false
  rw [hlink]
  exact hcloses _ hok

/-! ## Whole runs -/

/--
**A connection lives in order.** For every run of a connection over every link: the counters are those of the
record; whatever is done next is done in order; nothing is sent once the bridge was told to shut down; and the
shutdown leaves no resolver at work and a connection that refuses everything, whatever comes later. Where the
closing goes well it also leaves a closed link, if the link keeps its word, as those of this library do
(`ScriptedLink.closesWell`, `UdpLink.closesWell`).
-/
theorem lives_in_order (config : Config α) (link : L) (names : NameService) (calls : List (LifeCall L α)) :
    let c := live config link names calls
    let ended := LifeCall.shutdown.apply c
    c.epoch = c.link.calls.countP LinkCall.isOpened
      ∧ c.openFailures = c.link.calls.countP LinkCall.isRefusedOpening
      ∧ c.sendFailures = c.link.calls.countP LinkCall.isFailedSending
      ∧ (∀ call : LifeCall L α, c.Orderly (call.apply c))
      ∧ (c.isShutdown = true ↔ .shutdown ∈ c.link.calls)
      ∧ (∀ before ok after, c.link.calls = before ++ .sending ok :: after → .shutdown ∉ before)
      ∧ ((AutopilotLink.close c.link.link).result = .ok () → AutopilotLink.ClosesWell L →
        AutopilotLink.isOpen ended.link.link = false)
      ∧ ∀ later : List (LifeCall L α),
          let e := later.foldl LifeCall.apply ended
          e.isResolving = false
            ∧ e.start = (.error .shutdown, e)
            ∧ (∀ message, e.send message = (.error .shutdown, e))
            ∧ e.reconnect = (.error .shutdown, e)
            ∧ e.pollReady = (false, e) := by
  intro c ended
  have hkept : c.Kept := kept_live config link names calls
  have hrest : ended.AtRest := atRest_shutdown _
  refine ⟨hkept.epoch, hkept.openFailures, hkept.sendFailures, orderly_apply c, hkept.isShutdown, ?_, ?_, ?_⟩
  · intro before ok after hsplit
    exact hkept.heeds before (.sending ok) after hsplit
  · intro hok hcloses
    refine isOpen_shutdown hcloses (c.cancel.note c.isShutdown) ?_
    rw [link_note]
    exact hok
  · intro later e
    have he : e.AtRest := hrest.run later
    have hs := he.isShutdown
    exact ⟨he.isResolving, start_of_isShutdown hs, send_of_isShutdown hs, reconnect_of_isShutdown hs,
      pollReady_of_isShutdown hs⟩

end

section

/-- Where the name service finds the autopilot. -/
def found : Endpoint :=
  ⟨.v4 [127, 0, 0, 1], 4560⟩

/-- Every failure there is, a reconnection, and a shutdown while the first of two messages is sent. -/
def eventful : List (LifeCall (ScriptedLink Float) Float) :=
  [.start, .waitSettled [],
   .relink fun l => { l with refusesOpen := true }, .pollReady,
   .relink fun l => { l with refusesOpen := false }, .pollReady, .send .heartbeat,
   .relink fun l => { l with refusesSend := true }, .send .heartbeat,
   .reconnect none,
   .relink fun l => { l with endsAtSend := true }, .sendAll [.heartbeat, .heartbeat]]

/-- Of the two messages the second one is not sent. -/
theorem shutdown_between_messages :
    let c := live .default (.new "trial") (.numeric "127.0.0.1" 4560) eventful
    c.link.calls =
        [.opening false found false, .opening false found true, .sending true, .sending false, .closing true,
          .opening false found true, .sending true, .shutdown]
      ∧ c.epoch = 2 ∧ c.openFailures = 1 ∧ c.sendFailures = 1
      ∧ (LifeCall.shutdown.apply c).link.link.isOpen = false
      ∧ ∀ later : List (LifeCall (ScriptedLink Float) Float),
          let e := later.foldl LifeCall.apply (LifeCall.shutdown.apply c)
          e.isResolving = false ∧ e.reconnect = (.error .shutdown, e) := by
  intro c
  have hcalls : c.link.calls =
      [.opening false found false, .opening false found true, .sending true, .sending false, .closing true,
        .opening false found true, .sending true, .shutdown] := by
    decide +kernel
  have hok : (AutopilotLink.close c.link.link).result = .ok () := by
    show c.link.link.close.result = .ok ()
    have hrefuses : c.link.link.refusesClose = false := by decide +kernel
    rw [ScriptedLink.close, hrefuses, if_neg Bool.false_ne_true]
    rfl
  obtain ⟨hepoch, hopen, hsend, -, -, -, hclosed, hlater⟩ :=
    lives_in_order .default (.new "trial") (.numeric "127.0.0.1" 4560) eventful
  refine ⟨hcalls, ?_, ?_, ?_, hclosed hok ScriptedLink.closesWell, fun later => ?_⟩
  · rw [hepoch, hcalls]
    rfl
  · rw [hopen, hcalls]
    rfl
  · rw [hsend, hcalls]
    rfl
  · obtain ⟨hresolving, -, -, hreconnect, -⟩ := hlater later
    exact ⟨hresolving, hreconnect⟩

/--
One opening a shutdown does not prevent: that of a link which was closed to be opened again when the shutdown
came. It is the only one after the shutdown.
-/
theorem opening_after_shutdown [AutopilotLink L α] (config : Config α) (link : L) (names : NameService)
    (calls : List (LifeCall L α)) {before after : List LinkCall} {wasOpen ok : Bool} {remote : Endpoint}
    (hsplit : (live config link names calls).link.calls = before ++ .opening wasOpen remote ok :: after)
    (hshutdown : .shutdown ∈ before) :
    ∃ front, before = front ++ [.closing true, .shutdown] ∧ .shutdown ∉ front := by
  rcases (kept_live config link names calls).heeds before _ after hsplit with hnone | hreopening
  · exact absurd hshutdown hnone
  · exact hreopening

/-- The shutdown comes while the link is being closed. -/
theorem reopened_after_shutdown :
    (live .default (.new "trial") (.numeric "127.0.0.1" 4560)
        ([.start, .waitSettled [], .pollReady, .reconnect (some (0, [⟨0, [.shutdown]⟩]))] :
          List (LifeCall (ScriptedLink Float) Float))).link.calls
      = [.opening false found true, .closing true, .shutdown, .opening false found true] := by
  decide +kernel

end

end Connection

end HilBridge
