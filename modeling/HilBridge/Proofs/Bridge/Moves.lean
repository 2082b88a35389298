import HilBridge.Proofs.Bridge.Run

/-!
# `HilBridge.Proofs.Bridge.Moves` — what operations on the link do to the connection

The operations on the link change the connection alone. `Connection.Moves` says what they may do to it while
they make some events happen: the epoch counts openings, an open channel stays open and holds what the events
leave unread, and a shutdown is for good. Moves compose, so that an operation made of others inherits theirs.

Which events an operation can make happen is said beside: the reports in the journal are the inertial reports
among the messages that went out, and opening and closing reports nothing.
-/

namespace HilBridge

variable {L α : Type}

theorem eq_of_mem_dropEvents [AutopilotLink L α] {before after : L} {e : Event α}
    (h : e ∈ dropEvents before after) : e = .dropped := by
  unfold dropEvents at h
  split at h
  · exact List.mem_singleton.mp h
  · cases h

/-! ## Operations on the link -/

namespace Connection

/-- A connection has come to another by some events. -/
structure Moves (c : Connection L α) (k : Journal α) (c' : Connection L α) : Prop where
  epoch : c'.epoch = c.epoch + k.countP Event.isOpened
  closed : c'.channel.closed = c.channel.closed
  unread : c.channel.closed = false →
    ∀ j : Journal α, c.channel.unread = j.leftUnread → c'.channel.unread = (j ++ k).leftUnread
  isShutdown : c.isShutdown = true → c'.isShutdown = true

/-- Nothing happens if epoch and channel stay. -/
theorem Moves.nothing {c c' : Connection L α} (hepoch : c'.epoch = c.epoch)
    (hchannel : c'.channel = c.channel) (hshutdown : c.isShutdown = true → c'.isShutdown = true) :
    c.Moves [] c' where
  epoch := by simp [hepoch]
  closed := by rw [hchannel]
  unread _ j hj := by rw [hchannel, hj, List.append_nil]
  isShutdown := hshutdown

theorem Moves.refl (c : Connection L α) : c.Moves [] c :=
  .nothing rfl rfl id

theorem Moves.trans {c c' c'' : Connection L α} {k k' : Journal α} (h : c.Moves k c')
    (h' : c'.Moves k' c'') : c.Moves (k ++ k') c'' where
  epoch := by rw [h'.epoch, h.epoch, List.countP_append, Nat.add_assoc]
  closed := h'.closed.trans h.closed
  unread hopen j hj := by
    rw [h'.unread (h.closed.trans hopen) (j ++ k) (h.unread hopen j hj), List.append_assoc]
  isShutdown hs := h'.isShutdown (h.isShutdown hs)

/-- An event that publishes nothing leaves unread what was. -/
theorem Moves.unread_cons {c c' : Connection L α} {k : Journal α} (h : c.Moves k c') {e : Event α}
    (he : Journal.unreadEffect e = none) (hopen : c.channel.closed = false) (j : Journal α)
    (hj : c.channel.unread = j.leftUnread) : c'.channel.unread = (j ++ e :: k).leftUnread := by
  have hskip : c.channel.unread = (j ++ [e]).leftUnread := by
    rw [hj, Journal.leftUnread, Journal.leftUnread, Journal.latest_concat, he, Option.getD_none]
  rw [h.unread hopen (j ++ [e]) hskip, List.append_assoc, List.singleton_append]

/-- An event that does not open the link and publishes nothing. -/
theorem Moves.aside {c c' : Connection L α} {k : Journal α} (h : c.Moves k c') {e : Event α}
    (hopened : e.isOpened = false) (he : Journal.unreadEffect e = none) : c.Moves (e :: k) c' where
  epoch := by rw [h.epoch, List.countP_cons, hopened]; rfl
  closed := h.closed
  unread := h.unread_cons he
  isShutdown := h.isShutdown

/-- An opening begins an epoch. -/
theorem Moves.opened {c c' : Connection L α} {k : Journal α} (h : c.Moves k c') :
    c.Moves (.opened :: k) { c' with epoch := c'.epoch + 1 } where
  epoch := by
    show c'.epoch + 1 = _
    rw [h.epoch, List.countP_cons, Event.isOpened, if_pos rfl, Nat.add_assoc]
  closed := h.closed
  unread := h.unread_cons rfl
  isShutdown := h.isShutdown

theorem moves_publish (c : Connection L α) (values : List (Option (Command α))) {c' : Connection L α}
    (hepoch : c'.epoch = c.epoch) (hchannel : c'.channel = values.foldl CommandChannel.publish c.channel)
    (hshutdown : c.isShutdown = true → c'.isShutdown = true) :
    c.Moves (Journal.publications values) c' where
  epoch := by rw [hepoch, Journal.countP_isOpened_publications, Nat.add_zero]
  closed := by rw [hchannel, CommandChannel.closed_foldl_publish]
  unread hopen j hj := by
    rw [hchannel, CommandChannel.unread_foldl_publish hopen, hj, Journal.leftUnread_append_publications]
  isShutdown := hshutdown

theorem moves_absorb (c : Connection L α) (o : LinkOutcome L α) :
    c.Moves (Journal.publications o.published) (c.absorb o) :=
  moves_publish c o.published rfl rfl fun hs => by simp [absorb, hs]

theorem moves_join (c : Connection L α) : c.Moves [] c.join := by
  unfold join
  split
  · exact .refl c
  · split <;> exact .nothing rfl rfl id

variable [AutopilotLink L α]

theorem moves_openLink (c : Connection L α) (remote : Endpoint) :
    c.Moves (c.openEvents remote) (c.openLink remote).2 := by
  have habsorb := moves_absorb c (AutopilotLink.openTo c.link remote)
  unfold openEvents openLink
  cases hresult : (AutopilotLink.openTo c.link remote).result with
  | ok =>
    simp only [hresult, Except.isOk, Except.toBool, if_true]
    exact habsorb.opened
  | error e =>
    simp only [hresult, Except.isOk, Except.toBool, Bool.false_eq_true, if_false, List.nil_append]
    exact
      { epoch := habsorb.epoch, closed := habsorb.closed, unread := habsorb.unread
        isShutdown := habsorb.isShutdown }

theorem moves_pollReady (c : Connection L α) : c.Moves c.pollEvents c.pollReady.2 := by
  unfold pollEvents pollReady
  cases hs : c.isShutdown with
  | true => exact .refl c
  | false =>
    cases ho : AutopilotLink.isOpen c.link with
    | true => exact .refl c
    | false =>
      simp only [Bool.or_self, Bool.false_eq_true, if_false]
      cases c.remote with
      | error e => exact .refl c
      | ok remote => exact moves_openLink c remote

theorem moves_reconnect (c : Connection L α) : c.Moves c.reconnectEvents c.reconnect.2 := by
  unfold reconnectEvents reconnect
  cases hs : c.isShutdown with
  | true => exact .refl c
  | false =>
    simp only [Bool.false_eq_true, if_false]
    refine (moves_absorb c (AutopilotLink.close c.link)).trans (.aside ?_ rfl rfl)
    -- only a resolved address leads to an opening; everything else leaves epoch and channel alone
    cases (AutopilotLink.close c.link).result with
    | error e => exact .refl _
    | ok =>
      cases (c.absorb (AutopilotLink.close c.link)).resolution with
      | resolved remote => exact moves_openLink _ remote
      | _ =>
        dsimp only
        split
        · exact .refl _
        · exact (moves_join _).trans (.nothing rfl rfl id)

/-- At the end of an operation the link may have dropped. -/
theorem Moves.drop {c c' : Connection L α} {k : Journal α} (h : c.Moves k c') (before after : L) :
    c.Moves (k ++ dropEvents before after) c' := by
  refine h.trans ?_
  unfold dropEvents
  split
  · exact (Moves.refl c').aside rfl rfl
  · exact .refl c'

theorem moves_send (c : Connection L α) (message : Message α) :
    c.Moves (c.sendEvents message) (c.send message).2 := by
  unfold sendEvents send
  cases hs : c.isShutdown with
  | true => exact .refl c
  | false =>
    cases ho : AutopilotLink.isOpen c.link with
    | false => exact .refl c
    | true =>
      have habsorb := moves_absorb c (AutopilotLink.send c.link message)
      simp only [Bool.not_true, Bool.or_self, Bool.false_eq_true, if_false, if_true]
      cases (AutopilotLink.send c.link message).result with
      | error e =>
        have hfailed : c.Moves (Journal.publications (AutopilotLink.send c.link message).published)
            { c.absorb (AutopilotLink.send c.link message) with sendFailures := c.sendFailures + 1 } :=
          ⟨habsorb.epoch, habsorb.closed, habsorb.unread, habsorb.isShutdown⟩
        exact hfailed.drop _ _
      | ok =>
        cases message.imuTime? with
        | none => exact habsorb.drop _ _
        | some time => exact (habsorb.aside rfl rfl).drop _ _

theorem moves_happen (c : Connection L α) (events : List (WaitEvent α)) :
    c.Moves (Journal.publications (WaitEvent.published
      (WaitEvent.heard (AutopilotLink.isListening c.link) events))) (c.happen events) := by
  refine moves_publish c _ rfl ?_ fun hs => ?_
  · simp [happen, WaitEvent.applyAll_eq]
  · simp [happen, WaitEvent.applyAll_eq, hs]

end Connection

theorem Bridge.moves_sendAll [AutopilotLink L α] (c : Connection L α) (messages : List (Message α)) :
    c.Moves (sendAllEvents c messages) (sendAll c messages).connection := by
  induction messages generalizing c with
  | nil => exact .refl c
  | cons message rest ih =>
    have hsend := c.moves_send message
    unfold sendAllEvents sendAll
    rcases hsent : c.send message with ⟨e | _, c'⟩ <;> rw [hsent] at hsend
    · cases e <;> first | exact hsend.trans (ih c') | exact hsend.trans (.refl c')
    · exact hsend.trans (ih c')

/-! ## The reports that sending makes -/

namespace Bridge

variable [AutopilotLink L α]

/-- A report is in the journal exactly if it is among the messages that went out. -/
theorem reportEffect_sendEvents (c : Connection L α) (message : Message α) :
    (c.sendEvents message).filterMap Journal.reportEffect
      = if (c.send message).1.isOk then (message.imuTime?.map some).toList else [] := by
  have hquiet : ∀ values : List (Option (Command α)),
      (Journal.publications values).filterMap Journal.reportEffect = [] := by
    simp [Journal.publications, Journal.reportEffect]
  have hdrop : ∀ before after : L, (dropEvents before after).filterMap Journal.reportEffect = [] := by
    intro before after
    unfold dropEvents
    split <;> rfl
  unfold Connection.sendEvents Connection.send
  cases c.isShutdown with
  | true => rfl
  | false =>
    cases AutopilotLink.isOpen c.link with
    | false => rfl
    | true =>
      simp only [Bool.not_true, Bool.or_self, Bool.false_eq_true, if_false, if_true,
        List.filterMap_append, hquiet, hdrop, List.append_nil]
      cases (AutopilotLink.send c.link message).result with
      | error e => rfl
      | ok => cases message.imuTime? <;> rfl

theorem reportEffect_sendAllEvents (c : Connection L α) (messages : List (Message α)) :
    (sendAllEvents c messages).filterMap Journal.reportEffect
      = ((sendAll c messages).sent.filterMap Message.imuTime?).map some := by
  induction messages generalizing c with
  | nil => rfl
  | cons message rest ih =>
    have hsend := reportEffect_sendEvents c message
    unfold sendAllEvents sendAll
    rcases hsent : c.send message with ⟨e | _, c'⟩ <;> rw [hsent] at hsend
    · cases e <;> simp_all [Except.isOk, Except.toBool]
    · rw [List.filterMap_append, hsend]
      cases htime : message.imuTime? <;> simp [ih, htime, Except.isOk, Except.toBool]

/-- Sending makes nothing happen but reports, what comes in meanwhile, and that the link drops. -/
theorem eq_of_mem_sendAllEvents {c : Connection L α} {messages : List (Message α)} {e : Event α}
    (h : e ∈ sendAllEvents c messages) :
    (∃ time, e = .reported time) ∨ (∃ value, e = .published value) ∨ e = .dropped := by
  induction messages generalizing c with
  | nil => cases h
  | cons message rest ih =>
    unfold sendAllEvents at h
    rcases List.mem_append.mp h with h | h
    · unfold Connection.sendEvents at h
      split at h
      · cases h
      · rcases List.mem_append.mp h with h | h
        · rcases List.mem_append.mp h with h | h
          · split at h
            · exact .inl ⟨_, List.mem_singleton.mp h⟩
            · cases h
          · obtain ⟨value, -, rfl⟩ := List.mem_map.mp h
            exact .inr (.inl ⟨value, rfl⟩)
        · exact .inr (.inr (eq_of_mem_dropEvents h))
    · split at h
      · exact ih h
      · cases h
      · exact ih h

end Bridge

/-! ## Events of opening and closing -/

namespace Connection

variable [AutopilotLink L α] {c : Connection L α} {e : Event α}

theorem isConnecting_of_mem_openEvents {remote : Endpoint} (h : e ∈ c.openEvents remote) :
    e.isConnecting = true := by
  rcases List.mem_append.mp h with h | h
  · split at h
    · rw [List.mem_singleton.mp h]
      rfl
    · cases h
  · exact Journal.isConnecting_of_mem_publications h

theorem isConnecting_of_mem_pollEvents (h : e ∈ c.pollEvents) : e.isConnecting = true := by
  unfold pollEvents at h
  split at h
  · cases h
  · split at h
    · cases h
    · exact isConnecting_of_mem_openEvents h

theorem isConnecting_of_mem_reconnectEvents (h : e ∈ c.reconnectEvents) : e.isConnecting = true := by
  unfold reconnectEvents at h
  split at h
  · cases h
  · rcases List.mem_append.mp h with h | h
    · exact Journal.isConnecting_of_mem_publications h
    · rcases List.mem_cons.mp h with rfl | h
      · rfl
      · split at h
        · exact isConnecting_of_mem_openEvents h
        · cases h

end Connection

end HilBridge
