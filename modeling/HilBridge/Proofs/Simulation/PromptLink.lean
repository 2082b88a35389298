import HilBridge.Bridge.Basic
import HilBridge.Connection.ScriptedLink
import HilBridge.Proofs.Lockstep.Sighting

/-!
# `HilBridge.Proofs.Simulation.PromptLink` — a link that never fails and answers at once

`PromptLink` are the laws of a link behind which the autopilot keeps up: it opens and sends without failure, and
while an inertial report is sent the answer to it comes in. The laws speak of the states that such a link is
ever in.

Over such a link with a resolved address, a connection is always ready (`Serves.pollReady`), and sending leaves
the answer to the last inertial report unread (`Serves.sendAll`).
-/

namespace HilBridge

variable {L α : Type}

/-- The laws of a link that opens and sends whenever it is asked to and publishes answers, but nothing else. -/
structure PromptLink [AutopilotLink L α] (good : L → Prop) : Prop where
  opens : ∀ link remote, good link →
    let o := AutopilotLink.openTo link remote
    o.result = .ok () ∧ o.published = [] ∧ o.isShutdown = false ∧ good o.link ∧ AutopilotLink.isOpen o.link = true
  sends : ∀ link message, good link → AutopilotLink.isOpen link = true →
    let o := AutopilotLink.send link message
    o.result = .ok () ∧ o.isShutdown = false ∧ good o.link ∧ AutopilotLink.isOpen o.link = true
  /-- The command that answers an inertial report has its time. -/
  answers : ∀ link message time, good link → AutopilotLink.isOpen link = true → message.imuTime? = some time →
    ∃ command, (AutopilotLink.send link message).published = [some command] ∧ command.time = time
  quiet : ∀ link message, good link → AutopilotLink.isOpen link = true → message.imuTime? = none →
    (AutopilotLink.send link message).published = []

namespace Connection

/-- A connection that can be used at any moment, with its clock standing still. -/
structure Serves (good : L → Prop) (moment : Nat) (c : Connection L α) : Prop where
  link : good c.link
  running : c.isShutdown = false
  channelOpen : c.channel.closed = false
  resolved : ∃ remote, c.resolution = .resolved remote
  now : c.now = moment

/-- What is unread after messages with some inertial times: the answer to the last of them, or what was before. -/
def Answered (times : List Nat) (before after : Option (Command α)) : Prop :=
  match times.getLast? with
  | some time => ∃ command, after = some command ∧ command.time = time
  | none => after = before

namespace Serves

variable [AutopilotLink L α] {good : L → Prop} {moment : Nat} {c : Connection L α}

/-- It is open, or it opens at once. -/
theorem pollReady (h : c.Serves good moment) (hprompt : PromptLink good) :
    ∃ c', c.pollReady = (true, c') ∧ c'.Serves good moment ∧ AutopilotLink.isOpen c'.link = true
      ∧ c'.channel = c.channel := by
  obtain ⟨remote, hresolved⟩ := h.resolved
  cases hopen : AutopilotLink.isOpen c.link with
  | true => exact ⟨c, by simp [Connection.pollReady, h.running, hopen], h, hopen, rfl⟩
  | false =>
    obtain ⟨hresult, hpublished, hshutdown, hgood, hopened⟩ := hprompt.opens c.link remote h.link
    refine ⟨{ c.absorb (AutopilotLink.openTo c.link remote) with epoch := c.epoch + 1 }, ?_, ?_, hopened, ?_⟩
    · simp [Connection.pollReady, h.running, hopen, Connection.remote, hresolved, openLink, hresult, absorb,
        Except.isOk, Except.toBool]
    · refine ⟨hgood, ?_, ?_, h.resolved, h.now⟩
      · simp [absorb, h.running, hshutdown]
      · simp [absorb, hpublished, h.channelOpen]
    · simp [absorb, hpublished]

/-- A message goes out, and only the answer to it comes in. -/
theorem send (h : c.Serves good moment) (hprompt : PromptLink good) (hopen : AutopilotLink.isOpen c.link = true)
    (message : Message α) :
    ∃ c', c.send message = (.ok (), c') ∧ c'.Serves good moment ∧ AutopilotLink.isOpen c'.link = true
      ∧ c'.epoch = c.epoch ∧ Answered message.imuTime?.toList c.channel.unread c'.channel.unread := by
  obtain ⟨hresult, hshutdown, hgood, hopen'⟩ := hprompt.sends c.link message h.link hopen
  refine ⟨c.absorb (AutopilotLink.send c.link message), ?_, ⟨hgood, ?_, ?_, h.resolved, h.now⟩, hopen', rfl, ?_⟩
  · simp [Connection.send, h.running, hopen, hresult]
  · simp [absorb, h.running, hshutdown]
  · simp [absorb, h.channelOpen]
  · have hunread := CommandChannel.unread_foldl_publish h.channelOpen (AutopilotLink.send c.link message).published
    cases htime : message.imuTime? with
    | none =>
      rw [hprompt.quiet c.link message h.link hopen htime] at hunread
      simp [Answered, absorb, hprompt.quiet c.link message h.link hopen htime]
    | some time =>
      obtain ⟨command, hpublished, hcommand⟩ := hprompt.answers c.link message time h.link hopen htime
      rw [hpublished] at hunread
      refine ⟨command, ?_, hcommand⟩
      simpa [absorb, hpublished] using hunread

/-- All messages go out, and the answer to the last inertial one is left unread. -/
theorem sendAll (h : c.Serves good moment) (hprompt : PromptLink good)
    (hopen : AutopilotLink.isOpen c.link = true) (messages : List (Message α)) :
    ∃ c', Bridge.sendAll c messages = ⟨messages, messages, c'⟩ ∧ c'.Serves good moment
      ∧ AutopilotLink.isOpen c'.link = true ∧ c'.epoch = c.epoch
      ∧ Answered (messages.filterMap Message.imuTime?) c.channel.unread c'.channel.unread := by
  induction messages generalizing c with
  | nil => exact ⟨c, rfl, h, hopen, rfl, rfl⟩
  | cons message rest ih =>
    obtain ⟨c₁, hsend, h₁, hopen₁, hepoch₁, hanswered₁⟩ := h.send hprompt hopen message
    obtain ⟨c', hrest, h', hopen', hepoch', hanswered'⟩ := ih h₁ hopen₁
    refine ⟨c', by simp [Bridge.sendAll, hsend, hrest], h', hopen', hepoch'.trans hepoch₁, ?_⟩
    have htimes : (message :: rest).filterMap Message.imuTime?
        = message.imuTime?.toList ++ rest.filterMap Message.imuTime? := by
      cases htime : message.imuTime? <;> simp [htime]
    rw [htimes, Answered, List.getLast?_append]
    rw [Answered] at hanswered₁ hanswered'
    -- an answer to the rest covers one to the message
    cases hlast : (rest.filterMap Message.imuTime?).getLast? with
    | some time =>
      rw [hlast] at hanswered'
      exact hanswered'
    | none =>
      rw [hlast] at hanswered'
      rw [hanswered']
      exact hanswered₁

end Serves

end Connection

/-! ## The link in memory -/

namespace ScriptedLink

/-- It refuses nothing and answers without delay. -/
structure IsPrompt (l : ScriptedLink α) : Prop where
  opens : l.refusesOpen = false
  sends : l.refusesSend = false
  stays : l.endsAtSend = false
  listens : l.isOpen = true → l.hasChannel = true
  echo : ∃ echo, l.echo = some echo ∧ echo.shift = 0

theorem IsPrompt.openTo {l : ScriptedLink α} (h : l.IsPrompt) (remote : Endpoint) :
    l.openTo remote = .quiet (.ok ())
      { l with isOpen := true, hasChannel := true, opens := l.opens + 1, remote := some remote } := by
  rw [ScriptedLink.openTo, h.opens, if_neg Bool.false_ne_true]

theorem IsPrompt.send {l : ScriptedLink α} (h : l.IsPrompt) (message : Message α) :
    l.send message
      = ⟨.ok (), { l with sent := message :: l.sent, endsAtSend := false }, l.answers message, false⟩ := by
  rw [ScriptedLink.send, h.sends, h.stays, Bool.false_and, if_neg Bool.false_ne_true]

theorem promptLink : PromptLink (ScriptedLink.IsPrompt : ScriptedLink α → Prop) where
  opens link remote h := by
    have hopened := h.openTo remote
    refine ⟨congrArg LinkOutcome.result hopened, congrArg LinkOutcome.published hopened,
      congrArg LinkOutcome.isShutdown hopened, ?_, ?_⟩
    · show (link.openTo remote).link.IsPrompt
      rw [hopened]
      exact ⟨h.opens, h.sends, h.stays, fun _ => rfl, h.echo⟩
    · exact congrArg (fun o => o.link.isOpen) hopened
  sends link message h hopen := by
    have hsent := h.send message
    refine ⟨congrArg LinkOutcome.result hsent, congrArg LinkOutcome.isShutdown hsent, ?_, ?_⟩
    · show (link.send message).link.IsPrompt
      rw [hsent]
      exact ⟨h.opens, h.sends, rfl, h.listens, h.echo⟩
    · exact (congrArg (fun o => o.link.isOpen) hsent).trans hopen
  answers link message time h hopen htime := by
    obtain ⟨echo, hecho, hshift⟩ := h.echo
    refine ⟨echo.answer time, (congrArg LinkOutcome.published (h.send message)).trans ?_, ?_⟩
    · simp only [ScriptedLink.answers, hecho, htime, h.listens hopen, if_true]
    · simp [Echo.answer, hshift]
  quiet link message h hopen htime := by
    refine (congrArg LinkOutcome.published (h.send message)).trans ?_
    cases hecho : link.echo <;> simp only [ScriptedLink.answers, hecho, htime]

end ScriptedLink

end HilBridge
