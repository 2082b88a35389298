import HilBridge.Connection.UdpLink
import HilBridge.Proofs.Recording

/-!
# `HilBridge.Proofs.Connection.UdpSession` — one socket, one receive task, one row of numbers

A link holds three things while it is open: the socket, the receive task and the signal that stops the task. They are
taken up and given up in different places, and an attempt to open can fail between them. `UdpLink.Whole` says that they
are held together or not at all, and that no task runs but the one that is held; every call keeps it. So closing reaches
whatever runs, and a task of an earlier socket never publishes for a later one.

The numbers of frames start with the socket and advance with every message that is sent, whether the network takes the
frame or not (`session_run`). They are read off the bytes that went out, where the framing has them
(`number?_encodeFrame`).

**Main statement.** `link_is_whole`: along every run of openings, messages, closings and datagrams.
-/

namespace HilBridge

open Wire

namespace UdpLink

/-! ## What a link holds -/

/-- Socket, receive task and stop signal are there together or not at all, and no other task runs. -/
structure Whole (l : UdpLink) : Prop where
  receiver : l.receiver.isSome = l.isOpen
  stopSignal : l.stopSignal = l.receiver
  running : l.running.Sublist l.receiver.toList
  /-- The next task will be another one. -/
  fresh : ∀ task ∈ l.running, task < l.started

namespace Whole

variable {l : UdpLink}

theorem new (settings : UdpSettings) (network : Network) (others : OtherPackets) :
    (UdpLink.new settings network others).Whole :=
  ⟨rfl, rfl, .slnil, nofun⟩

theorem length_running (h : l.Whole) : l.running.length ≤ 1 :=
  Nat.le_trans h.running.length_le Option.length_toList_le

theorem eq_receiver (h : l.Whole) {task : Nat} (hmem : task ∈ l.running) : l.receiver = some task :=
  Option.mem_toList.mp (h.running.subset hmem)

theorem receiver_eq_none (h : l.Whole) (hclosed : l.isOpen = false) : l.receiver = none :=
  Option.not_isSome_iff_eq_none.mp (by rw [h.receiver, hclosed]; exact Bool.false_ne_true)

theorem running_eq_nil (h : l.Whole) (hclosed : l.isOpen = false) : l.running = [] := by
  have hrunning := h.running
  rw [h.receiver_eq_none hclosed] at hrunning
  exact List.sublist_nil.mp hrunning

/-- The stop signal reaches all that runs. -/
theorem running_close (h : l.Whole) : l.close.running = [] := by
  refine List.filter_eq_nil_iff.mpr fun task hmem => ?_
  rw [h.stopSignal, h.eq_receiver hmem]
  simp

theorem close (h : l.Whole) : l.close.Whole :=
  ⟨rfl, rfl, h.running_close ▸ List.nil_sublist _, h.running_close ▸ nofun⟩

/-- What an opening starts from is a closed link. -/
theorem cleared (h : l.Whole) :
    (if l.isOpen then l.close else l).Whole ∧ (if l.isOpen then l.close else l).isOpen = false := by
  split
  · exact ⟨h.close, rfl⟩
  · exact ⟨h, Bool.eq_false_iff.mpr ‹_›⟩

/-- The tasks that run do so until they are stopped or find out that nobody looks any more. -/
theorem of_running_nil (h : l.Whole) : { l with running := [] : UdpLink }.Whole :=
  ⟨h.receiver, h.stopSignal, List.nil_sublist _, nofun⟩

end Whole

/-! ## Opening -/

section
variable {l : UdpLink} (remote : Endpoint)

/-- Closing starts no task. -/
theorem started_cleared (l : UdpLink) : (if l.isOpen then l.close else l).started = l.started := by
  split <;> rfl

/-- An attempt that fails leaves the link closed, whatever it was before. -/
theorem openWith_of_ne (l : UdpLink) {attempt : SocketAttempt} (hfailed : attempt ≠ .connected) :
    (∃ reason, (l.openWith remote attempt).1 = .error (.connectionFailed reason))
      ∧ (l.openWith remote attempt).2 = if l.isOpen then l.close else l := by
  cases attempt with
  | bindRefused => exact ⟨⟨_, rfl⟩, rfl⟩
  | connectRefused => exact ⟨⟨_, rfl⟩, rfl⟩
  | connected => exact absurd rfl hfailed

/-- Once the socket is there, numbers start again and the task that was started is the only one. -/
theorem openWith_connected (h : l.Whole) :
    (l.openWith remote .connected).1 = .ok () ∧ (l.openWith remote .connected).2.isOpen = true
      ∧ (l.openWith remote .connected).2.sequence = 0
      ∧ (l.openWith remote .connected).2.running = [l.started] ∧ l.started ∉ l.running := by
  refine ⟨rfl, rfl, rfl, ?_, fun hmem => Nat.lt_irrefl _ (h.fresh _ hmem)⟩
  obtain ⟨hcleared, hclosed⟩ := h.cleared
  show (if l.isOpen then l.close else l).running ++ [(if l.isOpen then l.close else l).started] = _
  rw [hcleared.running_eq_nil hclosed, started_cleared]
  rfl

theorem Whole.openWith (h : l.Whole) (attempt : SocketAttempt) : (l.openWith remote attempt).2.Whole := by
  by_cases hconnected : attempt = .connected
  · subst hconnected
    obtain ⟨-, -, -, hrunning, -⟩ := openWith_connected remote h
    have hreceiver : (l.openWith remote .connected).2.receiver = some l.started := congrArg some l.started_cleared
    refine ⟨rfl, rfl, ?_, ?_⟩
    · rw [hrunning, hreceiver]
      exact .refl _
    · rw [hrunning]
      intro task hmem
      rw [List.mem_singleton.mp hmem, ← started_cleared]
      exact Nat.lt_succ_self _
  · rw [(openWith_of_ne remote l hconnected).2]
    exact h.cleared.1

end

/-! ## Calls -/

/-- What happens to a link, with what the network makes of it. -/
inductive Call where
  | openWith (remote : Endpoint) (attempt : SocketAttempt)
  | sendWith (message : Message Float) (takes : List UInt8 → Bool)
  | close
  | receive (datagram : List UInt8) (isWatched : Bool)
  | stopReceiving

namespace Call

/-- The link after a call. -/
def apply (l : UdpLink) : Call → UdpLink
  | .openWith remote attempt => (l.openWith remote attempt).2
  | .sendWith message takes => (l.sendWith message takes).2
  | .close => l.close
  | .receive datagram isWatched => (l.receive datagram isWatched).2
  | .stopReceiving => l.stopReceiving

/-- What a message that is sent results in. -/
def results (l : UdpLink) : Call → List (Except BridgeError (List UInt8))
  | .sendWith message takes => [(l.sendWith message takes).1]
  | _ => []

/-- The message that a call sends, and which frames the network takes. -/
def send? : Call → Option (Message Float × (List UInt8 → Bool))
  | .sendWith message takes => some (message, takes)
  | _ => none

/-- A call that does not get a socket. -/
def KeepsClosed : Call → Prop
  | .openWith _ attempt => attempt ≠ .connected
  | _ => True

/-- A call that leaves the socket alone. -/
def KeepsSocket : Call → Prop
  | .openWith .. => False
  | .close => False
  | _ => True

end Call

/-- Runs of a link, with the results of sending. -/
def sender : Recorder UdpLink Call (Except BridgeError (List UInt8)) :=
  ⟨Call.apply, Call.results⟩

variable {l : UdpLink}

/-- Sending counts the frame, and changes nothing else. -/
theorem sendWith_eq (l : UdpLink) (message : Message Float) (takes : List UInt8 → Bool) :
    ∃ sequence, (l.sendWith message takes).2 = { l with sequence } := by
  unfold sendWith
  split
  · dsimp only
    split <;> exact ⟨_, rfl⟩
  · exact ⟨_, rfl⟩

theorem Whole.call (h : l.Whole) (call : Call) : (call.apply l).Whole := by
  cases call with
  | openWith remote attempt => exact h.openWith remote attempt
  | sendWith message takes =>
    obtain ⟨sequence, heq⟩ := l.sendWith_eq message takes
    have happly : (Call.sendWith message takes).apply l = { l with sequence } := heq
    rw [happly]
    exact ⟨h.receiver, h.stopSignal, h.running, h.fresh⟩
  | close => exact h.close
  | receive datagram isWatched =>
    cases isWatched with
    | true => exact h
    | false => exact h.of_running_nil
  | stopReceiving => exact h.of_running_nil

theorem whole_run (settings : UdpSettings) (network : Network) (others : OtherPackets) (calls : List Call) :
    (sender.run (.new settings network others) calls).1.Whole :=
  sender.run_induction (P := fun l _ => l.Whole) (.new settings network others) (fun _ _ call h => h.call call) calls

theorem settings_call (l : UdpLink) (call : Call) : (call.apply l).settings = l.settings := by
  cases call with
  | openWith remote attempt =>
    cases attempt <;> show (if l.isOpen then l.close else l).settings = _ <;> split <;> rfl
  | sendWith message takes =>
    obtain ⟨sequence, heq⟩ := l.sendWith_eq message takes
    show (l.sendWith message takes).2.settings = l.settings
    rw [heq]
  | close => rfl
  | receive datagram isWatched => cases isWatched <;> rfl
  | stopReceiving => rfl

theorem settings_run (l : UdpLink) (calls : List Call) : (sender.run l calls).1.settings = l.settings :=
  sender.run_induction (P := fun m _ => m.settings = l.settings) rfl
    (fun m _ call h => (settings_call m call).trans h) calls

/-! ## Stretches without an opening, and without a closing -/

/-- A link that is closed stays so until it gets a socket, and refuses messages. -/
theorem closed_run (hclosed : l.isOpen = false) {calls : List Call} (hcalls : ∀ call ∈ calls, call.KeepsClosed) :
    (sender.run l calls).1.isOpen = false
      ∧ (sender.run l calls).2 = (calls.filterMap Call.send?).map fun _ => .error .notReady := by
  induction calls generalizing l with
  | nil => exact ⟨hclosed, rfl⟩
  | cons call rest ih =>
    obtain ⟨hcall, hrest⟩ := List.forall_mem_cons.mp hcalls
    have hstep : (call.apply l).isOpen = false
        ∧ call.results l = (call.send?.map fun _ => .error .notReady).toList := by
      cases call with
      | openWith remote attempt =>
        refine ⟨?_, rfl⟩
        show (l.openWith remote attempt).2.isOpen = false
        rw [(openWith_of_ne remote l hcall).2, hclosed]
        exact hclosed
      | sendWith message takes =>
        have hsend : l.sendWith message takes = (.error .notReady, l) := by
          rw [sendWith, hclosed]
          rfl
        refine ⟨?_, ?_⟩
        · show (l.sendWith message takes).2.isOpen = false
          rw [hsend]
          exact hclosed
        · show [(l.sendWith message takes).1] = _
          rw [hsend]
          rfl
      | close => exact ⟨rfl, rfl⟩
      | receive datagram isWatched => cases isWatched <;> exact ⟨hclosed, rfl⟩
      | stopReceiving => exact ⟨hclosed, rfl⟩
    obtain ⟨hend, hresults⟩ := ih hstep.1 hrest
    rw [sender.run_cons]
    refine ⟨hend, ?_⟩
    show call.results l ++ (sender.run (call.apply l) rest).2 = _
    rw [hstep.2, hresults, List.filterMap_cons]
    cases call.send? <;> rfl

end UdpLink

/-- The number in a frame, which stands behind the length and, in the newer framing, behind two marks. -/
def Wire.Framing.number? : Framing → List UInt8 → Option UInt8
  | .v1, frame => frame[2]?
  | .v2, frame => frame[4]?

theorem Wire.Framing.number?_encodeFrame (framing : Framing) (h : FrameHeader) (p : Packet) :
    framing.number? (encodeFrame framing h p) = some h.sequence := by
  cases framing <;> rfl

namespace UdpSettings

/-- The frame of the message that is sent after `n` others. Numbers have eight bits and run over. -/
def frame (s : UdpSettings) (n : Nat) (message : Message Float) : List UInt8 :=
  encodeFrame s.framing ⟨s.systemId, s.componentId, UInt8.ofNat n⟩ (ofMessage message)

/-- What comes of that message: its frame, if the network takes it. -/
def result (s : UdpSettings) (n : Nat) (send : Message Float × (List UInt8 → Bool)) : Except BridgeError (List UInt8) :=
  if send.2 (s.frame n send.1) then .ok (s.frame n send.1) else .error (.network "datagram refused")

theorem number?_of_result {s : UdpSettings} {n : Nat} {send : Message Float × (List UInt8 → Bool)} {frame : List UInt8}
    (h : s.result n send = .ok frame) : s.framing.number? frame = some (UInt8.ofNat n) := by
  unfold result at h
  split at h
  next =>
    cases h
    exact s.framing.number?_encodeFrame _ _
  next => cases h

end UdpSettings

namespace UdpLink

variable {l : UdpLink}

/-- Whether the network takes it or not, a frame has its number. -/
theorem sendWith_of_isOpen (hopen : l.isOpen = true) {n : Nat} (hnumber : l.sequence = UInt8.ofNat n)
    (message : Message Float) (takes : List UInt8 → Bool) :
    (l.sendWith message takes).1 = l.settings.result n (message, takes)
      ∧ (l.sendWith message takes).2 = { l with sequence := UInt8.ofNat (n + 1) } := by
  have hframe : (l.encode (ofMessage message)).1 = l.settings.frame n message := by
    rw [encode, UdpSettings.frame, hnumber]
  have hnext : (l.encode (ofMessage message)).2 = { l with sequence := UInt8.ofNat (n + 1) } := by
    rw [encode, hnumber, UInt8.ofNat_add]
    rfl
  rw [sendWith, if_pos hopen, ← hnext, UdpSettings.result, ← hframe]
  dsimp only
  split <;> exact ⟨rfl, rfl⟩

/-- A call that leaves the socket alone sends with the next number, or does not send. -/
theorem session_call (hopen : l.isOpen = true) {n : Nat} (hnumber : l.sequence = UInt8.ofNat n) {call : Call}
    (hcall : call.KeepsSocket) :
    (call.apply l).isOpen = true
      ∧ (call.apply l).sequence = UInt8.ofNat (n + call.send?.toList.length)
      ∧ call.results l = (call.send?.map (l.settings.result n)).toList := by
  cases call with
  | openWith remote attempt => exact hcall.elim
  | sendWith message takes =>
    obtain ⟨hresult, hafter⟩ := sendWith_of_isOpen hopen hnumber message takes
    have happly : (Call.sendWith message takes).apply l = { l with sequence := UInt8.ofNat (n + 1) } := hafter
    rw [happly]
    exact ⟨hopen, rfl, congrArg (fun result => [result]) hresult⟩
  | close => exact hcall.elim
  | receive datagram isWatched => cases isWatched <;> exact ⟨hopen, hnumber, rfl⟩
  | stopReceiving => exact ⟨hopen, hnumber, rfl⟩

/-- While the socket stays, messages are numbered one after another. -/
theorem session_run (hopen : l.isOpen = true) {n : Nat} (hnumber : l.sequence = UInt8.ofNat n) {calls : List Call}
    (hcalls : ∀ call ∈ calls, call.KeepsSocket) :
    (sender.run l calls).1.isOpen = true
      ∧ (sender.run l calls).2 = (calls.filterMap Call.send?).mapIdx fun i => l.settings.result (n + i) := by
  induction calls generalizing l n with
  | nil => exact ⟨hopen, rfl⟩
  | cons call rest ih =>
    obtain ⟨hcall, hrest⟩ := List.forall_mem_cons.mp hcalls
    obtain ⟨hopen', hnumber', hresults⟩ := session_call hopen hnumber hcall
    obtain ⟨hend, hlater⟩ := ih hopen' hnumber' hrest
    rw [sender.run_cons]
    refine ⟨hend, ?_⟩
    show call.results l ++ (sender.run (call.apply l) rest).2 = _
    rw [hresults, hlater, settings_call]
    cases hsend : call.send? with
    | none =>
      rw [List.filterMap_cons_none hsend]
      rfl
    | some send =>
      rw [List.filterMap_cons_some hsend, List.mapIdx_cons]
      have hshift (i : Nat) : n + 1 + i = n + (i + 1) := by omega
      simp only [Option.toList_some, Option.map_some, List.length_singleton, hshift]
      rfl

/-! ## The theorem -/

/--
**A link is open or closed as a whole.** After every run of openings, messages, closings and datagrams, whatever the
network makes of them: socket, receive task and stop signal are all there or all absent, and whether the link is open
says which. At most one receive task runs, the one that is held, and what comes in is published once at most; on a
closed link none runs and nothing is published, which lasts until a socket is had again. An attempt to open that fails
leaves the link closed. One that succeeds starts a receive task that is none of those before, and from then on, as
long as the socket stays, messages get the numbers from zero on in the order of sending, modulo 256 and whether the
network takes their frames or not: the frame of the message that is sent after `i` others has the number `i` in it.
-/
theorem link_is_whole (settings : UdpSettings) (network : Network) (others : OtherPackets) (calls : List Call) :
    let l := (sender.run (.new settings network others) calls).1
    (l.socket.isSome = l.isOpen ∧ l.receiver.isSome = l.isOpen ∧ l.stopSignal.isSome = l.isOpen)
      ∧ (l.running.length ≤ 1 ∧ ∀ task ∈ l.running, l.receiver = some task ∧ l.stopSignal = some task)
      ∧ (∀ datagram isWatched,
        (l.receive datagram isWatched).1 = if l.running.isEmpty then [] else l.commandsIn datagram)
      ∧ (l.close.isOpen = false ∧ l.close.running = [])
      ∧ (l.isOpen = false → l.running = [] ∧ ∀ rest, (∀ call ∈ rest, call.KeepsClosed) →
        let r := sender.run l rest
        r.1.isOpen = false ∧ r.1.running = []
          ∧ r.2 = (rest.filterMap Call.send?).map fun _ => .error .notReady)
      ∧ (∀ remote attempt, attempt ≠ .connected →
        let opened := l.openWith remote attempt
        (∃ reason, opened.1 = .error (.connectionFailed reason)) ∧ opened.2.isOpen = false ∧ opened.2.receiver = none
          ∧ opened.2.stopSignal = none ∧ opened.2.running = [])
      ∧ ∀ remote,
        let opened := l.openWith remote .connected
        (opened.1 = .ok () ∧ opened.2.isOpen = true)
          ∧ (∃ task, opened.2.running = [task] ∧ task ∉ l.running)
          ∧ ∀ session, (∀ call ∈ session, call.KeepsSocket) →
            let r := sender.run opened.2 session
            r.1.isOpen = true ∧ r.2 = (session.filterMap Call.send?).mapIdx settings.result
              ∧ ∀ (i : Nat) (frame : List UInt8), r.2[i]? = some (.ok frame) →
                settings.framing.number? frame = some (UInt8.ofNat i) := by
  intro l
  have hwhole : l.Whole := whole_run settings network others calls
  have hsettings : l.settings = settings := settings_run (.new settings network others) calls
  refine ⟨⟨rfl, hwhole.receiver, hwhole.stopSignal ▸ hwhole.receiver⟩, ⟨hwhole.length_running, fun task hmem => ?held⟩,
    fun datagram isWatched => ?published, ⟨rfl, hwhole.running_close⟩, fun hclosed => ?closed,
    fun remote attempt hfailed => ?failed, fun remote => ?opened⟩
  case held =>
    have hreceiver := hwhole.eq_receiver hmem
    exact ⟨hreceiver, hwhole.stopSignal.trans hreceiver⟩
  case published =>
    have hlength := hwhole.length_running
    show (l.running.flatMap fun _ => l.commandsIn datagram) = _
    match hrunning : l.running with
    | [] => rfl
    | [task] => exact List.flatMap_singleton _ _
    | _ :: _ :: _ => rw [hrunning] at hlength; simp at hlength
  case closed =>
    refine ⟨hwhole.running_eq_nil hclosed, fun rest hrest => ?_⟩
    obtain ⟨hend, hresults⟩ := closed_run hclosed hrest
    have hkept : (sender.run l rest).1.Whole :=
      sender.run_induction (P := fun m _ => m.Whole) hwhole (fun _ _ call h => h.call call) rest
    exact ⟨hend, hkept.running_eq_nil hend, hresults⟩
  case failed =>
    obtain ⟨hreason, hafter⟩ := openWith_of_ne remote l hfailed
    obtain ⟨hcleared, hclosed⟩ := hwhole.cleared
    have hnone := hcleared.receiver_eq_none hclosed
    dsimp only
    rw [hafter]
    exact ⟨hreason, hclosed, hnone, hcleared.stopSignal.trans hnone, hcleared.running_eq_nil hclosed⟩
  case opened =>
    obtain ⟨hok, hopen, hnumber, hrunning, hnew⟩ := openWith_connected remote hwhole
    refine ⟨⟨hok, hopen⟩, ⟨_, hrunning, hnew⟩, fun session hsession => ?_⟩
    obtain ⟨hend, hresults⟩ := session_run (n := 0) hopen hnumber hsession
    have hsame : (l.openWith remote .connected).2.settings = settings :=
      (settings_call l (.openWith remote .connected)).trans hsettings
    simp only [hsame, Nat.zero_add] at hresults
    refine ⟨hend, hresults, fun i frame hframe => ?_⟩
    rw [hresults, List.getElem?_mapIdx] at hframe
    obtain ⟨send, -, hresult⟩ := Option.map_eq_some_iff.mp hframe
    exact UdpSettings.number?_of_result hresult

/-- The peer of the runs below. -/
def vehicle : Endpoint :=
  ⟨.v4 [127, 0, 0, 1], 14560⟩

/-- Two frames go out, with one between them that the network does not take. -/
def interrupted : List Call :=
  [.sendWith .heartbeat fun _ => true, .sendWith .heartbeat fun _ => false, .receive [] true,
    .sendWith .heartbeat fun _ => true]

/-- The first port is refused. -/
def refused : List Call :=
  [.openWith vehicle .bindRefused]

/-- After a session on the second try, the peer is lost. -/
def lost : List Call :=
  refused ++ .openWith vehicle .connected :: interrupted ++ [.openWith vehicle .connectRefused]

/-- The numbers of a session are those of its own frames, whatever there was before it. -/
theorem numbers_start_again :
    let settings : UdpSettings := ⟨0, ⟨0x40000000⟩, 1, 200⟩
    ∀ calls ∈ [refused, lost],
      let l := (sender.run (.new settings .absent) calls).1
      (l.isOpen = false ∧ l.running = [])
        ∧ ((sender.run (l.openWith vehicle .connected).2 interrupted).2.map fun result =>
            result.toOption.bind settings.framing.number?) = [some 0, none, some 2] := by
  intro settings calls hcalls l
  obtain ⟨-, -, -, -, hclosed, -, hopened⟩ := link_is_whole settings .absent .neverRefused calls
  obtain ⟨-, -, hsession⟩ := hopened vehicle
  obtain ⟨-, hresults, -⟩ := hsession interrupted (by simp [interrupted, Call.KeepsSocket])
  have hend : l.isOpen = false := by
    obtain rfl | rfl : calls = refused ∨ calls = lost := by simpa using hcalls
    · rfl
    · rfl
  refine ⟨⟨hend, (hclosed hend).1⟩, ?_⟩
  rw [hresults]
  decide +kernel

end UdpLink

end HilBridge
