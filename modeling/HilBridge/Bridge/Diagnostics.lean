import HilBridge.Bridge.Basic

/-!
# `HilBridge.Bridge.Diagnostics` — what went less than well

All counters of a bridge in one place: they count what degrades without failing.
-/

namespace HilBridge

/-- The counters of a bridge. -/
structure Diagnostics where
  lockstepTimeouts : Nat
  lateReplies : Nat
  degradedSync : Bool
  imuSeqGaps : Nat
  staleDropped : Nat
  malformedChannels : Nat
  rejectedCommands : Nat
  sendFailures : Nat
  openFailures : Nat
  messagesSent : Nat
  connectionEpoch : Nat
  deriving Repr, DecidableEq

/-- The counters for logs. -/
def Diagnostics.describe (d : Diagnostics) : String :=
  "BridgeDiagnostics \x7b "
    ++ s!"lockstep_timeouts: {d.lockstepTimeouts}, late_replies: {d.lateReplies}, "
    ++ s!"degraded_sync: {d.degradedSync}, imu_seq_gaps: {d.imuSeqGaps}, "
    ++ s!"stale_dropped: {d.staleDropped}, malformed_channels: {d.malformedChannels}, "
    ++ s!"rejected_commands: {d.rejectedCommands}, send_failures: {d.sendFailures}, "
    ++ s!"open_failures: {d.openFailures}, messages_sent: {d.messagesSent}, "
    ++ s!"connection_epoch: {d.connectionEpoch} \x7d"

namespace Bridge

variable {L α : Type}

def diagnostics (b : Bridge L α) : Diagnostics :=
  { lockstepTimeouts := b.scheduler.stats.timeouts
    lateReplies := b.scheduler.stats.late
    degradedSync := b.scheduler.stats.degraded
    imuSeqGaps := b.assembler.stats.imuSeqGaps
    staleDropped := b.assembler.stats.staleDropped
    malformedChannels := b.dispatcher.stats.malformed
    rejectedCommands := b.dispatcher.stats.rejected
    sendFailures := b.connection.sendFailures
    openFailures := b.connection.openFailures
    messagesSent := b.messagesSent
    connectionEpoch := b.connection.epoch }

/-- A summary of the bridge for logs. -/
def describe [AutopilotLink L α] (b : Bridge L α) : String :=
  "MavlinkBridge \x7b connection: " ++ b.connection.describe ++ ", mode: " ++ b.scheduler.mode.describe
    ++ ", diagnostics: " ++ b.diagnostics.describe ++ " \x7d"

end Bridge

end HilBridge
