import HilBridge.CommandLine.Arguments
import HilBridge.CommandLine.Log
import HilBridge.Config.Reader
import HilBridge.Connection.UdpLink
import HilBridge.Simulation

/-!
# `HilBridge.CommandLine.Session` — a run of the program, tick by tick

A session is a simulation of the built-in vehicle with a bridge to the configured autopilot. It is made from
the arguments and the text of the configuration file, and each tick moves it on and says how long the tick
should take.
-/

namespace HilBridge.CommandLine

/-- A run in progress. -/
structure Session where
  simulation : Simulation UdpLink Float
  ticks : Nat

/-- The settings of a run: those of the file, if one is given, changed by the arguments. -/
def Arguments.settings (a : Arguments) (readFile : String → Option String) :
    Except String (Config Float) := do
  let config ←
    match a.config with
    | none => .ok .default
    | some path =>
      match readFile path with
      | none => .error "Configuration error: IO error"
      | some text =>
        match Config.read text with
        | .ok config => .ok config
        | .error .unreadable => .error "Configuration error: Config parse error"
        | .error (.refused e) => .error e.startMessage
  .ok
    { config with
      hostname := a.host.getD config.hostname
      port := a.port.getD config.port
      lockstep := config.lockstep || a.lockstep }

namespace Session

/-- Ticks between two reports of progress. -/
def summaryInterval : Nat :=
  2500

/-- A session with the given settings, which has started to look for the autopilot. -/
def start (config : Config Float) (network : Network) (names : NameService) :
    Except String (List LogEvent × Session) :=
  match Bridge.configure config (UdpLink.new (.ofConfig config) network) names with
  | .error e => .error e.startMessage
  | .ok bridge =>
    let (_, bridge) := bridge.mapConnection Connection.start
    .ok
      ([.hostTopics (config.topic config.topics.imu) (config.topic config.topics.pose)
          (config.topic config.topics.motorSpeed),
        .configured config.hostname config.port bridge.scheduler.mode config.channels.length],
       ⟨⟨bridge, .new (.ofConfig config)⟩, 0⟩)

/-- The progress after so many seconds. -/
def summary (s : Session) (wall : Float) : LogEvent :=
  let vehicle := s.simulation.vehicle
  .running s.ticks vehicle.time wall vehicle.state.altitude vehicle.state.yaw
    s.simulation.bridge.dispatcher.armed s.simulation.bridge.diagnostics

/--
How long a tick with a given outcome should take, in nanoseconds. Without a pace of its own it takes as long
as what it simulates, unless the autopilot has answered.
-/
def tickNanoseconds? (s : Session) (status : SyncStatus) : Option Nat :=
  let step := s.simulation.vehicle.settings.step
  match s.simulation.bridge.scheduler.pacing step with
  | .nanoseconds count => some count
  | .unpaced => some (if status = .acknowledged then 0 else step * 1000)
  | .impossible => none

/-- What a tick came to. -/
inductive TickOutcome where
  /-- The bridge was told to shut down. -/
  | stopped (session : Session)
  /-- There is no span of time that the tick could take. -/
  | broken (session : Session)
  | done (events : List LogEvent) (nanoseconds : Nat) (session : Session)

/-- One tick, so many seconds after the start. -/
def tick (s : Session) (wall : Float) : TickOutcome :=
  let (status, simulation) := s.simulation.step
  if status = .shutdown then .stopped { s with simulation }
  else
    let s : Session := ⟨simulation, s.ticks + 1⟩
    let events := if s.ticks % summaryInterval = 0 then [s.summary wall] else []
    match s.tickNanoseconds? status with
    | some nanoseconds => .done events nanoseconds s
    | none => .broken s

/-- The end of a session. -/
def finish (s : Session) : LogEvent :=
  .complete s.ticks s.simulation.vehicle.time

end Session

/-- How the program ends. -/
structure Outcome where
  exitCode : UInt8
  events : List LogEvent

/-- The exit code of a run that fails. -/
def failureCode : UInt8 :=
  1

/-- The exit code when arguments are refused. -/
def usageCode : UInt8 :=
  2

/-- The exit code of a run that breaks off. -/
def brokenCode : UInt8 :=
  101

/-- So many ticks more, all at once and without the waiting between them. -/
def Session.run (s : Session) (events : List LogEvent) : Nat → Outcome
  | 0 => ⟨0, events ++ [s.finish]⟩
  | n + 1 =>
    match s.tick 0.0 with
    | .stopped s => ⟨0, events ++ [s.finish]⟩
    | .broken _ => ⟨brokenCode, events⟩
    | .done more _ s => s.run (events ++ more) n

/-- A run of so many ticks. -/
def Arguments.run (a : Arguments) (readFile : String → Option String) (network : Network)
    (ticks : Nat) : Outcome :=
  match a.settings readFile >>= fun c => Session.start c network (.numeric c.hostname c.port) with
  | .error reason => ⟨failureCode, [.failed reason]⟩
  | .ok (events, session) => session.run events ticks

end HilBridge.CommandLine
