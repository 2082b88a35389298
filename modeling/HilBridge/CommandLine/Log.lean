import HilBridge.Bridge.Diagnostics
import HilBridge.CommandLine.LogFilter

/-!
# `HilBridge.CommandLine.Log` — what a run reports
-/

namespace HilBridge.CommandLine

/-- What a run reports. -/
inductive LogEvent where
  | hostTopics (imu pose motorSpeed : String)
  | configured (host : String) (port : UInt16) (mode : TimeMode) (channels : Nat)
  /-- Progress; `time` are microseconds of simulation, and `wall` the seconds that have really passed. -/
  | running (tick time : Nat) (wall altitude yaw : Float) (armed : Bool) (diagnostics : Diagnostics)
  | complete (ticks time : Nat)
  | failed (reason : String)

namespace LogEvent

def level : LogEvent → LogLevel
  | .hostTopics .. => .debug
  | .failed .. => .error
  | _ => .info

/-- The part of the program that the event comes from. -/
def part : LogEvent → String
  | .hostTopics .. => "gz_mavlink_bridge::bridge"
  | .configured .. => "gz_mavlink_bridge::bridge"
  | _ => "gz_mavlink_bridge"

/-- What happened. -/
def message : LogEvent → String
  | .hostTopics .. => "host topics"
  | .configured .. => "bridge configured"
  | .running .. => "bridge running"
  | .complete .. => "simulation complete"
  | .failed reason => reason

/-- The particulars, each with its name. -/
def particulars : LogEvent → List (String × String)
  | .hostTopics imu pose motorSpeed => [("imu", imu), ("pose", pose), ("motor_speed", motorSpeed)]
  | .configured host port mode channels =>
    [("host", host), ("port", s!"{port.toNat}"), ("mode", mode.describe), ("channels", s!"{channels}")]
  | .running tick time wall altitude yaw armed diagnostics =>
    [("tick", s!"{tick}"), ("sim_time_s", Binary64.debugText (Float.ofNat time / 1000000.0)),
      ("wall_s", Binary64.debugText wall), ("altitude_m", Binary64.debugText altitude),
      ("yaw_rad", Binary64.debugText yaw), ("armed", s!"{armed}"), ("diagnostics", diagnostics.describe)]
  | .complete ticks time => [("ticks", s!"{ticks}"), ("sim_time_us", s!"{time}")]
  | .failed _ => []

/-- The names of all that the event says. -/
def fieldNames (e : LogEvent) : List String :=
  "message" :: e.particulars.map (·.1)

/-- The particulars in a row. -/
def details (e : LogEvent) : String :=
  " ".intercalate (e.particulars.map fun (name, value) => name ++ "=" ++ value)

/-- The event as a line. -/
def line (e : LogEvent) : String :=
  " ".intercalate ([e.level.name, e.part ++ ":", e.message, e.details].filter (!·.isEmpty))

def isShown (filter : LogFilter) (e : LogEvent) : Bool :=
  filter.shows e.level e.part e.fieldNames

end LogEvent

end HilBridge.CommandLine
