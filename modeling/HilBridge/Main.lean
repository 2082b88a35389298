import HilBridge.CommandLine.Session

/-!
# `HilBridge.Main` — the program

Reads the arguments and the configuration file, keeps the time of the ticks and prints what is to be shown.
-/

namespace HilBridge.CommandLine

/-- Prints those events that the filter shows. -/
def printEvents (filter : LogFilter) (events : List LogEvent) : IO Unit := do
  let out ← IO.getStdout
  for event in events do
    if event.isShown filter then out.putStrLn event.line
  out.flush

/-- Runs a session that began at a moment for so many ticks, or until it stops by itself. -/
partial def runLive (filter : LogFilter) (limit : Option Nat) (began : Nat) (s : Session) : IO UInt32 := do
  if limit.any (· ≤ s.ticks) then
    printEvents filter [s.finish]
    return 0
  let wall := Float.ofNat ((← IO.monoMsNow) - began) / 1000.0
  match s.tick wall with
  | .stopped s =>
    printEvents filter [s.finish]
    return 0
  | .broken _ => return brokenCode.toUInt32
  | .done events nanoseconds s =>
    printEvents filter events
    IO.sleep (UInt32.ofNat (nanoseconds / 1000000))
    runLive filter limit began s

/-- The text of the configured file, if it can be read. -/
def readConfigFile (a : Arguments) : IO (String → Option String) := do
  match a.config with
  | none => return fun _ => none
  | some path =>
    try
      let text ← IO.FS.readFile path
      return fun _ => some text
    catch _ => return fun _ => none

/-- Does what the arguments ask for, and shows what a filter lets through. -/
def serve (filter : LogFilter) (arguments : List String) : IO UInt32 := do
  match Request.ofArguments arguments with
  | .error e =>
    (← IO.getStderr).putStrLn ("error: " ++ e.message)
    return usageCode.toUInt32
  | .ok .help =>
    (← IO.getStdout).putStrLn helpText
    return 0
  | .ok .version =>
    (← IO.getStdout).putStrLn versionText
    return 0
  | .ok (.run a) =>
    let readFile ← readConfigFile a
    match a.settings readFile >>= fun c => Session.start c .absent (.numeric c.hostname c.port) with
    | .error reason =>
      printEvents filter [.failed reason]
      return failureCode.toUInt32
    | .ok (events, session) =>
      printEvents filter events
      runLive filter a.ticks (← IO.monoMsNow) session

end HilBridge.CommandLine

/-- The program. What it shows is set by a variable of its surroundings. -/
def main (arguments : List String) : IO UInt32 := do
  let setting ← IO.getEnv "BRIDGE_LOG"
  match setting.elim (some .standard) HilBridge.CommandLine.LogFilter.ofText? with
  | some filter => HilBridge.CommandLine.serve filter arguments
  | none => return HilBridge.CommandLine.brokenCode.toUInt32
