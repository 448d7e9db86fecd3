import CloudClient.CommandLine

/-!
# The program

The outer layer: arguments, environment and files go in, an outcome comes out. The program has no
connection of its own, so every request of this build stays unanswered.
-/

namespace CloudClient.Program

def readVariable (name : String) : IO String := return (← IO.getEnv name).getD ""

def settingsHome : IO String := do
  let home ← readVariable "XDG_CONFIG_HOME"
  if home.toList.head? = some '/' then return home
  else return (← readVariable "HOME") ++ "/.config"

def readFound (place : String) : IO ConfigFile := do
  try
    return .octets (← IO.FS.readBinFile place).data.toList
  catch _ =>
    return .absent

def eventLine (e : Event) : String :=
  (match e.level with
    | .error => "ERROR "
    | .warn => "WARN "
    | .info => "INFO "
    | .debug => "DEBUG ") ++ e.message

def appendLog (home : String) (level : CommandLine.LogLevel) (log : Log) : IO Unit := do
  IO.FS.createDirAll (home ++ "/lapi")
  let file ← IO.FS.Handle.mk (home ++ "/lapi/lapi.log") .append
  for e in log do
    if level.admits e.level then file.putStrLn (eventLine e)

def run (arguments : List String) : IO UInt32 := do
  let home ← settingsHome
  let place := home ++ "/lapi/config.yaml"
  let found ← readFound place
  let env : Environment := {
    token := ← readVariable "LAPI_TOKEN"
    baseUrl := ← readVariable "LAPI_BASE_URL" }
  let w : World := { network := .unreachable, now := ← IO.monoNanosNow }
  let (outcome, w) := CommandLine.run arguments place found env w
  if outcome.logLevel ≠ .off then appendLog home outcome.logLevel w.log
  IO.print outcome.output
  IO.eprint outcome.errors
  return UInt32.ofNat outcome.exitCode

end CloudClient.Program

def main (arguments : List String) : IO UInt32 := CloudClient.Program.run arguments
