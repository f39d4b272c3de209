import ClipExchange.Command.Arguments

/-!
# The program

The program gathers what a command needs to know, runs the command, and carries out what it
left behind. Everything in between is in `Command.run`.
-/

namespace ClipExchange

/-- The failure that an error of the system stands for. -/
def failureOf (e : IO.Error) : StreamFailure :=
  match e with
  | .noFileOrDirectory .. => .notFound
  | .inappropriateType _ 21 _ => .isDirectory
  | _ => ⟨.otherFailure, toString e⟩

/-- What a path names. -/
def probe (path : String) : IO (List (String × FileEntry)) := do
  try
    let data ← IO.FS.readBinFile path
    return [(path, .file data.toList)]
  catch e =>
    if failureOf e = .isDirectory then return [(path, .directory)] else return []

/-- The directory for configurations. -/
def configDirectory : IO String := do
  match ← IO.getEnv "XDG_CONFIG_HOME", ← IO.getEnv "HOME" with
  | some directory, _ => return directory
  | none, home => return home.getD "" ++ "/.config"

/-- A random identifier of version four. -/
def randomId : IO TransactionId := do
  let random ← IO.getRandomBytes 16
  let marked := random.toList.zipIdx.map fun (b, i) =>
    if i = 6 then b % 16 + 64 else if i = 8 then b % 64 + 128 else b
  return (TransactionId.ofOctets? marked).getD default

/-- Write the file that a command left behind. -/
def carryOut (path : String) (before after : Files) : IO Unit := do
  match after.entry? path with
  | some (.file data) =>
    if before.entry? path ≠ some (.file data) then
      IO.FS.writeBinFile path (ByteArray.mk data.toArray)
  | _ => return

/-- Run a command, and give the exit status. -/
def execute (invocation : Invocation) : IO UInt32 := do
  let isExplicit := invocation.config.isSome
  let configPath := invocation.config.getD (Config.defaultPath (← configDirectory))
  let found ← (configPath :: invocation.command.paths).mapM probe
  let files : Files := ⟨found.flatten⟩
  let desktop := { Desktop.empty with openError := some .notSupported }
  let around : Surroundings := ⟨files, desktop, .beginningWith (← randomId)⟩
  let (outcome, after) := match Config.load files configPath isExplicit with
    | .error failure => (Outcome.failed failure, around)
    | .ok config => invocation.command.run config around
  IO.print outcome.output
  IO.eprint outcome.errorOutput
  if let some path := invocation.command.writtenPath? then
    carryOut path files after.files
  return UInt32.ofNat outcome.status

end ClipExchange

/-- Run the command that the arguments ask for. -/
def main (arguments : List String) : IO UInt32 := do
  match ClipExchange.Invocation.ofArguments arguments with
  | .ok invocation => ClipExchange.execute invocation
  | .error reason =>
    IO.eprintln ("error: " ++ reason ++ "\n\n" ++ ClipExchange.Invocation.usage)
    return 2
