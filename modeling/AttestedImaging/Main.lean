import AttestedImaging.Host.Program

/-!
# The command

Runs the host program on the real command line, environment, files and clock.
-/

namespace AttestedImaging.Host

/-- A number of 256 bits from the system. -/
def drawScalar : IO Nat := do
  let bytes ← IO.getRandomBytes 32
  return Bytes.toNat bytes.toList

/-- The time since some start, in seconds with six places. -/
def stamp : IO String := do
  let micros := (← IO.monoNanosNow) / 1000
  let fraction := String.ofList ((toString (micros % 1000000)).toList.leftpad 6 '0')
  return toString (micros / 1000000) ++ "." ++ fraction ++ "s"

def attempt {α : Type} (action : IO α) : IO (Option α) := do
  try return some (← action) catch _ => return none

def runProgram : Program → IO UInt8
  | .done exitCode message => do
    IO.eprint message
    return exitCode
  | .print line next => do
    IO.print (line.render (← stamp))
    runProgram next
  | .warn line next => do
    IO.eprintln line
    runProgram next
  | .read path next => do
    let contents ← attempt (IO.FS.readBinFile path)
    runProgram (next (contents.map fun bytes => bytes.toList))
  | .write path contents next => do
    let written ← attempt (IO.FS.writeBinFile path ⟨contents.toArray⟩)
    runProgram (next written.isSome)
  | .clock next => do
    runProgram (next ((← IO.monoNanosNow) / 1000))

/-- The variables that the program looks at, with their values. -/
def environment : IO (List (String × String)) := do
  let names := "RUST_LOG" ::
    [Config.Setting.maxImageBytes, .maxSessions, .keyPolicy, .persist].map (·.variable)
  let found ← names.mapM fun name => do return (← IO.getEnv name).map (name, ·)
  return found.filterMap fun entry => entry

end AttestedImaging.Host

open AttestedImaging AttestedImaging.Host in
def main (arguments : List String) : IO UInt32 := do
  let found ← environment
  let draws ← (List.range 8).mapM fun _ => drawScalar
  let exitCode ← runProgram (Program.ofArguments arguments
    (fun name => Assoc.get? name found) { schedule := draws })
  return exitCode.toUInt32
