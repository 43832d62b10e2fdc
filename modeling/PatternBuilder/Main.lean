import PatternBuilder.Command

/-!
# The program

Reads the arguments and standard input, and puts out what the command reports. Standard input is
read after the pattern is printed, and only when no input is given as an argument. Logging is on
when the environment asks for all messages.
-/
namespace PatternBuilder

def present (report : Command.Report) (logging : Bool) : IO Unit := do
  let stdout ← IO.getStdout
  let stderr ← IO.getStderr
  stdout.putStr (String.ofList report.stdout)
  stdout.flush
  stderr.putStr (String.ofList (report.stderr logging))
  stderr.flush

end PatternBuilder

open PatternBuilder in
def main (arguments : List String) : IO UInt32 := do
  let logging := (← IO.getEnv "RUST_LOG") == some "fluent_regex=trace"
  let (opening, job) := Command.start (arguments.map String.toList)
  present opening logging
  match job with
  | none => return opening.code.toUInt32
  | some job =>
    let stdin ← if job.given.isSome then pure .empty else (← IO.getStdin).readBinToEnd
    let closing := job.finish stdin
    present closing logging
    return (opening.followedBy closing).code.toUInt32
