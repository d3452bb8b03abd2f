import Reckoner.CommandLine

/-!
# The program

Reads the arguments, and lines from a prompt if there is no expression among them.  Durations are
measured here and nowhere else.
-/

namespace Reckoner

namespace Main

/-- Reads lines from the prompt until the input ends or a line quits. -/
partial def interact (session : Session) (input output : IO.FS.Stream) : IO Unit := do
  output.putStr Run.prompt
  output.flush
  let line ← input.getLine
  if !line.isEmpty then
    let before ← IO.monoNanosNow
    let (outcome, session) ← IO.lazyPure fun _ => session.submit line
    let after ← IO.monoNanosNow
    let session :=
      if outcome = .evaluated then session.timeLast (after - before) else session
    output.putStr (Run.response outcome session)
    if outcome != .quit then interact session input output

end Main

end Reckoner

open Reckoner in
def main (arguments : List String) : IO UInt32 := do
  let output ← IO.getStdout
  match CommandLine.ofArguments? arguments with
  | some options =>
    if options.expression.isNone then
      output.putStr Run.greeting
      Main.interact (Session.start options.calculator) (← IO.getStdin) output
      return 0
  | none => pure ()
  let run := Run.ofArguments arguments ""
  output.putStr run.output
  (← IO.getStderr).putStr run.errors
  return UInt32.ofNat run.exitCode
