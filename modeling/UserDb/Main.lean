import UserDb.Shell

/-!
# The command line

The shell on standard input and output: `Shell.converse`, whose lines are those
of the standard input and whose text goes to the standard output. A fault that
ends the session is reported on the error stream and in the exit code.
-/

namespace UserDb

/-- A stream whose lines are read one by one, each when it is asked for. -/
structure LineSource where
  stream : IO.FS.Stream

namespace LineSource

/-- Visits the lines until a visit is the last one or nothing is left. A stream
gives one line at a time, with its line feed, and an empty text at its end. -/
partial def forIn {β : Type} (source : LineSource) (state : β)
    (visit : Text → β → IO (ForInStep β)) : IO β := do
  match Text.lines (← source.stream.getLine).toList with
  | [] => return state
  | line :: _ =>
      match ← visit line state with
      | .done last => return last
      | .yield next => source.forIn next visit

instance : ForIn IO LineSource Text := ⟨forIn⟩

end LineSource

end UserDb

/-- The shell, starting without rows. -/
def main : IO UInt32 := do
  let input : UserDb.LineSource := ⟨← IO.getStdin⟩
  let output ← IO.getStdout
  let write (text : UserDb.Text) : IO Unit := do
    output.putStr (String.ofList text)
    output.flush
  let (ending, _) ← UserDb.Shell.converse write input .empty
  if let .fault f := ending then
    (← IO.getStderr).putStrLn (String.ofList f.message)
  return ending.exitCode
