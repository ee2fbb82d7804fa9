import UserDb.Execution
import UserDb.Text.Lines

/-!
# The shell

At the prompt, lines are read and answered one at a time. A blank line is
answered by nothing at all, a rejected one by the rejection's message, every
other by the output of its command. The session is over when the input ends,
after `.exit`, or at a fault that is no rejection; the last two answer nothing.

`react` is the answer to one line and `interact` the whole session, as the text
that appears, the way it ended and the table it left behind. The prompt appears
before every line that is read and before the end of the input is noticed, so
the text always ends in one (`prompt_suffix_interact`).

`converse` is the loop that the command line runs: it takes the lines from any
source, one at a time, and shows each piece of text as soon as it is there. On a
list of lines it shows the output of `interact` and ends as this does
(`converse_lines`).
-/

namespace UserDb.Shell

/-- What is shown when the next line is awaited. -/
def prompt : Text := Text.ofString "db > "

/-- How a session ends. -/
inductive Ending
  | endOfInput
  | exit
  | fault (f : Fault)
deriving DecidableEq, Repr

/-- The exit code of a program whose session ended so. -/
def Ending.exitCode : Ending → UInt32
  | endOfInput => 0
  | exit => 0
  | fault _ => 1

/-! ## One line -/

/-- What a line does to the session. -/
inductive Reaction
  | answered (text : Text) (table : Table)
  | ended (ending : Ending) (table : Table)
deriving DecidableEq, Repr

/-- The reaction to the outcome of a line that is not blank. -/
def Reaction.ofOutcome (o : Outcome Reply) : Reaction :=
  match o.answer with
  | .ok ⟨_, .exit⟩ => .ended .exit o.table
  | .ok ⟨output, .proceed⟩ => .answered output o.table
  | .error (.rejected why) => .answered (why.message ++ ['\n']) o.table
  | .error f => .ended (.fault f) o.table

/-- The reaction to a line. -/
def react (table : Table) (line : Text) : Reaction :=
  if line.strip = [] then .answered [] table else .ofOutcome (run table line)

/-! ## Sessions -/

/-- A whole session. -/
structure Transcript where
  /-- Everything that was shown. -/
  output : Text
  /-- How it ended. -/
  ending : Ending
  /-- The table it left behind. -/
  table : Table
deriving DecidableEq, Repr

/-- The session on the given lines, starting with `table`. -/
def interact (table : Table) : List Text → Transcript
  | [] => ⟨prompt, .endOfInput, table⟩
  | line :: rest =>
      match react table line with
      | .answered text table =>
          let later := interact table rest
          { later with output := prompt ++ text ++ later.output }
      | .ended ending table => ⟨prompt, ending, table⟩

theorem prompt_suffix_interact (table : Table) (lines : List Text) :
    prompt <:+ (interact table lines).output := by
  induction lines generalizing table with
  | nil => exact List.suffix_refl prompt
  | cons line rest ih =>
      unfold interact
      split
      · next text table' _ => exact (ih table').trans (List.suffix_append ..)
      · exact List.suffix_refl prompt

/-- The session on an input text, starting without rows. -/
def session (input : Text) : Transcript := interact .empty input.lines

/-! ## The loop -/

section

variable {m : Type → Type} [Monad m]

/-- The session on the lines of a source, starting with `table`. The text is
written piece by piece, a prompt before each line is taken. -/
def converse {source : Type} [ForIn m source Text] (write : Text → m Unit) (lines : source)
    (table : Table) : m (Ending × Table) := do
  let mut table := table
  write prompt
  for line in lines do
    match react table line with
    | .answered text next =>
        write text
        write prompt
        table := next
    | .ended ending last => return (ending, last)
  return (.endOfInput, table)

/-- If pieces may be written together, the session on a list of lines writes the
output of its transcript, and ends like it. -/
theorem converse_lines [LawfulMonad m] {write : Text → m Unit}
    (happend : ∀ s t, write (s ++ t) = do write s; write t) (lines : List Text) (table : Table) :
    converse write lines table = do
      write (interact table lines).output
      return ((interact table lines).ending, (interact table lines).table) := by
  induction lines generalizing table with
  | nil => simp [converse, interact]
  | cons line rest ih =>
      unfold converse at ih ⊢
      simp only [List.forIn_cons, interact]
      cases react table line with
      | answered text next =>
          -- The prompt that the loop goes on with is the first of the session on the rest.
          have hrest := ih next
          simp only [happend, bind_assoc, pure_bind] at hrest ⊢
          rw [← hrest]
      | ended ending last => simp

end

end UserDb.Shell
