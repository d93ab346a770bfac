import DocRepair.Command.Words
import DocRepair.Files.Disk
import DocRepair.Text.Blank
import DocRepair.Text.Lines
import DocRepair.Text.Utf8

namespace DocRepair.Command

/-- What a command that has been run leaves. -/
structure Finished where
  /-- Negative for a command that was ended by a signal. -/
  exitCode : Int := 0
  output : List UInt8 := []
  errors : List UInt8 := []
  deriving DecidableEq, Repr

/-- Why a command cannot be started. -/
inductive LaunchFault where
  | system (e : SystemError)
  | zeroByte
  deriving DecidableEq, Repr

def LaunchFault.message : LaunchFault → Text
  | .system e => e.message
  | .zeroByte => "embedded null byte"

/-- Starts the command with a name and arguments, and waits for its end. -/
abbrev Launcher := (name : Text) → (arguments : List Text) → Except LaunchFault Finished

/-- Why there is no output of a command. -/
inductive RunFault where
  /-- The command line has no words. -/
  | noCommand
  | failed (command reason : Text)
  deriving DecidableEq, Repr

def RunFault.message : RunFault → Text
  | .noCommand => "list index out of range"
  | .failed command reason =>
    "PHPStan command failed (" ++ reason ++ "). " ++
      "Make sure PHPStan is installed and configured. Command: " ++ command

/-- The text of what a command has written: every line end becomes one line feed. -/
def writtenText (bytes : List UInt8) : Except Text Text :=
  ((Utf8.decodeStrict bytes).map Text.universalNewlines).mapError (·.message)

/-- The output of a command that has ended, or the reason why it has failed. -/
def Finished.result (f : Finished) : Except Text Text := do
  let output ← writtenText f.output
  let errors ← writtenText f.errors
  if f.exitCode != 0 && output.strip.isEmpty then
    if errors.strip.isEmpty then throw ("exit code " ++ Text.ofInt f.exitCode)
    else throw errors.strip
  return output

/-- Runs a command line and gives its output. -/
def run (launch : Launcher) (command : Text) : Except RunFault Text :=
  match words command with
  | .error fault => .error (.failed command fault.message)
  | .ok [] => .error .noCommand
  | .ok (name :: arguments) =>
    match launch name arguments with
    | .error fault => .error (.failed command fault.message)
    | .ok finished => finished.result.mapError (.failed command ·)

end DocRepair.Command
