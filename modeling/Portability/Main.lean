import Portability.CommandLine.Exit

/-!
# The program

Runs the command in the current directory.
-/

namespace Portability

/-- Reading and writing in the current directory. A file that is no text cannot be read. -/
def diskAccess : FileAccess IO where
  read path := do
    try
      return String.fromUTF8? (← IO.FS.readBinFile path)
    catch _ => return none
  write path text := do
    try
      IO.FS.writeBinFile path text.toUTF8
      return true
    catch _ => return false

end Portability

/-- Runs the command on the disk and ends with its status. -/
def main (arguments : List String) : IO UInt32 := do
  let stdout ← IO.getStdout
  let exit ← Portability.Exit.ofCommand Portability.diskAccess (← stdout.isTty) arguments
  stdout.putStr exit.stdout
  (← IO.getStderr).putStr exit.stderr
  return exit.status.toUInt32
