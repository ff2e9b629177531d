import ToolGateway.Machine.Network

/-!
# The program

The surroundings of a command on a real machine. Everything else is decided by `Command.run`.
-/

namespace ToolGateway

/-- The surroundings on this machine. -/
def Machine.surroundings (files : Machine.OpenFiles) : Command.Surroundings IO where
  variableValue name := IO.getEnv name
  content := contentOf
  input := readInput
  print := printLine
  report line := reportText (line ++ "\n")
  tryOpen := openForAppending files
  freshNonce := return bytesOf (← IO.getRandomBytes Gcm.nonceLength.toUSize)
  listen := listen files

end ToolGateway

/-- Runs the command that the arguments ask for. -/
def main (arguments : List String) : IO UInt32 := do
  let files ← IO.mkRef []
  ToolGateway.Command.run (ToolGateway.Machine.surroundings files) arguments
