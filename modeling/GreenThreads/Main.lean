import GreenThreads.Demo

/-!
# Command line

Runs the demonstration on the environment of the process.
-/

namespace GreenThreads

def readEnvironment : IO (List (String × ByteArray)) := do
  let mut found := []
  for name in ["LOG", Config.stackSizeVariable, Config.guardPageVariable] do
    if let some value ← IO.getEnv name then
      found := (name, value.toUTF8) :: found
  return found

end GreenThreads

/-- Prints what the demonstration leaves behind and ends with its exit code. -/
def main : IO UInt32 := do
  let found ← GreenThreads.readEnvironment
  let result := GreenThreads.Demo.run fun name => found.lookup name
  for line in result.errors do
    IO.eprintln line
  for line in result.output do
    IO.println line
  return result.exitCode
