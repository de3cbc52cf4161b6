import StructuredMessage.Command.Run

namespace StructuredMessage

/-- Prints what a command line asks for. The exit code is 1 if that fails and 2 if nothing can be made of
the command line. -/
def runProgram (arguments : List String) : IO UInt32 := do
  match Command.run arguments with
  | .printed text =>
    IO.print text
    return 0
  | .failed message =>
    IO.eprintln message
    return 1
  | .misused => return 2

end StructuredMessage

def main (arguments : List String) : IO UInt32 :=
  StructuredMessage.runProgram arguments
