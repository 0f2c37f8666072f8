import FilterQuery.Console

/-!
# The command line

`filterquery [DEFINITION [TABLE]]` answers the lines of standard input.
-/

namespace FilterQuery.Console

/-- The bytes of a file; one that cannot be read counts as missing. -/
def readFile (path : String) : IO (Except Definition.FileFault ByteArray) := do
  match ← (IO.FS.readBinFile path).toBaseIO with
  | .ok content => return .ok content
  | .error _ => return .error .notFound

/-- Asks for the next line of standard input. -/
def ask : IO Prompted := do
  match ← ((← IO.getStdin).getLine).toBaseIO with
  | .ok line =>
    if line.isEmpty then return .ended
    -- the bytes of a line come unchecked
    return if (String.fromUTF8? line.toUTF8).isSome then .line line else .failed
  | .error _ => return .failed

/-- Prints lines at once. -/
def say (lines : List String) : IO Unit := do
  lines.forM IO.println
  (← IO.getStdout).flush

/-- Takes turns with standard input, as `converse` does with what is at hand. -/
partial def converseInput (d : Definition) (table : String) : IO UInt32 := do
  match turn d table (← ask) with
  | .answered lines =>
    say lines
    converseInput d table
  | .over exitCode => return exitCode.toUInt32

end FilterQuery.Console

open FilterQuery

def main (args : List String) : IO UInt32 := do
  let path := Console.pathOf args
  let d := Console.definitionOf path (← Console.readFile path)
  Console.say (Console.header d)
  Console.converseInput d (Console.tableOf args)
