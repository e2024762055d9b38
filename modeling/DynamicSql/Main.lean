import DynamicSql.Mapper.CommandLine

/-!
# The program

Reads the files that the command line names, runs it, and writes its outcome.
-/

namespace DynamicSql.CommandLine

/-- The text of a file, or the reason why it cannot be read. -/
def readText (path : String) : IO (Except String String) := do
  match ← (IO.FS.readFile path).toBaseIO with
  | .ok text => return .ok text
  | .error e => return .error (toString e)

/-- The texts of the files that a command line reads. -/
def readTexts (words : List String) : IO Reader := do
  let paths := ((parse? words).map Request.files).getD []
  let texts ← paths.mapM fun path => return (path, ← readText path)
  return fun path => (texts.lookup path).getD (.error "file was not read")

/-- Tells of a failure; the result is the exit code. -/
def report (failure : Failure) : IO UInt32 := do
  IO.eprintln s!"Error: {failure.message}"
  return 1

/-- Writes an outcome; the result is the exit code. -/
def emit : Outcome → IO UInt32
  | .print text => do
    IO.println text
    return 0
  | .write path text => do
    match ← (IO.FS.writeFile path text).toBaseIO with
    | .ok _ => return 0
    | .error e => report (.fileRead (toString e))
  | .fail failure => report failure
  | .misuse => do
    IO.eprintln usageText
    return 2

end DynamicSql.CommandLine

/-- Runs the command line. -/
def main (words : List String) : IO UInt32 := do
  let read ← DynamicSql.CommandLine.readTexts words
  DynamicSql.CommandLine.emit (DynamicSql.CommandLine.run read words)
