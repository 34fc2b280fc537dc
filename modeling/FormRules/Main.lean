import FormRules.CheckFiles
import FormRules.Yaml.Document

/-!
# The command line

Looks at the files whose paths are given as arguments, runs the check on them and prints what it
says.
-/

namespace FormRules

/-- The system's number for reading a directory as if it were a file. -/
def directoryCode : UInt32 := 21

/-- The number for a name or path that is too long; it comes negated from where paths are resolved. -/
def lengthCode : UInt32 := 0 - 36

/-- What a path leads to in the file system. -/
def lookAt (path : String) : IO Found := do
  try
    let bytes ← IO.FS.readBinFile (Text.shown path)
    return .file bytes.toList
  catch
    | .inappropriateType _ code _ =>
      return if code = directoryCode then .directory else .missing
    | .noFileOrDirectory .. => return .missing
    | .invalidArgument _ code _ => return if code = lengthCode then .tooLong else .missing
    | e => throw e

/-- What the given paths lead to, looked at beforehand. -/
def lookAtAll (paths : List String) : IO (Fields Found) :=
  paths.mapM fun path => do
    let path := Path.normalize path
    return (path, ← lookAt path)

/-- The reader of the files. -/
def reader : RuleFile.Reader := Yaml.Document.read "the text breaks the grammar of documents"

end FormRules

/-- Runs the check on the files given as arguments. -/
def main (args : List String) : IO UInt32 := do
  let args := args.map FormRules.Text.ofString
  let found ← FormRules.lookAtAll args
  let find (path : String) := (FormRules.Fields.get? path found).getD .missing
  let t := FormRules.CheckFiles.run FormRules.reader find args
  IO.print (FormRules.Text.shown t.output)
  match t.outcome with
  | .ok code => return code.toUInt32
  | .error failure =>
    IO.eprintln (FormRules.Text.shown failure.message)
    return 1
