/-
  Folio — the program.

  The files that a command may read are read first; all else is `Program.run`.
-/
import Folio.Command.Run

namespace Folio

namespace Program

/-- How the program is called. -/
def usage : String :=
  String.join <| List.map (· ++ "\n")
    ["usage: folio [-h] [-v] command ...",
      "",
      "commands:",
      "  validate [--users FILE] [--json] [--workers N] schema files ...",
      "  inspect file",
      "  refs [--workers N] schema file files ...",
      "  graph [--missing-inverses] [--check] [--workers N] schema files ..."]

/-- The number of an error of the system, which may be given as negative. -/
def errorNumber (n : UInt32) : Nat := if n.toNat < 0x80000000 then n.toNat else 0x100000000 - n.toNat

/-- Why a file cannot be read, from an error of the system. -/
def fileError : IO.Error → FileError
  | .noFileOrDirectory .. => .notFound
  | .inappropriateType _ n _ => if errorNumber n = 21 then .isFolder else .notFolder
  | .permissionDenied _ n _ => .other (errorNumber n) "Permission denied"
  | .invalidArgument _ n details =>
    if errorNumber n = 36 then .nameTooLong else .other (errorNumber n) details
  | e => .other 5 (toString e)

/-- Reads a file. -/
def readFile (path : String) : IO (Except FileError Octets) :=
  if path.toList.contains '\x00' then pure (.error .nullCharacter)
  else
    try
      return .ok (← IO.FS.readBinFile path).toList
    catch e => return .error (fileError e)

/-- The files that words may lead to, as they are now. -/
def filesFor (words : List String) : IO Files := do
  match Invocation.ofWords words with
  | .error _ => return fun _ => .error .notFound
  | .ok i =>
    let found ← i.command.sources.mapM fun path => return (path, ← readFile path)
    return fun path => (found.lookup path).getD (.error .notFound)

end Program

end Folio

open Folio

/-- Runs the program. -/
def main (words : List String) : IO UInt32 := do
  let files ← Program.filesFor words
  match Program.run files words with
  | .done o =>
    IO.print o.out
    IO.eprint o.err
    return o.exit.toUInt32
  | .stopped .help =>
    IO.print Program.usage
    return 0
  | .stopped _ =>
    IO.eprint Program.usage
    return 2
  | .failed _ =>
    IO.eprintln "folio: unexpected failure"
    return 1
