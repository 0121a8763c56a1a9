/-
  Folio — what commands do.

  * `Command.answer` is the job of a command;
  * `Program.run` is all that the words of a command line lead to.
-/
import Folio.Command.Basic
import Folio.Command.Display
import Folio.Command.Job
import Folio.Validation.Render

namespace Folio

/-- What a command answers. -/
structure Answer where
  /-- Is all well? -/
  ok : Bool
  text : String
  deriving Repr, DecidableEq

namespace Command

/-- The paths of the documents that a command on one of them loads. -/
def withFile (file : String) (files : List String) : List String :=
  if (files.map Path.normalized).contains (Path.normalized file) then files else file :: files

/-- The job of a command. -/
def answer (files : Files) : Command → Job Answer
  | validate schema paths users json workers => do
    let s ← Job.schema files schema
    let directory ← (users.filter (!·.isEmpty)).mapM (Job.users files)
    let docs ← Job.documents files paths workers
    let r ← Job.report s directory docs
    return ⟨r.ok, if json then r.json.write else r.text⟩
  | inspect path => do
    let d ← Job.document files path
    let t ← Job.ofExcept (.ofDisplay path) d.json
    return ⟨true, t.write⟩
  | refs schema file paths workers => do
    let s ← Job.schema files schema
    let docs ← Job.documents files (withFile file paths) workers
    let g ← Job.graph s docs
    return ⟨true, (g.refsJson file).write⟩
  | graph schema paths missing workers => do
    let s ← Job.schema files schema
    let docs ← Job.documents files paths workers
    let g ← Job.graph s docs
    return ⟨true, (if missing then g.missingJson else g.edgesJson).write⟩
  | health schema paths workers => do
    let s ← Job.schema files schema
    let docs ← Job.documents files paths workers
    let g ← Job.graph s docs
    return ⟨g.health.all (!·.isError), g.healthJson.write⟩

/-- The paths that a command may read. -/
def sources : Command → List String
  | validate schema paths users _ _ => schema :: users.toList ++ paths
  | inspect path => [path]
  | refs schema file paths _ => schema :: file :: paths
  | graph schema paths _ _ | health schema paths _ => schema :: paths

end Command

/-- What a program leaves when it has ended. -/
structure Outcome where
  exit : Nat
  /-- What it has written to its output. -/
  out : String
  /-- What it has written on errors. -/
  err : String
  deriving Repr, DecidableEq

namespace Invocation

/-- Lines as they are written. -/
def written (lines : List String) : String := String.join (lines.map (· ++ "\n"))

/-- Carries a command out.  A failure of which nothing is said is left to the
    caller. -/
def run (files : Files) (i : Invocation) : Except Failure Outcome :=
  let (result, notes) := (i.command.answer files).run.run []
  let noted := if i.verbose then notes.map Note.line else []
  match result with
  | .ok a => .ok ⟨if a.ok then 0 else 1, written [a.text], written noted⟩
  | .error f =>
    match f.line? with
    | some line => .ok ⟨1, "", written (noted ++ [line])⟩
    | none => .error f

end Invocation

/-- How a program ends. -/
inductive Ending where
  | done (o : Outcome)
  /-- The command line is not followed. -/
  | stopped (s : WordStop)
  /-- A failure of which nothing is said. -/
  | failed (f : Failure)
  deriving DecidableEq

/-- All that the words of a command line lead to. -/
def Program.run (files : Files) (words : List String) : Ending :=
  match Invocation.ofWords words with
  | .error s => .stopped s
  | .ok i =>
    match i.run files with
    | .ok o => .done o
    | .error f => .failed f

end Folio
