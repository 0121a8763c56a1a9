/-
  Folio — commands.

  * `Invocation.ofWords` is the command that the words of a command line call
    for.
-/
import Folio.Command.Words
import Folio.File.Load

namespace Folio

/-- A command. -/
inductive Command where
  /-- Validates documents, with the users of a file if one is named. -/
  | validate (schema : String) (files : List String) (users : Option String) (json : Bool)
      (workers : Int)
  /-- Shows the header and the outline of a document. -/
  | inspect (file : String)
  /-- Shows the edges of a document. -/
  | refs (schema file : String) (files : List String) (workers : Int)
  /-- Shows the edges of a graph and its cycles, or the declarations it lacks. -/
  | graph (schema : String) (files : List String) (missing : Bool) (workers : Int)
  /-- Tells what is odd about a graph. -/
  | health (schema : String) (files : List String) (workers : Int)
  deriving Repr, DecidableEq

/-- A command and whether it tells what it does. -/
structure Invocation where
  verbose : Bool
  command : Command
  deriving Repr, DecidableEq

namespace Command

/-! ## Grammars -/

/-- The option that calls for help. -/
def helpRule : OptionRule := ⟨"help", some 'h', .help⟩

/-- The option for the number of documents that are read at a time. -/
def workersRule : OptionRule := ⟨"workers", none, .number⟩

/-- The options before a command, and the command. -/
def grammar : Grammar := ⟨[helpRule, ⟨"verbose", some 'v', .flag⟩], [.command]⟩

/-- The words after each command. -/
def grammarOf? : String → Option Grammar
  | "validate" =>
    some ⟨[helpRule, ⟨"users", none, .text⟩, ⟨"json", none, .flag⟩, workersRule],
      [.one, .several]⟩
  | "inspect" => some ⟨[helpRule], [.one]⟩
  | "refs" => some ⟨[helpRule, workersRule], [.one, .one, .several]⟩
  | "graph" =>
    some ⟨[helpRule, ⟨"missing-inverses", none, .flag⟩, ⟨"check", none, .flag⟩, workersRule],
      [.one, .several]⟩
  | _ => none

/-! ## Reading -/

/-- The command with a name and the words after it. -/
def ofReading? (name : String) (r : Reading) : Option Command :=
  let workers := (r.number? "workers").getD Document.defaultWorkers
  match name, r.places with
  | "validate", [[schema], files] =>
    some (.validate schema files (r.text? "users") (r.has "json") workers)
  | "inspect", [[file]] => some (.inspect file)
  | "refs", [[schema], [file], files] => some (.refs schema file files workers)
  | "graph", [[schema], files] =>
    some (if r.has "check" then .health schema files workers
      else .graph schema files (r.has "missing-inverses") workers)
  | _, _ => none

end Command

namespace Invocation

/-- The command with a name that words after it call for. -/
def commandOf (name : String) (words : List String) :
    Except WordStop (Command × List String) :=
  match Command.grammarOf? name with
  | none => .error .wrong
  | some g =>
    match g.read words with
    | .error e => .error e
    | .ok r =>
      match Command.ofReading? name r with
      | none => .error .wrong
      | some c => .ok (c, r.extra)

/-- The command that words call for.  No word may be left. -/
def ofWords (words : List String) : Except WordStop Invocation :=
  match Command.grammar.read words with
  | .error e => .error e
  | .ok r =>
    match r.places with
    | [name :: rest] =>
      match commandOf name rest with
      | .error e => .error e
      | .ok (command, extra) =>
        if (r.extra ++ extra).isEmpty then .ok ⟨r.has "verbose", command⟩
        else .error .wrong
    | _ => .error .wrong

end Invocation

end Folio
