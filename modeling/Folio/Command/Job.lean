/-
  Folio — jobs.

  A job loads and computes, and on the way it notes what it has done.  A failure
  ends it; what has been noted stays.

  * `Failure.line?` is what is said of a failure.  Failures of which nothing is
    said are not expected, and end the program.
-/
import Folio.Command.Display
import Folio.File.Load
import Folio.Graph.Basic

namespace Folio

/-! ## Failures -/

/-- Why a command does not come to its end. -/
inductive Failure where
  | schema (path : String) (e : SourceError SchemaError)
  | users (path : String) (e : SourceError ConfigError)
  /-- One of several documents cannot be loaded. -/
  | documents (e : LoadError)
  /-- The document that is to be shown cannot be loaded, or a value in its header
      has no text. -/
  | document (path : String) (e : LoadError)
  /-- A key in a header cannot be shown. -/
  | key
  deriving DecidableEq

namespace Failure

/-- The failure to show a value of a document. -/
def ofDisplay (path : String) : DisplayError → Failure
  | .key => key
  | .number e => document path (.misfit (.number e))

/-- What is said of a file that is missing. -/
def missing (what path : String) : String := what ++ " not found: " ++ path

/-- What is said of a file that cannot be read. -/
def unreadable (path : String) (e : FileError) : String :=
  "Cannot read file: " ++ e.message path

/-- What is said of a failure. -/
def text? : Failure → Option String
  | schema path (.file (.file .notFound)) => some (missing "Schema file" path)
  | schema path (.source (.located p l)) =>
    some ("Invalid schema " ++ path ++ ": " ++ (SchemaError.located p l).full)
  | users path (.file (.file .notFound)) => some (missing "Users file" path)
  | users _ (.source (.misfit _)) => none
  | users _ (.source e) => some ("Invalid users config: " ++ e.message)
  | documents (.file path e) =>
    if e.systemError?.isSome then some (unreadable path e) else some (e.message path)
  | documents e => e.message?
  | document path (.file _ .notFound) => some (missing "File" path)
  | document path (.file _ e) =>
    if e.systemError?.isSome then some (unreadable path e) else none
  | _ => none

/-- The line that is written of a failure. -/
def line? (f : Failure) : Option String := f.text?.map ("Error: " ++ ·)

end Failure

/-! ## Notes -/

/-- What a job has done. -/
inductive Note where
  | compiledSchema (s : Schema)
  | compiledUsers (d : Directory)
  /-- The header of a document is wrong. -/
  | headerError (path : String) (e : HeaderError)
  | loaded (documents : Nat) (workers : Int)
  /-- A document has the type of its folder. -/
  | inferred (type path : String)
  | validated (r : Report)
  | builtGraph (g : Graph)

/-- The line that is written of a note. -/
def Note.line (n : Note) : String :=
  let (source, text) : String × String :=
    match n with
    | compiledSchema s =>
      ("schema", "compiled schema: " ++ toString s.types.length ++ " type(s), " ++
        toString s.relations.length ++ " relation(s), " ++ toString s.rules.length ++
        " ref-format rule(s)")
    | compiledUsers d =>
      ("users", "compiled user directory: " ++ toString d.users.length ++ " user(s), " ++
        toString d.teams.length ++ " team(s)")
    | headerError path e => ("document", "header error in " ++ path ++ ": " ++ e.full)
    | loaded documents workers =>
      ("loader", "loaded " ++ toString documents ++ " document(s) with " ++
        toString workers ++ " worker(s)")
    | inferred type path =>
      ("validator", "inferred type " ++ type ++ " for " ++ path ++ " from folder")
    | validated r =>
      ("validator", "validated " ++ toString r.files.length ++ " document(s): " ++
        toString r.errors ++ " error(s), " ++ toString r.warnings ++ " warning(s), user mode " ++
        r.userMode)
    | builtGraph g =>
      ("graph", "built relation graph: " ++ toString g.declared.length ++ " declared, " ++
        toString g.edges.length ++ " normalized edge(s)")
  "DEBUG mdstore." ++ source ++ ": " ++ text

/-! ## Jobs -/

/-- A computation that makes notes and may fail. -/
abbrev Job := ExceptT Failure (StateM (List Note))

namespace Job

/-- Makes some notes. -/
def note (ns : List Note) : Job Unit := modify (· ++ ns)

/-- Goes on with a result, or fails. -/
def ofExcept {ε α : Type} (failure : ε → Failure) : Except ε α → Job α
  | .ok a => pure a
  | .error e => throw (failure e)

/-- Loads a schema. -/
def schema (files : Files) (path : String) : Job Schema := do
  let s ← ofExcept (.schema path) (Schema.load files path)
  note [.compiledSchema s]
  return s

/-- Loads users. -/
def users (files : Files) (path : String) : Job Directory := do
  let d ← ofExcept (.users path) (Directory.load files path)
  note [.compiledUsers d]
  return d

/-- The note on the header of a document, if it is wrong. -/
def headerNote? (d : Document) : Option Note :=
  d.headerError.map (.headerError (d.path.getD "") ·)

/-- Loads a document that is to be shown. -/
def document (files : Files) (path : String) : Job Document := do
  let d ← ofExcept (.document path) (Document.load files path)
  note (headerNote? d).toList
  return d

/-- Loads documents.  All of them are read, also if one fails. -/
def documents (files : Files) (paths : List String) (workers : Int) : Job (List Document) := do
  if 1 ≤ workers then
    note (paths.filterMap fun path => (Document.load files path).toOption.bind headerNote?)
  let docs ← ofExcept .documents (Document.loadAll files paths workers)
  if !docs.isEmpty then note [.loaded docs.length (min workers docs.length)]
  return docs

/-- The note on the type of a document, if it is that of its folder. -/
def typeNote? (s : Schema) (d : Document) : Option Note :=
  if d.hasSoundHeader then none
  else (d.path?.bind s.typeOfPath?).map fun t => .inferred t.name d.shownPath

/-- Is the type that a document names one that no message can show?  Then there is no report on
    the document. -/
def hasUnshownType (d : Document) : Bool :=
  d.hasSoundHeader && (d.header.get? "type").any (!·.isWritable)

/-- Validates documents.  A type that is no text is shown in a message. -/
def report (s : Schema) (directory : Option Directory) (docs : List Document) : Job Report := do
  note (docs.filterMap (typeNote? s))
  if let some d := docs.find? hasUnshownType then
    throw (.ofDisplay d.shownPath (.number .longText))
  let r := Report.ofDocuments s directory docs
  note [.validated r]
  return r

/-- Builds the graph of documents. -/
def graph (s : Schema) (docs : List Document) : Job Graph := do
  let g := Graph.ofDocuments s (fun _ => []) docs
  note [.builtGraph g]
  return g

end Job

end Folio
