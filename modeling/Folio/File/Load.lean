/-
  Folio — loading documents, schemas and users from files.

  * `Document.loadAll` loads several documents, in order; at least one of them
    must be allowed to be read at a time;
  * `Schema.load` and `Directory.load` load a schema and a directory of users.
-/
import Folio.Document.Basic
import Folio.File.Basic
import Folio.Schema.Compile
import Folio.User.Config

namespace Folio

/-! ## Documents -/

/-- Why documents cannot be loaded. -/
inductive LoadError where
  /-- Not even one document can be read at a time. -/
  | noWorkers
  | file (path : String) (e : FileError)
  /-- A scalar in a header that its tag does not fit. -/
  | misfit (m : Yaml.Misfit)
  deriving Repr, DecidableEq

/-- What a message says of an error, if it is one of the system or concerns a
    value. -/
def LoadError.message? : LoadError → Option String
  | noWorkers => some "max_workers must be at least 1"
  | file path e => some (e.message path)
  | misfit m => m.message?

namespace Document

/-- Loads a document. -/
def load (files : Files) (path : String) : Except LoadError Document :=
  match files path with
  | .error e => .error (.file path e)
  | .ok octets => (parse octets (some path)).mapError .misfit

/-- How many documents are read at a time, unless told otherwise. -/
def defaultWorkers : Int := 8

/-- Loads documents, at most so many at a time. -/
def loadAll (files : Files) (paths : List String) (workers : Int) :
    Except LoadError (List Document) :=
  if workers < 1 then .error .noWorkers else paths.mapM (load files)

end Document

/-! ## Schemas and users -/

/-- Why something cannot be loaded from a source file. -/
inductive SourceError (ε : Type) where
  | file (e : TextFileError)
  /-- The source is wrong. -/
  | source (e : ε)
  deriving DecidableEq

/-- Reads a file and makes something of its text. -/
def Files.load {ε α : Type} (files : Files) (ofText : List Char → Except ε α) (path : String) :
    Except (SourceError ε) α :=
  match files.readText path with
  | .error e => .error (.file e)
  | .ok text => (ofText text).mapError .source

/-- Loads a schema. -/
def Schema.load (files : Files) (path : String) : Except (SourceError SchemaError) Schema :=
  files.load (fun text => Schema.ofSource (String.ofList text)) path

/-- Loads a directory of users. -/
def Directory.load (files : Files) (path : String) :
    Except (SourceError ConfigError) Directory :=
  files.load Directory.ofText path

end Folio
