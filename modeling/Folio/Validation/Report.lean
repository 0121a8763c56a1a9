/-
  Folio — reports.

  The report on a document lists its errors and its warnings, both by their
  codes, and the references in its header.  A report on several documents also
  tells when a type has too many of them: the first document beyond is the one
  that is reported.

  * `Scope.checkDocument` and `Report.ofDocuments` make reports.
-/
import Folio.Validation.Section

namespace Folio

/-! ## Reports on documents -/

/-- The report on a document. -/
structure FileReport where
  path : String
  /-- The type of the document. -/
  docType : Option String
  errors : List Finding
  warnings : List Finding
  refs : List FieldRef

namespace FileReport

/-- Findings by their codes; those with one code keep their order. -/
def byCode (findings : List Finding) : List Finding :=
  findings.mergeSort fun a b => a.code ≤ b.code

/-- The report with these findings. -/
def ofFindings (path : String) (docType : Option String) (findings : List Finding)
    (refs : List FieldRef) : FileReport :=
  { path, docType, refs
    errors := byCode (findings.filter (·.isError))
    warnings := byCode (findings.filter (!·.isError)) }

/-- Has the document no errors? -/
def ok (r : FileReport) : Bool := r.errors.isEmpty

/-- The findings, errors first. -/
def findings (r : FileReport) : List Finding := r.errors ++ r.warnings

/-- The report with one error more. -/
def addError (r : FileReport) (f : Finding) : FileReport :=
  { r with errors := byCode (r.errors ++ [f]) }

end FileReport

/-- The path that reports name a document by. -/
def Document.shownPath (d : Document) : String :=
  match d.path with
  | none => "<string>"
  | some path => if path.isEmpty then "<string>" else path

/-- The path of a document, if it is not empty. -/
def Document.path? (d : Document) : Option String := d.path.filter (!·.isEmpty)

/-- Is the header there and sound? -/
def Document.hasSoundHeader (d : Document) : Bool := d.headerError.isNone && d.hasHeader

namespace Scope

/-- The type of a document, and what is wrong with it.  A document without a
    sound header has the type of its folder.

    A type that is no text is shown in a message, which fails for an integer with too many
    digits to have a text.  So a document with such a type has no report: what is said of it
    here stands for nothing, and `Job.report` fails (`Job.hasUnshownType`). -/
def typeOf (scope : Scope) (d : Document) : Option Schema.DocType × List Finding :=
  let inferred := d.path?.bind scope.schema.typeOfPath?
  match d.headerError, d.hasHeader with
  | some e, _ => (inferred, [⟨.header, .malformedHeader e.message⟩])
  | none, false => (inferred, [⟨.header, .noHeader⟩])
  | none, true =>
    match d.header.get? "type" with
    | none | some .null => (none, [⟨.header, .noType⟩])
    | some v =>
      let named :=
        match v with
        | .text name => scope.schema.type? name
        | _ => none
      match named with
      | some t => (some t, [])
      | none =>
        (none, [⟨.field "type", .unknownType v.plainText (scope.schema.types.map (·.name))⟩])

/-- What is wrong in a document of a type, and the references in it. -/
def checkAs (scope : Scope) (d : Document) (t : Schema.DocType) : Checked :=
  let fields := if d.hasSoundHeader then scope.checkFields d.path d.header t.fields else {}
  fields ++ ⟨scope.checkSections d.path d.body t.sections, []⟩

/-- The report on a document. -/
def checkDocument (scope : Scope) (d : Document) : FileReport :=
  let (type, findings) := scope.typeOf d
  let checked := (type.map (scope.checkAs d)).getD {}
  .ofFindings d.shownPath (type.map (·.name)) (findings ++ checked.findings) checked.refs

end Scope

/-! ## Reports on several documents -/

/-- The report on several documents, in order. -/
structure Report where
  files : List FileReport
  /-- Were the users and teams known? -/
  usersKnown : Bool

namespace Report

/-- The reports on the documents of a type. -/
def ofType (files : List FileReport) (name : String) : List FileReport :=
  files.filter (·.docType == some name)

/-- The finding that a document is the first beyond those that its type can have;
    `before` are the reports that come before it. -/
def excess? (schema : Schema) (files before : List FileReport) (r : FileReport) :
    Option Finding :=
  match r.docType.bind schema.type? with
  | none => none
  | some t =>
    if t.maxCount = some (ofType before t.name).length then
      some ⟨.docType t.name,
        .tooMany t.name (ofType before t.name).length ((ofType files t.name).map (·.path))⟩
    else none

/-- The reports with the findings that types have too many documents; `before`
    are those already treated. -/
def withExcess (schema : Schema) (files before : List FileReport) :
    List FileReport → List FileReport
  | [] => []
  | r :: rest =>
    (match excess? schema files before r with
      | some f => r.addError f
      | none => r) :: withExcess schema files (before ++ [r]) rest

/-- The scope of some documents: references can point at each of them. -/
def scopeOf (schema : Schema) (directory : Option Directory) (docs : List Document) : Scope :=
  ⟨schema, .ofPaths (docs.filterMap Document.path?), directory⟩

/-- The report on some documents.  There is none if one of them has a sound header with a type
    that cannot be shown (`Job.hasUnshownType`). -/
def ofDocuments (schema : Schema) (directory : Option Directory) (docs : List Document) :
    Report :=
  let files := docs.map (scopeOf schema directory docs).checkDocument
  { files := withExcess schema files [] files, usersKnown := directory.isSome }

/-- The number of errors. -/
def errors (r : Report) : Nat := (r.files.flatMap (·.errors)).length

/-- The number of warnings. -/
def warnings (r : Report) : Nat := (r.files.flatMap (·.warnings)).length

/-- Are there no errors? -/
def ok (r : Report) : Bool := r.errors == 0

/-- What reports say about whether users are known. -/
def userMode (r : Report) : String := if r.usersKnown then "directory" else "format-only"

/-- The place of the first report on a document with a path. -/
def indexOf? (r : Report) (path : String) : Option Nat := r.files.findIdx? (·.path == path)

/-- The references looked up in the document with a path; of several documents
    the last one counts. -/
def refsOf (r : Report) (path : String) : List FieldRef :=
  match (r.files.filter (·.path == path)).getLast? with
  | some f => f.refs
  | none => []

end Report

end Folio
