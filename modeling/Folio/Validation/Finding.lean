/-
  Folio — what validation finds.

  A finding is a problem at a location of a document.  The code of a problem
  tells its kind: codes that start with F concern the header, S the sections, T
  the number of documents, R references and U users.  References and users are
  worth a warning only.

  * `Problem.code`, `Problem.message` and `Problem.hint?` describe a problem;
  * `severity?_code`: each code has a severity.
-/
import Folio.Reference.Basic

namespace Folio

/-- How bad a finding is. -/
inductive Severity where
  | error
  | warning
  deriving Repr, DecidableEq

namespace Severity

/-- The name of the severity. -/
def name : Severity → String
  | error => "error"
  | warning => "warning"

/-- The severity of a code; nothing for the empty one. -/
def ofCode? (code : String) : Option Severity :=
  match code.toList with
  | [] => none
  | c :: _ => some (if c = 'R' ∨ c = 'U' then .warning else .error)

end Severity

/-! ## Locations -/

/-- A place in a document; sections are told by the headings that lead to
    them. -/
inductive Location where
  | header
  /-- A field of the header. -/
  | field (name : String)
  /-- An item of a list in the header. -/
  | item (name : String) (index : Nat)
  | section_ (path : List String)
  | table (path : List String) (index : Nat)
  | cell (path : List String) (table : Nat) (column : String) (row : Nat)
  /-- The type of the document. -/
  | docType (name : String)
  deriving Repr, DecidableEq

namespace Location

/-- What messages call an item of a list. -/
def itemName (name : String) (index : Nat) : String :=
  name ++ "[" ++ toString index ++ "]"

/-- What messages call a section. -/
def label (path : List String) : String := " > ".intercalate path

/-- The location as reports show it. -/
def text : Location → String
  | header => "header"
  | field name => "header." ++ name
  | item name index => "header." ++ itemName name index
  | section_ path => "section \"" ++ label path ++ "\""
  | table path index => "section \"" ++ label path ++ "\" > " ++ itemName "table" index
  | cell path t column row =>
    "section \"" ++ label path ++ "\" > " ++ itemName "table" t ++ " > " ++ itemName column row
  | docType name => "type \"" ++ name ++ "\""

/-- Is the place in the header? -/
def inHeader : Location → Bool
  | header | field _ | item _ _ => true
  | _ => false

end Location

/-! ## Problems -/

/-- What is wrong in a document.  `name` is what messages call the place of a
    value. -/
inductive Problem where
  | malformedHeader (message : String)
  | noHeader
  | noType
  | unknownType (shown : String) (known : List String)
  | missingField (field : Schema.Field)
  /-- A value of another kind than the one expected. -/
  | wrongKind (name expected found : String)
  /-- A value that is not among those listed. -/
  | notListed (name value : String) (listed : List String)
  | unmatched (name value pattern : String)
  /-- A reference that points at no document; `patterns` are those of all forms
      of references. -/
  | badRef (fault : RefFault) (name value : String) (patterns : List String)
  /-- A text without the form of a reference to a user. -/
  | noUserRef (name value : String)
  | unknownUser (name value : String) (known : List String)
  | missingSection (path : List String) (rule : Schema.SectionRule)
  | missingTable (path : List String)
  | missingColumn (path : List String) (column : String) (found : List String)
  /-- A cell that must not be empty. -/
  | emptyCell (path : List String) (column : String)
  | wrongCell (name value expected : String)
  | unmatchedCell (name value pattern : String)
  | fewParagraphs (path : List String) (least found : Nat)
  | noList (path : List String)
  | shortList (path : List String) (least found : Nat)
  | noDiagram (path : List String) (language : Option String)
  /-- More documents of a type than there can be. -/
  | tooMany (type : String) (most : Nat) (paths : List String)
  deriving DecidableEq

namespace Problem

/-- The code of a problem. -/
def code : Problem → String
  | malformedHeader _ | noHeader => "F000"
  | noType => "F001"
  | unknownType .. => "F002"
  | missingField _ => "F010"
  | wrongKind .. | wrongCell .. => "F020"
  | notListed .. => "F021"
  | unmatched .. | unmatchedCell .. => "F030"
  | badRef fault .. => fault.code
  | noUserRef .. => "U010"
  | unknownUser .. => "U011"
  | missingSection .. => "S010"
  | missingTable _ => "S020"
  | missingColumn .. => "S021"
  | emptyCell .. => "S022"
  | fewParagraphs .. => "S030"
  | noList _ | shortList .. => "S031"
  | noDiagram .. => "S032"
  | tooMany .. => "T010"

/-- The severity of a problem. -/
def severity : Problem → Severity
  | badRef .. | noUserRef .. | unknownUser .. => .warning
  | _ => .error

/-- The severity of a problem is that of its code. -/
theorem severity?_code (p : Problem) : Severity.ofCode? p.code = some p.severity := by
  cases p with
  | badRef fault => cases fault <;> simp [Severity.ofCode?, code, severity, RefFault.code]
  | _ => simp [Severity.ofCode?, code, severity]

/-- A text in quotation marks. -/
def inQuotes (s : String) : String := "\"" ++ s ++ "\""

/-- The infos of code blocks that are diagrams. -/
def diagramLanguages : List String := ["mermaid", "d2", "plantuml", "graphviz", "dot"]

/-- What a message says of a section. -/
def sectionText (path : List String) : String := "section " ++ inQuotes (Location.label path)

/-- What a message says of a table. -/
def tableText (path : List String) : String := "table in " ++ inQuotes (Location.label path)

/-- A description in parentheses, if there is one. -/
def described : Option String → String
  | none => ""
  | some d => if d.isEmpty then "" else " (" ++ d ++ ")"

/-- What a message says of a problem. -/
def message : Problem → String
  | malformedHeader m => "header could not be decoded: " ++ m
  | noHeader => "document has no header"
  | noType => "missing required field \"type\""
  | unknownType shown _ => "unknown document type " ++ inQuotes shown
  | missingField f => "missing required field " ++ inQuotes f.name
  | wrongKind name expected found =>
    "field " ++ inQuotes name ++ " expected " ++ expected ++ ", got " ++ found
  | notListed name value _ =>
    "field " ++ inQuotes name ++ " has invalid value " ++ inQuotes value
  | unmatched name value _ =>
    "field " ++ inQuotes name ++ " value " ++ inQuotes value ++ " doesn't match pattern"
  | badRef .noForm name value _ =>
    "ref " ++ inQuotes value ++ " in " ++ inQuotes name ++ " doesn't match any ref-format"
  | badRef .noPath name value _ =>
    "broken file reference " ++ inQuotes value ++ " in " ++ inQuotes name
  | badRef .noName name value _ =>
    "unresolved reference " ++ inQuotes value ++ " in " ++ inQuotes name
  | noUserRef name value =>
    inQuotes name ++ " value " ++ inQuotes value ++ " is not a valid user reference"
  | unknownUser name value _ =>
    inQuotes name ++ " references unknown user/team " ++ inQuotes value
  | missingSection path _ => "missing required " ++ sectionText path
  | missingTable path => sectionText path ++ " requires a table but none found"
  | missingColumn path column _ =>
    tableText path ++ " missing required column " ++ inQuotes column
  | emptyCell path column =>
    tableText path ++ " column " ++ inQuotes column ++ " has an empty required cell"
  | wrongCell name value expected =>
    "cell " ++ inQuotes value ++ " in " ++ inQuotes name ++ " expected " ++ expected
  | unmatchedCell name value _ =>
    "cell " ++ inQuotes value ++ " in " ++ inQuotes name ++ " doesn't match pattern"
  | fewParagraphs path least found =>
    sectionText path ++ " requires at least " ++ toString least ++ " paragraph(s), found " ++
      toString found
  | noList path => sectionText path ++ " requires a list but none found"
  | shortList path least found =>
    sectionText path ++ " requires at least " ++ toString least ++ " list item(s), found " ++
      toString found
  | noDiagram path _ => sectionText path ++ " requires a diagram but none found"
  | tooMany type most paths =>
    "type " ++ inQuotes type ++ " has " ++ toString paths.length ++
      " document(s) but max_count is " ++ toString most

/-- What a report says to help with a problem. -/
def hint? : Problem → Option String
  | malformedHeader _ => some "fix the YAML between the --- markers"
  | noHeader => some "add a YAML header between --- markers"
  | noType => some "add 'type: <typename>' to the header"
  | unknownType _ known => some ("known types: " ++ ", ".intercalate known)
  | missingField f =>
    some ("add '" ++ f.name ++ ": <" ++ f.kind.name ++ ">' to the header" ++
      described f.description)
  | wrongKind .. | wrongCell .. | emptyCell .. => none
  | notListed _ _ listed => some ("allowed values: " ++ ", ".intercalate listed)
  | unmatched _ _ pattern | unmatchedCell _ _ pattern =>
    some ("expected pattern: " ++ pattern)
  | badRef .noForm _ _ patterns =>
    let listed := ", ".intercalate patterns
    some (if listed.isEmpty then "schema declares no ref-format rules"
      else "expected patterns: " ++ listed)
  | badRef .noPath .. => some "the target is not among the validated documents"
  | badRef .noName .. => some "no document with a matching id in scope"
  | noUserRef .. => some "user references look like @handle or @team/name"
  | unknownUser _ _ known =>
    if known.isEmpty then none else some ("known: " ++ ", ".intercalate known)
  | missingSection _ rule =>
    some ("add heading \"# " ++ rule.name ++ "\" or \"## " ++ rule.name ++ "\"" ++
      described rule.description)
  | missingTable _ => some "add a markdown table to this section"
  | missingColumn _ _ found => some ("columns found: " ++ ", ".intercalate found)
  | fewParagraphs .. => some "add prose content to this section"
  | noList _ => some "add a markdown list (- item) to this section"
  | shortList _ least _ => some ("add at least " ++ toString least ++ " list items")
  | noDiagram _ (some language) =>
    some ("add a \x60\x60\x60" ++ language ++ " code block to this section")
  | noDiagram _ none =>
    some ("add a fenced code block with a diagram language (" ++
      ", ".intercalate diagramLanguages ++ ")")
  | tooMany _ _ paths => some ("files: " ++ ", ".intercalate paths)

end Problem

/-! ## Findings -/

/-- A problem at a location. -/
structure Finding where
  location : Location
  problem : Problem
  deriving DecidableEq

namespace Finding

/-- The code of the problem. -/
def code (f : Finding) : String := f.problem.code

/-- Is the finding an error? -/
def isError (f : Finding) : Bool := f.problem.severity == .error

end Finding

end Folio
