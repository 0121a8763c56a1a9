/-
  Folio — checking the sections of a body.

  A section that a type declares is found by its heading below the section it is
  declared in.  If it is there, its tables, its content and the sections declared
  in it are checked; if it is not, nothing below it is.

  * `Scope.checkSections` checks a body.
-/
import Folio.Validation.Field

namespace Folio.Scope

/-! ## Tables -/

/-- What is wrong with a cell that is not empty, by the kind of its column. -/
def kindFindings (scope : Scope) (source : Option String) (location : Location) (name : String)
    (kind : Schema.Kind) (cell : String) : List Finding :=
  match kind with
  | .number =>
    match Number.readFloat cell.toList with
    | .ok _ => []
    | .error _ => [⟨location, .wrongCell name cell (expected .number)⟩]
  | .bool =>
    let word := String.ofList (Text.lower cell.toList)
    if word = "true" ∨ word = "false" then []
    else [⟨location, .wrongCell name cell (expected .bool)⟩]
  | .user => scope.userFindings location name cell
  | .ref =>
    scope.refFindings location name
      (Reference.resolve scope.schema scope.workingSet source cell)
  | _ => []

/-- The finding that a cell does not match a pattern, if so. -/
def cellPatternFindings (pattern : Option Pattern) (location : Location) (name cell : String) :
    List Finding :=
  match pattern with
  | none => []
  | some p => if p.search cell then [] else [⟨location, .unmatchedCell name cell p.text⟩]

/-- What is wrong with a cell of a table. -/
def cellFindings (scope : Scope) (source : Option String) (path : List String)
    (location : Location) (column : Schema.Column) (cell : String) : List Finding :=
  let name := Location.label path ++ "." ++ column.name
  if cell.isEmpty then
    if column.required then [⟨location, .emptyCell path column.name⟩] else []
  else
    scope.kindFindings source location name column.kind cell ++
      cellPatternFindings column.pattern location name cell

/-- What is wrong with a column of a table. -/
def columnFindings (scope : Scope) (source : Option String) (path : List String) (index : Nat)
    (t : Table) (column : Schema.Column) : List Finding :=
  match t.column? column.name with
  | none =>
    if column.required then
      [⟨.table path index, .missingColumn path column.name t.columns⟩]
    else []
  | some cells =>
    cells.zipIdx.flatMap fun (cell, row) =>
      scope.cellFindings source path (.cell path index column.name row) column
        (String.ofList (Text.trim cell.toList))

/-- What is wrong with the table of a section at a place, or with its absence. -/
def tableFindings (scope : Scope) (source : Option String) (path : List String) (index : Nat)
    (rule : Schema.TableRule) : Option Table → List Finding
  | none => if rule.required then [⟨.table path index, .missingTable path⟩] else []
  | some t => rule.columns.flatMap (scope.columnFindings source path index t)

/-! ## Content -/

/-- What is wrong with the paragraphs of a section. -/
def contentFindings (path : List String) (rule : Schema.ContentRule) (found : Nat) :
    List Finding :=
  match rule.minParagraphs with
  | none => []
  | some least =>
    if found < least then [⟨.section_ path, .fewParagraphs path least found⟩] else []

/-- What is wrong with the list of a section. -/
def listFindings (path : List String) (rule : Schema.ListRule) (found : Nat) : List Finding :=
  if found = 0 then
    if rule.required then [⟨.section_ path, .noList path⟩] else []
  else
    match rule.minItems with
    | none => []
    | some least =>
      if found < least then [⟨.section_ path, .shortList path least found⟩] else []

/-- The language of a code block: the first word of its info, in lowercase. -/
def languageOf (info : String) : String :=
  let word := (Text.trimStart info.toList).takeWhile fun c => !Text.isBlank c
  String.ofList (Text.lower word)

/-- What is wrong with the diagrams of a section, given the infos of its code
    blocks. -/
def diagramFindings (path : List String) (rule : Schema.DiagramRule) (infos : List String) :
    List Finding :=
  let language := rule.language.filter (!·.isEmpty)
  let languages := infos.map languageOf
  let found :=
    match language with
    | some l => languages.contains (String.ofList (Text.lower l.toList))
    | none => languages.any Problem.diagramLanguages.contains
  if found || !rule.required then [] else [⟨.section_ path, .noDiagram path language⟩]

/-! ## Sections -/

/-- What is wrong with a section itself, the sections below it apart. -/
def ownFindings (scope : Scope) (source : Option String) (body : Body) (path : List String)
    (rule : Schema.SectionRule) (s : Section) : List Finding :=
  let count (kind : BlockKind) := (body.blocksOf s (some kind)).length
  let tables := rule.tables.zipIdx.flatMap fun (t, i) =>
    scope.tableFindings source path i t (body.table? s i)
  let content := (rule.content.map (contentFindings path · (count .paragraph))).getD []
  let list := (rule.list.map (listFindings path · (count .listItem))).getD []
  let infos := (body.blocksOf s (some .code)).map (·.info)
  let diagram := (rule.diagram.map (diagramFindings path · infos)).getD []
  tables ++ content ++ list ++ diagram

mutual

/-- What is wrong with a section that is declared below those of a path. -/
def sectionFindings (scope : Scope) (source : Option String) (body : Body)
    (above : List String) : Schema.SectionRule → List Finding
  | ⟨name, required, description, children, tables, content, list, diagram⟩ =>
    let rule : Schema.SectionRule :=
      ⟨name, required, description, [], tables, content, list, diagram⟩
    let path := above ++ [name]
    match body.find? path with
    | none => if required then [⟨.section_ path, .missingSection path rule⟩] else []
    | some s =>
      scope.ownFindings source body path rule s ++ scope.sectionsFindings source body path children

/-- What is wrong with sections that are declared below those of a path. -/
def sectionsFindings (scope : Scope) (source : Option String) (body : Body)
    (above : List String) : List Schema.SectionRule → List Finding
  | [] => []
  | rule :: rules =>
    scope.sectionFindings source body above rule ++
      scope.sectionsFindings source body above rules

end

/-- What is wrong with the sections of a body. -/
def checkSections (scope : Scope) (source : Option String) (body : Body)
    (rules : List Schema.SectionRule) : List Finding :=
  scope.sectionsFindings source body [] rules

end Folio.Scope
