/-
  Folio — checks that break off where a lookup misses.

  A strict check looks up all it needs, value by value and cell by cell, and breaks off at
  the first lookup that misses; a value is asked for its kind before it is taken for a
  text, a list or a number.  In documents that have been read and with a schema that has
  been compiled it breaks off nowhere, and reports what the checks report.

  * `Strict.checkValue_eq`, `Strict.checkSections_eq`: headers and bodies;
  * `Strict.addExcesses_eq`: counting the documents of types;
  * `Strict.report_eq`: reports.
-/
import Folio.Proofs.Validation.Counts
import Folio.Proofs.Validation.Items
import Folio.Proofs.Validation.Lookups

namespace Folio.Strict

/-! ## Values -/

/-- Is the value a text? -/
def isText : Value → Bool
  | .text _ => true
  | _ => false

/-- Is the value a list? -/
def isList : Value → Bool
  | .list _ _ => true
  | _ => false

/-- The text that a value is. -/
def textOf : Value → Except Miss String
  | .text s => return s
  | _ => throw .kind

/-- The items of the list that a value is. -/
def itemsOf : Value → Except Miss (List Value)
  | .list _ items => return items
  | _ => throw .kind

/-- What messages call the items of lists of a kind. -/
def expectedOf : Schema.Kind → Except Miss String
  | .refs => return "ref (string)"
  | .texts => return "string"
  | .users => return "user (@handle)"
  | _ => throw .key

section
variable (scope : Scope) (source : Option String)

/-- Checks an item of a list. -/
def checkItem (f : Schema.Field) (expected : String) (index : Nat) (v : Value) :
    Except Miss Checked :=
  if isText v then return scope.checkText source f (some index) (← textOf v)
  else return Scope.mismatch (.item f.name index) (Location.itemName f.name index) expected v

/-- Checks the value of a field with a list. -/
def checkList (f : Schema.Field) (v : Value) : Except Miss Checked := do
  let expected ← expectedOf f.kind
  if isList v then
    let items ← itemsOf v
    return .join (← items.zipIdx.mapM fun (item, i) => checkItem scope source f expected i item)
  else return Scope.mismatch (.field f.name) f.name f.kind.name v

/-- Checks the value of a field. -/
def checkValue (f : Schema.Field) (v : Value) : Except Miss Checked :=
  match f.kind with
  | .number | .bool => return scope.checkValue source f v
  | .choice =>
    if isText v then do
      let s ← textOf v
      return if f.choices.contains s then {}
        else ⟨[⟨.field f.name, .notListed f.name s f.choices⟩], []⟩
    else return Scope.mismatch (.field f.name) f.name (Scope.expected .choice) v
  | .text | .ref | .user =>
    if isText v then return scope.checkText source f none (← textOf v)
    else return Scope.mismatch (.field f.name) f.name (Scope.expected f.kind) v
  | .texts | .refs | .users => checkList scope source f v

/-- Checks what a header has in a field. -/
def checkField (header : Entries) (f : Schema.Field) : Except Miss Checked :=
  match header.get? f.name with
  | none | some .null =>
    return if f.required then ⟨[⟨.field f.name, .missingField f⟩], []⟩ else {}
  | some v => checkValue scope source f v

/-- Checks the fields of a header. -/
def checkFields (header : Entries) (fields : List Schema.Field) : Except Miss Checked :=
  return .join (← fields.mapM (checkField scope source header))

variable (f : Schema.Field)

theorem expectedOf_eq {k : Schema.Kind} (h : k.isList = true) :
    expectedOf k = .ok (Scope.expected k) := by
  rcases Schema.Kind.isList_iff.1 h with rfl | rfl | rfl <;> rfl

theorem checkItem_eq (index : Nat) (v : Value) :
    checkItem scope source f (Scope.expected f.kind) index v =
      .ok (scope.checkItem source f index v) := by
  cases v <;> rfl

theorem checkList_eq (hf : f.kind.isList = true) (v : Value) :
    checkList scope source f v = .ok (scope.checkValue source f v) := by
  rw [checkList, expectedOf_eq hf]
  cases v with
  | list l items =>
    have hitems : items.zipIdx.mapM
        (fun p => checkItem scope source f (Scope.expected f.kind) p.2 p.1) =
          .ok (items.zipIdx.map fun p => scope.checkItem source f p.2 p.1) :=
      mapM_eq_map fun p _ => checkItem_eq scope source f p.2 p.1
    rw [scope.checkValue_eq_join source f hf]
    exact congrArg (· >>= fun cs => pure (Checked.join cs)) hitems
  | _ =>
    unfold Scope.checkValue
    rcases Schema.Kind.isList_iff.1 hf with hk | hk | hk <;> simp only [hk] <;> rfl

/-- **The value of a field.** -/
theorem checkValue_eq (v : Value) :
    checkValue scope source f v = .ok (scope.checkValue source f v) := by
  unfold checkValue
  cases hk : f.kind with
  | number | bool => rfl
  | choice | text | ref | user =>
    unfold Scope.checkValue
    simp only [hk]
    cases v <;> rfl
  | texts | refs | users => exact checkList_eq scope source f (hk ▸ rfl) v

theorem checkField_eq (header : Entries) :
    checkField scope source header f = .ok (scope.checkField source header f) := by
  unfold checkField Scope.checkField
  cases header.get? f.name with
  | none => rfl
  | some v =>
    cases v with
    | null => rfl
    | _ => exact checkValue_eq scope source f _

/-- **The fields of a header.** -/
theorem checkFields_eq (header : Entries) (fields : List Schema.Field) :
    checkFields scope source header fields = .ok (scope.checkFields source header fields) :=
  congrArg (· >>= fun cs => pure (Checked.join cs))
    (mapM_eq_map fun f _ => checkField_eq scope source f header)

end

/-! ## Sections -/

section
variable (scope : Scope) (source : Option String) (path : List String)

/-- What is wrong with a column of a table. -/
def columnFindings (index : Nat) (t : Table) (column : Schema.Column) :
    Except Miss (List Finding) := do
  match ← column? t column.name with
  | none =>
    return if column.required then
      [⟨.table path index, .missingColumn path column.name t.columns⟩] else []
  | some cells =>
    return cells.zipIdx.flatMap fun (cell, row) =>
      scope.cellFindings source path (.cell path index column.name row) column
        (String.ofList (Text.trim cell.toList))

/-- What is wrong with the table of a section at a place, or with its absence. -/
def tableFindings (index : Nat) (rule : Schema.TableRule) :
    Option Table → Except Miss (List Finding)
  | none => return if rule.required then [⟨.table path index, .missingTable path⟩] else []
  | some t => return (← rule.columns.mapM (columnFindings scope source path index t)).flatten

/-- What is wrong with the paragraphs of a section. -/
def contentFindings (rule : Schema.ContentRule) (found : Nat) : Except Miss (List Finding) :=
  if rule.minParagraphs.isNone then return []
  else do
    let least ← get .kind rule.minParagraphs
    return if found < least then [⟨.section_ path, .fewParagraphs path least found⟩] else []

/-- What is wrong with the list of a section. -/
def listFindings (rule : Schema.ListRule) (found : Nat) : Except Miss (List Finding) :=
  if found = 0 then return if rule.required then [⟨.section_ path, .noList path⟩] else []
  else if rule.minItems.isNone then return []
  else do
    let least ← get .kind rule.minItems
    return if found < least then [⟨.section_ path, .shortList path least found⟩] else []

/-- What is wrong with the diagrams of a section, given the infos of its code blocks. -/
def diagramFindings (rule : Schema.DiagramRule) (infos : List String) :
    Except Miss (List Finding) := do
  let languages ← infos.mapM languageOf
  let language := rule.language.filter (!·.isEmpty)
  let found :=
    match language with
    | some l => languages.contains (String.ofList (Text.lower l.toList))
    | none => languages.any Problem.diagramLanguages.contains
  return if found || !rule.required then [] else [⟨.section_ path, .noDiagram path language⟩]

/-- What is wrong with a section itself, the sections below it apart. -/
def ownFindings (body : Body) (rule : Schema.SectionRule) (s : Section) :
    Except Miss (List Finding) := do
  let count (kind : BlockKind) := (body.blocksOf s (some kind)).length
  let tables ← rule.tables.zipIdx.mapM fun (t, i) => do
    tableFindings scope source path i t (← table? body s i)
  let content ← rule.content.elim (pure []) (contentFindings path · (count .paragraph))
  let list ← rule.list.elim (pure []) (listFindings path · (count .listItem))
  let infos := (body.blocksOf s (some .code)).map (·.info)
  let diagram ← rule.diagram.elim (pure []) (diagramFindings path · infos)
  return tables.flatten ++ content ++ list ++ diagram

end

section
variable (scope : Scope) (source : Option String) (body : Body)

mutual

/-- What is wrong with a section that is declared below those of a path. -/
def sectionFindings (above : List String) : Schema.SectionRule → Except Miss (List Finding)
  | ⟨name, required, description, children, tables, content, list, diagram⟩ => do
    let rule : Schema.SectionRule :=
      ⟨name, required, description, [], tables, content, list, diagram⟩
    let path := above ++ [name]
    match ← find? body path with
    | none => return if required then [⟨.section_ path, .missingSection path rule⟩] else []
    | some s =>
      let own ← ownFindings scope source path body rule s
      return own ++ (← sectionsFindings path children)

/-- What is wrong with sections that are declared below those of a path. -/
def sectionsFindings (above : List String) :
    List Schema.SectionRule → Except Miss (List Finding)
  | [] => return []
  | rule :: rules => do
    let found ← sectionFindings above rule
    return found ++ (← sectionsFindings above rules)

end

end

section
variable {scope : Scope} {source : Option String} (path : List String)

theorem columnFindings_eq {t : Table} (h : t.Full) (index : Nat) (column : Schema.Column) :
    columnFindings scope source path index t column =
      .ok (scope.columnFindings source path index t column) := by
  rw [columnFindings, column?_eq h, Scope.columnFindings]
  cases t.column? column.name <;> rfl

theorem tableFindings_eq {t : Option Table} (h : ∀ t' ∈ t, t'.Full) (index : Nat)
    (rule : Schema.TableRule) : tableFindings scope source path index rule t =
      .ok (scope.tableFindings source path index rule t) := by
  cases t with
  | none => rfl
  | some t =>
    have hcolumns : rule.columns.mapM (columnFindings scope source path index t) =
        .ok (rule.columns.map (scope.columnFindings source path index t)) :=
      mapM_eq_map fun column _ => columnFindings_eq path (h t rfl) index column
    rw [tableFindings, hcolumns, Scope.tableFindings, List.flatMap_def]
    rfl

theorem contentFindings_eq (rule : Schema.ContentRule) (found : Nat) :
    contentFindings path rule found = .ok (Scope.contentFindings path rule found) := by
  unfold contentFindings Scope.contentFindings
  cases rule.minParagraphs <;> rfl

theorem listFindings_eq (rule : Schema.ListRule) (found : Nat) :
    listFindings path rule found = .ok (Scope.listFindings path rule found) := by
  unfold listFindings Scope.listFindings
  split
  · rfl
  · cases rule.minItems <;> rfl

theorem diagramFindings_eq (rule : Schema.DiagramRule) (infos : List String) :
    diagramFindings path rule infos = .ok (Scope.diagramFindings path rule infos) := by
  rw [diagramFindings, mapM_eq_map fun info _ => languageOf_eq info]
  rfl

theorem elim_eq_ok {α β : Type} (o : Option α) (b : β) {f : α → Except Miss β} {g : α → β}
    (h : ∀ a, f a = .ok (g a)) : o.elim (pure b) f = .ok ((o.map g).getD b) := by
  cases o with
  | none => rfl
  | some a => exact h a

/-- **A section.** -/
theorem ownFindings_eq {body : Body} (h : body.Whole) {s : Section} (hs : s ∈ body.sections)
    (rule : Schema.SectionRule) : ownFindings scope source path body rule s =
      .ok (scope.ownFindings source body path rule s) := by
  have htables : rule.tables.zipIdx.mapM (fun p => do
      tableFindings scope source path p.2 p.1 (← table? body s p.2)) =
        .ok (rule.tables.zipIdx.map fun p =>
          scope.tableFindings source path p.2 p.1 (body.table? s p.2)) := by
    refine mapM_eq_map fun p _ => ?_
    rw [table?_eq h hs]
    exact tableFindings_eq path (fun t ht => full_of_table? h ht) p.2 p.1
  have hcontent := elim_eq_ok rule.content [] fun c =>
    contentFindings_eq path c (body.blocksOf s (some .paragraph)).length
  have hlist := elim_eq_ok rule.list [] fun l =>
    listFindings_eq path l (body.blocksOf s (some .listItem)).length
  have hdiagram := elim_eq_ok rule.diagram [] fun d =>
    diagramFindings_eq path d ((body.blocksOf s (some .code)).map (·.info))
  unfold ownFindings
  dsimp only
  rw [htables, hcontent, hlist, hdiagram, Scope.ownFindings, List.flatMap_def]
  rfl

end

section
variable (scope : Scope) (source : Option String) {body : Body}

mutual

theorem sectionFindings_eq (h : body.Whole) (above : List String) : (rule : Schema.SectionRule) →
    sectionFindings scope source body above rule =
      .ok (scope.sectionFindings source body above rule)
  | ⟨name, required, description, children, tables, content, list, diagram⟩ => by
    unfold sectionFindings Scope.sectionFindings
    dsimp only
    rw [find?_eq h]
    cases hs : body.find? (above ++ [name]) with
    | none => rfl
    | some s =>
      dsimp only [bind, Except.bind]
      rw [ownFindings_eq _ h (mem_of_find? hs), sectionsFindings_eq h (above ++ [name]) children]
      rfl

theorem sectionsFindings_eq (h : body.Whole) (above : List String) :
    (rules : List Schema.SectionRule) → sectionsFindings scope source body above rules =
      .ok (scope.sectionsFindings source body above rules)
  | [] => rfl
  | rule :: rules => by
    unfold sectionsFindings Scope.sectionsFindings
    rw [sectionFindings_eq h above rule, sectionsFindings_eq h above rules]
    rfl

end

end

/-! ## Reports on documents -/

/-- The report with a finding more, which is an error or a warning by its code. -/
def add (r : FileReport) (f : Finding) : Except Miss FileReport := do
  let severity ← get .place (Severity.ofCode? f.code)
  return match severity with
    | .error => { r with errors := r.errors ++ [f] }
    | .warning => { r with warnings := r.warnings ++ [f] }

/-- The report in order. -/
def sorted (r : FileReport) : FileReport :=
  { r with errors := FileReport.byCode r.errors, warnings := FileReport.byCode r.warnings }

/-- The type of a document, and what is wrong with it. -/
def typeOf (scope : Scope) (d : Document) :
    Except Miss (Option Schema.DocType × List Finding) :=
  let inferred := d.path?.bind scope.schema.typeOfPath?
  match d.headerError, d.hasHeader with
  | some e, _ => return (inferred, [⟨.header, .malformedHeader e.message⟩])
  | none, false => return (inferred, [⟨.header, .noHeader⟩])
  | none, true =>
    match d.header.get? "type" with
    | none | some .null => return (none, [⟨.header, .noType⟩])
    | some v => do
      let named ←
        if isText v then pure (scope.schema.type? (← textOf v)) else pure none
      return match named with
        | some t => (some t, [])
        | none =>
          (none, [⟨.field "type", .unknownType v.plainText (scope.schema.types.map (·.name))⟩])

/-- What is wrong in a document of a type, and the references in it. -/
def checkAs (scope : Scope) (d : Document) (t : Schema.DocType) : Except Miss Checked := do
  let fields ←
    if d.hasSoundHeader then checkFields scope d.path d.header t.fields else pure {}
  return fields ++ ⟨← sectionsFindings scope d.path d.body [] t.sections, []⟩

/-- The report on a document. -/
def checkDocument (scope : Scope) (d : Document) : Except Miss FileReport := do
  let (type, findings) ← typeOf scope d
  let checked ← type.elim (pure {}) (checkAs scope d)
  let blank : FileReport :=
    { path := d.shownPath, docType := type.map (·.name), errors := [], warnings := []
      refs := checked.refs }
  return sorted (← (findings ++ checked.findings).foldlM add blank)

theorem add_eq (r : FileReport) (f : Finding) : add r f = .ok
    { r with
      errors := r.errors ++ [f].filter (·.isError)
      warnings := r.warnings ++ [f].filter (!·.isError) } := by
  have hseverity : Severity.ofCode? f.code = some f.problem.severity := f.problem.severity?_code
  rw [add, get_eq_ok .place hseverity]
  cases hf : f.problem.severity <;>
    simp [Finding.isError, hf, bind, Except.bind, pure, Except.pure]

theorem foldlM_add_eq (found : List Finding) (r : FileReport) : found.foldlM add r = .ok
    { r with
      errors := r.errors ++ found.filter (·.isError)
      warnings := r.warnings ++ found.filter (!·.isError) } := by
  induction found generalizing r with
  | nil =>
    rw [List.filter_nil, List.filter_nil, List.append_nil, List.append_nil]
    rfl
  | cons f found ih =>
    rw [List.foldlM_cons, add_eq]
    refine (ih _).trans ?_
    dsimp only
    rw [List.append_assoc, List.append_assoc, ← List.filter_append, ← List.filter_append]
    rfl

theorem typeOf_eq (scope : Scope) (d : Document) : typeOf scope d = .ok (scope.typeOf d) := by
  unfold typeOf Scope.typeOf
  cases d.headerError with
  | some e => rfl
  | none =>
    cases d.hasHeader with
    | false => rfl
    | true =>
      cases d.header.get? "type" with
      | none => rfl
      | some v => cases v <;> rfl

theorem checkAs_eq (scope : Scope) {d : Document} (h : d.body.Whole) (t : Schema.DocType) :
    checkAs scope d t = .ok (scope.checkAs d t) := by
  rw [checkAs, sectionsFindings_eq scope d.path h, checkFields_eq, Scope.checkAs]
  split <;> rfl

/-- **The report on a document.** -/
theorem checkDocument_eq (scope : Scope) {d : Document} (h : d.body.Whole) :
    checkDocument scope d = .ok (scope.checkDocument d) := by
  have hchecked : (scope.typeOf d).1.elim (pure {}) (checkAs scope d) =
      .ok (((scope.typeOf d).1.map (scope.checkAs d)).getD {}) :=
    elim_eq_ok _ {} fun t => checkAs_eq scope h t
  rw [checkDocument, typeOf_eq]
  dsimp only [bind, Except.bind]
  rw [hchecked]
  dsimp only
  rw [foldlM_add_eq]
  rfl

/-! ## Reports on several documents -/

open Report (placesOf excessOf excess? withExcess)

/-- The reports with the finding that a type has too many documents, if so; `files` are the
    reports before any such finding. -/
def addExcess (files reports : List FileReport) (t : Schema.DocType) :
    Except Miss (List FileReport) :=
  if t.maxCount.isNone then return reports
  else do
    let most ← get .kind t.maxCount
    if (placesOf files t.name).length ≤ most then return reports
    else
      let place ← get .place (placesOf files t.name)[most]?
      let member ← get .place reports[place]?
      return reports.set place (← add member (excessOf files t most))

/-- The report on some documents. -/
def report (schema : Schema) (directory : Option Directory) (docs : List Document) :
    Except Miss Report := do
  let files ← docs.mapM (checkDocument (Report.scopeOf schema directory docs))
  let reports ← schema.types.foldlM (addExcess files) files
  return { files := reports.map sorted, usersKnown := directory.isSome }

/-- The finding about a type that the report at a place gets. -/
def excessAt? (files : List FileReport) (place : Nat) (t : Schema.DocType) : Option Finding :=
  t.maxCount.bind fun most =>
    if (placesOf files t.name)[most]? = some place then some (excessOf files t most) else none

/-- The report with more errors. -/
def withErrors (r : FileReport) (found : List Finding) : FileReport :=
  { r with errors := r.errors ++ found }

section
variable {files reports : List FileReport}

theorem withErrors_nil (r : FileReport) : withErrors r [] = r := by
  rw [withErrors, List.append_nil]

theorem withErrors_append (r : FileReport) (found found' : List Finding) :
    withErrors (withErrors r found) found' = withErrors r (found ++ found') :=
  congrArg (fun errors => { r with errors }) (List.append_assoc ..)

theorem add_error (r : FileReport) {f : Finding} (hf : f.isError = true) :
    add r f = .ok (withErrors r [f]) := by
  rw [add_eq, List.filter_singleton, List.filter_singleton, hf, withErrors]
  exact congrArg (fun warnings => Except.ok { r with errors := r.errors ++ [f], warnings })
    (List.append_nil r.warnings)

theorem lt_of_placesOf {name : String} {most place : Nat}
    (h : (placesOf files name)[most]? = some place) : place < files.length := by
  obtain ⟨r, hr, -⟩ := Report.getElem?_findIdxs_eq_some_iff.1 h
  exact (List.getElem?_eq_some_iff.1 hr).1

theorem addExcess_eq (h : reports.length = files.length) (t : Schema.DocType) :
    ∃ reports', addExcess files reports t = .ok reports' ∧ reports'.length = files.length ∧
      ∀ j, reports'[j]? = reports[j]?.map fun r => withErrors r (excessAt? files j t).toList := by
  have hsame : (∀ j, excessAt? files j t = none) → ∀ j, reports[j]? =
      reports[j]?.map fun r => withErrors r (excessAt? files j t).toList := by
    intro hnone j
    simp only [hnone, Option.toList_none, withErrors_nil, Option.map_id']
  unfold addExcess
  cases hmost : t.maxCount with
  | none =>
    refine ⟨reports, rfl, h, hsame fun j => ?_⟩
    rw [excessAt?, hmost, Option.bind_none]
  | some most =>
    by_cases hfew : (placesOf files t.name).length ≤ most
    · refine ⟨reports, ?_, h, hsame fun j => ?_⟩
      · exact if_pos hfew
      · rw [excessAt?, hmost, Option.bind_some, List.getElem?_eq_none hfew]
        rfl
    · have herror : (excessOf files t most).isError = true := rfl
      have hplace := List.getElem?_eq_getElem (Nat.lt_of_not_le hfew)
      generalize (placesOf files t.name)[most] = place at hplace
      have hlt : place < reports.length := h ▸ lt_of_placesOf hplace
      have hmember := List.getElem?_eq_getElem hlt
      refine ⟨reports.set place (withErrors reports[place] [excessOf files t most]), ?_, ?_, ?_⟩
      · refine (if_neg hfew).trans ?_
        rw [get_eq_ok .place hplace]
        dsimp only [bind, Except.bind]
        rw [get_eq_ok .place hmember]
        dsimp only
        rw [add_error reports[place] herror]
        rfl
      · rw [List.length_set, h]
      · intro j
        rw [List.getElem?_set, excessAt?, hmost, Option.bind_some, hplace]
        by_cases hj : place = j
        · subst hj
          simp [hlt]
        · have hne : ¬some place = some j := fun he => hj (Option.some.inj he)
          simp only [if_neg hj, if_neg hne, Option.toList_none, withErrors_nil, Option.map_id']

/-- **Counting the documents of types.** -/
theorem addExcesses_eq (types : List Schema.DocType) (h : reports.length = files.length) :
    ∃ reports', types.foldlM (addExcess files) reports = .ok reports' ∧
      reports'.length = files.length ∧ ∀ j, reports'[j]? =
        reports[j]?.map fun r => withErrors r (types.filterMap (excessAt? files j)) := by
  induction types generalizing reports with
  | nil => exact ⟨reports, rfl, h, fun j => by simp [withErrors_nil]⟩
  | cons t types ih =>
    obtain ⟨reports', hadd, hlength, hat⟩ := addExcess_eq h t
    obtain ⟨reports'', hrest, hlength', hat'⟩ := ih hlength
    refine ⟨reports'', ?_, hlength', fun j => ?_⟩
    · rw [List.foldlM_cons, hadd]
      exact hrest
    · have hfound : (excessAt? files j t).toList ++ types.filterMap (excessAt? files j) =
          (t :: types).filterMap (excessAt? files j) := by
        rw [List.filterMap_cons]
        cases excessAt? files j t <;> rfl
      rw [hat', hat, Option.map_map, ← hfound]
      exact congrArg (Option.map · _) (funext fun r => withErrors_append r _ _)

theorem filterMap_eq_singleton {α β : Type} {g : α → Option β} {as : List α} (h : as.Nodup)
    {a : α} (ha : a ∈ as) {b : β} (hb : g a = some b)
    (hothers : ∀ a' ∈ as, a' ≠ a → g a' = none) : as.filterMap g = [b] := by
  obtain ⟨before, after, rfl⟩ := List.append_of_mem ha
  obtain ⟨hnot, -⟩ := List.nodup_cons.1 (List.nodup_middle.1 h)
  have hnone : ∀ a' ∈ before ++ after, g a' = none := fun a' ha' =>
    hothers a' (List.perm_middle.mem_iff.2 (List.mem_cons_of_mem a ha')) fun he => hnot (he ▸ ha')
  rw [List.filterMap_append, List.filterMap_cons_some hb,
    List.filterMap_eq_nil_iff.2 fun a' ha' => hnone a' (List.mem_append_left _ ha'),
    List.filterMap_eq_nil_iff.2 fun a' ha' => hnone a' (List.mem_append_right _ ha'),
    List.nil_append]

/-- Only one type has something to say about a report. -/
theorem filterMap_excessAt? {schema : Schema} (hnames : (schema.types.map (·.name)).Nodup)
    {j : Nat} {r : FileReport} (hr : files[j]? = some r) :
    schema.types.filterMap (excessAt? files j) = (excess? schema files (files.take j) r).toList := by
  have hat : ∀ t ∈ schema.types, ∀ f, excessAt? files j t = some f →
      f.location = .docType t.name ∧ excess? schema files (files.take j) r = some f := by
    intro t ht f hf
    obtain ⟨most, hmost, hf⟩ := Option.bind_eq_some_iff.1 hf
    obtain ⟨hplace, hf⟩ := Option.ite_none_right_eq_some.1 hf
    obtain rfl := Option.some.inj hf
    exact ⟨rfl, (Report.excess?_eq_some_iff hnames hr).2 ⟨t, ht, most, hmost, hplace, rfl⟩⟩
  cases hexcess : excess? schema files (files.take j) r with
  | none =>
    refine List.filterMap_eq_nil_iff.2 fun t ht => Option.eq_none_iff_forall_not_mem.2 fun f hf => ?_
    cases (hat t ht f hf).2.symm.trans hexcess
  | some f =>
    obtain ⟨t, ht, most, hmost, hplace, rfl⟩ := (Report.excess?_eq_some_iff hnames hr).1 hexcess
    refine filterMap_eq_singleton (List.Nodup.of_map _ hnames) ht ?_ fun t' ht' hne => ?_
    · rw [excessAt?, hmost, Option.bind_some, if_pos hplace]
    · refine Option.eq_none_iff_forall_not_mem.2 fun f hf => hne ?_
      obtain ⟨hlocation, hf⟩ := hat t' ht' f hf
      obtain rfl := Option.some.inj (hf.symm.trans hexcess)
      exact Report.eq_of_name_eq hnames ht' ht (Location.docType.inj hlocation).symm

end

theorem sorted_checkDocument (scope : Scope) (d : Document) :
    sorted (scope.checkDocument d) = scope.checkDocument d := by
  rw [scope.checkDocument_eq, FileReport.ofFindings, sorted]
  dsimp only
  rw [FileReport.byCode_byCode, FileReport.byCode_byCode]

theorem sorted_withErrors (scope : Scope) (d : Document) (f : Finding) :
    sorted (withErrors (scope.checkDocument d) [f]) = (scope.checkDocument d).addError f := by
  have hwarnings := congrArg FileReport.warnings (sorted_checkDocument scope d)
  exact congrArg (fun warnings => { (scope.checkDocument d).addError f with warnings }) hwarnings

/-- **Strict reports** break off nowhere, if the schema has been compiled and the documents
    have been read, and are the reports that are made. -/
theorem report_eq {source : String} {schema : Schema} (hs : Schema.ofSource source = .ok schema)
    (directory : Option Directory) {docs : List Document}
    (hdocs : ∀ d ∈ docs, ∃ raw path, Document.parse raw path = .ok d) :
    report schema directory docs = .ok (Report.ofDocuments schema directory docs) := by
  obtain ⟨-, -, hsound⟩ := Schema.sound_of_ofSource hs
  have hchecks : docs.mapM (checkDocument (Report.scopeOf schema directory docs)) =
      .ok (docs.map (Report.scopeOf schema directory docs).checkDocument) := by
    refine mapM_eq_map fun d hd => checkDocument_eq _ ?_
    obtain ⟨raw, path, hparse⟩ := hdocs d hd
    exact Body.whole_of_parse hparse
  unfold report Report.ofDocuments
  rw [hchecks]
  generalize hfiles : docs.map (Report.scopeOf schema directory docs).checkDocument = files
  obtain ⟨reports, hreports, -, hat⟩ := addExcesses_eq schema.types (rfl : files.length = files.length)
  have hsorted : reports.map sorted = withExcess schema files [] files := by
    refine List.ext_getElem? fun j => ?_
    rw [List.getElem?_map, hat, Report.getElem?_withExcess, List.nil_append]
    cases hr : files[j]? with
    | none => rfl
    | some r =>
      obtain ⟨d, -, rfl⟩ := List.mem_map.1 (hfiles ▸ List.mem_of_getElem? hr)
      rw [Option.map_some, Option.map_some, Option.map_some,
        filterMap_excessAt? hsound.typeNames hr]
      cases excess? schema files (files.take j) (Scope.checkDocument _ d) with
      | none => rw [Option.toList_none, withErrors_nil, sorted_checkDocument]
      | some f => rw [Option.toList_some, sorted_withErrors]
  dsimp only [bind, Except.bind]
  rw [hreports, ← hsorted]
  rfl

/-- Ledgers, of which there must be none, with a table and a diagram. -/
def ledgerSchema : Schema :=
  { types :=
      [{ name := "p", folder := some "p", maxCount := some 0
         sections :=
          [{ name := "A", tables := [{ columns := [{ name := "x", kind := .text, required := true }] }]
             diagram := some ⟨true, none⟩ }] }] }

/-- A ledger without a header, with two columns of one name and a row that is too short. -/
def ledger : Document :=
  { path := some "p/a"
    raw := Utf8.ofString "# A\n|x|x|\n|-|-|\n|1|\n~~~d2\n~~~\n"
    header := []
    hasHeader := false
    headerError := none
    bodyOffset := 0
    body := Body.ofOctets (Utf8.ofString "# A\n|x|x|\n|-|-|\n|1|\n~~~d2\n~~~\n") }

/-- The last column of the name is empty in the row. -/
theorem report_of_ledger :
    Schema.ofSource ("type \"p\" folder=\"p\" max_count=0 \x7b\nsection \"A\" \x7b\n" ++
        "table \x7b\ncolumn \"x\" required=true\n\x7d\ndiagram\n\x7d\n\x7d\n") =
          .ok ledgerSchema ∧
      Document.parse ledger.raw ledger.path = .ok ledger ∧
      report ledgerSchema none [ledger] = .ok (Report.ofDocuments ledgerSchema none [ledger]) ∧
      (Report.ofDocuments ledgerSchema none [ledger]).files.map (fun r => r.errors.map (·.code)) =
        [["F000", "S022", "T010"]] := by
  have hs : Schema.ofSource ("type \"p\" folder=\"p\" max_count=0 \x7b\nsection \"A\" \x7b\n" ++
      "table \x7b\ncolumn \"x\" required=true\n\x7d\ndiagram\n\x7d\n\x7d\n") =
        .ok ledgerSchema := by decide +kernel
  have hparse : Document.parse ledger.raw ledger.path = .ok ledger := by decide +kernel
  have hcodes : (Report.ofDocuments ledgerSchema none [ledger]).files.map
      (fun r => r.errors.map (·.code)) = [["F000", "S022", "T010"]] := by
    have hbody : Body.ofOctets (Utf8.ofString "# A\n|x|x|\n|-|-|\n|1|\n~~~d2\n~~~\n") =
        { octets := Utf8.ofString "# A\n|x|x|\n|-|-|\n|1|\n~~~d2\n~~~\n"
          sections := [⟨"A", 1, 0, 4, 30, 0, none, [], [0]⟩]
          tables := [⟨["x", "x"], [[("x", "")]], 4, 20, some 0⟩]
          blocks := [⟨.table, 4, 20, some 0, "", false⟩, ⟨.code, 20, 30, some 0, "d2", false⟩] } := by
      decide +kernel
    simp only [ledger, hbody]
    cbv
  refine ⟨hs, hparse, report_eq hs none ?_, hcodes⟩
  intro d hd
  obtain rfl := List.mem_singleton.1 hd
  exact ⟨_, _, hparse⟩

end Folio.Strict
