/-
  Folio — what is found in two scopes.

  A check of a document looks up references, and users and teams; all else that it
  finds depends on the schema, and is an error.  So it is enough to compare what two
  scopes of one schema find in a reference and in a text that names a user
  (`Scope.Related`).  A relation between findings that goes along with appending and
  holds of each error with itself (`Finding.Additive`) then passes from there to all
  checks, up to all that is found in a document.

  * `Scope.related_discovered`: what two scopes discover in a document;
  * `Scope.checkDocument_eq`: the report on a document, by what is discovered.
-/
import Mathlib
import Folio.Validation.Report

namespace Folio

/-! ## Relations between what is found -/

/-- The relation holds of a whole if it holds of the parts, and of each error with
    itself. -/
structure Finding.Additive (R : List Finding → List Finding → Prop) : Prop where
  nil : R [] []
  append : ∀ {a a' b b' : List Finding}, R a a' → R b b' → R (a ++ b) (a' ++ b')
  error : ∀ f : Finding, f.isError = true → R [f] [f]

theorem Finding.Additive.flatMap {R : List Finding → List Finding → Prop} (h : Additive R)
    {α : Type} {f g : α → List Finding} (xs : List α) (hfg : ∀ x, R (f x) (g x)) :
    R (xs.flatMap f) (xs.flatMap g) := by
  induction xs with
  | nil => exact h.nil
  | cons x xs ih =>
    rw [List.flatMap_cons, List.flatMap_cons]
    exact h.append (hfg x) ih

/-- Two checks find related findings, and related references in the same order. -/
structure Checked.Related (R : List Finding → List Finding → Prop) (Q : FieldRef → FieldRef → Prop)
    (c c' : Checked) : Prop where
  findings : R c.findings c'.findings
  refs : List.Forall₂ Q c.refs c'.refs

/-- Two scopes of one schema find related findings in each reference and in each text
    that names a user or a team, and related references. -/
structure Scope.Related (R : List Finding → List Finding → Prop) (Q : FieldRef → FieldRef → Prop)
    (scope scope' : Scope) : Prop where
  additive : Finding.Additive R
  schema : scope'.schema = scope.schema
  reference : ∀ location name source raw,
    R (scope.refFindings location name
        (Reference.resolve scope.schema scope.workingSet source raw))
      (scope'.refFindings location name
        (Reference.resolve scope'.schema scope'.workingSet source raw))
  user : ∀ location name value,
    R (scope.userFindings location name value) (scope'.userFindings location name value)
  field : ∀ field index location source raw,
    Q ⟨field, index, location, Reference.resolve scope.schema scope.workingSet source raw⟩
      ⟨field, index, location, Reference.resolve scope'.schema scope'.workingSet source raw⟩

variable {R : List Finding → List Finding → Prop} {Q : FieldRef → FieldRef → Prop}

namespace Checked.Related

theorem empty (h : Finding.Additive R) : Related R Q {} {} := ⟨h.nil, .nil⟩

theorem error (h : Finding.Additive R) {f : Finding} (hf : f.isError = true) :
    Related R Q ⟨[f], []⟩ ⟨[f], []⟩ := ⟨h.error f hf, .nil⟩

theorem refs_eq {c c' : Checked} (h : c.Related R (· = ·) c') : c.refs = c'.refs :=
  List.forall₂_eq_eq_eq ▸ h.refs

theorem append (h : Finding.Additive R) {c c' d d' : Checked} (hc : c.Related R Q c')
    (hd : d.Related R Q d') : (c ++ d).Related R Q (c' ++ d') :=
  ⟨h.append hc.findings hd.findings, List.rel_append hc.refs hd.refs⟩

theorem join (h : Finding.Additive R) {α : Type} {f g : α → Checked} (xs : List α)
    (hfg : ∀ x, (f x).Related R Q (g x)) :
    (Checked.join (xs.map f)).Related R Q (Checked.join (xs.map g)) := by
  induction xs with
  | nil => exact empty h
  | cons x xs ih => exact (hfg x).append h ih

end Checked.Related

namespace Scope

section
variable {scope scope' : Scope} (h : Related R Q scope scope') (source : Option String)

include h

/-! ## Fields -/

theorem related_patternFindings (pattern : Option Pattern) (location : Location)
    (name value : String) : R (patternFindings pattern location name value)
      (patternFindings pattern location name value) := by
  unfold patternFindings
  split
  · exact h.additive.nil
  · split
    · exact h.additive.nil
    · exact h.additive.error _ rfl

theorem related_checkText (f : Schema.Field) (index : Option Nat) (value : String) :
    (scope.checkText source f index value).Related R Q
      (scope'.checkText source f index value) := by
  unfold checkText
  dsimp only
  have hpattern := related_patternFindings h f.pattern
  split
  · exact ⟨h.additive.append (hpattern ..) (h.reference ..), .cons (h.field ..) .nil⟩
  · split
    · exact ⟨h.additive.append (hpattern ..) (h.user ..), .nil⟩
    · exact ⟨hpattern .., .nil⟩

theorem related_checkItem (f : Schema.Field) (index : Nat) (v : Value) :
    (scope.checkItem source f index v).Related R Q (scope'.checkItem source f index v) := by
  unfold checkItem
  split
  · exact related_checkText h source f _ _
  · exact .error h.additive rfl

theorem related_checkValue (f : Schema.Field) (v : Value) :
    (scope.checkValue source f v).Related R Q (scope'.checkValue source f v) := by
  have hempty : Checked.Related R Q {} {} := .empty h.additive
  have hwrong : ∀ expected, Checked.Related R Q (mismatch (.field f.name) f.name expected v)
      (mismatch (.field f.name) f.name expected v) := fun _ => .error h.additive rfl
  unfold checkValue
  dsimp only
  cases f.kind with
  | number | bool =>
    dsimp only
    split
    · exact hempty
    · exact hwrong _
  | choice =>
    cases v with
    | text s =>
      dsimp only
      split
      · exact hempty
      · exact .error h.additive rfl
    | _ => exact hwrong _
  | text | ref | user =>
    cases v with
    | text s => exact related_checkText h source f none s
    | _ => exact hwrong _
  | texts | refs | users =>
    cases v with
    | list l items => exact .join h.additive _ fun item => related_checkItem h source f item.2 item.1
    | _ => exact hwrong _

theorem related_checkFields (header : Entries) (fields : List Schema.Field) :
    (scope.checkFields source header fields).Related R Q
      (scope'.checkFields source header fields) := by
  refine .join h.additive _ fun f => ?_
  have hmissing : (if f.required then ⟨[⟨.field f.name, .missingField f⟩], []⟩ else {} :
      Checked).Related R Q (if f.required then ⟨[⟨.field f.name, .missingField f⟩], []⟩ else {}) := by
    split
    · exact .error h.additive rfl
    · exact .empty h.additive
  unfold checkField
  split
  · exact hmissing
  · exact hmissing
  · exact related_checkValue h source f _

/-! ## Sections -/

theorem related_kindFindings (location : Location) (name : String) (kind : Schema.Kind)
    (cell : String) : R (scope.kindFindings source location name kind cell)
      (scope'.kindFindings source location name kind cell) := by
  unfold kindFindings
  cases kind with
  | number =>
    dsimp only
    split
    · exact h.additive.nil
    · exact h.additive.error _ rfl
  | bool =>
    dsimp only
    split
    · exact h.additive.nil
    · exact h.additive.error _ rfl
  | user => exact h.user ..
  | ref => exact h.reference ..
  | _ => exact h.additive.nil

theorem related_cellFindings (path : List String) (location : Location) (column : Schema.Column)
    (cell : String) : R (scope.cellFindings source path location column cell)
      (scope'.cellFindings source path location column cell) := by
  unfold cellFindings
  dsimp only
  split
  · split
    · exact h.additive.error _ rfl
    · exact h.additive.nil
  · refine h.additive.append (related_kindFindings h source ..) ?_
    unfold cellPatternFindings
    split
    · exact h.additive.nil
    · split
      · exact h.additive.nil
      · exact h.additive.error _ rfl

theorem related_tableFindings (path : List String) (index : Nat) (rule : Schema.TableRule)
    (t : Option Table) : R (scope.tableFindings source path index rule t)
      (scope'.tableFindings source path index rule t) := by
  cases t with
  | none =>
    unfold tableFindings
    dsimp only
    split
    · exact h.additive.error _ rfl
    · exact h.additive.nil
  | some t =>
    refine h.additive.flatMap _ fun column => ?_
    unfold columnFindings
    split
    · split
      · exact h.additive.error _ rfl
      · exact h.additive.nil
    · exact h.additive.flatMap _ fun cell => related_cellFindings h source path _ column _

omit h in
theorem related_contentFindings (hR : Finding.Additive R) (path : List String)
    (rule : Schema.ContentRule) (found : Nat) :
    R (contentFindings path rule found) (contentFindings path rule found) := by
  unfold contentFindings
  split
  · exact hR.nil
  · split
    · exact hR.error _ rfl
    · exact hR.nil

omit h in
theorem related_listFindings (hR : Finding.Additive R) (path : List String)
    (rule : Schema.ListRule) (found : Nat) :
    R (listFindings path rule found) (listFindings path rule found) := by
  unfold listFindings
  split
  · split
    · exact hR.error _ rfl
    · exact hR.nil
  · split
    · exact hR.nil
    · split
      · exact hR.error _ rfl
      · exact hR.nil

omit h in
theorem related_diagramFindings (hR : Finding.Additive R) (path : List String)
    (rule : Schema.DiagramRule) (infos : List String) :
    R (diagramFindings path rule infos) (diagramFindings path rule infos) := by
  unfold diagramFindings
  dsimp only
  generalize (_ || _ : Bool) = found
  cases found
  · exact hR.error _ rfl
  · exact hR.nil

omit h in
theorem related_getD_map (hR : Finding.Additive R) {α : Type} {f : α → List Finding}
    (hf : ∀ x, R (f x) (f x)) (o : Option α) : R ((o.map f).getD []) ((o.map f).getD []) := by
  cases o with
  | none => exact hR.nil
  | some x => exact hf x

theorem related_ownFindings (body : Body) (path : List String) (rule : Schema.SectionRule)
    (s : Section) : R (scope.ownFindings source body path rule s)
      (scope'.ownFindings source body path rule s) := by
  have hR := h.additive
  refine hR.append (hR.append (hR.append ?_ ?_) ?_) ?_
  · exact hR.flatMap _ fun t => related_tableFindings h source path t.2 t.1 _
  · exact related_getD_map hR (fun _ => related_contentFindings hR path _ _) _
  · exact related_getD_map hR (fun _ => related_listFindings hR path _ _) _
  · exact related_getD_map hR (fun _ => related_diagramFindings hR path _ _) _

omit h

mutual

theorem related_sectionFindings (h : Related R Q scope scope') (body : Body)
    (above : List String) : (rule : Schema.SectionRule) →
      R (scope.sectionFindings source body above rule)
        (scope'.sectionFindings source body above rule)
  | ⟨name, required, description, children, tables, content, list, diagram⟩ => by
    unfold sectionFindings
    dsimp only
    split
    · split
      · exact h.additive.error _ rfl
      · exact h.additive.nil
    · exact h.additive.append (related_ownFindings h source body _ _ _)
        (related_sectionsFindings h body (above ++ [name]) children)

theorem related_sectionsFindings (h : Related R Q scope scope') (body : Body)
    (above : List String) : (rules : List Schema.SectionRule) →
      R (scope.sectionsFindings source body above rules)
        (scope'.sectionsFindings source body above rules)
  | [] => by
    unfold sectionsFindings
    exact h.additive.nil
  | rule :: rules => by
    unfold sectionsFindings
    exact h.additive.append (related_sectionFindings h body above rule)
      (related_sectionsFindings h body above rules)

end

end

/-! ## Documents -/

/-- What is discovered in a document, in the order in which it is: what is wrong with
    its type first, then what is wrong in its fields and its sections. -/
def discovered (scope : Scope) (d : Document) : Checked :=
  ⟨(scope.typeOf d).2, []⟩ ++ ((scope.typeOf d).1.map (scope.checkAs d)).getD {}

/-- What is discovered in a document of a type. -/
theorem findings_discovered {scope : Scope} {d : Document} {t : Schema.DocType}
    (ht : (scope.typeOf d).1 = some t) : (scope.discovered d).findings = (scope.typeOf d).2 ++
      ((if d.hasSoundHeader then scope.checkFields d.path d.header t.fields else {}).findings ++
        scope.checkSections d.path d.body t.sections) := by
  rw [discovered, ht]
  rfl

/-- **The report on a document** sorts what is discovered in it. -/
theorem checkDocument_eq (scope : Scope) (d : Document) : scope.checkDocument d =
    .ofFindings d.shownPath ((scope.typeOf d).1.map (·.name)) (scope.discovered d).findings
      (scope.discovered d).refs := rfl

/-- What is wrong with the type of a document. -/
theorem mem_typeOf {scope : Scope} {d : Document} {f : Finding} (hf : f ∈ (scope.typeOf d).2) :
    f.isError = true ∧ f.location.inHeader = true ∧ f.code ∈ ["F000", "F001", "F002"] := by
  unfold typeOf at hf
  dsimp only at hf
  split at hf
  · rw [List.mem_singleton.1 hf]
    exact ⟨rfl, rfl, by simp [Finding.code, Problem.code]⟩
  · rw [List.mem_singleton.1 hf]
    exact ⟨rfl, rfl, by simp [Finding.code, Problem.code]⟩
  · split at hf
    · rw [List.mem_singleton.1 hf]
      exact ⟨rfl, rfl, by simp [Finding.code, Problem.code]⟩
    · rw [List.mem_singleton.1 hf]
      exact ⟨rfl, rfl, by simp [Finding.code, Problem.code]⟩
    · split at hf
      · cases hf
      · rw [List.mem_singleton.1 hf]
        exact ⟨rfl, rfl, by simp [Finding.code, Problem.code]⟩

variable {scope scope' : Scope}

theorem related_checkAs (h : Related R Q scope scope') (d : Document) (t : Schema.DocType) :
    (scope.checkAs d t).Related R Q (scope'.checkAs d t) := by
  unfold checkAs
  refine .append h.additive ?_ ⟨related_sectionsFindings d.path h d.body [] t.sections, .nil⟩
  split
  · exact related_checkFields h d.path d.header t.fields
  · exact .empty h.additive

/-- Scopes of one schema give a document one type. -/
theorem typeOf_eq_of_schema_eq (h : scope'.schema = scope.schema) (d : Document) :
    scope'.typeOf d = scope.typeOf d := by
  unfold typeOf
  rw [h]

/-- **What two scopes discover in a document.** -/
theorem related_discovered (h : Related R Q scope scope') (d : Document) :
    (scope.discovered d).Related R Q (scope'.discovered d) := by
  have herrors : ∀ fs : List Finding, (∀ f ∈ fs, f.isError = true) → R fs fs := by
    intro fs hfs
    induction fs with
    | nil => exact h.additive.nil
    | cons f fs ih =>
      obtain ⟨hf, hfs⟩ := List.forall_mem_cons.1 hfs
      exact h.additive.append (h.additive.error f hf) (ih hfs)
  unfold discovered
  rw [typeOf_eq_of_schema_eq h.schema]
  refine .append h.additive ⟨herrors _ fun f hf => (mem_typeOf hf).1, .nil⟩ ?_
  cases (scope.typeOf d).1 with
  | none => exact .empty h.additive
  | some t => exact related_checkAs h d t

end Scope

end Folio
