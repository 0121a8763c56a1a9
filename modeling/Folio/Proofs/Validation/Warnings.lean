/-
  Folio — the warnings about references.

  A reference in a header that points at no document is told twice: by a warning where
  it stands, and by what the report keeps of the reference itself.  The two are made by
  one check of a text, and the checks around it add errors and warnings about users, but
  neither warnings about references nor references (`Checked.Told`).  References in
  the cells of tables are only warned of, but these warnings do not stand in the header.

  * `Scope.Passes`: what passes from the parts of a check to the whole;
  * `Scope.passes_told`: warnings about references are about those that are kept;
  * `Scope.refs_of_type?`: the references in a report and the warnings about them.
-/
import Folio.Proofs.Validation.FieldRefs
import Folio.Proofs.Validation.Growth
import Folio.Proofs.Validation.Header

namespace Folio

/-- The code of a finding and its place. -/
def Finding.entry (x : Finding) : String × Location := (x.code, x.location)

/-- The code of a reference that points at no document, and its place. -/
def FieldRef.entry? (r : FieldRef) : Option (String × Location) :=
  r.ref.fault?.map fun fault => (fault.code, r.location)

/-- A reference points at a document or at none, with the reason. -/
theorem Reference.target?_or_fault? (r : Reference) :
    (∃ path, r.target? = some path ∧ r.fault? = none) ∨
      ∃ fault, r.fault? = some fault ∧ r.target? = none := by
  obtain ⟨raw, rule, outcome⟩ := r
  cases outcome with
  | ok path => exact Or.inl ⟨path, rfl, rfl⟩
  | error fault => exact Or.inr ⟨fault, rfl, rfl⟩

/-! ## Warnings about the references that are kept -/

namespace Checked

/-- What is found about references are the references that are kept and point at no
    document, in order. -/
def Told (c : Checked) : Prop :=
  (c.findings.filter (·.isRef)).map Finding.entry = c.refs.filterMap FieldRef.entry?

theorem told_of_not_isRef {found : List Finding} (h : ∀ x ∈ found, x.isRef = false) :
    Told ⟨found, []⟩ := by
  rw [Told, List.filter_eq_nil_iff.2 fun x hx => by simp [h x hx]]
  rfl

theorem told_empty : Told {} := rfl

theorem told_error {x : Finding} (hx : x.isError = true) : Told ⟨[x], []⟩ :=
  told_of_not_isRef fun _ hy => List.mem_singleton.1 hy ▸ Finding.not_isRef_of_isError hx

theorem told_join {cs : List Checked} (h : ∀ c ∈ cs, c.Told) : (join cs).Told := by
  induction cs with
  | nil => exact told_empty
  | cons c cs ih =>
    have hc : c.Told := h c List.mem_cons_self
    have hcs : (join cs).Told := ih fun c hc => h c (List.mem_cons_of_mem _ hc)
    rw [Told, join, List.flatMap_cons, List.flatMap_cons, List.filter_append, List.map_append,
      List.filterMap_append]
    exact congrArg₂ (· ++ ·) hc hcs

end Checked

namespace Scope

open Checked (Told told_of_not_isRef told_empty told_error told_join)

/-! ## What the check of a header is made of -/

/-- A property of checks that holds of nothing, of errors and of checks of texts, and of
    several checks in order if it holds of each. -/
structure Passes (scope : Scope) (source : Option String) (P : Checked → Prop) : Prop where
  empty : P {}
  error : ∀ x : Finding, x.isError = true → P ⟨[x], []⟩
  text : ∀ f index value, P (scope.checkText source f index value)
  join : ∀ cs : List Checked, (∀ c ∈ cs, P c) → P (.join cs)

namespace Passes

variable {scope : Scope} {source : Option String} {P : Checked → Prop} (h : scope.Passes source P)

include h

theorem checkItem (f : Schema.Field) (index : Nat) (v : Value) :
    P (scope.checkItem source f index v) := by
  cases v with
  | text s => exact h.text f (some index) s
  | _ => exact h.error _ rfl

theorem checkValue (f : Schema.Field) (v : Value) : P (scope.checkValue source f v) := by
  unfold Scope.checkValue
  dsimp only
  cases f.kind with
  | number | bool =>
    dsimp only
    split
    · exact h.empty
    · exact h.error _ rfl
  | choice =>
    cases v with
    | text s =>
      dsimp only
      split
      · exact h.empty
      · exact h.error _ rfl
    | _ => exact h.error _ rfl
  | text | user | ref =>
    cases v with
    | text s => exact h.text f none s
    | _ => exact h.error _ rfl
  | texts | users | refs =>
    cases v with
    | list l items =>
      refine h.join _ fun c hc => ?_
      obtain ⟨⟨v, i⟩, -, rfl⟩ := List.mem_map.1 hc
      exact h.checkItem f i v
    | _ => exact h.error _ rfl

theorem checkField (f : Schema.Field) (header : Entries) :
    P (scope.checkField source header f) := by
  have hlacks : P (if f.required then ⟨[⟨.field f.name, .missingField f⟩], []⟩ else {}) := by
    split
    · exact h.error _ rfl
    · exact h.empty
  unfold Scope.checkField
  split
  · exact hlacks
  · exact hlacks
  · exact h.checkValue f _

/-- **The check of a header** has what passes from the parts of a check to the whole. -/
theorem checkFields (header : Entries) (fields : List Schema.Field) :
    P (scope.checkFields source header fields) := by
  refine h.join _ fun c hc => ?_
  obtain ⟨f, -, rfl⟩ := List.mem_map.1 hc
  exact h.checkField f header

end Passes

/-! ## Warnings in the header -/

section
variable (scope : Scope) (source : Option String)

theorem not_isRef_of_mem_patternFindings {pattern : Option Pattern} {location : Location}
    {name value : String} {x : Finding} (hx : x ∈ patternFindings pattern location name value) :
    x.isRef = false := by
  unfold patternFindings at hx
  split at hx
  · cases hx
  · split at hx
    · cases hx
    · rw [List.mem_singleton.1 hx]
      exact Finding.not_isRef_of_isError rfl

theorem not_isRef_of_mem_userFindings {location : Location} {name value : String} {x : Finding}
    (hx : x ∈ scope.userFindings location name value) : x.isRef = false := by
  refine Finding.not_isRef_of_isUser ?_
  unfold userFindings at hx
  split at hx
  · rw [List.mem_singleton.1 hx]
    simp [Finding.isUser, Finding.code, Problem.code]
  · split at hx
    · cases hx
    · split at hx
      · cases hx
      · rw [List.mem_singleton.1 hx]
        simp [Finding.isUser, Finding.code, Problem.code]

/-- The warning about a reference, by its code and place. -/
theorem entry_refFindings (location : Location) (name : String) (r : Reference) :
    ((scope.refFindings location name r).filter (·.isRef)).map Finding.entry =
      (r.fault?.map fun fault => (fault.code, location)).toList := by
  unfold refFindings
  cases r.fault? with
  | none => rfl
  | some fault =>
    rw [List.filter_cons_of_pos (Finding.isRef_badRef ..)]
    rfl

theorem told_checkText (f : Schema.Field) (index : Option Nat) (value : String) :
    (scope.checkText source f index value).Told := by
  have hpattern : ∀ location name, ∀ x ∈ patternFindings f.pattern location name value,
      x.isRef = false := fun _ _ _ => not_isRef_of_mem_patternFindings
  unfold checkText
  dsimp only
  split
  · have hnone : ∀ location name,
        (patternFindings f.pattern location name value).filter (·.isRef) = [] := by
      intro location name
      refine List.filter_eq_nil_iff.2 fun x hx => ?_
      simp [hpattern location name x hx]
    rw [Told, List.filter_append, hnone, List.nil_append, entry_refFindings]
    simp only [FieldRef.entry?, List.filterMap_cons, List.filterMap_nil]
    cases Reference.fault? (Reference.resolve scope.schema scope.workingSet source value) <;> rfl
  · split
    · refine told_of_not_isRef (List.forall_mem_append.2 ⟨hpattern _ _, fun x hx => ?_⟩)
      exact not_isRef_of_mem_userFindings scope hx
    · exact told_of_not_isRef (hpattern _ _)

theorem passes_told : scope.Passes source Told where
  empty := told_empty
  error _ := told_error
  text := scope.told_checkText source
  join _ := told_join

end

section
variable {scope : Scope} {d : Document} (hd : d.hasSoundHeader = true) {name : String}
  (hname : d.header.get? "type" = some (.text name)) {t : Schema.DocType}
  (ht : scope.schema.type? name = some t)

include hd hname ht

theorem refs_checkDocument_of_type? : (scope.checkDocument d).refs =
    (scope.checkFields d.path d.header t.fields).refs := by
  rw [refs_checkDocument, typeOf_of_type? hd hname ht]
  exact if_pos hd

/-- The warnings about references in the header of a document. -/
theorem warnings_checkDocument_of_type? :
    ((scope.checkDocument d).warnings.filter fun w => w.location.inHeader && w.isRef).Perm
      ((scope.checkFields d.path d.header t.fields).findings.filter (·.isRef)) := by
  have hfields : (scope.checkFields d.path d.header t.fields).findings.filter
      (fun w => w.location.inHeader && w.isRef) =
        (scope.checkFields d.path d.header t.fields).findings.filter (·.isRef) := by
    refine List.filter_congr fun x hx => ?_
    rw [(mem_checkFields scope d.path hx).1, Bool.true_and]
  have hsections : (scope.checkSections d.path d.body t.sections).filter
      (fun w => w.location.inHeader && w.isRef) = [] := by
    refine List.filter_eq_nil_iff.2 fun x hx => ?_
    rw [inHeader_of_mem_checkSections scope d.path hx, Bool.false_and]
    decide
  rw [checkDocument_eq, FileReport.ofFindings, FileReport.filter_byCode_filter,
    findings_discovered_of_type? hd hname ht, List.filter_append, hfields, hsections,
    List.append_nil]
  have hwarnings : ∀ x ∈ (scope.checkFields d.path d.header t.fields).findings.filter (·.isRef),
      (!x.isError) = true := by
    intro x hx
    by_contra herror
    have hplain := Finding.not_isRef_of_isError (by simpa using herror)
    exact absurd ((List.mem_filter.1 hx).2.symm.trans hplain) (by decide)
  rw [List.filter_eq_self.2 hwarnings]
  exact List.mergeSort_perm _ _

/-- **The references in a report** on a document of a type: those that the values of its
    fields hold, in the order of the fields.  Each points at a document that has been
    checked too, or else has a code; and the warnings about references in the header
    are those that have a code, each with its code where it stands. -/
theorem refs_of_type? :
    (scope.checkDocument d).refs =
      t.fields.flatMap (fun f => scope.refsIn d.path f (d.header.get? f.name)) ∧
    (∀ r ∈ (scope.checkDocument d).refs,
      (∃ path ∈ scope.workingSet.paths, r.ref.target? = some path ∧ r.ref.fault? = none) ∨
        ∃ fault, r.ref.fault? = some fault ∧ r.ref.target? = none) ∧
    (((scope.checkDocument d).warnings.filter fun w => w.location.inHeader && w.isRef).map
      Finding.entry).Perm ((scope.checkDocument d).refs.filterMap FieldRef.entry?) := by
  refine ⟨?_, fun r hr => ?_, ?_⟩
  · rw [refs_checkDocument_of_type? hd hname ht, refs_checkFields]
  · refine (r.ref.target?_or_fault?).imp_left fun ⟨path, htarget, hfault⟩ => ?_
    obtain ⟨-, -, -, -, -, -, s, -, hs⟩ :=
      (mem_refs_checkDocument_iff scope d).1 ⟨r, hr, rfl, rfl⟩
    exact ⟨path, Reference.mem_paths_of_target? (hs ▸ htarget), htarget, hfault⟩
  · rw [refs_checkDocument_of_type? hd hname ht,
      ← (passes_told scope d.path).checkFields d.header t.fields]
    exact (warnings_checkDocument_of_type? hd hname ht).map _

end

/-- Notes, which can come after another note and name several more. -/
def noteType : Schema.DocType :=
  { name := "n"
    fields := [{ name := "after", kind := .ref }, { name := "see", kind := .refs }] }

/-- References by paths. -/
def notePaths : Schema.RefRule := ⟨"relative-path", .byPath, ⟨".", [], .seq .any .empty⟩⟩

/-- Nodes that declare them. -/
def noteNodes : List Schema.Node :=
  [⟨"type", 1, [.text "n"], [],
      [⟨"field", 2, [.text "after"], [("type", .text "ref")], []⟩,
        ⟨"field", 3, [.text "see"], [("type", .text "ref[]")], []⟩]⟩,
    ⟨"ref-format", 4, [], [], [⟨"relative-path", 5, [], [("pattern", .text ".")], []⟩]⟩]

/-- The scope of notes, two of which are known. -/
def noteScope : Scope :=
  ⟨{ types := [noteType], rules := [notePaths] }, ⟨["a", "b"]⟩, none⟩

/-- A note that comes after one that is not known, and names one that is, a number, and
    the empty text. -/
def note : Document :=
  { path := some "a"
    raw := Utf8.ofString "---\ntype: n\nafter: c\nsee: [b, 3, '']\n---\n"
    header := [(.text "type", .text "n"), (.text "after", .text "c"),
      (.text "see", .list none [.text "b", .int 3, .text ""])]
    hasHeader := true
    headerError := none
    bodyOffset := 41
    body := Body.ofOctets [] }

/-- Three references are kept, and two of them are warned of. -/
theorem refs_of_note :
    Schema.ofNodes noteNodes = .ok noteScope.schema ∧
      Document.parse note.raw note.path = .ok note ∧
      note.hasSoundHeader = true ∧
      note.header.get? "type" = some (.text "n") ∧
      noteScope.schema.type? "n" = some noteType ∧
      ((noteScope.checkDocument note).refs.map fun r => (r.field, r.index, r.ref.target?)) =
        [("after", none, none), ("see", some 0, some "b"), ("see", some 2, none)] ∧
      (((noteScope.checkDocument note).warnings.filter fun w =>
        w.location.inHeader && w.isRef).map Finding.entry).Perm
          [("R010", .field "after"), ("R001", .item "see" 2)] := by
  have hname : note.header.get? "type" = some (.text "n") := by decide +kernel
  have hafter : note.header.get? "after" = some (.text "c") := by decide +kernel
  have hsee : note.header.get? "see" = some (.list none [.text "b", .int 3, .text ""]) := by
    decide +kernel
  have htype : noteScope.schema.type? "n" = some noteType := by decide +kernel
  have hknown : Reference.resolve noteScope.schema noteScope.workingSet note.path "b" =
      ⟨"b", some notePaths, .ok "b"⟩ := by cbv
  have hempty : Reference.resolve noteScope.schema noteScope.workingSet note.path "" =
      ⟨"", none, .error .noForm⟩ := by cbv
  have hunknown : Reference.resolve noteScope.schema noteScope.workingSet note.path "c" =
      ⟨"c", some notePaths, .error .noPath⟩ := by
    have hrule : noteScope.schema.rule? "c" = some notePaths := by decide +kernel
    have hpath : Path.normalized (Path.join ((note.path.map Path.directory).getD "") "c") = "c" := by
      decide +kernel
    have hhas : noteScope.workingSet.has "c" = false := by decide +kernel
    simp [Reference.resolve, hrule, notePaths, hpath, hhas]
  obtain ⟨hrefs, -, hwarnings⟩ := refs_of_type? (d := note) rfl hname htype
  have hheld : (noteScope.checkDocument note).refs =
      [⟨"after", none, .field "after", ⟨"c", some notePaths, .error .noPath⟩⟩,
        ⟨"see", some 0, .item "see" 0, ⟨"b", some notePaths, .ok "b"⟩⟩,
        ⟨"see", some 2, .item "see" 2, ⟨"", none, .error .noForm⟩⟩] := by
    simp [hrefs, noteType, refsIn, itemRef?, hafter, hsee, hknown, hempty, hunknown]
  rw [hheld] at hwarnings ⊢
  exact ⟨by decide +kernel, by decide +kernel, rfl, hname, htype, rfl, hwarnings⟩

end Scope

end Folio
