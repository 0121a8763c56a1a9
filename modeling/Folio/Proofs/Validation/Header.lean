/-
  Folio — what a report finds in a header.

  The header of a document of a type must have what the fields of the type ask for.  In a
  sound schema only those fields of a type are required that it declares itself, and no
  other field has the name of one (`Schema.filter_name_of_required`); so what is found in
  a field that is missing is just that it is.

  * `Scope.findings_header_iff`: when a report finds errors in the fields of a header.
-/
import Folio.Proofs.Schema.Sound
import Folio.Proofs.Validation.Sections

namespace Folio

/-! ## Fields of types -/

namespace Schema

theorem sound_of_ofSource {source : String} {s : Schema} (h : ofSource source = .ok s) :
    ∃ ns, s.DeclaredBy ns ∧ s.Sound := by
  obtain ⟨ns, -, h⟩ := bind_eq_ok_iff.1 h
  exact ⟨ns, ofNodes_eq_ok_iff.1 h⟩

theorem required_of_mem_fieldsOfRelations {relations : List Relation} {f : Field}
    (hf : f ∈ fieldsOfRelations relations) : f.required = false := by
  obtain ⟨r, -, hf⟩ := List.mem_flatMap.1 hf
  obtain ⟨_, -, rfl⟩ := List.mem_map.1 hf
  rfl

theorem filter_name_of_nodup {fs : List Field} (h : (fs.map (·.name)).Nodup) {f : Field}
    (hf : f ∈ fs) : fs.filter (·.name == f.name) = [f] := by
  induction fs with
  | nil => cases hf
  | cons g fs ih =>
    obtain ⟨hg, hfs⟩ := List.nodup_cons.1 h
    rcases List.mem_cons.1 hf with rfl | hf
    · have hother : fs.filter (·.name == f.name) = [] := List.filter_eq_nil_iff.2 fun g hg' hname =>
        hg (List.mem_map.2 ⟨g, hg', beq_iff_eq.1 hname⟩)
      rw [List.filter_cons, beq_self_eq_true, if_pos rfl, hother]
    · have hne : g.name ≠ f.name := fun hname => hg (List.mem_map.2 ⟨f, hf, hname.symm⟩)
      rw [List.filter_cons, beq_eq_false_iff_ne.2 hne, if_neg Bool.false_ne_true, ih hfs hf]

/-- **A field that is required** is the only one of its name. -/
theorem filter_name_of_required {ns : List Node} {s : Schema} (hs : s.DeclaredBy ns ∧ s.Sound)
    {t : DocType} (ht : t ∈ s.types) {f : Field} (hf : f ∈ t.fields) (hreq : f.required = true) :
    t.fields.filter (·.name == f.name) = [f] := by
  obtain ⟨⟨types, hholds, htypes⟩, hsound⟩ := hs
  have hnames := (hsound.types t ht).fieldNames
  rw [htypes] at ht
  obtain ⟨own, hown, rfl⟩ := List.mem_map.1 ht
  obtain ⟨n, -, hn⟩ := exists_mem_of_forall₂ hholds.types hown
  rw [DocType.ownFields_withRelations hn] at hnames
  -- the fields of relations are not required, so the type declares the field itself
  have hfown : f ∈ own.fields := by
    rcases List.mem_append.1 hf with hf | hf
    · exact hf
    · have hfree := required_of_mem_fieldsOfRelations (List.mem_filter.1 hf).1
      exact absurd (hreq.symm.trans hfree) (by decide)
  have hrelations : (List.filter (fun g => (own.field? g.name).isNone)
      (fieldsOfRelations s.relations)).filter (·.name == f.name) = [] := by
    refine List.filter_eq_nil_iff.2 fun g hg hname => ?_
    have hsome := DocType.isSome_field?_iff.2 (List.mem_map_of_mem (f := (·.name)) hfown)
    rw [← beq_iff_eq.1 hname, ← Option.not_isNone, (List.mem_filter.1 hg).2] at hsome
    cases hsome
  rw [DocType.withRelations, List.filter_append, hrelations, filter_name_of_nodup hnames hfown]
  rfl

end Schema

/-! ## Headers -/

namespace Scope

variable {scope : Scope}

/-- What is found in a field is what the fields of its name find. -/
theorem filter_checkFields (source : Option String) (header : Entries) (name : String)
    (fields : List Schema.Field) : (scope.checkFields source header fields).findings.filter
        (·.location.fieldName? == some name) =
      (scope.checkFields source header (fields.filter (·.name == name))).findings := by
  induction fields with
  | nil => rfl
  | cons f fields ih =>
    have hplace := (settles_checkField scope source f header).place
    have hcons : ∀ fs, (scope.checkFields source header (f :: fs)).findings =
        (scope.checkField source header f).findings ++
          (scope.checkFields source header fs).findings := fun _ => rfl
    rw [hcons, List.filter_append, ih, List.filter_cons]
    cases hname : f.name == name with
    | true =>
      rw [if_pos rfl, hcons, List.filter_eq_self.2 fun x hx => ?_]
      rw [hplace x hx, beq_iff_eq.1 hname, beq_self_eq_true]
    | false =>
      rw [List.filter_eq_nil_iff.2 fun x hx => ?_]
      · rfl
      · rw [hplace x hx, beq_iff_eq, Option.some.injEq]
        exact beq_eq_false_iff_ne.1 hname

section
variable {d : Document} (hd : d.hasSoundHeader = true) {name : String}
  (hname : d.header.get? "type" = some (.text name)) {t : Schema.DocType}
  (ht : scope.schema.type? name = some t)

include hd hname ht

/-- A document whose header names a type of the schema. -/
theorem typeOf_of_type? : scope.typeOf d = (some t, []) := by
  obtain ⟨herror, hheader⟩ : d.headerError = none ∧ d.hasHeader = true := by
    simpa [Document.hasSoundHeader] using hd
  unfold typeOf
  simp only [herror, hheader, hname, ht]

theorem findings_discovered_of_type? : (scope.discovered d).findings =
    (scope.checkFields d.path d.header t.fields).findings ++
      scope.checkSections d.path d.body t.sections := by
  have htype : scope.typeOf d = (some t, []) := typeOf_of_type? hd hname ht
  rw [findings_discovered (congrArg Prod.fst htype), htype, hd, List.nil_append]
  rfl

/-- A report finds errors in the fields of a header exactly if the header does not have
    what the fields ask for. -/
theorem fieldCodes_checkDocument_iff :
    (∀ x ∈ (scope.checkDocument d).findings, x.location.inHeader = true →
      x.code ∉ Finding.fieldCodes) ↔ ∀ f ∈ t.fields, f.Met d.header := by
  rw [← errors_checkFields_iff scope d.path]
  simp only [checkDocument_eq, FileReport.mem_findings_ofFindings,
    findings_discovered_of_type? hd hname ht]
  constructor
  · intro h x hx
    obtain ⟨hplace, hcode⟩ := mem_checkFields scope d.path hx
    exact Bool.eq_false_iff.2 fun herror => h x (List.mem_append_left _ hx) hplace (hcode herror)
  · intro h x hx hplace hcode
    rcases List.mem_append.1 hx with hx | hx
    · exact Bool.false_ne_true ((h x hx).symm.trans (Finding.isError_of_mem_fieldCodes hcode))
    · exact Bool.false_ne_true ((inHeader_of_mem_checkSections scope d.path hx).symm.trans hplace)

/-- What a report finds in a field that is missing, if no other field has its name. -/
theorem findings_of_lacksIn {f : Schema.Field} (honly : t.fields.filter (·.name == f.name) = [f])
    (hreq : f.required = true) (hlacks : f.LacksIn d.header) :
    (scope.checkDocument d).findings.filter (·.location.fieldName? == some f.name) =
      [⟨.field f.name, .missingField f⟩] := by
  have hsections : (scope.checkSections d.path d.body t.sections).filter
      (·.location.fieldName? == some f.name) = [] :=
    List.filter_eq_nil_iff.2 fun x hx hfield => Bool.false_ne_true
      ((inHeader_of_mem_checkSections scope d.path hx).symm.trans
        (Location.inHeader_of_fieldName? (beq_iff_eq.1 hfield)))
  have hfield : (scope.checkFields d.path d.header [f]).findings =
      [⟨.field f.name, .missingField f⟩] := by
    rw [checkFields, Checked.join, List.map_singleton, List.flatMap_singleton,
      findings_checkField_of_lacksIn scope d.path f hlacks, if_pos hreq]
  rw [checkDocument_eq, FileReport.filter_findings_ofFindings,
    findings_discovered_of_type? hd hname ht, List.filter_append, hsections, List.append_nil,
    filter_checkFields, honly, hfield]
  refine FileReport.findings_ofFindings_of_code _ _ _ "F010" (by decide) fun x hx => ?_
  rw [List.mem_singleton.1 hx]
  rfl

end

/-- **What a report finds in the header** of a document of a type, for a schema that has
    been read.  It finds no errors in fields exactly if each field of the type either is
    not required and is missing or null, or has a value of its kind whose texts match its
    pattern; and of a field that is required and missing it finds just that. -/
theorem findings_header_iff {source : String} (hs : Schema.ofSource source = .ok scope.schema)
    {d : Document} (hd : d.hasSoundHeader = true) {name : String}
    (hname : d.header.get? "type" = some (.text name)) {t : Schema.DocType}
    (ht : scope.schema.type? name = some t) :
    ((∀ x ∈ (scope.checkDocument d).findings, x.location.inHeader = true →
        x.code ∉ Finding.fieldCodes) ↔
      ∀ f ∈ t.fields, (f.required = false ∧ f.LacksIn d.header) ∨
        ∃ v, d.header.get? f.name = some v ∧ f.kind.Has f.choices v ∧
          ∀ s ∈ Graph.textsOf (some v), f.Fits s) ∧
    ∀ f ∈ t.fields, f.required = true → f.LacksIn d.header →
      (scope.checkDocument d).findings.filter (·.location.fieldName? == some f.name) =
        [⟨.field f.name, .missingField f⟩] := by
  obtain ⟨ns, hsound⟩ := Schema.sound_of_ofSource hs
  have hmem : t ∈ scope.schema.types := List.mem_of_find?_eq_some ht
  constructor
  · rw [fieldCodes_checkDocument_iff hd hname ht]
    exact forall₂_congr fun f hf =>
      Schema.Field.met_iff_of_sound ((hsound.2.types t hmem).fields f hf)
  · intro f hf hreq hlacks
    have honly := Schema.filter_name_of_required hsound hmem hf hreq
    exact findings_of_lacksIn hd hname ht honly hreq hlacks

/-- Records, which have a number and a user. -/
def recordType : Schema.DocType :=
  { name := "n"
    fields :=
      [{ name := "a", kind := .number, required := true },
        { name := "b", kind := .user, required := true }] }

/-- A record with a truth value for a number and without a user. -/
def record : Document :=
  { path := none
    raw := Utf8.ofString "---\ntype: n\na: true\n---\n"
    header := [(.text "type", .text "n"), (.text "a", .bool true)]
    hasHeader := true
    headerError := none
    bodyOffset := 24
    body := Body.ofOctets [] }

/-- The scope of records alone. -/
def recordScope : Scope := ⟨{ types := [recordType] }, ⟨[]⟩, none⟩

/-- A truth value is no number. -/
theorem findings_header_of_record :
    Schema.ofSource ("type \"n\" \x7b\nfield \"a\" type=\"number\" required=true\n" ++
        "field \"b\" type=\"user\" required=true\n\x7d\n") = .ok recordScope.schema ∧
      Document.parse record.raw none = .ok record ∧
      record.hasSoundHeader = true ∧
      record.header.get? "type" = some (.text "n") ∧
      recordScope.schema.type? "n" = some recordType ∧
      ¬(∀ x ∈ (recordScope.checkDocument record).findings, x.location.inHeader = true →
        x.code ∉ Finding.fieldCodes) ∧
      (recordScope.checkDocument record).findings.filter (·.location.fieldName? == some "b") =
        [⟨.field "b", .missingField { name := "b", kind := .user, required := true }⟩] := by
  have hs : Schema.ofSource ("type \"n\" \x7b\nfield \"a\" type=\"number\" required=true\n" ++
      "field \"b\" type=\"user\" required=true\n\x7d\n") = .ok recordScope.schema := by
    decide +kernel
  have hname : record.header.get? "type" = some (.text "n") := by decide +kernel
  have htype : recordScope.schema.type? "n" = some recordType := by decide +kernel
  have hat : record.header.get? "a" = some (.bool true) := by decide +kernel
  obtain ⟨hiff, hmissing⟩ := findings_header_iff hs (d := record) rfl hname htype
  refine ⟨hs, by decide +kernel, rfl, hname, htype, fun h => ?_, ?_⟩
  · rcases hiff.1 h _ List.mem_cons_self with ⟨hfree, -⟩ | ⟨v, hv, hkind, -⟩
    · cases hfree
    · cases hat.symm.trans hv
      cases hkind
  · exact hmissing _ (List.mem_cons_of_mem _ List.mem_cons_self) rfl (.inl (by decide +kernel))

end Scope

end Folio
