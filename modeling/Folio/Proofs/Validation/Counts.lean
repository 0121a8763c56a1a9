/-
  Folio — counting the documents of types.

  A type can have only so many documents.  The first one beyond is reported, behind all
  that is found in it alone, and its errors are put in order once more.  So a report
  lists what is found in a document, errors apart from warnings, by the codes, and
  findings of one code in the order in which they are found (`FileReport.Lists`).

  * `FileReport.lists_ofFindings`, `FileReport.Lists.addError`: what a report lists;
  * `Report.getElem?_withExcess`, `Report.excess?_eq_some_iff`: where a finding is added;
  * `Report.files_ofDocuments`: the reports on several documents.
-/
import Folio.Proofs.Validation.Header

namespace Folio

/-! ## Letters of codes -/

namespace Finding

/-- The letter that the code of a finding starts with. -/
def letter? (f : Finding) : Option Char := f.code.toList.head?

theorem letter?_cases (f : Finding) :
    f.isError = true ∧ f.letter? ∈ [some 'F', some 'S', some 'T'] ∨
      f.isError = false ∧ f.letter? ∈ [some 'R', some 'U'] := by
  obtain ⟨location, problem⟩ := f
  cases problem with
  | badRef fault =>
    refine .inr ⟨rfl, ?_⟩
    cases fault <;> simp [letter?, code, Problem.code, RefFault.code]
  | noUserRef | unknownUser => exact .inr ⟨rfl, by simp [letter?, code, Problem.code]⟩
  | _ => exact .inl ⟨rfl, by simp [letter?, code, Problem.code]⟩

/-- **Errors** concern the header, the sections and the number of documents. -/
theorem isError_eq_decide (f : Finding) :
    f.isError = decide (f.letter? ∈ [some 'F', some 'S', some 'T']) := by
  rcases f.letter?_cases with ⟨herror, hletter⟩ | ⟨herror, hletter⟩
  · rw [herror, decide_eq_true hletter]
  · rw [herror]
    revert hletter
    generalize f.letter? = letter
    simp only [List.mem_cons, List.not_mem_nil, or_false]
    rintro (rfl | rfl) <;> rfl

/-- **Warnings** concern references and users. -/
theorem not_isError_eq_decide (f : Finding) :
    (!f.isError) = decide (f.letter? ∈ [some 'R', some 'U']) := by
  rcases f.letter?_cases with ⟨herror, hletter⟩ | ⟨herror, hletter⟩
  · rw [herror]
    revert hletter
    generalize f.letter? = letter
    simp only [List.mem_cons, List.not_mem_nil, or_false]
    rintro (rfl | rfl | rfl) <;> rfl
  · rw [herror, decide_eq_true hletter, Bool.not_false]

end Finding

/-! ## What a report lists -/

namespace FileReport

/-- The report lists what is found: errors and warnings, both by their codes, and
    findings of one code in the order in which they are found. -/
structure Lists (r : FileReport) (found : List Finding) : Prop where
  sortedErrors : r.errors.Pairwise (·.code ≤ ·.code)
  sortedWarnings : r.warnings.Pairwise (·.code ≤ ·.code)
  ofCode : ∀ code, r.findings.filter (·.code == code) = found.filter (·.code == code)
  errors : r.errors.Perm (found.filter (·.letter? ∈ [some 'F', some 'S', some 'T']))
  warnings : r.warnings.Perm (found.filter (·.letter? ∈ [some 'R', some 'U']))

variable {found found' : List Finding}

theorem pairwise_byCode (found : List Finding) : (byCode found).Pairwise (·.code ≤ ·.code) :=
  (List.pairwise_mergeSort code_le_trans code_le_total found).imp of_decide_eq_true

theorem filter_code_byCode (code : String) (found : List Finding) :
    (byCode found).filter (·.code == code) = found.filter (·.code == code) := by
  rw [filter_byCode]
  exact byCode_of_code fun f hf => beq_iff_eq.1 (List.mem_filter.1 hf).2

/-- Findings of one code are all errors, or all of them are warnings. -/
theorem filter_code_append (code : String) (found : List Finding) :
    (found.filter (·.isError)).filter (·.code == code) ++
      (found.filter (!·.isError)).filter (·.code == code) = found.filter (·.code == code) := by
  have hkind : ∀ f ∈ found.filter (·.code == code),
      (f.isError = true ↔ Severity.ofCode? code = some .error) := by
    intro f hf
    rw [Finding.isError_iff, beq_iff_eq.1 (List.mem_filter.1 hf).2]
  have hcomm : ∀ p : Finding → Bool, (found.filter p).filter (·.code == code) =
      (found.filter (·.code == code)).filter p := fun p => List.filter_comm ..
  rw [hcomm, hcomm]
  generalize found.filter (·.code == code) = same at hkind
  by_cases h : Severity.ofCode? code = some .error
  · rw [List.filter_eq_self.2 fun f hf => (hkind f hf).2 h,
      List.filter_eq_nil_iff.2 fun f hf => by simp [(hkind f hf).2 h], List.append_nil]
  · rw [List.filter_eq_nil_iff.2 fun f hf => mt (hkind f hf).1 h,
      List.filter_eq_self.2 fun f hf => by simp [mt (hkind f hf).1 h], List.nil_append]

theorem lists_ofFindings (path : String) (docType : Option String) (found : List Finding)
    (refs : List FieldRef) : (ofFindings path docType found refs).Lists found where
  sortedErrors := pairwise_byCode _
  sortedWarnings := pairwise_byCode _
  ofCode code := by
    rw [findings, ofFindings, List.filter_append, filter_code_byCode, filter_code_byCode,
      filter_code_append]
  errors := by
    simp only [← Finding.isError_eq_decide]
    exact List.mergeSort_perm ..
  warnings := by
    simp only [← Finding.not_isError_eq_decide]
    exact List.mergeSort_perm ..

/-- An error more comes behind those of its code. -/
theorem Lists.addError {r : FileReport} (h : r.Lists found) {f : Finding}
    (hf : f.isError = true) : (r.addError f).Lists (found ++ [f]) where
  sortedErrors := pairwise_byCode _
  sortedWarnings := h.sortedWarnings
  ofCode code := by
    have hwarnings : f.code = code → r.warnings.filter (·.code == code) = [] := by
      rintro rfl
      refine List.filter_eq_nil_iff.2 fun g hg hcode => ?_
      have hletter := (List.mem_filter.1 (h.warnings.mem_iff.1 hg)).2
      rw [← Finding.not_isError_eq_decide, Bool.not_eq_true', ← Bool.not_eq_true,
        Finding.isError_iff, beq_iff_eq.1 hcode] at hletter
      exact hletter (Finding.isError_iff.1 hf)
    have hold := h.ofCode code
    rw [findings, List.filter_append] at hold ⊢
    rw [FileReport.addError, filter_code_byCode, List.filter_append, List.filter_append, ← hold]
    by_cases hcode : f.code = code
    · rw [hwarnings hcode, List.append_nil, List.append_nil]
    · rw [List.filter_cons_of_neg (by simpa using hcode), List.filter_nil, List.append_nil,
        List.append_nil]
  errors := by
    have hkept : [f].filter (·.letter? ∈ [some 'F', some 'S', some 'T']) = [f] := by
      rw [List.filter_cons_of_pos (Finding.isError_eq_decide f ▸ hf), List.filter_nil]
    rw [List.filter_append, hkept]
    exact (List.mergeSort_perm ..).trans (h.errors.append_right [f])
  warnings := by
    have hleft : [f].filter (·.letter? ∈ [some 'R', some 'U']) = [] := by
      rw [List.filter_cons_of_neg (by rw [← Finding.not_isError_eq_decide, hf]; decide),
        List.filter_nil]
    rw [List.filter_append, hleft, List.append_nil]
    exact h.warnings

end FileReport

/-! ## Codes of what is discovered -/

/-- Nothing that is discovered in a document tells of other documents of its type. -/
theorem Scope.code_ne_of_mem_discovered {scope : Scope} {d : Document} {x : Finding}
    (hx : x ∈ (scope.discovered d).findings) : x.code ≠ "T010" := by
  have htype : ∀ x ∈ (scope.typeOf d).2, x.code ≠ "T010" :=
    fun x hx hcode => absurd (hcode ▸ (mem_typeOf hx).2.2) (by decide)
  cases ht : (scope.typeOf d).1 with
  | none =>
    rw [discovered, ht] at hx
    exact (List.mem_append.1 hx).elim (htype x) (by simp)
  | some t =>
    rw [findings_discovered ht] at hx
    rcases List.mem_append.1 hx with hx | hx
    · exact htype x hx
    · have herror : Severity.ofCode? "T010" = some .error := by decide
      rcases List.mem_append.1 hx with hx | hx
      · split at hx
        · intro hcode
          have hmem := (mem_checkFields scope d.path hx).2 (Finding.isError_iff.2 (hcode ▸ herror))
          exact absurd (hcode ▸ hmem) (by decide)
        · cases hx
      · exact code_ne_of_mem_checkSections scope d.path herror (by decide) hx

/-! ## Where a finding is added -/

/-- Is the document of the type with a name? -/
def Scope.isOfType (scope : Scope) (name : String) (d : Document) : Bool :=
  (scope.typeOf d).1.map (·.name) == some name

/-- The places of the documents of the type with a name. -/
def Scope.placesOf (scope : Scope) (name : String) (docs : List Document) : List Nat :=
  docs.findIdxs (scope.isOfType name)

/-- The findings that the type with a name has too many documents. -/
def FileReport.excesses (r : FileReport) (name : String) : List Finding :=
  (r.findings.filter (·.code == "T010")).filter (·.location == .docType name)

namespace Report

theorem getElem?_findIdxs_eq_some_iff {α : Type} {p : α → Bool} {xs : List α} {n i : Nat} :
    (xs.findIdxs p)[n]? = some i ↔ ∃ x, xs[i]? = some x ∧ p x = true ∧ (xs.take i).countP p = n := by
  induction xs generalizing n i with
  | nil => simp
  | cons x xs ih =>
    rw [List.findIdxs_cons, List.findIdxs_start]
    cases i with
    | zero => cases hp : p x <;> cases n <;> simp [hp]
    | succ i => cases hp : p x <;> cases n <;> simp [hp, ih]

section
variable (schema : Schema) (files : List FileReport)

/-- The places of the reports on documents of a type. -/
def placesOf (name : String) : List Nat := files.findIdxs (·.docType == some name)

/-- The finding that a type has too many documents. -/
def excessOf (t : Schema.DocType) (most : Nat) : Finding :=
  ⟨.docType t.name, .tooMany t.name most ((ofType files t.name).map (·.path))⟩

theorem getElem?_withExcess (before rest : List FileReport) (j : Nat) :
    (withExcess schema files before rest)[j]? = rest[j]?.map fun r =>
      match excess? schema files (before ++ rest.take j) r with
      | some f => r.addError f
      | none => r := by
  induction rest generalizing before j with
  | nil => rfl
  | cons r rest ih =>
    cases j with
    | zero =>
      rw [withExcess, List.take_zero, List.append_nil]
      rfl
    | succ j =>
      rw [withExcess, List.getElem?_cons_succ, List.getElem?_cons_succ, ih, List.take_succ_cons,
        List.append_assoc, List.singleton_append]

variable {schema} {files}

theorem eq_of_name_eq (hnames : (schema.types.map (·.name)).Nodup) {t t' : Schema.DocType}
    (ht : t ∈ schema.types) (ht' : t' ∈ schema.types) (h : t.name = t'.name) : t = t' :=
  List.inj_on_of_nodup_map hnames ht ht' h

theorem type?_name (hnames : (schema.types.map (·.name)).Nodup) {t : Schema.DocType}
    (ht : t ∈ schema.types) : schema.type? t.name = some t := by
  obtain ⟨t', ht'⟩ :=
    Option.isSome_iff_exists.1 (Schema.isSome_type?_iff.2 (List.mem_map_of_mem ht))
  have hname : t'.name = t.name := beq_iff_eq.1 (List.find?_some ht' :)
  rw [ht', eq_of_name_eq hnames (List.mem_of_find?_eq_some ht') ht hname]

/-- **Where a finding is added**: the document is the first beyond those that its type can
    have. -/
theorem excess?_eq_some_iff (hnames : (schema.types.map (·.name)).Nodup) {j : Nat}
    {r : FileReport} (hr : files[j]? = some r) {f : Finding} :
    excess? schema files (files.take j) r = some f ↔ ∃ t ∈ schema.types, ∃ most,
      t.maxCount = some most ∧ (placesOf files t.name)[most]? = some j ∧
        f = excessOf files t most := by
  have hcount : ∀ name, (ofType (files.take j) name).length =
      (files.take j).countP (·.docType == some name) :=
    fun name => (List.countP_eq_length_filter ..).symm
  have hplace : ∀ name most, (placesOf files name)[most]? = some j ↔
      r.docType = some name ∧ (ofType (files.take j) name).length = most := by
    intro name most
    rw [placesOf, getElem?_findIdxs_eq_some_iff, hcount]
    simp [hr]
  unfold excess?
  constructor
  · intro h
    split at h
    · cases h
    · next t ht =>
      obtain ⟨name, hname, ht⟩ := Option.bind_eq_some_iff.1 ht
      obtain rfl : t.name = name := beq_iff_eq.1 (List.find?_some ht :)
      split at h
      · next hmost =>
        refine ⟨t, List.mem_of_find?_eq_some ht, _, hmost, (hplace ..).2 ⟨hname, rfl⟩, ?_⟩
        exact (Option.some.inj h).symm
      · cases h
  · rintro ⟨t, ht, most, hmost, hat, rfl⟩
    obtain ⟨hname, rfl⟩ := (hplace ..).1 hat
    rw [hname, Option.bind_some, type?_name hnames ht]
    exact if_pos hmost

/-- What is added about a type. -/
theorem filter_excess? (hnames : (schema.types.map (·.name)).Nodup) {j : Nat} {r : FileReport}
    (hr : files[j]? = some r) {t : Schema.DocType} (ht : t ∈ schema.types) {most : Nat}
    (hmost : t.maxCount = some most) :
    (excess? schema files (files.take j) r).toList.filter (·.location == .docType t.name) =
      if (placesOf files t.name)[most]? = some j then [excessOf files t most] else [] := by
  split
  · next hat =>
    rw [(excess?_eq_some_iff hnames hr).2 ⟨t, ht, most, hmost, hat, rfl⟩]
    simp [excessOf]
  · next hat =>
    refine List.filter_eq_nil_iff.2 fun f hf hplace => hat ?_
    obtain ⟨t', ht', most', hmost', hat', rfl⟩ :=
      (excess?_eq_some_iff hnames hr).1 (Option.mem_toList.1 hf)
    have hname : t'.name = t.name := Location.docType.inj (beq_iff_eq.1 hplace)
    obtain rfl := eq_of_name_eq hnames ht' ht hname
    rwa [Option.some.inj (hmost.symm.trans hmost')]

end

/-! ## Reports on several documents -/

section
variable {schema : Schema} {docs : List Document}

theorem placesOf_map (scope : Scope) (docs : List Document) (name : String) :
    placesOf (docs.map scope.checkDocument) name = scope.placesOf name docs :=
  List.findIdxs_map

theorem paths_ofType (scope : Scope) (docs : List Document) (name : String) :
    (ofType (docs.map scope.checkDocument) name).map (·.path) =
      (docs.filter (scope.isOfType name)).map Document.shownPath := by
  rw [ofType, List.filter_map, List.map_map]
  rfl

theorem getElem?_map_checkDocument (scope : Scope) {j : Nat} {d : Document}
    (hd : docs[j]? = some d) :
    (docs.map scope.checkDocument)[j]? = some (scope.checkDocument d) := by
  rw [List.getElem?_map, hd, Option.map_some]

/-- The report on one of several documents lists what is discovered in it, and what is
    added. -/
theorem lists_append_excess? (directory : Option Directory) {j : Nat} {d : Document} {r : FileReport}
    (hd : docs[j]? = some d) (hr : (ofDocuments schema directory docs).files[j]? = some r) :
    let scope := scopeOf schema directory docs
    let files := docs.map scope.checkDocument
    r.Lists ((scope.discovered d).findings ++
      (excess? schema files (files.take j) (scope.checkDocument d)).toList) := by
  intro scope files
  have hfile : files[j]? = some (scope.checkDocument d) := getElem?_map_checkDocument scope hd
  have hlists := FileReport.lists_ofFindings d.shownPath ((scope.typeOf d).1.map (·.name))
    (scope.discovered d).findings (scope.discovered d).refs
  rw [← Scope.checkDocument_eq] at hlists
  have hat : (withExcess schema files [] files)[j]? = some r := hr
  rw [getElem?_withExcess, List.nil_append, hfile, Option.map_some] at hat
  obtain rfl := Option.some.inj hat
  cases hf : excess? schema files (files.take j) (scope.checkDocument d) with
  | none =>
    rw [Option.toList_none, List.append_nil]
    exact hlists
  | some f =>
    refine hlists.addError (Finding.isError_iff.2 ?_)
    rw [code_of_excess? schema files hf]
    decide

theorem excesses_files (directory : Option Directory) {j : Nat} {d : Document} {r : FileReport}
    (hd : docs[j]? = some d) (hr : (ofDocuments schema directory docs).files[j]? = some r) :
    let scope := scopeOf schema directory docs
    let files := docs.map scope.checkDocument
    r.findings.filter (·.code == "T010") =
      (excess? schema files (files.take j) (scope.checkDocument d)).toList := by
  intro scope files
  rw [(lists_append_excess? directory hd hr).ofCode, List.filter_append,
    List.filter_eq_nil_iff.2 fun f hf hcode =>
      Scope.code_ne_of_mem_discovered hf (beq_iff_eq.1 hcode), List.nil_append]
  refine List.filter_eq_self.2 fun f hf => beq_iff_eq.2 ?_
  exact code_of_excess? schema files (Option.mem_toList.1 hf)

theorem lists_files (directory : Option Directory) {j : Nat} {d : Document} {r : FileReport}
    (hd : docs[j]? = some d) (hr : (ofDocuments schema directory docs).files[j]? = some r) :
    r.Lists (((scopeOf schema directory docs).discovered d).findings ++
      r.findings.filter (·.code == "T010")) := by
  rw [excesses_files directory hd hr]
  exact lists_append_excess? directory hd hr

/-- What the report on one of several documents says of a type. -/
theorem excesses_ofDocuments (hnames : (schema.types.map (·.name)).Nodup)
    (directory : Option Directory) {t : Schema.DocType} (ht : t ∈ schema.types) {most : Nat}
    (hmost : t.maxCount = some most) {j : Nat} {d : Document} {r : FileReport}
    (hd : docs[j]? = some d) (hr : (ofDocuments schema directory docs).files[j]? = some r) :
    let scope := scopeOf schema directory docs
    r.excesses t.name =
      if (scope.placesOf t.name docs)[most]? = some j then
        [⟨.docType t.name, .tooMany t.name most
          ((docs.filter (scope.isOfType t.name)).map Document.shownPath)⟩]
      else [] := by
  intro scope
  rw [FileReport.excesses, excesses_files directory hd hr,
    filter_excess? hnames (getElem?_map_checkDocument scope hd) ht hmost, placesOf_map, excessOf,
    paths_ofType]

/-- It says nothing of types that can have any number of documents. -/
theorem exists_type_of_code (hnames : (schema.types.map (·.name)).Nodup)
    (directory : Option Directory) {j : Nat} {d : Document} {r : FileReport}
    (hd : docs[j]? = some d) (hr : (ofDocuments schema directory docs).files[j]? = some r)
    {x : Finding} (hx : x ∈ r.findings) (hcode : x.code = "T010") :
    ∃ t ∈ schema.types, t.maxCount.isSome = true ∧ x.location = .docType t.name := by
  have hmem : x ∈ r.findings.filter (·.code == "T010") :=
    List.mem_filter.2 ⟨hx, beq_iff_eq.2 hcode⟩
  rw [excesses_files directory hd hr, Option.mem_toList,
    excess?_eq_some_iff hnames (getElem?_map_checkDocument _ hd)] at hmem
  obtain ⟨t, ht, most, hmost, -, rfl⟩ := hmem
  exact ⟨t, ht, hmost ▸ rfl, rfl⟩

theorem length_files (schema : Schema) (directory : Option Directory) (docs : List Document) :
    (ofDocuments schema directory docs).files.length = docs.length :=
  (counted_ofDocuments schema directory docs).length_eq.symm

theorem exists_document_of_file {directory : Option Directory} {j : Nat} {r : FileReport}
    (hr : (ofDocuments schema directory docs).files[j]? = some r) : ∃ d, docs[j]? = some d := by
  obtain ⟨hj, -⟩ := List.getElem?_eq_some_iff.1 hr
  exact ⟨_, List.getElem?_eq_getElem (length_files schema directory docs ▸ hj)⟩

end

/-- **The reports on several documents.**  If a type can have so many documents, nothing
    is said if there are no more, and else it is said once, in the report on the first one
    beyond; and it is said of no other type.  Each report lists what is discovered in its
    document and then this. -/
theorem files_ofDocuments {source : String} {schema : Schema}
    (hs : Schema.ofSource source = .ok schema) (directory : Option Directory)
    (docs : List Document) :
    let scope := scopeOf schema directory docs
    let files := (ofDocuments schema directory docs).files
    (∀ t ∈ schema.types, ∀ most, t.maxCount = some most →
      ((scope.placesOf t.name docs).length ≤ most → ∀ r ∈ files, r.excesses t.name = []) ∧
      ∀ h : most < (scope.placesOf t.name docs).length, ∀ j r, files[j]? = some r →
        r.excesses t.name = if j = (scope.placesOf t.name docs)[most] then
          [⟨.docType t.name, .tooMany t.name most
            ((docs.filter (scope.isOfType t.name)).map Document.shownPath)⟩]
        else []) ∧
    (∀ r ∈ files, ∀ x ∈ r.findings, x.code = "T010" →
      ∃ t ∈ schema.types, t.maxCount.isSome = true ∧ x.location = .docType t.name) ∧
    List.Forall₂ (fun d r => r.Lists ((scope.discovered d).findings ++
      r.findings.filter (·.code == "T010"))) docs files := by
  intro scope files
  obtain ⟨-, -, hsound⟩ := Schema.sound_of_ofSource hs
  have hnames := hsound.typeNames
  refine ⟨fun t ht most hmost => ⟨fun hfew r hr => ?_, fun hmany j r hr => ?_⟩, ?_, ?_⟩
  · obtain ⟨j, hr⟩ := List.mem_iff_getElem?.1 hr
    obtain ⟨d, hd⟩ := exists_document_of_file hr
    rw [excesses_ofDocuments hnames directory ht hmost hd hr, List.getElem?_eq_none hfew]
    rfl
  · obtain ⟨d, hd⟩ := exists_document_of_file hr
    rw [excesses_ofDocuments hnames directory ht hmost hd hr, List.getElem?_eq_getElem hmany]
    exact if_congr (Option.some_inj.trans eq_comm) rfl rfl
  · intro r hr x hx hcode
    obtain ⟨j, hr⟩ := List.mem_iff_getElem?.1 hr
    obtain ⟨d, hd⟩ := exists_document_of_file hr
    exact exists_type_of_code hnames directory hd hr hx hcode
  · refine List.forall₂_iff_get.2 ⟨(length_files schema directory docs).symm, fun j hj hj' => ?_⟩
    exact lists_files directory (List.getElem?_eq_getElem hj) (List.getElem?_eq_getElem hj')

/-- Indexes, of which there can be one, in a folder of theirs. -/
def indexType : Schema.DocType := { name := "n", folder := some "n", maxCount := some 1 }

/-- A document whose header names its type. -/
def namedIndex : Document :=
  { path := some "a"
    raw := Utf8.ofString "---\ntype: n\n---\n"
    header := [(.text "type", .text "n")]
    hasHeader := true
    headerError := none
    bodyOffset := 16
    body := Body.ofOctets [] }

/-- A document without a header in the folder. -/
def placedIndex : Document :=
  { path := some "n/b"
    raw := []
    header := []
    hasHeader := false
    headerError := none
    bodyOffset := 0
    body := Body.ofOctets [] }

/-- The one that comes second is too many. -/
theorem files_of_indexes :
    Schema.ofSource "type \"n\" folder=\"n\" max_count=1\n" = .ok { types := [indexType] } ∧
      [namedIndex, placedIndex].mapM (fun d => Document.parse d.raw d.path) =
        .ok [namedIndex, placedIndex] ∧
      indexType.maxCount = some 1 ∧
      1 < ((scopeOf { types := [indexType] } none [namedIndex, placedIndex]).placesOf "n"
        [namedIndex, placedIndex]).length ∧
      (ofDocuments { types := [indexType] } none [namedIndex, placedIndex]).files.map
        (·.excesses "n") = [[], [⟨.docType "n", .tooMany "n" 1 ["a", "n/b"]⟩]] := by
  have hs : Schema.ofSource "type \"n\" folder=\"n\" max_count=1\n" =
      .ok { types := [indexType] } := by decide +kernel
  have hplaces : (scopeOf { types := [indexType] } none [namedIndex, placedIndex]).placesOf "n"
      [namedIndex, placedIndex] = [0, 1] := by decide +kernel
  have hmany : 1 < ((scopeOf { types := [indexType] } none [namedIndex, placedIndex]).placesOf "n"
      [namedIndex, placedIndex]).length := by
    rw [hplaces]
    decide
  have hpaths : ([namedIndex, placedIndex].filter
      ((scopeOf { types := [indexType] } none [namedIndex, placedIndex]).isOfType "n")).map
        Document.shownPath = ["a", "n/b"] := by decide +kernel
  refine ⟨hs, by decide +kernel, rfl, hmany, ?_⟩
  have hexcesses := ((files_ofDocuments hs none [namedIndex, placedIndex]).1 indexType
    List.mem_cons_self 1 rfl).2 hmany
  obtain ⟨r, r', hfiles⟩ := List.length_eq_two.1
    (length_files { types := [indexType] } none [namedIndex, placedIndex])
  rw [hfiles] at hexcesses ⊢
  have hfirst := hexcesses 0 r rfl
  have hsecond := hexcesses 1 r' rfl
  simp only [indexType] at hfirst hsecond hplaces hpaths
  rw [List.map_cons, List.map_cons, List.map_nil, hfirst, hsecond]
  simp [hplaces, hpaths]

end Report

end Folio
