/-
  Folio — how a report is made of what is discovered.

  A report sorts what is discovered in a document by its codes, errors apart from
  warnings.  Sorting keeps findings of one code in order, so what a report has of some
  of them is what is discovered of them, sorted (`FileReport.filter_byCode`).  A report
  on several documents then adds when a type has too many of them, and changes nothing
  else (`FileReport.Counted`).

  What is said of reports, here and in the modules after this one, is said of those that are
  made: a document whose type is an integer without a text has none (`Job.hasUnshownType`).

  * `FileReport.filter_byCode`, `FileReport.sublist_byCode`: the order by codes;
  * `Report.counted_ofDocuments`: the reports on several documents.
-/
import Folio.Proofs.Validation.Transfer

namespace Folio

/-- Errors are told by their codes. -/
theorem Finding.isError_iff {f : Finding} :
    f.isError = true ↔ Severity.ofCode? f.code = some .error := by
  rw [isError, code, Problem.severity?_code, Option.some.injEq, beq_iff_eq]

/-! ## The order by codes -/

namespace FileReport

variable {found found' : List Finding}

theorem code_le_trans (a b c : Finding) (h : decide (a.code ≤ b.code) = true)
    (h' : decide (b.code ≤ c.code) = true) : decide (a.code ≤ c.code) = true := by
  rw [decide_eq_true_eq] at *
  exact le_trans h h'

theorem code_le_total (a b : Finding) :
    (decide (a.code ≤ b.code) || decide (b.code ≤ a.code)) = true := by
  rw [Bool.or_eq_true, decide_eq_true_eq, decide_eq_true_eq]
  exact le_total _ _

/-- Where a finding goes: behind those with smaller codes, before all others. -/
theorem byCode_cons (f : Finding) (found : List Finding) : ∃ before after,
    byCode (f :: found) = before ++ f :: after ∧ byCode found = before ++ after ∧
      (∀ g ∈ before, decide (f.code ≤ g.code) = false) ∧
        ∀ g ∈ after, decide (f.code ≤ g.code) = true := by
  obtain ⟨before, after, hcons, hrest, hbefore⟩ :=
    List.mergeSort_cons code_le_trans code_le_total f found
  have hsorted := List.pairwise_mergeSort code_le_trans code_le_total (f :: found)
  rw [hcons] at hsorted
  refine ⟨before, after, hcons, hrest, fun g hg => by simpa using hbefore g hg, ?_⟩
  exact (List.pairwise_cons.1 (List.pairwise_append.1 hsorted).2.1).1

/-- Findings left out do not change the order of the others. -/
theorem sublist_byCode (h : found'.Sublist found) : (byCode found').Sublist (byCode found) := by
  induction h with
  | slnil => exact List.Sublist.refl _
  | @cons _ large f _ ih =>
    obtain ⟨before, after, hcons, hrest, -⟩ := byCode_cons f large
    rw [hrest] at ih
    rw [hcons]
    exact ih.trans ((List.sublist_cons_self f after).append_left before)
  | @cons_cons small large f _ ih =>
    obtain ⟨before, after, hcons, hrest, hbefore, hafter⟩ := byCode_cons f large
    obtain ⟨before', after', hcons', hrest', hbefore', hafter'⟩ := byCode_cons f small
    rw [hrest, hrest'] at ih
    rw [hcons, hcons']
    -- the code of `f` cuts both lists at the same place
    have hlow : ∀ {xs ys : List Finding}, (∀ g ∈ xs, decide (f.code ≤ g.code) = false) →
        (∀ g ∈ ys, decide (f.code ≤ g.code) = true) →
        (xs ++ ys).filter (fun g => !decide (f.code ≤ g.code)) = xs ∧
          (xs ++ ys).filter (fun g => decide (f.code ≤ g.code)) = ys := by
      intro xs ys hx hy
      rw [List.filter_append, List.filter_append]
      constructor
      · rw [List.filter_eq_self.2 fun g hg => by rw [hx g hg]; rfl,
          List.filter_eq_nil_iff.2 fun g hg => by simp [hy g hg], List.append_nil]
      · rw [List.filter_eq_nil_iff.2 fun g hg => by simp [hx g hg],
          List.filter_eq_self.2 fun g hg => hy g hg, List.nil_append]
    have hleft := ih.filter fun g => !decide (f.code ≤ g.code)
    have hright := ih.filter fun g => decide (f.code ≤ g.code)
    rw [(hlow hbefore' hafter').1, (hlow hbefore hafter).1] at hleft
    rw [(hlow hbefore' hafter').2, (hlow hbefore hafter).2] at hright
    exact hleft.append (hright.cons_cons f)

theorem filter_byCode (p : Finding → Bool) (found : List Finding) :
    (byCode found).filter p = byCode (found.filter p) := by
  have hall : (byCode (found.filter p)).filter p = byCode (found.filter p) :=
    List.filter_eq_self.2 fun f hf => (List.mem_filter.1 (List.mem_mergeSort.1 hf)).2
  have hsub := (sublist_byCode (List.filter_sublist (p := p) (l := found))).filter p
  rw [hall] at hsub
  refine (hsub.eq_of_length ?_).symm
  exact (List.length_mergeSort _).trans
    ((List.mergeSort_perm found _).symm.filter p).length_eq

theorem byCode_byCode (found : List Finding) : byCode (byCode found) = byCode found :=
  List.mergeSort_of_pairwise (List.pairwise_mergeSort code_le_trans code_le_total found)

/-- Findings of one code are in order. -/
theorem byCode_of_code {code : String} (h : ∀ f ∈ found, f.code = code) : byCode found = found := by
  refine List.mergeSort_of_pairwise (List.pairwise_of_forall_mem_list fun f hf g hg => ?_)
  rw [decide_eq_true_eq, h f hf, h g hg]

/-! ## Parts of a report -/

/-- The report without the findings of a code. -/
def without (code : String) (r : FileReport) : FileReport :=
  { r with
    errors := r.errors.filter (·.code != code)
    warnings := r.warnings.filter (·.code != code) }

theorem filter_byCode_filter (p q : Finding → Bool) (found : List Finding) :
    (byCode (found.filter q)).filter p = byCode ((found.filter p).filter q) := by
  rw [filter_byCode, List.filter_comm]

theorem without_ofFindings (code path : String) (docType : Option String) (found : List Finding)
    (refs : List FieldRef) : (ofFindings path docType found refs).without code =
      ofFindings path docType (found.filter (·.code != code)) refs := by
  rw [without, ofFindings, filter_byCode_filter, filter_byCode_filter]
  rfl

theorem without_addError {code : String} {f : Finding} (hf : f.code ≠ code) (r : FileReport) :
    (r.addError f).without code = (r.without code).addError f := by
  have hkept : [f].filter (·.code != code) = [f] :=
    List.filter_eq_self.2 fun g hg => bne_iff_ne.2 (List.mem_singleton.1 hg ▸ hf)
  dsimp only [without, addError]
  rw [filter_byCode, List.filter_append, hkept]

section
variable (path : String) (docType : Option String) (found : List Finding) (refs : List FieldRef)

/-- A report has what was found. -/
theorem mem_findings_ofFindings {f : Finding} :
    f ∈ (ofFindings path docType found refs).findings ↔ f ∈ found := by
  simp only [findings, ofFindings, List.mem_append, byCode, List.mem_mergeSort, List.mem_filter,
    ← and_or_left, Bool.not_eq_true', Bool.eq_true_or_eq_false_self, and_true]

theorem filter_findings_ofFindings (p : Finding → Bool) :
    (ofFindings path docType found refs).findings.filter p =
      (ofFindings path docType (found.filter p) refs).findings := by
  rw [findings, List.filter_append, ofFindings, filter_byCode_filter, filter_byCode_filter]
  rfl

/-- Errors of one code stand in a report in the order in which they were found. -/
theorem findings_ofFindings_of_code {found : List Finding} (code : String)
    (h : Severity.ofCode? code = some .error) (hfound : ∀ f ∈ found, f.code = code) :
    (ofFindings path docType found refs).findings = found := by
  have herror : ∀ f ∈ found, f.isError = true :=
    fun f hf => Finding.isError_iff.2 (hfound f hf ▸ h)
  have herrors : found.filter (·.isError) = found := List.filter_eq_self.2 herror
  have hwarnings : found.filter (!·.isError) = [] :=
    List.filter_eq_nil_iff.2 fun f hf => by simp [herror f hf]
  have hnone : byCode [] = [] := List.mergeSort_nil
  rw [findings, ofFindings, herrors, hwarnings, byCode_of_code hfound, hnone]
  exact List.append_nil _

theorem filter_code_findings_ofFindings {code : String} (h : Severity.ofCode? code = some .error) :
    (ofFindings path docType found refs).findings.filter (·.code == code) =
      found.filter (·.code == code) := by
  rw [filter_findings_ofFindings]
  exact findings_ofFindings_of_code _ _ _ code h fun f hf => by simpa using (List.mem_filter.1 hf).2

end

end FileReport

/-- The errors of a report stand in order. -/
theorem Scope.byCode_errors_checkDocument (scope : Scope) (d : Document) :
    FileReport.byCode (scope.checkDocument d).errors = (scope.checkDocument d).errors := by
  rw [checkDocument_eq, FileReport.ofFindings]
  exact FileReport.byCode_byCode _

/-! ## Counting the documents of types -/

/-- The reports are the same but for the findings that a type has too many
    documents. -/
structure FileReport.Counted (r s : FileReport) : Prop where
  path : s.path = r.path
  docType : s.docType = r.docType
  errors : s.errors.filter (·.code != "T010") = r.errors.filter (·.code != "T010")
  warnings : s.warnings = r.warnings
  refs : s.refs = r.refs

theorem FileReport.Counted.without_eq {r s : FileReport} (h : r.Counted s) :
    s.without "T010" = r.without "T010" := by
  rw [without, without, h.path, h.docType, h.errors, h.warnings, h.refs]

namespace Report

section
variable (schema : Schema) (files : List FileReport)

theorem code_of_excess? {before : List FileReport} {r : FileReport} {f : Finding}
    (h : excess? schema files before r = some f) : f.code = "T010" := by
  unfold excess? at h
  split at h
  · cases h
  · split at h
    · cases h; rfl
    · cases h

theorem counted_addError {r : FileReport} (hr : FileReport.byCode r.errors = r.errors)
    {f : Finding} (hf : f.code = "T010") : r.Counted (r.addError f) := by
  refine ⟨rfl, rfl, ?_, rfl, rfl⟩
  rw [FileReport.addError, FileReport.filter_byCode, List.filter_append,
    List.filter_cons_of_neg (by simp [hf]), List.filter_nil, List.append_nil,
    ← FileReport.filter_byCode, hr]

/-- Counting the documents of types does nothing but `FileReport.Counted` to a report. -/
theorem counted_withExcess (before : List FileReport) {rs : List FileReport}
    (h : ∀ r ∈ rs, FileReport.byCode r.errors = r.errors) :
    List.Forall₂ FileReport.Counted rs (withExcess schema files before rs) := by
  induction rs generalizing before with
  | nil => exact .nil
  | cons r rs ih =>
    obtain ⟨hr, hrs⟩ := List.forall_mem_cons.1 h
    refine .cons ?_ (ih _ hrs)
    split
    · next f hf => exact counted_addError hr (code_of_excess? schema files hf)
    · exact ⟨rfl, rfl, rfl, rfl, rfl⟩

end

/-- A report on documents counts the reports on each. -/
theorem counted_ofDocuments (schema : Schema) (directory : Option Directory)
    (docs : List Document) : List.Forall₂
      (fun d r => ((scopeOf schema directory docs).checkDocument d).Counted r) docs
      (ofDocuments schema directory docs).files := by
  refine List.forall₂_map_left_iff.1 (counted_withExcess schema _ [] fun r hr => ?_)
  obtain ⟨d, -, rfl⟩ := List.mem_map.1 hr
  exact Scope.byCode_errors_checkDocument _ d

end Report

end Folio
