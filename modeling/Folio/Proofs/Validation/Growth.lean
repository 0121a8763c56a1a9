/-
  Folio — reports when a document is added.

  A document more means a path more that references can point at.  It comes last
  among them, so it takes no name from another: what a reference points at stays,
  and only a reference that points nowhere can come to point at the new document
  (`Reference.Keeps`).  So findings can only go, and only those about references
  (`Finding.Fewer`); nothing else in a report depends on the other documents but
  whether a type has too many.

  * `Reference.resolve_keeps`: a reference that is looked up among more paths;
  * `Scope.checkDocument_keeps`: a document that is checked among more paths;
  * `Report.files_append_singleton`: the reports when a document is added.
-/
import Folio.Proofs.Reference.WorkingSet
import Folio.Proofs.Validation.Report

namespace Folio

/-! ## References -/

namespace WorkingSet

variable {w w' : WorkingSet}

theorem paths_ofPaths_append (ps qs : List String) :
    (ofPaths ps).paths <+: (ofPaths (ps ++ qs)).paths := by
  rw [paths_ofPaths, paths_ofPaths, List.map_append, List.eraseDups_append]
  exact List.prefix_append _ _

theorem has_of_prefix (h : w.paths <+: w'.paths) {path : String} (hp : w.has path = true) :
    w'.has path = true := by
  rw [has, List.contains_iff_mem] at hp ⊢
  exact h.subset hp

/-- The first document with a name stays the first. -/
theorem named?_of_prefix (h : w.paths <+: w'.paths) {key path : String}
    (hk : w.named? key = some path) : w'.named? key = some path := by
  obtain ⟨more, hmore⟩ := h
  rw [named?_eq] at hk ⊢
  rw [← hmore, List.find?_append, hk, Option.some_or]

end WorkingSet

namespace Reference

/-- What a reference points at stays; if it points nowhere, it may come to point
    at something, or the reason stays. -/
structure Keeps (r r' : Reference) : Prop where
  raw : r'.raw = r.raw
  rule : r'.rule = r.rule
  target : ∀ path, r.target? = some path → r'.target? = some path
  fault : r'.fault? = none ∨ r'.fault? = r.fault?

variable {w w' : WorkingSet}

theorem keeps_of_outcome {raw : String} {rule : Option Schema.RefRule}
    {outcome outcome' : Except RefFault String}
    (hok : ∀ path, outcome = .ok path → outcome' = .ok path)
    (herror : ∀ fault, outcome' = .error fault → outcome = .error fault) :
    Keeps ⟨raw, rule, outcome⟩ ⟨raw, rule, outcome'⟩ := by
  refine ⟨rfl, rfl, fun path hp => ?_, ?_⟩
  · cases outcome with
    | error e => cases hp
    | ok p => cases hp; rw [hok path rfl]; rfl
  · cases outcome' with
    | ok p => exact Or.inl rfl
    | error e => rw [herror e rfl]; exact Or.inr rfl

/-- **A reference that is looked up among more paths** keeps what it points at. -/
theorem resolve_keeps (s : Schema) (source : Option String) (raw : String)
    (h : w.paths <+: w'.paths) : Keeps (resolve s w source raw) (resolve s w' source raw) := by
  unfold resolve
  split
  · exact keeps_of_outcome (fun _ h => h) (fun _ h => h)
  · split
    · refine keeps_of_outcome (fun path hp => ?_) fun fault hf => ?_
      · split at hp
        · next p hn => cases hp; rw [WorkingSet.named?_of_prefix h hn]
        · cases hp
      · split at hf
        · cases hf
        · next hn =>
          cases hn' : w.named? raw with
          | none => exact hf
          | some p => rw [WorkingSet.named?_of_prefix h hn'] at hn; cases hn
    · refine keeps_of_outcome (fun path hp => ?_) fun fault hf => ?_
      · split at hp
        · next hh => rw [if_pos (WorkingSet.has_of_prefix h hh)]; exact hp
        · cases hp
      · split at hf
        · cases hf
        · next hh => rw [if_neg fun hw => hh (WorkingSet.has_of_prefix h hw)]; exact hf

end Reference

/-! ## Findings -/

namespace Finding

/-- Is the finding about a reference? -/
def isRef (f : Finding) : Bool := f.code.toList.head? == some 'R'

/-- Is the finding about a user or a team? -/
def isUser (f : Finding) : Bool := f.code.toList.head? == some 'U'

/-- The second findings are the first, perhaps without some about references. -/
structure Fewer (found found' : List Finding) : Prop where
  sublist : found'.Sublist found
  others : found'.filter (!·.isRef) = found.filter (!·.isRef)

theorem isRef_badRef (location : Location) (fault : RefFault) (name value : String)
    (patterns : List String) : isRef ⟨location, .badRef fault name value patterns⟩ = true := by
  cases fault <;> simp [isRef, code, Problem.code, RefFault.code]

theorem not_isRef_of_isError {f : Finding} (h : f.isError = true) : f.isRef = false := by
  obtain ⟨location, p⟩ := f
  cases p with
  | badRef => cases h
  | _ => simp [isRef, code, Problem.code]

theorem not_isRef_of_isUser {f : Finding} (h : f.isUser = true) : f.isRef = false := by
  rw [isUser, beq_iff_eq] at h
  rw [isRef, h]
  rfl

namespace Fewer

variable {found found' more more' : List Finding}

theorem refl (found : List Finding) : Fewer found found := ⟨List.Sublist.refl _, rfl⟩

theorem append (h : Fewer found found') (h' : Fewer more more') :
    Fewer (found ++ more) (found' ++ more') :=
  ⟨h.sublist.append h'.sublist, by rw [List.filter_append, List.filter_append, h.others, h'.others]⟩

/-- What is not about references is the same, whatever is asked of it. -/
theorem filter_eq (h : Fewer found found') {p : Finding → Bool} (hp : ∀ f, p f = true → f.isRef = false) :
    found'.filter p = found.filter p := by
  have hfilter : ∀ fs : List Finding, fs.filter p = (fs.filter (!·.isRef)).filter p := by
    intro fs
    rw [List.filter_filter]
    refine List.filter_congr fun f _ => ?_
    cases hf : p f with
    | false => rfl
    | true => rw [hp f hf]; rfl
  rw [hfilter, hfilter found, h.others]

theorem filter (h : Fewer found found') (p : Finding → Bool) :
    Fewer (found.filter p) (found'.filter p) := by
  refine ⟨h.sublist.filter p, ?_⟩
  rw [List.filter_filter, List.filter_filter]
  exact h.filter_eq fun f hf => by simpa using (Bool.and_eq_true_iff.1 hf).1

end Fewer

end Finding

/-! ## The order by codes -/

namespace FileReport

variable {found found' : List Finding}

theorem fewer_byCode (h : Finding.Fewer found found') :
    Finding.Fewer (byCode found) (byCode found') :=
  ⟨sublist_byCode h.sublist, by rw [filter_byCode, filter_byCode, h.others]⟩

end FileReport

/-! ## Checks of a document -/

/-- A reference in a header keeps its place and what it points at. -/
structure FieldRef.Keeps (r r' : FieldRef) : Prop where
  field : r'.field = r.field
  index : r'.index = r.index
  location : r'.location = r.location
  ref : r.ref.Keeps r'.ref

namespace Checked

/-- What a check finds when references can point at more: no finding more, and the
    same references. -/
structure Keeps (c c' : Checked) : Prop where
  findings : Finding.Fewer c.findings c'.findings
  refs : List.Forall₂ FieldRef.Keeps c.refs c'.refs

end Checked

namespace Scope

/-- The scope with other documents that references can point at. -/
def among (scope : Scope) (w : WorkingSet) : Scope := { scope with workingSet := w }

theorem fewer_refFindings (scope : Scope) (w : WorkingSet) (location : Location) (name : String)
    {r r' : Reference} (hr : r.Keeps r') : Finding.Fewer (scope.refFindings location name r)
      ((scope.among w).refFindings location name r') := by
  unfold refFindings
  rcases hr.fault with hnone | hsame
  · rw [hnone]
    cases r.fault? with
    | none => exact .refl _
    | some fault =>
      refine ⟨List.nil_sublist _, ?_⟩
      rw [List.filter_cons_of_neg (by rw [Finding.isRef_badRef]; simp)]
  · rw [hsame, hr.raw]
    exact .refl _

theorem related_among (scope : Scope) {w : WorkingSet} (h : scope.workingSet.paths <+: w.paths) :
    Related Finding.Fewer FieldRef.Keeps scope (scope.among w) where
  additive := ⟨.refl [], .append, fun f _ => .refl [f]⟩
  schema := rfl
  reference location name source raw :=
    scope.fewer_refFindings w location name (Reference.resolve_keeps scope.schema source raw h)
  user _ _ _ := .refl _
  field _ _ _ source raw := ⟨rfl, rfl, rfl, Reference.resolve_keeps scope.schema source raw h⟩

theorem discovered_keeps (scope : Scope) {w : WorkingSet}
    (h : scope.workingSet.paths <+: w.paths) (d : Document) :
    (scope.discovered d).Keeps ((scope.among w).discovered d) :=
  have hd := related_discovered (scope.related_among h) d
  ⟨hd.findings, hd.refs⟩

end Scope

/-! ## Reports -/

/-- What a report on a document keeps when another document is added: all errors
    but those that a type has too many documents, all warnings about users, and of
    the warnings about references and the references themselves what
    `Finding.Fewer` and `FieldRef.Keeps` say. -/
structure FileReport.Keeps (r r' : FileReport) : Prop where
  path : r'.path = r.path
  docType : r'.docType = r.docType
  errors : r'.errors.filter (·.code != "T010") = r.errors.filter (·.code != "T010")
  userWarnings : r'.warnings.filter (·.isUser) = r.warnings.filter (·.isUser)
  refWarnings : (r'.warnings.filter (·.isRef)).Sublist (r.warnings.filter (·.isRef))
  refs : List.Forall₂ FieldRef.Keeps r.refs r'.refs

/-- A report on fewer findings about references keeps what it should. -/
theorem FileReport.keeps_ofFindings (path : String) (docType : Option String)
    {found found' : List Finding} (h : Finding.Fewer found found') {refs refs' : List FieldRef}
    (hrefs : List.Forall₂ FieldRef.Keeps refs refs') :
    (ofFindings path docType found refs).Keeps (ofFindings path docType found' refs') := by
  have herrors : found'.filter (·.isError) = found.filter (·.isError) :=
    h.filter_eq fun f => Finding.not_isRef_of_isError
  have hwarnings := fewer_byCode (h.filter (!·.isError))
  unfold ofFindings
  rw [herrors]
  exact ⟨rfl, rfl, rfl, hwarnings.filter_eq fun f => Finding.not_isRef_of_isUser,
    hwarnings.sublist.filter _, hrefs⟩

namespace Scope

/-- **A document that is checked among more paths.** -/
theorem checkDocument_keeps (scope : Scope) {w : WorkingSet}
    (h : scope.workingSet.paths <+: w.paths) (d : Document) :
    (scope.checkDocument d).Keeps ((scope.among w).checkDocument d) := by
  have hd := scope.discovered_keeps h d
  rw [checkDocument_eq, checkDocument_eq, typeOf_eq_of_schema_eq (scope.related_among h).schema]
  exact FileReport.keeps_ofFindings _ _ hd.findings hd.refs

end Scope

theorem FileReport.Keeps.counted {r r' s s' : FileReport} (h : r.Keeps r') (hs : r.Counted s)
    (hs' : r'.Counted s') : s.Keeps s' where
  path := by rw [hs'.path, hs.path, h.path]
  docType := by rw [hs'.docType, hs.docType, h.docType]
  errors := by rw [hs'.errors, hs.errors, h.errors]
  userWarnings := by rw [hs'.warnings, hs.warnings, h.userWarnings]
  refWarnings := by rw [hs'.warnings, hs.warnings]; exact h.refWarnings
  refs := by rw [hs'.refs, hs.refs]; exact h.refs

namespace Report

variable (schema : Schema) (directory : Option Directory) (docs : List Document) (d : Document)

theorem scopeOf_append : ∃ w, scopeOf schema directory (docs ++ [d]) =
      (scopeOf schema directory docs).among w ∧
    (scopeOf schema directory docs).workingSet.paths <+: w.paths := by
  refine ⟨_, rfl, ?_⟩
  rw [List.filterMap_append]
  exact WorkingSet.paths_ofPaths_append _ _

theorem exists_append_of_forall₂ {R : Document → FileReport → Prop} {docs : List Document}
    {d : Document} {rs : List FileReport} (h : List.Forall₂ R (docs ++ [d]) rs) :
    ∃ files r, List.Forall₂ R docs files ∧ rs = files ++ [r] := by
  induction docs generalizing rs with
  | nil =>
    cases h with
    | cons _ h => cases h; exact ⟨[], _, .nil, rfl⟩
  | cons d' docs ih =>
    cases h with
    | cons hd h =>
      obtain ⟨files, r, hfiles, rfl⟩ := ih h
      exact ⟨_ :: files, r, .cons hd hfiles, rfl⟩

/-- What two lists keep that are made from one. -/
theorem keeps_of_counted {f g : Document → FileReport} (hfg : ∀ d, (f d).Keeps (g d))
    {docs : List Document} {rs ss : List FileReport}
    (hr : List.Forall₂ (fun d r => (f d).Counted r) docs rs)
    (hs : List.Forall₂ (fun d s => (g d).Counted s) docs ss) :
    List.Forall₂ FileReport.Keeps rs ss := by
  induction hr generalizing ss with
  | nil => cases hs; exact .nil
  | cons hd _ ih =>
    cases hs with
    | cons hd' hs => exact .cons ((hfg _).counted hd hd') (ih hs)

/-- **What reports keep when a document is added**: there is one report more, the
    others keep what `FileReport.Keeps` says, and each reference that points at a
    document still points at it. -/
theorem files_append_singleton :
    (∃ files r, (ofDocuments schema directory (docs ++ [d])).files = files ++ [r] ∧
      List.Forall₂ FileReport.Keeps (ofDocuments schema directory docs).files files) ∧
    ∀ source raw path,
      (Reference.resolve schema (scopeOf schema directory docs).workingSet source raw).target? =
        some path →
      (Reference.resolve schema (scopeOf schema directory (docs ++ [d])).workingSet source
        raw).target? = some path := by
  obtain ⟨w, hscope, hw⟩ := scopeOf_append schema directory docs d
  have hold := counted_ofDocuments schema directory docs
  have hnew := counted_ofDocuments schema directory (docs ++ [d])
  rw [hscope] at hnew ⊢
  refine ⟨?_, fun source raw path h => (Reference.resolve_keeps schema source raw hw).target path h⟩
  obtain ⟨files, last, hfiles, hlast⟩ := exists_append_of_forall₂ hnew
  refine ⟨files, last, hlast, ?_⟩
  exact keeps_of_counted (fun d => Scope.checkDocument_keeps _ hw d) hold hfiles

end Report

end Folio
