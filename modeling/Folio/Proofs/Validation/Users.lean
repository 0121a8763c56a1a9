/-
  Folio — users and teams in reports.

  A text that is to name a user or a team is found to name neither (U010), or to name
  one that the directory does not have (U011), or nothing is found.  The directory is
  asked for this one thing only, so a report with a directory is the report without one
  and the findings of code U011.

  * `Scope.userFindings_iff`: what is found in a text;
  * `Scope.without_checkDocument`: the report on a document;
  * `Report.files_without_directory`: the reports on several documents.
-/
import Folio.Proofs.User.Mention
import Folio.Proofs.Validation.Report

namespace Folio

/-! ## Users and teams in a text -/

namespace Scope

section
variable (scope : Scope) (location : Location) (name : String)

theorem userFindings_noUserRef_iff (value : String) :
    (∃ x ∈ scope.userFindings location name value, x.code = "U010") ↔
      UserRef.isValid value = false := by
  unfold userFindings
  split
  · next h => exact iff_of_true ⟨_, List.mem_cons_self, rfl⟩ (by simpa using h)
  · next h =>
    refine iff_of_false ?_ (by simpa using h)
    cases scope.directory with
    | none => simp
    | some d =>
      dsimp only
      split
      · simp
      · simp [Finding.code, Problem.code]

theorem userFindings_unknownUser_iff {m : Mention} (hvalid : UserRef.isValid m.text = true)
    (hname : '/' ∉ m.name.toList) :
    (∃ x ∈ scope.userFindings location name m.text, x.code = "U011") ↔
      ∃ d ∈ scope.directory, ¬m.DeclaredIn d := by
  rw [userFindings, hvalid]
  cases scope.directory with
  | none => simp
  | some d =>
    by_cases hd : m.DeclaredIn d
    · have hknown := (d.knows_text_iff hname).2 hd
      simp [hknown, hd]
    · have hunknown := mt (d.knows_text_iff hname).1 hd
      simp [hunknown, hd, Finding.code, Problem.code]

theorem length_userFindings_le (value : String) :
    (scope.userFindings location name value).length ≤ 1 := by
  unfold userFindings
  split
  · exact Nat.le_refl 1
  · cases scope.directory with
    | none => exact Nat.zero_le 1
    | some d =>
      dsimp only
      split
      · exact Nat.zero_le 1
      · exact Nat.le_refl 1

/-- **What is found in a text.**  It is no reference to a user or a team if it names
    neither, with or without a line end; and what it names is unknown if there is a
    directory that does not have it.  A line end counts as part of the name. -/
theorem userFindings_iff (value : String) :
    ((∃ x ∈ scope.userFindings location name value, x.code = "U010") ↔
      ¬∃ m : Mention, m.WellFormed ∧ (value = m.text ∨ value = m.ended.text)) ∧
    (∀ m : Mention, m.WellFormed → value = m.text →
      ((∃ x ∈ scope.userFindings location name value, x.code = "U011") ↔
        ∃ d ∈ scope.directory, ¬m.DeclaredIn d)) ∧
    (∀ m : Mention, m.WellFormed → value = m.ended.text →
      ((∃ x ∈ scope.userFindings location name value, x.code = "U011") ↔
        ∃ d ∈ scope.directory, ¬m.ended.DeclaredIn d)) ∧
    (scope.userFindings location name value).length ≤ 1 := by
  refine ⟨?_, ?_, ?_, scope.length_userFindings_le location name value⟩
  · rw [userFindings_noUserRef_iff, ← Bool.not_eq_true, UserRef.isValid_iff]
  · rintro m hm rfl
    exact scope.userFindings_unknownUser_iff location name
      (UserRef.isValid_iff.2 ⟨m, hm, .inl rfl⟩) hm.not_mem_slash
  · rintro m hm rfl
    exact scope.userFindings_unknownUser_iff location name
      (UserRef.isValid_iff.2 ⟨m, hm, .inr rfl⟩) hm.not_mem_slash_ended

end

/-- The whole text names no user and no team, yet nothing is found. -/
theorem userFindings_ended :
    (¬∃ m : Mention, m.WellFormed ∧ "@alice\n" = m.text) ∧
      userFindings ⟨{}, ⟨[]⟩, none⟩ (.field "o") "o" "@alice\n" = [] := by
  have hvalid : UserRef.isValid "@alice\n" = true := by decide +kernel
  constructor
  · rintro ⟨m, hm, he⟩
    exact hm.not_mem_lineEnd_text (he ▸ by decide)
  · rw [userFindings, hvalid]
    rfl

end Scope

/-! ## Reports without a directory -/

/-- The second findings are the first but those of users and teams that are not
    known. -/
def Finding.Known (found found' : List Finding) : Prop :=
  found.filter (·.code != "U011") = found'

namespace Finding

theorem code_ne_of_isError {f : Finding} (h : f.isError = true) : (f.code != "U011") = true := by
  rw [bne_iff_ne]
  intro hcode
  rw [isError_iff, hcode] at h
  exact absurd h (by decide)

theorem additive_known : Additive Known where
  nil := rfl
  append h h' := by rw [Known, List.filter_append, h, h']
  error f hf := List.filter_cons_of_pos (code_ne_of_isError hf)

end Finding

namespace Scope

/-- The scope without its directory. -/
def withoutDirectory (scope : Scope) : Scope := { scope with directory := none }

variable (scope : Scope)

theorem known_refFindings (location : Location) (name : String) (r : Reference) :
    Finding.Known (scope.refFindings location name r)
      (scope.withoutDirectory.refFindings location name r) := by
  have hcode : ∀ fault : RefFault, (fault.code != "U011") = true := by
    intro fault
    cases fault <;> decide
  unfold refFindings
  cases r.fault? with
  | none => rfl
  | some fault => exact List.filter_cons_of_pos (hcode fault)

theorem known_userFindings (location : Location) (name value : String) :
    Finding.Known (scope.userFindings location name value)
      (scope.withoutDirectory.userFindings location name value) := by
  unfold userFindings
  split
  · exact List.filter_cons_of_pos rfl
  · cases scope.directory with
    | none => rfl
    | some d =>
      dsimp only [withoutDirectory]
      split
      · rfl
      · exact List.filter_cons_of_neg (by simp [Finding.code, Problem.code])

theorem related_withoutDirectory :
    Related Finding.Known (· = ·) scope scope.withoutDirectory where
  additive := Finding.additive_known
  schema := rfl
  reference _ _ _ _ := scope.known_refFindings ..
  user := scope.known_userFindings
  field _ _ _ _ _ := rfl

/-- **The report on a document** without a directory is the one with it but for the
    findings that users and teams are not known. -/
theorem without_checkDocument (d : Document) :
    (scope.checkDocument d).without "U011" = scope.withoutDirectory.checkDocument d := by
  have hd := scope.related_discovered scope.related_withoutDirectory d
  have hfindings : (scope.discovered d).findings.filter (·.code != "U011") =
      (scope.withoutDirectory.discovered d).findings := hd.findings
  rw [checkDocument_eq, checkDocument_eq, FileReport.without_ofFindings, hfindings, hd.refs_eq]
  rfl

end Scope

namespace Report

/-- Counting the documents of types comes to the same without the findings of another
    code. -/
theorem map_without_withExcess (schema : Schema) {code : String} (hcode : code ≠ "T010")
    (files before rest : List FileReport) :
    (withExcess schema files before rest).map (·.without code) =
      withExcess schema (files.map (·.without code)) (before.map (·.without code))
        (rest.map (·.without code)) := by
  have htype : ∀ (rs : List FileReport) name,
      ofType (rs.map (·.without code)) name = (ofType rs name).map (·.without code) := by
    intro rs name
    rw [ofType, ofType, List.filter_map]
    rfl
  have hexcess : ∀ before r, excess? schema (files.map (·.without code))
      (before.map (·.without code)) (r.without code) = excess? schema files before r := by
    intro before r
    unfold excess?
    simp only [htype, List.length_map, List.map_map]
    rfl
  induction rest generalizing before with
  | nil => rfl
  | cons r rest ih =>
    rw [List.map_cons, withExcess, withExcess, List.map_cons, hexcess, ih, List.map_append]
    refine congrArg (· :: _) ?_
    cases hf : excess? schema files before r with
    | none => rfl
    | some f =>
      refine FileReport.without_addError ?_ r
      rw [code_of_excess? schema files hf]
      exact hcode.symm

/-- **Reports with a directory** are, without the findings that users and teams are not
    known, the reports without one. -/
theorem files_without_directory (schema : Schema) (directory : Directory) (docs : List Document) :
    (ofDocuments schema (some directory) docs).files.map (·.without "U011") =
      (ofDocuments schema none docs).files := by
  have hmap : docs.map ((·.without "U011") ∘ (scopeOf schema (some directory) docs).checkDocument) =
      docs.map (scopeOf schema none docs).checkDocument :=
    List.map_congr_left fun d _ => Scope.without_checkDocument _ d
  unfold ofDocuments
  rw [map_without_withExcess schema (by decide), List.map_nil, List.map_map, hmap]

end Report

end Folio
