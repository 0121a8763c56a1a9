/-
  Folio — the sections that a report misses.

  The sections that a type declares make an outline: each with the headings that lead to
  it, before those declared in it (`Schema.SectionRule.outline`).  A body that lacks a
  section lacks those below it, so the check, which does not go below a missing section,
  treats the part of the outline whose parents are there, entry by entry
  (`Scope.checkSections_eq`).

  * `Body.reaches_of_append`: a section that headings lead to lies below all on the way;
  * `Scope.missing_sections`: what a report finds in sections.
-/
import Folio.Proofs.Body.HeadingPath
import Folio.Proofs.Validation.Fields

namespace Folio

/-! ## Bodies -/

namespace Body

variable (b : Body)

/-- Do the headings lead to a section, or to the body itself? -/
def reaches (path : List String) : Bool := path.isEmpty || (b.find? path).isSome

variable {b}

theorem reaches_of_append {path rest : List String} (h : b.reaches (path ++ rest) = true) :
    b.reaches path = true := by
  by_cases hpath : path = []
  · rw [hpath]; rfl
  · have hne : path ++ rest ≠ [] := fun h => hpath (List.append_eq_nil_iff.1 h).1
    rw [reaches, List.isEmpty_eq_false_iff.2 hne, Bool.false_or, find?_append b hpath] at h
    rw [reaches, Bool.or_eq_true]
    exact .inr (Option.isSome_of_isSome_bind h)

end Body

/-- The headings that lead to the section that a place is in. -/
def Location.path? : Location → Option (List String)
  | section_ path | table path _ | cell path _ _ _ => some path
  | _ => none

theorem Location.inHeader_of_path? {l : Location} {path : List String} (h : l.path? = some path) :
    l.inHeader = false := by
  cases l with
  | header | field | item => cases h
  | _ => rfl

/-! ## Findings in a section -/

namespace Finding

/-- The codes of errors in sections that are there. -/
def sectionCodes : List String :=
  ["F020", "F030", "S020", "S021", "S022", "S030", "S031", "S032"]

/-- The findings stand in the section with a path, and the errors among them are those of
    sections that are there. -/
structure Inside (path : List String) (found : List Finding) : Prop where
  place : ∀ x ∈ found, x.location.path? = some path
  code : ∀ x ∈ found, x.isError = true → x.code ∈ sectionCodes

section
variable {path : List String} {found found' : List Finding}

theorem inside_nil : Inside path [] := ⟨by simp, by simp⟩

theorem inside_singleton {x : Finding} (c : String) (hc : c ∈ sectionCodes) (hcode : x.code = c)
    (hplace : x.location.path? = some path) : Inside path [x] := by
  have hmem : x.code ∈ sectionCodes := hcode.symm ▸ hc
  exact ⟨by simpa using hplace, by simpa using fun _ => hmem⟩

theorem WarnAt.inside {location : Location} (h : WarnAt location found)
    (hplace : location.path? = some path) : Inside path found := by
  refine ⟨fun x hx => (h x hx).1 ▸ hplace, fun x hx herror => ?_⟩
  exact absurd ((h x hx).2.symm.trans herror) Bool.false_ne_true

theorem Inside.code_ne (h : Inside path found) {code : String}
    (herror : Severity.ofCode? code = some .error) (hcode : code ∉ sectionCodes) {x : Finding}
    (hx : x ∈ found) : x.code ≠ code := by
  rintro rfl
  exact hcode (h.code x hx (isError_iff.2 herror))

theorem Inside.append (h : Inside path found) (h' : Inside path found') :
    Inside path (found ++ found') :=
  ⟨List.forall_mem_append.2 ⟨h.place, h'.place⟩, List.forall_mem_append.2 ⟨h.code, h'.code⟩⟩

theorem inside_flatMap {α : Type} {g : α → List Finding} (as : List α)
    (h : ∀ a, Inside path (g a)) : Inside path (as.flatMap g) := by
  induction as with
  | nil => exact inside_nil
  | cons a as ih =>
    rw [List.flatMap_cons]
    exact (h a).append ih

theorem inside_getD_map {α : Type} {g : α → List Finding} (o : Option α)
    (h : ∀ a, Inside path (g a)) : Inside path ((o.map g).getD []) := by
  cases o with
  | none => exact inside_nil
  | some a => exact h a

end

end Finding

/-! ## Outlines -/

namespace Schema.SectionRule

mutual

/-- A section with the headings that lead to it, and those below it in order; each comes
    without the sections that are declared in it. -/
def outline (above : List String) : SectionRule → List (List String × SectionRule)
  | ⟨name, required, description, children, tables, content, list, diagram⟩ =>
    (above ++ [name], ⟨name, required, description, [], tables, content, list, diagram⟩) ::
      outlineOf (above ++ [name]) children

/-- Sections with the headings that lead to them, and those below them in order. -/
def outlineOf (above : List String) : List SectionRule → List (List String × SectionRule)
  | [] => []
  | rule :: rules => rule.outline above ++ outlineOf above rules

end

end Schema.SectionRule

/-! ## Checks of sections -/

namespace Scope

open Finding (Inside inside_nil inside_singleton inside_flatMap inside_getD_map)
open Schema (SectionRule)
open Schema.SectionRule (outline outlineOf)

section
variable (scope : Scope) (source : Option String) (body : Body)

/-- What is wrong with a section of an outline. -/
def entryFindings (e : List String × SectionRule) : List Finding :=
  match body.find? e.1 with
  | none => if e.2.required then [⟨.section_ e.1, .missingSection e.1 e.2⟩] else []
  | some s => scope.ownFindings source body e.1 e.2 s

/-- What is wrong with the sections of an outline whose parents are there. -/
def outlineFindings (es : List (List String × SectionRule)) : List Finding :=
  (es.filter fun e => body.reaches e.1.dropLast).flatMap (scope.entryFindings source body)

theorem outlineFindings_append (es es' : List (List String × SectionRule)) :
    scope.outlineFindings source body (es ++ es') =
      scope.outlineFindings source body es ++ scope.outlineFindings source body es' := by
  rw [outlineFindings, List.filter_append, List.flatMap_append]
  rfl

theorem outlineFindings_cons (e : List String × SectionRule)
    (es : List (List String × SectionRule)) :
    scope.outlineFindings source body (e :: es) =
      (if body.reaches e.1.dropLast then scope.entryFindings source body e else []) ++
        scope.outlineFindings source body es := by
  rw [outlineFindings, List.filter_cons]
  split <;> rfl

mutual

theorem outlineFindings_outline (above : List String) : (rule : SectionRule) →
    scope.outlineFindings source body (rule.outline above) =
      if body.reaches above then scope.sectionFindings source body above rule else []
  | ⟨name, required, description, children, tables, content, list, diagram⟩ => by
    have hchildren := outlineFindings_outlineOf (above ++ [name]) children
    unfold outline sectionFindings
    rw [outlineFindings_cons, hchildren, List.dropLast_concat]
    cases habove : body.reaches above with
    | false =>
      have hpath : body.reaches (above ++ [name]) = false :=
        Bool.eq_false_iff.2 fun h => Bool.eq_false_iff.1 habove (Body.reaches_of_append h)
      rw [hpath]
      rfl
    | true =>
      have hpath : body.reaches (above ++ [name]) = (body.find? (above ++ [name])).isSome := by
        rw [Body.reaches, List.isEmpty_eq_false_iff.2 (by simp), Bool.false_or]
      rw [hpath]
      dsimp only [entryFindings]
      cases body.find? (above ++ [name]) with
      | none => exact List.append_nil _
      | some s => rfl

theorem outlineFindings_outlineOf (above : List String) : (rules : List SectionRule) →
    scope.outlineFindings source body (outlineOf above rules) =
      if body.reaches above then scope.sectionsFindings source body above rules else []
  | [] => by
    unfold outlineOf sectionsFindings
    exact (ite_self _).symm
  | rule :: rules => by
    unfold outlineOf sectionsFindings
    rw [outlineFindings_append, outlineFindings_outline above rule,
      outlineFindings_outlineOf above rules]
    split <;> rfl

end

/-- **The check of a body** treats the part of the outline whose parents are there. -/
theorem checkSections_eq (rules : List SectionRule) : scope.checkSections source body rules =
    scope.outlineFindings source body (outlineOf [] rules) :=
  (outlineFindings_outlineOf scope source body [] rules).symm

end

/-! ## Sections that are there -/

section
variable (scope : Scope) (source : Option String) (path : List String)

theorem inside_kindFindings {location : Location} (hplace : location.path? = some path)
    (name : String) (kind : Schema.Kind) (cell : String) :
    Inside path (scope.kindFindings source location name kind cell) := by
  unfold kindFindings
  cases kind with
  | number | bool =>
    dsimp only
    split
    · exact inside_nil
    · exact inside_singleton "F020" (by decide) rfl hplace
  | user => exact (scope.warnAt_userFindings _ _ _).inside hplace
  | ref => exact (scope.warnAt_refFindings _ _ _).inside hplace
  | _ => exact inside_nil

theorem inside_cellFindings {location : Location} (hplace : location.path? = some path)
    (column : Schema.Column) (cell : String) :
    Inside path (scope.cellFindings source path location column cell) := by
  unfold cellFindings cellPatternFindings
  dsimp only
  split
  · split
    · exact inside_singleton "S022" (by decide) rfl hplace
    · exact inside_nil
  · refine (inside_kindFindings scope source path hplace ..).append ?_
    split
    · exact inside_nil
    · split
      · exact inside_nil
      · exact inside_singleton "F030" (by decide) rfl hplace

theorem inside_tableFindings (index : Nat) (rule : Schema.TableRule) (t : Option Table) :
    Inside path (scope.tableFindings source path index rule t) := by
  cases t with
  | none =>
    unfold tableFindings
    dsimp only
    split
    · exact inside_singleton "S020" (by decide) rfl rfl
    · exact inside_nil
  | some t =>
    refine inside_flatMap _ fun column => ?_
    unfold columnFindings
    split
    · split
      · exact inside_singleton "S021" (by decide) rfl rfl
      · exact inside_nil
    · exact inside_flatMap _ fun cell => inside_cellFindings scope source path rfl ..

theorem inside_contentFindings (rule : Schema.ContentRule) (count : Nat) :
    Inside path (contentFindings path rule count) := by
  unfold contentFindings
  split
  · exact inside_nil
  · split
    · exact inside_singleton "S030" (by decide) rfl rfl
    · exact inside_nil

theorem inside_listFindings (rule : Schema.ListRule) (count : Nat) :
    Inside path (listFindings path rule count) := by
  unfold listFindings
  split
  · split
    · exact inside_singleton "S031" (by decide) rfl rfl
    · exact inside_nil
  · split
    · exact inside_nil
    · split
      · exact inside_singleton "S031" (by decide) rfl rfl
      · exact inside_nil

theorem inside_diagramFindings (rule : Schema.DiagramRule) (infos : List String) :
    Inside path (diagramFindings path rule infos) := by
  unfold diagramFindings
  dsimp only
  generalize (_ || _ : Bool) = done
  cases done
  · exact inside_singleton "S032" (by decide) rfl rfl
  · exact inside_nil

theorem inside_ownFindings (body : Body) (rule : SectionRule) (s : Section) :
    Inside path (scope.ownFindings source body path rule s) := by
  refine .append (.append (.append ?_ ?_) ?_) ?_
  · exact inside_flatMap _ fun t => inside_tableFindings scope source path ..
  · exact inside_getD_map _ fun _ => inside_contentFindings path ..
  · exact inside_getD_map _ fun _ => inside_listFindings path ..
  · exact inside_getD_map _ fun _ => inside_diagramFindings path ..

end

/-! ## Entries of an outline -/

section
variable (scope : Scope) (source : Option String) (body : Body)

theorem place_entryFindings {e : List String × SectionRule} {x : Finding}
    (hx : x ∈ scope.entryFindings source body e) : x.location.path? = some e.1 := by
  unfold entryFindings at hx
  split at hx
  · split at hx
    · rw [List.mem_singleton.1 hx]
      rfl
    · cases hx
  · exact (inside_ownFindings scope source e.1 body e.2 _).place x hx

theorem filter_entryFindings (e : List String × SectionRule) :
    (scope.entryFindings source body e).filter (·.code == "S010") =
      if e.2.required && (body.find? e.1).isNone then [⟨.section_ e.1, .missingSection e.1 e.2⟩]
      else [] := by
  unfold entryFindings
  cases body.find? e.1 with
  | none =>
    rw [Option.isNone_none, Bool.and_true]
    dsimp only
    split
    · exact List.filter_cons_of_pos rfl
    · rfl
  | some s =>
    rw [Option.isNone_some, Bool.and_false]
    refine List.filter_eq_nil_iff.2 fun x hx hcode => ?_
    exact (inside_ownFindings scope source e.1 body e.2 s).code_ne (by decide) (by decide) hx
      (beq_iff_eq.1 hcode)

/-- The sections that are found to be missing. -/
theorem filter_outlineFindings (es : List (List String × SectionRule)) :
    (scope.outlineFindings source body es).filter (·.code == "S010") =
      (es.filter fun e => e.2.required && (body.find? e.1).isNone &&
        body.reaches e.1.dropLast).map fun e => ⟨.section_ e.1, .missingSection e.1 e.2⟩ := by
  induction es with
  | nil => rfl
  | cons e es ih =>
    rw [outlineFindings_cons, List.filter_append, ih, List.filter_cons]
    cases body.reaches e.1.dropLast with
    | false =>
      rw [Bool.and_false]
      rfl
    | true =>
      rw [if_pos rfl, filter_entryFindings, Bool.and_true]
      split <;> rfl

/-- What is found stands in a section of the outline whose parent is there. -/
theorem place_outlineFindings {es : List (List String × SectionRule)} {x : Finding}
    (hx : x ∈ scope.outlineFindings source body es) :
    ∃ e ∈ es, x.location.path? = some e.1 ∧ body.reaches e.1.dropLast = true := by
  obtain ⟨e, he, hx⟩ := List.mem_flatMap.1 hx
  obtain ⟨he, hreach⟩ := List.mem_filter.1 he
  exact ⟨e, he, place_entryFindings scope source body hx, hreach⟩

theorem inHeader_of_mem_checkSections {body : Body} {rules : List SectionRule} {x : Finding}
    (hx : x ∈ scope.checkSections source body rules) : x.location.inHeader = false := by
  rw [checkSections_eq] at hx
  obtain ⟨e, -, hplace, -⟩ := place_outlineFindings scope source body hx
  exact Location.inHeader_of_path? hplace

theorem code_ne_of_mem_checkSections {body : Body} {rules : List SectionRule} {code : String}
    (herror : Severity.ofCode? code = some .error) (hcode : code ∉ "S010" :: Finding.sectionCodes)
    {x : Finding} (hx : x ∈ scope.checkSections source body rules) : x.code ≠ code := by
  obtain ⟨hmissing, hcode⟩ := not_or.1 (mt List.mem_cons.2 hcode)
  rw [checkSections_eq] at hx
  obtain ⟨e, -, hx⟩ := List.mem_flatMap.1 hx
  unfold entryFindings at hx
  split at hx
  · split at hx
    · rw [List.mem_singleton.1 hx]
      exact Ne.symm hmissing
    · cases hx
  · exact (inside_ownFindings scope source e.1 body e.2 _).code_ne herror hcode hx

end

/-! ## Reports -/

/-- What is discovered in a header says of no section that it is missing. -/
theorem mem_header_discovered {scope : Scope} {d : Document} {fields : List Schema.Field}
    {x : Finding} (hx : x ∈ (scope.typeOf d).2 ++
      (if d.hasSoundHeader then scope.checkFields d.path d.header fields else {}).findings) :
    x.location.inHeader = true ∧ x.code ≠ "S010" := by
  rcases List.mem_append.1 hx with hx | hx
  · obtain ⟨-, hplace, hcode⟩ := mem_typeOf hx
    exact ⟨hplace, fun h => absurd (h ▸ hcode) (by decide)⟩
  · split at hx
    · obtain ⟨hplace, hcode⟩ := mem_checkFields scope d.path hx
      refine ⟨hplace, fun h => absurd (h ▸ hcode (Finding.isError_iff.2 (h ▸ ?_))) (by decide)⟩
      decide
    · cases hx

/-- **The sections that a report misses.**  In a document of a type these are, in the
    order of the outline, the sections that are required and that the body lacks though
    their parents are there; and nothing at all is found in a section unless all sections
    above it are there. -/
theorem missing_sections {scope : Scope} {d : Document} {t : Schema.DocType}
    (ht : (scope.typeOf d).1 = some t) :
    (scope.checkDocument d).findings.filter (·.code == "S010") =
      ((outlineOf [] t.sections).filter fun e => e.2.required && (d.body.find? e.1).isNone &&
        d.body.reaches e.1.dropLast).map (fun e => ⟨.section_ e.1, .missingSection e.1 e.2⟩) ∧
    ∀ x ∈ (scope.checkDocument d).findings, ∀ path, x.location.path? = some path →
      (∃ e ∈ outlineOf [] t.sections, e.1 = path) ∧
      ∀ above below, path = above ++ below → below ≠ [] → d.body.reaches above = true := by
  have hfound : (scope.discovered d).findings = ((scope.typeOf d).2 ++
      (if d.hasSoundHeader then scope.checkFields d.path d.header t.fields else {}).findings) ++
        scope.outlineFindings d.path d.body (outlineOf [] t.sections) := by
    rw [findings_discovered ht, checkSections_eq, List.append_assoc]
  constructor
  · have hheader : ((scope.typeOf d).2 ++ (if d.hasSoundHeader then
        scope.checkFields d.path d.header t.fields else {}).findings).filter
          (·.code == "S010") = [] :=
      List.filter_eq_nil_iff.2 fun x hx hcode => (mem_header_discovered hx).2 (beq_iff_eq.1 hcode)
    rw [checkDocument_eq, FileReport.filter_code_findings_ofFindings _ _ _ _ (by decide), hfound,
      List.filter_append, hheader, List.nil_append, filter_outlineFindings]
  · intro x hx path hpath
    rw [checkDocument_eq, FileReport.mem_findings_ofFindings, hfound] at hx
    rcases List.mem_append.1 hx with hx | hx
    · have hplace := (mem_header_discovered hx).1
      rw [Location.inHeader_of_path? hpath] at hplace
      cases hplace
    · obtain ⟨e, he, hplace, hreach⟩ := place_outlineFindings scope d.path d.body hx
      cases hplace.symm.trans hpath
      refine ⟨⟨e, he, rfl⟩, fun above below hcut hbelow => ?_⟩
      rw [hcut, List.dropLast_append_of_ne_nil hbelow] at hreach
      exact Body.reaches_of_append hreach

/-- Plans, which have sections in sections. -/
def planType : Schema.DocType :=
  { name := "p"
    folder := some "p"
    sections :=
      [{ name := "A", children :=
          [{ name := "B", required := true, children := [{ name := "C", required := true }] }] },
        { name := "D", required := true }] }

/-- A plan without a header, in which the first section stands below another. -/
def plan : Document :=
  { path := some "p/x"
    raw := Utf8.ofString "# X\n## A\n"
    header := []
    hasHeader := false
    headerError := none
    bodyOffset := 0
    body := Body.ofOctets (Utf8.ofString "# X\n## A\n") }

/-- The scope of plans alone. -/
def planScope : Scope := ⟨{ types := [planType] }, ⟨[]⟩, none⟩

/-- Of the sections below a missing one nothing is said. -/
theorem missing_sections_of_plan :
    Schema.ofSource ("type \"p\" folder=\"p\" \x7b\nsection \"A\" \x7b\n" ++
        "section \"B\" required=true \x7b\nsection \"C\" required=true\n\x7d\n\x7d\n" ++
        "section \"D\" required=true\n\x7d\n") = .ok planScope.schema ∧
      Document.parse plan.raw plan.path = .ok plan ∧
      (planScope.typeOf plan).1 = some planType ∧
      (planScope.checkDocument plan).findings.filter (·.code == "S010") =
        [⟨.section_ ["A", "B"], .missingSection ["A", "B"] { name := "B", required := true }⟩,
          ⟨.section_ ["D"], .missingSection ["D"] { name := "D", required := true }⟩] ∧
      ∀ x ∈ (planScope.checkDocument plan).findings, x.location.path? = some ["A", "B"] →
        plan.body.reaches ["A"] = true := by
  have htype : (planScope.typeOf plan).1 = some planType := by decide +kernel
  obtain ⟨hmissing, hplace⟩ := missing_sections htype
  refine ⟨by decide +kernel, by decide +kernel, htype, hmissing.trans (by decide +kernel),
    fun x hx hpath => ?_⟩
  exact (hplace x hx _ hpath).2 ["A"] ["B"] rfl (by decide)

end Scope

end Folio
