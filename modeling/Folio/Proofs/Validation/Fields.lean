/-
  Folio — what a field asks for.

  A field asks for a value of its kind (`Schema.Kind.Has`) whose texts match its pattern;
  a field that is not required may be left out, or be null (`Schema.Field.Met`).  Each
  check of a value is about a condition of this kind: what it finds stands in the field,
  and an error is among it exactly if the condition fails (`Finding.Settles`).  That a
  reference points at no document, or a user is not known, is no error.

  * `Scope.settles_checkField`: the check of a field;
  * `Scope.errors_checkFields_iff`: the check of a header.
-/
import Folio.Graph.Basic
import Folio.Proofs.Schema.Declared
import Folio.Proofs.Validation.Report

namespace Folio

/-! ## Conditions on headers -/

theorem Graph.mem_textsOf_list {l : Label} {items : List Value} {s : String} :
    s ∈ textsOf (some (.list l items)) ↔ .text s ∈ items := by
  rw [textsOf, List.mem_filterMap]
  constructor
  · rintro ⟨v, hv, hs⟩
    cases v with
    | text t => cases hs; exact hv
    | _ => cases hs
  · exact fun h => ⟨_, h, rfl⟩

/-- All items of a list are texts with a property. -/
theorem Graph.forall_text_and_iff (l : Label) {items : List Value} {P : String → Prop} :
    (∀ v ∈ items, ∃ s, v = .text s ∧ P s) ↔
      (∀ v ∈ items, ∃ s, v = .text s) ∧ ∀ s ∈ textsOf (some (.list l items)), P s := by
  simp only [mem_textsOf_list]
  constructor
  · intro h
    refine ⟨fun v hv => (h v hv).imp fun _ => And.left, fun s hs => ?_⟩
    obtain ⟨t, ht, hP⟩ := h _ hs
    cases ht
    exact hP
  · rintro ⟨htexts, hP⟩ v hv
    obtain ⟨s, rfl⟩ := htexts v hv
    exact ⟨s, rfl, hP s hv⟩

namespace Schema

/-- The values of a kind; those of a choice are listed. -/
inductive Kind.Has (choices : List String) : Kind → Value → Prop
  | text (s : String) : Has choices .text (.text s)
  | ref (s : String) : Has choices .ref (.text s)
  | user (s : String) : Has choices .user (.text s)
  | int (i : Int) : Has choices .number (.int i)
  | float (x : Binary64) : Has choices .number (.float x)
  | bool (b : Bool) : Has choices .bool (.bool b)
  | choice {s : String} (h : s ∈ choices) : Has choices .choice (.text s)
  | texts (l : Label) {items : List Value} (h : ∀ v ∈ items, ∃ s, v = .text s) :
      Has choices .texts (.list l items)
  | refs (l : Label) {items : List Value} (h : ∀ v ∈ items, ∃ s, v = .text s) :
      Has choices .refs (.list l items)
  | users (l : Label) {items : List Value} (h : ∀ v ∈ items, ∃ s, v = .text s) :
      Has choices .users (.list l items)

theorem Kind.Has.ne_null {choices : List String} {k : Kind} {v : Value} (h : k.Has choices v) :
    v ≠ .null := by
  rintro rfl
  cases h

/-- The values of a kind of lists. -/
theorem Kind.has_list_iff {choices : List String} {l : Label} {items : List Value} :
    {k : Kind} → k.isList = true →
      (k.Has choices (.list l items) ↔ ∀ v ∈ items, ∃ s, v = .text s)
  | .texts, _ => ⟨fun | .texts _ h => h, .texts l⟩
  | .refs, _ => ⟨fun | .refs _ h => h, .refs l⟩
  | .users, _ => ⟨fun | .users _ h => h, .users l⟩

namespace Field

/-- The text matches the pattern of the field, if there is one. -/
def Fits (f : Field) (s : String) : Prop := ∀ p ∈ f.pattern, p.search s = true

/-- The header has nothing in the field, or null. -/
def LacksIn (f : Field) (header : Entries) : Prop :=
  header.get? f.name = none ∨ header.get? f.name = some .null

/-- The header has what the field asks for.  A pattern counts where the kind takes one. -/
inductive Met (f : Field) (header : Entries) : Prop
  | lacks (hf : f.required = false) (h : f.LacksIn header)
  | has {v : Value} (h : header.get? f.name = some v) (hv : f.kind.Has f.choices v)
      (hfits : f.kind.takesPattern = true → ∀ s ∈ Graph.textsOf (some v), f.Fits s)

theorem met_iff_of_lacksIn {f : Field} {header : Entries} (h : f.LacksIn header) :
    f.Met header ↔ f.required = false := by
  refine ⟨?_, fun hf => .lacks hf h⟩
  rintro (⟨hf, -⟩ | ⟨hget, hv, -⟩)
  · exact hf
  · rcases h with h | h
    · cases hget.symm.trans h
    · cases hget.symm.trans h
      exact absurd rfl hv.ne_null

theorem met_iff_of_get? {f : Field} {header : Entries} {v : Value}
    (h : header.get? f.name = some v) (hnull : v ≠ .null) : f.Met header ↔ f.kind.Has f.choices v ∧
      (f.kind.takesPattern = true → ∀ s ∈ Graph.textsOf (some v), f.Fits s) := by
  refine ⟨?_, fun ⟨hv, hfits⟩ => .has h hv hfits⟩
  rintro (⟨-, hlacks | hlacks⟩ | ⟨hget, hv, hfits⟩)
  · cases h.symm.trans hlacks
  · cases h.symm.trans hlacks
    exact absurd rfl hnull
  · cases h.symm.trans hget
    exact ⟨hv, hfits⟩

/-- A field has a pattern only if its kind takes one, so the pattern always counts. -/
theorem met_iff_of_sound {f : Field} (hf : f.Sound) {header : Entries} : f.Met header ↔
    (f.required = false ∧ f.LacksIn header) ∨
      ∃ v, header.get? f.name = some v ∧ f.kind.Has f.choices v ∧
        ∀ s ∈ Graph.textsOf (some v), f.Fits s := by
  have hfits : ∀ v, (f.kind.takesPattern = true → ∀ s ∈ Graph.textsOf (some v), f.Fits s) →
      ∀ s ∈ Graph.textsOf (some v), f.Fits s := by
    intro v h s hs p hp
    have hkind := hf.pattern (hp ▸ Option.some_ne_none p)
    exact h (Kind.takesPattern_iff.2 hkind) s hs p hp
  constructor
  · rintro (⟨hreq, hlacks⟩ | ⟨hget, hv, h⟩)
    · exact .inl ⟨hreq, hlacks⟩
    · exact .inr ⟨_, hget, hv, hfits _ h⟩
  · rintro (⟨hreq, hlacks⟩ | ⟨v, hget, hv, h⟩)
    · exact .lacks hreq hlacks
    · exact .has hget hv fun _ => h

end Field

end Schema

/-! ## Conditions on findings -/

/-- The field that a place is in. -/
def Location.fieldName? : Location → Option String
  | field name | item name _ => some name
  | _ => none

theorem Location.inHeader_of_fieldName? {l : Location} {name : String}
    (h : l.fieldName? = some name) : l.inHeader = true := by
  cases l with
  | header | field | item => rfl
  | _ => cases h

namespace Finding

/-- The codes of errors in fields. -/
def fieldCodes : List String := ["F010", "F020", "F021", "F030"]

theorem isError_of_mem_fieldCodes {f : Finding} (h : f.code ∈ fieldCodes) : f.isError = true := by
  have herrors : ∀ c ∈ fieldCodes, Severity.ofCode? c = some .error := by decide
  exact isError_iff.2 (herrors _ h)

/-- The findings are warnings at a place. -/
def WarnAt (location : Location) (found : List Finding) : Prop :=
  ∀ x ∈ found, x.location = location ∧ x.isError = false

/-- The findings all stand in a field, and tell by errors whether a condition fails. -/
structure Settles (name : String) (P : Prop) (found : List Finding) : Prop where
  place : ∀ x ∈ found, x.location.fieldName? = some name
  code : ∀ x ∈ found, x.isError = true → x.code ∈ fieldCodes
  errors : (∀ x ∈ found, x.isError = false) ↔ P

section
variable {name : String} {P Q : Prop} {found found' : List Finding}

theorem Settles.congr (h : Settles name P found) (hPQ : P ↔ Q) : Settles name Q found :=
  ⟨h.place, h.code, h.errors.trans hPQ⟩

theorem settles_nil (h : P) : Settles name P [] := ⟨by simp, by simp, by simpa using h⟩

theorem settles_error {x : Finding} (c : String) (hc : c ∈ fieldCodes) (hcode : x.code = c)
    (hplace : x.location.fieldName? = some name) (h : ¬P) : Settles name P [x] := by
  have hmem : x.code ∈ fieldCodes := hcode.symm ▸ hc
  refine ⟨by simpa using hplace, by simpa using fun _ => hmem, ?_⟩
  simpa [isError_of_mem_fieldCodes hmem] using h

theorem Settles.append (h : Settles name P found) (h' : Settles name Q found') :
    Settles name (P ∧ Q) (found ++ found') :=
  ⟨List.forall_mem_append.2 ⟨h.place, h'.place⟩, List.forall_mem_append.2 ⟨h.code, h'.code⟩,
    List.forall_mem_append.trans (and_congr h.errors h'.errors)⟩

theorem Settles.append_warnings {location : Location} (h : Settles name P found)
    (h' : WarnAt location found') (hplace : location.fieldName? = some name) :
    Settles name P (found ++ found') := by
  refine (h.append (Q := True) ⟨fun x hx => ?_, fun x hx herror => ?_, ?_⟩).congr
    (and_iff_left trivial)
  · exact (h' x hx).1 ▸ hplace
  · exact absurd (herror.symm.trans (h' x hx).2) (by decide)
  · exact iff_true_intro fun x hx => (h' x hx).2

theorem settles_flatMap {α : Type} {g : α → List Finding} {R : α → Prop} (as : List α)
    (h : ∀ a, Settles name (R a) (g a)) : Settles name (∀ a ∈ as, R a) (as.flatMap g) := by
  induction as with
  | nil => exact settles_nil (by simp)
  | cons a as ih =>
    rw [List.flatMap_cons]
    exact ((h a).append ih).congr List.forall_mem_cons.symm

end

end Finding

/-! ## Checks of fields -/

namespace Scope

open Finding (WarnAt Settles settles_nil settles_error settles_flatMap)

section
variable (scope : Scope) (source : Option String) (f : Schema.Field)

theorem warnAt_refFindings (location : Location) (name : String) (r : Reference) :
    WarnAt location (scope.refFindings location name r) := by
  intro x hx
  unfold refFindings at hx
  split at hx
  · cases hx
  · rw [List.mem_singleton.1 hx]
    exact ⟨rfl, rfl⟩

theorem warnAt_userFindings (location : Location) (name value : String) :
    WarnAt location (scope.userFindings location name value) := by
  intro x hx
  unfold userFindings at hx
  split at hx
  · rw [List.mem_singleton.1 hx]
    exact ⟨rfl, rfl⟩
  · split at hx
    · cases hx
    · split at hx
      · cases hx
      · rw [List.mem_singleton.1 hx]
        exact ⟨rfl, rfl⟩

theorem settles_patternFindings {location : Location}
    (hplace : location.fieldName? = some f.name) (name value : String) :
    Settles f.name (f.Fits value) (patternFindings f.pattern location name value) := by
  unfold patternFindings Schema.Field.Fits
  cases f.pattern with
  | none => exact settles_nil (by simp)
  | some p =>
    dsimp only
    split
    · next h => exact settles_nil (by simpa using h)
    · next h => exact settles_error "F030" (by decide) rfl hplace (by simpa using h)

theorem settles_checkText (index : Option Nat) (value : String) :
    Settles f.name (f.Fits value) (scope.checkText source f index value).findings := by
  have hplace : ((index.map (Location.item f.name)).getD (.field f.name)).fieldName? =
      some f.name := by
    cases index <;> rfl
  have hpattern := settles_patternFindings f hplace
  unfold checkText
  dsimp only
  split
  · exact (hpattern _ _).append_warnings (scope.warnAt_refFindings _ _ _) hplace
  · split
    · exact (hpattern _ _).append_warnings (scope.warnAt_userFindings _ _ _) hplace
    · exact hpattern _ _

theorem settles_mismatch {location : Location} {field : String}
    (hplace : location.fieldName? = some field) (name expected : String) (v : Value) {P : Prop}
    (h : ¬P) : Settles field P (mismatch location name expected v).findings :=
  settles_error "F020" (by decide) rfl hplace h

theorem settles_checkItem (index : Nat) (v : Value) :
    Settles f.name (∃ s, v = .text s ∧ f.Fits s) (scope.checkItem source f index v).findings := by
  unfold checkItem
  split
  · exact (settles_checkText scope source f _ _).congr (by simp)
  · next hv => exact settles_mismatch rfl _ _ _ fun ⟨s, hs, _⟩ => hv s hs

theorem settles_items (items : List Value) :
    Settles f.name (∀ v ∈ items, ∃ s, v = .text s ∧ f.Fits s)
      (Checked.join (items.zipIdx.map fun (item, i) => scope.checkItem source f i item)).findings := by
  rw [Checked.join, List.flatMap_map]
  refine (settles_flatMap items.zipIdx fun p => settles_checkItem scope source f p.2 p.1).congr ?_
  calc (∀ p ∈ items.zipIdx, ∃ s, p.1 = .text s ∧ f.Fits s)
      ↔ ∀ v ∈ items.zipIdx.map Prod.fst, ∃ s, v = .text s ∧ f.Fits s := by
        simp only [List.forall_mem_map]
    _ ↔ ∀ v ∈ items, ∃ s, v = .text s ∧ f.Fits s := by rw [List.zipIdx_map_fst]

/-- **The check of a value** finds errors exactly if the value is not of the kind of the
    field or a text in it does not match the pattern. -/
theorem settles_checkValue (v : Value) :
    Settles f.name (f.kind.Has f.choices v ∧
        (f.kind.takesPattern = true → ∀ s ∈ Graph.textsOf (some v), f.Fits s))
      (scope.checkValue source f v).findings := by
  unfold checkValue
  dsimp only
  cases f.kind with
  | number =>
    cases v with
    | int i => exact settles_nil ⟨.int i, nofun⟩
    | float x => exact settles_nil ⟨.float x, nofun⟩
    | _ => exact settles_mismatch rfl _ _ _ fun h => nomatch h.1
  | bool =>
    cases v with
    | bool b => exact settles_nil ⟨.bool b, nofun⟩
    | _ => exact settles_mismatch rfl _ _ _ fun h => nomatch h.1
  | choice =>
    cases v with
    | text s =>
      dsimp only
      split
      · next h => exact settles_nil ⟨.choice (List.contains_iff_mem.1 h), nofun⟩
      · next h =>
        refine settles_error "F021" (by decide) rfl rfl fun ⟨hv, _⟩ => h ?_
        cases hv with
        | choice hs => exact List.contains_iff_mem.2 hs
    | _ => exact settles_mismatch rfl _ _ _ fun h => nomatch h.1
  | text | ref | user =>
    cases v with
    | text s =>
      refine (settles_checkText scope source f none s).congr ⟨fun h => ⟨by constructor, ?_⟩, ?_⟩
      · exact fun _ => List.forall_mem_singleton.2 h
      · exact fun h => List.forall_mem_singleton.1 (h.2 rfl)
    | _ => exact settles_mismatch rfl _ _ _ fun h => nomatch h.1
  | texts | refs | users =>
    cases v with
    | list l items =>
      refine (settles_items scope source f items).congr ((Graph.forall_text_and_iff l).trans ?_)
      exact and_congr (Schema.Kind.has_list_iff rfl).symm ⟨fun h _ => h, fun h => h rfl⟩
    | _ => exact settles_mismatch rfl _ _ _ fun h => nomatch h.1

theorem findings_checkField_of_lacksIn {header : Entries} (h : f.LacksIn header) :
    (scope.checkField source header f).findings =
      if f.required then [⟨.field f.name, .missingField f⟩] else [] := by
  unfold checkField
  rcases h with h | h
  · rw [h]
    dsimp only
    split <;> rfl
  · rw [h]
    dsimp only
    split <;> rfl

/-- **The check of a field** finds errors exactly if the header does not have what the
    field asks for. -/
theorem settles_checkField (header : Entries) :
    Settles f.name (f.Met header) (scope.checkField source header f).findings := by
  by_cases hlacks : f.LacksIn header
  · rw [findings_checkField_of_lacksIn scope source f hlacks,
      Schema.Field.met_iff_of_lacksIn hlacks]
    cases f.required with
    | false => exact settles_nil rfl
    | true => exact settles_error "F010" (by decide) rfl rfl (by decide)
  · unfold checkField
    split
    · next h => exact absurd (.inl h) hlacks
    · next h => exact absurd (.inr h) hlacks
    · next v hnull h =>
      rw [Schema.Field.met_iff_of_get? h hnull]
      exact settles_checkValue scope source f v

theorem mem_checkFields_iff {header : Entries} {fields : List Schema.Field} {x : Finding} :
    x ∈ (scope.checkFields source header fields).findings ↔
      ∃ f ∈ fields, x ∈ (scope.checkField source header f).findings := by
  rw [checkFields, Checked.join, List.flatMap_map, List.mem_flatMap]

theorem mem_checkFields {header : Entries} {fields : List Schema.Field} {x : Finding}
    (hx : x ∈ (scope.checkFields source header fields).findings) :
    x.location.inHeader = true ∧ (x.isError = true → x.code ∈ Finding.fieldCodes) := by
  obtain ⟨f, -, hx⟩ := (mem_checkFields_iff scope source).1 hx
  have hf := settles_checkField scope source f header
  exact ⟨Location.inHeader_of_fieldName? (hf.place x hx), hf.code x hx⟩

/-- **The check of a header** finds errors exactly if the header does not have what all
    fields ask for. -/
theorem errors_checkFields_iff (header : Entries) (fields : List Schema.Field) :
    (∀ x ∈ (scope.checkFields source header fields).findings, x.isError = false) ↔
      ∀ f ∈ fields, f.Met header := by
  constructor
  · intro h f hmem
    refine (settles_checkField scope source f header).errors.1 fun x hx => h x ?_
    exact (mem_checkFields_iff scope source).2 ⟨f, hmem, hx⟩
  · intro h x hx
    obtain ⟨f, hmem, hx⟩ := (mem_checkFields_iff scope source).1 hx
    exact (settles_checkField scope source f header).errors.2 (h f hmem) x hx

end

end Scope

end Folio
