/-
  Folio — the fields that relations give to types.

  A relation can be read by its name, and by that of its inverse if it has one that is
  not empty (`Schema.readings`).  For each reading that a type does not declare a field
  for, the type gets a field that says which relation it belongs to and how it is read.
  Looking a name up says the same: an empty name does not count when relations are told
  apart, and no other is the name of two readings.

  * `Schema.relation?_eq_some_iff_mem_readings`: what looking a name up finds;
  * `Schema.fields_ofSource`: the fields of the types of a schema.
-/
import Folio.Proofs.Schema.Relations
import Folio.Proofs.Schema.Sound

namespace Folio.Schema

open Node (withName)

/-! ## Readings -/

/-- A name that a relation is read by, and whether it is read backwards then. -/
structure Reading where
  relation : Relation
  name : String
  inverse : Bool

/-- The readings of a relation. -/
def Relation.readings (r : Relation) : List Reading :=
  r.fields.map fun (name, inverse) => ⟨r, name, inverse⟩

/-- The readings of the relations of a schema, in its order. -/
def readings (s : Schema) : List Reading := s.relations.flatMap Relation.readings

/-- The field is the one that a reading gives: nothing is asked of it but its kind. -/
structure Reading.Gives (e : Reading) (f : Field) : Prop where
  name : f.name = e.name
  kind : f.kind = if e.relation.many then .refs else .ref
  required : f.required = false
  pattern : f.pattern = none
  choices : f.choices = []
  default : f.default = none
  description : f.description = e.relation.description
  relation : f.relation = some e.relation.name
  inverse : f.inverse = e.inverse

section
variable {s : Schema} {r : Relation} {e : Reading} {name : String} {b : Bool}

/-- The names of the readings are those of the fields of all relations. -/
theorem map_name_readings : s.readings.map (·.name) = s.relationFields := by
  simp [readings, Relation.readings, relationFields, List.map_flatMap, Function.comp_def]

theorem mem_readings : e ∈ s.readings ↔
    e.relation ∈ s.relations ∧ (e.name, e.inverse) ∈ e.relation.fields := by
  simp only [readings, Relation.readings, List.mem_flatMap, List.mem_map]
  constructor
  · rintro ⟨r, hr, ⟨name, inverse⟩, hname, rfl⟩
    exact ⟨hr, hname⟩
  · rintro ⟨hr, hname⟩
    exact ⟨e.relation, hr, _, hname, rfl⟩

/-- A relation is read by the names that are not empty. -/
theorem Relation.mem_fields_iff (hne : name ≠ "") : (name, b) ∈ r.fields ↔ r.ReadBy name b := by
  constructor
  · intro h
    rcases List.mem_cons.1 h with h | h
    · cases h; exact .forwards
    · split at h
      · next other hinverse =>
        split at h
        · cases h
        · cases List.mem_singleton.1 h; exact .backwards hinverse
      · cases h
  · rintro (_ | h)
    · exact List.mem_cons_self
    · exact List.mem_cons_of_mem _ (by simp [h, hne])

/-- The names that count are those given that are not empty. -/
theorem countingNames_eq_filter : countingNames s.relations = s.givenNames.filter (!·.isEmpty) := by
  have hown : ∀ r : Relation, (r.fields.map (·.1)).filter (!·.isEmpty) =
      (r.name :: r.inverse.toList).filter (!·.isEmpty) := by
    rintro ⟨name, inverse, many, description, acyclic⟩
    cases inverse with
    | none => rfl
    | some inverse =>
      by_cases h : inverse = ""
      · simp [Relation.fields, h, List.filter_cons]
      · simp [Relation.fields, h]
  simp only [countingNames, givenNames, List.filter_flatMap, hown]

/-- **What looking a name up finds**, where no name counts twice: the only reading with
    that name, unless it is empty. -/
theorem relation?_eq_some_iff_mem_readings (h : (countingNames s.relations).Nodup)
    (hne : name ≠ "") : s.relation? name = some (r, b) ↔ ⟨r, name, b⟩ ∈ s.readings := by
  have hfilter : s.givenNames.filter (· == name) =
      (countingNames s.relations).filter (· == name) := by
    rw [countingNames_eq_filter, List.filter_filter]
    refine List.filter_congr fun other _ => ?_
    by_cases hother : other = name <;> simp [hother, hne]
  rw [relation?_eq_some_iff_of_once (hfilter ▸ h.filter _), mem_readings,
    Relation.mem_fields_iff hne]

/-- Looking a name up finds nothing exactly if no relation has a field of that name. -/
theorem relation?_eq_none_iff (hne : name ≠ "") :
    s.relation? name = none ↔ name ∉ s.relationFields := by
  have hmem : name ∈ s.relationFields ↔ ∃ r ∈ s.relations, ∃ b, r.ReadBy name b := by
    simp only [relationFields, List.mem_flatMap, List.mem_map, Prod.exists, exists_eq_right,
      exists_and_right, Relation.mem_fields_iff hne]
  rw [hmem]
  constructor
  · rintro hnone ⟨r, hr, b, hread⟩
    have hsome := isSome_relation? hr hread
    rw [hnone] at hsome
    cases hsome
  · intro h
    by_contra hsome
    obtain ⟨⟨r, b⟩, hfound⟩ := Option.ne_none_iff_exists'.1 hsome
    obtain ⟨hr, hread⟩ := mem_of_relation? hfound
    exact h ⟨r, hr, b, hread⟩

/-! ## Fields of types -/

/-- The fields of relations are those that the readings give. -/
theorem forall₂_gives_fieldsOfRelations {p : String → Bool} :
    List.Forall₂ Reading.Gives (s.readings.filter (p ·.name))
      ((fieldsOfRelations s.relations).filter (p ·.name)) := by
  have hfields : fieldsOfRelations s.relations = s.readings.map fun e =>
      { name := e.name, kind := e.relation.kind, description := e.relation.description,
        relation := some e.relation.name, inverse := e.inverse } := by
    simp [fieldsOfRelations, readings, Relation.readings, List.map_flatMap, Function.comp_def]
  rw [hfields, List.filter_map, List.forall₂_map_right_iff]
  exact List.forall₂_same.2 fun e _ => ⟨rfl, rfl, rfl, rfl, rfl, rfl, rfl, rfl, rfl⟩

/-- **The fields of the types of a schema**: those that the type declares, in the order
    of the source, and then those that the readings give for which it declares none.
    Looking up a name that is not empty finds the reading with that name, if there is
    one. -/
theorem fields_ofSource {source : String} (h : ofSource source = .ok s) :
    (∃ nodes, Node.ofSource source = .ok nodes ∧
      List.Forall₂ (fun n t => n.args.head? = some (.text t.name) ∧
          ∃ own given, t.fields = own ++ given ∧
          List.Forall₂ Field.DeclaredBy (withName "field" n.children) own ∧
          List.Forall₂ Reading.Gives (s.readings.filter (·.name ∉ own.map (·.name))) given)
        (withName "type" nodes) s.types) ∧
    s.readings.map (·.name) = s.relationFields ∧
    (∀ e ∈ s.readings, e.name ≠ "" → s.relation? e.name = some (e.relation, e.inverse)) ∧
    ∀ name, name ≠ "" → (s.relation? name = none ↔ name ∉ s.relationFields) := by
  obtain ⟨nodes, hnodes, h⟩ := bind_eq_ok_iff.1 h
  obtain ⟨⟨types, hholds, htypes⟩, hsound⟩ := ofNodes_eq_ok_iff.1 h
  refine ⟨⟨nodes, hnodes, ?_⟩, map_name_readings,
    fun e he hne => (relation?_eq_some_iff_mem_readings hsound.relationNames hne).2 he,
    fun name hne => relation?_eq_none_iff hne⟩
  rw [htypes, List.forall₂_map_right_iff]
  refine hholds.types.imp fun n t hn => ⟨hn.name, t.fields, _, rfl, hn.inside.fields, ?_⟩
  have hown : ∀ name, (t.field? name).isNone = decide (name ∉ t.fields.map (·.name)) := by
    intro name
    rw [decide_not, ← Bool.decide_congr DocType.isSome_field?_iff]
    cases t.field? name <;> rfl
  simp only [hown]
  exact forall₂_gives_fieldsOfRelations (p := fun name => decide (name ∉ t.fields.map (·.name)))

end

/-- A type that declares a field for reading a relation backwards gets one for reading
    it forwards only, although the relation comes after the type.  The empty name is
    that of a field, but an empty inverse is not. -/
theorem fields_ofSource_shadowed : ∃ s t own given,
    ofSource "type t \x7bfield b; field x\x7d; relation a inverse=b; relation \"\" inverse=\"\"" =
      .ok s ∧
    t ∈ s.types ∧ t.fields = own ++ given ∧ own.map (·.name) = ["b", "x"] ∧
    List.Forall₂ Reading.Gives
      [⟨{ name := "a", inverse := some "b" }, "a", false⟩,
        ⟨{ name := "", inverse := some "" }, "", false⟩] given ∧
    ∀ name, name ≠ "" → (s.relation? name = none ↔ name ∉ ["a", "b", ""]) := by
  have hnodes : Node.ofSource
      "type t \x7bfield b; field x\x7d; relation a inverse=b; relation \"\" inverse=\"\"" =
      .ok [⟨"type", 1, [.text "t"], [], [⟨"field", 1, [.text "b"], [], []⟩,
          ⟨"field", 1, [.text "x"], [], []⟩]⟩,
        ⟨"relation", 1, [.text "a"], [("inverse", .text "b")], []⟩,
        ⟨"relation", 1, [.text ""], [("inverse", .text "")], []⟩] := by decide +kernel
  have hs : ofSource
      "type t \x7bfield b; field x\x7d; relation a inverse=b; relation \"\" inverse=\"\"" =
      .ok ⟨[⟨"t", none, none, none,
          [⟨"b", .text, false, none, [], none, none, none, false⟩,
            ⟨"x", .text, false, none, [], none, none, none, false⟩,
            ⟨"a", .refs, false, none, [], none, none, some "a", false⟩,
            ⟨"", .refs, false, none, [], none, none, some "", false⟩], []⟩],
        [⟨"a", some "b", true, none, false⟩, ⟨"", some "", true, none, false⟩], []⟩ := by
    decide +kernel
  obtain ⟨⟨nodes, hsource, htypes⟩, -, -, hnone⟩ := fields_ofSource hs
  cases hnodes.symm.trans hsource
  obtain ⟨_, _, ⟨-, own, given, hfields, hown, hgiven⟩, -, h⟩ :=
    List.forall₂_cons_right_iff.1 htypes
  cases h
  obtain ⟨b, _, -, hx, rfl⟩ := List.forall₂_cons_left_iff.1 hown
  obtain ⟨x, _, -, hnil, rfl⟩ := List.forall₂_cons_left_iff.1 hx
  cases List.forall₂_nil_left_iff.1 hnil
  cases hfields
  exact ⟨_, _, [_, _], _, hs, List.mem_singleton_self _, rfl, rfl, hgiven, hnone⟩

end Folio.Schema
