/-
  Folio — the declarations of other ends.

  An edge can be declared from both ends, in a field that a relation is named by and in
  the field of its inverse.  Where no two of these names are the same, a name tells the
  relation and the way in which it is read, so the other end of an edge is told in the
  other field, and the other end of that is the declaration that one began with.  Both
  mean the same edge.  So what other ends lack can be declared at once: it adds no edge,
  and nothing is lacking then.

  * `Schema.Companion`: two fields that tell an edge from its two ends;
  * `Graph.inverseOf?_eq_some_iff`: what the other end of an edge would declare;
  * `Graph.missingInverses_ofDocuments`: what other ends lack, and what declaring it does.
-/
import Folio.Proofs.Graph.Cycle
import Folio.Proofs.Graph.Nodes

namespace Folio

/-! ## Names of relations -/

namespace Schema

/-- One field names a relation, and the other one its inverse. -/
inductive Companion (s : Schema) : String → String → Prop
  | inverse {r : Relation} {name : String} (hr : r ∈ s.relations) (h : r.inverse = some name) :
    Companion s r.name name
  | relation {r : Relation} {name : String} (hr : r ∈ s.relations) (h : r.inverse = some name) :
    Companion s name r.name

variable {s : Schema} {field other : String} {r : Relation} {b : Bool}

theorem Companion.symm (h : s.Companion field other) : s.Companion other field := by
  cases h with
  | inverse hr h => exact .relation hr h
  | relation hr h => exact .inverse hr h

/-- **Where names differ, a field tells the relation** and the way in which it is read. -/
theorem relation?_eq_some_iff (hnames : s.givenNames.Nodup) :
    s.relation? field = some (r, b) ↔ r ∈ s.relations ∧ r.ReadBy field b :=
  relation?_eq_some_iff_of_once (hnames.filter _)

end Schema

namespace Graph

open Schema (Companion)

variable {schema : Schema} {x m : Declaration} {g : Graph}

/-! ## The other end of an edge -/

/-- **What the other end of an edge would declare**: the same documents, the other way
    around, in the other field. -/
theorem inverseOf?_eq_some_iff (hnames : schema.givenNames.Nodup) :
    inverseOf? schema x = some m ↔
      schema.Companion x.field m.field ∧ m.source = x.target ∧ m.target = x.source := by
  obtain ⟨source, field, target⟩ := x
  obtain ⟨source', field', target'⟩ := m
  unfold inverseOf?
  constructor
  · intro h
    split at h
    · cases h
    · next r hfound =>
      obtain ⟨name, hname, hm⟩ := Option.map_eq_some_iff.1 h
      obtain ⟨hr, hread⟩ := Schema.mem_of_relation? hfound
      cases hread
      cases hm
      exact ⟨.inverse hr hname, rfl, rfl⟩
    · next r hfound =>
      obtain ⟨hr, hread⟩ := Schema.mem_of_relation? hfound
      cases h
      cases hread with
      | backwards hname => exact ⟨.relation hr hname, rfl, rfl⟩
  · rintro ⟨hcompanion, rfl, rfl⟩
    cases hcompanion with
    | @inverse r name hr h =>
      have hfound := (Schema.relation?_eq_some_iff hnames).2 ⟨hr, .forwards⟩
      simp [hfound, h]
    | @relation r name hr h =>
      have hfound := (Schema.relation?_eq_some_iff hnames).2 ⟨hr, .backwards h⟩
      simp [hfound]

/-- The other end of the other end is where one began. -/
theorem inverseOf?_symm (hnames : schema.givenNames.Nodup) (h : inverseOf? schema x = some m) :
    inverseOf? schema m = some x := by
  obtain ⟨hcompanion, hsource, htarget⟩ := (inverseOf?_eq_some_iff hnames).1 h
  exact (inverseOf?_eq_some_iff hnames).2 ⟨hcompanion.symm, htarget.symm, hsource.symm⟩

/-- The field that a relation is named by and that of its inverse mean the same edges. -/
theorem edgeOf?_inverse (hnames : schema.givenNames.Nodup) {r : Schema.Relation} {name : String}
    (hr : r ∈ schema.relations) (hname : r.inverse = some name) (a b : String) :
    edgeOf? schema ⟨b, name, a⟩ = edgeOf? schema ⟨a, r.name, b⟩ := by
  have hforwards : schema.relation? r.name = some (r, false) :=
    (Schema.relation?_eq_some_iff hnames).2 ⟨hr, .forwards⟩
  have hbackwards : schema.relation? name = some (r, true) :=
    (Schema.relation?_eq_some_iff hnames).2 ⟨hr, .backwards hname⟩
  simp only [edgeOf?, hforwards, hbackwards]

/-- **Both ends of an edge declare the same edge.** -/
theorem edgeOf?_eq_of_inverseOf? (hnames : schema.givenNames.Nodup)
    (h : inverseOf? schema x = some m) : edgeOf? schema m = edgeOf? schema x := by
  obtain ⟨hcompanion, hsource, htarget⟩ := (inverseOf?_eq_some_iff hnames).1 h
  obtain ⟨source, field, target⟩ := x
  obtain ⟨source', field', target'⟩ := m
  dsimp only at hcompanion hsource htarget
  subst hsource htarget
  cases hcompanion with
  | inverse hr hname => exact edgeOf?_inverse hnames hr hname _ _
  | relation hr hname => exact (edgeOf?_inverse hnames hr hname _ _).symm

/-! ## What other ends lack -/

theorem mem_missingInverses_iff : m ∈ g.missingInverses ↔
    m ∉ g.declared ∧ ∃ x ∈ g.declared, inverseOf? g.schema x = some m := by
  rw [missingInverses, List.mem_eraseDups, List.mem_filter, List.mem_filterMap, and_comm,
    Bool.not_eq_true', ← Bool.not_eq_true, List.contains_iff_mem]

theorem missingInverses_eq_nil_iff : g.missingInverses = [] ↔
    ∀ x ∈ g.declared, ∀ m, inverseOf? g.schema x = some m → m ∈ g.declared := by
  rw [List.eq_nil_iff_forall_not_mem]
  constructor
  · intro h x hx m hm
    by_contra hnot
    exact h m (mem_missingInverses_iff.2 ⟨hnot, x, hx, hm⟩)
  · intro h m hm
    obtain ⟨hnot, x, hx, hxm⟩ := mem_missingInverses_iff.1 hm
    exact hnot (h x hx m hxm)

/-- A graph in which more is declared. -/
def declare (g : Graph) (more : List Declaration) : Graph :=
  { g with declared := g.declared ++ more }

/-- Declarations of edges that are there add no edge. -/
theorem edges_declare {more : List Declaration}
    (h : ∀ m ∈ more, ∃ x ∈ g.declared, edgeOf? g.schema m = edgeOf? g.schema x) :
    (g.declare more).edges = g.edges := by
  have hnew : (more.filterMap (edgeOf? g.schema)).removeAll (g.declared.filterMap (edgeOf? g.schema)) =
      [] := by
    rw [List.removeAll, List.filter_eq_nil_iff]
    intro e he
    obtain ⟨m, hm, hme⟩ := List.mem_filterMap.1 he
    obtain ⟨x, hx, hxe⟩ := h m hm
    have hmem : e ∈ g.declared.filterMap (edgeOf? g.schema) :=
      List.mem_filterMap.2 ⟨x, hx, hxe ▸ hme⟩
    simpa using hmem
  simp only [edges, declare, List.filterMap_append, List.eraseDups_append, hnew, List.eraseDups_nil,
    List.append_nil]

/-- Where other ends declare what they lack, they lack nothing. -/
theorem missingInverses_declare (hnames : g.schema.givenNames.Nodup) :
    (g.declare g.missingInverses).missingInverses = [] := by
  refine missingInverses_eq_nil_iff.2 fun x hx m hm => List.mem_append.2 ?_
  rcases List.mem_append.1 hx with hx | hx
  · by_cases hdeclared : m ∈ g.declared
    · exact Or.inl hdeclared
    · exact Or.inr (mem_missingInverses_iff.2 ⟨hdeclared, x, hx, hm⟩)
  · -- what was lacking is the other end of what has been declared
    obtain ⟨-, y, hy, hyx⟩ := mem_missingInverses_iff.1 hx
    have hym : some y = some m := (inverseOf?_symm hnames hyx).symm.trans hm
    cases hym
    exact Or.inl hy

/-- **What other ends lack** in a graph of documents, where the names of relations and
    their inverses differ: what the other end of an edge would declare and does not, each
    once.  If it is declared as well, the edges are the same, and no end lacks
    anything. -/
theorem missingInverses_ofDocuments {schema : Schema} (hnames : schema.givenNames.Nodup)
    (recorded : Document → List FieldRef) (docs : List Document) :
    (∀ m, m ∈ (ofDocuments schema recorded docs).missingInverses ↔
      m ∉ (ofDocuments schema recorded docs).declared ∧
        ∃ x ∈ (ofDocuments schema recorded docs).declared,
          schema.Companion x.field m.field ∧ m.source = x.target ∧ m.target = x.source) ∧
    (ofDocuments schema recorded docs).missingInverses.Nodup ∧
    ((ofDocuments schema recorded docs).declare
      (ofDocuments schema recorded docs).missingInverses).edges =
        (ofDocuments schema recorded docs).edges ∧
    ((ofDocuments schema recorded docs).declare
      (ofDocuments schema recorded docs).missingInverses).missingInverses = [] := by
  have hschema : (ofDocuments schema recorded docs).schema = schema := rfl
  generalize ofDocuments schema recorded docs = g at hschema
  subst hschema
  refine ⟨fun m => ?_, nodup_eraseDups _, edges_declare fun m hm => ?_,
    missingInverses_declare hnames⟩
  · simp only [mem_missingInverses_iff, inverseOf?_eq_some_iff hnames]
  · obtain ⟨-, x, hx, hxm⟩ := mem_missingInverses_iff.1 hm
    exact ⟨x, hx, edgeOf?_eq_of_inverseOf? hnames hxm⟩

/-- Nodes with a relation that has an inverse, and one that has none. -/
def needNodes : List Schema.Node :=
  [⟨"relation", 1, [.text "needs"], [("inverse", .text "serves")], []⟩,
    ⟨"relation", 2, [.text "next"], [], []⟩,
    ⟨"ref-format", 3, [], [], [⟨"relative-path", 4, [], [("pattern", .text ".")], []⟩]⟩]

/-- The schema that they declare. -/
def needSchema : Schema :=
  { relations := [{ name := "needs", inverse := some "serves" }, { name := "next" }]
    rules := chainSchema.rules }

/-- A document that names another in a field. -/
def naming (path field target : String) : Document :=
  { path := some path
    raw := Utf8.ofString ("---\n" ++ field ++ ": " ++ target ++ "\n---\n")
    header := [(.text field, .text target)]
    hasHeader := true
    headerError := none
    bodyOffset := 12 + field.length
    body := Body.ofOctets [] }

/-- Two documents name each other, one names itself, and one names another in a relation
    without an inverse. -/
def needs : List Document :=
  [naming "a" "needs" "b", naming "b" "serves" "a", naming "c" "serves" "c", naming "d" "next" "a"]

/-- Of four documents, one does not declare the other end of an edge. -/
theorem missingInverses_of_needs :
    Schema.ofNodes needNodes = .ok needSchema ∧
      needs.mapM (fun d => Document.parse d.raw d.path) = .ok needs ∧
      needSchema.givenNames.Nodup ∧
      (ofDocuments needSchema (fun _ => []) needs).missingInverses = [⟨"c", "needs", "c"⟩] ∧
      ((ofDocuments needSchema (fun _ => []) needs).declare [⟨"c", "needs", "c"⟩]).missingInverses =
        [] := by
  have hnames : needSchema.givenNames.Nodup := by decide
  have hmissing : (ofDocuments needSchema (fun _ => []) needs).missingInverses =
      [⟨"c", "needs", "c"⟩] := by decide +kernel
  obtain ⟨-, -, -, hrepaired⟩ := missingInverses_ofDocuments hnames (fun _ => []) needs
  rw [hmissing] at hrepaired
  exact ⟨by decide +kernel, by decide +kernel, hnames, hmissing, hrepaired⟩

end Graph

end Folio
