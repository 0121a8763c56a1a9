/-
  Folio — what a node of a schema source declares.

  Each thing that a schema holds is declared by a node: its values stand under keys
  of the node, or are those for keys that are not there (`Node.value`).  Not all
  that can be declared is sound; a node makes a thing exactly if it declares it and
  the thing is sound.

  * `Field.ofNode_eq_ok_iff`, `Column.ofNode_eq_ok_iff`, `TableRule.ofNode_eq_ok_iff`,
    `Relation.ofNode_eq_ok_iff`, `RefRule.ofNode_eq_ok_iff`: what nodes make.
-/
import Mathlib
import Folio.Proofs.Outcome
import Folio.Schema.Compile

namespace Folio.Schema

/-! ## Steps that succeed -/

/-- What a check lets through. -/
theorem guard_eq_ok_iff {α : Type} {c : Prop} [Decidable c] {n : Node} {problem : SchemaProblem}
    {x : Except SchemaError α} {a : α} :
    (if c then n.fail problem >>= fun _ : PUnit => x else x) = .ok a ↔ ¬c ∧ x = .ok a := by
  split
  · next hc => simp [Node.fail, bind, Except.bind, hc]
  · next hc => simp [hc]

/-! ## Values under keys -/

/-- A text, or nothing, as a value. -/
def Scalar.ofText? : Option String → Scalar
  | none => .null
  | some s => .text s

/-- A number of things, or nothing, as a value. -/
def Scalar.ofCount? : Option Nat → Scalar
  | none => .null
  | some k => .int k

/-- The text of a value, if it is one. -/
def Scalar.shown? : Scalar → Option String
  | .null => none
  | v => some v.plainText

namespace Node

/-- The value under a key, or the one for a key that is not there. -/
def value (n : Node) (key : String) (absent : Scalar) : Scalar := (n.props.lookup key).getD absent

/-- The nodes with a name. -/
def withName (name : String) (ns : List Node) : List Node := ns.filter (·.name == name)

/-- Is the node of this kind?  Without a kind it is one of texts. -/
def IsOfKind (n : Node) (k : Kind) : Prop :=
  ∃ s, n.value "type" (.text "string") = .text s ∧ Kind.ofName? s = some k

/-- Has the node this pattern, or none? -/
def HasPattern (n : Node) (pattern : Option Pattern) : Prop :=
  n.value "pattern" .null = .ofText? (pattern.map (·.text)) ∧
    ∀ p ∈ pattern, Pattern.ofString p.text = .ok p

/-- Induction over the nodes inside of nodes. -/
@[elab_as_elim]
theorem inside_induction {P : Node → Prop} (h : ∀ n : Node, (∀ m ∈ n.children, P m) → P n)
    (n : Node) : P n :=
  h n fun m _hm => inside_induction h m
termination_by n
decreasing_by
  obtain ⟨name, line, args, props, children⟩ := n
  have := List.sizeOf_lt_of_mem _hm
  simp only [mk.sizeOf_spec] at *
  omega

theorem IsOfKind.eq {n : Node} {k l : Kind} (hk : n.IsOfKind k) (hl : n.IsOfKind l) : k = l := by
  obtain ⟨s, hs, hk⟩ := hk
  obtain ⟨t, ht, hl⟩ := hl
  rw [hs] at ht
  cases ht
  exact Option.some.inj (hk.symm.trans hl)

section
variable {n m : Node} {name : String} {ns : List Node}

theorem mem_withName : n ∈ withName name ns ↔ n ∈ ns ∧ n.name = name := by
  rw [withName, List.mem_filter, beq_iff_eq]

theorem withName_cons_of_eq (h : n.name = name) :
    withName name (n :: ns) = n :: withName name ns :=
  List.filter_cons_of_pos (by rw [h, beq_self_eq_true])

theorem withName_cons_of_ne (h : n.name ≠ name) : withName name (n :: ns) = withName name ns :=
  List.filter_cons_of_neg (by rw [beq_iff_eq]; exact h)

end

section
variable {n : Node} {key : String}

theorem declared_eq_ok_iff {what s : String} :
    n.declared what = .ok s ↔ n.args.head? = some (.text s) := by
  obtain ⟨name, line, args, props, children⟩ := n
  unfold declared
  cases args with
  | nil => simp [fail]
  | cons v args => cases v <;> simp [fail]

theorem text?_eq_ok_iff {t : Option String} :
    n.text? key = .ok t ↔ n.value key .null = .ofText? t := by
  unfold text? value
  cases n.props.lookup key with
  | none => cases t <;> simp [Scalar.ofText?]
  | some v => cases v <;> cases t <;> simp [Scalar.ofText?, fail]

theorem textOr_eq_ok_iff {absent : String} {t : Option String} :
    n.textOr key (some absent) = .ok t ↔ n.value key (.text absent) = .ofText? t := by
  unfold textOr
  cases h : n.props.lookup key with
  | none => cases t <;> simp [value, h, Scalar.ofText?]
  | some v =>
    refine text?_eq_ok_iff.trans ?_
    simp [value, h]

theorem bool_eq_ok_iff {absent b : Bool} :
    n.bool key absent = .ok b ↔ n.value key (.bool absent) = .bool b := by
  unfold bool value
  cases n.props.lookup key with
  | none => simp
  | some v => cases v <;> simp [fail]

theorem count?_eq_ok_iff {k : Option Nat} :
    n.count? key = .ok k ↔ n.value key .null = .ofCount? k := by
  unfold count? value
  cases n.props.lookup key with
  | none => cases k <;> simp [Scalar.ofCount?]
  | some v =>
    cases v with
    | int i =>
      by_cases hi : 0 ≤ i
      · obtain ⟨j, rfl⟩ := Int.eq_ofNat_of_zero_le hi
        cases k <;> simp [Scalar.ofCount?]
      · cases k with
        | none => simp [Scalar.ofCount?, fail, hi]
        | some k =>
          have : i ≠ k := fun h => hi (h ▸ Int.natCast_nonneg k)
          simp [Scalar.ofCount?, fail, hi, this]
    | _ => cases k <;> simp [Scalar.ofCount?, fail]

theorem kind_eq_ok_iff {allowed : Kind → Bool} {k : Kind} :
    n.kind allowed = .ok k ↔ n.IsOfKind k ∧ allowed k = true := by
  unfold kind IsOfKind
  simp only [bind_eq_ok_iff, textOr_eq_ok_iff]
  constructor
  · rintro ⟨t, ht, h⟩
    split at h
    · next l hl =>
      split at h
      · next ha =>
        cases h
        obtain ⟨s, rfl, hs⟩ := Option.bind_eq_some_iff.1 hl
        exact ⟨⟨s, ht, hs⟩, ha⟩
      · cases h
    · cases h
  · rintro ⟨⟨s, hs, hk⟩, ha⟩
    exact ⟨some s, hs, by simp [hk, ha, pure, Except.pure]⟩

theorem patternOf_eq_ok_iff {text : String} {p : Pattern} :
    n.patternOf text = .ok p ↔ Pattern.ofString text = .ok p := by
  unfold patternOf
  cases Pattern.ofString text with
  | ok q => simp
  | error e => cases e <;> simp [fail]

theorem text_of_ofString {text : String} {p : Pattern} (h : Pattern.ofString text = .ok p) :
    p.text = text := by
  unfold Pattern.ofString at h
  split at h
  · cases h; rfl
  · cases h

theorem pattern?_eq_ok_iff {text : Option String} {p : Option Pattern} :
    n.pattern? text = .ok p ↔ text = p.map (·.text) ∧ ∀ q ∈ p, Pattern.ofString q.text = .ok q := by
  cases text with
  | none => cases p <;> simp [pattern?]
  | some text =>
    have hmap : n.pattern? (some text) = .ok p ↔ ∃ q, n.patternOf text = .ok q ∧ some q = p := by
      cases h : n.patternOf text <;> simp [pattern?, h, Except.map]
    rw [hmap]
    simp only [patternOf_eq_ok_iff]
    constructor
    · rintro ⟨q, hq, rfl⟩
      have ht := text_of_ofString hq
      exact ⟨by rw [Option.map_some, ht], fun r hr => by cases hr; rw [ht]; exact hq⟩
    · rintro ⟨ht, hp⟩
      obtain ⟨q, rfl, ht⟩ := Option.map_eq_some_iff.1 ht.symm
      cases ht
      exact ⟨q, hp q rfl, rfl⟩

/-- A pattern that is read as a text first. -/
theorem hasPattern_iff {p : Option Pattern} : n.HasPattern p ↔
    ∃ text, n.text? "pattern" = .ok text ∧ n.pattern? text = .ok p := by
  simp only [text?_eq_ok_iff, pattern?_eq_ok_iff]
  constructor
  · rintro ⟨hv, hp⟩
    exact ⟨_, hv, rfl, hp⟩
  · rintro ⟨_, hv, rfl, hp⟩
    exact ⟨hv, hp⟩

end

end Node

/-! ## Fields -/

/-- The node declares the field. -/
structure Field.DeclaredBy (n : Node) (f : Field) : Prop where
  name : n.args.head? = some (.text f.name)
  kind : n.IsOfKind f.kind
  required : n.value "required" (.bool false) = .bool f.required
  pattern : n.HasPattern f.pattern
  choices : f.choices = if f.kind = .choice then choicesOf n else []
  description : n.value "description" .null = .ofText? f.description
  default : f.default = (n.value "default" .null).shown?
  relation : f.relation = none
  inverse : f.inverse = false

/-- A choice has values to choose from and no other field has any; only texts that
    are not listed have to match a pattern. -/
structure Field.Sound (f : Field) : Prop where
  choices : f.choices ≠ [] ↔ f.kind = .choice
  pattern : f.pattern ≠ none → f.kind ≠ .number ∧ f.kind ≠ .bool ∧ f.kind ≠ .choice

theorem Kind.takesPattern_iff {k : Kind} :
    k.takesPattern = true ↔ k ≠ .number ∧ k ≠ .bool ∧ k ≠ .choice := by
  cases k <;> decide

theorem Kind.fitsCells_iff {k : Kind} :
    k.fitsCells = true ↔ k ∈ [Kind.text, .number, .bool, .ref, .user] := by
  cases k <;> decide

/-- A pattern stands where it may. -/
theorem pointless_iff {α : Type} {p : Option α} {k : Kind} :
    ¬(p.isSome && !k.takesPattern) = true ↔
      (p ≠ none → k ≠ .number ∧ k ≠ .bool ∧ k ≠ .choice) := by
  rw [← Kind.takesPattern_iff]
  cases p <;> simp

/-- **What field a node makes.** -/
theorem Field.ofNode_eq_ok_iff {n : Node} {f : Field} :
    Field.ofNode n = .ok f ↔ f.DeclaredBy n ∧ f.Sound := by
  unfold Field.ofNode
  simp only [bind_eq_ok_iff, guard_eq_ok_iff, pure_eq_ok_iff, Node.declared_eq_ok_iff,
    Node.kind_eq_ok_iff, Node.bool_eq_ok_iff, pointless_iff, and_true]
  constructor
  · rintro ⟨name, hname, kind, hkind, text, htext, hpattern, hchoices, required, hrequired, p, hp,
      description, hdescription, rfl⟩
    have htext' := (Node.pattern?_eq_ok_iff.1 hp).1
    refine ⟨⟨hname, hkind, hrequired, Node.hasPattern_iff.2 ⟨text, htext, hp⟩, rfl,
      Node.text?_eq_ok_iff.1 hdescription, ?_, rfl, rfl⟩, ?_, fun h => hpattern ?_⟩
    · unfold Node.value
      cases n.props.lookup "default" with
      | none => rfl
      | some v => cases v <;> rfl
    · by_cases hk : kind = .choice
      · simpa [hk] using hchoices
      · simp [hk]
    · rw [htext']
      simpa using h
  · rintro ⟨hd, hs⟩
    obtain ⟨text, htext, hp⟩ := Node.hasPattern_iff.1 hd.pattern
    refine ⟨f.name, hd.name, f.kind, hd.kind, text, htext, fun h => hs.pattern ?_, ?_, f.required,
      hd.required, f.pattern, hp, f.description, Node.text?_eq_ok_iff.2 hd.description, ?_⟩
    · rw [(Node.pattern?_eq_ok_iff.1 hp).1] at h
      simpa using h
    · rintro ⟨hk, hnone⟩
      exact hs.choices.2 hk (hd.choices.trans hnone)
    · cases f
      rw [Field.mk.injEq]
      refine ⟨rfl, rfl, rfl, rfl, hd.choices.symm, rfl, .trans ?_ hd.default.symm,
        hd.relation.symm, hd.inverse.symm⟩
      unfold Node.value
      cases n.props.lookup "default" with
      | none => rfl
      | some v => cases v <;> rfl

/-! ## Tables -/

/-- The node declares the column. -/
structure Column.DeclaredBy (n : Node) (c : Column) : Prop where
  node : n.name = "column"
  name : n.args.head? = some (.text c.name)
  kind : n.IsOfKind c.kind
  required : n.value "required" (.bool false) = .bool c.required
  pattern : n.HasPattern c.pattern
  description : n.value "description" .null = .ofText? c.description

/-- A column has a kind that fits cells, and a pattern only if they are texts. -/
structure Column.Sound (c : Column) : Prop where
  kind : c.kind ∈ [Kind.text, .number, .bool, .ref, .user]
  pattern : c.pattern ≠ none → c.kind ≠ .number ∧ c.kind ≠ .bool ∧ c.kind ≠ .choice

/-- The node declares the table. -/
structure TableRule.DeclaredBy (n : Node) (t : TableRule) : Prop where
  required : n.value "required" (.bool false) = .bool t.required
  description : n.value "description" .null = .ofText? t.description
  columns : List.Forall₂ Column.DeclaredBy n.children t.columns

/-- No two columns of a table have one name, and all are sound. -/
structure TableRule.Sound (t : TableRule) : Prop where
  names : (t.columns.map (·.name)).Nodup
  columns : ∀ c ∈ t.columns, c.Sound

/-- **What column a node makes** after columns of these names. -/
theorem Column.ofNode_eq_ok_iff {before : List String} {n : Node} {c : Column} :
    Column.ofNode before n = .ok c ↔ c.DeclaredBy n ∧ c.Sound ∧ c.name ∉ before := by
  unfold Column.ofNode
  simp only [bind_eq_ok_iff, guard_eq_ok_iff, pure_eq_ok_iff, Node.declared_eq_ok_iff,
    Node.kind_eq_ok_iff, Node.bool_eq_ok_iff, pointless_iff, Kind.fitsCells_iff, not_not, ne_eq,
    List.contains_iff_mem]
  constructor
  · rintro ⟨hnode, name, hname, hnew, text, htext, kind, ⟨hkind, hfits⟩, hpattern, required,
      hrequired, p, hp, description, hdescription, rfl⟩
    refine ⟨⟨hnode, hname, hkind, hrequired, Node.hasPattern_iff.2 ⟨text, htext, hp⟩,
      Node.text?_eq_ok_iff.1 hdescription⟩, ⟨hfits, fun h => hpattern ?_⟩, hnew⟩
    rw [(Node.pattern?_eq_ok_iff.1 hp).1]
    simpa using h
  · rintro ⟨⟨hnode, hname, hkind, hrequired, hpattern, hdescription⟩, hs, hnew⟩
    obtain ⟨text, htext, hp⟩ := Node.hasPattern_iff.1 hpattern
    refine ⟨hnode, c.name, hname, hnew, text, htext, c.kind, ⟨hkind, hs.kind⟩,
      fun h => hs.pattern ?_, c.required, hrequired, c.pattern, hp, c.description,
      Node.text?_eq_ok_iff.2 hdescription, rfl⟩
    rw [(Node.pattern?_eq_ok_iff.1 hp).1] at h
    simpa using h

/-- What columns nodes add to a table. -/
theorem TableRule.foldlM_add_eq_ok_iff {ns : List Node} {t t' : TableRule} (h : t.Sound) :
    ns.foldlM TableRule.add t = .ok t' ↔ ∃ cs, List.Forall₂ Column.DeclaredBy ns cs ∧
      t' = { t with columns := t.columns ++ cs } ∧ t'.Sound := by
  induction ns generalizing t with
  | nil =>
    simp only [List.foldlM_nil, pure_eq_ok_iff, List.forall₂_nil_left_iff, exists_eq_left,
      List.append_nil]
    exact ⟨fun e => e ▸ ⟨rfl, h⟩, fun e => e.1.symm⟩
  | cons n ns ih =>
    simp only [List.foldlM_cons, bind_eq_ok_iff, TableRule.add, pure_eq_ok_iff,
      Column.ofNode_eq_ok_iff, List.forall₂_cons_left_iff]
    constructor
    · rintro ⟨_, ⟨c, ⟨hd, hs, hnew⟩, rfl⟩, hrest⟩
      have hadd : TableRule.Sound { t with columns := t.columns ++ [c] } := by
        refine ⟨?_, fun d hc => ?_⟩
        · rw [List.map_append, List.nodup_append]
          exact ⟨h.names, List.nodup_singleton _, fun a ha b hb e => hnew (by
            rw [List.map_singleton, List.mem_singleton] at hb
            exact hb ▸ e ▸ ha)⟩
        · rcases List.mem_append.1 hc with hc | hc
          · exact h.columns d hc
          · rw [List.mem_singleton.1 hc]; exact hs
      obtain ⟨cs, hcs, rfl, hsound⟩ := (ih hadd).1 hrest
      exact ⟨c :: cs, ⟨c, cs, hd, hcs, rfl⟩, by simp, hsound⟩
    · rintro ⟨_, ⟨c, cs, hd, hcs, rfl⟩, rfl, hsound⟩
      have hcut := List.append_cons t.columns c cs
      obtain ⟨hnodup, hall⟩ := hcut ▸ hsound
      rw [List.map_append, List.nodup_append] at hnodup
      have hadd : TableRule.Sound { t with columns := t.columns ++ [c] } :=
        ⟨hnodup.1, fun d hc => hall d (List.mem_append_left _ hc)⟩
      refine ⟨_, ⟨c, ⟨hd, hadd.columns c (by simp), fun hc => ?_⟩, rfl⟩,
        (ih hadd).2 ⟨cs, hcs, by rw [hcut], hsound⟩⟩
      have hnames := hadd.names
      rw [List.map_append, List.nodup_append] at hnames
      exact hnames.2.2 _ hc c.name (by simp) rfl

/-- **What table a node makes.** -/
theorem TableRule.ofNode_eq_ok_iff {n : Node} {t : TableRule} :
    TableRule.ofNode n = .ok t ↔ t.DeclaredBy n ∧ t.Sound := by
  unfold TableRule.ofNode
  simp only [bind_eq_ok_iff, Node.bool_eq_ok_iff, Node.text?_eq_ok_iff]
  constructor
  · rintro ⟨required, hrequired, description, hdescription, hcolumns⟩
    have hempty : TableRule.Sound { required, description } := ⟨List.nodup_nil, by simp⟩
    obtain ⟨cs, hcs, rfl, hsound⟩ := (foldlM_add_eq_ok_iff hempty).1 hcolumns
    exact ⟨⟨hrequired, hdescription, hcs⟩, hsound⟩
  · rintro ⟨⟨hrequired, hdescription, hcs⟩, hsound⟩
    have hempty : TableRule.Sound { required := t.required, description := t.description } :=
      ⟨List.nodup_nil, by simp⟩
    exact ⟨_, hrequired, _, hdescription,
      (foldlM_add_eq_ok_iff hempty).2 ⟨t.columns, hcs, rfl, hsound⟩⟩

/-! ## Relations and references -/

/-- The node declares the relation. -/
structure Relation.DeclaredBy (n : Node) (r : Relation) : Prop where
  name : n.args.head? = some (.text r.name)
  cardinality : n.value "cardinality" (.text "many") = .text (if r.many then "many" else "one")
  inverse : n.value "inverse" .null = .ofText? r.inverse
  description : n.value "description" .null = .ofText? r.description
  acyclic : n.value "acyclic" (.bool false) = .bool r.acyclic

/-- The node declares the form of references. -/
structure RefRule.DeclaredBy (n : Node) (r : RefRule) : Prop where
  name : r.name = n.name
  strategy : n.value "strategy" (.text n.name) = .text r.strategy.name
  pattern : n.HasPattern (some r.pattern)

/-- What goes on when a relation is for one or for many. -/
theorem many_eq_ok_iff {α : Type} {n : Node} {problem : SchemaProblem} {cardinality : Option String}
    {f : Bool → Except SchemaError α} {a : α} :
    (if cardinality = some "one" then (pure false : Except SchemaError Bool) >>= f
      else if cardinality = some "many" then (pure true : Except SchemaError Bool) >>= f
      else n.fail problem >>= f) = .ok a ↔
    ∃ many : Bool, cardinality = some (if many then "many" else "one") ∧ f many = .ok a := by
  by_cases hone : cardinality = some "one"
  · simp [hone]
  · by_cases hmany : cardinality = some "many"
    · simp [hmany]
    · simp [hone, hmany, Node.fail, bind, Except.bind]

/-- **What relation a node makes.** -/
theorem Relation.ofNode_eq_ok_iff {n : Node} {r : Relation} :
    Relation.ofNode n = .ok r ↔ r.DeclaredBy n := by
  unfold Relation.ofNode
  simp only [bind_eq_ok_iff, many_eq_ok_iff, pure_eq_ok_iff,
    Node.declared_eq_ok_iff, Node.textOr_eq_ok_iff, Node.text?_eq_ok_iff, Node.bool_eq_ok_iff]
  constructor
  · rintro ⟨name, hname, cardinality, hcardinality, many, rfl, inverse, hinverse, description,
      hdescription, acyclic, hacyclic, rfl⟩
    exact ⟨hname, hcardinality, hinverse, hdescription, hacyclic⟩
  · rintro ⟨hname, hcardinality, hinverse, hdescription, hacyclic⟩
    exact ⟨r.name, hname, some _, hcardinality, r.many, rfl, r.inverse, hinverse, r.description,
      hdescription, r.acyclic, hacyclic, rfl⟩

theorem Strategy.ofName?_eq_some_iff {s : String} {strategy : Strategy} :
    Strategy.ofName? s = some strategy ↔ s = strategy.name := by
  constructor
  · intro h
    unfold ofName? at h
    split at h <;> cases h <;> rfl
  · rintro rfl
    cases strategy <;> rfl

/-- **What form of references a node makes.** -/
theorem RefRule.ofNode_eq_ok_iff {n : Node} {r : RefRule} :
    RefRule.ofNode n = .ok r ↔ r.DeclaredBy n := by
  unfold RefRule.ofNode
  simp only [bind_eq_ok_iff]
  constructor
  · rintro ⟨text, htext, h⟩
    cases text with
    | none => cases h
    | some text =>
      simp only [bind_eq_ok_iff, Node.textOr_eq_ok_iff] at h
      obtain ⟨s, hs, h⟩ := h
      split at h
      · cases h
      · next strategy hstrategy =>
        obtain ⟨p, hp, h⟩ := bind_eq_ok_iff.1 h
        cases h
        obtain ⟨s, rfl, hname⟩ := Option.bind_eq_some_iff.1 hstrategy
        have hp := Node.patternOf_eq_ok_iff.1 hp
        refine ⟨rfl, ?_, Node.hasPattern_iff.2 ⟨some text, htext, ?_⟩⟩
        · rw [hs, Strategy.ofName?_eq_some_iff.1 hname]; rfl
        · rw [Node.pattern?_eq_ok_iff, Option.map_some, Node.text_of_ofString hp]
          refine ⟨rfl, fun q hq => ?_⟩
          cases hq
          rw [Node.text_of_ofString hp]; exact hp
  · obtain ⟨name, strategy, p⟩ := r
    rintro ⟨rfl, hstrategy, hpattern⟩
    refine ⟨some p.text, Node.text?_eq_ok_iff.2 hpattern.1, ?_⟩
    simp only [bind_eq_ok_iff, Node.textOr_eq_ok_iff]
    refine ⟨some strategy.name, hstrategy, ?_⟩
    rw [Option.bind_some, Strategy.ofName?_eq_some_iff.2 rfl]
    exact bind_eq_ok_iff.2 ⟨p, Node.patternOf_eq_ok_iff.2 (hpattern.2 p rfl), rfl⟩

end Folio.Schema
