/-
  Folio — what references point at.

  The form of a reference says how it is looked up: by a name, or by a path that is seen
  from the directory of the document that refers.  Either it points at a path of the
  working set, or there is one of three reasons why it does not
  (`Reference.Resolves`).

  * `Reference.resolves_resolve`: what looking a reference up can give;
  * `Reference.resolve_ofPaths`: references among the documents with some paths.
-/
import Folio.Proofs.Reference.WorkingSet
import Folio.Reference.Basic

namespace Folio

/-- **The form of a reference** is the first one declared whose pattern is found in it. -/
theorem Schema.rule?_eq_some_iff {s : Schema} {raw : String} {rule : Schema.RefRule} :
    s.rule? raw = some rule ↔ IsFirst (fun r => r.pattern.search raw = true) s.rules rule :=
  find?_eq_some_iff_isFirst fun _ => Iff.rfl

theorem Schema.rule?_eq_none_iff {s : Schema} {raw : String} :
    s.rule? raw = none ↔ ∀ rule ∈ s.rules, rule.pattern.search raw = false := by
  simp [Schema.rule?]

namespace Reference

/-- The normal form of a path, seen from the directory of a document; from that of none
    it is seen as it is. -/
def seenFrom (source : Option String) (path : String) : String :=
  Path.normalized (Path.join ((source.map Path.directory).getD "") path)

/-- What a reference in a document gives when it is looked up. -/
inductive Resolves (s : Schema) (w : WorkingSet) (source : Option String) (raw : String) :
    Reference → Prop
  | noForm : s.rule? raw = none → Resolves s w source raw ⟨raw, none, .error .noForm⟩
  | named {rule path} : s.rule? raw = some rule → rule.strategy = .byName →
      w.named? raw = some path → Resolves s w source raw ⟨raw, some rule, .ok path⟩
  | noName {rule} : s.rule? raw = some rule → rule.strategy = .byName →
      w.named? raw = none → Resolves s w source raw ⟨raw, some rule, .error .noName⟩
  | found {rule} : s.rule? raw = some rule → rule.strategy = .byPath →
      seenFrom source raw ∈ w.paths →
      Resolves s w source raw ⟨raw, some rule, .ok (seenFrom source raw)⟩
  | noPath {rule} : s.rule? raw = some rule → rule.strategy = .byPath →
      seenFrom source raw ∉ w.paths → Resolves s w source raw ⟨raw, some rule, .error .noPath⟩

section
variable {s : Schema} {w : WorkingSet} {source : Option String} {raw : String}

theorem resolves_resolve : Resolves s w source raw (resolve s w source raw) := by
  unfold resolve
  split
  · next hrule => exact .noForm hrule
  · next rule hrule =>
    split
    · next hname =>
      cases hnamed : w.named? raw with
      | none => exact .noName hrule hname hnamed
      | some path => exact .named hrule hname hnamed
    · next hpath =>
      have hseen : w.has (seenFrom source raw) = true ↔ seenFrom source raw ∈ w.paths := by
        rw [WorkingSet.has_iff, seenFrom, Path.normalized_normalized]
      dsimp only
      split
      · next hhas => exact .found hrule hpath (hseen.1 hhas)
      · next hhas => exact .noPath hrule hpath (mt hseen.2 hhas)

/-- **A reference points at a path of the working set.** -/
theorem mem_paths_of_target? {path : String} (h : (resolve s w source raw).target? = some path) :
    path ∈ w.paths := by
  have hresolves : Resolves s w source raw (resolve s w source raw) := resolves_resolve
  generalize resolve s w source raw = r at h hresolves
  cases hresolves with
  | noForm | noName | noPath => cases h
  | named _ _ hnamed =>
    cases h
    rw [WorkingSet.named?_eq] at hnamed
    exact List.mem_of_find?_eq_some hnamed
  | found _ _ hmem =>
    cases h
    exact hmem

/-- A reference that has been looked up has a target among the documents or a code, not
    both; the form that it has is the first that fits; and the code tells why there is no
    target. -/
structure IsSettled (s : Schema) (w : WorkingSet) (source : Option String) (raw : String)
    (r : Reference) : Prop where
  target_or_code : (∃ path ∈ w.paths, r.target? = some path ∧ r.fault?.map RefFault.code = none) ∨
    (r.target? = none ∧ ∃ code, r.fault?.map RefFault.code = some code)
  rule_iff : ∀ rule, r.rule = some rule ↔
    IsFirst (fun q => q.pattern.search raw = true) s.rules rule
  noForm_iff : r.fault?.map RefFault.code = some "R001" ↔
    ∀ rule ∈ s.rules, rule.pattern.search raw = false
  noName_iff : r.fault?.map RefFault.code = some "R011" ↔
    ∃ rule, r.rule = some rule ∧ rule.strategy = .byName ∧ w.named? raw = none
  noPath_iff : r.fault?.map RefFault.code = some "R010" ↔
    ∃ rule, r.rule = some rule ∧ rule.strategy = .byPath ∧ seenFrom source raw ∉ w.paths

theorem Resolves.isSettled {r : Reference} (h : Resolves s w source raw r) :
    IsSettled s w source raw r := by
  have hfirst : r.rule = s.rule? raw := by
    cases h with
    | noForm hrule | named hrule | noName hrule | found hrule | noPath hrule => exact hrule.symm
  have hrule : ∀ rule, r.rule = some rule ↔
      IsFirst (fun q => q.pattern.search raw = true) s.rules rule := fun rule => by
    rw [hfirst, Schema.rule?_eq_some_iff]
  have hnone : r.rule = none ↔ ∀ rule ∈ s.rules, rule.pattern.search raw = false := by
    rw [hfirst, Schema.rule?_eq_none_iff]
  cases h with
  | noForm h =>
    refine ⟨Or.inr ⟨rfl, _, rfl⟩, hrule, ?_, ?_, ?_⟩
    · simpa [fault?, RefFault.code] using hnone
    · simp [fault?, RefFault.code]
    · simp [fault?, RefFault.code]
  | named h hname hnamed =>
    have hmem := List.mem_of_find?_eq_some ((WorkingSet.named?_eq w raw).symm.trans hnamed)
    refine ⟨Or.inl ⟨_, hmem, rfl, rfl⟩, hrule, ?_, ?_, ?_⟩
    · simpa [fault?] using hnone
    · simp [fault?, hnamed]
    · simp [fault?, hname]
  | noName h hname hnamed =>
    refine ⟨Or.inr ⟨rfl, _, rfl⟩, hrule, ?_, ?_, ?_⟩
    · simpa [fault?, RefFault.code] using hnone
    · simp [fault?, RefFault.code, hname, hnamed]
    · simp [fault?, RefFault.code, hname]
  | found h hpath hmem =>
    refine ⟨Or.inl ⟨_, hmem, rfl, rfl⟩, hrule, ?_, ?_, ?_⟩
    · simpa [fault?] using hnone
    · simp [fault?, hpath]
    · simp [fault?, hmem]
  | noPath h hpath hmem =>
    refine ⟨Or.inr ⟨rfl, _, rfl⟩, hrule, ?_, ?_, ?_⟩
    · simpa [fault?, RefFault.code] using hnone
    · simp [fault?, RefFault.code, hpath]
    · simp [fault?, RefFault.code, hpath, hmem]

end

/-- **References among the documents with some paths.**  The working set has the normal
    forms of the paths, each once and in the order in which they first occur, and none of
    them is empty.  A name stands for the first of them that it fits, if there is one.
    And a reference, whatever its text and wherever it is met, has a target among these
    paths or the code of a reason, by the first form that fits it. -/
theorem resolve_ofPaths (ps : List String) :
    ((∀ path, path ∈ (WorkingSet.ofPaths ps).paths ↔ ∃ p ∈ ps, Path.normalized p = path) ∧
      (WorkingSet.ofPaths ps).paths.Pairwise (fun p q =>
        (ps.map Path.normalized).idxOf p < (ps.map Path.normalized).idxOf q) ∧
      "" ∉ (WorkingSet.ofPaths ps).paths) ∧
    (∀ key,
      (∀ path, (WorkingSet.ofPaths ps).named? key = some path ↔
        IsFirst (fun p => Path.nameOf p = Text.upper key.toList ∨
          Path.idOf p = Text.upper key.toList) (WorkingSet.ofPaths ps).paths path) ∧
      ((WorkingSet.ofPaths ps).named? key = none ↔
        ∀ p ∈ (WorkingSet.ofPaths ps).paths, ¬ (Path.nameOf p = Text.upper key.toList ∨
          Path.idOf p = Text.upper key.toList))) ∧
    ∀ s source raw, IsSettled s (.ofPaths ps) source raw (resolve s (.ofPaths ps) source raw) := by
  have hempty : "" ∉ (WorkingSet.ofPaths ps).paths := by
    intro h
    obtain ⟨p, -, hp⟩ := WorkingSet.mem_paths_ofPaths.1 h
    exact Path.write_ne_empty _ _ hp
  exact ⟨⟨fun _ => WorkingSet.mem_paths_ofPaths, WorkingSet.pairwise_idxOf_ofPaths ps, hempty⟩,
    fun key => ⟨fun _ => WorkingSet.named?_eq_some_iff_isFirst, WorkingSet.named?_eq_none_iff⟩,
    fun _ _ _ => resolves_resolve.isSettled⟩

end Reference

end Folio
