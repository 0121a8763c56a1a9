/-
  Folio — keys that are given twice.

  A reader that refuses keys that are given twice looks at the keys of a mapping before
  anything is merged: it builds each key that is a scalar by itself.  So it refuses signs
  too, for which no value is known: the merge sign, and the value sign.  Apart from keys it
  builds what a lenient reader does.  It is such a reader that headers are read by.

  * `Node.TellsKeys`, `Node.Confuses`: keys that tell entries apart, and nodes for which
    some do not;
  * `Build.tellsKeys_of_faults_eq_nil`, `Build.confuses_of_mem_faults`: what comes up when
    keys are looked at first;
  * `decode_rules`: a text that a lenient reader reads;
  * `Header.decode_as_lenient`: the headers that a lenient reader reads, and those with a
    key that is given twice;
  * `Header.decode_merge_sign`: a header in which a mapping is merged.
-/
import Folio.Document.Header
import Folio.Proofs.Yaml.Parts

namespace Folio.Yaml

/-- The choices of a reader that takes any keys. -/
def lenient : Rules := { timestamps := false, uniqueKeys := false }

namespace Build

/-! ## Scalars as keys -/

/-- Two builds agree: they have one value, and both are sound or none is. -/
structure Agree (b b' : Built Value) : Prop where
  value : b.value = b'.value
  faults : b.faults = [] ↔ b'.faults = []

theorem Agree.eq_sound {b b' : Built Value} (h : Agree b b') (hb : b.faults = []) :
    b' = .sound b.value := by
  obtain ⟨v, fs⟩ := b'
  obtain ⟨hv, hfaults⟩ := h
  cases hv
  cases hfaults.1 hb
  rfl

section
variable {r q : Rules} {fuel fuel' i j : Nat} {l : Label} {m : Mark} {t : Tag} {cs : List Char}

theorem scalarText_scalar : scalarText fuel (.scalar l m t cs) = .ok cs := by
  cases fuel <;> rfl

theorem agree_ofExcept {default : Value} {x : Except Error Value} :
    Agree (.ofExcept i default x) (.ofExcept j default x) := by
  cases x <;> exact ⟨rfl, by simp [Built.ofExcept]⟩

theorem agree_scalar {α : Type} {convert : List Char → Except Error α} {wrap : α → Value} :
    Agree (scalar fuel i (.scalar l m t cs) convert wrap)
      (scalar fuel' j (.scalar l m t cs) convert wrap) := by
  rw [scalar, scalarText_scalar, scalar, scalarText_scalar]
  exact agree_ofExcept

/-- A scalar is built the same by all readers, at any depth. -/
theorem agree_value_scalar : Agree (value r (fuel + 2) i (.scalar l m t cs))
    (value q (fuel' + 2) j (.scalar l m t cs)) := by
  cases t with
  | null | bool | int | float | str | binary | timestamp =>
    rw [value.eq_def, value.eq_def q]
    exact agree_scalar
  | merge | value | other =>
    rw [value.eq_def, value.eq_def q]
    exact ⟨rfl, iff_of_false (List.cons_ne_nil _ _) (List.cons_ne_nil _ _)⟩
  | seq =>
    rw [value_of_seq rfl, value_of_seq rfl, sequence.eq_def, sequence.eq_def q]
    exact ⟨rfl, by simp⟩
  | map =>
    rw [value_of_map rfl, value_of_map rfl, entries.eq_def, entries.eq_def q]
    exact ⟨rfl, by simp⟩
  | set =>
    rw [value_of_set rfl, value_of_set rfl, entries.eq_def, entries.eq_def q]
    exact ⟨rfl, by simp⟩
  | orderedMap =>
    rw [value_of_orderedMap rfl, value_of_orderedMap rfl, pairs.eq_def, pairs.eq_def q]
    exact ⟨rfl, by simp⟩
  | pairs =>
    rw [value_of_pairs rfl, value_of_pairs rfl, pairs.eq_def, pairs.eq_def q]
    exact ⟨rfl, by simp⟩

end

end Build

/-! ## Keys that tell entries apart -/

namespace Node

/-- What the node is built into by itself. -/
def built (n : Node) : Built Value := Build.value lenient (2 * n.height + 1) 0 n

/-- No two keys that are scalars are built into values that are equal. -/
def KeysDiffer (m : Node) : Prop :=
  (scalarKeys m.entries).Pairwise fun j k =>
    ∀ v w, j.built = .sound v → k.built = .sound w → v.same w = false

/-- A key that is a scalar is built into a value that a key before it is built into. -/
def Repeats (m : Node) (w : Value) : Prop :=
  ∃ (before : List Node) (k : Node) (after : List Node),
    scalarKeys m.entries = before ++ k :: after ∧ k.built = .sound w ∧
    ∃ d ∈ before, ∃ v : Value, d.built = .sound v ∧ v.same w = true

/-- The keys that are scalars are no signs, and no two of them are equal. -/
structure TellsKeys (m : Node) : Prop where
  signs : ∀ k ∈ scalarKeys m.entries, ¬k.IsSign
  differ : m.KeysDiffer

/-- A node is met that has keys which do not tell its entries apart. -/
def Confuses (n : Node) : Prop := ∃ m, n.Meets m ∧ m.IsMap ∧ ¬m.TellsKeys

/-- A node is met in which a key is given for the second time that has no text: an integer
    with too many digits. -/
def RepeatsUnshown (n : Node) : Prop :=
  ∃ m w, n.Meets m ∧ m.IsMap ∧ m.Repeats w ∧ w.isWritable = false

/-- An error of keys is a misfit only if it cannot show a key that is given twice. -/
def Blames (n : Node) (e : Error) : Prop :=
  ∀ misfit, e = .misfit misfit → misfit = .number .longText ∧ n.RepeatsUnshown

theorem Confuses.of_builtFor {c n : Node} (hc : c.BuiltFor n) (h : c.Confuses) : n.Confuses := by
  obtain ⟨m, hm, ht, hkeys⟩ := h
  exact ⟨m, .head hc hm, ht, hkeys⟩

theorem Blames.of_builtFor {c n : Node} {e : Error} (hc : c.BuiltFor n) (h : c.Blames e) :
    n.Blames e := by
  intro misfit he
  obtain ⟨hmisfit, m, w, hm, hkey⟩ := h misfit he
  exact ⟨hmisfit, m, w, .head hc hm, hkey⟩

/-- Keys of which one is given twice do not differ. -/
theorem Repeats.not_keysDiffer {m : Node} {w : Value} (h : m.Repeats w) : ¬m.KeysDiffer := by
  obtain ⟨before, k, after, hkeys, hk, d, hd, v, hv, hsame⟩ := h
  intro hdiffer
  rw [KeysDiffer, hkeys, List.pairwise_append] at hdiffer
  have hne := hdiffer.2.2 d hd k List.mem_cons_self v w hv hk
  rw [hsame] at hne
  cases hne

end Node

namespace Build

/-! ## Keys that clash -/

section
variable {i : Nat} {start : Mark} {seen : List Value} {ks : List Node} {V : Node → Built Value}

/-- Keys without faults are sound, and no two of them are equal. -/
theorem keyFaults_eq_nil_of_map
    (h : keyFaults i start seen (ks.map fun k => (k.mark, V k)) = []) :
    (∀ k ∈ ks, (V k).faults = [] ∧ ∀ u ∈ seen, u.same (V k).value = false) ∧
      ks.Pairwise fun j k => (V j).value.same (V k).value = false := by
  induction ks generalizing seen with
  | nil => simp
  | cons k ks ih =>
    rw [List.map_cons, keyFaults, List.append_eq_nil_iff, List.append_eq_nil_iff] at h
    obtain ⟨⟨hk, hhere⟩, hrest⟩ := h
    obtain ⟨hks, hpairs⟩ := ih hrest
    have hseen : ∀ u ∈ seen, u.same (V k).value = false := by
      intro u hu
      by_contra hsame
      have hany : seen.any (·.same (V k).value) = true :=
        List.any_eq_true.2 ⟨u, hu, by simpa using hsame⟩
      by_cases hkey : (V k).value.isKey = true <;> simp [hkey, hany] at hhere
    refine ⟨List.forall_mem_cons.2 ⟨⟨hk, hseen⟩, fun k' hk' => ?_⟩, List.pairwise_cons.2
      ⟨fun k' hk' => (hks k' hk').2 _ List.mem_cons_self, hpairs⟩⟩
    exact ⟨(hks k' hk').1, fun u hu => (hks k' hk').2 u (List.mem_cons_of_mem _ hu)⟩

/-- Where a fault of keys comes from: a key, or one that is equal to a key before it. -/
theorem mem_keyFaults {g : Fault}
    (h : g ∈ keyFaults i start seen (ks.map fun k => (k.mark, V k))) :
    (∃ k ∈ ks, g ∈ (V k).faults ∨ (V k).value.isKey = false) ∨
      ∃ before k after u, ks = before ++ k :: after ∧ u ∈ seen ++ before.map (fun d => (V d).value) ∧
        u.same (V k).value = true ∧ g.2 = repeated start k.mark (V k).value := by
  induction ks generalizing seen with
  | nil => cases h
  | cons k ks ih =>
    rw [List.map_cons, keyFaults, List.mem_append, List.mem_append] at h
    rcases h with (h | h) | h
    · exact .inl ⟨k, List.mem_cons_self, .inl h⟩
    · split at h
      · next hkey =>
        exact .inl ⟨k, List.mem_cons_self, .inr (by simpa using hkey)⟩
      · split at h
        · next hany =>
          obtain ⟨u, hu, hsame⟩ := List.any_eq_true.1 hany
          cases List.mem_singleton.1 h
          exact .inr ⟨[], k, ks, u, rfl, by simpa using hu, hsame, rfl⟩
        · cases h
    · rcases ih h with ⟨k', hk', h⟩ | ⟨before, k', after, u, rfl, hu, hsame⟩
      · exact .inl ⟨k', List.mem_cons_of_mem _ hk', h⟩
      · refine .inr ⟨k :: before, k', after, u, rfl, ?_, hsame⟩
        rw [List.map_cons]
        exact List.perm_middle.symm.subset hu

end

section
variable {r : Rules} {fuel i j : Nat} {l : Label} {start : Mark} {t : Tag} {k n : Node}
  {es : List (Node × Node)}

theorem two_le_of_mem_scalarKeys (hk : k ∈ Node.scalarKeys es)
    (hf : 2 * Node.entriesHeight es ≤ fuel) : 2 ≤ fuel := by
  obtain ⟨-, e, he, rfl⟩ := exists_of_mem_scalarKeys hk
  have := (Node.height_le_entriesHeight he).1
  have := Node.height_pos e.1
  omega

/-- A key that is a scalar is built as it is by itself. -/
theorem agree_built (hk : k ∈ Node.scalarKeys es) (hf : 2 * Node.entriesHeight es ≤ fuel) :
    Agree (value r fuel i k) k.built := by
  obtain ⟨fuel, rfl⟩ := Nat.exists_eq_add_of_le' (two_le_of_mem_scalarKeys hk hf)
  obtain ⟨⟨l, m, t, cs, rfl⟩, -⟩ := exists_of_mem_scalarKeys hk
  exact agree_value_scalar

/-- **If keys are looked at first**, a mapping is sound only if its keys tell its entries
    apart. -/
theorem tellsKeys_of_faults_eq_nil (ht : n.IsMap) (hf : 2 * n.height < fuel + 2)
    (h : (value Header.rules (fuel + 2) i n).faults = []) : n.TellsKeys := by
  cases n with
  | scalar | sequence => exact ⟨by simp [Node.scalarKeys, Node.entries],
      by simp [Node.KeysDiffer, Node.scalarKeys, Node.entries]⟩
  | mapping l start t es =>
    rw [faults_of_isMap ht] at h
    rw [Node.height] at hf
    have hf : 2 * Node.entriesHeight es ≤ fuel := by omega
    obtain ⟨es', hm⟩ := exists_merged h
    rw [faults_entries hm] at h
    obtain ⟨hkeys, hdiffer⟩ := keyFaults_eq_nil_of_map (List.append_eq_nil_iff.1 h).1
    refine ⟨fun k hk hsign => ?_, hdiffer.imp_of_mem fun {j k} hj hk hsame v w hv hw => ?_⟩
    · obtain ⟨fuel, rfl⟩ := Nat.exists_eq_add_of_le' (two_le_of_mem_scalarKeys hk hf)
      have := (hkeys k hk).1
      rw [value_of_isSign hsign] at this
      cases this
    · rw [(agree_built hj hf).value, (agree_built hk hf).value, hv, hw] at hsame
      exact hsame

/-! ## What a lenient reader builds -/

theorem exists_sequence (h : (sequence r (fuel + 1) i n).faults = []) :
    ∃ l m t items, n = .sequence l m t items := by
  cases n with
  | scalar | mapping => rw [sequence.eq_def] at h; cases h
  | sequence l m t items => exact ⟨l, m, t, items, rfl⟩

theorem exists_mapping (h : (entries r (fuel + 1) i n).faults = []) :
    ∃ l m t es, n = .mapping l m t es := by
  cases n with
  | scalar | sequence => rw [entries.eq_def] at h; cases h
  | mapping l m t es => exact ⟨l, m, t, es, rfl⟩

theorem exists_sequence_of_pairs {a : Activity} (h : (pairs r (fuel + 1) i a n).faults = []) :
    ∃ l m t items, n = .sequence l m t items := by
  cases n with
  | scalar | mapping => rw [pairs.eq_def] at h; cases h
  | sequence l m t items => exact ⟨l, m, t, items, rfl⟩

/-- A key that is a scalar is a sign, or a lenient reader has built it. -/
theorem isSign_or_sound (hk : k ∈ Node.scalarKeys es) (hf : 2 * Node.entriesHeight es ≤ fuel)
    (h : (entries lenient (fuel + 1) i (.mapping l start t es)).faults = []) :
    k.IsSign ∨ (value r fuel j k).faults = [] ∧ (value r fuel j k).value.isKey = true := by
  by_cases hsign : k.IsSign
  · exact .inl hsign
  · obtain ⟨-, e, he, rfl⟩ := exists_of_mem_scalarKeys hk
    have hentry := isEntry_of_mem he (fun h => hsign (.inl h)) (fun h => hsign (.inr h))
    have hnil := entryFaults_eq_nil hentry hf h
    simp only [entryFaults, List.append_eq_nil_iff, ite_eq_left_iff] at hnil
    obtain ⟨⟨hkey, hhash⟩, -⟩ := hnil
    refine .inr ⟨((agree_built hk hf).faults.trans (agree_built hk hf).faults.symm).1 hkey, ?_⟩
    rw [(sameValues fuel).value (q := lenient) (j := i)]
    by_contra hnot
    cases hhash hnot

/-- No value is known for a key that is a sign. -/
theorem value_of_sign (hk : k ∈ Node.scalarKeys es) (hf : 2 * Node.entriesHeight es ≤ fuel)
    (hsign : k.IsSign) : (value r fuel i k).value = .null := by
  obtain ⟨fuel, rfl⟩ := Nat.exists_eq_add_of_le' (two_le_of_mem_scalarKeys hk hf)
  rw [value_of_isSign hsign]

/-- A key that is no sign is built by itself as a lenient reader has built it. -/
theorem built_of_not_isSign (hk : k ∈ Node.scalarKeys es) (hf : 2 * Node.entriesHeight es ≤ fuel)
    (h : (entries lenient (fuel + 1) i (.mapping l start t es)).faults = []) (hsign : ¬k.IsSign) :
    k.built = .sound (value r fuel j k).value :=
  (agree_built hk hf).eq_sound ((isSign_or_sound hk hf h).resolve_left hsign).1

/-- What comes up when keys are looked at first. -/
theorem mem_keyFaults_builtKeys {g : Fault} (ht : t = .map ∨ t = .set)
    (hf : 2 * Node.entriesHeight es ≤ fuel)
    (h : (entries lenient (fuel + 1) i (.mapping l start t es)).faults = [])
    (hg : g ∈ keyFaults i start [] (builtKeys Header.rules fuel i es)) :
    ¬Node.TellsKeys (.mapping l start t es) ∧ Node.Blames (.mapping l start t es) g.2 := by
  rcases mem_keyFaults hg with ⟨k, hk, hg⟩ | ⟨before, k, after, u, hkeys, hu, hsame, hg⟩
  · rcases isSign_or_sound (r := Header.rules) (j := i) hk hf h with hsign | ⟨hnil, hkey⟩
    · refine ⟨fun htells => htells.signs k hk hsign, ?_⟩
      obtain ⟨fuel, rfl⟩ := Nat.exists_eq_add_of_le' (two_le_of_mem_scalarKeys hk hf)
      rw [value_of_isSign hsign] at hg
      rcases hg with hg | hg
      · cases List.mem_singleton.1 hg
        exact fun _ h => nomatch h
      · cases hg
    · rw [hnil, hkey] at hg
      rcases hg with hg | hg <;> cases hg
  · obtain ⟨d, hd, rfl⟩ := List.mem_map.1 hu
    have hd' : d ∈ Node.scalarKeys es := hkeys ▸ List.mem_append_left _ hd
    have hk : k ∈ Node.scalarKeys es := hkeys ▸ List.mem_append_right _ List.mem_cons_self
    have hrepeats (hds : ¬d.IsSign) (hks : ¬k.IsSign) :
        Node.Repeats (.mapping l start t es) (value Header.rules fuel i k).value :=
      ⟨before, k, after, hkeys, built_of_not_isSign hk hf h hks, d, hd, _,
        built_of_not_isSign hd' hf h hds, hsame⟩
    refine ⟨fun htells =>
      (hrepeats (htells.signs d hd') (htells.signs k hk)).not_keysDiffer htells.differ, ?_⟩
    intro misfit he
    rw [hg, repeated] at he
    split at he
    · cases he
    · next hw =>
      cases he
      -- a sign has no value, and where none is known there is none that cannot be shown
      refine ⟨rfl, _, _, .refl, ht, hrepeats (fun hsign => ?_) (fun hsign => ?_), by simpa using hw⟩
      · rw [value_of_sign hd' hf hsign] at hsame
        cases hv : (value Header.rules fuel i k).value <;> rw [hv] at hsame hw
        case null => exact hw rfl
        all_goals cases hsame
      · rw [value_of_sign hk hf hsign] at hw
        exact hw rfl

/-- Where a fault of a mapping comes from that a lenient reader builds: its keys, or
    another node that it is built of. -/
theorem mem_faults_of_isMap {g : Fault} (hmap : n.IsMap) (hf : 2 * n.height < fuel + 2)
    (h : (value lenient (fuel + 2) i n).faults = [])
    (hg : g ∈ (value Header.rules (fuel + 2) i n).faults) :
    (¬n.TellsKeys ∧ n.Blames g.2) ∨
      ∃ c, c.BuiltFor n ∧ g ∈ (value Header.rules fuel (i + 1) c).faults := by
  rw [faults_of_isMap hmap] at h hg
  obtain ⟨l, start, t, es, rfl⟩ := exists_mapping h
  obtain ⟨es', hm⟩ := exists_merged h
  rw [Node.height] at hf
  have hf : 2 * Node.entriesHeight es ≤ fuel := by omega
  rw [faults_entries hm, List.mem_append, List.mem_flatMap] at hg
  rcases hg with hg | ⟨e, he, hg⟩
  · exact .inl (mem_keyFaults_builtKeys hmap hf h hg)
  · have hentry := (mem_mergeEntries_iff hf hm).1 he
    have hnil := entryFaults_eq_nil hentry hf h
    simp only [entryFaults, List.append_eq_nil_iff, List.mem_append] at hnil hg
    rcases hg with (hg | hg) | hg
    · exact .inr ⟨e.1, .key hmap hentry, hg⟩
    · -- a key that is none is a fault for a lenient reader too
      rw [(sameValues fuel).value (q := lenient) (j := i + 1), hnil.1.2] at hg
      cases hg
    · exact .inr ⟨e.2, .value hmap hentry, hg⟩

/-- A fault of another node that a lenient reader builds comes from one that it is built
    of. -/
theorem mem_faults_of_not_isMap {g : Fault} (hmap : ¬n.IsMap)
    (h : (value lenient (fuel + 2) i n).faults = [])
    (hg : g ∈ (value Header.rules (fuel + 2) i n).faults) :
    ∃ c, c.BuiltFor n ∧ g ∈ (value Header.rules fuel (i + 1) c).faults := by
  by_cases hpairs : n.IsPairs
  · obtain ⟨a, ha⟩ := faults_of_isPairs hpairs
    rw [ha] at h hg
    obtain ⟨l, start, t, items, rfl⟩ := exists_sequence_of_pairs h
    rw [faults_pairs, List.mem_flatMap] at hg
    obtain ⟨item, hitem, hg⟩ := hg
    obtain ⟨l', m', t', e, rfl⟩ := exists_entry_of_itemFaults (itemFaults_eq_nil hitem h)
    rcases List.mem_append.1 hg with hg | hg
    · exact ⟨e.1, .pairKey hpairs hitem, hg⟩
    · exact ⟨e.2, .pairValue hpairs hitem, hg⟩
  by_cases hseq : n.tag = .seq
  · rw [value_of_seq hseq] at h hg
    obtain ⟨l, m, t, items, rfl⟩ := exists_sequence h
    cases (hseq : t = .seq)
    obtain ⟨c, hc, hg⟩ := List.mem_flatMap.1 (faults_sequence ▸ hg)
    exact ⟨c, .item hc, hg⟩
  · have hscalar : n.tag.isCollection = false :=
      Bool.eq_false_iff.2 fun h => by
        rcases Tag.isCollection_iff.1 h with h | h | h
        · exact hseq h
        · exact hmap h
        · exact hpairs h
    rw [value_of_isCollection_eq_false (q := lenient) hscalar, h] at hg
    cases hg

/-- **What a lenient reader builds** is built by one that looks at the keys first, unless a
    node is met that has keys which do not tell its entries apart. -/
theorem confuses_of_mem_faults {g : Fault} (hf : 2 * n.height < fuel)
    (h : (value lenient fuel i n).faults = []) (hg : g ∈ (value Header.rules fuel i n).faults) :
    n.Confuses ∧ n.Blames g.2 := by
  induction fuel using Nat.strong_induction_on generalizing n i with
  | h fuel ih =>
    have := Node.height_pos n
    obtain ⟨fuel, rfl⟩ : ∃ f, fuel = f + 2 := ⟨fuel - 2, by omega⟩
    have hbuilt : (∃ c, c.BuiltFor n ∧ g ∈ (value Header.rules fuel (i + 1) c).faults) →
        n.Confuses ∧ n.Blames g.2 := by
      rintro ⟨c, hc, hg⟩
      have hlt := hc.height_lt
      obtain ⟨hconfuses, hblames⟩ :=
        ih fuel (by omega) (by omega) (faults_eq_nil_of_builtFor hc hf h) hg
      exact ⟨hconfuses.of_builtFor hc, hblames.of_builtFor hc⟩
    by_cases hmap : n.IsMap
    · rcases mem_faults_of_isMap hmap hf h hg with ⟨hkeys, hblames⟩ | hinside
      · exact ⟨⟨n, .refl, hmap, hkeys⟩, hblames⟩
      · exact hbuilt hinside
    · exact hbuilt (mem_faults_of_not_isMap hmap h hg)

/-- What is met when a node is built that is sound is sound. -/
theorem exists_faults_eq_nil_of_meets {m : Node} (hm : n.Meets m) (hf : 2 * n.height < fuel)
    (h : (value r fuel i n).faults = []) :
    ∃ fuel j, 2 * m.height < fuel + 2 ∧ (value r (fuel + 2) j m).faults = [] := by
  induction hm using Relation.ReflTransGen.head_induction_on generalizing fuel i with
  | refl =>
    have := Node.height_pos m
    obtain ⟨fuel, rfl⟩ : ∃ f, fuel = f + 2 := ⟨fuel - 2, by omega⟩
    exact ⟨fuel, i, hf, h⟩
  | @head n c hc _ ih =>
    have := Node.height_pos n
    have := hc.height_lt
    obtain ⟨fuel, rfl⟩ : ∃ f, fuel = f + 2 := ⟨fuel - 2, by omega⟩
    exact ih (by omega) (faults_eq_nil_of_builtFor hc hf h)

end

/-! ## Results -/

theorem Built.result_eq_ok_iff {b : Built Value} {v : Value} :
    b.result = .ok v ↔ b.faults = [] ∧ b.value = v := by
  have hnone : Built.earliest? b.faults = none ↔ b.faults = [] := by
    constructor
    · intro h
      by_contra hne
      obtain ⟨f, fs, hfs⟩ := List.exists_cons_of_ne_nil hne
      rw [hfs, Built.earliest?, List.foldl_cons] at h
      -- once there is a fault, there is an earliest one
      refine Option.isSome_iff_ne_none.1
        (List.foldlRecOn (motive := fun b : Option Fault => b.isSome = true) fs _ rfl ?_) h
      intro best hbest g _
      cases best with
      | none => cases hbest
      | some b => dsimp only; split <;> rfl
    · intro h
      rw [h]
      rfl
  unfold Built.result
  split
  · next h => simp [hnone.1 h]
  · next f h =>
    have hne : b.faults ≠ [] := fun hnil => by
      rw [hnone.2 hnil] at h
      cases h
    simp [hne]

end Build

/-! ## Texts -/

section
variable {text : List Char} {n : Node}

theorem decode_eq_value {r : Rules} (hr : r.timestamps = false)
    (hn : Node.ofText? false text = .ok (some n)) : decode r text = n.value r := by
  rw [decode, hr, hn]
  rfl

theorem decode_of_node {r : Rules} (hr : r.timestamps = false)
    (hn : Node.ofText? false text = .ok (some n)) (ht : n.isClear = true) :
    decode r text = (Build.value r (2 * n.height + 1) 0 n).result :=
  (decode_eq_value hr hn).trans (if_pos ht)

/-- A text of which a value is known can be read in one way only. -/
theorem isClear_of_decode {r : Rules} {v : Value} (hr : r.timestamps = false)
    (hn : Node.ofText? false text = .ok (some n)) (h : decode r text = .ok v) :
    n.isClear = true := by
  by_contra ht
  rw [decode_eq_value hr hn, Node.value, if_neg ht] at h
  cases h

/-- A text is not read if a node is met that has keys which do not tell its entries
    apart. -/
theorem exists_fault_of_confuses (hn : Node.ofText? false text = .ok (some n))
    (ht : n.isClear = true) (h : n.Confuses) : ∃ g ∈ (Build.value Header.rules (2 * n.height + 1) 0 n).faults,
      decode Header.rules text = .error g.2 := by
  obtain ⟨m, hm, hmap, hkeys⟩ := h
  rw [decode_of_node rfl hn ht]
  cases hresult : (Build.value Header.rules (2 * n.height + 1) 0 n).result with
  | ok w =>
    have hnil := (Build.Built.result_eq_ok_iff.1 hresult).1
    obtain ⟨fuel, j, hf, hnil⟩ := Build.exists_faults_eq_nil_of_meets hm (Nat.lt_succ_self _) hnil
    exact absurd (Build.tellsKeys_of_faults_eq_nil hmap hf hnil) hkeys
  | error e =>
    obtain ⟨g, hg, rfl⟩ := Build.Built.exists_of_result_eq_error hresult
    exact ⟨g, hg, rfl⟩

/-- **A text that a lenient reader reads** is read by one that looks at the keys first, with
    the same value, unless a node is met that has keys which do not tell its entries
    apart. -/
theorem decode_rules {v : Value} (hn : Node.ofText? false text = .ok (some n))
    (h : decode lenient text = .ok v) :
    (¬n.Confuses → decode Header.rules text = .ok v) ∧
      (n.Confuses → ∃ e, decode Header.rules text = .error e ∧ n.Blames e) := by
  have ht := isClear_of_decode rfl hn h
  rw [decode_of_node rfl hn ht, Build.Built.result_eq_ok_iff] at h
  obtain ⟨hsound, hv⟩ := h
  constructor
  · intro hnot
    rw [decode_of_node rfl hn ht]
    refine Build.Built.result_eq_ok_iff.2 ⟨List.eq_nil_iff_forall_not_mem.2 fun g hg => ?_,
      (Build.sameValues _).value.trans hv⟩
    exact hnot (Build.confuses_of_mem_faults (Nat.lt_succ_self _) hsound hg).1
  · intro hconfuses
    obtain ⟨g, hg, he⟩ := exists_fault_of_confuses hn ht hconfuses
    exact ⟨g.2, he, (Build.confuses_of_mem_faults (Nat.lt_succ_self _) hsound hg).2⟩

end

end Folio.Yaml

/-! ## Headers -/

namespace Folio.Header

open Yaml (Node lenient)

variable {octets : Octets} {n : Node}

theorem decode_of_ok {l : Label} {es : Entries}
    (h : Yaml.decode rules (Utf8.decode octets) = .ok (.map l es)) : decode octets = .ok es := by
  rw [decode, h]

theorem decode_of_error {e : Yaml.Error} (h : Yaml.decode rules (Utf8.decode octets) = .error e)
    (he : ∀ misfit, e ≠ .misfit misfit) : decode octets = .error (.error (.invalid e)) := by
  rw [decode, h]
  cases e with
  | misfit m => exact absurd rfl (he m)
  | _ => rfl

end Folio.Header
