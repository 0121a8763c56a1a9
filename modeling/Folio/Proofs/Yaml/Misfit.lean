/-
  Folio — where misfits come from.

  A misfit is a failure of a conversion, not an error of the text, and the value
  of a text fails with one only if a node of the text does not fit its tag
  (`Node.Unfit`): a scalar that is tagged as a number, a truth value or a
  timestamp and is none, a scalar or a sequence that is tagged as a mapping, a key
  that is tagged as a collection, or one that is given twice and cannot be shown.

  * `Build.sound`: every misfit among the faults of a node;
  * `exists_unfit_of_decode`: the misfit that the value of a text fails with.
-/
import Mathlib
import Folio.Proofs.Outcome
import Folio.Proofs.Yaml.Grammar
import Folio.Yaml.Decode

namespace Folio.Yaml

/-! ## Nodes that do not fit their tags -/

/-- The tags of collections. -/
def Tag.isCollection : Tag → Bool
  | .seq | .map | .set | .orderedMap | .pairs => true
  | _ => false

/-- Is the node a scalar? -/
def Node.isScalar : Node → Bool
  | .scalar .. => true
  | _ => false

/-- The scalars among the keys of entries. -/
def Node.scalarKeys (es : List (Node × Node)) : List Node := (es.map (·.1)).filter Node.isScalar

/-- Why a node does not fit its tag. -/
inductive Node.Unfit : Node → Misfit → Prop
  | bool {n fuel cs m} : n.tag = .bool → Build.scalarText fuel n = .ok cs →
      Conversion.bool cs = .error m → Unfit n m
  | int {n fuel cs m} : n.tag = .int → Build.scalarText fuel n = .ok cs →
      Conversion.int cs = .error m → Unfit n m
  | float {n fuel cs m} : n.tag = .float → Build.scalarText fuel n = .ok cs →
      Conversion.float n.mark.index cs = .error m → Unfit n m
  | timestamp {n fuel cs m} : n.tag = .timestamp → Build.scalarText fuel n = .ok cs →
      Conversion.timestamp cs = .error m → Unfit n m
  /-- A mapping that has a text is no timestamp, whatever the text. -/
  | mappingTime {l mk es} : Unfit (.mapping l mk .timestamp es) .mappingTime
  | scalarEntries {l mk t c cs} : t = .map ∨ t = .set →
      Unfit (.scalar l mk t (c :: cs)) .scalarEntries
  | sequenceEntries {l mk t i items} : t = .map ∨ t = .set →
      Unfit (.sequence l mk t (i :: items)) .sequenceEntries
  /-- A mapping whose key is a scalar that is tagged as a collection. -/
  | collectionKey {l mk t es e l' mk' t' cs} : e ∈ es → e.1 = .scalar l' mk' t' cs →
      t'.isCollection = true → Unfit (.mapping l mk t es) .collectionKey
  /-- A mapping with a scalar as a key for the second time that is an integer without a
      text. -/
  | repeatedKey {l mk t es before k after d rules fuel round} :
      scalarKeys es = before ++ k :: after → d ∈ before →
      (Build.value rules fuel round d).value.same (Build.value rules fuel round k).value = true →
      (Build.value rules fuel round k).value.isWritable = false →
      Unfit (.mapping l mk t es) (.number .longText)

namespace Build

/-- The misfits among some faults come from nodes in a node. -/
def Traced (n : Node) (faults : List Fault) : Prop :=
  ∀ r m, (r, Error.misfit m) ∈ faults → ∃ n' : Node, n'.Within n ∧ n'.Unfit m

section
variable {n : Node} {fs gs : List Fault}

theorem traced_nil : Traced n [] := fun _ _ h => absurd h List.not_mem_nil

theorem Traced.append (hf : Traced n fs) (hg : Traced n gs) : Traced n (fs ++ gs) :=
  fun r m h => (List.mem_append.1 h).elim (hf r m) (hg r m)

theorem traced_flatMap {α : Type} {xs : List α} {f : α → List Fault}
    (h : ∀ x ∈ xs, Traced n (f x)) : Traced n (xs.flatMap f) := by
  intro r m hm
  obtain ⟨x, hx, hm⟩ := List.mem_flatMap.1 hm
  exact h x hx r m hm

theorem Traced.mono {n' : Node} (h : Traced n' fs) (hn : n'.Within n) : Traced n fs := by
  intro r m hm
  obtain ⟨n'', hw, hu⟩ := h r m hm
  exact ⟨n'', hw.trans hn, hu⟩

/-- Faults of form are no misfits. -/
theorem traced_marked {round : Nat} {a : Option (Activity × Option Mark)} {p : Problem} {mk : Mark} :
    Traced n [(round, .marked a p mk)] := by
  intro r m h
  cases List.mem_singleton.1 h

end

/-! ## Scalars -/

theorem scalarText_ne_misfit {fuel : Nat} {n : Node} {m : Misfit} :
    scalarText fuel n ≠ .error (.misfit m) := by
  fun_induction scalarText fuel n with
  | case1 | case2 | case4 => intro h; cases h
  | case3 fuel n _ inner e he ih => exact ih

section
variable {α : Type} {fuel round r : Nat} {n : Node} {m : Misfit}
  {convert : List Char → Except Error α} {wrap : α → Value}

/-- A scalar fails with a misfit only if its conversion does. -/
theorem exists_text_of_scalar (h : (r, .misfit m) ∈ (scalar fuel round n convert wrap).faults) :
    ∃ cs, scalarText fuel n = .ok cs ∧ convert cs = .error (.misfit m) := by
  unfold scalar at h
  cases ht : scalarText fuel n with
  | error e =>
    rw [ht] at h
    cases List.mem_singleton.1 h
    exact absurd ht scalarText_ne_misfit
  | ok cs =>
    rw [ht] at h
    refine ⟨cs, rfl, ?_⟩
    change (r, Error.misfit m) ∈ (Built.ofExcept round .null (do return wrap (← convert cs))).faults at h
    cases hc : convert cs with
    | error e => rw [hc] at h; cases List.mem_singleton.1 h; rfl
    | ok a => rw [hc] at h; cases h

theorem isKey_scalar (hw : ∀ a, (wrap a).isKey = true) :
    (scalar fuel round n convert wrap).value.isKey = true := by
  unfold scalar
  cases scalarText fuel n with
  | error e => rfl
  | ok cs =>
    change (Built.ofExcept round .null (do return wrap (← convert cs))).value.isKey = true
    cases convert cs with
    | error e => rfl
    | ok a => exact hw a

theorem unplaced_eq_misfit {convert : List Char → Except Misfit α} {cs : List Char} :
    unplaced convert cs = .error (.misfit m) ↔ convert cs = .error m := by
  unfold unplaced
  cases convert cs with
  | error e => constructor <;> rintro ⟨⟩ <;> rfl
  | ok a => constructor <;> rintro ⟨⟩

/-- A scalar whose conversion has no misfits has none. -/
theorem traced_scalar (h : ∀ cs m, scalarText fuel n = .ok cs → convert cs = .error (.misfit m) →
    n.Unfit m) : Traced n (scalar fuel round n convert wrap).faults := by
  intro r m hm
  obtain ⟨cs, ht, hc⟩ := exists_text_of_scalar hm
  exact ⟨n, .self, h cs m ht hc⟩

end

/-! ## Merging -/

/-- A node that lies in an entry. -/
def InEntries (n : Node) (es : List (Node × Node)) : Prop := ∃ e ∈ es, n.Within e.1 ∨ n.Within e.2

theorem InEntries.within {n : Node} {l m t es} (h : InEntries n es) : n.Within (.mapping l m t es) := by
  obtain ⟨e, he, h | h⟩ := h
  · exact .key he h
  · exact .value he h

/-- What merging does: a key lies in what is merged or is a text, a value lies in
    it; and no misfit stops it. -/
structure MergeSpec (fuel : Nat) : Prop where
  entries_error : ∀ {owner es m}, mergeEntries fuel owner es ≠ .error (.misfit m)
  entries_ok : ∀ {owner es es'}, mergeEntries fuel owner es = .ok es' → ∀ e ∈ es',
    (InEntries e.1 es ∨ e.1.tag = .str) ∧ InEntries e.2 es
  merged_error : ∀ {owner n m}, mergedEntries fuel owner n ≠ .error (.misfit m)
  merged_ok : ∀ {owner n es'}, mergedEntries fuel owner n = .ok es' → ∀ e ∈ es',
    (e.1.Within n ∨ e.1.tag = .str) ∧ e.2.Within n

theorem Node.tag_withTag (t : Tag) (n : Node) : (n.withTag t).tag = t := by
  cases n <;> rfl

section
variable {fuel : Nat} (h : MergeSpec fuel)
include h

theorem MergeSpec.entries_error_succ {owner : Mark} {es : List (Node × Node)} {m : Misfit} :
    mergeEntries (fuel + 1) owner es ≠ .error (.misfit m) := by
  intro he
  rw [mergeEntries] at he
  cases hm : (es.filter fun e => e.1.tag == .merge).mapM fun e => mergedEntries fuel owner e.2 with
  | error e =>
    rw [hm] at he
    cases he
    obtain ⟨x, -, hx⟩ := exists_of_mapM_error hm
    exact h.merged_error hx
  | ok parts => rw [hm] at he; cases he

theorem MergeSpec.entries_ok_succ {owner : Mark} {es es' : List (Node × Node)}
    (he : mergeEntries (fuel + 1) owner es = .ok es') {e : Node × Node} (hmem : e ∈ es') :
    (InEntries e.1 es ∨ e.1.tag = .str) ∧ InEntries e.2 es := by
  rw [mergeEntries] at he
  cases hm : (es.filter fun e => e.1.tag == .merge).mapM fun e => mergedEntries fuel owner e.2 with
  | error e => rw [hm] at he; cases he
  | ok parts =>
    rw [hm] at he
    cases he
    rcases List.mem_append.1 hmem with hmem | hmem
    · obtain ⟨part, hpart, hmem⟩ := List.mem_flatten.1 hmem
      obtain ⟨x, hx, hxp⟩ := exists_of_mapM_ok hm hpart
      obtain ⟨hk, hv⟩ := h.merged_ok hxp e hmem
      have hx := (List.mem_filter.1 hx).1
      exact ⟨hk.imp_left fun hk => ⟨x, hx, Or.inr hk⟩, x, hx, Or.inr hv⟩
    · obtain ⟨x, hx, rfl⟩ := List.mem_map.1 hmem
      have hx := (List.mem_filter.1 hx).1
      split
      · exact ⟨Or.inr (Node.tag_withTag _ _), x, hx, Or.inr .self⟩
      · exact ⟨Or.inl ⟨x, hx, Or.inl .self⟩, x, hx, Or.inr .self⟩

theorem MergeSpec.merged_error_succ {owner : Mark} {n : Node} {m : Misfit} :
    mergedEntries (fuel + 1) owner n ≠ .error (.misfit m) := by
  intro he
  cases n with
  | scalar l mk t cs => rw [mergedEntries] at he; cases he
  | mapping l mk t es => rw [mergedEntries] at he; exact h.entries_error he
  | sequence l mk t items =>
    rw [mergedEntries] at he
    simp only [bind, Except.bind] at he
    split at he
    · next e hm =>
      cases he
      obtain ⟨x, -, hx⟩ := exists_of_mapM_error hm
      split at hx
      · exact h.entries_error hx
      · cases hx
    · cases he

theorem MergeSpec.merged_ok_succ {owner : Mark} {n : Node} {es' : List (Node × Node)}
    (he : mergedEntries (fuel + 1) owner n = .ok es') {e : Node × Node} (hmem : e ∈ es') :
    (e.1.Within n ∨ e.1.tag = .str) ∧ e.2.Within n := by
  cases n with
  | scalar l mk t cs => rw [mergedEntries] at he; cases he
  | mapping l mk t es =>
    rw [mergedEntries] at he
    obtain ⟨hk, hv⟩ := h.entries_ok he e hmem
    exact ⟨hk.imp_left InEntries.within, hv.within⟩
  | sequence l mk t items =>
    rw [mergedEntries] at he
    simp only [bind, Except.bind] at he
    split at he
    · cases he
    · next parts hm =>
      cases he
      obtain ⟨part, hpart, hmem⟩ := List.mem_flatten.1 hmem
      obtain ⟨x, hx, hxp⟩ := exists_of_mapM_ok hm (List.mem_reverse.1 hpart)
      split at hxp
      · obtain ⟨hk, hv⟩ := h.entries_ok hxp e hmem
        exact ⟨hk.imp_left fun hk => .item hx hk.within, .item hx hv.within⟩
      · cases hxp

end

theorem merge_spec (fuel : Nat) : MergeSpec fuel := by
  induction fuel with
  | zero =>
    refine ⟨fun he => ?_, fun he e hmem => ?_, fun he => ?_, fun he e hmem => ?_⟩
    · rw [mergeEntries] at he; cases he
    · rw [mergeEntries] at he
      cases he
      exact ⟨Or.inl ⟨e, hmem, Or.inl .self⟩, e, hmem, Or.inr .self⟩
    · rw [mergedEntries] at he; cases he
    · rw [mergedEntries] at he; cases he; cases hmem
  | succ fuel ih =>
    exact ⟨ih.entries_error_succ, fun he _ => ih.entries_ok_succ he, ih.merged_error_succ,
      fun he _ => ih.merged_ok_succ he⟩

/-! ## Nodes -/

/-- All misfits that come up with some number of steps. -/
structure Sound (rules : Rules) (fuel : Nat) : Prop where
  value : ∀ {round n}, Traced n (Build.value rules fuel round n).faults
  sequence : ∀ {round n}, Traced n (Build.sequence rules fuel round n).faults
  entries : ∀ {round n}, n.tag = .map ∨ n.tag = .set →
    Traced n (Build.entries rules fuel round n).faults
  pairs : ∀ {round activity n}, Traced n (Build.pairs rules fuel round activity n).faults

theorem isKey_value {rules : Rules} {fuel round : Nat} {n : Node} (h : n.tag.isCollection = false) :
    (value rules fuel round n).value.isKey = true := by
  cases fuel with
  | zero => rw [value]; rfl
  | succ fuel =>
    rw [value.eq_def]
    dsimp only
    split
    · exact isKey_scalar fun _ => rfl
    · exact isKey_scalar fun _ => rfl
    · exact isKey_scalar fun _ => rfl
    · exact isKey_scalar fun _ => rfl
    · exact isKey_scalar fun _ => rfl
    · exact isKey_scalar fun _ => rfl
    · unfold time
      split
      · rfl
      · exact isKey_scalar fun _ => rfl
    · next ht => rw [ht] at h; cases h
    · next ht => rw [ht] at h; cases h
    · next ht => rw [ht] at h; cases h
    · next ht => rw [ht] at h; cases h
    · next ht => rw [ht] at h; cases h
    · rfl

/-- A node that is tagged as a text has no misfit. -/
theorem traced_value_of_str {rules : Rules} {fuel round : Nat} {n n' : Node} (h : n.tag = .str) :
    Traced n' (value rules fuel round n).faults := by
  cases fuel with
  | zero => rw [value]; exact traced_nil
  | succ fuel =>
    rw [value.eq_def]
    dsimp only
    rw [h]
    intro r m hm
    obtain ⟨cs, -, hc⟩ := exists_text_of_scalar hm
    cases hc

theorem traced_time {fuel round : Nat} {label : Label} {n : Node} (ht : n.tag = .timestamp) :
    Traced n (time fuel round label n).faults := by
  unfold time
  split
  · next l mk t es cs hs =>
    cases (ht : t = .timestamp)
    intro r m hm
    cases List.mem_singleton.1 hm
    exact ⟨_, .self, .mappingTime⟩
  · exact traced_scalar fun cs m hs hc => .timestamp ht hs (unplaced_eq_misfit.1 hc)

/-! ### Scalars as keys -/

section
variable {es : List (Node × Node)}

theorem exists_of_mem_scalarKeys {k : Node} (hk : k ∈ Node.scalarKeys es) :
    (∃ l m t cs, k = .scalar l m t cs) ∧ ∃ e ∈ es, e.1 = k := by
  obtain ⟨hk, hscalar⟩ := List.mem_filter.1 hk
  obtain ⟨e, he, rfl⟩ := List.mem_map.1 hk
  refine ⟨?_, e, he, rfl⟩
  generalize e.1 = k at hscalar
  cases k with
  | scalar l m t cs => exact ⟨l, m, t, cs, rfl⟩
  | sequence | mapping => cases hscalar

/-- The scalars among keys, as they are built. -/
def builtKeys (r : Rules) (fuel i : Nat) (es : List (Node × Node)) : List (Mark × Built Value) :=
  (Node.scalarKeys es).map fun k => (k.mark, value r fuel i k)

theorem filterMap_eq_builtKeys {r : Rules} {fuel i : Nat} : (es.filterMap fun e =>
    match e.1 with
    | .scalar _ m _ _ => some (m, value r fuel i e.1)
    | _ => none) = builtKeys r fuel i es := by
  induction es with
  | nil => rfl
  | cons e es ih =>
    obtain ⟨k, v⟩ := e
    cases k with
    | scalar l m t cs => exact congrArg (_ :: ·) ih
    | sequence | mapping => exact ih

end

/-! ### Nodes by their tags -/

/-- What is no mapping is read as one only if it is tagged as one. -/
theorem traced_entriesFault {rules : Rules} {round : Nat} {n : Node} (ht : n.tag = .map ∨ n.tag = .set) :
    Traced n [(round, entriesFault rules n)] := by
  unfold entriesFault
  dsimp only
  split
  · next l mk t c cs _ =>
    intro r m hm
    cases List.mem_singleton.1 hm
    exact ⟨_, .self, .scalarEntries ht⟩
  · next l mk t i items _ =>
    intro r m hm
    cases List.mem_singleton.1 hm
    exact ⟨_, .self, .sequenceEntries ht⟩
  · exact traced_marked

section
variable {rules : Rules} {fuel : Nat} (h : Sound rules fuel)
include h

theorem Sound.value_succ {round : Nat} {n : Node} :
    Traced n (Build.value rules (fuel + 1) round n).faults := by
  rw [Build.value.eq_def]
  dsimp only
  split
  · exact traced_scalar fun cs m _ hc => by cases hc
  · next ht => exact traced_scalar fun cs m hs hc => .bool ht hs (unplaced_eq_misfit.1 hc)
  · next ht => exact traced_scalar fun cs m hs hc => .int ht hs (unplaced_eq_misfit.1 hc)
  · next ht => exact traced_scalar fun cs m hs hc => .float ht hs (unplaced_eq_misfit.1 hc)
  · exact traced_scalar fun cs m _ hc => by cases hc
  · refine traced_scalar fun cs m _ hc => ?_
    cases hb : Conversion.binary cs with
    | error e => rw [hb] at hc; cases hc
    | ok octets => rw [hb] at hc; cases hc
  · next ht => exact traced_time ht
  · exact h.sequence
  · next ht => exact h.entries (Or.inl ht)
  · next ht => exact h.entries (Or.inr ht)
  · exact h.pairs
  · exact h.pairs
  · exact traced_marked

theorem Sound.sequence_succ {round : Nat} {n : Node} :
    Traced n (Build.sequence rules (fuel + 1) round n).faults := by
  rw [Build.sequence.eq_def]
  dsimp only
  split
  · refine traced_flatMap fun b hb => ?_
    obtain ⟨item, hitem, rfl⟩ := List.mem_map.1 hb
    exact h.value.mono (.item hitem .self)
  · exact traced_marked

/-- The scalar keys of a mapping. -/
theorem Sound.keyFaults {round : Nat} {l : Label} {start : Mark} {t : Tag} {es : List (Node × Node)}
    (before ks : List Node) {seen : List Value} (hes : Node.scalarKeys es = before ++ ks)
    (hseen : ∀ v ∈ seen, ∃ d ∈ before, v = (Build.value rules fuel round d).value) :
    Traced (.mapping l start t es) (Build.keyFaults round start seen
      (ks.map fun k => (k.mark, Build.value rules fuel round k))) := by
  induction ks generalizing before seen with
  | nil => exact traced_nil
  | cons k ks ih =>
    obtain ⟨⟨l', m', t', cs, rfl⟩, e, he, hek⟩ : (∃ l m t cs, k = .scalar l m t cs) ∧ ∃ e ∈ es, e.1 = k :=
      exists_of_mem_scalarKeys (hes ▸ List.mem_append_right _ List.mem_cons_self)
    have hkey : Traced (.mapping l start t es)
        (Build.value rules fuel round (.scalar l' m' t' cs)).faults :=
      h.value.mono (.key he (hek ▸ .self))
    refine (hkey.append ?_).append (ih (before ++ [.scalar l' m' t' cs]) (by simpa using hes)
      fun v hv => ?_)
    · split
      · next hc =>
        intro r m hm
        cases List.mem_singleton.1 hm
        refine ⟨_, .self, .collectionKey he hek ?_⟩
        by_contra ht
        have hkey : (Build.value rules fuel round (.scalar l' m' t' cs)).value.isKey = true :=
          isKey_value (Bool.eq_false_iff.2 ht)
        simp only [hkey] at hc
        cases hc
      · split
        · next hany =>
          obtain ⟨u, hu, hsame⟩ := List.any_eq_true.1 hany
          obtain ⟨d, hd, rfl⟩ := hseen u hu
          unfold repeated
          split
          · exact traced_marked
          · next hw =>
            intro r m hm
            cases List.mem_singleton.1 hm
            exact ⟨_, .self, .repeatedKey hes hd hsame (by simpa using hw)⟩
        · exact traced_nil
    · rcases List.mem_cons.1 hv with rfl | hv
      · exact ⟨_, List.mem_append_right _ List.mem_cons_self, rfl⟩
      · obtain ⟨d, hd, rfl⟩ := hseen v hv
        exact ⟨d, List.mem_append_left _ hd, rfl⟩

theorem Sound.entries_succ {round : Nat} {n : Node} (ht : n.tag = .map ∨ n.tag = .set) :
    Traced n (Build.entries rules (fuel + 1) round n).faults := by
  rw [Build.entries.eq_def]
  dsimp only
  split
  · next l start t es =>
    refine (Traced.append ?_ ?_).append ?_
    · split
      · have hkeys : Traced (.mapping l start t es)
            (Build.keyFaults round start [] (builtKeys rules fuel round es)) :=
          h.keyFaults [] (Node.scalarKeys es) rfl (List.forall_mem_nil _)
        exact filterMap_eq_builtKeys.symm ▸ hkeys
      · exact traced_nil
    · cases hm : mergeEntries fuel start es with
      | ok es' => exact traced_nil
      | error e =>
        intro r m hmem
        cases List.mem_singleton.1 hmem
        exact absurd hm (merge_spec fuel).entries_error
    · refine traced_flatMap fun b hb => ?_
      obtain ⟨e, he, rfl⟩ := List.mem_map.1 hb
      cases hm : mergeEntries fuel start es with
      | error e => rw [hm] at he; cases he
      | ok es' =>
        rw [hm] at he
        obtain ⟨hk, hv⟩ := (merge_spec fuel).entries_ok hm e he
        refine (Traced.append ?_ ?_).append (h.value.mono hv.within)
        · rcases hk with hk | hk
          · exact h.value.mono hk.within
          · exact traced_value_of_str hk
        · split
          · exact traced_nil
          · exact traced_marked
  · exact traced_entriesFault ht

theorem Sound.pairs_succ {round : Nat} {activity : Activity} {n : Node} :
    Traced n (Build.pairs rules (fuel + 1) round activity n).faults := by
  rw [Build.pairs.eq_def]
  dsimp only
  split
  · refine traced_flatMap fun b hb => ?_
    obtain ⟨item, hitem, rfl⟩ := List.mem_map.1 hb
    split
    · next l m t e =>
      have hk : Traced e.1 (Build.value rules fuel round e.1).faults := h.value
      have hv : Traced e.2 (Build.value rules fuel round e.2).faults := h.value
      exact (hk.mono (.item hitem (.key List.mem_cons_self .self))).append
        (hv.mono (.item hitem (.value List.mem_cons_self .self)))
    · exact traced_marked
    · exact traced_marked
  · exact traced_marked

end

/-- **Every misfit of a node comes from a node in it that does not fit its tag.** -/
theorem sound (rules : Rules) (fuel : Nat) : Sound rules fuel := by
  induction fuel with
  | zero =>
    refine ⟨?_, ?_, fun _ => ?_, ?_⟩ <;> intros
    · rw [value]; exact traced_nil
    · rw [sequence]; exact traced_nil
    · rw [entries]; exact traced_nil
    · rw [pairs]; exact traced_nil
  | succ fuel ih => exact ⟨ih.value_succ, ih.sequence_succ, ih.entries_succ, ih.pairs_succ⟩

/-! ## Texts -/

theorem Built.mem_of_earliest? {faults : List Fault} {f : Fault}
    (h : Built.earliest? faults = some f) : f ∈ faults := by
  -- whatever is the best so far stands in the list
  refine List.foldlRecOn (motive := fun best => ∀ f, best = some f → f ∈ faults) faults _
    ?_ ?_ f h
  · intro f hf
    cases hf
  · intro best ih g hg f hf
    split at hf
    · cases hf; exact hg
    · split at hf
      · cases hf; exact hg
      · exact ih f hf

theorem Built.exists_of_result_eq_error {b : Built Value} {e : Error} (h : b.result = .error e) :
    ∃ g ∈ b.faults, g.2 = e := by
  unfold Built.result at h
  split at h
  · cases h
  · next g hg =>
    cases h
    exact ⟨g, Built.mem_of_earliest? hg, rfl⟩

end Build

/-- The misfit of a node that can be read in one way only comes from a node in it that does
    not fit its tag. -/
theorem exists_unfit_of_value {rules : Rules} {n : Node} {m : Misfit} (ht : n.isClear = true)
    (h : n.value rules = .error (.misfit m)) : ∃ n' : Node, n'.Within n ∧ n'.Unfit m := by
  rw [Node.value, if_pos ht] at h
  obtain ⟨⟨r, _⟩, hg, rfl⟩ := Build.Built.exists_of_result_eq_error h
  exact (Build.sound rules _).value r m hg

/-- **Where the misfit of a text comes from**, if something is said of the text: its nodes
    cannot be read because an escape stands for no character, or one of them does not fit
    its tag. -/
theorem exists_unfit_of_decode {rules : Rules} {text : List Char} {m : Misfit}
    (h : decode rules text = .error (.misfit m)) (hm : m.isUnclear = false) :
    (m.isOfEscape = true ∧ Node.ofText? rules.timestamps text = .error (.misfit m)) ∨
      ∃ n n' : Node, Node.ofText? rules.timestamps text = .ok (some n) ∧ n'.Within n ∧
        n'.Unfit m := by
  unfold decode at h
  cases hn : Node.ofText? rules.timestamps text with
  | error e =>
    rw [hn] at h
    cases h
    refine Or.inl ⟨?_, rfl⟩
    simpa [Error.isOfReading, hm] using reads_ofText? _ _ _ hn
  | ok n? =>
    cases n? with
    | none => rw [hn] at h; cases h
    | some n =>
      rw [hn] at h
      change n.value rules = _ at h
      by_cases ht : n.isClear = true
      · obtain ⟨n', hw, hu⟩ := exists_unfit_of_value ht h
        exact Or.inr ⟨n, n', rfl, hw, hu⟩
      · rw [Node.value, if_neg ht] at h
        cases h
        cases hm

end Folio.Yaml
