/-
  Folio — what is written does not name labels.

  Labels only say where anchors and aliases go.  A label that occurs once gives
  rise to neither, so the form of a value stays when such labels are dropped.

  * `Form.ofValue_relabel`: the form of a value without some of its labels;
  * `Value.isWritable_relabel`: whether its integers have texts.
-/
import Folio.Proofs.Yaml.Label
import Folio.Yaml.Display
import Folio.Yaml.Form

namespace Folio

/-- Drops a renaming labels only, and only such as occur in a value once? -/
def Value.Drops (g : Nat → Label) (ls : List Nat) : Prop :=
  ∀ l, g l = some l ∨ g l = none ∧ ls.count l ≤ 1

namespace Yaml

/-! ## Labels that are met again -/

namespace Anchors

/-- What is met of a value, and of the value without some labels. -/
structure Met.Matches (g : Nat → Label) (m m' : Met) : Prop where
  again : m'.again = m.again
  once : ∀ l, g l = some l → (l ∈ m'.once ↔ l ∈ m.once)
  kept : ∀ l ∈ m.again, g l = some l

/-- None of the labels that are dropped is met before or twice. -/
def Fresh (g : Nat → Label) (m : Met) (ls : List Nat) : Prop :=
  ∀ l ∈ ls, g l ≠ some l → g l = none ∧ l ∉ m.once ∧ ls.count l ≤ 1

variable {g : Nat → Label} {m m' : Met} {a b : List Nat}

theorem Fresh.left (h : Fresh g m (a ++ b)) : Fresh g m a := by
  intro l hl hg
  obtain ⟨h1, h2, h3⟩ := h l (List.mem_append_left _ hl) hg
  rw [List.count_append] at h3
  exact ⟨h1, h2, by omega⟩

/-- After the first labels are met, the others still are fresh. -/
theorem Fresh.right (h : Fresh g m (a ++ b)) (ho : ∀ l ∈ m'.once, l ∈ m.once ∨ l ∈ a) :
    Fresh g m' b := by
  intro l hl hg
  obtain ⟨h1, h2, h3⟩ := h l (List.mem_append_right _ hl) hg
  rw [List.count_append] at h3
  have hb := List.count_pos_iff.2 hl
  refine ⟨h1, fun hmem => ?_, by omega⟩
  rcases ho l hmem with hm | ha
  · exact h2 hm
  · have := List.count_pos_iff.2 ha
    omega

theorem Met.once_meet (m : Met) (label : Label) :
    ∀ l ∈ (m.meet label).1.once, l ∈ m.once ∨ l ∈ label.toList := by
  intro l hl
  cases label with
  | none => exact .inl hl
  | some k =>
    simp only [meet] at hl
    split at hl
    · split at hl <;> exact .inl hl
    · rcases List.mem_cons.1 hl with rfl | hl
      · exact .inr (by simp)
      · exact .inl hl

/-- A label is met for the first time in both, or in neither. -/
theorem Met.Matches.meet (hm : m.Matches g m') {label : Label} (hf : Fresh g m label.toList) :
    (m'.meet (label.bind g)).2 = (m.meet label).2 ∧
      (m.meet label).1.Matches g (m'.meet (label.bind g)).1 := by
  cases label with
  | none => exact ⟨rfl, hm⟩
  | some l =>
    rw [Option.bind_some]
    by_cases hg : g l = some l
    · rw [hg]
      by_cases hl : l ∈ m.once
      · have hl' : l ∈ m'.once := (hm.once l hg).2 hl
        by_cases ha : l ∈ m.again
        · simpa [Met.meet, hl, hl', hm.again, ha] using hm
        · refine ⟨by simp [Met.meet, hl, hl'], ?_⟩
          simp only [Met.meet, List.contains_iff_mem, hl, hl', hm.again, ha, if_true, if_false]
          refine ⟨rfl, hm.once, ?_⟩
          rintro k (_ | ⟨_, hk⟩)
          · exact hg
          · exact hm.kept k hk
      · have hl' : l ∉ m'.once := fun h => hl ((hm.once l hg).1 h)
        refine ⟨by simp [Met.meet, hl, hl'], ?_⟩
        simp only [Met.meet, List.contains_iff_mem, hl, hl', if_false]
        exact ⟨hm.again, fun k hk => by simp [hm.once k hk], hm.kept⟩
    · obtain ⟨hn, hl, -⟩ := hf l (by simp) hg
      refine ⟨by simp [Met.meet, hn, hl], ?_⟩
      simp only [Met.meet, hn, List.contains_iff_mem, hl, if_false]
      refine ⟨hm.again, fun k hk => ?_, hm.kept⟩
      have hne : k ≠ l := by
        rintro rfl
        exact hg hk
      simp [hm.once k hk, hne]

/-- A way to meet labels, and the way without some of them. -/
structure Visits (g : Nat → Label) (ls : List Nat) (visit visit' : Met → Met) : Prop where
  matches_ {m m' : Met} : m.Matches g m' → Fresh g m ls → (visit m).Matches g (visit' m')
  once (m : Met) : ∀ l ∈ (visit m).once, l ∈ m.once ∨ l ∈ ls

namespace Visits
variable {visit visit' next next' : Met → Met}

theorem refl : Visits g [] id id := ⟨fun hm _ => hm, fun _ _ hl => .inl hl⟩

/-- One after the other. -/
theorem comp (hv : Visits g a visit visit') (hn : Visits g b next next') :
    Visits g (a ++ b) (fun m => next (visit m)) (fun m => next' (visit' m)) where
  matches_ hm hf := hn.matches_ (hv.matches_ hm hf.left) (hf.right (hv.once _))
  once m l hl := by
    rcases hn.once _ l hl with h | h
    · rcases hv.once m l h with h | h
      · exact .inl h
      · exact .inr (List.mem_append_left _ h)
    · exact .inr (List.mem_append_right _ h)

/-- What is inside a value is met with its label only if that is new. -/
theorem meet (label : Label) (hn : Visits g b next next') :
    Visits g (label.toList ++ b)
      (fun m => match m.meet label with | (m, true) => next m | (m, false) => m)
      (fun m => match m.meet (label.bind g) with | (m, true) => next' m | (m, false) => m) where
  matches_ {m m'} hm hf := by
    obtain ⟨h2, h1⟩ := hm.meet hf.left
    have hr := hf.right (m.once_meet label)
    revert h1 h2 hr
    rcases m.meet label with ⟨n, _ | _⟩ <;> rcases m'.meet (label.bind g) with ⟨n', _ | _⟩ <;>
      simp only [Bool.false_eq_true, Bool.true_eq_false, false_implies, forall_true_left]
    · exact fun h _ => h
    · exact fun h hr => hn.matches_ h hr
  once m l hl := by
    have ho := m.once_meet label
    revert ho hl
    rcases m.meet label with ⟨n, _ | _⟩
    · exact fun hl ho => (ho l hl).imp id (List.mem_append_left _)
    · intro hl ho
      rcases hn.once _ l hl with h | h
      · exact (ho l h).imp id (List.mem_append_left _)
      · exact .inr (List.mem_append_right _ h)

end Visits

mutual

theorem visits_visit (g : Nat → Label) :
    ∀ v, Visits g v.labels (visit · v) (visit · (v.relabel g))
  | .null | .bool _ | .int _ | .float _ | .text _ | .octets _ => .refl
  | .time label _ => by
    have h := Visits.meet (g := g) label .refl
    rw [List.append_nil] at h
    exact ⟨fun hm hf => (hm.meet hf).2, fun m => m.once_meet label⟩
  | .list label items => .meet label (visits_items g items)
  | .map label es => .meet label (visits_entries g es)
  | .set label ms => .meet label (visits_items g ms)
  | .pair a b => .comp (visits_visit g a) (visits_visit g b)

theorem visits_items (g : Nat → Label) : ∀ vs, Visits g (Value.itemLabels vs)
    (visitItems · vs) (visitItems · (Value.relabelItems g vs))
  | [] => .refl
  | v :: vs => .comp (visits_visit g v) (visits_items g vs)

theorem visits_entries (g : Nat → Label) : ∀ es, Visits g (Value.entryLabels es)
    (visitEntries · es) (visitEntries · (Value.relabelEntries g es))
  | [] => .refl
  | (k, v) :: es => .comp (.comp (visits_visit g k) (visits_visit g v)) (visits_entries g es)

end

/-- Labels that occur once have no anchor. -/
theorem ofValue_relabel {v : Value} (hg : Value.Drops g v.labels) :
    ofValue (v.relabel g) = ofValue v ∧ ∀ l ∈ ofValue v, g l = some l := by
  have hm : (Met.mk [] []).Matches g ⟨[], []⟩ := ⟨rfl, fun _ _ => .rfl, by simp⟩
  have hf : Fresh g ⟨[], []⟩ v.labels := by
    intro l hl hne
    rcases hg l with h | ⟨hn, hc⟩
    · exact absurd h hne
    · exact ⟨hn, by simp, hc⟩
  have h := (visits_visit g v).matches_ hm hf
  exact ⟨by rw [ofValue, ofValue, h.again], fun l hl => h.kept l (List.mem_reverse.1 hl)⟩

end Anchors

/-! ## Forms -/

namespace Form

/-- What is written of a value, and of the value without some labels. -/
structure Written.Matches (g : Nat → Label) (w w' : Written) : Prop where
  anchored : w'.anchored = w.anchored
  kept : ∀ l ∈ w.anchored, g l = some l
  done : ∀ l, g l = some l → (l ∈ w'.done ↔ l ∈ w.done)

variable {g : Nat → Label} {w w' : Written}

theorem Written.Matches.add (h : w.Matches g w') (hg : ∀ l, g l = some l ∨ g l = none)
    (label : Label) : (w.add label).Matches g (w'.add (label.bind g)) where
  anchored := h.anchored
  kept := h.kept
  done l hl := by
    cases label with
    | none => exact h.done l hl
    | some k =>
      rcases hg k with hk | hk
      · simp [Written.add, hk, h.done l hl]
      · have hne : l ≠ k := by
          rintro rfl
          simp [hl] at hk
        simp [Written.add, hk, h.done l hl, hne]

/-- A label has the same anchor, and is written already, in both or in neither. -/
theorem Written.Matches.anchor (h : w.Matches g w') (hg : ∀ l, g l = some l ∨ g l = none)
    (label : Label) :
    (∃ n, w.anchor label = (some n, true) ∧ w'.anchor (label.bind g) = (some n, true)) ∨
      ∃ a d d', w.anchor label = (a, d) ∧ w'.anchor (label.bind g) = (a, d') ∧
        (a = none ∨ d = false ∧ d' = false) := by
  cases label with
  | none => exact .inr ⟨none, false, false, rfl, rfl, .inl rfl⟩
  | some l =>
    rcases hg l with hl | hl
    · rw [Option.bind_some, hl]
      have hd : w'.done.contains l = w.done.contains l := by
        rw [Bool.eq_iff_iff, List.contains_iff_mem, List.contains_iff_mem, h.done l hl]
      simp only [Written.anchor, h.anchored, hd]
      cases hi : w.anchored.idxOf? l with
      | none => exact .inr ⟨none, _, _, rfl, rfl, .inl rfl⟩
      | some i =>
        cases w.done.contains l with
        | true => exact .inl ⟨_, rfl, rfl⟩
        | false => exact .inr ⟨_, _, _, rfl, rfl, .inr ⟨rfl, rfl⟩⟩
    · have hi : w.anchored.idxOf? l = none := by
        rw [List.idxOf?_eq_none_iff]
        intro hmem
        rw [h.kept l hmem] at hl
        cases hl
      refine .inr ⟨none, w.done.contains l, false, ?_, by simp [hl, Written.anchor], .inl rfl⟩
      simp [Written.anchor, hi]

/-- The same is written, and what is written afterwards still matches. -/
structure Agrees {α : Type} (g : Nat → Label) (r r' : α × Written) : Prop where
  form : r'.1 = r.1
  written : r.2.Matches g r'.2

/-- What is written under a label: an alias in both, or the value in both. -/
theorem agrees_labelled (h : w.Matches g w') (hg : ∀ l, g l = some l ∨ g l = none) (label : Label)
    {f f' : AnchorNumber → Form × Written} (hf : ∀ a, Agrees g (f a) (f' a)) :
    Agrees g (match w.anchor label with | (some n, true) => (.alias n, w) | (a, _) => f a)
      (match w'.anchor (label.bind g) with | (some n, true) => (.alias n, w') | (a, _) => f' a) := by
  rcases h.anchor hg label with ⟨n, hn, hn'⟩ | ⟨a, d, d', hn, hn', ha⟩
  · rw [hn, hn']
    exact ⟨rfl, h⟩
  · rw [hn, hn']
    rcases ha with rfl | ⟨rfl, rfl⟩
    · exact hf none
    · cases a with
      | none => exact hf none
      | some n => exact hf (some n)

mutual

theorem agrees_value (hg : ∀ l, g l = some l ∨ g l = none) :
    ∀ (v : Value) {w w' : Written}, w.Matches g w' →
      Agrees g (ofValueAt w v) (ofValueAt w' (v.relabel g))
  | .null, _, _, h | .bool _, _, _, h | .int _, _, _, h | .float _, _, _, h | .text _, _, _, h
  | .octets _, _, _, h => ⟨rfl, h⟩
  | .time label _, _, _, h => agrees_labelled h hg label fun _ => ⟨rfl, h.add hg label⟩
  | .list label items, _, _, h => agrees_labelled h hg label fun a => by
    have hi := agrees_items hg items (h.add hg label)
    exact ⟨congrArg (Form.sequence a) hi.form, hi.written⟩
  | .map label es, _, _, h => agrees_labelled h hg label fun a => by
    have he := agrees_entries hg es (h.add hg label)
    exact ⟨congrArg (Form.mapping a .map) he.form, he.written⟩
  | .set label ms, _, _, h => agrees_labelled h hg label fun a => by
    have hi := agrees_items hg ms (h.add hg label)
    exact ⟨congrArg (fun fs : List Form =>
      Form.mapping a .set (fs.map fun f => (f, .scalar none .null "null".toList))) hi.form, hi.written⟩
  | .pair a b, _, _, h => by
    have ha := agrees_value hg a h
    have hb := agrees_value hg b ha.written
    exact ⟨by simp only [ofValueAt, Value.relabel, ha.form, hb.form], hb.written⟩

theorem agrees_items (hg : ∀ l, g l = some l ∨ g l = none) :
    ∀ (vs : List Value) {w w' : Written}, w.Matches g w' →
      Agrees g (ofItems w vs) (ofItems w' (Value.relabelItems g vs))
  | [], _, _, h => ⟨rfl, h⟩
  | v :: vs, _, _, h => by
    have hv := agrees_value hg v h
    have hvs := agrees_items hg vs hv.written
    exact ⟨by simp only [ofItems, Value.relabelItems, hv.form, hvs.form], hvs.written⟩

theorem agrees_entries (hg : ∀ l, g l = some l ∨ g l = none) :
    ∀ (es : List (Value × Value)) {w w' : Written}, w.Matches g w' →
      Agrees g (ofEntries w es) (ofEntries w' (Value.relabelEntries g es))
  | [], _, _, h => ⟨rfl, h⟩
  | (k, v) :: es, _, _, h => by
    have hk := agrees_value hg k h
    have hv := agrees_value hg v hk.written
    have hes := agrees_entries hg es hv.written
    exact ⟨by simp only [ofEntries, Value.relabelEntries, hk.form, hv.form, hes.form], hes.written⟩

end

/-- **A value is written as without the labels that occur once.** -/
theorem ofValue_relabel {v : Value} (hg : Value.Drops g v.labels) :
    ofValue (v.relabel g) = ofValue v := by
  obtain ⟨ha, hk⟩ := Anchors.ofValue_relabel hg
  have h : (Written.mk (Anchors.ofValue v) []).Matches g ⟨Anchors.ofValue v, []⟩ :=
    ⟨rfl, hk, fun _ _ => .rfl⟩
  rw [ofValue, ofValue, ha]
  exact (agrees_value (fun l => (hg l).imp id And.left) v h).form

end Form

end Yaml

/-! ## Integers -/

namespace Value

mutual

theorem isWritable_relabel (f : Nat → Label) : ∀ v, isWritable (relabel f v) = isWritable v
  | .null | .bool _ | .int _ | .float _ | .text _ | .octets _ | .time _ _ => rfl
  | .list _ items => areWritable_relabel f items
  | .map _ es => entriesAreWritable_relabel f es
  | .set _ ms => areWritable_relabel f ms
  | .pair a b => by
    rw [relabel, isWritable, isWritable, isWritable_relabel f a, isWritable_relabel f b]

theorem areWritable_relabel (f : Nat → Label) :
    ∀ vs, areWritable (relabelItems f vs) = areWritable vs
  | [] => rfl
  | v :: vs => by
    rw [relabelItems, areWritable, areWritable, isWritable_relabel f v, areWritable_relabel f vs]

theorem entriesAreWritable_relabel (f : Nat → Label) :
    ∀ es, entriesAreWritable (relabelEntries f es) = entriesAreWritable es
  | [] => rfl
  | (k, v) :: es => by
    rw [relabelEntries, entriesAreWritable, entriesAreWritable, isWritable_relabel f k,
      isWritable_relabel f v, entriesAreWritable_relabel f es]

end

end Value

end Folio
