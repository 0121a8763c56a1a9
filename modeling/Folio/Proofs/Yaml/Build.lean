/-
  Folio — basic values are built from nodes that show them.

  A node that shows the form of a basic value is built into that value, and no fault
  is met: its keys are different texts, which neither merge nor clash, so each entry
  is put after those before it.

  * `Build.value_of_shows`: the value of a node that shows the form of a value;
  * `Yaml.decode_laid`: the value of a mapping that is laid out as a text.
-/
import Folio.Document.Header
import Folio.Proofs.Yaml.Basic
import Folio.Proofs.Yaml.Compose

namespace Folio

/-! ## Entries with fresh keys -/

theorem Value.text_same (s : String) (v : Value) : (Value.text s).same v = v.same (.text s) := by
  cases v with
  | text t => simp [Bool.beq_comm]
  | _ => simp [Value.same, Value.ratio?]

namespace Entries

theorem put_eq_append {key value : Value} {es : Entries} (h : ∀ e ∈ es, e.1.same key = false) :
    es.put key value = es ++ [(key, value)] := by
  induction es with
  | nil => rfl
  | cons e es ih =>
    rw [put, h e List.mem_cons_self, ih fun x hx => h x (List.mem_cons_of_mem _ hx)]
    rfl

/-- Entries whose keys are different texts are put after one another. -/
theorem foldl_put {es acc : Entries} (h : Value.entriesAreBasic es = true)
    (hacc : ∀ e ∈ es, ∀ a ∈ acc, a.1.same e.1 = false) :
    es.foldl (fun acc e => acc.put e.1 e.2) acc = acc ++ es := by
  induction es generalizing acc with
  | nil => simp
  | cons e es ih =>
    obtain ⟨k, v⟩ := e
    obtain ⟨⟨s, rfl, hs⟩, -, hes⟩ := Value.entriesAreBasic_cons.1 h
    rw [List.foldl_cons, put_eq_append (hacc _ List.mem_cons_self), ih hes, List.append_assoc]
    · rfl
    · intro e he a ha
      rcases List.mem_append.1 ha with ha | ha
      · exact hacc e (List.mem_cons_of_mem _ he) a ha
      · obtain rfl := List.mem_singleton.1 ha
        exact (Value.text_same s e.1).trans (hs e he)

end Entries

namespace Yaml

/-! ## Values -/

namespace Build
variable {fuel round : Nat}

theorem scalar_text {α : Type} {m : Mark} {tag : Tag} {cs : List Char} {a : α}
    {convert : List Char → Except Error α} {wrap : α → Value} (h : convert cs = .ok a) :
    scalar fuel round (.scalar none m tag cs) convert wrap = ⟨wrap a, []⟩ := by
  have : scalarText fuel (.scalar none m tag cs) = .ok cs := by cases fuel <;> rfl
  rw [scalar, this]
  change Built.ofExcept round .null (Except.bind (convert cs) fun a => .ok (wrap a)) = _
  rw [h]
  rfl

/-- The nodes of entries that are built into them. -/
def EntriesRead (fuel round : Nat) (es : Entries) (ns : List (Node × Node)) : Prop :=
  List.Forall₂ (fun e n => ∃ m s, e.1 = .text s ∧ n.1 = .scalar none m .str s.toList ∧
    value Header.rules fuel round n.2 = ⟨e.2, []⟩) es ns

variable {es : Entries} {ns : List (Node × Node)}

/-- Texts as keys merge nothing. -/
theorem mergeEntries_eq (h : EntriesRead fuel round es ns) (f : Nat) (start : Mark) :
    mergeEntries f start ns = .ok ns := by
  cases f with
  | zero => rfl
  | succ f =>
    have htag : ∀ n ∈ ns, n.1.tag = .str := by
      induction h with
      | nil => simp
      | cons hn _ ih =>
        obtain ⟨m, s, -, hn, -⟩ := hn
        exact List.forall_mem_cons.2 ⟨by rw [hn]; rfl, ih⟩
    have hmerge : (ns.filter fun e => e.1.tag == .merge) = [] :=
      List.filter_eq_nil_iff.2 fun n hn => by simp [htag n hn]
    have hown : (ns.filter fun e => e.1.tag != .merge) = ns :=
      List.filter_eq_self.2 fun n hn => by simp [htag n hn]
    have hmap : (ns.map fun e => if e.1.tag == .value then (e.1.withTag .str, e.2) else e) = ns := by
      refine (List.map_congr_left fun n hn => ?_).trans (List.map_id ns)
      simp [htag n hn]
    rw [mergeEntries, hmerge, hown, hmap]
    rfl

theorem value_key {m : Mark} {s : String} :
    value Header.rules (fuel + 1) round (.scalar none m .str s.toList) = ⟨.text s, []⟩ := by
  rw [value]
  exact (scalar_text rfl).trans (by rw [String.ofList_toList])

/-- Different texts as keys do not clash. -/
theorem keyFaults_eq_nil (h : EntriesRead (fuel + 1) round es ns)
    (hes : Value.entriesAreBasic es = true) (start : Mark) (seen : List Value)
    (hseen : ∀ e ∈ es, ∀ k ∈ seen, k.same e.1 = false) :
    keyFaults round start seen (ns.filterMap fun e =>
      match e.1 with
      | .scalar _ m _ _ => some (m, value Header.rules (fuel + 1) round e.1)
      | _ => none) = [] := by
  induction h generalizing seen with
  | nil => rfl
  | @cons e n es ns hn _ ih =>
    obtain ⟨k, v⟩ := e
    obtain ⟨key, node⟩ := n
    obtain ⟨m, s, rfl, rfl, -⟩ := hn
    obtain ⟨⟨s', hs', hfresh⟩, -, hes⟩ := Value.entriesAreBasic_cons.1 hes
    obtain rfl : s = s' := by simpa using hs'
    have hnone : seen.any (·.same (.text s)) = false :=
      List.any_eq_false.2 fun k hk => by simp [hseen _ List.mem_cons_self k hk]
    change keyFaults round start seen ((m, value Header.rules (fuel + 1) round
      (.scalar none m .str s.toList)) :: ns.filterMap _) = []
    rw [keyFaults, value_key]
    simp only [hnone, Value.isKey, Bool.not_true, Bool.false_eq_true, if_false, List.nil_append]
    refine ih hes _ fun e he k hk => ?_
    rcases List.mem_cons.1 hk with rfl | hk
    · exact (Value.text_same s e.1).trans (hfresh e he)
    · exact hseen e (List.mem_cons_of_mem _ he) k hk

/-- A key and a value, with the place of the key, as they are built. -/
def entry (fuel round : Nat) (e : Node × Node) : Mark × Built Value × Built Value :=
  (e.1.mark, value Header.rules fuel round e.1, value Header.rules fuel round e.2)

theorem faults_eq_nil (h : EntriesRead (fuel + 1) round es ns) (start : Mark) :
    ((ns.map (entry (fuel + 1) round)).flatMap fun (m, key, val) =>
      let unhashable : List Fault :=
        if key.value.isKey then []
        else [(round, .marked (some (.mapping, some start)) .unhashableKey m)]
      key.faults ++ unhashable ++ val.faults) = [] := by
  induction h with
  | nil => rfl
  | cons hn _ ih =>
    obtain ⟨m, s, -, hkey, hval⟩ := hn
    rw [List.map_cons, List.flatMap_cons, ih, entry, hkey, value_key, hval]
    rfl

theorem foldl_put_entry (h : EntriesRead (fuel + 1) round es ns) (acc : Entries) :
    (ns.map (entry (fuel + 1) round)).foldl
        (fun (acc : Entries) (_, key, val) => acc.put key.value val.value) acc =
      es.foldl (fun acc e => acc.put e.1 e.2) acc := by
  induction h generalizing acc with
  | nil => rfl
  | @cons e n es ns hn _ ih =>
    obtain ⟨k, v⟩ := e
    obtain ⟨m, s, rfl, hkey, hval⟩ := hn
    rw [List.map_cons, List.foldl_cons, List.foldl_cons, ← ih, entry, hkey, value_key, hval]

/-- The entries of a mapping whose keys are different texts. -/
theorem entries_eq (h : EntriesRead (fuel + 1) round es ns) (hes : Value.entriesAreBasic es = true)
    (m : Mark) : entries Header.rules (fuel + 2) round (.mapping none m .map ns) = ⟨es, []⟩ := by
  have hput := (foldl_put_entry h []).trans (Entries.foldl_put hes (by simp))
  have hkeys := keyFaults_eq_nil h hes m [] (by simp)
  have hfaults := faults_eq_nil h m
  rw [entries, mergeEntries_eq h]
  refine (Built.mk.injEq ..).mpr ⟨hput, ?_⟩
  change keyFaults round m [] _ ++ [] ++ _ = []
  rw [List.append_nil]
  exact congrArg₂ (· ++ ·) hkeys hfaults

mutual

/-- **The node that shows the form of a basic value** is built into the value. -/
theorem value_of_shows (w : Form.Written) : ∀ v : Value, v.isBasic = true → v.isWritable = true →
    ∀ {n : Node} (fuel round : Nat), (Form.ofValueAt w v).1.Shows n →
      2 * n.height < fuel → value Header.rules fuel round n = ⟨v, []⟩
  | .null, _, _, n, fuel, round, ⟨m, hn⟩, hf => by
    obtain ⟨fuel, rfl⟩ := Nat.exists_eq_add_one_of_ne_zero (Nat.ne_zero_of_lt hf)
    subst hn
    rw [value]
    exact scalar_text rfl
  | .bool b, _, _, n, fuel, round, ⟨m, hn⟩, hf => by
    obtain ⟨fuel, rfl⟩ := Nat.exists_eq_add_one_of_ne_zero (Nat.ne_zero_of_lt hf)
    subst hn
    rw [value]
    refine scalar_text ?_
    cases b <;> decide +kernel
  | .int i, _, hw, n, fuel, round, ⟨m, hn⟩, hf => by
    obtain ⟨fuel, rfl⟩ := Nat.exists_eq_add_one_of_ne_zero (Nat.ne_zero_of_lt hf)
    subst hn
    rw [value]
    refine scalar_text ?_
    rw [unplaced, int_intText (by simpa [Value.isWritable] using hw)]
    rfl
  | .text s, _, _, n, fuel, round, ⟨m, hn⟩, hf => by
    obtain ⟨fuel, rfl⟩ := Nat.exists_eq_add_one_of_ne_zero (Nat.ne_zero_of_lt hf)
    subst hn
    exact value_key
  | .list none items, hb, hw, n, fuel, round, hs, hf => by
    rw [Form.ofValueAt_list] at hs
    obtain ⟨m, ns, rfl, hns⟩ := hs
    rw [Node.height] at hf
    obtain ⟨fuel, rfl⟩ : ∃ k, fuel = k + 2 := ⟨fuel - 2, by omega⟩
    have hitems : sequence Header.rules (fuel + 1) (round + 1) (.sequence none m .seq ns) =
        ⟨items, []⟩ := by
      rw [sequence, items_of_show w items hb hw _ (round + 1) hns (by omega)]
      simp [Built.sound, Function.comp_def]
    rw [value]
    simp only [Node.tag, Node.label, hitems]
  | .map none es, hb, hw, n, fuel, round, hs, hf => by
    rw [Form.ofValueAt_map] at hs
    obtain ⟨m, ns, rfl, hns⟩ := hs
    rw [Node.height] at hf
    obtain ⟨fuel, rfl⟩ : ∃ k, fuel = k + 3 := ⟨fuel - 3, by omega⟩
    have hread := entriesRead_of_show w es hb hw (fuel + 1) (round + 1) hns (by omega)
    rw [value]
    simp only [Node.tag, Node.label, entries_eq hread hb m]

/-- The values of the nodes of items. -/
theorem items_of_show (w : Form.Written) : ∀ vs : List Value, Value.areBasic vs = true →
    Value.areWritable vs = true → ∀ {ns : List Node} (fuel round : Nat),
      Form.ItemsShow (Form.ofItems w vs).1 ns → 2 * Node.itemsHeight ns < fuel →
        ns.map (value Header.rules fuel round) = vs.map Built.sound
  | [], _, _, _, _, _, hs, _ => by
    obtain rfl := hs
    rfl
  | v :: vs, hb, hw, ns, fuel, round, hs, hf => by
    obtain ⟨hv, hvs⟩ := Value.areBasic_cons.1 hb
    rw [Form.ofItems_cons w hv] at hs
    obtain ⟨n, ns, rfl, hn, hns⟩ := hs
    rw [Node.itemsHeight] at hf
    simp only [Value.areWritable, Bool.and_eq_true] at hw
    rw [List.map_cons, List.map_cons, value_of_shows w v hv hw.1 fuel round hn (by omega),
      items_of_show w vs hvs hw.2 fuel round hns (by omega)]
    rfl

/-- The values of the nodes of entries. -/
theorem entriesRead_of_show (w : Form.Written) : ∀ es : Entries, Value.entriesAreBasic es = true →
    Value.entriesAreWritable es = true → ∀ {ns : List (Node × Node)} (fuel round : Nat),
      Form.EntriesShow (Form.ofEntries w es).1 ns → 2 * Node.entriesHeight ns < fuel →
        EntriesRead fuel round es ns
  | [], _, _, _, _, _, hs, _ => by
    obtain rfl := hs
    exact .nil
  | (k, v) :: es, hb, hw, ns, fuel, round, hs, hf => by
    obtain ⟨⟨s, rfl, -⟩, hv, hes⟩ := Value.entriesAreBasic_cons.1 hb
    rw [Form.ofEntries_cons w hv] at hs
    obtain ⟨a, b, ns, rfl, ⟨m, rfl⟩, hb, hns⟩ := hs
    rw [Node.entriesHeight] at hf
    simp only [Value.entriesAreWritable, Bool.and_eq_true] at hw
    have hv := value_of_shows w v hv hw.1.2 fuel round hb (by omega)
    exact .cons ⟨m, s, rfl, rfl, hv⟩ (entriesRead_of_show w es hes hw.2 fuel round hns (by omega))

end

end Build

/-! ## Signs -/

namespace Node

mutual

/-- The nodes that show basic values have no signs and no labels. -/
theorem isClearIn_of_shows (w : Form.Written) : ∀ v : Value, v.isBasic = true → ∀ {n : Node},
    Form.Shows (Form.ofValueAt w v).1 n → n.isClearIn false = true
  | .null, _, n, ⟨m, hn⟩ | .bool _, _, n, ⟨m, hn⟩ | .int _, _, n, ⟨m, hn⟩
  | .text _, _, n, ⟨m, hn⟩ => by
    subst hn
    rfl
  | .list none items, hb, n, hs => by
    rw [Form.ofValueAt_list] at hs
    obtain ⟨m, ns, rfl, hns⟩ := hs
    exact itemsAreClear_of_show w items hb hns
  | .map none es, hb, n, hs => by
    rw [Form.ofValueAt_map] at hs
    obtain ⟨m, ns, rfl, hns⟩ := hs
    exact entriesAreClear_of_show w es hb hns

theorem itemsAreClear_of_show (w : Form.Written) : ∀ vs : List Value, Value.areBasic vs = true →
    ∀ {ns : List Node}, Form.ItemsShow (Form.ofItems w vs).1 ns →
      itemsAreClear false false ns = true
  | [], _, _, hs => by
    obtain rfl := hs
    rfl
  | v :: vs, hb, ns, hs => by
    obtain ⟨hv, hvs⟩ := Value.areBasic_cons.1 hb
    rw [Form.ofItems_cons w hv] at hs
    obtain ⟨n, ns, rfl, hn, hns⟩ := hs
    simp [itemsAreClear, isClearIn_of_shows w v hv hn, itemsAreClear_of_show w vs hvs hns]

theorem entriesAreClear_of_show (w : Form.Written) : ∀ es : Entries,
    Value.entriesAreBasic es = true → ∀ {ns : List (Node × Node)},
      Form.EntriesShow (Form.ofEntries w es).1 ns → entriesAreClear false ns = true
  | [], _, _, hs => by
    obtain rfl := hs
    rfl
  | (k, v) :: es, hb, ns, hs => by
    obtain ⟨⟨s, rfl, -⟩, hv, hes⟩ := Value.entriesAreBasic_cons.1 hb
    rw [Form.ofEntries_cons w hv] at hs
    obtain ⟨a, b, ns, rfl, ⟨m, rfl⟩, hb, hns⟩ := hs
    simp [entriesAreClear, isClearKey, tag, isClearIn, isClearIn_of_shows w v hv hb,
      entriesAreClear_of_show w es hes hns]

end

end Node

/-- **A mapping that is laid out from column zero is decoded.** -/
theorem decode_laid {es : Entries} {w : Form.Written} {t : List Char} (hne : es ≠ [])
    (hb : Value.entriesAreBasic es = true) (hw : Value.entriesAreWritable es = true)
    (h : Form.EntriesLaid true 0 (Form.ofEntries w es).1 (freshLine 0 ++ t))
    (hacc : ∀ x ∈ t, isAcceptable x = true) :
    decode Header.rules (t ++ ['\n']) = .ok (.map none es) := by
  have hforms : (Form.ofEntries w es).1 ≠ [] := by
    match es, hne with
    | (k, v) :: es, _ => exact List.cons_ne_nil _ _
  obtain ⟨n, hn, hread⟩ := Node.ofText?_laid hforms h hacc
  have hvalue := Build.value_of_shows w (.map none es) hb hw (n := n) (2 * n.height + 1) 0 hn
    (Nat.lt_succ_self _)
  rw [decode, show Header.rules.timestamps = false from rfl, hread]
  change n.value Header.rules = _
  rw [Node.value, Node.isClear, if_pos (Node.isClearIn_of_shows w (.map none es) hb hn), hvalue]
  rfl

end Yaml

end Folio
