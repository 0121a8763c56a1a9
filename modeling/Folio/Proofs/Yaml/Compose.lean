/-
  Folio — nodes from the tokens of a form.

  The tokens of a form are read as one node, which shows the form: it has the form's
  texts and tags and no labels.

  * `Form.Shows`: the nodes that show a form;
  * `Node.ofText?_laid`: the node of a text laid out for a mapping.
-/
import Folio.Proofs.Yaml.Tokens
import Folio.Yaml.Node

namespace Folio.Yaml

namespace Form

mutual

/-- Has the node the texts and tags of the form? -/
def Shows : Form → Node → Prop
  | .alias _, _ => False
  | .scalar _ tag cs, n => ∃ m, n = .scalar none m tag cs
  | .sequence _ fs, n => ∃ m ns, n = .sequence none m .seq ns ∧ ItemsShow fs ns
  | .mapping _ tag es, n => ∃ m ns, n = .mapping none m tag ns ∧ EntriesShow es ns

/-- Have the nodes the texts and tags of the forms? -/
def ItemsShow : List Form → List Node → Prop
  | [], ns => ns = []
  | f :: fs, ns => ∃ n ms, ns = n :: ms ∧ Shows f n ∧ ItemsShow fs ms

/-- Have the entries the texts and tags of the forms? -/
def EntriesShow : List (Form × Form) → List (Node × Node) → Prop
  | [], ns => ns = []
  | (k, v) :: es, ns => ∃ a b ms, ns = (a, b) :: ms ∧ Shows k a ∧ Shows v b ∧ EntriesShow es ms

end

/-- The first token of a form, unless it is a sequence below a key. -/
theorem exists_kind {below : Bool} {ks : List TokenKind} {f : Form} (h : f.Kinds below ks) :
    ∃ k rest, ks = k :: rest ∧ k ≠ .key ∧ k ≠ .value ∧ k ≠ .blockEnd ∧
      (below = false → k ≠ .blockEntry) := by
  match f, h with
  | .scalar _ _ cs, ⟨plain, h, _⟩ => exact ⟨_, [], h, by simp, by simp, by simp, by simp⟩
  | .sequence _ fs, h =>
    simp only [Kinds] at h
    split at h
    · exact ⟨_, _, h, by simp, by simp, by simp, by simp⟩
    · rename_i hne
      split at h
      · match fs, h with
        | _ :: _, ⟨_, _, h, _⟩ => exact ⟨_, _, h, by simp, by simp, by simp, by simp [*]⟩
        | [], _ => exact absurd rfl hne
      · obtain ⟨is, h, -⟩ := h
        exact ⟨_, _, h, by simp, by simp, by simp, by simp⟩
  | .mapping _ _ es, h =>
    simp only [Kinds] at h
    obtain ⟨-, h⟩ := h
    split at h
    · exact ⟨_, _, h, by simp, by simp, by simp, by simp⟩
    · obtain ⟨is, h, -⟩ := h
      exact ⟨_, _, h, by simp, by simp, by simp, by simp⟩

end Form

namespace Reader

/-- Before some tokens, when no anchor has been met. -/
def before (ts : List Token) : Reading :=
  { timestamps := false, tokens := ts, error := none, handles := defaultHandles, anchors := [] }

variable {ts rest : List Token} {fuel : Nat} {a b : Mark}

theorem node_scalar (plain block indentless : Bool) (cs : List Char) :
    node (fuel + 1) block indentless (before (⟨.scalar plain cs, a, b⟩ :: ts)) =
      .ok (.scalar none a (readTag plain cs) cs, before ts) := by
  rw [node]
  cases plain <;> rfl

theorem node_sequence {ns : List Node} (indentless : Bool)
    (h : blockSequence fuel a (before ts) = .ok (ns, before rest)) :
    node (fuel + 1) true indentless (before (⟨.blockSequenceStart, a, b⟩ :: ts)) =
      .ok (.sequence none a .seq ns, before rest) := by
  rw [node]
  change (blockSequence fuel a (before ts)).bind
    (fun r => .ok (Node.sequence none a .seq r.1, r.2)) = _
  rw [h]
  rfl

theorem node_indentless {ns : List Node} (block : Bool)
    (h : indentlessSequence fuel (before (⟨.blockEntry, a, b⟩ :: ts)) = .ok (ns, before rest)) :
    node (fuel + 1) block true (before (⟨.blockEntry, a, b⟩ :: ts)) =
      .ok (.sequence none a .seq ns, before rest) := by
  rw [node]
  change (indentlessSequence fuel (before (⟨.blockEntry, a, b⟩ :: ts))).bind
    (fun r => .ok (Node.sequence none a .seq r.1, r.2)) = _
  rw [h]
  rfl

theorem node_mapping {ns : List (Node × Node)} (indentless : Bool)
    (h : blockMapping fuel a (before ts) = .ok (ns, before rest)) :
    node (fuel + 1) true indentless (before (⟨.blockMappingStart, a, b⟩ :: ts)) =
      .ok (.mapping none a .map ns, before rest) := by
  rw [node]
  change (blockMapping fuel a (before ts)).bind
    (fun r => .ok (Node.mapping none a .map r.1, r.2)) = _
  rw [h]
  rfl

theorem node_brackets {c d : Mark} (block indentless : Bool) :
    node (fuel + 2) block indentless
      (before (⟨.flowSequenceStart, a, b⟩ :: ⟨.flowSequenceEnd, c, d⟩ :: ts)) =
      .ok (.sequence none a .seq [], before ts) := by
  rw [node]
  change (flowSequence (fuel + 1) a true (before (⟨.flowSequenceEnd, c, d⟩ :: ts))).bind
    (fun r => .ok (Node.sequence none a .seq r.1, r.2)) = _
  rw [flowSequence]
  rfl

theorem node_braces {c d : Mark} (block indentless : Bool) :
    node (fuel + 2) block indentless
      (before (⟨.flowMappingStart, a, b⟩ :: ⟨.flowMappingEnd, c, d⟩ :: ts)) =
      .ok (.mapping none a .map [], before ts) := by
  rw [node]
  change (flowMapping (fuel + 1) a true (before (⟨.flowMappingEnd, c, d⟩ :: ts))).bind
    (fun r => .ok (Node.mapping none a .map r.1, r.2)) = _
  rw [flowMapping]
  rfl

/-! ## Items and entries -/

theorem blockSequence_end (start : Mark) :
    blockSequence (fuel + 1) start (before (⟨.blockEnd, a, b⟩ :: ts)) = .ok ([], before ts) := by
  rw [blockSequence]
  rfl

theorem blockSequence_item {start : Mark} {t : Token} {n : Node} {ns : List Node}
    (ht : t.kind ≠ .blockEntry ∧ t.kind ≠ .blockEnd) {mid : List Token}
    (hn : node fuel true false (before (t :: ts)) = .ok (n, before mid))
    (hs : blockSequence fuel start (before mid) = .ok (ns, before rest)) :
    blockSequence (fuel + 1) start (before (⟨.blockEntry, a, b⟩ :: t :: ts)) =
      .ok (n :: ns, before rest) := by
  have hone : isOneOf t [.blockEntry, .blockEnd] = false := by
    simp [isOneOf, ht.1, ht.2]
  rw [blockSequence]
  change (if isOneOf t [.blockEntry, .blockEnd] = true then _ else _ : Reader (List Node))
    (before (t :: ts)) = _
  rw [hone]
  change (node fuel true false (before (t :: ts))).bind _ = _
  rw [hn]
  change (blockSequence fuel start (before mid)).bind _ = _
  rw [hs]
  rfl

theorem indentlessSequence_end {t : Token} (ht : t.kind ≠ .blockEntry) :
    indentlessSequence (fuel + 1) (before (t :: ts)) = .ok ([], before (t :: ts)) := by
  rw [indentlessSequence]
  have hk : (t.kind == .blockEntry) = false := by simpa using ht
  change (if (t.kind == .blockEntry) = true then _ else _ : Reader (List Node)) (before (t :: ts)) = _
  rw [hk]
  rfl

theorem indentlessSequence_item {t : Token} {n : Node} {ns : List Node}
    (ht : t.kind ≠ .blockEntry ∧ t.kind ≠ .key ∧ t.kind ≠ .value ∧ t.kind ≠ .blockEnd)
    {mid : List Token} (hn : node fuel true false (before (t :: ts)) = .ok (n, before mid))
    (hs : indentlessSequence fuel (before mid) = .ok (ns, before rest)) :
    indentlessSequence (fuel + 1) (before (⟨.blockEntry, a, b⟩ :: t :: ts)) =
      .ok (n :: ns, before rest) := by
  have hone : isOneOf t [.blockEntry, .key, .value, .blockEnd] = false := by
    simp [isOneOf, ht.1, ht.2.1, ht.2.2.1, ht.2.2.2]
  rw [indentlessSequence]
  change (if isOneOf t [.blockEntry, .key, .value, .blockEnd] = true then _ else _ :
    Reader (List Node)) (before (t :: ts)) = _
  rw [hone]
  change (node fuel true false (before (t :: ts))).bind _ = _
  rw [hn]
  change (indentlessSequence fuel (before mid)).bind _ = _
  rw [hs]
  rfl

theorem blockMapping_end (start : Mark) :
    blockMapping (fuel + 1) start (before (⟨.blockEnd, a, b⟩ :: ts)) = .ok ([], before ts) := by
  rw [blockMapping]
  rfl

theorem blockPart_eq {t sign : Token} {n : Node}
    (ht : t.kind ≠ .key ∧ t.kind ≠ .value ∧ t.kind ≠ .blockEnd) {mid : List Token}
    (hn : node fuel true true (before (t :: ts)) = .ok (n, before mid)) :
    blockPart (fuel + 1) sign (before (t :: ts)) = .ok (n, before mid) := by
  have hone : isOneOf t [.key, .value, .blockEnd] = false := by
    simp [isOneOf, ht.1, ht.2.1, ht.2.2]
  rw [blockPart]
  change (if isOneOf t [.key, .value, .blockEnd] then empty sign.stop else node fuel true true)
    (before (t :: ts)) = _
  rw [hone]
  exact hn

theorem blockMapping_entry {start c d : Mark} {key value : Node} {ns : List (Node × Node)}
    {mid mid' : List Token}
    (hk : blockPart fuel ⟨.key, a, b⟩ (before ts) = .ok (key, before (⟨.value, c, d⟩ :: mid)))
    (hv : blockPart fuel ⟨.value, c, d⟩ (before mid) = .ok (value, before mid'))
    (hs : blockMapping fuel start (before mid') = .ok (ns, before rest)) :
    blockMapping (fuel + 1) start (before (⟨.key, a, b⟩ :: ts)) =
      .ok ((key, value) :: ns, before rest) := by
  rw [blockMapping]
  change (blockPart fuel ⟨.key, a, b⟩ (before ts)).bind _ = _
  rw [hk]
  change (blockPart fuel ⟨.value, c, d⟩ (before mid)).bind _ = _
  rw [hv]
  change (blockMapping fuel start (before mid')).bind _ = _
  rw [hs]
  rfl

/-! ## Forms -/

/-- The first token of a form, with its kind. -/
theorem exists_token {f : Form} {below : Bool} {ks : List TokenKind} (h : f.Kinds below ks)
    (hts : ts.map Token.kind = ks) :
    ∃ t us, ts = t :: us ∧ t.kind ≠ .key ∧ t.kind ≠ .value ∧ t.kind ≠ .blockEnd ∧
      (below = false → t.kind ≠ .blockEntry) := by
  obtain ⟨k, us, hk, h⟩ := Form.exists_kind h
  obtain ⟨t, us, rfl, rfl, -⟩ := List.map_eq_cons_iff.1 (hts.trans hk)
  exact ⟨t, us, rfl, h⟩

mutual

/-- The tokens of a form are read as a node that shows it. -/
theorem node_of_kinds : ∀ (f : Form) {below : Bool} {ks : List TokenKind}, f.Kinds below ks →
    ∀ {ts : List Token} (rest : List Token) (fuel : Nat) (indentless : Bool), ts.map Token.kind = ks →
      3 * ks.length + 2 ≤ fuel →
      (below = true → indentless = true ∧ ∃ t us, rest = t :: us ∧ t.kind ≠ .blockEntry) →
      ∃ n, f.Shows n ∧ node fuel true indentless (before (ts ++ rest)) = .ok (n, before rest)
  | .scalar _ tag cs, _, _, ⟨plain, hks, htag⟩, ts, rest, fuel, indentless, hts, hf, _ => by
    subst hks htag
    obtain ⟨⟨k, a, b⟩, us, rfl, rfl, hus⟩ := List.map_eq_cons_iff.1 hts
    obtain rfl := List.map_eq_nil_iff.1 hus
    obtain ⟨fuel, rfl⟩ : ∃ k, fuel = k + 1 := ⟨fuel - 1, by omega⟩
    exact ⟨_, ⟨a, rfl⟩, node_scalar plain true indentless cs⟩
  | .sequence _ fs, below, ks, h, ts, rest, fuel, indentless, hts, hf, hb => by
    simp only [Form.Kinds] at h
    by_cases hne : fs.isEmpty = true
    · simp only [hne, if_true] at h
      subst h
      obtain ⟨⟨k, a, b⟩, us, rfl, rfl, hus⟩ := List.map_eq_cons_iff.1 hts
      obtain ⟨⟨k, c, d⟩, us, rfl, rfl, hnil⟩ := List.map_eq_cons_iff.1 hus
      obtain rfl := List.map_eq_nil_iff.1 hnil
      obtain ⟨fuel, rfl⟩ : ∃ k, fuel = k + 2 := ⟨fuel - 2, by omega⟩
      obtain rfl := List.isEmpty_iff.1 hne
      exact ⟨_, ⟨a, [], rfl, rfl⟩, node_brackets true indentless⟩
    · simp only [hne] at h
      obtain ⟨fuel, rfl⟩ : ∃ k, fuel = k + 1 := ⟨fuel - 1, by omega⟩
      cases below with
      | true =>
        simp only [if_true] at h
        obtain ⟨rfl, t, us, rfl, ht⟩ := hb rfl
        obtain ⟨ns, hns, hread⟩ := indentlessSequence_of_kinds fs h (t :: us) fuel hts
          (by omega) ⟨t, us, rfl, ht⟩
        match fs, h with
        | _ :: _, ⟨_, _, hks, _, _⟩ =>
          obtain ⟨⟨k, a, b⟩, ts, rfl, rfl, hus⟩ := List.map_eq_cons_iff.1 (hts.trans hks)
          exact ⟨_, ⟨a, ns, rfl, hns⟩, node_indentless true hread⟩
        | [], _ => exact absurd rfl hne
      | false =>
        simp only [Bool.false_eq_true, if_false] at h
        obtain ⟨is, rfl, h⟩ := h
        obtain ⟨⟨k, a, b⟩, us, rfl, rfl, hus⟩ := List.map_eq_cons_iff.1 hts
        obtain ⟨us, close, rfl, his, hclose⟩ := List.map_eq_append_iff.1 hus
        obtain ⟨⟨k, c, d⟩, close, rfl, rfl, hc⟩ := List.map_eq_cons_iff.1 hclose
        obtain rfl := List.map_eq_nil_iff.1 hc
        obtain ⟨ns, hns, hread⟩ := blockSequence_of_kinds fs h rest fuel his
          (by simp at hf; omega) a c d
        refine ⟨_, ⟨a, ns, rfl, hns⟩, ?_⟩
        rw [List.cons_append, List.append_assoc]
        exact node_sequence indentless hread
  | .mapping _ tag es, below, ks, h, ts, rest, fuel, indentless, hts, hf, _ => by
    simp only [Form.Kinds] at h
    obtain ⟨rfl, h⟩ := h
    by_cases hne : es.isEmpty = true
    · simp only [hne, if_true] at h
      subst h
      obtain ⟨⟨k, a, b⟩, us, rfl, rfl, hus⟩ := List.map_eq_cons_iff.1 hts
      obtain ⟨⟨k, c, d⟩, us, rfl, rfl, hnil⟩ := List.map_eq_cons_iff.1 hus
      obtain rfl := List.map_eq_nil_iff.1 hnil
      obtain ⟨fuel, rfl⟩ : ∃ k, fuel = k + 2 := ⟨fuel - 2, by omega⟩
      obtain rfl := List.isEmpty_iff.1 hne
      exact ⟨_, ⟨a, [], rfl, rfl⟩, node_braces true indentless⟩
    · simp only [hne, Bool.false_eq_true, if_false] at h
      obtain ⟨is, rfl, h⟩ := h
      obtain ⟨fuel, rfl⟩ : ∃ k, fuel = k + 1 := ⟨fuel - 1, by omega⟩
      obtain ⟨⟨k, a, b⟩, us, rfl, rfl, hus⟩ := List.map_eq_cons_iff.1 hts
      obtain ⟨us, close, rfl, his, hclose⟩ := List.map_eq_append_iff.1 hus
      obtain ⟨⟨k, c, d⟩, close, rfl, rfl, hc⟩ := List.map_eq_cons_iff.1 hclose
      obtain rfl := List.map_eq_nil_iff.1 hc
      obtain ⟨ns, hns, hread⟩ := blockMapping_of_kinds es h rest fuel his
        (by simp at hf; omega) a c d
      refine ⟨_, ⟨a, ns, rfl, hns⟩, ?_⟩
      rw [List.cons_append, List.append_assoc]
      exact node_mapping indentless hread

/-- The tokens of items up to the end of their sequence. -/
theorem blockSequence_of_kinds : ∀ (fs : List Form) {ks : List TokenKind}, Form.ItemKinds fs ks →
    ∀ {ts : List Token} (rest : List Token) (fuel : Nat), ts.map Token.kind = ks →
      3 * ks.length + 1 ≤ fuel → ∀ start c d : Mark, ∃ ns, Form.ItemsShow fs ns ∧
        blockSequence fuel start (before (ts ++ ⟨.blockEnd, c, d⟩ :: rest)) = .ok (ns, before rest)
  | [], _, hks, ts, rest, fuel, hts, hf, start, c, d => by
    obtain rfl := hks
    obtain rfl := List.map_eq_nil_iff.1 hts
    obtain ⟨fuel, rfl⟩ : ∃ k, fuel = k + 1 := ⟨fuel - 1, by omega⟩
    exact ⟨[], rfl, blockSequence_end start⟩
  | f :: fs, _, ⟨is, js, hks, hf, hfs⟩, ts, rest, fuel, hts, hfuel, start, c, d => by
    subst hks
    obtain ⟨fuel, rfl⟩ : ∃ k, fuel = k + 1 := ⟨fuel - 1, by omega⟩
    simp only [List.length_cons, List.length_append] at hfuel
    obtain ⟨⟨k, a, b⟩, us, rfl, rfl, hus⟩ := List.map_eq_cons_iff.1 hts
    obtain ⟨us, vs, rfl, hus, hvs⟩ := List.map_eq_append_iff.1 hus
    obtain ⟨n, hn, hread⟩ := node_of_kinds f hf (vs ++ ⟨.blockEnd, c, d⟩ :: rest) fuel false
      hus (by omega) (by simp)
    obtain ⟨ns, hns, hreads⟩ := blockSequence_of_kinds fs hfs rest fuel hvs
      (by omega) start c d
    obtain ⟨t, us, rfl, -, -, h₁, h₂⟩ := exists_token hf hus
    refine ⟨n :: ns, ⟨n, ns, rfl, hn, hns⟩, ?_⟩
    rw [List.cons_append, List.append_assoc]
    exact blockSequence_item ⟨h₂ rfl, h₁⟩ hread hreads

/-- The tokens of items up to a token that is none of an item. -/
theorem indentlessSequence_of_kinds : ∀ (fs : List Form) {ks : List TokenKind}, Form.ItemKinds fs ks →
    ∀ {ts : List Token} (rest : List Token) (fuel : Nat), ts.map Token.kind = ks →
      3 * ks.length + 1 ≤ fuel → (∃ t us, rest = t :: us ∧ t.kind ≠ .blockEntry) → ∃ ns, Form.ItemsShow fs ns ∧
        indentlessSequence fuel (before (ts ++ rest)) = .ok (ns, before rest)
  | [], _, hks, ts, rest, fuel, hts, hf, ⟨t, us, hrest, ht⟩ => by
    obtain rfl := hks
    obtain rfl := List.map_eq_nil_iff.1 hts
    obtain ⟨fuel, rfl⟩ : ∃ k, fuel = k + 1 := ⟨fuel - 1, by omega⟩
    subst hrest
    exact ⟨[], rfl, indentlessSequence_end ht⟩
  | f :: fs, _, ⟨is, js, hks, hf, hfs⟩, ts, rest, fuel, hts, hfuel, hrest => by
    subst hks
    obtain ⟨fuel, rfl⟩ : ∃ k, fuel = k + 1 := ⟨fuel - 1, by omega⟩
    simp only [List.length_cons, List.length_append] at hfuel
    obtain ⟨⟨k, a, b⟩, us, rfl, rfl, hus⟩ := List.map_eq_cons_iff.1 hts
    obtain ⟨us, vs, rfl, hus, hvs⟩ := List.map_eq_append_iff.1 hus
    obtain ⟨n, hn, hread⟩ := node_of_kinds f hf (vs ++ rest) fuel false hus (by omega) (by simp)
    obtain ⟨ns, hns, hreads⟩ := indentlessSequence_of_kinds fs hfs rest fuel hvs (by omega) hrest
    obtain ⟨t, us, rfl, h₁, h₂, h₃, h₄⟩ := exists_token hf hus
    refine ⟨n :: ns, ⟨n, ns, rfl, hn, hns⟩, ?_⟩
    rw [List.cons_append, List.append_assoc]
    exact indentlessSequence_item ⟨h₄ rfl, h₁, h₂, h₃⟩ hread hreads

/-- The tokens of entries up to the end of their mapping. -/
theorem blockMapping_of_kinds : ∀ (es : List (Form × Form)) {ks : List TokenKind},
    Form.EntryKinds es ks → ∀ {ts : List Token} (rest : List Token) (fuel : Nat), ts.map Token.kind = ks →
      3 * ks.length + 1 ≤ fuel → ∀ start c d : Mark, ∃ ns, Form.EntriesShow es ns ∧
        blockMapping fuel start (before (ts ++ ⟨.blockEnd, c, d⟩ :: rest)) = .ok (ns, before rest)
  | [], _, hks, ts, rest, fuel, hts, hf, start, c, d => by
    obtain rfl := hks
    obtain rfl := List.map_eq_nil_iff.1 hts
    obtain ⟨fuel, rfl⟩ : ∃ k, fuel = k + 1 := ⟨fuel - 1, by omega⟩
    exact ⟨[], rfl, blockMapping_end start⟩
  | (k, v) :: es, _, ⟨is, js, ls, below, hks, hk, hv, hes⟩, ts, rest, fuel, hts, hfuel, start, c, d => by
    subst hks
    obtain ⟨fuel, rfl⟩ : ∃ k, fuel = k + 2 := ⟨fuel - 2, by simp at hfuel; omega⟩
    simp only [List.length_cons, List.length_append] at hfuel
    obtain ⟨⟨kind, a, b⟩, us, rfl, rfl, hus⟩ := List.map_eq_cons_iff.1 hts
    obtain ⟨us, vs, rfl, hus', hvs⟩ := List.map_eq_append_iff.1 hus
    obtain ⟨⟨kind, a', b'⟩, vs, rfl, rfl, hvs'⟩ := List.map_eq_cons_iff.1 hvs
    obtain ⟨vs, ws, rfl, hvs'', hws⟩ := List.map_eq_append_iff.1 hvs'
    obtain ⟨m, hm, hkey⟩ := node_of_kinds k hk (⟨.value, a', b'⟩ :: (vs ++ (ws ++
      ⟨.blockEnd, c, d⟩ :: rest))) fuel true hus' (by omega) (by simp)
    -- after a value comes a key or the end of the mapping
    have hnext : ∃ t us, ws ++ ⟨.blockEnd, c, d⟩ :: rest = t :: us ∧ t.kind ≠ .blockEntry := by
      match es, hes with
      | [], hls =>
        obtain rfl := hls
        obtain rfl := List.map_eq_nil_iff.1 hws
        exact ⟨_, _, rfl, by simp⟩
      | (_, _) :: _, ⟨_, _, _, _, hls, _⟩ =>
        obtain ⟨t, ws, rfl, ht, -⟩ := List.map_eq_cons_iff.1 (hws.trans hls)
        exact ⟨t, _, rfl, by simp [ht]⟩
    obtain ⟨n, hn, hvalue⟩ := node_of_kinds v hv (ws ++ ⟨.blockEnd, c, d⟩ :: rest) fuel true
      hvs'' (by omega) fun _ => ⟨rfl, hnext⟩
    obtain ⟨ns, hns, hreads⟩ := blockMapping_of_kinds es hes rest (fuel + 1) hws
      (by omega) start c d
    obtain ⟨t, us, rfl, h₁, h₂, h₃, -⟩ := exists_token hk hus'
    obtain ⟨t', vs, rfl, h₁', h₂', h₃', -⟩ := exists_token hv hvs''
    refine ⟨(m, n) :: ns, ⟨m, n, ns, rfl, hm, hn, hns⟩, ?_⟩
    have hts : (⟨.key, a, b⟩ : Token) :: (t :: us ++ ⟨.value, a', b'⟩ :: (t' :: vs ++ ws)) ++
        ⟨.blockEnd, c, d⟩ :: rest = ⟨.key, a, b⟩ :: (t :: us ++ ⟨.value, a', b'⟩ :: (t' :: vs ++
          (ws ++ ⟨.blockEnd, c, d⟩ :: rest))) := by simp
    rw [hts]
    exact blockMapping_entry (blockPart_eq ⟨h₁, h₂, h₃⟩ hkey) (blockPart_eq ⟨h₁', h₂', h₃'⟩ hvalue) hreads

end

end Reader

end Folio.Yaml

namespace Folio.Yaml
open Reader

/-- A stream of one document without a line that starts it. -/
theorem Reader.singleDocument_eq {ts : List Token} {fuel : Nat} {n : Node} {a b c d : Mark}
    {t : Token} (ht : t.kind = .blockMappingStart)
    (h : node (fuel + 1) true false (before (t :: ts)) = .ok (n, before [⟨.streamEnd, c, d⟩])) :
    ((singleDocument (fuel + 1)).run
      { before (⟨.streamStart, a, b⟩ :: t :: ts) with handles := [] }).map (·.1) = .ok (some n) := by
  obtain ⟨k, x, y⟩ := t
  obtain rfl := ht
  have hfirst : firstDocument (fuel + 1)
      { before (⟨.streamStart, a, b⟩ :: ⟨.blockMappingStart, x, y⟩ :: ts) with handles := [] } =
      .ok (some n, before [⟨.streamEnd, c, d⟩]) := by
    rw [firstDocument]
    change (node (fuel + 1) true false (before (⟨.blockMappingStart, x, y⟩ :: ts))).bind _ = _
    rw [h]
    rfl
  rw [singleDocument]
  change Except.map _ (Except.bind (firstDocument (fuel + 1)
    { before (⟨.streamStart, a, b⟩ :: ⟨.blockMappingStart, x, y⟩ :: ts) with handles := [] }) _) = _
  rw [hfirst]
  rfl

/-- **The node of a mapping** that is laid out from column zero. -/
theorem Node.ofText?_laid {es : List (Form × Form)} {t : List Char} (hne : es ≠ [])
    (h : Form.EntriesLaid true 0 es (freshLine 0 ++ t)) (hacc : ∀ x ∈ t, isAcceptable x = true) :
    ∃ n, (Form.mapping none .map es).Shows n ∧ Node.ofText? false (t ++ ['\n']) = .ok (some n) := by
  obtain ⟨ts, ls, hscan, hts, hes⟩ := Token.scan_laid hne h
  have hfind : (t ++ ['\n']).findIdx? (fun c => !isAcceptable c) = none := by
    refine List.findIdx?_eq_none_iff.2 fun x hx => ?_
    rcases List.mem_append.1 hx with hx | hx
    · simp [hacc x hx]
    · obtain rfl := List.mem_singleton.1 hx
      decide
  obtain ⟨⟨k, a, b⟩, us, rfl, rfl, hus⟩ := List.map_eq_cons_iff.1 hts
  have hsplit : TokenKind.blockMappingStart :: (ls ++ [.blockEnd, .streamEnd]) =
      (.blockMappingStart :: (ls ++ [.blockEnd])) ++ [.streamEnd] := by simp
  obtain ⟨us, close, rfl, hus', hclose⟩ := List.map_eq_append_iff.1 (hus.trans hsplit)
  obtain ⟨⟨k, c, d⟩, close, rfl, rfl, hnil⟩ := List.map_eq_cons_iff.1 hclose
  obtain rfl := List.map_eq_nil_iff.1 hnil
  have hkinds : (Form.mapping none .map es).Kinds false (.blockMappingStart :: (ls ++ [.blockEnd])) := by
    have : es.isEmpty = false := by simpa using hne
    simp only [Form.Kinds, this, Bool.false_eq_true, if_false, true_and]
    exact ⟨ls, rfl, hes⟩
  have hlen := congrArg List.length hus'
  rw [List.length_map] at hlen
  obtain ⟨fuel, hfuel⟩ : ∃ k, 4 * ((⟨.streamStart, a, b⟩ : Token) :: (us ++
      [⟨.streamEnd, c, d⟩])).length + 16 = k + 1 := ⟨_, rfl⟩
  obtain ⟨n, hn, hread⟩ := node_of_kinds _ hkinds [⟨.streamEnd, c, d⟩] (fuel + 1) false
    hus' (by
      rw [← hfuel, ← hlen]
      simp only [List.length_cons, List.length_append]
      omega) (by simp)
  refine ⟨n, hn, ?_⟩
  obtain ⟨t₀, us, rfl, ht₀, -⟩ := List.map_eq_cons_iff.1 hus'
  rw [Node.ofText?, hfind]
  simp only [hscan, hfuel]
  exact singleDocument_eq (a := a) (b := b) ht₀ hread

end Folio.Yaml
