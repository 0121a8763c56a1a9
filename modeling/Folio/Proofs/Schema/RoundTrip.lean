/-
  Folio — nodes that are written and read again.

  * `Written.read_trees`: the tokens of nodes are read as these nodes, whatever
    braces are open around them;
  * `Node.ofSource_sources`: so is their source, however it is written.
-/
import Folio.Proofs.Schema.Scanning

namespace Folio.Schema

/-! ## Properties -/

theorem Properties.put_of_notMem {key : String} {ps : Properties} (h : key ∉ ps.map (·.1))
    (value : Scalar) : ps.put key value = ps ++ [(key, value)] := by
  induction ps with
  | nil => rfl
  | cons p ps ih =>
    rw [List.map_cons, List.mem_cons, not_or] at h
    rw [put, if_neg (Ne.symm h.1), ih h.2, List.cons_append]

namespace Entry

/-- A node with one entry more. -/
def addTo (n : Node) : Entry → Node
  | arg v => n.addArg v.value
  | prop k v => n.addProp k.text v.value

theorem foldl_addTo (entries : List Entry) (n : Node)
    (h : ((n.props ++ propsOf entries).map (·.1)).Nodup) :
    entries.foldl addTo n =
      { n with args := n.args ++ argsOf entries, props := n.props ++ propsOf entries } := by
  induction entries generalizing n with
  | nil => cases n; simp
  | cons e entries ih =>
    rw [List.foldl_cons]
    cases e with
    | arg v =>
      rw [ih (addTo n (.arg v)) h]
      simp [addTo, Node.addArg]
    | prop k v =>
      have hput : n.props.put k.text v.value = n.props ++ [(k.text, v.value)] := by
        refine Properties.put_of_notMem (fun hmem => ?_) _
        rw [List.map_append, List.nodup_append] at h
        exact h.2.2 _ hmem k.text (by simp) rfl
      rw [ih]
      · simp [addTo, Node.addProp, hput]
      · simpa [addTo, Node.addProp, hput] using h

end Entry

/-! ## Reading tokens -/

theorem exists_of_map_kind_cons {ts : List Token} {k : TokenKind} {ks : List TokenKind}
    (h : ts.map Token.kind = k :: ks) :
    ∃ line us, ts = ⟨k, line⟩ :: us ∧ us.map Token.kind = ks := by
  obtain ⟨t, us, rfl, rfl, rfl⟩ := List.map_eq_cons_iff.1 h
  exact ⟨t.line, us, rfl, rfl⟩

theorem exists_of_map_kind_singleton {ts : List Token} {k : TokenKind}
    (h : ts.map Token.kind = [k]) : ∃ line, ts = [⟨k, line⟩] := by
  obtain ⟨line, us, rfl, hus⟩ := exists_of_map_kind_cons h
  exact ⟨line, by rw [List.map_eq_nil_iff.1 hus]⟩

/-- The next token is no sign of equality. -/
def NoEquals (ts : List Token) : Prop := ∀ t ∈ ts.head?, t.kind ≠ .equals

section
variable {enclosing : Node.Enclosing} {before : List Node} {n : Node} {ts more : List Token}

theorem read_scalar {v : Scalar} {line : Nat} (h : NoEquals more) :
    Node.read enclosing before (some n) (⟨.scalar v, line⟩ :: more) =
      Node.read enclosing before (some (n.addArg v)) more := by
  cases more with
  | nil => rfl
  | cons t more =>
    obtain ⟨kind, line⟩ := t
    cases more <;> cases kind <;> first | rfl | exact absurd rfl (h _ rfl)

theorem Entry.read (e : Entry) (hts : ts.map Token.kind = e.kinds) (h : NoEquals more) :
    Node.read enclosing before (some n) (ts ++ more) =
      Node.read enclosing before (some (e.addTo n)) more := by
  cases e with
  | arg v =>
    obtain ⟨l, rfl⟩ := exists_of_map_kind_singleton hts
    exact read_scalar h
  | prop k v =>
    obtain ⟨l₁, us₁, rfl, h₁⟩ := exists_of_map_kind_cons hts
    obtain ⟨l₂, us₂, rfl, h₂⟩ := exists_of_map_kind_cons h₁
    obtain ⟨l₃, rfl⟩ := exists_of_map_kind_singleton h₂
    rfl

theorem Entry.noEquals (entries : List Entry) (hts : ts.map Token.kind = entries.flatMap kinds)
    (h : NoEquals more) : NoEquals (ts ++ more) := by
  cases entries with
  | nil => rwa [List.map_eq_nil_iff.1 hts]
  | cons e entries =>
    cases e <;> obtain ⟨l, us, rfl, -⟩ := exists_of_map_kind_cons hts <;> rintro t ⟨⟩ <;> simp

theorem Entry.read_all (entries : List Entry) (hts : ts.map Token.kind = entries.flatMap kinds)
    (h : NoEquals more) : Node.read enclosing before (some n) (ts ++ more) =
      Node.read enclosing before (some (entries.foldl addTo n)) more := by
  induction entries generalizing n ts with
  | nil => rw [List.map_eq_nil_iff.1 hts]; rfl
  | cons e entries ih =>
    obtain ⟨us, vs, rfl, hus, hvs⟩ := List.map_eq_append_iff.1 hts
    rw [List.append_assoc, e.read hus (noEquals entries hvs h), ih hvs, List.foldl_cons]

end

namespace Written

mutual

theorem read_tree (enclosing : Node.Enclosing) (before : List Node) (more : List Token) :
    ∀ (w : Written) {ts : List Token}, ts.map Token.kind = w.kinds →
      ∃ n : Node, n.unplaced = w.tree ∧
        Node.read enclosing before none (ts ++ more) =
          Node.read enclosing (n :: before) none more
  | ⟨name, entries, distinct, children⟩, ts, hts => by
    rw [kinds] at hts
    obtain ⟨us, vs, rfl, hus, hvs⟩ := List.map_eq_append_iff.1 hts
    obtain ⟨us, inner, rfl, hus, hinner⟩ := List.map_eq_append_iff.1 hus
    obtain ⟨us, es, rfl, hus, hes⟩ := List.map_eq_append_iff.1 hus
    obtain ⟨l, rfl⟩ := exists_of_map_kind_singleton hus
    obtain ⟨l', rfl⟩ := exists_of_map_kind_singleton hvs
    have hfold := Entry.foldl_addTo entries (.named name.text l) distinct
    have hhead : ∀ rest, NoEquals rest →
        Node.read enclosing before none (⟨.scalar (.text name.text), l⟩ :: (es ++ rest)) =
          Node.read enclosing before
            (some ⟨name.text, l, argsOf entries, propsOf entries, []⟩) rest :=
      fun rest h => (Entry.read_all entries hes h).trans (by rw [hfold]; rfl)
    cases children with
    | nil =>
      obtain rfl := List.map_eq_nil_iff.1 hinner
      refine ⟨⟨name.text, l, argsOf entries, propsOf entries, []⟩, rfl, ?_⟩
      have h := hhead (⟨.newline, l'⟩ :: more) (by rintro t ⟨⟩; simp)
      simp only [List.append_assoc, List.cons_append, List.nil_append] at h ⊢
      rw [h]
      rfl
    | cons c cs =>
      obtain ⟨opened, vs, rfl, hopened, hclosed⟩ := List.map_eq_append_iff.1 hinner
      obtain ⟨opened, cts, rfl, hopened, hcts⟩ := List.map_eq_append_iff.1 hopened
      obtain ⟨l₁, us₁, rfl, h₁⟩ := exists_of_map_kind_cons hopened
      obtain ⟨l₂, rfl⟩ := exists_of_map_kind_singleton h₁
      obtain ⟨l₃, rfl⟩ := exists_of_map_kind_singleton hclosed
      obtain ⟨ns, hns, hread⟩ := read_trees
        ((⟨name.text, l, argsOf entries, propsOf entries, []⟩, before) :: enclosing) []
        (⟨.closing, l₃⟩ :: ⟨.newline, l'⟩ :: more) (c :: cs) hcts
      refine ⟨⟨name.text, l, argsOf entries, propsOf entries, ns⟩, ?_, ?_⟩
      · rw [Node.unplaced, Node.unplacedAll_eq_map, hns, tree]
      · have h := hhead (⟨.opening, l₁⟩ :: ⟨.newline, l₂⟩ ::
          (cts ++ ⟨.closing, l₃⟩ :: ⟨.newline, l'⟩ :: more)) (by rintro t ⟨⟩; simp)
        simp only [List.append_assoc, List.cons_append, List.nil_append] at h ⊢
        rw [h]
        -- the opening brace and the line end, then the nodes inside, then the closing brace
        refine Eq.trans (hread : Node.read _ [] none _ = _) ?_
        change Node.read enclosing (⟨_, _, _, _, (ns.reverse ++ []).reverse⟩ :: before) none more = _
        rw [List.append_nil, List.reverse_reverse]

theorem read_trees (enclosing : Node.Enclosing) (before : List Node) (more : List Token) :
    ∀ (ws : List Written) {ts : List Token}, ts.map Token.kind = allKinds ws →
      ∃ ns : List Node, ns.map Node.unplaced = trees ws ∧
        Node.read enclosing before none (ts ++ more) =
          Node.read enclosing (ns.reverse ++ before) none more
  | [], ts, hts => ⟨[], rfl, by rw [List.map_eq_nil_iff.1 hts]; rfl⟩
  | w :: ws, ts, hts => by
    rw [allKinds] at hts
    obtain ⟨us, vs, rfl, hus, hvs⟩ := List.map_eq_append_iff.1 hts
    obtain ⟨n, hn, hread⟩ := read_tree enclosing before (vs ++ more) w hus
    obtain ⟨ns, hns, hread'⟩ := read_trees enclosing (n :: before) more ws hvs
    refine ⟨n :: ns, by rw [List.map_cons, hn, hns, trees], ?_⟩
    rw [List.append_assoc, hread, hread']
    simp

end

end Written

/-- **What is written is read as it is written.** -/
theorem Written.ofSource_sources (step : Nat) (ws : List Written) :
    (Node.ofSource (String.ofList (sources step 0 ws))).map (·.map Node.unplaced) =
      .ok (trees ws) := by
  obtain ⟨line, ts, hts, hscan⟩ := scans_sources step 0 [] ws 1
  obtain ⟨ns, hns, hread⟩ := read_trees [] [] [⟨.ending, line⟩] ws hts
  have htokens : Token.ofSource (sources step 0 ws) = .ok (ts ++ [⟨.ending, line⟩]) := by
    rw [Token.ofSource, ← List.append_nil (sources step 0 ws), hscan, Token.scan]
    rfl
  have hnodes : Node.ofTokens (ts ++ [⟨.ending, line⟩]) = .ok ns := by
    rw [Node.ofTokens, hread]
    simp [Node.read]
  rw [Node.ofSource, String.toList_ofList, htokens]
  simp [hnodes, Except.map, hns]

/-- **Nodes without floating-point numbers, overlong integers and repeated keys can
    be written, and however they are written, reading gives them back** but for
    their lines. -/
theorem Node.ofSource_written {ns : List Node} (h : ∀ n ∈ ns, n.Plain) :
    (∃ ws, Written.trees ws = ns.map unplaced) ∧
      ∀ ws, Written.trees ws = ns.map unplaced → ∀ step,
        (ofSource (String.ofList (Written.sources step 0 ws))).map (·.map unplaced) =
          .ok (ns.map unplaced) :=
  ⟨exists_trees fun n hn => (h n hn).exists_written,
    fun ws hws step => by rw [Written.ofSource_sources, hws]⟩

/-- A quote in a name, a mark in a raw text, a property and a node inside. -/
theorem Node.ofSource_written_nested :
    (ofSource "\"a\\\"b\" -5 #\"x#y\"# \"k\"=#true \x7b\n  r\"c\" null\n\x7d\n").map
        (·.map unplaced) =
      .ok [⟨"a\"b", 0, [.int (-5), .text "x#y"], [("k", .bool true)],
        [⟨"c", 0, [.null], [], []⟩]⟩] := by
  have hinner : (⟨"c", 0, [.null], [], []⟩ : Node).Plain :=
    .mk (by simp [Scalar.Plain]) (by simp) (by simp) (by simp)
  have houter : (⟨"a\"b", 0, [.int (-5), .text "x#y"], [("k", .bool true)],
      [⟨"c", 0, [.null], [], []⟩]⟩ : Node).Plain :=
    .mk (by simp [Scalar.Plain]; decide) (by simp [Scalar.Plain]) (by simp) (by simpa using hinner)
  let c : Written :=
    ⟨⟨"c", .raw true 0, Or.inl rfl, by decide⟩, [.arg (.null false)], by decide, []⟩
  let xy : Quotation := ⟨"x#y", .raw false 1, Or.inr (by decide), by decide⟩
  let ab : Written :=
    ⟨⟨"a\"b", .quoted, trivial⟩, [.arg (.int (-5) (by decide)), .arg (.text xy),
      .prop ⟨"k", .quoted, trivial⟩ (.bool true true)], by decide, [c]⟩
  have hsource : String.ofList (Written.sources 2 0 [ab]) =
      "\"a\\\"b\" -5 #\"x#y\"# \"k\"=#true \x7b\n  r\"c\" null\n\x7d\n" := by decide +kernel
  rw [← hsource]
  exact (ofSource_written (List.forall_mem_singleton.2 houter)).2 [ab] rfl 2

end Folio.Schema
