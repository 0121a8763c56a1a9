/-
  Folio — the components of a graph.

  The components are swept one after the other, each from the first document that no
  sweep has met.  What earlier sweeps have met is closed: no edge leads out of it, in
  either direction.  So a sweep is not held up by it, and meets just what is connected
  with the document that it starts from (`Graph.mem_component_iff`); and what it has met
  is closed again.  The rest is an induction on the documents that are left
  (`Graph.Partitions`).

  * `Graph.partitions_componentsFrom`: the components of the documents that are left;
  * `Graph.components_ofHeaders`: the components of a graph of documents.
-/
import Folio.Proofs.Graph.Transitive

namespace Folio

namespace Graph

open Relation

variable {g : Graph} {a b n : String} {seen ns : List String}

/-! ## Documents that are connected -/

/-- An edge joins two documents, in either direction. -/
def Joins (g : Graph) (a b : String) : Prop := g.Points a b ∨ g.Points b a

theorem leads_linksBothWays (g : Graph) : g.linksBothWays.Leads = g.Joins := by
  ext a b
  rw [linksBothWays, Links.leads_ofPairs, List.mem_flatMap]
  constructor
  · rintro ⟨e, he, hpair⟩
    rcases List.mem_pair.1 hpair with h | h
    · cases h; exact Or.inl ⟨e.relation, he⟩
    · cases h; exact Or.inr ⟨e.relation, he⟩
  · rintro (⟨relation, he⟩ | ⟨relation, he⟩)
    · exact ⟨_, he, List.mem_pair.2 (Or.inl rfl)⟩
    · exact ⟨_, he, List.mem_pair.2 (Or.inr rfl)⟩

/-- A chain of edges connects two documents, each edge taken in either direction. -/
def Connected (g : Graph) : String → String → Prop := ReflTransGen g.Joins

theorem Connected.symm (h : g.Connected a b) : g.Connected b a := by
  induction h with
  | refl => exact .refl
  | tail _ hbc ih => exact ReflTransGen.head hbc.symm ih

theorem Connected.iff_of_connected {c : String} (h : g.Connected a b) :
    g.Connected a c ↔ g.Connected b c :=
  ⟨fun hac => h.symm.trans hac, fun hbc => h.trans hbc⟩

/-- No edge leads out of some documents. -/
def Closed (g : Graph) (seen : List String) : Prop := ∀ a ∈ seen, ∀ b, g.Joins a b → b ∈ seen

theorem Closed.mem_of_connected (h : g.Closed seen) (hab : g.Connected a b) (ha : a ∈ seen) :
    b ∈ seen := by
  induction hab with
  | refl => exact ha
  | tail _ hbc ih => exact h _ ih _ hbc

/-! ## One sweep -/

/-- The component that is swept from a document. -/
def componentOf (g : Graph) (seen : List String) (n : String) : List String :=
  (Sweep.run g.linksBothWays (g.isFree seen) none (.start n)).met

section
variable (hends : ∀ a b, g.Joins a b → a ∈ g.nodes) (hclosed : g.Closed seen)

include hends hclosed

/-- What has been seen does not hold a sweep up. -/
theorem reflTransGen_enters_iff (hn : n ∉ seen) :
    ReflTransGen (Sweep.Enters g.linksBothWays (g.isFree seen)) n b ↔ g.Connected n b := by
  constructor
  · intro h
    rw [Connected, ← leads_linksBothWays]
    exact ReflTransGen.mono (fun _ _ hab => hab.1) _ _ h
  · intro h
    induction h with
    | refl => exact .refl
    | @tail b c hnb hbc ih =>
      have hnc : g.Connected n c := hnb.tail hbc
      have hseen : c ∉ seen := fun hc => hn (hclosed.mem_of_connected hnc.symm hc)
      have hnode : c ∈ g.nodes := hends c b hbc.symm
      have hleads : g.linksBothWays.Leads b c := by rwa [leads_linksBothWays]
      exact ih.tail ⟨hleads, by simp [isFree, hseen, hnode]⟩

/-- **A sweep meets what is connected** with the document that it starts from. -/
theorem mem_component_iff (hn : n ∉ seen) :
    b ∈ g.componentOf seen n ↔ g.Connected n b := by
  rw [componentOf, Sweep.mem_met_run_iff, ← reflTransGen_enters_iff hends hclosed hn,
    ← exists_trail_iff]
  exact exists_congr fun k => and_iff_right (Sweep.allows_none k)

theorem closed_append_component (hn : n ∉ seen) :
    g.Closed (seen ++ g.componentOf seen n) := by
  intro a ha b hab
  rcases List.mem_append.1 ha with ha | ha
  · exact List.mem_append_left _ (hclosed a ha b hab)
  · have hna := (mem_component_iff hends hclosed hn).1 ha
    exact List.mem_append_right _ ((mem_component_iff hends hclosed hn).2 (hna.tail hab))

end

theorem nodup_component (g : Graph) (seen : List String) (n : String) :
    (g.componentOf seen n).Nodup :=
  Sweep.nodup_met_run (List.nodup_singleton n)

theorem head?_component (g : Graph) (seen : List String) (n : String) :
    (g.componentOf seen n).head? = some n := by
  obtain ⟨rest, hrest⟩ := Sweep.prefix_met_run g.linksBothWays (g.isFree seen) none (.start n)
  rw [componentOf, ← hrest]
  rfl

/-! ## All sweeps -/

/-- The lists are the components of some documents, but for what has been seen. -/
structure Partitions (g : Graph) (seen ns : List String) (components : List (List String)) :
    Prop where
  mem_flatten : ∀ b, b ∈ components.flatten ↔ b ∉ seen ∧ ∃ n ∈ ns, g.Connected n b
  nodup : components.flatten.Nodup
  connected : ∀ c ∈ components, ∀ a ∈ c, ∀ b, b ∈ c ↔ g.Connected a b
  heads : (components.map List.head?).Sublist (ns.map some)
  earliest : ∀ c ∈ components, ∀ a, c.head? = some a → ∀ b ∈ c, ns.idxOf a ≤ ns.idxOf b

namespace Partitions

variable {components : List (List String)}

theorem nil (g : Graph) (seen : List String) : g.Partitions seen [] [] := by
  constructor
  · simp
  · exact List.nodup_nil
  · simp
  · exact List.Sublist.refl _
  · simp

/-- Documents that come later in the components come later among the documents. -/
theorem idxOf_cons_le (h : ∀ c ∈ components, ∀ a, c.head? = some a → ∀ b ∈ c,
      ns.idxOf a ≤ ns.idxOf b) (hn : n ∉ components.flatten) {c : List String}
    (hc : c ∈ components) (ha : c.head? = some a) (hb : b ∈ c) :
    (n :: ns).idxOf a ≤ (n :: ns).idxOf b := by
  have hne : ∀ x ∈ c, n ≠ x := by
    rintro x hx rfl
    exact hn (List.mem_flatten.2 ⟨c, hc, hx⟩)
  rw [List.idxOf_cons_ne _ (hne a (List.mem_of_mem_head? ha)), List.idxOf_cons_ne _ (hne b hb)]
  exact Nat.succ_le_succ (h c hc a ha b hb)

/-- A document that has been seen starts no component. -/
theorem cons_seen (hclosed : g.Closed seen) (hn : n ∈ seen)
    (h : g.Partitions seen ns components) : g.Partitions seen (n :: ns) components := by
  have hnot : n ∉ components.flatten := fun hmem => ((h.mem_flatten n).1 hmem).1 hn
  refine ⟨fun b => ?_, h.nodup, h.connected, h.heads.cons _,
    fun c hc a ha b hb => idxOf_cons_le h.earliest hnot hc ha hb⟩
  rw [h.mem_flatten b]
  refine and_congr_right fun hb => ?_
  constructor
  · rintro ⟨m, hm, hmb⟩
    exact ⟨m, List.mem_cons_of_mem _ hm, hmb⟩
  · rintro ⟨m, hm, hmb⟩
    rcases List.mem_cons.1 hm with rfl | hm
    · exact absurd (hclosed.mem_of_connected hmb hn) hb
    · exact ⟨m, hm, hmb⟩

/-- A document that has not been seen starts one. -/
theorem cons_component (hends : ∀ a b, g.Joins a b → a ∈ g.nodes) (hclosed : g.Closed seen)
    (hn : n ∉ seen)
    (h : g.Partitions (seen ++ g.componentOf seen n) ns components) :
    g.Partitions seen (n :: ns) (g.componentOf seen n :: components) := by
  have hmem : ∀ b, b ∈ g.componentOf seen n ↔ g.Connected n b :=
    fun b => mem_component_iff hends hclosed hn
  have hnew : ∀ b ∈ components.flatten, b ∉ seen ∧ b ∉ g.componentOf seen n := by
    intro b hb
    have hnot := ((h.mem_flatten b).1 hb).1
    exact ⟨fun hs => hnot (List.mem_append_left _ hs), fun hc => hnot (List.mem_append_right _ hc)⟩
  have hunseen : ∀ b, g.Connected n b → b ∉ seen :=
    fun b hnb hb => hn (hclosed.mem_of_connected hnb.symm hb)
  constructor
  case mem_flatten =>
    intro b
    rw [List.flatten_cons, List.mem_append, hmem b]
    constructor
    · rintro (hnb | hb)
      · exact ⟨hunseen b hnb, n, List.mem_cons_self, hnb⟩
      · obtain ⟨-, m, hm, hmb⟩ := (h.mem_flatten b).1 hb
        exact ⟨(hnew b hb).1, m, List.mem_cons_of_mem _ hm, hmb⟩
    · rintro ⟨hb, m, hm, hmb⟩
      by_cases hnb : g.Connected n b
      · exact Or.inl hnb
      · rcases List.mem_cons.1 hm with rfl | hm
        · exact Or.inl hmb
        · refine Or.inr ((h.mem_flatten b).2 ⟨fun hmem' => ?_, m, hm, hmb⟩)
          rcases List.mem_append.1 hmem' with hs | hc
          · exact hb hs
          · exact hnb ((hmem b).1 hc)
  case nodup =>
    rw [List.flatten_cons]
    refine List.nodup_append.2 ⟨nodup_component g seen n, h.nodup, fun x hx y hy hxy => ?_⟩
    exact (hnew y hy).2 (hxy ▸ hx)
  case connected =>
    intro c hc a ha b
    rcases List.mem_cons.1 hc with rfl | hc
    · rw [hmem b]
      exact ((hmem a).1 ha).iff_of_connected
    · exact h.connected c hc a ha b
  case heads =>
    rw [List.map_cons, List.map_cons, head?_component]
    exact h.heads.cons_cons _
  case earliest =>
    intro c hc a ha b hb
    rcases List.mem_cons.1 hc with rfl | hc
    · rw [head?_component, Option.some.injEq] at ha
      subst ha
      rw [List.idxOf_cons_self]
      exact Nat.zero_le _
    · have hnot : n ∉ components.flatten := fun hb => (hnew n hb).2 ((hmem n).2 .refl)
      exact idxOf_cons_le h.earliest hnot hc ha hb

end Partitions

/-- **The components of the documents that are left.** -/
theorem partitions_componentsFrom (hends : ∀ a b, g.Joins a b → a ∈ g.nodes)
    (hclosed : g.Closed seen) :
    g.Partitions seen ns (g.componentsFrom g.linksBothWays seen ns) := by
  induction ns generalizing seen with
  | nil => exact .nil g seen
  | cons n ns ih =>
    rw [componentsFrom]
    by_cases hn : n ∈ seen
    · rw [if_pos (List.contains_iff_mem.2 hn)]
      exact (ih hclosed).cons_seen hclosed hn
    · rw [if_neg (mt List.contains_iff_mem.1 hn)]
      exact (ih (closed_append_component hends hclosed hn)).cons_component hends hclosed hn

/-! ## Orphans -/

theorem mem_orphans_iff : n ∈ g.orphans ↔ n ∈ g.nodes ∧ ∀ a, ¬ g.Joins n a := by
  rw [orphans, List.mem_filter]
  refine and_congr_right fun _ => ?_
  rw [List.all_eq_true]
  constructor
  · rintro h a (⟨relation, he⟩ | ⟨relation, he⟩)
    · simpa using h _ he
    · simpa using h _ he
  · intro h e he
    rw [Bool.and_eq_true, bne_iff_ne, bne_iff_ne]
    constructor
    · rintro rfl; exact h e.target (Or.inl ⟨e.relation, he⟩)
    · rintro rfl; exact h e.source (Or.inr ⟨e.relation, he⟩)

theorem connected_iff_of_orphan (h : n ∈ g.orphans) : g.Connected n b ↔ b = n := by
  constructor
  · intro hnb
    rcases hnb.cases_head with rfl | ⟨c, hc, -⟩
    · rfl
    · exact absurd hc ((mem_orphans_iff.1 h).2 c)
  · rintro rfl
    exact .refl

/-- **The components of a graph of documents.**  Each document is in one of them, once; two
    are in the same one just if a chain of edges connects them, each taken in either
    direction.  They come in the order of their first documents, which are the earliest
    ones in them; and a document without edges is alone. -/
theorem components_ofHeaders (schema : Schema) (docs : List Document) :
    ((ofHeaders schema docs).components.flatten.Perm (ofHeaders schema docs).nodes ∧
      (ofHeaders schema docs).nodes.Nodup) ∧
    (∀ a ∈ (ofHeaders schema docs).nodes, ∀ b ∈ (ofHeaders schema docs).nodes,
      (∃ c ∈ (ofHeaders schema docs).components, a ∈ c ∧ b ∈ c) ↔
        (ofHeaders schema docs).Connected a b) ∧
    ((ofHeaders schema docs).components.map List.head?).Sublist
      ((ofHeaders schema docs).nodes.map some) ∧
    (∀ c ∈ (ofHeaders schema docs).components, ∀ a, c.head? = some a → ∀ b ∈ c,
      (ofHeaders schema docs).nodes.idxOf a ≤ (ofHeaders schema docs).nodes.idxOf b) ∧
    ∀ n ∈ (ofHeaders schema docs).orphans, ∀ c ∈ (ofHeaders schema docs).components,
      n ∈ c → c = [n] := by
  have hnodup : (ofHeaders schema docs).nodes.Nodup := nodup_nodes
  have hends : ∀ a b, (ofHeaders schema docs).Joins a b → a ∈ (ofHeaders schema docs).nodes := by
    rintro a b (h | h)
    · exact (mem_nodes_of_points h).1
    · exact (mem_nodes_of_points h).2
  have hclosed : (ofHeaders schema docs).Closed [] := fun a ha => absurd ha List.not_mem_nil
  have hparts : (ofHeaders schema docs).Partitions [] (ofHeaders schema docs).nodes
      (ofHeaders schema docs).components := partitions_componentsFrom hends hclosed
  generalize ofHeaders schema docs = g at hnodup hends hclosed hparts
  have hmem : ∀ b, b ∈ g.components.flatten ↔ b ∈ g.nodes := by
    intro b
    rw [hparts.mem_flatten b]
    constructor
    · rintro ⟨-, n, hn, hnb⟩
      rcases hnb.cases_tail with rfl | ⟨c, -, hcb⟩
      · exact hn
      · exact hends b c hcb.symm
    · intro hb
      exact ⟨List.not_mem_nil, b, hb, .refl⟩
  refine ⟨⟨(List.perm_ext_iff_of_nodup hparts.nodup hnodup).2 hmem, hnodup⟩, ?_, hparts.heads,
    hparts.earliest, ?_⟩
  · intro a ha b _
    constructor
    · rintro ⟨c, hc, hac, hbc⟩
      exact (hparts.connected c hc a hac b).1 hbc
    · intro hab
      obtain ⟨c, hc, hac⟩ := List.mem_flatten.1 ((hmem a).2 ha)
      exact ⟨c, hc, hac, (hparts.connected c hc a hac b).2 hab⟩
  · intro n hn c hc hnc
    have hc' : c.Nodup := (List.nodup_flatten.1 hparts.nodup).1 c hc
    refine List.perm_singleton.1 ((List.perm_ext_iff_of_nodup hc' (List.nodup_singleton n)).2 ?_)
    intro b
    rw [hparts.connected c hc n hnc b, connected_iff_of_orphan hn, List.mem_singleton]

/-- A document without a header. -/
def emptyOf (path : String) : Document :=
  { path := some path
    raw := []
    header := []
    hasHeader := false
    headerError := none
    bodyOffset := 0
    body := Body.ofOctets [] }

/-- A document that points at another, an empty one, and one that points at itself. -/
def scattered : List Document := [linkOf "b" "a", emptyOf "x", linkOf "a" "a"]

/-- The first and the last of three documents are connected, and the second one is alone. -/
theorem components_of_scattered :
    scattered.mapM (fun d => Document.parse d.raw d.path) = .ok scattered ∧
      (ofHeaders chainSchema scattered).nodes = ["b", "x", "a"] ∧
      "x" ∈ (ofHeaders chainSchema scattered).orphans ∧
      (∃ c ∈ (ofHeaders chainSchema scattered).components, "b" ∈ c ∧ "a" ∈ c) ∧
      ¬ (∃ c ∈ (ofHeaders chainSchema scattered).components, "b" ∈ c ∧ "x" ∈ c) ∧
      ["x"] ∈ (ofHeaders chainSchema scattered).components := by
  have hedges : (ofHeaders chainSchema scattered).edges =
      [⟨"b", "next", "a"⟩, ⟨"a", "next", "a"⟩] := by decide +kernel
  have hnodes : (ofHeaders chainSchema scattered).nodes = ["b", "x", "a"] := by decide +kernel
  have hparse : scattered.mapM (fun d => Document.parse d.raw d.path) = .ok scattered := by
    decide +kernel
  obtain ⟨⟨hperm, -⟩, hconnected, -, -, halone⟩ := components_ofHeaders chainSchema scattered
  generalize ofHeaders chainSchema scattered = g at hedges hnodes hperm hconnected halone ⊢
  have horphan : "x" ∈ g.orphans := by simp [orphans, hedges, hnodes]
  have hba : g.Connected "b" "a" := .single (Or.inl ⟨"next", by simp [hedges]⟩)
  refine ⟨hparse, hnodes, horphan, ?_, ?_, ?_⟩
  · exact (hconnected "b" (by simp [hnodes]) "a" (by simp [hnodes])).2 hba
  · intro h
    have hbx : g.Connected "b" "x" := (hconnected "b" (by simp [hnodes]) "x" (by simp [hnodes])).1 h
    exact absurd ((connected_iff_of_orphan horphan).1 hbx.symm) (by decide)
  · have hx : "x" ∈ g.components.flatten := hperm.mem_iff.2 (by simp [hnodes])
    obtain ⟨c, hc, hxc⟩ := List.mem_flatten.1 hx
    rwa [← halone "x" horphan c hc hxc]

end Graph

end Folio
