/-
  Folio — the documents within some steps.

  A sweep along the edges meets the documents that a number of edges lead to, and no
  others; read backwards, edges lead from a document to those that it is within the
  same number of edges of.

  * `Graph.mem_transitive_iff`: the documents within some steps, in each direction;
  * `Graph.transitive_ofDocuments`: the same by edges, and the two directions compared.
-/
import Folio.Graph.Query
import Folio.Proofs.Graph.Cycle
import Folio.Proofs.Graph.Nodes
import Folio.Proofs.Graph.Sweep

namespace Folio

namespace Graph

variable {g : Graph} {direction : Direction} {depth : Int} {path a b : String}

/-! ## Links of a graph -/

/-- Links lead along edges, or against them. -/
theorem leads_links (g : Graph) (direction : Direction) : (g.links direction).Leads =
    match direction with
    | .outgoing => g.Points
    | .incoming => Function.swap g.Points := by
  ext a b
  rw [links, Links.leads_ofPairs, List.mem_map]
  cases direction with
  | outgoing | incoming =>
    constructor
    · rintro ⟨e, he, hends⟩
      cases hends
      exact ⟨e.relation, he⟩
    · rintro ⟨relation, he⟩
      exact ⟨_, he, rfl⟩

theorem left_links (g : Graph) (direction : Direction) :
    (g.links direction).left [] = g.edges.length := by
  rw [links, Links.left_nil_ofPairs, List.length_map]

/-! ## Within some steps -/

/-- **What is within some steps** is not where they start, and a trail of links that is
    no longer leads there. -/
theorem mem_transitive_iff : b ∈ g.transitive direction depth path ↔
    b ≠ Path.normalized path ∧ ∃ k : Nat, 1 ≤ k ∧ (k : Int) ≤ depth ∧
      Trail (g.links direction).Leads (Path.normalized path) k b := by
  have hfree : Sweep.Enters (g.links direction) (fun _ => true) = (g.links direction).Leads := by
    ext a b
    simp [Sweep.Enters]
  rw [transitive, List.mem_filter, Sweep.mem_met_run_iff, hfree, bne_iff_ne, and_comm]
  refine and_congr_right fun hne => exists_congr fun k => ?_
  rw [Sweep.allows_some_iff, ← and_assoc]
  refine and_congr_left fun htrail => ?_
  have hk : k ≠ 0 := by
    rintro rfl
    cases htrail
    exact hne rfl
  omega

theorem nodup_transitive : (g.transitive direction depth path).Nodup :=
  (Sweep.nodup_met_run (List.nodup_singleton _)).filter _

/-- **The documents within some steps of a document**, by its path, of a graph of
    documents.  At least one edge and at most so many lead to them, one after the other,
    and they are not the document itself; each is told once.  Followed backwards, edges
    lead to the documents of the graph that the document is within as many steps of.
    And the search ends, after no more steps than there are edges and one. -/
theorem transitive_ofDocuments (schema : Schema) (recorded : Document → List FieldRef)
    (docs : List Document) (depth : Int) (path : String) :
    (∀ n, n ∈ (ofDocuments schema recorded docs).transitive .outgoing depth path ↔
      n ≠ Path.normalized path ∧ ∃ k : Nat, 1 ≤ k ∧ (k : Int) ≤ depth ∧
        Trail (ofDocuments schema recorded docs).Points (Path.normalized path) k n) ∧
    (∀ n ∈ (ofDocuments schema recorded docs).nodes,
      n ∈ (ofDocuments schema recorded docs).transitive .incoming depth path ↔
        Path.normalized path ∈
          (ofDocuments schema recorded docs).transitive .outgoing depth n) ∧
    ∀ direction, ((ofDocuments schema recorded docs).transitive direction depth path).Nodup ∧
      ∃ k ≤ 1 + (ofDocuments schema recorded docs).edges.length, ∃ met,
        (Sweep.step ((ofDocuments schema recorded docs).links direction) (fun _ => true)
          (some depth))^[k] (.start (Path.normalized path)) = ⟨met, []⟩ ∧
        (ofDocuments schema recorded docs).transitive direction depth path =
          met.filter (· != Path.normalized path) := by
  refine ⟨fun n => ?_, fun n hn => ?_, fun direction => ⟨nodup_transitive, ?_⟩⟩
  · rw [mem_transitive_iff, leads_links]
  · rw [mem_transitive_iff, mem_transitive_iff, leads_links, leads_links,
      normalized_of_mem_nodes hn]
    simp only [trail_swap_iff, ne_comm]
  · obtain ⟨k, hk, hrun⟩ := Sweep.exists_iterate_start
      ((ofDocuments schema recorded docs).links direction) (fun _ => true) (some depth)
      (Path.normalized path)
    rw [left_links] at hk
    exact ⟨k, hk, _, hrun, rfl⟩

/-- Three documents that lead around a circle. -/
def circle : List Document := [linkOf "a" "b", linkOf "b" "c", linkOf "c" "a"]

/-- Around a circle of three documents the edges lead back, but not in one step. -/
theorem transitive_of_circle :
    circle.mapM (fun d => Document.parse d.raw d.path) = .ok circle ∧
      "b" ∈ (ofDocuments chainSchema (fun _ => []) circle).nodes ∧
      "b" ∈ (ofDocuments chainSchema (fun _ => []) circle).transitive .incoming 2 "./a" ∧
      "b" ∉ (ofDocuments chainSchema (fun _ => []) circle).transitive .incoming 1 "./a" := by
  have hedges : (ofDocuments chainSchema (fun _ => []) circle).edges =
      [⟨"a", "next", "b"⟩, ⟨"b", "next", "c"⟩, ⟨"c", "next", "a"⟩] := by decide +kernel
  have hnodes : (ofDocuments chainSchema (fun _ => []) circle).nodes = ["a", "b", "c"] := by
    decide +kernel
  have ha : Path.normalized "./a" = "a" := by decide +kernel
  have hb : Path.normalized "b" = "b" := by decide +kernel
  have hnode : "b" ∈ (ofDocuments chainSchema (fun _ => []) circle).nodes := by simp [hnodes]
  have hback : ∀ depth, "b" ∈ (ofDocuments chainSchema (fun _ => []) circle).transitive
      .incoming depth "./a" ↔ ∃ k : Nat, 1 ≤ k ∧ (k : Int) ≤ depth ∧
        Trail (ofDocuments chainSchema (fun _ => []) circle).Points "b" k "a" := by
    intro depth
    rw [(transitive_ofDocuments chainSchema (fun _ => []) circle depth "./a").2.1 "b" hnode,
      (transitive_ofDocuments chainSchema (fun _ => []) circle depth "b").1, ha, hb]
    simp
  refine ⟨by decide +kernel, hnode, (hback 2).2 ?_, fun h => ?_⟩
  · have hbc : (ofDocuments chainSchema (fun _ => []) circle).Points "b" "c" :=
      ⟨"next", by simp [hedges]⟩
    have hca : (ofDocuments chainSchema (fun _ => []) circle).Points "c" "a" :=
      ⟨"next", by simp [hedges]⟩
    exact ⟨2, by decide, by decide, .tail (.tail .refl hbc) hca⟩
  · obtain ⟨k, hk, hle, htrail⟩ := (hback 1).1 h
    obtain rfl : k = 1 := by omega
    cases htrail with
    | tail hstart hba =>
      cases hstart
      obtain ⟨relation, he⟩ := hba
      simp [hedges] at he

end Graph

end Folio
