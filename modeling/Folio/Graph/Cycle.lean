/-
  Folio — cycles.

  The search goes as deep as it can before it goes on.  It keeps the path it has
  come, and meets a cycle where a link leads back to the path.  A place that is done
  with is not searched again, so there may be more cycles than it meets; but it meets
  one if there is one.

  * `Cycle.Search.run` takes steps until no path is left: each step makes the search
    smaller (`size_step_lt`), so it ends;
  * `Cycle.find` are the cycles met, `Graph.cycles` those of the relations that
    must have none.
-/
import Folio.Graph.Basic
import Folio.Graph.Links

namespace Folio

namespace Cycle

variable {α : Type} [DecidableEq α]

/-- A search for cycles. -/
structure Search (α : Type) where
  /-- The path to where the search is, the last place first; each place has with it
      those it leads to that are still to be tried. -/
  path : List (α × List α)
  /-- The places that are done with. -/
  done : List α
  /-- The cycles met; each ends where it starts. -/
  cycles : List (List α)
  deriving Repr, DecidableEq

namespace Search

/-- A search that has met nothing yet. -/
def empty : Search α := ⟨[], [], []⟩

/-- The places on the path, the last first. -/
def onPath (s : Search α) : List α := s.path.map (·.1)

/-- Tries the next link of the last place on the path.  Where none is left to try,
    the place is done with. -/
def step (links : Links α) (s : Search α) : Search α :=
  match s.path with
  | [] => s
  | (a, []) :: path => { s with path, done := a :: s.done }
  | (a, b :: rest) :: path =>
    if b ∈ s.onPath then
      { s with
        path := (a, rest) :: path
        cycles := s.cycles ++ [s.onPath.reverse.dropWhile (· ≠ b) ++ [b]] }
    else if b ∈ s.done then { s with path := (a, rest) :: path }
    else { s with path := (b, links.next b) :: (a, rest) :: path }

/-- The links of a path that are still to be tried, each of them twice, and the
    places on it. -/
def weight : List (α × List α) → Nat
  | [] => 0
  | p :: path => 2 * p.2.length + 1 + weight path

/-- A bound on the steps that a search has still to take: to enter a place takes the
    link that leads there, so links count twice. -/
def size (links : Links α) (s : Search α) : Nat :=
  weight s.path + 2 * links.left (s.onPath ++ s.done)

/-- **Each step makes a search smaller.** -/
theorem size_step_lt {links : Links α} {s : Search α} (h : s.path ≠ []) :
    (s.step links).size links < s.size links := by
  obtain ⟨path, done, cycles⟩ := s
  cases path with
  | nil => exact absurd rfl h
  | cons p path =>
    obtain ⟨a, _ | ⟨b, rest⟩⟩ := p
    · have hsub : a :: path.map (·.1) ++ done ⊆ path.map (·.1) ++ a :: done := by
        intro x hx
        simp only [List.cons_append, List.mem_cons, List.mem_append] at hx ⊢
        rcases hx with hx | hx | hx <;> simp [hx]
      have hle := Links.left_le_of_subset hsub links
      simp only [step, size, onPath, weight, List.map_cons] at hle ⊢
      omega
    · simp only [step]
      split
      · simp only [size, onPath, weight, List.map_cons, List.length_cons]
        omega
      · split
        · simp only [size, onPath, weight, List.map_cons, List.length_cons]
          omega
        · next hpath hdone =>
          have hnew : b ∉ a :: path.map (·.1) ++ done := fun hb =>
            (List.mem_append.1 hb).elim hpath hdone
          have hle := Links.left_cons_add_le hnew links
          simp only [size, onPath, weight, List.map_cons, List.length_cons,
            List.cons_append] at hle ⊢
          omega

/-- Takes steps until no path is left. -/
def run (links : Links α) (s : Search α) : Search α :=
  if s.path = [] then s else run links (s.step links)
termination_by s.size links
decreasing_by exact size_step_lt ‹_›

/-- Searches from a place, unless it is done with. -/
def visit (links : Links α) (s : Search α) (a : α) : Search α :=
  if a ∈ s.done then s else run links { s with path := [(a, links.next a)] }

end Search

/-- The cycles that are met from the places that lead somewhere. -/
def find (links : Links α) : List (List α) :=
  ((links.map (·.1)).foldl (Search.visit links) .empty).cycles

end Cycle

namespace Graph

/-- The links that the edges of a relation make. -/
def linksOf (edges : List Edge) (relation : String) : Links String :=
  .ofPairs ((edges.filter (·.relation == relation)).map fun e => (e.source, e.target))

/-- The cycles along the relations that must have none, each with its
    relation. -/
def cycles (g : Graph) : List (String × List String) :=
  let edges := g.edges
  (g.schema.relations.filter (·.acyclic)).flatMap fun r =>
    (Cycle.find (linksOf edges r.name)).map (r.name, ·)

end Graph

end Folio
