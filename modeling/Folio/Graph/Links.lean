/-
  Folio — links.

  Links lead from places to places.  A place that leads somewhere comes once, where
  it is first met, with the places that it leads to; links may lead in a circle, and
  to places that lead nowhere.  What is led to can also be something else than a
  place, as an edge is that is filed under one of its ends.

  A walk along links keeps a queue of the places to go to.  It takes one after the
  other, leaves out those it has seen, and queues what the others lead to; so a place
  may wait more than once.

  * `Links.ofPairs` are the links that pairs of places make;
  * `Walk.run` takes steps until no place waits: each step makes the walk smaller
    (`Walk.size_step_lt`), so it ends;
  * `Links.closure` are the places that such a walk sees.
-/

namespace Folio

/-- Places with those they lead to, or with what else is kept under them. -/
abbrev Links (α : Type) (β : Type := α) := List (α × List β)

namespace Links

variable {α β : Type} [DecidableEq α]

/-- The places that a place leads to. -/
def next (links : Links α β) (a : α) : List β := (links.lookup a).getD []

/-- The links with one more. -/
def add (a : α) (b : β) : Links α β → Links α β
  | [] => [(a, [b])]
  | l :: links => if a = l.1 then (l.1, l.2 ++ [b]) :: links else l :: add a b links

/-- The links that pairs of places make. -/
def ofPairs (pairs : List (α × β)) : Links α β :=
  pairs.foldl (fun links p => add p.1 p.2 links) []

/-- How many links the places have that are not among some. -/
def left (seen : List α) : Links α → Nat
  | [] => 0
  | l :: links => (if l.1 ∈ seen then 0 else l.2.length) + left seen links

theorem next_cons (l : α × List β) (links : Links α β) (a : α) :
    next (l :: links) a = if a = l.1 then l.2 else next links a := by
  obtain ⟨b, bs⟩ := l
  by_cases h : a = b
  · simp [next, h]
  · have : (a == b) = false := by simpa using h
    simp [next, List.lookup_cons, h, this]

theorem left_le_of_subset {seen seen' : List α} (h : seen ⊆ seen') (links : Links α) :
    left seen' links ≤ left seen links := by
  induction links with
  | nil => exact Nat.le_refl _
  | cons l links ih =>
    have hl : l.1 ∈ seen → l.1 ∈ seen' := fun hl => h hl
    simp only [left]
    split <;> split <;> first | omega | exact absurd (hl ‹_›) ‹_›

/-- The links of a place are no longer left once it is seen. -/
theorem left_cons_add_le {seen : List α} {a : α} (ha : a ∉ seen) (links : Links α) :
    left (a :: seen) links + (next links a).length ≤ left seen links := by
  induction links with
  | nil => simp [left, next]
  | cons l links ih =>
    have hle := left_le_of_subset (List.subset_cons_self a seen) links
    rw [next_cons]
    by_cases h : a = l.1
    · simp only [left, ← h, ha, List.mem_cons_self, if_true, if_false]
      omega
    · have hne : l.1 ≠ a := fun e => h e.symm
      simp only [left, List.mem_cons, hne, false_or, if_neg h]
      omega

end Links

/-! ## Walks -/

/-- A walk along links. -/
structure Walk (α : Type) where
  /-- The places that it has seen. -/
  seen : List α
  /-- The places that wait, the next first. -/
  queue : List α
  deriving Repr, DecidableEq

namespace Walk

variable {α : Type} [DecidableEq α]

/-- Takes the next place. -/
def step (links : Links α) (w : Walk α) : Walk α :=
  match w.queue with
  | [] => w
  | a :: queue =>
    if a ∈ w.seen then { w with queue }
    else ⟨a :: w.seen, queue ++ (links.next a).filter (· ∉ a :: w.seen)⟩

/-- A bound on the steps that a walk has still to take. -/
def size (links : Links α) (w : Walk α) : Nat := w.queue.length + links.left w.seen

/-- **Each step makes a walk smaller.** -/
theorem size_step_lt {links : Links α} {w : Walk α} (h : w.queue ≠ []) :
    (w.step links).size links < w.size links := by
  obtain ⟨seen, queue⟩ := w
  cases queue with
  | nil => exact absurd rfl h
  | cons a queue =>
    by_cases ha : a ∈ seen
    · simp only [step, size, if_pos ha, List.length_cons]
      omega
    · have hleft := Links.left_cons_add_le ha links
      have hnew := List.length_filter_le (· ∉ a :: seen) (links.next a)
      simp only [step, size, if_neg ha, List.length_cons, List.length_append]
      omega

/-- Takes places until none waits. -/
def run (links : Links α) (w : Walk α) : Walk α :=
  if w.queue = [] then w else run links (w.step links)
termination_by w.size links
decreasing_by exact size_step_lt ‹_›

end Walk

/-- The places that a walk from some places sees. -/
def Links.closure {α : Type} [DecidableEq α] (links : Links α) (start : List α) : List α :=
  (Walk.run links ⟨[], start⟩).seen

end Folio
