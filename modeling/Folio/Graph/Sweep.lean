/-
  Folio — sweeps.

  A sweep goes out along links from a place.  It keeps a queue of the places to go on
  from, each with the number of steps that led there, and takes one after the other;
  what it meets for the first time joins the queue at its end, so it meets the nearest
  places first.  A limit on the steps makes it stop early, and it enters no place that
  is not free.

  * `Sweep.run` takes steps until no place waits: each step makes the sweep smaller
    (`Sweep.size_step_lt`), so it ends.
-/
import Folio.Graph.Links

namespace Folio

variable {α : Type} [DecidableEq α]

/-- All places that links lead to, as often as they do. -/
def Links.ends (links : Links α) : List α := links.flatMap (·.2)

theorem Links.mem_ends_of_mem_next {links : Links α} {a b : α} (h : b ∈ links.next a) :
    b ∈ links.ends := by
  induction links with
  | nil => simp [next] at h
  | cons l links ih =>
    rw [next_cons] at h
    rw [ends, List.flatMap_cons, List.mem_append]
    split at h
    · exact Or.inl h
    · exact Or.inr (ih h)

/-- A sweep along links. -/
structure Sweep (α : Type) where
  /-- The places that it has met, in the order in which it met them. -/
  met : List α
  /-- The places to go on from, the next first, each with the number of steps that led
      there. -/
  queue : List (α × Nat)
  deriving Repr, DecidableEq

namespace Sweep

/-- A sweep from a place. -/
def start (a : α) : Sweep α := ⟨[a], [(a, 0)]⟩

/-- Comes to a place in a number of steps.  It is passed over if it has been met or is
    not free. -/
def meet (free : α → Bool) (steps : Nat) (s : Sweep α) (b : α) : Sweep α :=
  if free b = true ∧ b ∉ s.met then ⟨s.met ++ [b], s.queue ++ [(b, steps)]⟩ else s

/-- Are these as many steps as the sweep may take? -/
def isLast (limit : Option Int) (steps : Nat) : Bool := limit.any (· ≤ (steps : Int))

/-- Goes on from the next place. -/
def step (links : Links α) (free : α → Bool) (limit : Option Int) (s : Sweep α) : Sweep α :=
  match s.queue with
  | [] => s
  | (a, steps) :: queue =>
    if isLast limit steps then { s with queue }
    else (links.next a).foldl (meet free (steps + 1)) { s with queue }

/-- A bound on the steps that a sweep has still to take: a place that waits has been
    met, so each end of a link is counted once. -/
def size (links : Links α) (s : Sweep α) : Nat :=
  s.queue.length + (links.ends.filter (· ∉ s.met)).length

theorem size_meet_le {links : Links α} {b : α} (h : b ∈ links.ends) (free : α → Bool)
    (steps : Nat) (s : Sweep α) : (s.meet free steps b).size links ≤ s.size links := by
  unfold meet
  split
  · next hb =>
    have hsplit : (links.ends.filter (· ∉ s.met ++ [b])) =
        (links.ends.filter (· ∉ s.met)).filter (· ≠ b) := by
      rw [List.filter_filter]
      refine List.filter_congr fun x _ => ?_
      simp [and_comm]
    have hmem : b ∈ links.ends.filter (· ∉ s.met) := by simpa using ⟨h, hb.2⟩
    have hlt : ((links.ends.filter (· ∉ s.met)).filter (· ≠ b)).length <
        (links.ends.filter (· ∉ s.met)).length :=
      List.length_filter_lt_length_iff_exists.2 ⟨b, hmem, by simp⟩
    simp only [size, hsplit, List.length_append, List.length_singleton]
    omega
  · exact Nat.le_refl _

theorem size_foldl_meet_le {links : Links α} {bs : List α} (h : ∀ b ∈ bs, b ∈ links.ends)
    (free : α → Bool) (steps : Nat) (s : Sweep α) :
    (bs.foldl (meet free steps) s).size links ≤ s.size links := by
  induction bs generalizing s with
  | nil => exact Nat.le_refl _
  | cons b bs ih =>
    have hb : b ∈ links.ends := h b List.mem_cons_self
    have hbs : ∀ b ∈ bs, b ∈ links.ends := fun b hb => h b (List.mem_cons_of_mem _ hb)
    exact Nat.le_trans (ih hbs _) (size_meet_le hb free steps s)

/-- **Each step makes a sweep smaller.** -/
theorem size_step_lt {links : Links α} {free : α → Bool} {limit : Option Int} {s : Sweep α}
    (h : s.queue ≠ []) : (s.step links free limit).size links < s.size links := by
  obtain ⟨met, queue⟩ := s
  cases queue with
  | nil => exact absurd rfl h
  | cons p queue =>
    have hpop : (Sweep.mk met queue).size links < (Sweep.mk met (p :: queue)).size links := by
      simp only [size, List.length_cons]
      omega
    simp only [step]
    split
    · exact hpop
    · have hends : ∀ b ∈ links.next p.1, b ∈ links.ends := fun b => Links.mem_ends_of_mem_next
      exact Nat.lt_of_le_of_lt (size_foldl_meet_le hends free (p.2 + 1) ⟨met, queue⟩) hpop

/-- Takes steps until no place waits. -/
def run (links : Links α) (free : α → Bool) (limit : Option Int) (s : Sweep α) : Sweep α :=
  if s.queue = [] then s else run links free limit (s.step links free limit)
termination_by s.size links
decreasing_by exact size_step_lt ‹_›

end Sweep

end Folio
