/-
  Folio — what a walk along links sees.

  A walk has seen, or still has to go to, the places it starts from and all that
  links of places it has seen lead to, and nothing that links do not lead to from
  its start (`Walk.Covers`).  A step keeps this, and where no place waits it says
  which places have been seen.

  * `Links.next_ofPairs`: the links of pairs are the pairs;
  * `Walk.exists_iterate_eq_closure`: a walk ends after a bounded number of steps;
  * `Links.mem_closure_iff`: a walk sees what links lead to, in any number of steps.
-/
import Mathlib
import Folio.Graph.Links

namespace Folio

open Relation

variable {α β : Type} [DecidableEq α]

namespace Links

/-- A link leads from one place to the other. -/
def Leads (links : Links α) (a b : α) : Prop := b ∈ links.next a

theorem mem_keys_of_leads {links : Links α} {a b : α} (h : Leads links a b) :
    a ∈ links.map (·.1) := by
  unfold Leads at h
  induction links with
  | nil => simp [next] at h
  | cons l links ih =>
    rw [next_cons] at h
    by_cases ha : a = l.1
    · simp [ha]
    · rw [if_neg ha] at h
      exact List.mem_cons_of_mem _ (ih h)

/-- One link more is the last one of its place. -/
theorem next_add (links : Links α β) (a x : α) (b : β) :
    next (add a b links) x = next links x ++ if x = a then [b] else [] := by
  induction links with
  | nil =>
    rw [add, next_cons]
    rfl
  | cons l links ih =>
    by_cases ha : a = l.1
    · simp only [add, if_pos ha, next_cons]
      by_cases hx : x = l.1
      · simp [hx, ha]
      · simp [hx, ha]
    · simp only [add, if_neg ha, next_cons]
      by_cases hx : x = l.1
      · have hla : l.1 ≠ a := fun e => ha e.symm
        simp [hx, hla]
      · simpa [hx] using ih

theorem left_nil_add (a b : α) (links : Links α) :
    left [] (add a b links) = left [] links + 1 := by
  induction links with
  | nil => simp [add, left]
  | cons l links ih =>
    by_cases ha : a = l.1
    · simp [add, ha, left]; omega
    · simp only [add, if_neg ha, left, ih]; omega

/-- One pair more is one link more. -/
theorem ofPairs_append_singleton (pairs : List (α × β)) (p : α × β) :
    ofPairs (pairs ++ [p]) = add p.1 p.2 (ofPairs pairs) := by
  simp [ofPairs]

/-- **The links of pairs are the pairs**, in order. -/
theorem next_ofPairs (pairs : List (α × β)) (a : α) :
    next (ofPairs pairs) a = (pairs.filter fun p => a = p.1).map (·.2) := by
  induction pairs using List.reverseRecOn with
  | nil => rfl
  | append_singleton pairs p ih =>
    rw [ofPairs_append_singleton, next_add, ih, List.filter_append, List.map_append]
    by_cases ha : a = p.1
    · simp [ha]
    · simp [ha]

theorem leads_ofPairs {pairs : List (α × α)} {a b : α} :
    Leads (ofPairs pairs) a b ↔ (a, b) ∈ pairs := by
  simp [Leads, next_ofPairs]

theorem left_nil_ofPairs (pairs : List (α × α)) : left [] (ofPairs pairs) = pairs.length := by
  induction pairs using List.reverseRecOn with
  | nil => rfl
  | append_singleton pairs p ih => rw [ofPairs_append_singleton, left_nil_add, ih]; simp

/-- Where each place comes once, its links are those it comes with. -/
theorem leads_iff_of_nodup {links : Links α} (h : (links.map (·.1)).Nodup) {a b : α} :
    Leads links a b ↔ ∃ bs, (a, bs) ∈ links ∧ b ∈ bs := by
  unfold Leads
  induction links with
  | nil => simp [next]
  | cons l links ih =>
    obtain ⟨hl, hlinks⟩ := List.nodup_cons.1 h
    rw [next_cons]
    obtain ⟨c, cs⟩ := l
    by_cases ha : a = c
    · subst ha
      have hnot : ∀ bs, (a, bs) ∉ links := by
        intro bs hbs
        exact hl (List.mem_map.2 ⟨_, hbs, rfl⟩)
      simp [hnot]
    · simp [ha, ih hlinks]

end Links

namespace Walk

variable {links : Links α} {w : Walk α} {start : List α}

/-- The places that a walk has seen or has still to go to. -/
def Knows (w : Walk α) (a : α) : Prop := a ∈ w.seen ∨ a ∈ w.queue

/-- The walk has missed nothing so far, and met nothing that it should not. -/
structure Covers (links : Links α) (start : List α) (w : Walk α) : Prop where
  knows_start : ∀ a ∈ start, w.Knows a
  knows_next : ∀ a ∈ w.seen, ∀ b, links.Leads a b → w.Knows b
  reached : ∀ a, w.Knows a → ∃ s ∈ start, ReflTransGen links.Leads s a

/-- What a step can do. -/
theorem step_cases (links : Links α) (w : Walk α) : (w.queue = [] ∧ w.step links = w) ∨
    (∃ a queue, w.queue = a :: queue ∧ a ∈ w.seen ∧ w.step links = ⟨w.seen, queue⟩) ∨
    ∃ a queue, w.queue = a :: queue ∧ a ∉ w.seen ∧ w.step links =
      ⟨a :: w.seen, queue ++ (links.next a).filter (· ∉ a :: w.seen)⟩ := by
  obtain ⟨seen, queue⟩ := w
  cases queue with
  | nil => exact Or.inl ⟨rfl, rfl⟩
  | cons a queue =>
    by_cases ha : a ∈ seen
    · exact Or.inr (Or.inl ⟨a, queue, rfl, ha, if_pos ha⟩)
    · exact Or.inr (Or.inr ⟨a, queue, rfl, ha, if_neg ha⟩)

theorem Covers.step (h : w.Covers links start) : (w.step links).Covers links start := by
  rcases step_cases links w with ⟨-, hs⟩ | ⟨a, queue, hq, ha, hs⟩ | ⟨a, queue, hq, ha, hs⟩
  · rw [hs]; exact h
  · -- the place has been seen, so it may leave the queue
    have hknows : ∀ x, Knows ⟨w.seen, queue⟩ x ↔ w.Knows x := by
      intro x
      simp only [Knows, hq, List.mem_cons]
      constructor
      · rintro (hx | hx) <;> simp [hx]
      · rintro (hx | rfl | hx) <;> simp [*]
    rw [hs]
    constructor
    · intro x hx; exact (hknows x).2 (h.knows_start x hx)
    · intro x hx b hb; exact (hknows b).2 (h.knows_next x hx b hb)
    · intro x hx; exact h.reached x ((hknows x).1 hx)
  · have hknows : ∀ x, Knows (w.step links) x ↔ w.Knows x ∨ links.Leads a x := by
      intro x
      rw [hs]
      simp only [Knows, hq, Links.Leads, List.mem_cons, List.mem_append, List.mem_filter,
        decide_eq_true_eq]
      tauto
    have hreach : ∃ s ∈ start, ReflTransGen links.Leads s a :=
      h.reached a (Or.inr (hq ▸ List.mem_cons_self))
    constructor
    · intro x hx; exact (hknows x).2 (Or.inl (h.knows_start x hx))
    · intro x hx b hb
      rw [hs] at hx
      rcases List.mem_cons.1 hx with rfl | hx
      · exact (hknows b).2 (Or.inr hb)
      · exact (hknows b).2 (Or.inl (h.knows_next x hx b hb))
    · intro x hx
      rcases (hknows x).1 hx with hx | hx
      · exact h.reached x hx
      · obtain ⟨s, hs, hsa⟩ := hreach
        exact ⟨s, hs, hsa.tail hx⟩

theorem Covers.run (h : w.Covers links start) : (w.run links).Covers links start := by
  fun_induction Walk.run links w with
  | case1 w hq => exact h
  | case2 w hq ih => exact ih h.step

theorem queue_run (links : Links α) (w : Walk α) : (w.run links).queue = [] := by
  fun_induction Walk.run links w with
  | case1 w hq => exact hq
  | case2 w hq ih => exact ih

theorem exists_iterate_eq_run (links : Links α) (w : Walk α) :
    ∃ k ≤ w.size links, (step links)^[k] w = w.run links := by
  fun_induction Walk.run links w with
  | case1 w hq => exact ⟨0, Nat.zero_le _, rfl⟩
  | case2 w hq ih =>
    obtain ⟨k, hk, hw⟩ := ih
    have hlt : (w.step links).size links < w.size links := size_step_lt hq
    exact ⟨k + 1, by omega, hw⟩

/-- **A walk ends**, after no more steps than it has places to start from and there
    are links. -/
theorem exists_iterate_eq_closure (links : Links α) (start : List α) :
    ∃ k ≤ start.length + links.left [],
      (step links)^[k] ⟨[], start⟩ = ⟨links.closure start, []⟩ := by
  obtain ⟨k, hk, hw⟩ := exists_iterate_eq_run links ⟨[], start⟩
  have hq := queue_run links ⟨[], start⟩
  cases hr : run links ⟨[], start⟩ with
  | mk seen queue =>
    rw [hr] at hq hw
    refine ⟨k, hk, hw.trans ?_⟩
    rw [Links.closure, hr]
    exact congrArg _ hq

end Walk

namespace Links

variable {links : Links α} {start : List α}

/-- **A walk sees just what links lead to from its start.** -/
theorem mem_closure_iff {b : α} :
    b ∈ links.closure start ↔ ∃ a ∈ start, ReflTransGen links.Leads a b := by
  have hcovers : (Walk.mk [] start).Covers links start := by
    refine ⟨fun a ha => Or.inr ha, fun a ha => ?_, fun a ha => ?_⟩
    · cases ha
    · exact ⟨a, ha.resolve_left List.not_mem_nil, .refl⟩
  have hrun := hcovers.run
  have hknows : ∀ x, Walk.Knows ((Walk.mk [] start).run links) x ↔ x ∈ links.closure start := by
    intro x
    rw [Walk.Knows, Walk.queue_run]
    simp [closure]
  constructor
  · intro hb; exact hrun.reached b ((hknows b).2 hb)
  · rintro ⟨a, ha, hab⟩
    induction hab with
    | refl => exact (hknows a).1 (hrun.knows_start a ha)
    | tail _ hstep ih => exact (hknows _).1 (hrun.knows_next _ ih _ hstep)

end Links

end Folio
