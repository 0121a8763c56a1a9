/-
  Folio — what a sweep meets.

  A sweep goes out in rings.  The places that wait are those that are left of one ring
  (`now`), and behind them those of the next ring that have been met so far (`later`);
  all that is as near as the ring has been met, and the next ring is complete but for
  what the places in `now` still add (`Sweep.Stage`).  A step keeps this: it takes a
  place out of `now`, and where none is left there the next ring begins.  In the end no
  place waits, so a sweep has met what the steps that its limit allows lead to.

  * `Trail` and `Near`: so many steps, and at most so many;
  * `Sweep.mem_met_run_iff`: what a sweep meets;
  * `Sweep.exists_iterate_eq_run`: it ends after a bounded number of steps.
-/
import Folio.Graph.Sweep
import Folio.Proofs.Graph.Walk

namespace Folio

open Relation

variable {α : Type}

/-! ## Trails -/

/-- So many steps of a relation lead from one place to the other. -/
inductive Trail (r : α → α → Prop) (a : α) : Nat → α → Prop
  | refl : Trail r a 0 a
  | tail {n : Nat} {b c : α} (h : Trail r a n b) (hbc : r b c) : Trail r a (n + 1) c

/-- At most so many steps lead from one place to the other. -/
def Near (r : α → α → Prop) (a : α) (n : Nat) (b : α) : Prop := ∃ m ≤ n, Trail r a m b

section
variable {r : α → α → Prop} {a b c : α} {n m : Nat}

theorem Trail.head (hab : r a b) (h : Trail r b n c) : Trail r a (n + 1) c := by
  induction h with
  | refl => exact .tail .refl hab
  | tail _ hbc ih => exact .tail ih hbc

/-- A trail read backwards. -/
theorem Trail.swap (h : Trail r a n b) : Trail (Function.swap r) b n a := by
  induction h with
  | refl => exact .refl
  | tail _ hbc ih => exact .head hbc ih

theorem trail_swap_iff : Trail (Function.swap r) b n a ↔ Trail r a n b := ⟨Trail.swap, Trail.swap⟩

theorem exists_trail_iff : (∃ n, Trail r a n b) ↔ ReflTransGen r a b := by
  constructor
  · rintro ⟨n, h⟩
    induction h with
    | refl => exact .refl
    | tail _ hbc ih => exact ih.tail hbc
  · intro h
    induction h with
    | refl => exact ⟨0, .refl⟩
    | tail _ hbc ih =>
      obtain ⟨n, hn⟩ := ih
      exact ⟨n + 1, hn.tail hbc⟩

theorem near_zero_iff : Near r a 0 b ↔ b = a := by
  constructor
  · rintro ⟨m, hm, h⟩
    obtain rfl := Nat.le_zero.1 hm
    cases h
    rfl
  · rintro rfl
    exact ⟨0, Nat.le_refl 0, .refl⟩

theorem Near.mono (h : Near r a n b) (hnm : n ≤ m) : Near r a m b := by
  obtain ⟨k, hk, h⟩ := h
  exact ⟨k, hk.trans hnm, h⟩

theorem near_succ_iff : Near r a (n + 1) c ↔ Near r a n c ∨ ∃ b, Near r a n b ∧ r b c := by
  constructor
  · rintro ⟨m, hm, h⟩
    cases h with
    | refl => exact Or.inl ⟨0, Nat.zero_le n, .refl⟩
    | @tail k b _ h hbc => exact Or.inr ⟨b, ⟨k, by omega, h⟩, hbc⟩
  · rintro (h | ⟨b, ⟨m, hm, h⟩, hbc⟩)
    · exact h.mono (Nat.le_succ n)
    · exact ⟨m + 1, by omega, h.tail hbc⟩

end

variable [DecidableEq α]

theorem Links.length_ends (links : Links α) : links.ends.length = left [] links := by
  induction links with
  | nil => rfl
  | cons l links ih =>
    rw [ends, List.flatMap_cons, List.length_append]
    simpa [left, ends] using ih

namespace Sweep

variable {links : Links α} {free : α → Bool} {limit : Option Int} {s : Sweep α}

/-! ## Steps -/

/-- A link leads from one place to the other, and this one may be entered. -/
def Enters (links : Links α) (free : α → Bool) (a b : α) : Prop :=
  links.Leads a b ∧ free b = true

/-- The limit allows so many steps. -/
def Allows (limit : Option Int) (n : Nat) : Prop := ∀ m < n, isLast limit m = false

theorem Allows.succ {n : Nat} (h : Allows limit n) (hn : isLast limit n = false) :
    Allows limit (n + 1) := by
  intro m hm
  rcases Nat.lt_succ_iff_lt_or_eq.1 hm with hm | rfl
  · exact h m hm
  · exact hn

theorem allows_none (n : Nat) : Allows none n := fun _ _ => rfl

theorem allows_some_iff {d : Int} {n : Nat} : Allows (some d) n ↔ n = 0 ∨ (n : Int) ≤ d := by
  simp only [Allows, isLast, Option.any_some, decide_eq_false_iff_not, not_le]
  constructor
  · intro h
    cases n with
    | zero => exact Or.inl rfl
    | succ n =>
      have := h n (Nat.lt_succ_self n)
      exact Or.inr (by omega)
  · intro h m hm
    omega

/-- What comes to several places one after the other. -/
theorem foldl_meet (free : α → Bool) (n : Nat) (bs : List α) (s : Sweep α) :
    ∃ new, bs.foldl (meet free n) s = ⟨s.met ++ new, s.queue ++ new.map (·, n)⟩ ∧ new.Nodup ∧
      ∀ b, b ∈ new ↔ b ∈ bs ∧ free b = true ∧ b ∉ s.met := by
  induction bs generalizing s with
  | nil => exact ⟨[], by simp, List.nodup_nil, by simp⟩
  | cons b bs ih =>
    obtain ⟨new, heq, hnodup, hmem⟩ := ih (s.meet free n b)
    rw [List.foldl_cons, heq]
    by_cases hb : free b = true ∧ b ∉ s.met
    · have hmeet : s.meet free n b = ⟨s.met ++ [b], s.queue ++ [(b, n)]⟩ := if_pos hb
      rw [hmeet] at hmem ⊢
      refine ⟨b :: new, by simp, List.nodup_cons.2 ⟨fun h => ?_, hnodup⟩, fun c => ?_⟩
      · exact ((hmem b).1 h).2.2 (List.mem_append_right _ List.mem_cons_self)
      · rw [List.mem_cons, hmem c, List.mem_cons, List.mem_append, List.mem_singleton]
        constructor
        · rintro (rfl | ⟨hc, hfree, hnew⟩)
          · exact ⟨Or.inl rfl, hb⟩
          · exact ⟨Or.inr hc, hfree, fun h => hnew (Or.inl h)⟩
        · rintro ⟨hc, hfree, hnew⟩
          by_cases h : c = b
          · exact Or.inl h
          · exact Or.inr ⟨hc.resolve_left h, hfree, fun h' => h'.elim hnew h⟩
    · have hmeet : s.meet free n b = s := if_neg hb
      rw [hmeet] at hmem ⊢
      refine ⟨new, rfl, hnodup, fun c => ?_⟩
      rw [hmem c, List.mem_cons]
      constructor
      · rintro ⟨hc, hnew⟩
        exact ⟨Or.inr hc, hnew⟩
      · rintro ⟨rfl | hc, hnew⟩
        · exact absurd hnew hb
        · exact ⟨hc, hnew⟩

/-- **What a step can do**: nothing, if no place waits; pass over a place that as many
    steps as may be taken led to; or meet what a place leads to. -/
theorem step_cases (links : Links α) (free : α → Bool) (limit : Option Int) (s : Sweep α) :
    (s.queue = [] ∧ s.step links free limit = s) ∨
    ∃ a n queue, s.queue = (a, n) :: queue ∧
      ((isLast limit n = true ∧ s.step links free limit = ⟨s.met, queue⟩) ∨
        (isLast limit n = false ∧ ∃ new, new.Nodup ∧
          (∀ b, b ∈ new ↔ Enters links free a b ∧ b ∉ s.met) ∧
          s.step links free limit = ⟨s.met ++ new, queue ++ new.map (·, n + 1)⟩)) := by
  obtain ⟨met, queue⟩ := s
  cases queue with
  | nil => exact Or.inl ⟨rfl, rfl⟩
  | cons p queue =>
    obtain ⟨a, n⟩ := p
    refine Or.inr ⟨a, n, queue, rfl, ?_⟩
    cases hlast : isLast limit n with
    | true => exact Or.inl ⟨rfl, if_pos hlast⟩
    | false =>
      obtain ⟨new, heq, hnodup, hmem⟩ := foldl_meet free (n + 1) (links.next a) ⟨met, queue⟩
      refine Or.inr ⟨rfl, new, hnodup, fun b => ?_, ?_⟩
      · rw [hmem b, Enters, Links.Leads, and_assoc]
      · have hgo : ¬ isLast limit n = true := by simp [hlast]
        exact (if_neg hgo).trans heq

/-! ## Rings -/

/-- How far a sweep from a place is: `now` are the places that wait and are `n` steps
    away, `later` those that are one step more away. -/
structure Stage (links : Links α) (free : α → Bool) (limit : Option Int) (a : α) (n : Nat)
    (now later : List α) (s : Sweep α) : Prop where
  queue : s.queue = now.map (·, n) ++ later.map (·, n + 1)
  allows : Allows limit n
  goesOn : later ≠ [] → isLast limit n = false
  near_now : ∀ b ∈ now, Near (Enters links free) a n b
  near_later : ∀ b ∈ later, Near (Enters links free) a (n + 1) b
  met_of_near : ∀ b, Near (Enters links free) a n b → b ∈ s.met
  near_of_met : ∀ b ∈ s.met, Near (Enters links free) a n b ∨ b ∈ later
  met_of_enters : isLast limit n = false → ∀ b, Near (Enters links free) a n b → b ∉ now →
    ∀ c, Enters links free b c → c ∈ s.met

namespace Stage

variable {a b : α} {n : Nat} {now later : List α}

theorem start (links : Links α) (free : α → Bool) (limit : Option Int) (a : α) :
    Stage links free limit a 0 [a] [] (.start a) where
  queue := rfl
  allows := fun m hm => absurd hm (Nat.not_lt_zero m)
  goesOn := fun h => absurd rfl h
  near_now := fun _ hb => near_zero_iff.2 (List.mem_singleton.1 hb)
  near_later := fun _ hb => absurd hb List.not_mem_nil
  met_of_near := fun _ hb => List.mem_singleton.2 (near_zero_iff.1 hb)
  near_of_met := fun _ hb => Or.inl (near_zero_iff.2 (List.mem_singleton.1 hb))
  met_of_enters := fun _ _ hb hnow => absurd (List.mem_singleton.2 (near_zero_iff.1 hb)) hnow

/-- Where a ring is done with, the next one begins. -/
theorem next (h : Stage links free limit a n [] later s) (hlater : later ≠ []) :
    Stage links free limit a (n + 1) later [] s := by
  have hlast : isLast limit n = false := h.goesOn hlater
  have hmet : ∀ b, Near (Enters links free) a (n + 1) b → b ∈ s.met := by
    intro b hb
    rcases near_succ_iff.1 hb with hb | ⟨c, hc, hcb⟩
    · exact h.met_of_near b hb
    · exact h.met_of_enters hlast c hc List.not_mem_nil b hcb
  refine ⟨by simpa using h.queue, h.allows.succ hlast, fun h => absurd rfl h, h.near_later,
    fun b hb => absurd hb List.not_mem_nil, hmet, fun b hb => ?_, fun _ b hb hnot c hbc => ?_⟩
  · rcases h.near_of_met b hb with hb | hb
    · exact Or.inl (hb.mono (Nat.le_succ n))
    · exact Or.inl (h.near_later b hb)
  · have hnear := (h.near_of_met b (hmet b hb)).resolve_right hnot
    exact h.met_of_enters hlast b hnear List.not_mem_nil c hbc

/-- A step takes a place out of its ring. -/
theorem take (h : Stage links free limit a n (b :: now) later s) :
    ∃ later', Stage links free limit a n now later' (s.step links free limit) := by
  have hqueue : s.queue = (b, n) :: (now.map (·, n) ++ later.map (·, n + 1)) := h.queue
  have hb : Near (Enters links free) a n b := h.near_now b List.mem_cons_self
  have hnow : ∀ c ∈ now, Near (Enters links free) a n c :=
    fun c hc => h.near_now c (List.mem_cons_of_mem _ hc)
  rcases step_cases links free limit s with ⟨hnil, -⟩ | ⟨b', n', queue, hq, hs⟩
  · rw [hqueue] at hnil
    cases hnil
  · rw [hqueue] at hq
    cases hq
    rcases hs with ⟨hlast, hs⟩ | ⟨hlast, new, -, hnew, hs⟩
    · rw [hs]
      exact ⟨later, rfl, h.allows, h.goesOn, hnow, h.near_later, h.met_of_near, h.near_of_met,
        fun hgo => absurd (hlast.symm.trans hgo) (by decide)⟩
    · rw [hs]
      refine ⟨later ++ new, by simp, h.allows, fun _ => hlast, hnow, ?_, ?_, ?_, ?_⟩
      · intro c hc
        rcases List.mem_append.1 hc with hc | hc
        · exact h.near_later c hc
        · exact near_succ_iff.2 (Or.inr ⟨b, hb, ((hnew c).1 hc).1⟩)
      · intro c hc
        exact List.mem_append_left _ (h.met_of_near c hc)
      · intro c hc
        rcases List.mem_append.1 hc with hc | hc
        · exact (h.near_of_met c hc).imp_right (List.mem_append_left _)
        · exact Or.inr (List.mem_append_right _ hc)
      · intro _ c hc hnot e hce
        by_cases he : e ∈ s.met
        · exact List.mem_append_left _ he
        · by_cases hcb : c = b
          · subst hcb
            exact List.mem_append_right _ ((hnew e).2 ⟨hce, he⟩)
          · have hnot' : c ∉ b :: now := fun hmem => (List.mem_cons.1 hmem).elim hcb hnot
            exact absurd (h.met_of_enters hlast c hc hnot' e hce) he

/-- **A step keeps the order of the rings.** -/
theorem step (h : Stage links free limit a n now later s) (hq : s.queue ≠ []) :
    ∃ n now later, Stage links free limit a n now later (s.step links free limit) := by
  cases now with
  | cons b now =>
    obtain ⟨later', h'⟩ := h.take
    exact ⟨n, now, later', h'⟩
  | nil =>
    cases later with
    | nil => exact absurd h.queue hq
    | cons b later =>
      obtain ⟨later', h'⟩ := (h.next (List.cons_ne_nil b later)).take
      exact ⟨n + 1, later, later', h'⟩

/-- Where no place waits, all that the limit allows has been met. -/
theorem mem_met_iff (h : Stage links free limit a n now later s) (hq : s.queue = []) :
    b ∈ s.met ↔ ∃ m, Allows limit m ∧ Trail (Enters links free) a m b := by
  obtain ⟨hnow, hlater⟩ := List.append_eq_nil_iff.1 (h.queue.symm.trans hq)
  obtain rfl := List.map_eq_nil_iff.1 hnow
  obtain rfl := List.map_eq_nil_iff.1 hlater
  constructor
  · intro hb
    obtain ⟨m, hm, htrail⟩ := (h.near_of_met b hb).resolve_right List.not_mem_nil
    exact ⟨m, fun k hk => h.allows k (by omega), htrail⟩
  · rintro ⟨m, hm, htrail⟩
    refine h.met_of_near b ?_
    cases hlast : isLast limit n with
    | true =>
      refine ⟨m, Nat.le_of_not_lt fun hnm => ?_, htrail⟩
      exact absurd (hlast.symm.trans (hm n hnm)) (by decide)
    | false =>
      -- nothing leads out of what is as near as the last ring
      clear hm
      induction htrail with
      | refl => exact ⟨0, Nat.zero_le n, .refl⟩
      | tail _ hbc ih =>
        have hc := h.met_of_enters hlast _ ih List.not_mem_nil _ hbc
        exact (h.near_of_met _ hc).resolve_right List.not_mem_nil

theorem mem_met_run_iff (h : Stage links free limit a n now later s) :
    b ∈ (s.run links free limit).met ↔
      ∃ m, Allows limit m ∧ Trail (Enters links free) a m b := by
  fun_induction Sweep.run links free limit s generalizing n now later with
  | case1 s hq => exact h.mem_met_iff hq
  | case2 s hq ih =>
    obtain ⟨n', now', later', h'⟩ := h.step hq
    exact ih h'

end Stage

/-! ## Runs -/

/-- **A sweep meets what the steps that its limit allows lead to.** -/
theorem mem_met_run_iff (a b : α) : b ∈ ((start a).run links free limit).met ↔
    ∃ n, Allows limit n ∧ Trail (Enters links free) a n b :=
  (Stage.start links free limit a).mem_met_run_iff

theorem nodup_met_step (h : s.met.Nodup) : (s.step links free limit).met.Nodup := by
  rcases step_cases links free limit s with ⟨-, hs⟩ | ⟨a, n, queue, -, ⟨-, hs⟩ | ⟨-, new, hnodup, hmem, hs⟩⟩
  · rw [hs]; exact h
  · rw [hs]; exact h
  · rw [hs]
    refine List.nodup_append.2 ⟨h, hnodup, fun x hx y hy hxy => ?_⟩
    exact ((hmem y).1 hy).2 (hxy ▸ hx)

/-- A sweep meets each place once. -/
theorem nodup_met_run (h : s.met.Nodup) : (s.run links free limit).met.Nodup := by
  fun_induction Sweep.run links free limit s with
  | case1 s hq => exact h
  | case2 s hq ih => exact ih (nodup_met_step h)

theorem prefix_met_step (links : Links α) (free : α → Bool) (limit : Option Int) (s : Sweep α) :
    s.met <+: (s.step links free limit).met := by
  rcases step_cases links free limit s with ⟨-, hs⟩ | ⟨a, n, queue, -, ⟨-, hs⟩ | ⟨-, new, -, -, hs⟩⟩
  · rw [hs]
  · rw [hs]
  · rw [hs]; exact List.prefix_append _ _

/-- What has been met stays where it is. -/
theorem prefix_met_run (links : Links α) (free : α → Bool) (limit : Option Int) (s : Sweep α) :
    s.met <+: (s.run links free limit).met := by
  fun_induction Sweep.run links free limit s with
  | case1 s hq => exact List.prefix_refl _
  | case2 s hq ih => exact (prefix_met_step links free limit s).trans ih

theorem queue_run (links : Links α) (free : α → Bool) (limit : Option Int) (s : Sweep α) :
    (s.run links free limit).queue = [] := by
  fun_induction Sweep.run links free limit s with
  | case1 s hq => exact hq
  | case2 s hq ih => exact ih

theorem exists_iterate_eq_run (links : Links α) (free : α → Bool) (limit : Option Int)
    (s : Sweep α) :
    ∃ k ≤ s.size links, (step links free limit)^[k] s = s.run links free limit := by
  fun_induction Sweep.run links free limit s with
  | case1 s hq => exact ⟨0, Nat.zero_le _, rfl⟩
  | case2 s hq ih =>
    obtain ⟨k, hk, hs⟩ := ih
    have hlt : (s.step links free limit).size links < s.size links := size_step_lt hq
    exact ⟨k + 1, by omega, hs⟩

/-- **A sweep ends**, after no more steps than there are links and one. -/
theorem exists_iterate_start (links : Links α) (free : α → Bool) (limit : Option Int) (a : α) :
    ∃ k ≤ 1 + links.left [], (step links free limit)^[k] (start a) =
      ⟨((start a).run links free limit).met, []⟩ := by
  obtain ⟨k, hk, hs⟩ := exists_iterate_eq_run links free limit (start a)
  have hsize : (start a).size links ≤ 1 + links.left [] := by
    rw [← Links.length_ends, size]
    exact Nat.add_le_add_left (List.length_filter_le _ _) 1
  refine ⟨k, hk.trans hsize, hs.trans ?_⟩
  rw [← queue_run links free limit (start a)]

end Sweep

end Folio
