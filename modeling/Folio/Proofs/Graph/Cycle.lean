/-
  Folio — the search for cycles meets one if there is one.

  The path of a search leads along links and visits no place twice, so a link back to
  it closes a cycle.  As long as no cycle is met, all links of a place that is done
  with lead to places that were done with before (`Settled`): such places lie on no
  cycle.  A step keeps both (`Search.Invariant`), and in the end all places that lead
  somewhere are done with.

  The cycles that a graph tells of are those that a search along the edges of a relation
  that must have none meets, each with the name of the relation.  In a schema a name tells
  a relation, so nothing is told of the others.

  * `isCycle_of_mem_find`: what is met is a cycle;
  * `find_eq_nil_iff`: nothing is met just if there is no cycle;
  * `Graph.cycles_ofDocuments`: of a relation that must have no cycles one is told of
    just if its edges have one, and what is told is a cycle.
-/
import Folio.Graph.Cycle
import Folio.Proofs.Graph.Walk
import Folio.Proofs.Schema.Relations

namespace Folio.Cycle

open Relation

variable {α : Type}

/-! ## Cycles -/

/-- The places lead around a cycle: each to the next, and the last one is the
    first. -/
structure IsCycle (r : α → α → Prop) (places : List α) : Prop where
  two_le_length : 2 ≤ places.length
  closed : places.head? = places.getLast?
  nodup : places.dropLast.Nodup
  chain : places.IsChain r

theorem IsCycle.exists_transGen {r : α → α → Prop} {places : List α} (h : IsCycle r places) :
    ∃ a, TransGen r a a := by
  obtain ⟨hlen, hclosed, -, hchain⟩ := h
  match places, hlen with
  | a :: b :: rest, _ =>
    have hab : r a b := List.rel_of_isChain_cons_cons hchain
    have hlast : (b :: rest).getLast (List.cons_ne_nil _ _) = a := by
      simpa [List.getLast?_eq_some_getLast] using hclosed.symm
    have hba := List.relationReflTransGen_of_exists_isChain_cons rest hchain.tail hlast
    exact ⟨a, TransGen.head' hab hba⟩

/-- A link from the end of a path back to it closes a cycle. -/
theorem isCycle_dropWhile_append [DecidableEq α] {r : α → α → Prop} {places : List α} {a b : α}
    (hchain : places.IsChain r) (hnodup : places.Nodup) (hlast : places.getLast? = some a)
    (hb : b ∈ places) (hab : r a b) : IsCycle r (places.dropWhile (· ≠ b) ++ [b]) := by
  obtain ⟨before, after, rfl, hnot⟩ := List.eq_append_cons_of_mem hb
  have hdrop : (before ++ b :: after).dropWhile (· ≠ b) = b :: after := by
    have hbefore : ∀ x ∈ before, decide (x ≠ b) = true := by
      intro x hx
      simpa using fun e : x = b => hnot (e ▸ hx)
    rw [List.dropWhile_append_of_pos hbefore]
    simp
  have hsuffix : b :: after <:+ before ++ b :: after := List.suffix_append _ _
  have hend : (b :: after).getLast? = some a := by
    rwa [List.getLast?_append_cons] at hlast
  rw [hdrop]
  refine ⟨by simp, by rw [List.getLast?_concat]; rfl, ?_, ?_⟩
  · rw [List.dropLast_concat]
    exact hnodup.sublist hsuffix.sublist
  · refine List.isChain_append.2 ⟨hchain.suffix hsuffix, List.isChain_singleton b, ?_⟩
    intro x hx y hy
    obtain rfl : a = x := Option.some.inj (hend.symm.trans hx)
    obtain rfl : b = y := by simpa using hy
    exact hab

/-! ## Steps -/

namespace Search

variable [DecidableEq α] {links : Links α} {s : Search α}

/-- **What a step can do**: leave a place that has no links to try, meet a cycle, pass
    over a place that is done with, or enter a place. -/
theorem step_cases (links : Links α) (s : Search α) :
    (s.path = [] ∧ s.step links = s) ∨
    (∃ a path, s.path = (a, []) :: path ∧ s.step links = ⟨path, a :: s.done, s.cycles⟩) ∨
    ∃ a b rest path, s.path = (a, b :: rest) :: path ∧
      ((b ∈ s.onPath ∧ s.step links =
          ⟨(a, rest) :: path, s.done, s.cycles ++ [s.onPath.reverse.dropWhile (· ≠ b) ++ [b]]⟩) ∨
        (b ∉ s.onPath ∧ b ∈ s.done ∧ s.step links = ⟨(a, rest) :: path, s.done, s.cycles⟩) ∨
        (b ∉ s.onPath ∧ b ∉ s.done ∧
          s.step links = ⟨(b, links.next b) :: (a, rest) :: path, s.done, s.cycles⟩)) := by
  obtain ⟨path, done, cycles⟩ := s
  cases path with
  | nil => exact Or.inl ⟨rfl, rfl⟩
  | cons p path =>
    obtain ⟨a, _ | ⟨b, rest⟩⟩ := p
    · exact Or.inr (Or.inl ⟨a, path, rfl, rfl⟩)
    · refine Or.inr (Or.inr ⟨a, b, rest, path, rfl, ?_⟩)
      simp only [step]
      split
      · next hb => exact Or.inl ⟨hb, rfl⟩
      · next hb =>
        split
        · next hd => exact Or.inr (Or.inl ⟨hb, hd, rfl⟩)
        · next hd => exact Or.inr (Or.inr ⟨hb, hd, rfl⟩)

/-- The links of a place that is done with lead to places that were done with
    before. -/
def Settled (links : Links α) : List α → Prop
  | [] => True
  | a :: done => (∀ b, links.Leads a b → b ∈ done) ∧ Settled links done

/-- The links of a place on the path that have been tried lead to places that are done
    with, but for the one to the place after it. -/
def Tried (links : Links α) (done : List α) : (after : Option α) → List (α × List α) → Prop
  | _, [] => True
  | after, (a, rest) :: path =>
    (∀ b, links.Leads a b → b ∈ rest ∨ b ∈ done ∨ after = some b) ∧
      Tried links done (some a) path

theorem Tried.mono {done done' : List α} {after : Option α} {path : List (α × List α)}
    (h : Tried links done after path) (hsub : done ⊆ done') : Tried links done' after path := by
  induction path generalizing after with
  | nil => trivial
  | cons p path ih =>
    refine ⟨fun b hb => ?_, ih h.2⟩
    rcases h.1 b hb with hb | hb | hb
    exacts [Or.inl hb, Or.inr (Or.inl (hsub hb)), Or.inr (Or.inr hb)]

/-- A place that is done with needs no exception. -/
theorem Tried.of_mem {done : List α} {a : α} {path : List (α × List α)}
    (h : Tried links done (some a) path) (ha : a ∈ done) : Tried links done none path := by
  cases path with
  | nil => trivial
  | cons p path =>
    refine ⟨fun b hb => ?_, h.2⟩
    rcases h.1 b hb with hb | hb | hb
    · exact Or.inl hb
    · exact Or.inr (Or.inl hb)
    · exact Or.inr (Or.inl (Option.some.inj hb ▸ ha))

/-- What holds of a search after every step. -/
structure Invariant (links : Links α) (s : Search α) : Prop where
  chain : s.onPath.IsChain fun a b => links.Leads b a
  nodup : s.onPath.Nodup
  untried : ∀ p ∈ s.path, ∀ b ∈ p.2, links.Leads p.1 b
  cycles : ∀ places ∈ s.cycles, IsCycle links.Leads places
  settled : s.cycles = [] → Settled links s.done
  tried : s.cycles = [] → Tried links s.done none s.path

theorem Invariant.step (h : s.Invariant links) : (s.step links).Invariant links := by
  obtain ⟨hchain, hnodup, huntried, hcycles, hsettled, htried⟩ := h
  rcases step_cases links s with ⟨-, hs⟩ | ⟨a, path, hp, hs⟩ | ⟨a, b, rest, path, hp, hs⟩
  · rw [hs]; exact ⟨hchain, hnodup, huntried, hcycles, hsettled, htried⟩
  · have hon : s.onPath = a :: path.map (·.1) := by rw [onPath, hp]; rfl
    rw [hon] at hchain hnodup
    rw [hp] at huntried htried
    rw [hs]
    refine ⟨hchain.tail, hnodup.of_cons, fun p hp => huntried p (List.mem_cons_of_mem _ hp),
      hcycles, fun hc => ⟨fun b hb => ?_, hsettled hc⟩, fun hc => ?_⟩
    · simpa using (htried hc).1 b hb
    · exact ((htried hc).2.mono (List.subset_cons_self a _)).of_mem List.mem_cons_self
  · have hon : s.onPath = a :: path.map (·.1) := by rw [onPath, hp]; rfl
    have hab : links.Leads a b := huntried _ (hp ▸ List.mem_cons_self) b List.mem_cons_self
    have huntried' : ∀ p ∈ (a, rest) :: path, ∀ b ∈ p.2, links.Leads p.1 b := by
      rw [hp] at huntried
      intro p hp
      rcases List.mem_cons.1 hp with rfl | hp
      · exact fun c hc => huntried _ List.mem_cons_self c (List.mem_cons_of_mem _ hc)
      · exact huntried p (List.mem_cons_of_mem _ hp)
    have hsame : ∀ met, onPath ⟨(a, rest) :: path, s.done, met⟩ = s.onPath := fun _ => hon.symm
    rw [hp] at htried
    rcases hs with ⟨hb, hs⟩ | ⟨hb, hdone, hs⟩ | ⟨hb, hdone, hs⟩
    · have hmet : IsCycle links.Leads (s.onPath.reverse.dropWhile (· ≠ b) ++ [b]) := by
        refine isCycle_dropWhile_append (List.isChain_reverse.2 hchain)
          (List.nodup_reverse.2 hnodup) ?_ (List.mem_reverse.2 hb) hab
        simp [hon]
      rw [hs]
      refine ⟨by rwa [hsame], by rwa [hsame], huntried', fun c hc => ?_, ?_, ?_⟩
      · rcases List.mem_append.1 hc with hc | hc
        · exact hcycles c hc
        · rw [List.mem_singleton.1 hc]; exact hmet
      · intro hc; simp at hc
      · intro hc; simp at hc
    · rw [hs]
      refine ⟨by rwa [hsame], by rwa [hsame], huntried', hcycles, hsettled, fun hc => ?_⟩
      refine ⟨fun c hac => ?_, (htried hc).2⟩
      rcases (htried hc).1 c hac with hc | hc | hc
      · rcases List.mem_cons.1 hc with rfl | hc
        exacts [Or.inr (Or.inl hdone), Or.inl hc]
      · exact Or.inr (Or.inl hc)
      · cases hc
    · rw [hs]
      have hon' : onPath ⟨(b, links.next b) :: (a, rest) :: path, s.done, s.cycles⟩ =
          b :: s.onPath := by rw [hon]; rfl
      refine ⟨?_, ?_, ?_, hcycles, hsettled, fun hc => ⟨?_, ?_, (htried hc).2⟩⟩
      · rw [hon', hon]
        exact List.isChain_cons_cons.2 ⟨hab, hon ▸ hchain⟩
      · rw [hon']
        exact List.nodup_cons.2 ⟨hb, hnodup⟩
      · intro p hp
        rcases List.mem_cons.1 hp with rfl | hp
        · exact fun c hc => hc
        · exact huntried' p hp
      · exact fun c hc => Or.inl hc
      · intro c hac
        rcases (htried hc).1 c hac with hc | hc | hc
        · rcases List.mem_cons.1 hc with rfl | hc
          exacts [Or.inr (Or.inr rfl), Or.inl hc]
        · exact Or.inr (Or.inl hc)
        · cases hc

/-! ## Runs -/

theorem Invariant.run (h : s.Invariant links) : (s.run links).Invariant links := by
  fun_induction Search.run links s with
  | case1 s hp => exact h
  | case2 s hp ih => exact ih h.step

/-- A place that has been entered stays on the path until it is done with. -/
theorem entered_step {a : α} (h : a ∈ s.onPath ∨ a ∈ s.done) :
    a ∈ (s.step links).onPath ∨ a ∈ (s.step links).done := by
  rcases step_cases links s with ⟨-, hs⟩ | ⟨b, path, hp, hs⟩ | ⟨b, c, rest, path, hp, hs⟩
  · rw [hs]; exact h
  · rw [hs]
    simp only [onPath, hp, List.map_cons, List.mem_cons] at h ⊢
    tauto
  · have hon : ∀ x, x ∈ s.onPath → x ∈ (s.step links).onPath := by
      intro x hx
      rw [onPath, hp] at hx
      rcases hs with ⟨-, hs⟩ | ⟨-, -, hs⟩ | ⟨-, -, hs⟩ <;> rw [hs] <;> simp_all [onPath]
    have hdone : (s.step links).done = s.done := by
      rcases hs with ⟨-, hs⟩ | ⟨-, -, hs⟩ | ⟨-, -, hs⟩ <;> rw [hs]
    rw [hdone]
    exact h.imp (hon a) id

theorem mem_done_run {a : α} (h : a ∈ s.onPath ∨ a ∈ s.done) : a ∈ (s.run links).done := by
  fun_induction run links s with
  | case1 s hp => exact h.resolve_left (by simp [onPath, hp])
  | case2 s hp ih => exact ih (entered_step h)

theorem invariant_visit (h : s.Invariant links) (a : α) : (s.visit links a).Invariant links := by
  unfold visit
  split
  · exact h
  · refine Invariant.run ⟨List.isChain_singleton a, List.nodup_singleton a, ?_, h.cycles, h.settled,
      fun _ => ⟨fun b hb => Or.inl hb, trivial⟩⟩
    intro p hp b hb
    obtain rfl := List.mem_singleton.1 hp
    exact hb

theorem mem_done_visit (a : α) : a ∈ (s.visit links a).done := by
  unfold visit
  split
  · assumption
  · exact mem_done_run (Or.inl (List.mem_singleton_self a))

theorem mem_done_visit_of_mem {a b : α} (h : b ∈ s.done) : b ∈ (s.visit links a).done := by
  unfold visit
  split
  · exact h
  · exact mem_done_run (Or.inr h)

theorem invariant_empty (links : Links α) : (empty : Search α).Invariant links where
  chain := List.isChain_nil
  nodup := List.nodup_nil
  untried p hp := by cases hp
  cycles c hc := by cases hc
  settled _ := trivial
  tried _ := trivial

/-- After the places that a search starts from, it keeps what holds of it, and all of
    them are done with. -/
theorem invariant_foldl_visit (h : s.Invariant links) (places : List α) :
    (places.foldl (visit links) s).Invariant links ∧
      ∀ a, a ∈ s.done ∨ a ∈ places → a ∈ (places.foldl (visit links) s).done := by
  induction places generalizing s with
  | nil => exact ⟨h, fun a ha => ha.resolve_right List.not_mem_nil⟩
  | cons b places ih =>
    obtain ⟨hinv, hdone⟩ := ih (invariant_visit h b)
    refine ⟨hinv, fun a ha => hdone a ?_⟩
    rcases ha with ha | ha
    · exact Or.inl (mem_done_visit_of_mem ha)
    · rcases List.mem_cons.1 ha with rfl | ha
      exacts [Or.inl (mem_done_visit a), Or.inr ha]

/-! ## Settled places -/

theorem Settled.mem_of_leads {done : List α} (h : Settled links done) {a b : α} (ha : a ∈ done)
    (hab : links.Leads a b) : b ∈ done := by
  induction done with
  | nil => cases ha
  | cons c done ih =>
    rcases List.mem_cons.1 ha with rfl | ha
    · exact List.mem_cons_of_mem _ (h.1 b hab)
    · exact List.mem_cons_of_mem _ (ih h.2 ha)

theorem Settled.mem_of_transGen {done : List α} (h : Settled links done) {a b : α} (ha : a ∈ done)
    (hab : TransGen links.Leads a b) : b ∈ done := by
  induction hab with
  | single hab => exact h.mem_of_leads ha hab
  | tail _ hbc ih => exact h.mem_of_leads ih hbc

/-- **No place that is settled lies on a cycle.** -/
theorem Settled.not_transGen {done : List α} (h : Settled links done) {a : α} (ha : a ∈ done) :
    ¬ TransGen links.Leads a a := by
  induction done with
  | nil => cases ha
  | cons c done ih =>
    intro hcycle
    by_cases hdone : a ∈ done
    · exact ih h.2 hdone hcycle
    · obtain rfl : a = c := (List.mem_cons.1 ha).resolve_right hdone
      -- the first link of the cycle leads to a place done with before, and so do all others
      obtain ⟨b, hab, hba⟩ := TransGen.head'_iff.1 hcycle
      have hb : b ∈ done := h.1 b hab
      rcases reflTransGen_iff_eq_or_transGen.1 hba with rfl | hba
      · exact hdone hb
      · exact hdone (h.2.mem_of_transGen hb hba)

end Search

/-! ## Finding -/

variable [DecidableEq α] {links : Links α}

/-- **What a search meets are cycles.** -/
theorem isCycle_of_mem_find {places : List α} (h : places ∈ find links) :
    IsCycle links.Leads places :=
  (Search.invariant_foldl_visit (Search.invariant_empty links) _).1.cycles places h

/-- **A search meets nothing just if there is no cycle.** -/
theorem find_eq_nil_iff : find links = [] ↔ ∀ a, ¬ TransGen links.Leads a a := by
  obtain ⟨hinv, hdone⟩ := 
    Search.invariant_foldl_visit (Search.invariant_empty links) (links.map (·.1))
  constructor
  · intro h a hcycle
    have hkey : a ∈ links.map (·.1) := by
      obtain ⟨b, hab, -⟩ := TransGen.head'_iff.1 hcycle
      exact Links.mem_keys_of_leads hab
    exact (hinv.settled h).not_transGen (hdone a (Or.inr hkey)) hcycle
  · intro h
    refine List.eq_nil_iff_forall_not_mem.2 fun places hp => ?_
    obtain ⟨a, ha⟩ := (isCycle_of_mem_find hp).exists_transGen
    exact h a ha

end Folio.Cycle

/-! ## Relations that must have no cycles -/

namespace Folio.Graph

open Relation

/-- An edge of a relation leads from one document to the other. -/
def Leads (g : Graph) (relation : String) (a b : String) : Prop := ⟨a, relation, b⟩ ∈ g.edges

theorem leads_linksOf {g : Graph} {relation : String} :
    (linksOf g.edges relation).Leads = g.Leads relation := by
  funext a b
  rw [linksOf, eq_iff_iff, Links.leads_ofPairs]
  simp only [Leads, List.mem_map, List.mem_filter, beq_iff_eq, Prod.mk.injEq]
  constructor
  · rintro ⟨⟨source, name, target⟩, ⟨he, rfl⟩, rfl, rfl⟩; exact he
  · intro he; exact ⟨_, ⟨he, rfl⟩, rfl, rfl⟩

theorem mem_cycles_iff {g : Graph} {name : String} {places : List String} :
    (name, places) ∈ g.cycles ↔
      (∃ r ∈ g.schema.relations, r.acyclic = true ∧ r.name = name) ∧
        places ∈ Cycle.find (linksOf g.edges name) := by
  simp only [cycles, List.mem_flatMap, List.mem_filter, List.mem_map, Prod.mk.injEq]
  constructor
  · rintro ⟨r, ⟨hr, hac⟩, places, hp, rfl, rfl⟩; exact ⟨⟨r, hr, hac, rfl⟩, hp⟩
  · rintro ⟨⟨r, hr, hac, rfl⟩, hp⟩; exact ⟨r, ⟨hr, hac⟩, places, hp, rfl, rfl⟩

/-- **The cycles that a graph of documents tells of.**  There is one of a relation just
    if the relation must have none and its edges have one; and what is told of is a
    cycle of the relation. -/
theorem cycles_ofDocuments {nodes : List Schema.Node} {schema : Schema}
    (hs : Schema.ofNodes nodes = .ok schema) (recorded : Document → List FieldRef)
    (docs : List Document) {r : Schema.Relation} (hr : r ∈ schema.relations)
    (hname : r.name ≠ "") :
    ((∃ places, (r.name, places) ∈ (ofDocuments schema recorded docs).cycles) ↔
      r.acyclic = true ∧ ∃ a, TransGen ((ofDocuments schema recorded docs).Leads r.name) a a) ∧
    ∀ places, (r.name, places) ∈ (ofDocuments schema recorded docs).cycles →
      Cycle.IsCycle ((ofDocuments schema recorded docs).Leads r.name) places := by
  have hschema : (ofDocuments schema recorded docs).schema = schema := rfl
  generalize ofDocuments schema recorded docs = g at hschema
  subst hschema
  have hacyclic : (∃ r' ∈ g.schema.relations, r'.acyclic = true ∧ r'.name = r.name) ↔
      r.acyclic = true := by
    constructor
    · rintro ⟨r', hr', hac, hn⟩
      exact Schema.Relation.eq_of_name_eq hs hr hr' hn hname ▸ hac
    · intro hac; exact ⟨r, hr, hac, rfl⟩
  constructor
  · simp only [mem_cycles_iff, hacyclic, exists_and_left]
    refine and_congr_right fun _ => ?_
    rw [← List.isEmpty_eq_false_iff_exists_mem, List.isEmpty_eq_false_iff, Ne,
      Cycle.find_eq_nil_iff, leads_linksOf]
    simp only [not_forall, not_not]
  · intro places hp
    rw [← leads_linksOf]
    exact Cycle.isCycle_of_mem_find (mem_cycles_iff.1 hp).2

/-- Nodes with a relation that must have no cycles. -/
def chainNodes : List Schema.Node :=
  [⟨"relation", 1, [.text "next"], [("acyclic", .bool true), ("cardinality", .text "one")], []⟩,
    ⟨"ref-format", 2, [], [], [⟨"relative-path", 3, [], [("pattern", .text ".")], []⟩]⟩]

/-- The schema that they declare. -/
def chainSchema : Schema :=
  { relations := [{ name := "next", many := false, acyclic := true }]
    rules := [⟨"relative-path", .byPath, ⟨".", [], .seq .any .empty⟩⟩] }

/-- A document that comes before another. -/
def linkOf (path target : String) : Document :=
  { path := some path
    raw := Utf8.ofString ("---\nnext: " ++ target ++ "\n---\n")
    header := [(.text "next", .text target)]
    hasHeader := true
    headerError := none
    bodyOffset := 16
    body := Body.ofOctets [] }

/-- Three documents lead around a circle, and another one leads into it. -/
theorem cycles_of_circle :
    Schema.ofNodes chainNodes = .ok chainSchema ∧
      Document.parse (linkOf "a" "b").raw (some "a") = .ok (linkOf "a" "b") ∧
      ∃ places, ("next", places) ∈ (ofDocuments chainSchema (fun _ => [])
          [linkOf "d" "b", linkOf "a" "b", linkOf "b" "c", linkOf "c" "a"]).cycles ∧
        Cycle.IsCycle ((ofDocuments chainSchema (fun _ => [])
          [linkOf "d" "b", linkOf "a" "b", linkOf "b" "c", linkOf "c" "a"]).Leads "next") places := by
  have hs : Schema.ofNodes chainNodes = .ok chainSchema := by decide +kernel
  have hr : ({ name := "next", many := false, acyclic := true } : Schema.Relation) ∈
      chainSchema.relations := List.mem_singleton_self _
  have hedges : (ofDocuments chainSchema (fun _ => [])
      [linkOf "d" "b", linkOf "a" "b", linkOf "b" "c", linkOf "c" "a"]).edges =
        [⟨"d", "next", "b"⟩, ⟨"a", "next", "b"⟩, ⟨"b", "next", "c"⟩, ⟨"c", "next", "a"⟩] := by
    decide +kernel
  obtain ⟨hiff, hcycle⟩ := cycles_ofDocuments hs (fun _ => [])
    [linkOf "d" "b", linkOf "a" "b", linkOf "b" "c", linkOf "c" "a"] hr (by decide)
  obtain ⟨places, hp⟩ := hiff.2 ⟨rfl, "a", .head (b := "b") (by simp [Leads, hedges])
    (.head (b := "c") (by simp [Leads, hedges]) (.single (by simp [Leads, hedges])))⟩
  exact ⟨hs, by decide +kernel, places, hp, hcycle places hp⟩

end Folio.Graph
