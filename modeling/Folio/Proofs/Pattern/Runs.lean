/-
  Folio — repetitions of one character.

  Where a repetition of a character ends depends on what comes after it.  It can end
  anywhere along the run of such characters that comes next: a greedy repetition
  tries the places from the last one back, a lazy one from the first one on
  (`many_eq_findSome?`, `few_eq_findSome?`).  So what comes after a greedy repetition
  starts at the end of the run, if it can start there or cannot start with such a
  character.

  * `repeating_eq_some_iff`: a greedy repetition matches only the whole run;
  * `repeating_of_isSome`: it takes the whole run if one can go on from there;
  * `repeating_lazy_of_first`: a lazy one ends where one can first go on;
  * `TakesRest.repeating`, `TakesRest.or`: matches of all that is left of a line;
  * `Spot.matched?_eq`: a group has matched what lies between its start and its end.
-/
import Folio.Pattern.Match
import Mathlib.Data.List.Infix

namespace Folio

/-! ## Runs at the start of a text -/

namespace Text
variable {p : Char → Bool} {run rest : List Char}

/-- A text is the run at its start and what does not go on with it. -/
theorem exists_run_append (p : Char → Bool) (cs : List Char) :
    ∃ run rest, cs = run ++ rest ∧ (∀ c ∈ run, p c = true) ∧ rest.head?.any p = false := by
  refine ⟨cs.takeWhile p, cs.dropWhile p, List.takeWhile_append_dropWhile.symm,
    List.all_eq_true.1 List.all_takeWhile, ?_⟩
  have hnot := List.head?_dropWhile_not p cs
  cases hc : (cs.dropWhile p).head? with
  | none => rfl
  | some c => simpa [hc] using hnot

theorem takeWhile_of_head (h : rest.head?.any p = false) :
    rest.takeWhile p = [] ∧ rest.dropWhile p = rest := by
  cases rest with
  | nil => exact ⟨rfl, rfl⟩
  | cons c rest => constructor <;> simp_all

theorem takeWhile_run_append (hrun : ∀ c ∈ run, p c = true) (hrest : rest.head?.any p = false) :
    (run ++ rest).takeWhile p = run ∧ (run ++ rest).dropWhile p = rest := by
  obtain ⟨htake, hdrop⟩ := takeWhile_of_head hrest
  rw [List.takeWhile_append_of_pos hrun, List.dropWhile_append_of_pos hrun, htake, hdrop]
  exact ⟨List.append_nil run, rfl⟩

end Text

/-! ## Places along a text -/

namespace Spot
variable {s : Spot} {c : Char} {cs rest : List Char} {p : Char → Bool} {way : Way}

/-- The place after characters that come next. -/
def past (s : Spot) (cs : List Char) : Spot :=
  { s with
    before := cs.reverse ++ s.before
    position := s.position + cs.length
    rest := s.rest.drop cs.length }

@[simp] theorem past_nil (s : Spot) : s.past [] = s := rfl

theorem past_past (s : Spot) (cs more : List Char) :
    (s.past cs).past more = s.past (cs ++ more) := by
  simp [past, Nat.add_assoc]

theorem rest_past (h : s.rest = cs ++ rest) : (s.past cs).rest = rest := by
  simp [past, h]

theorem rest_past_singleton (h : s.rest = c :: rest) : (s.past [c]).rest = rest := by
  simp [past, h]

theorem mem_of_mem_past (h : c ∈ (s.past cs).rest) : c ∈ s.rest := List.mem_of_mem_drop h

/-- The places along characters that come next, nearest first. -/
def along (s : Spot) (cs : List Char) : List Spot := cs.inits.map s.past

@[simp] theorem along_nil (s : Spot) : s.along [] = [s] := rfl

theorem along_cons (s : Spot) (c : Char) (cs : List Char) :
    s.along (c :: cs) = s :: (s.past [c]).along cs := by
  simp [along, past_past]

/-- The last place along some characters is the one after all of them. -/
theorem exists_reverse_along (s : Spot) (cs : List Char) :
    ∃ nearer, (s.along cs).reverse = s.past cs :: nearer := by
  induction cs generalizing s with
  | nil => exact ⟨[], rfl⟩
  | cons c cs ih =>
    obtain ⟨nearer, hnearer⟩ := ih (s.past [c])
    exact ⟨nearer ++ [s], by rw [along_cons, List.reverse_cons, hnearer, past_past]; rfl⟩

/-- The next character is of a kind, or there is none such. -/
theorem next_cases (s : Spot) (p : Char → Bool) :
    (∃ c rest, s.rest = c :: rest ∧ p c = true) ∨ s.rest.head?.any p = false := by
  cases hs : s.rest with
  | nil => exact Or.inr rfl
  | cons c rest =>
    cases hp : p c with
    | true => exact Or.inl ⟨c, rest, rfl, hp⟩
    | false => exact Or.inr hp

theorem step_of_pos (h : s.rest = c :: rest) (hc : p c = true) :
    step p way s = way (s.past [c]) := by
  simp [step, past, h, hc]

theorem step_of_neg (h : s.rest.head?.any p = false) : step p way s = none := by
  unfold step
  cases hs : s.rest with
  | nil => rfl
  | cons c rest => simp_all

end Spot

namespace Regex
variable {p : Char → Bool} {way : Way} {fuel : Nat} {left last : Option Nat} {s : Spot}

/-! ## Where a repetition tries to end -/

/-- The characters of a kind that come next, at most so many. -/
def run (p : Char → Bool) : (left : Option Nat) → List Char → List Char
  | none, cs => cs.takeWhile p
  | some n, cs => (cs.takeWhile p).take n

theorem run_of_neg {cs : List Char} (h : cs.head?.any p = false) (left : Option Nat) :
    run p left cs = [] := by
  cases left <;> simp [run, (Text.takeWhile_of_head h).1]

theorem run_of_pos {c : Char} (hc : p c = true) (hleft : left ≠ some 0) (cs : List Char) :
    run p left (c :: cs) = c :: run p (left.map (· - 1)) cs := by
  match left with
  | none => simp [run, hc]
  | some 0 => exact absurd rfl hleft
  | some (n + 1) => simp [run, hc]

theorem run_append {cs rest : List Char} (hcs : ∀ c ∈ cs, p c = true)
    (hrest : rest.head?.any p = false) (hleft : ∀ n ∈ left, cs.length ≤ n) :
    run p left (cs ++ rest) = cs := by
  have htake := (Text.takeWhile_run_append hcs hrest).1
  cases left with
  | none => exact htake
  | some n => rw [run, htake, List.take_of_length_le (hleft n rfl)]

theorem exists_eq_run_append (p : Char → Bool) (left : Option Nat) (cs : List Char) :
    ∃ rest, cs = run p left cs ++ rest ∧ (∀ c ∈ run p left cs, p c = true) ∧
      ∀ n ∈ left, (run p left cs).length ≤ n := by
  have hall : ∀ c ∈ cs.takeWhile p, p c = true := List.all_eq_true.1 List.all_takeWhile
  cases left with
  | none => exact ⟨cs.dropWhile p, List.takeWhile_append_dropWhile.symm, hall, by simp⟩
  | some n =>
    refine ⟨(cs.takeWhile p).drop n ++ cs.dropWhile p, ?_, fun c hc => ?_, fun m hm => ?_⟩
    · rw [run, ← List.append_assoc, List.take_append_drop, List.takeWhile_append_dropWhile]
    · exact hall c (List.mem_of_mem_take hc)
    · rw [← Option.some.inj hm, run, List.length_take]
      exact Nat.min_le_left _ _

/-- A last match of a character was not empty. -/
theorem mayRepeat_eq (hlast : ∀ n ∈ last, n < s.position) :
    mayRepeat left last s = (left != some 0) := by
  have hne : (last != some s.position) = true := by
    rw [bne_iff_ne]
    rintro rfl
    exact Nat.lt_irrefl _ (hlast _ rfl)
  rw [mayRepeat, hne, Bool.and_true]

/-- **A greedy repetition of a character tries the places along the run from the
    last one back.** -/
theorem many_eq_findSome? (hfuel : s.rest.length < fuel) (hlast : ∀ n ∈ last, n < s.position) :
    many (Spot.step p) way fuel left last s =
      (s.along (run p left s.rest)).reverse.findSome? way := by
  induction fuel generalizing s left last with
  | zero => omega
  | succ fuel ih =>
    rw [many, mayRepeat_eq hlast]
    by_cases hleft : left = some 0
    · simp [hleft, run]
    rw [if_pos (by simpa using hleft)]
    rcases s.next_cases p with ⟨c, rest, hs, hp⟩ | hnext
    · have hrest : (s.past [c]).rest = rest := Spot.rest_past_singleton hs
      rw [Spot.step_of_pos hs hp, ih (by simp_all) (by simp [Spot.past]), hrest, hs,
        run_of_pos hp hleft, Spot.along_cons, List.reverse_cons, List.findSome?_append]
      simp
    · rw [Spot.step_of_neg hnext, run_of_neg hnext]
      simp

/-- **A lazy repetition of a character tries the places along the run from the first
    one on.** -/
theorem few_eq_findSome? (hfuel : s.rest.length < fuel) (hlast : ∀ n ∈ last, n < s.position) :
    few (Spot.step p) way fuel left last s = (s.along (run p left s.rest)).findSome? way := by
  induction fuel generalizing s left last with
  | zero => omega
  | succ fuel ih =>
    rw [few, mayRepeat_eq hlast]
    by_cases hleft : left = some 0
    · simp [hleft, run]
    rw [if_pos (by simpa using hleft)]
    rcases s.next_cases p with ⟨c, rest, hs, hp⟩ | hnext
    · have hrest : (s.past [c]).rest = rest := Spot.rest_past_singleton hs
      rw [Spot.step_of_pos hs hp, ih (by simp_all) (by simp [Spot.past]), hrest, hs,
        run_of_pos hp hleft, Spot.along_cons, List.findSome?_cons]
      cases way s <;> rfl
    · rw [Spot.step_of_neg hnext, run_of_neg hnext]
      simp

/-! ## Repetitions -/

variable {least : Nat} {greatest : Option Nat}

theorem repeating_eq_findSome? (hle : ∀ n ∈ greatest, least ≤ n) (s : Spot) :
    repeating .greedy least greatest (Spot.step p) way s =
      if least ≤ (run p greatest s.rest).length then
        ((s.past ((run p greatest s.rest).take least)).along
          ((run p greatest s.rest).drop least)).reverse.findSome? way
      else none := by
  induction least generalizing s greatest with
  | zero =>
    have hmany : many (Spot.step p) way (s.rest.length + 2) greatest none s =
        (s.along (run p greatest s.rest)).reverse.findSome? way :=
      many_eq_findSome? (by omega) (by simp)
    simp [repeating, times, hmany]
  | succ least ih =>
    have hne : greatest ≠ some 0 := by
      rintro rfl
      exact absurd (hle 0 rfl) (by omega)
    rcases s.next_cases p with ⟨c, rest, hs, hp⟩ | hnext
    · have hrest : (s.past [c]).rest = rest := Spot.rest_past_singleton hs
      have hleft : (greatest.map (· - 1)).map (· - least) = greatest.map (· - (least + 1)) := by
        simp [Function.comp_def, Nat.sub_sub, Nat.add_comm]
      have ih := @ih (greatest.map (· - 1)) (by simpa using fun n hn => by have := hle n hn; omega)
        (s.past [c])
      rw [repeating, hleft, hrest] at ih
      rw [repeating, times, Spot.step_of_pos hs hp, ih, hs, run_of_pos hp hne]
      simp [Spot.past_past]
    · rw [repeating, times, Spot.step_of_neg hnext, run_of_neg hnext]
      simp

/-- A way that cannot start with a character of a kind. -/
def Refuses (way : Way) (p : Char → Bool) : Prop :=
  ∀ s : Spot, s.rest.head?.any p = true → way s = none

/-- Where no such character comes next, a repetition matches nothing if it may. -/
theorem repeating_of_neg (hnext : s.rest.head?.any p = false) (hle : ∀ n ∈ greatest, least ≤ n) :
    repeating .greedy least greatest (Spot.step p) way s = if least = 0 then way s else none := by
  rw [repeating_eq_findSome? hle, run_of_neg hnext]
  cases least with
  | zero => simp
  | succ least => rfl

/-- A repetition refuses what cannot be repeated, if what comes after it does or something
    has to be repeated. -/
theorem refuses_repeating {q : Char → Bool} (hpq : ∀ c, q c = true → p c = false)
    (hle : ∀ n ∈ greatest, least ≤ n) (hway : least = 0 → Refuses way q) :
    Refuses (repeating .greedy least greatest (Spot.step p) way) q := by
  intro s hs
  have hnext : s.rest.head?.any p = false := by
    cases hrest : s.rest with
    | nil => rfl
    | cons c rest => exact hpq c (by simpa [hrest] using hs)
  rw [repeating_of_neg hnext hle]
  split
  · next hzero => exact hway hzero s hs
  · rfl

/-- A greedy repetition that matches takes characters of its kind, as many as it may. -/
theorem exists_of_repeating_eq_some (hle : ∀ n ∈ greatest, least ≤ n) {s t : Spot}
    (h : repeating .greedy least greatest (Spot.step p) way s = some t) :
    ∃ cs rest, s.rest = cs ++ rest ∧ (∀ c ∈ cs, p c = true) ∧ least ≤ cs.length ∧
      (∀ n ∈ greatest, cs.length ≤ n) ∧ way (s.past cs) = some t := by
  rw [repeating_eq_findSome? hle] at h
  split at h
  · next hleast =>
    obtain ⟨rest, hrest, hall, hgreatest⟩ := exists_eq_run_append p greatest s.rest
    obtain ⟨u, hu, hway⟩ := List.exists_of_findSome?_eq_some h
    obtain ⟨more, hmore, rfl⟩ := List.mem_map.1 (List.mem_reverse.1 hu)
    obtain ⟨post, hpost⟩ := (List.mem_inits _ _).1 hmore
    have hrun : run p greatest s.rest = (run p greatest s.rest).take least ++ more ++ post := by
      rw [List.append_assoc, hpost, List.take_append_drop]
    rw [Spot.past_past] at hway
    refine ⟨_, post ++ rest, ?_, fun c hc => hall c ?_, ?_, fun n hn => ?_, hway⟩
    · rw [← List.append_assoc, ← hrun, ← hrest]
    · rw [hrun]; exact List.mem_append_left _ hc
    · rw [List.length_append, List.length_take]; omega
    · have hlength := congrArg List.length hrun
      have := hgreatest n hn
      rw [List.length_append] at hlength
      omega
  · cases h

/-- **A greedy repetition matches only the whole run**, if what comes after it cannot
    start with such a character; so it does not matter what it tries first. -/
theorem repeating_eq_some_iff (hway : Refuses way p) (hle : ∀ n ∈ greatest, least ≤ n)
    {s t : Spot} :
    repeating .greedy least greatest (Spot.step p) way s = some t ↔
      ∃ cs rest, s.rest = cs ++ rest ∧ (∀ c ∈ cs, p c = true) ∧ least ≤ cs.length ∧
        (∀ n ∈ greatest, cs.length ≤ n) ∧ way (s.past cs) = some t := by
  refine ⟨exists_of_repeating_eq_some hle, ?_⟩
  rintro ⟨cs, rest, hs, hcs, hleast, hgreatest, ht⟩
  have hnext : rest.head?.any p = false := by
    rw [← Bool.not_eq_true, ← Spot.rest_past hs]
    intro hnext
    rw [hway _ hnext] at ht
    cases ht
  rw [repeating_eq_findSome? hle, hs, run_append hcs hnext hgreatest, if_pos hleast]
  obtain ⟨nearer, hfirst⟩ := (s.past (cs.take least)).exists_reverse_along (cs.drop least)
  rw [hfirst, Spot.past_past, List.take_append_drop, List.findSome?_cons, ht]

/-- A greedy repetition takes the whole run if one can go on from there. -/
theorem repeating_of_isSome (hleast : least ≤ (s.rest.takeWhile p).length)
    (hway : (way (s.past (s.rest.takeWhile p))).isSome) :
    repeating .greedy least none (Spot.step p) way s = way (s.past (s.rest.takeWhile p)) := by
  rw [repeating_eq_findSome? (by simp), run, if_pos hleast]
  obtain ⟨nearer, hfirst⟩ := (s.past ((s.rest.takeWhile p).take least)).exists_reverse_along
    ((s.rest.takeWhile p).drop least)
  obtain ⟨t, ht⟩ := Option.isSome_iff_exists.1 hway
  rw [hfirst, Spot.past_past, List.take_append_drop, List.findSome?_cons, ht]

/-- A lazy repetition ends where one can first go on. -/
theorem repeating_lazy_of_first {pre post : List Char} (h : s.rest.takeWhile p = pre ++ post)
    (hway : (way (s.past pre)).isSome)
    (hfirst : ∀ a c b, pre = a ++ c :: b → way (s.past a) = none) :
    repeating .lazy 0 none (Spot.step p) way s = way (s.past pre) := by
  have hfew : repeating .lazy 0 none (Spot.step p) way s =
      (s.along (s.rest.takeWhile p)).findSome? way :=
    few_eq_findSome? (by omega) (by simp)
  rw [hfew, h]
  clear hfew h
  induction pre generalizing s with
  | nil =>
    obtain ⟨t, ht⟩ := Option.isSome_iff_exists.1 hway
    rw [Spot.past_nil] at ht
    cases post <;> simp [Spot.along_cons, ht]
  | cons c pre ih =>
    have hs : way s = none := hfirst [] c pre rfl
    rw [List.cons_append, Spot.along_cons, List.findSome?_cons, hs]
    have hpast : ∀ cs, (s.past [c]).past cs = s.past (c :: cs) := s.past_past [c]
    rw [← hpast pre] at hway ⊢
    exact ih hway fun a d b hpre => by rw [hpast, hfirst (c :: a) d b (by rw [hpre]; rfl)]

/-- A part that can be left out is left out if one cannot go on with it. -/
theorem repeating_optional (body : Way → Way) (way : Way) (s : Spot) :
    repeating .greedy 0 (some 1) body way s = (body way s).or (way s) := by
  simp [repeating, times, many, mayRepeat]

/-! ## Characters and sequences -/

theorem single_listed (c d : Char) : Flags.listed [] d (.single c.toNat) = (d == c) := by
  by_cases h : d = c
  · simp [h, Flags.listed, Flags.variants]
  · have hne : c.toNat ≠ d.toNat := fun he => h (Char.toNat_inj.1 he.symm)
    simp [h, hne, Flags.listed, Flags.variants]

/-- Without flags a character stands for itself. -/
theorem goesOn_single (c : Char) (way : Way) :
    goesOn [] (.single c.toNat false) way = Spot.step (· == c) way :=
  congrArg (Spot.step · way) (funext fun d => (Bool.bne_false _).trans (single_listed c d))

/-- Without flags a set of characters stands for these. -/
theorem goesOn_set (cs : List Char) (way : Way) :
    goesOn [] (.set false (cs.map (.single ·.toNat))) way = Spot.step cs.contains way := by
  rw [goesOn]
  refine congrArg (Spot.step · way) (funext fun d => ?_)
  rw [Bool.bne_false, List.any_map, List.contains_eq_any_beq]
  exact congrArg cs.any (funext fun c => single_listed c d)

theorem goesOn_ofItems (f : Flags) (rs : List Regex) (way : Way) :
    goesOn f (ofItems rs) way = rs.foldr (goesOn f) way := by
  induction rs with
  | nil => rfl
  | cons r rs ih => rw [List.foldr_cons, ← ih]; rfl

/-- Without flags the dot stands for all characters but line ends. -/
theorem goesOn_any (way : Way) : goesOn [] .any way = Spot.step (· != '\n') way := by
  rw [goesOn]
  exact congrArg (Spot.step · way) (funext fun d => Bool.or_false _)

/-! ## Up to the end of a line -/

/-- At the end of the line. -/
def atEnd : Way := fun s => if s.isAt [] .lineEnd then some s else none

theorem refuses_atEnd {p : Char → Bool} (hp : p '\n' = false) : Refuses atEnd p := by
  intro s hs
  cases hrest : s.rest with
  | nil => simp [hrest] at hs
  | cons c rest =>
    have hc : c ≠ '\n' := by
      rintro rfl
      simp [hrest, hp] at hs
    simp [atEnd, Spot.isAt, hrest, hc]

/-- Of what comes next without a line end, a way takes all if it has a property, and
    otherwise nothing. -/
def TakesRest (way : Way) (P : List Char → Prop) : Prop :=
  ∀ s t : Spot, '\n' ∉ s.rest → (way s = some t ↔ P s.rest ∧ t = s.past s.rest)

section
variable {way way' : Way} {P Q : List Char → Prop} {p : Char → Bool}

theorem TakesRest.congr (h : TakesRest way P) (hPQ : ∀ cs, P cs ↔ Q cs) : TakesRest way Q :=
  fun s t hs => (h s t hs).trans (and_congr_left fun _ => hPQ _)

theorem takesRest_atEnd : TakesRest atEnd (· = []) := by
  intro s t h
  have hend : s.isAt [] .lineEnd = true ↔ s.rest = [] := by
    cases hrest : s.rest with
    | nil => simp [Spot.isAt, hrest]
    | cons c rest =>
      have hc : c ≠ '\n' := fun hc => h (by rw [hrest, hc]; exact List.mem_cons_self)
      simp [Spot.isAt, hrest, hc]
  rw [atEnd, Option.ite_none_right_eq_some, hend, Option.some_inj, eq_comm (a := s)]
  exact and_congr_right fun hnil => by rw [hnil, Spot.past_nil]

theorem TakesRest.repeating (h : TakesRest way P) (hway : Refuses way p) (least : Nat) :
    TakesRest (repeating .greedy least none (Spot.step p) way) fun cs =>
      ∃ run rest, cs = run ++ rest ∧ (∀ c ∈ run, p c = true) ∧ least ≤ run.length ∧ P rest := by
  intro s t hline
  have hway' : ∀ {run rest}, s.rest = run ++ rest →
      (way (s.past run) = some t ↔ P rest ∧ t = s.past s.rest) := by
    intro run rest hs
    have hrest : (s.past run).rest = rest := Spot.rest_past hs
    rw [h _ t fun hc => hline (Spot.mem_of_mem_past hc), hrest, Spot.past_past, ← hs]
  rw [repeating_eq_some_iff hway (by simp)]
  constructor
  · rintro ⟨run, rest, hs, hrun, hleast, -, ht⟩
    obtain ⟨hP, rfl⟩ := (hway' hs).1 ht
    exact ⟨⟨run, rest, hs, hrun, hleast, hP⟩, rfl⟩
  · rintro ⟨⟨run, rest, hs, hrun, hleast, hP⟩, rfl⟩
    exact ⟨run, rest, hs, hrun, hleast, by simp, (hway' hs).2 ⟨hP, rfl⟩⟩

/-- Two ways that take all of what comes next lead to the same place. -/
theorem TakesRest.or (h : TakesRest way P) (h' : TakesRest way' Q) :
    TakesRest (fun s => (way s).or (way' s)) fun cs => P cs ∨ Q cs := by
  intro s t hline
  rw [Option.or_eq_some_iff, h s t hline, h' s t hline]
  constructor
  · rintro (⟨hP, ht⟩ | ⟨-, hQ, ht⟩)
    · exact ⟨Or.inl hP, ht⟩
    · exact ⟨Or.inr hQ, ht⟩
  · rintro ⟨hP | hQ, rfl⟩
    · exact Or.inl ⟨hP, rfl⟩
    · cases hw : way s with
      | none => exact Or.inr ⟨rfl, hQ, rfl⟩
      | some u =>
        obtain ⟨hP, rfl⟩ := (h s u hline).1 hw
        exact Or.inl ⟨hP, rfl⟩

end

end Regex

/-! ## Groups -/

namespace Spot

/-- The place where a group starts. -/
def starting (s : Spot) (group : Nat) : Spot :=
  { s with starts := (group, s.position) :: s.starts }

/-- The place where a group ends. -/
def ending (s : Spot) (group : Nat) : Spot :=
  { s with ends := (group, s.position) :: s.ends }

theorem goesOn_group (n : Nat) (body : Regex) (way : Way) (s : Spot) :
    (Regex.group (some n) [] [] body).goesOn [] way s =
      body.goesOn [] (fun t => way (t.ending n)) (s.starting n) := rfl

/-- A group has matched what lies between its start and its end. -/
theorem matched?_eq {s : Spot} {group : Nat} {cs : List Char} (start : Nat)
    (before after : List Char) (hbefore : s.before = after.reverse ++ (cs.reverse ++ before))
    (hposition : s.position = start + cs.length + after.length)
    (hstart : s.starts.lookup group = some start)
    (hend : s.ends.lookup group = some (start + cs.length)) :
    s.matched? group = some cs := by
  have hdrop : s.position - (start + cs.length) = after.reverse.length := by
    rw [hposition, List.length_reverse]; omega
  have htake : start + cs.length - start = cs.reverse.length := by
    rw [List.length_reverse]; omega
  rw [matched?, span?, hstart, hend]
  simp only [Nat.le_add_right, ↓reduceIte, Option.map_some, hbefore]
  rw [hdrop, htake, List.drop_left, List.take_left, List.reverse_reverse]

end Spot

end Folio
