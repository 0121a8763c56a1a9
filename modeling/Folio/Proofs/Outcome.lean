/-
  Folio — computations that succeed or fail.

  A step after another one is come to only if that succeeds, and the steps for the
  elements of a list fail with the first that does.

  * `bind_eq_ok_iff`, `bind_eq_error_iff`: how two steps succeed and fail;
  * `mapError_eq_ok_iff`, `mapError_eq_error_iff`: errors under another name;
  * `mapM_eq_ok_iff`, `mapM_eq_error_iff`: the same for a list.
-/
import Mathlib.Data.List.Forall2

namespace Folio

/-! ## Lists that are related one by one -/

section
variable {α β : Type} {R : α → β → Prop} {as : List α} {bs : List β}

theorem exists_of_forall₂_left (h : List.Forall₂ R as bs) {a : α} (ha : a ∈ as) : ∃ b ∈ bs, R a b := by
  obtain ⟨i, hi, rfl⟩ := List.getElem_of_mem ha
  have hlt : i < bs.length := h.length_eq ▸ hi
  exact ⟨bs[i], List.getElem_mem hlt, h.get hi hlt⟩

theorem exists_of_forall₂_right (h : List.Forall₂ R as bs) {b : β} (hb : b ∈ bs) :
    ∃ a ∈ as, R a b :=
  exists_of_forall₂_left h.flip hb

theorem exists_forall₂_iff : (∃ bs, List.Forall₂ R as bs) ↔ ∀ a ∈ as, ∃ b, R a b := by
  induction as with
  | nil => exact iff_of_true ⟨[], .nil⟩ nofun
  | cons a as ih =>
    rw [List.forall_mem_cons, ← ih]
    constructor
    · rintro ⟨_, _ | ⟨hb, hbs⟩⟩
      exact ⟨⟨_, hb⟩, _, hbs⟩
    · rintro ⟨⟨b, hb⟩, bs, hbs⟩
      exact ⟨b :: bs, .cons hb hbs⟩

end

/-! ## Steps -/

section
variable {α β ε : Type} {x : Except ε α} {f : α → Except ε β}

theorem bind_eq_ok_iff {b : β} : (x >>= f) = .ok b ↔ ∃ a, x = .ok a ∧ f a = .ok b := by
  cases x with
  | error e => simp [bind, Except.bind]
  | ok a => simp [bind, Except.bind]

theorem bind_eq_error_iff {e : ε} :
    (x >>= f) = .error e ↔ x = .error e ∨ ∃ a, x = .ok a ∧ f a = .error e := by
  cases x with
  | error e => simp [bind, Except.bind]
  | ok a => simp [bind, Except.bind]

theorem pure_eq_ok_iff {a b : α} : (pure a : Except ε α) = .ok b ↔ a = b := by
  simp [pure, Except.pure]

theorem toOption_eq_some_iff {a : α} : x.toOption = some a ↔ x = .ok a := by
  cases x <;> simp [Except.toOption]

/-- What is computed from the results of two steps, if both have one. -/
theorem exists_of_computed {γ ε' : Type} {y : α → Except ε' β} {g : α → β → γ} {c : γ}
    (h : (x.toOption.bind fun a => (y a).toOption.map (g a)) = some c) :
    ∃ a b, x = .ok a ∧ y a = .ok b ∧ g a b = c := by
  obtain ⟨a, ha, h⟩ := Option.bind_eq_some_iff.1 h
  obtain ⟨b, hb, h⟩ := Option.map_eq_some_iff.1 h
  exact ⟨a, b, toOption_eq_some_iff.1 ha, toOption_eq_some_iff.1 hb, h⟩

theorem map_eq_ok_iff {g : α → β} {b : β} : x.map g = .ok b ↔ ∃ a, x = .ok a ∧ g a = b := by
  cases x <;> simp [Except.map]

theorem mapError_eq_ok_iff {δ : Type} {g : ε → δ} {a : α} : x.mapError g = .ok a ↔ x = .ok a := by
  cases x <;> simp [Except.mapError]

theorem mapError_eq_error_iff {δ : Type} {g : ε → δ} {d : δ} :
    x.mapError g = .error d ↔ ∃ e, x = .error e ∧ g e = d := by
  cases x <;> simp [Except.mapError]

/-- The computation fails. -/
def Fails (x : Except ε α) : Prop := ∃ e, x = .error e

theorem fails_error (e : ε) : Fails (.error e : Except ε α) := ⟨e, rfl⟩

theorem fails_ok {a : α} : ¬ Fails (.ok a : Except ε α) := nofun

theorem fails_map_iff {g : α → β} : Fails (x.map g) ↔ Fails x := by
  cases x <;> simp [Fails, Except.map]

theorem fails_bind_pure_iff {g : α → β} : Fails (x >>= fun a => pure (g a)) ↔ Fails x :=
  fails_map_iff

/-- A second step that fails in any case or in none. -/
theorem fails_bind_iff_or {P : Prop} (h : ∀ a, Fails (f a) ↔ P) : Fails (x >>= f) ↔ Fails x ∨ P := by
  cases x with
  | error e => exact iff_of_true ⟨e, rfl⟩ (.inl ⟨e, rfl⟩)
  | ok a => exact (h a).trans (or_iff_right fails_ok).symm

/-! ## Steps for the elements of a list -/

variable {as : List α} {bs : List β}

theorem mapM_eq_ok_iff : as.mapM f = .ok bs ↔ List.Forall₂ (fun a b => f a = .ok b) as bs := by
  induction as generalizing bs with
  | nil => cases bs <;> simp [pure, Except.pure]
  | cons a as ih =>
    simp only [List.mapM_cons, bind_eq_ok_iff, pure_eq_ok_iff, ih, List.forall₂_cons_left_iff]
    constructor
    · rintro ⟨b, hb, bs, hbs, rfl⟩
      exact ⟨b, bs, hb, hbs, rfl⟩
    · rintro ⟨b, bs, hb, hbs, rfl⟩
      exact ⟨b, hb, bs, hbs, rfl⟩

theorem exists_of_mapM_ok {b : β} (h : as.mapM f = .ok bs) (hb : b ∈ bs) : ∃ a ∈ as, f a = .ok b :=
  exists_of_forall₂_right (mapM_eq_ok_iff.1 h) hb

theorem exists_of_mapM_ok_left {a : α} (h : as.mapM f = .ok bs) (ha : a ∈ as) :
    ∃ b ∈ bs, f a = .ok b :=
  exists_of_forall₂_left (mapM_eq_ok_iff.1 h) ha

/-- All steps succeed if each does. -/
theorem exists_mapM_ok_iff : (∃ bs, as.mapM f = .ok bs) ↔ ∀ a ∈ as, ∃ b, f a = .ok b := by
  rw [← exists_forall₂_iff]
  exact exists_congr fun bs => mapM_eq_ok_iff

/-- Something holds at each place of a list if it does at the first and at all later
    ones. -/
theorem forall_split_cons_iff {P : List α → α → Prop} {a : α} :
    (∀ before x after, a :: as = before ++ x :: after → P before x) ↔
      P [] a ∧ ∀ before x after, as = before ++ x :: after → P (a :: before) x := by
  constructor
  · exact fun h => ⟨h [] a as rfl, fun before x after he => h (a :: before) x after (by rw [he]; rfl)⟩
  · rintro ⟨hhere, hlater⟩ before x after he
    cases before with
    | nil =>
      obtain ⟨rfl, -⟩ := List.cons.inj he
      exact hhere
    | cons b before =>
      obtain ⟨rfl, hrest⟩ := List.cons.inj he
      exact hlater before x after hrest

/-- Something holds at a place of a list if it does at the first or at a later one. -/
theorem exists_split_cons_iff {P : List α → α → Prop} {a : α} :
    (∃ before x after, a :: as = before ++ x :: after ∧ P before x) ↔
      P [] a ∨ ∃ before x after, as = before ++ x :: after ∧ P (a :: before) x := by
  have h := @forall_split_cons_iff α as (fun before x => ¬ P before x) a
  rw [← not_iff_not]
  simpa only [not_or, not_exists, not_and] using h

theorem mapM_eq_error_iff {e : ε} : as.mapM f = .error e ↔
    ∃ before a after, as = before ++ a :: after ∧ (∀ x ∈ before, ∃ b, f x = .ok b) ∧
      f a = .error e := by
  induction as with
  | nil => simp [pure, Except.pure]
  | cons a as ih =>
    have hmap : ∀ b, (as.mapM f >>= fun bs => pure (b :: bs)) = .error e ↔ as.mapM f = .error e := by
      intro b
      cases as.mapM f <;> simp [bind, Except.bind, pure, Except.pure]
    rw [List.mapM_cons, bind_eq_error_iff, exists_split_cons_iff]
    simp only [hmap, ih, List.forall_mem_cons, List.not_mem_nil, false_imp_iff, implies_true,
      true_and]
    refine or_congr Iff.rfl ⟨?_, ?_⟩
    · rintro ⟨b, hb, before, x, after, has, hbefore, hx⟩
      exact ⟨before, x, after, has, ⟨⟨b, hb⟩, hbefore⟩, hx⟩
    · rintro ⟨before, x, after, has, ⟨⟨b, hb⟩, hbefore⟩, hx⟩
      exact ⟨b, hb, before, x, after, has, hbefore, hx⟩

theorem exists_of_mapM_error {e : ε} (h : as.mapM f = .error e) : ∃ a ∈ as, f a = .error e := by
  obtain ⟨before, a, after, rfl, -, ha⟩ := mapM_eq_error_iff.1 h
  exact ⟨a, List.mem_append_right _ List.mem_cons_self, ha⟩

end

end Folio
