/-
  Folio — the lines of laid-out forms.

  What is laid out consists of characters that a reader accepts, and none of its lines
  separates documents.  For whatever stands at the start of a line starts with
  indentation, with a sign or quote, or with a plain scalar, which no such line starts.

  * `Tidy`: such texts;
  * `Form.tidy_entries`: the entries of a mapping are laid out in such a way.
-/
import Folio.Proofs.Yaml.Tokens

namespace Folio.Yaml

/-- Are all characters accepted and none a CR, and does no line after the first
    separate documents? -/
def Tidy : List Char → Prop
  | [] => True
  | x :: t => isAcceptable x = true ∧ x ≠ '\r' ∧ (x = '\n' → ¬Separates t) ∧ Tidy t

variable {double sound plain below : Bool} {n : Nat} {x : Char} {cs t u more : List Char}

/-! ## Characters -/

/-- A character that is accepted and ends no line. -/
def IsInLine (x : Char) : Prop := isAcceptable x = true ∧ isBreak x = false

theorem Tidy.cons (hx : IsInLine x) (h : Tidy t) : Tidy (x :: t) := by
  refine ⟨hx.1, ?_, ?_, h⟩
  · rintro rfl
    exact absurd hx.2 (by decide)
  · rintro rfl
    exact absurd hx.2 (by decide)

theorem Tidy.append (hu : ∀ x ∈ u, IsInLine x) (h : Tidy t) : Tidy (u ++ t) := by
  induction u with
  | nil => exact h
  | cons x u ih =>
    exact .cons (hu x List.mem_cons_self) (ih fun y hy => hu y (List.mem_cons_of_mem _ hy))

theorem Tidy.of_append (h : Tidy (u ++ t)) : Tidy t := by
  induction u with
  | nil => exact h
  | cons _ u ih => exact ih h.2.2.2

theorem Tidy.acceptable (h : Tidy t) : ∀ x ∈ t, isAcceptable x = true := by
  induction t with
  | nil => nofun
  | cons _ t ih => exact List.forall_mem_cons.2 ⟨h.1, ih h.2.2.2⟩

theorem isInLine_space : IsInLine ' ' := by constructor <;> decide

theorem Tidy.blanks (k : Nat) (h : Tidy t) : Tidy (List.replicate k ' ' ++ t) :=
  .append (fun _ hx => List.eq_of_mem_replicate hx ▸ isInLine_space) h

theorem isInLine_of_toNat (h : 0x20 ≤ x.toNat ∧ x.toNat ≤ 0x7E) : IsInLine x := by
  refine ⟨?_, Scalar.isBreak_of_toNat h⟩
  simp only [isAcceptable, Bool.or_eq_true, Bool.and_eq_true, decide_eq_true_eq]
  omega

/-! ## Line ends -/

/-- A line that starts with something else does not separate documents. -/
theorem not_separates_cons (h1 : x ≠ '-') (h2 : x ≠ '.') : ¬Separates (x :: t) := by
  rintro (h | h) <;> rw [List.take_succ_cons] at h
  · exact h1 (List.cons.inj h).1
  · exact h2 (List.cons.inj h).1

theorem Tidy.newLine (hs : ¬Separates t) (h : Tidy t) : Tidy ('\n' :: t) :=
  ⟨by decide, by decide, fun _ => hs, h⟩

theorem Tidy.freshLine (hs : ¬Separates t) (h : Tidy t) : Tidy (freshLine n ++ t) :=
  .newLine (Scalar.not_separates_indented hs n) (.blanks n h)

/-- Indentation never separates documents. -/
theorem not_separates_blanks (hn : 0 < n) : ¬Separates (List.replicate n ' ' ++ t) := by
  obtain ⟨n, rfl⟩ : ∃ k, n = k + 1 := ⟨n - 1, by omega⟩
  exact not_separates_cons (by decide) (by decide)

theorem Tidy.indented (hn : 0 < n) (h : Tidy t) : Tidy (Yaml.freshLine n ++ t) :=
  .newLine (not_separates_blanks hn) (.blanks n h)

theorem Tidy.breaks {bs : List Char} (hn : 0 < n) (hbs : ∀ b ∈ bs, isInnerBreak b = true)
    (h : Tidy t) : Tidy (bs ++ (List.replicate n ' ' ++ t)) := by
  induction bs with
  | nil => exact .blanks n h
  | cons b bs ih =>
    have hb := hbs b List.mem_cons_self
    have hchar : isAcceptable b = true ∧ b ≠ '\r' := by
      simp only [isInnerBreak, Bool.or_eq_true, beq_iff_eq] at hb
      rcases hb with ((rfl | rfl) | rfl) | rfl <;> decide
    refine ⟨hchar.1, hchar.2, fun _ => ?_, ih fun x hx => hbs x (List.mem_cons_of_mem _ hx)⟩
    cases bs with
    | nil => exact not_separates_blanks hn
    | cons c bs =>
      have hc := hbs c (by simp)
      exact not_separates_cons (by rintro rfl; exact absurd hc (by decide))
        (by rintro rfl; exact absurd hc (by decide))

/-! ## Scalars -/

theorem Quoted.tidy (h : Quoted double sound n cs t) (hn : 0 < n) (hm : Tidy more) :
    Tidy (t ++ more) := by
  induction h with
  | nil => exact hm
  | @bare c _ _ special shown _ ih =>
    refine .cons ⟨shown, ?_⟩ ih
    simp only [Scalar.isQuotedSpecial, Bool.or_eq_false_iff] at special
    exact isBreak_of_atBlank special.2
  | @foreign c _ _ sign _ ih => 
    refine .cons ?_ ih
    cases double with
    | true => obtain rfl := sign; exact isInLine_of_toNat (by decide)
    | false => rcases sign with rfl | rfl <;> exact isInLine_of_toNat (by decide)
  | blank _ _ ih => exact .cons isInLine_space ih
  | doubled _ _ ih =>
    exact .cons (isInLine_of_toNat (by decide)) (.cons (isInLine_of_toNat (by decide)) ih)
  | fold _ _ _ ih => rw [List.append_assoc]; exact .indented hn ih
  | @breaks b bs _ _ _ ends _ _ ih =>
    have hbs := Tidy.breaks hn ends ih
    simp only [List.append_assoc] at hbs ⊢
    split
    · rename_i hb
      refine .newLine (not_separates_cons ?_ ?_) hbs
      · rintro rfl; cases hb
      · rintro rfl; cases hb
    · exact hbs
  | escape _ _ ih =>
    rw [List.append_assoc]
    exact .append (fun x hx => isInLine_of_toNat (Scalar.toNat_of_mem_escapeOf hx)) ih
  | escapedBlank _ _ ih => exact .cons (isInLine_of_toNat (by decide)) (.cons isInLine_space ih)
  | joint _ _ _ ih =>
    rw [List.cons_append, List.append_assoc]
    exact .cons (isInLine_of_toNat (by decide)) (.indented hn ih)
  | stray _ _ _ ih => exact .cons (isInLine_of_toNat (by decide)) ih

theorem Plain.tidy (h : Plain n cs t) (hn : 0 < n) (hm : Tidy more) : Tidy (t ++ more) := by
  have hword : ∀ {w : List Char}, IsWord w → ∀ x ∈ w, IsInLine x := fun hw x hx =>
    ⟨hw.shown x hx, isBreak_of_atBlank (hw.solid x hx)⟩
  induction h with
  | word word => exact .append (hword word) hm
  | blanks k word _ ih =>
    rw [List.append_assoc, List.append_assoc]
    exact .append (hword word) (.blanks _ ih)
  | fold word _ ih =>
    rw [List.append_assoc, List.append_assoc]
    exact .append (hword word) (.indented hn ih)

theorem ScalarLaid.tidy (h : ScalarLaid sound n plain cs t) (hn : 0 < n) (hm : Tidy more) :
    Tidy (t ++ more) := by
  cases h with
  | plain _ _ text => exact text.tidy hn hm
  | quoted double _ text =>
    have hquote : IsInLine (Scalar.quote double) := by
      cases double <;> exact isInLine_of_toNat (by decide)
    rw [List.cons_append, List.append_assoc]
    exact .cons hquote (text.tidy hn (.cons hquote hm))

/-! ## Forms -/

namespace Form

mutual

theorem tidy_node : ∀ (f : Form) {n : Nat} {below : Bool} {t more : List Char},
    f.Laid sound n below t → Tidy more → Tidy (t ++ more)
  | .scalar _ tag cs, n, below, t, more, ⟨plain, u, ht, hu, _⟩, hm => by
    subst ht
    exact .cons isInLine_space (hu.tidy (Nat.succ_pos _) hm)
  | .sequence _ fs, n, below, t, more, h, hm => by
    rw [Laid] at h
    split at h
    · subst h
      exact .cons isInLine_space (.cons (isInLine_of_toNat (by decide))
        (.cons (isInLine_of_toNat (by decide)) hm))
    · split at h
      · exact tidy_items fs h hm
      · obtain ⟨u, rfl, hu⟩ := h
        have := tidy_items fs hu hm
        rw [List.append_assoc] at this
        exact .cons isInLine_space this.of_append
  | .mapping _ tag es, n, below, t, more, h, hm => by
    rw [Laid] at h
    obtain ⟨-, h⟩ := h
    split at h
    · subst h
      exact .cons isInLine_space (.cons (isInLine_of_toNat (by decide))
        (.cons (isInLine_of_toNat (by decide)) hm))
    · split at h
      · exact tidy_entries es h hm
      · obtain ⟨u, rfl, hu⟩ := h
        have := tidy_entries es hu hm
        rw [List.append_assoc] at this
        exact .cons isInLine_space this.of_append

theorem tidy_items : ∀ (fs : List Form) {n : Nat} {t more : List Char},
    ItemsLaid sound n fs t → Tidy more → Tidy (t ++ more)
  | [], n, t, more, h, hm => by
    obtain rfl := h
    exact hm
  | f :: fs, n, t, more, ⟨u, v, ht, hu, hv⟩, hm => by
    subst ht
    have hfollows := Scanner.follows_items (List.cons_ne_nil f fs)
      ⟨u, v, rfl, hu, hv⟩ more
    rw [List.append_assoc]
    refine .freshLine hfollows.separates ?_
    rw [List.cons_append, List.append_assoc]
    exact .cons (isInLine_of_toNat (by decide)) (tidy_node f hu (tidy_items fs hv hm))

/-- **No line of the entries of a mapping separates documents.** -/
theorem tidy_entries : ∀ (es : List (Form × Form)) {n : Nat} {t more : List Char},
    EntriesLaid sound n es t → Tidy more → Tidy (t ++ more)
  | [], n, t, more, h, hm => by
    obtain rfl := h
    exact hm
  | (k, v) :: es, n, t, more, ⟨key, u, w, ht, hw, h⟩, hm => by
    subst ht
    have hfollows := Scanner.follows_entries (List.cons_ne_nil (k, v) es)
      ⟨key, u, w, rfl, hw, h⟩ more
    have hcolon : ∀ {r : List Char}, Tidy r → Tidy (':' :: r) :=
      .cons (isInLine_of_toNat (by decide))
    have hrest := tidy_entries es hw hm
    rw [List.append_assoc]
    refine .freshLine hfollows.separates ?_
    simp only [List.append_assoc, List.cons_append]
    rcases h with ⟨hk, hv⟩ | ⟨q, rfl, hk, hv⟩
    · match k, hk with
      | .scalar _ _ _, ⟨_, hk, _⟩ =>
        exact hk.tidy (Nat.succ_pos _) (hcolon (tidy_node v hv hrest))
    · simp only [List.append_assoc, List.cons_append]
      exact .cons (isInLine_of_toNat (by decide)) (tidy_node k hk
        (.freshLine (not_separates_cons (by decide) (by decide)) (hcolon (tidy_node v hv hrest))))

end

end Form

end Folio.Yaml
