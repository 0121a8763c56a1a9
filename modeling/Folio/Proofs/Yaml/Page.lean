/-
  Folio — the lines of written YAML.

  While a line holds nothing but indentation, what is written ends with a line end
  or with that indentation.  So the text of a mapping ends with a line end: the
  last thing written goes back to column zero.

  * `Page.Settled`: nothing but an ordinary line end comes before an empty line;
  * `Yaml.getLast?_render`: the text of a mapping ends with a line end.
-/
import Folio.Yaml.Render
import Mathlib.Data.List.SplitBy

namespace Folio.Yaml

/-- All elements of a run are of one kind. -/
theorem kind_eq_of_mem_splitBy {α β : Type} [BEq β] [LawfulBEq β] {f : α → β} {xs : List α}
    {x y : α} {run : List α} (h : x :: run ∈ xs.splitBy fun a b => f a == f b) (hy : y ∈ x :: run) :
    f y = f x := by
  have hc := List.isChain_of_mem_splitBy h
  have ht : (x :: run).Pairwise fun a b => f a = f b := by
    refine (List.isChain_iff_pairwise (R := fun a b => f a = f b)).1 ?_
    simpa using hc
  rcases List.mem_cons.1 hy with rfl | hy
  · rfl
  · exact ((List.pairwise_cons.1 ht).1 y hy).symm

/-! ## Scalars of a form -/

namespace Form

mutual

/-- Do all scalars in a form have a property of tags and texts? -/
def Scalars (P : Tag → List Char → Prop) : Form → Prop
  | .alias _ => True
  | .scalar _ tag cs => P tag cs
  | .sequence _ fs => ItemScalars P fs
  | .mapping _ _ es => EntryScalars P es

/-- Do all scalars in some forms have a property? -/
def ItemScalars (P : Tag → List Char → Prop) : List Form → Prop
  | [] => True
  | f :: fs => Scalars P f ∧ ItemScalars P fs

/-- Do all scalars in some entries have a property? -/
def EntryScalars (P : Tag → List Char → Prop) : List (Form × Form) → Prop
  | [] => True
  | (k, v) :: es => Scalars P k ∧ Scalars P v ∧ EntryScalars P es

end

/-- Texts of octets are broken into lines by LF only. -/
def PlainBinary (tag : Tag) (cs : List Char) : Prop :=
  tag = .binary → ∀ c ∈ cs, isInnerBreak c = true → c = '\n'

end Form

/-! ## Pages -/

namespace Page
variable {p : Page} {cs : List Char}

/-- Before an empty line comes nothing or LF. -/
def Settled (p : Page) : Prop :=
  p.indenting = true → p.spaced = true → p.column = 0 → ∀ c ∈ p.text.head?, c = '\n'

theorem settled_empty : empty.Settled := by simp [Settled, empty]

theorem settled_of_not_spaced (h : p.spaced = false) : p.Settled := by simp [Settled, h]

theorem Settled.write (h : p.Settled) (cs : List Char) : (p.write cs).Settled := by
  intro hi hs hc
  cases cs with
  | nil => exact h hi hs hc
  | cons c cs => simp [Page.write] at hc

theorem column_indentTo (p : Page) (n : Nat) : (p.indentTo n).column = n := by
  simp only [indentTo]
  split
  · split
    · simp only [Page.write, newLine, List.length_replicate] at *
      omega
    · simp only [newLine] at *
      omega
  · split
    · simp only [Page.write, List.length_replicate]
      omega
    · simp_all
      omega

theorem settled_newLine (p : Page) : p.newLine.Settled := by
  simp [Settled, newLine]

theorem Settled.indentTo (h : p.Settled) (n : Nat) : (p.indentTo n).Settled := by
  intro hi hs hc
  have hn := p.column_indentTo n
  obtain rfl : n = 0 := hn.symm.trans hc
  simp only [Page.indentTo, Nat.not_lt_zero, if_false] at hi hs ⊢
  split
  · simp [newLine]
  · rename_i hline
    simp only [hline, Bool.false_eq_true, if_false] at hi hs
    refine h hi hs ?_
    simp at hline
    omega

/-- Indentation that is not empty comes after nothing that has to be settled. -/
theorem settled_indentTo (p : Page) {n : Nat} (hn : 0 < n) : (p.indentTo n).Settled := by
  intro _ _ hc
  rw [column_indentTo] at hc
  omega

/-- Back at column zero a line has ended. -/
theorem Settled.head?_indentTo (h : p.Settled) : ∀ c ∈ (p.indentTo 0).text.head?, c = '\n' := by
  simp only [Page.indentTo, Nat.not_lt_zero, if_false]
  split
  · simp [newLine]
  · rename_i hline
    simp only [Bool.or_eq_true, Bool.not_eq_true', decide_eq_true_eq, Bool.and_eq_true, beq_iff_eq,
      not_or, not_and, Bool.not_eq_false, Nat.not_lt, Nat.le_zero] at hline
    exact h hline.1.1 (hline.2 hline.1.2) hline.1.2

theorem settled_sign (p : Page) (cs : List Char) (setOff adds : Bool) :
    (p.sign cs setOff adds).Settled :=
  settled_of_not_spaced rfl

end Page

/-! ## What is written -/

namespace Render
variable {p : Page} {cs : List Char}

theorem settled_plain (h : p.Settled) (split : Bool) (indent : Nat) (cs : List Char) :
    (plain p split indent cs).Settled := by
  rw [plain]
  split
  · exact h
  · refine Page.settled_of_not_spaced
      (List.foldlRecOn (motive := fun q : Page => q.spaced = false) _ _ rfl fun q hq run _ => ?_)
    split
    · rfl
    · exact hq

theorem settled_literal (p : Page) {indent : Nat} (hi : 0 < indent)
    (hc : ∀ c ∈ cs, isInnerBreak c = true → c = '\n') : (literal p indent cs).Settled := by
  refine List.foldlRecOn (motive := Page.Settled) _ _ (Page.settled_newLine _) fun q hq run hrun => ?_
  have hmem : ∀ c ∈ run, c ∈ cs := fun c hcr => by
    rw [← List.flatten_splitBy (fun a b => (kindOf a == .lineEnd) == (kindOf b == .lineEnd)) cs]
    exact List.mem_flatten.2 ⟨run, hrun, hcr⟩
  split
  · rename_i hend
    refine List.foldlRecOn (motive := Page.Settled) _ _ hq fun q _ c hcr => ?_
    obtain ⟨d, rest, rfl⟩ := List.exists_cons_of_ne_nil (List.ne_nil_of_mem hcr)
    have hd : kindOf d = .lineEnd := by simpa using hend
    have hk : (kindOf c == .lineEnd) = true := by
      rw [kind_eq_of_mem_splitBy hrun hcr, hd]
      rfl
    have hb : isInnerBreak c = true := by
      simp only [kindOf] at hk
      split at hk
      · cases hk
      · split at hk
        · assumption
        · cases hk
    rw [hc c (hmem c hcr) hb]
    exact q.settled_newLine
  · exact (q.settled_indentTo hi).write run

theorem settled_scalar (h : p.Settled) (key : Bool) {indent : Nat} (hi : 0 < indent) {tag : Tag}
    (hc : Form.PlainBinary tag cs) : (scalar p key indent (Style.choose key tag cs) cs).Settled := by
  unfold scalar
  split
  · exact settled_plain h _ _ _
  · exact Page.settled_sign _ _ _ _
  · exact Page.settled_sign _ _ _ _
  · rename_i hs
    refine settled_literal p hi (hc ?_)
    simp only [Style.choose] at hs
    split at hs
    · assumption
    · split at hs
      · cases hs
      · split at hs <;> cases hs

theorem settled_anchor (h : p.Settled) (a : AnchorNumber) : (anchor p a).Settled := by
  cases a with
  | none => exact h
  | some n => exact Page.settled_sign _ _ _ _

mutual

theorem settled_node (at_ : Place) :
    ∀ (f : Form) {p : Page}, f.Scalars Form.PlainBinary → p.Settled → (node p at_ f).Settled
  | .alias _, _, _, _ => Page.settled_sign _ _ _ _
  | .scalar a tag cs, p, hf, h => by
    rw [node]
    refine settled_scalar ?_ _ (Nat.succ_pos _) hf
    split
    · exact Page.settled_sign _ _ _ _
    · exact settled_anchor h a
  | .sequence a items, p, hf, h => by
    rw [node]
    split
    · exact Page.settled_sign _ _ _ _
    · exact settled_sequence _ items hf (settled_anchor h a)
  | .mapping a tag entries, p, hf, h => by
    rw [node]
    split
    · exact Page.settled_sign _ _ _ _
    · refine settled_mapping _ entries hf ?_
      split
      · exact settled_anchor h a
      · exact Page.settled_sign _ _ _ _

theorem settled_sequence (indent : Nat) :
    ∀ (fs : List Form) {p : Page}, Form.ItemScalars Form.PlainBinary fs → p.Settled →
      (sequence p indent fs).Settled
  | [], _, _, h => h
  | f :: fs, _, hf, _ =>
    settled_sequence indent fs hf.2 (settled_node _ f hf.1 (Page.settled_sign _ _ _ _))

theorem settled_mapping (indent : Nat) :
    ∀ (es : List (Form × Form)) {p : Page}, Form.EntryScalars Form.PlainBinary es → p.Settled →
      (mapping p indent es).Settled
  | [], _, _, h => h
  | (k, v) :: es, p, hf, _ => by
    rw [mapping]
    refine settled_mapping indent es hf.2.2 (settled_node _ v hf.2.1 ?_)
    split <;> exact Page.settled_sign _ _ _ _

end

end Render

/-! ## Octets -/

end Folio.Yaml

namespace Folio.Base64

theorem digit_not_innerBreak (n : Nat) : Yaml.isInnerBreak (digit n) = false := by
  have hall : alphabet.all (!Yaml.isInnerBreak ·) = true := by decide
  rw [digit, List.getD_eq_getElem?_getD]
  cases h : alphabet[n]? with
  | none => decide
  | some c => simpa using List.all_eq_true.1 hall c (List.mem_of_getElem? h)

theorem encodeGroups_not_innerBreak (s : Octets) :
    ∀ c ∈ encodeGroups s, Yaml.isInnerBreak c = false := by
  have hpad : Yaml.isInnerBreak '=' = false := by decide
  induction s using encodeGroups.induct with
  | case1 => simp [encodeGroups]
  | case2 a => simp [encodeGroups, digit_not_innerBreak, hpad]
  | case3 a b => simp [encodeGroups, digit_not_innerBreak, hpad]
  | case4 a b c rest _ _ _ _ ih =>
    simp only [encodeGroups, List.forall_mem_cons, digit_not_innerBreak, true_and]
    exact ih

/-- The digits of octets are broken into lines by LF only. -/
theorem eq_newLine_of_mem_encode {s : Octets} {c : Char} (hc : c ∈ encode s)
    (hb : Yaml.isInnerBreak c = true) : c = '\n' := by
  rw [encode] at hc
  generalize s.length + 1 = fuel at hc
  induction fuel generalizing s with
  | zero => cases hc
  | succ fuel ih =>
    rw [encodeLines] at hc
    split at hc
    · cases hc
    · rcases List.mem_append.1 hc with hc | hc
      · rw [encodeGroups_not_innerBreak _ c hc] at hb
        cases hb
      · rcases List.mem_cons.1 hc with rfl | hc
        · rfl
        · exact ih hc

end Folio.Base64

namespace Folio.Yaml

namespace Form

variable {w : Written}

theorem plainBinary_of_ne {tag : Tag} (h : tag ≠ .binary) (cs : List Char) : PlainBinary tag cs :=
  fun he => absurd he h

mutual

theorem plainBinary_value :
    ∀ (v : Value) (w : Written), (ofValueAt w v).1.Scalars PlainBinary
  | .null, _ | .bool _, _ | .int _, _ | .float _, _ | .text _, _ =>
    plainBinary_of_ne (by decide) _
  | .octets _, _ => fun _ _ => Base64.eq_newLine_of_mem_encode
  | .time label t, w => by
    simp only [ofValueAt]
    split
    · trivial
    · exact plainBinary_of_ne (by decide) _
  | .list label items, w => by
    simp only [ofValueAt]
    split
    · trivial
    · exact plainBinary_items items _
  | .map label es, w => by
    simp only [ofValueAt]
    split
    · trivial
    · exact plainBinary_entries es _
  | .set label ms, w => by
    simp only [ofValueAt]
    split
    · trivial
    · have h := plainBinary_items ms (w.add label)
      generalize (ofItems (w.add label) ms).1 = fs at h
      simp only [Scalars]
      induction fs with
      | nil => trivial
      | cons f fs ih => exact ⟨h.1, plainBinary_of_ne (by decide) _, ih h.2⟩
  | .pair a b, w => ⟨plainBinary_value a w, plainBinary_value b _, trivial⟩

theorem plainBinary_items :
    ∀ (vs : List Value) (w : Written), ItemScalars PlainBinary (ofItems w vs).1
  | [], _ => trivial
  | v :: vs, w => ⟨plainBinary_value v w, plainBinary_items vs _⟩

theorem plainBinary_entries :
    ∀ (es : List (Value × Value)) (w : Written), EntryScalars PlainBinary (ofEntries w es).1
  | [], _ => trivial
  | (k, v) :: es, w =>
    ⟨plainBinary_value k w, plainBinary_value v _, plainBinary_entries es _⟩

end

end Form

/-! ## Texts -/

/-- The text of a mapping ends with a line end. -/
theorem getLast?_render (es : Entries) : ∀ c ∈ (render es).getLast?, c = '\n' := by
  rw [render]
  have hf := Form.plainBinary_value (.map none es) ⟨Anchors.ofValue (.map none es), []⟩
  split
  · rename_i a tag fs h
    rw [Form.ofValue] at h
    rw [h] at hf
    have hs := Render.settled_mapping 0 fs hf Page.settled_empty
    rw [List.getLast?_reverse]
    exact hs.head?_indentTo
  · simp

end Folio.Yaml
