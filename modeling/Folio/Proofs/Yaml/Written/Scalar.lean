/-
  Folio — scalars are written.

  A scalar of a basic value needs no tag: it stands without quotes only if it reads
  back as what it is, and what stands between quotes is a text.

  Some texts do not read back as they are (`Style.keeps`): a next-line character
  between single quotes counts as an ordinary line end, on very deep levels a
  backslash goes astray between double quotes, and the escapes of a key may make it
  longer than a key on one line may be.

  * `Render.exists_scalar`: how a scalar stands where it is written.
-/
import Folio.Proofs.Yaml.Basic
import Folio.Proofs.Yaml.Written.Double
import Folio.Proofs.Yaml.Written.Plain

namespace Folio.Yaml

/-! ## The style of a scalar -/

namespace Style

/-- Does a scalar read back that is written in a style, with `n` spaces of indentation
    on fresh lines? -/
def keeps (key : Bool) (n : Nat) (cs : List Char) : Style → Bool
  | .plain => true
  | .singleQuoted => !cs.contains '\u0085'
  | .doubleQuoted =>
    if key then decide ((cs.flatMap Render.spelling).length + 2 ≤ Scanner.maxKeyLength)
    else decide (n < Page.width) || !Render.strays true cs
  | .literal => false

/-- Can a scalar stand as a key on one line? -/
structure FitsKey (cs : List Char) : Prop where
  ne_nil : cs ≠ []
  line : (Look.ofText cs).multiline = false
  short : cs.length < Render.maxKeyLength

theorem fitsKey_of_isSimpleKey {cs : List Char}
    (h : Render.isSimpleKey (.scalar none .str cs) = true) : FitsKey cs := by
  simp only [Render.isSimpleKey, Bool.and_eq_true, decide_eq_true_eq, Bool.not_eq_true'] at h
  obtain ⟨⟨hlen, hempty⟩, hline⟩ := h
  exact ⟨by rintro rfl; exact absurd hempty (by decide), hline, by omega⟩

/-- Why a style is chosen for a scalar of a basic value. -/
inductive Chosen (key : Bool) (tag : Tag) (cs : List Char) : Style → Prop where
  | plain (ne_nil : cs ≠ []) (look : (Look.ofText cs).plain = true) (tag_eq : Tag.ofPlain true cs = tag)
      (date : tag ≠ .timestamp) : Chosen key tag cs .plain
  | singleQuoted (look : (Look.ofText cs).singleQuoted = true) (tag_eq : tag = .str) :
      Chosen key tag cs .singleQuoted
  | doubleQuoted (tag_eq : tag = .str) : Chosen key tag cs .doubleQuoted

variable {key : Bool} {tag : Tag} {cs : List Char}

theorem chosen (h : Form.IsBasicScalar tag cs) (hkey : key = true → FitsKey cs) :
    Chosen key tag cs (choose key tag cs) := by
  have hbinary : tag ≠ .binary := by
    rcases h with rfl | h
    · decide
    · exact h.1
  rw [choose, if_neg hbinary]
  split
  · rename_i hplain
    simp only [Bool.and_eq_true, readsBack, beq_iff_eq] at hplain
    obtain ⟨⟨htag, -⟩, hlook⟩ := hplain
    rcases h with rfl | ⟨-, hdate, -, hne, -⟩
    · refine .plain ?_ hlook htag (by decide)
      rintro rfl
      exact absurd htag (by decide)
    · exact .plain hne hlook htag hdate
  · rename_i hplain
    have htag : tag = .str := by
      refine h.resolve_right fun h => hplain ?_
      obtain ⟨-, -, htag, -, hlook⟩ := h
      cases key with
      | false => simp [readsBack, htag, hlook]
      | true =>
        obtain ⟨hne, hline, -⟩ := hkey rfl
        obtain ⟨c, cs, rfl⟩ := List.exists_cons_of_ne_nil hne
        have hempty : (Look.ofText (c :: cs)).empty = false := rfl
        simp [readsBack, htag, hlook, hline, hempty]
    split
    · rename_i hsingle
      exact .singleQuoted (Bool.and_eq_true_iff.1 hsingle).1 htag
    · exact .doubleQuoted htag

theorem Chosen.needsTag {s : Style} (h : Chosen key tag cs s) : s.needsTag tag cs = false := by
  cases h with
  | plain _ _ htag _ => simp [Style.needsTag, readsBack, htag]
  | singleQuoted _ htag | doubleQuoted htag => simp [Style.needsTag, htag]

end Style

/-! ## Characters -/

namespace Render
variable {sound : Bool} {n : Nat} {tag : Tag} {cs : List Char}

theorem isBreak_of_mem_spelling {c x : Char} (h : x ∈ spelling c) : isBreak x = false := by
  rw [spelling] at h
  split at h
  · rename_i hc
    obtain rfl := List.mem_singleton.1 h
    exact isBreak_of_isBare hc
  · exact Scalar.isBreak_of_toNat (Scalar.toNat_of_mem_escapeOf h)

theorem isBreak_of_ordinary {c : Char} (ho : Look.isOrdinary c = true) (hc : isInnerBreak c = false) :
    isBreak c = false := by
  have hr : c ≠ '\r' := by rintro rfl; exact absurd ho (by decide)
  simp only [isInnerBreak, Bool.or_eq_false_iff, beq_eq_false_iff_ne] at hc
  simp [isBreak, hr, hc]

theorem isBreak_of_mem_quotes {double : Bool} {t : List Char} (h : ∀ x ∈ t, isBreak x = false) :
    ∀ x ∈ Scalar.quote double :: (t ++ [Scalar.quote double]), isBreak x = false := by
  have hquote : isBreak (Scalar.quote double) = false := by cases double <;> decide
  intro x hx
  rcases List.mem_cons.1 hx with rfl | hx
  · exact hquote
  · rcases List.mem_append.1 hx with hx | hx
    · exact h x hx
    · exact List.mem_singleton.1 hx ▸ hquote

theorem length_doubled_le (cs : List Char) : (cs.flatMap doubled).length ≤ 2 * cs.length := by
  induction cs with
  | nil => exact Nat.le_refl _
  | cons c cs ih =>
    have : (doubled c).length ≤ 2 := by
      rw [doubled]
      split <;> simp
    rw [List.flatMap_cons, List.length_append, List.length_cons]
    omega

theorem mem_doubled {c x : Char} (h : x ∈ doubled c) : x = c := by
  rw [doubled] at h
  split at h <;> simp_all

/-! ## Scalars -/

section
variable (p : Page) (split sound : Bool) (n : Nat)

theorem exists_plainScalar (hne : cs ≠ []) (hlook : (Look.ofText cs).plain = true) :
    ∃ u, (plain p split n cs).text = u.reverse ++ p.setOff ∧
      (plain p split n cs).indenting = false ∧ ScalarLaid sound n true cs u ∧
      (split = false → u = cs) := by
  obtain ⟨hstart, hcs, hfirst⟩ := Look.of_plain hne hlook
  obtain ⟨hbs, hsb, -⟩ := Look.of_singleQuoted (Look.singleQuoted_of_plain hlook)
  obtain ⟨word, hruns⟩ := exists_alternate hbs hsb
  obtain rfl : word = true := hruns.word_of_head (runs_ne_nil hne) (by
    rw [flatten_runs]
    intro c hc
    exact kindOf_eq_word.2 ⟨hfirst c hc, hcs.line c (List.mem_of_head? hc)⟩)
  obtain ⟨u, h1, h2, h3, h4⟩ := exists_plain split n (runs cs) (runs_ne_nil hne) hruns
    (by rwa [flatten_runs]) (p := (if p.spaced then p else p.write [' ']).inText) rfl
  rw [flatten_runs] at h3 h4
  have hplain : plain p split n cs = (runs cs).foldl (plainRun split n)
      (if p.spaced then p else p.write [' ']).inText := by
    rw [plain, if_neg (by simpa using hne)]
    rfl
  refine ⟨u, ?_, hplain ▸ h2, .plain (h3.plainStart hstart) ?_ h3, h4⟩
  · rw [hplain, h1, Page.setOff]
    cases p.spaced <;> rfl
  -- a byte order mark is never written without quotes
  · obtain ⟨w, k, v, hw, rfl, rfl, -⟩ := h3.exists_word
    obtain ⟨x, w, rfl⟩ := List.exists_cons_of_ne_nil hw.ne_nil
    rintro he
    obtain rfl : x = '\uFEFF' := by simpa using he
    exact absurd (hcs.ordinary '\uFEFF' (by simp)) (by decide)

theorem exists_singleScalar (hlook : (Look.ofText cs).singleQuoted = true) :
    ∃ t, (singleQuoted p split n cs).text =
        (Scalar.quote false :: (t ++ [Scalar.quote false])).reverse ++ p.setOff ∧
      (singleQuoted p split n cs).indenting = false ∧ Quoted false sound n cs t ∧
      (split = false → (∀ c ∈ cs, isInnerBreak c = false) → t = cs.flatMap doubled) := by
  obtain ⟨hbs, hsb, hcs⟩ := Look.of_singleQuoted hlook
  obtain ⟨word, hruns⟩ := exists_alternate hbs hsb
  obtain ⟨t, h1, h2, -, h4⟩ := exists_single hruns
    (fun r hr c hc => hcs c (by
      rw [← flatten_runs cs]
      exact List.mem_flatten.2 ⟨r, hr, hc⟩))
    true (p := p.sign ['\''] true) (.inl (by simp)) fun _ => .inl (by simp)
  rw [flatten_runs] at h2 h4
  refine ⟨t, ?_, by simp [singleQuoted], h2, h4⟩
  rw [singleQuoted, Page.text_sign_close, h1, Page.text_sign]
  simp [Scalar.quote]

theorem exists_doubleScalar
    (hs : sound = true → split = true → n < Page.width ∨ strays true cs = false) :
    ∃ t, (doubleQuoted p split n cs).text =
        (Scalar.quote true :: (t ++ [Scalar.quote true])).reverse ++ p.setOff ∧
      (doubleQuoted p split n cs).indenting = false ∧ Spelled split sound n cs t := by
  obtain ⟨t, h1, -, h3, -⟩ := exists_spelled cs true [] (p := p.sign ['"'] true) (by simp) hs
  refine ⟨t, ?_, by simp [doubleQuoted], h3⟩
  rw [doubleQuoted, Page.text_sign_close, h1, Page.text_sign]
  simp [Scalar.quote]

end

/-- **How a scalar of a basic value stands where it is written.**  It reads back, if its
    style keeps it; as a key it stands on one line. -/
theorem exists_scalar (p : Page) {key : Bool} (h : Form.IsBasicScalar tag cs)
    (hkey : key = true → Style.FitsKey cs)
    (hs : sound = true → (Style.choose key tag cs).keeps key n cs = true) :
    ∃ plain u, (scalar p key n (Style.choose key tag cs) cs).text = u.reverse ++ p.setOff ∧
      (scalar p key n (Style.choose key tag cs) cs).indenting = false ∧
      ScalarLaid sound n plain cs u ∧ tag = readTag plain cs ∧
      (key = true → (∀ x ∈ u, isBreak x = false) ∧
        (sound = true → u.length ≤ Scanner.maxKeyLength)) := by
  have hchosen := Style.chosen h hkey
  generalize Style.choose key tag cs = s at hchosen hs ⊢
  cases hchosen with
  | plain hne hlook htag hdate =>
    obtain ⟨u, h1, h2, h3, h4⟩ := exists_plainScalar p (!key) sound n hne hlook
    refine ⟨true, u, h1, h2, h3, ?_, fun hk => ?_⟩
    · rw [readTag, if_pos rfl, ofPlain_eq (by rwa [htag]), htag]
    · obtain rfl := h4 (by simp [hk])
      obtain ⟨-, hcs, -⟩ := Look.of_plain hne hlook
      have hshort := (hkey hk).short
      refine ⟨fun x hx => isBreak_of_ordinary (hcs.ordinary x hx) (hcs.line x hx), fun _ => ?_⟩
      simp only [maxKeyLength, Scanner.maxKeyLength] at *
      omega
  | singleQuoted hlook htag =>
    obtain ⟨t, h1, h2, h3, h4⟩ := exists_singleScalar p (!key) sound n hlook
    refine ⟨false, _, h1, h2, .quoted false (fun hsound _ => ?_) h3, htag, fun hk => ?_⟩
    · simpa [Style.keeps] using hs hsound
    · have hfits := hkey hk
      have hline := Look.line_of_multiline hfits.line
      obtain ⟨-, -, hcs⟩ := Look.of_singleQuoted hlook
      obtain rfl := h4 (by simp [hk]) hline
      refine ⟨isBreak_of_mem_quotes fun x hx => ?_, fun _ => ?_⟩
      · obtain ⟨c, hc, hx⟩ := List.mem_flatMap.1 hx
        obtain rfl := mem_doubled hx
        exact isBreak_of_ordinary (hcs x hc) (hline x hc)
      · have hdoubled := length_doubled_le cs
        have hshort := hfits.short
        simp only [maxKeyLength, Scanner.maxKeyLength, List.length_cons, List.length_append,
          List.length_nil] at *
        omega
  | doubleQuoted htag =>
    obtain ⟨t, h1, h2, h3⟩ := exists_doubleScalar p (!key) sound n fun hsound hk => by
      have hkeeps := hs hsound
      simp only [Bool.not_eq_true'] at hk
      simpa [Style.keeps, hk] using hkeeps
    refine ⟨false, _, h1, h2, .quoted true (fun _ h => nomatch h) h3.quoted, htag, fun hk => ?_⟩
    obtain rfl := h3.whole (by simp [hk])
    refine ⟨isBreak_of_mem_quotes fun x hx => ?_, fun hsound => ?_⟩
    · obtain ⟨c, -, hx⟩ := List.mem_flatMap.1 hx
      exact isBreak_of_mem_spelling hx
    · have hkeeps := hs hsound
      rw [Style.keeps, if_pos hk, decide_eq_true_eq] at hkeeps
      rwa [List.length_cons, List.length_append, List.length_singleton]

end Render

end Folio.Yaml
