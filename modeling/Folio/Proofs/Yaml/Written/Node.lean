/-
  Folio — basic values are written as blocks.

  After the sign of a collection stands a scalar, a pair of brackets or a block.  A
  block goes to its indentation before each part: after a sign that counts as
  indentation this is a space, everywhere else a fresh line.  What is written leaves
  text on its line, so the next part starts on a fresh one.

  * `Form.keeps`: do all scalars in a form read back where they are written?
  * `Render.exists_mapping`: how the entries of a mapping stand.
-/
import Folio.Proofs.Yaml.Written.Scalar

namespace Folio.Yaml

/-! ## Forms that read back -/

namespace Form

/-- Does a key read back, with `n` spaces of indentation? -/
def keyKeeps (n : Nat) (k : Form) : Bool :=
  match k with
  | .scalar _ tag cs =>
    (Style.choose (Render.isSimpleKey k) tag cs).keeps (Render.isSimpleKey k) (n + 2) cs
  | _ => false

mutual

/-- Do the scalars in a form read back, after a sign of a collection with `n` spaces of
    indentation?  `below` says whether a block starts below the sign. -/
def keeps (n : Nat) (below : Bool) : Form → Bool
  | .alias _ => false
  | .scalar _ tag cs => (Style.choose false tag cs).keeps false (n + 2) cs
  | .sequence _ fs => itemsKeep (if below then n else n + 2) fs
  | .mapping _ _ es => entriesKeep (n + 2) es

/-- Do the scalars in the items of a sequence read back? -/
def itemsKeep (n : Nat) : List Form → Bool
  | [] => true
  | f :: fs => keeps n false f && itemsKeep n fs

/-- Do the scalars in the entries of a mapping read back? -/
def entriesKeep (n : Nat) : List (Form × Form) → Bool
  | [] => true
  | (k, v) :: es =>
    keyKeeps n k && keeps n (Render.isSimpleKey k) v && entriesKeep n es

end

end Form

namespace Render
variable {sound below inMapping : Bool} {n : Nat} {p q : Page} {tag : Tag} {cs x t : List Char}

/-! ## Places -/

/-- A page after a sign of a collection with `n` spaces of indentation; a block starts
    below the sign or on its line. -/
structure Ready (n : Nat) (below : Bool) (p : Page) : Prop where
  spaced : p.spaced = false
  indenting : p.indenting = !below
  column : below = false → p.column = n + 1

/-- The text `t` is written after `x`, and its line goes on. -/
structure Wrote (q : Page) (x t : List Char) : Prop where
  text : q.text = t.reverse ++ x
  indenting : q.indenting = false

theorem Wrote.append {u : List Char} (h : Wrote q (u.reverse ++ x) t) : Wrote q x (u ++ t) :=
  ⟨by rw [h.text, List.reverse_append, List.append_assoc], h.indenting⟩

theorem Wrote.indentTo (h : Wrote q x t) (n : Nat) :
    q.indentTo n = ⟨(t ++ freshLine n).reverse ++ x, n, true, true⟩ := by
  rw [Page.indentTo_of_isPast (.inl h.indenting), h.text]
  simp

/-- The page after a sign that counts as indentation. -/
def signed (c : Char) (n : Nat) (x : List Char) : Page := ⟨c :: x, n + 1, false, true⟩

theorem ready_signed (c : Char) (n : Nat) (x : List Char) : Ready n false (signed c n x) :=
  ⟨rfl, rfl, fun _ => rfl⟩

theorem sign_of_indentTo {c : Char} (h : p.indentTo n = ⟨x, n, true, true⟩) :
    (p.indentTo n).sign [c] true true = signed c n x := by
  rw [h]
  rfl

/-! ## Scalars and brackets -/

theorem wrote_scalar (inMapping : Bool) (h : Form.IsBasicScalar tag cs) (hp : Ready n below p)
    (hs : sound = true → (Style.choose false tag cs).keeps false (n + 2) cs = true) :
    ∃ t, Wrote (node p ⟨n, inMapping, false⟩ (.scalar none tag cs)) p.text t ∧
      (Form.scalar none tag cs).Laid sound n below t := by
  have hkey : false = true → Style.FitsKey cs := nofun
  obtain ⟨plain, u, h1, h2, h3, h4, -⟩ := exists_scalar p h hkey hs
  rw [Page.setOff_of_not_spaced hp.spaced] at h1
  refine ⟨' ' :: u, ?_, plain, u, rfl, h3, h4⟩
  rw [node, (Style.chosen h hkey).needsTag]
  exact ⟨by simpa [anchor] using h1, h2⟩

theorem wrote_brackets (a b : Char) (hp : p.spaced = false) :
    Wrote ((p.sign [a] true).sign [b] false) p.text [' ', a, b] where
  text := by
    rw [Page.text_sign_close, Page.text_sign, Page.setOff_of_not_spaced hp]
    rfl
  indenting := by simp

/-- A scalar as a key on one line. -/
theorem wrote_key (inMapping : Bool) (h : isSimpleKey (.scalar none .str cs) = true)
    (hp : p.spaced = true)
    (hs : sound = true → (Style.choose true .str cs).keeps true (n + 2) cs = true) :
    ∃ t, Wrote (node p ⟨n, inMapping, true⟩ (.scalar none .str cs)) p.text t ∧
      Form.KeyLaid sound n (.scalar none .str cs) t := by
  have hb : Form.IsBasicScalar .str cs := .inl rfl
  have hkey := Style.fitsKey_of_isSimpleKey h
  obtain ⟨plain, u, h1, h2, h3, h4, h5⟩ := exists_scalar p hb (fun _ => hkey) hs
  rw [Page.setOff_of_spaced hp] at h1
  obtain ⟨hline, hlen⟩ := h5 rfl
  refine ⟨u, ?_, plain, h3, h4, hline, hlen⟩
  rw [node, (Style.chosen hb fun _ => hkey).needsTag]
  exact ⟨h1, h2⟩

/-! ## Blocks -/

/-- What comes before the first part of a block that is `m` spaces indented. -/
def gap (below : Bool) (m : Nat) : List Char := if below then freshLine m else [' ']

/-- Where the block of a collection starts. -/
theorem indentTo_of_ready (hp : Ready n below p) {m : Nat} (hm : below = false → m = n + 2) :
    p.indentTo m = ⟨(gap below m).reverse ++ p.text, m, true, true⟩ := by
  cases below with
  | true => exact Page.indentTo_of_isPast (.inl hp.indenting)
  | false =>
    obtain rfl := hm rfl
    exact Page.indentTo_of_sign hp.indenting (hp.column rfl)

/-- How far the items of a sequence are indented. -/
def itemIndent (n : Nat) (below : Bool) : Nat := if below then n else n + 2

theorem node_sequence (hp : Ready n below p) (hm : below = true → inMapping = true) {fs : List Form}
    (hne : fs ≠ []) : node p ⟨n, inMapping, false⟩ (.sequence none fs) =
      sequence p (itemIndent n below) fs := by
  have hne : fs.isEmpty = false := by simpa using hne
  rw [node, itemIndent]
  simp only [anchor, hne, hp.indenting, Bool.not_not, Bool.false_eq_true, if_false]
  cases below with
  | true => simp [hm rfl]
  | false => simp

theorem laid_sequence {fs : List Form} (hne : fs ≠ [])
    (h : Form.ItemsLaid sound (itemIndent n below) fs (freshLine (itemIndent n below) ++ t)) :
    (Form.sequence none fs).Laid sound n below (gap below (itemIndent n below) ++ t) := by
  have hne : fs.isEmpty = false := by simpa using hne
  rw [Form.Laid, hne]
  cases below with
  | true => exact h
  | false => exact ⟨t, rfl, h⟩

theorem node_mapping {es : List (Form × Form)} (hne : es ≠ []) :
    node p ⟨n, inMapping, false⟩ (.mapping none .map es) = mapping p (n + 2) es := by
  have hne : es.isEmpty = false := by simpa using hne
  rw [node]
  simp [anchor, hne]

theorem laid_mapping {es : List (Form × Form)} (hne : es ≠ [])
    (h : Form.EntriesLaid sound (n + 2) es (freshLine (n + 2) ++ t)) :
    (Form.mapping none .map es).Laid sound n below (gap below (n + 2) ++ t) := by
  have hne : es.isEmpty = false := by simpa using hne
  rw [Form.Laid, hne]
  cases below with
  | true => exact ⟨rfl, h⟩
  | false => exact ⟨rfl, t, rfl, h⟩

/-- The key of an entry and its colon. -/
def keyed (p : Page) (n : Nat) (k : Form) : Page :=
  if isSimpleKey k then (node (p.indentTo n) ⟨n, true, true⟩ k).sign [':'] false
  else ((node ((p.indentTo n).sign ['?'] true true) ⟨n, true, false⟩ k).indentTo n).sign [':'] true true

theorem mapping_cons (k v : Form) (es : List (Form × Form)) :
    mapping p n ((k, v) :: es) = mapping (node (keyed p n k) ⟨n, true, false⟩ v) n es := rfl

/-- How a key stands before its colon, on one line or with a sign of its own. -/
def KeyStands (sound : Bool) (n : Nat) (k : Form) (t : List Char) : Prop :=
  if isSimpleKey k then Form.KeyLaid sound n k t
  else ∃ u, t = '?' :: (u ++ freshLine n) ∧ k.Laid sound n false u

theorem exists_keyed (cs : List Char) (hx : p.indentTo n = ⟨x, n, true, true⟩)
    (hs : sound = true → Form.keyKeeps n (.scalar none .str cs) = true) :
    ∃ t, (keyed p n (.scalar none .str cs)).text = (t ++ [':']).reverse ++ x ∧
      KeyStands sound n (.scalar none .str cs) t ∧
      Ready n (isSimpleKey (.scalar none .str cs)) (keyed p n (.scalar none .str cs)) := by
  simp only [keyed, KeyStands]
  cases hkey : isSimpleKey (.scalar none .str cs) with
  | true =>
    simp only [Form.keyKeeps, hkey] at hs
    simp only [if_true]
    obtain ⟨t, h1, h2⟩ := wrote_key true hkey (p := p.indentTo n) (by rw [hx]) hs
    rw [hx] at h1 ⊢
    refine ⟨t, ?_, h2, ⟨rfl, by simp, fun h => nomatch h⟩⟩
    rw [Page.text_sign_close, h1.text]
    simp
  | false =>
    simp only [Form.keyKeeps, hkey] at hs
    simp only [Bool.false_eq_true, if_false]
    obtain ⟨u, h1, h2⟩ := wrote_scalar true (.inl rfl) (ready_signed '?' n x) hs
    rw [sign_of_indentTo hx, sign_of_indentTo (h1.indentTo n)]
    refine ⟨_, ?_, ⟨u, rfl, h2⟩, ready_signed ..⟩
    simp [signed]

mutual

/-- **How a basic value is written** after a sign of a collection. -/
theorem exists_node : ∀ (f : Form) (inMapping : Bool), f.IsBasic → ∀ {n : Nat} {below : Bool} {p : Page},
    Ready n below p → (below = true → inMapping = true) → (sound = true → f.keeps n below = true) →
      ∃ t, Wrote (node p ⟨n, inMapping, false⟩ f) p.text t ∧ f.Laid sound n below t
  | .scalar _ tag cs, inMapping, ⟨ha, hb⟩, n, below, p, hp, _, hs => by
    subst ha
    exact wrote_scalar inMapping hb hp hs
  | .sequence _ fs, inMapping, ⟨ha, hb⟩, n, below, p, hp, hm, hs => by
    subst ha
    by_cases hne : fs = []
    · subst hne
      exact ⟨_, wrote_brackets '[' ']' hp.spaced, rfl⟩
    · obtain ⟨t, h1, h2⟩ := exists_sequence fs hne hb
        (indentTo_of_ready hp (m := itemIndent n below) (by rintro rfl; rfl)) hs
      rw [node_sequence hp hm hne]
      exact ⟨_, h1.append, laid_sequence hne h2⟩
  | .mapping _ tag es, inMapping, ⟨ha, htag, hb⟩, n, below, p, hp, _, hs => by
    subst ha htag
    by_cases hne : es = []
    · subst hne
      exact ⟨_, wrote_brackets '\x7b' '\x7d' hp.spaced, rfl, rfl⟩
    · obtain ⟨t, h1, h2⟩ := exists_mapping es hne hb (indentTo_of_ready hp fun _ => rfl) hs
      rw [node_mapping hne]
      exact ⟨_, h1.append, laid_mapping hne h2⟩

/-- **How the items of a sequence are written.** -/
theorem exists_sequence : ∀ (fs : List Form), fs ≠ [] → Form.AreBasic fs → ∀ {n : Nat} {p : Page}
    {x : List Char}, p.indentTo n = ⟨x, n, true, true⟩ → (sound = true → Form.itemsKeep n fs = true) →
      ∃ t, Wrote (sequence p n fs) x t ∧ Form.ItemsLaid sound n fs (freshLine n ++ t)
  | f :: fs, _, ⟨hf, hfs⟩, n, p, x, hx, hs => by
    have hs : (sound = true → f.keeps n false = true) ∧ (sound = true → Form.itemsKeep n fs = true) := by
      simp only [Form.itemsKeep, Bool.and_eq_true] at hs
      exact ⟨fun h => (hs h).1, fun h => (hs h).2⟩
    obtain ⟨u, hu, hlaid⟩ := exists_node f false hf (ready_signed '-' n x) (fun h => nomatch h) hs.1
    simp only [sequence, sign_of_indentTo hx]
    by_cases hne : fs = []
    · subst hne
      refine ⟨'-' :: u, ⟨?_, hu.indenting⟩, u, [], by simp, hlaid, rfl⟩
      simpa [sequence, signed] using hu.text
    · obtain ⟨t, h1, h2⟩ := exists_sequence fs hne hfs (hu.indentTo n) hs.2
      refine ⟨'-' :: (u ++ (freshLine n ++ t)), ⟨?_, h1.indenting⟩, u, _, by simp, hlaid, h2⟩
      simpa [signed] using h1.text

/-- **How the entries of a mapping are written.** -/
theorem exists_mapping : ∀ (es : List (Form × Form)), es ≠ [] → Form.EntriesAreBasic es →
    ∀ {n : Nat} {p : Page} {x : List Char}, p.indentTo n = ⟨x, n, true, true⟩ →
      (sound = true → Form.entriesKeep n es = true) →
      ∃ t, Wrote (mapping p n es) x t ∧ Form.EntriesLaid sound n es (freshLine n ++ t)
  | (k, v) :: es, _, ⟨⟨cs, hk⟩, hv, hes⟩, n, p, x, hx, hs => by
    subst hk
    have hs : (sound = true → Form.keyKeeps n (.scalar none .str cs) = true) ∧
        (sound = true → v.keeps n (isSimpleKey (.scalar none .str cs)) = true) ∧
        (sound = true → Form.entriesKeep n es = true) := by
      simp only [Form.entriesKeep, Bool.and_eq_true] at hs
      exact ⟨fun h => (hs h).1.1, fun h => (hs h).1.2, fun h => (hs h).2⟩
    obtain ⟨key, htext, hkey, hready⟩ := exists_keyed cs hx hs.1
    obtain ⟨u, hu, hlaid⟩ := exists_node v true hv hready (fun _ => rfl) hs.2.1
    rw [htext] at hu
    have hentry : ∀ w, Form.EntriesLaid sound n es w → Form.EntriesLaid sound n
        ((.scalar none .str cs, v) :: es) (freshLine n ++ (key ++ ':' :: (u ++ w))) := by
      intro w hw
      refine ⟨key, u, w, rfl, hw, ?_⟩
      rw [KeyStands] at hkey
      cases hsimple : isSimpleKey (.scalar none .str cs) with
      | true =>
        rw [hsimple] at hkey hlaid
        exact .inl ⟨hkey, hlaid⟩
      | false =>
        rw [hsimple] at hkey hlaid
        obtain ⟨q, hq, hk⟩ := hkey
        exact .inr ⟨q, hq, hk, hlaid⟩
    rw [mapping_cons]
    by_cases hne : es = []
    · subst hne
      exact ⟨_, hu.append, by simpa using hentry [] rfl⟩
    · obtain ⟨t, h1, h2⟩ := exists_mapping es hne hes (hu.append.indentTo n) hs.2.2
      refine ⟨_, h1.append, ?_⟩
      simpa using hentry _ h2

end

end Render

/-! ## Texts -/

/-- The form of the entries of a mapping that nothing is written before. -/
def entryForms (es : Entries) : List (Form × Form) :=
  (Form.ofEntries ⟨Anchors.ofValue (.map none es), []⟩ es).1

/-- Do all texts in a mapping read back from its text? -/
def keeps (es : Entries) : Bool := Form.entriesKeep 0 (entryForms es)

/-- **The text of a mapping**: its entries laid out from column zero. -/
theorem exists_render {es : Entries} (sound : Bool) (hne : es ≠ [])
    (hb : Value.entriesAreBasic es = true) (hs : sound = true → keeps es = true) :
    ∃ t, render es = t ++ ['\n'] ∧
      Form.EntriesLaid sound 0 (entryForms es) (freshLine 0 ++ t) := by
  have hforms : entryForms es ≠ [] := by
    match es, hne with
    | (k, v) :: es, _ => exact List.cons_ne_nil _ _
  obtain ⟨t, h1, h2⟩ := Render.exists_mapping (entryForms es) hforms
    (Form.entriesAreBasic_ofEntries _ es hb) (p := .empty) rfl hs
  have hrender : render es = ((Render.mapping .empty 0 (entryForms es)).indentTo 0).text.reverse := rfl
  refine ⟨t, ?_, h2⟩
  rw [hrender, h1.indentTo]
  simp [freshLine]

end Folio.Yaml
