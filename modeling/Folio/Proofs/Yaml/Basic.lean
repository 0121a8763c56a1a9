/-
  Folio — basic values.

  A basic value is null, a truth value, an integer, a text, a list of basic values or
  a mapping of different texts to basic values.  Nothing in it is shared, so its form
  has no anchors, and its scalars need no tags: what is not a text reads back as what
  it is without quotes.

  * `Value.isBasic`, `Form.IsBasic`: basic values and their forms;
  * `Form.isBasic_ofValueAt`: the form of a basic value.
-/
import Folio.Proofs.Number.Decimal
import Folio.Yaml.Conversion
import Folio.Yaml.Style

namespace Folio.Value

/-- Is the key a text that is none of the other keys? -/
def isFreshKey (key : Value) (es : Entries) : Bool :=
  match key with
  | .text _ => !es.any fun e => e.1.same key
  | _ => false

mutual

/-- Is the value basic? -/
def isBasic : Value → Bool
  | .null | .bool _ | .int _ | .text _ => true
  | .list none items => areBasic items
  | .map none es => entriesAreBasic es
  | _ => false

/-- Are the values basic? -/
def areBasic : List Value → Bool
  | [] => true
  | v :: vs => isBasic v && areBasic vs

/-- Are the keys different texts and the values basic? -/
def entriesAreBasic : List (Value × Value) → Bool
  | [] => true
  | (k, v) :: es => isFreshKey k es && isBasic v && entriesAreBasic es

end

theorem isFreshKey_iff {key : Value} {es : Entries} :
    isFreshKey key es = true ↔ ∃ s, key = .text s ∧ ∀ e ∈ es, e.1.same (.text s) = false := by
  cases key <;> simp [isFreshKey]

theorem areBasic_cons {v : Value} {vs : List Value} :
    areBasic (v :: vs) = true ↔ v.isBasic = true ∧ areBasic vs = true := by
  simp [areBasic]

theorem entriesAreBasic_cons {k v : Value} {es : Entries} :
    entriesAreBasic ((k, v) :: es) = true ↔
      (∃ s, k = .text s ∧ ∀ e ∈ es, e.1.same (.text s) = false) ∧ v.isBasic = true ∧
        entriesAreBasic es = true := by
  rw [entriesAreBasic, Bool.and_eq_true, Bool.and_eq_true, isFreshKey_iff, and_assoc]

end Folio.Value

namespace Folio.Yaml

/-! ## The texts of integers -/

/-- A number with more than one digit does not start with a zero. -/
theorem head?_decimalText {n : Nat} (hn : n ≠ 0) : (Text.decimalText n).head? ≠ some '0' := by
  induction n using Nat.strongRecOn with
  | ind n ih =>
    rw [Text.decimalText]
    by_cases h : n < 10
    · have hall : ∀ d : Fin 10, d.val ≠ 0 → d.val.digitChar ≠ '0' := by decide
      rw [Nat.toDigits_of_lt_base h]
      simpa using hall ⟨n, h⟩ hn
    · rw [Nat.toDigits_of_base_le (by decide) (by omega),
        List.head?_append_of_ne_nil _ Nat.toDigits_ne_nil]
      exact ih _ (by omega) (by omega)

theorem intText_eq_decimal (i : Int) : intText i = Number.decimal i := by
  rw [intText, Number.decimal]
  split <;> rfl

/-- Digits that a number consists of. -/
structure IsDecimal (cs : List Char) : Prop where
  digits : ∀ c ∈ cs, c.isDigit = true
  ne_nil : cs ≠ []
  zero : cs.head? = some '0' → cs = ['0']

theorem isDecimal_decimalText (n : Nat) : IsDecimal (Text.decimalText n) where
  digits _ := Number.isDigit_of_mem_decimalText
  ne_nil := Nat.toDigits_ne_nil
  zero h := by
    by_cases hn : n = 0
    · subst hn
      rfl
    · exact absurd h (head?_decimalText hn)

/-- An integer is its digits, which a sign may come before. -/
theorem exists_intText (i : Int) :
    ∃ ds, IsDecimal ds ∧ (intText i = ds ∨ intText i = '-' :: ds) := by
  refine ⟨_, isDecimal_decimalText i.natAbs, ?_⟩
  rw [intText]
  split
  · exact .inr rfl
  · exact .inl rfl

theorem intText_ne_nil (i : Int) : intText i ≠ [] := by
  obtain ⟨ds, ⟨-, hne, -⟩, h | h⟩ := exists_intText i
  · rwa [h]
  · rw [h]
    exact List.cons_ne_nil _ _

theorem isAsciiDigit_of_isDigit {c : Char} (h : c.isDigit = true) : Text.isAsciiDigit c = true := by
  simpa [Char.isDigit, Text.isAsciiDigit, Char.le_def] using h

/-- A text of digits and no sign is an integer to a reader of scalars. -/
theorem isInt_of_isDecimal {ds : List Char} (h : IsDecimal ds) :
    Tag.dropSign ds = ds ∧ Tag.isInt ds = true := by
  obtain ⟨hdigits, hne, hzero⟩ := h
  obtain ⟨d, ds, rfl⟩ := List.exists_cons_of_ne_nil hne
  have hd := hdigits d List.mem_cons_self
  have hm : d ≠ '-' := Number.ne_of_isDigit hd (by decide)
  have hp : d ≠ '+' := Number.ne_of_isDigit hd (by decide)
  have hdrop : Tag.dropSign (d :: ds) = d :: ds := by simp [Tag.dropSign, hm, hp]
  refine ⟨hdrop, ?_⟩
  have hall : ∀ c ∈ ds, Tag.isSpacedDigit c = true := fun c hc => by
    simp [Tag.isSpacedDigit, isAsciiDigit_of_isDigit (hdigits c (List.mem_cons_of_mem _ hc))]
  rw [Tag.isInt, hdrop]
  split
  · rename_i rest heq
    obtain ⟨rfl, rfl⟩ := List.cons.inj heq
    obtain ⟨-, rfl⟩ := List.cons.inj (hzero rfl)
    rfl
  · rename_i d' rest' _ heq
    obtain ⟨rfl, rfl⟩ := List.cons.inj heq
    simp [isAsciiDigit_of_isDigit hd, List.all_eq_true.2 hall]
  · rename_i heq
    cases heq

theorem mem_intText {i : Int} {c : Char} (h : c ∈ intText i) : c = '-' ∨ c.isDigit = true :=
  Number.mem_decimal (intText_eq_decimal i ▸ h)

theorem not_mem_intText {i : Int} {c : Char} (hm : c ≠ '-') (hd : c.isDigit = false) :
    c ∉ intText i :=
  intText_eq_decimal i ▸ Number.not_mem_decimal hm hd

/-- Without quotes the text of an integer stands for an integer. -/
theorem ofPlain_intText (timestamps : Bool) (i : Int) :
    Tag.ofPlain timestamps (intText i) = .int := by
  have hend : Tag.dropFinalBreak (intText i) = intText i := by
    rw [Tag.dropFinalBreak, if_neg]
    intro h
    simp only [Bool.and_eq_true, beq_iff_eq] at h
    exact not_mem_intText (by decide) (by decide) (List.mem_of_getLast? h.1)
  have hfloat : Tag.isFloat (intText i) = false := by
    have hpoint : (Tag.dropSign (intText i)).dropWhile (· != '.') = [] := by
      refine List.dropWhile_eq_nil_iff.2 fun c hc => ?_
      have hmem : c ∈ intText i := by
        unfold Tag.dropSign at hc
        split at hc
        · split at hc
          · simp [*]
          · simpa [*] using hc
        · cases hc
      rcases mem_intText hmem with rfl | hd
      · rfl
      · simpa using Number.ne_of_isDigit hd (d := '.') (by decide)
    rw [Tag.isFloat, Tag.splitPoint?, hpoint]
  obtain ⟨ds, hds, htext⟩ := exists_intText i
  obtain ⟨hdrop, hint⟩ := isInt_of_isDecimal hds
  have hint : Tag.isInt (intText i) = true := by
    rcases htext with h | h
    · rw [h, hint]
    · rw [h, Tag.isInt, show Tag.dropSign ('-' :: ds) = ds from rfl]
      rwa [Tag.isInt, hdrop] at hint
  have htruth : Tag.truthWords.contains (String.ofList (intText i)) = false := by
    -- no word for a truth value starts as an integer does
    have hall : ∀ w ∈ Tag.truthWords, ∀ c ∈ w.toList.head?, c ≠ '-' ∧ c.isDigit = false := by
      simp [Tag.truthWords]
    obtain ⟨c, hc⟩ : ∃ c, (intText i).head? = some c := by
      obtain ⟨d, ds, rfl⟩ := List.exists_cons_of_ne_nil hds.ne_nil
      rcases htext with h | h <;> exact ⟨_, by rw [h]; rfl⟩
    rw [Bool.eq_false_iff]
    intro hmem
    obtain ⟨hm, hd⟩ := hall _ (List.contains_iff_mem.1 hmem) c (by rw [String.toList_ofList, hc]; rfl)
    rcases mem_intText (List.mem_of_head? hc) with h | h
    · exact hm h
    · rw [hd] at h
      cases h
  rw [Tag.ofPlain]
  simp only [hend, htruth, hfloat, hint, Bool.false_eq_true, if_false, if_true]

theorem magnitude_decimalText {n : Nat} (h : (Text.decimalText n).length ≤ Number.maxDigits) :
    Conversion.magnitude (Text.decimalText n) = .ok (n : Int) := by
  have hread : Conversion.intIn 10 (Text.decimalText n) = .ok (n : Int) := by
    have := Number.readInt_decimal (i := n) h
    rw [Number.decimal, if_neg (by omega)] at this
    rw [Conversion.intIn, show Text.decimalText n = Text.decimalText (n : Int).natAbs from rfl, this]
    rfl
  have hcolon : (Text.decimalText n).contains ':' = false := by
    rw [Bool.eq_false_iff]
    intro hc
    exact absurd (Number.isDigit_of_mem_decimalText (List.contains_iff_mem.1 hc)) (by decide)
  by_cases hn : n = 0
  · subst hn
    rfl
  · have hzero := head?_decimalText hn
    unfold Conversion.magnitude
    split
    · rename_i heq
      exact absurd heq Nat.toDigits_ne_nil
    · rename_i heq
      rw [heq] at hzero
      exact absurd rfl hzero
    · rename_i heq
      rw [heq] at hzero
      exact absurd rfl hzero
    · rename_i heq
      rw [heq] at hzero
      exact absurd rfl hzero
    · rename_i heq
      rw [heq] at hzero
      exact absurd rfl hzero
    · rw [hcolon]
      exact hread

/-- The text of an integer is converted back. -/
theorem int_intText {i : Int} (h : (Text.decimalText i.natAbs).length ≤ Number.maxDigits) :
    Conversion.int (intText i) = .ok i := by
  have hfilter : (intText i).filter (· != '_') = intText i := by
    refine List.filter_eq_self.2 fun c hc => ?_
    rcases mem_intText hc with rfl | hd
    · rfl
    · simpa using Number.ne_of_isDigit hd (d := '_') (by decide)
  have hmag := magnitude_decimalText h
  rw [Conversion.int, hfilter, intText]
  by_cases hi : i < 0
  · rw [if_pos hi]
    change (Conversion.magnitude (Text.decimalText i.natAbs)).map (- ·) = _
    rw [hmag]
    have : -(i.natAbs : Int) = i := by omega
    exact congrArg Except.ok this
  · rw [if_neg hi, List.nil_append]
    have hi' : (i.natAbs : Int) = i := by omega
    split
    · rename_i heq
      exact absurd (Number.isDigit_of_mem_decimalText (heq ▸ List.mem_cons_self)) (by decide)
    · rename_i heq
      exact absurd (Number.isDigit_of_mem_decimalText (heq ▸ List.mem_cons_self)) (by decide)
    · rw [hmag, hi']

/-! ## Scalars that need no quotes -/

theorem Look.hasPair_eq_false {p q : Char → Bool} {cs : List Char} (h : ∀ c ∈ cs, p c = false) :
    Look.hasPair p q cs = false := by
  induction cs with
  | nil => rfl
  | cons c cs ih =>
    cases cs with
    | nil => rfl
    | cons d cs =>
      rw [Look.hasPair, h c List.mem_cons_self, ih fun x hx => h x (List.mem_cons_of_mem _ hx)]
      rfl

theorem Look.hasIndicator_eq_false {cs : List Char} (h : ∀ c ∈ cs, c ≠ ':' ∧ c ≠ '#') (before : Char) :
    Look.hasIndicator before cs = false := by
  induction cs generalizing before with
  | nil => rfl
  | cons c cs ih =>
    have hc := h c List.mem_cons_self
    rw [Look.hasIndicator, ih fun x hx => h x (List.mem_cons_of_mem _ hx)]
    simp [hc.1, hc.2]

/-- The text of an integer can stand without quotes. -/
theorem plain_intText (i : Int) : (Look.ofText (intText i)).plain = true := by
  have hspace : ∀ c ∈ intText i, (c == ' ') = false := fun c hc => by
    rcases mem_intText hc with rfl | hd
    · rfl
    · simpa using Number.ne_of_isDigit hd (d := ' ') (by decide)
  have hbreak : ∀ c ∈ intText i, isInnerBreak c = false := fun c hc => by
    rcases mem_intText hc with rfl | hd
    · rfl
    · have hne := fun d hd' => Number.ne_of_isDigit hd (d := d) hd'
      simp [isInnerBreak, hne '\n' (by decide), hne '\u0085' (by decide), hne '\u2028' (by decide),
        hne '\u2029' (by decide)]
  have hordinary : ∀ c ∈ intText i, Look.isOrdinary c = true := fun c hc => by
    rcases mem_intText hc with rfl | hd
    · rfl
    · have := Number.toNat_of_isDigit hd
      simp only [Look.isOrdinary, Bool.or_eq_true, Bool.and_eq_true, decide_eq_true_eq]
      omega
  have hsign : ∀ c ∈ intText i, c ≠ ':' ∧ c ≠ '#' := fun c hc => by
    rcases mem_intText hc with rfl | hd
    · decide
    · exact ⟨Number.ne_of_isDigit hd (by decide), Number.ne_of_isDigit hd (by decide)⟩
  have hstart : Look.startsWithIndicator (intText i) = false := by
    obtain ⟨ds, ⟨hdigits, hne, -⟩, htext⟩ := exists_intText i
    obtain ⟨d, ds, rfl⟩ := List.exists_cons_of_ne_nil hne
    have hd := hdigits d List.mem_cons_self
    have hne := fun x hx => Number.ne_of_isDigit hd (d := x) hx
    rcases htext with h | h
    · rw [h]
      simp [Look.startsWithIndicator, hne]
    · rw [h]
      simp [Look.startsWithIndicator, Look.blankAt, isBreak, hne]
  cases hcs : intText i with
  | nil => exact absurd hcs (intText_ne_nil i)
  | cons c cs =>
    rw [hcs] at hspace hbreak hordinary hsign hstart
    have hlast : ∀ x, x = ((c :: cs).getLast?).getD c → x ∈ c :: cs := by
      rintro x rfl
      rw [List.getLast?_eq_some_getLast (List.cons_ne_nil _ _), Option.getD_some]
      exact List.getLast_mem _
    have hlast := hlast _ rfl
    have hspecial : ((c :: cs).any fun x => !Look.isOrdinary x) = false :=
      List.any_eq_false.2 fun x hx => by simp [hordinary x hx]
    have hbreaks : (c :: cs).any isInnerBreak = false :=
      List.any_eq_false.2 fun x hx => by simp [hbreak x hx]
    have hc := List.mem_cons_self (a := c) (l := cs)
    simp only [Look.ofText, hspace _ hc, hbreak _ hc, hspace _ hlast, hbreak _ hlast, hspecial, hbreaks,
      hstart, Look.hasPair_eq_false hbreak, Look.hasPair_eq_false hspace,
      Look.hasIndicator_eq_false (fun x hx => hsign x (List.mem_cons_of_mem _ hx)), Bool.or_false,
      Bool.not_false]

/-- A scalar that is no timestamp reads the same whether or not timestamps count. -/
theorem ofPlain_eq {cs : List Char} (h : Tag.ofPlain true cs ≠ .timestamp) :
    Tag.ofPlain false cs = Tag.ofPlain true cs := by
  simp only [Tag.ofPlain, Bool.true_and, Bool.false_and, Bool.false_eq_true, if_false] at h ⊢
  split
  · rfl
  · split
    · rfl
    · split
      · rfl
      · split
        · rfl
        · split
          · rfl
          · rename_i h₁ h₂ h₃ h₄ h₅
            simp only [h₁, h₂, h₃, h₄, h₅, Bool.false_eq_true, if_false] at h
            split at h
            · exact absurd rfl h
            · rename_i h₆
              simp only [h₆, Bool.false_eq_true, if_false]

/-! ## Forms -/

namespace Form

/-- A scalar of a basic value: a text, or something else that reads back without
    quotes. -/
def IsBasicScalar (tag : Tag) (cs : List Char) : Prop :=
  tag = .str ∨ tag ≠ .binary ∧ tag ≠ .timestamp ∧ Tag.ofPlain true cs = tag ∧ cs ≠ [] ∧
    (Look.ofText cs).plain = true

mutual

/-- The form of a basic value: it has no anchors, and all its keys are texts. -/
def IsBasic : Form → Prop
  | .alias _ => False
  | .scalar anchor tag cs => anchor = none ∧ IsBasicScalar tag cs
  | .sequence anchor fs => anchor = none ∧ AreBasic fs
  | .mapping anchor tag es => anchor = none ∧ tag = .map ∧ EntriesAreBasic es

/-- The forms of basic values. -/
def AreBasic : List Form → Prop
  | [] => True
  | f :: fs => IsBasic f ∧ AreBasic fs

/-- The forms of entries with texts as keys. -/
def EntriesAreBasic : List (Form × Form) → Prop
  | [] => True
  | (k, v) :: es => (∃ cs, k = .scalar none .str cs) ∧ IsBasic v ∧ EntriesAreBasic es

end

variable (w : Written)

/-! Nothing is noted of a basic value, since nothing in it is shared. -/

mutual

theorem written_value : ∀ v : Value, v.isBasic = true → (ofValueAt w v).2 = w
  | .null, _ | .bool _, _ | .int _, _ | .text _, _ => rfl
  | .list none items, h => written_items items h
  | .map none es, h => written_entries es h

theorem written_items : ∀ vs : List Value, Value.areBasic vs = true → (ofItems w vs).2 = w
  | [], _ => rfl
  | v :: vs, h => by
    obtain ⟨hv, hvs⟩ := Value.areBasic_cons.1 h
    simp only [ofItems, written_value v hv, written_items vs hvs]

theorem written_entries : ∀ es : Entries, Value.entriesAreBasic es = true → (ofEntries w es).2 = w
  | [], _ => rfl
  | (k, v) :: es, h => by
    obtain ⟨⟨s, rfl, -⟩, hv, hes⟩ := Value.entriesAreBasic_cons.1 h
    simp only [ofEntries, ofValueAt, written_value v hv, written_entries es hes]

end

theorem ofValueAt_list (items : List Value) :
    ofValueAt w (.list none items) = (.sequence none (ofItems w items).1, (ofItems w items).2) :=
  rfl

theorem ofValueAt_map (es : Entries) :
    ofValueAt w (.map none es) = (.mapping none .map (ofEntries w es).1, (ofEntries w es).2) :=
  rfl

theorem ofItems_cons {v : Value} {vs : List Value} (h : v.isBasic = true) :
    (ofItems w (v :: vs)).1 = (ofValueAt w v).1 :: (ofItems w vs).1 := by
  simp only [ofItems, written_value w v h]

theorem ofEntries_cons {s : String} {v : Value} {es : Entries} (h : v.isBasic = true) :
    (ofEntries w ((.text s, v) :: es)).1 =
      (.scalar none .str s.toList, (ofValueAt w v).1) :: (ofEntries w es).1 := by
  simp only [ofEntries, ofValueAt, written_value w v h]

mutual

/-- The form of a basic value. -/
theorem isBasic_ofValueAt : ∀ v : Value, v.isBasic = true → (ofValueAt w v).1.IsBasic
  | .null, _ => ⟨rfl, .inr ⟨by decide, by decide, by decide +kernel, by decide, by decide +kernel⟩⟩
  | .bool b, _ => by
    cases b
    · exact ⟨rfl, .inr ⟨by decide, by decide, by decide +kernel, by decide, by decide +kernel⟩⟩
    · exact ⟨rfl, .inr ⟨by decide, by decide, by decide +kernel, by decide, by decide +kernel⟩⟩
  | .int i, _ =>
    ⟨rfl, .inr ⟨by decide, by decide, ofPlain_intText true i, intText_ne_nil i, plain_intText i⟩⟩
  | .text _, _ => ⟨rfl, .inl rfl⟩
  | .list none items, h => ⟨rfl, areBasic_ofItems items h⟩
  | .map none es, h => ⟨rfl, rfl, entriesAreBasic_ofEntries es h⟩

theorem areBasic_ofItems : ∀ vs : List Value, Value.areBasic vs = true → AreBasic (ofItems w vs).1
  | [], _ => trivial
  | v :: vs, h => by
    obtain ⟨hv, hvs⟩ := Value.areBasic_cons.1 h
    rw [ofItems_cons w hv]
    exact ⟨isBasic_ofValueAt v hv, areBasic_ofItems vs hvs⟩

theorem entriesAreBasic_ofEntries : ∀ es : Entries, Value.entriesAreBasic es = true →
    EntriesAreBasic (ofEntries w es).1
  | [], _ => trivial
  | (k, v) :: es, h => by
    obtain ⟨⟨s, rfl, -⟩, hv, hes⟩ := Value.entriesAreBasic_cons.1 h
    rw [ofEntries_cons w hv]
    exact ⟨⟨_, rfl⟩, isBasic_ofValueAt v hv, entriesAreBasic_ofEntries es hes⟩

end

end Form

end Folio.Yaml
