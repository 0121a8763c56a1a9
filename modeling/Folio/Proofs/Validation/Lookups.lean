/-
  Folio — lookups that can miss.

  A check looks up cells by their columns, sections and tables by their places and the
  first word of a text.  In this module such a lookup breaks off where there is nothing
  (`Miss`).  In a body that is read there is something everywhere (`Body.Whole`), and the
  lookups come to what the checks go by.

  * `Body.whole_of_parse`: the bodies of documents;
  * `Strict.column?_eq`, `Strict.find?_eq`, `Strict.table?_eq`: cells, sections and tables;
  * `Strict.languageOf_eq`: the first word of a text.
-/
import Folio.Proofs.Body.Columns
import Folio.Proofs.Body.Owners
import Folio.Proofs.Schema.Sound
import Folio.Validation.Section

namespace Folio

/-- What a lookup can miss. -/
inductive Miss where
  /-- A key that has no value. -/
  | key
  /-- A place beyond the last. -/
  | place
  /-- A value of the kind that is asked for. -/
  | kind
  deriving Repr, DecidableEq

/-! ## Bodies -/

/-- The links of a body lead to sections and tables that are there, and the rows of the
    tables have a cell for each column. -/
structure Body.Whole (b : Body) : Prop where
  children : ∀ s ∈ b.sections, ∀ i ∈ s.children, i < b.sections.length
  tables : ∀ s ∈ b.sections, ∀ i ∈ s.tables, i < b.tables.length
  full : ∀ t ∈ b.tables, t.Full

theorem Body.whole_ofOctets (octets : Octets) : (ofOctets octets).Whole where
  children s hs i hi := by
    obtain ⟨j, hj⟩ := List.mem_iff_getElem?.1 hs
    obtain ⟨c, hc, -⟩ := (((isHeadingTree_ofOctets octets).children hj).2 i).1 hi
    exact (List.getElem?_eq_some_iff.1 hc).1
  tables s hs i hi := by
    obtain ⟨j, hj⟩ := List.mem_iff_getElem?.1 hs
    obtain ⟨t, ht, -⟩ := (((isHeadingTree_ofOctets octets).tables hj).2 i).1 hi
    exact (List.getElem?_eq_some_iff.1 ht).1
  full _ ht := full_ofOctets ht

/-- **The bodies of documents** miss nothing. -/
theorem Body.whole_of_parse {raw : Octets} {path : Option String} {d : Document}
    (h : Document.parse raw path = .ok d) : d.body.Whole :=
  Document.body_of_parse h ▸ whole_ofOctets _

/-- The words of a text, which blank characters part. -/
def Text.words (cs : List Char) : List (List Char) := (cs.splitOnP isBlank).filter (!·.isEmpty)

namespace Strict

/-! ## Looking up -/

/-- What is there; the lookup breaks off if nothing is. -/
def get {α : Type} (miss : Miss) : Option α → Except Miss α
  | some a => .ok a
  | none => .error miss

theorem get_eq_ok {α : Type} (miss : Miss) {o : Option α} {a : α} (h : o = some a) :
    get miss o = .ok a := by rw [h, get]

theorem mapM_eq_map {α β : Type} {f : α → Except Miss β} {g : α → β} {as : List α}
    (h : ∀ a ∈ as, f a = .ok (g a)) : as.mapM f = .ok (as.map g) :=
  mapM_eq_ok_iff.2 (List.forall₂_map_right_iff.2 (List.forall₂_same.2 h))

/-- The cells under a column, row by row; nothing if there is no such column. -/
def column? (t : Table) (name : String) : Except Miss (Option (List String)) :=
  if t.columns.contains name then
    return some (← t.rows.mapM fun r => get .key (r.get? name))
  else return none

/-- The first of the sections at some places with a heading. -/
def childNamed? (b : Body) (heading : String) : List Nat → Except Miss (Option Section)
  | [] => return none
  | i :: places => do
    let s ← get .place b.sections[i]?
    if s.heading == heading then return some s else childNamed? b heading places

/-- The section that the headings lead to from a section. -/
def descend? (b : Body) : List String → Section → Except Miss (Option Section)
  | [], s => return some s
  | heading :: path, s => do
    match ← childNamed? b heading s.children with
    | none => return none
    | some c => descend? b path c

/-- The section with a path of headings. -/
def find? (b : Body) : List String → Except Miss (Option Section)
  | [] => return none
  | heading :: path =>
    match (Body.firstNamed? b.roots heading).or (Body.firstNamed? b.sections heading) with
    | none => return none
    | some s => descend? b path s

/-- The table at a place among those that a section holds itself. -/
def table? (b : Body) (s : Section) (index : Nat) : Except Miss (Option Table) :=
  if s.tables.length ≤ index then return none
  else do
    let i ← get .place s.tables[index]?
    return some (← get .place b.tables[i]?)

/-- The language of a code block: the first word of its info, in lowercase. -/
def languageOf (info : String) : Except Miss String :=
  if Text.allBlank info.toList then return ""
  else do
    let word ← get .place (Text.words info.toList)[0]?
    return String.ofList (Text.lower word)

/-! ## Nothing is missed -/

/-- **Cells.** -/
theorem column?_eq {t : Table} (h : t.Full) (name : String) :
    column? t name = .ok (t.column? name) := by
  unfold column? Table.column?
  split
  · next hname =>
    have hrows : t.rows.mapM (fun r => get .key (r.get? name)) =
        .ok (t.rows.map fun r => (r.get? name).getD "") := by
      refine mapM_eq_map fun r hr => get_eq_ok .key ?_
      obtain ⟨cell, hcell⟩ :=
        Option.isSome_iff_exists.1 (h r hr name (List.contains_iff_mem.1 hname))
      rw [hcell, Option.getD_some]
    rw [hrows]
    rfl
  · rfl

section
variable {b : Body} {s t : Section}

theorem mem_of_firstNamed? {ss : List Section} {heading : String}
    (h : Body.firstNamed? ss heading = some t) : t ∈ ss := List.mem_of_find?_eq_some h

theorem mem_of_mem_children (h : t ∈ b.children s) : t ∈ b.sections := by
  obtain ⟨i, -, hi⟩ := List.mem_filterMap.1 h
  exact List.mem_of_getElem? hi

theorem mem_of_descend? {path : List String} (hs : s ∈ b.sections)
    (h : b.descend? path s = some t) : t ∈ b.sections := by
  induction path generalizing s with
  | nil => exact Option.some.inj h ▸ hs
  | cons heading path ih =>
    obtain ⟨c, hc, h⟩ := Option.bind_eq_some_iff.1 h
    exact ih (mem_of_mem_children (mem_of_firstNamed? hc)) h

theorem mem_of_first? {heading : String}
    (h : (Body.firstNamed? b.roots heading).or (Body.firstNamed? b.sections heading) = some s) :
    s ∈ b.sections := by
  rcases Option.or_eq_some_iff.1 h with h | ⟨-, h⟩
  · exact List.mem_of_mem_filter (mem_of_firstNamed? h)
  · exact mem_of_firstNamed? h

/-- What is found is a section of the body. -/
theorem mem_of_find? {path : List String} (h : b.find? path = some t) : t ∈ b.sections := by
  cases path with
  | nil => cases h
  | cons heading path =>
    obtain ⟨s, hs, h⟩ := Option.bind_eq_some_iff.1 h
    exact mem_of_descend? (mem_of_first? hs) h

theorem childNamed?_eq (heading : String) {places : List Nat}
    (h : ∀ i ∈ places, i < b.sections.length) : childNamed? b heading places =
      .ok (Body.firstNamed? (places.filterMap (b.sections[·]?)) heading) := by
  induction places with
  | nil => rfl
  | cons i places ih =>
    obtain ⟨hi, hplaces⟩ := List.forall_mem_cons.1 h
    have hat := List.getElem?_eq_getElem hi
    rw [childNamed?, get_eq_ok .place hat, List.filterMap_cons_some hat, Body.firstNamed?,
      List.find?_cons, ih hplaces]
    cases hheading : b.sections[i].heading == heading with
    | true => exact if_pos hheading
    | false => exact if_neg (hheading ▸ Bool.false_ne_true)

theorem descend?_eq (h : b.Whole) (hs : s ∈ b.sections) (path : List String) :
    descend? b path s = .ok (b.descend? path s) := by
  induction path generalizing s with
  | nil => rfl
  | cons heading path ih =>
    rw [descend?, childNamed?_eq heading (h.children s hs), ← Body.children, Body.descend?]
    cases hc : Body.firstNamed? (b.children s) heading with
    | none => rfl
    | some c => exact ih (mem_of_mem_children (mem_of_firstNamed? hc))

/-- **Sections.** -/
theorem find?_eq (h : b.Whole) (path : List String) : find? b path = .ok (b.find? path) := by
  cases path with
  | nil => rfl
  | cons heading path =>
    rw [find?, Body.find?]
    cases hs : (Body.firstNamed? b.roots heading).or (Body.firstNamed? b.sections heading) with
    | none => rfl
    | some s => exact descend?_eq h (mem_of_first? hs) path

theorem getElem?_filterMap_of_isSome {α β : Type} {f : α → Option β} {as : List α}
    (h : ∀ a ∈ as, (f a).isSome = true) (i : Nat) : (as.filterMap f)[i]? = as[i]?.bind f := by
  induction as generalizing i with
  | nil => rfl
  | cons a as ih =>
    obtain ⟨ha, has⟩ := List.forall_mem_cons.1 h
    obtain ⟨x, hx⟩ := Option.isSome_iff_exists.1 ha
    rw [List.filterMap_cons_some hx]
    cases i with
    | zero => exact hx.symm
    | succ i => exact ih has i

/-- **Tables.** -/
theorem table?_eq (h : b.Whole) (hs : s ∈ b.sections) (index : Nat) :
    table? b s index = .ok (b.table? s index) := by
  have hall : ∀ i ∈ s.tables, (b.tables[i]?).isSome = true := fun i hi => by
    simpa using h.tables s hs i hi
  have hat : b.table? s index = s.tables[index]?.bind (b.tables[·]?) := by
    rw [Body.table?, if_neg (by omega), Body.tablesOf, Int.toNat_natCast,
      getElem?_filterMap_of_isSome hall]
  rw [hat, table?]
  split
  · next hle =>
    rw [List.getElem?_eq_none hle]
    rfl
  · next hlt =>
    have hi := List.getElem?_eq_getElem (Nat.lt_of_not_le hlt)
    have ht := List.getElem?_eq_getElem (h.tables s hs _ (List.mem_of_getElem? hi))
    rw [hi, Option.bind_some, ht]
    exact congrArg (· >>= fun t => pure (some t)) (get_eq_ok .place ht)

/-- The tables that a section holds are tables of the body. -/
theorem full_of_table? (h : b.Whole) {index : Int} {t : Table} (ht : b.table? s index = some t) :
    t.Full := by
  unfold Body.table? at ht
  split at ht
  · cases ht
  · obtain ⟨i, -, hi⟩ := List.mem_filterMap.1 (List.mem_of_getElem? ht)
    exact h.full t (List.mem_of_getElem? hi)

end

theorem head?_splitOnP {α : Type} (p : α → Bool) (xs : List α) :
    (xs.splitOnP p).head? = some (xs.takeWhile fun x => !p x) := by
  induction xs with
  | nil => simp
  | cons x xs ih =>
    rw [List.splitOnP_cons_eq_if_modifyHead]
    cases hx : p x <;> simp [hx, ih, List.head?_modifyHead]

/-- The first word of a text starts where it is not blank any more. -/
theorem getElem?_words {cs : List Char} (h : Text.allBlank cs = false) :
    (Text.words cs)[0]? = some ((Text.trimStart cs).takeWhile fun c => !Text.isBlank c) := by
  induction cs with
  | nil => cases h
  | cons c cs ih =>
    cases hc : Text.isBlank c with
    | true =>
      have hcs : Text.allBlank cs = false := by simpa [Text.allBlank, hc] using h
      have hwords : Text.words (c :: cs) = Text.words cs := by
        rw [Text.words, List.splitOnP_cons_eq_if_modifyHead, if_pos hc]
        rfl
      rw [hwords, ih hcs, Text.trimStart, Text.trimStart, List.dropWhile_cons_of_pos hc]
    | false =>
      obtain ⟨words, hwords⟩ := List.head?_eq_some_iff.1 (head?_splitOnP Text.isBlank cs)
      rw [Text.words, List.splitOnP_cons_eq_if_modifyHead, hc, hwords, Text.trimStart,
        List.dropWhile_cons_of_neg (by simp [hc]), List.takeWhile_cons_of_pos (by simp [hc])]
      rfl

/-- **Words.** -/
theorem languageOf_eq (info : String) : languageOf info = .ok (Scope.languageOf info) := by
  unfold languageOf Scope.languageOf
  split
  · next hblank =>
    have hnil : Text.trimStart info.toList = [] :=
      List.dropWhile_eq_nil_iff.2 (List.all_eq_true.1 hblank)
    rw [hnil]
    rfl
  · next hword =>
    rw [getElem?_words (Bool.not_eq_true _ ▸ hword)]
    rfl

end Strict

end Folio
