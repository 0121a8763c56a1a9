/-
  Folio — tables that are written.

  A row is written cell by cell between pipes, with a backslash before each pipe
  inside of a cell.  A cell in which no pipe comes after a backslash already is read
  back from between its pipes: a backslash there escapes what comes after it, which
  is a pipe only if it was written for that, and a space at the latest.

  * `Row.cellsOf_written`: a row that is written is read back;
  * `Row.isSeparator_rule`: what is written below the names separates;
  * `Table.exists_table_of_written`: a text that is a table.
-/
import Folio.Proofs.Body.Moved
import Folio.Proofs.Document.Parse
import Folio.Proofs.Text.Joined
import Folio.Proofs.Text.Trim

namespace Folio

namespace Text

/-- The last element of a list that ends with it and another. -/
theorem endsWith_concat {α : Type} [DecidableEq α] (finish xs : List α) (x : α) :
    endsWith (finish ++ [x]) (xs ++ [x]) = endsWith finish xs := by
  simp [endsWith, dropStart?]

theorem endsWith_singleton {α : Type} [DecidableEq α] {xs : List α} {x : α}
    (h : xs.getLast? ≠ some x) : endsWith [x] xs = false := by
  rcases List.eq_nil_or_concat' xs with rfl | ⟨ys, y, rfl⟩
  · rfl
  · have hy : x ≠ y := by rintro rfl; exact h (by simp)
    simp [endsWith, dropStart?, hy]

end Text

namespace Row

/-! ## Cells -/

/-- A cell that can be written: it is within one line and without blanks at its ends, and no
    pipe comes after a backslash in it. -/
structure IsCell (cell : List Char) : Prop where
  line : '\n' ∉ cell ∧ '\r' ∉ cell
  trimmed : Text.trim cell = cell
  plain : ¬ ['\\', '|'] <:+: cell

/-- The text of a cell with a backslash before each pipe. -/
def escape (cell : List Char) : List Char :=
  cell.flatMap fun c => if c = '|' then ['\\', '|'] else [c]

theorem escape_pipe (cell : List Char) : escape ('|' :: cell) = '\\' :: '|' :: escape cell := rfl

theorem escape_cons {c : Char} (h : c ≠ '|') (cell : List Char) :
    escape (c :: cell) = c :: escape cell := by
  rw [escape, List.flatMap_cons, if_neg h]; rfl

/-- No written cell starts with a pipe. -/
theorem head?_escape_ne (cell : List Char) : (escape cell).head? ≠ some '|' := by
  cases cell with
  | nil => nofun
  | cons c cell =>
    by_cases h : c = '|'
    · subst h; rw [escape_pipe]; simp
    · rw [escape_cons h]; simpa using h

/-- **Pipes are read back.** -/
theorem unescape_escape (cell : List Char) : unescape (escape cell) = cell := by
  rw [unescape, Text.replaceAll]
  induction cell with
  | nil => rfl
  | cons c cell ih =>
    by_cases h : c = '|'
    · subst h
      rw [escape_pipe, Text.replaceFrom, Text.dropStart?, if_pos rfl, Text.dropStart?, if_pos rfl]
      simpa [Text.dropStart?, Text.replaceFrom] using ih
    · have hstart : (Text.dropStart? ['\\', '|'] (c :: escape cell)).isSome = false := by
        cases hd : Text.dropStart? ['\\', '|'] (c :: escape cell) with
        | none => rfl
        | some rest =>
          have he := Text.dropStart?_eq_some_iff.1 hd
          obtain ⟨-, he⟩ := List.cons.inj he
          exact absurd (by rw [he]; rfl) (head?_escape_ne cell)
      rw [escape_cons h, Text.replaceFrom, hstart, if_neg Bool.false_ne_true, ih]

/-- A backslash of a cell that can be written never escapes the pipe after the cell. -/
theorem cut_escape {cell : List Char} (h : ¬ ['\\', '|'] <:+: cell) (rest : List Char) :
    cut (escape cell ++ ' ' :: '|' :: rest) = (escape cell ++ [' ']) :: cut rest := by
  fun_induction cut cell with
  | case1 => simp [escape, cut, cut.before]
  | case2 => simp [escape, cut, cut.before]
  | case3 c cell ih =>
    have hc : c ≠ '|' := by rintro rfl; exact h ⟨[], cell, rfl⟩
    have hcell : ¬ ['\\', '|'] <:+: cell := fun hi =>
      h (hi.trans (List.suffix_append ['\\', c] cell).isInfix)
    rw [escape_cons (by decide), escape_cons hc, List.cons_append, List.cons_append, cut, ih hcell]
    rfl
  | case4 cell ih =>
    have hcell : ¬ ['\\', '|'] <:+: cell := fun hi =>
      h (hi.trans (List.suffix_append ['|'] cell).isInfix)
    rw [escape_pipe, List.cons_append, List.cons_append, cut, ih hcell]
    rfl
  | case5 c cell hend hescape hc ih =>
    have hb : c ≠ '\\' := by
      rintro rfl
      cases cell with
      | nil => exact hend rfl rfl
      | cons d ds => exact hescape d ds rfl rfl
    have hcell : ¬ ['\\', '|'] <:+: cell := fun hi =>
      h (hi.trans (List.suffix_cons c cell).isInfix)
    rw [escape_cons hc, List.cons_append, cut_of_ne hb hc, ih hcell]
    rfl

theorem getLast?_escape (cell : List Char) : (escape cell).getLast? = cell.getLast? := by
  rcases List.eq_nil_or_concat' cell with rfl | ⟨cs, c, rfl⟩
  · rfl
  · rw [escape, List.flatMap_append, List.flatMap_singleton]
    by_cases hc : c = '|' <;> simp [hc]

/-- What is written of a cell, without the spaces around it. -/
theorem IsCell.trim_escape {cell : List Char} (h : IsCell cell) :
    Text.trim (' ' :: (escape cell ++ [' '])) = escape cell := by
  refine Text.trim_spaced (Text.trim_eq_self_iff.2 ?_)
  obtain ⟨hhead, hlast⟩ := Text.trim_eq_self_iff.1 h.trimmed
  rw [getLast?_escape]
  refine ⟨?_, hlast⟩
  cases cell with
  | nil => nofun
  | cons c cell =>
    by_cases hc : c = '|'
    · subst hc
      rintro d ⟨⟩
      decide
    · rw [escape_cons hc]
      exact hhead

/-! ## Rows -/

/-- Does a part of a row end at the pipe after it? -/
def IsWhole (part : List Char) : Prop := ∀ rest, cut (part ++ '|' :: rest) = part :: cut rest

/-- The line of some parts between pipes. -/
def between (parts : List (List Char)) : List Char := '|' :: parts.flatMap (· ++ ['|'])

section
variable {parts : List (List Char)}

theorem cut_between (h : ∀ p ∈ parts, IsWhole p) : cut (between parts) = [] :: (parts ++ [[]]) := by
  rw [between, cut]
  congr 1
  induction parts with
  | nil => rfl
  | cons p parts ih =>
    rw [List.flatMap_cons, List.append_assoc, List.singleton_append, h p List.mem_cons_self,
      ih fun q hq => h q (List.mem_cons_of_mem _ hq)]
    rfl

theorem between_concat (p : List Char) :
    between (parts ++ [p]) = between parts ++ p ++ ['|'] := by
  simp [between]

theorem getLast?_between (parts : List (List Char)) : (between parts).getLast? = some '|' := by
  rcases List.eq_nil_or_concat' parts with rfl | ⟨qs, q, rfl⟩
  · rfl
  · rw [between_concat, List.getLast?_concat]

theorem trim_between (parts : List (List Char)) : Text.trim (between parts) = between parts := by
  refine Text.trim_eq_self_iff.2 ⟨?_, ?_⟩
  · rintro c ⟨⟩
    decide
  · rw [getLast?_between]
    rintro c ⟨⟩
    decide

/-- **The cells of a line of parts between pipes.** -/
theorem cellsOf_between (hne : parts ≠ []) (h : ∀ p ∈ parts, IsWhole p ∧ p.getLast? ≠ some '\\') :
    cellsOf (between parts) = parts.map fun p => unescape (Text.trim p) := by
  obtain ⟨qs, q, rfl⟩ := (List.eq_nil_or_concat' parts).resolve_left hne
  have hlast : (between qs ++ q).getLast? ≠ some '\\' := by
    rw [List.getLast?_append, getLast?_between]
    rcases hq : q.getLast? with _ | c
    · simp
    · have := (h q (by simp)).2
      rw [hq] at this
      simpa using this
  -- the pipe that ends the line is none that a backslash escapes
  have hend : Text.endsWith ['|'] (between (qs ++ [q])) = true ∧
      Text.endsWith ['\\', '|'] (between (qs ++ [q])) = false := by
    rw [between_concat]
    exact ⟨Text.endsWith_concat [] _ '|', (Text.endsWith_concat ['\\'] _ '|').trans
      (Text.endsWith_singleton hlast)⟩
  have hhead : ((between (qs ++ [q])).head? == some '|') = true := rfl
  rw [cellsOf, trim_between, cut_between fun p hp => (h p hp).1]
  simp only [hend.1, hend.2, hhead, if_true, Bool.not_false, Bool.and_true]
  simp [Function.comp_def]

end

/-- A row as it is written. -/
def written (cells : List (List Char)) : List Char :=
  "| ".toList ++ " | ".toList.intercalate (cells.map escape) ++ " |".toList

/-- The line that separates the names of some columns from the rows. -/
def rule (count : Nat) : List Char := '|' :: (List.replicate count "---|".toList).flatten

theorem written_eq_between {cells : List (List Char)} (hne : cells ≠ []) :
    written cells = between (cells.map fun c => ' ' :: (escape c ++ [' '])) := by
  induction cells with
  | nil => exact absurd rfl hne
  | cons c cells ih =>
    cases cells with
    | nil => simp [written, between]
    | cons d cells =>
      have ih := ih (List.cons_ne_nil _ _)
      simp only [written, between, List.map_cons, List.flatMap_cons, List.intercalate_cons_cons] at ih ⊢
      simpa using ih

theorem rule_eq_between (count : Nat) :
    rule count = between (List.replicate count "---".toList) := by
  rw [rule, between, List.flatMap_replicate]
  rfl

theorem isWhole_escape {cell : List Char} (h : ¬ ['\\', '|'] <:+: cell) :
    IsWhole (' ' :: (escape cell ++ [' '])) := by
  intro rest
  have hcut := cut_escape h rest
  rw [List.cons_append, cut_of_ne (by decide) (by decide), List.append_assoc, List.singleton_append,
    hcut]
  rfl

/-- **A row that is written is read back.** -/
theorem cellsOf_written {cells : List (List Char)} (hne : cells ≠ []) (h : ∀ c ∈ cells, IsCell c) :
    cellsOf (written cells) = cells := by
  rw [written_eq_between hne, cellsOf_between (by simpa using hne), List.map_map]
  · refine (List.map_congr_left fun c hc => ?_).trans (List.map_id _)
    rw [Function.comp_apply, (h c hc).trim_escape, unescape_escape, id]
  · intro p hp
    obtain ⟨c, hc, rfl⟩ := List.mem_map.1 hp
    refine ⟨isWhole_escape (h c hc).plain, ?_⟩
    rw [← List.cons_append, List.getLast?_concat]
    decide

theorem cellsOf_rule {count : Nat} (h : count ≠ 0) :
    cellsOf (rule count) = List.replicate count "---".toList := by
  have hwhole : IsWhole "---".toList := fun rest => by simp [cut, cut.before]
  rw [rule_eq_between, cellsOf_between (by simpa using h)]
  · rw [List.map_replicate]
    rfl
  · intro p hp
    rw [List.eq_of_mem_replicate hp]
    exact ⟨hwhole, by decide⟩

/-- **What is written below the names of the columns separates.** -/
theorem isSeparator_rule {count : Nat} (h : count ≠ 0) : isSeparator (rule count) = true := by
  have hdash : (rule count).contains '-' = true := by
    cases count with
    | zero => exact absurd rfl h
    | succ n => rfl
  have hrule : isRule "---".toList = true := by decide
  rw [isSeparator, cellsOf_rule h, hdash, List.all_replicate, hrule]
  simp [h]

end Row

/-! ## Lines that start with a pipe -/

section
variable {cs : List Char}

theorem Fence.read?_pipe (cs : List Char) : read? ('|' :: cs) = none := by
  cases h : read? ('|' :: cs) with
  | none => rfl
  | some f =>
    obtain ⟨c, rest, hd, rfl | rfl⟩ := Fence.sign_of_read? h <;> cases hd

theorem Heading.read?_pipe (cs : List Char) : read? ('|' :: cs) = none := by
  cases h : read? ('|' :: cs) with
  | none => rfl
  | some r =>
    obtain ⟨rest, hd⟩ := Heading.sign_of_read? h
    cases hd

theorem Text.not_allBlank_pipe (cs : List Char) : allBlank ('|' :: cs) = false := by
  have hpipe : isBlank '|' = false := by decide
  rw [allBlank, List.all_cons, hpipe, Bool.false_and]

/-- A line that starts with a pipe continues a table. -/
theorem Table.isRow_pipe (cs : List Char) : isRow ('|' :: cs) = true := by
  simp [isRow, Text.not_allBlank_pipe, Heading.opens, Heading.read?_pipe, Fence.opens, Fence.read?_pipe]

end

/-! ## Cells by column -/

namespace Row
variable {columns cells : List String}

theorem put_of_not_mem {column cell : String} {r : Row} (h : column ∉ r.map (·.1)) :
    r.put column cell = r ++ [(column, cell)] := by
  induction r with
  | nil => rfl
  | cons e r ih =>
    obtain ⟨hne, hr⟩ : column ≠ e.1 ∧ column ∉ r.map (·.1) := by simpa using h
    rw [put, if_neg (Ne.symm hne), ih hr]
    rfl

/-- Columns that differ have a cell each. -/
theorem foldl_put (h : columns.Nodup) (r : Row) (hr : ∀ c ∈ columns, c ∉ r.map (·.1)) :
    (columns.zip cells).foldl (fun r p => r.put p.1 p.2) r = r ++ columns.zip cells := by
  induction columns generalizing cells r with
  | nil => simp
  | cons c columns ih =>
    cases cells with
    | nil => simp
    | cons cell cells =>
      obtain ⟨hc, hnd⟩ := List.nodup_cons.1 h
      have hput : r.put c cell = r ++ [(c, cell)] := put_of_not_mem (hr c List.mem_cons_self)
      rw [List.zip_cons_cons, List.foldl_cons, hput, ih hnd]
      · simp
      · intro d hd hmem
        rw [List.map_append, List.mem_append] at hmem
        rcases hmem with hmem | hmem
        · exact hr d (List.mem_cons_of_mem _ hd) hmem
        · obtain rfl : d = c := List.mem_singleton.1 hmem
          exact hc hd

theorem get?_zip (h : columns.Nodup) {i : Nat} {column cell : String}
    (hcolumn : columns[i]? = some column) (hcell : cells[i]? = some cell) :
    get? (columns.zip cells) column = some cell := by
  induction columns generalizing cells i with
  | nil => cases hcolumn
  | cons c columns ih =>
    obtain ⟨hc, hnd⟩ := List.nodup_cons.1 h
    cases cells with
    | nil => cases hcell
    | cons d cells =>
      cases i with
      | zero =>
        cases hcolumn
        cases hcell
        simp [get?]
      | succ i =>
        have hcolumn : columns[i]? = some column := hcolumn
        have hne : (column == c) = false := by
          refine beq_eq_false_iff_ne.2 ?_
          rintro rfl
          exact hc (List.mem_of_getElem? hcolumn)
        rw [get?, List.zip_cons_cons, List.lookup_cons, hne]
        exact ih hnd hcolumn hcell

/-- **A row has the cells of its columns**: missing ones are empty, and others are dropped. -/
theorem ofCells_spec (h : columns.Nodup) (cells : List String) :
    (ofCells columns cells).map (·.1) = columns ∧
      ∀ i column, columns[i]? = some column →
        (ofCells columns cells).get? column = some (cells.getD i "") := by
  have hrow : ofCells columns cells = columns.zip
      ((cells ++ List.replicate columns.length "").take columns.length) :=
    foldl_put h [] (by simp)
  rw [hrow]
  constructor
  · rw [List.map_fst_zip]
    simp
  · intro i column hi
    refine get?_zip h hi ?_
    have hlt : i < columns.length := (List.getElem?_eq_some_iff.1 hi).1
    rw [List.getElem?_take_of_lt hlt, List.getD_eq_getElem?_getD, List.getElem?_append]
    split
    · next hcell => rw [List.getElem?_eq_getElem hcell]; rfl
    · next hcell =>
      rw [List.getElem?_replicate_of_lt (by omega), List.getElem?_eq_none (by omega)]
      rfl

end Row

theorem Line.map_text_place (start : Nat) (ls : List Octets) :
    (place start ls).map (·.text) = ls.map textOf := by
  induction ls generalizing start with
  | nil => rfl
  | cons l ls ih => rw [place, List.map_cons, ih, List.map_cons]

/-! ## Tables -/

/-- Parts without line ends between pipes are within one line. -/
theorem Row.isLine_between {parts : List (List Char)} (h : ∀ p ∈ parts, '\n' ∉ p ∧ '\r' ∉ p) :
    Text.IsLine (between parts) := by
  have hin : ∀ {b : Char}, b ∈ between parts → b = '|' ∨ ∃ p ∈ parts, b ∈ p := by
    intro b hb
    rcases List.mem_cons.1 hb with rfl | hb
    · exact .inl rfl
    · obtain ⟨p, hp, hb⟩ := List.mem_flatMap.1 hb
      rcases List.mem_append.1 hb with hb | hb
      · exact .inr ⟨p, hp, hb⟩
      · exact .inl (List.mem_singleton.1 hb)
  refine ⟨nofun, fun hb => ?_, fun hb => ?_⟩
  · obtain ⟨p, hp, hb⟩ := (hin hb).resolve_left (by decide)
    exact (h p hp).1 hb
  · obtain ⟨p, hp, hb⟩ := (hin hb).resolve_left (by decide)
    exact (h p hp).2 hb

theorem Row.mem_escape {cell : List Char} {b : Char} (h : b ∈ escape cell) : b = '\\' ∨ b ∈ cell := by
  obtain ⟨c, hc, hb⟩ := List.mem_flatMap.1 h
  split at hb
  · next hp =>
    subst hp
    rcases List.mem_cons.1 hb with hb | hb
    · exact .inl hb
    · exact .inr (List.mem_singleton.1 hb ▸ hc)
  · exact .inr (List.mem_singleton.1 hb ▸ hc)

theorem Row.isLine_written {cells : List (List Char)} (hne : cells ≠ []) (h : ∀ c ∈ cells, IsCell c) :
    Text.IsLine (written cells) := by
  rw [written_eq_between hne]
  refine isLine_between fun p hp => ?_
  obtain ⟨c, hc, rfl⟩ := List.mem_map.1 hp
  have hin : ∀ {b : Char}, b ∈ ' ' :: (escape c ++ [' ']) → b = ' ' ∨ b = '\\' ∨ b ∈ c := by
    intro b hb
    rcases List.mem_cons.1 hb with hb | hb
    · exact .inl hb
    · rcases List.mem_append.1 hb with hb | hb
      · exact .inr (mem_escape hb)
      · exact .inl (List.mem_singleton.1 hb)
  have hline := (h c hc).line
  exact ⟨fun hb => hline.1 (((hin hb).resolve_left (by decide)).resolve_left (by decide)),
    fun hb => hline.2 (((hin hb).resolve_left (by decide)).resolve_left (by decide))⟩

theorem Row.isLine_rule (count : Nat) : Text.IsLine (rule count) := by
  rw [rule_eq_between]
  refine isLine_between fun p hp => ?_
  rw [List.eq_of_mem_replicate hp]
  decide

/-- A table as it is written: the names of its columns, a line below them and its rows. -/
def Table.written (names : List String) (rows : List (List String)) : List (List Char) :=
  Row.written (names.map String.toList) :: Row.rule names.length ::
    rows.map fun r => Row.written (r.map String.toList)

/-- A table that can be written. -/
structure Table.IsWritable (names : List String) (rows : List (List String)) : Prop where
  nonempty : names ≠ []
  nodup : names.Nodup
  names : ∀ n ∈ names, Row.IsCell n.toList
  rows : ∀ r ∈ rows, r ≠ [] ∧ ∀ c ∈ r, Row.IsCell c.toList

section
variable {names : List String} {rows : List (List String)}

/-- The cells of a row that is written, as texts. -/
theorem Table.cellTexts_written {cells : List String} (hne : cells ≠ [])
    (h : ∀ c ∈ cells, Row.IsCell c.toList) :
    cellTexts (Row.written (cells.map String.toList)) = cells := by
  have hcells : ∀ c ∈ cells.map String.toList, Row.IsCell c := by
    intro c hc
    obtain ⟨d, hd, rfl⟩ := List.mem_map.1 hc
    exact h d hd
  rw [cellTexts, Row.cellsOf_written (by simpa using hne) hcells, List.map_map]
  refine (List.map_congr_left fun c _ => ?_).trans (List.map_id _)
  exact String.ofList_toList

/-- The lines of a table that is written are a table. -/
theorem Piece.ofLines_written (h : Table.IsWritable names rows) (total : Nat) {ls : List Line}
    (hls : ls.map (·.text) = Table.written names rows) :
    ∃ t, ofLines total ls = [.table t] ∧ t.columns = names ∧
      t.rows = rows.map (Row.ofCells names) := by
  obtain ⟨n, below, rfl, hn, hbelow⟩ := List.map_eq_cons_iff.1 hls
  obtain ⟨r, rs, rfl, hr, hrs⟩ := List.map_eq_cons_iff.1 hbelow
  have hnames : Row.cellsOf n.text = names.map String.toList := by
    rw [hn, Row.cellsOf_written (by simpa using h.nonempty) (List.forall_mem_map.2 h.names)]
  have hrule : Row.cellsOf r.text = List.replicate names.length "---".toList := by
    rw [hr, Row.cellsOf_rule (by simpa using h.nonempty)]
  have hpipe : n.text = Row.between ((names.map String.toList).map fun c =>
      ' ' :: (Row.escape c ++ [' '])) := by
    rw [hn, Row.written_eq_between (by simpa using h.nonempty)]
  have hrow : ∀ l ∈ rs, Table.isRow l.text = true := by
    intro l hl
    obtain ⟨r, hr, hw⟩ := List.mem_map.1 (hrs ▸ List.mem_map_of_mem hl)
    rw [← hw, Row.written_eq_between (by simpa using (h.rows r hr).1)]
    exact Table.isRow_pipe _
  have hstarts : Table.startsWith n.text r.text = true := by
    have hsep : Row.isSeparator r.text = true := by
      rw [hr]; exact Row.isSeparator_rule (by simpa using h.nonempty)
    have hcontains : n.text.contains '|' = true := by rw [hpipe]; rfl
    rw [Table.startsWith, hcontains, hsep, hnames, hrule]
    simp
  have hread : Table.read? n (r :: rs) = some (Table.ofLines n r rs, []) := by
    rw [Table.read?, if_pos hstarts, List.takeWhile_eq_self_iff.2 hrow,
      List.dropWhile_eq_nil_iff.2 hrow]
  refine ⟨Table.ofLines n r rs, ?_, ?_, ?_⟩
  · rw [ofLines_table _ _ _ hread, ofLines]
    · rw [Line.isBlank, hpipe]
      exact Bool.eq_false_iff.1 (Text.not_allBlank_pipe _)
    · rw [hpipe]; exact Fence.read?_pipe _
    · rw [hpipe]; exact Heading.read?_pipe _
  · rw [Table.ofLines, hn]
    exact Table.cellTexts_written h.nonempty h.names
  · have hcolumns : Table.cellTexts n.text = names := by
      rw [hn]; exact Table.cellTexts_written h.nonempty h.names
    calc (Table.ofLines n r rs).rows
        = (rs.map (·.text)).map fun l => Row.ofCells names (Table.cellTexts l) := by
          rw [Table.ofLines, hcolumns, List.map_map]; rfl
      _ = rows.map (Row.ofCells names) := by
          rw [hrs, List.map_map]
          refine List.map_congr_left fun r hr => ?_
          rw [Function.comp_apply, Table.cellTexts_written (h.rows r hr).1 (h.rows r hr).2]

/-- A file that starts with a pipe has no header. -/
theorem Header.split_of_pipe {raw : Octets} {parts : List (List Char)} {ls : List (List Char)}
    (hraw : raw.head? = some 124) (h : (Octets.lines raw).map Line.textOf = Row.between parts :: ls) :
    split raw = ⟨none, 0, none⟩ := by
  obtain ⟨l, below, hlines, hl, -⟩ := List.map_eq_cons_iff.1 h
  have hmark : byteOrderMark.isPrefixOf raw = false := by
    obtain ⟨rest, rfl⟩ := List.head?_eq_some_iff.1 hraw
    rfl
  have hopens : opens l = false := by
    rw [opens, hl, Text.trimEnd_eq_self]
    · rfl
    · rw [Row.getLast?_between]
      rintro c ⟨⟩
      decide
  simp only [split, hmark, Bool.false_eq_true, if_false, List.drop_zero, hlines, hopens,
    Bool.not_false, if_true]

/-- **A table that is written is read back.** -/
theorem Table.exists_table_of_written (h : IsWritable names rows) (e : LineEnd) (closed : Bool)
    (path : Option String) :
    ∃ d t, Document.parse (Utf8.encode (Text.ofLines e closed (written names rows))) path = .ok d ∧
      d.headerError = none ∧ d.body.sections = [] ∧ d.body.tables = [t] ∧ t.columns = names ∧
      t.rows.length = rows.length ∧ ∀ (k : Nat) (cells : List String), rows[k]? = some cells →
        ∃ r : Row, t.rows[k]? = some r ∧ r.map (·.1) = names ∧
          ∀ (i : Nat) (name : String), names[i]? = some name →
            r.get? name = some (cells.getD i "") := by
  obtain ⟨raw, hraw⟩ : ∃ raw, raw = Utf8.encode (Text.ofLines e closed (written names rows)) :=
    ⟨_, rfl⟩
  have hlines : (Octets.lines raw).map Line.textOf = written names rows := by
    rw [hraw]
    refine Text.lines_ofLines e closed (List.cons_ne_nil _ _) fun l hl => ?_
    rcases List.mem_cons.1 hl with rfl | hl
    · exact Row.isLine_written (by simpa using h.nonempty) (List.forall_mem_map.2 h.names)
    · rcases List.mem_cons.1 hl with rfl | hl
      · exact Row.isLine_rule _
      · obtain ⟨r, hr, rfl⟩ := List.mem_map.1 hl
        obtain ⟨hne, hcells⟩ := h.rows r hr
        exact Row.isLine_written (by simpa using hne) (List.forall_mem_map.2 hcells)
  have hhead : raw.head? = some 124 := by
    rw [hraw, written, Text.ofLines, List.intercalate_cons_cons]
    rfl
  have hsplit : Header.split raw = ⟨none, 0, none⟩ := by
    rw [written, Row.written_eq_between (by simpa using h.nonempty)] at hlines
    exact Header.split_of_pipe hhead hlines
  have htexts : (Line.ofOctets raw).map (·.text) = written names rows := by
    rw [Line.ofOctets, Line.map_text_place, hlines]
  obtain ⟨t, hpieces, hcolumns, hrows⟩ := Piece.ofLines_written h raw.length htexts
  have hparse : Document.parse raw path = .ok ⟨path, raw, [], false, none, 0, Body.ofOctets raw⟩ := by
    rw [Document.parse_eq_ok_iff, hsplit]
    exact ⟨[], none, rfl, rfl⟩
  have hdraft : Body.Draft.ofPieces raw.length (Piece.ofLines raw.length (Line.ofOctets raw)) =
      (Body.Draft.empty raw.length).addTable t := by
    rw [hpieces]; rfl
  rw [← hraw]
  refine ⟨_, { t with owner := none }, hparse, rfl, ?_, ?_, hcolumns, ?_, ?_⟩
  · exact congrArg (·.sections.toList) hdraft
  · exact congrArg (·.tables.reverse) hdraft
  · exact (congrArg List.length hrows).trans (List.length_map _)
  · intro k cells hk
    refine ⟨Row.ofCells names cells, ?_, Row.ofCells_spec h.nodup cells⟩
    exact (congrArg (·[k]?) hrows).trans (by rw [List.getElem?_map, hk]; rfl)

end

/-- A name with a pipe, a cell that ends with a backslash, a row that is too short and one
    that is too long. -/
theorem Table.exists_table_of_escapes :
    IsWritable ["a|b", "c"] [["x\\"], ["", "||", "d"]] ∧
      ∃ d t, Document.parse (Utf8.ofString
          "| a\\|b | c |\n|---|---|\n| x\\ |\n|  | \\|\\| | d |\n") none = .ok d ∧
        d.body.sections = [] ∧ d.body.tables = [t] ∧ t.columns = ["a|b", "c"] ∧
        (t.rows.map fun r => (r.get? "a|b", r.get? "c")) =
          [(some "x\\", some ""), (some "", some "||")] := by
  have hcell : ∀ c : String, ('\n' ∉ c.toList ∧ '\r' ∉ c.toList) ∧
      Text.trim c.toList = c.toList ∧ ¬ ['\\', '|'] <:+: c.toList → Row.IsCell c.toList :=
    fun c h => ⟨h.1, h.2.1, h.2.2⟩
  have h : IsWritable ["a|b", "c"] [["x\\"], ["", "||", "d"]] := by
    refine ⟨by decide, by decide, fun n hn => hcell n ?_, fun r hr => ⟨?_, fun c hc => hcell c ?_⟩⟩
    · revert n; decide
    · revert r; decide
    · revert c; revert r; decide
  obtain ⟨d, t, hd, -, hs, ht, hcolumns, hlen, hrows⟩ := exists_table_of_written h .lf true none
  refine ⟨h, d, t, hd, hs, ht, hcolumns, ?_⟩
  obtain ⟨r, h0, -, hr⟩ := hrows 0 _ rfl
  obtain ⟨s, h1, -, hs⟩ := hrows 1 _ rfl
  obtain ⟨r', s', hrs⟩ := List.length_eq_two.1 hlen
  rw [hrs] at h0 h1 ⊢
  cases h0
  cases h1
  rw [List.map_cons, List.map_singleton, hr 0 _ rfl, hr 1 _ rfl, hs 0 _ rfl, hs 1 _ rfl]
  rfl

end Folio
