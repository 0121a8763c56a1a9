/-
  Folio — rows have a cell for each column.

  A row is cut to as many cells as there are columns, and filled up with empty ones.  So
  each column has a cell in it, also if several columns have one name (`Table.Full`), and
  this holds of the tables of every body.

  * `Row.isSome_get?_ofCells`: the columns of a row;
  * `Body.full_ofOctets`: the tables of a body.
-/
import Folio.Proofs.Body.Draft

namespace Folio

/-! ## Rows -/

namespace Row

theorem get?_put_of_ne {column name : String} (h : name ≠ column) (cell : String) (r : Row) :
    (r.put column cell).get? name = r.get? name := by
  induction r with
  | nil => simp [put, get?, List.lookup_cons, beq_eq_false_iff_ne.2 h]
  | cons e r ih =>
    obtain ⟨k, v⟩ := e
    unfold put
    split
    · next hk =>
      subst hk
      simp [get?, List.lookup_cons, beq_eq_false_iff_ne.2 h]
    · rw [get?, get?, List.lookup_cons, List.lookup_cons]
      split
      · rfl
      · exact ih

theorem isSome_get?_put {column name cell : String} {r : Row} :
    ((r.put column cell).get? name).isSome = true ↔ name = column ∨ (r.get? name).isSome = true := by
  by_cases h : name = column
  · subst h
    simp [get?_put_self]
  · simp [get?_put_of_ne h, h]

theorem isSome_get?_foldl {ps : List (String × String)} {r : Row} {name : String} :
    ((ps.foldl (fun r p => r.put p.1 p.2) r).get? name).isSome = true ↔
      name ∈ ps.map (·.1) ∨ (r.get? name).isSome = true := by
  induction ps generalizing r with
  | nil => simp
  | cons p ps ih =>
    rw [List.foldl_cons, ih, isSome_get?_put, List.map_cons, List.mem_cons, or_left_comm, or_assoc]

/-- **The columns of a row**: it has a cell for each of them and for no other. -/
theorem isSome_get?_ofCells {columns cells : List String} {name : String} :
    ((ofCells columns cells).get? name).isSome = true ↔ name ∈ columns := by
  have hlength : columns.length ≤
      ((cells ++ List.replicate columns.length "").take columns.length).length := by simp
  rw [ofCells, isSome_get?_foldl, List.map_fst_zip hlength]
  exact or_iff_left (by simp [get?])

end Row

/-! ## Tables -/

/-- Each row has a cell for each column. -/
def Table.Full (t : Table) : Prop :=
  ∀ r ∈ t.rows, ∀ name ∈ t.columns, (r.get? name).isSome = true

theorem Table.full_of_read? {names : Line} {lines rest : List Line} {t : Table}
    (h : read? names lines = some (t, rest)) : t.Full := by
  cases lines with
  | nil => cases h
  | cons rule lines =>
    rw [read?] at h
    split at h
    · obtain ⟨rfl, -⟩ := Prod.mk.inj (Option.some.inj h)
      intro r hr name hname
      obtain ⟨l, -, rfl⟩ := List.mem_map.1 hr
      exact Row.isSome_get?_ofCells.2 hname
    · cases h

theorem Piece.full_of_mem_ofLines {total : Nat} {ls : List Line} {t : Table}
    (h : Piece.table t ∈ ofLines total ls) : t.Full := by
  fun_induction ofLines total ls with
  | case1 => cases h
  | case2 l rest hb ih => exact ih (by simpa using h)
  | case3 l rest hb f hf ih => exact ih (by simpa using h)
  | case4 l rest hb hf level title hh ih => exact ih (by simpa using h)
  | case5 l rest hb hf hh t' after ht ih =>
    rcases List.mem_cons.1 h with h | h
    · obtain rfl := Piece.table.inj h
      exact Table.full_of_read? ht
    · exact ih h
  | case6 l rest hb hf hh ht ih =>
    rcases List.mem_cons.1 h with h | h
    · unfold ofLine at h
      split at h <;> cases h
    · exact ih h

namespace Body

/-- The tables of a draft are those of its pieces, each with an owner. -/
theorem Draft.tables_foldl {ps : List Piece} {d : Draft} {t : Table}
    (h : t ∈ (ps.foldl add d).tables) :
    t ∈ d.tables ∨ ∃ t', Piece.table t' ∈ ps ∧ ∃ owner, t = { t' with owner } := by
  induction ps generalizing d with
  | nil => exact .inl h
  | cons p ps ih =>
    rcases ih h with h | ⟨t', ht', howner⟩
    · rcases add_cases d p with ⟨level, title, headingStart, start, -, hadd⟩ | ⟨t', rfl, hadd⟩ | hframe
      · exact .inl (by rwa [hadd] at h)
      · rw [hadd] at h
        rcases List.mem_cons.1 h with rfl | h
        · exact .inr ⟨t', List.mem_cons_self, d.owner, rfl⟩
        · exact .inl h
      · exact .inl (by rwa [hframe.tables] at h)
    · exact .inr ⟨t', List.mem_cons_of_mem _ ht', howner⟩

/-- **The tables of a body** have a cell for each column in each row. -/
theorem full_ofOctets {s : Octets} {t : Table} (ht : t ∈ (ofOctets s).tables) : t.Full := by
  rcases Draft.tables_foldl (List.mem_reverse.1 ht) with h | ⟨t', ht', owner, rfl⟩
  · cases h
  · have hfull : t'.Full := Piece.full_of_mem_ofLines ht'
    exact hfull

end Body

end Folio
