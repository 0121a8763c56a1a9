/-
  Folio — what is written on a page.

  A page is written from left to right, its text latest first.  Going to an
  indentation starts a fresh line when the line has text beyond it; after a line end
  and after the sign of a collection it only adds spaces.

  * `Page.indentTo_of_isPast`, `Page.indentTo_of_newLine`, `Page.indentTo_of_sign`:
    the page after that.
-/
import Folio.Proofs.Yaml.Cursor
import Folio.Yaml.Render

namespace Folio.Yaml.Page
variable {p : Page} {n : Nat}

@[simp] theorem text_write (cs : List Char) : (p.write cs).text = cs.reverse ++ p.text := rfl
@[simp] theorem column_write (cs : List Char) : (p.write cs).column = p.column + cs.length := rfl
@[simp] theorem spaced_write (cs : List Char) : (p.write cs).spaced = p.spaced := rfl
@[simp] theorem indenting_write (cs : List Char) : (p.write cs).indenting = p.indenting := rfl

theorem write_append (cs ds : List Char) : p.write (cs ++ ds) = (p.write cs).write ds := by
  simp [write, Nat.add_assoc]

/-- Has the line text beyond the indentation? -/
def IsPast (p : Page) (n : Nat) : Prop := p.indenting = false ∨ n < p.column

theorem IsPast.write (h : p.IsPast n) (cs : List Char) : (p.write cs).IsPast n :=
  h.imp id fun h => Nat.lt_of_lt_of_le h (Nat.le_add_right _ _)

/-- A line end and the indentation of the next line. -/
theorem indentTo_of_isPast (h : p.IsPast n) :
    p.indentTo n = ⟨(freshLine n).reverse ++ p.text, n, true, true⟩ := by
  have hline : (!p.indenting || decide (n < p.column) || (p.column == n && !p.spaced)) = true := by
    rcases h with h | h <;> simp [h]
  rw [indentTo, hline]
  cases n with
  | zero => rfl
  | succ n => simp [newLine, write, freshLine]

/-- The indentation of a line on which nothing stands yet. -/
theorem indentTo_of_newLine (hi : p.indenting = true) (hs : p.spaced = true) (hc : p.column = 0) :
    p.indentTo n = ⟨List.replicate n ' ' ++ p.text, n, true, true⟩ := by
  obtain ⟨text, column, spaced, indenting⟩ := p
  obtain rfl := hi
  obtain rfl := hs
  obtain rfl := hc
  cases n with
  | zero => rfl
  | succ n => simp [indentTo, write]

/-- The space after the sign of a collection whose first part stands on its line. -/
theorem indentTo_of_sign (hi : p.indenting = true) (hc : p.column = n + 1) :
    p.indentTo (n + 2) = ⟨' ' :: p.text, n + 2, true, true⟩ := by
  obtain ⟨text, column, spaced, indenting⟩ := p
  obtain rfl := hi
  obtain rfl := hc
  simp [indentTo, write]

/-- The text of a page once a space sets off what comes next. -/
def setOff (p : Page) : List Char := if p.spaced then p.text else ' ' :: p.text

theorem setOff_of_spaced (h : p.spaced = true) : p.setOff = p.text := if_pos h

theorem setOff_of_not_spaced (h : p.spaced = false) : p.setOff = ' ' :: p.text := if_neg (by simp [h])

theorem text_sign (cs : List Char) (adds : Bool) :
    (p.sign cs true adds).text = cs.reverse ++ p.setOff := by
  rw [sign, setOff]
  cases p.spaced <;> simp

theorem text_sign_close (cs : List Char) (adds : Bool) :
    (p.sign cs false adds).text = cs.reverse ++ p.text := by
  simp [sign]

@[simp] theorem spaced_sign (cs : List Char) (setOff adds : Bool) :
    (p.sign cs setOff adds).spaced = false := rfl

@[simp] theorem indenting_sign (cs : List Char) (setOff adds : Bool) :
    (p.sign cs setOff adds).indenting = (p.indenting && adds) := rfl

end Folio.Yaml.Page
