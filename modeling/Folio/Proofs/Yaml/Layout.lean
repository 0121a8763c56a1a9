/-
  Folio — the layout of forms.

  A form is laid out as blocks: the items of a sequence after dashes, the entries of
  a mapping as keys with colons, each on a fresh line with the indentation of its
  collection.  After a sign a collection may start on the same line; a sequence
  below a key is not indented further than the key.

  * `Form.Laid`: the texts that a form may have;
  * `Form.kinds`: the tokens that it consists of.
-/
import Folio.Proofs.Yaml.Plain
import Folio.Yaml.Token.Scan

namespace Folio.Yaml

/-! ## Scalars -/

/-- May a text stand at the start of a plain scalar? -/
structure PlainStart (t : List Char) : Prop where
  sign : ∀ x ∈ t.head?, "#,[]\x7b\x7d&*!|>'\"%@\x60".toList.contains x = false
  alone : ∀ x ∈ t.head?, x = '-' ∨ x = '?' ∨ x = ':' → Cursor.atBlank (t.drop 1).head? = false
  separates : ¬Separates t

/-- A scalar stands at the indentation `n`: as `t` for the characters `cs`, with or
    without quotes.  It is `sound` if it reads back: no backslash is astray, and no
    next-line character stands between single quotes, where it would count as an
    ordinary line end. -/
inductive ScalarLaid (sound : Bool) (n : Nat) : (plain : Bool) → (cs t : List Char) → Prop where
  | plain {cs t : List Char} (start : PlainStart t) (mark : t.head? ≠ some '\uFEFF')
      (text : Plain n cs t) : ScalarLaid sound n true cs t
  | quoted {cs t : List Char} (double : Bool)
      (nextLine : sound = true → double = false → '\u0085' ∉ cs) (text : Quoted double sound n cs t) :
      ScalarLaid sound n false cs (Scalar.quote double :: (t ++ [Scalar.quote double]))

/-- The tag of a scalar that is read without one. -/
def readTag (plain : Bool) (cs : List Char) : Tag := if plain then .ofPlain false cs else .str

/-! ## Forms -/

namespace Form

/-- A form stands as a key on one line.  It is `sound` if it is not too long. -/
def KeyLaid (sound : Bool) (n : Nat) : Form → List Char → Prop
  | .scalar _ tag cs, t =>
    ∃ plain, ScalarLaid sound (n + 2) plain cs t ∧ tag = readTag plain cs ∧
      (∀ x ∈ t, isBreak x = false) ∧ (sound = true → t.length ≤ Scanner.maxKeyLength)
  | _, _ => False

mutual

/-- A form stands as `t` after a sign of a collection with `n` spaces of indentation;
    `below` says whether a block starts below the sign. -/
def Laid (sound : Bool) (n : Nat) (below : Bool) : Form → List Char → Prop
  | .alias _, _ => False
  | .scalar _ tag cs, t =>
    ∃ plain u, t = ' ' :: u ∧ ScalarLaid sound (n + 2) plain cs u ∧ tag = readTag plain cs
  | .sequence _ fs, t =>
    if fs.isEmpty then t = [' ', '[', ']']
    else if below then ItemsLaid sound n fs t
    else ∃ u, t = ' ' :: u ∧ ItemsLaid sound (n + 2) fs (freshLine (n + 2) ++ u)
  | .mapping _ tag es, t =>
    tag = .map ∧
      if es.isEmpty then t = [' ', '\x7b', '\x7d']
      else if below then EntriesLaid sound (n + 2) es t
      else ∃ u, t = ' ' :: u ∧ EntriesLaid sound (n + 2) es (freshLine (n + 2) ++ u)

/-- Some forms stand as the items of a sequence. -/
def ItemsLaid (sound : Bool) (n : Nat) : List Form → List Char → Prop
  | [], t => t = []
  | f :: fs, t =>
    ∃ u v, t = freshLine n ++ '-' :: (u ++ v) ∧ Laid sound n false f u ∧ ItemsLaid sound n fs v

/-- Some forms stand as the entries of a mapping.  A key that does not stand on one
    line has a sign of its own. -/
def EntriesLaid (sound : Bool) (n : Nat) : List (Form × Form) → List Char → Prop
  | [], t => t = []
  | (k, v) :: es, t =>
    ∃ key u w, t = freshLine n ++ (key ++ ':' :: (u ++ w)) ∧ EntriesLaid sound n es w ∧
      ((KeyLaid sound n k key ∧ Laid sound n true v u) ∨
        ∃ q, key = '?' :: (q ++ freshLine n) ∧ Laid sound n false k q ∧ Laid sound n false v u)

end

/-! ## Tokens -/

mutual

/-- Do the tokens of a form show a scalar as plain?  They have the form's text and
    tag anyway. -/
def Kinds (below : Bool) : Form → List TokenKind → Prop
  | .alias _, _ => False
  | .scalar _ tag cs, ks => ∃ plain, ks = [.scalar plain cs] ∧ tag = readTag plain cs
  | .sequence _ fs, ks =>
    if fs.isEmpty then ks = [.flowSequenceStart, .flowSequenceEnd]
    else if below then ItemKinds fs ks
    else ∃ is, ks = .blockSequenceStart :: (is ++ [.blockEnd]) ∧ ItemKinds fs is
  | .mapping _ tag es, ks =>
    tag = .map ∧
      if es.isEmpty then ks = [.flowMappingStart, .flowMappingEnd]
      else ∃ is, ks = .blockMappingStart :: (is ++ [.blockEnd]) ∧ EntryKinds es is

/-- The tokens of the items of a sequence. -/
def ItemKinds : List Form → List TokenKind → Prop
  | [], ks => ks = []
  | f :: fs, ks => ∃ is js, ks = .blockEntry :: (is ++ js) ∧ Kinds false f is ∧ ItemKinds fs js

/-- The tokens of the entries of a mapping. -/
def EntryKinds : List (Form × Form) → List TokenKind → Prop
  | [], ks => ks = []
  | (k, v) :: es, ks =>
    ∃ is js ls below, ks = .key :: (is ++ .value :: (js ++ ls)) ∧ Kinds false k is ∧
      Kinds below v js ∧ EntryKinds es ls

end

end Form

end Folio.Yaml
