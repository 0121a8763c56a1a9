/-
  Folio — regular expressions.

  A regular expression says what to match character by character: single
  characters, sets of them, places between them, repetitions, choices, groups
  to refer back to, and views ahead and behind.

  * `Regex.ofItems` is a sequence and `Regex.items` takes it apart;
  * `Regex.choice` is a choice between sequences: what they start with in common
    stands once, and a choice between single characters is a set;
  * `Regex.width` bounds the length of what a regular expression matches.
-/
import Folio.Pattern.Error

namespace Folio

/-! ## Flags -/

/-- A way to read a pattern. -/
inductive Flag where
  | ignoreCase
  /-- Lines start and end inside of the text. -/
  | multiline
  /-- The dot stands for line ends too. -/
  | dotAll
  /-- White space and comments in the pattern mean nothing. -/
  | verbose
  /-- The classes of characters are those of ASCII. -/
  | ascii
  /-- The classes of characters are those of Unicode. -/
  | unicode
  /-- Nothing is repeated. -/
  | template
  deriving Repr, DecidableEq

/-- A set of flags. -/
abbrev Flags := List Flag

namespace Flag

/-- The flag with this letter. -/
def ofLetter? : Char → Option Flag
  | 'i' => some .ignoreCase
  | 'm' => some .multiline
  | 's' => some .dotAll
  | 'x' => some .verbose
  | 'a' => some .ascii
  | 'u' => some .unicode
  | 't' => some .template
  | _ => none

/-- Does the flag choose the classes of characters? -/
def isExclusive (f : Flag) : Bool := f == .ascii || f == .unicode

end Flag

/-- The flags inside of a part that turns some on and some off. -/
def Flags.within (flags on off : Flags) : Flags :=
  let kept := if on.any Flag.isExclusive then flags.filter (!·.isExclusive) else flags
  (kept ++ on).filter (!off.contains ·)

/-! ## Expressions -/

/-- A class of characters. -/
inductive CharClass where
  | digit
  | space
  | word
  deriving Repr, DecidableEq

/-- What a set of characters lists; characters are given by their numbers. -/
inductive SetItem where
  | single (n : Nat)
  | range (low high : Nat)
  /-- The characters of a class, or those outside of it. -/
  | ofClass (c : CharClass) (outside : Bool)
  deriving Repr, DecidableEq

/-- A place between characters. -/
inductive Place where
  | textStart
  | textEnd
  /-- The start of the text, or of a line. -/
  | lineStart
  /-- The end of the text, before a last line end too, or the end of a line. -/
  | lineEnd
  | wordEdge
  | noWordEdge
  deriving Repr, DecidableEq

/-- The least and the greatest length of what is matched. -/
structure Width where
  least : Nat
  greatest : Nat
  deriving Repr, DecidableEq

/-- A regular expression. -/
inductive Regex where
  | empty
  /-- One character, or any but that one. -/
  | single (n : Nat) (other : Bool)
  | any
  /-- A character that is listed, or one that is not. -/
  | set (other : Bool) (items : List SetItem)
  | place (p : Place)
  /-- What a group has matched. -/
  | again (group : Nat)
  | seq (first second : Regex)
  | alt (first second : Regex)
  | repeated (greed : Greed) (least : Nat) (greatest : Option Nat) (body : Regex)
  /-- A part with a number if it is referred to by it, and flags of its own. -/
  | group (number : Option Nat) (on off : Flags) (body : Regex)
  /-- The first match of the body and no other. -/
  | atomic (body : Regex)
  /-- Whether the body matches here, or behind at its width. -/
  | look (behind : Option Width) (other : Bool) (body : Regex)
  /-- Depends on whether a group has matched. -/
  | whether (group : Nat) (yes no : Regex)
  deriving Repr, DecidableEq, Inhabited

namespace Regex

/-- One after the other. -/
def ofItems (rs : List Regex) : Regex := rs.foldr seq empty

/-- The parts of a sequence. -/
def items : Regex → List Regex
  | empty => []
  | seq first second => first :: second.items
  | r => [r]

/-- The parts of a group that is neither counted nor changes flags; another
    expression is its only part. -/
def ungrouped : Regex → List Regex
  | group none [] [] body => body.items
  | r => [r]

/-! ## Choices -/

/-- Can choices share the expression at their start? -/
def isSimple : Regex → Bool
  | single .. | any | set .. | place _ | again _ => true
  | _ => false

/-- Splits off what a sequence and others start with in common. -/
def commonStart : List Regex → List (List Regex) →
    List Regex × List Regex × List (List Regex)
  | [], others => ([], [], others)
  | r :: rs, others =>
    if r.isSimple && others.all (·.head? == some r) then
      let (common, rest, rests) := commonStart rs (others.map List.tail)
      (r :: common, rest, rests)
    else ([], r :: rs, others)

/-- What a set lists that stands for a sequence of one character. -/
def setItems? : List Regex → Option (List SetItem)
  | [single n false] => some [.single n]
  | [set false items] => some items
  | _ => none

/-- One of several sequences, the first of which is given apart. -/
def anyOf (first : List Regex) : List (List Regex) → Regex
  | [] => ofItems first
  | second :: others => alt (ofItems first) (anyOf second others)

/-- A choice between sequences, the first of which is given apart. -/
def choice (first : List Regex) (others : List (List Regex)) : List Regex :=
  if others.isEmpty then first
  else
    let (common, rest, rests) := commonStart first others
    match (rest :: rests).mapM setItems? with
    | some items => common ++ [set false items.flatten.eraseDups]
    | none => common ++ [anyOf rest rests]

/-! ## Widths -/

end Regex

/-- A width above all that count. -/
def Width.bound : Nat := 0x10000000000000000

namespace Width

/-- A width no greater than the bound. -/
def bounded (w : Width) : Width := ⟨min w.least bound, min w.greatest bound⟩

/-- One width after another. -/
def add (a b : Width) : Width := bounded ⟨a.least + b.least, a.greatest + b.greatest⟩

/-- One width or another. -/
def or (a b : Width) : Width := ⟨min a.least b.least, max a.greatest b.greatest⟩

/-- A width repeated. -/
def times (w : Width) (least : Nat) (greatest : Option Nat) : Width :=
  bounded
    ⟨w.least * least,
      match greatest with
      | some n => w.greatest * n
      | none => if w.greatest = 0 then 0 else bound⟩

end Width

/-- The width of an expression, given those of the groups. -/
def Regex.width (groups : List (Option Width)) : Regex → Width
  | empty | place _ | look .. => ⟨0, 0⟩
  | single .. | any | set .. => ⟨1, 1⟩
  | again g => (groups[g - 1]?.join).getD ⟨0, 0⟩
  | seq first second => (first.width groups).add (second.width groups)
  | alt first second => (first.width groups).or (second.width groups)
  | repeated _ least greatest body => (body.width groups).times least greatest
  | group _ _ _ body | atomic body => body.width groups
  | whether _ yes no => (yes.width groups).or (no.width groups)

/-- What is wrong with an expression that is read whole.  In a template nothing
    is repeated, and a view behind needs one width. -/
def Regex.fault? (template : Bool) : Regex → Option PatternFault
  | empty | single .. | any | set .. | place _ | again _ => none
  | seq first second | alt first second | whether _ first second =>
    (first.fault? template).or (second.fault? template)
  | repeated greed _ _ body =>
    if template then some (.repeatInTemplate greed) else body.fault? template
  | group _ _ _ body | atomic body => body.fault? template
  | look none _ body => body.fault? template
  | look (some w) _ body =>
    if 0x100000000 ≤ w.least then some .lookBehindFar
    else if w.least ≠ w.greatest then some .lookBehindWidth
    else body.fault? template

end Folio
