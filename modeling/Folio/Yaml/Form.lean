/-
  Folio — the form in which a value is written.

  A value is written as a scalar, a sequence or a mapping.  A value that occurs
  more than once, as its label tells, is written once, with an anchor, and stands
  as an alias elsewhere.  Anchors are numbered in the order in which the second
  occurrences come.

  * `Form.ofValue` is the form of a value.
-/
import Folio.Number.Layout
import Folio.Yaml.Base64
import Folio.Yaml.Tag
import Folio.Yaml.Value

namespace Folio.Yaml

/-- The number of an anchor. -/
abbrev AnchorNumber := Option Nat

/-- The form of a value. -/
inductive Form where
  /-- A value that is written elsewhere. -/
  | alias (number : Nat)
  /-- A scalar; octets are written as a literal block if possible. -/
  | scalar (anchor : AnchorNumber) (tag : Tag) (text : List Char)
  | sequence (anchor : AnchorNumber) (items : List Form)
  | mapping (anchor : AnchorNumber) (tag : Tag) (entries : List (Form × Form))
  deriving Repr, Inhabited

/-! ## Anchors -/

namespace Anchors

/-- The labels met, and those met again, the latest first. -/
structure Met where
  once : List Nat
  again : List Nat

/-- Meets a label: the result says whether for the first time. -/
def Met.meet (m : Met) (label : Label) : Met × Bool :=
  match label with
  | none => (m, true)
  | some l =>
    if m.once.contains l then
      (if m.again.contains l then m else { m with again := l :: m.again }, false)
    else ({ m with once := l :: m.once }, true)

mutual

/-- Meets the labels of a value; those inside a value that is met again are not
    counted again. -/
def visit (m : Met) : Value → Met
  | .time label _ => (m.meet label).1
  | .list label items =>
    match m.meet label with
    | (m, true) => visitItems m items
    | (m, false) => m
  | .map label entries =>
    match m.meet label with
    | (m, true) => visitEntries m entries
    | (m, false) => m
  | .set label members =>
    match m.meet label with
    | (m, true) => visitItems m members
    | (m, false) => m
  | .pair a b => visit (visit m a) b
  | _ => m

/-- Meets the labels of some values. -/
def visitItems (m : Met) : List Value → Met
  | [] => m
  | v :: vs => visitItems (visit m v) vs

/-- Meets the labels of some entries. -/
def visitEntries (m : Met) : List (Value × Value) → Met
  | [] => m
  | (k, v) :: es => visitEntries (visit (visit m k) v) es

end

/-- The labels that occur again, in the order of their anchors. -/
def ofValue (v : Value) : List Nat := (visit ⟨[], []⟩ v).again.reverse

end Anchors

/-! ## Forms -/

namespace Form

/-- The labels that have anchors, and those whose value is written already. -/
structure Written where
  anchored : List Nat
  done : List Nat

/-- The anchor of a label, and whether its value is written already. -/
def Written.anchor (w : Written) (label : Label) : AnchorNumber × Bool :=
  match label with
  | none => (none, false)
  | some l => ((w.anchored.idxOf? l).map (· + 1), w.done.contains l)

/-- With the value of a label written. -/
def Written.add (w : Written) (label : Label) : Written :=
  { w with done := label.toList ++ w.done }

mutual

/-- The form of a value, given what is written before it. -/
def ofValueAt (w : Written) : Value → Form × Written
  | .null => (.scalar none .null "null".toList, w)
  | .bool b => (.scalar none .bool (if b then "true" else "false").toList, w)
  | .int i => (.scalar none .int (intText i), w)
  | .float x => (.scalar none .float (FloatLayout.yaml.write x), w)
  | .text s => (.scalar none .str s.toList, w)
  | .octets s => (.scalar none .binary (Base64.encode s), w)
  | .time label t =>
    match w.anchor label with
    | (some n, true) => (.alias n, w)
    | (anchor, _) => (.scalar anchor .timestamp (t.isoText ' '), w.add label)
  | .list label items =>
    match w.anchor label with
    | (some n, true) => (.alias n, w)
    | (anchor, _) =>
      let (fs, w) := ofItems (w.add label) items
      (.sequence anchor fs, w)
  | .map label entries =>
    match w.anchor label with
    | (some n, true) => (.alias n, w)
    | (anchor, _) =>
      let (fs, w) := ofEntries (w.add label) entries
      (.mapping anchor .map fs, w)
  | .set label members =>
    match w.anchor label with
    | (some n, true) => (.alias n, w)
    | (anchor, _) =>
      let (fs, w) := ofItems (w.add label) members
      (.mapping anchor .set (fs.map fun f => (f, .scalar none .null "null".toList)), w)
  | .pair a b =>
    let (f, w) := ofValueAt w a
    let (g, w) := ofValueAt w b
    (.sequence none [f, g], w)

/-- The forms of some values. -/
def ofItems (w : Written) : List Value → List Form × Written
  | [] => ([], w)
  | v :: vs =>
    let (f, w) := ofValueAt w v
    let (fs, w) := ofItems w vs
    (f :: fs, w)

/-- The forms of some entries. -/
def ofEntries (w : Written) : List (Value × Value) → List (Form × Form) × Written
  | [] => ([], w)
  | (k, v) :: es =>
    let (f, w) := ofValueAt w k
    let (g, w) := ofValueAt w v
    let (fs, w) := ofEntries w es
    ((f, g) :: fs, w)

end

/-- The form of a value. -/
def ofValue (v : Value) : Form := (ofValueAt ⟨Anchors.ofValue v, []⟩ v).1

end Form

end Folio.Yaml
