/-
  Folio — how nodes are written as a schema source.

  A node stands on a line of its own: its name, its values and properties after
  spaces, and the nodes inside of it between braces, each on further lines.  Names,
  keys and texts are written between quotes with escapes or as raw texts
  (`Quotation`); a `Written` node carries the choices that can be made.

  * `Written.sources` is the source, `Written.trees` what it is the source of;
  * `Node.Plain.exists_written`: all nodes that have no floating-point numbers, no overlong
    integers and no key twice can be written.
-/
import Folio.Proofs.Number.Decimal
import Folio.Schema.Node

namespace Folio.Schema

/-! ## Texts and values as they are written -/

/-- How a text is written. -/
inductive Form where
  /-- Between quotes, with a backslash before each quote and backslash in it. -/
  | quoted
  /-- Between quotes with marks around them, perhaps with an `r` in front. -/
  | raw (lead : Bool) (marks : Nat)
  deriving Repr, DecidableEq

/-- What opens a raw text. -/
def rawOpening (lead : Bool) (marks : Nat) : List Char :=
  (if lead then ['r'] else []) ++ List.replicate marks '#' ++ ['"']

/-- What ends a raw text. -/
def rawClosing (marks : Nat) : List Char := '"' :: List.replicate marks '#'

/-- Can a text be written so?  A raw text needs marks enough: what ends it does
    not occur in it. -/
def Form.Suits : Form → List Char → Prop
  | .quoted, _ => True
  | .raw lead marks, cs => (lead = true ∨ 0 < marks) ∧ ¬ rawClosing marks <:+: cs

/-- A text and a way to write it. -/
structure Quotation where
  text : String
  form : Form
  suits : form.Suits text.toList

/-- A text with a backslash before each quote and backslash. -/
def escaped (cs : List Char) : List Char :=
  cs.flatMap fun c => if c = '"' ∨ c = '\\' then ['\\', c] else [c]

/-- The text as it is written. -/
def Quotation.source (q : Quotation) : List Char :=
  match q.form with
  | .quoted => '"' :: escaped q.text.toList ++ ['"']
  | .raw lead marks => rawOpening lead marks ++ q.text.toList ++ rawClosing marks

/-- A value and a way to write it; the mark before a keyword may be left out. -/
inductive Literal where
  | text (q : Quotation)
  | int (i : Int) (short : (Text.decimalText i.natAbs).length ≤ Number.maxDigits)
  | bool (b : Bool) (marked : Bool)
  | null (marked : Bool)

namespace Literal

/-- The value that is written. -/
def value : Literal → Scalar
  | text q => .text q.text
  | int i _ => .int i
  | bool b _ => .bool b
  | null _ => .null

/-- A keyword with or without its mark. -/
def keyword (word : String) (marked : Bool) : List Char :=
  if marked then '#' :: word.toList else word.toList

/-- The value as it is written. -/
def source : Literal → List Char
  | text q => q.source
  | int i _ => Number.decimal i
  | bool true marked => keyword "true" marked
  | bool false marked => keyword "false" marked
  | null marked => keyword "null" marked

end Literal

/-! ## Nodes as they are written -/

/-- A value or a property of a node. -/
inductive Entry where
  | arg (value : Literal)
  | prop (key : Quotation) (value : Literal)

namespace Entry

def arg? : Entry → Option Scalar
  | arg v => some v.value
  | prop _ _ => none

def prop? : Entry → Option (String × Scalar)
  | arg _ => none
  | prop k v => some (k.text, v.value)

/-- A space and the value, or the key and the value of the property. -/
def source : Entry → List Char
  | arg v => ' ' :: v.source
  | prop k v => ' ' :: k.source ++ '=' :: v.source

end Entry

/-- The values among values and properties. -/
def argsOf (entries : List Entry) : List Scalar := entries.filterMap Entry.arg?

/-- The properties among values and properties. -/
def propsOf (entries : List Entry) : Properties := entries.filterMap Entry.prop?

section
variable (v : Literal) (k : Quotation) (entries : List Entry)

@[simp] theorem argsOf_nil : argsOf [] = [] := rfl

@[simp] theorem argsOf_arg : argsOf (.arg v :: entries) = v.value :: argsOf entries := rfl

@[simp] theorem argsOf_prop : argsOf (.prop k v :: entries) = argsOf entries := rfl

@[simp] theorem propsOf_nil : propsOf [] = [] := rfl

@[simp] theorem propsOf_arg : propsOf (.arg v :: entries) = propsOf entries := rfl

@[simp] theorem propsOf_prop : propsOf (.prop k v :: entries) =
    (k.text, v.value) :: propsOf entries := rfl

end

/-- A node and a way to write it. -/
structure Written where
  name : Quotation
  entries : List Entry
  /-- No key is given twice. -/
  distinct : ((propsOf entries).map (·.1)).Nodup
  children : List Written

namespace Written

mutual

/-- The node that is written, on no line. -/
def tree : Written → Node
  | ⟨name, entries, _, children⟩ =>
    ⟨name.text, 0, argsOf entries, propsOf entries, trees children⟩

/-- The nodes that are written. -/
def trees : List Written → List Node
  | [] => []
  | w :: ws => w.tree :: trees ws

end

mutual

/-- The node on a line of its own, with so many spaces in front; the nodes inside
    of it are moved in by `step` more. -/
def source (step indent : Nat) : Written → List Char
  | ⟨name, entries, _, children⟩ =>
    List.replicate indent ' ' ++ name.source ++ entries.flatMap Entry.source ++
      (if children.isEmpty then [] else
        [' ', '\x7b', '\n'] ++ sources step (indent + step) children ++
          List.replicate indent ' ' ++ ['\x7d']) ++
      ['\n']

/-- The nodes one after the other. -/
def sources (step indent : Nat) : List Written → List Char
  | [] => []
  | w :: ws => w.source step indent ++ sources step indent ws

end

end Written

/-! ## What can be written -/

namespace Node

mutual

/-- The node without the lines on which it and the nodes inside of it stand. -/
def unplaced : Node → Node
  | ⟨name, _, args, props, children⟩ => ⟨name, 0, args, props, unplacedAll children⟩

/-- The nodes without their lines. -/
def unplacedAll : List Node → List Node
  | [] => []
  | n :: ns => n.unplaced :: unplacedAll ns

end

theorem unplacedAll_eq_map (ns : List Node) : unplacedAll ns = ns.map unplaced := by
  induction ns with
  | nil => rfl
  | cons n ns ih => rw [unplacedAll, ih, List.map_cons]

end Node

/-- The value is no floating-point number and no integer with more digits than are
    converted. -/
def Scalar.Plain : Scalar → Prop
  | .int i => (Text.decimalText i.natAbs).length ≤ Number.maxDigits
  | .float _ => False
  | .text _ | .bool _ | .null => True

/-- All values in the node are plain, and no key is given twice. -/
inductive Node.Plain : Node → Prop where
  | mk {n : Node} (args : ∀ v ∈ n.args, v.Plain) (props : ∀ p ∈ n.props, p.2.Plain)
      (distinct : (n.props.map (·.1)).Nodup) (children : ∀ c ∈ n.children, c.Plain) : n.Plain

theorem Scalar.Plain.exists_literal {v : Scalar} (h : v.Plain) : ∃ l : Literal, l.value = v := by
  cases v with
  | text s => exact ⟨.text ⟨s, .quoted, trivial⟩, rfl⟩
  | int i => exact ⟨.int i h, rfl⟩
  | float x => exact h.elim
  | bool b => exact ⟨.bool b true, rfl⟩
  | null => exact ⟨.null true, rfl⟩

theorem exists_entries {args : List Scalar} {props : Properties} (ha : ∀ v ∈ args, v.Plain)
    (hp : ∀ p ∈ props, p.2.Plain) : ∃ es, argsOf es = args ∧ propsOf es = props := by
  induction args with
  | cons v args ih =>
    obtain ⟨l, rfl⟩ := (ha v List.mem_cons_self).exists_literal
    obtain ⟨es, rfl, rfl⟩ := ih fun v hv => ha v (List.mem_cons_of_mem _ hv)
    exact ⟨.arg l :: es, rfl, rfl⟩
  | nil =>
    induction props with
    | nil => exact ⟨[], rfl, rfl⟩
    | cons p props ih =>
      obtain ⟨key, v⟩ := p
      obtain ⟨l, rfl⟩ := (hp (key, v) List.mem_cons_self).exists_literal
      obtain ⟨es, hargs, rfl⟩ := ih fun p hp' => hp p (List.mem_cons_of_mem _ hp')
      exact ⟨.prop ⟨key, .quoted, trivial⟩ l :: es, hargs, rfl⟩

theorem exists_trees {ns : List Node} (h : ∀ n ∈ ns, ∃ w : Written, w.tree = n.unplaced) :
    ∃ ws, Written.trees ws = ns.map Node.unplaced := by
  induction ns with
  | nil => exact ⟨[], rfl⟩
  | cons n ns ih =>
    obtain ⟨w, hw⟩ := h n List.mem_cons_self
    obtain ⟨ws, hws⟩ := ih fun n hn => h n (List.mem_cons_of_mem _ hn)
    exact ⟨w :: ws, by rw [Written.trees, hw, hws, List.map_cons]⟩

/-- A plain node can be written. -/
theorem Node.Plain.exists_written {n : Node} (h : n.Plain) :
    ∃ w : Written, w.tree = n.unplaced := by
  induction h with
  | @mk n args props distinct _ ih =>
    obtain ⟨es, hargs, hprops⟩ := exists_entries args props
    obtain ⟨ws, hws⟩ := exists_trees ih
    refine ⟨⟨⟨n.name, .quoted, trivial⟩, es, hprops ▸ distinct, ws⟩, ?_⟩
    obtain ⟨name, line, nargs, nprops, children⟩ := n
    rw [Written.tree, hargs, hprops, hws, Node.unplaced, Node.unplacedAll_eq_map]

end Folio.Schema
