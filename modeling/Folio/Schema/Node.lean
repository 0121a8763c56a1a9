/-
  Folio — the nodes of a schema source.

  A node has a name, values, properties and nodes inside of it.  Nodes are read
  token by token: the reader keeps the nodes whose braces are open, each with the
  nodes before it.

  * `Node.read` reads tokens, `Node.ofSource` a source;
  * `Properties.put`: a key that is given again keeps its place and takes the
    last value.
-/
import Folio.Schema.Scan

namespace Folio.Schema

/-- Keys and values, in the order in which the keys first stand. -/
abbrev Properties := List (String × Scalar)

namespace Properties

/-- The properties with a value under a key. -/
def put (key : String) (value : Scalar) : Properties → Properties
  | [] => [(key, value)]
  | p :: ps => if p.1 = key then (key, value) :: ps else p :: put key value ps

end Properties

/-- A node of a schema source. -/
structure Node where
  name : String
  /-- The line of the name. -/
  line : Nat
  args : List Scalar
  props : Properties
  children : List Node
  deriving Repr, Inhabited

namespace Node

mutual

/-- Are the nodes equal? -/
def isSame : Node → Node → Bool
  | ⟨a, l, xs, ps, ms⟩, ⟨b, k, ys, qs, ns⟩ =>
    a == b && l == k && decide (xs = ys) && decide (ps = qs) && areSame ms ns

def areSame : List Node → List Node → Bool
  | [], [] => true
  | m :: ms, n :: ns => isSame m n && areSame ms ns
  | _, _ => false

end

mutual

theorem isSame_iff : ∀ m n : Node, isSame m n = true ↔ m = n
  | ⟨_, _, _, _, ms⟩, ⟨_, _, _, _, ns⟩ => by simp [isSame, areSame_iff ms ns, and_assoc]

theorem areSame_iff : ∀ ms ns : List Node, areSame ms ns = true ↔ ms = ns
  | [], ns => by cases ns <;> simp [areSame]
  | m :: ms, ns => by cases ns <;> simp [areSame, isSame_iff m, areSame_iff ms]

end

instance : DecidableEq Node := fun m n => decidable_of_iff _ (isSame_iff m n)

/-- A node of which only the name is read. -/
def named (name : String) (line : Nat) : Node := ⟨name, line, [], [], []⟩

/-- A node with one value more. -/
def addArg (n : Node) (value : Scalar) : Node := { n with args := n.args ++ [value] }

/-- A node with one property more. -/
def addProp (n : Node) (key : String) (value : Scalar) : Node :=
  { n with props := n.props.put key value }

/-- The nodes whose braces are open, innermost first, each with the nodes before
    it, latest first. -/
abbrev Enclosing := List (Node × List Node)

/-- The error that something which is no name stands before a sign of equality:
    it may be no value either. -/
def noKey (kind : TokenKind) (line equals : Nat) : SchemaError :=
  if kind.value?.isSome then .located (.expectedValue .equals) equals
  else .located (.expectedValue kind) line

/-- Reads tokens.  The nodes of the innermost brace that are read come latest
    first; `current` is the node whose line goes on. -/
def read (enclosing : Enclosing) (before : List Node) (current : Option Node) :
    List Token → Except SchemaError (List Node)
  | [] => .ok (current.toList ++ before).reverse
  | ⟨.newline, _⟩ :: tokens | ⟨.semicolon, _⟩ :: tokens =>
    read enclosing (current.toList ++ before) none tokens
  | ⟨.ending, line⟩ :: _ =>
    if enclosing.isEmpty then .ok (current.toList ++ before).reverse
    else .error (.located .unclosed line)
  | ⟨.closing, line⟩ :: tokens =>
    match enclosing with
    | [] => .error (.located .unopened line)
    | (n, outer) :: enclosing =>
      read enclosing ({ n with children := (current.toList ++ before).reverse } :: outer) none
        tokens
  | ⟨kind, line⟩ :: tokens =>
    match current with
    | none =>
      match kind.name? with
      | none => .error (.located (.expectedName kind) line)
      | some name => read enclosing before (some (named name line)) tokens
    | some n =>
      if kind = .opening then read ((n, before) :: enclosing) [] none tokens
      else
        match tokens with
        | ⟨.equals, l⟩ :: value :: tokens =>
          match kind.name?, value.kind.value? with
          | some key, some v => read enclosing before (some (n.addProp key v)) tokens
          | some _, none => .error (.located (.expectedValue value.kind) value.line)
          | none, _ => .error (noKey kind line l)
        | tokens =>
          match kind.value? with
          | none => .error (.located (.expectedValue kind) line)
          | some value => read enclosing before (some (n.addArg value)) tokens

/-- The nodes of tokens. -/
def ofTokens (tokens : List Token) : Except SchemaError (List Node) := read [] [] none tokens

/-- The nodes of a source. -/
def ofSource (source : String) : Except SchemaError (List Node) :=
  match Token.ofSource source.toList with
  | .error e => .error e
  | .ok tokens => ofTokens tokens

end Node

end Folio.Schema
