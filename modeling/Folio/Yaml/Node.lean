/-
  Folio — the nodes of a document.

  A node is a scalar, a sequence or a mapping, with a tag.  Nodes are read from
  tokens by descending into the grammar, which needs one token of look-ahead.
  An alias is the node that its anchor names, with the same label.

  * `Node.ofText?` is the single document of a text;
  * tokens after an error are not looked at before they are needed, so the error
    reported is the one that comes first in the order of reading.
-/
import Folio.Yaml.Tag
import Folio.Yaml.Token.Scan
import Folio.Yaml.Value

namespace Folio.Yaml

/-- A node and the place where it starts. -/
inductive Node where
  | scalar (label : Label) (mark : Mark) (tag : Tag) (text : List Char)
  | sequence (label : Label) (mark : Mark) (tag : Tag) (items : List Node)
  | mapping (label : Label) (mark : Mark) (tag : Tag) (entries : List (Node × Node))
  deriving Repr, Inhabited

namespace Node

mutual

/-- Are the nodes equal, with their labels? -/
def isSame : Node → Node → Bool
  | .scalar l m t s, .scalar l' m' t' s' => l == l' && decide (m = m') && decide (t = t') && s == s'
  | .sequence l m t ns, .sequence l' m' t' ns' =>
    l == l' && decide (m = m') && decide (t = t') && areSame ns ns'
  | .mapping l m t es, .mapping l' m' t' es' =>
    l == l' && decide (m = m') && decide (t = t') && entriesAreSame es es'
  | _, _ => false

def areSame : List Node → List Node → Bool
  | [], [] => true
  | n :: ns, n' :: ns' => isSame n n' && areSame ns ns'
  | _, _ => false

def entriesAreSame : List (Node × Node) → List (Node × Node) → Bool
  | [], [] => true
  | (k, v) :: es, (k', v') :: es' => isSame k k' && isSame v v' && entriesAreSame es es'
  | _, _ => false

end

mutual

theorem isSame_iff : ∀ m n : Node, isSame m n = true ↔ m = n
  | .scalar .., n => by cases n <;> simp [isSame, and_assoc]
  | .sequence _ _ _ ns, n => by cases n <;> simp [isSame, areSame_iff ns, and_assoc]
  | .mapping _ _ _ es, n => by cases n <;> simp [isSame, entriesAreSame_iff es, and_assoc]

theorem areSame_iff : ∀ ms ns : List Node, areSame ms ns = true ↔ ms = ns
  | [], ns => by cases ns <;> simp [areSame]
  | m :: ms, ns => by cases ns <;> simp [areSame, isSame_iff m, areSame_iff ms]

theorem entriesAreSame_iff : ∀ es fs : List (Node × Node), entriesAreSame es fs = true ↔ es = fs
  | [], fs => by cases fs <;> simp [entriesAreSame]
  | (k, v) :: es, fs => by
    cases fs <;> simp [entriesAreSame, isSame_iff k, isSame_iff v, entriesAreSame_iff es, Prod.ext_iff]

end

instance : DecidableEq Node := fun m n => decidable_of_iff _ (isSame_iff m n)

/-- Where the node starts. -/
def mark : Node → Mark
  | .scalar _ m _ _ | .sequence _ m _ _ | .mapping _ m _ _ => m

/-- What tells the value of the node apart, if an anchor names the node. -/
def label : Node → Label
  | .scalar l _ _ _ | .sequence l _ _ _ | .mapping l _ _ _ => l

/-- The tag of the node. -/
def tag : Node → Tag
  | .scalar _ _ t _ | .sequence _ _ t _ | .mapping _ _ t _ => t

/-- What messages call the kind of the node. -/
def kindName : Node → String
  | .scalar .. => "scalar"
  | .sequence .. => "sequence"
  | .mapping .. => "mapping"

/-- The node with another tag. -/
def withTag (t : Tag) : Node → Node
  | .scalar l m _ s => .scalar l m t s
  | .sequence l m _ items => .sequence l m t items
  | .mapping l m _ entries => .mapping l m t entries

mutual

/-- How deep the node is nested; a scalar has the height one. -/
def height : Node → Nat
  | .scalar .. => 1
  | .sequence _ _ _ items => itemsHeight items + 1
  | .mapping _ _ _ entries => entriesHeight entries + 1

/-- The height of the highest of some nodes. -/
def itemsHeight : List Node → Nat
  | [] => 0
  | n :: ns => max (height n) (itemsHeight ns)

/-- The height of the highest node of some entries. -/
def entriesHeight : List (Node × Node) → Nat
  | [] => 0
  | (k, v) :: es => max (max (height k) (height v)) (entriesHeight es)

end

/-! ## Signs that are read in more than one way

A sign for a value becomes a text, and a sign for merging goes away, as soon as a mapping
is built or merged that has it as a key.  Where an alias refers to the sign, or to
something around it, what is built of the alias depends on the order of building. -/

/-- Is the node a sign for merging as a key? -/
def isMerging : Node → Bool
  | .mapping _ _ _ entries => entries.any fun e => e.1.tag == .merge
  | _ => false

/-- Can the key be read in one way only?  `shared` says whether an alias may refer to its
    mapping. -/
def isClearKey (shared : Bool) (key : Node) : Bool :=
  match key.tag, key with
  | .merge, .scalar .. => true
  | .merge, _ => false
  | .value, _ => !shared && key.label.isNone
  | _, _ => true

mutual

/-- Can the node be read in one way only? -/
def isClearIn (shared : Bool) : Node → Bool
  | .scalar .. => true
  | .sequence label _ tag items =>
    itemsAreClear (shared || label.isSome) (tag == .orderedMap || tag == .pairs) items
  | .mapping label _ _ entries => entriesAreClear (shared || label.isSome) entries

/-- Can some items be read in one way only?  `asPairs` says whether they are to be pairs. -/
def itemsAreClear (shared asPairs : Bool) : List Node → Bool
  | [] => true
  | n :: ns =>
    !((shared || n.label.isSome) && asPairs && n.isMerging) && isClearIn shared n &&
      itemsAreClear shared asPairs ns

/-- Can some entries be read in one way only? -/
def entriesAreClear (shared : Bool) : List (Node × Node) → Bool
  | [] => true
  | (k, v) :: es =>
    isClearKey shared k && isClearIn shared k && isClearIn shared v && entriesAreClear shared es

end

/-- Can the document be read in one way only? -/
def isClear (n : Node) : Bool := isClearIn false n

end Node

/-! ## Reading tokens -/

/-- A node that an anchor names; while the node is being read it is not known. -/
structure Anchored where
  name : List Char
  mark : Mark
  node : Option Node

/-- What is known between two nodes. -/
structure Reading where
  /-- Are timestamps told from texts? -/
  timestamps : Bool
  /-- The tokens to come. -/
  tokens : List Token
  /-- Why there are no more. -/
  error : Option Error
  /-- The short forms of tags in this document. -/
  handles : List (List Char × List Char)
  /-- The anchors so far, latest first. -/
  anchors : List Anchored

/-- An action that reads tokens. -/
abbrev Reader (α : Type) := StateT Reading (Except Error) α

namespace Reader

/-- The next token. -/
def peek : Reader Token := do
  let r ← get
  match r.tokens with
  | t :: _ => return t
  | [] => throw (r.error.getD (.marked none .endOfStream ⟨0, 0, 0⟩))

/-- Past the next token. -/
def drop : Reader Unit := modify fun r => { r with tokens := r.tokens.drop 1 }

/-- An error at a place, in something that started at a place. -/
def fail {α : Type} (activity : Activity) (start : Mark) (problem : Problem) (mark : Mark) :
    Reader α :=
  throw (.marked (some (activity, some start)) problem mark)

/-! ## Properties of nodes -/

/-- The anchor and the tag of a node, in either order, with the place where they
    start and the place of the tag. -/
structure Properties where
  anchor : Option (List Char)
  tag : Option (Option (List Char) × List Char)
  start : Option Mark
  tagMark : Mark

/-- An anchor, if one comes next. -/
def anchor? : Reader (Option (List Char × Mark)) := do
  let t ← peek
  match t.kind with
  | .anchor name => drop; return some (name, t.start)
  | _ => return none

/-- A tag, if one comes next. -/
def tag? : Reader (Option ((Option (List Char) × List Char) × Mark)) := do
  let t ← peek
  match t.kind with
  | .tag handle suffix => drop; return some ((handle, suffix), t.start)
  | _ => return none

/-- The properties that come next. -/
def properties : Reader Properties := do
  match ← anchor? with
  | some (name, start) =>
    match ← tag? with
    | some (tag, m) => return ⟨some name, some tag, some start, m⟩
    | none => return ⟨some name, none, some start, start⟩
  | none =>
    match ← tag? with
    | some (tag, start) =>
      let anchor ← anchor?
      return ⟨anchor.map (·.1), some tag, some start, start⟩
    | none => return ⟨none, none, none, ⟨0, 0, 0⟩⟩

/-- The tag that a handle and a suffix stand for; the non-specific tag is left
    as it is. -/
def resolve (p : Properties) : Reader (Option (List Char)) := do
  match p.tag with
  | none => return none
  | some (none, suffix) => return some suffix
  | some (some handle, suffix) =>
    match (← get).handles.lookup handle with
    | some uri => return some (uri ++ suffix)
    | none =>
      fail .node (p.start.getD p.tagMark) (.undefinedHandle handle) p.tagMark

/-- Is a tag absent or the non-specific one? -/
def isOpen (tag : Option (List Char)) : Bool := tag.all (· == ['!'])

/-- The tag of a scalar. -/
def scalarTag (tag : Option (List Char)) (plain : Bool) (text : List Char) : Reader Tag := do
  let timestamps := (← get).timestamps
  match tag with
  | none => return if plain then .ofPlain timestamps text else .str
  | some t => return if t == ['!'] then .ofPlain timestamps text else .ofUri t

/-- The tag of a collection. -/
def collectionTag (tag : Option (List Char)) (default : Tag) : Tag :=
  if isOpen tag then default else ((tag.map Tag.ofUri).getD default)

/-- The label of a node with these properties, whose anchor is noted; an anchor
    may not be used twice. -/
def label (p : Properties) (mark : Mark) : Reader Label := do
  match p.anchor with
  | none => return none
  | some name =>
    let r ← get
    match r.anchors.find? fun a => a.name == name with
    | some a => fail (.firstAnchor name) a.mark .secondAnchor mark
    | none =>
      set { r with anchors := ⟨name, mark, none⟩ :: r.anchors }
      return some r.anchors.length

/-- The node is what its anchor names. -/
def define (p : Properties) (n : Node) : Reader Node := do
  match p.anchor with
  | none => return n
  | some name =>
    modify fun r =>
      { r with
        anchors := r.anchors.map fun a => if a.name == name then { a with node := some n } else a }
    return n

/-- The node of an alias. -/
def aliased (name : List Char) (mark : Mark) : Reader Node := do
  let r ← get
  match (r.anchors.find? fun a => a.name == name).map (·.node) with
  | some (some n) => return n
  | some none => throw (.misfit (.unclear .loop))
  | none => throw (.marked none (.undefinedAlias name) mark)

/-- A scalar that is not written. -/
def empty (mark : Mark) : Reader Node := do
  return .scalar none mark (.ofPlain (← get).timestamps []) []

/-- Is the token one of these? -/
def isOneOf (t : Token) (kinds : List TokenKind) : Bool := kinds.contains t.kind

/-! ## Nodes

Every step below goes past a token or descends into a smaller part of the
grammar, and between two tokens there are at most three descents.  So four times
the number of tokens bounds the number of steps. -/

mutual

/-- A node; block collections only where `block` allows them, and a sequence
    without an indentation of its own only where `indentless` does. -/
def node : (fuel : Nat) → (block indentless : Bool) → Reader Node
  | 0, _, _ => throw (.marked none .endOfStream ⟨0, 0, 0⟩)
  | fuel + 1, block, indentless => do
    let t ← peek
    match t.kind with
    | .alias name => drop; aliased name t.start
    | _ =>
      let p ← properties
      let tag ← resolve p
      let t ← peek
      let start := p.start.getD t.start
      match t.kind with
      | .scalar plain text =>
        drop
        let label ← label p start
        define p (.scalar label start (← scalarTag tag plain text) text)
      | .flowSequenceStart =>
        let label ← label p start
        drop
        let items ← flowSequence fuel t.start true
        define p (.sequence label start (collectionTag tag .seq) items)
      | .flowMappingStart =>
        let label ← label p start
        drop
        let entries ← flowMapping fuel t.start true
        define p (.mapping label start (collectionTag tag .map) entries)
      | kind =>
        if kind == .blockEntry && indentless then
          let label ← label p start
          let items ← indentlessSequence fuel
          define p (.sequence label start (collectionTag tag .seq) items)
        else if kind == .blockSequenceStart && block then
          let label ← label p start
          drop
          let items ← blockSequence fuel t.start
          define p (.sequence label start (collectionTag tag .seq) items)
        else if kind == .blockMappingStart && block then
          let label ← label p start
          drop
          let entries ← blockMapping fuel t.start
          define p (.mapping label start (collectionTag tag .map) entries)
        else if p.anchor.isSome || tag.isSome then
          let label ← label p start
          define p (.scalar label start (← scalarTag tag true []) [])
        else
          fail (if block then .blockNode else .flowNode) start (.noContent kind.name) t.start

/-- The entries of a block sequence that started at a place. -/
def blockSequence : (fuel : Nat) → (start : Mark) → Reader (List Node)
  | 0, _ => return []
  | fuel + 1, start => do
    let t ← peek
    if t.kind == .blockEntry then
      drop
      let item ←
        if isOneOf (← peek) [.blockEntry, .blockEnd] then empty t.stop
        else node fuel true false
      return item :: (← blockSequence fuel start)
    else if t.kind == .blockEnd then
      drop
      return []
    else fail .blockCollection start (.notBlockEnd t.kind.name) t.start

/-- The entries of a sequence without an indentation of its own. -/
def indentlessSequence : (fuel : Nat) → Reader (List Node)
  | 0 => return []
  | fuel + 1 => do
    let t ← peek
    if t.kind == .blockEntry then
      drop
      let item ←
        if isOneOf (← peek) [.blockEntry, .key, .value, .blockEnd] then empty t.stop
        else node fuel true false
      return item :: (← indentlessSequence fuel)
    else return []

/-- The entries of a block mapping that started at a place. -/
def blockMapping : (fuel : Nat) → (start : Mark) → Reader (List (Node × Node))
  | 0, _ => return []
  | fuel + 1, start => do
    let t ← peek
    if t.kind == .key then
      drop
      let key ← blockPart fuel t
      let v ← peek
      let value ←
        if v.kind == .value then do
          drop
          blockPart fuel v
        else empty v.start
      return (key, value) :: (← blockMapping fuel start)
    else if t.kind == .blockEnd then
      drop
      return []
    else fail .blockMapping start (.notBlockEnd t.kind.name) t.start

/-- A key or a value of a block mapping after its sign. -/
def blockPart : (fuel : Nat) → (sign : Token) → Reader Node
  | 0, sign => empty sign.stop
  | fuel + 1, sign => do
    if isOneOf (← peek) [.key, .value, .blockEnd] then empty sign.stop
    else node fuel true true

/-- A key or a value inside brackets after its sign, which one of some tokens
    may end at once. -/
def flowPart : (fuel : Nat) → (sign : Token) → (ends : List TokenKind) → Reader Node
  | 0, sign, _ => empty sign.stop
  | fuel + 1, sign, ends => do
    if isOneOf (← peek) ends then empty sign.stop else node fuel false false

/-- The value after a key inside brackets. -/
def flowValue : (fuel : Nat) → (ends : List TokenKind) → Reader Node
  | 0, _ => empty ⟨0, 0, 0⟩
  | fuel + 1, ends => do
    let v ← peek
    if v.kind == .value then
      drop
      flowPart fuel v ends
    else empty v.start

/-- The items of a flow sequence that started at a place. -/
def flowSequence : (fuel : Nat) → (start : Mark) → (first : Bool) → Reader (List Node)
  | 0, _, _ => return []
  | fuel + 1, start, first => do
    let t ← peek
    if t.kind != .flowSequenceEnd then
      if !first then
        if t.kind == .flowEntry then drop
        else fail .flowSequence start (.notCommaOrBracket t.kind.name) t.start
      let t ← peek
      if t.kind == .key then
        drop
        let key ← flowPart fuel t [.value, .flowEntry, .flowSequenceEnd]
        let value ← flowValue fuel [.flowEntry, .flowSequenceEnd]
        return .mapping none t.start .map [(key, value)] :: (← flowSequence fuel start false)
      else if t.kind != .flowSequenceEnd then
        let item ← node fuel false false
        return item :: (← flowSequence fuel start false)
    drop
    return []

/-- The entries of a flow mapping that started at a place. -/
def flowMapping : (fuel : Nat) → (start : Mark) → (first : Bool) → Reader (List (Node × Node))
  | 0, _, _ => return []
  | fuel + 1, start, first => do
    let t ← peek
    if t.kind != .flowMappingEnd then
      if !first then
        if t.kind == .flowEntry then drop
        else fail .flowMapping start (.notCommaOrBrace t.kind.name) t.start
      let t ← peek
      if t.kind == .key then
        drop
        let key ← flowPart fuel t [.value, .flowEntry, .flowMappingEnd]
        let value ← flowValue fuel [.flowEntry, .flowMappingEnd]
        return (key, value) :: (← flowMapping fuel start false)
      else if t.kind != .flowMappingEnd then
        let key ← node fuel false false
        let value ← empty (← peek).start
        return (key, value) :: (← flowMapping fuel start false)
    drop
    return []

end

/-! ## Documents -/

/-- The short forms of tags that every document has. -/
def defaultHandles : List (List Char × List Char) :=
  [(['!'], ['!']), (['!', '!'], Tag.base.toList)]

/-- The directives that come next: has a version been given, and which short
    forms of tags. -/
def directives : (fuel : Nat) → (versioned : Bool) → (handles : List (List Char × List Char)) →
    Reader (List (List Char × List Char))
  | 0, _, handles => return handles
  | fuel + 1, versioned, handles => do
    let t ← peek
    match t.kind with
    | .version major _ =>
      drop
      if versioned then throw (.marked none .duplicateVersion t.start)
      if major ≠ 1 then throw (.marked none .incompatibleVersion t.start)
      directives fuel true handles
    | .handle h uri =>
      drop
      if (handles.lookup h).isSome then throw (.marked none (.duplicateHandle h) t.start)
      directives fuel versioned (handles ++ [(h, uri)])
    | .otherDirective =>
      drop
      directives fuel versioned handles
    | _ => return handles

/-- The directives of a document and the line that starts it. -/
def documentStart (fuel : Nat) : Reader Unit := do
  let handles ← directives fuel false []
  modify fun r => { r with handles := handles ++ defaultHandles }
  let t ← peek
  if t.kind != .documentStart then
    throw (.marked none (.notDocumentStart t.kind.name) t.start)
  drop

/-- Past the lines that end documents. -/
def skipDocumentEnds : (fuel : Nat) → Reader Unit
  | 0 => return ()
  | fuel + 1 => do
    if (← peek).kind == .documentEnd then
      drop
      skipDocumentEnds fuel

/-- The first document of a stream, if it has any. -/
def firstDocument (fuel : Nat) : Reader (Option Node) := do
  drop
  let t ← peek
  if t.kind == .streamEnd then return none
  if t.kind.isDirective || t.kind == .documentStart then
    documentStart fuel
    let t ← peek
    if t.kind.isDirective ||
        isOneOf t [.documentStart, .documentEnd, .streamEnd] then
      return some (← empty t.start)
    return some (← node fuel true false)
  else
    modify fun r => { r with handles := defaultHandles }
    return some (← node fuel true false)

/-- The only document of a stream, if it has any; a second one is an error. -/
def singleDocument (fuel : Nat) : Reader (Option Node) := do
  match ← firstDocument fuel with
  | none => return none
  | some n =>
    skipDocumentEnds fuel
    let t ← peek
    if t.kind == .streamEnd then return some n
    documentStart fuel
    fail .single n.mark .secondDocument t.start

end Reader

/-! ## Texts -/

/-- May the character stand in a text? -/
def isAcceptable (c : Char) : Bool :=
  let n := c.toNat
  n == 0x09 || n == 0x0A || n == 0x0D || (0x20 ≤ n && n ≤ 0x7E) || n == 0x85 ||
    (0xA0 ≤ n && n ≤ 0xD7FF) || (0xE000 ≤ n && n ≤ 0xFFFD) || 0x10000 ≤ n

/-- The document of a text, if it has one; `timestamps` says whether timestamps
    are told from texts. -/
def Node.ofText? (timestamps : Bool) (text : List Char) : Except Error (Option Node) :=
  match text.findIdx? fun c => !isAcceptable c with
  | some i => .error (.unacceptable (text[i]?.getD '\x00') i)
  | none =>
    let tokens := Token.scan text
    let reading : Reading :=
      { timestamps, tokens := tokens.items, error := tokens.error, handles := [], anchors := [] }
    ((Reader.singleDocument (4 * tokens.items.length + 16)).run reading).map (·.1)

end Folio.Yaml
