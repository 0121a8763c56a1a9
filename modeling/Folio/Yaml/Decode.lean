/-
  Folio — the value of a document.

  A value is built from a node in rounds.  A scalar is converted in the round
  that meets it; a collection is made empty, and the next round fills it.  All
  faults are noted with their round, and the one reported is the first of the
  earliest round.  So the values at the top of a document are checked before
  those inside them.

  What a reader of YAML may choose is in its `Rules`.

  * `Yaml.decode` is the value of a text.
-/
import Folio.Yaml.Conversion
import Folio.Yaml.Display
import Folio.Yaml.Node

namespace Folio.Yaml

/-- The choices of a reader. -/
structure Rules where
  /-- Are timestamps told from texts? -/
  timestamps : Bool
  /-- Is it an error if a mapping has a scalar key twice? -/
  uniqueKeys : Bool
  deriving Repr, DecidableEq

/-- A fault and the round in which it is met. -/
abbrev Fault := Nat × Error

/-- A value, sound if there are no faults. -/
structure Built (α : Type) where
  value : α
  faults : List Fault
  deriving DecidableEq

namespace Built

/-- A value without faults. -/
def sound {α : Type} (value : α) : Built α := ⟨value, []⟩

/-- The first fault of the earliest round. -/
def earliest? (faults : List Fault) : Option Fault :=
  faults.foldl (fun best f =>
    match best with
    | none => some f
    | some b => if f.1 < b.1 then some f else some b) none

/-- The value, if there are no faults. -/
def result {α : Type} (b : Built α) : Except Error α :=
  match earliest? b.faults with
  | none => .ok b.value
  | some f => .error f.2

/-- The value of a conversion in a round. -/
def ofExcept {α : Type} (round : Nat) (default : α) : Except Error α → Built α
  | .ok v => ⟨v, []⟩
  | .error e => ⟨default, [(round, e)]⟩

end Built

namespace Build

/-! ## Scalars -/

/-- The text of a scalar.  A mapping may give one under the value sign. -/
def scalarText : (fuel : Nat) → Node → Except Error (List Char)
  | _, .scalar _ _ _ text => .ok text
  | 0, n => .error (.marked none (.kind "a scalar node" n.kindName) n.mark)
  | fuel + 1, n =>
    let inner : Option (Node × Node) :=
      match n with
      | .mapping _ _ _ entries => entries.find? fun e => e.1.tag == .value
      | _ => none
    match inner with
    | some e => scalarText fuel e.2
    | none => .error (.marked none (.kind "a scalar node" n.kindName) n.mark)

/-- The value of a scalar that a conversion fits. -/
def scalar {α : Type} (fuel round : Nat) (n : Node) (convert : List Char → Except Error α)
    (wrap : α → Value) : Built Value :=
  .ofExcept round .null (do return wrap (← convert (← scalarText fuel n)))

/-- A conversion whose faults have no place. -/
def unplaced {α : Type} (convert : List Char → Except Misfit α) (cs : List Char) :
    Except Error α :=
  (convert cs).mapError .misfit

/-- The timestamp of a node. -/
def time (fuel round : Nat) (label : Label) (n : Node) : Built Value :=
  match n, scalarText fuel n with
  | .mapping .., .ok _ => ⟨.null, [(round, .misfit .mappingTime)]⟩
  | _, _ => scalar fuel round n (unplaced Conversion.timestamp) (.time label)

/-! ## Merging -/

mutual

/-- The entries of a mapping with those of the mappings that it merges before
    them.  A value sign as a key is a text. -/
def mergeEntries : (fuel : Nat) → (owner : Mark) → List (Node × Node) →
    Except Error (List (Node × Node))
  | 0, _, entries => .ok entries
  | fuel + 1, owner, entries => do
    let merged ← (entries.filter fun e => e.1.tag == .merge).mapM fun e =>
      mergedEntries fuel owner e.2
    let own := (entries.filter fun e => e.1.tag != .merge).map fun e =>
      if e.1.tag == .value then (e.1.withTag .str, e.2) else e
    return merged.flatten ++ own

/-- The entries that a merged node contributes: those of a mapping, or those of
    the mappings of a list, the last first. -/
def mergedEntries : (fuel : Nat) → (owner : Mark) → Node → Except Error (List (Node × Node))
  | 0, _, _ => .ok []
  | fuel + 1, owner, n =>
    match n with
    | .mapping _ m _ entries => mergeEntries fuel m entries
    | .sequence _ _ _ items => do
      let parts ← items.mapM fun item =>
        match item with
        | .mapping _ m _ entries => mergeEntries fuel m entries
        | other =>
          .error (.marked (some (.mapping, some owner))
            (.kind "a mapping for merging" other.kindName) other.mark)
      return parts.reverse.flatten
    | .scalar .. =>
      .error (.marked (some (.mapping, some owner))
        (.kind "a mapping or list of mappings for merging" n.kindName) n.mark)

end

/-! ## Nodes -/

/-- The error of a key that its mapping has already.  It shows the key. -/
def repeated (start m : Mark) (key : Value) : Error :=
  if key.isWritable then .marked (some (.mapping, some start)) (.duplicateKey key.shown) m
  else .misfit (.number .longText)

/-- The faults of the scalar keys of a mapping that starts at a place, given the
    keys before. -/
def keyFaults (round : Nat) (start : Mark) :
    (seen : List Value) → List (Mark × Built Value) → List Fault
  | _, [] => []
  | seen, (m, key) :: rest =>
    let here : List Fault :=
      if !key.value.isKey then [(round, .misfit .collectionKey)]
      else if seen.any (·.same key.value) then [(round, repeated start m key.value)]
      else []
    key.faults ++ here ++ keyFaults round start (key.value :: seen) rest

/-- The fault of a node that should be a mapping, in the eyes of a reader that
    looks at the keys first. -/
def entriesFault (rules : Rules) (n : Node) : Error :=
  let kind := Error.marked none (.kind "a mapping node" n.kindName) n.mark
  match rules.uniqueKeys, n with
  | true, .scalar _ _ _ (_ :: _) => .misfit .scalarEntries
  | true, .sequence _ _ _ (_ :: _) => .misfit .sequenceEntries
  | _, _ => kind

mutual

/-- The value of a node that is met in a round. -/
def value (rules : Rules) : (fuel round : Nat) → Node → Built Value
  | 0, _, _ => .sound .null
  | fuel + 1, round, n =>
    let label := n.label
    match n.tag with
    | .null => scalar fuel round n .ok fun _ => .null
    | .bool => scalar fuel round n (unplaced Conversion.bool) .bool
    | .int => scalar fuel round n (unplaced Conversion.int) .int
    | .float => scalar fuel round n (unplaced (Conversion.float n.mark.index)) .float
    | .str => scalar fuel round n .ok fun cs => .text (String.ofList cs)
    | .binary =>
      scalar fuel round n
        (fun cs => (Conversion.binary cs).mapError fun p => .marked none p n.mark) .octets
    | .timestamp => time fuel round label n
    | .seq =>
      let items := sequence rules fuel (round + 1) n
      ⟨.list label items.value, items.faults⟩
    | .map =>
      let es := entries rules fuel (round + 1) n
      ⟨.map label es.value, es.faults⟩
    | .set =>
      let es := entries rules fuel (round + 1) n
      ⟨.set label es.value.keys, es.faults⟩
    | .orderedMap =>
      let items := pairs rules fuel (round + 1) .orderedMap n
      ⟨.list label items.value, items.faults⟩
    | .pairs =>
      let items := pairs rules fuel (round + 1) .pairs n
      ⟨.list label items.value, items.faults⟩
    | tag => ⟨.null, [(round, .marked none (.unknownTag tag.uri) n.mark)]⟩

/-- The items of a sequence. -/
def sequence (rules : Rules) : (fuel round : Nat) → Node → Built (List Value)
  | 0, _, _ => .sound []
  | fuel + 1, round, n =>
    match n with
    | .sequence _ _ _ items =>
      let built := items.map fun item => value rules fuel round item
      ⟨built.map (·.value), built.flatMap (·.faults)⟩
    | _ => ⟨[], [(round, .marked none (.kind "a sequence node" n.kindName) n.mark)]⟩

/-- The entries of a mapping. -/
def entries (rules : Rules) : (fuel round : Nat) → Node → Built Entries
  | 0, _, _ => .sound []
  | fuel + 1, round, n =>
    match n with
    | .mapping _ start _ es =>
      let keys :=
        if rules.uniqueKeys then
          es.filterMap fun e =>
            match e.1 with
            | .scalar _ m _ _ => some (m, value rules fuel round e.1)
            | _ => none
        else []
      let merged := Built.ofExcept round [] (mergeEntries fuel start es)
      let built := merged.value.map fun e =>
        (e.1.mark, value rules fuel round e.1, value rules fuel round e.2)
      let faults := built.flatMap fun (m, key, val) =>
        let unhashable : List Fault :=
          if key.value.isKey then []
          else [(round, .marked (some (.mapping, some start)) .unhashableKey m)]
        key.faults ++ unhashable ++ val.faults
      ⟨built.foldl (fun es (_, key, val) => es.put key.value val.value) [],
        keyFaults round start [] keys ++ merged.faults ++ faults⟩
    | _ => ⟨[], [(round, entriesFault rules n)]⟩

/-- The pairs of an ordered map: mappings of one entry each. -/
def pairs (rules : Rules) : (fuel round : Nat) → Activity → Node → Built (List Value)
  | 0, _, _, _ => .sound []
  | fuel + 1, round, activity, n =>
    match n with
    | .sequence _ start _ items =>
      let built := items.map fun item =>
        match item with
        | .mapping _ _ _ [e] =>
          let key := value rules fuel round e.1
          let val := value rules fuel round e.2
          (⟨.pair key.value val.value, key.faults ++ val.faults⟩ : Built Value)
        | .mapping _ m _ es =>
          ⟨.null, [(round, .marked (some (activity, some start)) (.itemCount es.length) m)]⟩
        | other =>
          ⟨.null, [(round, .marked (some (activity, some start))
            (.kind "a mapping of length 1" other.kindName) other.mark)]⟩
      ⟨built.map (·.value), built.flatMap (·.faults)⟩
    | _ =>
      ⟨[], [(round, .marked (some (activity, some n.mark))
        (.kind "a sequence" n.kindName) n.mark)]⟩

end

end Build

/-- The value of a document.  Building takes two steps from a node to those inside of it,
    and one more for a scalar. -/
def Node.value (rules : Rules) (n : Node) : Except Error Value :=
  if n.isClear then (Build.value rules (2 * n.height + 1) 0 n).result
  else .error (.misfit (.unclear .sign))

/-- The value of a text; an empty text is null. -/
def decode (rules : Rules) (text : List Char) : Except Error Value := do
  match ← Node.ofText? rules.timestamps text with
  | none => return .null
  | some n => n.value rules

end Folio.Yaml
