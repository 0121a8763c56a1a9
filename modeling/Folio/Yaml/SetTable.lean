/-
  Folio — the order in which sets list their members.

  A set is a table.  The hash of a member leads to a sequence of places, and the
  member goes to the first free one of them; a table that fills up is built anew with
  more places.  The members are listed in the order of their places, so the order
  depends on how the set came about: a set that is read takes over the keys of a
  mapping, and a copy of a set takes the members as the set lists them.

  The hash of a number is fixed; other hashes differ from run to run (`Hashing`), and
  messages are those of a run where they are all zero.

  * `Value.copied` is a copy of a value: the same value, but for the order in which
    its sets list their members.
-/
import Folio.Yaml.Value

namespace Folio

/-! ## Tables -/

/-- A table of members of a set.  The number of its places is a power of two. -/
structure SetTable (α : Type) where
  /-- The number of places. -/
  size : Nat
  /-- The places that are taken, with the hash of the member there. -/
  taken : List (Nat × Nat × α)

namespace SetTable
variable {α : Type}

/-- The least number of places. -/
def minSize : Nat := 8

/-- How many places after a place are tried with it. -/
def reach : Nat := 9

/-- The places that are tried together, if they are all in the table. -/
def nearby (size place : Nat) : List Nat :=
  if place + reach < size then List.range' place (reach + 1) else [place]

/-- The place for a member, from a place on.  What is left of its hash leads on, and when
    nothing is left every place comes in its turn. -/
def freePlace (size : Nat) (taken : List Nat) : (fuel : Nat) → (hash place : Nat) → Nat
  | 0, _, place => place
  | fuel + 1, hash, place =>
    match (nearby size place).find? fun p => !taken.contains p with
    | some p => p
    | none =>
      let hash := hash / 32
      freePlace size taken fuel hash ((5 * place + 1 + hash) % size)

/-- The table without members. -/
def empty (size : Nat) : SetTable α := ⟨size, []⟩

/-- The members with their hashes, in the order of their places. -/
def listed (t : SetTable α) : List (Nat × α) :=
  (t.taken.mergeSort fun x y => x.1 ≤ y.1).map (·.2)

/-- The table with a member more, which has a place in it. -/
def place (t : SetTable α) (x : Nat × α) : SetTable α :=
  { t with
    taken := (freePlace t.size (t.taken.map (·.1)) (t.size + 16) x.1 (x.1 % t.size), x) :: t.taken }

/-- The least size beyond a number. -/
def sizeBeyond (n : Nat) : Nat := if n < minSize then minSize else 1 <<< (Nat.log2 n + 1)

/-- A table of a size beyond a number with the same members. -/
def resize (n : Nat) (t : SetTable α) : SetTable α := t.listed.foldl place (empty (sizeBeyond n))

/-- Are so many members too many for a table? -/
def isFull (size members : Nat) : Bool := (size - 1) * 3 ≤ members * 5

/-- The table with a member more.  A table that fills up grows. -/
def add (t : SetTable α) (x : Nat × α) : SetTable α :=
  let t := t.place x
  let n := t.taken.length
  if isFull t.size n then t.resize (if 50000 < n then 2 * n else 4 * n) else t

/-- The table that takes members one by one. -/
def ofList (xs : List (Nat × α)) : SetTable α := xs.foldl add (empty minSize)

/-- The table that takes over the keys of a mapping, with room for them all. -/
def ofKeys (xs : List (Nat × α)) : SetTable α :=
  xs.foldl add
    (empty (if isFull minSize xs.length then sizeBeyond (2 * xs.length) else minSize))

end SetTable

/-! ## Hashes -/

/-- The hashes of the values that are no numbers. -/
abbrev Hashing := Value → Nat

/-- All these hashes are zero. -/
def Hashing.zero : Hashing := fun _ => 0

namespace Value

/-- The number that hashes are counted up to. -/
def hashPrime : Nat := 1 <<< 61 - 1

/-- The hash of an integer that is its own hash. -/
def signedHash (i : Int) : Nat :=
  (if i = -1 then -2 else i).emod (1 <<< 64) |>.toNat

/-- The hash of a quotient; the denominator is a power of two. -/
def ratioHash (num : Int) (den : Nat) : Nat :=
  let n := (num.natAbs % hashPrime) <<< (61 - Nat.log2 den % 61) % hashPrime
  signedHash (if num < 0 then -n else n)

/-- The hash of a key.  Equal keys have one hash, and labels do not count.  Collections are
    no keys. -/
def hash (h : Hashing) (v : Value) : Nat :=
  match v with
  | .float (.infinite negative) => signedHash (if negative then -314159 else 314159)
  | .time _ t => h (.time none t)
  | .list .. | .map .. | .set .. | .pair .. => 0
  | _ =>
    match v.ratio? with
    | some (n, d) => ratioHash n d
    | none => h v

/-! ## Copies -/

/-- The members of a set that was read, as a copy of it lists them. -/
def copiedMembers (h : Hashing) (members : List Value) : List Value :=
  let read := SetTable.ofKeys (members.map fun v => (v.hash h, v))
  (SetTable.ofList read.listed).listed.map (·.2)

mutual

/-- A copy of a value that was read. -/
def copied (h : Hashing) : Value → Value
  | .list l items => .list l (copiedItems h items)
  | .map l es => .map l (copiedEntries h es)
  | .set l ms => .set l (copiedMembers h ms)
  | .pair a b => .pair (copied h a) (copied h b)
  | v => v

/-- Copies of some values that were read. -/
def copiedItems (h : Hashing) : List Value → List Value
  | [] => []
  | v :: vs => copied h v :: copiedItems h vs

/-- Copies of some entries that were read. -/
def copiedEntries (h : Hashing) : List (Value × Value) → List (Value × Value)
  | [] => []
  | (k, v) :: es => (k, copied h v) :: copiedEntries h es

end

end Value

/-- A copy of the entries of a mapping that was read. -/
def Entries.copied (h : Hashing) (es : Entries) : Entries := Value.copiedEntries h es

end Folio
