/-
  Folio — the values of YAML.

  Mappings keep their entries and sets their members in the order of insertion.
  A list, a mapping, a set or a timestamp may carry a label: values with one label
  are one value that the text names once and refers to again, and a change to one
  of them is a change to all.

  * equality is decidable; it looks at labels and tells numbers of one value but of two
    kinds apart;
  * `same` is the equality of keys: numbers are equal by value, whatever their
    kind, and truth values count as one and zero;
  * `get?`, `put` and `erase` are the operations on entries;
  * `get?_put_self` and `get?_put_of_ne`: `put` changes what is under its key and
    nothing else.
-/
import Folio.Number.Binary64
import Folio.Text.Octets
import Folio.Yaml.Timestamp

namespace Folio

/-- What tells apart the values that are referred to more than once. -/
abbrev Label := Option Nat

/-- A value of YAML. -/
inductive Value where
  | null
  | bool (b : Bool)
  | int (i : Int)
  | float (x : Binary64)
  | text (s : String)
  | octets (s : Octets)
  | time (label : Label) (t : Timestamp)
  | list (label : Label) (items : List Value)
  | map (label : Label) (entries : List (Value × Value))
  | set (label : Label) (members : List Value)
  /-- The pairs that an ordered map consists of. -/
  | pair (first second : Value)
  deriving Repr

namespace Value

instance : Inhabited Value := ⟨.null⟩

/-! ## Equality -/

mutual

/-- Are the values equal, with their labels? -/
def isSame : Value → Value → Bool
  | .null, .null => true
  | .bool a, .bool b => a == b
  | .int i, .int j => i == j
  | .float x, .float y => decide (x = y)
  | .text s, .text t => s == t
  | .octets s, .octets t => s == t
  | .time l s, .time m t => l == m && decide (s = t)
  | .list l us, .list m vs => l == m && areSame us vs
  | .map l es, .map m fs => l == m && entriesAreSame es fs
  | .set l us, .set m vs => l == m && areSame us vs
  | .pair u v, .pair u' v' => isSame u u' && isSame v v'
  | _, _ => false

def areSame : List Value → List Value → Bool
  | [], [] => true
  | u :: us, v :: vs => isSame u v && areSame us vs
  | _, _ => false

def entriesAreSame : List (Value × Value) → List (Value × Value) → Bool
  | [], [] => true
  | (k, u) :: es, (l, v) :: fs => isSame k l && isSame u v && entriesAreSame es fs
  | _, _ => false

end

mutual

theorem isSame_iff : ∀ u v : Value, isSame u v = true ↔ u = v
  | .list _ us, v => by cases v <;> simp [isSame, areSame_iff us]
  | .map _ es, v => by cases v <;> simp [isSame, entriesAreSame_iff es]
  | .set _ us, v => by cases v <;> simp [isSame, areSame_iff us]
  | .pair a b, v => by cases v <;> simp [isSame, isSame_iff a, isSame_iff b]
  | .null, v | .bool _, v | .int _, v | .float _, v | .text _, v | .octets _, v | .time _ _, v => by
    cases v <;> simp [isSame]

theorem areSame_iff : ∀ us vs : List Value, areSame us vs = true ↔ us = vs
  | [], vs => by cases vs <;> simp [areSame]
  | u :: us, vs => by cases vs <;> simp [areSame, isSame_iff u, areSame_iff us]

theorem entriesAreSame_iff : ∀ es fs : List (Value × Value), entriesAreSame es fs = true ↔ es = fs
  | [], fs => by cases fs <;> simp [entriesAreSame]
  | (k, v) :: es, fs => by
    cases fs <;> simp [entriesAreSame, isSame_iff k, isSame_iff v, entriesAreSame_iff es, Prod.ext_iff]

end

instance : DecidableEq Value := fun u v => decidable_of_iff _ (isSame_iff u v)

/-! ## Keys -/

/-- The number that a value is, if it is finite, as numerator and
    denominator. -/
def ratio? : Value → Option (Int × Nat)
  | .bool b => some (if b then 1 else 0, 1)
  | .int i => some (i, 1)
  | .float x => x.ratio?
  | _ => none

/-- Are the values equal as keys? -/
def same (u v : Value) : Bool :=
  match u, v with
  | .null, .null => true
  | .text s, .text t => s == t
  | .octets s, .octets t => s == t
  | .time _ s, .time _ t => s.same t
  | .float (.nan o), .float (.nan p) => o == p
  | .float (.infinite s), .float (.infinite t) => s == t
  | _, _ =>
    match u.ratio?, v.ratio? with
    | some (n, d), some (m, e) => n * e == m * d
    | _, _ => false

@[simp] theorem same_text (s t : String) : same (.text s) (.text t) = (s == t) := by
  simp [same]

theorem same_text_of_same {v : Value} {s : String} (h : v.same (.text s) = true) (t : String) :
    v.same (.text t) = (s == t) := by
  cases v <;> simp_all [same, ratio?]

/-- Can the value be a key? -/
def isKey : Value → Bool
  | .list .. | .map .. | .set .. | .pair .. => false
  | _ => true

end Value

/-! ## Entries -/

/-- The entries of a mapping, in the order of insertion. -/
abbrev Entries := List (Value × Value)

namespace Entries

/-- The value under a key. -/
def lookup? (es : Entries) (key : Value) : Option Value :=
  (List.find? (fun e : Value × Value => e.1.same key) es).map (·.2)

/-- The value under a text. -/
def get? (es : Entries) (key : String) : Option Value := es.lookup? (.text key)

/-- The entries with a value under a key: a key that is there keeps its
    place. -/
def put (key value : Value) : Entries → Entries
  | [] => [(key, value)]
  | e :: es => if e.1.same key then (e.1, value) :: es else e :: put key value es

/-- The entries without a key. -/
def erase (key : Value) (es : Entries) : Entries :=
  es.filter fun e => !e.1.same key

/-- The keys. -/
def keys (es : Entries) : List Value := es.map (·.1)

/-! ## Texts as keys -/

theorem get?_put_self (key : String) (value : Value) (es : Entries) :
    (put (.text key) value es).get? key = some value := by
  induction es with
  | nil => simp [put, get?, lookup?]
  | cons e es ih =>
    by_cases h : e.1.same (.text key) = true
    · simp [put, get?, lookup?, h]
    · simpa [put, get?, lookup?, h] using ih

theorem get?_put_of_ne {key other : String} (h : key ≠ other) (value : Value) (es : Entries) :
    (put (.text key) value es).get? other = es.get? other := by
  induction es with
  | nil => simp [put, get?, lookup?, h]
  | cons e es ih =>
    by_cases he : e.1.same (.text key) = true
    · have := Value.same_text_of_same he other
      simp_all [put, get?, lookup?]
    · by_cases ho : e.1.same (.text other) = true
      · simp [put, get?, lookup?, he, ho]
      · simpa [put, get?, lookup?, he, ho] using ih

theorem get?_erase_self (key : String) (es : Entries) :
    (erase (.text key) es).get? key = none := by
  simp [erase, get?, lookup?]

theorem get?_erase_of_ne {key other : String} (h : key ≠ other) (es : Entries) :
    (erase (.text key) es).get? other = es.get? other := by
  induction es with
  | nil => rfl
  | cons e es ih =>
    by_cases he : e.1.same (.text key) = true
    · have := Value.same_text_of_same he other
      simp_all [erase, get?, lookup?]
    · by_cases ho : e.1.same (.text other) = true
      · simp [erase, get?, lookup?, he, ho]
      · simpa [erase, get?, lookup?, he, ho] using ih

end Entries

end Folio
