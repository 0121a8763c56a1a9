/-
  Folio — references.

  A schema tells by the form of a reference how to look it up: by the name of a
  document, or by its path as seen from the document that refers to it.

  * `Reference.resolve` looks a reference up.
-/
import Folio.Reference.WorkingSet
import Folio.Schema.Basic

namespace Folio

/-- Why a reference points at no document. -/
inductive RefFault where
  /-- It has none of the forms of references. -/
  | noForm
  /-- No document has the path. -/
  | noPath
  /-- No document has the name. -/
  | noName
  deriving Repr, DecidableEq

/-- The code of a fault. -/
def RefFault.code : RefFault → String
  | noForm => "R001"
  | noPath => "R010"
  | noName => "R011"

/-- A reference that has been looked up. -/
structure Reference where
  raw : String
  /-- Its form. -/
  rule : Option Schema.RefRule
  /-- The document it points at, or why there is none. -/
  outcome : Except RefFault String

namespace Reference

/-- The document that the reference points at. -/
def target? (r : Reference) : Option String := r.outcome.toOption

/-- Why the reference points at no document. -/
def fault? (r : Reference) : Option RefFault :=
  match r.outcome with
  | .ok _ => none
  | .error e => some e

/-- Looks up a reference in a document with a path. -/
def resolve (s : Schema) (w : WorkingSet) (source : Option String) (raw : String) : Reference :=
  match s.rule? raw with
  | none => ⟨raw, none, .error .noForm⟩
  | some rule =>
    match rule.strategy with
    | .byName =>
      ⟨raw, some rule, match w.named? raw with
        | some path => .ok path
        | none => .error .noName⟩
    | .byPath =>
      let directory := (source.map Path.directory).getD ""
      let path := Path.normalized (Path.join directory raw)
      ⟨raw, some rule, if w.has path then .ok path else .error .noPath⟩

end Reference

end Folio
