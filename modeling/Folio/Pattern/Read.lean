/-
  Folio — the regular expression that a pattern writes.

  The reader keeps the parentheses that are open; each step reads an item, a
  bar or a closing parenthesis.

  * `Regex.ofPattern` is the expression with the flags for the whole of it.
-/
import Folio.Pattern.Reader

namespace Folio.Pattern.Reader

/-! ## Items -/

/-- Adds an item to the branch. -/
def add (r : Regex) : Reader Unit :=
  modify fun s => { s with items := r :: s.items }

/-- What is listed in a set up to its end; `start` is the position of the set. -/
def setItems (start : Nat) : (fuel : Nat) → List SetItem → Reader (List SetItem)
  | 0, found => return found
  | fuel + 1, found => do
    let item (t : Token) : Reader SetItem :=
      match t with
      | .escaped c => setEscape c
      | .plain c => return .single c.toNat
    match ← next with
    | none => failAt .unterminatedSet start
    | some low =>
      if low == .plain ']' && !found.isEmpty then return found
      else
        let first ← item low
        if !(← accept '-') then setItems start fuel (found ++ [first])
        else
          match ← next with
          | none => failAt .unterminatedSet start
          | some (.plain ']') => return found ++ [first, .single '-'.toNat]
          | some high =>
            let bad := PatternFault.badRange low.text high.text
            let back := low.text.length + 1 + high.text.length
            match first, ← item high with
            | .single a, .single b =>
              if b < a then fail bad back
              else setItems start fuel (found ++ [.range a b])
            | _, _ => fail bad back

/-- A set, after its bracket. -/
def set : Reader Regex := do
  let start := (← get).position - 1
  let other ← accept '^'
  match (← setItems start (← fuel) []).eraseDups with
  | [.single n] => return .single n other
  | items => return .set other items

/-- A count, if digits write one. -/
def count? (digits : List Char) : Reader (Option Nat) := do
  if digits.isEmpty then return none
  else
    match Number.readInt 10 digits with
    | .error e => throw (.number e)
    | .ok n => if 0xffffffff ≤ n then throw .hugeRepeat else return some n.toNat

/-- The bounds that a repetition gives in braces, after the first brace; nothing
    if the brace stands for itself. -/
def bounds? : Reader (Option (Nat × Option Nat)) := do
  let s ← get
  if (← peek) == some (.plain '\x7d') then return none
  else
    let low ← takeWhile Text.isAsciiDigit (← fuel)
    let high ← if ← accept ',' then takeWhile Text.isAsciiDigit (← fuel) else pure low
    if ← accept '\x7d' then
      let least := (← count? low).getD 0
      let greatest ← count? high
      if greatest.any (· < least) then failAt .repeatBounds s.position
      return some (least, greatest)
    else
      goTo s.rest s.position
      return none

/-- Repeats the last item; the sign of repetition has just been read. -/
def repeatLast (here least : Nat) (greatest : Option Nat) : Reader Unit := do
  match (← get).items with
  | [] | .place _ :: _ => failAt .nothingToRepeat (here - 1)
  | .repeated .. :: _ => failAt .multipleRepeat (here - 1)
  | last :: items =>
    let greed : Greed ←
      if ← accept '?' then pure .lazy
      else if ← accept '+' then pure .possessive
      else pure .greedy
    modify fun s => { s with items := .repeated greed least greatest last :: items }

/-- A sign of repetition, which has just been read. -/
def repetition (sign : Char) : Reader Unit := do
  let here := (← get).position
  match sign with
  | '?' => repeatLast here 0 (some 1)
  | '*' => repeatLast here 0 none
  | '+' => repeatLast here 1 none
  | _ =>
    match ← bounds? with
    | none => add (.single sign.toNat false)
    | some (least, greatest) => repeatLast here least greatest

/-! ## Flags -/

/-- The letter of a token, if it is one. -/
def letter? : Token → Option Char
  | .plain c => some c
  | .escaped _ => none

/-- Which fault it is that a token is no flag. -/
def noFlag (t : Token) (missing : PatternFault) : Reader Flag :=
  fail (match t with
    | .plain c => if Text.isLetter c then .unknownFlag else missing
    | .escaped _ => missing) t.text.length

/-- The flag of a token; `missing` is the fault if the token is no letter. -/
def flag (t : Token) (missing : PatternFault) : Reader Flag := do
  match letter? t with
  | some 'L' => fail .localeFlag 0
  | some c =>
    match Flag.ofLetter? c with
    | some f => return f
    | none => noFlag t missing
  | none => noFlag t missing

/-- The flags to be turned on, the first of which has been read, and the
    character after them. -/
def flagsOn : (fuel : Nat) → Token → Flags → Reader (Flags × Char)
  | 0, _, on => return (on, ')')
  | fuel + 1, t, on => do
    let f ← flag t .unfinishedFlags
    let on := on ++ [f]
    if f.isExclusive && on.any fun g => g.isExclusive && g != f then fail .exclusiveFlags 0
    match ← next with
    | none => fail .unfinishedFlags 0
    | some (.plain ')') => return (on, ')')
    | some (.plain '-') => return (on, '-')
    | some (.plain ':') => return (on, ':')
    | some t => flagsOn fuel t on

/-- The flags to be turned off, the first of which has been read, and past the
    colon after them. -/
def flagsOff : (fuel : Nat) → Token → Flags → (missing : PatternFault) → Reader Flags
  | 0, _, off, _ => return off
  | fuel + 1, t, off, missing => do
    let f ←
      match letter? t with
      | some 'L' => fail .exclusiveFlagOff 0
      | _ => flag t missing
    if f.isExclusive then fail .exclusiveFlagOff 0
    let off := off ++ [f]
    match ← next with
    | none => fail .missingColon 0
    | some (.plain ':') => return off
    | some t => flagsOff fuel t off .missingColon

/-- The flags that a part turns on and off, the first token of which has been
    read; nothing if they are for the whole pattern. -/
def flags? (first : Token) : Reader (Option (Flags × Flags)) := do
  let (on, stop) ← if first == .plain '-' then pure ([], '-') else flagsOn (← fuel) first []
  if stop = ')' then
    modify fun s => { s with flags := s.flags ++ on }
    return none
  else
    if on.contains .template then fail .globalFlagOn 1
    let off ←
      if stop = '-' then
        match ← next with
        | none => fail .missingFlag 0
        | some t => flagsOff (← fuel) t [] .missingFlag
      else pure []
    if off.contains .template then fail .globalFlagOff 1
    if on.any off.contains then fail .contradictoryFlags 1
    return some (on, off)

/-! ## Parentheses -/

/-- Goes into a part that an open parenthesis has begun. -/
def enter (opening : Opening) (start : Nat) (verbose : Bool) : Reader Unit :=
  modify fun s => { s with
    frames := ⟨opening, start, s.verbose, s.branches, s.items⟩ :: s.frames
    verbose, branches := [], items := [] }

/-- Goes into a group that is referred to by its number, and by a name if it has
    one. -/
def enterGroup (start : Nat) (name : Option (List Char)) : Reader Unit := do
  let s ← get
  let number := s.groups.length + 1
  match name with
  | none => pure ()
  | some name =>
    match s.names.lookup name with
    | some earlier => fail (.sameGroupName name number earlier) (name.length + 1)
    | none => modify fun s => { s with names := (name, number) :: s.names }
  modify fun s => { s with groups := s.groups ++ [none] }
  enter (.group (some number) [] []) start s.verbose

/-- Refuses a name that is no identifier. -/
def checkName (name : List Char) : Reader Unit := do
  if !Text.isIdentifier name then fail (.badGroupName name) (name.length + 1)

/-- The number of the group with a name. -/
def groupNamed (name : List Char) : Reader Nat := do
  match (← get).names.lookup name with
  | some g => return g
  | none => fail (.unknownGroupName name) (name.length + 1)

/-- A group with a name, or a reference to one. -/
def named (start : Nat) : Reader Unit := do
  if ← accept '<' then
    let name ← name '>' "group name"
    checkName name
    enterGroup start (some name)
  else if ← accept '=' then
    let name ← name ')' "group name"
    checkName name
    add (← again (← groupNamed name) (name.length + 1))
  else
    match ← next with
    | none => fail .endOfPattern 0
    | some t => fail (.unknownExtension ('?' :: 'P' :: t.text)) (t.text.length + 2)

/-- Past a comment; `start` is the position of its parenthesis. -/
def comment (start : Nat) : (fuel : Nat) → Reader Unit
  | 0 => return ()
  | fuel + 1 => do
    match ← peek with
    | none => failAt .unterminatedComment start
    | some t =>
      let _ ← next
      if t != .plain ')' then comment start fuel

/-- Goes into a view ahead or behind. -/
def enterLook (start : Nat) (behind other : Bool) : Reader Unit := do
  let s ← get
  let outermost := behind && s.behindFrom.isNone
  if outermost then
    modify fun s => { s with behindFrom := some (s.groups.length + 1) }
  enter (.look behind outermost other) start s.verbose

/-- The number of the group that a conditional asks for. -/
def askedGroup : Reader Nat := do
  let name ← name ')' "group name"
  let back := name.length + 1
  let g ←
    if Text.isIdentifier name then groupNamed name
    else
      match Number.readInt 10 name with
      | .error _ => fail (.badGroupName name) back
      | .ok n =>
        if n < 0 then fail (.badGroupName name) back
        if n = 0 then fail .badGroupNumber back
        if 0x3fffffff ≤ n then fail (.noSuchGroup n) back
        let asked := (n.toNat, (← get).position - back)
        modify fun s =>
          if (s.asked.lookup asked.1).isSome then s else { s with asked := asked :: s.asked }
        pure n.toNat
  checkBehind g
  return g

/-- What an open parenthesis and a question mark begin. -/
def extension (start : Nat) : Reader Unit := do
  let s ← get
  match ← next with
  | none => fail .endOfPattern 0
  | some (.plain 'P') => named start
  | some (.plain ':') => enter (.group none [] []) start s.verbose
  | some (.plain '#') => comment start (← fuel)
  | some (.plain '=') => enterLook start false false
  | some (.plain '!') => enterLook start false true
  | some (.plain '<') =>
    match ← next with
    | none => fail .endOfPattern 0
    | some (.plain '=') => enterLook start true false
    | some (.plain '!') => enterLook start true true
    | some t => fail (.unknownExtension ('?' :: '<' :: t.text)) (t.text.length + 2)
  | some (.plain '(') => enter (.whether (← askedGroup)) start s.verbose
  | some (.plain '>') => enter .atomic start s.verbose
  | some t =>
    match letter? t with
    | some c =>
      if c = '-' ∨ c = 'L' ∨ (Flag.ofLetter? c).isSome then
        match ← flags? t with
        | none =>
          if !(s.frames.isEmpty && s.branches.isEmpty && s.items.isEmpty) then
            failAt .lateFlags start
          modify fun s => { s with verbose := s.flags.contains .verbose }
        | some (on, off) =>
          enter (.group none on off) start
            ((s.verbose || on.contains .verbose) && !off.contains .verbose)
      else fail (.unknownExtension ('?' :: t.text)) (t.text.length + 1)
    | none => fail (.unknownExtension ('?' :: t.text)) (t.text.length + 1)

/-- An open parenthesis, which has just been read. -/
def openParenthesis : Reader Unit := do
  let start := (← get).position - 1
  if ← accept '?' then extension start else enterGroup start none

/-! ## Branches -/

/-- The items of the branch that ends here. -/
def branch (s : Reading) : List Regex := s.items.reverse.flatMap Regex.ungrouped

/-- The choice between the branches of the part that ends here. -/
def part (s : Reading) : List Regex :=
  match (branch s :: s.branches).reverse with
  | [] => []
  | first :: others => Regex.choice first others

/-- The choice of a conditional. -/
def condition (s : Reading) (group : Nat) : Regex :=
  match s.branches with
  | [] => .whether group (.ofItems (branch s)) .empty
  | yes :: _ => .whether group (.ofItems yes) (.ofItems (branch s))

/-- A bar, which comes next. -/
def bar : Reader Unit := do
  let s ← get
  match s.frames with
  | { opening := .whether _, .. } :: _ => if !s.branches.isEmpty then fail .manyBranches 0
  | _ => pure ()
  let _ ← next
  modify fun s => { s with
    branches := branch s :: s.branches
    items := []
    verbose := if s.frames.isEmpty then s.flags.contains .verbose else s.verbose }

/-- What a part stands for that a closing parenthesis ends, and what is known
    after it. -/
def close (s : Reading) (f : Frame) : Regex × Reading :=
  let body := Regex.ofItems (part s)
  match f.opening with
  | .group number on off =>
    (.group number on off body,
      match number with
      | some n => { s with groups := s.groups.set (n - 1) (some (body.width s.groups)) }
      | none => s)
  | .atomic => (.atomic body, s)
  | .look behind outermost other =>
    (.look (if behind then some (body.width s.groups) else none) other body,
      if outermost then { s with behindFrom := none } else s)
  | .whether group => (condition s group, s)

/-- A closing parenthesis, which comes next and ends a part. -/
def closeParenthesis (f : Frame) (frames : List Frame) : Reader Unit := do
  let _ ← next
  modify fun s =>
    let (r, s) := close s f
    { s with frames, verbose := f.verbose, branches := f.branches, items := r :: f.items }

/-- Past the rest of a line. -/
def skipLine : (fuel : Nat) → Reader Unit
  | 0 => return ()
  | fuel + 1 => do
    match ← next with
    | none | some (.plain '\n') => return ()
    | some _ => skipLine fuel

/-- Is the character white space that a verbose pattern may contain? -/
def isPatternSpace (c : Char) : Bool :=
  c == ' ' || ('\t' ≤ c && c ≤ '\r')

/-- An item that starts with a token, which has just been read. -/
def item (t : Token) : Reader Unit := do
  match t with
  | .escaped c => add (← escape c)
  | .plain c =>
    let verbose := (← get).verbose
    if verbose && isPatternSpace c then return ()
    else if verbose && c = '#' then skipLine (← fuel)
    else
      match c with
      | '[' => add (← set)
      | '*' | '+' | '?' | '\x7b' => repetition c
      | '.' => add .any
      | '(' => openParenthesis
      | '^' => add (.place .lineStart)
      | '$' => add (.place .lineEnd)
      | _ => add (.single c.toNat false)

/-! ## Whole patterns -/

/-- The end of the pattern, at which a closing parenthesis may stand. -/
def finish (closing : Bool) : Reader Unit := do
  let s ← get
  match s.frames with
  | f :: _ => failAt .unterminatedGroup f.start
  | [] =>
    if s.flags.contains .ascii && s.flags.contains .unicode then throw .exclusiveFlags
    if closing then fail .unbalanced 0
    match s.asked.reverse.find? fun a => s.groups.length < a.1 with
    | some (g, position) => failAt (.noSuchGroup g) position
    | none => return ()

/-- Reads to the end of the pattern. -/
def toEnd : (fuel : Nat) → Reader Unit
  | 0 => return ()
  | fuel + 1 => do
    match ← peek with
    | none => finish false
    | some (.plain '|') => bar; toEnd fuel
    | some (.plain ')') =>
      match (← get).frames with
      | [] => finish true
      | f :: frames => closeParenthesis f frames; toEnd fuel
    | some t => let _ ← next; item t; toEnd fuel

/-- The expression that a pattern writes, and the flags for the whole of it. -/
def whole (pattern : List Char) : Reader (Regex × Flags) := do
  goTo pattern 0
  toEnd (← fuel)
  let s ← get
  let r := Regex.ofItems (part s)
  match r.fault? (s.flags.contains .template) with
  | some fault => throw (.malformed fault none)
  | none => return (r, s.flags)

end Folio.Pattern.Reader

namespace Folio

/-- The expression that a pattern writes, and the flags for the whole of it. -/
def Regex.ofPattern (pattern : List Char) : Except PatternError (Regex × Flags) :=
  (Pattern.Reader.whole pattern).run' ⟨[], 0, [], [], [], none, [], [], false, [], []⟩

end Folio
