/-
  Folio — what can be wrong with a pattern.

  A fault has a place in the text of the pattern, unless it shows only when the
  whole pattern is known.  A message tells the place by its position, and by
  line and column too if the pattern has several lines.

  * `PatternError.message` is the wording.
-/
import Folio.Number.Read

namespace Folio

/-- How often a repetition prefers to repeat. -/
inductive Greed where
  /-- As often as it can, less often if the rest does not match. -/
  | greedy
  /-- As rarely as it can, more often if the rest does not match. -/
  | lazy
  /-- As often as it can, whatever the rest. -/
  | possessive
  deriving Repr, DecidableEq

/-- What is wrong with a pattern. -/
inductive PatternFault where
  /-- The pattern ends after a backslash. -/
  | endOfEscape
  | badEscape (escape : List Char)
  | incompleteEscape (escape : List Char)
  /-- An octal escape above 0o377. -/
  | octalEscape (escape : List Char)
  | missingBrace
  | undefinedCharacter (name : List Char)
  /-- A name is empty. -/
  | missingName (what : String)
  /-- A name goes on to the end of the pattern. -/
  | unterminatedName (terminator : Char)
  | badGroupName (name : List Char)
  | unknownGroupName (name : List Char)
  /-- Two groups have one name. -/
  | sameGroupName (name : List Char) (number earlier : Nat)
  /-- Groups are counted from one. -/
  | badGroupNumber
  | noSuchGroup (number : Int)
  | openGroup
  /-- A group inside of a look-behind is referred to there. -/
  | groupInLookBehind
  | unterminatedSet
  | badRange (low high : List Char)
  /-- A repetition with a least count above the greatest. -/
  | repeatBounds
  | nothingToRepeat
  | multipleRepeat
  | endOfPattern
  | unknownExtension (text : List Char)
  | unterminatedComment
  | unterminatedGroup
  /-- A conditional with more than two branches. -/
  | manyBranches
  | unbalanced
  /-- Flags for the whole pattern after its start. -/
  | lateFlags
  | localeFlag
  | exclusiveFlags
  | unknownFlag
  /-- Flags for the whole or a part of the pattern do not end. -/
  | unfinishedFlags
  /-- No flag is turned off. -/
  | missingFlag
  /-- Flags to be turned off do not end. -/
  | missingColon
  | globalFlagOn
  | globalFlagOff
  | exclusiveFlagOff
  | contradictoryFlags
  | lookBehindWidth
  | lookBehindFar
  /-- A repetition in a template. -/
  | repeatInTemplate (greed : Greed)
  deriving Repr, DecidableEq

/-- Why a text is no pattern. -/
inductive PatternError where
  /-- It has a fault, at a position if the fault has one. -/
  | malformed (fault : PatternFault) (position : Option Nat)
  /-- It repeats something too often. -/
  | hugeRepeat
  /-- The whole pattern is for ASCII and for Unicode. -/
  | exclusiveFlags
  /-- A count is no number. -/
  | number (e : NumberError)
  deriving Repr, DecidableEq

/-- What messages call a repetition. -/
def Greed.name : Greed → String
  | .greedy => "MAX_REPEAT"
  | .lazy => "MIN_REPEAT"
  | .possessive => "POSSESSIVE_REPEAT"

namespace PatternFault

/-- What a message says of a fault, without its place. -/
def text : PatternFault → String
  | endOfEscape => "bad escape (end of pattern)"
  | badEscape e => "bad escape " ++ String.ofList e
  | incompleteEscape e => "incomplete escape " ++ String.ofList e
  | octalEscape e => "octal escape value " ++ String.ofList e ++ " outside of range 0-0o377"
  | missingBrace => "missing \x7b"
  | undefinedCharacter name =>
    "undefined character name " ++ String.ofList (Text.quoted name)
  | missingName what => "missing " ++ what
  | unterminatedName t => "missing " ++ t.toString ++ ", unterminated name"
  | badGroupName name => "bad character in group name " ++ String.ofList (Text.quoted name)
  | unknownGroupName name => "unknown group name " ++ String.ofList (Text.quoted name)
  | sameGroupName name number earlier =>
    "redefinition of group name " ++ String.ofList (Text.quoted name) ++ " as group " ++
      toString number ++ "; was group " ++ toString earlier
  | badGroupNumber => "bad group number"
  | noSuchGroup number => "invalid group reference " ++ toString number
  | openGroup => "cannot refer to an open group"
  | groupInLookBehind => "cannot refer to group defined in the same lookbehind subpattern"
  | unterminatedSet => "unterminated character set"
  | badRange low high =>
    "bad character range " ++ String.ofList low ++ "-" ++ String.ofList high
  | repeatBounds => "min repeat greater than max repeat"
  | nothingToRepeat => "nothing to repeat"
  | multipleRepeat => "multiple repeat"
  | endOfPattern => "unexpected end of pattern"
  | unknownExtension t => "unknown extension " ++ String.ofList t
  | unterminatedComment => "missing ), unterminated comment"
  | unterminatedGroup => "missing ), unterminated subpattern"
  | manyBranches => "conditional backref with more than two branches"
  | unbalanced => "unbalanced parenthesis"
  | lateFlags => "global flags not at the start of the expression"
  | localeFlag => "bad inline flags: cannot use 'L' flag with a str pattern"
  | exclusiveFlags => "bad inline flags: flags 'a', 'u' and 'L' are incompatible"
  | unknownFlag => "unknown flag"
  | unfinishedFlags => "missing -, : or )"
  | missingFlag => "missing flag"
  | missingColon => "missing :"
  | globalFlagOn => "bad inline flags: cannot turn on global flag"
  | globalFlagOff => "bad inline flags: cannot turn off global flag"
  | exclusiveFlagOff => "bad inline flags: cannot turn off flags 'a', 'u' and 'L'"
  | contradictoryFlags => "bad inline flags: flag turned on and off"
  | lookBehindWidth => "look-behind requires fixed-width pattern"
  | lookBehindFar => "looks too much behind"
  | repeatInTemplate greed => "internal: unsupported template operator " ++ greed.name

end PatternFault

/-- What a message says of the place of a position in a pattern. -/
def PatternError.placeText (pattern : List Char) (position : Nat) : String :=
  let before := pattern.take position
  let column := (before.reverse.takeWhile (· != '\n')).length + 1
  " at position " ++ toString position ++
    if pattern.contains '\n' then
      " (line " ++ toString (before.count '\n' + 1) ++ ", column " ++ toString column ++ ")"
    else ""

/-- What a message says of an error in a pattern. -/
def PatternError.message (pattern : List Char) : PatternError → String
  | malformed fault none => fault.text
  | malformed fault (some position) => fault.text ++ placeText pattern position
  | hugeRepeat => "the repetition number is too large"
  | exclusiveFlags => "ASCII and UNICODE flags are incompatible"
  | number e => e.message

end Folio
