/-
  Folio — reading users and teams.

  A configuration is a mapping with users under one key and teams under another,
  each a mapping from names to attributes.

  * `Directory.ofValue` and `Directory.ofText` are the directory that a value and
    a YAML text declare.
-/
import Folio.User.Basic
import Folio.Yaml.Decode
import Folio.Yaml.Display
import Folio.Yaml.Form

namespace Folio

/-- The two parts of a configuration. -/
inductive ConfigPart where
  | users
  | teams
  deriving Repr, DecidableEq

namespace ConfigPart

/-- The key of the part. -/
def key : ConfigPart → String
  | users => "users"
  | teams => "teams"

/-- What messages call an entry of the part. -/
def entry : ConfigPart → String
  | users => "user"
  | teams => "team"

end ConfigPart

/-- Why a configuration declares no directory. -/
inductive ConfigError where
  /-- The text is no YAML. -/
  | notYaml (description : String)
  | notMapping
  | partNotMapping (part : ConfigPart)
  /-- A name is no text. -/
  | badName (part : ConfigPart) (name : Value)
  | entryNotMapping (part : ConfigPart) (name : String)
  /-- The teams of an entry are no list of texts. -/
  | badTeams (part : ConfigPart) (name : String)
  /-- A scalar in the text that its tag does not fit, or a name that is a number
      without a text. -/
  | misfit (m : Yaml.Misfit)
  deriving DecidableEq

/-- What a message says of an error. -/
def ConfigError.message : ConfigError → String
  | notYaml description => "user config is not valid YAML: " ++ description
  | notMapping => "user config must be a mapping"
  | partNotMapping part => "'" ++ part.key ++ "' must be a mapping"
  | badName part name => part.entry ++ " key " ++ name.shown ++ " must be a string"
  | entryNotMapping part name => part.entry ++ " '" ++ name ++ "' must be a mapping"
  | badTeams part name =>
    part.entry ++ " '" ++ name ++ "': 'teams' must be a list of team names"
  | misfit m => m.message?.getD ""

namespace Directory

/-- The attributes under the names of a part. -/
def attributes (part : ConfigPart) :
    Entries → Except ConfigError (List (String × Entries))
  | [] => .ok []
  | (.text name, .map _ attrs) :: es => (attributes part es).map ((name, attrs) :: ·)
  | (.text name, _) :: _ => .error (.entryNotMapping part name)
  | (name, _) :: _ =>
    if name.isWritable then .error (.badName part name) else .error (.misfit (.number .longText))

/-- The names and attributes of a part; no value is as no part. -/
def entriesOf (config : Entries) (part : ConfigPart) :
    Except ConfigError (List (String × Entries)) :=
  match config.get? part.key with
  | none | some .null => .ok []
  | some (.map _ es) => attributes part es
  | some _ => .error (.partNotMapping part)

/-- The texts that a list consists of. -/
def texts? : List Value → Option (List String)
  | [] => some []
  | .text s :: vs => (texts? vs).map (s :: ·)
  | _ :: _ => none

/-- The teams that attributes name. -/
def teamsIn (part : ConfigPart) (name : String) (attrs : Entries) :
    Except ConfigError (List String) :=
  match attrs.get? "teams" with
  | none | some .null => .ok []
  | some (.list _ items) =>
    match texts? items with
    | some teams => .ok teams
    | none => .error (.badTeams part name)
  | some _ => .error (.badTeams part name)

/-- The attributes but for those under some keys. -/
def extraIn (attrs : Entries) (keys : List String) : Entries :=
  keys.foldl (fun es key => Entries.erase (.text key) es) attrs

/-- The user with these attributes. -/
def userOf (entry : String × Entries) : Except ConfigError User := do
  let (handle, attrs) := entry
  let teams ← teamsIn .users handle attrs
  return {
    handle
    name := (attrs.get? "name").getD .null
    email := (attrs.get? "email").getD .null
    teams
    extra := extraIn attrs ["name", "email", "teams"] }

/-- The team with these attributes. -/
def teamOf (entry : String × Entries) : Except ConfigError Team := do
  let (name, attrs) := entry
  let teams ← teamsIn .teams name attrs
  return {
    name
    title := (attrs.get? "name").getD .null
    teams
    extra := extraIn attrs ["name", "teams"] }

/-- The directory that the entries of a configuration declare. -/
def ofEntries (config : Entries) : Except ConfigError Directory := do
  let users ← (← entriesOf config .users).mapM userOf
  let teams ← (← entriesOf config .teams).mapM teamOf
  return ofLists users teams

/-- The directory that a configuration declares; no value is as an empty one. -/
def ofValue : Value → Except ConfigError Directory
  | .null => ofEntries []
  | .map _ es => ofEntries es
  | _ => .error .notMapping

/-- Configurations tell timestamps from texts, and of a repeated key the last
    value counts. -/
def rules : Yaml.Rules := { timestamps := true, uniqueKeys := false }

/-- The directory that a YAML text declares. -/
def ofText (text : List Char) : Except ConfigError Directory :=
  match Yaml.decode rules text with
  | .error (.misfit m) => .error (.misfit m)
  | .error e => .error (.notYaml (e.full text))
  | .ok v => ofValue v

end Directory

end Folio
