/-
  Folio — users and teams.

  A directory knows users by their handles and teams by their names.  A team
  names the teams it contains, so a member of a team is a member of each team
  that contains it, directly or through others.  Teams may contain each other in
  a circle and may name teams that nobody has declared.

  * `Directory.ofLists` keeps one user for each handle and one team for each name;
  * `Directory.teamsOf` and `Directory.membersOf` follow the links up and down;
  * `UserRef.isValid` is the form of a reference to a user or a team.
-/
import Folio.Graph.Links
import Folio.Text.Search
import Folio.Yaml.Value

namespace Folio

/-- A user. -/
structure User where
  handle : String
  name : Value
  email : Value
  /-- The teams that the user is in directly. -/
  teams : List String
  /-- What else is said of the user. -/
  extra : Entries
  deriving DecidableEq

/-- A team. -/
structure Team where
  name : String
  title : Value
  /-- The teams that the team contains. -/
  teams : List String
  /-- What else is said of the team. -/
  extra : Entries
  deriving DecidableEq

/-- What a reference can be to. -/
inductive Party where
  | user (u : User)
  | team (t : Team)

/-- The users and teams that are declared, in order. -/
structure Directory where
  users : List User
  teams : List Team
  /-- No two users have one handle. -/
  nodup_handles : (users.map (·.handle)).Nodup
  /-- No two teams have one name. -/
  nodup_names : (teams.map (·.name)).Nodup
  deriving DecidableEq

namespace Directory

section
variable {α : Type} (key : α → String)

/-- The items with one more: it takes the place of the one with its key. -/
def put (x : α) : List α → List α
  | [] => [x]
  | y :: ys => if key y = key x then x :: ys else y :: put x ys

/-- The items, of those with one key only the last. -/
def lastOfEach (xs : List α) : List α := xs.foldl (fun ys x => put key x ys) []

theorem mem_keys_put {x : α} {ys : List α} {k : String} :
    k ∈ (put key x ys).map key ↔ k = key x ∨ k ∈ ys.map key := by
  induction ys with
  | nil => simp [put]
  | cons y ys ih =>
    by_cases h : key y = key x
    · simp [put, h]
    · simp only [put, if_neg h, List.map_cons, List.mem_cons, ih]
      exact or_left_comm

theorem nodup_put {x : α} {ys : List α} (h : (ys.map key).Nodup) :
    ((put key x ys).map key).Nodup := by
  induction ys with
  | nil => simp [put]
  | cons y ys ih =>
    obtain ⟨hy, hys⟩ := List.nodup_cons.1 h
    by_cases hk : key y = key x
    · simp only [put, if_pos hk, List.map_cons]
      exact List.nodup_cons.2 ⟨hk ▸ hy, hys⟩
    · simp only [put, if_neg hk, List.map_cons]
      refine List.nodup_cons.2 ⟨fun hm => ?_, ih hys⟩
      exact ((mem_keys_put key).1 hm).elim hk hy

theorem nodup_lastOfEach (xs : List α) : ((lastOfEach key xs).map key).Nodup :=
  List.foldlRecOn xs _ (motive := fun ys : List α => (ys.map key).Nodup) List.nodup_nil
    fun _ h _ _ => nodup_put key h

end

/-- The directory of users and teams that are declared one after the other. -/
def ofLists (users : List User) (teams : List Team) : Directory where
  users := lastOfEach (·.handle) users
  teams := lastOfEach (·.name) teams
  nodup_handles := nodup_lastOfEach _ users
  nodup_names := nodup_lastOfEach _ teams

end Directory

/-- How a user or a team is given: itself, or by a text that names it. -/
inductive Given (α : Type) where
  | itself (x : α)
  | text (s : String)

/-! ## References -/

namespace UserRef

/-- What a reference to a team starts with. -/
def teamMark : List Char := "@team/".toList

/-- Can the character stand in a name? -/
def isNameChar (c : Char) : Bool := c.isAlphanum || c == '_' || c == '.' || c == '-'

/-- Is the text a name?  A line end may follow it. -/
def isName (cs : List Char) : Bool :=
  let name := if cs.getLast? = some '\n' then cs.dropLast else cs
  match name with
  | [] => false
  | c :: rest => c.isAlphanum && rest.all isNameChar

/-- Has the text the form of a reference to a user or to a team? -/
def isValid (ref : String) : Bool :=
  match ref.toList with
  | '@' :: rest =>
    isName rest || ((Text.dropStart? teamMark ('@' :: rest)).any isName)
  | _ => false

/-- The name that a reference to a team has, or that it is itself. -/
def teamName (ref : String) : String :=
  match Text.dropStart? teamMark ref.toList with
  | some name => String.ofList name
  | none => ref

end UserRef

/-- The name of a team that is given. -/
def Given.name : Given Team → String
  | itself t => t.name
  | text team => UserRef.teamName team

namespace Directory

/-! ## Looking up -/

/-- The user with a handle. -/
def userNamed? (d : Directory) (handle : String) : Option User :=
  d.users.find? (·.handle == handle)

/-- The team with a name. -/
def teamNamed? (d : Directory) (name : String) : Option Team :=
  d.teams.find? (·.name == name)

/-- The team that a reference is to. -/
def team? (d : Directory) (ref : String) : Option Team :=
  (Text.dropStart? UserRef.teamMark ref.toList).bind fun name =>
    d.teamNamed? (String.ofList name)

/-- The user that a reference is to. -/
def user? (d : Directory) (ref : String) : Option User :=
  match ref.toList with
  | '@' :: handle =>
    if (Text.dropStart? UserRef.teamMark ref.toList).isSome then none
    else d.userNamed? (String.ofList handle)
  | _ => none

/-- The user or the team that a reference is to. -/
def party? (d : Directory) (ref : String) : Option Party :=
  match d.user? ref with
  | some u => some (.user u)
  | none => (d.team? ref).map .team

/-- Is the reference to a user or a team that is declared? -/
def knows (d : Directory) (ref : String) : Bool := (d.party? ref).isSome

/-- The references to all users and then to all teams, each in ascending
    order. -/
def refs (d : Directory) : List String :=
  ((d.users.map (·.handle)).mergeSort (· ≤ ·)).map ("@" ++ ·) ++
    ((d.teams.map (·.name)).mergeSort (· ≤ ·)).map ("@team/" ++ ·)

/-! ## Membership -/

/-- The links from teams to those that contain them. -/
def parents (d : Directory) : Links String :=
  .ofPairs (d.teams.flatMap fun t => t.teams.map fun member => (member, t.name))

/-- The links from teams to those they contain. -/
def children (d : Directory) : Links String := d.teams.map fun t => (t.name, t.teams)

/-- The teams that a user is in, directly or through others. -/
def teamsOfUser (d : Directory) (u : User) : List String := d.parents.closure u.teams

/-- The user that a handle or a reference names. -/
def named? (d : Directory) (user : String) : Option User :=
  if user.toList.head? = some '@' then d.user? user else d.userNamed? user

/-- The teams that a user is in whom a handle or a reference names. -/
def teamsOf (d : Directory) (user : String) : List String :=
  ((d.named? user).map d.teamsOfUser).getD []

/-- The teams of a user that is given. -/
def teamsBy (d : Directory) : Given User → List String
  | .itself u => d.teamsOfUser u
  | .text user => d.teamsOf user

/-- Is the user in the team? -/
def isMemberBy (d : Directory) (user : Given User) (team : Given Team) : Bool :=
  (d.teamsBy user).contains team.name

/-- Is the user in the team, by their names? -/
def isMember (d : Directory) (user team : String) : Bool := d.isMemberBy (.text user) (.text team)

/-- Is a user that is declared in a team that is declared? -/
def isMemberOf (d : Directory) (u : User) (t : Team) : Bool := d.isMemberBy (.itself u) (.itself t)

/-- The handles of the users in a team or in one that it contains. -/
def membersOf (d : Directory) (team : String) : List String :=
  let teams := d.children.closure [UserRef.teamName team]
  (d.users.filter fun u => u.teams.any teams.contains).map (·.handle)

/-- The members of a team that is given; the name of the team itself is read as a text. -/
def membersBy (d : Directory) : Given Team → List String
  | .itself t => d.membersOf t.name
  | .text team => d.membersOf team

end Directory

end Folio
