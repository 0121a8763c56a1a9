/-
  Folio — the forms in which users and teams are given.

  A user or a team is given by itself, by a reference or by the bare name.  References to
  users and to teams have one syntax, and a text is read as a reference if it starts like
  one.  So a team is always reached by its reference, while that of a user whose handle
  starts with `team/` is to a team; and a bare name that starts like a reference is not
  read as a name.

  * `User.Form`, `Team.Form`: the forms that give a user and a team;
  * `Directory.isReached`: what is reached by them.
-/
import Folio.Proofs.User.Mention
import Folio.Proofs.User.Membership
import Folio.User.Config

namespace Folio

namespace User
variable (u : User)

/-- The reference to the user. -/
def ref : String := (Mention.user u.handle).text

/-- Does the reference to the user look like one to a team? -/
def LooksLikeTeam : Prop := ∃ name, u.handle = "team/" ++ name

/-- The forms that give a user. -/
inductive Form : Given User → Prop
  | itself : Form (.itself u)
  | ref : ¬ u.LooksLikeTeam → Form (.text u.ref)
  | handle : (∀ rest, u.handle ≠ "@" ++ rest) → Form (.text u.handle)

end User

namespace Team
variable (t : Team)

/-- The reference to the team. -/
def ref : String := (Mention.team t.name).text

/-- Does the name of the team look like a reference to one? -/
def LooksLikeRef : Prop := ∃ rest, t.name = "@team/" ++ rest

/-- The forms that give a team. -/
inductive Form : Given Team → Prop
  | itself : Form (.itself t)
  | ref : Form (.text t.ref)
  | name : ¬ t.LooksLikeRef → Form (.text t.name)

end Team

namespace Directory

/-- What is reached in a directory. -/
structure IsReached (d : Directory) : Prop where
  /-- Every team is reached by its reference. -/
  team : ∀ t ∈ d.teams, d.party? t.ref = some (.team t)
  /-- A user is reached by the reference just if that does not look like one to a team. -/
  user : ∀ u ∈ d.users, d.party? u.ref = some (.user u) ↔ ¬ u.LooksLikeTeam
  /-- Otherwise the reference is to that team, if there is one. -/
  user_team : ∀ u ∈ d.users, ∀ name, u.handle = "team/" ++ name →
    d.party? u.ref = (d.teamNamed? name).map .team
  /-- The references to users and teams are listed. -/
  mem_refs : ∀ s, s ∈ d.refs ↔ (∃ u ∈ d.users, u.ref = s) ∨ ∃ t ∈ d.teams, t.ref = s
  /-- None is listed twice, unless it is that of a user and of a team. -/
  nodup_refs : d.refs.Nodup ↔ ∀ u ∈ d.users, ∀ t ∈ d.teams, u.handle ≠ "team/" ++ t.name
  /-- Each form gives the teams of a user. -/
  teams : ∀ u ∈ d.users, ∀ q, u.Form q → d.teamsBy q = d.teamsBy (.itself u)
  /-- Each form of a user and each of a team tell whether the user is a member. -/
  member : ∀ u ∈ d.users, ∀ q, u.Form q → ∀ t ∈ d.teams, ∀ r, t.Form r →
    d.isMemberBy q r = d.isMemberOf u t
  /-- Each form gives the members of a team, unless the name looks like a reference. -/
  members : ∀ t ∈ d.teams, ¬ t.LooksLikeRef → ∀ r, t.Form r → d.membersBy r = d.membersBy (.itself t)

variable {d : Directory}

/-! ## Looking up -/

theorem find?_key {α : Type} {key : α → String} {xs : List α} (hd : (xs.map key).Nodup) {x : α}
    (hx : x ∈ xs) : xs.find? (key · == key x) = some x := by
  cases hfind : xs.find? (key · == key x) with
  | none => simpa using List.find?_eq_none.1 hfind x hx
  | some y =>
    have hkey : key y = key x := by simpa using List.find?_some hfind
    rw [List.inj_on_of_nodup_map hd (List.mem_of_find?_eq_some hfind) hx hkey]

theorem userNamed?_handle {u : User} (hu : u ∈ d.users) : d.userNamed? u.handle = some u :=
  find?_key d.nodup_handles hu

theorem teamNamed?_name {t : Team} (ht : t ∈ d.teams) : d.teamNamed? t.name = some t :=
  find?_key d.nodup_names ht

theorem party?_team (d : Directory) (name : String) :
    d.party? (Mention.team name).text = (d.teamNamed? name).map .team := by
  rw [party?, user?_team, team?_team]

theorem user?_ref {u : User} (hu : u ∈ d.users) (h : ¬ u.LooksLikeTeam) :
    d.user? u.ref = some u := by
  rw [User.ref, d.user?_user (not_exists.1 h), userNamed?_handle hu]

theorem ref_user_eq_team {u : User} {name : String} (h : u.handle = "team/" ++ name) :
    u.ref = (Mention.team name).text := by
  rw [User.ref, h, ← String.toList_inj, UserRef.toList_user, UserRef.toList_team,
    String.toList_append]
  rfl

theorem ref_user_eq_team_iff {u : User} {t : Team} :
    u.ref = t.ref ↔ u.handle = "team/" ++ t.name := by
  refine ⟨fun h => (dropStart?_teamMark_user u.handle t.name).1 ?_, ref_user_eq_team⟩
  change Text.dropStart? UserRef.teamMark u.ref.toList = _
  rw [h, Team.ref, UserRef.toList_team, Text.dropStart?_append]

/-- Where the reference looks like one to a team, it is to no user. -/
theorem party?_user_team {u : User} {name : String} (h : u.handle = "team/" ++ name) :
    d.party? u.ref = (d.teamNamed? name).map .team := by
  rw [ref_user_eq_team h, party?_team]

theorem party?_ref_iff {u : User} (hu : u ∈ d.users) :
    d.party? u.ref = some (.user u) ↔ ¬ u.LooksLikeTeam := by
  constructor
  · rintro h ⟨name, hname⟩
    rw [party?_user_team hname] at h
    obtain ⟨t, -, ht⟩ := Option.map_eq_some_iff.1 h
    cases ht
  · intro h
    rw [party?, user?_ref hu h]

/-! ## The list of references -/

theorem refs_user_perm (d : Directory) :
    (((d.users.map (·.handle)).mergeSort (· ≤ ·)).map ("@" ++ ·)).Perm (d.users.map (·.ref)) := by
  have h := (List.mergeSort_perm (d.users.map (·.handle)) (· ≤ ·)).map ("@" ++ ·)
  rwa [List.map_map] at h

theorem refs_team_perm (d : Directory) :
    (((d.teams.map (·.name)).mergeSort (· ≤ ·)).map ("@team/" ++ ·)).Perm (d.teams.map (·.ref)) := by
  have h := (List.mergeSort_perm (d.teams.map (·.name)) (· ≤ ·)).map ("@team/" ++ ·)
  rwa [List.map_map] at h

theorem refs_perm (d : Directory) : d.refs.Perm (d.users.map (·.ref) ++ d.teams.map (·.ref)) :=
  d.refs_user_perm.append d.refs_team_perm

theorem mem_refs_iff {s : String} :
    s ∈ d.refs ↔ (∃ u ∈ d.users, u.ref = s) ∨ ∃ t ∈ d.teams, t.ref = s := by
  rw [d.refs_perm.mem_iff, List.mem_append, List.mem_map, List.mem_map]

theorem nodup_refs_users (d : Directory) : (d.users.map (·.ref)).Nodup := by
  have h : d.users.map (·.ref) = (d.users.map (·.handle)).map ("@" ++ ·) := by rw [List.map_map]; rfl
  rw [h]
  exact d.nodup_handles.map fun a b => (String.append_right_inj "@").1

theorem nodup_refs_teams (d : Directory) : (d.teams.map (·.ref)).Nodup := by
  have h : d.teams.map (·.ref) = (d.teams.map (·.name)).map ("@team/" ++ ·) := by rw [List.map_map]; rfl
  rw [h]
  exact d.nodup_names.map fun a b => (String.append_right_inj "@team/").1

theorem nodup_refs_iff :
    d.refs.Nodup ↔ ∀ u ∈ d.users, ∀ t ∈ d.teams, u.handle ≠ "team/" ++ t.name := by
  rw [d.refs_perm.nodup_iff, List.nodup_append]
  constructor
  · rintro ⟨-, -, h⟩ u hu t ht he
    exact h _ (List.mem_map_of_mem hu) _ (List.mem_map_of_mem ht) (ref_user_eq_team_iff.2 he)
  · intro h
    refine ⟨d.nodup_refs_users, d.nodup_refs_teams, ?_⟩
    intro a ha b hb he
    obtain ⟨u, hu, rfl⟩ := List.mem_map.1 ha
    obtain ⟨t, ht, rfl⟩ := List.mem_map.1 hb
    exact h u hu t ht (ref_user_eq_team_iff.1 he)

/-! ## Membership -/

theorem named?_of_form {u : User} (hu : u ∈ d.users) {s : String} (h : u.Form (.text s)) :
    d.named? s = some u := by
  cases h with
  | ref hteam =>
    rw [named?, User.ref, if_pos (by rw [UserRef.toList_user]; rfl)]
    exact user?_ref hu hteam
  | handle hat =>
    rw [named?, if_neg, userNamed?_handle hu]
    intro hhead
    obtain ⟨rest, hrest⟩ := List.head?_eq_some_iff.1 hhead
    refine hat (String.ofList rest) ?_
    rw [← String.toList_inj, String.toList_append, hrest]
    simp

theorem teamsBy_of_form {u : User} (hu : u ∈ d.users) {q : Given User} (h : u.Form q) :
    d.teamsBy q = d.teamsOfUser u := by
  cases q with
  | itself v => cases h; rfl
  | text s => rw [teamsBy, teamsOf, named?_of_form hu h]; rfl

theorem teamName_of_form {t : Team} {s : String} (h : t.Form (.text s)) :
    UserRef.teamName s = t.name := by
  cases h with
  | ref => exact UserRef.teamName_mark_append t.name
  | name hmark =>
    cases hdrop : Text.dropStart? UserRef.teamMark t.name.toList with
    | none => rw [UserRef.teamName, hdrop]
    | some rest =>
      refine absurd ⟨String.ofList rest, ?_⟩ hmark
      rw [← String.toList_inj, String.toList_append, Text.dropStart?_eq_some_iff.1 hdrop]
      exact congrArg (UserRef.teamMark ++ ·) String.toList_ofList.symm

theorem name_of_form {t : Team} {r : Given Team} (h : t.Form r) : r.name = t.name := by
  cases r with
  | itself t' => cases h; rfl
  | text s => exact teamName_of_form h

theorem membersOf_congr {a b : String} (h : UserRef.teamName a = UserRef.teamName b) :
    d.membersOf a = d.membersOf b := by
  rw [membersOf, membersOf, h]

theorem membersBy_of_form {t : Team} (ht : ¬ t.LooksLikeRef) {r : Given Team} (h : t.Form r) :
    d.membersBy r = d.membersOf t.name := by
  cases r with
  | itself t' => cases h; rfl
  | text s =>
    exact membersOf_congr ((teamName_of_form h).trans (teamName_of_form (.name ht)).symm)

/-- **What is reached in a directory** by the forms in which users and teams are given. -/
theorem isReached (d : Directory) : d.IsReached where
  team t ht := by rw [Team.ref, party?_team, teamNamed?_name ht]; rfl
  user u hu := party?_ref_iff hu
  user_team u _ name h := party?_user_team h
  mem_refs s := mem_refs_iff
  nodup_refs := nodup_refs_iff
  teams u hu q h := teamsBy_of_form hu h
  member u hu q hq t _ r hr := by
    rw [isMemberOf, isMemberBy, isMemberBy, teamsBy_of_form hu hq, name_of_form hr]
    rfl
  members t _ ht r h := membersBy_of_form ht h

/-- The one user that is declared is neither found by the reference nor in a team by it. -/
theorem user_missed_by_ref :
    ∃ (d : Directory) (u : User),
      ofValue (.map none [(.text "users", .map none [(.text "team/x",
        .map none [(.text "teams", .list none [.text "ops"])])])]) = .ok d ∧
      u ∈ d.users ∧ d.refs = [u.ref] ∧ d.party? u.ref = none ∧
      d.teamsBy (.text u.ref) = [] ∧ d.teamsBy (.itself u) = ["ops"] :=
  ⟨ofLists [⟨"team/x", .null, .null, ["ops"], []⟩] [], ⟨"team/x", .null, .null, ["ops"], []⟩,
    rfl, List.mem_cons_self, by decide +kernel, by decide +kernel, by decide +kernel, by decide +kernel⟩

end Directory

end Folio
