/-
  Folio — who is a member of what.

  A user is a member of the teams that the user names, and with each team of those
  that contain it.  So the teams of a user are the least set with these two
  properties; and looked at from a team, its members are the users whose teams it is
  one of.  Teams may contain each other in a circle, and may name teams that nobody
  has declared.

  * `Directory.leads_children_iff`: the links down are the links up, read backwards;
  * `Directory.teamsOfUser_isLeast`: the teams of a user, and their members.
-/
import Folio.Proofs.Graph.Walk
import Folio.User.Basic

namespace Folio

open Relation

theorem UserRef.teamName_mark_append (name : String) : teamName ("@team/" ++ name) = name := by
  have h : Text.dropStart? teamMark ("@team/" ++ name).toList = some name.toList := by
    rw [String.toList_append]
    exact Text.dropStart?_append _ _
  rw [teamName, h]
  exact String.ofList_toList

namespace Directory

variable (d : Directory)

/-! ## Links -/

/-- How many teams the teams name in all. -/
def linkCount : Nat := (d.teams.map (·.teams.length)).sum

theorem leads_parents {member name : String} :
    d.parents.Leads member name ↔ ∃ t ∈ d.teams, member ∈ t.teams ∧ t.name = name := by
  rw [parents, Links.leads_ofPairs]
  simp only [List.mem_flatMap, List.mem_map, Prod.mk.injEq]
  constructor
  · rintro ⟨t, ht, m, hm, rfl, hn⟩; exact ⟨t, ht, hm, hn⟩
  · rintro ⟨t, ht, hm, hn⟩; exact ⟨t, ht, member, hm, rfl, hn⟩

theorem leads_children {name member : String} :
    d.children.Leads name member ↔ ∃ t ∈ d.teams, t.name = name ∧ member ∈ t.teams := by
  have hnodup : (d.children.map (·.1)).Nodup := by
    have : d.children.map (·.1) = d.teams.map (·.name) := by simp [children]
    rw [this]; exact d.nodup_names
  rw [Links.leads_iff_of_nodup hnodup]
  simp only [children, List.mem_map, Prod.mk.injEq]
  constructor
  · rintro ⟨_, ⟨t, ht, hn, rfl⟩, hm⟩; exact ⟨t, ht, hn, hm⟩
  · rintro ⟨t, ht, hn, hm⟩; exact ⟨_, ⟨t, ht, hn, rfl⟩, hm⟩

/-- **A team contains another if the other is contained in it.** -/
theorem leads_children_iff {name member : String} :
    d.children.Leads name member ↔ d.parents.Leads member name := by
  rw [leads_children, leads_parents]
  exact exists_congr fun t => and_congr_right fun _ => and_comm

theorem reaches_children_iff {name member : String} :
    ReflTransGen d.children.Leads name member ↔ ReflTransGen d.parents.Leads member name := by
  have hswap : d.children.Leads = Function.swap d.parents.Leads := by
    funext name member
    exact propext d.leads_children_iff
  rw [hswap, reflTransGen_swap]

theorem left_parents : Links.left [] d.parents = d.linkCount := by
  rw [parents, Links.left_nil_ofPairs]
  simp [linkCount, List.length_flatMap]

theorem left_children : Links.left [] d.children = d.linkCount := by
  unfold children linkCount
  induction d.teams with
  | nil => rfl
  | cons t ts ih => simp [Links.left, ih]

/-! ## Members -/

variable {d} {u : User}

theorem mem_teamsOfUser_iff {name : String} :
    name ∈ d.teamsOfUser u ↔ ∃ t ∈ u.teams, ReflTransGen d.parents.Leads t name :=
  Links.mem_closure_iff

/-- The members of a team are the users with a team that it leads down to. -/
theorem mem_membersOf_iff (hu : u ∈ d.users) {team : String} :
    u.handle ∈ d.membersOf team ↔
      ∃ t ∈ u.teams, ReflTransGen d.children.Leads (UserRef.teamName team) t := by
  have hsame : ∀ v ∈ d.users, v.handle = u.handle → v = u := fun v hv h =>
    List.inj_on_of_nodup_map d.nodup_handles hv hu h
  have hclosure : ∀ t, t ∈ d.children.closure [UserRef.teamName team] ↔
      ReflTransGen d.children.Leads (UserRef.teamName team) t := by
    intro t; simp [Links.mem_closure_iff]
  simp only [membersOf, List.mem_map, List.mem_filter, List.any_eq_true, List.contains_iff_mem,
    hclosure]
  constructor
  · rintro ⟨v, ⟨hv, t, ht, hteam⟩, h⟩
    obtain rfl := hsame v hv h
    exact ⟨t, ht, hteam⟩
  · rintro ⟨t, ht, hteam⟩
    exact ⟨u, ⟨hu, t, ht, hteam⟩, rfl⟩

/-- Names of teams that hold those a user names, and with each team all declared
    ones that contain it. -/
def IsClosedUp (d : Directory) (u : User) (names : Set String) : Prop :=
  (∀ t ∈ u.teams, t ∈ names) ∧ ∀ t ∈ d.teams, ∀ m ∈ t.teams, m ∈ names → t.name ∈ names

theorem isClosedUp_teamsOfUser (d : Directory) (u : User) :
    d.IsClosedUp u {name | name ∈ d.teamsOfUser u} := by
  constructor
  · intro t ht
    exact mem_teamsOfUser_iff.2 ⟨t, ht, .refl⟩
  · intro t ht m hm hmu
    obtain ⟨s, hs, hsm⟩ := mem_teamsOfUser_iff.1 hmu
    exact mem_teamsOfUser_iff.2 ⟨s, hs, hsm.tail ((leads_parents d).2 ⟨t, ht, hm, rfl⟩)⟩

theorem IsClosedUp.mem_of_mem_teamsOfUser {names : Set String} (h : d.IsClosedUp u names)
    {name : String} (hname : name ∈ d.teamsOfUser u) : name ∈ names := by
  obtain ⟨s, hs, hreach⟩ := mem_teamsOfUser_iff.1 hname
  induction hreach with
  | refl => exact h.1 s hs
  | tail hsm hstep ih =>
    obtain ⟨t, ht, hm, rfl⟩ := (leads_parents d).1 hstep
    exact h.2 t ht _ hm (ih (mem_teamsOfUser_iff.2 ⟨s, hs, hsm⟩))

/-- **The teams of a user are the least set** with those that the user names and,
    with each team, the declared ones that contain it; **a team has a user as a
    member just if it is one of these**; and both searches end, after no more steps
    than teams are named. -/
theorem teamsOfUser_isLeast (d : Directory) {u : User} (hu : u ∈ d.users) :
    IsLeast {names | d.IsClosedUp u names} {name | name ∈ d.teamsOfUser u} ∧
    (∀ name, u.handle ∈ d.membersOf ("@team/" ++ name) ↔ name ∈ d.teamsOfUser u) ∧
    (∃ k ≤ u.teams.length + d.linkCount,
      (Walk.step d.parents)^[k] ⟨[], u.teams⟩ = ⟨d.teamsOfUser u, []⟩) ∧
    ∀ name, ∃ k ≤ 1 + d.linkCount,
      (Walk.step d.children)^[k] ⟨[], [name]⟩ = ⟨d.children.closure [name], []⟩ := by
  refine ⟨⟨isClosedUp_teamsOfUser d u, fun names h name => h.mem_of_mem_teamsOfUser⟩, ?_, ?_, ?_⟩
  · intro name
    rw [mem_membersOf_iff hu, UserRef.teamName_mark_append, mem_teamsOfUser_iff]
    simp only [reaches_children_iff]
  · rw [← left_parents]
    exact Walk.exists_iterate_eq_closure d.parents u.teams
  · intro name
    rw [← left_children]
    exact Walk.exists_iterate_eq_closure d.children [name]

/-- Two teams contain each other, one of them contains a team that nobody has
    declared, and the user names another such team. -/
theorem teamsOfUser_in_circle :
    ∃ (d : Directory) (u : User), u ∈ d.users ∧ d.teamsOfUser u = ["ops", "ghost", "core"] ∧
      d.teams.map (fun t => (t.name, t.teams)) =
        [("core", ["ops"]), ("ops", ["core", "lost"])] ∧
      IsLeast {names | d.IsClosedUp u names} {name | name ∈ d.teamsOfUser u} ∧
      ∀ name, u.handle ∈ d.membersOf ("@team/" ++ name) ↔ name ∈ d.teamsOfUser u := by
  have hu : (⟨"ada", .null, .null, ["core", "ghost"], []⟩ : User) ∈
      (ofLists [⟨"ada", .null, .null, ["core", "ghost"], []⟩]
        [⟨"core", .null, ["ops"], []⟩, ⟨"ops", .null, ["core", "lost"], []⟩]).users :=
    List.mem_cons_self
  obtain ⟨hleast, hmembers, -⟩ := teamsOfUser_isLeast _ hu
  exact ⟨_, _, hu, by decide +kernel, by decide +kernel, hleast, hmembers⟩

end Directory

end Folio
