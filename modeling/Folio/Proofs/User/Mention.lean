/-
  Folio — texts that name users and teams.

  A text names a user by a handle after a commercial at, and a team by a name after
  `@team/` (`Mention`).  Such names have no slash, so no text names both.  The test of a
  text lets one line end follow, which then counts as part of the name that is looked up.

  * `UserRef.isName_iff`, `UserRef.isValid_iff`: the texts that pass the test;
  * `Directory.knows_text_iff`: the users and teams that are looked up.
-/
import Mathlib
import Folio.User.Basic

namespace Folio

/-- What a text names: a user by the handle, or a team by the name. -/
inductive Mention where
  | user (handle : String)
  | team (name : String)

/-- A letter or a digit, and then letters, digits, low lines, points and hyphens. -/
def UserRef.IsName (name : List Char) : Prop :=
  ∃ c rest, name = c :: rest ∧ c.isAlphanum = true ∧
    ∀ x ∈ rest, x.isAlphanum = true ∨ x ∈ ['_', '.', '-']

namespace Mention

/-- The text that names the user or the team. -/
def text : Mention → String
  | user handle => "@" ++ handle
  | team name => "@team/" ++ name

/-- The name in the text. -/
def name : Mention → String
  | user handle => handle
  | team name => name

/-- The same with a line end after the name. -/
def ended : Mention → Mention
  | user handle => user (handle ++ "\n")
  | team name => team (name ++ "\n")

/-- The name is of the characters that names are of. -/
def WellFormed (m : Mention) : Prop := UserRef.IsName m.name.toList

/-- The directory has the user or the team. -/
def DeclaredIn (d : Directory) : Mention → Prop
  | user handle => ∃ u ∈ d.users, u.handle = handle
  | team name => ∃ t ∈ d.teams, t.name = name

theorem name_ended (m : Mention) : m.ended.name = m.name ++ "\n" := by cases m <;> rfl

end Mention

/-! ## The form of names -/

namespace UserRef

theorem IsName.of_mem {name : List Char} (h : IsName name) {x : Char} (hx : x ∈ name) :
    x.isAlphanum = true ∨ x ∈ ['_', '.', '-'] := by
  obtain ⟨c, rest, rfl, hc, hrest⟩ := h
  rcases List.mem_cons.1 hx with rfl | hx
  · exact .inl hc
  · exact hrest x hx

theorem IsName.not_mem_lineEnd {name : List Char} (h : IsName name) : '\n' ∉ name :=
  fun hx => absurd (h.of_mem hx) (by decide)

theorem IsName.not_mem_slash {name : List Char} (h : IsName name) : '/' ∉ name :=
  fun hx => absurd (h.of_mem hx) (by decide)

theorem isNameChar_iff {c : Char} :
    isNameChar c = true ↔ c.isAlphanum = true ∨ c ∈ ['_', '.', '-'] := by
  simp [isNameChar, or_assoc]

theorem isName_iff_of_getLast?_ne {cs : List Char} (h : cs.getLast? ≠ some '\n') :
    isName cs = true ↔ IsName cs := by
  rw [isName, if_neg h]
  cases cs with
  | nil => simp [IsName]
  | cons c rest => simp [IsName, isNameChar_iff]

theorem isName_lineEnd_iff {name : List Char} :
    isName (name ++ ['\n']) = true ↔ IsName name := by
  rw [isName, if_pos List.getLast?_concat, List.dropLast_concat]
  cases name with
  | nil => simp [IsName]
  | cons c rest => simp [IsName, isNameChar_iff]

/-- **The test of a name** lets one line end follow. -/
theorem isName_iff {cs : List Char} :
    isName cs = true ↔ IsName cs ∨ ∃ name, IsName name ∧ cs = name ++ ['\n'] := by
  by_cases hlast : cs.getLast? = some '\n'
  · obtain ⟨name, rfl⟩ := List.getLast?_eq_some_iff.1 hlast
    rw [isName_lineEnd_iff]
    constructor
    · exact fun h => .inr ⟨name, h, rfl⟩
    · rintro (h | ⟨name', h, he⟩)
      · exact absurd (List.mem_append_right _ List.mem_cons_self) h.not_mem_lineEnd
      · exact List.append_cancel_right he ▸ h
  · rw [isName_iff_of_getLast?_ne hlast]
    refine (or_iff_left ?_).symm
    rintro ⟨name, -, rfl⟩
    exact hlast List.getLast?_concat

theorem toList_user (handle : String) : (Mention.user handle).text.toList = '@' :: handle.toList :=
  String.toList_append

theorem toList_team (name : String) : (Mention.team name).text.toList = teamMark ++ name.toList :=
  String.toList_append

theorem isValid_text {m : Mention} (h : isName m.name.toList = true) : isValid m.text = true := by
  cases m with
  | user handle =>
    rw [isValid, toList_user]
    exact Bool.or_eq_true_iff.2 (.inl h)
  | team name =>
    have hdrop : Text.dropStart? teamMark (Mention.team name).text.toList = some name.toList := by
      rw [toList_team, Text.dropStart?_append]
    have hat : (Mention.team name).text.toList = '@' :: ("team/" ++ name).toList := by
      rw [toList_team, String.toList_append]
      rfl
    rw [hat] at hdrop
    rw [isValid, hat]
    exact Bool.or_eq_true_iff.2 (.inr (hdrop ▸ h))

theorem exists_of_isValid {s : String} (h : isValid s = true) :
    ∃ m : Mention, s = m.text ∧ isName m.name.toList = true := by
  unfold isValid at h
  split at h
  · next rest hs =>
    rcases Bool.or_eq_true_iff.1 h with h | h
    · refine ⟨.user (String.ofList rest), ?_, (String.toList_ofList ..).symm ▸ h⟩
      rw [← String.toList_inj, toList_user, String.toList_ofList, hs]
    · obtain ⟨name, hdrop, hname⟩ := (Option.any_eq_true ..).1 h
      refine ⟨.team (String.ofList name), ?_, (String.toList_ofList ..).symm ▸ hname⟩
      rw [← String.toList_inj, toList_team, String.toList_ofList, hs,
        Text.dropStart?_eq_some_iff.1 hdrop]
  · cases h

/-- **The test of a text** is passed by those that name a user or a team, and by these
    with a line end. -/
theorem isValid_iff {s : String} : isValid s = true ↔
    ∃ m : Mention, m.WellFormed ∧ (s = m.text ∨ s = m.ended.text) := by
  constructor
  · intro h
    obtain ⟨m, rfl, hm⟩ := exists_of_isValid h
    rcases isName_iff.1 hm with hm | ⟨name, hname, he⟩
    · exact ⟨m, hm, .inl rfl⟩
    · have hended : m.name = String.ofList name ++ "\n" := by
        rw [← String.toList_inj, he, String.toList_append, String.toList_ofList]
        rfl
      have hname : IsName (String.ofList name).toList := by rwa [String.toList_ofList]
      cases m with
      | user handle =>
        subst hended
        exact ⟨.user (String.ofList name), hname, .inr rfl⟩
      | team full =>
        subst hended
        exact ⟨.team (String.ofList name), hname, .inr rfl⟩
  · rintro ⟨m, hm, rfl | rfl⟩
    · exact isValid_text (isName_iff.2 (.inl hm))
    · refine isValid_text (isName_iff.2 (.inr ⟨_, hm, ?_⟩))
      rw [Mention.name_ended, String.toList_append]
      rfl

end UserRef

theorem Mention.WellFormed.not_mem_slash {m : Mention} (h : m.WellFormed) :
    '/' ∉ m.name.toList :=
  UserRef.IsName.not_mem_slash h

theorem Mention.WellFormed.not_mem_slash_ended {m : Mention} (h : m.WellFormed) :
    '/' ∉ m.ended.name.toList := by
  rw [Mention.name_ended, String.toList_append]
  exact fun hx => (List.mem_append.1 hx).elim h.not_mem_slash (by decide)

theorem Mention.WellFormed.not_mem_lineEnd_text {m : Mention} (h : m.WellFormed) :
    '\n' ∉ m.text.toList := by
  cases m with
  | user handle =>
    rw [UserRef.toList_user]
    exact fun hx => (List.mem_cons.1 hx).elim (by decide) h.not_mem_lineEnd
  | team name =>
    rw [UserRef.toList_team]
    exact fun hx => (List.mem_append.1 hx).elim (by decide) h.not_mem_lineEnd

/-! ## Looking up -/

namespace Directory

section
variable (d : Directory)

theorem user?_team (name : String) : d.user? (Mention.team name).text = none := by
  unfold user?
  split
  · rw [UserRef.toList_team, Text.dropStart?_append]
    rfl
  · rfl

theorem team?_team (name : String) :
    d.team? (Mention.team name).text = d.teamNamed? name := by
  rw [team?, UserRef.toList_team, Text.dropStart?_append, Option.bind_some, String.ofList_toList]

/-- A reference to a user looks like one to a team if the handle starts so. -/
theorem dropStart?_teamMark_user (handle name : String) :
    Text.dropStart? UserRef.teamMark (Mention.user handle).text.toList = some name.toList ↔
      handle = "team/" ++ name := by
  rw [Text.dropStart?_eq_some_iff, UserRef.toList_user, ← String.toList_inj, String.toList_append]
  exact ⟨fun h => (List.cons.inj h).2, congrArg ('@' :: ·)⟩

theorem dropStart?_teamMark_user_eq_none {handle : String} (h : ∀ name, handle ≠ "team/" ++ name) :
    Text.dropStart? UserRef.teamMark (Mention.user handle).text.toList = none := by
  refine Option.eq_none_iff_forall_not_mem.2 fun cs hcs => h (String.ofList cs) ?_
  rw [← dropStart?_teamMark_user, String.toList_ofList]
  exact hcs

theorem ne_team_of_not_mem_slash {handle : String} (h : '/' ∉ handle.toList) (name : String) :
    handle ≠ "team/" ++ name := by
  rintro rfl
  rw [String.toList_append] at h
  exact h (List.mem_append_left _ (by decide))

theorem user?_user {handle : String} (h : ∀ name, handle ≠ "team/" ++ name) :
    d.user? (Mention.user handle).text = d.userNamed? handle := by
  have hdrop := dropStart?_teamMark_user_eq_none h
  rw [UserRef.toList_user] at hdrop
  unfold user?
  rw [UserRef.toList_user, hdrop]
  exact congrArg d.userNamed? String.ofList_toList

theorem team?_user {handle : String} (h : ∀ name, handle ≠ "team/" ++ name) :
    d.team? (Mention.user handle).text = none := by
  rw [team?, dropStart?_teamMark_user_eq_none h, Option.bind_none]

/-- **The users and teams that are looked up.** -/
theorem knows_text_iff {m : Mention} (h : '/' ∉ m.name.toList) :
    d.knows m.text = true ↔ m.DeclaredIn d := by
  cases m with
  | user handle =>
    replace h : ∀ name, handle ≠ "team/" ++ name := ne_team_of_not_mem_slash h
    rw [knows, party?, d.user?_user h, d.team?_user h, userNamed?]
    cases hfind : d.users.find? (·.handle == handle) with
    | none => simpa [Mention.DeclaredIn] using hfind
    | some u =>
      have hu := List.find?_some hfind
      exact iff_of_true rfl ⟨u, List.mem_of_find?_eq_some hfind, eq_of_beq hu⟩
  | team name =>
    rw [knows, party?, d.user?_team, d.team?_team, teamNamed?]
    cases hfind : d.teams.find? (·.name == name) with
    | none => simpa [Mention.DeclaredIn] using hfind
    | some t =>
      have ht := List.find?_some hfind
      exact iff_of_true rfl ⟨t, List.mem_of_find?_eq_some hfind, eq_of_beq ht⟩

end

end Directory

end Folio
