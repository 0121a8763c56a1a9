/-
  Folio — which texts declare a directory.

  A directory is declared by a sound configuration (`Config.Sound`), and of a text without
  one it should be said what is wrong (`Directory.Read`).  It is for every text but those
  that fail with a misfit (`Config.Escapes`): because a node of the text does not fit its
  tag, or because a message would have to show a name that is an integer without a text.

  * `Directory.exists_ofValue_ok_iff`, `Directory.ofValue_eq_misfit_iff`: how values are read;
  * `Directory.ofText_iff_not_escapes`: which texts are read as they should be.
-/
import Folio.Proofs.Outcome
import Folio.Proofs.Yaml.Misfit
import Folio.User.Config

namespace Folio

/-! ## Sound configurations -/

namespace Config

/-- The attributes have no teams, or a list of texts as such. -/
inductive NamesTeams (attrs : Entries) : Prop
  | missing : attrs.get? "teams" = none → NamesTeams attrs
  | null : attrs.get? "teams" = some .null → NamesTeams attrs
  | list {l items} : attrs.get? "teams" = some (.list l items) →
      (∀ v ∈ items, ∃ s, v = .text s) → NamesTeams attrs

/-- The entry has attributes under a text. -/
def IsNamed (e : Value × Value) : Prop := ∃ name l attrs, e = (.text name, .map l attrs)

/-- The entry has attributes with teams under a text. -/
def IsEntry (e : Value × Value) : Prop :=
  ∃ name l attrs, e = (.text name, .map l attrs) ∧ NamesTeams attrs

/-- The part is missing, or each of its entries is one of a user or a team. -/
inductive SoundPart (config : Entries) (part : ConfigPart) : Prop
  | missing : config.get? part.key = none → SoundPart config part
  | null : config.get? part.key = some .null → SoundPart config part
  | entries {l es} : config.get? part.key = some (.map l es) → (∀ e ∈ es, IsEntry e) →
      SoundPart config part

/-- The configuration is missing, or both of its parts are sound. -/
inductive Sound : Value → Prop
  | null : Sound .null
  | parts {l config} : SoundPart config .users → SoundPart config .teams → Sound (.map l config)

/-- The first entry of the part without attributes under a text is under an integer that has
    no text. -/
def Unshown (config : Entries) (part : ConfigPart) : Prop :=
  ∃ l before e after, config.get? part.key = some (.map l (before ++ e :: after)) ∧
    (∀ x ∈ before, IsNamed x) ∧ e.1.isWritable = false

theorem Unshown.exists_map {config : Entries} {part : ConfigPart} (h : Unshown config part) :
    ∃ l es, config.get? part.key = some (.map l es) := by
  obtain ⟨l, before, e, after, hget, -, -⟩ := h
  exact ⟨l, before ++ e :: after, hget⟩

/-- What the text of a configuration fails with. -/
inductive Escapes (text : List Char) : Yaml.Misfit → Prop
  | misfit {m} : Yaml.decode Directory.rules text = .error (.misfit m) → Escapes text m
  | user {l config} : Yaml.decode Directory.rules text = .ok (.map l config) →
      Unshown config .users → Escapes text (.number .longText)
  /-- The users are read before the teams. -/
  | team {l config} : Yaml.decode Directory.rules text = .ok (.map l config) →
      SoundPart config .users → Unshown config .teams → Escapes text (.number .longText)

/-- Something is said of the text: it can be read in one way only, no anchor names a value
    that holds itself, and no escape is half of a character. -/
def Clear (text : List Char) : Prop := ∀ m, Escapes text m → m.isUnclear = false

end Config

namespace Directory

open Config

/-! ## Entries -/

theorem attributes_eq_ok_iff {part : ConfigPart} {es : Entries} {as : List (String × Entries)} :
    attributes part es = .ok as ↔
      List.Forall₂ (fun e a => ∃ l, e = (.text a.1, .map l a.2)) es as := by
  fun_induction attributes part es generalizing as with
  | case1 => cases as <;> simp
  | case2 name l attrs es ih =>
    cases hes : attributes part es with
    | error e => simp [Except.map, List.forall₂_cons_left_iff, ← ih, hes]
    | ok bs => simp [Except.map, List.forall₂_cons_left_iff, ← ih, hes, eq_comm]
  | case3 name v es hmap =>
    refine iff_of_false nofun fun h => ?_
    obtain ⟨a, as, ⟨l, he⟩, -, -⟩ := List.forall₂_cons_left_iff.1 h
    exact hmap l a.2 (Prod.mk.inj he).2
  | case4 name v es _ htext | case5 name v es _ htext =>
    refine iff_of_false nofun fun h => ?_
    obtain ⟨a, as, ⟨l, he⟩, -, -⟩ := List.forall₂_cons_left_iff.1 h
    exact htext a.1 (Prod.mk.inj he).1

theorem attributes_eq_misfit_iff {part : ConfigPart} {es : Entries} {m : Yaml.Misfit} :
    attributes part es = .error (.misfit m) ↔ m = .number .longText ∧
      ∃ before e after, es = before ++ e :: after ∧ (∀ x ∈ before, IsNamed x) ∧
        e.1.isWritable = false := by
  fun_induction attributes part es with
  | case1 => simp
  | case2 name l attrs es ih =>
    have hnamed : IsNamed (.text name, .map l attrs) := ⟨name, l, attrs, rfl⟩
    have hmap : (attributes part es).map ((name, attrs) :: ·) = .error (.misfit m) ↔
        attributes part es = .error (.misfit m) := by
      cases attributes part es <;> simp [Except.map]
    rw [hmap, ih, exists_split_cons_iff]
    simp [hnamed, Value.isWritable]
  | case3 name v es hmap =>
    have hnamed : ¬ IsNamed (.text name, v) := by
      rintro ⟨_, l, attrs, he⟩
      exact hmap l attrs (Prod.mk.inj he).2
    rw [exists_split_cons_iff]
    simp [hnamed, Value.isWritable]
  | case4 name v es _ htext hw =>
    have hnamed : ¬ IsNamed (name, v) := by
      rintro ⟨name', l, attrs, he⟩
      exact htext name' (Prod.mk.inj he).1
    rw [exists_split_cons_iff]
    simp [hnamed, hw]
  | case5 name v es _ htext hw =>
    rw [exists_split_cons_iff, Except.error.injEq, ConfigError.misfit.injEq, eq_comm]
    simp [hw]

/-! ## Teams in attributes -/

theorem exists_texts?_iff {vs : List Value} :
    (∃ ss, texts? vs = some ss) ↔ ∀ v ∈ vs, ∃ s, v = .text s := by
  fun_induction texts? vs with
  | case1 => simp
  | case2 s vs ih => simp [← ih]
  | case3 v vs htext =>
    refine iff_of_false (by simp) fun h => ?_
    obtain ⟨s, hs⟩ := h v List.mem_cons_self
    exact htext s hs

theorem exists_teamsIn_ok_iff {part : ConfigPart} {name : String} {attrs : Entries} :
    (∃ ts, teamsIn part name attrs = .ok ts) ↔ NamesTeams attrs := by
  unfold teamsIn
  split
  · next h => exact iff_of_true ⟨_, rfl⟩ (.missing h)
  · next h => exact iff_of_true ⟨_, rfl⟩ (.null h)
  · next l items h =>
    have hnames : NamesTeams attrs ↔ ∀ v ∈ items, ∃ s, v = .text s := by
      refine ⟨fun hn => ?_, .list h⟩
      cases hn with
      | missing h' | null h' => rw [h] at h'; cases h'
      | list h' hitems => rw [h] at h'; cases h'; exact hitems
    rw [hnames, ← exists_texts?_iff]
    cases texts? items <;> simp
  · next v hnull hlist h =>
    refine iff_of_false nofun fun hn => ?_
    cases hn with
    | missing h' => rw [h] at h'; cases h'
    | null h' => exact hnull (Option.some.inj (h.symm.trans h'))
    | list h' => exact hlist _ _ (Option.some.inj (h.symm.trans h'))

theorem teamsIn_ne_misfit {part : ConfigPart} {name : String} {attrs : Entries} {m : Yaml.Misfit} :
    teamsIn part name attrs ≠ .error (.misfit m) := by
  unfold teamsIn
  split
  · nofun
  · nofun
  · split <;> nofun
  · nofun

/-! ## Parts -/

/-- What makes something of an entry fails just if its teams do. -/
def Follows {α : Type} (part : ConfigPart) (of : String × Entries → Except ConfigError α) : Prop :=
  ∀ entry, ∃ f : List String → α, of entry = (teamsIn part entry.1 entry.2).map f

theorem follows_userOf : Follows .users userOf := fun _ => ⟨_, rfl⟩

theorem follows_teamOf : Follows .teams teamOf := fun _ => ⟨_, rfl⟩

section
variable {α : Type} {config : Entries} {part : ConfigPart}
  {of : String × Entries → Except ConfigError α} (hof : Follows part of)
include hof

theorem Follows.exists_ok_iff {entry : String × Entries} :
    (∃ a, of entry = .ok a) ↔ NamesTeams entry.2 := by
  obtain ⟨f, hf⟩ := hof entry
  rw [hf, ← @exists_teamsIn_ok_iff part entry.1]
  cases teamsIn part entry.1 entry.2 <;> simp [Except.map]

theorem Follows.ne_misfit {entry : String × Entries} {m : Yaml.Misfit} :
    of entry ≠ .error (.misfit m) := by
  obtain ⟨f, hf⟩ := hof entry
  rw [hf]
  cases h : teamsIn part entry.1 entry.2 with
  | ok ts => nofun
  | error e =>
    intro he
    cases he
    exact teamsIn_ne_misfit h

/-- All entries are made something of if each has attributes with teams under a text. -/
theorem exists_entries_ok_iff {es : Entries} :
    (∃ bs, (attributes part es >>= fun as => as.mapM of) = .ok bs) ↔ ∀ e ∈ es, IsEntry e := by
  simp only [bind_eq_ok_iff, attributes_eq_ok_iff]
  constructor
  · rintro ⟨bs, as, has, hbs⟩ e he
    obtain ⟨a, ha, l, rfl⟩ := exists_of_forall₂_left has he
    exact ⟨a.1, l, a.2, rfl, hof.exists_ok_iff.1 (exists_mapM_ok_iff.1 ⟨bs, hbs⟩ a ha)⟩
  · intro h
    have hnamed : ∀ e ∈ es, ∃ a : String × Entries, (∃ l, e = (.text a.1, .map l a.2)) ∧
        NamesTeams a.2 := by
      intro e he
      obtain ⟨name, l, attrs, rfl, hteams⟩ := h e he
      exact ⟨(name, attrs), ⟨l, rfl⟩, hteams⟩
    obtain ⟨as, has⟩ := exists_forall₂_iff.2 hnamed
    obtain ⟨bs, hbs⟩ := exists_mapM_ok_iff.2 fun a ha => by
      obtain ⟨-, -, -, hteams⟩ := exists_of_forall₂_right has ha
      exact hof.exists_ok_iff.2 hteams
    exact ⟨bs, as, has.imp fun _ _ h => h.1, hbs⟩

theorem entries_eq_misfit_iff {es : Entries} {m : Yaml.Misfit} :
    (attributes part es >>= fun as => as.mapM of) = .error (.misfit m) ↔
      attributes part es = .error (.misfit m) := by
  rw [bind_eq_error_iff, or_iff_left]
  rintro ⟨as, -, h⟩
  obtain ⟨a, -, ha⟩ := exists_of_mapM_error h
  exact hof.ne_misfit ha

/-- What a part is made into. -/
theorem exists_part_ok_iff :
    (∃ bs, (entriesOf config part >>= fun as => as.mapM of) = .ok bs) ↔ SoundPart config part := by
  unfold entriesOf
  split
  · next h => exact iff_of_true ⟨[], rfl⟩ (.missing h)
  · next h => exact iff_of_true ⟨[], rfl⟩ (.null h)
  · next l es h =>
    refine (exists_entries_ok_iff hof).trans ⟨.entries h, fun hs => ?_⟩
    cases hs with
    | missing h' | null h' => rw [h] at h'; cases h'
    | entries h' hes => rw [h] at h'; cases h'; exact hes
  · next v hnull hmap h =>
    refine iff_of_false nofun fun hs => ?_
    cases hs with
    | missing h' => rw [h] at h'; cases h'
    | null h' => exact hnull (Option.some.inj (h.symm.trans h'))
    | entries h' => exact hmap _ _ (Option.some.inj (h.symm.trans h'))

theorem part_eq_misfit_iff {m : Yaml.Misfit} :
    (entriesOf config part >>= fun as => as.mapM of) = .error (.misfit m) ↔
      m = .number .longText ∧ Unshown config part := by
  unfold entriesOf
  split
  · next h =>
    refine iff_of_false nofun fun hu => ?_
    obtain ⟨l, es, h'⟩ := hu.2.exists_map
    cases h.symm.trans h'
  · next h =>
    refine iff_of_false nofun fun hu => ?_
    obtain ⟨l, es, h'⟩ := hu.2.exists_map
    cases h.symm.trans h'
  · next l es h =>
    refine (entries_eq_misfit_iff hof).trans (attributes_eq_misfit_iff.trans (and_congr_right fun _ => ?_))
    constructor
    · rintro ⟨before, e, after, rfl, hrest⟩
      exact ⟨l, before, e, after, h, hrest⟩
    · rintro ⟨l', before, e, after, h', hrest⟩
      rw [h] at h'
      cases h'
      exact ⟨before, e, after, rfl, hrest⟩
  · next v hnull hmap h =>
    refine iff_of_false nofun fun hu => ?_
    obtain ⟨l, es, h'⟩ := hu.2.exists_map
    exact hmap l es (Option.some.inj (h.symm.trans h'))

end

/-! ## Values -/

section
variable {config : Entries}

theorem ofEntries_eq (config : Entries) :
    ofEntries config = (entriesOf config .users >>= fun as => as.mapM userOf) >>= fun us =>
      (entriesOf config .teams >>= fun as => as.mapM teamOf) >>= fun ts => pure (ofLists us ts) := by
  simp only [ofEntries, bind_assoc]

theorem exists_ofEntries_ok_iff :
    (∃ d, ofEntries config = .ok d) ↔ SoundPart config .users ∧ SoundPart config .teams := by
  rw [← exists_part_ok_iff follows_userOf, ← exists_part_ok_iff follows_teamOf, ofEntries_eq]
  constructor
  · rintro ⟨d, h⟩
    obtain ⟨us, hus, h⟩ := bind_eq_ok_iff.1 h
    obtain ⟨ts, hts, -⟩ := bind_eq_ok_iff.1 h
    exact ⟨⟨us, hus⟩, ⟨ts, hts⟩⟩
  · rintro ⟨⟨us, hus⟩, ⟨ts, hts⟩⟩
    exact ⟨ofLists us ts, by rw [hus, hts]; rfl⟩

theorem ofEntries_eq_misfit_iff {m : Yaml.Misfit} : ofEntries config = .error (.misfit m) ↔
    m = .number .longText ∧
      (Unshown config .users ∨ SoundPart config .users ∧ Unshown config .teams) := by
  have hteams : ∀ us : List User, ((entriesOf config .teams >>= fun as => as.mapM teamOf) >>=
      fun ts => (pure (ofLists us ts) : Except ConfigError Directory)) = .error (.misfit m) ↔
      m = .number .longText ∧ Unshown config .teams := fun us => by
    rw [bind_eq_error_iff, or_iff_left (by rintro ⟨_, -, h⟩; cases h), part_eq_misfit_iff follows_teamOf]
  rw [ofEntries_eq, bind_eq_error_iff, part_eq_misfit_iff follows_userOf,
    ← exists_part_ok_iff follows_userOf]
  simp only [hteams, exists_and_right, and_or_left]
  exact or_congr Iff.rfl and_left_comm

/-- A value declares a directory if it is a sound configuration. -/
theorem exists_ofValue_ok_iff {v : Value} : (∃ d, ofValue v = .ok d) ↔ Sound v := by
  unfold ofValue
  split
  · exact iff_of_true (exists_ofEntries_ok_iff.2 ⟨.missing rfl, .missing rfl⟩) .null
  · next l config =>
    rw [exists_ofEntries_ok_iff]
    refine ⟨fun h => .parts h.1 h.2, fun h => ?_⟩
    cases h with
    | parts husers hteams => exact ⟨husers, hteams⟩
  · next v hnull hmap =>
    refine iff_of_false nofun fun h => ?_
    cases h with
    | null => exact hnull rfl
    | parts => exact hmap _ _ rfl

theorem ofValue_eq_misfit_iff {v : Value} {m : Yaml.Misfit} :
    ofValue v = .error (.misfit m) ↔ m = .number .longText ∧ ∃ l config, v = .map l config ∧
      (Unshown config .users ∨ SoundPart config .users ∧ Unshown config .teams) := by
  unfold ofValue
  split
  · refine iff_of_false nofun ?_
    rintro ⟨-, l, config, h, -⟩
    cases h
  · next l config =>
    rw [ofEntries_eq_misfit_iff]
    refine and_congr_right fun _ => ⟨fun h => ⟨l, config, rfl, h⟩, ?_⟩
    rintro ⟨_, _, ⟨⟩, h⟩
    exact h
  · next v hnull hmap =>
    refine iff_of_false nofun ?_
    rintro ⟨-, l, config, h, -⟩
    exact hmap l config h

end

/-! ## Texts -/

section
variable {text : List Char}

/-- A text is read as it should be: it declares a directory if it is that of a sound
    configuration, and else it is said what is wrong. -/
inductive Read (text : List Char) : Prop
  | directory {v d} : Yaml.decode rules text = .ok v → Sound v → ofText text = .ok d → Read text
  | notYaml {e} : Yaml.decode rules text = .error e → (∀ m, e ≠ .misfit m) →
      ofText text = .error (.notYaml (e.full text)) → Read text
  | unsound {v e} : Yaml.decode rules text = .ok v → ¬ Sound v → (∀ m, e ≠ .misfit m) →
      ofText text = .error e → Read text

/-- The text of a value is read as the value is. -/
theorem ofText_of_decode {v : Value} (h : Yaml.decode rules text = .ok v) :
    ofText text = ofValue v := by
  unfold ofText
  rw [h]

theorem escapes_iff {m : Yaml.Misfit} : Escapes text m ↔ ofText text = .error (.misfit m) := by
  cases hd : Yaml.decode rules text with
  | error e =>
    have hiff : Escapes text m ↔ e = .misfit m := by
      refine ⟨fun h => ?_, fun h => .misfit (h ▸ hd)⟩
      cases h with
      | misfit h => rw [hd] at h; cases h; rfl
      | user h => rw [hd] at h; cases h
      | team h => rw [hd] at h; cases h
    rw [hiff]
    unfold ofText
    rw [hd]
    cases e <;> simp
  | ok v =>
    rw [ofText_of_decode hd, ofValue_eq_misfit_iff]
    constructor
    · intro h
      cases h with
      | misfit h => rw [hd] at h; cases h
      | user h hu => rw [hd] at h; cases h; exact ⟨rfl, _, _, rfl, .inl hu⟩
      | team h hs hu => rw [hd] at h; cases h; exact ⟨rfl, _, _, rfl, .inr ⟨hs, hu⟩⟩
    · rintro ⟨rfl, l, config, rfl, hu | ⟨hs, hu⟩⟩
      · exact .user hd hu
      · exact .team hd hs hu

theorem read_of_not_escapes (h : ∀ m, ¬ Escapes text m) : Read text := by
  simp only [escapes_iff] at h
  cases hd : Yaml.decode rules text with
  | error e =>
    cases e with
    | misfit m => exact absurd (by unfold ofText; rw [hd]) (h m)
    | unacceptable c position => exact .notYaml hd nofun (by unfold ofText; rw [hd])
    | marked activity p mark => exact .notYaml hd nofun (by unfold ofText; rw [hd])
  | ok v =>
    have hv := ofText_of_decode hd
    cases hr : ofValue v with
    | ok d => exact .directory hd (exists_ofValue_ok_iff.1 ⟨d, hr⟩) (hv.trans hr)
    | error e =>
      refine .unsound hd (fun hs => ?_) ?_ (hv.trans hr)
      · obtain ⟨d, hok⟩ := exists_ofValue_ok_iff.2 hs
        rw [hr] at hok
        cases hok
      · rintro m rfl
        exact h m (hv.trans hr)

end

end Directory

end Folio
