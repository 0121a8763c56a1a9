/-
  Folio — how commands end.

  A command answers, or else a line should say why it does not.  It does for every failure
  but a few that nothing catches (`Command.Escapes`): a schema or a file of users that is
  there but cannot be read, is no text, or fails with a misfit; a header that fails with one;
  and a value that cannot be shown.

  * `Failure.told_schema`, `Failure.told_users`, `Failure.told_document`,
    `Failure.told_documents`: of which failures to load something is said;
  * `Failure.told_result`: the same for commands;
  * `Program.run_done_iff`: which commands end as they should.
-/
import Folio.File.Tree
import Folio.Proofs.Command.Display
import Folio.Proofs.Command.Result
import Folio.Proofs.Document.Parse
import Folio.Proofs.Schema.Settled
import Folio.Proofs.User.Config

namespace Folio

/-! ## Failures of which nothing is said -/

/-- The file is there, but cannot be read as a text. -/
inductive Files.Unread (files : Files) (path : String) : Prop
  | unreadable {e} : files path = .error e → e ≠ .notFound → Unread files path
  | notText {octets f} : files path = .ok octets → Utf8.decode? octets = .error f →
      Unread files path

theorem Files.unread_iff {files : Files} {path : String} :
    files.Unread path ↔ ∃ e, files.readText path = .error e ∧ e ≠ .file .notFound := by
  unfold readText
  constructor
  · rintro (⟨h, hne⟩ | @⟨octets, f, h, hd⟩)
    · exact ⟨_, by rw [h], by simpa using hne⟩
    · exact ⟨.notText f, by rw [h]; simp only [hd], nofun⟩
  · rintro ⟨e, he, hne⟩
    split at he
    · next e' h => cases he; exact .unreadable h (by simpa using hne)
    · next octets h =>
      split at he
      · next f hd => exact .notText h hd
      · cases he

/-- Loading the schema fails otherwise than with an error that has a line. -/
inductive Schema.LoadEscapes (files : Files) (path : String) : Prop
  | unread : files.Unread path → LoadEscapes files path
  | source {text} : files.readText path = .ok text → ¬ Settled (ofSource (String.ofList text)) →
      LoadEscapes files path

/-- Loading the users fails otherwise than with an error of configurations. -/
inductive Directory.LoadEscapes (files : Files) (path : String) : Prop
  | unread : files.Unread path → LoadEscapes files path
  | misfit {text m} : files.readText path = .ok text → Config.Escapes text m →
      LoadEscapes files path

namespace Document

section
variable {files : Files} {path : String}

theorem load_eq_ok_iff {d : Document} : load files path = .ok d ↔
    ∃ octets, files path = .ok octets ∧ parse octets (some path) = .ok d := by
  unfold load
  cases files path with
  | error e => simp
  | ok octets => cases h : parse octets (some path) <;> simp [Except.mapError, h]

theorem load_eq_error_iff {e : LoadError} : load files path = .error e ↔
    (∃ e', files path = .error e' ∧ e = .file path e') ∨
      ∃ octets m, files path = .ok octets ∧ Header.Escapes octets m ∧ e = .misfit m := by
  unfold load
  simp only [← @parse_eq_error_iff _ (some path)]
  cases files path with
  | error e' => simp [eq_comm]
  | ok octets =>
    cases h : parse octets (some path) <;> simp [Except.mapError, h, eq_comm]

end

/-- Loading a document that is to be shown fails otherwise than with an error of the system. -/
inductive LoadEscapes (files : Files) (path : String) : Prop
  | nullCharacter : files path = .error .nullCharacter → LoadEscapes files path
  | misfit {octets m} : files path = .ok octets → Header.Escapes octets m → LoadEscapes files path

/-- Loading documents fails because the header of the first that cannot be loaded fails with a
    misfit that has no message. -/
def LoadAllEscapes (files : Files) (paths : List String) (workers : Int) : Prop :=
  1 ≤ workers ∧ ∃ before path after, paths = before ++ path :: after ∧
    (∀ p ∈ before, ∃ d, load files p = .ok d) ∧
    ∃ octets m, files path = .ok octets ∧ Header.Escapes octets m ∧ m.message? = none

end Document

/-- A command fails otherwise than with a line that says why. -/
def Command.Escapes (files : Files) : Command → Prop
  | validate schema paths users _ workers =>
    Schema.LoadEscapes files schema ∨ (∃ s, Schema.load files schema = .ok s) ∧
      ((∃ path, users = some path ∧ path ≠ "" ∧ Directory.LoadEscapes files path) ∨
        (∀ path, users = some path → path ≠ "" → ∃ d, Directory.load files path = .ok d) ∧
          (Document.LoadAllEscapes files paths workers ∨
            ∃ docs, Document.loadAll files paths workers = .ok docs ∧
              ∃ d ∈ docs, Job.hasUnshownType d))
  | inspect path =>
    Document.LoadEscapes files path ∨
      ∃ d, Document.load files path = .ok d ∧ ∃ e ∈ d.header, e.1.Unkeyed ∨ e.2.Unshown
  | refs schema file paths workers =>
    Schema.LoadEscapes files schema ∨ (∃ s, Schema.load files schema = .ok s) ∧
      Document.LoadAllEscapes files (withFile file paths) workers
  | graph schema paths _ workers | health schema paths workers =>
    Schema.LoadEscapes files schema ∨ (∃ s, Schema.load files schema = .ok s) ∧
      Document.LoadAllEscapes files paths workers

namespace Failure

/-- If the computation fails, something is said of the failure. -/
def Told {α : Type} (x : Except Failure α) : Prop := ∀ f, x = .error f → f.text? ≠ none

section
variable {α β : Type} {x : Except Failure α} {k : α → Except Failure β}

theorem told_ok (a : α) : Told (.ok a) := nofun

theorem told_error_iff {f : Failure} : Told (.error f : Except Failure α) ↔ f.text? ≠ none :=
  ⟨fun h => h f rfl, fun h _ he => by cases he; exact h⟩

theorem told_bind_iff : Told (x >>= k) ↔ Told x ∧ ∀ a, x = .ok a → Told (k a) := by
  cases x with
  | error f =>
    have herror : Told (.error f : Except Failure α) ↔ Told (.error f : Except Failure β) :=
      told_error_iff.trans told_error_iff.symm
    exact ⟨fun h => ⟨herror.2 h, nofun⟩, fun h => herror.1 h.1⟩
  | ok a =>
    refine ⟨fun h => ⟨told_ok a, ?_⟩, fun h => h.2 a rfl⟩
    rintro _ ⟨⟩
    exact h

theorem told_mapError_iff {ε : Type} {y : Except ε α} {failure : ε → Failure} :
    Told (y.mapError failure) ↔ ∀ e, y = .error e → (failure e).text? ≠ none := by
  constructor
  · intro h e he
    exact h _ (mapError_eq_error_iff.2 ⟨e, he, rfl⟩)
  · rintro h f hf
    obtain ⟨e, he, rfl⟩ := mapError_eq_error_iff.1 hf
    exact h e he

end

/-! ### Loading -/

section
variable {files : Files} {path : String}

/-- Of a source that is loaded, what is said is up to the source. -/
theorem told_load_iff {ε α : Type} {ofText : List Char → Except ε α} {failure : SourceError ε → Failure}
    (hfile : ∀ e, (failure (.file e)).text? ≠ none ↔ e = .file .notFound) :
    Told ((files.load ofText path).mapError failure) ↔ ¬ files.Unread path ∧
      ∀ text e, files.readText path = .ok text → ofText text = .error e →
        (failure (.source e)).text? ≠ none := by
  rw [told_mapError_iff, Files.unread_iff, Files.load]
  cases hr : files.readText path with
  | error e =>
    simp only [Except.error.injEq, forall_eq', hfile, exists_eq_left', not_not, reduceCtorEq,
      false_imp_iff, implies_true, and_true]
  | ok text =>
    constructor
    · intro h
      refine ⟨nofun, ?_⟩
      rintro _ e ⟨⟩ he
      exact h _ (mapError_eq_error_iff.2 ⟨e, he, rfl⟩)
    · rintro ⟨-, h⟩ e he
      obtain ⟨e', he', rfl⟩ := mapError_eq_error_iff.1 he
      exact h text e' rfl he'

theorem told_schema :
    Told ((Schema.load files path).mapError (.schema path)) ↔ ¬ Schema.LoadEscapes files path := by
  have hfile : ∀ e : TextFileError,
      (Failure.schema path (.file e)).text? ≠ none ↔ e = .file .notFound := by
    rintro (e | f)
    · cases e <;> simp [text?]
    · simp [text?]
  have hsource : ∀ e : SchemaError,
      (Failure.schema path (.source e)).text? ≠ none ↔ ∃ p l, e = .located p l := by
    intro e
    cases e <;> simp [text?]
  refine (told_load_iff hfile).trans ⟨?_, fun h => ⟨fun hu => h (.unread hu), ?_⟩⟩
  · rintro ⟨hread, htold⟩ (hu | ⟨htext, hs⟩)
    · exact hread hu
    · obtain ⟨e, he, hne⟩ := Schema.not_settled_iff.1 hs
      obtain ⟨p, l, rfl⟩ := (hsource e).1 (htold _ e htext he)
      exact hne p l rfl
  · intro text e htext he
    rw [hsource]
    by_contra hne
    refine h (.source htext (Schema.not_settled_iff.2 ⟨e, he, ?_⟩))
    rintro p l rfl
    exact hne ⟨p, l, rfl⟩

theorem told_users :
    Told ((Directory.load files path).mapError (.users path)) ↔
      ¬ Directory.LoadEscapes files path := by
  have hfile : ∀ e : TextFileError,
      (Failure.users path (.file e)).text? ≠ none ↔ e = .file .notFound := by
    rintro (e | f)
    · cases e <;> simp [text?]
    · simp [text?]
  have hsource : ∀ e : ConfigError,
      (Failure.users path (.source e)).text? ≠ none ↔ ∀ m, e ≠ .misfit m := by
    intro e
    cases e <;> simp [text?]
  refine (told_load_iff hfile).trans ⟨?_, fun h => ⟨fun hu => h (.unread hu), ?_⟩⟩
  · rintro ⟨hread, htold⟩ (hu | ⟨htext, hm⟩)
    · exact hread hu
    · exact (hsource _).1 (htold _ _ htext (Directory.escapes_iff.1 hm)) _ rfl
  · intro text e htext he
    rw [hsource]
    rintro m rfl
    exact h (.misfit htext (Directory.escapes_iff.2 he))

theorem told_document :
    Told ((Document.load files path).mapError (.document path)) ↔
      ¬ Document.LoadEscapes files path := by
  rw [told_mapError_iff]
  constructor
  · rintro h (hnull | ⟨hfile, hm⟩)
    · exact h _ (Document.load_eq_error_iff.2 (.inl ⟨_, hnull, rfl⟩)) rfl
    · exact h _ (Document.load_eq_error_iff.2 (.inr ⟨_, _, hfile, hm, rfl⟩)) rfl
  · rintro h e he
    rcases Document.load_eq_error_iff.1 he with ⟨e', hfile, rfl⟩ | ⟨octets, m, hfile, hm, rfl⟩
    · cases e' with
      | nullCharacter => exact absurd (.nullCharacter hfile) h
      | _ => simp [text?, FileError.systemError?]
    · exact absurd (.misfit hfile hm) h

theorem told_documents {paths : List String} {workers : Int} :
    Told ((Document.loadAll files paths workers).mapError .documents) ↔
      ¬ Document.LoadAllEscapes files paths workers := by
  rw [told_mapError_iff, Document.LoadAllEscapes, Document.loadAll]
  split
  · next hw =>
    refine iff_of_true ?_ fun h => absurd h.1 (by omega)
    rintro e ⟨⟩
    nofun
  · next hw =>
    simp only [mapM_eq_error_iff, not_and, not_exists]
    constructor
    · rintro h - before path after hpaths hbefore octets m hfile hm hnone
      refine h (.misfit m) ⟨before, path, after, hpaths, hbefore, ?_⟩ hnone
      exact Document.load_eq_error_iff.2 (.inr ⟨octets, m, hfile, hm, rfl⟩)
    · rintro h e ⟨before, path, after, hpaths, hbefore, he⟩
      rcases Document.load_eq_error_iff.1 he with ⟨e', -, rfl⟩ | ⟨octets, m, hfile, hm, rfl⟩
      · cases hs : e'.systemError? <;> simp [text?, hs]
      · exact h (by omega) before path after hpaths hbefore octets m hfile hm

end

/-! ### Commands -/

section
variable {α β : Type} {x : Except Failure α} {k : α → Except Failure β}

/-- What is not told is either left by the first step or by the second. -/
theorem told_bind_iff_not {D : Prop} {E : α → Prop} (h : Told x ↔ ¬ D)
    (hk : ∀ a, Told (k a) ↔ ¬ E a) : Told (x >>= k) ↔ ¬ (D ∨ ∃ a, x = .ok a ∧ E a) := by
  rw [told_bind_iff, h, not_or, not_exists]
  simp only [hk, not_and]

end

section
variable {files : Files}

theorem told_schema_bind {path : String} {E : Prop} {k : Schema → Except Failure Answer}
    (hk : ∀ s, Told (k s) ↔ ¬ E) :
    Told ((Schema.load files path).mapError (.schema path) >>= k) ↔
      ¬ (Schema.LoadEscapes files path ∨ (∃ s, Schema.load files path = .ok s) ∧ E) := by
  rw [told_bind_iff_not told_schema hk]
  simp only [mapError_eq_ok_iff, exists_and_right]

theorem told_documents_bind {paths : List String} {workers : Int}
    {k : List Document → Except Failure Answer} (hk : ∀ docs, Told (k docs)) :
    Told ((Document.loadAll files paths workers).mapError .documents >>= k) ↔
      ¬ Document.LoadAllEscapes files paths workers := by
  rw [told_bind_iff, told_documents]
  exact and_iff_left fun docs _ => hk docs

/-- An empty path is as none. -/
theorem filter_cases (users : Option String) :
    (users.filter (!·.isEmpty) = none ∧ ∀ path, users = some path → path = "") ∨
      ∃ path, users = some path ∧ path ≠ "" ∧ users.filter (!·.isEmpty) = some path := by
  cases users with
  | none => exact .inl ⟨rfl, nofun⟩
  | some path =>
    by_cases h : path = ""
    · subst h
      exact .inl ⟨rfl, fun _ h => (Option.some.inj h).symm⟩
    · exact .inr ⟨path, rfl, h, by simp [Option.filter, h]⟩

theorem told_someUsers {users : Option String} :
    Told ((users.filter (!·.isEmpty)).mapM fun path =>
        (Directory.load files path).mapError (.users path)) ↔
      ¬ ∃ path, users = some path ∧ path ≠ "" ∧ Directory.LoadEscapes files path := by
  rcases filter_cases users with ⟨hfilter, hempty⟩ | ⟨path, rfl, hne, hfilter⟩
  · rw [hfilter]
    refine iff_of_true (told_ok none) ?_
    rintro ⟨path, husers, hne, -⟩
    exact hne (hempty path husers)
  · rw [hfilter]
    refine (told_bind_iff.trans (and_iff_left fun d _ => told_ok _)).trans (told_users.trans ?_)
    simp [hne]

theorem exists_someUsers_ok_iff {users : Option String} :
    (∃ d, ((users.filter (!·.isEmpty)).mapM fun path =>
        (Directory.load files path).mapError (Failure.users path)) = .ok d) ↔
      ∀ path, users = some path → path ≠ "" → ∃ d, Directory.load files path = .ok d := by
  rcases filter_cases users with ⟨hfilter, hempty⟩ | ⟨path, rfl, hne, hfilter⟩
  · rw [hfilter]
    exact iff_of_true ⟨none, rfl⟩ fun path husers hne => absurd (hempty path husers) hne
  · rw [hfilter]
    constructor
    · rintro ⟨d?, h⟩ _ ⟨⟩ -
      obtain ⟨d, hd, -⟩ := bind_eq_ok_iff.1 h
      exact ⟨d, mapError_eq_ok_iff.1 hd⟩
    · intro h
      obtain ⟨d, hd⟩ := h path rfl hne
      exact ⟨some d, bind_eq_ok_iff.2 ⟨d, mapError_eq_ok_iff.2 hd, rfl⟩⟩

theorem not_told_ofDisplay {α : Type} (path : String) (e : DisplayError) :
    ¬ Told (.error (ofDisplay path e) : Except Failure α) := by
  rw [told_error_iff, not_not]
  cases e <;> rfl

theorem told_json {path : String} {d : Document} :
    Told (d.json.mapError (ofDisplay path) >>= fun t => .ok (⟨true, t.write⟩ : Answer)) ↔
      ¬ ∃ e ∈ d.header, e.1.Unkeyed ∨ e.2.Unshown := by
  rw [← Document.fails_json_iff]
  cases d.json with
  | error e => exact iff_of_false (not_told_ofDisplay path e) (not_not.2 (fails_error e))
  | ok t => exact iff_of_true (told_ok _) fails_ok

theorem told_report {docs : List Document} {a : Answer} :
    Told (match docs.find? Job.hasUnshownType with
      | some d => .error (ofDisplay d.shownPath (.number .longText))
      | none => .ok a) ↔ ¬ ∃ d ∈ docs, Job.hasUnshownType d := by
  rw [← List.find?_isSome]
  cases docs.find? Job.hasUnshownType with
  | none => exact iff_of_true (told_ok a) (by decide)
  | some d => exact iff_of_false (not_told_ofDisplay _ _) (not_not.2 rfl)

theorem told_result (c : Command) : Told (c.result files) ↔ ¬ c.Escapes files := by
  cases c with
  | validate schema paths users json workers =>
    refine told_schema_bind fun s => (told_bind_iff_not told_someUsers
      fun directory => told_bind_iff_not told_documents fun docs => told_report).trans ?_
    rw [exists_and_right, exists_someUsers_ok_iff]
    simp only [mapError_eq_ok_iff]
  | inspect path =>
    refine (told_bind_iff_not told_document fun d => told_json).trans ?_
    simp only [mapError_eq_ok_iff]
    rfl
  | refs schema file paths workers =>
    exact told_schema_bind fun s => told_documents_bind fun docs => told_ok _
  | graph schema paths missing workers =>
    exact told_schema_bind fun s => told_documents_bind fun docs => told_ok _
  | health schema paths workers =>
    exact told_schema_bind fun s => told_documents_bind fun docs => told_ok _

end

end Failure

/-! ## Ends -/

/-- A program ends as it should: it writes the answer, or else one line that says why there
    is none. -/
inductive Outcome.Ends (x : Except Failure Answer) (o : Outcome) : Prop
  | answered {a err} : x = .ok a → o = ⟨if a.ok then 0 else 1, a.text ++ "\n", err⟩ → Ends x o
  | told {f text noted} : x = .error f → f.text? = some text →
      o = ⟨1, "", noted ++ ("Error: " ++ text ++ "\n")⟩ → Ends x o

namespace Invocation

theorem written_singleton (line : String) : written [line] = line ++ "\n" := by
  simp [written, String.join]

theorem written_concat (lines : List String) (line : String) :
    written (lines ++ [line]) = written lines ++ (line ++ "\n") := by
  simp [written, String.join]

/-- Carrying a command out depends on its result alone, but for what is noted. -/
theorem run_eq (files : Files) (i : Invocation) : ∃ noted, i.run files =
    match i.command.result files with
    | .ok a => .ok ⟨if a.ok then 0 else 1, written [a.text], written noted⟩
    | .error f =>
      match f.line? with
      | some line => .ok ⟨1, "", written (noted ++ [line])⟩
      | none => .error f := by
  have hgives := i.command.gives_answer files []
  unfold run
  cases hr : (i.command.answer files).run.run [] with
  | mk r ns =>
    rw [hr] at hgives
    rw [← hgives]
    exact ⟨_, rfl⟩

theorem ends_of_run {files : Files} {i : Invocation} {o : Outcome} (h : i.run files = .ok o) :
    o.Ends (i.command.result files) := by
  obtain ⟨noted, hrun⟩ := i.run_eq files
  rw [hrun] at h
  cases hx : i.command.result files with
  | ok a =>
    rw [hx] at h
    cases h
    exact .answered rfl (by rw [written_singleton])
  | error f =>
    rw [hx] at h
    dsimp only [Failure.line?] at h
    cases ht : f.text? with
    | none => rw [ht] at h; cases h
    | some text =>
      rw [ht] at h
      cases h
      exact .told rfl ht (by rw [written_concat, String.append_assoc])

theorem exists_run_iff {files : Files} {i : Invocation} :
    (∃ o, i.run files = .ok o) ↔ Failure.Told (i.command.result files) := by
  obtain ⟨noted, hrun⟩ := i.run_eq files
  rw [hrun]
  cases i.command.result files with
  | ok a => exact iff_of_true ⟨_, rfl⟩ (Failure.told_ok a)
  | error f =>
    dsimp only [Failure.line?]
    rw [Failure.told_error_iff]
    cases f.text? with
    | none => exact iff_of_false nofun (not_not.2 rfl)
    | some text => exact iff_of_true ⟨_, rfl⟩ nofun

end Invocation

/-- Nothing is known of a text that is read: it has half of a character, a value that holds
    itself, or a sign that can be read in more than one way. -/
def Failure.isUnclear : Failure → Bool
  | .users _ (.source (.misfit m)) | .document _ (.misfit m) | .documents (.misfit m) => m.isUnclear
  | _ => false

end Folio
