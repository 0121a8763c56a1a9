/-
  Folio — what commands come to.

  A job makes notes on the way, but never looks at them.  So what it gives is the same
  whatever has been noted (`Job.Gives`), and the result of a command can be told without
  notes (`Command.result`): it is loaded, computed and written in the same order.

  * `Job.Gives.bind`, `Job.Gives.before_note`, `Job.Gives.after_note`: jobs step by step;
  * `Command.gives_answer`: the job of a command comes to its result.
-/
import Folio.Command.Run

namespace Folio

/-! ## Jobs without notes -/

namespace Job

/-- The job comes to a result, whatever has been noted before. -/
def Gives {α : Type} (j : Job α) (x : Except Failure α) : Prop := ∀ ns, (j.run.run ns).1 = x

section
variable {α β : Type} {j : Job α} {k : α → Job β} {x : Except Failure α} {f : α → Except Failure β}

theorem gives_pure (a : α) : Gives (pure a) (.ok a) := fun _ => rfl

theorem gives_throw (e : Failure) : Gives (throw e : Job α) (.error e) := fun _ => rfl

theorem gives_note (ns : List Note) : Gives (note ns) (.ok ()) := fun _ => rfl

theorem gives_ofExcept {ε : Type} (failure : ε → Failure) (y : Except ε α) :
    Gives (ofExcept failure y) (y.mapError failure) := by
  cases y <;> exact fun _ => rfl

theorem Gives.bind (hj : Gives j x) (hk : ∀ a, Gives (k a) (f a)) : Gives (j >>= k) (x >>= f) := by
  intro ns
  have hx := hj ns
  simp only [ExceptT.run_bind, StateT.run_bind]
  cases hr : j.run.run ns with
  | mk r ns' =>
    rw [hr] at hx
    subst hx
    cases r with
    | error e => rfl
    | ok a => exact hk a ns'

/-- Steps that only make notes come before or after a job. -/
theorem Gives.after_note (hj : Gives j x) (ns : List Note) : Gives (note ns >>= fun _ => j) x :=
  (gives_note ns).bind fun _ => hj

theorem Gives.before_note (hj : Gives j x) {k : α → Job α} (hk : ∀ a, Gives (k a) (.ok a)) :
    Gives (j >>= k) x := by
  have h := hj.bind hk
  have hx : (x >>= fun a => .ok a) = x := by cases x <;> rfl
  rwa [hx] at h

end

/-! ### Loading -/

section
variable (files : Files) (path : String)

theorem gives_schema : Gives (schema files path) ((Schema.load files path).mapError (.schema path)) :=
  (gives_ofExcept _ _).before_note fun s => (gives_pure s).after_note _

theorem gives_users : Gives (users files path) ((Directory.load files path).mapError (.users path)) :=
  (gives_ofExcept _ _).before_note fun d => (gives_pure d).after_note _

theorem gives_someUsers (path? : Option String) :
    Gives ((path?.filter (!·.isEmpty)).mapM (users files))
      ((path?.filter (!·.isEmpty)).mapM fun path => (Directory.load files path).mapError (.users path)) := by
  cases path?.filter (!·.isEmpty) with
  | none => exact gives_pure none
  | some path => exact (gives_users files path).bind fun d => gives_pure (some d)

theorem gives_document :
    Gives (document files path) ((Document.load files path).mapError (.document path)) :=
  (gives_ofExcept _ _).before_note fun d => (gives_pure d).after_note _

theorem gives_documents (paths : List String) (workers : Int) :
    Gives (documents files paths workers)
      ((Document.loadAll files paths workers).mapError .documents) := by
  have hloaded : Gives
      (ofExcept .documents (Document.loadAll files paths workers) >>= fun docs =>
        if !docs.isEmpty then note [.loaded docs.length (min workers docs.length)] >>= fun _ => pure docs
        else pure docs)
      ((Document.loadAll files paths workers).mapError .documents) := by
    refine (gives_ofExcept _ _).before_note fun docs => ?_
    split
    · exact (gives_pure docs).after_note _
    · exact gives_pure docs
  unfold documents
  dsimp only
  split
  · exact hloaded.after_note _
  · exact hloaded

end

/-! ### Computing -/

section
variable (s : Schema) (docs : List Document)

theorem gives_report (directory : Option Directory) :
    Gives (report s directory docs)
      (match docs.find? hasUnshownType with
      | some d => .error (.ofDisplay d.shownPath (.number .longText))
      | none => .ok (Report.ofDocuments s directory docs)) := by
  unfold report
  refine Gives.after_note ?_ _
  cases docs.find? hasUnshownType with
  | some d => exact (gives_throw _).bind fun _ => (gives_pure _).after_note _
  | none => exact (gives_pure _).after_note _

theorem gives_graph : Gives (graph s docs) (.ok (Graph.ofDocuments s (fun _ => []) docs)) :=
  (gives_pure _).after_note _

end

end Job

/-! ## Results -/

namespace Command

/-- What a command comes to. -/
def result (files : Files) : Command → Except Failure Answer
  | validate schema paths users json workers => do
    let s ← (Schema.load files schema).mapError (.schema schema)
    let directory ← (users.filter (!·.isEmpty)).mapM fun path =>
      (Directory.load files path).mapError (.users path)
    let docs ← (Document.loadAll files paths workers).mapError .documents
    match docs.find? Job.hasUnshownType with
    | some d => .error (.ofDisplay d.shownPath (.number .longText))
    | none =>
      let r := Report.ofDocuments s directory docs
      .ok ⟨r.ok, if json then r.json.write else r.text⟩
  | inspect path => do
    let d ← (Document.load files path).mapError (.document path)
    let t ← d.json.mapError (.ofDisplay path)
    .ok ⟨true, t.write⟩
  | refs schema file paths workers => do
    let s ← (Schema.load files schema).mapError (.schema schema)
    let docs ← (Document.loadAll files (withFile file paths) workers).mapError .documents
    .ok ⟨true, ((Graph.ofDocuments s (fun _ => []) docs).refsJson file).write⟩
  | graph schema paths missing workers => do
    let s ← (Schema.load files schema).mapError (.schema schema)
    let docs ← (Document.loadAll files paths workers).mapError .documents
    let g := Graph.ofDocuments s (fun _ => []) docs
    .ok ⟨true, (if missing then g.missingJson else g.edgesJson).write⟩
  | health schema paths workers => do
    let s ← (Schema.load files schema).mapError (.schema schema)
    let docs ← (Document.loadAll files paths workers).mapError .documents
    let g := Graph.ofDocuments s (fun _ => []) docs
    .ok ⟨g.health.all (!·.isError), g.healthJson.write⟩

open Job in
/-- **The job of a command comes to its result.** -/
theorem gives_answer (files : Files) (c : Command) : (c.answer files).Gives (c.result files) := by
  cases c with
  | validate schema paths users json workers =>
    refine (gives_schema files schema).bind fun s => ?_
    refine (gives_someUsers files users).bind fun directory => ?_
    refine (gives_documents files paths workers).bind fun docs => ?_
    have h := (gives_report s docs directory).bind fun r =>
      gives_pure (⟨r.ok, if json then r.json.write else r.text⟩ : Answer)
    cases hfind : docs.find? hasUnshownType <;> rw [hfind] at h <;> simpa only [hfind] using! h
  | inspect path =>
    refine (gives_document files path).bind fun d => ?_
    exact (gives_ofExcept _ _).bind fun t => gives_pure _
  | refs schema file paths workers =>
    refine (gives_schema files schema).bind fun s => ?_
    refine (gives_documents files _ workers).bind fun docs => ?_
    exact (gives_graph s docs).bind fun g => gives_pure _
  | graph schema paths missing workers =>
    refine (gives_schema files schema).bind fun s => ?_
    refine (gives_documents files paths workers).bind fun docs => ?_
    exact (gives_graph s docs).bind fun g => gives_pure _
  | health schema paths workers =>
    refine (gives_schema files schema).bind fun s => ?_
    refine (gives_documents files paths workers).bind fun docs => ?_
    exact (gives_graph s docs).bind fun g => gives_pure _

end Command

end Folio
