import InterpreterHost.Proofs.Host.Serving

/-!
# What becomes of the search path

The host adds directories to the search path and does nothing else to it.  As long as the code of the
library and the tasks in line leave it as it is, it is as it was, or has got the directory that the host
wanted there.

## Main definitions

* `Library.LeavesPath`, `Task.LeavesPath` — code that leaves the search path as it is
* `Owner.PathHas` — the search path has a property
* `Owner.Searches` — the search path is as it was, or has got one directory

## Main statements

* `SearchPath.append_append` — a directory that was added is not added again
* `Owner.libraryMaintains_pathHas`, `Task.LeavesPath.maintains_pathHas` — such code keeps what is known of the
  search path
* `Job.maintains_appendSearchPath` — and so does adding the directory
-/

namespace InterpreterHost

namespace SearchPath

theorem membership_append {path : String} {items : List SearchItem} (missing : membership path items = some false) :
    membership path (items ++ [.directory path]) = some true := by
  induction items with
  | nil => simp [membership, SearchItem.directory]
  | cons item items ih =>
    cases item with
    | incomparable => cases missing
    | text t =>
      rw [membership] at missing
      rw [List.cons_append, membership]
      split
      · rfl
      · next other =>
        rw [if_neg other] at missing
        exact ih missing

/-- A directory that was added is not added again. -/
theorem append_append (s : SearchPath) (path : String) :
    ((s.append [path]).1.append [path]).1 = (s.append [path]).1 := by
  cases s with
  | list items =>
    simp only [append, appendItems]
    cases found : membership path items with
    | none => simp [found]
    | some there =>
      cases there with
      | true => simp [found]
      | false => simp [membership_append found]
  | frozen | missing => rfl

end SearchPath

/-- The owner has the library, and a search path that is as it was or has got one directory. -/
def Owner.Searches (library : Library) (before : SearchPath) (path : String) (o : Owner) : Prop :=
  o.library = library ∧
    (o.interpreter.searchPath = before ∨ o.interpreter.searchPath = (before.append [path]).1)

/-- The code of the library leaves the search path as it is. -/
structure Library.LeavesPath (library : Library) : Prop where
  importModule : ∀ name i, ((library.importModule name).run i).2.searchPath = i.searchPath
  getAttribute : ∀ r name i, ((library.getAttribute r name).run i).2.searchPath = i.searchPath
  call : ∀ callee args named i, ((library.call callee args named).run i).2.searchPath = i.searchPath

/-- The task leaves the library and the search path as they are. -/
def Task.LeavesPath (t : Task) : Prop :=
  ∀ library path, t.Maintains fun o => o.library = library ∧ o.interpreter.searchPath = path

/-- The owner has the library, and a search path with the property. -/
def Owner.PathHas (library : Library) (P : SearchPath → Prop) (o : Owner) : Prop :=
  o.library = library ∧ P o.interpreter.searchPath

namespace Owner

variable {library : Library} {P : SearchPath → Prop} {before : SearchPath} {path : String}

theorem settles_pathHas : Settles (PathHas library P) := by
  intro o o' same holds
  unfold PathHas
  rw [same.library, same.searchPath]
  exact holds

/-- Code that leaves the search path as it is keeps what is known of it. -/
theorem libraryMaintains_pathHas (leaves : library.LeavesPath) : LibraryMaintains (PathHas library P) where
  importModule name o holds := by
    unfold PathHas
    rw [holds.1, leaves.importModule]
    exact ⟨rfl, holds.2⟩
  getAttribute r name o holds := by
    unfold PathHas
    rw [holds.1, leaves.getAttribute]
    exact ⟨rfl, holds.2⟩
  call callee args named o holds := by
    unfold PathHas
    rw [holds.1, leaves.call]
    exact ⟨rfl, holds.2⟩

theorem searches_eq_pathHas : Searches library before path =
    PathHas library fun s => s = before ∨ s = (before.append [path]).1 := rfl

theorem settles_searches : Settles (Searches library before path) := by
  rw [searches_eq_pathHas]
  exact settles_pathHas

theorem libraryMaintains_searches (leaves : library.LeavesPath) :
    LibraryMaintains (Searches library before path) := by
  rw [searches_eq_pathHas]
  exact libraryMaintains_pathHas leaves

end Owner

/-- The directory that is added is the only change. -/
theorem Job.maintains_appendSearchPath {library : Library} {before : SearchPath} {path : String} :
    Job.Maintains (Owner.Searches library before path) (Job.appendSearchPath [path]) := by
  refine .get_bind fun o holds => ?_
  have appended : Owner.Searches library before path { o with
      interpreter := { o.interpreter with searchPath := (o.interpreter.searchPath.append [path]).1 } } := by
    refine ⟨holds.1, .inr ?_⟩
    rcases holds.2 with same | same
    · exact congrArg (fun s : SearchPath => (s.append [path]).1) same
    · exact (congrArg (fun s : SearchPath => (s.append [path]).1) same).trans (before.append_append path)
  rcases added : o.interpreter.searchPath.append [path] with ⟨searchPath, failure⟩
  rw [added] at appended
  cases failure <;> exact appended

/-- So does a task. -/
theorem Task.LeavesPath.maintains_pathHas {library : Library} {P : SearchPath → Prop} :
    ∀ {t : Task}, t.LeavesPath → t.Maintains (Owner.PathHas library P)
  | .mk work queued, leaves => by
    refine .mk (fun o holds => ?_) fun u mem => ?_
    · obtain ⟨same, kept⟩ := (leaves library o.interpreter.searchPath).work o ⟨holds.1, rfl⟩
      refine ⟨same, ?_⟩
      change (work.run o).2.interpreter.searchPath = o.interpreter.searchPath at kept
      rw [kept]
      exact holds.2
    · exact maintains_pathHas fun library path => (leaves library path).queued u mem

/-- A task that leaves the search path as it is does so with either. -/
theorem Task.LeavesPath.maintains {library : Library} {before : SearchPath} {path : String} {t : Task}
    (leaves : t.LeavesPath) : t.Maintains (Owner.Searches library before path) := by
  rw [Owner.searches_eq_pathHas]
  exact leaves.maintains_pathHas

end InterpreterHost
