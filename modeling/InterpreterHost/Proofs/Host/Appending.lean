import InterpreterHost.Proofs.Host.Starting

/-!
# Adding directories to the search path

Directories are added to the search path one by one, and each of them is looked for in what the ones before
it have left.  On a list of texts, whether or not the host can read them, this comes to a closed form: behind
what was there come the paths that were absent, each once.  On anything else it changes nothing at all, so that
every law about adding directories is one about the closed form.

## Main definitions

* `SearchPath.of` — a list of directories
* `SearchPath.absent` — the paths that are not there yet, each once
* `SearchPath.AddsMissing` — the laws

## Main statements

* `SearchPath.append_of_comparable` — the closed form
* `SearchPath.comparable_or_fixed` — what is no list of texts stays as it is
* `SearchPath.addsMissing` — the laws hold of every search path
* `Action.run_appendSearchPath` — what a call does
-/

namespace InterpreterHost

/-! ## Search paths of directories -/

namespace SearchPath

variable {s : SearchPath} {items : List SearchItem} {dirs paths : List String} {path : String}

/-- A list of directories. -/
def of (dirs : List String) : SearchPath := .list (dirs.map .directory)

/-- The paths that are not among the directories, each once, in the order in which they first come. -/
def absent (dirs paths : List String) : List String := (paths.removeAll dirs).eraseDups

theorem mem_absent : path ∈ absent dirs paths ↔ path ∈ paths ∧ path ∉ dirs := by
  simp [absent, List.removeAll]

theorem nodup_eraseDups : ∀ paths : List String, paths.eraseDups.Nodup
  | [] => List.nodup_nil
  | path :: paths => by
    rw [List.eraseDups_cons, List.nodup_cons]
    exact ⟨by simp, nodup_eraseDups _⟩
termination_by paths => paths.length
decreasing_by exact Nat.lt_succ_of_le (List.length_filter_le _ _)

theorem nodup_absent (dirs paths : List String) : (absent dirs paths).Nodup := nodup_eraseDups _

theorem absent_cons_of_mem (mem : path ∈ dirs) : absent dirs (path :: paths) = absent dirs paths := by
  simp [absent, List.removeAll, mem]

theorem absent_cons_of_notMem (new : path ∉ dirs) :
    absent dirs (path :: paths) = path :: absent (dirs ++ [path]) paths := by
  have rest : (paths.removeAll dirs).filter (fun d => !d == path) = paths.removeAll (dirs ++ [path]) := by
    simp only [List.removeAll, List.filter_filter]
    refine List.filter_congr fun d _ => ?_
    by_cases same : d = path <;> simp [same, new]
  unfold absent
  rw [← rest, ← List.eraseDups_cons]
  simp [List.removeAll, new]

/-- What is there already is not absent. -/
theorem absent_of_subset (there : ∀ path ∈ paths, path ∈ dirs) : absent dirs paths = [] :=
  List.eq_nil_iff_forall_not_mem.2 fun path mem => (mem_absent.1 mem).2 (there path (mem_absent.1 mem).1)

theorem mem_directories : path ∈ s.directories ↔ .directory path ∈ s.items := by
  unfold directories
  rw [List.mem_filterMap]
  refine ⟨?_, fun mem => ⟨_, mem, CodePoints.toString?_ofString path⟩⟩
  rintro ⟨t | -, mem, named⟩
  · rwa [CodePoints.toString?_eq_some_iff.1 named] at mem
  · cases named

theorem directories_append (items : List SearchItem) (paths : List String) :
    (list (items ++ paths.map .directory)).directories = (list items).directories ++ paths := by
  have named (path : String) : (SearchItem.directory path).directory? = some path := CodePoints.toString?_ofString path
  simp [directories, SearchPath.items, List.filterMap_append, List.filterMap_map, named]

theorem membership_of_comparable (comparable : .incomparable ∉ items) (path : String) :
    membership path items = some (decide (path ∈ (list items).directories)) := by
  simp only [mem_directories, SearchPath.items]
  induction items with
  | nil => simp [membership]
  | cons item items ih =>
    rw [List.mem_cons, not_or] at comparable
    cases item with
    | incomparable => exact absurd rfl comparable.1
    | text t =>
      rw [membership, ih comparable.2]
      by_cases same : t = .ofString path
      · simp [same, SearchItem.directory]
      · rw [if_neg same]
        refine congrArg some (decide_eq_decide.2 ?_)
        simp [SearchItem.directory, Ne.symm same]

theorem appendItems_of_comparable (comparable : .incomparable ∉ items) (paths : List String) :
    appendItems items paths = (items ++ (absent (list items).directories paths).map .directory, none) := by
  induction paths generalizing items with
  | nil => simp [appendItems, absent]
  | cons path paths ih =>
    rw [appendItems, membership_of_comparable comparable]
    by_cases mem : path ∈ (list items).directories
    · simp only [mem, decide_true]
      rw [ih comparable, absent_cons_of_mem mem]
    · have comparable' : .incomparable ∉ items ++ [SearchItem.directory path] := by
        simp [comparable, SearchItem.directory]
      have behind : (list (items ++ [.directory path])).directories = (list items).directories ++ [path] :=
        directories_append items [path]
      simp only [mem, decide_false]
      rw [ih comparable', behind, absent_cons_of_notMem mem, List.append_assoc, List.singleton_append, List.map_cons]

/-- Behind the texts that are there come the absent directories, each once. -/
theorem append_of_comparable (comparable : .incomparable ∉ items) (paths : List String) : (list items).append paths =
    (list (items ++ (absent (list items).directories paths).map .directory), none) := by
  obtain ⟨list, succeeds⟩ := append_list items paths
  rw [appendItems_of_comparable comparable] at list succeeds
  exact Prod.ext list (succeeds.2 rfl)

theorem comparable_append (comparable : .incomparable ∉ items) (paths : List String) :
    .incomparable ∉ items ++ paths.map SearchItem.directory := by
  simp [comparable, SearchItem.directory]

/-- Next to an item that cannot be compared nothing is added. -/
theorem appendItems_of_incomparable (mem : .incomparable ∈ items) (paths : List String) :
    (appendItems items paths).1 = items := by
  have never (path : String) : membership path items ≠ some false := by
    induction items with
    | nil => cases mem
    | cons item items ih =>
      cases item with
      | incomparable => simp [membership]
      | text t =>
        rw [membership]
        split
        · simp
        · exact ih ((List.mem_cons.1 mem).resolve_left (by simp))
  fun_induction appendItems items paths with
  | case1 | case2 => rfl
  | case3 items path paths found ih => exact ih mem never
  | case4 items path paths missing ih => exact absurd missing (never path)

/-- A search path is a list of texts, or it stays as it is whatever is added. -/
theorem comparable_or_fixed (s : SearchPath) :
    (∃ items, s = .list items ∧ .incomparable ∉ items) ∨ ∀ paths, (s.append paths).1 = s := by
  cases s with
  | list items =>
    by_cases mem : SearchItem.incomparable ∈ items
    · refine .inr fun paths => ?_
      rw [(append_list items paths).1, appendItems_of_incomparable mem]
    · exact .inl ⟨items, rfl, mem⟩
  | frozen | missing => exact .inr fun paths => by cases paths <;> rfl

/-- To add directories again comes to the same and changes nothing. -/
theorem append_again (s : SearchPath) (paths : List String) : (s.append paths).1.append paths = s.append paths := by
  rcases s.comparable_or_fixed with ⟨items, rfl, comparable⟩ | fixed
  · have there (dirs : List String) : absent (dirs ++ absent dirs paths) paths = [] :=
      absent_of_subset fun path mem => by
        by_cases mem' : path ∈ dirs
        · exact List.mem_append_left _ mem'
        · exact List.mem_append_right _ (mem_absent.2 ⟨mem, mem'⟩)
    rw [append_of_comparable comparable, append_of_comparable (comparable_append comparable _), directories_append,
      there, List.map_nil, List.append_nil]
  · rw [fixed]

theorem absent_append (dirs p q : List String) :
    absent dirs (p ++ q) = absent dirs p ++ absent (dirs ++ absent dirs p) q := by
  induction p generalizing dirs with
  | nil => simp [absent]
  | cons path p ih =>
    rw [List.cons_append]
    by_cases mem : path ∈ dirs
    · rw [absent_cons_of_mem mem, absent_cons_of_mem mem, ih]
    · rw [absent_cons_of_notMem mem, absent_cons_of_notMem mem, ih, List.cons_append, List.append_assoc,
        List.singleton_append]

/-- Directories may be added in two parts. -/
theorem append_concat (s : SearchPath) (p q : List String) :
    (s.append (p ++ q)).1 = ((s.append p).1.append q).1 := by
  rcases s.comparable_or_fixed with ⟨items, rfl, comparable⟩ | fixed
  · rw [append_of_comparable comparable, append_of_comparable comparable,
      append_of_comparable (comparable_append comparable _), directories_append, absent_append, List.map_append,
      List.append_assoc]
  · rw [fixed, fixed, fixed]

/-- What is there stays where it is. -/
theorem items_prefix_append (s : SearchPath) (paths : List String) : s.items <+: (s.append paths).1.items := by
  rcases s.comparable_or_fixed with ⟨items, rfl, comparable⟩ | fixed
  · rw [append_of_comparable comparable]
    exact List.prefix_append items _
  · simp only [fixed, List.prefix_rfl]

/-- What is no list takes no directories. -/
theorem append_of_not_list (other : ∀ items, s ≠ .list items) (some : paths ≠ []) :
    s.append paths = (s, .some "sys.path is not a list") := by
  cases paths with
  | nil => exact absurd rfl some
  | cons first rest =>
    cases s with
    | list items => exact absurd rfl (other items)
    | frozen | missing => rfl

/-- Directories are added by one call after the other. -/
def appendEach (s : SearchPath) (calls : List (List String)) : SearchPath :=
  calls.foldl (fun s paths => (s.append paths).1) s

theorem appendEach_eq (s : SearchPath) (calls : List (List String)) :
    s.appendEach calls = (s.append calls.flatten).1 := by
  induction calls generalizing s with
  | nil => cases s <;> rfl
  | cons paths calls ih =>
    change (s.append paths).1.appendEach calls = _
    rw [ih, List.flatten_cons, append_concat]

/-- In whichever order the calls come, the same directories are searched. -/
theorem searches_appendEach_perm {calls calls' : List (List String)} (perm : calls.Perm calls')
    (s : SearchPath) (path : String) :
    (s.appendEach calls).searches path = (s.appendEach calls').searches path := by
  rw [appendEach_eq, appendEach_eq]
  rcases s.comparable_or_fixed with ⟨items, rfl, comparable⟩ | fixed
  · rw [append_of_comparable comparable, append_of_comparable comparable, Bool.eq_iff_iff, searches_iff,
      searches_iff, ← mem_directories, ← mem_directories, directories_append, directories_append, List.mem_append,
      List.mem_append, mem_absent, mem_absent, perm.flatten.mem_iff]
  · rw [fixed, fixed]

/-- What is known of adding directories to a search path. -/
structure AddsMissing (s : SearchPath) : Prop where
  /-- Behind a list of texts come the directories that are not in it, each once, in the order in which they first
  come. -/
  behind : ∀ items, s = .list items → .incomparable ∉ items → ∀ paths,
    s.append paths = (.list (items ++ (paths.removeAll s.directories).eraseDups.map .directory), none)
  again : ∀ paths, (s.append paths).1.append paths = s.append paths
  concat : ∀ p q, (s.append (p ++ q)).1 = ((s.append p).1.append q).1
  /-- In whichever order calls come, modules are searched in the same directories. -/
  permuted : ∀ calls calls', calls.Perm calls' → ∀ path,
    (s.appendEach calls).searches path = (s.appendEach calls').searches path
  /-- What is there stays where it is, also if this fails. -/
  kept : ∀ paths, s.items <+: (s.append paths).1.items
  /-- What is no list takes no path. -/
  refused : (∀ items, s ≠ .list items) → ∀ paths ≠ [], s.append paths = (s, some "sys.path is not a list")

theorem addsMissing (s : SearchPath) : s.AddsMissing where
  behind := by
    rintro items rfl comparable paths
    exact append_of_comparable comparable paths
  again := s.append_again
  concat := s.append_concat
  permuted calls calls' perm path := searches_appendEach_perm perm s path
  kept := s.items_prefix_append
  refused other paths some := append_of_not_list other some

end SearchPath

/-! ## Calls -/

/-- The owner with another search path. -/
def Owner.withSearchPath (o : Owner) (s : SearchPath) : Owner :=
  { o with interpreter := { o.interpreter with searchPath := s } }

/-- The answer of a call that adds directories, by the reason for which that failed. -/
def SearchPath.answer : Option String → Except CallError Unit
  | none => .ok ()
  | some reason => .error (.broker (.searchPath reason))

namespace Action

variable {h : Host} {paths : List String}

/-- Without paths nothing is done, on no thread. -/
theorem run_appendSearchPath_nil (ready : h.Ready) : (appendSearchPath []).run h = (.ok (.ok ()), h) := by
  unfold appendSearchPath
  rw [run_bind_of_ok (ensure_of_ready ready)]
  rfl

/-- A call adds its paths to the search path that the tasks in line have left. -/
theorem run_appendSearchPath (ready : h.Ready) (outside : h.insideJob = false) (running : h.broker.stage = .running)
    (some : paths ≠ []) :
    ∃ h', (appendSearchPath paths).run h =
        (.ok (SearchPath.answer (h.ownerAfterTasks.interpreter.searchPath.append paths).2), h') ∧
      h'.owner = h.ownerAfterTasks.withSearchPath (h.ownerAfterTasks.interpreter.searchPath.append paths).1 := by
  obtain ⟨h', waited, owner⟩ : ∃ h', (execSync (job (Job.appendSearchPath paths))).run h =
        (.ok (Turn.answer ((Job.appendSearchPath paths).run h.ownerAfterTasks).1), h') ∧
      h'.owner = ((Job.appendSearchPath paths).run h.ownerAfterTasks).2 :=
    ⟨_, run_execSync_job outside (Process.accept_of_running running) _, rfl⟩
  rw [Job.run_appendSearchPath] at waited owner
  refine ⟨h', ?_, owner⟩
  unfold appendSearchPath appendPaths
  rw [run_bind_of_ok (ensure_of_ready ready), if_neg (by simpa using some)]
  rw [run_bind, run_bind, waited]
  cases (h.ownerAfterTasks.interpreter.searchPath.append paths).2 <;> rfl

end Action

end InterpreterHost
