import ExactInteger.FileStore
import Mathlib.Data.List.DropRight

/-!
# Files after a write

The text of a path leads to a place through directories.  A file is read where
its path leads to, and written there unless the place is taken by a directory or
refuses to be written.  Writing a file changes what its own path stands for and
nothing else, so the directories on the way to any place are where they were: what
was written is read back, can be written again, and then nothing is left of the
first contents.  Only the null device keeps nothing, and there is nothing in it
before.
-/

namespace ExactInteger

namespace FileStore

variable {store : FileStore} {path other target : Path} {node : Node}
variable {text : String} {contents : Bytes}

/-! ## What paths stand for -/

theorem node?_of_isFixed (fixed : store.isFixed path = true) :
    store.node? path = some .directory := by
  rw [node?, if_pos fixed]

theorem node?_of_not_isFixed (free : store.isFixed path = false)
    (notNull : path ≠ nullDevice) : store.node? path = store.nodes.lookup path := by
  rw [node?, free, if_neg Bool.false_ne_true, if_neg notNull]

theorem node?_nullDevice (free : store.isFixed nullDevice = false) :
    store.node? nullDevice = some (.file []) := by
  rw [node?, free, if_neg Bool.false_ne_true, if_pos rfl]

private theorem lookup_replace_of_ne {entries : List (Path × Node)}
    (distinct : other ≠ path) :
    (entries.map fun entry => if entry.1 == path then (path, node) else entry).lookup
        other = entries.lookup other := by
  induction entries with
  | nil => rfl
  | cons entry entries ih =>
      rcases entry with ⟨key, value⟩
      rw [List.map_cons, List.lookup_cons]
      by_cases replaced : key = path
      · have passed : (other == path) = false := beq_eq_false_iff_ne.mpr distinct
        rw [if_pos (by simpa using replaced), List.lookup_cons, ih, replaced, passed]
      · rw [if_neg (by simpa using replaced), List.lookup_cons, ih]

private theorem lookup_replace_self {entries : List (Path × Node)}
    (present : entries.any (·.1 == path) = true) :
    (entries.map fun entry => if entry.1 == path then (path, node) else entry).lookup
        path = some node := by
  induction entries with
  | nil => simp at present
  | cons entry entries ih =>
      rcases entry with ⟨key, value⟩
      rw [List.map_cons]
      by_cases replaced : key = path
      · rw [if_pos (by simpa using replaced), List.lookup_cons_self]
      · have passed : (path == key) = false := beq_eq_false_iff_ne.mpr (Ne.symm replaced)
        have later : entries.any (·.1 == path) = true := by
          simpa [replaced] using present
        rw [if_neg (by simpa using replaced), List.lookup_cons, passed]
        exact ih later

theorem node?_put_of_ne (distinct : other ≠ path) :
    (store.put path node).node? other = store.node? other := by
  have sameFixed : (store.put path node).isFixed other = store.isFixed other := rfl
  rw [node?, node?, sameFixed]
  split
  next => rfl
  next =>
    split
    next => rfl
    next =>
      rw [put]
      simp only
      split
      next present => exact lookup_replace_of_ne distinct
      next absent =>
        have passed : (other == path) = false := by simpa using distinct
        simp [List.lookup_append, List.lookup_cons, passed]

theorem node?_put_self (free : store.isFixed path = false) (notNull : path ≠ nullDevice) :
    (store.put path node).node? path = some node := by
  have stillFree : (store.put path node).isFixed path = false := free
  rw [node?_of_not_isFixed stillFree notNull, put]
  simp only
  split
  next present => exact lookup_replace_self present
  next absent =>
    have unknown : store.nodes.lookup path = none := by
      rw [List.lookup_eq_none_iff]
      intro entry member
      have differs : entry.1 ≠ path := by
        intro same
        exact absent (List.any_eq_true.mpr ⟨entry, member, by simpa using same⟩)
      simpa using Ne.symm differs
    simp [List.lookup_append, unknown]

/-- Only the last node that is put somewhere stays. -/
theorem put_put (store : FileStore) (path : Path) (first second : Node) :
    (store.put path first).put path second = store.put path second := by
  by_cases present : store.nodes.any (·.1 == path) = true
  · have stays : (store.put path first).nodes.any (·.1 == path) = true := by
      rw [List.any_eq_true] at present ⊢
      obtain ⟨entry, member, same⟩ := present
      refine ⟨(path, first), ?_, by simp⟩
      rw [put, if_pos (List.any_eq_true.mpr ⟨entry, member, same⟩)]
      exact List.mem_map.mpr ⟨entry, member, if_pos same⟩
    rw [put, if_pos stays, put, if_pos present, put, if_pos present, List.map_map]
    congr 1
    apply List.map_congr_left
    intro entry _
    by_cases replaced : entry.1 = path <;> simp [replaced]
  · have kept : ∀ entry ∈ store.nodes, entry.1 ≠ path := by
      intro entry member same
      exact present (List.any_eq_true.mpr ⟨entry, member, by simpa using same⟩)
    have unchanged : (store.nodes.map fun entry =>
        if entry.1 = path then (path, second) else entry) = store.nodes := by
      have same : ∀ entry ∈ store.nodes,
          (if entry.1 = path then (path, second) else entry) = id entry := by
        intro entry member
        exact if_neg (kept entry member)
      rw [List.map_congr_left same, List.map_id]
    rw [put, if_pos (by simp [put, present]), put, if_neg present, put, if_neg present]
    simpa using unchanged

/-! ## Where paths lead -/

/-- The text of a path leads through directories to a place. -/
inductive Leads (store : FileStore) (text : String) : Path → Prop
  | intro {directories : List String} {name : String} {parent path : Path}
      (wellFormed : pathError? text = none)
      (split : components text = directories ++ [name])
      (notStep : isStep name = false)
      (walked : store.walk (store.start text) directories = .ok parent)
      (isNamed : named parent name = .ok path) : Leads store text path

/-- A place accepts a file if there is no directory and nothing refuses the file. -/
structure Accepts (store : FileStore) (path : Path) : Prop where
  notDirectory : store.node? path ≠ some .directory
  notRefused : store.refusals.lookup path = none

theorem Accepts.isFixed (accepts : store.Accepts path) : store.isFixed path = false := by
  rw [Bool.eq_false_iff]
  intro fixed
  exact accepts.notDirectory (node?_of_isFixed fixed)

private theorem bind_eq_ok_iff {ε α β : Type} {first : Except ε α}
    {next : α → Except ε β} {result : β} :
    (first >>= next) = .ok result ↔
      ∃ value, first = .ok value ∧ next value = .ok result := by
  cases first <;> simp [bind, Except.bind]

/-- A component that names something is not left out with the slashes at the end
of a path. -/
private theorem components_withoutSlashes {directories : List String} {name : String}
    (notStep : isStep name = false) :
    ((directories ++ [name]).reverse.dropWhile (· == "")).reverse =
      directories ++ [name] := by
  apply List.rdropWhile_concat_neg
  intro isEmpty
  rw [eq_of_beq isEmpty] at notStep
  exact absurd notStep (by decide)

/-- A file is written where its path leads to, if it is accepted there. -/
theorem writable_eq_ok_iff :
    store.writable text = .ok path ↔ Leads store text path ∧ store.Accepts path := by
  rw [writable]
  constructor
  · intro succeeded
    split at succeeded
    next => simp at succeeded
    next wellFormed =>
      simp only at succeeded
      split at succeeded
      next => simp at succeeded
      next name last =>
        obtain ⟨parent, walked, succeeded⟩ := bind_eq_ok_iff.mp succeeded
        split at succeeded
        next => simp at succeeded
        next proper =>
          rw [Bool.or_eq_true, not_or, Bool.not_eq_true, decide_eq_true_eq] at proper
          obtain ⟨target, isNamed, succeeded⟩ := bind_eq_ok_iff.mp succeeded
          -- Not fewer than all components are named, so the path ends in no slash.
          have whole : ((components text).reverse.dropWhile (· == "")).reverse =
              components text :=
            (List.rdropWhile_prefix (· == "") (components text)).eq_of_length_le
              (not_lt.mp proper.2)
          rw [whole] at last walked
          have split : components text = (components text).dropLast ++ [name] :=
            (List.dropLast_append_getLast? name last).symm
          split at succeeded
          next => simp at succeeded
          next notDirectory =>
            split at succeeded
            next => simp at succeeded
            next notRefused =>
              cases succeeded
              exact ⟨.intro wellFormed split proper.1 walked isNamed, notDirectory,
                notRefused⟩
  · rintro ⟨⟨wellFormed, split, notStep, walked, isNamed⟩, accepts⟩
    rw [wellFormed, split]
    simp only [components_withoutSlashes notStep, List.getLast?_concat,
      List.dropLast_concat, notStep, lt_irrefl, decide_false, Bool.or_self,
      Bool.false_eq_true, if_false]
    refine bind_eq_ok_iff.mpr ⟨_, walked, bind_eq_ok_iff.mpr ⟨_, isNamed, ?_⟩⟩
    split
    next isDirectory => exact absurd isDirectory accepts.notDirectory
    next => rw [accepts.notRefused]

/-- A file is read where its path leads to, if there is one. -/
theorem read_eq_ok_iff :
    store.read text = .ok contents ↔
      ∃ path, Leads store text path ∧ store.node? path = some (.file contents) := by
  rw [read]
  constructor
  · intro succeeded
    split at succeeded
    next => simp at succeeded
    next wellFormed =>
      obtain ⟨parent, walked, succeeded⟩ := bind_eq_ok_iff.mp succeeded
      split at succeeded
      next => simp at succeeded
      next notStep =>
        have notStep := Bool.eq_false_iff.mpr notStep
        obtain ⟨path, isNamed, succeeded⟩ := bind_eq_ok_iff.mp succeeded
        split at succeeded
        next => simp at succeeded
        next => simp at succeeded
        next found =>
          cases succeeded
          rcases List.eq_nil_or_concat' (components text) with
            none | ⟨directories, name, split⟩
          · rw [none] at notStep
            exact absurd notStep (by decide)
          · rw [split, List.getLastD_concat] at notStep isNamed
            rw [split, List.dropLast_concat] at walked
            exact ⟨path, .intro wellFormed split notStep walked isNamed, found⟩
  · rintro ⟨path, ⟨wellFormed, split, notStep, walked, isNamed⟩, found⟩
    rw [wellFormed, split]
    simp only [List.getLastD_concat, List.dropLast_concat, notStep, Bool.false_eq_true,
      if_false]
    refine bind_eq_ok_iff.mpr ⟨_, walked, bind_eq_ok_iff.mpr ⟨_, isNamed, ?_⟩⟩
    rw [found]

/-- The null device is read as an empty file. -/
theorem read_of_writable_nullDevice (writable : store.writable text = .ok nullDevice) :
    store.read text = .ok [] := by
  obtain ⟨leads, accepts⟩ := writable_eq_ok_iff.mp writable
  exact read_eq_ok_iff.mpr ⟨nullDevice, leads, node?_nullDevice accepts.isFixed⟩

theorem ne_nullDevice_of_absent {error : FileError}
    (absent : store.read text = .error error)
    (writable : store.writable text = .ok path) : path ≠ nullDevice := by
  rintro rfl
  rw [read_of_writable_nullDevice writable] at absent
  cases absent

/-! ## Writing -/

@[simp]
theorem workingDirectory_writeAt :
    (store.writeAt contents target).workingDirectory = store.workingDirectory := by
  rw [writeAt]
  split <;> rfl

@[simp]
theorem start_writeAt : (store.writeAt contents target).start text = store.start text := by
  rw [start, start, workingDirectory_writeAt]

@[simp]
theorem refusals_writeAt : (store.writeAt contents target).refusals = store.refusals := by
  rw [writeAt]
  split <;> rfl

theorem node?_writeAt_of_ne (distinct : other ≠ target) (contents : Bytes) :
    (store.writeAt contents target).node? other = store.node? other := by
  rw [writeAt]
  split
  next => rfl
  next => exact node?_put_of_ne distinct

theorem node?_writeAt_self (accepts : store.Accepts target) (notNull : target ≠ nullDevice)
    (contents : Bytes) :
    (store.writeAt contents target).node? target = some (.file contents) := by
  rw [writeAt, if_neg notNull]
  exact node?_put_self accepts.isFixed notNull

/-- Only what was written to a place last stays there. -/
theorem writeAt_writeAt (store : FileStore) (path : Path) (first second : Bytes) :
    (store.writeAt first path).writeAt second path = store.writeAt second path := by
  by_cases isNull : path = nullDevice
  · rw [writeAt, if_pos isNull, writeAt, if_pos isNull, writeAt, if_pos isNull]
  · rw [writeAt, if_neg isNull, writeAt, if_neg isNull, writeAt, if_neg isNull]
    exact put_put store path _ _

/-- A directory is not a place where a file is accepted, so it stays one. -/
theorem node?_writeAt_directory (accepts : store.Accepts target)
    (isDirectory : store.node? path = some .directory) :
    (store.writeAt contents target).node? path = some .directory := by
  have distinct : path ≠ target := by
    rintro rfl
    exact accepts.notDirectory isDirectory
  rwa [node?_writeAt_of_ne distinct]

theorem Accepts.writeAt (accepts : store.Accepts target) :
    (store.writeAt contents target).Accepts target := by
  constructor
  · by_cases isNull : target = nullDevice
    · rw [FileStore.writeAt, if_pos isNull]
      exact accepts.notDirectory
    · rw [node?_writeAt_self accepts isNull]
      intro isDirectory
      cases isDirectory
  · rw [refusals_writeAt]
    exact accepts.notRefused

theorem enter_writeAt {directory next : Path} {component : String}
    (accepts : store.Accepts target)
    (entered : store.enter directory component = .ok next) :
    (store.writeAt contents target).enter directory component = .ok next := by
  rw [enter] at entered ⊢
  split
  next isParent => rwa [if_pos isParent] at entered
  next notParent =>
    rw [if_neg notParent] at entered
    split
    next step => rwa [if_pos step] at entered
    next notStep =>
      rw [if_neg notStep] at entered
      obtain ⟨place, isNamed, entered⟩ := bind_eq_ok_iff.mp entered
      refine bind_eq_ok_iff.mpr ⟨place, isNamed, ?_⟩
      split at entered
      next => simp at entered
      next => simp at entered
      next isDirectory => rwa [node?_writeAt_directory accepts isDirectory]

theorem walk_writeAt {directory final : Path} {components : List String}
    (accepts : store.Accepts target)
    (walked : store.walk directory components = .ok final) :
    (store.writeAt contents target).walk directory components = .ok final := by
  induction components generalizing directory with
  | nil => exact walked
  | cons component components ih =>
      rw [walk, List.foldlM_cons] at walked
      obtain ⟨next, entered, walked⟩ := bind_eq_ok_iff.mp walked
      rw [walk, List.foldlM_cons]
      exact bind_eq_ok_iff.mpr ⟨next, enter_writeAt accepts entered, ih walked⟩

/-- Paths lead where they led before a file was written. -/
theorem Leads.writeAt (accepts : store.Accepts target) (leads : Leads store text path) :
    Leads (store.writeAt contents target) text path := by
  cases leads with
  | intro wellFormed split notStep walked isNamed =>
      refine .intro wellFormed split notStep ?_ isNamed
      rw [start_writeAt]
      exact walk_writeAt accepts walked

/-- The contents that were written are read back. -/
theorem read_writeAt (contents : Bytes) (writable : store.writable text = .ok path)
    (notNull : path ≠ nullDevice) :
    (store.writeAt contents path).read text = .ok contents := by
  obtain ⟨leads, accepts⟩ := writable_eq_ok_iff.mp writable
  exact read_eq_ok_iff.mpr
    ⟨path, leads.writeAt accepts, node?_writeAt_self accepts notNull contents⟩

/-- A file that was written can be written again. -/
theorem writable_writeAt (contents : Bytes) (writable : store.writable text = .ok path) :
    (store.writeAt contents path).writable text = .ok path := by
  obtain ⟨leads, accepts⟩ := writable_eq_ok_iff.mp writable
  exact writable_eq_ok_iff.mpr ⟨leads.writeAt accepts, accepts.writeAt⟩

/-! ## Attempts to write -/

/-- The store after an attempt to write a file, which leaves it as it was when
the file cannot be written. -/
def tryWrite (store : FileStore) (text : String) (contents : Bytes) : FileStore :=
  match store.write text contents with
  | .ok written => written
  | .error _ => store

theorem tryWrite_of_ok (writable : store.writable text = .ok path) (contents : Bytes) :
    store.tryWrite text contents = store.writeAt contents path := by
  simp [tryWrite, write, writable, Except.map]

theorem tryWrite_of_error {error : FileError}
    (notWritable : store.writable text = .error error) (contents : Bytes) :
    store.tryWrite text contents = store := by
  simp [tryWrite, write, notWritable, Except.map]

theorem workingDirectory_tryWrite :
    (store.tryWrite text contents).workingDirectory = store.workingDirectory := by
  cases target : store.writable text with
  | error error => rw [tryWrite_of_error target]
  | ok place => rw [tryWrite_of_ok target, workingDirectory_writeAt]

theorem refusals_tryWrite :
    (store.tryWrite text contents).refusals = store.refusals := by
  cases target : store.writable text with
  | error error => rw [tryWrite_of_error target]
  | ok place => rw [tryWrite_of_ok target, refusals_writeAt]

/-- Whatever becomes of the attempt, all that it changes is the file that the
path names. -/
theorem node?_tryWrite (other : store.writable text ≠ .ok path) (contents : Bytes) :
    (store.tryWrite text contents).node? path = store.node? path := by
  cases target : store.writable text with
  | error error => rw [tryWrite_of_error target]
  | ok place =>
      have distinct : path ≠ place := by
        rintro rfl
        exact other target
      rw [tryWrite_of_ok target, node?_writeAt_of_ne distinct]

end FileStore

end ExactInteger
