/-!
# Computations that log

A computation that logs returns its value together with the records it
emitted, oldest first.  Running one computation after another appends their
records, so a run keeps the order in which things happened, and `Logged` is a
lawful monad.
-/

namespace ExactInteger

/-- How much attention a log record asks for. -/
inductive LogLevel where
  | trace
  | debug
  | warn
  deriving DecidableEq

def LogLevel.name : LogLevel → String
  | .trace => "TRACE"
  | .debug => "DEBUG"
  | .warn => "WARN"

structure LogRecord where
  level : LogLevel
  message : String
  deriving DecidableEq

/-- A value together with the records emitted while it was computed, oldest
first. -/
structure Logged (α : Type) where
  value : α
  log : List LogRecord

namespace Logged

variable {α β : Type}

def emit (record : LogRecord) : Logged Unit :=
  ⟨(), [record]⟩

instance : Monad Logged where
  pure value := ⟨value, []⟩
  bind first next :=
    ⟨(next first.value).value, first.log ++ (next first.value).log⟩
  map function computation := ⟨function computation.value, computation.log⟩

@[ext]
theorem ext {first second : Logged α} (valueEq : first.value = second.value)
    (logEq : first.log = second.log) : first = second := by
  cases first
  cases second
  simp_all

@[simp]
theorem value_pure (value : α) : (pure value : Logged α).value = value :=
  rfl

@[simp]
theorem log_pure (value : α) : (pure value : Logged α).log = [] :=
  rfl

@[simp]
theorem value_bind (first : Logged α) (next : α → Logged β) :
    (first >>= next).value = (next first.value).value :=
  rfl

@[simp]
theorem log_bind (first : Logged α) (next : α → Logged β) :
    (first >>= next).log = first.log ++ (next first.value).log :=
  rfl

@[simp]
theorem value_map (function : α → β) (computation : Logged α) :
    (function <$> computation).value = function computation.value :=
  rfl

@[simp]
theorem log_map (function : α → β) (computation : Logged α) :
    (function <$> computation).log = computation.log :=
  rfl

@[simp]
theorem value_emit (record : LogRecord) : (emit record).value = () :=
  rfl

@[simp]
theorem log_emit (record : LogRecord) : (emit record).log = [record] :=
  rfl

theorem bind_pure_eq_map (function : α → β) (computation : Logged α) :
    (computation >>= fun value => pure (function value)) =
      function <$> computation :=
  ext rfl (by simp)

instance : LawfulMonad Logged :=
  LawfulMonad.mk' Logged
    (fun _ => rfl)
    (fun _ _ => Logged.ext rfl (by simp))
    (fun _ _ _ => Logged.ext rfl (by simp))
    (fun _ _ => rfl)
    (fun _ _ => rfl)
    (fun _ _ => rfl)
    bind_pure_eq_map
    (fun _ _ => rfl)

@[simp]
theorem value_mapM (computation : α → Logged β) (list : List α) :
    (list.mapM computation).value =
      list.map fun element => (computation element).value := by
  induction list with
  | nil => rfl
  | cons element list ih => simp [ih]

@[simp]
theorem log_mapM (computation : α → Logged β) (list : List α) :
    (list.mapM computation).log =
      list.flatMap fun element => (computation element).log := by
  induction list with
  | nil => rfl
  | cons element list ih => simp [ih]

/-- Running a computation over a list keeps the values in order, and the records too. -/
theorem mapM_eq (computation : α → Logged β) (list : List α) :
    list.mapM computation =
      ⟨(list.map computation).map value, (list.map computation).flatMap log⟩ := by
  apply Logged.ext
  · rw [value_mapM, List.map_map]
    rfl
  · rw [log_mapM, List.flatMap_map]

end Logged

end ExactInteger
