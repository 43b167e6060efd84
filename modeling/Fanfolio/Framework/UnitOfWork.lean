import Fanfolio.Framework.Checked
import Mathlib.Data.List.Pairwise

/-!
# The unit of work

A flush emits the inserts of a table before its deletes. Every insert is checked against the rows
that are stored at that moment.
-/

namespace Framework

variable {α ε : Type} (violated : α → α → Option ε)

/-- `INSERT`: refused for the first stored row with which a unique constraint is violated. -/
def insertRow (rows : List α) (row : α) : Except ε (List α) :=
  match rows.findSome? (violated · row) with
  | some e => .error e
  | none => .ok (rows ++ [row])

/-- The statements of one flush for one table. -/
def flush [DecidableEq α] (rows inserts deletes : List α) : Except ε (List α) := do
  let rows ← inserts.foldlM (insertRow violated) rows
  pure (rows.filter (· ∉ deletes))

variable {violated} {rows inserts deletes rows' : List α} {row : α}

theorem insertRow_ok : insertRow violated rows row = .ok rows' ↔
    (∀ old ∈ rows, violated old row = none) ∧ rows ++ [row] = rows' := by
  rw [← List.findSome?_eq_none_iff, insertRow]
  cases rows.findSome? (violated · row) <;> simp

theorem insertAll_ok : inserts.foldlM (insertRow violated) rows = .ok rows' ↔
    (∀ old ∈ rows, ∀ row ∈ inserts, violated old row = none) ∧
      inserts.Pairwise (violated · · = none) ∧ rows ++ inserts = rows' := by
  induction inserts generalizing rows with
  | nil => simp
  | cons row inserts ih =>
    simp only [List.foldlM_cons, bind_ok, insertRow_ok, ih, List.forall_mem_cons,
      List.pairwise_cons]
    constructor
    · rintro ⟨_, ⟨hfirst, rfl⟩, hrest, hpairs, rfl⟩
      refine ⟨fun old hold => ⟨hfirst old hold, hrest old (List.mem_append_left _ hold)⟩,
        ⟨hrest row (by simp), hpairs⟩, by simp⟩
    · rintro ⟨hold, ⟨hrow, hpairs⟩, rfl⟩
      refine ⟨rows ++ [row], ⟨fun old hmem => (hold old hmem).1, rfl⟩, ?_, hpairs, by simp⟩
      intro old hmem
      rcases List.mem_append.mp hmem with hmem | hmem
      · exact (hold old hmem).2
      · rw [List.mem_singleton.mp hmem]
        exact hrow

/-- A flush succeeds exactly if the new rows clash neither with each other nor with the stored
ones, whether these are deleted by it or not. -/
theorem flush_ok [DecidableEq α] : flush violated rows inserts deletes = .ok rows' ↔
    (∀ old ∈ rows, ∀ row ∈ inserts, violated old row = none) ∧
      inserts.Pairwise (violated · · = none) ∧ (rows ++ inserts).filter (· ∉ deletes) = rows' := by
  simp only [flush, bind_ok, insertAll_ok, pure_ok]
  constructor
  · rintro ⟨_, ⟨hold, hpairs, rfl⟩, rfl⟩
    exact ⟨hold, hpairs, rfl⟩
  · rintro ⟨hold, hpairs, rfl⟩
    exact ⟨_, ⟨hold, hpairs, rfl⟩, rfl⟩

end Framework
