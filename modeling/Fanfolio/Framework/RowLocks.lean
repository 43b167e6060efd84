import Mathlib.Logic.Function.Basic
import Mathlib.Data.List.Basic

/-!
# Many locked rows

Workers share committed data whose rows they lock one after the other, and keep their locks until
they commit or give up. What a worker knows of the rows it has locked goes on being so: a commit
of another worker leaves these rows alone.
-/

namespace Framework

variable {W R D P : Type*} [DecidableEq W] [DecidableEq R]

/-- The committed data, the worker that holds each row, and what each worker is about. -/
structure RowLocks (W R D P : Type*) where
  committed : D
  owner : R → Option W
  phase : W → P

namespace RowLocks

/-- A worker goes on with the rows it has. -/
def move (s : RowLocks W R D P) (w : W) (p : P) : RowLocks W R D P :=
  { s with phase := Function.update s.phase w p }

/-- A worker locks one more row. -/
def acquire (s : RowLocks W R D P) (w : W) (r : R) (p : P) : RowLocks W R D P :=
  { s with owner := Function.update s.owner r (some w), phase := Function.update s.phase w p }

/-- A worker commits, or gives up, and lets all of its rows go. -/
def release (s : RowLocks W R D P) (w : W) (d : D) (p : P) : RowLocks W R D P :=
  { committed := d
    owner := fun r => if s.owner r = some w then none else s.owner r
    phase := Function.update s.phase w p }

omit [DecidableEq R] in
@[simp] theorem move_committed (s : RowLocks W R D P) (w : W) (p : P) :
    (s.move w p).committed = s.committed := rfl

@[simp] theorem acquire_committed (s : RowLocks W R D P) (w : W) (r : R) (p : P) :
    (s.acquire w r p).committed = s.committed := rfl

omit [DecidableEq R] in
@[simp] theorem release_committed (s : RowLocks W R D P) (w : W) (d : D) (p : P) :
    (s.release w d p).committed = d := rfl

/-- Every worker holds the rows of its phase, and what it knows of the committed data is so. -/
structure Knows (rows : P → R → Prop) (fact : P → D → Prop) (s : RowLocks W R D P) : Prop where
  owns : ∀ w r, rows (s.phase w) r → s.owner r = some w
  facts : ∀ w, fact (s.phase w) s.committed

namespace Knows

variable {rows : P → R → Prop} {fact : P → D → Prop} {s : RowLocks W R D P} {w : W} {p : P}

omit [DecidableEq R] in
/-- A worker goes on with rows that it owns. -/
theorem move_owned (h : Knows rows fact s) (hrows : ∀ r, rows p r → s.owner r = some w)
    (hfact : fact p s.committed) : Knows rows fact (s.move w p) := by
  constructor
  · intro w' r hr
    by_cases hw : w' = w
    · subst hw
      simp only [RowLocks.move, Function.update_self] at hr
      exact hrows r hr
    · simp only [RowLocks.move, Function.update_of_ne hw] at hr ⊢
      exact h.owns w' r hr
  · intro w'
    by_cases hw : w' = w
    · subst hw
      simpa [RowLocks.move] using hfact
    · simpa [RowLocks.move, Function.update_of_ne hw] using h.facts w'

omit [DecidableEq R] in
/-- A worker goes on with rows that it had. -/
theorem move (h : Knows rows fact s) (hrows : ∀ r, rows p r → rows (s.phase w) r)
    (hfact : fact p s.committed) : Knows rows fact (s.move w p) :=
  h.move_owned (fun r hr => h.owns w r (hrows r hr)) hfact

/-- A free row is locked by a worker that keeps the rows it had. -/
theorem acquire (h : Knows rows fact s) {r : R} (hfree : s.owner r = none)
    (hrows : ∀ r', rows p r' → r' = r ∨ rows (s.phase w) r') (hfact : fact p s.committed) :
    Knows rows fact (s.acquire w r p) := by
  constructor
  · intro w' r' hr'
    by_cases hw : w' = w
    · subst hw
      simp only [RowLocks.acquire, Function.update_self] at hr' ⊢
      by_cases hr : r' = r
      · rw [hr, Function.update_self]
      · rw [Function.update_of_ne hr]
        exact h.owns w' r' ((hrows r' hr').resolve_left hr)
    · simp only [RowLocks.acquire, Function.update_of_ne hw] at hr' ⊢
      have hmine := h.owns w' r' hr'
      have hr : r' ≠ r := by
        rintro rfl
        rw [hfree] at hmine
        cases hmine
      rw [Function.update_of_ne hr]
      exact hmine
  · intro w'
    by_cases hw : w' = w
    · subst hw
      simpa [RowLocks.acquire] using hfact
    · simpa [RowLocks.acquire, Function.update_of_ne hw] using h.facts w'

omit [DecidableEq R] in
/-- A worker that commits changes nothing that another worker knows: the others hold other rows. -/
theorem release_others (h : Knows rows fact s) {d : D}
    (hrows : ∀ r, ¬rows p r) (hfact : fact p d)
    (hothers : ∀ w', w' ≠ w → (∀ r, rows (s.phase w') r → ¬rows (s.phase w) r) →
      fact (s.phase w') s.committed → fact (s.phase w') d) :
    Knows rows fact (s.release w d p) := by
  constructor
  · intro w' r hr
    by_cases hw : w' = w
    · subst hw
      simp only [RowLocks.release, Function.update_self] at hr
      exact absurd hr (hrows r)
    · simp only [RowLocks.release, Function.update_of_ne hw] at hr ⊢
      have hmine := h.owns w' r hr
      rw [if_neg (by simp [hmine, hw]), hmine]
  · intro w'
    by_cases hw : w' = w
    · subst hw
      simpa [RowLocks.release] using hfact
    · simp only [RowLocks.release, Function.update_of_ne hw]
      refine hothers w' hw ?_ (h.facts w')
      intro r hr hmine
      have howner := (h.owns w' r hr).symm.trans (h.owns w r hmine)
      exact hw (Option.some.inj howner)

omit [DecidableEq R] in
/-- A commit that no phase with other rows takes notice of. -/
theorem release (h : Knows rows fact s) {d : D}
    (hrows : ∀ r, ¬rows p r) (hfact : fact p d)
    (hothers : ∀ p', (∀ r, rows p' r → ¬rows (s.phase w) r) → fact p' s.committed → fact p' d) :
    Knows rows fact (s.release w d p) :=
  h.release_others hrows hfact fun w' _ => hothers (s.phase w')

omit [DecidableEq W] [DecidableEq R] in
/-- Committed data that changes without the workers. -/
theorem change (h : Knows rows fact s) {d : D}
    (hfacts : ∀ w', fact (s.phase w') s.committed → fact (s.phase w') d) :
    Knows rows fact { s with committed := d } :=
  ⟨h.owns, fun w' => hfacts w' (h.facts w')⟩

end Knows

end RowLocks

end Framework
