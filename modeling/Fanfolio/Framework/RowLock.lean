import Mathlib.Logic.Function.Basic

/-!
# A locked row

Workers share committed data and one row lock. A worker that holds the lock knows something
of the committed data, and goes on knowing it until it lets go: the others cannot commit.
-/

namespace Framework

variable {W D P : Type*} [DecidableEq W]

/-- The committed data, the worker that holds the lock, and what each worker is about. -/
structure Locked (W D P : Type*) where
  committed : D
  lock : Option W
  phase : W → P

namespace Locked

/-- A worker goes on without the lock. -/
def move (s : Locked W D P) (w : W) (p : P) : Locked W D P :=
  { s with phase := Function.update s.phase w p }

/-- A worker takes the lock. -/
def acquire (s : Locked W D P) (w : W) (p : P) : Locked W D P :=
  { s with lock := some w, phase := Function.update s.phase w p }

/-- A worker commits and lets the lock go. -/
def release (s : Locked W D P) (w : W) (d : D) (p : P) : Locked W D P :=
  ⟨d, none, Function.update s.phase w p⟩

/-- A worker commits without the lock. -/
def publish (s : Locked W D P) (w : W) (d : D) (p : P) : Locked W D P :=
  { s with committed := d, phase := Function.update s.phase w p }

@[simp] theorem move_committed (s : Locked W D P) (w : W) (p : P) :
    (s.move w p).committed = s.committed := rfl

@[simp] theorem acquire_committed (s : Locked W D P) (w : W) (p : P) :
    (s.acquire w p).committed = s.committed := rfl

@[simp] theorem release_committed (s : Locked W D P) (w : W) (d : D) (p : P) :
    (s.release w d p).committed = d := rfl

@[simp] theorem publish_committed (s : Locked W D P) (w : W) (d : D) (p : P) :
    (s.publish w d p).committed = d := rfl

/-- Every worker in a phase that knows something holds the lock, and what it knows is so. -/
def Knows (R : P → Option (D → Prop)) (s : Locked W D P) : Prop :=
  ∀ w, ∀ fact ∈ R (s.phase w), s.lock = some w ∧ fact s.committed

variable {R : P → Option (D → Prop)} {s : Locked W D P} {w : W} {p : P}

theorem Knows.move (h : Knows R s) (hp : R p = none) : Knows R (s.move w p) := by
  intro w' fact hfact
  by_cases hw : w' = w
  · subst hw
    simp [Locked.move, hp] at hfact
  · simp only [Locked.move, Function.update_of_ne hw] at hfact ⊢
    exact h w' fact hfact

/-- A commit without the lock, which leaves what the others know as it is. -/
theorem Knows.publish (h : Knows R s) {d : D}
    (hfacts : ∀ w', ∀ fact ∈ R (s.phase w'), fact s.committed → fact d) (hp : R p = none) :
    Knows R (s.publish w d p) := by
  intro w' fact hfact
  by_cases hw : w' = w
  · subst hw
    simp [Locked.publish, hp] at hfact
  · simp only [Locked.publish, Function.update_of_ne hw] at hfact ⊢
    exact ⟨(h w' fact hfact).1, hfacts w' fact hfact (h w' fact hfact).2⟩

theorem Knows.acquire (h : Knows R s) (hfree : s.lock = none)
    (hp : ∀ fact ∈ R p, fact s.committed) : Knows R (s.acquire w p) := by
  intro w' fact hfact
  by_cases hw : w' = w
  · subst hw
    simp only [Locked.acquire, Function.update_self] at hfact
    exact ⟨rfl, hp fact hfact⟩
  · simp only [Locked.acquire, Function.update_of_ne hw] at hfact
    have hlock := (h w' fact hfact).1
    rw [hfree] at hlock
    cases hlock

theorem Knows.release (h : Knows R s) (hmine : ∀ w', s.lock = some w' → w' = w) (d : D)
    (hp : R p = none) : Knows R (s.release w d p) := by
  intro w' fact hfact
  by_cases hw : w' = w
  · subst hw
    simp [Locked.release, hp] at hfact
  · simp only [Locked.release, Function.update_of_ne hw] at hfact
    exact absurd (hmine w' (h w' fact hfact).1) hw

/-- A worker that knows something holds the lock. -/
theorem Knows.release_of_knows (h : Knows R s) {fact : D → Prop} (hfact : fact ∈ R (s.phase w))
    (d : D) (hp : R p = none) : Knows R (s.release w d p) := by
  refine h.release ?_ d hp
  intro w' hlock
  rw [(h w fact hfact).1] at hlock
  exact (Option.some.inj hlock).symm

end Locked

end Framework
