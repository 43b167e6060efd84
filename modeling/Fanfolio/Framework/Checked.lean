import Mathlib.Data.List.Basic

/-!
# Checked computations

A request handler is a sequence of checks and writes that stops at the first failure. The
lemmas peel such a sequence from the front, for success and for failure.
-/

namespace Framework

universe u v

variable {ε : Type u} {α β : Type v}

/-- Continue if the condition holds, fail with `e` otherwise. -/
def ensure (c : Prop) [Decidable c] (e : ε) : Except ε Unit := if c then .ok () else .error e

/-- Continue with the value found, fail with `e` if there is none. -/
def orFail (o : Option α) (e : ε) : Except ε α :=
  match o with
  | some a => .ok a
  | none => .error e

@[simp] theorem ensure_ok {c : Prop} [Decidable c] {e : ε} {u : Unit} :
    ensure c e = .ok u ↔ c := by
  by_cases h : c <;> simp [ensure, h]

@[simp] theorem ensure_error {c : Prop} [Decidable c] {e e' : ε} :
    ensure c e = .error e' ↔ ¬c ∧ e = e' := by
  by_cases h : c <;> simp [ensure, h]

@[simp] theorem orFail_ok {o : Option α} {e : ε} {a : α} : orFail o e = .ok a ↔ o = some a := by
  cases o <;> simp [orFail]

@[simp] theorem orFail_error {o : Option α} {e e' : ε} :
    orFail o e = .error e' ↔ o = none ∧ e = e' := by
  cases o <;> simp [orFail]

@[simp] theorem pure_ok {a b : α} : (pure a : Except ε α) = .ok b ↔ a = b := by
  simp [pure, Except.pure]

@[simp] theorem pure_error {a : α} {e : ε} : (pure a : Except ε α) = .error e ↔ False := by
  simp [pure, Except.pure]

@[simp] theorem bind_ok {x : Except ε α} {f : α → Except ε β} {b : β} :
    x >>= f = .ok b ↔ ∃ a, x = .ok a ∧ f a = .ok b := by
  cases x <;> simp [bind, Except.bind]

@[simp] theorem bind_error {x : Except ε α} {f : α → Except ε β} {e : ε} :
    x >>= f = .error e ↔ x = .error e ∨ ∃ a, x = .ok a ∧ f a = .error e := by
  cases x <;> simp [bind, Except.bind]

@[simp] theorem map_ok {x : Except ε α} {f : α → β} {b : β} :
    f <$> x = .ok b ↔ ∃ a, x = .ok a ∧ f a = b := by
  cases x <;> simp [Functor.map, Except.map]

/-- Run the checks of all elements in order, and stop at the first failure. -/
def forEach (check : α → Except ε Unit) : List α → Except ε Unit
  | [] => .ok ()
  | a :: l => match check a with
    | .ok () => forEach check l
    | .error e => .error e

@[simp] theorem forEach_ok {check : α → Except ε Unit} {l : List α} {u : Unit} :
    forEach check l = .ok u ↔ ∀ a ∈ l, check a = .ok () := by
  induction l with
  | nil => simp [forEach]
  | cons a l ih =>
    rw [forEach, List.forall_mem_cons, ← ih]
    cases check a <;> simp

theorem forEach_error {check : α → Except ε Unit} {l : List α} {e : ε}
    (h : forEach check l = .error e) : ∃ a ∈ l, check a = .error e := by
  induction l with
  | nil => cases h
  | cons a l ih =>
    rw [forEach] at h
    cases hcheck : check a with
    | ok u =>
      rw [hcheck] at h
      obtain ⟨a', hmem, hfails⟩ := ih h
      exact ⟨a', List.mem_cons_of_mem a hmem, hfails⟩
    | error e' =>
      rw [hcheck] at h
      exact ⟨a, List.mem_cons_self, hcheck.trans h⟩

/-- A relation that every step of a loop keeps holds from its start to its end. -/
theorem foldlM_rel {R : β → β → Prop} (hrefl : ∀ b, R b b)
    (htrans : ∀ {b₁ b₂ b₃}, R b₁ b₂ → R b₂ b₃ → R b₁ b₃) {f : β → α → Except ε β}
    (hstep : ∀ b a b', f b a = .ok b' → R b b') {l : List α} {b b' : β}
    (h : l.foldlM f b = .ok b') : R b b' := by
  induction l generalizing b with
  | nil =>
    rw [List.foldlM_nil, pure_ok] at h
    exact h ▸ hrefl b
  | cons a l ih =>
    rw [List.foldlM_cons, bind_ok] at h
    obtain ⟨b₁, hfirst, hrest⟩ := h
    exact htrans (hstep b a b₁ hfirst) (ih hrest)

/-- What every step of a loop keeps holds at its end. -/
theorem foldlM_keeps {I : β → Prop} {f : β → α → Except ε β} {l : List α} {b b' : β} (h0 : I b)
    (hstep : ∀ a ∈ l, ∀ b b', I b → f b a = .ok b' → I b') (h : l.foldlM f b = .ok b') : I b' := by
  induction l generalizing b with
  | nil =>
    rw [List.foldlM_nil, pure_ok] at h
    exact h ▸ h0
  | cons a l ih =>
    rw [List.foldlM_cons, bind_ok] at h
    obtain ⟨b₁, hfirst, hrest⟩ := h
    exact ih (hstep a (by simp) b b₁ h0 hfirst)
      (fun a' ha' => hstep a' (List.mem_cons_of_mem _ ha')) hrest

/-- Every failure of the computation satisfies `P`. -/
def FailsIn (P : ε → Prop) (x : Except ε α) : Prop := ∀ e, x = .error e → P e

namespace FailsIn

variable {P : ε → Prop}

theorem ok (a : α) : FailsIn P (.ok a : Except ε α) := by
  intro e h
  cases h

theorem pure (a : α) : FailsIn P (Pure.pure a : Except ε α) := ok a

theorem of_ok {x : Except ε α} {a : α} (h : x = .ok a) : FailsIn P x := h ▸ ok a

theorem error {e : ε} (h : P e) : FailsIn P (.error e : Except ε α) := by
  intro e' he
  cases he
  exact h

theorem ensure {c : Prop} [Decidable c] {e : ε} (h : P e) : FailsIn P (Framework.ensure c e) := by
  intro e' he
  rw [← (ensure_error.mp he).2]
  exact h

theorem ensure_of {c : Prop} [Decidable c] {e : ε} (h : c) : FailsIn P (Framework.ensure c e) :=
  of_ok (a := ()) (ensure_ok.mpr h)

theorem orFail {o : Option α} {e : ε} (h : P e) : FailsIn P (Framework.orFail o e) := by
  intro e' he
  rw [← (orFail_error.mp he).2]
  exact h

/-- What follows may rely on what has succeeded. -/
theorem bind_of {x : Except ε α} {f : α → Except ε β} (hx : FailsIn P x)
    (hf : ∀ a, x = .ok a → FailsIn P (f a)) : FailsIn P (x >>= f) := by
  intro e he
  rcases bind_error.mp he with h | ⟨a, ha, h⟩
  · exact hx e h
  · exact hf a ha e h

theorem bind {x : Except ε α} {f : α → Except ε β} (hx : FailsIn P x) (hf : ∀ a, FailsIn P (f a)) :
    FailsIn P (x >>= f) := hx.bind_of fun a _ => hf a

end FailsIn

/-- Where the first computation fails, the second fails with a related error. -/
def RefusesAlike (R : ε → ε → Prop) (x : Except ε α) (y : Except ε β) : Prop :=
  ∀ e, x = .error e → ∃ e', y = .error e' ∧ R e e'

namespace RefusesAlike

variable {R : ε → ε → Prop} {γ δ : Type v}

theorem ok (a : α) (y : Except ε β) : RefusesAlike R (.ok a) y := by
  intro e h
  cases h

theorem refl (hrefl : ∀ e, R e e) (x : Except ε α) : RefusesAlike R x x :=
  fun e h => ⟨e, h, hrefl e⟩

/-- The same check with related errors. -/
theorem ensure {c : Prop} [Decidable c] {e e' : ε} (h : R e e') :
    RefusesAlike R (Framework.ensure c e) (Framework.ensure c e') := by
  intro e₁ he
  obtain ⟨hc, rfl⟩ := ensure_error.mp he
  exact ⟨e', ensure_error.mpr ⟨hc, rfl⟩, h⟩

/-- Computations that begin alike and go on alike. -/
theorem bind {x : Except ε α} {y : Except ε α} {f : α → Except ε γ} {g : α → Except ε δ}
    (hsame : ∀ a, x = .ok a → y = .ok a) (h : RefusesAlike R x y)
    (hrest : ∀ a, x = .ok a → RefusesAlike R (f a) (g a)) :
    RefusesAlike R (x >>= f) (y >>= g) := by
  intro e he
  rcases bind_error.mp he with hx | ⟨a, ha, hf⟩
  · obtain ⟨e', hy, hR⟩ := h e hx
    exact ⟨e', bind_error.mpr (.inl hy), hR⟩
  · obtain ⟨e', hg, hR⟩ := hrest a ha e hf
    exact ⟨e', bind_error.mpr (.inr ⟨a, hsame a ha, hg⟩), hR⟩

/-- The same computation first. -/
theorem bind_same (hrefl : ∀ e, R e e) {x : Except ε α} {f : α → Except ε γ} {g : α → Except ε δ}
    (hrest : ∀ a, x = .ok a → RefusesAlike R (f a) (g a)) :
    RefusesAlike R (x >>= f) (x >>= g) := .bind (fun _ h => h) (.refl hrefl x) hrest

end RefusesAlike

/-- The new state of a handler whose failure is rolled back. -/
def commitOr (s : α) (x : Except ε (α × β)) : α :=
  match x with
  | .ok (s', _) => s'
  | .error _ => s

theorem commitOr_cases (s : α) (x : Except ε (α × β)) :
    commitOr s x = s ∨ ∃ b, x = .ok (commitOr s x, b) := by
  cases x with
  | error e => exact .inl rfl
  | ok p => exact .inr ⟨p.2, rfl⟩

/-- What holds before a computation, and after it if it succeeds, holds of what it commits. -/
theorem commitOr_keeps {P : α → Prop} {s : α} {x : Except ε (α × β)} (hs : P s)
    (hok : ∀ s' b, x = .ok (s', b) → P s') : P (commitOr s x) := by
  rcases commitOr_cases s x with heq | ⟨b, hx⟩
  · rw [heq]
    exact hs
  · exact hok _ b hx

/-- Computations that succeed with the same states commit the same. -/
theorem commitOr_congr {γ : Type v} {x : Except ε (α × β)} {y : Except ε (α × γ)}
    (h : ∀ s', (∃ b, x = .ok (s', b)) ↔ ∃ c, y = .ok (s', c)) (s : α) :
    commitOr s x = commitOr s y := by
  rcases commitOr_cases s x with hx | ⟨b, hx⟩
  · rcases commitOr_cases s y with hy | ⟨c, hy⟩
    · rw [hx, hy]
    · obtain ⟨b, hx'⟩ := (h _).mpr ⟨c, hy⟩
      rw [hx', commitOr]
  · obtain ⟨c, hy⟩ := (h _).mp ⟨b, hx⟩
    rw [hy, commitOr]

end Framework
