import Mathlib.Data.List.Basic

/-!
# Runs of a total step function

A system is a total function from a state and an action to the next state: a refused or
blocked action leaves the state as it is. Properties of runs are proved from one step here,
once for every system that instantiates this file.
-/

namespace Framework

variable {S A : Type*}

/-- The state after a list of actions. -/
def run (step : S → A → S) (s : S) (acts : List A) : S := acts.foldl step s

@[simp] theorem run_nil (step : S → A → S) (s : S) : run step s [] = s := rfl

@[simp] theorem run_cons (step : S → A → S) (s : S) (a : A) (acts : List A) :
    run step s (a :: acts) = run step (step s a) acts := rfl

@[simp] theorem run_append (step : S → A → S) (s : S) (pre post : List A) :
    run step s (pre ++ post) = run step (run step s pre) post := by
  simp [run, List.foldl_append]

/-- `P` holds of every action of the run, together with the state the action finds. -/
def Always (step : S → A → S) (P : S → A → Prop) : S → List A → Prop
  | _, [] => True
  | s, a :: acts => P s a ∧ Always step P (step s a) acts

/-- `Q` holds in every state of the run, the first and the last included. -/
def Throughout (step : S → A → S) (Q : S → Prop) : S → List A → Prop
  | s, [] => Q s
  | s, a :: acts => Q s ∧ Throughout step Q (step s a) acts

instance Always.decidable (step : S → A → S) (P : S → A → Prop) [∀ s a, Decidable (P s a)] :
    ∀ (s : S) (acts : List A), Decidable (Always step P s acts)
  | _, [] => isTrue trivial
  | s, a :: acts =>
    have := Always.decidable step P (step s a) acts
    inferInstanceAs (Decidable (P s a ∧ Always step P (step s a) acts))

variable {step : S → A → S} {P G : S → A → Prop} {I Q : S → Prop} {s : S} {acts : List A}

theorem always_iff_split : Always step P s acts ↔
    ∀ pre a post, acts = pre ++ a :: post → P (run step s pre) a := by
  induction acts generalizing s with
  | nil => simp [Always]
  | cons b acts ih =>
    rw [Always, ih]
    constructor
    · rintro ⟨hb, h⟩ pre a post he
      cases pre with
      | nil =>
        obtain ⟨rfl, rfl⟩ := List.cons.inj he
        exact hb
      | cons c pre =>
        obtain ⟨rfl, hrest⟩ := List.cons.inj he
        exact h pre a post hrest
    · intro h
      refine ⟨h [] b acts rfl, ?_⟩
      intro pre a post he
      exact h (b :: pre) a post (by rw [he]; rfl)

theorem throughout_iff_reached : Throughout step Q s acts ↔
    ∀ pre, pre <+: acts → Q (run step s pre) := by
  induction acts generalizing s with
  | nil => simp [Throughout]
  | cons b acts ih =>
    rw [Throughout, ih]
    constructor
    · rintro ⟨hs, h⟩ pre hpre
      cases pre with
      | nil => exact hs
      | cons c pre =>
        obtain ⟨rfl, hrest⟩ := List.cons_prefix_cons.mp hpre
        exact h pre hrest
    · intro h
      refine ⟨h [] List.nil_prefix, ?_⟩
      intro pre hpre
      exact h (b :: pre) (List.cons_prefix_cons.mpr ⟨rfl, hpre⟩)

theorem always_append {pre post : List A} : Always step P s (pre ++ post) ↔
    Always step P s pre ∧ Always step P (run step s pre) post := by
  induction pre generalizing s with
  | nil => simp [Always]
  | cons a pre ih => simp only [List.cons_append, Always, ih, run_cons, and_assoc]

theorem Always.imp (h : Always step P s acts) (hPG : ∀ s a, P s a → G s a) :
    Always step G s acts := by
  rw [always_iff_split] at h ⊢
  intro pre a post he
  exact hPG _ _ (h pre a post he)

/-- A property kept by every guarded action holds in every state of a guarded run. -/
theorem Always.throughout (hG : Always step G s acts) (h0 : I s)
    (hstep : ∀ s a, I s → G s a → I (step s a)) : Throughout step I s acts := by
  induction acts generalizing s with
  | nil => exact h0
  | cons a acts ih => exact ⟨h0, ih hG.2 (hstep s a h0 hG.1)⟩

/-- What an invariant gives for a guarded action holds of every action of a guarded run. -/
theorem Always.of_invariant (hG : Always step G s acts) (h0 : I s)
    (hstep : ∀ s a, I s → G s a → I (step s a)) (hP : ∀ s a, I s → G s a → P s a) :
    Always step P s acts := by
  induction acts generalizing s with
  | nil => trivial
  | cons a acts ih => exact ⟨hP s a h0 hG.1, ih hG.2 (hstep s a h0 hG.1)⟩

/-- A property kept by every action holds in every state of every run. -/
theorem throughout_of_step (h0 : I s) (hstep : ∀ s a, I s → I (step s a)) :
    Throughout step I s acts := by
  induction acts generalizing s with
  | nil => exact h0
  | cons a acts ih => exact ⟨h0, ih (hstep s a h0)⟩

theorem Throughout.last (h : Throughout step Q s acts) : Q (run step s acts) :=
  throughout_iff_reached.mp h acts (List.prefix_refl acts)

theorem run_of_step (h0 : I s) (hstep : ∀ s a, I s → I (step s a)) : I (run step s acts) :=
  (throughout_of_step h0 hstep).last

theorem Throughout.and (hI : Throughout step I s acts) (hQ : Throughout step Q s acts) :
    Throughout step (fun s => I s ∧ Q s) s acts := by
  rw [throughout_iff_reached] at *
  exact fun pre hpre => ⟨hI pre hpre, hQ pre hpre⟩

theorem Throughout.imp (h : Throughout step I s acts) (hIQ : ∀ s, I s → Q s) :
    Throughout step Q s acts := by
  rw [throughout_iff_reached] at *
  exact fun pre hpre => hIQ _ (h pre hpre)

/-- If an action behaves and leaves a good state exactly when it is guarded, a run stays good
throughout and all of its actions behave exactly when all of them are guarded. -/
theorem throughout_and_always_iff (h0 : I s) (hQ : Q s)
    (hI : ∀ s a, I s → Q s → G s a → I (step s a))
    (hstep : ∀ s a, I s → Q s → (P s a ∧ Q (step s a) ↔ G s a)) :
    Throughout step Q s acts ∧ Always step P s acts ↔ Always step G s acts := by
  induction acts generalizing s with
  | nil => exact ⟨fun _ => trivial, fun _ => ⟨hQ, trivial⟩⟩
  | cons a acts ih =>
    have hnext := hstep s a h0 hQ
    constructor
    · rintro ⟨⟨-, hgood⟩, hP, hbehaves⟩
      have hQ' : Q (step s a) := throughout_iff_reached.mp hgood [] List.nil_prefix
      have hG := hnext.mp ⟨hP, hQ'⟩
      exact ⟨hG, (ih (hI s a h0 hQ hG) hQ').mp ⟨hgood, hbehaves⟩⟩
    · rintro ⟨hG, hrest⟩
      obtain ⟨hP, hQ'⟩ := hnext.mpr hG
      obtain ⟨hgood, hbehaves⟩ := (ih (hI s a h0 hQ hG) hQ').mpr hrest
      exact ⟨⟨hQ, hgood⟩, hP, hbehaves⟩

/-- If a good state stays good exactly under guarded actions, a run stays good throughout
exactly when all of its actions are guarded. -/
theorem throughout_iff_always (h0 : I s) (hQ : Q s) (hI : ∀ s a, I s → Q s → G s a → I (step s a))
    (hstep : ∀ s a, I s → Q s → (Q (step s a) ↔ G s a)) :
    Throughout step Q s acts ↔ Always step G s acts := by
  have hfree : Always step (fun _ _ => True) s acts :=
    always_iff_split.mpr fun _ _ _ _ => trivial
  refine Iff.trans ?_ (throughout_and_always_iff (P := fun _ _ => True) h0 hQ hI ?_)
  · exact ⟨fun h => ⟨h, hfree⟩, fun h => h.1⟩
  · intro s a h hQ
    rw [true_and]
    exact hstep s a h hQ

/-- In states that satisfy the invariant `P` and `G` agree, and guarded actions keep the
invariant: then a run meets `P` at every action exactly when it meets `G` at every action. -/
theorem always_congr_of_invariant (h0 : I s) (hPG : ∀ s a, I s → (P s a ↔ G s a))
    (hstep : ∀ s a, I s → G s a → I (step s a)) :
    Always step P s acts ↔ Always step G s acts := by
  induction acts generalizing s with
  | nil => exact Iff.rfl
  | cons a acts ih =>
    constructor
    · rintro ⟨hP, hrest⟩
      have hG := (hPG s a h0).mp hP
      exact ⟨hG, (ih (hstep s a h0 hG)).mp hrest⟩
    · rintro ⟨hG, hrest⟩
      exact ⟨(hPG s a h0).mpr hG, (ih (hstep s a h0 hG)).mpr hrest⟩

end Framework
