import Mathlib.Algebra.Order.Group.Defs
import Mathlib.Data.List.Induction

/-!
# Sliding windows

Times are admitted one after the other. A time that finds fewer than a limit of the earlier ones
in the window before it leaves no window of that width with more than the limit.
-/

namespace Framework

variable {T : Type*} [AddCommGroup T] [LinearOrder T]

/-- The times that lie in the window that ends now. -/
def recent (width now : T) (times : List T) : List T := times.filter fun t => now - width < t

/-- Each time finds fewer than the limit of the earlier ones in the window before it. -/
def Spaced (limit : ℕ) (width : T) (times : List T) : Prop :=
  ∀ earlier now later, times = earlier ++ now :: later →
    (recent width now earlier).length < limit

variable {limit : ℕ} {width now later a : T} {times earlier : List T}

@[simp] theorem recent_nil : recent width now [] = [] := rfl

theorem mem_recent {t : T} : t ∈ recent width now times ↔ t ∈ times ∧ now - width < t := by
  simp [recent]

theorem recent_append (more : List T) :
    recent width now (times ++ more) = recent width now times ++ recent width now more :=
  List.filter_append ..

theorem recent_sublist : (recent width now times).Sublist times := List.filter_sublist

theorem spaced_nil : Spaced limit width [] := by
  intro earlier now later h
  simp at h

theorem Spaced.append (h : Spaced limit width times)
    (hnow : (recent width now times).length < limit) : Spaced limit width (times ++ [now]) := by
  intro earlier t rest he
  rcases List.eq_nil_or_concat rest with rfl | ⟨rest, last, rfl⟩
  · obtain ⟨rfl, ht⟩ := List.append_inj' he rfl
    obtain rfl : now = t := by simpa using ht
    exact hnow
  · have hsplit : times ++ [now] = (earlier ++ t :: rest) ++ [last] := by simpa using he
    exact h earlier t rest (List.append_inj' hsplit rfl).1

theorem Spaced.of_append (h : Spaced limit width (times ++ [now])) : Spaced limit width times := by
  intro earlier t rest he
  exact h earlier t (rest ++ [now]) (by simp [he])

/-- Whatever picks only times of a window that is as wide picks at most the limit. -/
theorem Spaced.length_filter_le (h : Spaced limit width times) (inside : T → Bool)
    (hinside : ∀ s t, inside s = true → inside t = true → t - width < s) :
    (times.filter inside).length ≤ limit := by
  induction times using List.reverseRecOn with
  | nil => exact Nat.zero_le limit
  | append_singleton times now ih =>
    rw [List.filter_append, List.length_append]
    by_cases hnow : inside now = true
    · have hfewer : (recent width now times).length < limit := h times now [] rfl
      have hsub : (times.filter inside).length ≤ (recent width now times).length := by
        rw [recent, ← List.countP_eq_length_filter, ← List.countP_eq_length_filter]
        refine List.countP_mono_left fun s _ hs => ?_
        exact decide_eq_true (hinside s now hs hnow)
      simp only [List.filter_cons_of_pos hnow, List.filter_nil, List.length_singleton]
      omega
    · simpa [hnow] using ih h.of_append

section

variable [IsOrderedAddMonoid T]

theorem recent_recent (h : now ≤ later) :
    recent width later (recent width now times) = recent width later times := by
  rw [recent, recent, recent, List.filter_filter]
  refine List.filter_congr fun t _ => ?_
  have hcutoff : now - width ≤ later - width := sub_le_sub_right h width
  by_cases ht : later - width < t
  · simp [ht, hcutoff.trans_lt ht]
  · simp [ht]

/-- No window that is open below holds more than the limit. -/
theorem Spaced.above_le (h : Spaced limit width times) (a : T) :
    (times.filter fun t => a < t ∧ t ≤ a + width).length ≤ limit := by
  refine h.length_filter_le _ fun s t hs ht => ?_
  simp only [decide_eq_true_eq] at hs ht
  exact (sub_le_iff_le_add.mpr ht.2).trans_lt hs.1

/-- No window that is open above holds more than the limit. -/
theorem Spaced.below_le (h : Spaced limit width times) (a : T) :
    (times.filter fun t => a ≤ t ∧ t < a + width).length ≤ limit := by
  refine h.length_filter_le _ fun s t hs ht => ?_
  simp only [decide_eq_true_eq] at hs ht
  exact (sub_lt_iff_lt_add.mpr ht.2).trans_le hs.1

end

/-- Of times in order, fewer are recent exactly when the oldest is not. -/
theorem length_recent_lt_iff {oldest : T} {newer : List T}
    (h : (oldest :: newer).Pairwise (· ≤ ·)) :
    (recent width now (oldest :: newer)).length < (oldest :: newer).length ↔
      oldest ≤ now - width := by
  constructor
  · intro hlt
    by_contra hold
    have hall : recent width now (oldest :: newer) = oldest :: newer := by
      refine List.filter_eq_self.mpr fun t ht => decide_eq_true ?_
      rcases List.mem_cons.mp ht with rfl | hnewer
      · exact not_le.mp hold
      · exact (not_le.mp hold).trans_le ((List.pairwise_cons.mp h).1 t hnewer)
    rw [hall] at hlt
    exact lt_irrefl _ hlt
  · intro hold
    rw [recent, List.filter_cons_of_neg (by simpa using hold)]
    exact Nat.lt_succ_of_le (List.length_filter_le _ newer)

end Framework
