import Mathlib.Algebra.Order.Group.Defs
import Mathlib.Data.List.Basic

/-!
# Fixed windows

A window opens with a time and admits times up to a limit until it is over; the next one opens
then or later. An interval that is shorter than a window meets two of them at most, and of the
first not the opening.
-/

namespace Framework

variable {T : Type*} [AddCommGroup T] [LinearOrder T]

/-- When a window opened, and the times that it admitted. -/
structure FixedWindow (T : Type*) where
  opening : T
  times : List T

namespace FixedWindow

/-- No more than the limit is admitted, and the limit only with the opening. -/
structure Within (limit : ℕ) (width : T) (w : FixedWindow T) : Prop where
  few : w.times.length ≤ limit
  full : 0 < limit → w.times.length = limit → w.opening ∈ w.times
  since : ∀ t ∈ w.times, w.opening ≤ t
  upTo : ∀ t ∈ w.times, t ≤ w.opening + width

/-- The next window opens when this one is over. -/
def Before (width : T) (w w' : FixedWindow T) : Prop := w.opening + width ≤ w'.opening

def admitted (windows : List (FixedWindow T)) : List T := windows.flatMap (·.times)

variable {limit : ℕ} {width : T} {w w' : FixedWindow T} {windows : List (FixedWindow T)}
  {inside : T → Bool}

omit [AddCommGroup T] [LinearOrder T] in
theorem admitted_append (windows more : List (FixedWindow T)) :
    admitted (windows ++ more) = admitted windows ++ admitted more := List.flatMap_append

omit [AddCommGroup T] [LinearOrder T] in
theorem admitted_singleton (w : FixedWindow T) : admitted [w] = w.times := List.flatMap_singleton ..

theorem Within.length_filter_le (h : Within limit width w) (inside : T → Bool) :
    (w.times.filter inside).length ≤ limit := (List.length_filter_le _ _).trans h.few

/-- A window whose opening lies outside gives fewer than the limit. -/
theorem Within.length_filter_lt (h : Within limit width w) (hlimit : 0 < limit)
    (hopening : inside w.opening = false) : (w.times.filter inside).length < limit := by
  by_cases hfull : w.times.length = limit
  · rw [← hfull, List.length_filter_lt_length_iff_exists]
    exact ⟨w.opening, h.full hlimit hfull, by simp [hopening]⟩
  · exact (List.length_filter_le _ _).trans_lt (lt_of_le_of_ne h.few hfull)

variable [IsOrderedAddMonoid T]

/-- Where a time of one window lies inside, none of the windows after the next one does. -/
theorem filter_later (hinside : ∀ s t, inside s = true → inside t = true → t - width < s) {t : T}
    (ht : inside t = true) (htime : t ≤ w.opening + width) (hbefore : Before width w w')
    (hlater : ∀ v ∈ windows, Within limit width v ∧ Before width w' v) :
    (admitted windows).filter inside = [] := by
  rw [List.filter_eq_nil_iff]
  intro u hu hin
  obtain ⟨v, hv, huv⟩ := List.mem_flatMap.mp hu
  obtain ⟨hwithin, hbefore'⟩ := hlater v hv
  have hu : w'.opening + width ≤ u := hbefore'.trans (hwithin.since u huv)
  have hshort : u < t + width := sub_lt_iff_lt_add.mp (hinside t u ht hin)
  have hend : t + width ≤ w'.opening + width := add_le_add_left (htime.trans hbefore) width
  exact absurd (hshort.trans_le (hend.trans hu)) (lt_irrefl u)

/-- Whatever picks only times that are less than the width apart picks at most twice the limit,
less one. -/
theorem length_filter_le (hwithin : ∀ w ∈ windows, Within limit width w)
    (hbefore : windows.Pairwise (Before width))
    (hinside : ∀ s t, inside s = true → inside t = true → t - width < s) :
    ((admitted windows).filter inside).length ≤ 2 * limit - 1 := by
  induction windows with
  | nil => exact Nat.zero_le _
  | cons w windows ih =>
    obtain ⟨hw, hrest⟩ := List.forall_mem_cons.mp hwithin
    rw [List.pairwise_cons] at hbefore
    have hsplit : (admitted (w :: windows)).filter inside =
        w.times.filter inside ++ (admitted windows).filter inside := List.filter_append ..
    rw [hsplit, List.length_append]
    rcases hfirst : w.times.filter inside with _ | ⟨t, more⟩
    · simpa using ih hrest hbefore.2
    have hmem : t ∈ w.times.filter inside := hfirst ▸ List.mem_cons_self
    obtain ⟨htimes, ht⟩ := List.mem_filter.mp hmem
    have hlimit : 0 < limit := (List.length_pos_of_mem htimes).trans_le hw.few
    rw [← hfirst]
    match windows, hrest, hbefore with
    | [], _, _ =>
      have hfew := hw.length_filter_le inside
      simp only [admitted, List.flatMap_nil, List.filter_nil, List.length_nil]
      omega
    | next :: later, hrest, hbefore =>
      obtain ⟨hnext, hlater⟩ := List.forall_mem_cons.mp hrest
      have hadjacent := hbefore.1 next List.mem_cons_self
      have hnone : (admitted later).filter inside = [] :=
        filter_later hinside ht (hw.upTo t htimes) hadjacent fun v hv =>
          ⟨hlater v hv, (List.pairwise_cons.mp hbefore.2).1 v hv⟩
      have hsecond : (admitted (next :: later)).filter inside = next.times.filter inside := by
        rw [admitted, List.flatMap_cons, List.filter_append, ← admitted, hnone, List.append_nil]
      rw [hsecond]
      have hfew := hw.length_filter_le inside
      have hfew' := hnext.length_filter_le inside
      rcases hmore : next.times.filter inside with _ | ⟨u, _⟩
      · simp only [List.length_nil]
        omega
      · rw [← hmore]
        obtain ⟨hu, hin⟩ := List.mem_filter.mp (hmore ▸ List.mem_cons_self :
          u ∈ next.times.filter inside)
        have hopening : inside w.opening = false := by
          rw [Bool.eq_false_iff]
          intro hopened
          have hshort := sub_lt_iff_lt_add.mp (hinside w.opening u hopened hin)
          exact absurd (hshort.trans_le (hadjacent.trans (hnext.since u hu))) (lt_irrefl u)
        have hless := hw.length_filter_lt hlimit hopening
        omega

end FixedWindow

end Framework
