import Fanfolio.Cards.Combination
import Mathlib.Algebra.Order.BigOperators.Group.List
import Mathlib.Order.Interval.Set.Basic
import Mathlib.Tactic.Linarith

/-!
# The draws that pick an entry

A cursor runs over the entries and stops where the sum of the probabilities reaches the draw. The
draws that pick an entry are those between the sum before it and the sum after it.
-/

namespace Fanfolio

variable {α β : Type} {target cursor : ℚ} {entries before after : List (α × ℚ)} {a : α} {p : ℚ}

/-- The sum of the probabilities. -/
def totalOdds (entries : List (α × ℚ)) : ℚ := (entries.map Prod.snd).sum

@[simp] theorem totalOdds_nil : totalOdds ([] : List (α × ℚ)) = 0 := rfl

@[simp] theorem totalOdds_cons (entry : α × ℚ) (entries : List (α × ℚ)) :
    totalOdds (entry :: entries) = entry.2 + totalOdds entries := by
  simp [totalOdds]

@[simp] theorem totalOdds_append (before after : List (α × ℚ)) :
    totalOdds (before ++ after) = totalOdds before + totalOdds after := by
  simp [totalOdds]

/-- All probabilities are positive. -/
def PositiveOdds (entries : List (α × ℚ)) : Prop := ∀ entry ∈ entries, 0 < entry.2

theorem PositiveOdds.tail {entry : α × ℚ} (h : PositiveOdds (entry :: entries)) :
    PositiveOdds entries :=
  fun other hother => h other (List.mem_cons_of_mem _ hother)

theorem PositiveOdds.totalOdds_nonneg (h : PositiveOdds entries) : 0 ≤ totalOdds entries := by
  refine List.sum_nonneg fun q hq => ?_
  obtain ⟨entry, hentry, rfl⟩ := List.mem_map.mp hq
  exact (h entry hentry).le

/-- No entry is picked exactly if the draw lies beyond the sum. -/
theorem pickByCursor_none_iff (hpos : PositiveOdds entries) :
    pickByCursor target cursor entries = none ↔
      entries = [] ∨ cursor + totalOdds entries < target := by
  induction entries generalizing cursor with
  | nil => simp [pickByCursor]
  | cons entry entries ih =>
    have hrest := hpos.tail.totalOdds_nonneg
    rw [pickByCursor]
    split
    · rename_i hreached
      simp only [reduceCtorEq, totalOdds_cons, false_or, false_iff, not_lt]
      linarith
    · rename_i hreached
      rw [ih hpos.tail, totalOdds_cons]
      simp only [reduceCtorEq, false_or, ← add_assoc]
      constructor
      · rintro (rfl | h)
        · simpa using hreached
        · exact h
      · exact .inr

/-- An entry is picked by the draws beyond the sum before it, up to the sum after it; the first
entry is picked by all draws below as well. -/
theorem pickByCursor_iff (hpos : PositiveOdds (before ++ (a, p) :: after))
    (hnd : ((before ++ (a, p) :: after).map Prod.fst).Nodup) :
    pickByCursor target cursor (before ++ (a, p) :: after) = some a ↔
      (before = [] ∨ cursor + totalOdds before < target) ∧
        target ≤ cursor + totalOdds before + p := by
  induction before generalizing cursor with
  | nil =>
    have hafter : pickByCursor target (cursor + p) after ≠ some a := fun hpick =>
      (List.nodup_cons.mp hnd).1 (pickByCursor_mem hpick)
    rw [List.nil_append, pickByCursor]
    by_cases hreached : target ≤ cursor + p <;> simp [hreached, hafter]
  | cons entry before ih =>
    obtain ⟨b, q⟩ := entry
    have hb : b ≠ a := fun heq => (List.nodup_cons.mp hnd).1 (by simp [heq])
    have hq : 0 ≤ totalOdds before :=
      PositiveOdds.totalOdds_nonneg fun entry hentry => hpos entry (by simp [hentry])
    rw [List.cons_append, pickByCursor]
    split
    · rename_i hreached
      simp only [Option.some.injEq, hb, reduceCtorEq, totalOdds_cons, false_or, false_iff,
        not_and, not_le]
      intro hbeyond
      linarith
    · rename_i hreached
      rw [ih hpos.tail (List.nodup_cons.mp hnd).2, totalOdds_cons]
      simp only [reduceCtorEq, false_or, ← add_assoc]
      refine and_congr_left fun _ => ?_
      constructor
      · rintro (rfl | h)
        · simpa using hreached
        · exact h
      · exact .inr

/-- The last entry is picked by all draws beyond the sum as well. -/
theorem pickOrLast_iff (hpos : PositiveOdds (before ++ (a, p) :: after))
    (hnd : ((before ++ (a, p) :: after).map Prod.fst).Nodup) :
    pickOrLast target (before ++ (a, p) :: after) = some a ↔
      (before = [] ∨ totalOdds before < target) ∧
        (after = [] ∨ target ≤ totalOdds before + p) := by
  rw [pickOrLast, Option.or_eq_some_iff, pickByCursor_iff hpos hnd, pickByCursor_none_iff hpos]
  simp only [zero_add, totalOdds_append, totalOdds_cons, List.append_eq_nil_iff, reduceCtorEq,
    and_false, false_or]
  cases after with
  | nil =>
    have hp : 0 < p := hpos (a, p) (by simp)
    simp only [List.getLast?_concat, Option.map_some, and_true, totalOdds_nil, add_zero, true_or]
    constructor
    · rintro (⟨hbefore, -⟩ | hbeyond)
      · exact hbefore
      · exact .inr (by linarith)
    · intro hbefore
      by_cases hle : target ≤ totalOdds before + p
      · exact .inl ⟨hbefore, hle⟩
      · exact .inr (not_le.mp hle)
  | cons next rest =>
    have hlast : ((before ++ (a, p) :: next :: rest).getLast?.map Prod.fst) ≠ some a := by
      intro hlast
      obtain ⟨entry, hentry, hkey⟩ := Option.map_eq_some_iff.mp hlast
      rw [List.getLast?_append, List.getLast?_cons_cons] at hentry
      have hmem : a ∈ (next :: rest).map Prod.fst := by
        cases hrest : (next :: rest).getLast? with
        | none => simp at hrest
        | some last =>
          rw [hrest, Option.some_or, Option.some.injEq] at hentry
          exact List.mem_map.mpr ⟨last, List.mem_of_getLast? hrest, hentry ▸ hkey⟩
      rw [List.map_append, List.map_cons] at hnd
      exact (List.nodup_cons.mp (List.nodup_append.mp hnd).2.1).1 hmem
    simp only [reduceCtorEq, false_or]
    constructor
    · rintro (h | ⟨-, h⟩)
      · exact h
      · exact absurd h hlast
    · exact .inl

/-- Of some entries one is picked by every draw. -/
theorem pickOrLast_isSome (h : entries ≠ []) : (pickOrLast target entries).isSome := by
  rw [pickOrLast, Option.isSome_or, Bool.or_eq_true]
  exact .inr (by simpa using h)

/-- Renaming the entries renames what is picked. -/
theorem pickOrLast_map (f : α → β) (target : ℚ) (entries : List (α × ℚ)) :
    pickOrLast target (entries.map fun entry => (f entry.1, entry.2)) =
      (pickOrLast target entries).map f := by
  have hcursor (cursor : ℚ) :
      pickByCursor target cursor (entries.map fun entry => (f entry.1, entry.2)) =
        (pickByCursor target cursor entries).map f := by
    induction entries generalizing cursor with
    | nil => rfl
    | cons entry entries ih =>
      rw [List.map_cons, pickByCursor, pickByCursor, ih]
      split <;> rfl
  rw [pickOrLast, pickOrLast, hcursor, List.getLast?_map, Option.map_or, Option.map_map,
    Option.map_map]
  rfl

/-- The draws are an interval, but for its end points: their measure is `hi - lo`. -/
structure Spans (draws : Set ℚ) (lo hi : ℚ) : Prop where
  le : lo ≤ hi
  inside : Set.Ioo lo hi ⊆ draws
  within : draws ⊆ Set.Icc lo hi

/-- The draws from zero up to a bound that pick an entry. -/
theorem pickOrLast_spans {top : ℚ}
    (hpos : PositiveOdds (before ++ (a, p) :: after))
    (hnd : ((before ++ (a, p) :: after).map Prod.fst).Nodup) :
    Spans {draw | 0 ≤ draw ∧ draw ≤ top ∧
        pickOrLast draw (before ++ (a, p) :: after) = some a}
      (min top (totalOdds before))
      (if after = [] then top else min top (totalOdds before + p)) := by
  have hp : 0 < p := hpos (a, p) (by simp)
  have hbefore : 0 ≤ totalOdds before :=
    PositiveOdds.totalOdds_nonneg fun entry hentry => hpos entry (by simp [hentry])
  refine ⟨?_, ?_, ?_⟩
  · split
    · exact min_le_left top _
    · exact min_le_min_left top (by linarith)
  · rintro draw ⟨hlo, hhi⟩
    have hbelow : draw < top ∧ (after = [] ∨ draw ≤ totalOdds before + p) := by
      split at hhi
      · rename_i hafter
        exact ⟨hhi, .inl hafter⟩
      · exact ⟨(lt_min_iff.mp hhi).1, .inr (lt_min_iff.mp hhi).2.le⟩
    have habove : totalOdds before < draw :=
      (min_lt_iff.mp hlo).resolve_left (not_lt.mpr hbelow.1.le)
    exact ⟨hbefore.trans habove.le, hbelow.1.le,
      (pickOrLast_iff hpos hnd).mpr ⟨.inr habove, hbelow.2⟩⟩
  · rintro draw ⟨hnonneg, hle, hpick⟩
    obtain ⟨hlo, hhi⟩ := (pickOrLast_iff hpos hnd).mp hpick
    refine ⟨?_, ?_⟩
    · refine (min_le_right top _).trans ?_
      rcases hlo with rfl | hlo
      · exact hnonneg
      · exact hlo.le
    · split
      · exact hle
      · rename_i hafter
        exact le_min hle (hhi.resolve_left hafter)

end Fanfolio
