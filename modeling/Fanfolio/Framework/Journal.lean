import Mathlib.Algebra.BigOperators.Group.List.Basic
import Mathlib.Algebra.Ring.Int.Defs
import Mathlib.Data.Int.Basic
import Mathlib.Data.List.Basic

/-!
# Account journals

An append-only journal of signed entries, each with the balance of its account just after
it. The total of an account is the sum of its entries.
-/

namespace Framework.Journal

variable {ε κ : Type*} [DecidableEq κ] (account : ε → κ) (amount after : ε → Int)

/-- The sum of the entries of one account. -/
def total (entries : List ε) (k : κ) : Int :=
  ((entries.filter (fun entry => account entry = k)).map amount).sum

/-- Every entry states the total of its account up to and including itself. -/
def Running (entries : List ε) : Prop :=
  ∀ pre entry post, entries = pre ++ entry :: post →
    after entry = total account amount (pre ++ [entry]) (account entry)

variable {account amount after}

@[simp] theorem total_nil (k : κ) : total account amount ([] : List ε) k = 0 := rfl

@[simp] theorem total_append (entries entries' : List ε) (k : κ) :
    total account amount (entries ++ entries') k =
      total account amount entries k + total account amount entries' k := by
  simp [total, List.filter_append]

@[simp] theorem total_singleton (entry : ε) (k : κ) :
    total account amount [entry] k = if account entry = k then amount entry else 0 := by
  by_cases h : account entry = k <;> simp [total, h]

theorem Running.nil : Running account amount after ([] : List ε) := by
  intro pre entry post h
  simp at h

theorem Running.append {entries : List ε} {entry : ε} (h : Running account amount after entries)
    (hafter : after entry = total account amount entries (account entry) + amount entry) :
    Running account amount after (entries ++ [entry]) := by
  intro pre e post hsplit
  rcases List.eq_nil_or_concat post with rfl | ⟨post', last, rfl⟩
  · obtain ⟨rfl, he⟩ := List.append_inj' hsplit rfl
    obtain ⟨rfl, -⟩ := List.cons.inj he
    simp [hafter]
  · have hsplit' : entries ++ [entry] = (pre ++ e :: post') ++ [last] := by simp [hsplit]
    obtain ⟨hpre, -⟩ := List.append_inj' hsplit' rfl
    exact h pre e post' hpre

end Framework.Journal
