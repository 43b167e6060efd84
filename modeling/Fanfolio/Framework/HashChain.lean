import Mathlib.Data.List.Sort
import Mathlib.Data.List.Pairwise
import Mathlib.Order.Basic

/-!
# Hash chains replayed in key order

A writer links each new record to the record with the greatest key so far. A verifier sorts
the records by key and checks that each link names the record before it. The two agree on a
list of records exactly when the records were appended in strictly increasing key order.
-/

namespace Framework.HashChain

variable {α κ H : Type*} [LinearOrder κ] (key : α → κ) (hash : α → H) (link : α → Option H)

/-- Each record links to the one before it, the first to `before`. -/
def Linked : Option H → List α → Prop
  | _, [] => True
  | before, a :: l => link a = before ∧ Linked (some (hash a)) l

/-- The record with the greatest key. -/
def latest (l : List α) : Option α := (l.insertionSort (fun a b => key b ≤ key a)).head?

/-- The records in key order. -/
def replay (l : List α) : List α := l.insertionSort (fun a b => key a ≤ key b)

/-- Every record was linked to the latest one at the time it was appended. -/
inductive Written : List α → Prop
  | nil : Written []
  | append {l : List α} {a : α} : Written l → link a = (latest key l).map hash → Written (l ++ [a])

private theorem pairwise_keyDesc (l : List α) :
    (l.insertionSort (fun a b => key b ≤ key a)).Pairwise (fun a b => key b ≤ key a) := by
  have : Std.Total (fun a b : α => key b ≤ key a) := ⟨fun a b => le_total (key b) (key a)⟩
  have : IsTrans α (fun a b : α => key b ≤ key a) := ⟨fun _ _ _ hab hbc => le_trans hbc hab⟩
  exact List.pairwise_insertionSort _ l

theorem replay_perm (l : List α) : (replay key l).Perm l := List.perm_insertionSort _ l

theorem replay_pairwise (l : List α) :
    (replay key l).Pairwise (fun a b => key a ≤ key b) := by
  have : Std.Total (fun a b : α => key a ≤ key b) := ⟨fun a b => le_total (key a) (key b)⟩
  have : IsTrans α (fun a b : α => key a ≤ key b) := ⟨fun _ _ _ hab hbc => le_trans hab hbc⟩
  exact List.pairwise_insertionSort _ l

variable {key hash link}

theorem latest_mem {l : List α} {m : α} (h : latest key l = some m) : m ∈ l :=
  (List.perm_insertionSort _ l).mem_iff.mp (List.mem_of_head? h)

theorem le_latest {l : List α} {m a : α} (h : latest key l = some m) (ha : a ∈ l) :
    key a ≤ key m := by
  obtain ⟨rest, hrest⟩ := List.head?_eq_some_iff.mp h
  have hp := pairwise_keyDesc key l
  rw [hrest] at hp
  have ha' : a ∈ m :: rest := by
    rw [← hrest]
    exact (List.perm_insertionSort _ l).mem_iff.mpr ha
  rcases List.mem_cons.mp ha' with rfl | ha'
  · exact le_refl _
  · exact (List.pairwise_cons.mp hp).1 a ha'

theorem latest_append_self {l : List α} {a : α} (h : ∀ b ∈ l, key b < key a) :
    latest key (l ++ [a]) = some a := by
  obtain ⟨m, hm⟩ : ∃ m, latest key (l ++ [a]) = some m := by
    cases hc : latest key (l ++ [a]) with
    | none =>
      have hlen := congrArg List.length (List.head?_eq_none_iff.mp hc)
      simp [List.length_insertionSort] at hlen
    | some m => exact ⟨m, rfl⟩
  rcases List.mem_append.mp (latest_mem hm) with hml | hma
  · exact absurd (le_latest hm (List.mem_append_right l (List.mem_singleton_self a)))
      (not_le.mpr (h m hml))
  · rw [hm, List.mem_singleton.mp hma]

theorem linked_append {before : Option H} {xs ys : List α} :
    Linked hash link before (xs ++ ys) ↔
      Linked hash link before xs ∧ Linked hash link ((xs.getLast?.map hash).or before) ys := by
  induction xs generalizing before with
  | nil => simp [Linked]
  | cons x xs ih =>
    simp only [List.cons_append, Linked, ih, and_assoc]
    cases xs <;> simp [List.getLast?_cons]

theorem replay_of_pairwise {l : List α} (h : l.Pairwise (fun a b => key a < key b)) :
    replay key l = l :=
  List.Pairwise.insertionSort_eq (h.imp le_of_lt)

theorem replay_append_last {l : List α} {a : α} (hl : l.Pairwise (fun b c => key b ≠ key c))
    (h : ∀ b ∈ l, key b < key a) : replay key (l ++ [a]) = replay key l ++ [a] := by
  have hperm : (replay key (l ++ [a])).Perm (replay key l ++ [a]) :=
    (replay_perm key _).trans ((replay_perm key l).symm.append_right [a])
  have hsorted : (replay key l ++ [a]).Pairwise (fun b c => key b ≤ key c) := by
    rw [List.pairwise_append]
    refine ⟨replay_pairwise key l, List.pairwise_singleton _ a, ?_⟩
    intro b hb c hc
    rw [List.mem_singleton.mp hc]
    exact le_of_lt (h b ((replay_perm key l).mem_iff.mp hb))
  have hne : (l ++ [a]).Pairwise (fun b c => key b ≠ key c) := by
    rw [List.pairwise_append]
    exact ⟨hl, List.pairwise_singleton _ a,
      fun b hb c hc => by rw [List.mem_singleton.mp hc]; exact ne_of_lt (h b hb)⟩
  refine List.Perm.eq_of_pairwise ?_ (replay_pairwise key _) hsorted hperm
  intro b c hb hc hbc hcb
  have hb' := (replay_perm key _).mem_iff.mp hb
  have hc' : c ∈ l ++ [a] := (replay_perm key _).mem_iff.mp (hperm.mem_iff.mpr hc)
  by_contra hcon
  have : Std.Symm (fun b c : α => key b ≠ key c) := ⟨fun _ _ hxy => hxy.symm⟩
  exact hne.forall hb' hc' hcon (le_antisymm hbc hcb)

/-- Appended in increasing key order, a chain replays as it was written. -/
theorem Written.linked {l : List α} (hw : Written key hash link l)
    (hl : l.Pairwise (fun a b => key a < key b)) : Linked hash link none (replay key l) := by
  rw [replay_of_pairwise hl]
  induction hw with
  | nil => trivial
  | @append l a hw hlink ih =>
    obtain ⟨hpre, -, hlast⟩ := List.pairwise_append.mp hl
    refine linked_append.mpr ⟨ih hpre, ?_, trivial⟩
    rw [hlink, Option.or_none]
    cases hw with
    | nil => rfl
    | @append l' b _ _ =>
      have hb := List.pairwise_append.mp hpre
      have hmax : ∀ c ∈ l', key c < key b := fun c hc => hb.2.2 c hc b (List.mem_singleton_self b)
      simp [latest_append_self hmax]

/-- A chain that replays without a broken link was appended in increasing key order. -/
theorem Written.pairwise {l : List α} (hw : Written key hash link l)
    (hne : l.Pairwise (fun a b => key a ≠ key b))
    (hinj : ∀ a ∈ l, ∀ b ∈ l, hash a = hash b → a = b)
    (hlinked : Linked hash link none (replay key l)) :
    l.Pairwise (fun a b => key a < key b) := by
  induction hw with
  | nil => exact List.Pairwise.nil
  | @append l a hw hlink ih =>
    obtain ⟨hnel, -, hnea⟩ := List.pairwise_append.mp hne
    have hmax : ∀ b ∈ l, key b < key a := by
      intro b hb
      by_contra hcon
      -- the writer linked `a` to the greatest record `m`, which the replay puts after `a`
      obtain ⟨m, hm⟩ : ∃ m, latest key l = some m := by
        cases hc : latest key l with
        | none =>
          have hlen := congrArg List.length (List.head?_eq_none_iff.mp hc)
          rw [List.length_insertionSort, List.length_nil] at hlen
          rw [List.length_eq_zero_iff.mp hlen] at hb
          cases hb
        | some m => exact ⟨m, rfl⟩
      have ham : key a < key m := by
        have hle := le_trans (not_lt.mp hcon) (le_latest hm hb)
        exact lt_of_le_of_ne hle (Ne.symm (hnea m (latest_mem hm) a (List.mem_singleton_self a)))
      have hamem : a ∈ replay key (l ++ [a]) :=
        (replay_perm key _).mem_iff.mpr (List.mem_append_right l (List.mem_singleton_self a))
      obtain ⟨xs, ys, hsplit⟩ := List.append_of_mem hamem
      rw [hsplit] at hlinked
      have hprev := (linked_append.mp hlinked).2.1
      rw [hlink, hm, Option.or_none, Option.map_some] at hprev
      cases hlast : xs.getLast? with
      | none => simp [hlast] at hprev
      | some b' =>
        rw [hlast, Option.map_some, Option.some.injEq] at hprev
        have hb' : b' ∈ xs := List.mem_of_getLast? hlast
        have hb'l : b' ∈ l ++ [a] := by
          apply (replay_perm key _).mem_iff.mp
          rw [hsplit]
          exact List.mem_append_left _ hb'
        have heq : m = b' :=
          hinj m (List.mem_append_left _ (latest_mem hm)) b' hb'l hprev
        have hsorted := replay_pairwise key (l ++ [a])
        rw [hsplit] at hsorted
        have hle := (List.pairwise_append.mp hsorted).2.2 b' hb' a (List.mem_cons_self)
        rw [← heq] at hle
        exact absurd ham (not_lt.mpr hle)
    rw [replay_append_last hnel hmax] at hlinked
    have hl := ih hnel (fun b hb c hc => hinj b (List.mem_append_left _ hb) c
      (List.mem_append_left _ hc)) (linked_append.mp hlinked).1
    rw [List.pairwise_append]
    refine ⟨hl, List.pairwise_singleton _ a, ?_⟩
    intro b hb c hc
    rw [List.mem_singleton.mp hc]
    exact hmax b hb

/-- The verifier accepts what the writer wrote exactly when the keys increase strictly. -/
theorem Written.linked_iff {l : List α} (hw : Written key hash link l)
    (hne : l.Pairwise (fun a b => key a ≠ key b))
    (hinj : ∀ a ∈ l, ∀ b ∈ l, hash a = hash b → a = b) :
    Linked hash link none (replay key l) ↔ l.Pairwise (fun a b => key a < key b) :=
  ⟨hw.pairwise hne hinj, hw.linked⟩

end Framework.HashChain
