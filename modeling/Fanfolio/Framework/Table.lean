import Mathlib.Data.List.Nodup

/-!
# Tables as lists of rows

An update rewrites the rows that match, a delete filters them, an insert appends. The lemmas
say what each of them does to lookups, to counts and to unique columns.
-/

namespace Framework

variable {α β γ : Type*}

/-- A `SELECT` without `ORDER BY` returns its rows in any order; `order` is the one it picks. -/
def scan [DecidableEq α] (order rows : List α) : List α :=
  if order.Perm rows then order else rows

theorem scan_perm [DecidableEq α] (order rows : List α) : (scan order rows).Perm rows := by
  unfold scan
  split
  · assumption
  · exact List.Perm.refl rows

/-- `UPDATE … WHERE p`: rewrite the rows that match. -/
def patch (p : α → Bool) (f : α → α) (rows : List α) : List α :=
  rows.map fun row => if p row then f row else row

@[simp] theorem patch_nil (p : α → Bool) (f : α → α) : patch p f [] = [] := rfl

theorem patch_append (p : α → Bool) (f : α → α) (rows rows' : List α) :
    patch p f (rows ++ rows') = patch p f rows ++ patch p f rows' := List.map_append

theorem patch_of_fixed {p : α → Bool} {f : α → α} {rows : List α}
    (h : ∀ row ∈ rows, p row → f row = row) : patch p f rows = rows := by
  rw [patch]
  nth_rewrite 2 [← List.map_id rows]
  apply List.map_congr_left
  intro row hrow
  by_cases hp : p row
  · simp [hp, h row hrow hp]
  · simp [hp]

theorem patch_of_forall_not {p : α → Bool} {f : α → α} {rows : List α}
    (h : ∀ row ∈ rows, p row = false) : patch p f rows = rows :=
  patch_of_fixed fun row hrow hp => absurd hp (by simp [h row hrow])

/-- Updates that agree on the rows that match write the same table. -/
theorem patch_congr {p : α → Bool} {f g : α → α} {rows : List α}
    (h : ∀ row ∈ rows, p row → f row = g row) : patch p f rows = patch p g rows := by
  apply List.map_congr_left
  intro row hrow
  by_cases hp : p row
  · rw [if_pos hp, if_pos hp, h row hrow hp]
  · rw [if_neg hp, if_neg hp]

theorem fixed_of_patch {p : α → Bool} {f : α → α} {rows : List α} (h : patch p f rows = rows)
    {row : α} (hmem : row ∈ rows) (hp : p row) : f row = row := by
  rw [patch] at h
  nth_rewrite 2 [← List.map_id rows] at h
  simpa [hp] using List.map_inj_left.mp h row hmem

/-- An update that only matches the row inserted last. -/
theorem patch_insert {p : α → Bool} {f : α → α} {rows : List α} {row : α}
    (hold : ∀ row' ∈ rows, p row' = false) (hnew : p row = true) :
    patch p f (rows ++ [row]) = rows ++ [f row] := by
  rw [patch_append, patch_of_forall_not hold]
  simp [patch, hnew]

/-- A row inserted last is the first match exactly if no older row matches. -/
theorem find_insert {p : α → Bool} {rows : List α} {row : α} :
    (rows ++ [row]).find? p = (rows.find? p).or (if p row then some row else none) := by
  rw [List.find?_append]
  cases h : p row <;> simp [h]

/-- A row that is found is still found after an insert. -/
theorem find_insert_of_some {p : α → Bool} {rows : List α} {row : α}
    (h : rows.find? p = some row) (row' : α) : (rows ++ [row']).find? p = some row := by
  rw [find_insert, h, Option.some_or]

/-- A lookup of a row of a kind is a lookup among the rows of that kind. -/
theorem find_and (p q : α → Bool) (rows : List α) :
    rows.find? (fun row => p row && q row) = (rows.filter p).find? q := by
  simp [List.find?_filter]

theorem mem_patch {p : α → Bool} {f : α → α} {rows : List α} {row : α} :
    row ∈ patch p f rows ↔ ∃ row' ∈ rows, row = if p row' then f row' else row' := by
  simp only [patch, List.mem_map, eq_comm]

theorem mem_patch_of_not {p : α → Bool} {f : α → α} {rows : List α} {row : α}
    (hmem : row ∈ rows) (hp : p row = false) : row ∈ patch p f rows :=
  mem_patch.mpr ⟨row, hmem, by simp [hp]⟩

/-- An update that keeps a column keeps the list of its values. -/
theorem map_patch {p : α → Bool} {f : α → α} {g : α → β} (h : ∀ row, g (f row) = g row)
    (rows : List α) : (patch p f rows).map g = rows.map g := by
  rw [patch, List.map_map]
  apply List.map_congr_left
  intro row _
  by_cases hp : p row <;> simp [hp, h]

/-- An update of the rows with a value of a column that keeps this value keeps the column. -/
theorem map_patch_key [BEq β] [LawfulBEq β] {g : α → β} {f : α → α} {k : β}
    (h : ∀ row, g row = k → g (f row) = k) (rows : List α) :
    (patch (fun row => g row == k) f rows).map g = rows.map g := by
  rw [patch, List.map_map]
  apply List.map_congr_left
  intro row _
  by_cases hk : g row = k
  · simp [hk, h row hk]
  · simp [hk]

/-- An update that keeps the searched column moves the row found. -/
theorem find_patch {p q : α → Bool} {f : α → α} (h : ∀ row, q (f row) = q row) (rows : List α) :
    (patch p f rows).find? q = (rows.find? q).map fun row => if p row then f row else row := by
  induction rows with
  | nil => rfl
  | cons row rows ih =>
    have hrow : q (if p row then f row else row) = q row := by
      by_cases hp : p row <;> simp [hp, h]
    simp only [patch, List.map_cons, List.find?_cons, hrow] at ih ⊢
    cases q row <;> simp [ih]

/-- An update of the rows with a value of a column moves the row found by that value. -/
theorem find_patch_key [BEq β] [LawfulBEq β] {g : α → β} {f : α → α}
    (h : ∀ row, g (f row) = g row) (rows : List α) (k : β) :
    (patch (fun row => g row == k) f rows).find? (fun row => g row == k) =
      (rows.find? fun row => g row == k).map f := by
  rw [find_patch fun row => by rw [h]]
  refine Option.map_congr ?_
  intro row hrow
  have hk : (g row == k) = true := List.find?_some (p := fun row => g row == k) hrow
  rw [if_pos hk]

/-- An update of the rows with a value of a column keeps the row found by another value. -/
theorem find_patch_other [BEq β] [LawfulBEq β] {g : α → β} {f : α → α}
    (h : ∀ row, g (f row) = g row) (rows : List α) {k k' : β} (hne : k' ≠ k) :
    (patch (fun row => g row == k) f rows).find? (fun row => g row == k') =
      rows.find? fun row => g row == k' := by
  rw [find_patch fun row => by rw [h]]
  cases hfound : rows.find? fun row => g row == k' with
  | none => rfl
  | some row =>
    have hk' : g row = k' :=
      beq_iff_eq.mp (List.find?_some (p := fun row => g row == k') hfound)
    simp [hk', hne]

/-- A row put in the place of the one with its key is found by it, where there was one. -/
theorem find_replace [BEq β] [LawfulBEq β] {g : α → β} (new : α) (rows : List α) :
    (patch (fun row => g row == g new) (fun _ => new) rows).find? (fun row => g row == g new) =
      (rows.find? fun row => g row == g new).map fun _ => new := by
  induction rows with
  | nil => rfl
  | cons row rows ih =>
    cases hrow : g row == g new with
    | true => simp [patch, hrow]
    | false =>
      simp only [patch, List.map_cons, hrow, Bool.false_eq_true, if_false, List.find?_cons] at ih ⊢
      exact ih

/-- A row put in the place of the one with its key keeps the rows found by other keys. -/
theorem find_replace_other [BEq β] [LawfulBEq β] {g : α → β} {new : α} (rows : List α) {k : β}
    (h : g new ≠ k) : (patch (fun row => g row == g new) (fun _ => new) rows).find?
      (fun row => g row == k) = rows.find? fun row => g row == k := by
  induction rows with
  | nil => rfl
  | cons row rows ih =>
    cases hrow : g row == g new with
    | true =>
      have hnew : (g new == k) = false := beq_eq_false_iff_ne.mpr h
      have hold : (g row == k) = false := by rwa [beq_iff_eq.mp hrow]
      simp only [patch, List.map_cons, hrow, if_true, List.find?_cons, hnew, hold] at ih ⊢
      exact ih
    | false =>
      simp only [patch, List.map_cons, hrow, Bool.false_eq_true, if_false, List.find?_cons] at ih ⊢
      rw [ih]

/-- An update that keeps a predicate commutes with the selection of the rows that satisfy it. -/
theorem filter_patch {p q : α → Bool} {f : α → α} (h : ∀ row, q (f row) = q row) (rows : List α) :
    (patch p f rows).filter q = patch p f (rows.filter q) := by
  induction rows with
  | nil => rfl
  | cons row rows ih =>
    have hrow : q (if p row then f row else row) = q row := by
      by_cases hp : p row <;> simp [hp, h]
    simp only [patch, List.map_cons, List.filter_cons, hrow] at ih ⊢
    cases q row <;> simp [ih]

/-- An update that keeps a predicate keeps the number of rows that satisfy it. -/
theorem countP_patch {p q : α → Bool} {f : α → α} (h : ∀ row, q (f row) = q row) (rows : List α) :
    (patch p f rows).countP q = rows.countP q := by
  induction rows with
  | nil => rfl
  | cons row rows ih =>
    have hrow : q (if p row then f row else row) = q row := by
      by_cases hp : p row <;> simp [hp, h]
    simp only [patch, List.map_cons, List.countP_cons, hrow] at ih ⊢
    rw [ih]

/-- Tables with the same rows of a kind have the same numbers of rows within that kind. -/
theorem countP_eq_of_filter {p q : α → Bool} {rows rows' : List α}
    (h : rows.filter p = rows'.filter p) (hq : ∀ row, q row → p row) :
    rows.countP q = rows'.countP q := by
  have hwithin (rows : List α) : rows.countP q = (rows.filter p).countP q := by
    rw [List.countP_filter]
    apply List.countP_congr
    intro row _
    simpa using hq row
  rw [hwithin rows, h, ← hwithin rows']

/-- An update that makes no row satisfy a predicate does not raise their number. -/
theorem countP_patch_le {p q : α → Bool} {f : α → α} (h : ∀ row, q (f row) → q row)
    (rows : List α) : (patch p f rows).countP q ≤ rows.countP q := by
  rw [patch, List.countP_map]
  apply List.countP_mono_left
  intro row _ hrow
  by_cases hp : p row
  · simp only [Function.comp_apply, hp, if_true] at hrow
    exact h row hrow
  · simpa [hp] using hrow

/-- Rows that are made of others keep their keys and their order. -/
theorem filterMap_keys_sublist {f : α → Option β} {g : β → γ} {k : α → γ}
    (h : ∀ row made, f row = some made → g made = k row) (rows : List α) :
    ((rows.filterMap f).map g).Sublist (rows.map k) := by
  induction rows with
  | nil => exact .slnil
  | cons row rows ih =>
    cases hf : f row with
    | none =>
      rw [List.filterMap_cons_none hf]
      exact ih.cons (k row)
    | some made =>
      rw [List.filterMap_cons_some hf, List.map_cons, h row made hf]
      exact ih.cons_cons (k row)

/-- With a unique column, a row is the one found by its value. -/
theorem find_of_mem [BEq β] [LawfulBEq β] {g : α → β} {rows : List α} {row : α}
    (hnd : (rows.map g).Nodup) (hmem : row ∈ rows) :
    rows.find? (fun row' => g row' == g row) = some row := by
  induction rows with
  | nil => cases hmem
  | cons head rows ih =>
    rw [List.map_cons, List.nodup_cons] at hnd
    rcases List.mem_cons.mp hmem with rfl | hmem
    · simp
    · have hne : g head ≠ g row := fun heq => hnd.1 (heq ▸ List.mem_map_of_mem hmem)
      rw [List.find?_cons, beq_eq_false_iff_ne.mpr hne]
      exact ih hnd.2 hmem

/-- With a unique column, a row is the only one with its value. -/
theorem filter_of_mem [BEq β] [LawfulBEq β] {g : α → β} {rows : List α} {row : α}
    (hnd : (rows.map g).Nodup) (hmem : row ∈ rows) :
    rows.filter (fun row' => g row' == g row) = [row] := by
  induction rows with
  | nil => cases hmem
  | cons head rows ih =>
    rw [List.map_cons, List.nodup_cons] at hnd
    rcases List.mem_cons.mp hmem with rfl | hmem
    · rw [List.filter_cons_of_pos (by simp), List.filter_eq_nil_iff.mpr]
      intro row' hrow'
      rw [beq_iff_eq]
      exact fun heq => hnd.1 (heq ▸ List.mem_map_of_mem hrow')
    · have hne : g head ≠ g row := fun heq => hnd.1 (heq ▸ List.mem_map_of_mem hmem)
      rw [List.filter_cons_of_neg (by simpa using hne)]
      exact ih hnd.2 hmem

theorem eq_of_unique {g : α → β} {rows : List α} {row row' : α} (hnd : (rows.map g).Nodup)
    (hmem : row ∈ rows) (hmem' : row' ∈ rows) (heq : g row = g row') : row = row' := by
  induction rows with
  | nil => cases hmem
  | cons head rows ih =>
    rw [List.map_cons, List.nodup_cons] at hnd
    rcases List.mem_cons.mp hmem with hhead | hrest
    · rcases List.mem_cons.mp hmem' with hhead' | hrest'
      · rw [hhead, hhead']
      · rw [hhead] at heq
        exact absurd (heq ▸ List.mem_map_of_mem hrest') hnd.1
    · rcases List.mem_cons.mp hmem' with hhead' | hrest'
      · rw [hhead'] at heq
        exact absurd (heq ▸ List.mem_map_of_mem hrest) hnd.1
      · exact ih hnd.2 hrest hrest'

/-- An insert keeps a column unique when no row has the new value. -/
theorem nodup_insert {g : α → β} {rows : List α} {row : α} (hnd : (rows.map g).Nodup)
    (hnew : ∀ row' ∈ rows, g row' ≠ g row) : ((rows ++ [row]).map g).Nodup := by
  rw [List.map_append, List.nodup_append]
  refine ⟨hnd, by simp, ?_⟩
  intro b hb b' hb'
  obtain ⟨row', hmem, rfl⟩ := List.mem_map.mp hb
  rw [List.map_singleton, List.mem_singleton] at hb'
  rw [hb']
  exact hnew row' hmem

theorem pairwise_insert {R : α → α → Prop} {rows : List α} {row : α} (h : rows.Pairwise R)
    (hnew : ∀ row' ∈ rows, R row' row) : (rows ++ [row]).Pairwise R := by
  refine List.pairwise_append.mpr ⟨h, List.pairwise_singleton R row, ?_⟩
  intro row' hrow' last hlast
  rw [List.mem_singleton.mp hlast]
  exact hnew row' hrow'

/-- An update of one row keeps a symmetric relation between rows if the new row has it with the
others. -/
theorem pairwise_patch_key [BEq β] [LawfulBEq β] {R : α → α → Prop} {g : α → β} {f : α → α}
    {rows : List α} {k : β} (hsymm : ∀ row row', R row row' → R row' row)
    (hnd : (rows.map g).Nodup) (h : rows.Pairwise R)
    (hnew : ∀ row ∈ rows, ∀ row' ∈ rows, g row = k → g row' ≠ k → R (f row) row') :
    (patch (fun row => g row == k) f rows).Pairwise R := by
  induction rows with
  | nil => exact .nil
  | cons head rows ih =>
    obtain ⟨hhead, hrest⟩ := List.pairwise_cons.mp h
    rw [List.map_cons, List.nodup_cons] at hnd
    have hrows := ih hnd.2 hrest fun row hrow row' hrow' =>
      hnew row (List.mem_cons_of_mem _ hrow) row' (List.mem_cons_of_mem _ hrow')
    have hother : ∀ row ∈ rows, g head = k → g row ≠ k := fun row hrow hk heq =>
      hnd.1 (hk ▸ heq ▸ List.mem_map_of_mem hrow)
    refine List.pairwise_cons.mpr ⟨?_, hrows⟩
    intro row' hrow'
    obtain ⟨row, hrow, rfl⟩ := mem_patch.mp hrow'
    by_cases hk : g head = k
    · have hne := hother row hrow hk
      simpa [hk, hne] using
        hnew head List.mem_cons_self row (List.mem_cons_of_mem _ hrow) hk hne
    · by_cases hrowk : g row = k
      · simpa [hk, hrowk] using
          hsymm _ _ (hnew row (List.mem_cons_of_mem _ hrow) head List.mem_cons_self hrowk hk)
      · simpa [hk, hrowk] using hhead row hrow

/-- An update of one row makes at most one more row satisfy a predicate. -/
theorem countP_patch_one [DecidableEq β] {g : α → β} {q : α → Bool} {f : α → α} {rows : List α}
    (hnd : (rows.map g).Nodup) (k : β) :
    (patch (fun row => g row == k) f rows).countP q ≤ rows.countP q + 1 := by
  induction rows with
  | nil => simp
  | cons head rows ih =>
    rw [List.map_cons, List.nodup_cons] at hnd
    by_cases hk : g head = k
    · have hrest : patch (fun row => g row == k) f rows = rows := by
        apply patch_of_forall_not
        intro row hrow
        exact beq_false_of_ne fun heq => hnd.1 (hk ▸ heq ▸ List.mem_map_of_mem hrow)
      rw [patch, List.map_cons, ← patch, hrest, List.countP_cons, List.countP_cons]
      split <;> split <;> omega
    · have hhead := ih hnd.2
      rw [patch, List.map_cons, ← patch, if_neg (by simpa using hk), List.countP_cons,
        List.countP_cons]
      omega

/-- A lookup by the value of a column finds a row exactly if the value is there. -/
theorem find_eq_none_iff [BEq β] [LawfulBEq β] {g : α → β} {rows : List α} {k : β} :
    rows.find? (fun row => g row == k) = none ↔ k ∉ rows.map g := by
  simp [List.find?_eq_none]

theorem mem_of_find_eq_some [BEq β] [LawfulBEq β] {g : α → β} {rows : List α} {k : β} {row : α}
    (h : rows.find? (fun row => g row == k) = some row) : row ∈ rows ∧ g row = k :=
  ⟨List.mem_of_find?_eq_some h, beq_iff_eq.mp (List.find?_some (p := fun row => g row == k) h)⟩

/-- The keyed values of a table after an insert that is skipped if the key is there. -/
def addEntry [DecidableEq β] (entries : List (β × γ)) (k : β) (v : γ) : List (β × γ) :=
  if k ∈ entries.map Prod.fst then entries else entries ++ [(k, v)]

theorem addEntry_of_mem [DecidableEq β] {entries : List (β × γ)} {k : β}
    (h : k ∈ entries.map Prod.fst) (v : γ) : addEntry entries k v = entries := if_pos h

theorem addEntry_of_notMem [DecidableEq β] {entries : List (β × γ)} {k : β}
    (h : k ∉ entries.map Prod.fst) (v : γ) : addEntry entries k v = entries ++ [(k, v)] := if_neg h

theorem nodup_addEntry [DecidableEq β] {entries : List (β × γ)} (h : (entries.map Prod.fst).Nodup)
    (k : β) (v : γ) : ((addEntry entries k v).map Prod.fst).Nodup := by
  unfold addEntry
  split
  · exact h
  · rename_i hnew
    exact nodup_insert h fun entry hentry heq => hnew (List.mem_map.mpr ⟨entry, hentry, heq⟩)

/-- With a unique column, a selection finds the row that the table has, if it selects it. -/
theorem find_filter_key [BEq β] [LawfulBEq β] {g : α → β} {rows : List α}
    (hnd : (rows.map g).Nodup) (p : α → Bool) (k : β) :
    (rows.filter p).find? (fun row => g row == k) =
      (rows.find? fun row => g row == k).filter p := by
  induction rows with
  | nil => rfl
  | cons row rows ih =>
    rw [List.map_cons, List.nodup_cons] at hnd
    by_cases hk : g row = k
    · have hnone : (rows.filter p).find? (fun row => g row == k) = none := by
        rw [find_eq_none_iff]
        intro hmem
        obtain ⟨row', hrow', heq⟩ := List.mem_map.mp hmem
        exact hnd.1 (hk ▸ heq ▸ List.mem_map_of_mem (List.mem_of_mem_filter hrow'))
      by_cases hp : p row = true
      · simp [hp, hk, Option.filter]
      · simp [hp, hk, hnone, Option.filter]
    · have hrest := ih hnd.2
      by_cases hp : p row = true
      · rw [List.filter_cons_of_pos hp, List.find?_cons_of_neg (by simpa using hk),
          List.find?_cons_of_neg (by simpa using hk), hrest]
      · rw [List.filter_cons_of_neg hp, List.find?_cons_of_neg (by simpa using hk), hrest]

theorem nodup_delete {g : α → β} {rows : List α} (p : α → Bool) (hnd : (rows.map g).Nodup) :
    ((rows.filter p).map g).Nodup :=
  hnd.sublist (List.filter_sublist.map g)

end Framework
