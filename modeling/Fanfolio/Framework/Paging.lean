import Mathlib.Data.List.Perm.Basic
import Mathlib.Data.List.Sort
import Mathlib.Data.List.TakeDrop
import Mathlib.Order.Basic

/-!
# Pages of a sorted query

A query sorts its rows by a key; rows with the same key come in any order, which each run of the
query picks anew. A page is a slice of one run. The pages of several runs hold every row exactly
once, whatever the runs pick, if and only if no page ends between rows with the same key.
-/

namespace Framework

variable {α κ : Type*} [LinearOrder κ]

/-- The rows are in the order of the key. -/
def Ordered (key : α → κ) (rows : List α) : Prop := rows.Pairwise fun a b => key a ≤ key b

instance (key : α → κ) (rows : List α) : Decidable (Ordered key rows) :=
  inferInstanceAs (Decidable (List.Pairwise _ rows))

/-- The rows in the order of the key, those with the same key as they come. -/
def sortedBy (key : α → κ) (rows : List α) : List α :=
  rows.insertionSort fun a b => key a ≤ key b

/-- `SELECT … ORDER BY key`: `order` is the one that the run of the query picks. -/
def orderedScan [DecidableEq α] (key : α → κ) (order rows : List α) : List α :=
  if order.Perm rows ∧ Ordered key order then order else sortedBy key rows

/-- `OFFSET (page - 1) * size LIMIT size`. -/
def pageOf (size page : ℕ) (rows : List α) : List α := (rows.drop ((page - 1) * size)).take size

/-- `(total + size - 1) // size`. -/
def pageCount (size total : ℕ) : ℕ := (total + size - 1) / size

/-- The rows of some pages, one run of the query after the other. -/
def rowsOfPages (size count : ℕ) (runs : ℕ → List α) : List α :=
  (List.range count).flatMap fun i => pageOf size (i + 1) (runs (i + 1))

/-- No page ends between rows with the same key. -/
def PagesSplitNoTie (key : α → κ) (size : ℕ) (rows : List α) : Prop :=
  ∀ before a b after, sortedBy key rows = before ++ a :: b :: after →
    size ∣ before.length + 1 → key a ≠ key b

variable {key : α → κ} {rows order : List α} {size : ℕ}

theorem sortedBy_perm (key : α → κ) (rows : List α) : (sortedBy key rows).Perm rows :=
  List.perm_insertionSort _ rows

theorem sortedBy_ordered (key : α → κ) (rows : List α) : Ordered key (sortedBy key rows) := by
  have : Std.Total fun a b : α => key a ≤ key b := ⟨fun a b => le_total (key a) (key b)⟩
  have : IsTrans α fun a b => key a ≤ key b := ⟨fun _ _ _ => le_trans⟩
  exact List.pairwise_insertionSort _ rows

/-- The order of the images is that of the rows, as long as the keys are. -/
theorem sortedBy_map {β : Type*} (f : α → β) {key' : β → κ} (h : ∀ a, key' (f a) = key a)
    (rows : List α) : sortedBy key' (rows.map f) = (sortedBy key rows).map f := by
  refine (List.map_insertionSort _ _ f rows fun a _ b _ => ?_).symm
  rw [h, h]

/-- Rows with different keys have one order only. -/
theorem sortedBy_congr (h : order.Perm rows)
    (hkey : ∀ a ∈ rows, ∀ b ∈ rows, key a = key b → a = b) :
    sortedBy key order = sortedBy key rows := by
  have hperm : (sortedBy key order).Perm (sortedBy key rows) :=
    (sortedBy_perm key order).trans (h.trans (sortedBy_perm key rows).symm)
  refine hperm.eq_of_pairwise (fun a b ha hb hab hba => ?_) (sortedBy_ordered key order)
    (sortedBy_ordered key rows)
  have ha' := h.subset ((sortedBy_perm key order).subset ha)
  exact hkey a ha' b ((sortedBy_perm key rows).subset hb) (le_antisymm hab hba)

theorem orderedScan_perm [DecidableEq α] (key : α → κ) (order rows : List α) :
    (orderedScan key order rows).Perm rows := by
  unfold orderedScan
  split
  · rename_i h
    exact h.1
  · exact sortedBy_perm key rows

theorem orderedScan_ordered [DecidableEq α] (key : α → κ) (order rows : List α) :
    Ordered key (orderedScan key order rows) := by
  unfold orderedScan
  split
  · rename_i h
    exact h.2
  · exact sortedBy_ordered key rows

/-- Of rows in order, those up to a key are the first ones. -/
theorem Ordered.filter_le (h : Ordered key rows) (k : κ) :
    rows.filter (fun a => key a ≤ k) = rows.take (rows.countP fun a => key a ≤ k) := by
  induction rows with
  | nil => rfl
  | cons head rows ih =>
    obtain ⟨hhead, hrest⟩ := List.pairwise_cons.mp h
    by_cases hk : key head ≤ k
    · rw [List.filter_cons_of_pos (by simpa using hk), List.countP_cons_of_pos (by simpa using hk),
        List.take_succ_cons, ih hrest]
    · have hnone : ∀ a ∈ head :: rows, ¬(decide (key a ≤ k) = true) := by
        intro a ha
        rw [decide_eq_true_eq, not_le]
        rcases List.mem_cons.mp ha with rfl | ha
        · exact not_le.mp hk
        · exact (not_le.mp hk).trans_le (hhead a ha)
      rw [List.filter_eq_nil_iff.mpr hnone, List.countP_eq_zero.mpr hnone, List.take_zero]

/-- Where the key grows, all orders of the rows have the same first ones. -/
theorem Ordered.take_perm {before after : List α} {a b : α}
    (h : Ordered key (before ++ a :: b :: after)) (horder : Ordered key order)
    (hperm : order.Perm (before ++ a :: b :: after)) (hne : key a ≠ key b) :
    (order.take (before.length + 1)).Perm
      ((before ++ a :: b :: after).take (before.length + 1)) := by
  obtain ⟨-, hrest, hbefore⟩ := List.pairwise_append.mp h
  obtain ⟨ha, hafter⟩ := List.pairwise_cons.mp hrest
  have hgrows : key a < key b := lt_of_le_of_ne (ha b List.mem_cons_self) hne
  have hcount : (before ++ a :: b :: after).countP (fun row => key row ≤ key a) =
      before.length + 1 := by
    have hfirst : before.countP (fun row => key row ≤ key a) = before.length :=
      List.countP_eq_length.mpr fun row hrow =>
        decide_eq_true (hbefore row hrow a List.mem_cons_self)
    have hlast : (b :: after).countP (fun row => key row ≤ key a) = 0 := by
      refine List.countP_eq_zero.mpr fun row hrow => ?_
      rw [decide_eq_true_eq, not_le]
      rcases List.mem_cons.mp hrow with rfl | hrow
      · exact hgrows
      · exact hgrows.trans_le ((List.pairwise_cons.mp hafter).1 row hrow)
    rw [List.countP_append, List.countP_cons_of_pos (by simp), hfirst, hlast]
  have hcount' := hperm.countP_eq fun row => key row ≤ key a
  rw [hcount] at hcount'
  rw [← hcount, ← h.filter_le, hcount, ← hcount', ← horder.filter_le]
  exact hperm.filter _

theorem PagesSplitNoTie.take_perm (h : PagesSplitNoTie key size rows) (hperm : order.Perm rows)
    (horder : Ordered key order) (i : ℕ) :
    (order.take (i * size)).Perm ((sortedBy key rows).take (i * size)) := by
  have hsorted := hperm.trans (sortedBy_perm key rows).symm
  rcases Nat.lt_or_ge (i * size) (sortedBy key rows).length with hlt | hge
  · cases hcut : i * size with
    | zero => simp
    | succ m =>
      rw [hcut] at hlt
      have hsplit : sortedBy key rows = (sortedBy key rows).take m ++
          (sortedBy key rows)[m] :: (sortedBy key rows)[m + 1] ::
            (sortedBy key rows).drop (m + 2) := by
        rw [← List.drop_eq_getElem_cons, ← List.drop_eq_getElem_cons, List.take_append_drop]
      have hlength : ((sortedBy key rows).take m).length = m := by
        rw [List.length_take]
        omega
      have hne := h _ _ _ _ hsplit (by rw [hlength, ← hcut]; exact Nat.dvd_mul_left size i)
      have hcuts := Ordered.take_perm (hsplit ▸ sortedBy_ordered key rows) horder
        (hsplit ▸ hsorted) hne
      rwa [← hsplit, hlength] at hcuts
  · rw [List.take_of_length_le hge, List.take_of_length_le (hsorted.length_eq ▸ hge)]
    exact hsorted

theorem take_succ_mul (size i : ℕ) (rows : List α) :
    rows.take ((i + 1) * size) = rows.take (i * size) ++ pageOf size (i + 1) rows := by
  rw [Nat.succ_mul, List.take_add, pageOf, Nat.add_sub_cancel]

theorem PagesSplitNoTie.page_perm (h : PagesSplitNoTie key size rows) (hperm : order.Perm rows)
    (horder : Ordered key order) (i : ℕ) :
    (pageOf size (i + 1) order).Perm (pageOf size (i + 1) (sortedBy key rows)) := by
  have hthis := h.take_perm hperm horder i
  have hnext := h.take_perm hperm horder (i + 1)
  rw [take_succ_mul, take_succ_mul] at hnext
  exact (List.perm_append_left_iff _).mp ((hthis.symm.append_right _).trans hnext)

/-- The pages of a single run are its first rows. -/
theorem rowsOfPages_const (size count : ℕ) (rows : List α) :
    rowsOfPages size count (fun _ => rows) = rows.take (count * size) := by
  induction count with
  | zero => simp [rowsOfPages]
  | succ count ih =>
    rw [take_succ_mul, ← ih, rowsOfPages, List.range_succ, List.flatMap_append]
    simp [rowsOfPages]

theorem le_pageCount_mul (hsize : 0 < size) (total : ℕ) : total ≤ pageCount size total * size := by
  have hdiv := Nat.div_add_mod (total + size - 1) size
  have hmod := Nat.mod_lt (total + size - 1) hsize
  rw [pageCount, Nat.mul_comm]
  omega

theorem pageOf_subset_take (size i : ℕ) (rows : List α) :
    pageOf size (i + 1) rows ⊆ rows.take ((i + 1) * size) := by
  rw [take_succ_mul]
  exact List.subset_append_right _ _

theorem pageOf_subset_drop (size i : ℕ) (rows : List α) :
    pageOf size (i + 1) rows ⊆ rows.drop (i * size) := by
  rw [pageOf, Nat.add_sub_cancel]
  exact List.take_subset _ _

/-- The runs for the pages up to a row give it before the next row, the later ones after it. -/
def tornRuns (size : ℕ) (before after : List α) (a b : α) (page : ℕ) : List α :=
  if page * size ≤ before.length + 1 then before ++ a :: b :: after
  else before ++ b :: a :: after

/-- If a page ends between the two rows, no page has the second one. -/
theorem not_mem_tornRuns {before after : List α} {a b : α} (count : ℕ)
    (hnd : (before ++ a :: b :: after).Nodup) (hcut : size ∣ before.length + 1) :
    b ∉ rowsOfPages size count (tornRuns size before after a b) := by
  obtain ⟨-, hrest, hbefore⟩ := List.nodup_append.mp hnd
  obtain ⟨ha, hafter⟩ := List.nodup_cons.mp hrest
  intro hmem
  obtain ⟨i, -, hpage⟩ := List.mem_flatMap.mp hmem
  rw [tornRuns] at hpage
  by_cases hle : (i + 1) * size ≤ before.length + 1
  · rw [if_pos hle] at hpage
    have hfirst := (List.take_sublist_take_left hle).subset (pageOf_subset_take size i _ hpage)
    have htake : (before ++ a :: b :: after).take (before.length + 1) = before ++ [a] := by
      rw [List.take_length_add_append]
      rfl
    rw [htake] at hfirst
    rcases List.mem_append.mp hfirst with hold | hlast
    · exact hbefore b hold b (by simp) rfl
    · exact ha (List.mem_singleton.mp hlast ▸ List.mem_cons_self)
  · rw [if_neg hle] at hpage
    have hge : before.length + 1 ≤ i * size := by
      obtain ⟨j, hj⟩ := hcut
      rw [hj, Nat.mul_comm size j] at hle ⊢
      have hpages : j < i + 1 := Nat.lt_of_mul_lt_mul_right (not_le.mp hle)
      exact Nat.mul_le_mul_right size (Nat.lt_succ_iff.mp hpages)
    have hlast := (List.drop_subset_drop_left _ hge) (pageOf_subset_drop size i _ hpage)
    have hdrop : (before ++ b :: a :: after).drop (before.length + 1) = a :: after := by
      rw [List.drop_length_add_append]
      rfl
    rw [hdrop] at hlast
    rcases List.mem_cons.mp hlast with rfl | hlast
    · exact ha List.mem_cons_self
    · exact (List.nodup_cons.mp hafter).1 hlast

/-- A run may give rows with the same key in the other order. -/
theorem Ordered.swap {before after : List α} {a b : α}
    (h : Ordered key (before ++ a :: b :: after)) (htie : key a = key b) :
    Ordered key (before ++ b :: a :: after) := by
  have hkeys : (before ++ b :: a :: after).map key = (before ++ a :: b :: after).map key := by
    simp [htie]
  have hmap := List.pairwise_map.mpr h
  rw [← hkeys] at hmap
  exact List.pairwise_map.mp hmap

theorem orderedScan_of [DecidableEq α] (hperm : order.Perm rows) (horder : Ordered key order) :
    orderedScan key order rows = order :=
  if_pos ⟨hperm, horder⟩

/-- The pages hold all rows exactly once, whatever the runs pick, if and only if no page ends
within a tie. -/
theorem rowsOfPages_perm_iff [DecidableEq α] (hsize : 0 < size) (hnd : rows.Nodup) :
    (∀ orders : ℕ → List α, (rowsOfPages size (pageCount size rows.length)
      fun page => orderedScan key (orders page) rows).Perm rows) ↔
      PagesSplitNoTie key size rows := by
  constructor
  · intro h before a b after hsplit hcut htie
    have hperm : (before ++ a :: b :: after).Perm rows := hsplit ▸ sortedBy_perm key rows
    have hordered : Ordered key (before ++ a :: b :: after) := hsplit ▸ sortedBy_ordered key rows
    have hswap : (before ++ b :: a :: after).Perm rows :=
      ((List.Perm.swap a b after).append_left before).trans hperm
    have hscan : ∀ page, orderedScan key (tornRuns size before after a b page) rows =
        tornRuns size before after a b page := by
      intro page
      rw [tornRuns]
      split
      · exact orderedScan_of hperm hordered
      · exact orderedScan_of hswap (hordered.swap htie)
    have hall := h (tornRuns size before after a b)
    simp only [hscan] at hall
    refine not_mem_tornRuns _ (hperm.nodup_iff.mpr hnd) hcut (hall.mem_iff.mpr ?_)
    exact hperm.mem_iff.mp (by simp)
  · intro h orders
    have hpages : (rowsOfPages size (pageCount size rows.length)
        fun page => orderedScan key (orders page) rows).Perm
        (rowsOfPages size (pageCount size rows.length) fun _ => sortedBy key rows) :=
      List.Perm.flatMap_left _ fun i _ =>
        h.page_perm (orderedScan_perm key _ rows) (orderedScan_ordered key _ rows) i
    refine hpages.trans ?_
    rw [rowsOfPages_const, List.take_of_length_le]
    · exact sortedBy_perm key rows
    · rw [(sortedBy_perm key rows).length_eq]
      exact le_pageCount_mul hsize _

end Framework
