import Mathlib.Data.List.Nodup

/-!
# Rows with a unique key under read committed

Transactions insert rows and delete rows. The others see a change once it is committed. An insert
waits for a transaction that is inserting or deleting a row of the same key, and a transaction that
deletes a row which another is deleting goes on when that one has ended.
-/

namespace Framework

/-- How a statement ends. -/
inductive Statement (α : Type*) where
  | waits
  | violates
  | done (value : α)

/-- The committed rows of a table, and what the open transactions have inserted and deleted. -/
@[ext]
structure SharedRows (ρ κ : Type*) where
  rows : List ρ := []
  added : List (ℕ × ρ) := []
  removed : List (ℕ × κ) := []

namespace SharedRows

variable {ρ κ : Type*} [DecidableEq κ]

section

variable (key : ρ → κ) (t : SharedRows ρ κ)

/-- What a transaction sees. -/
def seen (tx : ℕ) : List ρ :=
  t.rows.filter (fun row => (tx, key row) ∉ t.removed) ++
    (t.added.filter (·.1 == tx)).map Prod.snd

/-- Another transaction is inserting or deleting a row of this key. -/
def busy (tx : ℕ) (k : κ) : Bool :=
  t.added.any (fun a => a.1 != tx && key a.2 == k) || t.removed.any fun r => r.1 != tx && r.2 == k

/-- `INSERT`. -/
def insert (tx : ℕ) (row : ρ) : Statement (SharedRows ρ κ) :=
  if t.busy key tx (key row) then .waits
  else if key row ∈ (t.seen key tx).map key then .violates
  else .done { t with added := t.added ++ [(tx, row)] }

omit [DecidableEq κ] in
/-- `DELETE`: the rows that the statement finds. -/
def delete (tx : ℕ) (p : ρ → Bool) : SharedRows ρ κ :=
  { t with
    added := t.added.filter fun a => !(a.1 == tx && p a.2)
    removed := t.removed ++ (t.rows.filter p).map fun row => (tx, key row) }

/-- Another transaction was the first to delete one of the rows. -/
def held (tx : ℕ) : Bool :=
  t.removed.any fun r => r.1 == tx && (t.removed.find? (·.2 == r.2)).any (·.1 != tx)

/-- `COMMIT`: what others were about to delete and is gone, they delete no more. -/
def commit (tx : ℕ) : SharedRows ρ κ where
  rows := t.rows.filter (fun row => (tx, key row) ∉ t.removed) ++
    (t.added.filter (·.1 == tx)).map Prod.snd
  added := t.added.filter (·.1 != tx)
  removed := t.removed.filter fun r => (tx, r.2) ∉ t.removed

omit [DecidableEq κ] in
/-- `ROLLBACK`. -/
def rollback (tx : ℕ) : SharedRows ρ κ :=
  { t with added := t.added.filter (·.1 != tx), removed := t.removed.filter (·.1 != tx) }

/-- No two rows have one key, none is inserted beside a row that stays, and what is being deleted
is there. -/
structure Sound : Prop where
  rows : (t.rows.map key).Nodup
  added : (t.added.map fun a => key a.2).Nodup
  beside : ∀ a ∈ t.added, key a.2 ∈ t.rows.map key → (a.1, key a.2) ∈ t.removed
  removed : ∀ r ∈ t.removed, r.2 ∈ t.rows.map key

end

variable {key : ρ → κ} {t t' : SharedRows ρ κ} {tx : ℕ} {row : ρ}

theorem insert_done (h : t.insert key tx row = .done t') :
    t.busy key tx (key row) = false ∧ key row ∉ (t.seen key tx).map key ∧
      t' = { t with added := t.added ++ [(tx, row)] } := by
  unfold insert at h
  split at h
  · cases h
  · rename_i hbusy
    split at h
    · cases h
    · rename_i hkey
      cases h
      exact ⟨by simpa using hbusy, hkey, rfl⟩

theorem mem_commit : row ∈ (t.commit key tx).rows ↔
    (row ∈ t.rows ∧ (tx, key row) ∉ t.removed) ∨ (tx, row) ∈ t.added := by
  simp [commit]

/-- A transaction that deletes nothing waits for nobody. -/
theorem held_of_none (h : ∀ k, (tx, k) ∉ t.removed) : t.held tx = false := by
  unfold held
  rw [List.any_eq_false]
  rintro ⟨tx', k⟩ hmem hheld
  rw [Bool.and_eq_true, beq_iff_eq] at hheld
  exact h k (hheld.1 ▸ hmem)

/-- A commit of a transaction that deletes nothing leaves the others what they delete. -/
theorem commit_removed_of_none (h : ∀ k, (tx, k) ∉ t.removed) :
    (t.commit key tx).removed = t.removed := by
  refine List.filter_eq_self.mpr fun r _ => ?_
  exact decide_eq_true (h r.2)

theorem commit_held_of_none (h : ∀ k, (tx, k) ∉ t.removed) (tx' : ℕ) :
    (t.commit key tx).held tx' = t.held tx' := by
  rw [held, commit_removed_of_none h, held]

/-- What the other transactions insert is as it was, and they delete nothing more. -/
structure Keeps (tx : ℕ) (t t' : SharedRows ρ κ) : Prop where
  added : ∀ a, a.1 ≠ tx → (a ∈ t'.added ↔ a ∈ t.added)
  removed : ∀ r, r.1 ≠ tx → r ∈ t'.removed → r ∈ t.removed

omit [DecidableEq κ] in
theorem Keeps.refl (tx : ℕ) (t : SharedRows ρ κ) : Keeps tx t t :=
  ⟨fun _ _ => Iff.rfl, fun _ _ => id⟩

theorem insert_keeps (h : t.insert key tx row = .done t') : Keeps tx t t' := by
  obtain ⟨-, -, rfl⟩ := insert_done h
  refine ⟨fun a ha => ?_, fun _ _ => id⟩
  rw [List.mem_append, List.mem_singleton]
  refine or_iff_left ?_
  rintro rfl
  exact ha rfl

omit [DecidableEq κ] in
theorem delete_keeps (t : SharedRows ρ κ) (tx : ℕ) (p : ρ → Bool) :
    Keeps tx t (t.delete key tx p) := by
  refine ⟨fun a ha => ?_, fun r hr hmem => ?_⟩
  · simp [delete, ha]
  · rcases List.mem_append.mp hmem with hmem | hmem
    · exact hmem
    · obtain ⟨row, -, rfl⟩ := List.mem_map.mp hmem
      exact absurd rfl hr

theorem commit_keeps (t : SharedRows ρ κ) (tx : ℕ) : Keeps tx t (t.commit key tx) := by
  refine ⟨fun a ha => ?_, fun r _ hmem => (List.mem_filter.mp hmem).1⟩
  simp [commit, ha]

omit [DecidableEq κ] in
theorem rollback_keeps (t : SharedRows ρ κ) (tx : ℕ) : Keeps tx t (t.rollback tx) := by
  refine ⟨fun a ha => ?_, fun r _ hmem => (List.mem_filter.mp hmem).1⟩
  simp [rollback, ha]

/-- A transaction that has ended leaves nothing open. -/
theorem commit_own (key : ρ → κ) (t : SharedRows ρ κ) (tx : ℕ) :
    (∀ row, (tx, row) ∉ (t.commit key tx).added) ∧
      ∀ k, (tx, k) ∉ (t.commit key tx).removed := by
  simp [commit]

omit [DecidableEq κ] in
theorem rollback_own (t : SharedRows ρ κ) (tx : ℕ) :
    (∀ row, (tx, row) ∉ (t.rollback tx).added) ∧ ∀ k, (tx, k) ∉ (t.rollback tx).removed := by
  simp [rollback]

theorem not_busy (h : t.busy key tx (key row) = false) :
    (∀ a ∈ t.added, key a.2 = key row → a.1 = tx) ∧
      ∀ r ∈ t.removed, r.2 = key row → r.1 = tx := by
  simp only [busy, Bool.or_eq_false_iff, List.any_eq_false, Bool.and_eq_true, bne_iff_ne, ne_eq,
    beq_iff_eq, not_and] at h
  exact ⟨fun a ha hk => not_not.mp fun hne => h.1 a ha hne hk,
    fun r hr hk => not_not.mp fun hne => h.2 r hr hne hk⟩

namespace Sound

theorem insert (h : t.Sound key) (hdone : t.insert key tx row = .done t') : t'.Sound key := by
  obtain ⟨hbusy, hkey, rfl⟩ := insert_done hdone
  obtain ⟨hfree, -⟩ := not_busy hbusy
  simp only [seen, List.map_append, List.mem_append, not_or] at hkey
  refine ⟨h.rows, ?_, ?_, h.removed⟩
  · have hnew : key row ∉ t.added.map fun a => key a.2 := by
      rintro hmem
      obtain ⟨a, ha, hk⟩ := List.mem_map.mp hmem
      have htx := hfree a ha hk
      refine hkey.2 (List.mem_map.mpr ⟨a.2, List.mem_map.mpr ⟨a, ?_, rfl⟩, hk⟩)
      exact List.mem_filter.mpr ⟨ha, by simpa using htx⟩
    rw [List.map_append, List.nodup_append]
    refine ⟨h.added, by simp, ?_⟩
    rintro k hk k' hk' rfl
    rw [List.map_singleton, List.mem_singleton] at hk'
    exact hnew (hk' ▸ hk)
  · intro a ha hk
    rcases List.mem_append.mp ha with ha | ha
    · exact h.beside a ha hk
    · obtain rfl := List.mem_singleton.mp ha
      obtain ⟨old, hold, hkold⟩ := List.mem_map.mp hk
      by_contra hstays
      refine hkey.1 (List.mem_map.mpr ⟨old, List.mem_filter.mpr ⟨hold, ?_⟩, hkold⟩)
      exact decide_eq_true (hkold ▸ hstays)

omit [DecidableEq κ] in
theorem delete (h : t.Sound key) (tx : ℕ) (p : ρ → Bool) : (t.delete key tx p).Sound key := by
  refine ⟨h.rows, h.added.sublist (List.filter_sublist.map _), ?_, ?_⟩
  · intro a ha hk
    exact List.mem_append_left _ (h.beside a (List.mem_filter.mp ha).1 hk)
  · intro r hr
    rcases List.mem_append.mp hr with hr | hr
    · exact h.removed r hr
    · obtain ⟨row, hrow, rfl⟩ := List.mem_map.mp hr
      exact List.mem_map_of_mem (List.mem_filter.mp hrow).1

theorem commit (h : t.Sound key) (tx : ℕ) : (t.commit key tx).Sound key := by
  refine ⟨?_, h.added.sublist (List.filter_sublist.map _), ?_, ?_⟩
  · rw [SharedRows.commit, List.map_append, List.nodup_append]
    refine ⟨h.rows.sublist (List.filter_sublist.map _), ?_, ?_⟩
    · rw [List.map_map]
      exact h.added.sublist (List.filter_sublist.map _)
    · rintro k hold k' hnew rfl
      obtain ⟨old, hmem, rfl⟩ := List.mem_map.mp hold
      obtain ⟨hrow, hstays⟩ := List.mem_filter.mp hmem
      rw [List.map_map] at hnew
      obtain ⟨a, ha, hk⟩ := List.mem_map.mp hnew
      obtain ⟨ha, htx⟩ := List.mem_filter.mp ha
      rw [beq_iff_eq] at htx
      dsimp only [Function.comp_apply] at hk
      have hgone := h.beside a ha (hk ▸ List.mem_map_of_mem hrow)
      rw [htx, hk] at hgone
      exact of_decide_eq_true hstays hgone
  · intro a ha hk
    obtain ⟨ha, htx⟩ := List.mem_filter.mp ha
    rw [SharedRows.commit, List.map_append, List.mem_append] at hk
    rcases hk with hk | hk
    · obtain ⟨old, hmem, hkold⟩ := List.mem_map.mp hk
      obtain ⟨hrow, hstays⟩ := List.mem_filter.mp hmem
      refine List.mem_filter.mpr ⟨h.beside a ha (hkold ▸ List.mem_map_of_mem hrow), ?_⟩
      rw [hkold] at hstays
      exact hstays
    · -- A row of the same key cannot have been inserted by two transactions.
      rw [List.map_map] at hk
      obtain ⟨b, hb, hkb⟩ := List.mem_map.mp hk
      obtain ⟨hb, htxb⟩ := List.mem_filter.mp hb
      have hab : a = b := by
        by_contra hne
        exact hne (List.inj_on_of_nodup_map h.added ha hb hkb.symm)
      rw [hab, bne_iff_ne] at htx
      exact absurd (beq_iff_eq.mp htxb) htx
  · intro r hr
    obtain ⟨hr, hstays⟩ := List.mem_filter.mp hr
    obtain ⟨row, hrow, hk⟩ := List.mem_map.mp (h.removed r hr)
    rw [SharedRows.commit, List.map_append]
    refine List.mem_append_left _ (List.mem_map.mpr ⟨row, List.mem_filter.mpr ⟨hrow, ?_⟩, hk⟩)
    rw [hk]
    exact hstays

omit [DecidableEq κ] in
theorem rollback (h : t.Sound key) (tx : ℕ) : (t.rollback tx).Sound key := by
  refine ⟨h.rows, h.added.sublist (List.filter_sublist.map _), ?_, ?_⟩
  · intro a ha hk
    obtain ⟨ha, htx⟩ := List.mem_filter.mp ha
    exact List.mem_filter.mpr ⟨h.beside a ha hk, htx⟩
  · exact fun r hr => h.removed r (List.mem_filter.mp hr).1

end Sound

/-- No transaction has anything open. -/
def quiet (rows : List ρ) : SharedRows ρ κ := { rows := rows }

omit [DecidableEq κ] in
@[simp] theorem quiet_rows (rows : List ρ) : (quiet rows : SharedRows ρ κ).rows = rows := rfl

theorem held_quiet (tx : ℕ) (rows : List ρ) : (quiet rows : SharedRows ρ κ).held tx = false := rfl

theorem held_inserted (tx : ℕ) (rows : List ρ) (added : List (ℕ × ρ)) :
    (SharedRows.mk rows added [] : SharedRows ρ κ).held tx = false := rfl

theorem commit_quiet (key : ρ → κ) (tx : ℕ) (rows : List ρ) :
    (quiet rows).commit key tx = quiet rows := by
  simp [commit, quiet]

section

variable {rows : List ρ}

/-- An insert while no other transaction is open, and its commit. -/
theorem insert_quiet (tx : ℕ) (h : key row ∉ rows.map key) :
    (quiet rows).insert key tx row =
      .done { rows := rows, added := [(tx, row)], removed := [] } := by
  simp only [insert, busy, seen, quiet, List.any_nil, Bool.or_self, Bool.false_eq_true, if_false,
    List.not_mem_nil, not_false_eq_true, decide_true, List.filter_true, List.filter_nil,
    List.map_nil, List.append_nil, if_neg h, List.nil_append]

theorem commit_insert_quiet :
    (SharedRows.mk rows [(tx, row)] []).commit key tx = quiet (rows ++ [row]) := by
  simp [commit, quiet]

omit [DecidableEq κ] in
theorem mem_delete_quiet {p : ρ → Bool} {r : ℕ × κ} :
    r ∈ ((quiet rows).delete key tx p).removed ↔
      ∃ row ∈ rows, p row = true ∧ (tx, key row) = r := by
  simp [delete, quiet, and_assoc]

/-- A delete while no other transaction is open, and its commit. -/
theorem commit_delete_quiet (tx : ℕ) (h : (rows.map key).Nodup) (p : ρ → Bool) :
    ((quiet rows).delete key tx p).commit key tx = quiet (rows.filter fun row => !p row) := by
  refine SharedRows.ext ?_ (by simp [commit, delete, quiet]) ?_
  · refine (List.append_nil _).trans (List.filter_congr fun row hrow => ?_)
    rw [Bool.eq_iff_iff, decide_eq_true_iff, mem_delete_quiet, Bool.not_eq_true']
    constructor
    · intro hkept
      by_contra hp
      exact hkept ⟨row, hrow, by simpa using hp, rfl⟩
    · rintro hp ⟨row', hrow', hp', heq⟩
      have hsame := List.inj_on_of_nodup_map h hrow' hrow (Prod.mk.inj heq).2
      rw [hsame, hp] at hp'
      cases hp'
  · refine List.filter_eq_nil_iff.mpr fun r hr => ?_
    rw [decide_eq_true_iff, not_not]
    obtain ⟨row, hrow, hp, rfl⟩ := mem_delete_quiet.mp hr
    exact mem_delete_quiet.mpr ⟨row, hrow, hp, rfl⟩

/-- The transaction itself is the first to delete. -/
theorem held_delete_quiet (key : ρ → κ) (tx : ℕ) (rows : List ρ) (p : ρ → Bool) :
    ((quiet rows).delete key tx p).held tx = false := by
  unfold held
  rw [List.any_eq_false]
  rintro r hr hheld
  rw [Bool.and_eq_true, Option.any_eq_true] at hheld
  obtain ⟨r', hfind, hother⟩ := hheld.2
  obtain ⟨row, -, -, rfl⟩ := mem_delete_quiet.mp (List.mem_of_find?_eq_some hfind)
  simp at hother

end

end SharedRows

end Framework
