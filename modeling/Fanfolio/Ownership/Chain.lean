import Fanfolio.Ownership.Ledger
import Mathlib.Data.List.Induction

/-!
# When the ownership chain verifies

The writer looks for the owner's latest row by `created_at` and identifier, and the verifier
replays the rows in that order. Rows of one instant are therefore replayed in the order of
their random identifiers, not in the order they were written.
-/

namespace Fanfolio

open Framework HashChain

section

variable {Digest : Type}

@[simp] theorem userRows_append (ledger : List (CardOwnershipLedger Digest))
    (row : CardOwnershipLedger Digest) (userId : UserId) :
    userRows (ledger ++ [row]) userId =
      userRows ledger userId ++ if row.userId = userId then [row] else [] := by
  by_cases h : row.userId = userId <;> simp [userRows, List.filter_append, h]

theorem userRows_mem {ledger : List (CardOwnershipLedger Digest)} {userId : UserId}
    {row : CardOwnershipLedger Digest} (h : row ∈ userRows ledger userId) : row ∈ ledger :=
  List.mem_of_mem_filter h

theorem chainKey_pairwise_iff {rows : List (CardOwnershipLedger Digest)}
    (htime : (rows.map (·.createdAt)).Pairwise (· ≤ ·)) :
    rows.Pairwise (fun row row' => row.chainKey < row'.chainKey) ↔ TiesDrawnInOrder rows := by
  rw [List.pairwise_map] at htime
  constructor
  · intro h
    refine h.imp ?_
    intro row row' hlt heq
    rcases Prod.Lex.toLex_lt_toLex.mp hlt with hlt | ⟨-, hlt⟩
    · exact absurd heq (ne_of_lt hlt)
    · exact hlt
  · intro h
    refine (htime.and h).imp ?_
    rintro row row' ⟨hle, htie⟩
    refine Prod.Lex.toLex_lt_toLex.mpr ?_
    rcases lt_or_eq_of_le hle with hlt | heq
    · exact .inl hlt
    · exact .inr ⟨heq, htie heq⟩

variable [RecordHash Digest]

/-- The hash that the verifier recomputes for a stored row. -/
def expectedHash (row : CardOwnershipLedger Digest) : Digest :=
  RecordHash.sha256 ⟨row.facts, row.previousHash⟩

/-- A row that carries its own hash. -/
def Sealed (row : CardOwnershipLedger Digest) : Prop := row.recordHash = some (expectedHash row)

@[simp] theorem ownershipRow_sealed (ledger : List (CardOwnershipLedger Digest))
    (event : OwnershipEvent) (ledgerId : LedgerId) (now : Time) :
    Sealed (ownershipRow ledger event ledgerId now) := rfl

@[simp] theorem ownershipRow_id (ledger : List (CardOwnershipLedger Digest))
    (event : OwnershipEvent) (ledgerId : LedgerId) (now : Time) :
    (ownershipRow ledger event ledgerId now).id = ledgerId := rfl

@[simp] theorem ownershipRow_userId (ledger : List (CardOwnershipLedger Digest))
    (event : OwnershipEvent) (ledgerId : LedgerId) (now : Time) :
    (ownershipRow ledger event ledgerId now).userId = event.userId := rfl

/-- A call appends the row it built, or violates a constraint of the table. -/
theorem appendOwnershipLedger_ok {ledger ledger' : List (CardOwnershipLedger Digest)}
    {event : OwnershipEvent} {ledgerId : LedgerId} {now : Time}
    {row : CardOwnershipLedger Digest} :
    appendOwnershipLedger ledger event ledgerId now = .ok (ledger', row) ↔
      row = ownershipRow ledger event ledgerId now ∧ ledger' = ledger ++ [row] ∧
        (∀ row' ∈ ledger, row'.id ≠ ledgerId) ∧ (∀ row' ∈ ledger, row.sameEvent row' = false) := by
  simp only [appendOwnershipLedger]
  by_cases hid : ledger.any (fun row' => row'.id == ledgerId)
  · rw [if_pos hid]
    obtain ⟨row', hmem, heq⟩ := List.any_eq_true.mp hid
    simp only [reduceCtorEq, false_iff, not_and]
    intro _ _ hfresh
    exact absurd (beq_iff_eq.mp heq) (hfresh row' hmem)
  · have hfresh : ∀ row' ∈ ledger, row'.id ≠ ledgerId := by
      intro row' hmem heq
      exact hid (List.any_eq_true.mpr ⟨row', hmem, beq_iff_eq.mpr heq⟩)
    rw [if_neg hid]
    by_cases hev : ledger.any (ownershipRow ledger event ledgerId now).sameEvent
    · rw [if_pos hev]
      obtain ⟨row', hmem, heq⟩ := List.any_eq_true.mp hev
      simp only [reduceCtorEq, false_iff, not_and]
      intro hrow _ _ hall
      have := hall row' hmem
      rw [hrow, heq] at this
      exact absurd this (by decide)
    · rw [if_neg hev, Except.ok.injEq, Prod.mk.injEq]
      have hnone : ∀ row' ∈ ledger,
          (ownershipRow ledger event ledgerId now).sameEvent row' = false := by
        intro row' hmem
        exact Bool.eq_false_iff.mpr fun heq => hev (List.any_eq_true.mpr ⟨row', hmem, heq⟩)
      constructor
      · rintro ⟨rfl, rfl⟩
        exact ⟨rfl, rfl, hfresh, hnone⟩
      · rintro ⟨rfl, rfl, -, -⟩
        exact ⟨rfl, rfl⟩

theorem previousRecordHash_sealed {ledger : List (CardOwnershipLedger Digest)} {userId : UserId}
    (h : ∀ row ∈ ledger, Sealed row) :
    previousRecordHash ledger userId =
      (latest CardOwnershipLedger.chainKey (userRows ledger userId)).map expectedHash := by
  unfold previousRecordHash
  cases hm : latest CardOwnershipLedger.chainKey (userRows ledger userId) with
  | none => rfl
  | some row => exact h row (userRows_mem (latest_mem hm))

/-- What every call keeps: rows carry their own hashes, identifiers are unique, and each row
of an owner links to the latest row at the time. -/
structure LedgerWritten (ledger : List (CardOwnershipLedger Digest)) : Prop where
  allSealed : ∀ row ∈ ledger, Sealed row
  ids : (ledger.map (·.id)).Nodup
  written : ∀ userId, Written CardOwnershipLedger.chainKey expectedHash
    CardOwnershipLedger.previousHash (userRows ledger userId)

theorem LedgerWritten.nil : LedgerWritten ([] : List (CardOwnershipLedger Digest)) :=
  ⟨by simp, by simp, fun _ => .nil⟩

theorem LedgerWritten.append {ledger ledger' : List (CardOwnershipLedger Digest)}
    {event : OwnershipEvent} {ledgerId : LedgerId} {now : Time}
    {row : CardOwnershipLedger Digest} (h : LedgerWritten ledger)
    (hok : appendOwnershipLedger ledger event ledgerId now = .ok (ledger', row)) :
    LedgerWritten ledger' := by
  obtain ⟨rfl, rfl, hfresh, -⟩ := appendOwnershipLedger_ok.mp hok
  refine ⟨?_, ?_, ?_⟩
  · intro row' hmem
    rcases List.mem_append.mp hmem with hmem | hmem
    · exact h.allSealed row' hmem
    · rw [List.mem_singleton.mp hmem]
      exact ownershipRow_sealed ledger event ledgerId now
  · rw [List.map_append, List.nodup_append]
    refine ⟨h.ids, by simp, ?_⟩
    intro id hid id' hid'
    obtain ⟨row', hmem, rfl⟩ := List.mem_map.mp hid
    rw [List.map_singleton, ownershipRow_id, List.mem_singleton] at hid'
    rw [hid']
    exact hfresh row' hmem
  · intro userId
    rw [userRows_append, ownershipRow_userId]
    by_cases hu : event.userId = userId
    · rw [if_pos hu]
      refine (h.written userId).append ?_
      rw [← previousRecordHash_sealed h.allSealed, ← hu]
      rfl
    · rw [if_neg hu, List.append_nil]
      exact h.written userId

theorem ledgerStep_cases (ledger : List (CardOwnershipLedger Digest)) (call : LedgerCall) :
    ledgerStep ledger call = ledger ∨
      ∃ row, appendOwnershipLedger ledger call.event call.ledgerId call.now =
        .ok (ledgerStep ledger call, row) := by
  unfold ledgerStep
  cases h : appendOwnershipLedger ledger call.event call.ledgerId call.now with
  | error e => exact .inl rfl
  | ok result => exact .inr ⟨result.2, rfl⟩

theorem ledgerAfter_written (calls : List LedgerCall) : LedgerWritten (ledgerAfter Digest calls) := by
  refine run_of_step LedgerWritten.nil ?_
  intro ledger call h
  rcases ledgerStep_cases ledger call with heq | ⟨row, hok⟩
  · rw [heq]
    exact h
  · exact h.append hok

/-- Stored rows of an owner are, in order, rows of some of the calls for that owner. -/
theorem userRows_timestamps (calls : List LedgerCall) (userId : UserId) :
    ((userRows (ledgerAfter Digest calls) userId).map (·.createdAt)).Sublist
      ((calls.filter (fun call => call.event.userId == userId)).map LedgerCall.timestamp) := by
  induction calls using List.reverseRecOn with
  | nil => exact List.Sublist.refl _
  | append_singleton calls call ih =>
    have hrun : ledgerAfter Digest (calls ++ [call]) =
        ledgerStep (ledgerAfter Digest calls) call := by
      rw [ledgerAfter, run_append]
      rfl
    rw [hrun, List.filter_append, List.map_append]
    rcases ledgerStep_cases (ledgerAfter Digest calls) call with heq | ⟨row, hok⟩
    · rw [heq]
      exact ih.trans (List.sublist_append_left _ _)
    · obtain ⟨rfl, heq, -, -⟩ := appendOwnershipLedger_ok.mp hok
      rw [heq, userRows_append, List.map_append, ownershipRow_userId]
      by_cases hu : call.event.userId = userId
      · simpa [hu, LedgerCall.timestamp, ownershipRow] using ih
      · simpa [hu] using ih

variable [DecidableEq Digest]

/-- The scan of rows that carry their own hashes only finds broken links. -/
theorem scan_violations {rows : List (CardOwnershipLedger Digest)}
    (h : ∀ row ∈ rows, Sealed row) (scan : ChainScan Digest) :
    (rows.foldl ChainScan.visit scan).violations = [] ↔
      scan.violations = [] ∧
        Linked expectedHash CardOwnershipLedger.previousHash scan.previousHash rows := by
  induction rows generalizing scan with
  | nil => simp [Linked]
  | cons row rows ih =>
    have hrow : row.recordHash = some (expectedHash row) := h row List.mem_cons_self
    rw [List.foldl_cons, ih (fun row' hmem => h row' (List.mem_cons_of_mem _ hmem)), Linked]
    have hhash : RecordHash.sha256 ⟨row.facts, row.previousHash⟩ = expectedHash row := rfl
    by_cases hlink : row.previousHash = scan.previousHash
    · simp [ChainScan.visit, hrow, hlink, ← hhash]
    · simp [ChainScan.visit, hrow, hlink]

theorem verifyOwnershipChain_sealed {rows : List (CardOwnershipLedger Digest)}
    (h : ∀ row ∈ rows, Sealed row) :
    (verifyOwnershipChain rows).valid = true ↔
      Linked expectedHash CardOwnershipLedger.previousHash none
        (replay CardOwnershipLedger.chainKey rows) := by
  have hreplay : ∀ row ∈ replay CardOwnershipLedger.chainKey rows, Sealed row :=
    fun row hmem => h row ((replay_perm _ _).mem_iff.mp hmem)
  simpa [verifyOwnershipChain] using scan_violations hreplay ⟨none, 0, 0, []⟩

/-- The chain of an owner verifies exactly when the rows of each instant drew their
identifiers in increasing order. -/
theorem ownershipChain_valid_iff
    (hinj : Function.Injective (RecordHash.sha256 : OwnershipHashPayload Digest → Digest))
    (calls : List LedgerCall) (userId : UserId)
    (htime : ((calls.filter (fun call => call.event.userId == userId)).map
      LedgerCall.timestamp).Pairwise (· ≤ ·)) :
    (verifyOwnershipChain (userRows (ledgerAfter Digest calls) userId)).valid = true ↔
      TiesDrawnInOrder (userRows (ledgerAfter Digest calls) userId) := by
  have hw : LedgerWritten (ledgerAfter Digest calls) := ledgerAfter_written calls
  have hids : (userRows (ledgerAfter Digest calls) userId).Pairwise
      (fun row row' => row.id ≠ row'.id) := by
    have hpair : (ledgerAfter Digest calls).Pairwise (fun row row' => row.id ≠ row'.id) :=
      List.pairwise_map.mp hw.ids
    exact hpair.filter _
  have hne : (userRows (ledgerAfter Digest calls) userId).Pairwise
      (fun row row' => row.chainKey ≠ row'.chainKey) :=
    hids.imp fun hid heq => hid (congrArg (fun key => (ofLex key).2) heq)
  have hhash : ∀ row ∈ userRows (ledgerAfter Digest calls) userId,
      ∀ row' ∈ userRows (ledgerAfter Digest calls) userId,
        expectedHash row = expectedHash row' → row = row' := by
    intro row hrow row' hrow' heq
    by_contra hcon
    have hfacts := congrArg (fun payload => payload.facts.id) (hinj heq)
    have : Std.Symm (fun row row' : CardOwnershipLedger Digest => row.id ≠ row'.id) :=
      ⟨fun _ _ hxy => hxy.symm⟩
    exact hids.forall hrow hrow' hcon hfacts
  rw [verifyOwnershipChain_sealed (fun row hmem => hw.allSealed row (userRows_mem hmem)),
    (hw.written userId).linked_iff hne hhash]
  exact chainKey_pairwise_iff (htime.sublist (userRows_timestamps calls userId))

end

/-- The acceptance loop passes one `now` for both cards that the trade moves to the fan. -/
def tradedPair (firstId secondId : LedgerId) : List LedgerCall :=
  [⟨{ userCardId := "uc_1", userId := "fan", cardId := "card", action := "transfer",
      sourceType := "trade", sourceId := "proposal:uc_1", fromUserId := some "other",
      toUserId := some "fan", createdAt := some 7 }, firstId, 7⟩,
   ⟨{ userCardId := "uc_2", userId := "fan", cardId := "card", action := "transfer",
      sourceType := "trade", sourceId := "proposal:uc_2", fromUserId := some "other",
      toUserId := some "fan", createdAt := some 7 }, secondId, 7⟩]

theorem ownershipChain_valid_tradedPair :
    (verifyOwnershipChain
      (userRows (ledgerAfter SymbolicDigest (tradedPair "ledger_a" "ledger_b")) "fan")).valid = true :=
  (ownershipChain_valid_iff symbolicDigest_injective (tradedPair "ledger_a" "ledger_b") "fan"
    (by decide)).mpr (by decide)

/-- Drawn the other way round, the identifiers of one trade break the fan's chain. -/
theorem ownershipChain_broken_tradedPair :
    Function.Injective (RecordHash.sha256 : OwnershipHashPayload SymbolicDigest → _) ∧
    ((tradedPair "ledger_b" "ledger_a").map (·.ledgerId)).Nodup ∧
    (((tradedPair "ledger_b" "ledger_a").filter (fun call => call.event.userId == "fan")).map
      LedgerCall.timestamp).Pairwise (· ≤ ·) ∧
    (verifyOwnershipChain
      (userRows (ledgerAfter SymbolicDigest (tradedPair "ledger_b" "ledger_a")) "fan")).valid = false :=
  ⟨symbolicDigest_injective, by decide, by decide, by decide⟩

end Fanfolio
