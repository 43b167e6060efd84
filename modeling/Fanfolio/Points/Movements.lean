import Fanfolio.Points.Reconciliation

/-!
# Movements of points

A movement posts one row under its rule and leaves charges and transactions alone. As long as
balances are not negative and identifiers are new, it fails with an `AppError` only.
-/

namespace Fanfolio

open Framework

/-- The movement posts at most one row, under its rule. -/
structure Moved (ruleKey : String) (db db' : PointDb) : Prop where
  posts : PostsAtMostOnce db db'
  charges : db'.charges = db.charges
  transactions : db'.transactions = db.transactions
  rules : ∀ row ∈ db'.ledger, row ∈ db.ledger ∨ row.ruleKey = ruleKey

/-- The computation fails with an `AppError`, if it fails. -/
abbrev Refuses {α : Type} (x : Except Failure α) : Prop := FailsIn (·.isRefusal) x

variable {db : PointDb} {userId : UserId} {eventId : EventId} {ruleKey : String} {amount : Int}
  {description : Option String} {metadata : Option JsonObject} {ledgerId : LedgerId}

/-- The balances meet the check constraint of their table. -/
def PointDb.Funded (db : PointDb) : Prop := ∀ row ∈ db.balances, 0 ≤ row.balance

theorem PostsAtMostOnce.funded {db' : PointDb} (h : PostsAtMostOnce db db') (hfunded : db.Funded) :
    db'.Funded := by
  obtain hsame | ⟨row, hposted⟩ := h
  · rw [PointDb.Funded, hsame.balances]
    exact hfunded
  · exact hposted.balanceSet.nonneg hfunded

theorem PostsAtMostOnce.ledger {db' : PointDb} (h : PostsAtMostOnce db db') :
    ∀ row ∈ db.ledger, row ∈ db'.ledger := by
  intro row hrow
  obtain hsame | ⟨posted, hposted⟩ := h
  · rwa [hsame.ledger]
  · rw [hposted.ledger]
    exact List.mem_append_left _ hrow

section

variable {db' : PointDb} {row : PointLedger}

@[simp] theorem getOrCreatePointBalance_charges :
    (db.getOrCreatePointBalanceForUpdate userId).1.charges = db.charges := by
  unfold PointDb.getOrCreatePointBalanceForUpdate
  split <;> rfl

@[simp] theorem getOrCreatePointBalance_events :
    (db.getOrCreatePointBalanceForUpdate userId).1.events = db.events := by
  unfold PointDb.getOrCreatePointBalanceForUpdate
  split <;> rfl

@[simp] theorem getOrCreatePointBalance_transactions :
    (db.getOrCreatePointBalanceForUpdate userId).1.transactions = db.transactions := by
  unfold PointDb.getOrCreatePointBalanceForUpdate
  split <;> rfl

theorem getOrCreatePointBalance_nonneg (h : db.Funded) :
    0 ≤ (db.getOrCreatePointBalanceForUpdate userId).2.balance := by
  unfold PointDb.getOrCreatePointBalanceForUpdate
  split
  · rename_i balance hfound
    exact h balance (List.mem_of_find?_eq_some hfound)
  · exact le_rfl

theorem grantPoints_moved {expiresAt : Option Time}
    (h : grantPoints db userId eventId ruleKey amount description metadata expiresAt ledgerId =
      .ok (db', row)) : Moved ruleKey db db' := by
  have hposts := grantPoints_posts h
  simp only [grantPoints, bind_ok, ensure_ok, exists_const] at h
  obtain ⟨-, h⟩ := h
  split at h
  · obtain ⟨rfl, -⟩ := Prod.mk.inj (pure_ok.mp h)
    exact ⟨hposts, rfl, rfl, fun _ => .inl⟩
  · simp only [bind_ok, pure_ok, Prod.mk.injEq] at h
    obtain ⟨inserted, hinsert, written, hwrite, rfl, -⟩ := h
    obtain ⟨hfresh, -, rfl⟩ := insertLedger_ok.mp hinsert
    obtain ⟨-, rfl⟩ := writeBalance_ok.mp hwrite
    refine ⟨hposts, by simp, by simp, ?_⟩
    intro row hrow
    obtain ⟨row', hrow', rfl⟩ := mem_patch.mp hrow
    simp only [getOrCreatePointBalance_ledger, List.mem_append, List.mem_singleton] at hrow'
    rcases hrow' with hold | rfl
    · rw [if_neg (by simpa using hfresh row' hold)]
      exact .inl hold
    · exact .inr (by simp)

theorem spendPoints_moved
    (h : spendPoints db userId eventId ruleKey amount description metadata ledgerId =
      .ok (db', row)) : Moved ruleKey db db' ∧ row ∈ db'.ledger := by
  have hposts := spendPoints_posts h
  simp only [spendPoints, bind_ok, ensure_ok, exists_const] at h
  obtain ⟨-, h⟩ := h
  split at h
  · rename_i hfound
    obtain ⟨rfl, rfl⟩ := Prod.mk.inj (pure_ok.mp h)
    exact ⟨⟨hposts, rfl, rfl, fun _ => .inl⟩, List.mem_of_find?_eq_some hfound⟩
  · simp only [bind_ok, orFail_ok, ensure_ok, exists_const, pure_ok, Prod.mk.injEq] at h
    obtain ⟨balance, -, -, written, hwrite, inserted, hinsert, rfl, rfl⟩ := h
    obtain ⟨-, rfl⟩ := writeBalance_ok.mp hwrite
    obtain ⟨-, -, rfl⟩ := insertLedger_ok.mp hinsert
    refine ⟨⟨hposts, rfl, rfl, ?_⟩, by simp⟩
    intro row hrow
    rcases List.mem_append.mp hrow with hold | hnew
    · exact .inl hold
    · exact .inr (by rw [List.mem_singleton.mp hnew])

/-- A purchase is covered by the balance, or was paid before. -/
theorem spendPoints_covered
    (h : spendPoints db userId eventId ruleKey amount description metadata ledgerId =
      .ok (db', row)) :
    0 < amount ∧ (amount ≤ db.balanceOf userId ∨
      ∃ row ∈ db.ledger, row.userId = userId ∧ row.sourceEventId = eventId ∧
        row.ruleKey = ruleKey) := by
  simp only [spendPoints, bind_ok, ensure_ok, exists_const] at h
  obtain ⟨hamount, h⟩ := h
  refine ⟨hamount, ?_⟩
  split at h
  · rename_i existing hfound
    have hkey := List.find?_some hfound
    simp only [Bool.and_eq_true, beq_iff_eq, and_assoc] at hkey
    exact .inr ⟨existing, List.mem_of_find?_eq_some hfound, hkey⟩
  · simp only [bind_ok, orFail_ok, ensure_ok, exists_const] at h
    obtain ⟨balance, hfound, hcovered, -⟩ := h
    refine .inl ?_
    simpa [PointDb.balanceOf, balanceIn, hfound] using hcovered

/-- Nothing is found under a new event. -/
theorem findLedger_of_new (h : ∀ row ∈ db.ledger, row.sourceEventId ≠ eventId) :
    db.findLedger userId eventId ruleKey = none := by
  rw [PointDb.findLedger, List.find?_eq_none]
  intro row hrow hkey
  simp only [Bool.and_eq_true, beq_iff_eq] at hkey
  exact h row hrow hkey.1.2

/-- A purchase that the balance covers goes through for a new event. -/
theorem spendPoints_pays
    (hamount : 0 < amount) (hcovered : amount ≤ db.balanceOf userId)
    (hfresh : ∀ row ∈ db.ledger, row.id ≠ ledgerId ∧ row.sourceEventId ≠ eventId) :
    ∃ spent ledger, spendPoints db userId eventId ruleKey amount description metadata ledgerId =
      .ok (spent, ledger) := by
  have hnone : db.findLedger userId eventId ruleKey = none :=
    findLedger_of_new fun row hrow => (hfresh row hrow).2
  cases hfound : db.balances.find? (fun row => row.userId == userId) with
  | none =>
    rw [PointDb.balanceOf, balanceIn, hfound] at hcovered
    exact absurd hcovered (not_le.mpr hamount)
  | some balance =>
    rw [PointDb.balanceOf, balanceIn, hfound] at hcovered
    have hcovers : amount ≤ balance.balance := hcovered
    simp only [spendPoints, hnone, hfound, bind_ok, ensure_ok, exists_const, orFail_ok,
      Option.some.injEq, exists_eq_left', pure_ok, writeBalance_ok, insertLedger_ok]
    exact ⟨_, _, hamount, hcovers, _, ⟨by omega, rfl⟩, _,
      ⟨fun row hrow => (hfresh row hrow).1, hnone, rfl⟩, rfl⟩

/-- A grant goes through for a new event. -/
theorem grantPoints_pays {expiresAt : Option Time} (hfunded : db.Funded) (hamount : 0 < amount)
    (hid : ∀ row ∈ db.ledger, row.id ≠ ledgerId)
    (hnone : db.findLedger userId eventId ruleKey = none) :
    ∃ granted ledger, grantPoints db userId eventId ruleKey amount description metadata expiresAt
      ledgerId = .ok (granted, ledger) := by
  have hnonneg : 0 ≤ db.balanceOf userId + amount := by
    have hbalance : 0 ≤ db.balanceOf userId := by
      rw [← getOrCreatePointBalance_balance]
      exact getOrCreatePointBalance_nonneg hfunded
    omega
  simp only [grantPoints, hnone, bind_ok, ensure_ok, exists_const, insertLedger_ok, pure_ok,
    writeBalance_ok]
  refine ⟨_, _, hamount, _, ⟨hid, trivial, rfl⟩, _, ⟨?_, rfl⟩, rfl⟩
  rw [getOrCreatePointBalance_balance]
  exact hnonneg

theorem reversePoints_moved {reversedLedgerId : LedgerId}
    (h : reversePoints db userId eventId ruleKey amount reversedLedgerId description metadata
      ledgerId = .ok (db', row)) : Moved ruleKey db db' ∧ row ∈ db'.ledger := by
  have hposts := reversePoints_posts h
  simp only [reversePoints, bind_ok, ensure_ok, exists_const] at h
  obtain ⟨-, h⟩ := h
  split at h
  · rename_i hfound
    obtain ⟨rfl, rfl⟩ := Prod.mk.inj (pure_ok.mp h)
    exact ⟨⟨hposts, rfl, rfl, fun _ => .inl⟩, List.mem_of_find?_eq_some hfound⟩
  · simp only [bind_ok, pure_ok, Prod.mk.injEq] at h
    obtain ⟨written, hwrite, inserted, hinsert, rfl, rfl⟩ := h
    obtain ⟨-, rfl⟩ := writeBalance_ok.mp hwrite
    obtain ⟨-, -, rfl⟩ := insertLedger_ok.mp hinsert
    refine ⟨⟨hposts, by simp, by simp, ?_⟩, by simp⟩
    intro row hrow
    simp only [getOrCreatePointBalance_ledger, List.mem_append, List.mem_singleton] at hrow
    rcases hrow with hold | rfl
    · exact .inl hold
    · exact .inr rfl

/-- The events do not matter to a movement. -/
theorem Moved.of_events {events : List EngagementEvent}
    (h : Moved ruleKey { db with events := events } db') : Moved ruleKey db db' :=
  ⟨h.posts.of_tables rfl rfl rfl rfl, h.charges, h.transactions, h.rules⟩

end

theorem recordEngagementEvent_refuses {events : List EngagementEvent}
    (hfresh : ∀ event ∈ events, event.id ≠ eventId) (kind sourceType sourceId : String)
    (payload : JsonObject) :
    Refuses (recordEngagementEvent events userId kind sourceType sourceId payload eventId) := by
  obtain ⟨events', event, hok, -⟩ :=
    recordEngagementEvent_fresh hfresh userId kind sourceType sourceId payload
  exact .of_ok hok

theorem insertLedger_refuses {row : PointLedger} (hfresh : ∀ row' ∈ db.ledger, row'.id ≠ row.id)
    (hkey : db.findLedger row.userId row.sourceEventId row.ruleKey = none) :
    Refuses (db.insertLedger row) := .of_ok (insertLedger_ok.mpr ⟨hfresh, hkey, rfl⟩)

theorem writeBalance_refuses {balance : Int} (h : 0 ≤ balance) :
    Refuses (db.writeBalance userId balance) := .of_ok (writeBalance_ok.mpr ⟨h, rfl⟩)

theorem getOrCreatePointBalance_findLedger :
    (db.getOrCreatePointBalanceForUpdate userId).1.findLedger = db.findLedger := by
  funext userId' eventId' ruleKey'
  simp [PointDb.findLedger]

theorem grantPoints_refuses {expiresAt : Option Time} (hfunded : db.Funded)
    (hfresh : ∀ row ∈ db.ledger, row.id ≠ ledgerId) :
    Refuses (grantPoints db userId eventId ruleKey amount description metadata expiresAt
      ledgerId) := by
  refine FailsIn.bind_of (.ensure rfl) ?_
  intro _ hamount
  rw [ensure_ok] at hamount
  split
  · exact .pure _
  · rename_i hnone
    refine FailsIn.bind_of (insertLedger_refuses hfresh hnone) ?_
    intro inserted hinsert
    obtain ⟨-, -, rfl⟩ := insertLedger_ok.mp hinsert
    refine FailsIn.bind (writeBalance_refuses ?_) fun _ => .pure _
    exact add_nonneg (getOrCreatePointBalance_nonneg hfunded) hamount.le

theorem spendPoints_refuses (hfresh : ∀ row ∈ db.ledger, row.id ≠ ledgerId) :
    Refuses (spendPoints db userId eventId ruleKey amount description metadata ledgerId) := by
  refine FailsIn.bind (.ensure rfl) fun _ => ?_
  split
  · exact .pure _
  · rename_i hnone
    refine FailsIn.bind (.orFail rfl) fun balance => ?_
    refine FailsIn.bind_of (.ensure rfl) ?_
    intro _ hcovered
    rw [ensure_ok] at hcovered
    refine FailsIn.bind_of (writeBalance_refuses (by omega)) ?_
    intro written hwrite
    obtain ⟨-, rfl⟩ := writeBalance_ok.mp hwrite
    exact FailsIn.bind (insertLedger_refuses hfresh hnone) fun _ => .pure _

theorem reversePoints_refuses {reversedLedgerId : LedgerId} (hfunded : db.Funded)
    (hfresh : ∀ row ∈ db.ledger, row.id ≠ ledgerId) :
    Refuses (reversePoints db userId eventId ruleKey amount reversedLedgerId description metadata
      ledgerId) := by
  refine FailsIn.bind_of (.ensure rfl) ?_
  intro _ hamount
  rw [ensure_ok] at hamount
  split
  · exact .pure _
  · rename_i hnone
    refine FailsIn.bind_of (writeBalance_refuses ?_) ?_
    · exact add_nonneg (getOrCreatePointBalance_nonneg hfunded) hamount.le
    · intro written hwrite
      obtain ⟨-, rfl⟩ := writeBalance_ok.mp hwrite
      refine FailsIn.bind (insertLedger_refuses ?_ ?_) fun _ => .pure _
      · change ∀ row ∈ (db.getOrCreatePointBalanceForUpdate userId).1.ledger, row.id ≠ ledgerId
        rwa [getOrCreatePointBalance_ledger]
      · change (db.getOrCreatePointBalanceForUpdate userId).1.findLedger userId eventId ruleKey = none
        rwa [getOrCreatePointBalance_findLedger]

theorem insertTransaction_refuses {row : PointTransaction}
    (hfresh : ∀ row' ∈ db.transactions, row'.id ≠ row.id)
    (hkey : db.findTransaction row.userId row.operation row.idempotencyKey = none) :
    Refuses (db.insertTransaction row) := by
  apply FailsIn.of_ok
  simp only [PointDb.insertTransaction, bind_ok, ensure_ok, exists_const]
  exact ⟨hfresh, hkey, rfl⟩

theorem insertCharge_refuses {row : PointCharge} (hfresh : ∀ row' ∈ db.charges, row'.id ≠ row.id)
    (hkey : db.charges.find? (fun row' =>
      row'.userId == row.userId && row'.idempotencyKey == row.idempotencyKey) = none) :
    Refuses (db.insertCharge row) := by
  apply FailsIn.of_ok
  simp only [PointDb.insertCharge, bind_ok, ensure_ok, exists_const]
  refine ⟨hfresh, ?_, rfl⟩
  simpa using hkey

/-- The charge under the unique key `uq_point_charges_user_key`. -/
def PointDb.chargeUnder (db : PointDb) (userId : UserId) (key : String) : Option PointCharge :=
  db.charges.find? fun row => row.userId == userId && row.idempotencyKey == key

section

variable {db' : PointDb} {packageId : PackageId} {paymentMethod key : String} {draws : PointDraws}
  {now : Time} {charge : PointCharge} {chargeId : ChargeId}

theorem resolvePointChargePackage_ok {package : PointChargePackage}
    (h : resolvePointChargePackage db packageId now = .ok (db', package)) :
    ∃ packages, db' = { db with packages := packages } := by
  simp only [resolvePointChargePackage, bind_ok, orFail_ok, ensure_ok, exists_const, pure_ok,
    Prod.mk.injEq] at h
  obtain ⟨_, -, -, -, rfl, -⟩ := h
  unfold ensurePointChargePackages
  split <;> exact ⟨_, rfl⟩

/-- A charge is found under its key, or made and recorded. -/
theorem createPointCharge_ok
    (h : createPointCharge db userId packageId paymentMethod key draws now = .ok (db', charge)) :
    (db.chargeUnder userId key = some charge ∧ ∃ packages, db' = { db with packages := packages }) ∨
      db.chargeUnder userId key = none ∧ (∀ row ∈ db.charges, row.id ≠ charge.id) ∧
        charge.userId = userId ∧ charge.packageId = packageId ∧
        charge.paymentMethod = paymentMethod ∧ charge.idempotencyKey = key ∧
        charge.status = .completed ∧
        ∃ points transaction, Moved ("point_charge:" ++ packageId) db points ∧
          db' = { points with
            charges := points.charges ++ [charge]
            transactions := points.transactions ++ [transaction] } ∧
          transaction.userId = userId ∧ transaction.operation = .charge ∧
          transaction.idempotencyKey = key := by
  simp only [createPointCharge, bind_ok, Prod.exists] at h
  obtain ⟨stocked, package, hpackage, h⟩ := h
  obtain ⟨packages, rfl⟩ := resolvePointChargePackage_ok hpackage
  split at h
  · rename_i existing hfound
    obtain ⟨rfl, rfl⟩ := Prod.mk.inj (pure_ok.mp h)
    exact .inl ⟨hfound, packages, rfl⟩
  · rename_i hnone
    simp only [bind_ok, Prod.exists, pure_ok, Prod.mk.injEq, PointDb.insertCharge,
      PointDb.insertTransaction, ensure_ok, exists_const] at h
    obtain ⟨events, event, -, granted, ledger, hgrant, charged, ⟨hid, -, rfl⟩, recorded,
      ⟨-, -, rfl⟩, rfl, rfl⟩ := h
    have hmoved := grantPoints_moved hgrant
    refine .inr ⟨hnone, ?_, rfl, rfl, rfl, rfl, rfl, granted, _, ?_, rfl, rfl, rfl, rfl⟩
    · rw [hmoved.charges] at hid
      exact hid
    · exact ⟨hmoved.posts.of_tables rfl rfl rfl rfl, hmoved.charges, hmoved.transactions,
        hmoved.rules⟩

/-- A charge refund is found under its key, or finds the charge refunded, or is made and
recorded. -/
theorem refundPointCharge_ok
    (h : refundPointCharge db userId chargeId key draws now = .ok (db', charge)) :
    (∃ transaction, db.findTransaction userId .refund key = some transaction ∧
        transaction.resourceId = some chargeId ∧ db' = db) ∨
      db.findTransaction userId .refund key = none ∧ ∃ found ∈ db.charges,
        db.charges.find? (fun row => row.id == chargeId && row.userId == userId) = some found ∧
        found.id = chargeId ∧ found.userId = userId ∧
        (found.status = .refunded ∧ db' = db ∨ found.status = .completed ∧
          ∃ points transaction, Moved ("point_charge_refund:" ++ chargeId) db points ∧
            (∀ row ∈ points.ledger, row ∈ db.ledger ∨ row.userId = userId) ∧
            db' = { points with
              charges := patch (·.id == found.id)
                ({ · with status := .refunded, refundedAt := some now }) points.charges
              transactions := points.transactions ++ [transaction] } ∧
            transaction.userId = userId ∧ transaction.operation = .refund ∧
            transaction.idempotencyKey = key ∧ transaction.ledgerId = none ∧
            transaction.resourceId = some chargeId) := by
  have hposts := refundPointCharge_posts h
  simp only [refundPointCharge] at h
  split at h
  · rename_i transaction hfound
    simp only [bind_ok, ensure_ok, exists_const, orFail_ok, pure_ok, Prod.mk.injEq] at h
    obtain ⟨hresource, _, -, rfl, -⟩ := h
    exact .inl ⟨transaction, hfound, hresource, rfl⟩
  · rename_i hnone
    simp only [bind_ok, orFail_ok] at h
    obtain ⟨found, hfound, h⟩ := h
    have hkey := List.find?_some hfound
    simp only [Bool.and_eq_true, beq_iff_eq] at hkey
    refine .inr ⟨hnone, found, List.mem_of_find?_eq_some hfound, hfound, hkey.1, hkey.2, ?_⟩
    split at h
    · rename_i hstatus
      exact .inl ⟨hstatus, (Prod.mk.inj (pure_ok.mp h)).1.symm⟩
    · simp only [bind_ok, ensure_ok, exists_const, orFail_ok, Prod.exists, pure_ok,
        Prod.mk.injEq, PointDb.insertTransaction] at h
      obtain ⟨hstatus, _, -, events, event, -, -, written, hwrite, inserted, hinsert, recorded,
        ⟨-, -, rfl⟩, rfl, -⟩ := h
      obtain ⟨-, rfl⟩ := writeBalance_ok.mp hwrite
      obtain ⟨-, -, hinserted⟩ := insertLedger_ok.mp hinsert
      have hledger : ∃ row : PointLedger, inserted.ledger = db.ledger ++ [row] ∧
          row.userId = userId ∧ row.ruleKey = "point_charge_refund:" ++ found.id := by
        rw [← hinserted]
        exact ⟨_, congrArg (· ++ [_]) getOrCreatePointBalance_ledger, rfl, rfl⟩
      have hcharges : inserted.charges = db.charges := by
        rw [← hinserted]
        exact getOrCreatePointBalance_charges
      have htransactions : inserted.transactions = db.transactions := by
        rw [← hinserted]
        exact getOrCreatePointBalance_transactions
      let transaction : PointTransaction :=
        { id := draws.transactionId, userId := userId, operation := .refund
          idempotencyKey := key, amount := -found.points, resourceType := "point_charge"
          resourceId := found.id }
      obtain ⟨row, hrow, huser, hrule⟩ := hledger
      rw [hkey.1] at hrule
      refine .inr ⟨hstatus, inserted, transaction,
        ⟨hposts.of_tables rfl rfl rfl rfl, hcharges, htransactions, ?_⟩, ?_, rfl, rfl, rfl, rfl, rfl,
        congrArg some hkey.1⟩
      · intro row' hrow'
        rw [hrow, List.mem_append, List.mem_singleton] at hrow'
        rcases hrow' with hold | rfl
        · exact .inl hold
        · exact .inr hrule
      · intro row' hrow'
        rw [hrow, List.mem_append, List.mem_singleton] at hrow'
        rcases hrow' with hold | rfl
        · exact .inl hold
        · exact .inr huser

theorem createPointCharge_refuses (hfunded : db.Funded)
    (hevents : ∀ row ∈ db.events, row.id ≠ draws.eventId)
    (hledger : ∀ row ∈ db.ledger, row.id ≠ draws.ledgerId)
    (hcharges : ∀ row ∈ db.charges, row.id ≠ draws.chargeId)
    (htransactions : ∀ row ∈ db.transactions, row.id ≠ draws.transactionId)
    (hkey : (resolvePointChargePackage db packageId now).isOk → db.chargeUnder userId key = none →
      db.findTransaction userId .charge key = none) :
    Refuses (createPointCharge db userId packageId paymentMethod key draws now) := by
  have hresolve : Refuses (resolvePointChargePackage db packageId now) := by
    refine FailsIn.bind (.orFail rfl) fun package => ?_
    refine FailsIn.bind (.ensure rfl) fun _ => ?_
    exact FailsIn.bind (.ensure rfl) fun _ => .pure _
  refine hresolve.bind_of ?_
  rintro ⟨stocked, package⟩ hpackage
  have hisOk : (resolvePointChargePackage db packageId now).isOk := by
    rw [hpackage]
    rfl
  obtain ⟨packages, rfl⟩ := resolvePointChargePackage_ok hpackage
  dsimp only
  split
  · exact .pure _
  · rename_i hnone
    refine FailsIn.bind (recordEngagementEvent_refuses hevents _ _ _ _) ?_
    rintro ⟨events, event⟩
    refine FailsIn.bind_of (grantPoints_refuses hfunded hledger) ?_
    rintro ⟨granted, entry⟩ hgrant
    have hmoved := grantPoints_moved hgrant
    refine FailsIn.bind_of (insertCharge_refuses ?_ ?_) ?_
    · change ∀ row ∈ granted.charges, row.id ≠ draws.chargeId
      rw [hmoved.charges]
      exact hcharges
    · rw [hmoved.charges]
      exact hnone
    · intro charged hcharge
      simp only [PointDb.insertCharge, bind_ok, ensure_ok, exists_const, pure_ok] at hcharge
      obtain ⟨-, -, rfl⟩ := hcharge
      refine FailsIn.bind (insertTransaction_refuses ?_ ?_) fun _ => .pure _
      · change ∀ row ∈ granted.transactions, row.id ≠ draws.transactionId
        rw [hmoved.transactions]
        exact htransactions
      · change granted.findTransaction userId .charge key = none
        rw [PointDb.findTransaction, hmoved.transactions]
        exact hkey hisOk hnone

theorem refundPointCharge_refuses
    (hevents : ∀ row ∈ db.events, row.id ≠ draws.eventId)
    (hledger : ∀ row ∈ db.ledger, row.id ≠ draws.ledgerId)
    (htransactions : ∀ row ∈ db.transactions, row.id ≠ draws.transactionId)
    (hrules : ∀ row ∈ db.ledger, row.userId = userId →
      row.ruleKey = "point_charge_refund:" ++ chargeId →
      ∀ found ∈ db.charges, found.id = chargeId → found.userId = userId →
        found.status = .refunded) :
    Refuses (refundPointCharge db userId chargeId key draws now) := by
  unfold refundPointCharge
  dsimp only
  split
  · refine FailsIn.bind (.ensure rfl) fun _ => ?_
    exact FailsIn.bind (.orFail rfl) fun _ => .pure _
  · rename_i hnone
    refine FailsIn.bind_of (.orFail rfl) ?_
    intro charge hcharge
    rw [orFail_ok] at hcharge
    have hkey := List.find?_some hcharge
    simp only [Bool.and_eq_true, beq_iff_eq] at hkey
    split
    · exact .pure _
    · rename_i hstatus
      have hfree : ∀ row ∈ db.ledger, row.userId = userId →
          row.ruleKey ≠ "point_charge_refund:" ++ charge.id := by
        intro row hrow huser hrule
        rw [hkey.1] at hrule
        exact hstatus
          (hrules row hrow huser hrule charge (List.mem_of_find?_eq_some hcharge) hkey.1 hkey.2)
      refine FailsIn.bind (.ensure rfl) fun _ => ?_
      refine FailsIn.bind (.orFail rfl) fun _ => ?_
      refine FailsIn.bind (recordEngagementEvent_refuses hevents _ _ _ _) ?_
      rintro ⟨events, event⟩
      refine FailsIn.bind_of (.ensure rfl) ?_
      intro _ hcovered
      rw [ensure_ok] at hcovered
      refine FailsIn.bind_of (writeBalance_refuses (by omega)) ?_
      intro written hwrite
      obtain ⟨-, rfl⟩ := writeBalance_ok.mp hwrite
      refine FailsIn.bind_of (insertLedger_refuses ?_ ?_) ?_
      · change ∀ row ∈ (PointDb.getOrCreatePointBalanceForUpdate _ userId).1.ledger,
          row.id ≠ draws.ledgerId
        rw [getOrCreatePointBalance_ledger]
        exact hledger
      · change (PointDb.getOrCreatePointBalanceForUpdate _ userId).1.findLedger userId event.id
          ("point_charge_refund:" ++ charge.id) = none
        rw [getOrCreatePointBalance_findLedger]
        refine List.find?_eq_none.mpr ?_
        intro row hrow
        have hother := hfree row hrow
        simp only [Bool.and_eq_true, beq_iff_eq]
        exact fun hkeys => hother hkeys.1.1 hkeys.2
      · intro inserted hinsert
        obtain ⟨-, -, rfl⟩ := insertLedger_ok.mp hinsert
        refine FailsIn.bind (insertTransaction_refuses ?_ ?_) fun _ => .pure _
        · change ∀ row ∈ (PointDb.getOrCreatePointBalanceForUpdate _ userId).1.transactions,
            row.id ≠ draws.transactionId
          rw [getOrCreatePointBalance_transactions]
          exact htransactions
        · change List.find? _ (PointDb.getOrCreatePointBalanceForUpdate _ userId).1.transactions = none
          rw [getOrCreatePointBalance_transactions]
          exact hnone

end

end Fanfolio
