import Fanfolio.Points.Operations
import Fanfolio.Framework.Journal
import Mathlib.Data.List.Induction

/-!
# Balances agree with the ledger

An operation either changes neither balances nor ledger, or appends one row and sets the
balance of that row's user to what the row states.
-/

namespace Fanfolio

open Framework

section Effects

/-- The second table holds the balances of the first, with the balance of one user set. -/
structure BalanceSet (rows rows' : List PointBalance) (userId : UserId) (balance : Int) :
    Prop where
  balanceIn : ∀ userId', balanceIn rows' userId' =
    if userId = userId' then balance else balanceIn rows userId'
  users : (rows.map (·.userId)).Nodup → (rows'.map (·.userId)).Nodup
  nonneg : (∀ row ∈ rows, 0 ≤ row.balance) → ∀ row ∈ rows', 0 ≤ row.balance

/-- The operation appended one row and set the balance it states. -/
structure Posted (db db' : PointDb) (row : PointLedger) : Prop where
  ledger : db'.ledger = db.ledger ++ [row]
  freshId : ∀ row' ∈ db.ledger, row'.id ≠ row.id
  balanceAfter : row.balanceAfter = db.balanceOf row.userId + row.amount
  balanceSet : BalanceSet db.balances db'.balances row.userId row.balanceAfter

/-- The operation changed neither balances nor ledger. -/
structure Unposted (db db' : PointDb) : Prop where
  ledger : db'.ledger = db.ledger
  balances : db'.balances = db.balances

def PostsAtMostOnce (db db' : PointDb) : Prop := Unposted db db' ∨ ∃ row, Posted db db' row

variable {db db' : PointDb} {userId : UserId} {balance : Int} {row : PointLedger}

theorem insertLedger_ok : db.insertLedger row = .ok db' ↔
    (∀ row' ∈ db.ledger, row'.id ≠ row.id) ∧
      db.findLedger row.userId row.sourceEventId row.ruleKey = none ∧
      { db with ledger := db.ledger ++ [row] } = db' := by
  simp [PointDb.insertLedger]

theorem writeBalance_ok : db.writeBalance userId balance = .ok db' ↔
    0 ≤ balance ∧
      { db with balances := patch (·.userId == userId) ({ · with balance := balance }) db.balances }
        = db' := by
  simp [PointDb.writeBalance]

private theorem balanceSet_of_write (hfound : ∃ row ∈ db.balances, row.userId = userId)
    (h : db.writeBalance userId balance = .ok db') :
    BalanceSet db.balances db'.balances userId balance := by
  obtain ⟨hnonneg, rfl⟩ := writeBalance_ok.mp h
  refine ⟨?_, ?_, ?_⟩
  · intro userId'
    simp only [balanceIn]
    rw [find_patch (by intro _; rfl), Option.map_map]
    by_cases hu : userId = userId'
    · obtain ⟨row, hmem, hrow⟩ := hfound
      obtain ⟨found, hfind⟩ : ∃ found, db.balances.find? (·.userId == userId') = some found := by
        apply Option.isSome_iff_exists.mp
        rw [List.find?_isSome]
        exact ⟨row, hmem, by simp [hrow, hu]⟩
      have hfoundUser := List.find?_some hfind
      simp only [beq_iff_eq] at hfoundUser
      simp [hfind, hfoundUser, hu]
    · cases hfind : db.balances.find? (·.userId == userId') with
      | none => simp [hu]
      | some found =>
        have hfoundUser := List.find?_some hfind
        simp only [beq_iff_eq] at hfoundUser
        simp [hfoundUser, hu, Ne.symm hu]
  · intro hnd
    show (List.map _ (patch _ _ db.balances)).Nodup
    rw [map_patch (by intro _; rfl)]
    exact hnd
  · intro hall row hmem
    obtain ⟨row', hmem', rfl⟩ := mem_patch.mp hmem
    split
    · exact hnonneg
    · exact hall row' hmem'

theorem getOrCreatePointBalance_found (h : db.balances.find? (fun row => row.userId == userId) =
    some ⟨userId', balance⟩) :
    db.getOrCreatePointBalanceForUpdate userId = (db, ⟨userId', balance⟩) := by
  simp [PointDb.getOrCreatePointBalanceForUpdate, h]

theorem getOrCreatePointBalance_balance :
    (db.getOrCreatePointBalanceForUpdate userId).2.balance = db.balanceOf userId := by
  cases h : db.balances.find? (fun row => row.userId == userId) <;>
    simp [PointDb.getOrCreatePointBalanceForUpdate, PointDb.balanceOf, balanceIn, h]

@[simp] theorem getOrCreatePointBalance_ledger :
    (db.getOrCreatePointBalanceForUpdate userId).1.ledger = db.ledger := by
  cases h : db.balances.find? (fun row => row.userId == userId) <;>
    simp [PointDb.getOrCreatePointBalanceForUpdate, h]

/-- Writing the balance of a row that was found or created. -/
theorem balanceSet_of_getOrCreate
    (h : (db.getOrCreatePointBalanceForUpdate userId).1.writeBalance userId balance = .ok db') :
    BalanceSet db.balances db'.balances userId balance := by
  cases hfind : db.balances.find? (fun row => row.userId == userId) with
  | some found =>
    have hcreated : (db.getOrCreatePointBalanceForUpdate userId).1 = db := by
      simp [PointDb.getOrCreatePointBalanceForUpdate, hfind]
    rw [hcreated] at h
    have hfoundUser := List.find?_some hfind
    simp only [beq_iff_eq] at hfoundUser
    exact balanceSet_of_write ⟨found, List.mem_of_find?_eq_some hfind, hfoundUser⟩ h
  | none =>
    have hcreated : (db.getOrCreatePointBalanceForUpdate userId).1 =
        { db with balances := db.balances ++ [{ userId := userId }] } := by
      simp [PointDb.getOrCreatePointBalanceForUpdate, hfind]
    rw [hcreated] at h
    have hset := balanceSet_of_write ⟨{ userId := userId }, by simp, rfl⟩ h
    have hnone : ∀ row ∈ db.balances, row.userId ≠ userId := by
      intro row hmem
      simpa using List.find?_eq_none.mp hfind row hmem
    refine ⟨?_, ?_, ?_⟩
    · intro userId'
      rw [hset.balanceIn]
      by_cases hu : userId = userId'
      · simp [hu]
      · cases hfind' : db.balances.find? (fun row => row.userId == userId') <;>
          simp [balanceIn, List.find?_append, hfind', hu]
    · intro hnd
      exact hset.users (nodup_insert hnd hnone)
    · intro hall
      apply hset.nonneg
      intro row hmem
      rcases List.mem_append.mp hmem with hmem | hmem
      · exact hall row hmem
      · rw [List.mem_singleton.mp hmem]

theorem writeBalance_ledger (h : db.writeBalance userId balance = .ok db') :
    db'.ledger = db.ledger := by
  obtain ⟨-, rfl⟩ := writeBalance_ok.mp h
  rfl

/-- The balance is written first, then the row that states it is inserted. -/
theorem posted_of_written {written : PointDb}
    (hset : BalanceSet db.balances written.balances row.userId row.balanceAfter)
    (hledger : written.ledger = db.ledger)
    (hafter : row.balanceAfter = db.balanceOf row.userId + row.amount)
    (h : written.insertLedger row = .ok db') : Posted db db' row := by
  obtain ⟨hfresh, -, rfl⟩ := insertLedger_ok.mp h
  rw [hledger] at hfresh
  exact ⟨by simp [hledger], hfresh, hafter, hset⟩

theorem PostsAtMostOnce.of_tables {db₁ db₁' : PointDb} (h : PostsAtMostOnce db₁ db₁')
    (hledger : db₁.ledger = db.ledger) (hbalances : db₁.balances = db.balances)
    (hledger' : db'.ledger = db₁'.ledger) (hbalances' : db'.balances = db₁'.balances) :
    PostsAtMostOnce db db' := by
  rcases h with h | ⟨row, h⟩
  · exact .inl ⟨by rw [hledger', h.ledger, hledger], by rw [hbalances', h.balances, hbalances]⟩
  · refine .inr ⟨row, by rw [hledger', h.ledger, hledger], by rw [← hledger]; exact h.freshId, ?_, ?_⟩
    · rw [h.balanceAfter, PointDb.balanceOf, PointDb.balanceOf, hbalances]
    · rw [hbalances', ← hbalances]
      exact h.balanceSet

end Effects

section Operations

variable {db db' : PointDb} {userId : UserId} {sourceEventId : EventId} {ruleKey : String}
  {amount : Int} {description : Option String} {metadata : Option JsonObject}
  {ledgerId : LedgerId} {row : PointLedger}

theorem grantPoints_posts {expiresAt : Option Time}
    (h : grantPoints db userId sourceEventId ruleKey amount description metadata expiresAt ledgerId
      = .ok (db', row)) : PostsAtMostOnce db db' := by
  simp only [grantPoints, bind_ok, ensure_ok, exists_const] at h
  obtain ⟨-, h⟩ := h
  split at h
  · obtain ⟨rfl, -⟩ := Prod.mk.inj (pure_ok.mp h)
    exact .inl ⟨rfl, rfl⟩
  · simp only [bind_ok, pure_ok, Prod.mk.injEq] at h
    obtain ⟨inserted, hins, written, hwrite, rfl, hrow⟩ := h
    obtain ⟨hfresh, -, rfl⟩ := insertLedger_ok.mp hins
    have hset := balanceSet_of_getOrCreate hwrite
    have hledger := writeBalance_ledger hwrite
    rw [getOrCreatePointBalance_ledger] at hledger
    refine .inr ⟨row, ?_, ?_, ?_, ?_⟩
    · -- no older row has the new identifier, so the patch only hits the new row
      simp only [hledger, patch_append, ← hrow]
      rw [patch_of_forall_not (by simpa using hfresh)]
      simp [patch]
    · rw [← hrow]
      exact hfresh
    · rw [← hrow, getOrCreatePointBalance_balance]
      rfl
    · rw [← hrow]
      exact hset

theorem spendPoints_posts
    (h : spendPoints db userId sourceEventId ruleKey amount description metadata ledgerId
      = .ok (db', row)) : PostsAtMostOnce db db' := by
  simp only [spendPoints, bind_ok, ensure_ok, exists_const] at h
  obtain ⟨-, h⟩ := h
  split at h
  · obtain ⟨rfl, -⟩ := Prod.mk.inj (pure_ok.mp h)
    exact .inl ⟨rfl, rfl⟩
  · simp only [bind_ok, orFail_ok, ensure_ok, exists_const, pure_ok, Prod.mk.injEq] at h
    obtain ⟨balance, hfind, -, written, hwrite, inserted, hins, rfl, rfl⟩ := h
    have hcreate := getOrCreatePointBalance_found hfind
    have hset : BalanceSet db.balances written.balances userId (balance.balance - amount) :=
      balanceSet_of_getOrCreate (by rw [hcreate]; exact hwrite)
    have hof : db.balanceOf userId = balance.balance := by
      simp [PointDb.balanceOf, balanceIn, hfind]
    refine .inr ⟨_, posted_of_written hset (writeBalance_ledger hwrite) ?_ hins⟩
    simp only [hof]
    omega

theorem reversePoints_posts {reversedLedgerId : LedgerId}
    (h : reversePoints db userId sourceEventId ruleKey amount reversedLedgerId description metadata
      ledgerId = .ok (db', row)) : PostsAtMostOnce db db' := by
  simp only [reversePoints, bind_ok, ensure_ok, exists_const] at h
  obtain ⟨-, h⟩ := h
  split at h
  · obtain ⟨rfl, -⟩ := Prod.mk.inj (pure_ok.mp h)
    exact .inl ⟨rfl, rfl⟩
  · simp only [bind_ok, pure_ok, Prod.mk.injEq] at h
    obtain ⟨written, hwrite, inserted, hins, rfl, rfl⟩ := h
    have hset := balanceSet_of_getOrCreate hwrite
    have hledger := writeBalance_ledger hwrite
    rw [getOrCreatePointBalance_ledger] at hledger
    refine .inr ⟨_, posted_of_written hset hledger ?_ hins⟩
    simp only [getOrCreatePointBalance_balance]

theorem resolvePointChargePackage_tables {packageId : PackageId} {now : Time}
    {package : PointChargePackage}
    (h : resolvePointChargePackage db packageId now = .ok (db', package)) :
    db'.ledger = db.ledger ∧ db'.balances = db.balances := by
  simp only [resolvePointChargePackage, bind_ok, orFail_ok, ensure_ok, exists_const, pure_ok,
    Prod.mk.injEq] at h
  obtain ⟨_, -, -, -, rfl, -⟩ := h
  unfold ensurePointChargePackages
  split <;> exact ⟨rfl, rfl⟩

theorem insertTransaction_tables {transaction : PointTransaction}
    (h : db.insertTransaction transaction = .ok db') :
    db'.ledger = db.ledger ∧ db'.balances = db.balances := by
  simp only [PointDb.insertTransaction, bind_ok, ensure_ok, exists_const, pure_ok] at h
  obtain ⟨-, -, rfl⟩ := h
  exact ⟨rfl, rfl⟩

theorem insertCharge_tables {charge : PointCharge} (h : db.insertCharge charge = .ok db') :
    db'.ledger = db.ledger ∧ db'.balances = db.balances := by
  simp only [PointDb.insertCharge, bind_ok, ensure_ok, exists_const, pure_ok] at h
  obtain ⟨-, -, rfl⟩ := h
  exact ⟨rfl, rfl⟩

theorem createPointCharge_posts {packageId : PackageId} {paymentMethod idempotencyKey : String}
    {draws : PointDraws} {now : Time} {charge : PointCharge}
    (h : createPointCharge db userId packageId paymentMethod idempotencyKey draws now
      = .ok (db', charge)) : PostsAtMostOnce db db' := by
  simp only [createPointCharge, bind_ok, Prod.exists] at h
  obtain ⟨stocked, package, hpackage, h⟩ := h
  obtain ⟨hstockedLedger, hstockedBalances⟩ := resolvePointChargePackage_tables hpackage
  split at h
  · obtain ⟨rfl, -⟩ := Prod.mk.inj (pure_ok.mp h)
    exact .inl ⟨hstockedLedger, hstockedBalances⟩
  · simp only [bind_ok, Prod.exists, pure_ok, Prod.mk.injEq] at h
    obtain ⟨events, event, -, granted, ledger, hgrant, charged, hcharge, recorded, hrecord, rfl, -⟩ := h
    obtain ⟨hchargedLedger, hchargedBalances⟩ := insertCharge_tables hcharge
    obtain ⟨hrecordedLedger, hrecordedBalances⟩ := insertTransaction_tables hrecord
    exact (grantPoints_posts hgrant).of_tables hstockedLedger hstockedBalances
      (hrecordedLedger.trans hchargedLedger) (hrecordedBalances.trans hchargedBalances)

theorem refundPointCharge_posts {chargeId : ChargeId} {idempotencyKey : String}
    {draws : PointDraws} {now : Time} {charge : PointCharge}
    (h : refundPointCharge db userId chargeId idempotencyKey draws now = .ok (db', charge)) :
    PostsAtMostOnce db db' := by
  simp only [refundPointCharge] at h
  split at h
  · simp only [bind_ok, ensure_ok, exists_const, orFail_ok, pure_ok, Prod.mk.injEq] at h
    obtain ⟨-, _, -, rfl, -⟩ := h
    exact .inl ⟨rfl, rfl⟩
  · simp only [bind_ok, orFail_ok] at h
    obtain ⟨found, -, h⟩ := h
    split at h
    · obtain ⟨rfl, -⟩ := Prod.mk.inj (pure_ok.mp h)
      exact .inl ⟨rfl, rfl⟩
    · simp only [bind_ok, ensure_ok, exists_const, orFail_ok, Prod.exists, pure_ok,
        Prod.mk.injEq] at h
      obtain ⟨-, _, -, events, event, -, -, written, hwrite, inserted, hins, recorded, hrecord,
        rfl, -⟩ := h
      have hset := balanceSet_of_getOrCreate hwrite
      have hledger := writeBalance_ledger hwrite
      rw [getOrCreatePointBalance_ledger] at hledger
      obtain ⟨hrecordedLedger, hrecordedBalances⟩ := insertTransaction_tables hrecord
      have hposted := posted_of_written hset hledger
        (by simp only [getOrCreatePointBalance_balance]; omega) hins
      exact PostsAtMostOnce.of_tables (.inr ⟨_, hposted⟩) rfl rfl hrecordedLedger hrecordedBalances

theorem moveAdjustment_posts {eventId : EventId} {reason : Option String} {actorId : String}
    (h : moveAdjustment db userId eventId amount reason actorId ledgerId = .ok (db', row)) :
    PostsAtMostOnce db db' := by
  unfold moveAdjustment at h
  split at h
  · exact grantPoints_posts h
  · exact spendPoints_posts h

theorem adjustPoints_posts {reason : Option String} {actorId idempotencyKey : String}
    {draws : PointDraws} {result : PointLedger × Bool}
    (h : adjustPoints db userId amount reason actorId idempotencyKey draws = .ok (db', result)) :
    PostsAtMostOnce db db' := by
  simp only [adjustPoints, bind_ok, ensure_ok, exists_const] at h
  obtain ⟨-, -, h⟩ := h
  split at h
  · obtain ⟨rfl, -⟩ := Prod.mk.inj (pure_ok.mp h)
    exact .inl ⟨rfl, rfl⟩
  · simp only [bind_ok, Prod.exists] at h
    obtain ⟨events, event, -, moved, ledger, hmove, h⟩ := h
    have hposts := moveAdjustment_posts hmove
    split at h
    · obtain ⟨rfl, -⟩ := Prod.mk.inj (pure_ok.mp h)
      exact hposts.of_tables rfl rfl rfl rfl
    · simp only [bind_ok, pure_ok, Prod.mk.injEq] at h
      obtain ⟨inserted, hins, rfl, -⟩ := h
      obtain ⟨hinsertedLedger, hinsertedBalances⟩ := insertTransaction_tables hins
      exact hposts.of_tables rfl rfl hinsertedLedger hinsertedBalances

/-- A call posts at most one row. -/
theorem pointStep_posts (call : PointCall) : PostsAtMostOnce db (pointStep db call) := by
  have hnone : PostsAtMostOnce db db := .inl ⟨rfl, rfl⟩
  cases call with
  | grant => exact commitOr_keeps hnone fun _ _ => grantPoints_posts
  | spend => exact commitOr_keeps hnone fun _ _ => spendPoints_posts
  | reverse => exact commitOr_keeps hnone fun _ _ => reversePoints_posts
  | charge => exact commitOr_keeps hnone fun _ _ => createPointCharge_posts
  | refund => exact commitOr_keeps hnone fun _ _ => refundPointCharge_posts
  | adjust => exact commitOr_keeps hnone fun _ _ => adjustPoints_posts

end Operations

section Runs

/-- Cached balances are the totals of the ledger, and every row states the total so far. -/
structure PointsReconciled (db : PointDb) : Prop where
  users : (db.balances.map (·.userId)).Nodup
  nonneg : ∀ row ∈ db.balances, 0 ≤ row.balance
  agree : ∀ userId, db.balanceOf userId = db.ledgerTotal userId
  running : Journal.Running PointLedger.userId PointLedger.amount PointLedger.balanceAfter db.ledger

theorem PointsReconciled.opening (packages : List PointChargePackage)
    (events : List EngagementEvent) : PointsReconciled (PointDb.opening packages events) :=
  ⟨by simp [PointDb.opening], by simp [PointDb.opening], fun _ => rfl, Journal.Running.nil⟩

theorem PointsReconciled.step {db db' : PointDb} (h : PointsReconciled db)
    (hposts : PostsAtMostOnce db db') : PointsReconciled db' := by
  rcases hposts with ⟨hledger, hbalances⟩ | ⟨row, hpost⟩
  · refine ⟨?_, ?_, ?_, ?_⟩
    · rw [hbalances]
      exact h.users
    · rw [hbalances]
      exact h.nonneg
    · intro userId
      rw [PointDb.balanceOf, PointDb.ledgerTotal, hbalances, hledger]
      exact h.agree userId
    · rw [hledger]
      exact h.running
  · refine ⟨hpost.balanceSet.users h.users, hpost.balanceSet.nonneg h.nonneg, ?_, ?_⟩
    · intro userId
      have htotal : db'.ledgerTotal userId =
          db.ledgerTotal userId + if row.userId = userId then row.amount else 0 := by
        show Journal.total PointLedger.userId PointLedger.amount db'.ledger userId = _
        rw [hpost.ledger, Journal.total_append, Journal.total_singleton]
        rfl
      rw [PointDb.balanceOf, hpost.balanceSet.balanceIn, htotal, hpost.balanceAfter]
      have hagree := h.agree userId
      rw [PointDb.balanceOf] at hagree
      by_cases hu : row.userId = userId
      · simp [hu, PointDb.balanceOf, hagree]
      · simp [hu, hagree]
    · rw [hpost.ledger]
      apply h.running.append
      rw [hpost.balanceAfter, h.agree]
      rfl

theorem PointsReconciled.balance_eq {db : PointDb} (h : PointsReconciled db) {row : PointBalance}
    (hmem : row ∈ db.balances) : row.balance = db.ledgerTotal row.userId := by
  rw [← h.agree, PointDb.balanceOf, balanceIn, find_of_mem h.users hmem]
  rfl

theorem PointsReconciled.balanceOf_nonneg {db : PointDb} (h : PointsReconciled db)
    (userId : UserId) : 0 ≤ db.balanceOf userId := by
  rw [PointDb.balanceOf, balanceIn]
  cases hfind : db.balances.find? (fun row => row.userId == userId) with
  | none => simp
  | some row => exact h.nonneg row (List.mem_of_find?_eq_some hfind)

theorem reconcilePointBalances_eq_nil {db : PointDb}
    (h : ∀ userId, db.balanceOf userId = db.ledgerTotal userId) :
    reconcilePointBalances db = [] := by
  rw [reconcilePointBalances, List.filterMap_eq_nil_iff]
  intro userId _
  simp [h userId]

variable {packages : List PointChargePackage} {events : List EngagementEvent}

theorem pointsAfter_reconciled (calls : List PointCall) :
    PointsReconciled (pointsAfter packages events calls) := by
  apply run_of_step (PointsReconciled.opening packages events)
  intro db call h
  exact h.step (pointStep_posts call)

theorem pointsAfter_concat (calls : List PointCall) (call : PointCall) :
    pointsAfter packages events (calls ++ [call]) =
      pointStep (pointsAfter packages events calls) call := by
  simp [pointsAfter]

/-- Every row states the balance that the call that wrote it left behind. -/
theorem balanceAfter_eq (calls : List PointCall) {row : PointLedger}
    (hmem : row ∈ (pointsAfter packages events calls).ledger) :
    ∃ pre call post, calls = pre ++ call :: post ∧
      row ∉ (pointsAfter packages events pre).ledger ∧
      row ∈ (pointsAfter packages events (pre ++ [call])).ledger ∧
      row.balanceAfter = (pointsAfter packages events (pre ++ [call])).balanceOf row.userId := by
  induction calls using List.reverseRecOn with
  | nil => cases hmem
  | append_singleton calls call ih =>
    have hold : row ∈ (pointsAfter packages events calls).ledger → ∃ pre call' post,
        calls ++ [call] = pre ++ call' :: post ∧
        row ∉ (pointsAfter packages events pre).ledger ∧
        row ∈ (pointsAfter packages events (pre ++ [call'])).ledger ∧
        row.balanceAfter = (pointsAfter packages events (pre ++ [call'])).balanceOf row.userId := by
      intro hmem'
      obtain ⟨pre, call', post, hsplit, hrow⟩ := ih hmem'
      exact ⟨pre, call', post ++ [call], by simp [hsplit], hrow⟩
    have hposts : PostsAtMostOnce (pointsAfter packages events calls)
        (pointStep (pointsAfter packages events calls) call) := pointStep_posts call
    rw [pointsAfter_concat] at hmem
    rcases hposts with hun | ⟨posted, hpost⟩
    · rw [hun.ledger] at hmem
      exact hold hmem
    · rw [hpost.ledger, List.mem_append, List.mem_singleton] at hmem
      rcases hmem with hmem | rfl
      · exact hold hmem
      · refine ⟨calls, call, [], rfl, fun hmem' => hpost.freshId row hmem' rfl, ?_, ?_⟩
        · rw [pointsAfter_concat, hpost.ledger]
          simp
        · rw [pointsAfter_concat, PointDb.balanceOf, hpost.balanceSet.balanceIn, if_pos rfl]

/-- After any calls the balances are the totals of the ledger and never negative, every row
states the balance just after it, and reconciliation finds no drift. -/
theorem pointBalances_reconciled (packages : List PointChargePackage)
    (events : List EngagementEvent) (calls : List PointCall) :
    (∀ row ∈ (pointsAfter packages events calls).balances,
      row.balance = (pointsAfter packages events calls).ledgerTotal row.userId ∧
        0 ≤ row.balance) ∧
    (∀ userId, (pointsAfter packages events calls).balanceOf userId =
      (pointsAfter packages events calls).ledgerTotal userId ∧
        0 ≤ (pointsAfter packages events calls).balanceOf userId) ∧
    (∀ row ∈ (pointsAfter packages events calls).ledger,
      ∃ pre call post, calls = pre ++ call :: post ∧
        row ∉ (pointsAfter packages events pre).ledger ∧
        row ∈ (pointsAfter packages events (pre ++ [call])).ledger ∧
        row.balanceAfter = (pointsAfter packages events (pre ++ [call])).balanceOf row.userId) ∧
    Journal.Running PointLedger.userId PointLedger.amount PointLedger.balanceAfter
      (pointsAfter packages events calls).ledger ∧
    reconcilePointBalances (pointsAfter packages events calls) = [] := by
  have h : PointsReconciled (pointsAfter packages events calls) := pointsAfter_reconciled calls
  refine ⟨?_, fun userId => ⟨h.agree userId, h.balanceOf_nonneg userId⟩,
    fun row hmem => balanceAfter_eq calls hmem, h.running, reconcilePointBalances_eq_nil h.agree⟩
  intro row hmem
  exact ⟨h.balance_eq hmem, h.nonneg row hmem⟩

end Runs

end Fanfolio
