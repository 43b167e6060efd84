import Fanfolio.Shop.Orders

/-!
# Refunds of shop orders

A refund takes back what the order delivered, as long as it was not used, and returns the points.
Fans refund their own orders, admins the orders of an approved request.
-/

namespace Fanfolio

open Framework

/-- The identifiers that a refund draws. -/
structure RefundDraws where
  eventId : EventId
  ledgerId : LedgerId
  transactionId : String
deriving DecidableEq, Repr

/-- What the two refunds of an order write differently. -/
structure RefundSource where
  sourceType : String
  sourceId : String
  payload : JsonObject
  ruleKey : String
  description : String
  metadata : JsonObject
  transactionKey : String
  claimedMessage : String
deriving DecidableEq, Repr

/-- What an order delivered, whose row a refund locks. -/
inductive RefundItem where
  | entitlement (row : PackEntitlement)
  | grant (row : RewardGrant)
deriving DecidableEq, Repr

def orderNotRefundable (message : String) : Failure :=
  .app ⟨409, "SHOP_ORDER_NOT_REFUNDABLE", message⟩

/-- The checks on a locked order; they answer with the ledger row that paid it. -/
def checkRefundable (order : ShopOrder) : Except Failure LedgerId := do
  ensure (order.status = .completed) (orderNotRefundable "환불할 수 없는 주문입니다.")
  orFail (order.pointLedgerId.filter (· ≠ "")) (orderNotRefundable "환불할 수 없는 주문입니다.")

/-- The checks on what the order delivered. -/
def refundItem (db : ShopDb) (order : ShopOrder) (claimedMessage : String) :
    Except Failure RefundItem :=
  match db.entitlementOf order.id with
  | some entitlement => do
    ensure (entitlement.status ≠ .opened) (orderNotRefundable "이미 사용한 상품은 환불할 수 없습니다.")
    return .entitlement entitlement
  | none => do
    let grant ← orFail ((db.grantOf order.userId order.id).filter (·.revokedAt = none))
      (orderNotRefundable "지급 정보를 확인할 수 없는 주문입니다.")
    ensure (grant.claimedAt = none) (orderNotRefundable claimedMessage)
    return .grant grant

/-- Take back what the order delivered. -/
def ShopDb.revoke (db : ShopDb) (item : RefundItem) (now : Time) : ShopDb :=
  match item with
  | .entitlement row =>
    { db with
      shopEntitlements := patch (·.id == row.id) ({ · with status := .revoked })
        db.shopEntitlements }
  | .grant row =>
    { db with
      rewardGrants := patch (·.id == row.id) ({ · with revokedAt := some now }) db.rewardGrants }

/-- The part of a refund after it has taken the item back; it answers with the balance. -/
def reverseOrder (db : ShopDb) (order : ShopOrder) (ledgerId : LedgerId) (source : RefundSource)
    (draws : RefundDraws) (now : Time) : Except Failure (ShopDb × Int) := do
  let original ← orFail ((db.points.ledger.find? (fun row => row.id == ledgerId)).filter
      (·.amount < 0)) (.app ⟨409, "SHOP_ORDER_LEDGER_INVALID", "주문 원장을 확인할 수 없습니다."⟩)
  let (recorded, event) ← db.recordEvent order.userId "points_refunded" source.sourceType
    source.sourceId source.payload draws.eventId
  let (points, ledger) ← reversePoints recorded.points order.userId event.id source.ruleKey
    order.pricePoints original.id (some source.description) (some source.metadata) draws.ledgerId
  let completed ← (recorded.withPoints points).insertTransaction
    { id := draws.transactionId, userId := order.userId, operation := .refund,
      idempotencyKey := source.transactionKey, amount := order.pricePoints,
      ledgerId := some ledger.id }
  return ({ completed with
      orders := patch (·.id == order.id)
        ({ · with
          status := .refunded, refundTransactionId := some draws.transactionId
          refundedAt := some now }) completed.orders }, ledger.balanceAfter)

def fanRefund (order : ShopOrder) (key : String) : RefundSource :=
  { sourceType := "shop_refund", sourceId := order.id ++ ":" ++ key
    payload := [("orderId", .str order.id), ("points", .num order.pricePoints)]
    ruleKey := "shop_refund:" ++ order.id, description := order.productName ++ " 환불"
    metadata := [("orderId", .str order.id)], transactionKey := key
    claimedMessage := "이미 수령한 보상은 환불할 수 없습니다." }

def adminRefund (order : ShopOrder) (approvalId actorId : String) : RefundSource :=
  { sourceType := "admin_shop_refund", sourceId := order.id ++ ":" ++ approvalId
    payload := [("orderId", .str order.id), ("points", .num order.pricePoints),
      ("approvalId", .str approvalId)]
    ruleKey := "admin_shop_refund:" ++ order.id, description := order.productName ++ " 관리자 환불"
    metadata := [("orderId", .str order.id), ("approvalId", .str approvalId),
      ("actorId", .str actorId)]
    transactionKey := "approval:" ++ approvalId
    claimedMessage := "지급 정보를 확인할 수 없는 주문입니다." }

/-- The ledger row of an earlier refund under the key. -/
def ShopDb.refundUnder (db : ShopDb) (userId : UserId) (key : String) : Option PointLedger :=
  ((db.points.findTransaction userId .refund key).bind (·.ledgerId)).bind fun ledgerId =>
    db.points.ledger.find? (fun row => row.id == ledgerId)

/-- A refund of a locked order. -/
def refundOrder (db : ShopDb) (order : ShopOrder) (source : RefundSource) (draws : RefundDraws)
    (now : Time) : Except Failure (ShopDb × Int) := do
  let ledgerId ← checkRefundable order
  let item ← refundItem db order source.claimedMessage
  reverseOrder (db.revoke item now) order ledgerId source draws now

/-- `refund_shop_order`. -/
def refundShopOrder (db : ShopDb) (userId : UserId) (orderId : OrderId) (key : String)
    (draws : RefundDraws) (now : Time) : Except Failure (ShopDb × Int) := do
  ensure (key ≠ "")
    (.app ⟨422, "IDEMPOTENCY_KEY_REQUIRED", "환불 요청에는 Idempotency-Key가 필요합니다."⟩)
  match db.refundUnder userId key with
  | some ledger => return (db, ledger.balanceAfter)
  | none =>
    let order ← orFail ((db.findOrder orderId).filter (·.userId = userId))
      (.app ⟨404, "SHOP_ORDER_NOT_FOUND", "주문을 찾을 수 없습니다."⟩)
    refundOrder db order (fanRefund order key) draws now

/-- `_execute_approved_refund`. -/
def executeApprovedRefund (db : ShopDb) (orderId : OrderId) (approvalId actorId : String)
    (draws : RefundDraws) (now : Time) : Except Failure (ShopDb × Int) := do
  let order ← orFail (db.findOrder orderId)
    (.app ⟨404, "SHOP_ORDER_NOT_FOUND", "환불할 주문을 찾을 수 없습니다."⟩)
  refundOrder db order (adminRefund order approvalId actorId) draws now

/-- `_locked_reward_grant_with_catalog`, as far as it locks: a grant of the user that can be
claimed. -/
def ShopDb.claimableGrant (db : ShopDb) (userId : UserId) (grantId : String) : Option RewardGrant :=
  db.rewardGrants.find? fun row =>
    row.id == grantId && row.userId == userId && row.revokedAt == none

/-- The rest of `claim_reward_grant`, on a locked grant. -/
def claimLocked (db : ShopDb) (grant : RewardGrant) (now : Time) : Except Failure ShopDb := do
  ensure ((db.rewards.find? (fun row => row.id == grant.rewardId)).any (·.status == .published))
    (.app ⟨404, "REWARD_GRANT_NOT_FOUND", "수령할 보상을 찾을 수 없습니다."⟩)
  if grant.claimedAt = none then
    return { db with
      rewardGrants := patch (·.id == grant.id) ({ · with claimedAt := some now }) db.rewardGrants }
  else return db

/-- `claim_reward_grant`. -/
def claimRewardGrant (db : ShopDb) (userId : UserId) (grantId : String) (now : Time) :
    Except Failure ShopDb := do
  let grant ← orFail (db.claimableGrant userId grantId)
    (.app ⟨404, "REWARD_GRANT_NOT_FOUND", "수령할 보상을 찾을 수 없습니다."⟩)
  claimLocked db grant now

section

variable {db db' : ShopDb} {userId : UserId} {order : ShopOrder}

/-- A reversal is the row found under its event and rule, or a new row. -/
theorem reversePoints_ok {points points' : PointDb} {eventId : EventId} {ruleKey : String}
    {amount : Int} {reversedLedgerId ledgerId : LedgerId} {description : Option String}
    {metadata : Option JsonObject} {row : PointLedger}
    (h : reversePoints points userId eventId ruleKey amount reversedLedgerId description metadata
      ledgerId = .ok (points', row)) :
    row.ruleKey = ruleKey ∧
      (points' = points ∧ row ∈ points.ledger ∨
        (∃ balances, points' =
          { points with balances := balances, ledger := points.ledger ++ [row] }) ∧
          row.amount = amount ∧ row.reversedLedgerId = some reversedLedgerId ∧
          ∀ row' ∈ points.ledger, row'.id ≠ row.id) := by
  simp only [reversePoints, bind_ok, ensure_ok, exists_const] at h
  obtain ⟨-, h⟩ := h
  split at h
  · rename_i existing hfind
    obtain ⟨rfl, rfl⟩ := Prod.mk.inj (pure_ok.mp h)
    have hrule := List.find?_some hfind
    simp only [Bool.and_eq_true, beq_iff_eq] at hrule
    exact ⟨hrule.2, .inl ⟨rfl, List.mem_of_find?_eq_some hfind⟩⟩
  · simp only [bind_ok, pure_ok, Prod.mk.injEq] at h
    obtain ⟨written, hwrite, inserted, hinsert, rfl, rfl⟩ := h
    obtain ⟨-, rfl⟩ := writeBalance_ok.mp hwrite
    obtain ⟨hfresh, -, rfl⟩ := insertLedger_ok.mp hinsert
    refine ⟨rfl, .inr ⟨?_, rfl, rfl, ?_⟩⟩
    · unfold PointDb.getOrCreatePointBalanceForUpdate
      split <;> exact ⟨_, rfl⟩
    · simpa using hfresh

/-- What a refund writes: the order is refunded, and one ledger row returns its points unless there
is one under the rule already. -/
theorem reverseOrder_ok {ledgerId : LedgerId} {source : RefundSource} {draws : RefundDraws}
    {now : Time} {balance : Int}
    (h : reverseOrder db order ledgerId source draws now = .ok (db', balance)) :
    ∃ points, db' = { db with
        points := points
        orders := patch (·.id == order.id)
          ({ · with
            status := .refunded, refundTransactionId := some draws.transactionId
            refundedAt := some now }) db.orders } ∧
      ((∃ row ∈ db.points.ledger, row.ruleKey = source.ruleKey) ∨
        ∃ row, points.ledger = db.points.ledger ++ [row] ∧ row.amount = order.pricePoints ∧
          row.reversedLedgerId = some ledgerId ∧ row.ruleKey = source.ruleKey ∧
          ∀ row' ∈ db.points.ledger, row'.id ≠ row.id) := by
  simp only [reverseOrder, bind_ok, orFail_ok, Prod.exists, pure_ok, Prod.mk.injEq] at h
  obtain ⟨original, horiginal, recorded, event, hrecord, points, row, hreverse, completed, hinsert,
    rfl, -⟩ := h
  obtain ⟨events, rfl, -⟩ := recordEvent_ok hrecord
  obtain ⟨-, -, rfl⟩ := insertTransaction_ok hinsert
  have hid : original.id = ledgerId := by
    rw [Option.filter_eq_some_iff] at horiginal
    exact (mem_of_find_eq_some (g := PointLedger.id) horiginal.1).2
  obtain ⟨hrule, ⟨rfl, hmem⟩ | ⟨⟨balances, rfl⟩, hamount, hreversed, hfresh⟩⟩ :=
    reversePoints_ok hreverse
  · exact ⟨_, rfl, .inl ⟨row, hmem, hrule⟩⟩
  · exact ⟨_, rfl, .inr ⟨row, rfl, hamount, hid ▸ hreversed, hrule, hfresh⟩⟩

theorem checkRefundable_ok {ledgerId : LedgerId} (h : checkRefundable order = .ok ledgerId) :
    order.status = .completed ∧ order.pointLedgerId = some ledgerId := by
  simp only [checkRefundable, bind_ok, ensure_ok, exists_const, orFail_ok,
    Option.filter_eq_some_iff] at h
  exact ⟨h.1, h.2.1⟩

/-- A refund marks the order, and leaves the products as they are. -/
theorem refundOrder_ok {source : RefundSource} {draws : RefundDraws} {now : Time} {balance : Int}
    (h : refundOrder db order source draws now = .ok (db', balance)) :
    order.status = .completed ∧ db'.products = db.products ∧
      db'.orders = patch (·.id == order.id)
        ({ · with
          status := .refunded, refundTransactionId := some draws.transactionId
          refundedAt := some now }) db.orders := by
  simp only [refundOrder, bind_ok] at h
  obtain ⟨ledgerId, hcheck, item, -, hreverse⟩ := h
  obtain ⟨points, rfl, -⟩ := reverseOrder_ok hreverse
  refine ⟨(checkRefundable_ok hcheck).1, ?_, ?_⟩
  · cases item <;> rfl
  · cases item <;> rfl

theorem refundShopOrder_ok {orderId : OrderId} {key : String} {draws : RefundDraws} {now : Time}
    {balance : Int} (h : refundShopOrder db userId orderId key draws now = .ok (db', balance)) :
    (∃ ledger, db.refundUnder userId key = some ledger ∧ db' = db) ∨
      ∃ order, db.findOrder orderId = some order ∧ order.userId = userId ∧
        db.refundUnder userId key = none ∧
        refundOrder db order (fanRefund order key) draws now = .ok (db', balance) := by
  simp only [refundShopOrder, bind_ok, ensure_ok, exists_const] at h
  obtain ⟨-, h⟩ := h
  split at h
  · rename_i ledger hunder
    exact .inl ⟨ledger, hunder, (Prod.mk.inj (pure_ok.mp h)).1.symm⟩
  · rename_i hunder
    simp only [bind_ok, orFail_ok, Option.filter_eq_some_iff, decide_eq_true_eq] at h
    obtain ⟨order, ⟨hfound, huser⟩, hrefund⟩ := h
    exact .inr ⟨order, hfound, huser, hunder, hrefund⟩

theorem executeApprovedRefund_ok {orderId : OrderId} {approvalId actorId : String}
    {draws : RefundDraws} {now : Time} {balance : Int}
    (h : executeApprovedRefund db orderId approvalId actorId draws now = .ok (db', balance)) :
    ∃ order, db.findOrder orderId = some order ∧
      refundOrder db order (adminRefund order approvalId actorId) draws now =
        .ok (db', balance) := by
  simpa only [executeApprovedRefund, bind_ok, orFail_ok] using h

theorem refundItem_ok {claimedMessage : String} {item : RefundItem}
    (h : refundItem db order claimedMessage = .ok item) :
    match item with
    | .entitlement row => db.entitlementOf order.id = some row ∧ row.status ≠ .opened
    | .grant row => db.entitlementOf order.id = none ∧
        db.grantOf order.userId order.id = some row ∧ row.revokedAt = none ∧
          row.claimedAt = none := by
  unfold refundItem at h
  split at h
  · rename_i entitlement hfind
    simp only [bind_ok, ensure_ok, exists_const, pure_ok] at h
    obtain ⟨hstatus, rfl⟩ := h
    exact ⟨hfind, hstatus⟩
  · rename_i hnone
    simp only [bind_ok, orFail_ok, ensure_ok, exists_const, pure_ok,
      Option.filter_eq_some_iff, decide_eq_true_eq] at h
    obtain ⟨grant, ⟨hgrant, hrevoked⟩, hclaimed, rfl⟩ := h
    exact ⟨hnone, hgrant, hrevoked, hclaimed⟩

theorem claimableGrant_ok {grantId : String} {grant : RewardGrant}
    (h : db.claimableGrant userId grantId = some grant) :
    grant.userId = userId ∧ grant.revokedAt = none := by
  have hrow := List.find?_some h
  simp only [Bool.and_eq_true, beq_iff_eq] at hrow
  exact ⟨hrow.1.2, hrow.2⟩

theorem claimLocked_ok {grant : RewardGrant} {now : Time} (h : claimLocked db grant now = .ok db') :
    db' = db ∨ db' = { db with
      rewardGrants := patch (·.id == grant.id) ({ · with claimedAt := some now })
        db.rewardGrants } := by
  simp only [claimLocked, bind_ok, ensure_ok, exists_const] at h
  obtain ⟨-, h⟩ := h
  split at h
  · exact .inr (pure_ok.mp h).symm
  · exact .inl (pure_ok.mp h).symm

/-- A refund moves points under its rule, and records one transaction. -/
theorem reverseOrder_points {ledgerId : LedgerId} {source : RefundSource} {draws : RefundDraws}
    {now : Time} {balance : Int}
    (h : reverseOrder db order ledgerId source draws now = .ok (db', balance)) :
    ∃ points, Moved source.ruleKey db.points points ∧ ∃ entry ∈ points.ledger,
      db'.points = { points with
        transactions := points.transactions ++
          [{ id := draws.transactionId, userId := order.userId, operation := .refund,
             idempotencyKey := source.transactionKey, amount := order.pricePoints,
             ledgerId := some entry.id }] } := by
  simp only [reverseOrder, bind_ok, orFail_ok, Prod.exists, pure_ok, Prod.mk.injEq] at h
  obtain ⟨original, -, recorded, event, hrecord, points, entry, hreverse, completed, hinsert,
    rfl, -⟩ := h
  obtain ⟨events, rfl, -⟩ := recordEvent_ok hrecord
  obtain ⟨-, -, rfl⟩ := insertTransaction_ok hinsert
  obtain ⟨hmoved, hentry⟩ := reversePoints_moved hreverse
  exact ⟨points, hmoved.of_events, entry, hentry, rfl⟩

theorem refundOrder_points {source : RefundSource} {draws : RefundDraws} {now : Time}
    {balance : Int} (h : refundOrder db order source draws now = .ok (db', balance)) :
    ∃ points entry, Moved source.ruleKey db.points points ∧ entry ∈ points.ledger ∧
      db'.points = { points with
        transactions := points.transactions ++
          [{ id := draws.transactionId, userId := order.userId, operation := .refund,
             idempotencyKey := source.transactionKey, amount := order.pricePoints,
             ledgerId := some entry.id }] } ∧
      db'.passEntitlements = db.passEntitlements := by
  simp only [refundOrder, bind_ok] at h
  obtain ⟨ledgerId, -, item, -, hreverse⟩ := h
  obtain ⟨points, hmoved, entry, hentry, hpoints⟩ := reverseOrder_points hreverse
  refine ⟨points, entry, ?_, hentry, hpoints, ?_⟩
  · cases item <;> exact hmoved
  · obtain ⟨points', rfl, -⟩ := reverseOrder_ok hreverse
    cases item <;> rfl

/-- What a refund asks of an order has been checked when it comes to its transaction. -/
theorem reverseOrder_refuses {ledgerId : LedgerId} {source : RefundSource} {draws : RefundDraws}
    {now : Time} (hfunded : db.points.Funded)
    (hevents : ∀ row ∈ db.points.events, row.id ≠ draws.eventId)
    (hledger : ∀ row ∈ db.points.ledger, row.id ≠ draws.ledgerId)
    (htransactions : ∀ row ∈ db.points.transactions, row.id ≠ draws.transactionId)
    (hkey : (db.points.ledger.find? (fun row => row.id == ledgerId)).any (·.amount < 0) →
      0 < order.pricePoints →
      db.points.findTransaction order.userId .refund source.transactionKey = none) :
    Refuses (reverseOrder db order ledgerId source draws now) := by
  refine FailsIn.bind_of (.orFail rfl) ?_
  intro original horiginal
  rw [orFail_ok, Option.filter_eq_some_iff] at horiginal
  refine FailsIn.bind_of (recordEvent_refuses hevents _ _ _ _) ?_
  rintro ⟨recorded, event⟩ hrecord
  obtain ⟨events, rfl, -⟩ := recordEvent_ok hrecord
  refine FailsIn.bind_of (reversePoints_refuses hfunded hledger) ?_
  rintro ⟨points, entry⟩ hreverse
  have hprice : 0 < order.pricePoints := by
    simp only [reversePoints, bind_ok, ensure_ok, exists_const] at hreverse
    exact hreverse.1
  have hfree := hkey (by simp [horiginal.1, horiginal.2]) hprice
  have hmoved := (reversePoints_moved hreverse).1.transactions
  refine FailsIn.bind ?_ fun _ => .pure _
  refine FailsIn.bind (insertTransaction_refuses ?_ ?_) fun _ => .pure _
  · change ∀ row ∈ points.transactions, row.id ≠ draws.transactionId
    rw [hmoved]
    exact htransactions
  · change points.findTransaction order.userId .refund source.transactionKey = none
    rw [PointDb.findTransaction, hmoved]
    exact hfree

theorem checkRefundable_refuses : Refuses (checkRefundable order) :=
  FailsIn.bind (.ensure rfl) fun _ => .orFail rfl

theorem refundItem_refuses {claimedMessage : String} :
    Refuses (refundItem db order claimedMessage) := by
  unfold refundItem
  split
  · exact FailsIn.bind (.ensure rfl) fun _ => .pure _
  · refine FailsIn.bind (.orFail rfl) fun grant => ?_
    exact FailsIn.bind (.ensure rfl) fun _ => .pure _

end

end Fanfolio
