import Fanfolio.Events
import Fanfolio.Framework.Run
import Mathlib.Data.List.Dedup
import Mathlib.Data.List.Sort

/-!
# Points

Every operation on points updates a cached balance and appends a row to the point ledger.
Operations that run again under the same key return the row of the first run.
-/

namespace Fanfolio

open Framework

abbrev PackageId := String
abbrev ChargeId := String

/-- A row of `point_balances`. -/
structure PointBalance where
  userId : UserId
  balance : Int := 0
deriving DecidableEq, Repr

/-- The values of `transaction_type` that the operations write. -/
inductive TransactionType where
  | earn
  | spend
  | reverse
deriving DecidableEq, Repr

/-- A row of `point_ledger`. -/
structure PointLedger where
  id : LedgerId
  userId : UserId
  sourceEventId : EventId
  ruleKey : String
  transactionType : TransactionType
  amount : Int
  balanceAfter : Int
  description : Option String := none
  expiresAt : Option Time := none
  reversedLedgerId : Option LedgerId := none
  metadataJson : JsonObject := []
deriving DecidableEq, Repr

inductive ChargeStatus where
  | completed
  | refunded
  | failed
  | cancelled
deriving DecidableEq, Repr

/-- A row of `point_charges`. -/
structure PointCharge where
  id : ChargeId
  userId : UserId
  packageId : PackageId
  paymentMethod : String
  points : Int
  priceWon : Int
  status : ChargeStatus
  idempotencyKey : String
  ledgerId : Option LedgerId
  refundedAt : Option Time := none
deriving DecidableEq, Repr

inductive PointOperation where
  | charge
  | refund
  | adjustment
deriving DecidableEq, Repr

/-- A row of `point_transactions`. -/
structure PointTransaction where
  id : String
  userId : UserId
  operation : PointOperation
  idempotencyKey : String
  amount : Int
  resourceType : Option String := none
  resourceId : Option String := none
  ledgerId : Option LedgerId := none
deriving DecidableEq, Repr

/-- A row of `point_charge_packages`. -/
structure PointChargePackage where
  id : PackageId
  points : Int
  priceWon : Int
  label : String
  active : Bool := true
  sortOrder : Nat
  scheduledPublishAt : Option Time := none
deriving DecidableEq, Repr

structure PointDb where
  balances : List PointBalance
  ledger : List PointLedger
  charges : List PointCharge
  transactions : List PointTransaction
  packages : List PointChargePackage
  events : List EngagementEvent
deriving DecidableEq, Repr

/-- A database before the first operation on points. -/
def PointDb.opening (packages : List PointChargePackage) (events : List EngagementEvent) :
    PointDb :=
  ⟨[], [], [], [], packages, events⟩

/-- The balance of a user, zero for a user without a row. -/
def balanceIn (balances : List PointBalance) (userId : UserId) : Int :=
  ((balances.find? (fun row => row.userId == userId)).map (·.balance)).getD 0

namespace PointDb

def balanceOf (db : PointDb) (userId : UserId) : Int := balanceIn db.balances userId

/-- The row under the unique key `uq_point_ledger_event_rule`. -/
def findLedger (db : PointDb) (userId : UserId) (sourceEventId : EventId) (ruleKey : String) :
    Option PointLedger :=
  db.ledger.find? fun row =>
    row.userId == userId && row.sourceEventId == sourceEventId && row.ruleKey == ruleKey

/-- The row under the unique key `uq_point_transactions_user_operation_key`. -/
def findTransaction (db : PointDb) (userId : UserId) (operation : PointOperation)
    (idempotencyKey : String) : Option PointTransaction :=
  db.transactions.find? fun row =>
    row.userId == userId && row.operation == operation && row.idempotencyKey == idempotencyKey

def insertLedger (db : PointDb) (row : PointLedger) : Except Failure PointDb := do
  ensure (∀ row' ∈ db.ledger, row'.id ≠ row.id) (.integrity "point_ledger_pkey")
  ensure (db.findLedger row.userId row.sourceEventId row.ruleKey = none)
    (.integrity "uq_point_ledger_event_rule")
  return { db with ledger := db.ledger ++ [row] }

def insertTransaction (db : PointDb) (row : PointTransaction) : Except Failure PointDb := do
  ensure (∀ row' ∈ db.transactions, row'.id ≠ row.id) (.integrity "point_transactions_pkey")
  ensure (db.findTransaction row.userId row.operation row.idempotencyKey = none)
    (.integrity "uq_point_transactions_user_operation_key")
  return { db with transactions := db.transactions ++ [row] }

def insertCharge (db : PointDb) (row : PointCharge) : Except Failure PointDb := do
  ensure (∀ row' ∈ db.charges, row'.id ≠ row.id) (.integrity "point_charges_pkey")
  ensure (∀ row' ∈ db.charges,
      ¬(row'.userId = row.userId ∧ row'.idempotencyKey = row.idempotencyKey))
    (.integrity "uq_point_charges_user_key")
  return { db with charges := db.charges ++ [row] }

/-- Write a cached balance back, under the check constraint of the table. -/
def writeBalance (db : PointDb) (userId : UserId) (balance : Int) : Except Failure PointDb := do
  ensure (0 ≤ balance) (.integrity "ck_point_balances_nonnegative")
  return { db with balances := patch (·.userId == userId) ({ · with balance := balance }) db.balances }

/-- `_get_or_create_point_balance_for_update`. -/
def getOrCreatePointBalanceForUpdate (db : PointDb) (userId : UserId) : PointDb × PointBalance :=
  match db.balances.find? (fun row => row.userId == userId) with
  | some balance => (db, balance)
  | none => ({ db with balances := db.balances ++ [{ userId := userId }] }, { userId := userId })

end PointDb

def invalidPointAmount (message : String) : Failure :=
  .app ⟨422, "INVALID_POINT_AMOUNT", message⟩

/-- `grant_points`; `ledgerId` is the identifier it draws. -/
def grantPoints (db : PointDb) (userId : UserId) (sourceEventId : EventId) (ruleKey : String)
    (amount : Int) (description : Option String) (metadata : Option JsonObject)
    (expiresAt : Option Time) (ledgerId : LedgerId) : Except Failure (PointDb × PointLedger) := do
  ensure (0 < amount) (invalidPointAmount "point amount must be positive")
  match db.findLedger userId sourceEventId ruleKey with
  | some existing => return (db, existing)
  | none =>
    let ledger : PointLedger :=
      { id := ledgerId, userId := userId, sourceEventId := sourceEventId, ruleKey := ruleKey,
        transactionType := .earn, amount := amount, balanceAfter := 0,
        description := description, expiresAt := expiresAt, metadataJson := metadata.getD [] }
    let inserted ← db.insertLedger ledger
    let (created, balance) := inserted.getOrCreatePointBalanceForUpdate userId
    let written ← created.writeBalance userId (balance.balance + amount)
    return ({ written with
        ledger := patch (·.id == ledgerId) ({ · with balanceAfter := balance.balance + amount })
          written.ledger },
      { ledger with balanceAfter := balance.balance + amount })

/-- `spend_points`. -/
def spendPoints (db : PointDb) (userId : UserId) (sourceEventId : EventId) (ruleKey : String)
    (amount : Int) (description : Option String) (metadata : Option JsonObject)
    (ledgerId : LedgerId) : Except Failure (PointDb × PointLedger) := do
  ensure (0 < amount) (invalidPointAmount "point amount must be positive")
  match db.findLedger userId sourceEventId ruleKey with
  | some existing => return (db, existing)
  | none =>
    let insufficient : Failure := .app ⟨409, "INSUFFICIENT_POINTS", "포인트가 부족합니다."⟩
    let balance ← orFail (db.balances.find? (fun row => row.userId == userId)) insufficient
    ensure (amount ≤ balance.balance) insufficient
    let ledger : PointLedger :=
      { id := ledgerId, userId := userId, sourceEventId := sourceEventId, ruleKey := ruleKey,
        transactionType := .spend, amount := -amount, balanceAfter := balance.balance - amount,
        description := description, metadataJson := metadata.getD [] }
    let written ← db.writeBalance userId (balance.balance - amount)
    let inserted ← written.insertLedger ledger
    return (inserted, ledger)

/-- `reverse_points`. -/
def reversePoints (db : PointDb) (userId : UserId) (sourceEventId : EventId) (ruleKey : String)
    (amount : Int) (reversedLedgerId : LedgerId) (description : Option String)
    (metadata : Option JsonObject) (ledgerId : LedgerId) :
    Except Failure (PointDb × PointLedger) := do
  ensure (0 < amount) (invalidPointAmount "point amount must be positive")
  match db.findLedger userId sourceEventId ruleKey with
  | some existing => return (db, existing)
  | none =>
    let (created, balance) := db.getOrCreatePointBalanceForUpdate userId
    let ledger : PointLedger :=
      { id := ledgerId, userId := userId, sourceEventId := sourceEventId, ruleKey := ruleKey,
        transactionType := .reverse, amount := amount, balanceAfter := balance.balance + amount,
        description := description, reversedLedgerId := some reversedLedgerId,
        metadataJson := metadata.getD [] }
    let written ← created.writeBalance userId (balance.balance + amount)
    let inserted ← written.insertLedger ledger
    return (inserted, ledger)

/-- `POINT_CHARGE_PACKAGES`, as `ensure_point_charge_packages` stores them. -/
def pointChargePackages : List PointChargePackage :=
  [{ id := "points_500", points := 500, priceWon := 5000, label := "500P", sortOrder := 0 },
   { id := "points_1000", points := 1000, priceWon := 9500, label := "1,000P", sortOrder := 1 },
   { id := "points_3000", points := 3000, priceWon := 27000, label := "3,000P", sortOrder := 2 }]

/-- `ensure_point_charge_packages`. -/
def ensurePointChargePackages (db : PointDb) : PointDb :=
  if db.packages = [] then { db with packages := pointChargePackages } else db

/-- `resolve_point_charge_package`. -/
def resolvePointChargePackage (db : PointDb) (packageId : PackageId) (now : Time) :
    Except Failure (PointDb × PointChargePackage) := do
  let stocked := ensurePointChargePackages db
  let package ← orFail (stocked.packages.find? (fun item => item.id == packageId))
    (.app ⟨404, "POINT_PACKAGE_NOT_FOUND", "포인트 충전 상품을 찾을 수 없습니다."⟩)
  ensure package.active
    (.app ⟨409, "POINT_PACKAGE_INACTIVE", "현재 판매하지 않는 포인트 상품입니다."⟩)
  ensure (∀ scheduledAt ∈ package.scheduledPublishAt, scheduledAt ≤ now)
    (.app ⟨409, "POINT_PACKAGE_NOT_PUBLISHED", "아직 공개되지 않은 포인트 상품입니다."⟩)
  return (stocked, package)

/-- The identifiers that one call draws. -/
structure PointDraws where
  eventId : EventId
  ledgerId : LedgerId
  chargeId : ChargeId
  transactionId : String
deriving DecidableEq, Repr

/-- `create_point_charge`. -/
def createPointCharge (db : PointDb) (userId : UserId) (packageId : PackageId)
    (paymentMethod idempotencyKey : String) (draws : PointDraws) (now : Time) :
    Except Failure (PointDb × PointCharge) := do
  let (stocked, package) ← resolvePointChargePackage db packageId now
  match stocked.charges.find?
      (fun row => row.userId == userId && row.idempotencyKey == idempotencyKey) with
  | some existing => return (stocked, existing)
  | none =>
    let (events, event) ← recordEngagementEvent stocked.events userId "points_charged"
      "point_charge" (userId ++ ":" ++ idempotencyKey)
      [("packageId", .str packageId), ("points", .num package.points),
        ("paymentMethod", .str paymentMethod)] draws.eventId
    let (granted, ledger) ← grantPoints { stocked with events := events } userId event.id
      ("point_charge:" ++ packageId) package.points (some ("포인트 충전 " ++ package.label))
      (some [("packageId", .str packageId), ("paymentMethod", .str paymentMethod)]) none
      draws.ledgerId
    let charge : PointCharge :=
      { id := draws.chargeId, userId := userId, packageId := packageId,
        paymentMethod := paymentMethod, points := package.points, priceWon := package.priceWon,
        status := .completed, idempotencyKey := idempotencyKey, ledgerId := some ledger.id }
    let transaction : PointTransaction :=
      { id := draws.transactionId, userId := userId, operation := .charge,
        idempotencyKey := idempotencyKey, amount := package.points,
        resourceType := "point_charge", resourceId := charge.id, ledgerId := some ledger.id }
    let charged ← granted.insertCharge charge
    let recorded ← charged.insertTransaction transaction
    return (recorded, charge)

/-- Decimal digits, last first, with a comma after every third. -/
def groupDigits : List Char → List Char
  | a :: b :: c :: d :: digits => a :: b :: c :: ',' :: groupDigits (d :: digits)
  | digits => digits

/-- The format `{n:,}` of an integer. -/
def formatThousands (n : Int) : String :=
  (if n < 0 then "-" else "") ++
    String.ofList (groupDigits (Nat.toDigits 10 n.natAbs).reverse).reverse

def chargeNotFound : Failure :=
  .app ⟨404, "POINT_CHARGE_NOT_FOUND", "포인트 충전 내역을 찾을 수 없습니다."⟩

/-- `refund_point_charge`. -/
def refundPointCharge (db : PointDb) (userId : UserId) (chargeId : ChargeId)
    (idempotencyKey : String) (draws : PointDraws) (now : Time) :
    Except Failure (PointDb × PointCharge) := do
  let charge? := db.charges.find? (fun row => row.id == chargeId && row.userId == userId)
  match db.findTransaction userId .refund idempotencyKey with
  | some existing =>
    ensure (existing.resourceId = chargeId)
      (.app ⟨409, "IDEMPOTENCY_KEY_REUSED", "동일한 환불 식별자를 다른 충전에 사용할 수 없습니다."⟩)
    let charge ← orFail charge? chargeNotFound
    return (db, charge)
  | none =>
    let charge ← orFail charge? chargeNotFound
    if charge.status = .refunded then
      return (db, charge)
    let notRefundable : Failure :=
      .app ⟨409, "POINT_CHARGE_NOT_REFUNDABLE", "환불할 수 없는 충전 상태입니다."⟩
    ensure (charge.status = .completed) notRefundable
    let chargedLedgerId ← orFail charge.ledgerId notRefundable
    let (events, event) ← recordEngagementEvent db.events userId "points_refunded"
      "point_charge_refund" charge.id
      [("chargeId", .str charge.id), ("points", .num charge.points)] draws.eventId
    let (created, balance) := { db with events := events }.getOrCreatePointBalanceForUpdate userId
    ensure (charge.points ≤ balance.balance)
      (.app ⟨409, "POINT_CHARGE_REFUND_BALANCE", "이미 사용한 포인트가 있어 환불할 수 없습니다."⟩)
    let written ← created.writeBalance userId (balance.balance - charge.points)
    let inserted ← written.insertLedger
      { id := draws.ledgerId, userId := userId, sourceEventId := event.id,
        ruleKey := "point_charge_refund:" ++ charge.id, transactionType := .reverse,
        amount := -charge.points, balanceAfter := balance.balance - charge.points,
        description := some ("포인트 충전 환불 " ++ formatThousands charge.points ++ "P"),
        reversedLedgerId := some chargedLedgerId, metadataJson := [("chargeId", .str charge.id)] }
    let refunded : PointDb := { inserted with
      charges := patch (·.id == charge.id)
        ({ · with status := .refunded, refundedAt := some now }) inserted.charges }
    let recorded ← refunded.insertTransaction
      { id := draws.transactionId, userId := userId, operation := .refund,
        idempotencyKey := idempotencyKey, amount := -charge.points,
        resourceType := "point_charge", resourceId := charge.id }
    return (recorded, { charge with status := .refunded, refundedAt := some now })

/-- The movement of `adjust_points`: a grant of a positive amount, a spend of a negative one. -/
def moveAdjustment (db : PointDb) (userId : UserId) (eventId : EventId) (amount : Int)
    (reason : Option String) (actorId : String) (ledgerId : LedgerId) :
    Except Failure (PointDb × PointLedger) :=
  if 0 < amount then
    grantPoints db userId eventId "admin_point_adjustment" amount reason
      (some [("actorId", .str actorId)]) none ledgerId
  else
    spendPoints db userId eventId "admin_point_adjustment" amount.natAbs reason
      (some [("actorId", .str actorId)]) ledgerId

/-- `adjust_points`; the flag says whether an earlier adjustment was replayed. -/
def adjustPoints (db : PointDb) (userId : UserId) (amount : Int) (reason : Option String)
    (actorId : String) (idempotencyKey : String) (draws : PointDraws) :
    Except Failure (PointDb × (PointLedger × Bool)) := do
  ensure (amount ≠ 0) (invalidPointAmount "조정 포인트는 0이 될 수 없습니다.")
  let existing := db.findTransaction userId .adjustment idempotencyKey
  ensure (∀ row ∈ existing, row.amount = amount ∧ row.resourceId = userId)
    (.app ⟨409, "IDEMPOTENCY_KEY_REUSED", "같은 멱등 키로 다른 포인트 조정을 요청할 수 없습니다."⟩)
  let replayed := (existing.bind (·.ledgerId)).bind fun ledgerId =>
    db.ledger.find? (fun row => row.id == ledgerId)
  match replayed with
  | some ledger => return (db, ledger, true)
  | none =>
    let (events, event) ← recordEngagementEvent db.events userId "points_adjusted"
      "admin_point_adjustment" ("admin_adjustment:" ++ userId ++ ":" ++ idempotencyKey)
      [("amount", .num amount), ("reason", .ofOption reason)] draws.eventId
    let (moved, ledger) ←
      moveAdjustment { db with events := events } userId event.id amount reason actorId
        draws.ledgerId
    match existing with
    | some transaction =>
      return ({ moved with
          transactions := patch (·.id == transaction.id) ({ · with ledgerId := some ledger.id })
            moved.transactions }, ledger, false)
    | none =>
      let inserted ← moved.insertTransaction
        { id := draws.transactionId, userId := userId, operation := .adjustment,
          idempotencyKey := idempotencyKey, amount := amount, resourceType := "user",
          resourceId := userId, ledgerId := some ledger.id }
      return (inserted, ledger, false)

/-- One entry of the drift report. -/
structure PointDrift where
  userId : UserId
  cachedBalance : Int
  ledgerTotal : Int
  difference : Int
deriving DecidableEq, Repr

/-- The sum of a user's ledger amounts. -/
def PointDb.ledgerTotal (db : PointDb) (userId : UserId) : Int :=
  ((db.ledger.filter (fun row => row.userId = userId)).map (·.amount)).sum

/-- `reconcile_point_balances`. -/
def reconcilePointBalances (db : PointDb) : List PointDrift :=
  let userIds := (db.balances.map (·.userId) ++ db.ledger.map (·.userId)).dedup
  (userIds.insertionSort (· ≤ ·)).filterMap fun userId =>
    let ledgerTotal := db.ledgerTotal userId
    let cachedBalance := db.balanceOf userId
    if ledgerTotal ≠ cachedBalance then
      some ⟨userId, cachedBalance, ledgerTotal, cachedBalance - ledgerTotal⟩
    else
      none

/-- A call of one of the point operations, with the identifiers it draws and the clock. -/
inductive PointCall where
  | grant (userId : UserId) (sourceEventId : EventId) (ruleKey : String) (amount : Int)
      (description : Option String) (metadata : Option JsonObject) (expiresAt : Option Time)
      (ledgerId : LedgerId)
  | spend (userId : UserId) (sourceEventId : EventId) (ruleKey : String) (amount : Int)
      (description : Option String) (metadata : Option JsonObject) (ledgerId : LedgerId)
  | reverse (userId : UserId) (sourceEventId : EventId) (ruleKey : String) (amount : Int)
      (reversedLedgerId : LedgerId) (description : Option String) (metadata : Option JsonObject)
      (ledgerId : LedgerId)
  | charge (userId : UserId) (packageId : PackageId) (paymentMethod idempotencyKey : String)
      (draws : PointDraws) (now : Time)
  | refund (userId : UserId) (chargeId : ChargeId) (idempotencyKey : String) (draws : PointDraws)
      (now : Time)
  | adjust (userId : UserId) (amount : Int) (reason : Option String) (actorId : String)
      (idempotencyKey : String) (draws : PointDraws)
deriving DecidableEq, Repr

/-- The state after one call; a call that fails is rolled back. -/
def pointStep (db : PointDb) : PointCall → PointDb
  | .grant userId sourceEventId ruleKey amount description metadata expiresAt ledgerId =>
    commitOr db
      (grantPoints db userId sourceEventId ruleKey amount description metadata expiresAt ledgerId)
  | .spend userId sourceEventId ruleKey amount description metadata ledgerId =>
    commitOr db
      (spendPoints db userId sourceEventId ruleKey amount description metadata ledgerId)
  | .reverse userId sourceEventId ruleKey amount reversedLedgerId description metadata ledgerId =>
    commitOr db (reversePoints db userId sourceEventId ruleKey amount reversedLedgerId description
      metadata ledgerId)
  | .charge userId packageId paymentMethod idempotencyKey draws now =>
    commitOr db (createPointCharge db userId packageId paymentMethod idempotencyKey draws now)
  | .refund userId chargeId idempotencyKey draws now =>
    commitOr db (refundPointCharge db userId chargeId idempotencyKey draws now)
  | .adjust userId amount reason actorId idempotencyKey draws =>
    commitOr db (adjustPoints db userId amount reason actorId idempotencyKey draws)

/-- The database that a sequence of calls leaves behind. -/
def pointsAfter (packages : List PointChargePackage) (events : List EngagementEvent)
    (calls : List PointCall) : PointDb :=
  run pointStep (PointDb.opening packages events) calls

end Fanfolio
