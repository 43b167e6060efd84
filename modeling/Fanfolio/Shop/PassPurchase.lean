import Fanfolio.Shop.Orders

/-!
# Buying a season pass

A purchase pays the pass with points, opens the premium track to the fan and writes a shop order
under a key made of the season.
-/

namespace Fanfolio

open Framework

/-- The identifiers that a purchase draws. -/
structure PurchaseDraws where
  eventId : EventId
  ledgerId : LedgerId
  orderId : OrderId
  entitlementId : String
deriving DecidableEq, Repr

/-- The answer to a purchase. -/
structure PassPurchased where
  seasonId : SeasonId
  entitlementId : String
  pricePoints : Int
  replayed : Bool
deriving DecidableEq, Repr

/-- The idempotency key of the order of a pass. -/
def passKey (seasonId : SeasonId) : String := "pass:" ++ seasonId

/-- The product that a pass is sold as. -/
def passProductId (seasonId : SeasonId) : ProductId := "pass_product_" ++ seasonId

/-- `_season_active_for_pass_view`. -/
def seasonActiveForPassView (season : PassSeason) (now : Time) : Bool :=
  season.startsAt.all (· ≤ now) && season.endsAt.all (now ≤ ·)

namespace ShopDb

/-- The row under the unique key `uq_pass_entitlements_user_season`. -/
def passOf (db : ShopDb) (userId : UserId) (seasonId : SeasonId) : Option PassEntitlement :=
  db.passEntitlements.find? fun row => row.userId == userId && row.seasonId == seasonId

/-- Create the product of a pass, or bring it up to date. -/
def upsertPassProduct (db : ShopDb) (season : PassSeason) (price : Int) : ShopDb :=
  let productId := passProductId season.id
  match db.findProduct productId with
  | some _ =>
    { db with
      products := patch (·.id == productId)
        ({ · with name := season.title, pricePoints := price }) db.products }
  | none =>
    { db with
      products := db.products ++
        [{ id := productId, artistId := season.artistId, productType := .limitedItem,
           name := season.title, pricePoints := price, status := .published }] }

/-- Make the entitlement of a user to a pass active, or create it. -/
def activatePass (db : ShopDb) (userId : UserId) (seasonId : SeasonId) (price : Int)
    (orderId : OrderId) (entitlementId : String) : Except Failure ShopDb :=
  match db.passOf userId seasonId with
  | some existing =>
    return { db with
      passEntitlements := patch (·.id == existing.id)
        ({ · with pricePoints := price, status := .active, orderId := some orderId })
        db.passEntitlements }
  | none => do
    ensure (∀ row ∈ db.passEntitlements, row.id ≠ entitlementId)
      (.integrity "pass_entitlements_pkey")
    return { db with
      passEntitlements := db.passEntitlements ++
        [{ id := entitlementId, userId := userId, seasonId := seasonId, pricePoints := price,
           orderId := some orderId }] }

end ShopDb

/-- The checks of `purchase_pass_season` on the season, whose row is locked. -/
def checkSeason (season? : Option PassSeason) (now : Time) : Except Failure PassSeason := do
  let season ← orFail (season?.filter fun season =>
      season.status = .published && season.premiumEnabled)
    (.app ⟨404, "PASS_SEASON_NOT_FOUND", "구매할 수 있는 시즌 패스를 찾을 수 없습니다."⟩)
  ensure (seasonActiveForPassView season now)
    (.app ⟨409, "PASS_SEASON_SALE_CLOSED", "현재 판매 중인 시즌 패스가 아닙니다."⟩)
  return season

/-- `purchase_pass_season` for a season that the user has no active pass of. -/
def buyPass (db : ShopDb) (userId : UserId) (season : PassSeason) (draws : PurchaseDraws)
    (now : Time) : Except Failure (ShopDb × PassPurchased) := do
  let price ← orFail (season.premiumPricePoints.filter (0 < ·))
    (.app ⟨409, "PASS_PRICE_NOT_CONFIGURED", "시즌 패스 가격이 설정되지 않았습니다."⟩)
  let (recorded, event) ← db.recordEvent userId "pass_purchased" "pass_season" season.id
    [("seasonId", .str season.id), ("points", .num price)] draws.eventId
  let processed := recorded.withPoints { recorded.points with
    events := patch (·.id == event.id) ({ · with status := .processed, processedAt := some now })
      recorded.points.events }
  let offered := processed.upsertPassProduct season price
  let (spent, ledger) ← spendPoints offered.points userId event.id ("pass_purchase:" ++ season.id)
    price (some (season.title ++ " 프리미엄 패스 구매")) (some [("seasonId", .str season.id)])
    draws.ledgerId
  let ordered ← (offered.withPoints spent).insertOrder
    { id := draws.orderId, userId := userId, productId := passProductId season.id,
      productName := season.title, pricePoints := price, paymentMethod := "points",
      status := .completed, idempotencyKey := some (passKey season.id),
      pointLedgerId := some ledger.id, pointEventId := some event.id }
  let activated ← ordered.activatePass userId season.id price draws.orderId draws.entitlementId
  let entitlementId := ((db.passOf userId season.id).map (·.id)).getD draws.entitlementId
  return (activated, ⟨season.id, entitlementId, price, false⟩)

/-- `purchase_pass_season`. -/
def purchasePassSeason (db : ShopDb) (userId : UserId) (seasonId : SeasonId)
    (draws : PurchaseDraws) (now : Time) : Except Failure (ShopDb × PassPurchased) := do
  let season ← checkSeason (db.seasons.find? (fun row => row.id == seasonId)) now
  match (db.passOf userId season.id).filter (·.status = .active) with
  | some existing => return (db, ⟨season.id, existing.id, existing.pricePoints, true⟩)
  | none => buyPass db userId season draws now

section

variable {db db' : ShopDb} {userId : UserId} {season : PassSeason} {draws : PurchaseDraws}
  {now : Time} {answer : PassPurchased}

theorem checkSeason_ok {season? : Option PassSeason} (h : checkSeason season? now = .ok season) :
    season? = some season ∧ season.status = .published ∧ season.premiumEnabled ∧
      seasonActiveForPassView season now := by
  simp only [checkSeason, bind_ok, orFail_ok, Option.filter_eq_some_iff, ensure_ok, exists_const,
    pure_ok, Bool.and_eq_true, decide_eq_true_eq] at h
  obtain ⟨season', ⟨hseason, hstatus, hpremium⟩, hactive, rfl⟩ := h
  exact ⟨hseason, hstatus, hpremium, hactive⟩

@[simp] theorem upsertPassProduct_points {price : Int} :
    (db.upsertPassProduct season price).points = db.points := by
  unfold ShopDb.upsertPassProduct
  dsimp only
  split <;> rfl

@[simp] theorem upsertPassProduct_orders {price : Int} :
    (db.upsertPassProduct season price).orders = db.orders := by
  unfold ShopDb.upsertPassProduct
  dsimp only
  split <;> rfl

@[simp] theorem upsertPassProduct_passEntitlements {price : Int} :
    (db.upsertPassProduct season price).passEntitlements = db.passEntitlements := by
  unfold ShopDb.upsertPassProduct
  dsimp only
  split <;> rfl

theorem activatePass_ok {seasonId : SeasonId} {price : Int} {orderId : OrderId}
    {entitlementId : String} (hnone : db.passOf userId seasonId = none)
    (h : db.activatePass userId seasonId price orderId entitlementId = .ok db') :
    db' = { db with
      passEntitlements := db.passEntitlements ++
        [{ id := entitlementId, userId := userId, seasonId := seasonId, pricePoints := price,
           orderId := some orderId }] } := by
  simp only [ShopDb.activatePass, hnone, bind_ok, ensure_ok, exists_const, pure_ok] at h
  exact h.2.symm

/-- A first purchase adds an order and a pass, and moves points under the rule of the pass. -/
theorem buyPass_ok (h : buyPass db userId season draws now = .ok (db', answer))
    (hnone : db.passOf userId season.id = none) :
    Moved ("pass_purchase:" ++ season.id) db.points db'.points ∧
      (∃ order : ShopOrder, db'.orders = db.orders ++ [order] ∧ order.userId = userId ∧
        order.productId = passProductId season.id ∧
        order.idempotencyKey = some (passKey season.id)) ∧
      ∃ pass : PassEntitlement, db'.passEntitlements = db.passEntitlements ++ [pass] ∧
        pass.userId = userId ∧ pass.seasonId = season.id ∧ pass.status = .active := by
  simp only [buyPass, bind_ok, orFail_ok, Prod.exists, pure_ok, Prod.mk.injEq] at h
  obtain ⟨price, -, recorded, event, hrecord, spent, ledger, hspend, ordered, horder, activated,
    hactivate, rfl, -⟩ := h
  obtain ⟨events, rfl, -⟩ := recordEvent_ok hrecord
  have hmoved := (spendPoints_moved hspend).1
  rw [upsertPassProduct_points] at hmoved
  obtain ⟨-, rfl⟩ := insertOrder_ok horder
  obtain rfl := activatePass_ok (by simpa [ShopDb.passOf, ShopDb.withPoints] using hnone) hactivate
  refine ⟨hmoved.of_events.of_events, ?_, ?_⟩
  · refine ⟨_, congrArg (· ++ [_]) upsertPassProduct_orders, rfl, rfl, rfl⟩
  · refine ⟨_, congrArg (· ++ [_]) upsertPassProduct_passEntitlements, rfl, rfl, rfl⟩

/-- The price of a pass is configured, and covered by the balance or paid before. -/
def passPayable (db : ShopDb) (userId : UserId) (season : PassSeason) : Prop :=
  ∃ price ∈ season.premiumPricePoints, 0 < price ∧ (price ≤ db.points.balanceOf userId ∨
    ∃ row ∈ db.points.ledger, row.userId = userId ∧ row.ruleKey = "pass_purchase:" ++ season.id)

theorem activatePass_refuses {seasonId : SeasonId} {price : Int} {orderId : OrderId}
    {entitlementId : String} (hfresh : ∀ row ∈ db.passEntitlements, row.id ≠ entitlementId) :
    Refuses (db.activatePass userId seasonId price orderId entitlementId) := by
  unfold ShopDb.activatePass
  split
  · exact .pure _
  · exact FailsIn.bind (.ensure_of hfresh) fun _ => .pure _

/-- A purchase whose identifiers are new fails with an `AppError` only, unless the key of the pass
is taken. -/
theorem buyPass_refuses (hevents : ∀ row ∈ db.points.events, row.id ≠ draws.eventId)
    (hledger : ∀ row ∈ db.points.ledger, row.id ≠ draws.ledgerId)
    (horders : ∀ row ∈ db.orders, row.id ≠ draws.orderId)
    (hpasses : ∀ row ∈ db.passEntitlements, row.id ≠ draws.entitlementId)
    (hkey : passPayable db userId season → db.orderUnder userId (passKey season.id) = none) :
    Refuses (buyPass db userId season draws now) := by
  refine FailsIn.bind_of (.orFail rfl) ?_
  intro price hprice
  rw [orFail_ok, Option.filter_eq_some_iff, decide_eq_true_eq] at hprice
  refine FailsIn.bind_of (recordEvent_refuses hevents _ _ _ _) ?_
  rintro ⟨recorded, event⟩ hrecord
  obtain ⟨events, rfl, -⟩ := recordEvent_ok hrecord
  refine FailsIn.bind_of (spendPoints_refuses ?_) ?_
  · rw [upsertPassProduct_points]
    exact hledger
  rintro ⟨spent, ledger⟩ hspend
  rw [upsertPassProduct_points] at hspend
  obtain ⟨hpositive, hcovered⟩ := spendPoints_covered hspend
  have hpayable : passPayable db userId season := by
    refine ⟨price, hprice.1, hpositive, hcovered.imp id ?_⟩
    rintro ⟨row, hrow, huser, -, hrule⟩
    exact ⟨row, hrow, huser, hrule⟩
  refine FailsIn.bind_of (insertOrder_refuses ?_ rfl ?_) ?_
  · simpa [ShopDb.withPoints] using horders
  · simpa [ShopDb.withPoints, ShopDb.orderUnder] using hkey hpayable
  intro ordered horder
  obtain ⟨-, rfl⟩ := insertOrder_ok horder
  refine FailsIn.bind (activatePass_refuses ?_) fun _ => .pure _
  simpa [ShopDb.withPoints] using hpasses

theorem checkSeason_refuses {season? : Option PassSeason} : Refuses (checkSeason season? now) := by
  refine FailsIn.bind (.orFail rfl) fun season => ?_
  exact FailsIn.bind (.ensure rfl) fun _ => .pure _

end

end Fanfolio
