import Fanfolio.Cards.Pack
import Fanfolio.Pass.Claim
import Fanfolio.Points.Movements

/-!
# Shop orders

An order pays a product with points and delivers it: the right to open a pack, or a reward.
-/

namespace Fanfolio

open Framework

abbrev ProductId := String
abbrev OrderId := String

inductive ProductType where
  | cardPack
  | pointItem
  | limitedItem
deriving DecidableEq, Repr

inductive ProductStatus where
  | draft
  | published
  | archived
deriving DecidableEq, Repr

/-- A row of `shop_products`; `rewardId` is what `fulfillment` holds under that key. -/
structure ShopProduct where
  id : ProductId
  artistId : Option String := none
  productType : ProductType := .cardPack
  cardPackId : Option PackId := none
  name : String
  rewardId : String := ""
  pricePoints : Int
  status : ProductStatus := .draft
  startsAt : Option Time := none
  endsAt : Option Time := none
  inventoryLimit : Option Nat := none
  soldCount : Nat := 0
  perUserLimit : Option Nat := none
deriving DecidableEq, Repr

inductive OrderStatus where
  | completed
  | failed
  | refunded
deriving DecidableEq, Repr

/-- A row of `shop_orders`. -/
structure ShopOrder where
  id : OrderId
  userId : UserId
  productId : ProductId
  productName : String
  pricePoints : Int
  paymentMethod : String
  status : OrderStatus := .completed
  idempotencyKey : Option String
  pointLedgerId : Option LedgerId := none
  pointEventId : Option EventId := none
  refundTransactionId : Option String := none
  refundedAt : Option Time := none
deriving DecidableEq, Repr

/-- The tables that orders and refunds read and write. -/
structure ShopDb extends PassDb where
  products : List ShopProduct
  orders : List ShopOrder
  shopEntitlements : List PackEntitlement
deriving DecidableEq, Repr

/-- `ShopOrderCreate`. -/
structure ShopOrderCreate where
  productId : ProductId
  paymentMethod : String
deriving DecidableEq, Repr

/-- The identifiers that an order draws. -/
structure OrderDraws where
  orderId : OrderId
  eventId : EventId
  ledgerId : LedgerId
  entitlementId : String
  grantId : String
  transactionId : String
deriving DecidableEq, Repr

/-- The answer to an order. -/
structure OrderAnswer where
  id : OrderId
  productId : ProductId
  status : OrderStatus
  replayed : Bool := false
deriving DecidableEq, Repr

/-- `shop_product_is_sellable`. -/
def shopProductIsSellable (product : ShopProduct) (now : Time) : Bool :=
  product.status = .published && product.startsAt.all (· ≤ now) && product.endsAt.all (now ≤ ·)

/-- The rule key that an order delivers its reward under. -/
def orderRule (orderId : OrderId) : String := "shop_order:" ++ orderId

namespace ShopDb

def findProduct (db : ShopDb) (productId : ProductId) : Option ShopProduct :=
  db.products.find? (fun row => row.id == productId)

def findOrder (db : ShopDb) (orderId : OrderId) : Option ShopOrder :=
  db.orders.find? (fun row => row.id == orderId)

/-- The row under the unique key `uq_shop_orders_user_key`. -/
def orderUnder (db : ShopDb) (userId : UserId) (idempotencyKey : String) : Option ShopOrder :=
  db.orders.find? fun row =>
    row.userId == userId && row.idempotencyKey == some idempotencyKey

/-- The orders of a user for a product that count against the limit of the user. -/
def completedBy (db : ShopDb) (userId : UserId) (productId : ProductId) : Nat :=
  db.orders.countP fun row =>
    row.userId == userId && row.productId == productId && row.status == .completed

/-- The row under the unique key `uq_shop_order_entitlements_order`. -/
def entitlementOf (db : ShopDb) (orderId : OrderId) : Option PackEntitlement :=
  db.shopEntitlements.find? (fun row => row.sourceId == orderId)

/-- The grant that an order delivered. -/
def grantOf (db : ShopDb) (userId : UserId) (orderId : OrderId) : Option RewardGrant :=
  db.rewardGrants.find? fun row => row.userId == userId && row.ruleKey == orderRule orderId

def withPoints (db : ShopDb) (points : PointDb) : ShopDb := { db with points := points }

/-- `record_engagement_event`, on the tables of the shop. -/
def recordEvent (db : ShopDb) (userId : UserId) (kind sourceType sourceId : String)
    (payload : JsonObject) (eventId : EventId) : Except Failure (ShopDb × EngagementEvent) := do
  let (events, event) ← recordEngagementEvent db.points.events userId kind sourceType sourceId
    payload eventId
  return (db.withPoints { db.points with events := events }, event)

def insertTransaction (db : ShopDb) (row : PointTransaction) : Except Failure ShopDb := do
  let points ← db.points.insertTransaction row
  return db.withPoints points

def insertOrder (db : ShopDb) (row : ShopOrder) : Except Failure ShopDb := do
  ensure (∀ row' ∈ db.orders, row'.id ≠ row.id) (.integrity "shop_orders_pkey")
  ensure (∀ row' ∈ db.orders, ¬(row'.userId = row.userId ∧ row.idempotencyKey.isSome ∧
      row'.idempotencyKey = row.idempotencyKey)) (.integrity "uq_shop_orders_user_key")
  return { db with orders := db.orders ++ [row] }

def insertEntitlement (db : ShopDb) (row : PackEntitlement) : Except Failure ShopDb := do
  ensure (∀ row' ∈ db.shopEntitlements, row'.id ≠ row.id)
    (.integrity "shop_order_entitlements_pkey")
  ensure (∀ row' ∈ db.shopEntitlements, row'.sourceId ≠ row.sourceId)
    (.integrity "uq_shop_order_entitlements_order")
  return { db with shopEntitlements := db.shopEntitlements ++ [row] }

end ShopDb

def productSoldOut : Failure := .app ⟨409, "SHOP_PRODUCT_SOLD_OUT", "상품 재고가 모두 소진되었습니다."⟩

/-- The checks of `create_shop_order` on the product, whose row is locked. -/
def checkProduct (db : ShopDb) (userId : UserId) (product? : Option ShopProduct) (now : Time) :
    Except Failure ShopProduct := do
  let product ← orFail (product?.filter (shopProductIsSellable · now))
    (.app ⟨409, "SHOP_PRODUCT_UNAVAILABLE", "판매가 종료된 상품입니다."⟩)
  ensure (product.productType = .cardPack → product.cardPackId.any (· ≠ ""))
    (.app ⟨409, "SHOP_PRODUCT_NOT_PURCHASABLE", "현재 구매할 수 없는 상품입니다."⟩)
  ensure (product.productType ≠ .cardPack → product.rewardId ≠ "")
    (.app ⟨409, "SHOP_PRODUCT_NOT_PURCHASABLE", "상품 지급 정보를 확인할 수 없습니다."⟩)
  ensure (product.inventoryLimit.all (product.soldCount < ·)) productSoldOut
  ensure (product.perUserLimit.all (db.completedBy userId product.id < ·))
    (.app ⟨409, "SHOP_PRODUCT_USER_LIMIT", "1인 구매 한도를 초과했습니다."⟩)
  return product

/-- What an order delivers: the right to open a pack, or a reward. -/
def deliverOrder (db : ShopDb) (userId : UserId) (product : ShopProduct) (orderId : OrderId)
    (eventId : EventId) (draws : OrderDraws) (now : Time) : Except Failure ShopDb :=
  if product.productType = .cardPack then
    db.insertEntitlement
      { id := draws.entitlementId, sourceId := orderId, userId := userId,
        packId := product.cardPackId.getD "", status := .available, createdAt := now }
  else do
    let (granted, _) ← grantReward db.toGrowthDb userId product.rewardId eventId (orderRule orderId)
      draws.grantId now
    return { db with toGrowthDb := granted }

/-- `create_shop_order` after the checks on the product. -/
def placeOrder (db : ShopDb) (userId : UserId) (product : ShopProduct) (payload : ShopOrderCreate)
    (key : String) (draws : OrderDraws) (now : Time) : Except Failure (ShopDb × OrderAnswer) := do
  let order : ShopOrder :=
    { id := draws.orderId, userId := userId, productId := product.id, productName := product.name,
      pricePoints := product.pricePoints, paymentMethod := payload.paymentMethod,
      status := .completed, idempotencyKey := some key }
  let ordered ← db.insertOrder order
  let sold : ShopDb :=
    { ordered with
      products := patch (·.id == product.id) ({ · with soldCount := product.soldCount + 1 })
        ordered.products }
  let (recorded, event) ← sold.recordEvent userId "points_spent" "shop_order" order.id
    [("productId", .str product.id), ("points", .num product.pricePoints),
      ("orderId", .str order.id)] draws.eventId
  let (spent, ledger) ← spendPoints recorded.points userId event.id ("shop_order:" ++ product.id)
    product.pricePoints (some (product.name ++ " 구매"))
    (some [("productId", .str product.id), ("cardPackId", .ofOption product.cardPackId),
      ("orderId", .str order.id)]) draws.ledgerId
  let paid : ShopDb :=
    { recorded.withPoints spent with
      orders := patch (·.id == order.id)
        ({ · with pointLedgerId := some ledger.id, pointEventId := some event.id })
        recorded.orders }
  let delivered ← deliverOrder paid userId product order.id event.id draws now
  let completed ← delivered.insertTransaction
    { id := draws.transactionId, userId := userId, operation := .charge, idempotencyKey := key,
      amount := -product.pricePoints, ledgerId := some ledger.id }
  return (completed, { id := order.id, productId := order.productId, status := order.status })

/-- `create_shop_order`; `key` is the idempotency key without the space around it. -/
def createShopOrder (db : ShopDb) (userId : UserId) (payload : ShopOrderCreate) (key : String)
    (draws : OrderDraws) (now : Time) : Except Failure (ShopDb × OrderAnswer) := do
  ensure (key ≠ "") (.app ⟨422, "IDEMPOTENCY_KEY_REQUIRED", "주문 요청 식별자가 필요합니다."⟩)
  ensure (payload.paymentMethod = "points")
    (.app ⟨422, "SHOP_PAYMENT_METHOD_UNSUPPORTED", "현재는 포인트 결제만 지원합니다."⟩)
  match db.orderUnder userId key with
  | some existing =>
    ensure (existing.productId = payload.productId ∧ existing.paymentMethod = payload.paymentMethod)
      (.app ⟨409, "IDEMPOTENCY_KEY_REUSED", "같은 멱등 키로 다른 주문을 요청할 수 없습니다."⟩)
    return (db, { id := existing.id, productId := existing.productId, status := existing.status,
                  replayed := true })
  | none =>
    let product ← checkProduct db userId (db.findProduct payload.productId) now
    placeOrder db userId product payload key draws now

section

variable {db db' : ShopDb} {userId : UserId}

theorem recordEvent_ok {kind sourceType sourceId : String} {payload : JsonObject}
    {eventId : EventId} {event : EngagementEvent}
    (h : db.recordEvent userId kind sourceType sourceId payload eventId = .ok (db', event)) :
    ∃ events, db' = db.withPoints { db.points with events := events } ∧
      (event ∈ db.points.events ∧ event.sourceId = sourceId ∨ event.id = eventId) := by
  simp only [ShopDb.recordEvent, bind_ok, Prod.exists, pure_ok, Prod.mk.injEq] at h
  obtain ⟨events, event', hrecord, rfl, rfl⟩ := h
  refine ⟨events, rfl, ?_⟩
  rcases recordEngagementEvent_cases hrecord with ⟨hfind, -⟩ | ⟨-, -, rfl, -⟩
  · have hsource := List.find?_some hfind
    simp only [EngagementEvent.hasSource, Bool.and_eq_true, beq_iff_eq] at hsource
    exact .inl ⟨List.mem_of_find?_eq_some hfind, hsource.2⟩
  · exact .inr rfl

theorem insertTransaction_ok {row : PointTransaction}
    (h : db.insertTransaction row = .ok db') :
    (∀ row' ∈ db.points.transactions, row'.id ≠ row.id) ∧
      db.points.findTransaction row.userId row.operation row.idempotencyKey = none ∧
      db' = db.withPoints { db.points with transactions := db.points.transactions ++ [row] } := by
  simp only [ShopDb.insertTransaction, PointDb.insertTransaction, bind_ok, ensure_ok, exists_const,
    pure_ok] at h
  obtain ⟨points, ⟨hid, hkey, rfl⟩, rfl⟩ := h
  exact ⟨hid, hkey, rfl⟩

theorem insertOrder_ok {row : ShopOrder} (h : db.insertOrder row = .ok db') :
    (∀ row' ∈ db.orders, row'.id ≠ row.id) ∧
      db' = { db with orders := db.orders ++ [row] } := by
  simp only [ShopDb.insertOrder, bind_ok, ensure_ok, exists_const, pure_ok] at h
  exact ⟨h.1, h.2.2.symm⟩

/-- A purchase is the row found under its event and rule, or a new row. -/
theorem spendPoints_ok {points points' : PointDb} {eventId : EventId} {ruleKey : String}
    {amount : Int} {ledgerId : LedgerId} {description : Option String}
    {metadata : Option JsonObject} {row : PointLedger}
    (h : spendPoints points userId eventId ruleKey amount description metadata ledgerId =
      .ok (points', row)) :
    row.sourceEventId = eventId ∧
      (points' = points ∧ row ∈ points.ledger ∨
        (∃ balances, points' =
          { points with balances := balances, ledger := points.ledger ++ [row] }) ∧
          row.id = ledgerId ∧ row.ruleKey = ruleKey ∧ row.transactionType = .spend ∧
          row.amount = -amount ∧ row.reversedLedgerId = none) := by
  simp only [spendPoints, bind_ok, ensure_ok, exists_const] at h
  obtain ⟨-, h⟩ := h
  split at h
  · rename_i existing hfind
    obtain ⟨rfl, rfl⟩ := Prod.mk.inj (pure_ok.mp h)
    have hevent := List.find?_some hfind
    simp only [Bool.and_eq_true, beq_iff_eq] at hevent
    exact ⟨hevent.1.2, .inl ⟨rfl, List.mem_of_find?_eq_some hfind⟩⟩
  · simp only [bind_ok, orFail_ok, ensure_ok, exists_const, pure_ok, Prod.mk.injEq] at h
    obtain ⟨balance, -, -, written, hwrite, inserted, hinsert, rfl, rfl⟩ := h
    obtain ⟨-, rfl⟩ := writeBalance_ok.mp hwrite
    obtain ⟨-, -, rfl⟩ := insertLedger_ok.mp hinsert
    exact ⟨rfl, .inr ⟨⟨_, rfl⟩, rfl, rfl, rfl, rfl, rfl⟩⟩

/-- An order delivers a right under its identifier, or a grant under its rule. -/
theorem deliverOrder_ok {product : ShopProduct} {orderId : OrderId} {eventId : EventId}
    {draws : OrderDraws} {now : Time}
    (h : deliverOrder db userId product orderId eventId draws now = .ok db') :
    (∃ row, row.sourceId = orderId ∧
        db' = { db with shopEntitlements := db.shopEntitlements ++ [row] }) ∨
      ∃ grants, db' = { db with rewardGrants := grants } := by
  unfold deliverOrder at h
  split at h
  · simp only [ShopDb.insertEntitlement, bind_ok, ensure_ok, exists_const, pure_ok] at h
    obtain ⟨-, -, rfl⟩ := h
    exact .inl ⟨_, rfl, rfl⟩
  · simp only [bind_ok, Prod.exists, pure_ok] at h
    obtain ⟨granted, row, hgrant, rfl⟩ := h
    obtain ⟨grants, rfl, -⟩ := grantReward_ok hgrant
    exact .inr ⟨grants, rfl⟩

/-- What an order writes: one more sold, one more order, and what it delivers. -/
theorem placeOrder_ok {product : ShopProduct} {payload : ShopOrderCreate} {key : String}
    {draws : OrderDraws} {now : Time} {answer : OrderAnswer}
    (h : placeOrder db userId product payload key draws now = .ok (db', answer)) :
    ∃ (event : EngagementEvent) (ledger : PointLedger) (points : PointDb)
        (entitlements : List PackEntitlement) (grants : List RewardGrant),
      db' = { db with
        points := points
        products := patch (·.id == product.id) ({ · with soldCount := product.soldCount + 1 })
          db.products
        orders := db.orders ++
          [{ id := draws.orderId, userId := userId, productId := product.id,
             productName := product.name, pricePoints := product.pricePoints,
             paymentMethod := payload.paymentMethod, status := .completed,
             idempotencyKey := some key, pointLedgerId := some ledger.id,
             pointEventId := some event.id }]
        shopEntitlements := entitlements
        rewardGrants := grants } ∧
      answer = { id := draws.orderId, productId := product.id, status := .completed } ∧
      (∀ row ∈ db.orders, row.id ≠ draws.orderId) ∧
      (event ∈ db.points.events ∧ event.sourceId = draws.orderId ∨ event.id = draws.eventId) ∧
      ledger.sourceEventId = event.id ∧
      (ledger ∈ db.points.ledger ∨ points.ledger = db.points.ledger ++ [ledger] ∧
        ledger.id = draws.ledgerId ∧ ledger.ruleKey = "shop_order:" ++ product.id ∧
        ledger.transactionType = .spend ∧ ledger.amount = -product.pricePoints ∧
        ledger.reversedLedgerId = none) ∧
      ((∃ row, row.sourceId = draws.orderId ∧ entitlements = db.shopEntitlements ++ [row] ∧
          grants = db.rewardGrants) ∨ entitlements = db.shopEntitlements) := by
  simp only [placeOrder, bind_ok, Prod.exists, pure_ok, Prod.mk.injEq] at h
  obtain ⟨ordered, horder, recorded, event, hrecord, spent, ledger, hspend, delivered, hdeliver,
    completed, hinsert, rfl, rfl⟩ := h
  obtain ⟨hid, rfl⟩ := insertOrder_ok horder
  obtain ⟨events, rfl, hevent⟩ := recordEvent_ok hrecord
  obtain ⟨hledger, hspent⟩ := spendPoints_ok hspend
  obtain ⟨-, -, rfl⟩ := insertTransaction_ok hinsert
  have hledgers : ledger ∈ db.points.ledger ∨ spent.ledger = db.points.ledger ++ [ledger] ∧
      ledger.id = draws.ledgerId ∧ ledger.ruleKey = "shop_order:" ++ product.id ∧
      ledger.transactionType = .spend ∧ ledger.amount = -product.pricePoints ∧
      ledger.reversedLedgerId = none := by
    obtain ⟨-, hold⟩ | ⟨⟨balances, rfl⟩, hnew⟩ := hspent
    · exact .inl hold
    · exact .inr ⟨rfl, hnew⟩
  let order : ShopOrder :=
    { id := draws.orderId, userId := userId, productId := product.id, productName := product.name,
      pricePoints := product.pricePoints, paymentMethod := payload.paymentMethod,
      status := .completed, idempotencyKey := some key }
  let paid : ShopOrder → ShopOrder :=
    ({ · with pointLedgerId := some ledger.id, pointEventId := some event.id })
  have horders : patch (·.id == draws.orderId) paid (db.orders ++ [order]) =
      db.orders ++ [paid order] :=
    patch_insert (fun row hrow => beq_false_of_ne (hid row hrow)) (beq_self_eq_true draws.orderId)
  let points : PointDb :=
    { spent with
      transactions := spent.transactions ++
        [{ id := draws.transactionId, userId := userId, operation := .charge,
           idempotencyKey := key, amount := -product.pricePoints, ledgerId := some ledger.id }] }
  let written : List PackEntitlement → List RewardGrant → List ShopOrder → ShopDb :=
    fun entitlements grants orders =>
      { db with
        points := points
        products := patch (·.id == product.id) ({ · with soldCount := product.soldCount + 1 })
          db.products
        orders := orders
        shopEntitlements := entitlements
        rewardGrants := grants }
  obtain ⟨row, hsource, rfl⟩ | ⟨grants, rfl⟩ := deliverOrder_ok hdeliver
  · exact ⟨event, ledger, points, db.shopEntitlements ++ [row], db.rewardGrants,
      congrArg (written _ _) horders, rfl, hid, hevent, hledger, hledgers,
      .inl ⟨row, hsource, rfl, rfl⟩⟩
  · exact ⟨event, ledger, points, db.shopEntitlements, grants,
      congrArg (written _ _) horders, rfl, hid, hevent, hledger, hledgers, .inr rfl⟩

/-- An order moves points under the rule of its product, and records one transaction. -/
theorem placeOrder_points {product : ShopProduct} {payload : ShopOrderCreate} {key : String}
    {draws : OrderDraws} {now : Time} {answer : OrderAnswer}
    (h : placeOrder db userId product payload key draws now = .ok (db', answer)) :
    ∃ points ledgerId, Moved ("shop_order:" ++ product.id) db.points points ∧
      db'.points = { points with
        transactions := points.transactions ++
          [{ id := draws.transactionId, userId := userId, operation := .charge,
             idempotencyKey := key, amount := -product.pricePoints, ledgerId := ledgerId }] } := by
  simp only [placeOrder, bind_ok, Prod.exists, pure_ok, Prod.mk.injEq] at h
  obtain ⟨ordered, horder, recorded, event, hrecord, spent, ledger, hspend, delivered, hdeliver,
    completed, hinsert, rfl, -⟩ := h
  obtain ⟨-, rfl⟩ := insertOrder_ok horder
  obtain ⟨events, rfl, -⟩ := recordEvent_ok hrecord
  obtain ⟨-, -, rfl⟩ := insertTransaction_ok hinsert
  refine ⟨spent, some ledger.id, (spendPoints_moved hspend).1.of_events, ?_⟩
  obtain ⟨row, -, rfl⟩ | ⟨grants, rfl⟩ := deliverOrder_ok hdeliver <;> rfl

theorem recordEvent_refuses {eventId : EventId}
    (hfresh : ∀ event ∈ db.points.events, event.id ≠ eventId) (kind sourceType sourceId : String)
    (payload : JsonObject) :
    Refuses (db.recordEvent userId kind sourceType sourceId payload eventId) :=
  FailsIn.bind (recordEngagementEvent_refuses hfresh kind sourceType sourceId payload)
    fun _ => .pure _

theorem insertOrder_refuses {row : ShopOrder} {key : String}
    (hfresh : ∀ row' ∈ db.orders, row'.id ≠ row.id) (hkey : row.idempotencyKey = some key)
    (hnone : db.orderUnder row.userId key = none) : Refuses (db.insertOrder row) := by
  apply FailsIn.of_ok
  simp only [ShopDb.insertOrder, bind_ok, ensure_ok, exists_const]
  refine ⟨hfresh, ?_, rfl⟩
  simpa [hkey, ShopDb.orderUnder] using hnone

theorem deliverOrder_refuses {product : ShopProduct} {orderId : OrderId} {eventId : EventId}
    {draws : OrderDraws} {now : Time}
    (hrights : ∀ row ∈ db.shopEntitlements, row.id ≠ draws.entitlementId ∧ row.sourceId ≠ orderId)
    (hgrants : ∀ row ∈ db.rewardGrants, row.id ≠ draws.grantId) :
    Refuses (deliverOrder db userId product orderId eventId draws now) := by
  unfold deliverOrder
  split
  · apply FailsIn.of_ok
    simp only [ShopDb.insertEntitlement, bind_ok, ensure_ok, exists_const]
    exact ⟨fun row hrow => (hrights row hrow).1, fun row hrow => (hrights row hrow).2, rfl⟩
  · refine FailsIn.bind ?_ fun _ => .pure _
    unfold grantReward
    split
    · exact .ok _
    · refine FailsIn.bind (.orFail rfl) fun reward => ?_
      refine FailsIn.bind (.ensure rfl) fun _ => ?_
      exact FailsIn.bind (.ensure_of hgrants) fun _ => .pure _

/-- A reward that an order delivers is published. -/
theorem deliverOrder_published {product : ShopProduct} {orderId : OrderId} {eventId : EventId}
    {draws : OrderDraws} {now : Time}
    (h : deliverOrder db userId product orderId eventId draws now = .ok db')
    (hgrants : ∀ row ∈ db.rewardGrants, row.sourceEventId ≠ eventId)
    (hreward : product.productType ≠ .cardPack) :
    (db.rewards.find? (fun row => row.id == product.rewardId)).any (·.status = .published) := by
  simp only [deliverOrder, if_neg hreward, bind_ok, Prod.exists] at h
  obtain ⟨granted, grant, hgrant, -⟩ := h
  rcases grantReward_cases hgrant with ⟨hfound, -⟩ | ⟨-, ⟨reward, hfound, hstatus⟩, -⟩
  · obtain ⟨hmem, hkey⟩ := mem_of_find_eq_some (g := fun row : RewardGrant => row.entry.1) hfound
    exact absurd (congrArg (fun key => key.2.1) hkey) (hgrants grant hmem)
  · simp [hfound, hstatus]

/-- An order whose identifiers are new fails with an `AppError` only, unless its key is taken. -/
theorem placeOrder_refuses {product : ShopProduct} {payload : ShopOrderCreate} {key : String}
    {draws : OrderDraws} {now : Time}
    (horders : ∀ row ∈ db.orders, row.id ≠ draws.orderId)
    (hunder : db.orderUnder userId key = none)
    (hevents : ∀ row ∈ db.points.events, row.id ≠ draws.eventId ∧ row.sourceId ≠ draws.orderId)
    (hledger : ∀ row ∈ db.points.ledger, row.id ≠ draws.ledgerId ∧
      row.sourceEventId ≠ draws.eventId)
    (hrights : ∀ row ∈ db.shopEntitlements, row.id ≠ draws.entitlementId ∧
      row.sourceId ≠ draws.orderId)
    (hgrants : ∀ row ∈ db.rewardGrants, row.id ≠ draws.grantId ∧
      row.sourceEventId ≠ draws.eventId)
    (htransactions : ∀ row ∈ db.points.transactions, row.id ≠ draws.transactionId)
    (hkey : 0 < product.pricePoints → product.pricePoints ≤ db.points.balanceOf userId →
      (product.productType ≠ .cardPack →
        (db.rewards.find? (fun row => row.id == product.rewardId)).any (·.status = .published)) →
      db.points.findTransaction userId .charge key = none) :
    Refuses (placeOrder db userId product payload key draws now) := by
  refine FailsIn.bind_of (insertOrder_refuses horders rfl hunder) ?_
  intro ordered horder
  obtain ⟨-, rfl⟩ := insertOrder_ok horder
  refine FailsIn.bind_of (recordEvent_refuses ?_ _ _ _ _) ?_
  · exact fun row hrow => (hevents row hrow).1
  rintro ⟨recorded, event⟩ hrecord
  obtain ⟨events, rfl, hevent⟩ := recordEvent_ok hrecord
  have hid : event.id = draws.eventId := by
    rcases hevent with ⟨hmem, hsource⟩ | hnew
    · exact absurd hsource (hevents event hmem).2
    · exact hnew
  refine FailsIn.bind_of (spendPoints_refuses ?_) ?_
  · exact fun row hrow => (hledger row hrow).1
  rintro ⟨spent, ledger⟩ hspend
  obtain ⟨hprice, hcovered⟩ := spendPoints_covered hspend
  have hbalance : product.pricePoints ≤ db.points.balanceOf userId := by
    rcases hcovered with hcovered | ⟨row, hrow, -, hsource, -⟩
    · exact hcovered
    · exact absurd (hsource.trans hid) (hledger row hrow).2
  refine FailsIn.bind_of (deliverOrder_refuses ?_ ?_) ?_
  · exact hrights
  · exact fun row hrow => (hgrants row hrow).1
  intro delivered hdeliver
  have hpublished := deliverOrder_published hdeliver fun row hrow => hid ▸ (hgrants row hrow).2
  have hfree := hkey hprice hbalance hpublished
  have hmoved := (spendPoints_moved hspend).1.transactions
  have hpoints : delivered.points = spent := by
    obtain ⟨row, -, rfl⟩ | ⟨grants, rfl⟩ := deliverOrder_ok hdeliver <;> rfl
  refine FailsIn.bind ?_ fun _ => .pure _
  refine FailsIn.bind (insertTransaction_refuses ?_ ?_) fun _ => .pure _
  · rw [hpoints, hmoved]
    exact htransactions
  · rw [PointDb.findTransaction, hpoints, hmoved]
    exact hfree

theorem checkProduct_ok {product? : Option ShopProduct} {product : ShopProduct} {now : Time}
    (h : checkProduct db userId product? now = .ok product) :
    product? = some product ∧ product.inventoryLimit.all (product.soldCount < ·) ∧
      product.perUserLimit.all (db.completedBy userId product.id < ·) := by
  simp only [checkProduct, bind_ok, orFail_ok, ensure_ok, exists_const, pure_ok,
    Option.filter_eq_some_iff] at h
  obtain ⟨row, ⟨hrow, -⟩, -, -, hstock, hquota, rfl⟩ := h
  exact ⟨hrow, hstock, hquota⟩

theorem checkProduct_refuses {product? : Option ShopProduct} {now : Time} :
    Refuses (checkProduct db userId product? now) := by
  refine FailsIn.bind (.orFail rfl) fun product => ?_
  refine FailsIn.bind (.ensure rfl) fun _ => ?_
  refine FailsIn.bind (.ensure rfl) fun _ => ?_
  refine FailsIn.bind (.ensure rfl) fun _ => ?_
  exact FailsIn.bind (.ensure rfl) fun _ => .pure _

end

/-- A shop before its first order. -/
def openShop (products : List ShopProduct) (balances : List PointBalance) : ShopDb :=
  { points := { PointDb.opening [] [] with balances := balances }
    xpLedger := [], levels := [], policies := [], thresholds := []
    rewards := [], rewardGrants := [], missions := [], progress := [], achievements := []
    achievementProgress := [], seasons := [], passProgress := [], tiers := []
    passEntitlements := [], cardPacks := [], packEntitlements := []
    products := products, orders := [], shopEntitlements := [] }

/-- A pack for 100 points. -/
def packProduct : ShopProduct :=
  { id := "pack-product", cardPackId := some "pack", name := "Pack", pricePoints := 100
    status := .published }

end Fanfolio
