import Fanfolio.Framework.Run
import Fanfolio.Framework.Text
import Fanfolio.Points.Movements
import Fanfolio.Shop.PassPurchase
import Fanfolio.Shop.Refunds

/-!
# Idempotency keys

Fans send a key with every charge, order and refund, and are answered again under a key that was
used before. Charges and orders share one kind of key, refunds of charges and of orders another,
and the order of a pass takes a key of its own making.
-/

namespace Fanfolio

open Framework

/-- What a fan asks for, and under which key. -/
inductive KeyRequest where
  | charge (userId : UserId) (packageId : PackageId) (paymentMethod key : String)
  | refundCharge (userId : UserId) (chargeId : ChargeId) (key : String)
  | order (userId : UserId) (payload : ShopOrderCreate) (key : String)
  | refundOrder (userId : UserId) (orderId : OrderId) (key : String)
  | purchasePass (userId : UserId) (seasonId : SeasonId)
deriving DecidableEq, Repr

/-- The identifiers that a request draws: `resourceId` is that of the charge or the order. -/
structure KeyDraws where
  eventId : EventId
  ledgerId : LedgerId
  transactionId : String
  resourceId : String
  entitlementId : String
  grantId : String
deriving DecidableEq, Repr

structure KeyCall where
  request : KeyRequest
  draws : KeyDraws
  now : Time
deriving DecidableEq, Repr

namespace KeyDraws

def point (draws : KeyDraws) : PointDraws :=
  ⟨draws.eventId, draws.ledgerId, draws.resourceId, draws.transactionId⟩

def order (draws : KeyDraws) : OrderDraws :=
  ⟨draws.resourceId, draws.eventId, draws.ledgerId, draws.entitlementId, draws.grantId,
    draws.transactionId⟩

def refund (draws : KeyDraws) : RefundDraws := ⟨draws.eventId, draws.ledgerId, draws.transactionId⟩

def purchase (draws : KeyDraws) : PurchaseDraws :=
  ⟨draws.eventId, draws.ledgerId, draws.resourceId, draws.entitlementId⟩

/-- The identifiers are new. -/
structure Fresh (draws : KeyDraws) (db : ShopDb) : Prop where
  events : ∀ row ∈ db.points.events, row.id ≠ draws.eventId ∧ row.sourceId ≠ draws.resourceId
  ledger : ∀ row ∈ db.points.ledger, row.id ≠ draws.ledgerId ∧ row.sourceEventId ≠ draws.eventId
  transactions : ∀ row ∈ db.points.transactions, row.id ≠ draws.transactionId
  charges : ∀ row ∈ db.points.charges, row.id ≠ draws.resourceId
  orders : ∀ row ∈ db.orders, row.id ≠ draws.resourceId
  rights : ∀ row ∈ db.shopEntitlements, row.id ≠ draws.entitlementId ∧
    row.sourceId ≠ draws.resourceId
  passes : ∀ row ∈ db.passEntitlements, row.id ≠ draws.entitlementId
  grants : ∀ row ∈ db.rewardGrants, row.id ≠ draws.grantId ∧ row.sourceEventId ≠ draws.eventId

instance (draws : KeyDraws) (db : ShopDb) : Decidable (draws.Fresh db) :=
  decidable_of_iff (_ ∧ _ ∧ _ ∧ _ ∧ _ ∧ _ ∧ _ ∧ _)
    ⟨fun ⟨h1, h2, h3, h4, h5, h6, h7, h8⟩ => ⟨h1, h2, h3, h4, h5, h6, h7, h8⟩,
      fun ⟨h1, h2, h3, h4, h5, h6, h7, h8⟩ => ⟨h1, h2, h3, h4, h5, h6, h7, h8⟩⟩

end KeyDraws

/-- `create_fan_point_charge`, where test charges are allowed. -/
def createFanPointCharge (db : PointDb) (userId : UserId) (packageId : PackageId)
    (paymentMethod key : String) (draws : PointDraws) (now : Time) :
    Except Failure (PointDb × PointCharge) := do
  ensure (key ≠ "") (.app ⟨422, "IDEMPOTENCY_KEY_REQUIRED", "충전 요청 식별자가 필요합니다."⟩)
  ensure (∀ charge ∈ db.chargeUnder userId key,
      charge.packageId = packageId ∧ charge.paymentMethod = paymentMethod)
    (.app ⟨409, "IDEMPOTENCY_KEY_REUSED", "같은 멱등 키로 다른 포인트 충전을 요청할 수 없습니다."⟩)
  createPointCharge db userId packageId paymentMethod key draws now

/-- `refund_fan_point_charge`. -/
def refundFanPointCharge (db : PointDb) (userId : UserId) (chargeId : ChargeId) (key : String)
    (draws : PointDraws) (now : Time) : Except Failure (PointDb × PointCharge) := do
  ensure (key ≠ "") (.app ⟨422, "IDEMPOTENCY_KEY_REQUIRED", "환불 요청 식별자가 필요합니다."⟩)
  refundPointCharge db userId chargeId key draws now

namespace KeyRequest

/-- The tables after a request that succeeds. -/
def handle (db : ShopDb) (draws : KeyDraws) (now : Time) : KeyRequest → Except Failure ShopDb
  | .charge userId packageId paymentMethod key => do
    let (points, _) ← createFanPointCharge db.points userId packageId paymentMethod key draws.point
      now
    return db.withPoints points
  | .refundCharge userId chargeId key => do
    let (points, _) ← refundFanPointCharge db.points userId chargeId key draws.point now
    return db.withPoints points
  | .order userId payload key => do
    let (db, _) ← createShopOrder db userId payload key draws.order now
    return db
  | .refundOrder userId orderId key => do
    let (db, _) ← refundShopOrder db userId orderId key draws.refund now
    return db
  | .purchasePass userId seasonId => do
    let (db, _) ← purchasePassSeason db userId seasonId draws.purchase now
    return db

/-- The request finds an earlier one under its key, which it is answered from. -/
def replays (db : ShopDb) : KeyRequest → Bool
  | .charge userId _ _ key => (db.points.chargeUnder userId key).isSome
  | .refundCharge userId _ key => (db.points.findTransaction userId .refund key).isSome
  | .order userId _ key => (db.orderUnder userId key).isSome
  | .refundOrder userId _ key => (db.refundUnder userId key).isSome
  | .purchasePass userId seasonId => (db.passOf userId seasonId).any (·.status = .active)

/-- The request asks for the refund of a charge that is refunded already. -/
def settled (db : ShopDb) : KeyRequest → Bool
  | .refundCharge userId chargeId _ =>
    (db.points.charges.find? (fun row => row.id == chargeId && row.userId == userId)).any
      (·.status = .refunded)
  | _ => false

end KeyRequest

/-- The tables, and the requests that were executed on them. -/
structure KeyState where
  db : ShopDb
  log : List KeyRequest
deriving DecidableEq, Repr

namespace Keys

/-- One request; a failed one is rolled back. -/
def step (s : KeyState) (call : KeyCall) : KeyState :=
  if call.draws.Fresh s.db then
    match call.request.handle s.db call.draws call.now with
    | .ok db =>
      ⟨db, if call.request.replays s.db || call.request.settled s.db then s.log
        else s.log ++ [call.request]⟩
    | .error _ => s
  else s

def start (db : ShopDb) : KeyState := ⟨db, []⟩

/-- Nothing has been charged, ordered or refunded yet. -/
structure Untouched (db : ShopDb) : Prop where
  funded : db.points.Funded
  charges : db.points.charges = []
  transactions : db.points.transactions = []
  orders : db.orders = []
  passes : db.passEntitlements = []
  rules : ∀ row ∈ db.points.ledger, ∀ chargeId, row.ruleKey ≠ "point_charge_refund:" ++ chargeId

/-- An earlier request, under any key, has refunded the charge. -/
def RefundedBefore (log : List KeyRequest) : KeyRequest → Prop
  | .refundCharge userId chargeId _ => ∃ key, .refundCharge userId chargeId key ∈ log
  | _ => False

/-- A request is answered from an earlier one only if that was the same request, or if it asks for
a refund that was made before; and it fails with an `AppError` only. -/
def Answered (s : KeyState) (call : KeyCall) : Prop :=
  call.draws.Fresh s.db →
    match call.request.handle s.db call.draws call.now with
    | .ok _ =>
      if call.request.replays s.db then call.request ∈ s.log
      else call.request.settled s.db → RefundedBefore s.log call.request
    | .error e => e.isRefusal

/-- The order passes the checks on its product and is covered by the balance of the user. -/
def orderGoesThrough (db : ShopDb) (userId : UserId) (payload : ShopOrderCreate) (now : Time) :
    Prop :=
  ∃ product, checkProduct db userId (db.findProduct payload.productId) now = .ok product ∧
    0 < product.pricePoints ∧ product.pricePoints ≤ db.points.balanceOf userId ∧
    (product.productType ≠ .cardPack →
      (db.rewards.find? (fun row => row.id == product.rewardId)).any (·.status = .published))

/-- The order can be refunded. -/
def refundGoesThrough (db : ShopDb) (userId : UserId) (orderId : OrderId) : Prop :=
  ∃ order, db.findOrder orderId = some order ∧ order.userId = userId ∧
    (∃ ledgerId, checkRefundable order = .ok ledgerId ∧
      (db.points.ledger.find? (fun row => row.id == ledgerId)).any (·.amount < 0)) ∧
    (∃ message item, refundItem db order message = .ok item) ∧ 0 < order.pricePoints

/-- The pass is on sale, the user does not have it, and it can be paid. -/
def purchaseGoesThrough (db : ShopDb) (userId : UserId) (seasonId : SeasonId) (now : Time) : Prop :=
  ∃ season, checkSeason (db.seasons.find? (fun row => row.id == seasonId)) now = .ok season ∧
    (db.passOf userId season.id).filter (·.status = .active) = none ∧ passPayable db userId season

/-- The key of the request does not meet with a request of another kind, or for another order. -/
def Clear (s : KeyState) (call : KeyCall) : Prop :=
  match call.request with
  | .charge userId packageId _ key =>
    (resolvePointChargePackage s.db.points packageId call.now).isOk →
      ∀ payload, .order userId payload key ∉ s.log
  | .refundCharge .. => True
  | .order userId payload key =>
    (∀ seasonId, key = passKey seasonId → payload.productId = passProductId seasonId →
      .purchasePass userId seasonId ∉ s.log) ∧
    (orderGoesThrough s.db userId payload call.now →
      ∀ packageId paymentMethod, .charge userId packageId paymentMethod key ∉ s.log)
  | .refundOrder userId orderId key =>
    (∀ orderId', orderId' ≠ orderId → .refundOrder userId orderId' key ∉ s.log) ∧
    (refundGoesThrough s.db userId orderId → ∀ chargeId, .refundCharge userId chargeId key ∉ s.log)
  | .purchasePass userId seasonId =>
    purchaseGoesThrough s.db userId seasonId call.now →
      ∀ payload, .order userId payload (passKey seasonId) ∉ s.log

/-- The charges are those that were asked for, and so are the refunded ones. -/
structure ChargeRows (log : List KeyRequest) (charges : List PointCharge) : Prop where
  ids : (charges.map (·.id)).Nodup
  made : ∀ row ∈ charges,
    .charge row.userId row.packageId row.paymentMethod row.idempotencyKey ∈ log
  refunded : ∀ row ∈ charges, row.status = .refunded →
    ∃ key, .refundCharge row.userId row.id key ∈ log
  kept : ∀ userId packageId paymentMethod key, .charge userId packageId paymentMethod key ∈ log →
    ∃ row ∈ charges, row.userId = userId ∧ row.idempotencyKey = key
  settled : ∀ userId chargeId key, .refundCharge userId chargeId key ∈ log →
    ∃ row ∈ charges, row.id = chargeId ∧ row.userId = userId ∧ row.status = .refunded

/-- The orders are those that were asked for, and those of the passes that were bought. -/
structure OrderRows (log : List KeyRequest) (orders : List ShopOrder) : Prop where
  made : ∀ row ∈ orders, ∃ key, row.idempotencyKey = some key ∧
    (.order row.userId ⟨row.productId, row.paymentMethod⟩ key ∈ log ∨
      ∃ seasonId, key = passKey seasonId ∧ row.productId = passProductId seasonId ∧
        .purchasePass row.userId seasonId ∈ log)
  kept : ∀ userId payload key, .order userId payload key ∈ log →
    ∃ row ∈ orders, row.userId = userId ∧ row.idempotencyKey = some key

/-- The transactions are those of the charges, orders and refunds that were asked for. -/
structure TransactionRows (log : List KeyRequest) (transactions : List PointTransaction)
    (ledger : List PointLedger) : Prop where
  charges : ∀ row ∈ transactions, row.operation = .charge →
    (∃ packageId paymentMethod,
      .charge row.userId packageId paymentMethod row.idempotencyKey ∈ log) ∨
    ∃ payload, .order row.userId payload row.idempotencyKey ∈ log
  refunds : ∀ row ∈ transactions, row.operation = .refund →
    (row.ledgerId = none ∧ ∃ chargeId, row.resourceId = some chargeId ∧
      .refundCharge row.userId chargeId row.idempotencyKey ∈ log) ∨
    (row.resourceId = none ∧ (∃ entry ∈ ledger, row.ledgerId = some entry.id) ∧
      ∃ orderId, .refundOrder row.userId orderId row.idempotencyKey ∈ log)

/-- The passes are those that were bought. -/
structure PassRows (log : List KeyRequest) (passes : List PassEntitlement) : Prop where
  made : ∀ row ∈ passes, .purchasePass row.userId row.seasonId ∈ log
  active : ∀ row ∈ passes, row.status = .active
  kept : ∀ userId seasonId, .purchasePass userId seasonId ∈ log →
    ∃ row ∈ passes, row.userId = userId ∧ row.seasonId = seasonId

/-- The ledger rows of charge refunds are those of the refunds that were asked for. -/
def RuleRows (log : List KeyRequest) (ledger : List PointLedger) : Prop :=
  ∀ row ∈ ledger, ∀ chargeId, row.ruleKey = "point_charge_refund:" ++ chargeId →
    ∃ key, .refundCharge row.userId chargeId key ∈ log

/-- The tables hold what the log says. -/
structure Attributed (s : KeyState) : Prop where
  funded : s.db.points.Funded
  charges : ChargeRows s.log s.db.points.charges
  orders : OrderRows s.log s.db.orders
  transactions : TransactionRows s.log s.db.points.transactions s.db.points.ledger
  passes : PassRows s.log s.db.passEntitlements
  rules : RuleRows s.log s.db.points.ledger

section

variable {log : List KeyRequest} {request : KeyRequest} {charges : List PointCharge}
  {orders : List ShopOrder} {transactions : List PointTransaction} {ledger ledger' : List PointLedger}
  {passes : List PassEntitlement} {userId : UserId}

theorem Untouched.attributed {db : ShopDb} (h : Untouched db) : Attributed (start db) := by
  refine ⟨h.funded, ?_, ?_, ?_, ?_, ?_⟩
  · constructor <;> simp [start, h.charges]
  · constructor <;> simp [start, h.orders]
  · constructor <;> simp [start, h.transactions]
  · constructor <;> simp [start, h.passes]
  · exact fun row hrow chargeId hrule => absurd hrule (h.rules row hrow chargeId)

/-- A request of another kind leaves the charges as they are. -/
theorem ChargeRows.other (h : ChargeRows log charges)
    (hcharge : ∀ userId packageId paymentMethod key,
      request ≠ .charge userId packageId paymentMethod key)
    (hrefund : ∀ userId chargeId key, request ≠ .refundCharge userId chargeId key) :
    ChargeRows (log ++ [request]) charges := by
  refine ⟨h.ids, fun row hrow => List.mem_append_left _ (h.made row hrow), ?_, ?_, ?_⟩
  · intro row hrow hstatus
    obtain ⟨key, hkey⟩ := h.refunded row hrow hstatus
    exact ⟨key, List.mem_append_left _ hkey⟩
  · intro userId packageId paymentMethod key hmem
    rcases List.mem_append.mp hmem with hold | hnew
    · exact h.kept userId packageId paymentMethod key hold
    · exact absurd (List.mem_singleton.mp hnew).symm (hcharge _ _ _ _)
  · intro userId chargeId key hmem
    rcases List.mem_append.mp hmem with hold | hnew
    · exact h.settled userId chargeId key hold
    · exact absurd (List.mem_singleton.mp hnew).symm (hrefund _ _ _)

theorem ChargeRows.insert (h : ChargeRows log charges) {row : PointCharge}
    (hfresh : ∀ row' ∈ charges, row'.id ≠ row.id) (hstatus : row.status ≠ .refunded) :
    ChargeRows
      (log ++ [.charge row.userId row.packageId row.paymentMethod row.idempotencyKey])
      (charges ++ [row]) := by
  refine ⟨nodup_insert h.ids hfresh, ?_, ?_, ?_, ?_⟩
  · intro row' hrow'
    rcases List.mem_append.mp hrow' with hold | hnew
    · exact List.mem_append_left _ (h.made row' hold)
    · rw [List.mem_singleton.mp hnew]
      simp
  · intro row' hrow' hrefunded
    rcases List.mem_append.mp hrow' with hold | hnew
    · obtain ⟨key, hkey⟩ := h.refunded row' hold hrefunded
      exact ⟨key, List.mem_append_left _ hkey⟩
    · rw [List.mem_singleton.mp hnew] at hrefunded
      exact absurd hrefunded hstatus
  · intro userId packageId paymentMethod key hmem
    rcases List.mem_append.mp hmem with hold | hnew
    · obtain ⟨row', hrow', hfacts⟩ := h.kept userId packageId paymentMethod key hold
      exact ⟨row', List.mem_append_left _ hrow', hfacts⟩
    · obtain ⟨rfl, -, -, rfl⟩ := KeyRequest.charge.inj (List.mem_singleton.mp hnew)
      exact ⟨row, by simp, rfl, rfl⟩
  · intro userId chargeId key hmem
    have hold : .refundCharge userId chargeId key ∈ log := by simpa using hmem
    obtain ⟨row', hrow', hfacts⟩ := h.settled userId chargeId key hold
    exact ⟨row', List.mem_append_left _ hrow', hfacts⟩

theorem ChargeRows.refund (h : ChargeRows log charges) {charge : PointCharge}
    (hcharge : charge ∈ charges) (key : String) (now : Time) :
    ChargeRows (log ++ [.refundCharge charge.userId charge.id key])
      (patch (·.id == charge.id) ({ · with status := .refunded, refundedAt := some now })
        charges) := by
  have hpatched : ∀ row ∈ charges, ∃ row' ∈ patch (·.id == charge.id)
      ({ · with status := .refunded, refundedAt := some now }) charges,
      row'.id = row.id ∧ row'.userId = row.userId ∧ row'.idempotencyKey = row.idempotencyKey ∧
        (row.status = .refunded ∨ row = charge → row'.status = .refunded) := by
    intro row hrow
    refine ⟨_, mem_patch.mpr ⟨row, hrow, rfl⟩, ?_⟩
    by_cases hid : row.id = charge.id
    · simp [hid]
    · have hne : row ≠ charge := fun heq => hid (by rw [heq])
      simp [hid, hne]
  refine ⟨?_, ?_, ?_, ?_, ?_⟩
  · rw [map_patch (by intro _; rfl)]
    exact h.ids
  · intro row hrow
    obtain ⟨row', hrow', rfl⟩ := mem_patch.mp hrow
    have hmade := List.mem_append_left [.refundCharge charge.userId charge.id key]
      (h.made row' hrow')
    split <;> exact hmade
  · intro row hrow hstatus
    obtain ⟨row', hrow', rfl⟩ := mem_patch.mp hrow
    by_cases hid : row'.id = charge.id
    · obtain rfl := eq_of_unique h.ids hrow' hcharge hid
      exact ⟨key, by simp⟩
    · simp only [beq_iff_eq, hid, if_false] at hstatus ⊢
      obtain ⟨key', hkey⟩ := h.refunded row' hrow' hstatus
      exact ⟨key', List.mem_append_left _ hkey⟩
  · intro userId packageId paymentMethod key' hmem
    obtain ⟨row, hrow, huser, hkey⟩ := h.kept userId packageId paymentMethod key' (by simpa using hmem)
    obtain ⟨row', hrow', -, huser', hkey', -⟩ := hpatched row hrow
    exact ⟨row', hrow', huser'.trans huser, hkey'.trans hkey⟩
  · intro userId chargeId key' hmem
    rcases List.mem_append.mp hmem with hold | hnew
    · obtain ⟨row, hrow, hid, huser, hstatus⟩ := h.settled userId chargeId key' hold
      obtain ⟨row', hrow', hid', huser', -, hstatus'⟩ := hpatched row hrow
      exact ⟨row', hrow', hid'.trans hid, huser'.trans huser, hstatus' (.inl hstatus)⟩
    · obtain ⟨rfl, rfl, -⟩ := KeyRequest.refundCharge.inj (List.mem_singleton.mp hnew)
      obtain ⟨row', hrow', hid', huser', -, hstatus'⟩ := hpatched charge hcharge
      exact ⟨row', hrow', hid', huser', hstatus' (.inr rfl)⟩

/-- A request of another kind leaves the columns of the orders as they are. -/
theorem OrderRows.other (h : OrderRows log orders)
    (horder : ∀ userId payload key, request ≠ .order userId payload key) :
    OrderRows (log ++ [request]) orders := by
  refine ⟨?_, ?_⟩
  · intro row hrow
    obtain ⟨key, hkey, hlog | ⟨seasonId, hseason, hproduct, hlog⟩⟩ := h.made row hrow
    · exact ⟨key, hkey, .inl (List.mem_append_left _ hlog)⟩
    · exact ⟨key, hkey, .inr ⟨seasonId, hseason, hproduct, List.mem_append_left _ hlog⟩⟩
  · intro userId payload key hmem
    rcases List.mem_append.mp hmem with hold | hnew
    · exact h.kept userId payload key hold
    · exact absurd (List.mem_singleton.mp hnew).symm (horder _ _ _)

theorem OrderRows.insert (h : OrderRows log orders) {row : ShopOrder} {key : String}
    (hkey : row.idempotencyKey = some key)
    (hrequest : request = .order row.userId ⟨row.productId, row.paymentMethod⟩ key ∨
      ∃ seasonId, key = passKey seasonId ∧ row.productId = passProductId seasonId ∧
        request = .purchasePass row.userId seasonId) :
    OrderRows (log ++ [request]) (orders ++ [row]) := by
  refine ⟨?_, ?_⟩
  · intro row' hrow'
    rcases List.mem_append.mp hrow' with hold | hnew
    · obtain ⟨key', hkey', hlog | ⟨seasonId, hseason, hproduct, hlog⟩⟩ := h.made row' hold
      · exact ⟨key', hkey', .inl (List.mem_append_left _ hlog)⟩
      · exact ⟨key', hkey', .inr ⟨seasonId, hseason, hproduct, List.mem_append_left _ hlog⟩⟩
    · rw [List.mem_singleton.mp hnew]
      refine ⟨key, hkey, ?_⟩
      rcases hrequest with rfl | ⟨seasonId, hseason, hproduct, rfl⟩
      · exact .inl (by simp)
      · exact .inr ⟨seasonId, hseason, hproduct, by simp⟩
  · intro userId payload key' hmem
    rcases List.mem_append.mp hmem with hold | hnew
    · obtain ⟨row', hrow', hfacts⟩ := h.kept userId payload key' hold
      exact ⟨row', List.mem_append_left _ hrow', hfacts⟩
    · have hsame := List.mem_singleton.mp hnew
      rcases hrequest with rfl | ⟨seasonId, -, -, rfl⟩
      · obtain ⟨rfl, -, rfl⟩ := KeyRequest.order.inj hsame
        exact ⟨row, by simp, rfl, hkey⟩
      · cases hsame

/-- An update that keeps user, key, product and payment method. -/
theorem OrderRows.patch (h : OrderRows log orders) {p : ShopOrder → Bool}
    {f : ShopOrder → ShopOrder}
    (hf : ∀ row, (f row).userId = row.userId ∧ (f row).idempotencyKey = row.idempotencyKey ∧
      (f row).productId = row.productId ∧ (f row).paymentMethod = row.paymentMethod) :
    OrderRows log (patch p f orders) := by
  have hcolumns (row : ShopOrder) :
      (if p row then f row else row).userId = row.userId ∧
        (if p row then f row else row).idempotencyKey = row.idempotencyKey ∧
        (if p row then f row else row).productId = row.productId ∧
        (if p row then f row else row).paymentMethod = row.paymentMethod := by
    by_cases hp : p row <;> simp [hp, hf row]
  refine ⟨?_, ?_⟩
  · intro row hrow
    obtain ⟨row', hrow', rfl⟩ := mem_patch.mp hrow
    obtain ⟨huser, hkey, hproduct, hmethod⟩ := hcolumns row'
    rw [huser, hkey, hproduct, hmethod]
    exact h.made row' hrow'
  · intro userId payload key hmem
    obtain ⟨row, hrow, huser, hkey⟩ := h.kept userId payload key hmem
    obtain ⟨huser', hkey', -, -⟩ := hcolumns row
    exact ⟨_, mem_patch.mpr ⟨row, hrow, rfl⟩, huser'.trans huser, hkey'.trans hkey⟩

/-- The log and the ledger only grow. -/
theorem TransactionRows.grow (h : TransactionRows log transactions ledger)
    (hledger : ∀ row ∈ ledger, row ∈ ledger') (request : KeyRequest) :
    TransactionRows (log ++ [request]) transactions ledger' := by
  refine ⟨?_, ?_⟩
  · intro row hrow hcharge
    obtain ⟨packageId, paymentMethod, hlog⟩ | ⟨payload, hlog⟩ := h.charges row hrow hcharge
    · exact .inl ⟨packageId, paymentMethod, List.mem_append_left _ hlog⟩
    · exact .inr ⟨payload, List.mem_append_left _ hlog⟩
  · intro row hrow hrefund
    obtain ⟨hnone, chargeId, hresource, hlog⟩ | ⟨hresource, ⟨entry, hentry, hid⟩, orderId, hlog⟩ :=
      h.refunds row hrow hrefund
    · exact .inl ⟨hnone, chargeId, hresource, List.mem_append_left _ hlog⟩
    · exact .inr ⟨hresource, ⟨entry, hledger entry hentry, hid⟩, orderId,
        List.mem_append_left _ hlog⟩

theorem TransactionRows.insert (h : TransactionRows log transactions ledger)
    {row : PointTransaction} (hnew : TransactionRows log [row] ledger) :
    TransactionRows log (transactions ++ [row]) ledger := by
  refine ⟨?_, ?_⟩
  · intro row' hrow'
    rcases List.mem_append.mp hrow' with hold | hlast
    · exact h.charges row' hold
    · exact hnew.charges row' hlast
  · intro row' hrow'
    rcases List.mem_append.mp hrow' with hold | hlast
    · exact h.refunds row' hold
    · exact hnew.refunds row' hlast

theorem PassRows.other (h : PassRows log passes)
    (hpass : ∀ userId seasonId, request ≠ .purchasePass userId seasonId) :
    PassRows (log ++ [request]) passes := by
  refine ⟨fun row hrow => List.mem_append_left _ (h.made row hrow), h.active, ?_⟩
  intro userId seasonId hmem
  rcases List.mem_append.mp hmem with hold | hnew
  · exact h.kept userId seasonId hold
  · exact absurd (List.mem_singleton.mp hnew).symm (hpass _ _)

theorem PassRows.insert (h : PassRows log passes) {row : PassEntitlement}
    (hactive : row.status = .active) :
    PassRows (log ++ [.purchasePass row.userId row.seasonId]) (passes ++ [row]) := by
  refine ⟨?_, ?_, ?_⟩
  · intro row' hrow'
    rcases List.mem_append.mp hrow' with hold | hnew
    · exact List.mem_append_left _ (h.made row' hold)
    · rw [List.mem_singleton.mp hnew]
      simp
  · intro row' hrow'
    rcases List.mem_append.mp hrow' with hold | hnew
    · exact h.active row' hold
    · rw [List.mem_singleton.mp hnew]
      exact hactive
  · intro userId seasonId hmem
    rcases List.mem_append.mp hmem with hold | hnew
    · obtain ⟨row', hrow', hfacts⟩ := h.kept userId seasonId hold
      exact ⟨row', List.mem_append_left _ hrow', hfacts⟩
    · obtain ⟨rfl, rfl⟩ := KeyRequest.purchasePass.inj (List.mem_singleton.mp hnew)
      exact ⟨row, by simp, rfl, rfl⟩

/-- A new ledger row is under another rule, or that of the charge refund that was asked for. -/
theorem RuleRows.grow (h : RuleRows log ledger)
    (hledger : ∀ row ∈ ledger', row ∈ ledger ∨
      ∀ chargeId, row.ruleKey = "point_charge_refund:" ++ chargeId →
        ∃ key, request = .refundCharge row.userId chargeId key) :
    RuleRows (log ++ [request]) ledger' := by
  intro row hrow chargeId hrule
  rcases hledger row hrow with hold | hnew
  · obtain ⟨key, hkey⟩ := h row hold chargeId hrule
    exact ⟨key, List.mem_append_left _ hkey⟩
  · obtain ⟨key, rfl⟩ := hnew chargeId hrule
    exact ⟨key, by simp⟩

theorem chargeRefundRule_ne (chargeId : ChargeId) (rest : String) :
    "point_charge:" ++ rest ≠ "point_charge_refund:" ++ chargeId ∧
      "shop_order:" ++ rest ≠ "point_charge_refund:" ++ chargeId ∧
      "shop_refund:" ++ rest ≠ "point_charge_refund:" ++ chargeId ∧
      "pass_purchase:" ++ rest ≠ "point_charge_refund:" ++ chargeId := by
  refine ⟨?_, ?_, ?_, ?_⟩ <;>
    exact append_ne_append (by simp) rest chargeId

variable {s : KeyState} {draws : KeyDraws} {now : Time} {db' : ShopDb}

/-- The tables that the log is about stay as they are. -/
theorem Attributed.same (h : Attributed s) {packages : List PointChargePackage} :
    Attributed ⟨s.db.withPoints { s.db.points with packages := packages }, s.log⟩ :=
  ⟨h.funded, h.charges, h.orders, h.transactions, h.passes, h.rules⟩

/-- A movement under a rule that is not that of a charge refund keeps the ledger attributed. -/
theorem Attributed.moved (h : Attributed s) {ruleKey : String} {points : PointDb}
    (hmoved : Moved ruleKey s.db.points points)
    (hrule : ∀ chargeId, ruleKey ≠ "point_charge_refund:" ++ chargeId) (request : KeyRequest) :
    points.Funded ∧
      TransactionRows (s.log ++ [request]) s.db.points.transactions points.ledger ∧
      RuleRows (s.log ++ [request]) points.ledger := by
  refine ⟨hmoved.posts.funded h.funded, h.transactions.grow hmoved.posts.ledger request,
    h.rules.grow ?_⟩
  intro row hrow
  exact (hmoved.rules row hrow).imp id fun heq chargeId hkey =>
    absurd (heq.symm.trans hkey) (hrule chargeId)

/-- How a request succeeds. -/
inductive Succeeds (s : KeyState) (call : KeyCall) (db' : ShopDb) : Prop
  | replayed (hreplays : call.request.replays s.db) (hsame : Clear s call → call.request ∈ s.log)
      (hattributed : Attributed ⟨db', s.log⟩)
  | settled (hreplays : call.request.replays s.db = false) (hsettled : call.request.settled s.db)
      (hbefore : RefundedBefore s.log call.request) (hattributed : Attributed ⟨db', s.log⟩)
  | executed (hreplays : call.request.replays s.db = false)
      (hsettled : call.request.settled s.db = false)
      (hattributed : Attributed ⟨db', s.log ++ [call.request]⟩)

theorem charge_succeeds (h : Attributed s) {packageId : PackageId} {paymentMethod key : String}
    (hok : (KeyRequest.charge userId packageId paymentMethod key).handle s.db draws now = .ok db') :
    Succeeds s ⟨.charge userId packageId paymentMethod key, draws, now⟩ db' := by
  simp only [KeyRequest.handle, createFanPointCharge, bind_ok, Prod.exists, pure_ok, ensure_ok,
    exists_const] at hok
  obtain ⟨points, charge, ⟨-, hsame, hcreate⟩, rfl⟩ := hok
  obtain ⟨hunder, packages, rfl⟩ |
    ⟨hunder, hid, rfl, rfl, rfl, rfl, hstatus, points, transaction, hmoved, rfl, huser, hoperation,
      hkey⟩ := createPointCharge_ok hcreate
  · refine .replayed (by simp [KeyRequest.replays, hunder]) (fun _ => ?_) h.same
    obtain ⟨rfl, rfl⟩ := hsame charge hunder
    have hfound := List.find?_some hunder
    simp only [Bool.and_eq_true, beq_iff_eq] at hfound
    obtain ⟨rfl, rfl⟩ := hfound
    exact h.charges.made charge (List.mem_of_find?_eq_some hunder)
  · obtain ⟨hfunded, htransactions, hrules⟩ := h.moved hmoved
      (fun chargeId => (chargeRefundRule_ne chargeId _).1)
      (.charge charge.userId charge.packageId charge.paymentMethod charge.idempotencyKey)
    refine .executed (by simp [KeyRequest.replays, hunder]) rfl
      ⟨hfunded, ?_, h.orders.other (by simp), ?_, h.passes.other (by simp), hrules⟩
    · rw [← hmoved.charges] at hid
      exact ChargeRows.insert (hmoved.charges ▸ h.charges) hid (by simp [hstatus])
    · rw [← hmoved.transactions] at htransactions
      refine htransactions.insert ⟨?_, ?_⟩
      · intro row hrow _
        rw [List.mem_singleton.mp hrow, huser, hkey]
        exact .inl ⟨charge.packageId, charge.paymentMethod, by simp⟩
      · intro row hrow hrefund
        rw [List.mem_singleton.mp hrow, hoperation] at hrefund
        cases hrefund

theorem refundCharge_succeeds (h : Attributed s) {chargeId : ChargeId} {key : String}
    (hok : (KeyRequest.refundCharge userId chargeId key).handle s.db draws now = .ok db') :
    Succeeds s ⟨.refundCharge userId chargeId key, draws, now⟩ db' := by
  simp only [KeyRequest.handle, refundFanPointCharge, bind_ok, Prod.exists, pure_ok, ensure_ok,
    exists_const] at hok
  obtain ⟨points, charge, ⟨-, hrefund⟩, rfl⟩ := hok
  obtain ⟨transaction, hfound, hresource, rfl⟩ | ⟨hnone, charge, hmem, hcharge, rfl, rfl,
    ⟨hstatus, rfl⟩ | ⟨hstatus, points, transaction, hmoved, husers, rfl, huser, hoperation, hkey,
      hledgerId, hresource⟩⟩ := refundPointCharge_ok hrefund
  · refine .replayed (by simp [KeyRequest.replays, hfound]) (fun _ => ?_) h
    have hkeys := List.find?_some hfound
    simp only [Bool.and_eq_true, beq_iff_eq] at hkeys
    obtain ⟨⟨rfl, hoperation⟩, rfl⟩ := hkeys
    obtain ⟨-, chargeId', hresource', hlog⟩ | ⟨hresource', -⟩ :=
      h.transactions.refunds transaction (List.mem_of_find?_eq_some hfound) hoperation
    · rw [hresource] at hresource'
      rwa [Option.some.inj hresource']
    · rw [hresource] at hresource'
      cases hresource'
  · refine .settled (by simp [KeyRequest.replays, hnone]) ?_ (h.charges.refunded charge hmem hstatus) h
    simp [KeyRequest.settled, hcharge, hstatus]
  · refine .executed (by simp [KeyRequest.replays, hnone]) ?_ ⟨hmoved.posts.funded h.funded, ?_,
      h.orders.other (by simp), ?_, h.passes.other (by simp), ?_⟩
    · simp [KeyRequest.settled, hcharge, hstatus]
    · rw [hmoved.charges]
      exact h.charges.refund hmem key now
    · rw [hmoved.transactions]
      refine (h.transactions.grow hmoved.posts.ledger _).insert ⟨?_, ?_⟩
      · intro row hrow hcharge'
        rw [List.mem_singleton.mp hrow, hoperation] at hcharge'
        cases hcharge'
      · intro row hrow _
        rw [List.mem_singleton.mp hrow, huser, hkey]
        exact .inl ⟨hledgerId, charge.id, hresource, by simp⟩
    · refine h.rules.grow ?_
      intro row hrow
      rcases hmoved.rules row hrow with hold | hrule
      · exact .inl hold
      rcases husers row hrow with hold | huser'
      · exact .inl hold
      refine .inr fun chargeId hsame => ⟨key, ?_⟩
      rw [huser', (String.append_right_inj _).mp (hrule.symm.trans hsame)]

theorem order_succeeds (h : Attributed s) {payload : ShopOrderCreate} {key : String}
    (hok : (KeyRequest.order userId payload key).handle s.db draws now = .ok db') :
    Succeeds s ⟨.order userId payload key, draws, now⟩ db' := by
  simp only [KeyRequest.handle, createShopOrder, bind_ok, Prod.exists, pure_ok, ensure_ok,
    exists_const] at hok
  obtain ⟨placed, answer, ⟨-, hmethod, hcreate⟩, rfl⟩ := hok
  split at hcreate
  · rename_i existing hunder
    simp only [bind_ok, ensure_ok, exists_const, pure_ok, Prod.mk.injEq] at hcreate
    obtain ⟨⟨hproduct, hpayment⟩, rfl, -⟩ := hcreate
    refine .replayed (by simp [KeyRequest.replays, hunder]) ?_ h
    intro hclear
    have hfound := List.find?_some hunder
    simp only [Bool.and_eq_true, beq_iff_eq] at hfound
    obtain ⟨rfl, hkey⟩ := hfound
    obtain ⟨key', hkey', hlog⟩ := h.orders.made existing (List.mem_of_find?_eq_some hunder)
    obtain rfl := Option.some.inj (hkey.symm.trans hkey')
    rw [hproduct, hpayment] at hlog
    obtain hlog | ⟨seasonId, hseason, hproduct', hlog⟩ := hlog
    · exact hlog
    · exact absurd hlog (hclear.1 seasonId hseason hproduct')
  · rename_i hunder
    simp only [bind_ok] at hcreate
    obtain ⟨product, hcheck, hplace⟩ := hcreate
    have hproduct : product.id = payload.productId := by
      have hfound := (checkProduct_ok hcheck).1
      exact (mem_of_find_eq_some (g := ShopProduct.id) hfound).2
    obtain ⟨points, ledgerId, hmoved, hpoints⟩ := placeOrder_points hplace
    obtain ⟨hfunded, htransactions, hrules⟩ := h.moved hmoved
      (fun chargeId => (chargeRefundRule_ne chargeId _).2.1) (.order userId payload key)
    obtain ⟨event, ledger, points', entitlements, grants, rfl, -⟩ := placeOrder_ok hplace
    obtain rfl : points' = _ := hpoints
    refine .executed (by simp [KeyRequest.replays, hunder]) rfl
      ⟨hfunded, ?_, ?_, ?_, h.passes.other (by simp), hrules⟩
    · exact (hmoved.charges ▸ h.charges).other (by simp) (by simp)
    · refine h.orders.insert rfl (.inl ?_)
      simp [hproduct]
    · rw [← hmoved.transactions] at htransactions
      refine htransactions.insert ⟨?_, ?_⟩
      · intro row hrow _
        rw [List.mem_singleton.mp hrow]
        exact .inr ⟨payload, by simp⟩
      · intro row hrow hrefund
        rw [List.mem_singleton.mp hrow] at hrefund
        cases hrefund

theorem refundOrder_succeeds (h : Attributed s) {orderId : OrderId} {key : String}
    (hok : (KeyRequest.refundOrder userId orderId key).handle s.db draws now = .ok db') :
    Succeeds s ⟨.refundOrder userId orderId key, draws, now⟩ db' := by
  simp only [KeyRequest.handle, bind_ok, Prod.exists, pure_ok] at hok
  obtain ⟨refunded, balance, hrefund, rfl⟩ := hok
  obtain ⟨ledger, hunder, rfl⟩ | ⟨order, hfound, rfl, hunder, hrefund⟩ := refundShopOrder_ok hrefund
  · refine .replayed (by simp [KeyRequest.replays, hunder]) ?_ h
    intro hclear
    simp only [ShopDb.refundUnder, Option.bind_eq_some_iff] at hunder
    obtain ⟨ledgerId, ⟨transaction, htransaction, hledgerId⟩, -⟩ := hunder
    have hkeys := List.find?_some htransaction
    simp only [Bool.and_eq_true, beq_iff_eq] at hkeys
    obtain ⟨⟨rfl, hoperation⟩, rfl⟩ := hkeys
    obtain ⟨hnone, -⟩ | ⟨-, -, orderId', hlog⟩ :=
      h.transactions.refunds transaction (List.mem_of_find?_eq_some htransaction) hoperation
    · rw [hledgerId] at hnone
      cases hnone
    · by_cases hsame : orderId' = orderId
      · rwa [← hsame]
      · exact absurd hlog (hclear.1 orderId' hsame)
  · have hid : order.id = orderId := (mem_of_find_eq_some (g := ShopOrder.id) hfound).2
    obtain ⟨-, -, horders⟩ := refundOrder_ok hrefund
    obtain ⟨points, entry, hmoved, hentry, hpoints, hpasses⟩ := refundOrder_points hrefund
    obtain ⟨hfunded, htransactions, hrules⟩ := h.moved hmoved
      (fun chargeId => (chargeRefundRule_ne chargeId _).2.2.1) (.refundOrder order.userId orderId key)
    refine .executed (by simp [KeyRequest.replays, hunder]) rfl ⟨?_, ?_, ?_, ?_, ?_, ?_⟩
    · rw [hpoints]
      exact hfunded
    · rw [hpoints]
      exact (hmoved.charges ▸ h.charges).other (by simp) (by simp)
    · rw [horders]
      exact (h.orders.other (by simp)).patch (by simp)
    · rw [← hmoved.transactions] at htransactions
      rw [hpoints]
      refine htransactions.insert ⟨?_, ?_⟩
      · intro row hrow hcharge
        rw [List.mem_singleton.mp hrow] at hcharge
        cases hcharge
      · intro row hrow _
        rw [List.mem_singleton.mp hrow]
        exact .inr ⟨rfl, ⟨entry, hentry, rfl⟩, orderId, by simp [fanRefund]⟩
    · rw [hpasses]
      exact h.passes.other (by simp)
    · rw [hpoints]
      exact hrules

theorem purchasePass_succeeds (h : Attributed s) {seasonId : SeasonId}
    (hok : (KeyRequest.purchasePass userId seasonId).handle s.db draws now = .ok db') :
    Succeeds s ⟨.purchasePass userId seasonId, draws, now⟩ db' := by
  simp only [KeyRequest.handle, purchasePassSeason, bind_ok, Prod.exists, pure_ok] at hok
  obtain ⟨bought, answer, ⟨season, hseason, hbuy⟩, rfl⟩ := hok
  have hid : season.id = seasonId := by
    exact (mem_of_find_eq_some (g := PassSeason.id) (checkSeason_ok hseason).1).2
  rw [hid] at hbuy
  split at hbuy
  · rename_i existing hactive
    obtain ⟨rfl, -⟩ := Prod.mk.inj (pure_ok.mp hbuy)
    rw [Option.filter_eq_some_iff] at hactive
    refine .replayed (by simpa [KeyRequest.replays, hactive.1] using hactive.2) (fun _ => ?_) h
    have hkeys := List.find?_some hactive.1
    simp only [Bool.and_eq_true, beq_iff_eq] at hkeys
    obtain ⟨rfl, rfl⟩ := hkeys
    exact h.passes.made existing (List.mem_of_find?_eq_some hactive.1)
  · rename_i hinactive
    have hnone : s.db.passOf userId season.id = none := by
      rw [hid]
      cases hpass : s.db.passOf userId seasonId with
      | none => rfl
      | some pass =>
        have hactive := h.passes.active pass (List.mem_of_find?_eq_some hpass)
        simp [hpass, hactive] at hinactive
    obtain ⟨hmoved, ⟨order, horders, huser, hproduct, hkey⟩, pass, hpasses, huser', hseason',
      hactive⟩ := buyPass_ok hbuy hnone
    obtain ⟨hfunded, htransactions, hrules⟩ := h.moved hmoved
      (fun chargeId => (chargeRefundRule_ne chargeId _).2.2.2) (.purchasePass userId seasonId)
    rw [hid] at hnone
    refine .executed (by simp [KeyRequest.replays, hnone]) rfl ⟨hfunded, ?_, ?_, ?_, ?_, hrules⟩
    · exact (hmoved.charges ▸ h.charges).other (by simp) (by simp)
    · rw [horders]
      exact h.orders.insert hkey (.inr ⟨season.id, rfl, hproduct, by rw [huser, hid]⟩)
    · rw [← hmoved.transactions] at htransactions
      exact htransactions
    · rw [hpasses, ← hid, ← hseason', ← huser']
      exact h.passes.insert hactive

/-- A transaction under the key of a charge is that of a charge or an order. -/
theorem Attributed.chargeKey_free (h : Attributed s) {key : String}
    (hcharge : ∀ packageId paymentMethod, .charge userId packageId paymentMethod key ∉ s.log)
    (horder : ∀ payload, .order userId payload key ∉ s.log) :
    s.db.points.findTransaction userId .charge key = none := by
  refine List.find?_eq_none.mpr ?_
  intro row hrow hkeys
  simp only [Bool.and_eq_true, beq_iff_eq] at hkeys
  obtain ⟨⟨rfl, hoperation⟩, rfl⟩ := hkeys
  obtain ⟨packageId, paymentMethod, hlog⟩ | ⟨payload, hlog⟩ :=
    h.transactions.charges row hrow hoperation
  · exact hcharge packageId paymentMethod hlog
  · exact horder payload hlog

theorem charge_refuses (h : Attributed s) (hfresh : draws.Fresh s.db) {packageId : PackageId}
    {paymentMethod key : String}
    (hclear : Clear s ⟨.charge userId packageId paymentMethod key, draws, now⟩) :
    Refuses ((KeyRequest.charge userId packageId paymentMethod key).handle s.db draws now) := by
  refine FailsIn.bind ?_ fun _ => .pure _
  refine FailsIn.bind (.ensure rfl) fun _ => ?_
  refine FailsIn.bind (.ensure rfl) fun _ => ?_
  refine createPointCharge_refuses h.funded (fun row hrow => (hfresh.events row hrow).1)
    (fun row hrow => (hfresh.ledger row hrow).1) hfresh.charges hfresh.transactions ?_
  intro hresolves hunder
  refine h.chargeKey_free ?_ (hclear hresolves)
  intro packageId' paymentMethod' hlog
  obtain ⟨row, hrow, huser, hkey⟩ := h.charges.kept userId packageId' paymentMethod' key hlog
  exact List.find?_eq_none.mp hunder row hrow (by simp [huser, hkey])

theorem refundCharge_refuses (h : Attributed s) (hfresh : draws.Fresh s.db) {chargeId : ChargeId}
    {key : String} : Refuses ((KeyRequest.refundCharge userId chargeId key).handle s.db draws now) := by
  refine FailsIn.bind ?_ fun _ => .pure _
  refine FailsIn.bind (.ensure rfl) fun _ => ?_
  refine refundPointCharge_refuses (fun row hrow => (hfresh.events row hrow).1)
    (fun row hrow => (hfresh.ledger row hrow).1) hfresh.transactions ?_
  intro entry hentry huser hrule found hfound hid _
  obtain ⟨key', hlog⟩ := h.rules entry hentry chargeId hrule
  obtain ⟨charge, hcharge, hid', -, hstatus⟩ := h.charges.settled _ _ _ hlog
  rwa [eq_of_unique h.charges.ids hfound hcharge (hid.trans hid'.symm)]

theorem order_refuses (h : Attributed s) (hfresh : draws.Fresh s.db) {payload : ShopOrderCreate}
    {key : String} (hclear : Clear s ⟨.order userId payload key, draws, now⟩) :
    Refuses ((KeyRequest.order userId payload key).handle s.db draws now) := by
  refine FailsIn.bind ?_ fun _ => .pure _
  refine FailsIn.bind (.ensure rfl) fun _ => ?_
  refine FailsIn.bind (.ensure rfl) fun _ => ?_
  split
  · exact FailsIn.bind (.ensure rfl) fun _ => .pure _
  · rename_i hunder
    refine FailsIn.bind_of checkProduct_refuses ?_
    intro product hcheck
    refine placeOrder_refuses hfresh.orders hunder hfresh.events hfresh.ledger hfresh.rights
      hfresh.grants hfresh.transactions ?_
    intro hprice hbalance hreward
    refine h.chargeKey_free (hclear.2 ⟨product, hcheck, hprice, hbalance, hreward⟩) ?_
    intro payload' hlog
    obtain ⟨row, hrow, huser, hkey⟩ := h.orders.kept userId payload' key hlog
    exact List.find?_eq_none.mp hunder row hrow (by simp [huser, hkey])

theorem refundOrder_refuses (h : Attributed s) (hfresh : draws.Fresh s.db) {orderId : OrderId}
    {key : String} (hclear : Clear s ⟨.refundOrder userId orderId key, draws, now⟩) :
    Refuses ((KeyRequest.refundOrder userId orderId key).handle s.db draws now) := by
  refine FailsIn.bind ?_ fun _ => .pure _
  refine FailsIn.bind (.ensure rfl) fun _ => ?_
  split
  · exact .pure _
  · rename_i hunder
    refine FailsIn.bind_of (.orFail rfl) ?_
    intro order hfound
    rw [orFail_ok, Option.filter_eq_some_iff, decide_eq_true_eq] at hfound
    obtain ⟨hfound, rfl⟩ := hfound
    refine FailsIn.bind_of checkRefundable_refuses ?_
    intro ledgerId hrefundable
    refine FailsIn.bind_of refundItem_refuses ?_
    intro item hitem
    have hpoints : (s.db.revoke item now).points = s.db.points := by cases item <;> rfl
    refine reverseOrder_refuses ?_ ?_ ?_ ?_ ?_
    · rw [hpoints]
      exact h.funded
    · rw [hpoints]
      exact fun row hrow => (hfresh.events row hrow).1
    · rw [hpoints]
      exact fun row hrow => (hfresh.ledger row hrow).1
    · rw [hpoints]
      exact hfresh.transactions
    · rw [hpoints]
      intro hledger hprice
      have hcharges := hclear.2
        ⟨order, hfound, rfl, ⟨ledgerId, hrefundable, hledger⟩, ⟨_, item, hitem⟩, hprice⟩
      change s.db.points.findTransaction order.userId .refund key = none
      cases htransaction : s.db.points.findTransaction order.userId .refund key with
      | none => rfl
      | some transaction =>
        have hkeys := List.find?_some htransaction
        simp only [Bool.and_eq_true, beq_iff_eq] at hkeys
        obtain ⟨⟨huser, hoperation⟩, rfl⟩ := hkeys
        obtain ⟨-, chargeId, -, hlog⟩ | ⟨-, ⟨entry, hentry, hid⟩, -⟩ :=
          h.transactions.refunds transaction (List.mem_of_find?_eq_some htransaction) hoperation
        · rw [huser] at hlog
          exact absurd hlog (hcharges chargeId)
        · simp only [ShopDb.refundUnder, htransaction, hid, Option.bind_some] at hunder
          exact absurd (by simp) (List.find?_eq_none.mp hunder entry hentry)

theorem purchasePass_refuses (h : Attributed s) (hfresh : draws.Fresh s.db) {seasonId : SeasonId}
    (hclear : Clear s ⟨.purchasePass userId seasonId, draws, now⟩) :
    Refuses ((KeyRequest.purchasePass userId seasonId).handle s.db draws now) := by
  refine FailsIn.bind ?_ fun _ => .pure _
  refine FailsIn.bind_of checkSeason_refuses ?_
  intro season hseason
  have hid : season.id = seasonId :=
    (mem_of_find_eq_some (g := PassSeason.id) (checkSeason_ok hseason).1).2
  split
  · exact .pure _
  · rename_i hinactive
    refine buyPass_refuses (fun row hrow => (hfresh.events row hrow).1)
      (fun row hrow => (hfresh.ledger row hrow).1) hfresh.orders hfresh.passes ?_
    intro hpayable
    have hfree := hclear ⟨season, hseason, hinactive, hpayable⟩
    refine List.find?_eq_none.mpr ?_
    intro row hrow hkeys
    simp only [Bool.and_eq_true, beq_iff_eq] at hkeys
    obtain ⟨rfl, hkey⟩ := hkeys
    obtain ⟨key, hkey', hlog | ⟨seasonId', hseason', -, hlog⟩⟩ := h.orders.made row hrow
    · obtain rfl := Option.some.inj (hkey.symm.trans hkey')
      rw [hid] at hlog
      exact hfree _ hlog
    · obtain rfl := Option.some.inj (hkey.symm.trans hkey')
      obtain rfl := (String.append_right_inj _).mp hseason'
      obtain ⟨pass, hpass, huser, hsame⟩ := h.passes.kept row.userId season.id hlog
      cases hfound : s.db.passOf row.userId season.id with
      | none => exact List.find?_eq_none.mp hfound pass hpass (by simp [huser, hsame])
      | some found =>
        have hactive := h.passes.active found (List.mem_of_find?_eq_some hfound)
        simp [hfound, hactive] at hinactive

variable {call : KeyCall}

theorem succeeds (h : Attributed s) (hok : call.request.handle s.db call.draws call.now = .ok db') :
    Succeeds s call db' := by
  obtain ⟨request, draws, now⟩ := call
  cases request with
  | charge userId packageId paymentMethod key => exact charge_succeeds h hok
  | refundCharge userId chargeId key => exact refundCharge_succeeds h hok
  | order userId payload key => exact order_succeeds h hok
  | refundOrder userId orderId key => exact refundOrder_succeeds h hok
  | purchasePass userId seasonId => exact purchasePass_succeeds h hok

theorem refuses (h : Attributed s) (hfresh : call.draws.Fresh s.db) (hclear : Clear s call) :
    Refuses (call.request.handle s.db call.draws call.now) := by
  obtain ⟨request, draws, now⟩ := call
  cases request with
  | charge userId packageId paymentMethod key => exact charge_refuses h hfresh hclear
  | refundCharge userId chargeId key => exact refundCharge_refuses h hfresh
  | order userId payload key => exact order_refuses h hfresh hclear
  | refundOrder userId orderId key => exact refundOrder_refuses h hfresh hclear
  | purchasePass userId seasonId => exact purchasePass_refuses h hfresh hclear

theorem answered (h : Attributed s) (hclear : Clear s call) : Answered s call := by
  intro hfresh
  cases hok : call.request.handle s.db call.draws call.now with
  | error e => exact refuses h hfresh hclear e hok
  | ok db' =>
    dsimp only
    cases succeeds h hok with
    | replayed hreplays hsame _ =>
      rw [if_pos hreplays]
      exact hsame hclear
    | settled hreplays _ hbefore _ =>
      rw [if_neg (by simp [hreplays])]
      exact fun _ => hbefore
    | executed hreplays hsettled _ =>
      rw [if_neg (by simp [hreplays])]
      exact fun hsettled' => absurd hsettled' (by simp [hsettled])

theorem mem_step_log (hmem : request ∈ (step s call).log) :
    request ∈ s.log ∨ request = call.request := by
  unfold Keys.step at hmem
  split at hmem
  · split at hmem
    · dsimp only at hmem
      split at hmem
      · exact .inl hmem
      · simpa using hmem
    · exact .inl hmem
  · exact .inl hmem

theorem Answered.same (h : Answered s call) (hfresh : call.draws.Fresh s.db)
    (hok : (call.request.handle s.db call.draws call.now).isOk)
    (hreplays : call.request.replays s.db) : call.request ∈ s.log := by
  have hanswered := h hfresh
  cases hresult : call.request.handle s.db call.draws call.now with
  | error e =>
    rw [hresult] at hok
    cases hok
  | ok db' =>
    rw [hresult] at hanswered
    simpa [hreplays] using hanswered

theorem Attributed.step (h : Attributed s) (call : KeyCall) : Attributed (step s call) := by
  unfold Keys.step
  split
  · split
    · rename_i db' hok
      cases succeeds h hok with
      | replayed hreplays _ hattributed => simpa [hreplays] using hattributed
      | settled hreplays hsettled _ hattributed => simpa [hsettled] using hattributed
      | executed hreplays hsettled hattributed => simpa [hreplays, hsettled] using hattributed
    · exact h
  · exact h

end

end Keys

/-- The identifiers that the request of a number draws. -/
def numberedDraws (n : Nat) : KeyDraws :=
  let name (kind : String) : String := kind ++ toString n
  ⟨name "event", name "ledger", name "transaction", name "resource", name "right", name "grant"⟩

end Fanfolio
