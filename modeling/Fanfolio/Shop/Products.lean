import Fanfolio.Partners.Access
import Fanfolio.Shop.Approvals
import Fanfolio.Shop.PassPurchase

/-!
# The products of the shop

A product delivers a card pack or a reward, and both are checked where it is created and where it
is published. An edit and an approval write its status without that check.
-/

namespace Fanfolio

open Framework

/-- `ShopProductCreate`; `rewardId` is what `fulfillment` holds under that key. -/
structure ShopProductCreate where
  artistId : ArtistId
  productType : ProductType := .cardPack
  cardPackId : Option PackId := none
  name : String
  rewardId : RewardId := ""
  pricePoints : Int
  startsAt : Option Time := none
  endsAt : Option Time := none
  inventoryLimit : Option Nat := none
  perUserLimit : Option Nat := none
  artistId_ne : artistId ≠ ""
  pricePoints_pos : 0 < pricePoints
  perUserLimit_pos : ∀ limit ∈ perUserLimit, 1 ≤ limit

/-- The fields that a `ShopProductUpdate` sets; `rewardId` stands for a whole `fulfillment`. -/
structure ShopProductUpdate where
  name : Option String := none
  rewardId : Option RewardId := none
  pricePoints : Option Int := none
  startsAt : Option Time := none
  endsAt : Option Time := none
  status : Option ProductStatus := none
  inventoryLimit : Option Nat := none
  perUserLimit : Option Nat := none
  pricePoints_pos : ∀ price ∈ pricePoints, 0 < price
  perUserLimit_pos : ∀ limit ∈ perUserLimit, 1 ≤ limit

/-- The product with the fields of the update. -/
def ShopProductUpdate.apply (payload : ShopProductUpdate) (product : ShopProduct) : ShopProduct :=
  { product with
    name := payload.name.getD product.name
    rewardId := payload.rewardId.getD product.rewardId
    pricePoints := payload.pricePoints.getD product.pricePoints
    startsAt := payload.startsAt.orElse fun _ => product.startsAt
    endsAt := payload.endsAt.orElse fun _ => product.endsAt
    status := payload.status.getD product.status
    inventoryLimit := payload.inventoryLimit.orElse fun _ => product.inventoryLimit
    perUserLimit := payload.perUserLimit.orElse fun _ => product.perUserLimit }

/-- The tables that the requests about products read and write. -/
structure Storefront where
  shop : ShopDb
  artists : List ArtistId
  users : List User
  approvals : List ApprovalRequest
deriving DecidableEq, Repr

namespace ShopDb

def findPack (db : ShopDb) (packId : PackId) : Option CardPack :=
  db.cardPacks.find? (fun row => row.id == packId)

def packPublished (db : ShopDb) (packId : PackId) : Bool :=
  (db.findPack packId).any (·.status = .published)

def rewardPublished (db : ShopDb) (rewardId : RewardId) : Bool :=
  rewardId ≠ "" && (db.rewards.find? (fun row => row.id == rewardId)).any (·.status = .published)

/-- The product has the link that its type needs. -/
def linked (db : ShopDb) (product : ShopProduct) : Bool :=
  if product.productType = .cardPack then
    product.cardPackId.any fun packId => packId ≠ "" && db.packPublished packId
  else db.rewardPublished product.rewardId

def editProduct (db : ShopDb) (productId : ProductId) (edit : ShopProduct → ShopProduct) : ShopDb :=
  { db with products := patch (·.id == productId) edit db.products }

end ShopDb

def shopCardPackInvalid (message : String) : Failure :=
  .app ⟨422, "SHOP_CARD_PACK_INVALID", message⟩

def shopRewardInvalid (message : String) : Failure := .app ⟨422, "SHOP_REWARD_INVALID", message⟩

namespace Storefront

/-- `validate_shop_product_payload`. -/
def validateShopProductPayload (s : Storefront) (payload : ShopProductCreate)
    (context : AdminContext) : Except Failure Unit := do
  ensure (payload.artistId ∈ s.artists)
    (.app ⟨404, "ARTIST_NOT_FOUND", "아티스트를 찾을 수 없습니다."⟩)
  context.requireArtist payload.artistId
  if payload.productType = .cardPack then do
    ensure (payload.cardPackId.any (· ≠ ""))
      (.app ⟨422, "SHOP_PRODUCT_LINK_REQUIRED", "카드팩 상품은 공개 카드팩을 연결해 주세요."⟩)
    ensure ((payload.cardPackId.bind s.shop.findPack).any fun pack =>
        pack.artistId = payload.artistId ∧ pack.status = .published)
      (shopCardPackInvalid "공개된 아티스트 카드팩을 연결해 주세요.")
  else
    ensure (s.shop.rewardPublished payload.rewardId)
      (shopRewardInvalid "공개된 상품 보상을 연결해 주세요.")

/-- `create_admin_shop_product`; `productId` is the identifier it draws. -/
def createAdminShopProduct (s : Storefront) (payload : ShopProductCreate) (context : AdminContext)
    (productId : ProductId) : Except Failure (Storefront × ShopProduct) := do
  context.requireAction "cards:write"
  s.validateShopProductPayload payload context
  let product : ShopProduct :=
    { id := productId, artistId := some payload.artistId, productType := payload.productType
      cardPackId := payload.cardPackId, name := payload.name, rewardId := payload.rewardId
      pricePoints := payload.pricePoints, status := .draft, startsAt := payload.startsAt
      endsAt := payload.endsAt, inventoryLimit := payload.inventoryLimit
      perUserLimit := payload.perUserLimit }
  ensure (∀ row ∈ s.shop.products, row.id ≠ productId) (.integrity "shop_products_pkey")
  ensure (payload.cardPackId.all fun packId => (s.shop.findPack packId).isSome)
    (.integrity "shop_products_card_pack_id_fkey")
  return ({ s with shop := { s.shop with products := s.shop.products ++ [product] } }, product)

/-- `admin_shop_product_row`: the product with its pack. -/
def adminShopProductRow (s : Storefront) (productId : ProductId) :
    Except Failure (ShopProduct × Option CardPack) := do
  let product ← orFail
    ((s.shop.findProduct productId).filter fun product => product.artistId.any (· ∈ s.artists))
    (.app ⟨404, "SHOP_PRODUCT_NOT_FOUND", "상품을 찾을 수 없습니다."⟩)
  return (product, product.cardPackId.bind s.shop.findPack)

/-- What an edit and a publication of a product begin with. -/
def writableProduct (s : Storefront) (productId : ProductId) (context : AdminContext) :
    Except Failure (ShopProduct × Option CardPack) := do
  context.requireAction "cards:write"
  let (product, pack) ← s.adminShopProductRow productId
  context.requireArtist product.artistId
  return (product, pack)

/-- `update_admin_shop_product`. -/
def updateAdminShopProduct (s : Storefront) (productId : ProductId) (payload : ShopProductUpdate)
    (context : AdminContext) : Except Failure (Storefront × ShopProduct) := do
  let (product, _) ← s.writableProduct productId context
  return ({ s with shop := s.shop.editProduct productId payload.apply }, payload.apply product)

/-- `publish_admin_shop_product`. -/
def publishAdminShopProduct (s : Storefront) (productId : ProductId) (context : AdminContext) :
    Except Failure (Storefront × ShopProduct) := do
  let (product, pack) ← s.writableProduct productId context
  ensure (product.productType = .cardPack → pack.any (·.status = .published))
    (shopCardPackInvalid "공개된 카드팩을 연결해야 상품을 공개할 수 있습니다.")
  ensure (product.productType ≠ .cardPack → s.shop.rewardPublished product.rewardId)
    (shopRewardInvalid "공개된 상품 보상을 연결해야 상품을 공개할 수 있습니다.")
  return ({ s with shop := s.shop.publishProduct productId },
    { product with status := .published })

/-- `_require_approval_permission`. -/
def requireApprovalPermission (context : AdminContext) : ApprovalKind → Except Failure Unit
  | .support _ => context.requireAction "engagement:approve_global"
  | .admin _ => context.requireAction "audit:read"

/-- `create_admin_approval`; the flag says whether the request was pending already. -/
def createAdminApproval (s : Storefront) (kind : AdminApprovalKind) (entityType entityId : String)
    (reason : Option String) (context : AdminContext) (id : String) :
    Except Failure (Storefront × Bool) := do
  context.requireAction "audit:read"
  if s.approvals.any (fun row => row.kind = .admin kind && row.entityType = entityType &&
      row.entityId = entityId && row.status = .pending) then
    return (s, true)
  else
    ensure (∀ row ∈ s.approvals, row.id ≠ id) (.integrity "approval_requests_pkey")
    return ({ s with
      approvals := s.approvals ++
        [NewApproval.row id context.user.id reason (.admin kind entityType entityId)] }, false)

/-- The request that `approve_admin_approval` executes; none if it was decided before. -/
def approvalToExecute (s : Storefront) (approvalId : String) (context : AdminContext) :
    Except Failure (Option ApprovalRequest) := do
  let item ← orFail (s.approvals.find? (fun row => row.id == approvalId))
    (.app ⟨404, "APPROVAL_NOT_FOUND", "승인 요청을 찾을 수 없습니다."⟩)
  requireApprovalPermission context item.kind
  if item.status ≠ .pending then return none
  else
    ensure (item.requestedBy ≠ context.user.id)
      (.app ⟨409, "APPROVAL_SELF_APPROVAL", "요청자 본인은 승인할 수 없습니다."⟩)
    return some item

/-- `approve_admin_approval`; the flag says whether the request was decided before. -/
def approveAdminApproval (s : Storefront) (approvalId : String) (context : AdminContext)
    (draws : RefundDraws) (now : Time) : Except Failure (Storefront × Bool) := do
  match ← s.approvalToExecute approvalId context with
  | none => return (s, true)
  | some item =>
    let (shop, _) ← executeApproved s.shop s.users item context.user.id draws now
    return ({ s with
      shop := shop
      approvals := patch (·.id == approvalId)
        ({ · with status := .approved, approvedBy := some context.user.id, decidedAt := some now })
        s.approvals }, false)

/-- What was published in the catalogues stays published. -/
def KeepsPublished (db : ShopDb) (cardPacks : List CardPack) (rewards : List RewardCatalog) :
    Prop :=
  (∀ pack ∈ db.cardPacks, db.packPublished pack.id = true →
    { db with cardPacks := cardPacks }.packPublished pack.id = true) ∧
  ∀ reward ∈ db.rewards, db.rewardPublished reward.id = true →
    { db with rewards := rewards }.rewardPublished reward.id = true

instance (db : ShopDb) (cardPacks : List CardPack) (rewards : List RewardCatalog) :
    Decidable (KeepsPublished db cardPacks rewards) :=
  inferInstanceAs (Decidable ((∀ pack ∈ db.cardPacks, _) ∧ ∀ reward ∈ db.rewards, _))

/-- A request that can change a product, or a change of what products link to. -/
inductive ProductAction where
  | create (payload : ShopProductCreate) (context : AdminContext) (productId : ProductId)
  | update (productId : ProductId) (payload : ShopProductUpdate) (context : AdminContext)
  | publish (productId : ProductId) (context : AdminContext)
  | requestApproval (kind : AdminApprovalKind) (entityType entityId : String)
      (reason : Option String) (context : AdminContext) (id : String)
  | approve (approvalId : String) (context : AdminContext) (draws : RefundDraws) (now : Time)
  /-- Packs and rewards change, and none that is published is taken back. -/
  | catalogue (cardPacks : List CardPack) (rewards : List RewardCatalog)
  /-- The part of `purchase_pass_season` that writes the product of the season. -/
  | offerPass (season : PassSeason)

/-- One request; a failed one is rolled back. -/
def step (s : Storefront) : ProductAction → Storefront
  | .create payload context productId =>
    commitOr s (s.createAdminShopProduct payload context productId)
  | .update productId payload context =>
    commitOr s (s.updateAdminShopProduct productId payload context)
  | .publish productId context => commitOr s (s.publishAdminShopProduct productId context)
  | .requestApproval kind entityType entityId reason context id =>
    commitOr s (s.createAdminApproval kind entityType entityId reason context id)
  | .approve approvalId context draws now =>
    commitOr s (s.approveAdminApproval approvalId context draws now)
  | .catalogue cardPacks rewards =>
    if KeepsPublished s.shop cardPacks rewards then
      { s with shop := { s.shop with cardPacks := cardPacks, rewards := rewards } }
    else s
  | .offerPass season =>
    match season.premiumPricePoints.filter (0 < ·) with
    | some price => { s with shop := s.shop.upsertPassProduct season price }
    | none => s

/-- Any tables, before the first product. -/
def start (s : Storefront) : Storefront := { s with shop := { s.shop with products := [] } }

end Storefront

/-- The product is on sale and in stock, and the fan has the points and the quota for it. The
idempotency key is new, and so are the identifiers that the order draws. -/
structure CanPay (db : ShopDb) (product : ShopProduct) (userId : UserId) (key : String)
    (draws : OrderDraws) (now : Time) : Prop where
  keyGiven : key ≠ ""
  started : ∀ startsAt ∈ product.startsAt, startsAt ≤ now
  running : ∀ endsAt ∈ product.endsAt, now ≤ endsAt
  stock : ∀ limit ∈ product.inventoryLimit, product.soldCount < limit
  quota : ∀ limit ∈ product.perUserLimit, db.completedBy userId product.id < limit
  points : product.pricePoints ≤ db.points.balanceOf userId
  unusedKey : db.orderUnder userId key = none ∧ db.points.findTransaction userId .charge key = none
  freshOrder : ∀ row ∈ db.orders, row.id ≠ draws.orderId
  freshEvent : ∀ row ∈ db.points.events, row.id ≠ draws.eventId ∧ row.sourceId ≠ draws.orderId
  freshLedger : ∀ row ∈ db.points.ledger, row.id ≠ draws.ledgerId ∧
    row.sourceEventId ≠ draws.eventId
  freshRight : ∀ row ∈ db.shopEntitlements, row.id ≠ draws.entitlementId ∧
    row.sourceId ≠ draws.orderId
  freshGrant : ∀ row ∈ db.rewardGrants, row.id ≠ draws.grantId ∧ row.sourceEventId ≠ draws.eventId
  freshTransaction : ∀ row ∈ db.points.transactions, row.id ≠ draws.transactionId

/-- A fan who can pay gets the product. -/
def Buyable (db : ShopDb) (product : ShopProduct) : Prop :=
  ∀ userId key draws now, CanPay db product userId key draws now →
    ∃ db', createShopOrder db userId ⟨product.id, "points"⟩ key draws now =
      .ok (db', ⟨draws.orderId, product.id, .completed, false⟩)

section Buying

variable {db : ShopDb} {product : ShopProduct} {userId : UserId} {key : String}
  {draws : OrderDraws} {now : Time}

theorem CanPay.check (h : CanPay db product userId key draws now)
    (hstatus : product.status = .published) (hlinked : db.linked product = true) :
    checkProduct db userId (some product) now = .ok product := by
  have hsellable : shopProductIsSellable product now = true := by
    simp only [shopProductIsSellable, Bool.and_eq_true, decide_eq_true_eq, Option.all_eq_true]
    exact ⟨⟨hstatus, h.started⟩, h.running⟩
  simp only [checkProduct, bind_ok, orFail_ok, ensure_ok, exists_const, pure_ok,
    Option.filter_eq_some_iff, Option.all_eq_true, decide_eq_true_eq]
  refine ⟨product, ⟨rfl, hsellable⟩, ?_, ?_, h.stock, h.quota, rfl⟩
  · intro htype
    rw [ShopDb.linked, if_pos htype] at hlinked
    cases hpack : product.cardPackId with
    | none => simp [hpack] at hlinked
    | some packId =>
      rw [hpack, Option.any_some, Bool.and_eq_true] at hlinked
      exact hlinked.1
  · intro htype
    rw [ShopDb.linked, if_neg htype, ShopDb.rewardPublished, Bool.and_eq_true,
      decide_eq_true_eq] at hlinked
    exact hlinked.1

/-- Whatever the computation meets, it succeeds. -/
abbrev Succeeds {α : Type} (x : Except Failure α) : Prop := FailsIn (fun _ => False) x

theorem recordEvent_succeeds {eventId : EventId}
    (hfresh : ∀ row ∈ db.points.events, row.id ≠ eventId) (kind sourceType sourceId : String)
    (payload : JsonObject) :
    Succeeds (db.recordEvent userId kind sourceType sourceId payload eventId) := by
  obtain ⟨events, event, hrecord, -⟩ :=
    recordEngagementEvent_fresh hfresh userId kind sourceType sourceId payload
  exact FailsIn.bind (.of_ok hrecord) fun _ => .pure _

theorem spendPoints_succeeds {points : PointDb} {eventId : EventId} {ruleKey : String}
    {amount : Int} {description : Option String} {metadata : Option JsonObject}
    {ledgerId : LedgerId} (hamount : 0 < amount) (hcovered : amount ≤ points.balanceOf userId)
    (hfresh : ∀ row ∈ points.ledger, row.id ≠ ledgerId ∧ row.sourceEventId ≠ eventId) :
    Succeeds (spendPoints points userId eventId ruleKey amount description metadata ledgerId) := by
  obtain ⟨spent, ledger, hspend⟩ := spendPoints_pays hamount hcovered hfresh
  exact .of_ok hspend

/-- What a product is linked to can be delivered. -/
theorem deliverOrder_succeeds (hlinked : db.linked product = true) {orderId : OrderId}
    {eventId : EventId}
    (hright : ∀ row ∈ db.shopEntitlements, row.id ≠ draws.entitlementId ∧ row.sourceId ≠ orderId)
    (hgrant : ∀ row ∈ db.rewardGrants, row.id ≠ draws.grantId ∧ row.sourceEventId ≠ eventId) :
    Succeeds (deliverOrder db userId product orderId eventId draws now) := by
  unfold deliverOrder
  by_cases htype : product.productType = .cardPack
  · rw [if_pos htype]
    apply FailsIn.of_ok
    simp only [ShopDb.insertEntitlement, bind_ok, ensure_ok, exists_const]
    exact ⟨fun row hrow => (hright row hrow).1, fun row hrow => (hright row hrow).2, rfl⟩
  · rw [if_neg htype]
    rw [ShopDb.linked, if_neg htype, ShopDb.rewardPublished, Bool.and_eq_true] at hlinked
    obtain ⟨-, hpublished⟩ := hlinked
    cases hreward : db.rewards.find? (fun row => row.id == product.rewardId) with
    | none => simp [hreward] at hpublished
    | some reward =>
      have hnone : db.rewardGrants.find?
          (fun row => row.entry.1 == (userId, eventId, orderRule orderId)) = none := by
        rw [List.find?_eq_none]
        intro row hrow hentry
        rw [beq_iff_eq] at hentry
        exact (hgrant row hrow).2 (congrArg (fun key => key.2.1) hentry)
      have hstatus : reward.status = .published := by simpa [hreward] using hpublished
      rw [grantReward_new hnone hreward hstatus fun row hrow => (hgrant row hrow).1]
      exact .of_ok rfl

theorem CanPay.place_succeeds (h : CanPay db product userId key draws now)
    (hprice : 0 < product.pricePoints) (hlinked : db.linked product = true) :
    Succeeds (placeOrder db userId product ⟨product.id, "points"⟩ key draws now) := by
  refine FailsIn.bind_of ?_ ?_
  · apply FailsIn.of_ok
    simp only [ShopDb.insertOrder, bind_ok, ensure_ok, exists_const]
    refine ⟨h.freshOrder, ?_, rfl⟩
    simpa [ShopDb.orderUnder] using h.unusedKey.1
  intro ordered horder
  obtain ⟨-, rfl⟩ := insertOrder_ok horder
  refine FailsIn.bind_of (recordEvent_succeeds ?_ _ _ _ _) ?_
  · exact fun row hrow => (h.freshEvent row hrow).1
  rintro ⟨recorded, event⟩ hrecord
  obtain ⟨events, rfl, hevent⟩ := recordEvent_ok hrecord
  have hid : event.id = draws.eventId := by
    rcases hevent with ⟨hmem, hsource⟩ | hnew
    · exact absurd hsource (h.freshEvent event hmem).2
    · exact hnew
  refine FailsIn.bind_of (spendPoints_succeeds hprice h.points ?_) ?_
  · exact hid ▸ h.freshLedger
  rintro ⟨spent, ledger⟩ hspend
  refine FailsIn.bind_of (deliverOrder_succeeds ?_ ?_ ?_) ?_
  · exact hlinked
  · exact h.freshRight
  · exact hid ▸ h.freshGrant
  intro delivered hdeliver
  have hmoved := (spendPoints_moved hspend).1.transactions
  have hpoints : delivered.points = spent := by
    obtain ⟨row, -, rfl⟩ | ⟨grants, rfl⟩ := deliverOrder_ok hdeliver <;> rfl
  refine FailsIn.bind (FailsIn.bind ?_ fun _ => .pure _) fun _ => .pure _
  apply FailsIn.of_ok
  simp only [PointDb.insertTransaction, bind_ok, ensure_ok, exists_const]
  refine ⟨?_, ?_, rfl⟩
  · rw [hpoints, hmoved]
    exact h.freshTransaction
  · rw [PointDb.findTransaction, hpoints, hmoved]
    exact h.unusedKey.2

theorem CanPay.place (h : CanPay db product userId key draws now) (hprice : 0 < product.pricePoints)
    (hlinked : db.linked product = true) :
    ∃ db', placeOrder db userId product ⟨product.id, "points"⟩ key draws now =
      .ok (db', ⟨draws.orderId, product.id, .completed, false⟩) := by
  cases hplace : placeOrder db userId product ⟨product.id, "points"⟩ key draws now with
  | error e => exact (h.place_succeeds hprice hlinked e hplace).elim
  | ok result =>
    obtain ⟨db', answer⟩ := result
    simp only [placeOrder, bind_ok, Prod.exists, pure_ok, Prod.mk.injEq] at hplace
    obtain ⟨_, -, _, _, -, _, _, -, _, -, _, -, rfl, rfl⟩ := hplace
    exact ⟨_, rfl⟩

/-- A linked product with a price can be bought. -/
theorem Buyable.of_linked (hids : (db.products.map (·.id)).Nodup) (hproduct : product ∈ db.products)
    (hstatus : product.status = .published) (hprice : 0 < product.pricePoints)
    (hlinked : db.linked product = true) : Buyable db product := by
  intro userId key draws now h
  have hfind : db.findProduct product.id = some product := find_of_mem hids hproduct
  simp only [createShopOrder, bind_ok, ensure_ok, exists_const, h.unusedKey.1, hfind,
    h.check hstatus hlinked, Except.ok.injEq, exists_eq_left']
  obtain ⟨db', hplace⟩ := h.place hprice hlinked
  exact ⟨db', h.keyGiven, trivial, hplace⟩

end Buying

end Fanfolio
