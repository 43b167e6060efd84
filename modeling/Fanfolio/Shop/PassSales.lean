import Fanfolio.Framework.RowLocks
import Fanfolio.Framework.Text
import Fanfolio.Pass.Seasons
import Fanfolio.Shop.Approvals
import Fanfolio.Shop.PassPurchase
import Fanfolio.Shop.Posted

/-!
# Passes and the points they cost

A purchase locks the row of its season until it commits. Meanwhile other fans buy passes, points
are charged, spent, refunded and adjusted, and admins edit seasons and products. Every active pass
was paid by one row of the ledger, with one order, and no row was ever spent on a pass that the
fan does not have.
-/

namespace Fanfolio

open Framework

/-- The part of `purchase_pass_season` that reads the season and the pass of the fan; a fan who has
the pass is answered from it. -/
def beginSale (db : ShopDb) (userId : UserId) (seasonId : SeasonId) (now : Time) :
    Except Failure (PassSeason × Option PassPurchased) := do
  let season ← checkSeason (db.seasons.find? (fun row => row.id == seasonId)) now
  return (season, ((db.passOf userId season.id).filter (·.status = .active)).map
    fun existing => ⟨season.id, existing.id, existing.pricePoints, true⟩)

/-- A purchase that nobody disturbs is its first part, and the payment if the pass is not there. -/
theorem purchasePassSeason_eq (db : ShopDb) (userId : UserId) (seasonId : SeasonId)
    (draws : PurchaseDraws) (now : Time) :
    purchasePassSeason db userId seasonId draws now =
      (beginSale db userId seasonId now >>= fun begun =>
        match begun.2 with
        | some purchased => .ok (db, purchased)
        | none => buyPass db userId begun.1 draws now) := by
  unfold purchasePassSeason beginSale
  cases hcheck : checkSeason (db.seasons.find? (fun row => row.id == seasonId)) now with
  | error e => rfl
  | ok season =>
    cases hpass : (db.passOf userId season.id).filter (·.status = .active) <;>
      simp only [bind, Except.bind, hpass] <;> rfl

/-- The call is a request of a fan or of an admin, not a part of one. -/
def PointCall.isRequest : PointCall → Bool
  | .charge .. | .refund .. | .adjust .. => true
  | .grant .. | .spend .. | .reverse .. => false

/-- What a purchase is about. -/
inductive SalePhase where
  | idle
  | checked (userId : UserId) (season : PassSeason)
deriving DecidableEq, Repr

/-- What happens to the tables that a purchase reads and writes. -/
inductive SaleAction where
  /-- A purchase locks its season and reads the pass of the fan. -/
  | lockSeason (worker : Nat) (userId : UserId) (seasonId : SeasonId) (now : Time)
  /-- The rest of a purchase; every row it goes on to change is locked until it commits. -/
  | pay (worker : Nat) (draws : PurchaseDraws) (now : Time)
  | abort (worker : Nat)
  | request (a : RewardAction)
  | points (call : PointCall)
  | approved (item : ApprovalRequest) (actorId : String) (draws : RefundDraws) (now : Time)
  | createSeason (seasonId : SeasonId) (payload : PassSeasonCreate) (scope : ScopeCheck)
      (tierIds : Nat → TierId)
  | updateSeason (seasonId : SeasonId) (payload : PassSeasonCreate) (scope : ScopeCheck)
      (tierIds : Nat → TierId)
  | transitionSeason (seasonId : SeasonId) (requiredStatus nextStatus : DefinitionStatus)
  | editProducts (products : List ShopProduct)

/-- The committed tables, the locked seasons, and the purchases under way. -/
abbrev PassSales := RowLocks Nat SeasonId ShopDb SalePhase

namespace PassSales

/-- Another transaction commits. -/
def change (s : PassSales) (db : ShopDb) : PassSales := { s with committed := db }

/-- An edit of a season waits for the lock of its row. -/
def edit (s : PassSales) (seasonId : SeasonId) (x : Except Failure PassDb) : PassSales :=
  match s.owner seasonId, x with
  | none, .ok pass => s.change { s.committed with toPassDb := pass }
  | _, _ => s

variable (terms : RewardId → ExchangeTerms) (users : List User)

/-- One step, and what a purchase answers in it. -/
def serve (s : PassSales) :
    SaleAction → PassSales × Option (UserId × Except Failure PassPurchased)
  | .lockSeason worker userId seasonId now =>
    match s.phase worker, s.owner seasonId with
    | .idle, none =>
      match beginSale s.committed userId seasonId now with
      | .ok (season, none) => (s.acquire worker season.id (.checked userId season), none)
      | .ok (_, some purchased) => (s, some (userId, .ok purchased))
      | .error e => (s, some (userId, .error e))
    | _, _ => (s, none)
  | .pay worker draws now =>
    match s.phase worker with
    | .checked userId season =>
      match buyPass s.committed userId season draws now with
      | .ok (db, purchased) => (s.release worker db .idle, some (userId, .ok purchased))
      | .error e => (s.release worker s.committed .idle, some (userId, .error e))
    | .idle => (s, none)
  | .abort worker => (s.release worker s.committed .idle, none)
  | .request a => (s.change (PackRewards.step terms s.committed a), none)
  | .points call =>
    (s.change (if call.isRequest then s.committed.withPoints (pointStep s.committed.points call)
      else s.committed), none)
  | .approved item actorId draws now =>
    (s.change (commitOr s.committed (executeApproved s.committed users item actorId draws now)),
      none)
  | .createSeason seasonId payload scope tierIds =>
    (s.edit seasonId (createPassSeason s.committed.toPassDb seasonId payload scope tierIds), none)
  | .updateSeason seasonId payload scope tierIds =>
    (s.edit seasonId (updatePassSeason s.committed.toPassDb seasonId payload scope tierIds), none)
  | .transitionSeason seasonId requiredStatus nextStatus =>
    (s.edit seasonId
      (transitionPassSeasonStatus s.committed.toPassDb seasonId requiredStatus nextStatus), none)
  | .editProducts products => (s.change { s.committed with products := products }, none)

def step (s : PassSales) (a : SaleAction) : PassSales := (serve terms users s a).1

/-- Any tables, before the first sale. -/
def start (db : ShopDb) : PassSales :=
  { committed :=
      { db with
        points := { db.points with ledger := [] }
        rewardGrants := [], passEntitlements := [], orders := [], shopEntitlements := [] }
    owner := fun _ => none
    phase := fun _ => .idle }

end PassSales

namespace ShopDb

def passesOf (db : ShopDb) (userId : UserId) (seasonId : SeasonId) : List PassEntitlement :=
  db.passEntitlements.filter fun row => row.userId == userId && row.seasonId == seasonId

def activePasses (db : ShopDb) (userId : UserId) (seasonId : SeasonId) : List PassEntitlement :=
  (db.passesOf userId seasonId).filter (·.status == .active)

/-- The rows of a fan under the rule of the pass. -/
def passSpends (db : ShopDb) (userId : UserId) (seasonId : SeasonId) : List PointLedger :=
  db.points.ledger.filter fun row => row.userId == userId && row.ruleKey == passRule seasonId

/-- The orders that a row of the ledger paid. -/
def ordersPaidBy (db : ShopDb) (ledgerId : LedgerId) : List ShopOrder :=
  db.orders.filter (·.pointLedgerId == some ledgerId)

/-- A right or a reward was delivered for the order. -/
def Delivered (db : ShopDb) (orderId : OrderId) : Prop :=
  (∃ right ∈ db.shopEntitlements, right.sourceId = orderId) ∨
    ∃ grant ∈ db.rewardGrants, grant.ruleKey = orderRule orderId

end ShopDb

/-- The order is that of a pass. -/
structure ShopOrder.IsOfPass (order : ShopOrder) (userId : UserId) (seasonId : SeasonId)
    (price : Int) : Prop where
  userId : order.userId = userId
  productId : order.productId = passProductId seasonId
  pricePoints : order.pricePoints = price
  idempotencyKey : order.idempotencyKey = some (passKey seasonId)
  status : order.status = .completed

/-- One row debits the price of the pass, and it paid one order, which is that of the pass. -/
def PaidOnce (db : ShopDb) (userId : UserId) (seasonId : SeasonId) (price : Int)
    (orderId : Option OrderId) : Prop :=
  ∃ spend order, db.passSpends userId seasonId = [spend] ∧ spend.transactionType = .spend ∧
    spend.amount = -price ∧ db.ordersPaidBy spend.id = [order] ∧ some order.id = orderId ∧
    order.IsOfPass userId seasonId price

/-- The fan has an active pass with a price and an order exactly when that price was debited once
with that order. -/
structure Booked (db : ShopDb) (userId : UserId) (seasonId : SeasonId) : Prop where
  active_iff : ∀ price orderId,
    (∃ pass ∈ db.activePasses userId seasonId, pass.pricePoints = price ∧ pass.orderId = orderId) ↔
      PaidOnce db userId seasonId price orderId
  unpaid : db.activePasses userId seasonId = [] → db.passSpends userId seasonId = []
  once : (db.activePasses userId seasonId).length ≤ 1 ∧
    (db.passSpends userId seasonId).length ≤ 1

/-- What a first purchase does: the fan has the pass, and the price less. -/
structure FirstSale (db db' : ShopDb) (userId : UserId) (seasonId : SeasonId) (price : Int) :
    Prop where
  unsold : db.activePasses userId seasonId = []
  sold : ∃ pass, db'.activePasses userId seasonId = [pass] ∧ pass.pricePoints = price
  covered : 0 < price ∧ price ≤ db.points.balanceOf userId
  debited : db'.points.balanceOf userId = db.points.balanceOf userId - price
  ordered : ∃ order, db'.orders = db.orders ++ [order] ∧ order.IsOfPass userId seasonId price

/-- What the answer to a purchase says of the tables before and after it: a failure and a repeated
purchase change nothing. -/
def Accords (db db' : ShopDb) : Option (UserId × Except Failure PassPurchased) → Prop
  | none => True
  | some (_, .error _) => db' = db
  | some (userId, .ok purchased) =>
    if purchased.replayed then
      db' = db ∧ ∃ pass ∈ db.activePasses userId purchased.seasonId,
        pass.pricePoints = purchased.pricePoints
    else FirstSale db db' userId purchased.seasonId purchased.pricePoints

/-- The tables accord with the answer, and a purchase that is given up changes nothing. -/
structure PassSales.Answered (terms : RewardId → ExchangeTerms) (users : List User) (s : PassSales)
    (a : SaleAction) : Prop where
  accords : Accords s.committed (step terms users s a).committed (serve terms users s a).2
  aborted : ∀ worker, a = .abort worker → (step terms users s a).committed = s.committed

/-- Passes, orders and the rights that orders deliver stay as they are. -/
structure Aside (db db' : ShopDb) : Prop where
  passes : db'.passEntitlements = db.passEntitlements
  orders : db'.orders = db.orders
  rights : db'.shopEntitlements = db.shopEntitlements

namespace Aside

variable {db db' db'' : ShopDb} {userId : UserId} {now : Time}

theorem refl (db : ShopDb) : Aside db db := ⟨rfl, rfl, rfl⟩

theorem trans (h : Aside db db') (h' : Aside db' db'') : Aside db db'' :=
  ⟨h'.passes.trans h.passes, h'.orders.trans h.orders, h'.rights.trans h.rights⟩

theorem of_recordEvent {kind sourceType sourceId : String} {payload : JsonObject}
    {eventId : EventId} {event : EngagementEvent}
    (h : db.recordEvent userId kind sourceType sourceId payload eventId = .ok (db', event)) :
    Aside db db' := by
  obtain ⟨events, rfl, -⟩ := recordEvent_ok h
  exact ⟨rfl, rfl, rfl⟩

theorem of_insertTransaction {row : PointTransaction}
    (h : db.insertTransaction row = .ok db') : Aside db db' := by
  obtain ⟨-, -, rfl⟩ := insertTransaction_ok h
  exact ⟨rfl, rfl, rfl⟩

theorem of_exchangePoints {terms : RewardId → ExchangeTerms} {rewardId : RewardId}
    {key : Option String} {draws : ExchangeDraws} {grant : RewardGrant}
    (h : exchangePoints terms db userId rewardId key draws now = .ok (db', grant)) :
    Aside db db' := by
  simp only [exchangePoints, bind_ok, ensure_ok, exists_const] at h
  obtain ⟨reward, -, cost, -, -, h⟩ := h
  split at h
  · obtain ⟨rfl, -⟩ := Prod.mk.inj (pure_ok.mp h)
    exact refl db
  · simp only [bind_ok, ensure_ok, exists_const, Prod.exists, pure_ok, Prod.mk.injEq] at h
    obtain ⟨recorded, event, hrecord, points, ledger, -, -, -, rfl, -⟩ := h
    have hrecorded := of_recordEvent hrecord
    exact ⟨hrecorded.passes, hrecorded.orders, hrecorded.rights⟩

theorem of_claimRewardGrant {grantId : String}
    (h : claimRewardGrant db userId grantId now = .ok db') : Aside db db' := by
  simp only [claimRewardGrant, bind_ok] at h
  obtain ⟨grant, -, hlocked⟩ := h
  rcases claimLocked_ok hlocked with rfl | rfl
  · exact refl _
  · exact ⟨rfl, rfl, rfl⟩

theorem of_claimGrants {grants : List RewardGrant} :
    Aside db (claimGrants userId now grants db).1 := by
  induction grants generalizing db with
  | nil => exact refl db
  | cons grant grants ih =>
    simp only [claimGrants]
    split
    · rename_i claimed hclaim
      exact (of_claimRewardGrant hclaim).trans ih
    · exact refl db

theorem of_claimMissionRewards {missionId : MissionId} {order : List RewardGrant} :
    Aside db (claimMissionRewards db userId missionId order now).1 := by
  have hloop : Aside db (claimGrants userId now
    (scan order (db.missionGrants userId missionId)) db).1 := of_claimGrants
  unfold claimMissionRewards
  split
  · exact refl db
  · split
    · exact refl db
    · split
      · rename_i claimed hclaimed
        rw [hclaimed] at hloop
        exact ⟨hloop.passes, hloop.orders, hloop.rights⟩
      · rename_i claimed e hclaimed
        rw [hclaimed] at hloop
        exact hloop

theorem of_executeApprovedPointAdjustment {users : List User} {item : ApprovalRequest}
    {actorId : String} {draws : RefundDraws} {balance : Int}
    (h : executeApprovedPointAdjustment db users item actorId draws = .ok (db', balance)) :
    Aside db db' := by
  simp only [executeApprovedPointAdjustment, bind_ok, ensure_ok, exists_const, Prod.exists,
    pure_ok, Prod.mk.injEq] at h
  obtain ⟨-, user, -, recorded, event, hrecord, points, ledger, -, completed, hinsert, rfl, -⟩ := h
  have hrecorded := of_recordEvent hrecord
  have hpaid : Aside db (recorded.withPoints points) :=
    ⟨hrecorded.passes, hrecorded.orders, hrecorded.rights⟩
  exact hpaid.trans (of_insertTransaction hinsert)

end Aside

section

variable {db db' : PassDb} {userId : UserId} {now : Time}

theorem recordTierClaimed_passes {tier : PassTier} {payload : JsonObject} {eventId : EventId}
    {event : EngagementEvent} {keep : Bool}
    (h : recordTierClaimed db userId tier payload eventId now keep = .ok (db', event)) :
    db'.passEntitlements = db.passEntitlements := by
  simp only [recordTierClaimed, bind_ok, Prod.exists, pure_ok, Prod.mk.injEq] at h
  obtain ⟨events, event, -, rfl, -⟩ := h
  rfl

theorem deliverTierReward_passes {tier : PassTier} {track : PassTrack} {event : EngagementEvent}
    {draws : ClaimDraws} (h : deliverTierReward db userId tier track event draws now = .ok db') :
    db'.passEntitlements = db.passEntitlements := by
  unfold deliverTierReward at h
  split at h
  · obtain rfl := Except.ok.inj h
    rfl
  · simp only [bind_ok, Prod.exists] at h
    obtain ⟨granted, grant, -, h⟩ := h
    split at h
    · obtain rfl := pure_ok.mp h
      rfl
    · split at h
      · simp only [bind_ok, orFail_ok, ensure_ok, exists_const, pure_ok] at h
        obtain ⟨pack, -, -, -, rfl⟩ := h
        rfl
      · obtain rfl := pure_ok.mp h
        rfl

theorem claimPassTier_passes {tierId : TierId} {track : PassTrack} {draws : ClaimDraws}
    (h : claimPassTier db userId tierId track draws now = .ok db') :
    db'.passEntitlements = db.passEntitlements := by
  simp only [claimPassTier, bind_ok, Prod.exists] at h
  obtain ⟨tier, season, -, refreshed, progress, -, hfinish⟩ := h
  simp only [finishClaim, bind_ok, Prod.exists, ensure_ok, exists_const, pure_ok] at hfinish
  obtain ⟨-, -, -, recorded, event, hrecord, delivered, hdeliver, rfl⟩ := hfinish
  have hrecorded := recordTierClaimed_passes hrecord
  exact (deliverTierReward_passes hdeliver).trans hrecorded

theorem repairTier_passes {tier : PassTier} {draws : RepairDraws} {count : Nat}
    (h : repairTier db userId tier draws now = .ok (db', count)) :
    db'.passEntitlements = db.passEntitlements := by
  unfold repairTier at h
  split at h
  · obtain ⟨rfl, -⟩ := Prod.mk.inj (Except.ok.inj h)
    rfl
  · simp only [bind_ok, Prod.exists] at h
    obtain ⟨recorded, event, hrecord, granted, grant, -, h⟩ := h
    have hrecorded := recordTierClaimed_passes hrecord
    split at h
    · obtain ⟨rfl, -⟩ := Prod.mk.inj (pure_ok.mp h)
      exact hrecorded
    · obtain ⟨rfl, -⟩ := Prod.mk.inj (pure_ok.mp h)
      exact hrecorded

theorem repairTiers_passes {tiers : List PassTier} {draws : TierId → RepairDraws} {count : Nat}
    (h : repairTiers userId draws now tiers db = .ok (db', count)) :
    db'.passEntitlements = db.passEntitlements := by
  induction tiers generalizing db count with
  | nil =>
    obtain ⟨rfl, -⟩ := Prod.mk.inj (Except.ok.inj h)
    rfl
  | cons tier tiers ih =>
    simp only [repairTiers, bind_ok, Prod.exists, pure_ok, Prod.mk.injEq] at h
    obtain ⟨repaired, first, hfirst, _, rest, hrest, rfl, -⟩ := h
    exact (ih hrest).trans (repairTier_passes hfirst)

/-- An edit of a season writes seasons and tiers. -/
theorem addTiers_ok {seasonId : SeasonId} {payload : PassSeasonCreate} {tierIds : Nat → TierId}
    (h : addTiers db seasonId payload tierIds = .ok db') :
    ∃ tiers, db' = { db with tiers := tiers } := by
  simp only [addTiers, bind_ok, ensure_ok, exists_const, pure_ok] at h
  exact ⟨_, h.2.symm⟩

theorem createPassSeason_ok {seasonId : SeasonId} {payload : PassSeasonCreate}
    {scope : ScopeCheck} {tierIds : Nat → TierId}
    (h : createPassSeason db seasonId payload scope tierIds = .ok db') :
    ∃ seasons tiers, db' = { db with seasons := seasons, tiers := tiers } := by
  simp only [createPassSeason, bind_ok, ensure_ok, exists_const] at h
  obtain ⟨-, artistId, -, -, hadd⟩ := h
  obtain ⟨tiers, rfl⟩ := addTiers_ok hadd
  exact ⟨_, tiers, rfl⟩

theorem updatePassSeason_ok {seasonId : SeasonId} {payload : PassSeasonCreate}
    {scope : ScopeCheck} {tierIds : Nat → TierId}
    (h : updatePassSeason db seasonId payload scope tierIds = .ok db') :
    ∃ seasons tiers, db' = { db with seasons := seasons, tiers := tiers } := by
  simp only [updatePassSeason, bind_ok, ensure_ok, exists_const] at h
  obtain ⟨-, season, -, artistId, -, hadd⟩ := h
  obtain ⟨tiers, rfl⟩ := addTiers_ok hadd
  exact ⟨_, tiers, rfl⟩

theorem transitionPassSeasonStatus_ok {seasonId : SeasonId}
    {requiredStatus nextStatus : DefinitionStatus}
    (h : transitionPassSeasonStatus db seasonId requiredStatus nextStatus = .ok db') :
    ∃ seasons tiers, db' = { db with seasons := seasons, tiers := tiers } := by
  simp only [transitionPassSeasonStatus, bind_ok, ensure_ok, exists_const, pure_ok] at h
  obtain ⟨season, -, -, rfl⟩ := h
  exact ⟨_, db.tiers, rfl⟩

end

theorem notOfPass_approved (rest : String) : NotOfPass ("approved_admin_adjustment:" ++ rest) :=
  append_ne_append (by simp) rest

theorem passRule_injective {seasonId seasonId' : SeasonId}
    (h : passRule seasonId = passRule seasonId') : seasonId = seasonId' :=
  (String.append_right_inj "pass_purchase:").mp h

theorem orderRule_injective {orderId orderId' : OrderId}
    (h : orderRule orderId = orderRule orderId') : orderId = orderId' :=
  (String.append_right_inj _).mp h

/-- What orders do to the table of orders: it stays, one is added that a row under another rule
paid, or one that was delivered is taken back. -/
inductive OrdersMove (db db' : ShopDb) : Prop
  | same (horders : db'.orders = db.orders)
      (hdelivered : ∀ orderId, db'.Delivered orderId → db.Delivered orderId)
  | placed (order : ShopOrder) (ledger : PointLedger) (horders : db'.orders = db.orders ++ [order])
      (hfresh : ∀ row ∈ db.orders, row.id ≠ order.id) (hledger : ledger ∈ db'.points.ledger)
      (hrule : NotOfPass ledger.ruleKey) (hpaid : order.pointLedgerId = some ledger.id)
      (hdelivered : ∀ orderId, db'.Delivered orderId → db.Delivered orderId ∨ orderId = order.id)
  | refunded (orderId : OrderId) (f : ShopOrder → ShopOrder) (hitem : db.Delivered orderId)
      (horders : db'.orders = patch (·.id == orderId) f db.orders)
      (hid : ∀ order, (f order).id = order.id)
      (hpaid : ∀ order, (f order).pointLedgerId = order.pointLedgerId)
      (hdelivered : ∀ orderId, db'.Delivered orderId → db.Delivered orderId)

/-- What any request other than the purchase of a pass does to what passes depend on. -/
structure Trades (db db' : ShopDb) : Prop where
  passes : db'.passEntitlements = db.passEntitlements
  posts : Posts NotOfPass db.points db'.points
  orders : OrdersMove db db'

section

variable {db db' : ShopDb} {userId : UserId} {now : Time}

/-- A right or a reward was there, or is that of a placed order. -/
theorem delivered_of_grows {placed : OrderId → Prop}
    (hgrows : Grows (fun rule => ∀ orderId, rule = orderRule orderId → placed orderId)
      db.toGrowthDb db'.toGrowthDb)
    (hrights : ∀ right ∈ db'.shopEntitlements, placed right.sourceId ∨
      ∃ old ∈ db.shopEntitlements, old.sourceId = right.sourceId)
    {orderId : OrderId} (h : db'.Delivered orderId) : db.Delivered orderId ∨ placed orderId := by
  rcases h with ⟨right, hright, rfl⟩ | ⟨grant, hgrant, hrule⟩
  · rcases hrights right hright with hplaced | ⟨old, hold, hsource⟩
    · exact .inr hplaced
    · exact .inl (.inl ⟨old, hold, hsource⟩)
  · rcases hgrows.origin hgrant with hplaced | ⟨old, hold, heq⟩
    · exact .inr (hplaced orderId hrule)
    · exact .inl (.inr ⟨old, hold, heq.trans hrule⟩)

theorem executeApprovedPointAdjustment_grows {rules : String → Prop} {users : List User}
    {item : ApprovalRequest} {actorId : String} {draws : RefundDraws} {balance : Int}
    (h : executeApprovedPointAdjustment db users item actorId draws = .ok (db', balance)) :
    Grows rules db.toGrowthDb db'.toGrowthDb := by
  simp only [executeApprovedPointAdjustment, bind_ok, ensure_ok, exists_const, Prod.exists,
    pure_ok, Prod.mk.injEq] at h
  obtain ⟨-, user, -, recorded, event, hrecord, points, ledger, hmove, completed, hinsert, rfl,
    -⟩ := h
  have hmoved : Posts NotOfPass recorded.points points := by
    unfold moveApproved at hmove
    dsimp only at hmove
    split at hmove
    · exact .of_grantPoints (notOfPass_approved _) hmove
    · exact .of_spendPoints (notOfPass_approved _) hmove
  have hpaid : Grows rules recorded.toGrowthDb (recorded.withPoints points).toGrowthDb :=
    .points hmoved rfl rfl
  exact (recordEvent_grows hrecord).trans (hpaid.trans (insertTransaction_grows hinsert))

/-- Nothing is delivered for an order when none is placed. -/
theorem delivered_of_notOfOrder (hgrows : Grows NotOfOrder db.toGrowthDb db'.toGrowthDb)
    (hrights : ∀ right ∈ db'.shopEntitlements, ∃ old ∈ db.shopEntitlements,
      old.sourceId = right.sourceId)
    {orderId : OrderId} (h : db'.Delivered orderId) : db.Delivered orderId := by
  have hnone : db.Delivered orderId ∨ (fun _ => False) orderId :=
    delivered_of_grows hgrows (fun right hright => .inr (hrights right hright)) h
  exact hnone.resolve_right id

namespace Trades

theorem of_grows (hgrows : Grows NotOfOrder db.toGrowthDb db'.toGrowthDb) (h : Aside db db') :
    Trades db db' := by
  refine ⟨h.passes, hgrows.posts, .same h.orders fun _ => delivered_of_notOfOrder hgrows ?_⟩
  intro right hright
  exact ⟨right, h.rights ▸ hright, rfl⟩

theorem refl (db : ShopDb) : Trades db db := of_grows (.refl _) (.refl db)

/-- Tables that a payment does not read. -/
theorem of_same (hgrowth : db'.points = db.points ∧ db'.rewardGrants = db.rewardGrants ∧
    db'.rewards = db.rewards) (h : Aside db db') : Trades db db' :=
  of_grows (.of_same hgrowth.1 hgrowth.2.1 hgrowth.2.2) h

theorem of_posts {points : PointDb} (h : Posts NotOfPass db.points points) :
    Trades db (db.withPoints points) :=
  of_grows (.points h rfl rfl) ⟨rfl, rfl, rfl⟩

/-- An order is paid under the rule of its product. -/
theorem of_createShopOrder {payload : ShopOrderCreate} {key : String} {draws : OrderDraws}
    {answer : OrderAnswer}
    (h : createShopOrder db userId payload key draws now = .ok (db', answer)) : Trades db db' := by
  have hgrows : Grows (fun rule => ∀ orderId, rule = orderRule orderId → orderId = draws.orderId)
      db.toGrowthDb db'.toGrowthDb :=
    createShopOrder_grows (fun _ heq => (orderRule_injective heq).symm) h
  simp only [createShopOrder, bind_ok, ensure_ok, exists_const] at h
  obtain ⟨-, -, h⟩ := h
  split at h
  · simp only [bind_ok, ensure_ok, exists_const, pure_ok, Prod.mk.injEq] at h
    obtain ⟨-, rfl, -⟩ := h
    exact refl db
  · simp only [bind_ok, placeOrder, Prod.exists, pure_ok, Prod.mk.injEq] at h
    obtain ⟨product, -, ordered, horder, recorded, event, hrecord, spent, ledger, hspend, delivered,
      hdeliver, completed, hinsert, rfl, -⟩ := h
    obtain ⟨hfresh, rfl⟩ := insertOrder_ok horder
    obtain ⟨events, rfl, -⟩ := recordEvent_ok hrecord
    obtain ⟨-, -, rfl⟩ := insertTransaction_ok hinsert
    have hledger := (spendPoints_moved hspend).2
    have hrule : NotOfPass ledger.ruleKey := by
      have hentry := spendPoints_entry hspend
      have hkey : ledger.ruleKey = "shop_order:" ++ product.id :=
        congrArg (fun key => key.2.2) hentry
      rw [hkey]
      exact notOfPass_order _
    let order : ShopOrder :=
      { id := draws.orderId, userId := userId, productId := product.id, productName := product.name,
        pricePoints := product.pricePoints, paymentMethod := payload.paymentMethod,
        status := .completed, idempotencyKey := some key }
    let paid : ShopOrder → ShopOrder :=
      ({ · with pointLedgerId := some ledger.id, pointEventId := some event.id })
    have horders : patch (·.id == draws.orderId) paid (db.orders ++ [order]) =
        db.orders ++ [paid order] :=
      patch_insert (fun row hrow => beq_false_of_ne (hfresh row hrow))
        (beq_self_eq_true draws.orderId)
    obtain ⟨right, hsource, rfl⟩ | ⟨grants, rfl⟩ := deliverOrder_ok hdeliver
    · refine ⟨rfl, hgrows.posts, .placed (paid order) ledger horders hfresh hledger hrule rfl ?_⟩
      refine fun _ => delivered_of_grows hgrows ?_
      intro row hrow
      rcases List.mem_append.mp hrow with hold | hnew
      · exact .inr ⟨row, hold, rfl⟩
      · obtain rfl := List.mem_singleton.mp hnew
        exact .inl hsource
    · refine ⟨rfl, hgrows.posts, .placed (paid order) ledger horders hfresh hledger hrule rfl ?_⟩
      exact fun _ => delivered_of_grows hgrows fun row hrow => .inr ⟨row, hrow, rfl⟩

/-- A refund takes back what its order delivered. -/
theorem of_refundOrder {order : ShopOrder} {source : RefundSource} {draws : RefundDraws}
    {balance : Int} (hrule : NotOfPass source.ruleKey)
    (h : refundOrder db order source draws now = .ok (db', balance)) : Trades db db' := by
  have hgrows : Grows NotOfOrder db.toGrowthDb db'.toGrowthDb := refundOrder_grows hrule h
  simp only [refundOrder, bind_ok] at h
  obtain ⟨ledgerId, -, item, hitem, hreverse⟩ := h
  obtain ⟨points, rfl, -⟩ := reverseOrder_ok hreverse
  have hdelivered : db.Delivered order.id := by
    have hok := refundItem_ok hitem
    cases item with
    | entitlement right =>
      have hsource := List.find?_some hok.1
      exact .inl ⟨right, List.mem_of_find?_eq_some hok.1, by simpa using hsource⟩
    | grant grant =>
      have hgrant := List.find?_some hok.2.1
      simp only [Bool.and_eq_true, beq_iff_eq] at hgrant
      exact .inr ⟨grant, List.mem_of_find?_eq_some hok.2.1, hgrant.2⟩
  have hrights : ∀ right ∈ (db.revoke item now).shopEntitlements,
      ∃ old ∈ db.shopEntitlements, old.sourceId = right.sourceId := by
    intro right hright
    cases item with
    | entitlement revoked =>
      obtain ⟨row, hrow, rfl⟩ := mem_patch.mp hright
      refine ⟨row, hrow, ?_⟩
      split <;> rfl
    | grant => exact ⟨right, hright, rfl⟩
  have hpasses : (db.revoke item now).passEntitlements = db.passEntitlements := by
    cases item <;> rfl
  have horders : (db.revoke item now).orders = db.orders := by
    cases item <;> rfl
  refine ⟨hpasses, hgrows.posts, .refunded order.id _ hdelivered (congrArg _ horders)
    (fun _ => rfl) (fun _ => rfl) ?_⟩
  exact fun _ => delivered_of_notOfOrder hgrows hrights

theorem of_executeApproved {users : List User} {item : ApprovalRequest} {actorId : String}
    {draws : RefundDraws} {executed : Bool}
    (h : executeApproved db users item actorId draws now = .ok (db', executed)) :
    Trades db db' := by
  unfold executeApproved at h
  split at h
  · obtain ⟨⟨refunded, balance⟩, hrefund, heq⟩ := map_ok.mp h
    obtain ⟨rfl, -⟩ := Prod.mk.inj heq
    obtain ⟨order, -, horder⟩ := executeApprovedRefund_ok hrefund
    exact of_refundOrder (notOfPass_adminRefund order _ _) horder
  · obtain ⟨⟨adjusted, balance⟩, hadjust, heq⟩ := map_ok.mp h
    obtain ⟨rfl, -⟩ := Prod.mk.inj heq
    exact of_grows (executeApprovedPointAdjustment_grows hadjust)
      (.of_executeApprovedPointAdjustment hadjust)
  · split at h
    · obtain ⟨rfl, -⟩ := Prod.mk.inj (Except.ok.inj h)
      exact of_same ⟨rfl, rfl, rfl⟩ ⟨rfl, rfl, rfl⟩
    · obtain ⟨rfl, -⟩ := Prod.mk.inj (Except.ok.inj h)
      exact refl db
  · obtain ⟨rfl, -⟩ := Prod.mk.inj (Except.ok.inj h)
    exact refl db

theorem of_refundShopOrder {orderId : OrderId} {key : String} {draws : RefundDraws} {balance : Int}
    (h : refundShopOrder db userId orderId key draws now = .ok (db', balance)) : Trades db db' := by
  rcases refundShopOrder_ok h with ⟨ledger, -, rfl⟩ | ⟨order, -, -, -, horder⟩
  · exact refl _
  · exact of_refundOrder (notOfPass_fanRefund order key) horder

/-- A request that places no order grants no reward of an order. -/
theorem of_aside {terms : RewardId → ExchangeTerms} {a : RewardAction} (hnone : a.newOrder = none)
    (h : Aside db (PackRewards.step terms db a)) : Trades db (PackRewards.step terms db a) := by
  refine of_grows ((step_grows terms db a).mono fun rule hrule => hrule.resolve_right ?_) h
  rintro ⟨orderId, hplaced, -⟩
  rw [hnone] at hplaced
  cases hplaced

theorem of_request (terms : RewardId → ExchangeTerms) (db : ShopDb) (a : RewardAction) :
    Trades db (PackRewards.step terms db a) := by
  have hsame : Aside db db := .refl db
  cases a with
  | order => exact commitOr_keeps (refl db) fun _ _ => of_createShopOrder
  | refund => exact commitOr_keeps (refl db) fun _ _ => of_refundShopOrder
  | record => exact of_aside rfl (commitOr_keeps hsame fun _ _ => .of_recordEvent)
  | exchange => exact of_aside rfl (commitOr_keeps hsame fun _ _ => .of_exchangePoints)
  | claimReward => exact of_aside rfl (PackRewards.orKeep_keeps hsame fun _ => .of_claimRewardGrant)
  | claimMission => exact of_aside rfl .of_claimMissionRewards
  | process eventId readings draws =>
    refine of_aside rfl ?_
    simp only [PackRewards.step]
    split
    · refine PackRewards.orKeep_keeps hsame fun db' hattempt => ?_
      obtain ⟨growth, -, rfl⟩ := map_ok.mp hattempt
      exact ⟨rfl, rfl, rfl⟩
    · exact .refl db
  | claimTier =>
    refine of_aside rfl (PackRewards.orKeep_keeps hsame fun db' hclaim => ?_)
    obtain ⟨pass, hpass, rfl⟩ := map_ok.mp hclaim
    exact ⟨claimPassTier_passes hpass, rfl, rfl⟩
  | reconcile =>
    refine of_aside rfl (PackRewards.orKeep_keeps hsame fun db' hreconcile => ?_)
    obtain ⟨⟨pass, count⟩, hpass, rfl⟩ := map_ok.mp hreconcile
    exact ⟨repairTiers_passes hpass, rfl, rfl⟩

theorem of_pointStep (db : ShopDb) {call : PointCall} (h : call.isRequest) :
    Trades db (db.withPoints (pointStep db.points call)) := by
  have hsame : Posts NotOfPass db.points db.points := .refl db.points
  refine of_posts ?_
  cases call with
  | grant | spend | reverse => cases h
  | charge => exact commitOr_keeps hsame fun _ _ => .of_createPointCharge notOfPass_charge
  | refund => exact commitOr_keeps hsame fun _ _ => .of_refundPointCharge notOfPass_chargeRefund
  | adjust => exact commitOr_keeps hsame fun _ _ => .of_adjustPoints notOfPass_adjustment

/-- Seasons and tiers are edited. -/
theorem of_seasons {pass : PassDb}
    (h : ∃ seasons tiers, pass = { db.toPassDb with seasons := seasons, tiers := tiers }) :
    Trades db { db with toPassDb := pass } := by
  obtain ⟨seasons, tiers, rfl⟩ := h
  exact of_same ⟨rfl, rfl, rfl⟩ ⟨rfl, rfl, rfl⟩

end Trades

/-- The one pass of a fan for a season, with the row and the order that paid it. -/
structure Bought (db : ShopDb) (userId : UserId) (seasonId : SeasonId) (pass : PassEntitlement)
    (spend : PointLedger) (order : ShopOrder) : Prop where
  passes : db.passesOf userId seasonId = [pass]
  active : pass.status = .active
  orderId : pass.orderId = some order.id
  spends : db.passSpends userId seasonId = [spend]
  kind : spend.transactionType = .spend
  amount : spend.amount = -pass.pricePoints
  orders : db.ordersPaidBy spend.id = [order]
  ofPass : order.IsOfPass userId seasonId pass.pricePoints
  undelivered : ¬db.Delivered order.id

/-- The fan has no pass for the season, and spent nothing on it. -/
structure Unsold (db : ShopDb) (userId : UserId) (seasonId : SeasonId) : Prop where
  passes : db.passesOf userId seasonId = []
  spends : db.passSpends userId seasonId = []

/-- Orders and what they deliver refer to rows that are there, and every pass is bought or not. -/
structure Books (db : ShopDb) : Prop where
  ledgerIds : (db.points.ledger.map (·.id)).Nodup
  paid : ∀ order ∈ db.orders, ∀ ledgerId ∈ order.pointLedgerId,
    ∃ row ∈ db.points.ledger, row.id = ledgerId
  delivered : ∀ orderId, db.Delivered orderId → ∃ order ∈ db.orders, order.id = orderId
  passes : ∀ userId seasonId, Unsold db userId seasonId ∨
    ∃ pass spend order, Bought db userId seasonId pass spend order

section

variable {seasonId : SeasonId} {pass : PassEntitlement} {spend : PointLedger} {order : ShopOrder}

theorem Unsold.booked (h : Unsold db userId seasonId) : Booked db userId seasonId := by
  have hactive : db.activePasses userId seasonId = [] := by
    rw [ShopDb.activePasses, h.passes, List.filter_nil]
  refine ⟨?_, fun _ => h.spends, ?_⟩
  · intro price orderId
    constructor
    · rintro ⟨pass, hpass, -⟩
      rw [hactive] at hpass
      cases hpass
    · rintro ⟨spend, order, hspends, -⟩
      rw [h.spends] at hspends
      cases hspends
  · simp [hactive, h.spends]

theorem Bought.activePasses (h : Bought db userId seasonId pass spend order) :
    db.activePasses userId seasonId = [pass] := by
  simp [ShopDb.activePasses, h.passes, h.active]

theorem Bought.booked (h : Bought db userId seasonId pass spend order) :
    Booked db userId seasonId := by
  refine ⟨?_, ?_, by simp [h.activePasses, h.spends]⟩
  · intro price orderId
    rw [h.activePasses]
    constructor
    · rintro ⟨pass', hpass', rfl, rfl⟩
      obtain rfl := List.mem_singleton.mp hpass'
      exact ⟨spend, order, h.spends, h.kind, h.amount, h.orders, h.orderId.symm, h.ofPass⟩
    · rintro ⟨spend', order', hspends, -, hamount, horders, rfl, -⟩
      obtain rfl := List.singleton_inj.mp (h.spends.symm.trans hspends)
      obtain rfl := List.singleton_inj.mp (h.orders.symm.trans horders)
      have hprice := h.amount.symm.trans hamount
      exact ⟨pass, List.mem_singleton_self pass, by omega, h.orderId⟩
  · rw [h.activePasses]
    rintro ⟨⟩

theorem Books.booked (h : Books db) (userId : UserId) (seasonId : SeasonId) :
    Booked db userId seasonId := by
  rcases h.passes userId seasonId with hunsold | ⟨pass, spend, order, hbought⟩
  · exact hunsold.booked
  · exact hbought.booked

theorem passSpends_of_posts (h : Posts NotOfPass db.points db'.points) (userId : UserId)
    (seasonId : SeasonId) : db'.passSpends userId seasonId = db.passSpends userId seasonId := by
  obtain ⟨added, hledger, hrules⟩ := h.ledger
  have hnone : added.filter (fun row => row.userId == userId && row.ruleKey == passRule seasonId) =
      [] := by
    rw [List.filter_eq_nil_iff]
    intro row hrow
    simp [hrules row hrow seasonId]
  rw [ShopDb.passSpends, hledger, List.filter_append, hnone, List.append_nil, ShopDb.passSpends]

theorem mem_passSpends {row : PointLedger} (h : db.passSpends userId seasonId = [row]) :
    row ∈ db.points.ledger ∧ row.userId = userId ∧ row.ruleKey = passRule seasonId := by
  have hmem : row ∈ db.passSpends userId seasonId := by simp [h]
  simpa [ShopDb.passSpends] using hmem

theorem mem_ordersPaidBy {ledgerId : LedgerId} (h : db.ordersPaidBy ledgerId = [order]) :
    order ∈ db.orders ∧ order.pointLedgerId = some ledgerId := by
  have hmem : order ∈ db.ordersPaidBy ledgerId := by simp [h]
  simpa [ShopDb.ordersPaidBy] using hmem

namespace OrdersMove

theorem paid (h : OrdersMove db db') (hledger : db.points.ledger ⊆ db'.points.ledger)
    (hpaid : ∀ order ∈ db.orders, ∀ ledgerId ∈ order.pointLedgerId,
      ∃ row ∈ db.points.ledger, row.id = ledgerId) :
    ∀ order ∈ db'.orders, ∀ ledgerId ∈ order.pointLedgerId,
      ∃ row ∈ db'.points.ledger, row.id = ledgerId := by
  have hold : ∀ order ∈ db.orders, ∀ ledgerId ∈ order.pointLedgerId,
      ∃ row ∈ db'.points.ledger, row.id = ledgerId := by
    intro order horder ledgerId hid
    obtain ⟨row, hrow, heq⟩ := hpaid order horder ledgerId hid
    exact ⟨row, hledger hrow, heq⟩
  intro order horder ledgerId hid
  cases h with
  | same horders => exact hold order (horders ▸ horder) ledgerId hid
  | placed new ledger horders hfresh hmem hrule hnew =>
    rw [horders, List.mem_append, List.mem_singleton] at horder
    rcases horder with horder | rfl
    · exact hold order horder ledgerId hid
    · rw [hnew, Option.mem_some_iff] at hid
      exact ⟨ledger, hmem, hid⟩
  | refunded orderId f hitem horders hids hkept =>
    rw [horders] at horder
    obtain ⟨row, hrow, rfl⟩ := mem_patch.mp horder
    refine hold row hrow ledgerId ?_
    split at hid
    · rwa [hkept] at hid
    · exact hid

theorem delivered (h : OrdersMove db db')
    (hdelivered : ∀ orderId, db.Delivered orderId → ∃ order ∈ db.orders, order.id = orderId) :
    ∀ orderId, db'.Delivered orderId → ∃ order ∈ db'.orders, order.id = orderId := by
  intro orderId hnew
  cases h with
  | same horders hsame =>
    rw [horders]
    exact hdelivered orderId (hsame orderId hnew)
  | placed new ledger horders hfresh hmem hrule hpaid hplaced =>
    rw [horders]
    rcases hplaced orderId hnew with hold | rfl
    · obtain ⟨order, horder, hid⟩ := hdelivered orderId hold
      exact ⟨order, List.mem_append_left _ horder, hid⟩
    · exact ⟨new, by simp, rfl⟩
  | refunded orderId' f hitem horders hids hkept hsame =>
    obtain ⟨order, horder, hid⟩ := hdelivered orderId (hsame orderId hnew)
    rw [horders]
    refine ⟨_, mem_patch.mpr ⟨order, horder, rfl⟩, ?_⟩
    split
    · exact (hids order).trans hid
    · exact hid

/-- The order of a pass stays the one order that its row paid. -/
theorem ofPass (h : OrdersMove db db') (hids : (db'.points.ledger.map (·.id)).Nodup)
    (hspend : spend ∈ db'.points.ledger) (hrule : spend.ruleKey = passRule seasonId)
    (horders : db.ordersPaidBy spend.id = [order]) (hnone : ¬db.Delivered order.id) :
    db'.ordersPaidBy spend.id = [order] ∧ ¬db'.Delivered order.id := by
  cases h with
  | same hsame hdelivered =>
    refine ⟨?_, fun hnew => hnone (hdelivered _ hnew)⟩
    rw [ShopDb.ordersPaidBy, hsame]
    exact horders
  | placed new ledger hadded hfresh hledger hother hpaid hdelivered =>
    have hne : ledger.id ≠ spend.id := by
      intro heq
      obtain rfl := eq_of_unique hids hledger hspend heq
      exact hother seasonId hrule
    refine ⟨?_, ?_⟩
    · rw [ShopDb.ordersPaidBy, hadded, List.filter_append, ← ShopDb.ordersPaidBy, horders]
      simp [hpaid, hne]
    · intro hnew
      rcases hdelivered _ hnew with hold | heq
      · exact hnone hold
      · exact hfresh order (mem_ordersPaidBy horders).1 heq
  | refunded orderId f hitem hpatched hkept hpaid hdelivered =>
    refine ⟨?_, fun hnew => hnone (hdelivered _ hnew)⟩
    have hne : order.id ≠ orderId := by
      rintro rfl
      exact hnone hitem
    rw [ShopDb.ordersPaidBy, hpatched, filter_patch (fun row => by rw [hpaid]),
      ← ShopDb.ordersPaidBy, horders]
    exact patch_of_forall_not (by simpa using hne)

end OrdersMove

/-- Any request other than the purchase of a pass keeps the books. -/
theorem Books.trade (h : Books db) (ht : Trades db db') : Books db' := by
  have hids := ht.posts.ledgerIds h.ledgerIds
  have hledger : db.points.ledger ⊆ db'.points.ledger := by
    obtain ⟨added, hadded, -⟩ := ht.posts.ledger
    rw [hadded]
    exact List.subset_append_left _ _
  refine ⟨hids, ht.orders.paid hledger h.paid, ht.orders.delivered h.delivered, ?_⟩
  intro userId seasonId
  have hpasses : db'.passesOf userId seasonId = db.passesOf userId seasonId := by
    rw [ShopDb.passesOf, ht.passes, ShopDb.passesOf]
  have hspends := passSpends_of_posts ht.posts userId seasonId
  rcases h.passes userId seasonId with hunsold | ⟨pass, spend, order, hbought⟩
  · exact .inl ⟨hpasses.trans hunsold.passes, hspends.trans hunsold.spends⟩
  · obtain ⟨hmem, -, hrule⟩ := mem_passSpends hbought.spends
    obtain ⟨horders, hnone⟩ := ht.orders.ofPass hids (hledger hmem) hrule hbought.orders
      hbought.undelivered
    exact .inr ⟨pass, spend, order,
      { hbought with
        passes := hpasses.trans hbought.passes
        spends := hspends.trans hbought.spends
        orders := horders
        undelivered := hnone }⟩

/-- The first spend under a rule posts a row, and takes its amount from the balance. -/
theorem spendPoints_first {points points' : PointDb} {eventId : EventId} {ruleKey : String}
    {amount : Int} {ledgerId : LedgerId} {description : Option String}
    {metadata : Option JsonObject} {row : PointLedger}
    (hnone : ∀ row ∈ points.ledger, row.userId = userId → row.ruleKey ≠ ruleKey)
    (h : spendPoints points userId eventId ruleKey amount description metadata ledgerId =
      .ok (points', row)) :
    points'.ledger = points.ledger ++ [row] ∧ (∀ row' ∈ points.ledger, row'.id ≠ row.id) ∧
      row.userId = userId ∧ row.ruleKey = ruleKey ∧ row.transactionType = .spend ∧
      row.amount = -amount ∧ (0 < amount ∧ amount ≤ points.balanceOf userId) ∧
      points'.balanceOf userId = points.balanceOf userId - amount := by
  have hentry := spendPoints_entry h
  have huser : row.userId = userId := congrArg Prod.fst hentry
  have hrule : row.ruleKey = ruleKey := congrArg (fun key => key.2.2) hentry
  obtain ⟨hpositive, hcovered⟩ := spendPoints_covered h
  have hcovered : amount ≤ points.balanceOf userId := by
    rcases hcovered with hcovered | ⟨old, hold, holdUser, -, holdRule⟩
    · exact hcovered
    · exact absurd holdRule (hnone old hold holdUser)
  obtain ⟨-, ⟨-, hold⟩ | ⟨⟨balances, hpoints⟩, -, -, hkind, hamount, -⟩⟩ := spendPoints_ok h
  · exact absurd hrule (hnone row hold huser)
  · have hledger : points'.ledger = points.ledger ++ [row] := by rw [hpoints]
    rcases spendPoints_posts h with hsame | ⟨row', hposted⟩
    · have heq := hledger.symm.trans hsame.ledger
      simp at heq
    · obtain rfl : row = row' := by
        simpa using hledger.symm.trans hposted.ledger
      have hbalance := hposted.balanceSet.balanceIn userId
      rw [if_pos huser, hposted.balanceAfter, hamount, huser] at hbalance
      refine ⟨hledger, hposted.freshId, huser, hrule, hkind, hamount, ⟨hpositive, hcovered⟩, ?_⟩
      rw [PointDb.balanceOf, hbalance]
      omega

theorem passOf_eq_none : db.passOf userId seasonId = none ↔ db.passesOf userId seasonId = [] := by
  simp [ShopDb.passOf, ShopDb.passesOf]

/-- What the first purchase of a pass writes: a row of the ledger, an order and the pass. -/
structure PassWritten (db db' : ShopDb) (userId : UserId) (seasonId : SeasonId)
    (pass : PassEntitlement) (spend : PointLedger) (order : ShopOrder) : Prop where
  passes : db'.passEntitlements = db.passEntitlements ++ [pass]
  passOf : pass.userId = userId ∧ pass.seasonId = seasonId
  active : pass.status = .active
  orderId : pass.orderId = some order.id
  ledger : db'.points.ledger = db.points.ledger ++ [spend]
  freshLedger : ∀ row ∈ db.points.ledger, row.id ≠ spend.id
  spendOf : spend.userId = userId ∧ spend.ruleKey = passRule seasonId
  kind : spend.transactionType = .spend
  amount : spend.amount = -pass.pricePoints
  orders : db'.orders = db.orders ++ [order]
  freshOrder : ∀ row ∈ db.orders, row.id ≠ order.id
  paid : order.pointLedgerId = some spend.id
  ofPass : order.IsOfPass userId seasonId pass.pricePoints
  grants : db'.rewardGrants = db.rewardGrants
  rights : db'.shopEntitlements = db.shopEntitlements
  covered : 0 < pass.pricePoints ∧ pass.pricePoints ≤ db.points.balanceOf userId
  debited : db'.points.balanceOf userId = db.points.balanceOf userId - pass.pricePoints

@[simp] theorem upsertPassProduct_rewardGrants {season : PassSeason} {price : Int} :
    (db.upsertPassProduct season price).rewardGrants = db.rewardGrants := by
  unfold ShopDb.upsertPassProduct
  dsimp only
  split <;> rfl

@[simp] theorem upsertPassProduct_shopEntitlements {season : PassSeason} {price : Int} :
    (db.upsertPassProduct season price).shopEntitlements = db.shopEntitlements := by
  unfold ShopDb.upsertPassProduct
  dsimp only
  split <;> rfl

theorem buyPass_writes {season : PassSeason} {draws : PurchaseDraws} {purchased : PassPurchased}
    (hunsold : Unsold db userId season.id)
    (h : buyPass db userId season draws now = .ok (db', purchased)) :
    ∃ pass spend order, PassWritten db db' userId season.id pass spend order ∧
      purchased.seasonId = season.id ∧ purchased.pricePoints = pass.pricePoints ∧
      purchased.replayed = false := by
  have hspends : ∀ row ∈ db.points.ledger, row.userId = userId →
      row.ruleKey ≠ passRule season.id := by
    have hnone := hunsold.spends
    rw [ShopDb.passSpends, List.filter_eq_nil_iff] at hnone
    intro row hrow huser hrule
    exact hnone row hrow (by simp [huser, hrule])
  have hnone := passOf_eq_none.mpr hunsold.passes
  simp only [buyPass, bind_ok, orFail_ok, Prod.exists, pure_ok, Prod.mk.injEq] at h
  obtain ⟨price, -, recorded, event, hrecord, spent, ledger, hspend, ordered, horder, activated,
    hactivate, rfl, rfl⟩ := h
  obtain ⟨events, rfl, -⟩ := recordEvent_ok hrecord
  rw [upsertPassProduct_points] at hspend
  obtain ⟨hledger, hfreshLedger, huser, hrule, hkind, hamount, hcovered, hdebited⟩ :=
    spendPoints_first (by exact hspends) hspend
  obtain ⟨hfreshOrder, rfl⟩ := insertOrder_ok horder
  obtain rfl := activatePass_ok (by simpa [ShopDb.passOf, ShopDb.withPoints] using hnone) hactivate
  let pass : PassEntitlement :=
    { id := draws.entitlementId, userId := userId, seasonId := season.id, pricePoints := price,
      orderId := some draws.orderId }
  let order : ShopOrder :=
    { id := draws.orderId, userId := userId, productId := passProductId season.id,
      productName := season.title, pricePoints := price, paymentMethod := "points",
      status := .completed, idempotencyKey := some (passKey season.id),
      pointLedgerId := some ledger.id, pointEventId := some event.id }
  refine ⟨pass, ledger, order, ?_, rfl, rfl, rfl⟩
  exact
    { passes := congrArg (· ++ [_]) upsertPassProduct_passEntitlements
      passOf := ⟨rfl, rfl⟩
      active := rfl
      orderId := rfl
      ledger := hledger
      freshLedger := hfreshLedger
      spendOf := ⟨huser, hrule⟩
      kind := hkind
      amount := hamount
      orders := congrArg (· ++ [_]) upsertPassProduct_orders
      freshOrder := by simpa [ShopDb.withPoints] using hfreshOrder
      paid := rfl
      ofPass := ⟨rfl, rfl, rfl, rfl, rfl⟩
      grants := upsertPassProduct_rewardGrants
      rights := upsertPassProduct_shopEntitlements
      covered := hcovered
      debited := hdebited }

namespace PassWritten

theorem passesOf (h : PassWritten db db' userId seasonId pass spend order) (userId' : UserId)
    (seasonId' : SeasonId) : db'.passesOf userId' seasonId' =
      db.passesOf userId' seasonId' ++
        if userId = userId' ∧ seasonId = seasonId' then [pass] else [] := by
  obtain ⟨rfl, rfl⟩ := h.passOf
  simp [ShopDb.passesOf, h.passes, List.filter_cons]

theorem passSpends (h : PassWritten db db' userId seasonId pass spend order) (userId' : UserId)
    (seasonId' : SeasonId) : db'.passSpends userId' seasonId' =
      db.passSpends userId' seasonId' ++
        if userId = userId' ∧ seasonId = seasonId' then [spend] else [] := by
  obtain ⟨rfl, hrule⟩ := h.spendOf
  have hkey : spend.ruleKey = passRule seasonId' ↔ seasonId = seasonId' := by
    rw [hrule]
    exact ⟨passRule_injective, congrArg passRule⟩
  simp [ShopDb.passSpends, h.ledger, List.filter_cons, hkey]

theorem ordersPaidBy (h : PassWritten db db' userId seasonId pass spend order)
    (ledgerId : LedgerId) : db'.ordersPaidBy ledgerId =
      db.ordersPaidBy ledgerId ++ if spend.id = ledgerId then [order] else [] := by
  simp [ShopDb.ordersPaidBy, h.orders, List.filter_cons, h.paid]

theorem delivered (h : PassWritten db db' userId seasonId pass spend order) {orderId : OrderId} :
    db'.Delivered orderId ↔ db.Delivered orderId := by
  rw [ShopDb.Delivered, h.grants, h.rights, ShopDb.Delivered]

/-- The pass is bought with the row and the order that are new. -/
theorem bought (h : PassWritten db db' userId seasonId pass spend order) (hbooks : Books db)
    (hunsold : Unsold db userId seasonId) : Bought db' userId seasonId pass spend order := by
  have hunpaid : db.ordersPaidBy spend.id = [] := by
    rw [ShopDb.ordersPaidBy, List.filter_eq_nil_iff]
    intro old hold hpaid
    obtain ⟨row, hrow, hid⟩ := hbooks.paid old hold spend.id (by simpa using hpaid)
    exact h.freshLedger row hrow hid
  have hpasses := h.passesOf userId seasonId
  rw [if_pos ⟨rfl, rfl⟩, hunsold.passes, List.nil_append] at hpasses
  have hspends := h.passSpends userId seasonId
  rw [if_pos ⟨rfl, rfl⟩, hunsold.spends, List.nil_append] at hspends
  have horders := h.ordersPaidBy spend.id
  rw [if_pos rfl, hunpaid, List.nil_append] at horders
  refine ⟨hpasses, h.active, h.orderId, hspends, h.kind, h.amount, horders, h.ofPass, ?_⟩
  intro hdelivered
  obtain ⟨old, hold, hid⟩ := hbooks.delivered order.id (h.delivered.mp hdelivered)
  exact h.freshOrder old hold hid

/-- Another pass stays as it is. -/
theorem others (h : PassWritten db db' userId seasonId pass spend order) {userId' : UserId}
    {seasonId' : SeasonId} (hne : ¬(userId = userId' ∧ seasonId = seasonId'))
    {pass' : PassEntitlement} {spend' : PointLedger} {order' : ShopOrder}
    (hbought : Bought db userId' seasonId' pass' spend' order') :
    Bought db' userId' seasonId' pass' spend' order' := by
  have hid := h.freshLedger spend' (mem_passSpends hbought.spends).1
  have hpasses := h.passesOf userId' seasonId'
  rw [if_neg hne, List.append_nil] at hpasses
  have hspends := h.passSpends userId' seasonId'
  rw [if_neg hne, List.append_nil] at hspends
  have horders := h.ordersPaidBy spend'.id
  rw [if_neg (Ne.symm hid), List.append_nil] at horders
  exact { hbought with
    passes := hpasses.trans hbought.passes
    spends := hspends.trans hbought.spends
    orders := horders.trans hbought.orders
    undelivered := fun hdelivered => hbought.undelivered (h.delivered.mp hdelivered) }

theorem firstSale (h : PassWritten db db' userId seasonId pass spend order)
    (hunsold : Unsold db userId seasonId) :
    FirstSale db db' userId seasonId pass.pricePoints := by
  have hpasses := h.passesOf userId seasonId
  rw [if_pos ⟨rfl, rfl⟩, hunsold.passes, List.nil_append] at hpasses
  refine ⟨by simp [ShopDb.activePasses, hunsold.passes], ⟨pass, ?_, rfl⟩, h.covered, h.debited,
    order, h.orders, h.ofPass⟩
  simp [ShopDb.activePasses, hpasses, h.active]

end PassWritten

/-- The first purchase of a pass keeps the books. -/
theorem Books.buy (h : Books db) (hunsold : Unsold db userId seasonId)
    (hwritten : PassWritten db db' userId seasonId pass spend order) : Books db' := by
  refine ⟨?_, ?_, ?_, ?_⟩
  · rw [hwritten.ledger]
    exact nodup_insert h.ledgerIds hwritten.freshLedger
  · intro order' horder' ledgerId hid
    rw [hwritten.ledger]
    rw [hwritten.orders, List.mem_append, List.mem_singleton] at horder'
    rcases horder' with hold | rfl
    · obtain ⟨row, hrow, heq⟩ := h.paid order' hold ledgerId hid
      exact ⟨row, List.mem_append_left _ hrow, heq⟩
    · rw [hwritten.paid, Option.mem_some_iff] at hid
      exact ⟨spend, by simp, hid⟩
  · intro orderId hdelivered
    obtain ⟨order', horder', hid⟩ := h.delivered orderId (hwritten.delivered.mp hdelivered)
    exact ⟨order', hwritten.orders ▸ List.mem_append_left _ horder', hid⟩
  · intro userId' seasonId'
    by_cases hsame : userId = userId' ∧ seasonId = seasonId'
    · obtain ⟨rfl, rfl⟩ := hsame
      exact .inr ⟨pass, spend, order, hwritten.bought h hunsold⟩
    · rcases h.passes userId' seasonId' with hother | ⟨pass', spend', order', hbought⟩
      · refine .inl ⟨?_, ?_⟩
        · rw [hwritten.passesOf, if_neg hsame, List.append_nil]
          exact hother.passes
        · rw [hwritten.passSpends, if_neg hsame, List.append_nil]
          exact hother.spends
      · exact .inr ⟨pass', spend', order', hwritten.others hsame hbought⟩

theorem Books.unsold (h : Books db) (hnone : db.activePasses userId seasonId = []) :
    Unsold db userId seasonId := by
  rcases h.passes userId seasonId with hunsold | ⟨pass, spend, order, hbought⟩
  · exact hunsold
  · rw [hbought.activePasses] at hnone
    cases hnone

theorem beginSale_ok {season : PassSeason} {purchased? : Option PassPurchased}
    (h : beginSale db userId seasonId now = .ok (season, purchased?)) : season.id = seasonId ∧
      purchased? = ((db.passOf userId season.id).filter (·.status = .active)).map
        fun existing => ⟨season.id, existing.id, existing.pricePoints, true⟩ := by
  simp only [beginSale, bind_ok, pure_ok, Prod.mk.injEq] at h
  obtain ⟨season', hcheck, rfl, rfl⟩ := h
  exact ⟨by simpa using List.find?_some (checkSeason_ok hcheck).1, rfl⟩

/-- A fan is let through to the payment without a pass only. -/
theorem Books.unsold_of_begin (h : Books db) {season : PassSeason}
    (hbegin : beginSale db userId seasonId now = .ok (season, none)) :
    Unsold db userId season.id := by
  have hnone := (beginSale_ok hbegin).2
  rw [eq_comm, Option.map_eq_none_iff] at hnone
  rcases h.passes userId season.id with hunsold | ⟨pass, spend, order, hbought⟩
  · exact hunsold
  · have hfound : db.passOf userId season.id = some pass := by
      rw [ShopDb.passOf, ← List.head?_filter, ← ShopDb.passesOf, hbought.passes, List.head?_cons]
    simp [hfound, hbought.active] at hnone

/-- A fan who is answered from an earlier purchase has the pass. -/
theorem replay_active {season : PassSeason} {purchased : PassPurchased}
    (hbegin : beginSale db userId seasonId now = .ok (season, some purchased)) :
    purchased.replayed ∧ ∃ pass ∈ db.activePasses userId purchased.seasonId,
      pass.pricePoints = purchased.pricePoints := by
  have hsome := (beginSale_ok hbegin).2
  obtain ⟨pass, hpass, rfl⟩ := Option.map_eq_some_iff.mp hsome.symm
  rw [Option.filter_eq_some_iff, decide_eq_true_eq] at hpass
  refine ⟨rfl, pass, ?_, rfl⟩
  rw [ShopDb.activePasses, List.mem_filter, beq_iff_eq]
  refine ⟨?_, hpass.2⟩
  rw [ShopDb.passesOf, List.mem_filter]
  have hfound := List.find?_some hpass.1
  exact ⟨List.mem_of_find?_eq_some hpass.1, hfound⟩

end

end

namespace PassSales

variable {terms : RewardId → ExchangeTerms} {users : List User} {s : PassSales} {db : ShopDb}
  {worker : Nat} {userId : UserId} {season : PassSeason}

/-- The season that a purchase holds. -/
def holds : SalePhase → SeasonId → Prop
  | .checked _ season, seasonId => seasonId = season.id
  | .idle, _ => False

/-- What a purchase knows of the season that it holds. -/
def knows : SalePhase → ShopDb → Prop
  | .checked userId season, db => Unsold db userId season.id
  | .idle, _ => True

/-- Purchases hold the seasons of passes that are unsold to their fans, and the books are kept. -/
structure Sound (s : PassSales) : Prop where
  knows : RowLocks.Knows holds knows s
  books : Books s.committed

theorem Sound.change (h : Sound s) (ht : Trades s.committed db) : Sound (s.change db) := by
  refine ⟨h.knows.change ?_, h.books.trade ht⟩
  intro worker hknows
  cases hphase : s.phase worker with
  | idle => trivial
  | checked userId season =>
    rw [hphase] at hknows
    refine ⟨?_, (passSpends_of_posts ht.posts userId season.id).trans hknows.spends⟩
    rw [ShopDb.passesOf, ht.passes]
    exact hknows.passes

theorem Sound.edit (h : Sound s) (seasonId : SeasonId) {x : Except Failure PassDb}
    (hx : ∀ pass, x = .ok pass →
      ∃ seasons tiers, pass = { s.committed.toPassDb with seasons := seasons, tiers := tiers }) :
    Sound (s.edit seasonId x) := by
  unfold PassSales.edit
  cases s.owner seasonId with
  | some other => exact h
  | none =>
    cases x with
    | ok pass => exact h.change (.of_seasons (hx pass rfl))
    | error e => exact h

theorem Sound.giveUp (h : Sound s) : Sound (s.release worker s.committed .idle) :=
  ⟨h.knows.release (fun _ => id) trivial fun _ _ => id, h.books⟩

theorem Sound.lockSeason (h : Sound s) {seasonId : SeasonId} {now : Time}
    (hfree : s.owner seasonId = none)
    (hbegin : beginSale s.committed userId seasonId now = .ok (season, none)) :
    Sound (s.acquire worker season.id (.checked userId season)) := by
  refine ⟨h.knows.acquire ?_ (fun _ => .inl) (h.books.unsold_of_begin hbegin), h.books⟩
  rw [(beginSale_ok hbegin).1]
  exact hfree

/-- A payment leaves the purchases of other seasons alone. -/
theorem Sound.pay (h : Sound s) (hphase : s.phase worker = .checked userId season)
    {pass : PassEntitlement} {spend : PointLedger} {order : ShopOrder}
    (hwritten : PassWritten s.committed db userId season.id pass spend order) :
    Sound (s.release worker db .idle) := by
  have hunsold : Unsold s.committed userId season.id := by
    have hfact := h.knows.facts worker
    rwa [hphase] at hfact
  refine ⟨h.knows.release (fun _ => id) trivial ?_, h.books.buy hunsold hwritten⟩
  intro phase hother hknows
  cases phase with
  | idle => trivial
  | checked userId' season' =>
    have hne : ¬(userId = userId' ∧ season.id = season'.id) := by
      rintro ⟨-, heq⟩
      refine hother season'.id rfl ?_
      rw [hphase]
      exact heq.symm
    refine ⟨?_, ?_⟩
    · rw [hwritten.passesOf, if_neg hne, List.append_nil]
      exact hknows.passes
    · rw [hwritten.passSpends, if_neg hne, List.append_nil]
      exact hknows.spends

theorem step_sound (h : Sound s) (a : SaleAction) : Sound (step terms users s a) := by
  cases a with
  | lockSeason worker userId seasonId now =>
    simp only [step, serve]
    split
    · rename_i hfree
      split
      · rename_i hbegin
        exact h.lockSeason hfree hbegin
      · exact h
      · exact h
    · exact h
  | pay worker draws now =>
    simp only [step, serve]
    split
    · rename_i hphase
      split
      · rename_i hbuy
        have hfact := h.knows.facts worker
        rw [hphase] at hfact
        obtain ⟨pass, spend, order, hwritten, -⟩ := buyPass_writes hfact hbuy
        exact h.pay hphase hwritten
      · exact h.giveUp
    · exact h
  | abort worker => exact h.giveUp
  | request a => exact h.change (.of_request terms s.committed a)
  | points call =>
    refine h.change ?_
    split
    · rename_i hrequest
      exact .of_pointStep s.committed hrequest
    · exact .refl _
  | approved item actorId draws now =>
    exact h.change (commitOr_keeps (.refl s.committed) fun _ _ => .of_executeApproved)
  | createSeason seasonId payload scope tierIds =>
    exact h.edit seasonId fun _ => createPassSeason_ok
  | updateSeason seasonId payload scope tierIds =>
    exact h.edit seasonId fun _ => updatePassSeason_ok
  | transitionSeason seasonId requiredStatus nextStatus =>
    exact h.edit seasonId fun _ => transitionPassSeasonStatus_ok
  | editProducts products => exact h.change (.of_same ⟨rfl, rfl, rfl⟩ ⟨rfl, rfl, rfl⟩)

theorem start_sound (db : ShopDb) : Sound (start db) := by
  refine ⟨⟨fun _ _ hholds => hholds.elim, fun _ => trivial⟩, ?_⟩
  refine ⟨by simp [start], by simp [start], ?_, fun _ _ => .inl ⟨rfl, rfl⟩⟩
  rintro orderId (⟨right, hright, -⟩ | ⟨grant, hgrant, -⟩)
  · cases hright
  · cases hgrant

theorem step_answered (h : Sound s) (a : SaleAction) : Answered terms users s a := by
  refine ⟨?_, ?_⟩
  · cases a with
    | lockSeason worker userId seasonId now =>
      simp only [step, serve]
      split
      · split
        · trivial
        · rename_i hbegin
          obtain ⟨hreplayed, hactive⟩ := replay_active hbegin
          simp only [Accords, hreplayed, if_true]
          exact ⟨trivial, hactive⟩
        · rfl
      · trivial
    | pay worker draws now =>
      simp only [step, serve]
      split
      · rename_i userId season hphase
        have hunsold := h.knows.facts worker
        rw [hphase] at hunsold
        split
        · rename_i db purchased hbuy
          obtain ⟨pass, spend, order, hwritten, hseason, hprice, hfirst⟩ :=
            buyPass_writes hunsold hbuy
          simp only [Accords, hfirst, hseason, hprice]
          exact hwritten.firstSale hunsold
        · rfl
      · trivial
    | abort | request | points | approved | createSeason | updateSeason | transitionSeason
    | editProducts => trivial
  · rintro worker rfl
    rfl

/-- From any tables before the first sale, in every order of purchases, payments, refunds and
edits: in every state every fan has an active pass exactly when its price was debited once with
one order; and a purchase that fails or repeats an earlier one changes nothing. -/
theorem passes_booked (terms : RewardId → ExchangeTerms) (users : List User) (db : ShopDb)
    (acts : List SaleAction) :
    Throughout (step terms users) (fun s => ∀ userId seasonId, Booked s.committed userId seasonId)
        (start db) acts ∧
      Always (step terms users) (Answered terms users) (start db) acts := by
  have hsteps : ∀ (s : PassSales) (a : SaleAction), Sound s → Sound (step terms users s a) :=
    fun _ a h => step_sound h a
  refine ⟨?_, ?_⟩
  · exact (throughout_of_step (start_sound db) hsteps).imp fun s h => h.books.booked
  · have hfree : Always (step terms users) (fun _ _ => True) (start db) acts :=
      always_iff_split.mpr fun _ _ _ _ => trivial
    exact hfree.of_invariant (start_sound db) (fun s a h _ => hsteps s a h)
      fun s a h _ => step_answered h a

end PassSales

end Fanfolio
