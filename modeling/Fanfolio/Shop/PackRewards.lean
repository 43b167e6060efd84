import Fanfolio.Framework.Run
import Fanfolio.Framework.Text
import Fanfolio.Pass.Reconcile
import Fanfolio.Shop.Refunds

/-!
# Packs among the rewards

A grant of a pack is of use once it has a right to open the pack. Events, orders and exchanges
make grants; a claim of a pass tier claims its grant and adds the right, while the claim of any
other grant and the repair of pass grants only write that the grant is claimed.
-/

namespace Fanfolio

open Framework

/-- SQL `LIKE`. -/
def likePattern : List Char → List Char → Bool
  | [], text => text.isEmpty
  | '%' :: pattern, text => text.tails.any fun rest => likePattern pattern rest
  | '_' :: pattern, text => match text with
    | [] => false
    | _ :: text => likePattern pattern text
  | '\\' :: c :: pattern, text => match text with
    | [] => false
    | c' :: text => c == c' && likePattern pattern text
  | c :: pattern, text => match text with
    | [] => false
    | c' :: text => c == c' && likePattern pattern text

/-- What the catalog row of a reward holds besides: its name, and the integer under `pointCost` in
its metadata, zero if nothing is there and none if it is no integer. -/
structure ExchangeTerms where
  name : String
  pointCost : Option Int
deriving DecidableEq, Repr

/-- The identifiers that an exchange draws; `nonce` stands in for a missing key. -/
structure ExchangeDraws where
  eventId : EventId
  ledgerId : LedgerId
  grantId : String
  nonce : String
deriving DecidableEq, Repr

/-- The grant of an earlier exchange under the same source. -/
def ShopDb.exchangedGrant (db : ShopDb) (userId : UserId) (sourceId : String) :
    Option RewardGrant :=
  (db.points.events.find? (·.hasSource userId "points_spent" "point_exchange" sourceId)).bind
    fun event => db.rewardGrants.find? fun row =>
      row.userId == userId && row.sourceEventId == event.id && row.revokedAt == none

/-- `exchange_points`; it answers with the grant. -/
def exchangePoints (terms : RewardId → ExchangeTerms) (db : ShopDb) (userId : UserId)
    (rewardId : RewardId) (key : Option String) (draws : ExchangeDraws) (now : Time) :
    Except Failure (ShopDb × RewardGrant) := do
  let reward ← orFail (db.rewards.find? fun row => row.id == rewardId && row.status == .published)
    (.app ⟨404, "REWARD_NOT_FOUND", "교환할 보상을 찾을 수 없습니다."⟩)
  let cost ← orFail (terms reward.id).pointCost
    (.app ⟨422, "REWARD_POINT_COST_INVALID", "보상 포인트 비용이 올바르지 않습니다."⟩)
  ensure (0 < cost) (.app ⟨409, "REWARD_NOT_EXCHANGEABLE", "포인트로 교환할 수 없는 보상입니다."⟩)
  let sourceId := userId ++ ":" ++ rewardId ++ ":" ++ (key.filter (· ≠ "")).getD draws.nonce
  match db.exchangedGrant userId sourceId with
  | some existing => return (db, existing)
  | none =>
    let (recorded, event) ← db.recordEvent userId "points_spent" "point_exchange" sourceId
      [("rewardId", .str reward.id), ("points", .num cost)] draws.eventId
    let (points, _) ← spendPoints recorded.points userId event.id ("point_exchange:" ++ reward.id)
      cost (some ((terms reward.id).name ++ " 교환")) (some [("rewardId", .str reward.id)])
      draws.ledgerId
    let grant : RewardGrant :=
      { id := draws.grantId, userId := userId, rewardId := reward.id, sourceEventId := event.id,
        ruleKey := "point_exchange:" ++ reward.id, grantedAt := now }
    ensure (∀ row ∈ recorded.rewardGrants, row.id ≠ grant.id) (.integrity "reward_grants_pkey")
    ensure (∀ row ∈ recorded.rewardGrants, row.entry.1 ≠ grant.entry.1)
      (.integrity "uq_reward_grant_event_rule")
    let exchanged : ShopDb :=
      { recorded.withPoints points with rewardGrants := recorded.rewardGrants ++ [grant] }
    return (exchanged, grant)

/-- The grants that `claim_mission_rewards` selects. -/
def ShopDb.missionGrants (db : ShopDb) (userId : UserId) (missionId : MissionId) :
    List RewardGrant :=
  db.rewardGrants.filter fun row =>
    row.userId == userId && likePattern ("mission:" ++ missionId ++ ":%").toList row.ruleKey.toList &&
      row.claimedAt == none && row.revokedAt == none

/-- The loop of `claim_mission_rewards`, which commits each claim; a failure ends it. -/
def claimGrants (userId : UserId) (now : Time) :
    List RewardGrant → ShopDb → ShopDb × Option Failure
  | [], db => (db, none)
  | grant :: grants, db =>
    match claimRewardGrant db userId grant.id now with
    | .ok claimed => claimGrants userId now grants claimed
    | .error e => (db, some e)

/-- `claim_mission_rewards`; `order` is the order its query answers in. -/
def claimMissionRewards (db : ShopDb) (userId : UserId) (missionId : MissionId)
    (order : List RewardGrant) (now : Time) : ShopDb × Option Failure :=
  if ∀ row ∈ db.missions, row.id ≠ missionId then
    (db, some (.app ⟨404, "MISSION_NOT_FOUND", "미션을 찾을 수 없습니다."⟩))
  else if db.missionGrants userId missionId = [] then
    (db, some (.app ⟨409, "MISSION_REWARD_NOT_READY", "수령할 미션 보상이 없습니다."⟩))
  else
    match claimGrants userId now (scan order (db.missionGrants userId missionId)) db with
    | (claimed, none) =>
      ({ claimed with
          progress := patch (fun row => row.userId == userId && row.missionId == missionId &&
              row.completedAt.isSome && row.claimedAt.isNone)
            ({ · with claimedAt := some now }) claimed.progress }, none)
    | (claimed, some e) => (claimed, some e)

/-- A request that grants, claims or takes back rewards. -/
inductive RewardAction where
  | record (userId : UserId) (kind sourceType sourceId : String) (payload : JsonObject)
      (eventId : EventId)
  /-- A worker processes an event, which may complete missions and achievements. -/
  | process (eventId : EventId) (readings : CardReadings) (draws : AttemptDraws)
  | order (userId : UserId) (payload : ShopOrderCreate) (key : String) (draws : OrderDraws)
      (now : Time)
  | refund (userId : UserId) (orderId : OrderId) (key : String) (draws : RefundDraws) (now : Time)
  | exchange (userId : UserId) (rewardId : RewardId) (key : Option String) (draws : ExchangeDraws)
      (now : Time)
  | claimTier (userId : UserId) (tierId : TierId) (track : PassTrack) (draws : ClaimDraws)
      (now : Time)
  | reconcile (userId : UserId) (order : List PassTier) (draws : TierId → RepairDraws) (now : Time)
  | claimReward (userId : UserId) (grantId : String) (now : Time)
  | claimMission (userId : UserId) (missionId : MissionId) (order : List RewardGrant) (now : Time)

namespace PackRewards

def orKeep (db : ShopDb) : Except Failure ShopDb → ShopDb
  | .ok db' => db'
  | .error _ => db

variable (terms : RewardId → ExchangeTerms)

/-- The tables after one request; a request that fails is rolled back. -/
def step (db : ShopDb) : RewardAction → ShopDb
  | .record userId kind sourceType sourceId payload eventId =>
    commitOr db (db.recordEvent userId kind sourceType sourceId payload eventId)
  | .process eventId readings draws =>
    match db.findEvent eventId with
    | some event => orKeep db ((fun growth => { db with toGrowthDb := growth }) <$>
        attemptEvent db.toGrowthDb event readings draws)
    | none => db
  | .order userId payload key draws now =>
    commitOr db (createShopOrder db userId payload key draws now)
  | .refund userId orderId key draws now =>
    commitOr db (refundShopOrder db userId orderId key draws now)
  | .exchange userId rewardId key draws now =>
    commitOr db (exchangePoints terms db userId rewardId key draws now)
  | .claimTier userId tierId track draws now =>
    orKeep db ((fun pass => { db with toPassDb := pass }) <$>
      claimPassTier db.toPassDb userId tierId track draws now)
  | .reconcile userId order draws now =>
    orKeep db ((fun result => { db with toPassDb := result.1 }) <$>
      reconcileClaimedGlobalPassRewardGrants db.toPassDb userId order draws now)
  | .claimReward userId grantId now => orKeep db (claimRewardGrant db userId grantId now)
  | .claimMission userId missionId order now =>
    (claimMissionRewards db userId missionId order now).1

/-- Any tables, before the first grant. -/
def start (db : ShopDb) : ShopDb := { db with rewardGrants := [], packEntitlements := [] }

/-- The reward of the catalog is a pack. -/
def IsPack (db : PassDb) (rewardId : RewardId) : Prop :=
  (db.rewards.find? (fun row => row.id == rewardId)).any (·.rewardType == .cardPack)

/-- The reward is a pack that can be claimed. -/
def GivesPack (db : PassDb) (rewardId : RewardId) : Prop :=
  (db.rewards.find? (fun row => row.id == rewardId)).any fun row =>
    row.rewardType == .cardPack && row.status == .published

/-- The packs that the rights of a grant open. -/
def rightsOf (db : PassDb) (grantId : String) : List PackId :=
  (db.packEntitlements.filter (·.sourceId == grantId)).map (·.packId)

/-- Every claimed grant of a pack has exactly one right, which opens that pack. -/
def Usable (db : PassDb) : Prop :=
  ∀ grant ∈ db.rewardGrants, grant.claimedAt ≠ none →
    ∀ reward, db.rewards.find? (fun row => row.id == grant.rewardId) = some reward →
      reward.rewardType = .cardPack → rightsOf db grant.id = [reward.cardPackId]

/-- Nobody claims a grant of a pack, other than by its pass tier; and no repair is made for a fan
who has claimed a tier with a pack. -/
def Careful (db : ShopDb) : RewardAction → Prop
  | .claimReward userId grantId _ => ∀ grant, db.claimableGrant userId grantId = some grant →
      grant.claimedAt = none → ¬GivesPack db.toPassDb grant.rewardId
  | .claimMission userId missionId _ _ => ∀ grant ∈ db.missionGrants userId missionId,
      ¬GivesPack db.toPassDb grant.rewardId
  | .reconcile userId order _ _ => ∀ tier ∈ db.claimedGlobalTiers userId order,
      ∀ rewardId, tier.rewardId = some rewardId → ¬IsPack db.toPassDb rewardId
  | _ => True

/-- Grants are added that nobody has claimed, under rules of the given kind. -/
structure Adds (rules : String → Prop) (db db' : GrowthDb) : Prop where
  rewards : db'.rewards = db.rewards
  grants : ∃ added, db'.rewardGrants = db.rewardGrants ++ added ∧
    ∀ grant ∈ added, grant.claimedAt = none ∧ rules grant.ruleKey
  ids : (db.rewardGrants.map (·.id)).Nodup → (db'.rewardGrants.map (·.id)).Nodup

/-- The rule is not that of a pass tier. -/
def NotOfTier (ruleKey : String) : Prop := ∀ rest, ruleKey ≠ "pass_tier:" ++ rest

structure Sound (db : PassDb) : Prop where
  ids : (db.rewardGrants.map (·.id)).Nodup
  source : ∀ row ∈ db.packEntitlements, ∃ grant ∈ db.rewardGrants, grant.id = row.sourceId
  usable : Usable db

/-- The grants of pass tiers are claimed as they are made. -/
def TiersClaimed (db : PassDb) : Prop :=
  ∀ grant ∈ db.rewardGrants, ∀ rest, grant.ruleKey = "pass_tier:" ++ rest → grant.claimedAt ≠ none

namespace Adds

variable {rules : String → Prop} {db db' db'' : GrowthDb} {userId : UserId} {eventId : EventId}
  {ruleKey : String} {amount : Int} {now : Time}

theorem of_same (hrewards : db'.rewards = db.rewards) (hgrants : db'.rewardGrants = db.rewardGrants) :
    Adds rules db db' :=
  ⟨hrewards, ⟨[], by simpa using hgrants, fun _ h => (nomatch h)⟩, by rw [hgrants]; exact id⟩

theorem refl (db : GrowthDb) : Adds rules db db := of_same rfl rfl

theorem trans (h : Adds rules db db') (h' : Adds rules db' db'') : Adds rules db db'' := by
  obtain ⟨added, hadded, hnew⟩ := h.grants
  obtain ⟨added', hadded', hnew'⟩ := h'.grants
  refine ⟨h'.rewards.trans h.rewards, ⟨added ++ added', ?_, ?_⟩, h'.ids ∘ h.ids⟩
  · rw [hadded', hadded, List.append_assoc]
  · intro grant hgrant
    rcases List.mem_append.mp hgrant with hmem | hmem
    · exact hnew grant hmem
    · exact hnew' grant hmem

theorem of_grantXp {ledgerId : LedgerId} {row : XpLedger}
    (h : grantXp db userId eventId ruleKey amount ledgerId now = .ok (db', row)) :
    Adds rules db db' := by
  obtain ⟨xpLedger, levels, rfl, -⟩ := grantXp_ok h
  exact of_same rfl rfl

theorem of_grantPoints {description : String} {metadata : JsonObject} {ledgerId : LedgerId}
    {row : PointLedger}
    (h : grantGrowthPoints db userId eventId ruleKey amount description metadata ledgerId =
      .ok (db', row)) : Adds rules db db' := by
  obtain ⟨balances, ledger, rfl, -⟩ := grantGrowthPoints_ok h
  exact of_same rfl rfl

theorem of_unlessZero {ρ : Type} {grant : Except Failure (GrowthDb × ρ)}
    (h : unlessZero amount db grant = .ok db')
    (hgrant : ∀ r, grant = .ok (db', r) → Adds rules db db') : Adds rules db db' := by
  rcases unlessZero_ok.mp h with ⟨-, rfl⟩ | ⟨-, r, hr⟩
  · exact refl db
  · exact hgrant r hr

theorem of_grantReward {rewardId : RewardId} {grantId : String} {row : RewardGrant}
    (hrule : rules ruleKey)
    (h : grantReward db userId rewardId eventId ruleKey grantId now = .ok (db', row)) :
    Adds rules db db' := by
  rcases grantReward_cases h with ⟨-, rfl⟩ | ⟨-, -, hfresh, rfl, rfl⟩
  · exact refl db'
  · refine ⟨rfl, ⟨_, rfl, ?_⟩, fun hnodup => nodup_insert hnodup hfresh⟩
    intro grant hgrant
    obtain rfl := List.mem_singleton.mp hgrant
    exact ⟨rfl, hrule⟩

end Adds

theorem notOfTier_mission (rest : String) : NotOfTier ("mission:" ++ rest) :=
  append_ne_append (by simp) rest

theorem notOfTier_achievement (rest : String) : NotOfTier ("achievement:" ++ rest) :=
  append_ne_append (by simp) rest

theorem notOfTier_order (orderId : OrderId) : NotOfTier (orderRule orderId) :=
  append_ne_append (by simp) orderId

theorem notOfTier_exchange (rest : String) : NotOfTier ("point_exchange:" ++ rest) :=
  append_ne_append (by simp) rest

section

variable {db db' : GrowthDb} {event : EngagementEvent} {readings : CardReadings}

theorem adds_kept (event : EngagementEvent) : KeptByWrites event NotOfTier (Adds NotOfTier) :=
  ⟨.trans, fun _ _ => .of_same rfl rfl, refreshPassProgress_rel fun _ _ => .of_same rfl rfl,
    fun _ => .of_grantXp, fun _ => .of_grantPoints, .of_grantReward⟩

theorem attemptEvent_adds {draws : AttemptDraws}
    (h : attemptEvent db event readings draws = .ok db') : Adds NotOfTier db db' := by
  obtain ⟨withXp, withPasses, hxp, hadds, rfl⟩ := (adds_kept event).of_attemptEvent
    notOfTier_mission notOfTier_achievement (fun _ _ => .of_same rfl rfl) h
  exact (Adds.of_unlessZero hxp fun _ => Adds.of_grantXp).trans (hadds.trans (.of_same rfl rfl))

end

section

variable {db db' : PassDb} {rules : String → Prop} {now : Time} {grant : RewardGrant}
  {grantId : String} {userId : UserId}

theorem Sound.adds (h : Sound db) (hadds : Adds rules db.toGrowthDb db'.toGrowthDb)
    (hrights : db'.packEntitlements = db.packEntitlements) : Sound db' := by
  obtain ⟨added, hadded, hnew⟩ := hadds.grants
  refine ⟨hadds.ids h.ids, ?_, ?_⟩
  · intro row hrow
    rw [hrights] at hrow
    obtain ⟨grant, hmem, hid⟩ := h.source row hrow
    exact ⟨grant, hadded ▸ List.mem_append_left _ hmem, hid⟩
  · intro grant hmem hclaimed reward hreward hpack
    rw [hadded, List.mem_append] at hmem
    rw [hadds.rewards] at hreward
    rw [rightsOf, hrights]
    rcases hmem with hold | hlast
    · exact h.usable grant hold hclaimed reward hreward hpack
    · exact absurd (hnew grant hlast).1 hclaimed

theorem TiersClaimed.adds (h : TiersClaimed db) (hadds : Adds NotOfTier db.toGrowthDb db'.toGrowthDb) :
    TiersClaimed db' := by
  obtain ⟨added, hadded, hnew⟩ := hadds.grants
  intro grant hmem rest hrule
  rw [hadded, List.mem_append] at hmem
  rcases hmem with hold | hlast
  · exact h grant hold rest hrule
  · exact absurd hrule ((hnew grant hlast).2 rest)

/-- Grants are rewritten, and those of packs are not claimed by it. -/
theorem Sound.patch (h : Sound db) {p : RewardGrant → Bool} {f : RewardGrant → RewardGrant}
    (hid : ∀ row, (f row).id = row.id) (hreward : ∀ row, (f row).rewardId = row.rewardId)
    (hpack : ∀ row ∈ db.rewardGrants, p row → (f row).claimedAt ≠ none → row.claimedAt = none →
      ¬IsPack db row.rewardId) :
    Sound { db with rewardGrants := Framework.patch p f db.rewardGrants } := by
  refine ⟨?_, ?_, ?_⟩
  · dsimp only
    rw [map_patch hid]
    exact h.ids
  · intro row hrow
    obtain ⟨grant, hmem, hsource⟩ := h.source row hrow
    refine ⟨_, mem_patch.mpr ⟨grant, hmem, rfl⟩, ?_⟩
    split
    · exact (hid grant).trans hsource
    · exact hsource
  · intro grant hmem hclaimed reward hfound htype
    obtain ⟨row, hrow, rfl⟩ := mem_patch.mp hmem
    by_cases hp : p row
    · rw [if_pos hp] at hclaimed hfound ⊢
      rw [hreward] at hfound
      rw [hid]
      refine h.usable row hrow ?_ reward hfound htype
      intro hnone
      refine hpack row hrow hp hclaimed hnone ?_
      simp [IsPack, hfound, htype]
    · rw [if_neg hp] at hclaimed hfound ⊢
      exact h.usable row hrow hclaimed reward hfound htype

theorem TiersClaimed.patch (h : TiersClaimed db) {p : RewardGrant → Bool}
    {f : RewardGrant → RewardGrant} (hrule : ∀ row, (f row).ruleKey = row.ruleKey)
    (hkept : ∀ row, row.claimedAt ≠ none → (f row).claimedAt ≠ none) :
    TiersClaimed { db with rewardGrants := Framework.patch p f db.rewardGrants } := by
  intro grant hmem rest hgrant
  obtain ⟨row, hrow, rfl⟩ := mem_patch.mp hmem
  by_cases hp : p row
  · rw [if_pos hp] at hgrant ⊢
    exact hkept row (h row hrow rest ((hrule row).symm.trans hgrant))
  · rw [if_neg hp] at hgrant ⊢
    exact h row hrow rest hgrant

/-- A grant is claimed that is no pack, or was claimed before. -/
theorem Sound.claim (h : Sound db) (hmem : grant ∈ db.rewardGrants)
    (hpack : grant.claimedAt = none → ¬IsPack db grant.rewardId) :
    Sound (claimGrant db grant.id now) := by
  refine h.patch (by intro _; rfl) (by intro _; rfl) ?_
  intro row hrow hid _ hnone
  obtain rfl := eq_of_unique h.ids hrow hmem (beq_iff_eq.mp hid)
  exact hpack hnone

/-- A grant is claimed together with a right to open its pack. -/
theorem Sound.claimPack (h : Sound db) (hmem : grant ∈ db.rewardGrants) {right : PackEntitlement}
    (hsource : right.sourceId = grant.id)
    (hnone : ∀ row ∈ db.packEntitlements, row.sourceId ≠ grant.id)
    (hpack : ∀ reward, db.rewards.find? (fun row => row.id == grant.rewardId) = some reward →
      reward.rewardType = .cardPack → right.packId = reward.cardPackId) :
    Sound (claimGrant { db with packEntitlements := db.packEntitlements ++ [right] } grant.id
      now) := by
  refine ⟨?_, ?_, ?_⟩
  · dsimp only [claimGrant]
    rw [map_patch (by intro _; rfl)]
    exact h.ids
  · intro row hrow
    have hgrant : ∃ grant ∈ db.rewardGrants, grant.id = row.sourceId := by
      rcases List.mem_append.mp hrow with hold | hlast
      · exact h.source row hold
      · exact ⟨grant, hmem, by rw [List.mem_singleton.mp hlast, hsource]⟩
    obtain ⟨source, hsourceMem, hid⟩ := hgrant
    refine ⟨_, mem_patch.mpr ⟨source, hsourceMem, rfl⟩, ?_⟩
    split <;> exact hid
  · intro row' hmem' hclaimed reward hfound htype
    obtain ⟨row, hrow, rfl⟩ := mem_patch.mp hmem'
    have hrights : rightsOf (claimGrant
        { db with packEntitlements := db.packEntitlements ++ [right] } grant.id now) row.id =
          rightsOf db row.id ++ if row.id = grant.id then [right.packId] else [] := by
      simp only [rightsOf, claimGrant, List.filter_append, List.map_append, List.filter_cons,
        List.filter_nil, hsource]
      by_cases hid : row.id = grant.id
      · simp [hid]
      · simp [hid, Ne.symm hid]
    by_cases hid : row.id = grant.id
    · obtain rfl := eq_of_unique h.ids hrow hmem hid
      simp only [beq_self_eq_true, if_true] at hfound ⊢
      rw [hrights, if_pos rfl]
      have hempty : rightsOf db row.id = [] := by
        simp only [rightsOf, List.map_eq_nil_iff, List.filter_eq_nil_iff, beq_iff_eq]
        exact hnone
      rw [hempty, List.nil_append, hpack reward hfound htype]
    · rw [if_neg (by simpa using hid)] at hclaimed hfound ⊢
      rw [hrights, if_neg hid, List.append_nil]
      exact h.usable row hrow hclaimed reward hfound htype

/-- A tier that is recorded as claimed leaves the grants and the rights alone. -/
theorem recordTierClaimed_adds {tier : PassTier} {payload : JsonObject} {eventId : EventId}
    {event : EngagementEvent} {keep : Bool}
    (h : recordTierClaimed db userId tier payload eventId now keep = .ok (db', event)) :
    Adds NotOfTier db.toGrowthDb db'.toGrowthDb ∧ db'.packEntitlements = db.packEntitlements := by
  rw [(recordTierClaimed_ok h).1.frame]
  exact ⟨.of_same rfl rfl, rfl⟩

/-- The grant of a tier was claimed before, or is a new one of the reward. -/
theorem grantReward_tier (hclaimed : TiersClaimed db) {granted : GrowthDb} {rewardId : RewardId}
    {eventId : EventId} {rest : String}
    (h : grantReward db.toGrowthDb userId rewardId eventId ("pass_tier:" ++ rest) grantId now =
      .ok (granted, grant)) :
    grant ∈ granted.rewardGrants ∧
      (granted = db.toGrowthDb ∧ grant.claimedAt ≠ none ∨
        granted = { db.toGrowthDb with rewardGrants := db.rewardGrants ++ [grant] } ∧
          grant.rewardId = rewardId) := by
  have hkey := (grantReward_row h).1
  rcases grantReward_cases h with ⟨hfind, rfl⟩ | ⟨-, -, -, rfl, rfl⟩
  · obtain ⟨hmem, -⟩ := mem_of_find_eq_some (g := fun row : RewardGrant => row.entry.1) hfind
    simp only [RewardGrant.entry, Prod.mk.injEq] at hkey
    exact ⟨hmem, .inl ⟨rfl, hclaimed _ hmem rest hkey.2.2⟩⟩
  · exact ⟨List.mem_append_right _ List.mem_cons_self, .inr ⟨rfl, rfl⟩⟩

/-- The grant of a tier is claimed at once. -/
theorem TiersClaimed.claim (h : TiersClaimed db) {granted : GrowthDb}
    (hgranted : granted = db.toGrowthDb ∨
      granted = { db.toGrowthDb with rewardGrants := db.rewardGrants ++ [grant] })
    {rights : List PackEntitlement} :
    TiersClaimed (claimGrant { db with toGrowthDb := granted, packEntitlements := rights }
      grant.id now) := by
  intro row hmem rest hrule
  obtain ⟨old, hold, rfl⟩ := mem_patch.mp hmem
  by_cases hid : old.id = grant.id
  · rw [if_pos (by simpa using hid)]
    exact Option.some_ne_none now
  · rw [if_neg (by simpa using hid)] at hrule ⊢
    rcases hgranted with rfl | rfl
    · exact h old hold rest hrule
    · rcases List.mem_append.mp hold with hmem | hlast
      · exact h old hmem rest hrule
      · exact absurd (congrArg RewardGrant.id (List.mem_singleton.mp hlast)) hid

theorem deliverTierReward_sound {tier : PassTier} {track : PassTrack} {event : EngagementEvent}
    {draws : ClaimDraws} (h : Sound db) (hclaimed : TiersClaimed db)
    (hdeliver : deliverTierReward db userId tier track event draws now = .ok db') :
    Sound db' ∧ TiersClaimed db' := by
  unfold deliverTierReward at hdeliver
  split at hdeliver
  · obtain rfl := Except.ok.inj hdeliver
    exact ⟨h, hclaimed⟩
  · rename_i rewardId _
    simp only [bind_ok, Prod.exists] at hdeliver
    obtain ⟨granted, grant, hgrant, hdeliver⟩ := hdeliver
    rw [PassTier.claimRule, String.append_assoc, String.append_assoc] at hgrant
    obtain ⟨hmem, hrow⟩ := grantReward_tier hclaimed hgrant
    have hadded : Adds (fun _ => True) db.toGrowthDb granted := .of_grantReward trivial hgrant
    have hgranted : Sound { db with toGrowthDb := granted } := h.adds hadded rfl
    have htiers : granted = db.toGrowthDb ∨
        granted = { db.toGrowthDb with rewardGrants := db.rewardGrants ++ [grant] } :=
      hrow.imp And.left And.left
    split at hdeliver
    · rename_i hnone
      obtain rfl := pure_ok.mp hdeliver
      refine ⟨hgranted, ?_⟩
      rcases (grantReward_row hgrant).2 with ⟨hsame, -⟩ | ⟨rfl, -, reward, hreward⟩
      · rw [hsame]
        exact hclaimed
      · exact absurd (hreward.symm.trans hnone) (Option.some_ne_none _)
    · rename_i reward hreward
      split at hdeliver
      · rename_i htype
        simp only [bind_ok, orFail_ok, ensure_ok, exists_const, pure_ok] at hdeliver
        obtain ⟨pack, hpack, -, hfree, rfl⟩ := hdeliver
        refine ⟨hgranted.claimPack hmem rfl hfree ?_, hclaimed.claim htiers⟩
        intro reward' hreward' htype'
        have hpackId : pack.id = reward.cardPackId := by
          have := List.find?_some hpack
          simp only [Bool.and_eq_true, beq_iff_eq] at this
          exact this.1
        rcases hrow with ⟨rfl, hold⟩ | ⟨rfl, rfl⟩
        · have hright := h.usable grant hmem hold reward' hreward' htype'
          have hempty : rightsOf db grant.id = [] := by
            simp only [rightsOf, List.map_eq_nil_iff, List.filter_eq_nil_iff, beq_iff_eq]
            exact hfree
          exact absurd (hempty.symm.trans hright) (by simp)
        · obtain rfl := Option.some.inj (hreward.symm.trans hreward')
          exact hpackId
      · rename_i htype
        obtain rfl := pure_ok.mp hdeliver
        refine ⟨hgranted.claim hmem ?_, hclaimed.claim htiers⟩
        intro hnone
        rcases hrow with ⟨rfl, hold⟩ | ⟨rfl, rfl⟩
        · exact absurd hnone hold
        · simpa [IsPack, hreward] using htype

theorem claimPassTier_sound {tierId : TierId} {track : PassTrack} {draws : ClaimDraws}
    (h : Sound db) (hclaimed : TiersClaimed db)
    (hclaim : claimPassTier db userId tierId track draws now = .ok db') :
    Sound db' ∧ TiersClaimed db' := by
  simp only [claimPassTier, bind_ok, Prod.exists] at hclaim
  obtain ⟨tier, season, -, refreshed, progress, hrefresh, hfinish⟩ := hclaim
  simp only [finishClaim, bind_ok, Prod.exists, ensure_ok, exists_const, pure_ok] at hfinish
  obtain ⟨-, -, -, recorded, event, hrecord, delivered, hdeliver, rfl⟩ := hfinish
  have hrefreshed : Adds NotOfTier db.toGrowthDb refreshed := by
    rw [refreshPassProgress_frame hrefresh]
    exact .of_same rfl rfl
  obtain ⟨hrecorded, hrights⟩ := recordTierClaimed_adds hrecord
  have hadds := hrefreshed.trans hrecorded
  obtain ⟨hsound, htiers⟩ := deliverTierReward_sound (h.adds hadds hrights)
    (hclaimed.adds hadds) hdeliver
  exact ⟨⟨hsound.ids, hsound.source, hsound.usable⟩, htiers⟩

/-- A repair for a tier without a pack. -/
theorem repairTier_sound {tier : PassTier} {draws : RepairDraws} {count : Nat} (h : Sound db)
    (hclaimed : TiersClaimed db)
    (hpack : ∀ rewardId, tier.rewardId = some rewardId → ¬IsPack db rewardId)
    (hrepair : repairTier db userId tier draws now = .ok (db', count)) :
    Sound db' ∧ TiersClaimed db' ∧ db'.rewards = db.rewards := by
  unfold repairTier at hrepair
  split at hrepair
  · obtain ⟨rfl, -⟩ := Prod.mk.inj (Except.ok.inj hrepair)
    exact ⟨h, hclaimed, rfl⟩
  · rename_i rewardId htier
    simp only [bind_ok, Prod.exists] at hrepair
    obtain ⟨recorded, event, hrecord, granted, grant, hgrant, hrepair⟩ := hrepair
    obtain ⟨hrecorded, hrights⟩ := recordTierClaimed_adds hrecord
    have hclaimed' := hclaimed.adds hrecorded
    obtain ⟨hmem, hrow⟩ := grantReward_tier hclaimed' hgrant
    have hrewards := hrecorded.rewards
    have hadded : Adds (fun _ => True) recorded.toGrowthDb granted :=
      .of_grantReward trivial hgrant
    have hgranted : Sound { recorded with toGrowthDb := granted } :=
      (h.adds hrecorded hrights).adds hadded rfl
    have hsame : granted.rewards = db.rewards := hadded.rewards.trans hrewards
    split at hrepair
    · rename_i at' hat
      obtain ⟨rfl, -⟩ := Prod.mk.inj (pure_ok.mp hrepair)
      refine ⟨hgranted, ?_, hsame⟩
      rcases (grantReward_row hgrant).2 with ⟨rfl, -⟩ | ⟨-, hnone, -⟩
      · exact hclaimed'
      · exact absurd (hat.symm.trans hnone) (Option.some_ne_none _)
    · rename_i hnone
      obtain ⟨rfl, -⟩ := Prod.mk.inj (pure_ok.mp hrepair)
      refine ⟨hgranted.claim hmem fun _ => ?_, hclaimed'.claim (hrow.imp And.left And.left), hsame⟩
      rcases hrow with ⟨-, hold⟩ | ⟨-, rfl⟩
      · exact absurd hnone hold
      · have htierPack := hpack _ htier
        rw [IsPack] at htierPack ⊢
        dsimp only
        rw [hsame]
        exact htierPack

theorem repairTiers_sound {tiers : List PassTier} {draws : TierId → RepairDraws} {count : Nat}
    (h : Sound db) (hclaimed : TiersClaimed db)
    (hpack : ∀ tier ∈ tiers, ∀ rewardId, tier.rewardId = some rewardId → ¬IsPack db rewardId)
    (hrepair : repairTiers userId draws now tiers db = .ok (db', count)) :
    Sound db' ∧ TiersClaimed db' := by
  induction tiers generalizing db count with
  | nil =>
    obtain ⟨rfl, -⟩ := Prod.mk.inj (Except.ok.inj hrepair)
    exact ⟨h, hclaimed⟩
  | cons tier tiers ih =>
    simp only [repairTiers, bind_ok, Prod.exists, pure_ok, Prod.mk.injEq] at hrepair
    obtain ⟨repaired, first, hfirst, _, rest, hrest, rfl, -⟩ := hrepair
    obtain ⟨hsound, htiers, hrewards⟩ := repairTier_sound h hclaimed
      (hpack tier List.mem_cons_self) hfirst
    refine ih hsound htiers ?_ hrest
    intro tier' hmem rewardId hreward
    rw [IsPack, hrewards]
    exact hpack tier' (List.mem_cons_of_mem _ hmem) rewardId hreward

end

section

variable {terms : RewardId → ExchangeTerms} {db db' : ShopDb} {userId : UserId} {now : Time}
  {draws : OrderDraws}

/-- What every request keeps. -/
def Kept (db : ShopDb) : Prop := Sound db.toPassDb ∧ TiersClaimed db.toPassDb

theorem Kept.adds (h : Kept db) (hadds : Adds NotOfTier db.toGrowthDb db'.toGrowthDb)
    (hrights : db'.packEntitlements = db.packEntitlements) : Kept db' :=
  ⟨h.1.adds hadds hrights, h.2.adds hadds⟩

/-- What holds before a request, and after it if it succeeds, holds in any case. -/
theorem orKeep_keeps {P : ShopDb → Prop} {x : Except Failure ShopDb} (h : P db)
    (hx : ∀ db', x = .ok db' → P db') : P (orKeep db x) := by
  cases x with
  | ok db' => exact hx db' rfl
  | error e => exact h

theorem deliverOrder_adds {product : ShopProduct} {orderId : OrderId} {eventId : EventId}
    (h : deliverOrder db userId product orderId eventId draws now = .ok db') :
    Adds NotOfTier db.toGrowthDb db'.toGrowthDb ∧ db'.packEntitlements = db.packEntitlements := by
  unfold deliverOrder at h
  split at h
  · simp only [ShopDb.insertEntitlement, bind_ok, ensure_ok, exists_const, pure_ok] at h
    obtain ⟨-, -, rfl⟩ := h
    exact ⟨.refl _, rfl⟩
  · simp only [bind_ok, Prod.exists, pure_ok] at h
    obtain ⟨granted, row, hgrant, rfl⟩ := h
    exact ⟨.of_grantReward (notOfTier_order orderId) hgrant, rfl⟩

theorem createShopOrder_adds {payload : ShopOrderCreate} {key : String} {answer : OrderAnswer}
    (h : createShopOrder db userId payload key draws now = .ok (db', answer)) :
    Adds NotOfTier db.toGrowthDb db'.toGrowthDb ∧ db'.packEntitlements = db.packEntitlements := by
  simp only [createShopOrder, bind_ok, ensure_ok, exists_const] at h
  obtain ⟨-, -, h⟩ := h
  split at h
  · simp only [bind_ok, ensure_ok, exists_const, pure_ok, Prod.mk.injEq] at h
    obtain ⟨-, rfl, -⟩ := h
    exact ⟨.refl _, rfl⟩
  · simp only [bind_ok, placeOrder, Prod.exists, pure_ok, Prod.mk.injEq] at h
    obtain ⟨product, -, ordered, horder, recorded, event, hrecord, spent, ledger, -, delivered,
      hdeliver, completed, hinsert, rfl, -⟩ := h
    obtain ⟨-, rfl⟩ := insertOrder_ok horder
    obtain ⟨events, rfl, -⟩ := recordEvent_ok hrecord
    obtain ⟨-, -, rfl⟩ := insertTransaction_ok hinsert
    obtain ⟨hadds, hrights⟩ := deliverOrder_adds hdeliver
    refine ⟨.trans (.trans ?_ hadds) ?_, hrights⟩
    · exact .of_same rfl rfl
    · exact .of_same rfl rfl

theorem exchangePoints_adds {rewardId : RewardId} {key : Option String} {draws : ExchangeDraws}
    {grant : RewardGrant}
    (h : exchangePoints terms db userId rewardId key draws now = .ok (db', grant)) :
    Adds NotOfTier db.toGrowthDb db'.toGrowthDb ∧ db'.packEntitlements = db.packEntitlements := by
  simp only [exchangePoints, bind_ok, ensure_ok, exists_const] at h
  obtain ⟨reward, -, cost, -, -, h⟩ := h
  split at h
  · obtain ⟨rfl, -⟩ := Prod.mk.inj (pure_ok.mp h)
    exact ⟨.refl _, rfl⟩
  · simp only [bind_ok, ensure_ok, exists_const, Prod.exists, pure_ok, Prod.mk.injEq] at h
    obtain ⟨recorded, event, hrecord, points, ledger, -, hfresh, -, rfl, rfl⟩ := h
    obtain ⟨events, rfl, -⟩ := recordEvent_ok hrecord
    refine ⟨⟨rfl, ⟨_, rfl, ?_⟩, fun hnodup => nodup_insert hnodup hfresh⟩, rfl⟩
    intro grant hgrant
    obtain rfl := List.mem_singleton.mp hgrant
    exact ⟨rfl, notOfTier_exchange _⟩

theorem Kept.revoke (h : Kept db) (item : RefundItem) (now : Time) : Kept (db.revoke item now) := by
  cases item with
  | entitlement row => exact h
  | grant row =>
    refine ⟨h.1.patch (by intro _; rfl) (by intro _; rfl) ?_, h.2.patch (by intro _; rfl) ?_⟩
    · intro old _ _ hclaimed hnone
      exact absurd hnone hclaimed
    · exact fun _ => id

theorem Kept.refund (h : Kept db) {orderId : OrderId} {key : String} {draws : RefundDraws}
    {balance : Int}
    (hrefund : refundShopOrder db userId orderId key draws now = .ok (db', balance)) : Kept db' := by
  rcases refundShopOrder_ok hrefund with ⟨ledger, -, rfl⟩ | ⟨order, -, -, -, horder⟩
  · exact h
  · simp only [refundOrder, bind_ok] at horder
    obtain ⟨ledgerId, -, item, -, hreverse⟩ := horder
    obtain ⟨points, rfl, -⟩ := reverseOrder_ok hreverse
    exact (h.revoke item now).adds (.of_same rfl rfl) rfl

/-- A claim of a grant that gives no pack, if it is not claimed already. -/
theorem Kept.claimReward (h : Kept db) {grantId : String}
    (hpack : ∀ grant, db.claimableGrant userId grantId = some grant →
      grant.claimedAt = none → ¬GivesPack db.toPassDb grant.rewardId)
    (hclaim : claimRewardGrant db userId grantId now = .ok db') : Kept db' := by
  simp only [claimRewardGrant, bind_ok, orFail_ok] at hclaim
  obtain ⟨grant, hfound, hlocked⟩ := hclaim
  have hpublished : (db.rewards.find? (fun row => row.id == grant.rewardId)).any
      (·.status == .published) := by
    simp only [claimLocked, bind_ok, ensure_ok, exists_const] at hlocked
    exact hlocked.1
  rcases claimLocked_ok hlocked with rfl | rfl
  · exact h
  · refine ⟨h.1.claim (List.mem_of_find?_eq_some hfound) ?_,
      h.2.patch (by intro _; rfl) fun _ _ => Option.some_ne_none now⟩
    intro hnone hisPack
    refine hpack grant hfound hnone ?_
    simp only [IsPack, Option.any_eq_true, beq_iff_eq] at hisPack hpublished
    obtain ⟨reward, hreward, htype⟩ := hisPack
    obtain ⟨reward', hreward', hstatus⟩ := hpublished
    obtain rfl := Option.some.inj (hreward.symm.trans hreward')
    simp [GivesPack, hreward, htype, hstatus]

/-- A claim rewrites grants, and leaves the rewards that they are of. -/
theorem claimRewardGrant_keeps {grantId : String}
    (hclaim : claimRewardGrant db userId grantId now = .ok db') :
    db'.rewards = db.rewards ∧ ∀ grant ∈ db'.rewardGrants, ∃ old ∈ db.rewardGrants,
      old.id = grant.id ∧ old.rewardId = grant.rewardId := by
  simp only [claimRewardGrant, bind_ok, orFail_ok] at hclaim
  obtain ⟨grant, -, hlocked⟩ := hclaim
  rcases claimLocked_ok hlocked with rfl | rfl
  · exact ⟨rfl, fun grant hgrant => ⟨grant, hgrant, rfl, rfl⟩⟩
  · refine ⟨rfl, fun row hrow => ?_⟩
    obtain ⟨old, hold, rfl⟩ := mem_patch.mp hrow
    refine ⟨old, hold, ?_⟩
    split <;> exact ⟨rfl, rfl⟩

/-- The loop claims no pack if no grant under one of its identifiers is one. -/
theorem Kept.claimGrants (h : Kept db) {grants : List RewardGrant}
    (hpack : ∀ grant ∈ grants, ∀ row ∈ db.rewardGrants, row.id = grant.id →
      ¬GivesPack db.toPassDb row.rewardId) : Kept (claimGrants userId now grants db).1 := by
  induction grants generalizing db with
  | nil => exact h
  | cons grant grants ih =>
    simp only [Fanfolio.claimGrants]
    split
    · rename_i claimed hclaim
      have hclaimed : Kept claimed := by
        refine h.claimReward ?_ hclaim
        intro row hfound _
        have hrow := List.find?_some hfound
        simp only [Bool.and_eq_true, beq_iff_eq] at hrow
        exact hpack grant List.mem_cons_self row (List.mem_of_find?_eq_some hfound) hrow.1.1
      obtain ⟨hrewards, hkeeps⟩ := claimRewardGrant_keeps hclaim
      refine ih hclaimed ?_
      intro grant' hmem row hrow hid
      obtain ⟨old, hold, hsame, hreward⟩ := hkeeps row hrow
      have hnot := hpack grant' (List.mem_cons_of_mem _ hmem) old hold (hsame.trans hid)
      rw [GivesPack] at hnot ⊢
      rw [← hreward, hrewards]
      exact hnot
    · exact h

theorem Kept.claimMission (h : Kept db) {missionId : MissionId} (order : List RewardGrant)
    (hpack : ∀ grant ∈ db.missionGrants userId missionId, ¬GivesPack db.toPassDb grant.rewardId) :
    Kept (claimMissionRewards db userId missionId order now).1 := by
  have hloop : Kept (Fanfolio.claimGrants userId now
      (scan order (db.missionGrants userId missionId)) db).1 := by
    refine h.claimGrants ?_
    intro grant hmem row hrow hid
    have hgrant := (scan_perm order _).mem_iff.mp hmem
    obtain rfl := eq_of_unique h.1.ids hrow (List.mem_of_mem_filter hgrant) hid
    exact hpack row hgrant
  unfold claimMissionRewards
  split
  · exact h
  · split
    · exact h
    · split
      · rename_i claimed hclaimed
        rw [hclaimed] at hloop
        exact hloop.adds (.of_same rfl rfl) rfl
      · rename_i claimed e hclaimed
        rw [hclaimed] at hloop
        exact hloop

theorem step_kept (h : Kept db) {a : RewardAction} (hcareful : Careful db a) :
    Kept (step terms db a) := by
  cases a with
  | record userId kind sourceType sourceId payload eventId =>
    refine commitOr_keeps h fun db' event hrecord => ?_
    obtain ⟨events, rfl, -⟩ := recordEvent_ok hrecord
    exact h.adds (.of_same rfl rfl) rfl
  | process eventId readings draws =>
    simp only [step]
    split
    · refine orKeep_keeps h fun db' hattempt => ?_
      obtain ⟨growth, hgrowth, rfl⟩ := map_ok.mp hattempt
      exact h.adds (attemptEvent_adds hgrowth) rfl
    · exact h
  | order userId payload key draws now =>
    refine commitOr_keeps h fun db' answer horder => ?_
    obtain ⟨hadds, hrights⟩ := createShopOrder_adds horder
    exact h.adds hadds hrights
  | refund userId orderId key draws now =>
    exact commitOr_keeps h fun db' balance hrefund => h.refund hrefund
  | exchange userId rewardId key draws now =>
    refine commitOr_keeps h fun db' grant hexchange => ?_
    obtain ⟨hadds, hrights⟩ := exchangePoints_adds hexchange
    exact h.adds hadds hrights
  | claimTier userId tierId track draws now =>
    refine orKeep_keeps h fun db' hclaim => ?_
    obtain ⟨pass, hpass, rfl⟩ := map_ok.mp hclaim
    exact claimPassTier_sound h.1 h.2 hpass
  | reconcile userId order draws now =>
    refine orKeep_keeps h fun db' hreconcile => ?_
    obtain ⟨⟨pass, count⟩, hpass, rfl⟩ := map_ok.mp hreconcile
    exact repairTiers_sound h.1 h.2 hcareful hpass
  | claimReward userId grantId now =>
    exact orKeep_keeps h fun db' hclaim => h.claimReward hcareful hclaim
  | claimMission userId missionId order now => exact h.claimMission order hcareful

theorem start_kept (db : ShopDb) : Kept (start db) := by
  refine ⟨⟨List.nodup_nil, ?_, ?_⟩, ?_⟩
  · exact fun _ h => (nomatch h)
  · exact fun _ h => (nomatch h)
  · exact fun _ h => (nomatch h)

/-- If packs are only claimed by their pass tiers, every claimed grant of a pack has its right in
every state. -/
theorem usable_of_careful {terms : RewardId → ExchangeTerms} {db : ShopDb}
    {acts : List RewardAction} (hcareful : Always (step terms) Careful (start db) acts) :
    Throughout (step terms) (fun db => Usable db.toPassDb) (start db) acts := by
  have hkept : Throughout (step terms) Kept (start db) acts :=
    hcareful.throughout (start_kept db) fun _ _ h hstep => step_kept h hstep
  exact hkept.imp fun _ h => h.1.usable

end

/-- A published pack that a tier and an exchange for 5 points give, and a fan with 100 points. -/
def packRewards : ShopDb :=
  let db := openShop [] [⟨"fan", 100⟩]
  { db with
    rewards := [{ id := "reward", rewardType := .cardPack, cardPackId := "pack"
                  status := .published }]
    cardPacks := [{ id := "pack", artistId := "artist" }]
    seasons := [{ id := "season", status := .published }]
    tiers := [{ id := "tier", seasonId := "season", tier := 1, requiredXp := 0
                rewardId := some "reward" }] }

def fivePoints (_ : RewardId) : ExchangeTerms := ⟨"Pack", some 5⟩

theorem usable_of_tier : Throughout (step fivePoints) (fun db => Usable db.toPassDb)
    (start packRewards)
    [.claimTier "fan" "tier" .free ⟨"ev", "grant", "right"⟩ 5,
      .exchange "fan" "reward" none ⟨"ev2", "ledger", "grant2", "nonce"⟩ 6,
      .claimReward "fan" "grant" 7] := by
  refine usable_of_careful ⟨trivial, trivial, ?_, trivial⟩
  intro grant hfound hnone
  obtain rfl := Option.some.inj (hfound.symm.trans rfl)
  cases hnone

/-- A grant of a pack is claimed after an exchange, or made by a repair, and has no right. -/
theorem pack_claimed_without_right :
    ¬Throughout (step fivePoints) (fun db => Usable db.toPassDb) (start packRewards)
      [.exchange "fan" "reward" none ⟨"ev", "ledger", "grant", "nonce"⟩ 5,
        .claimReward "fan" "grant" 6] ∧
    ¬Throughout (step fivePoints) (fun db => Usable db.toPassDb) (start packRewards)
      [.claimTier "fan" "tier" .free ⟨"ev", "grant", "right"⟩ 5,
        .reconcile "fan" [] (fun _ => ⟨"ev2", "grant2"⟩) 6] := by
  constructor
  · intro h
    have hright := h.last { id := "grant", userId := "fan", rewardId := "reward"
                            sourceEventId := "ev", ruleKey := "point_exchange:reward"
                            grantedAt := 5, claimedAt := some 6 } (by decide) (by decide)
      _ rfl rfl
    exact absurd hright (by decide)
  · intro h
    have hright := h.last { id := "grant2", userId := "fan", rewardId := "reward"
                            sourceEventId := "ev", ruleKey := "pass_tier:tier"
                            grantedAt := 6, claimedAt := some 6 } (by decide) (by decide)
      _ rfl rfl
    exact absurd hright (by decide)

end PackRewards

end Fanfolio
