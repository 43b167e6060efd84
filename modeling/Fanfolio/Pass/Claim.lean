import Fanfolio.Cards.Schema
import Fanfolio.Growth.Processing

/-!
# Claiming the tiers of a season pass

A fan claims the reward of a tier once on each track. The row of the fan in the season keeps
the identifiers of the tiers that were claimed.
-/

namespace Fanfolio

open Framework

/-- A row of `pass_tiers`. -/
structure PassTier where
  id : TierId
  seasonId : SeasonId
  tier : Nat
  requiredXp : Int
  rewardId : Option RewardId := none
  premiumRewardId : Option RewardId := none
deriving DecidableEq, Repr

inductive PassEntitlementStatus where
  | active
  | refunded
  | expired
deriving DecidableEq, Repr

/-- A row of `pass_entitlements`. -/
structure PassEntitlement where
  id : String
  userId : UserId
  seasonId : SeasonId
  pricePoints : Int
  status : PassEntitlementStatus := .active
  orderId : Option String := none
deriving DecidableEq, Repr

/-- The track of a claim; a request may name any other text. -/
inductive PassTrack where
  | free
  | premium
  | other (name : String)
deriving DecidableEq, Repr

def PassTrack.name : PassTrack → String
  | .free => "free"
  | .premium => "premium"
  | .other name => name

/-- The tables that claims and repairs of pass rewards read and write. -/
structure PassDb extends GrowthDb where
  tiers : List PassTier
  passEntitlements : List PassEntitlement
  cardPacks : List CardPack
  packEntitlements : List PackEntitlement
deriving DecidableEq, Repr

/-- What a claim draws. -/
structure ClaimDraws where
  eventId : EventId
  grantId : String
  entitlementId : String
deriving DecidableEq, Repr

/-- The claimed tiers of one track. -/
def PassProgress.claimedIds (progress : PassProgress) (track : PassTrack) : List TierId :=
  if track = .premium then progress.premiumClaimedTierIds else progress.claimedTierIds

/-- The claimed tiers of a fan in a season. -/
def claimedIn (rows : List PassProgress) (userId : UserId) (seasonId : SeasonId)
    (track : PassTrack) : List TierId :=
  ((rows.find? fun row => row.userId == userId && row.seasonId == seasonId).map
    (·.claimedIds track)).getD []

/-- Write the claimed tiers of one track. -/
def PassProgress.setClaimedIds (progress : PassProgress) (track : PassTrack)
    (claimedIds : List TierId) : PassProgress :=
  if track = .premium then { progress with premiumClaimedTierIds := claimedIds }
  else { progress with claimedTierIds := claimedIds }

/-- Write the columns that a claim writes. -/
def PassProgress.written (progress : PassProgress) (track : PassTrack) (claimedIds : List TierId)
    (currentXp : Int) (now : Time) : PassProgress :=
  { progress.setClaimedIds track claimedIds with currentXp := currentXp, updatedAt := now }

/-- The reward of a tier on a track. -/
def PassTier.reward (tier : PassTier) (track : PassTrack) : Option RewardId :=
  if track = .premium then tier.premiumRewardId else tier.rewardId

/-- The rule key that a claim grants the reward under. -/
def PassTier.claimRule (tier : PassTier) (track : PassTrack) : String :=
  "pass_tier:" ++ tier.id ++ ":" ++ track.name

/-- `_season_open_for_claim`. -/
def seasonOpenForClaim (season : PassSeason) (now : Time) : Bool :=
  season.startsAt.all (· ≤ now) && season.endsAt.all (now ≤ · + days 14)

namespace PassDb

def findTier (db : PassDb) (tierId : TierId) : Option PassTier :=
  db.tiers.find? (fun row => row.id == tierId)

def findSeason (db : PassDb) (seasonId : SeasonId) : Option PassSeason :=
  db.seasons.find? (fun row => row.id == seasonId)

/-- The row under the unique key `uq_pass_progress_user`. -/
def findPassProgress (db : PassDb) (userId : UserId) (seasonId : SeasonId) : Option PassProgress :=
  db.passProgress.find? (fun row => row.userId == userId && row.seasonId == seasonId)

end PassDb

/-- `record_engagement_event` of a claimed tier, which is processed at once. -/
def recordTierClaimed (db : PassDb) (userId : UserId) (tier : PassTier) (payload : JsonObject)
    (eventId : EventId) (now : Time) (keep : Bool) : Except Failure (PassDb × EngagementEvent) := do
  let (events, event) ← recordEngagementEvent db.points.events userId "pass_tier_claimed"
    "pass_tier" tier.id payload eventId
  let recorded : PassDb := { db with points := { db.points with events := events } }
  return ({ recorded with
      toGrowthDb := recorded.patchEvent event.id fun row =>
        { row with
          status := .processed
          processedAt := if keep then row.processedAt <|> some now else some now } }, event)

def claimGrant (db : PassDb) (grantId : String) (now : Time) : PassDb :=
  { db with
    rewardGrants := patch (·.id == grantId) ({ · with claimedAt := some now }) db.rewardGrants }

def passTierNotFound : Failure := .app ⟨404, "PASS_TIER_NOT_FOUND", "팬 패스 티어를 찾을 수 없습니다."⟩

/-- The reward part of `claim_pass_tier`: the grant, and the right to a pack if it is one. -/
def deliverTierReward (db : PassDb) (userId : UserId) (tier : PassTier) (track : PassTrack)
    (event : EngagementEvent) (draws : ClaimDraws) (now : Time) : Except Failure PassDb :=
  match tier.reward track with
  | none => .ok db
  | some rewardId => do
    let (granted, grant) ← grantReward db.toGrowthDb userId rewardId event.id
      (tier.claimRule track) draws.grantId now
    let delivered : PassDb := { db with toGrowthDb := granted }
    match delivered.rewards.find? (fun row => row.id == rewardId) with
    | none => return delivered
    | some reward =>
      if reward.rewardType = .cardPack then
        let pack ← orFail (delivered.cardPacks.find? fun row =>
            row.id == reward.cardPackId && row.status == .published)
          (.app ⟨409, "CARD_PACK_NOT_PUBLISHED", "카드팩 보상을 지금 수령할 수 없습니다."⟩)
        ensure (∀ row ∈ delivered.packEntitlements, row.id ≠ draws.entitlementId)
          (.integrity "reward_grant_card_pack_entitlements_pkey")
        ensure (∀ row ∈ delivered.packEntitlements, row.sourceId ≠ grant.id)
          (.integrity "uq_reward_grant_card_pack_entitlement_grant")
        let entitlement : PackEntitlement :=
          { id := draws.entitlementId, sourceId := grant.id, userId := userId, packId := pack.id,
            status := .available, createdAt := now }
        return claimGrant
          { delivered with packEntitlements := delivered.packEntitlements ++ [entitlement] }
          grant.id now
      else return claimGrant delivered grant.id now

/-- `claim_pass_tier` after it has loaded the row of the fan. -/
def finishClaim (db : PassDb) (userId : UserId) (tier : PassTier) (season : PassSeason)
    (track : PassTrack) (progress : PassProgress) (draws : ClaimDraws) (now : Time) :
    Except Failure PassDb := do
  ensure (track ≠ .premium ∨ (db.passEntitlements.any fun row =>
      row.userId == userId && row.seasonId == season.id && row.status == .active))
    (.app ⟨409, "PASS_PREMIUM_NOT_PURCHASED", "프리미엄 패스를 구매한 뒤 받을 수 있습니다."⟩)
  ensure (tier.id ∉ progress.claimedIds track)
    (.app ⟨409, "PASS_TIER_ALREADY_CLAIMED", "이미 수령한 팬 패스 티어입니다."⟩)
  ensure (tier.requiredXp ≤ progress.currentXp)
    (.app ⟨409, "PASS_TIER_LOCKED", "필요한 XP를 달성한 뒤 수령할 수 있습니다."⟩)
  let (recorded, event) ← recordTierClaimed db userId tier
    [("seasonId", .str season.id), ("requiredXp", .num tier.requiredXp), ("track", .str track.name)]
    draws.eventId now false
  let delivered ← deliverTierReward recorded userId tier track event draws now
  let claimedIds := progress.claimedIds track ++ [tier.id]
  return { delivered with
    passProgress := patch (·.id == progress.id)
      (·.written track claimedIds progress.currentXp now) delivered.passProgress }

/-- The checks of `claim_pass_tier` before it loads the row of the fan. -/
def checkClaim (db : PassDb) (tierId : TierId) (track : PassTrack) (now : Time) :
    Except Failure (PassTier × PassSeason) := do
  let tier ← orFail (db.findTier tierId) passTierNotFound
  let season ← orFail (db.findSeason tier.seasonId) passTierNotFound
  ensure (season.status = .published ∧ (track ≠ .premium ∨ season.premiumEnabled))
    passTierNotFound
  ensure (track = .free ∨ track = .premium)
    (.app ⟨422, "PASS_TRACK_INVALID", "팬 패스 보상 트랙을 확인해 주세요."⟩)
  ensure (seasonOpenForClaim season now)
    (.app ⟨409, "PASS_SEASON_CLAIM_CLOSED", "팬 패스 수령 기간이 지났습니다."⟩)
  return (tier, season)

/-- `claim_pass_tier`. -/
def claimPassTier (db : PassDb) (userId : UserId) (tierId : TierId) (track : PassTrack)
    (draws : ClaimDraws) (now : Time) : Except Failure PassDb := do
  let (tier, season) ← checkClaim db tierId track now
  let (refreshed, progress) ← refreshPassProgress db.toGrowthDb userId season now
  finishClaim { db with toGrowthDb := refreshed } userId tier season track progress draws now

section

variable {db db' : PassDb} {userId : UserId} {now : Time}

theorem written_key (progress : PassProgress) (track : PassTrack) (claimedIds : List TierId)
    (currentXp : Int) (now : Time) :
    (progress.written track claimedIds currentXp now).id = progress.id ∧
      (progress.written track claimedIds currentXp now).userId = progress.userId ∧
      (progress.written track claimedIds currentXp now).seasonId = progress.seasonId := by
  unfold PassProgress.written PassProgress.setClaimedIds
  split <;> exact ⟨rfl, rfl, rfl⟩

theorem claimedIds_written (progress : PassProgress) (track track' : PassTrack)
    (claimedIds : List TierId) (currentXp : Int) (now : Time) :
    (progress.written track claimedIds currentXp now).claimedIds track' =
      if track' = .premium ↔ track = .premium then claimedIds else progress.claimedIds track' := by
  unfold PassProgress.written PassProgress.setClaimedIds PassProgress.claimedIds
  by_cases h : track = .premium <;> by_cases h' : track' = .premium <;> simp [h, h']

/-- A refreshed row is the row of the fan, with the claimed tiers it had. -/
theorem refreshPassProgress_ok {db db' : GrowthDb} {season : PassSeason} {progress : PassProgress}
    (h : refreshPassProgress db userId season now = .ok (db', progress)) :
    (db'.passProgress.find? fun row => row.userId == userId && row.seasonId == season.id) =
        some progress ∧
      ((db.passProgress.map (·.id)).Nodup → (db'.passProgress.map (·.id)).Nodup) ∧
      ∀ userId' seasonId' track,
        claimedIn db'.passProgress userId' seasonId' track =
          claimedIn db.passProgress userId' seasonId' track := by
  simp only [refreshPassProgress, bind_ok, Prod.exists, pure_ok, Prod.mk.injEq] at h
  obtain ⟨created, row, hcreate, rfl, rfl⟩ := h
  have hcreated : (created.passProgress.find? fun row =>
        row.userId == userId && row.seasonId == season.id) = some row ∧
      ((db.passProgress.map (·.id)).Nodup → (created.passProgress.map (·.id)).Nodup) ∧
      ∀ userId' seasonId' track, claimedIn created.passProgress userId' seasonId' track =
        claimedIn db.passProgress userId' seasonId' track := by
    unfold getOrCreatePassProgress at hcreate
    split at hcreate
    · rename_i hfind
      obtain ⟨rfl, rfl⟩ := Prod.mk.inj (Except.ok.inj hcreate)
      exact ⟨hfind, id, fun _ _ _ => rfl⟩
    · rename_i hnone
      simp only [bind_ok, ensure_ok, exists_const, pure_ok, Prod.mk.injEq] at hcreate
      obtain ⟨hfresh, rfl, rfl⟩ := hcreate
      refine ⟨?_, fun hnodup => nodup_insert hnodup hfresh, ?_⟩
      · rw [find_insert, hnone]
        simp
      · intro userId' seasonId' track
        rw [claimedIn, claimedIn, find_insert]
        cases hfind : db.passProgress.find? fun row =>
            row.userId == userId' && row.seasonId == seasonId' with
        | some found => rfl
        | none =>
          rw [Option.none_or]
          split <;> simp [PassProgress.claimedIds]
  obtain ⟨hfind, hnodup, hclaimed⟩ := hcreated
  refine ⟨?_, ?_, ?_⟩
  · rw [find_patch (by intro _; rfl), hfind]
    simp
  · intro hids
    rw [map_patch (by intro _; rfl)]
    exact hnodup hids
  · intro userId' seasonId' track
    rw [← hclaimed, claimedIn, claimedIn, find_patch (by intro _; rfl), Option.map_map]
    congr 2
    funext found
    by_cases hid : found.id = row.id <;> simp [hid, PassProgress.claimedIds]

/-- A refresh returns the row of the fan as it was, or the new row, with other XP. -/
theorem refreshPassProgress_row {db db' : GrowthDb} {season : PassSeason} {progress : PassProgress}
    (h : refreshPassProgress db userId season now = .ok (db', progress)) :
    match db.passProgress.find? fun row => row.userId == userId && row.seasonId == season.id with
    | some row => progress.id = row.id ∧ ∀ track, progress.claimedIds track = row.claimedIds track
    | none => progress.id = passProgressId userId season.id ∧ progress.userId = userId ∧
        progress.seasonId = season.id ∧ (∀ track, progress.claimedIds track = []) ∧
        progress.id ∉ db.passProgress.map (·.id) := by
  simp only [refreshPassProgress, bind_ok, Prod.exists, pure_ok, Prod.mk.injEq] at h
  obtain ⟨created, row, hcreate, rfl, rfl⟩ := h
  unfold getOrCreatePassProgress at hcreate
  cases hfind : db.passProgress.find? fun row => row.userId == userId && row.seasonId == season.id with
  | some found =>
    simp only [hfind] at hcreate
    obtain ⟨-, rfl⟩ := Prod.mk.inj (Except.ok.inj hcreate)
    exact ⟨rfl, fun _ => rfl⟩
  | none =>
    simp only [hfind, bind_ok, ensure_ok, exists_const, pure_ok, Prod.mk.injEq] at hcreate
    obtain ⟨hfresh, -, rfl⟩ := hcreate
    refine ⟨rfl, rfl, rfl, fun track => ite_self _, ?_⟩
    intro hmem
    obtain ⟨row, hrow, hid⟩ := List.mem_map.mp hmem
    exact hfresh row hrow hid

theorem checkClaim_ok {tierId : TierId} {track : PassTrack} {tier : PassTier} {season : PassSeason}
    (h : checkClaim db tierId track now = .ok (tier, season)) :
    db.findTier tierId = some tier ∧ season.id = tier.seasonId ∧
      (track = .free ∨ track = .premium) := by
  simp only [checkClaim, bind_ok, orFail_ok, ensure_ok, exists_const, pure_ok, Prod.mk.injEq] at h
  obtain ⟨tier', htier, season', hseason, -, htrack, -, rfl, rfl⟩ := h
  exact ⟨htier, (mem_of_find_eq_some (g := PassSeason.id) hseason).2, htrack⟩

/-- The frame of a recorded tier, as far as the rows of the pass go. -/
theorem recordTierClaimed_frame {tier : PassTier} {payload : JsonObject} {eventId : EventId}
    {event : EngagementEvent} {keep : Bool}
    (h : recordTierClaimed db userId tier payload eventId now keep = .ok (db', event)) :
    db'.tiers = db.tiers ∧ db'.seasons = db.seasons ∧ db'.passProgress = db.passProgress := by
  simp only [recordTierClaimed, bind_ok, Prod.exists, pure_ok, Prod.mk.injEq] at h
  obtain ⟨events, event, -, rfl, -⟩ := h
  exact ⟨rfl, rfl, rfl⟩

theorem deliverTierReward_frame {tier : PassTier} {track : PassTrack} {event : EngagementEvent}
    {draws : ClaimDraws} (h : deliverTierReward db userId tier track event draws now = .ok db') :
    db'.tiers = db.tiers ∧ db'.seasons = db.seasons ∧ db'.passProgress = db.passProgress := by
  unfold deliverTierReward at h
  split at h
  · obtain rfl := Except.ok.inj h
    exact ⟨rfl, rfl, rfl⟩
  · simp only [bind_ok, Prod.exists] at h
    obtain ⟨granted, grant, hgrant, h⟩ := h
    obtain ⟨rewardGrants, rfl, -⟩ := grantReward_ok hgrant
    split at h
    · obtain rfl := pure_ok.mp h
      exact ⟨rfl, rfl, rfl⟩
    · split at h
      · simp only [bind_ok, orFail_ok, ensure_ok, exists_const, pure_ok] at h
        obtain ⟨pack, -, -, -, rfl⟩ := h
        exact ⟨rfl, rfl, rfl⟩
      · obtain rfl := pure_ok.mp h
        exact ⟨rfl, rfl, rfl⟩

/-- What a claim leaves: the list of its track is the one it has loaded, with the tier; every
other list stays. -/
structure TierClaimed (db db' : PassDb) (userId : UserId) (tier : PassTier) (season : PassSeason)
    (track : PassTrack) (progress : PassProgress) : Prop where
  new : tier.id ∉ progress.claimedIds track
  tiers : db'.tiers = db.tiers
  seasons : db'.seasons = db.seasons
  ids : db'.passProgress.map (·.id) = db.passProgress.map (·.id)
  rows : ∀ userId' seasonId',
    (db'.passProgress.find? fun row => row.userId == userId' && row.seasonId == seasonId').map
        (·.id) =
      (db.passProgress.find? fun row => row.userId == userId' && row.seasonId == seasonId').map
        (·.id)
  claimed : ∀ userId' seasonId' track',
    claimedIn db'.passProgress userId' seasonId' track' =
      if userId' = userId ∧ seasonId' = season.id ∧ (track' = .premium ↔ track = .premium) then
        progress.claimedIds track ++ [tier.id]
      else claimedIn db.passProgress userId' seasonId' track'

theorem finishClaim_ok {tier : PassTier} {season : PassSeason} {track : PassTrack}
    {progress row : PassProgress} {draws : ClaimDraws}
    (hids : (db.passProgress.map (·.id)).Nodup)
    (hrow : (db.passProgress.find? fun row => row.userId == userId && row.seasonId == season.id) =
      some row) (hid : row.id = progress.id)
    (h : finishClaim db userId tier season track progress draws now = .ok db') :
    TierClaimed db db' userId tier season track progress := by
  simp only [finishClaim, bind_ok, Prod.exists, ensure_ok, exists_const, pure_ok] at h
  obtain ⟨-, hnew, -, recorded, event, hrecord, delivered, hdeliver, rfl⟩ := h
  obtain ⟨htiers, hseasons, hrows⟩ := recordTierClaimed_frame hrecord
  obtain ⟨htiers', hseasons', hrows'⟩ := deliverTierReward_frame hdeliver
  have hprogress := hrows'.trans hrows
  have hkeys : ∀ userId' seasonId' (row : PassProgress),
      ((row.written track (progress.claimedIds track ++ [tier.id]) progress.currentXp now).userId ==
          userId' &&
        (row.written track (progress.claimedIds track ++ [tier.id]) progress.currentXp now).seasonId
          == seasonId') = (row.userId == userId' && row.seasonId == seasonId') := by
    intro userId' seasonId' row
    obtain ⟨-, huser, hseason⟩ := written_key row track (progress.claimedIds track ++ [tier.id])
      progress.currentXp now
    rw [huser, hseason]
  refine ⟨hnew, htiers'.trans htiers, hseasons'.trans hseasons, ?_, ?_, ?_⟩
  · dsimp only
    rw [map_patch fun row => (written_key row track _ _ now).1, hprogress]
  · intro userId' seasonId'
    dsimp only
    rw [find_patch (hkeys userId' seasonId'), hprogress, Option.map_map]
    congr 1
    funext found
    by_cases hfound : found.id = progress.id <;> simp [hfound, written_key]
  · intro userId' seasonId' track'
    rw [claimedIn, claimedIn]
    dsimp only
    rw [find_patch (hkeys userId' seasonId'), hprogress]
    by_cases hkey : userId' = userId ∧ seasonId' = season.id
    · obtain ⟨rfl, rfl⟩ := hkey
      simp [hrow, hid, claimedIds_written]
    · rw [if_neg fun hsame => hkey ⟨hsame.1, hsame.2.1⟩]
      cases hfind : db.passProgress.find? fun row =>
          row.userId == userId' && row.seasonId == seasonId' with
      | none => rfl
      | some found =>
        have hother : found.id ≠ progress.id := by
          intro hsame
          obtain rfl := eq_of_unique hids (List.mem_of_find?_eq_some hfind)
            (List.mem_of_find?_eq_some hrow) (hsame.trans hid.symm)
          have hfound := List.find?_some hfind
          have hfound' := List.find?_some hrow
          simp only [Bool.and_eq_true, beq_iff_eq] at hfound hfound'
          exact hkey ⟨hfound.1.symm.trans hfound'.1, hfound.2.symm.trans hfound'.2⟩
        simp [hother]

/-- A claim adds its tier to the list of its track, where it was not before. -/
theorem claimPassTier_ok {tierId : TierId} {track : PassTrack} {draws : ClaimDraws}
    (hids : (db.passProgress.map (·.id)).Nodup)
    (h : claimPassTier db userId tierId track draws now = .ok db') :
    ∃ tier, db.findTier tierId = some tier ∧ (track = .free ∨ track = .premium) ∧
      tier.id ∉ claimedIn db.passProgress userId tier.seasonId track ∧
      db'.tiers = db.tiers ∧ db'.seasons = db.seasons ∧ (db'.passProgress.map (·.id)).Nodup ∧
      ∀ userId' seasonId' track', claimedIn db'.passProgress userId' seasonId' track' =
        if userId' = userId ∧ seasonId' = tier.seasonId ∧ (track' = .premium ↔ track = .premium) then
          claimedIn db.passProgress userId tier.seasonId track ++ [tier.id]
        else claimedIn db.passProgress userId' seasonId' track' := by
  simp only [claimPassTier, bind_ok, Prod.exists] at h
  obtain ⟨tier, season, hcheck, refreshed, progress, hrefresh, hfinish⟩ := h
  obtain ⟨htier, hseason, htrack⟩ := checkClaim_ok hcheck
  obtain ⟨hrow, hnodup, hclaimed⟩ := refreshPassProgress_ok hrefresh
  have hdone := finishClaim_ok (hnodup hids) hrow rfl hfinish
  have hlist : progress.claimedIds track =
      claimedIn db.passProgress userId tier.seasonId track := by
    rw [← hclaimed, ← hseason, claimedIn, hrow]
    rfl
  refine ⟨tier, htier, htrack, hlist ▸ hdone.new, hdone.tiers, ?_, ?_, ?_⟩
  · rw [hdone.seasons, refreshPassProgress_frame hrefresh]
  · rw [hdone.ids]
    exact hnodup hids
  · intro userId' seasonId' track'
    rw [hdone.claimed, hlist, hseason]
    dsimp only
    rw [hclaimed]

end

/-- A global season with one tier, and a fan who has claimed some tiers. -/
def globalPass (claimedTierIds : List TierId) : PassDb :=
  { points := .opening [] [], xpLedger := [], levels := [], policies := [], thresholds := []
    rewards := [{ id := "badge", status := .published }]
    rewardGrants := [], missions := [], progress := [], achievements := []
    achievementProgress := []
    seasons := [{ id := "season", status := .published }]
    passProgress := [{ id := "row", userId := "fan", seasonId := "season",
                       claimedTierIds := claimedTierIds, updatedAt := 0 }]
    tiers := [{ id := "tier", seasonId := "season", tier := 1, requiredXp := 0,
                rewardId := some "badge" }]
    passEntitlements := [], cardPacks := [], packEntitlements := [] }

end Fanfolio
