import Fanfolio.Shop.PassSales

/-!
# What the pass shows and what can be claimed

A fan is shown which tiers of the open seasons can be claimed on which track. The view reads the
tables in its own way: it does not look at whether the premium track is still enabled, it says
nothing of the track for a tier without a premium reward, and the XP it compares can be that of
one artist.
-/

namespace Fanfolio

open Framework

/-- `refresh_pass_progress` with an artist for the seasons that are of none. -/
def refreshPassProgressFor (db : GrowthDb) (userId : UserId) (season : PassSeason)
    (artistId : Option String) (now : Time) : Except Failure (GrowthDb × PassProgress) :=
  refreshPassProgress db userId { season with artistId := season.artistId <|> artistId } now

/-- The premium part of a tier that is shown. -/
structure PremiumTierView where
  premiumRewardId : Option RewardId
  freeReward : Option RewardCatalog
  premiumReward : Option RewardCatalog
  premiumClaimed : Bool
  premiumClaimable : Bool
deriving DecidableEq, Repr

/-- A tier as it is shown. -/
structure PassTierView where
  id : TierId
  tier : Nat
  requiredXp : Int
  rewardId : Option RewardId
  claimed : Bool
  claimable : Bool
  reward : Option RewardCatalog
  premium : Option PremiumTierView
deriving DecidableEq, Repr

/-- A season as it is shown. -/
structure PassSeasonView where
  season : PassSeason
  isPurchased : Bool
  currentXp : Int
  claimedTierIds : List TierId
  tiers : List PassTierView
deriving DecidableEq, Repr

/-- The tier is shown as claimable on its premium track. -/
def PassTierView.premiumClaimable (view : PassTierView) : Bool :=
  view.premium.any (·.premiumClaimable)

/-- `reward_data`. -/
def rewardData (reward : Option RewardCatalog) : Option RewardCatalog :=
  reward.filter (·.status == .published)

/-- `_pass_tier_data`. -/
def passTierData (tier : PassTier) (progress : PassProgress)
    (freeReward premiumReward : Option RewardCatalog) (premiumPurchased : Bool) : PassTierView :=
  let claimed := progress.claimedTierIds.contains tier.id
  let premiumClaimed := progress.premiumClaimedTierIds.contains tier.id
  { id := tier.id, tier := tier.tier, requiredXp := tier.requiredXp, rewardId := tier.rewardId,
    claimed := claimed, claimable := !claimed && decide (tier.requiredXp ≤ progress.currentXp),
    reward := rewardData freeReward,
    premium := if premiumReward.isSome || tier.premiumRewardId.isSome then
      some { premiumRewardId := tier.premiumRewardId, freeReward := rewardData freeReward,
             premiumReward := rewardData premiumReward, premiumClaimed := premiumClaimed,
             premiumClaimable := premiumPurchased && !premiumClaimed &&
               decide (tier.requiredXp ≤ progress.currentXp) }
      else none }

/-- The earliest season first, one without a start last. -/
def PassSeason.precedes (season season' : PassSeason) : Bool :=
  match season.startsAt, season'.startsAt with
  | some startsAt, some startsAt' =>
    decide (startsAt < startsAt' ∨ startsAt = startsAt' ∧ season.id ≤ season'.id)
  | some _, none => true
  | none, some _ => false
  | none, none => decide (season.id ≤ season'.id)

namespace PassDb

def findReward (db : PassDb) (rewardId : RewardId) : Option RewardCatalog :=
  db.rewards.find? (fun row => row.id == rewardId)

/-- The fan has an active pass of the season. -/
def hasPass (db : PassDb) (userId : UserId) (seasonId : SeasonId) : Bool :=
  db.passEntitlements.any fun row =>
    row.userId == userId && row.seasonId == seasonId && row.status == .active

/-- The seasons that the view selects. -/
def viewedSeasons (db : PassDb) (artistId : Option String) (globalScope : Bool) :
    List PassSeason :=
  (db.seasons.filter fun season =>
    season.status == .published && (!season.isPaid || season.premiumEnabled) &&
      if globalScope then season.artistId.isNone
      else artistId.all (season.artistId == some ·)).insertionSort
    fun season season' => season.precedes season'

/-- The tiers of a season in the order of their numbers. -/
def seasonTiers (db : PassDb) (seasonId : SeasonId) : List PassTier :=
  (db.tiers.filter (·.seasonId == seasonId)).insertionSort fun tier tier' =>
    tier.tier < tier'.tier ∨ tier.tier = tier'.tier ∧ tier.id ≤ tier'.id

/-- One season of the view, for a fan with the given row. -/
def seasonData (db : PassDb) (userId : UserId) (season : PassSeason) (progress : PassProgress) :
    PassSeasonView :=
  { season := season, isPurchased := db.hasPass userId season.id,
    currentXp := progress.currentXp, claimedTierIds := progress.claimedTierIds,
    tiers := (db.seasonTiers season.id).map fun tier =>
      passTierData tier progress (tier.rewardId.bind db.findReward)
        (tier.premiumRewardId.bind db.findReward) (db.hasPass userId season.id) }

end PassDb

/-- The loop of `fan_pass_data`. -/
def seasonsData (userId : UserId) (artistId : Option String) (now : Time) :
    List PassSeason → PassDb → Except Failure (PassDb × List PassSeasonView)
  | [], db => .ok (db, [])
  | season :: seasons, db =>
    if seasonActiveForPassView season now then do
      let (growth, progress) ← refreshPassProgressFor db.toGrowthDb userId season artistId now
      let refreshed : PassDb := { db with toGrowthDb := growth }
      let (viewed, items) ← seasonsData userId artistId now seasons refreshed
      return (viewed, refreshed.seasonData userId season progress :: items)
    else seasonsData userId artistId now seasons db

/-- `fan_pass_data`. -/
def fanPassData (db : PassDb) (userId : UserId) (artistId : Option String) (globalScope : Bool)
    (now : Time) : Except Failure (PassDb × List PassSeasonView) :=
  seasonsData userId artistId now (db.viewedSeasons artistId globalScope) db

/-- Only rows of the pass tell the tables apart, and no list of claimed tiers. -/
structure Refreshed (db db' : GrowthDb) : Prop where
  frame : db' = { db with passProgress := db'.passProgress }
  ids : (db.passProgress.map (·.id)).Nodup → (db'.passProgress.map (·.id)).Nodup
  claimed : ∀ userId seasonId track, claimedIn db'.passProgress userId seasonId track =
    claimedIn db.passProgress userId seasonId track
  rows : ∀ userId seasonId,
    (db.passProgress.find? fun row => row.userId == userId && row.seasonId == seasonId).isSome →
    (db'.passProgress.find? fun row => row.userId == userId && row.seasonId == seasonId).isSome

namespace Refreshed

variable {db db' db'' : GrowthDb} {userId : UserId} {season : PassSeason} {now : Time}
  {progress : PassProgress}

theorem refl (db : GrowthDb) : Refreshed db db := ⟨rfl, id, fun _ _ _ => rfl, fun _ _ => id⟩

theorem trans (h : Refreshed db db') (h' : Refreshed db' db'') : Refreshed db db'' := by
  refine ⟨?_, h'.ids ∘ h.ids, ?_, fun userId seasonId => h'.rows userId seasonId ∘
    h.rows userId seasonId⟩
  · rw [h'.frame, h.frame]
  · intro userId seasonId track
    rw [h'.claimed, h.claimed]

theorem of_refresh (h : refreshPassProgress db userId season now = .ok (db', progress)) :
    Refreshed db db' := by
  obtain ⟨-, hids, hclaimed⟩ := refreshPassProgress_ok h
  refine ⟨refreshPassProgress_frame h, hids, hclaimed, ?_⟩
  intro userId' seasonId' hsome
  simp only [refreshPassProgress, bind_ok, Prod.exists, pure_ok, Prod.mk.injEq] at h
  obtain ⟨created, row, hcreate, rfl, -⟩ := h
  rw [find_patch (by intro _; rfl), Option.isSome_map]
  unfold getOrCreatePassProgress at hcreate
  split at hcreate
  · obtain ⟨rfl, -⟩ := Prod.mk.inj (Except.ok.inj hcreate)
    exact hsome
  · simp only [bind_ok, ensure_ok, exists_const, pure_ok, Prod.mk.injEq] at hcreate
    obtain ⟨-, rfl, -⟩ := hcreate
    rw [find_insert, Option.isSome_or, hsome, Bool.true_or]

theorem scopedUserXp (h : Refreshed db db') (userId : UserId) (artistId : Option String)
    (startsAt endsAt : Option Time) : Fanfolio.scopedUserXp db' userId artistId startsAt endsAt =
      Fanfolio.scopedUserXp db userId artistId startsAt endsAt := by
  rw [h.frame]
  rfl

end Refreshed

theorem refreshPassProgress_xp {db db' : GrowthDb} {userId : UserId} {season : PassSeason}
    {now : Time} {progress : PassProgress}
    (h : refreshPassProgress db userId season now = .ok (db', progress)) :
    progress.currentXp = scopedUserXp db userId season.artistId season.startsAt season.endsAt := by
  simp only [refreshPassProgress, bind_ok, Prod.exists, pure_ok, Prod.mk.injEq] at h
  obtain ⟨created, row, -, -, rfl⟩ := h
  rfl

/-- The row that a season is shown from. -/
structure ShownRow (db : PassDb) (userId : UserId) (artistId : Option String) (season : PassSeason)
    (progress : PassProgress) : Prop where
  xp : progress.currentXp = scopedUserXp db.toGrowthDb userId (season.artistId <|> artistId)
    season.startsAt season.endsAt
  claimed : ∀ track, progress.claimedIds track = claimedIn db.passProgress userId season.id track

theorem refreshPassProgressFor_ok {db db' : GrowthDb} {userId : UserId} {season : PassSeason}
    {artistId : Option String} {now : Time} {progress : PassProgress}
    (h : refreshPassProgressFor db userId season artistId now = .ok (db', progress)) :
    Refreshed db db' ∧
      (db'.passProgress.find? fun row => row.userId == userId && row.seasonId == season.id) =
        some progress ∧
      progress.currentXp = scopedUserXp db userId (season.artistId <|> artistId) season.startsAt
        season.endsAt := by
  unfold refreshPassProgressFor at h
  exact ⟨.of_refresh h, (refreshPassProgress_ok h).1, refreshPassProgress_xp h⟩

/-- A season is shown from the row of the fan, which is there from then on. -/
theorem seasonsData_ok {userId : UserId} {artistId : Option String} {now : Time}
    {seasons : List PassSeason} {db seen : PassDb} {items : List PassSeasonView}
    (h : seasonsData userId artistId now seasons db = .ok (seen, items)) :
    Refreshed db.toGrowthDb seen.toGrowthDb ∧ seen = { db with toGrowthDb := seen.toGrowthDb } ∧
      ∀ item ∈ items, ∃ season ∈ seasons, seasonActiveForPassView season now ∧
        (seen.findPassProgress userId season.id).isSome ∧
        ∃ progress, ShownRow db userId artistId season progress ∧
          item = db.seasonData userId season progress := by
  induction seasons generalizing db seen items with
  | nil =>
    obtain ⟨rfl, rfl⟩ := Prod.mk.inj (Except.ok.inj h)
    exact ⟨.refl _, rfl, by simp⟩
  | cons season seasons ih =>
    rw [seasonsData] at h
    split at h
    · rename_i hactive
      simp only [bind_ok, Prod.exists, pure_ok, Prod.mk.injEq] at h
      obtain ⟨growth, progress, hrefresh, viewed, rest, hrest, rfl, rfl⟩ := h
      obtain ⟨hrefreshed, hrow, hxp⟩ := refreshPassProgressFor_ok hrefresh
      obtain ⟨hviewed, hframe, hitems⟩ := ih hrest
      have hdata : ∀ season progress, ({ db with toGrowthDb := growth } : PassDb).seasonData userId
          season progress = db.seasonData userId season progress := by
        intro season progress
        rw [hrefreshed.frame]
        rfl
      refine ⟨hrefreshed.trans hviewed, by rw [hframe], ?_⟩
      intro item hitem
      rcases List.mem_cons.mp hitem with rfl | hitem
      · refine ⟨season, List.mem_cons_self, hactive, ?_, progress, ⟨hxp, ?_⟩, hdata _ _⟩
        · exact hviewed.rows userId season.id (by rw [hrow]; rfl)
        · intro track
          rw [← hrefreshed.claimed, claimedIn, hrow]
          rfl
      · obtain ⟨season', hseason', hactive', hsome, progress', hshown, rfl⟩ := hitems item hitem
        refine ⟨season', List.mem_cons_of_mem _ hseason', hactive', hsome, progress', ?_,
          hdata _ _⟩
        refine ⟨?_, ?_⟩
        · rw [hshown.xp]
          exact hrefreshed.scopedUserXp _ _ _ _
        · intro track
          rw [hshown.claimed]
          exact hrefreshed.claimed _ _ _
    · obtain ⟨hrefreshed, hframe, hitems⟩ := ih h
      refine ⟨hrefreshed, hframe, ?_⟩
      intro item hitem
      obtain ⟨season', hseason', hrest⟩ := hitems item hitem
      exact ⟨season', List.mem_cons_of_mem _ hseason', hrest⟩

/-- The reward can be granted, and its pack opened if it is one. -/
def RewardPublished (db : PassDb) (rewardId : RewardId) : Prop :=
  ∃ reward, db.findReward rewardId = some reward ∧ reward.status = .published ∧
    (reward.rewardType = .cardPack →
      ∃ pack ∈ db.cardPacks, pack.id = reward.cardPackId ∧ pack.status = .published)

/-- The identifiers that a claim draws are new. -/
structure NewDraws (db : PassDb) (draws : ClaimDraws) : Prop where
  events : ∀ row ∈ db.points.events, row.id ≠ draws.eventId
  grants : ∀ row ∈ db.rewardGrants, row.id ≠ draws.grantId
  rights : ∀ row ∈ db.packEntitlements, row.id ≠ draws.entitlementId
  sources : ∀ row ∈ db.packEntitlements, row.sourceId ≠ draws.grantId

section

variable {db : PassDb} {userId : UserId} {tier : PassTier} {season : PassSeason}
  {track : PassTrack} {draws : ClaimDraws} {now : Time}

/-- The reward of a tier is delivered if it is published and was not granted before. -/
theorem deliverTierReward_new (event : EngagementEvent)
    (hpublished : ∀ rewardId ∈ tier.reward track, RewardPublished db rewardId)
    (hgrants : ∀ row ∈ db.rewardGrants, row.id ≠ draws.grantId)
    (hrights : ∀ row ∈ db.packEntitlements, row.id ≠ draws.entitlementId)
    (hsources : ∀ row ∈ db.packEntitlements, row.sourceId ≠ draws.grantId)
    (hnone : ∀ grant ∈ db.rewardGrants, grant.userId = userId →
      grant.ruleKey ≠ tier.claimRule track) :
    ∃ db', deliverTierReward db userId tier track event draws now = .ok db' := by
  unfold deliverTierReward
  split
  · exact ⟨db, rfl⟩
  · rename_i rewardId hreward
    obtain ⟨reward, hfound, hstatus, hpack⟩ := hpublished rewardId hreward
    have hkey : db.rewardGrants.find? (fun row =>
        row.entry.1 == (userId, event.id, tier.claimRule track)) = none := by
      rw [find_eq_none_iff (g := fun row : RewardGrant => row.entry.1)]
      intro hmem
      obtain ⟨grant, hgrant, hentry⟩ := List.mem_map.mp hmem
      simp only [RewardGrant.entry, Prod.mk.injEq] at hentry
      exact hnone grant hgrant hentry.1 hentry.2.2
    rw [grantReward_new hkey hfound hstatus hgrants]
    simp only [bind, Except.bind]
    rw [show db.rewards.find? (fun row => row.id == rewardId) = some reward from hfound]
    dsimp only
    split
    · rename_i htype
      obtain ⟨pack, hmem, hid, hopen⟩ := hpack htype
      have hpackFound : (db.cardPacks.find? fun row =>
          row.id == reward.cardPackId && row.status == .published).isSome := by
        rw [List.find?_isSome]
        exact ⟨pack, hmem, by simp [hid, hopen]⟩
      obtain ⟨pack', hpack'⟩ := Option.isSome_iff_exists.mp hpackFound
      simp only [hpack', orFail, ensure, if_pos hrights, if_pos hsources]
      exact ⟨_, rfl⟩
    · exact ⟨_, rfl⟩

theorem finishClaim_ok_iff {progress : PassProgress}
    (hpublished : ∀ rewardId ∈ tier.reward track, RewardPublished db rewardId)
    (hdraws : NewDraws db draws)
    (hnone : tier.id ∉ progress.claimedIds track → ∀ grant ∈ db.rewardGrants,
      grant.userId = userId → grant.ruleKey ≠ tier.claimRule track) :
    (∃ after, finishClaim db userId tier season track progress draws now = .ok after) ↔
      (track = .premium → db.hasPass userId season.id) ∧ tier.id ∉ progress.claimedIds track ∧
        tier.requiredXp ≤ progress.currentXp := by
  constructor
  · rintro ⟨after, h⟩
    simp only [finishClaim, bind_ok, ensure_ok, exists_const] at h
    obtain ⟨hpass, hnew, hxp, -⟩ := h
    exact ⟨fun htrack => hpass.resolve_left (not_not_intro htrack), hnew, hxp⟩
  · rintro ⟨hpass, hnew, hxp⟩
    obtain ⟨⟨recorded, event⟩, hrecord⟩ := recordTierClaimed_fresh hdraws.events userId tier
      [("seasonId", .str season.id), ("requiredXp", .num tier.requiredXp),
        ("track", .str track.name)] now false
    have hframe := (recordTierClaimed_ok hrecord).1.frame
    obtain ⟨delivered, hdeliver⟩ : ∃ delivered,
        deliverTierReward recorded userId tier track event draws now = .ok delivered := by
      refine deliverTierReward_new event ?_ ?_ ?_ ?_ ?_ <;> rw [hframe]
      · exact hpublished
      · exact hdraws.grants
      · exact hdraws.rights
      · exact hdraws.sources
      · exact hnone hnew
    have hpass' := not_or_of_imp hpass
    simp only [PassDb.hasPass] at hpass'
    simp only [finishClaim, bind_ok, ensure_ok, exists_const, Prod.exists, pure_ok]
    exact ⟨_, hpass', hnew, hxp, recorded, event, hrecord, delivered, hdeliver, rfl⟩

theorem hasPass_iff : db.hasPass userId season.id ↔ ∃ row ∈ db.passEntitlements,
    row.userId = userId ∧ row.seasonId = season.id ∧ row.status = .active := by
  simp [PassDb.hasPass, and_assoc]

/-- When the row of the fan is there, a claim of a tier whose rewards are published goes through
the checks only. -/
theorem claimPassTier_ok_iff (htrack : track = .free ∨ track = .premium)
    (htier : db.findTier tier.id = some tier) (hseason : db.findSeason tier.seasonId = some season)
    (hrow : (db.findPassProgress userId season.id).isSome)
    (hpublished : ∀ rewardId ∈ tier.reward track, RewardPublished db rewardId)
    (hdraws : NewDraws db draws)
    (hnone : tier.id ∉ claimedIn db.passProgress userId season.id track →
      ∀ grant ∈ db.rewardGrants, grant.userId = userId → grant.ruleKey ≠ tier.claimRule track) :
    (∃ after, claimPassTier db userId tier.id track draws now = .ok after) ↔
      season.status = .published ∧ seasonOpenForClaim season now ∧
      (track = .premium → season.premiumEnabled ∧ db.hasPass userId season.id) ∧
      tier.id ∉ claimedIn db.passProgress userId season.id track ∧
      tier.requiredXp ≤ scopedUserXp db.toGrowthDb userId season.artistId season.startsAt
        season.endsAt := by
  obtain ⟨row, hfound⟩ := Option.isSome_iff_exists.mp hrow
  have hrefresh : ∃ r, refreshPassProgress db.toGrowthDb userId season now = .ok r := by
    rw [PassDb.findPassProgress] at hfound
    simp only [refreshPassProgress, getOrCreatePassProgress, hfound]
    exact ⟨_, rfl⟩
  obtain ⟨⟨refreshed, progress⟩, hrefresh⟩ := hrefresh
  have hkept := Refreshed.of_refresh hrefresh
  have hclaimed : progress.claimedIds track = claimedIn db.passProgress userId season.id track := by
    rw [← hkept.claimed, claimedIn, (refreshPassProgress_ok hrefresh).1]
    rfl
  have hfinish : (∃ after, finishClaim { db with toGrowthDb := refreshed } userId tier season track
      progress draws now = .ok after) ↔ (track = .premium → db.hasPass userId season.id) ∧
        tier.id ∉ progress.claimedIds track ∧ tier.requiredXp ≤ progress.currentXp := by
    refine finishClaim_ok_iff ?_ ⟨?_, ?_, ?_, ?_⟩ ?_ <;> rw [hkept.frame]
    · exact hpublished
    · exact hdraws.events
    · exact hdraws.grants
    · exact hdraws.rights
    · exact hdraws.sources
    · rw [hclaimed]
      exact hnone
  rw [hclaimed, refreshPassProgress_xp hrefresh] at hfinish
  constructor
  · rintro ⟨after, h⟩
    simp only [claimPassTier, bind_ok] at h
    obtain ⟨⟨tier', season'⟩, hcheck, ⟨_, _⟩, hrefresh', h⟩ := h
    simp only [checkClaim, bind_ok, orFail_ok, ensure_ok, exists_const, pure_ok,
      Prod.mk.injEq] at hcheck
    obtain ⟨_, htier', _, hseason', ⟨hstatus, hpremium⟩, -, hopen, rfl, rfl⟩ := hcheck
    obtain rfl := Option.some.inj (htier.symm.trans htier')
    obtain rfl := Option.some.inj (hseason.symm.trans hseason')
    obtain ⟨rfl, rfl⟩ := Prod.mk.inj (Except.ok.inj (hrefresh.symm.trans hrefresh'))
    obtain ⟨hpass, hnew, hxp⟩ := hfinish.mp ⟨after, h⟩
    refine ⟨hstatus, hopen, fun hp => ⟨?_, hpass hp⟩, hnew, hxp⟩
    exact hpremium.resolve_left (not_not_intro hp)
  · rintro ⟨hstatus, hopen, hpremium, hnew, hxp⟩
    obtain ⟨after, h⟩ := hfinish.mpr ⟨fun hp => (hpremium hp).2, hnew, hxp⟩
    have henabled : track ≠ .premium ∨ season.premiumEnabled :=
      not_or_of_imp fun hp => (hpremium hp).1
    have hcheck : checkClaim db tier.id track now = .ok (tier, season) := by
      simp only [checkClaim, bind_ok, orFail_ok, ensure_ok, exists_const, pure_ok]
      exact ⟨tier, htier, season, hseason, ⟨hstatus, henabled⟩, htrack, hopen, rfl⟩
    refine ⟨after, ?_⟩
    rw [claimPassTier, bind_ok]
    refine ⟨_, hcheck, ?_⟩
    rw [bind_ok]
    exact ⟨_, hrefresh, h⟩

end

/-- The rule is not that of a claimed tier. -/
def NotOfClaim (ruleKey : String) : Prop :=
  ∀ (tier : PassTier) (track : PassTrack), ruleKey ≠ tier.claimRule track

/-- The lists of claimed tiers stay, and no grant is made under the rule of a claimed tier. -/
structure KeepsClaims (db db' : GrowthDb) : Prop where
  seasons : db'.seasons = db.seasons
  ids : (db.passProgress.map (·.id)).Nodup → (db'.passProgress.map (·.id)).Nodup
  claimed : ∀ userId seasonId track, claimedIn db'.passProgress userId seasonId track =
    claimedIn db.passProgress userId seasonId track
  grants : ∀ grant ∈ db'.rewardGrants, NotOfClaim grant.ruleKey ∨
    ∃ old ∈ db.rewardGrants, old.userId = grant.userId ∧ old.ruleKey = grant.ruleKey

/-- The rows of passes stay as they are. -/
structure SamePass (db db' : PassDb) : Prop where
  seasons : db'.seasons = db.seasons
  tiers : db'.tiers = db.tiers
  progress : db'.passProgress = db.passProgress

theorem notOfClaim_of_tier {ruleKey : String} (h : PackRewards.NotOfTier ruleKey) :
    NotOfClaim ruleKey := by
  intro tier track
  rw [PassTier.claimRule, String.append_assoc, String.append_assoc]
  exact h _

theorem claimRule_toList (tier : PassTier) (track : PassTrack) : (tier.claimRule track).toList =
    "pass_tier:".toList ++ (tier.id.toList ++ ':' :: track.name.toList) := by
  simp [PassTier.claimRule]

/-- The rule of a repair is not that of a claim, as identifiers have no colon. -/
theorem repairRule_notOfClaim {tier : PassTier} (hplain : ':' ∉ tier.id.toList) :
    NotOfClaim tier.repairRule := by
  intro tier' track heq
  have hlists := congrArg String.toList heq
  rw [claimRule_toList, PassTier.repairRule, String.toList_append,
    List.append_cancel_left_eq] at hlists
  rw [hlists] at hplain
  simp at hplain

/-- Claims of different tiers and tracks have different rules. -/
theorem claimRule_injective {tier tier' : PassTier} {track track' : PassTrack}
    (htrack : track = .free ∨ track = .premium) (htrack' : track' = .free ∨ track' = .premium)
    (h : tier.claimRule track = tier'.claimRule track') : tier.id = tier'.id ∧ track = track' := by
  have hlists := congrArg String.toList h
  rw [claimRule_toList, claimRule_toList, List.append_cancel_left_eq] at hlists
  have hnames : track.name.toList = track'.name.toList := by
    refine append_mark_last hlists ?_ ?_
    · rcases htrack with rfl | rfl <;> decide
    · rcases htrack' with rfl | rfl <;> decide
  refine ⟨?_, ?_⟩
  · rw [hnames, List.append_cancel_right_eq] at hlists
    exact String.toList_inj.mp hlists
  · rcases htrack with rfl | rfl <;> rcases htrack' with rfl | rfl
    · rfl
    · exact absurd hnames (by decide)
    · exact absurd hnames (by decide)
    · rfl

namespace KeepsClaims

variable {db db' db'' : GrowthDb} {userId : UserId} {eventId : EventId} {ruleKey : String}
  {amount : Int} {now : Time} {event : EngagementEvent} {readings : CardReadings}

theorem trans (h : KeepsClaims db db') (h' : KeepsClaims db' db'') : KeepsClaims db db'' := by
  refine ⟨h'.seasons.trans h.seasons, h'.ids ∘ h.ids, ?_, ?_⟩
  · intro userId seasonId track
    rw [h'.claimed, h.claimed]
  · intro grant hgrant
    rcases h'.grants grant hgrant with hrule | ⟨old, hold, huser, hkey⟩
    · exact .inl hrule
    · exact huser ▸ hkey ▸ h.grants old hold

theorem of_same (hseasons : db'.seasons = db.seasons)
    (hprogress : db'.passProgress = db.passProgress) (hgrants : db'.rewardGrants = db.rewardGrants) :
    KeepsClaims db db' := by
  refine ⟨hseasons, by rw [hprogress]; exact id, fun _ _ _ => by rw [hprogress], ?_⟩
  intro grant hgrant
  exact .inr ⟨grant, hgrants ▸ hgrant, rfl, rfl⟩

theorem refl (db : GrowthDb) : KeepsClaims db db := of_same rfl rfl rfl

theorem of_refreshed (h : Refreshed db db') : KeepsClaims db db' := by
  refine ⟨?_, h.ids, h.claimed, ?_⟩
  · rw [h.frame]
  · intro grant hgrant
    rw [h.frame] at hgrant
    exact .inr ⟨grant, hgrant, rfl, rfl⟩

theorem of_adds {rules : String → Prop} (hrules : ∀ ruleKey, rules ruleKey → NotOfClaim ruleKey)
    (hseasons : db'.seasons = db.seasons) (hprogress : db'.passProgress = db.passProgress)
    (h : PackRewards.Adds rules db db') : KeepsClaims db db' := by
  refine ⟨hseasons, by rw [hprogress]; exact id, fun _ _ _ => by rw [hprogress], ?_⟩
  obtain ⟨added, hadded, hnew⟩ := h.grants
  intro grant hgrant
  rcases List.mem_append.mp (hadded ▸ hgrant) with hold | hlast
  · exact .inr ⟨grant, hold, rfl, rfl⟩
  · exact .inl (hrules _ (hnew grant hlast).2)

theorem of_grows (hseasons : db'.seasons = db.seasons)
    (hprogress : db'.passProgress = db.passProgress) (h : Grows NotOfClaim db db') :
    KeepsClaims db db' :=
  ⟨hseasons, by rw [hprogress]; exact id, fun _ _ _ => by rw [hprogress],
    fun _ => h.origin_user⟩

theorem of_grantXp {ledgerId : LedgerId} {row : XpLedger}
    (h : grantXp db userId eventId ruleKey amount ledgerId now = .ok (db', row)) :
    KeepsClaims db db' := by
  obtain ⟨xpLedger, levels, rfl, -⟩ := grantXp_ok h
  exact of_same rfl rfl rfl

theorem of_grantPoints {description : String} {metadata : JsonObject} {ledgerId : LedgerId}
    {row : PointLedger}
    (h : grantGrowthPoints db userId eventId ruleKey amount description metadata ledgerId =
      .ok (db', row)) : KeepsClaims db db' := by
  obtain ⟨balances, ledger, rfl, -⟩ := grantGrowthPoints_ok h
  exact of_same rfl rfl rfl

theorem of_grantReward {rewardId : RewardId} {grantId : String} {row : RewardGrant}
    (hrule : NotOfClaim ruleKey)
    (h : grantReward db userId rewardId eventId ruleKey grantId now = .ok (db', row)) :
    KeepsClaims db db' := by
  have hadds : PackRewards.Adds NotOfClaim db db' := .of_grantReward hrule h
  obtain ⟨rewardGrants, rfl, -⟩ := grantReward_ok h
  exact of_adds (fun _ => id) rfl rfl hadds

theorem kept (event : EngagementEvent) : KeptByWrites event NotOfClaim KeepsClaims :=
  ⟨.trans, fun _ _ => of_same rfl rfl rfl, fun h => of_refreshed (.of_refresh h),
    fun _ => of_grantXp, fun _ => of_grantPoints, of_grantReward⟩

theorem of_attemptEvent {draws : AttemptDraws}
    (h : attemptEvent db event readings draws = .ok db') : KeepsClaims db db' := by
  obtain ⟨withXp, withPasses, hxp, hkeeps, rfl⟩ := (kept event).of_attemptEvent
    (fun rest => notOfClaim_of_tier (PackRewards.notOfTier_mission rest))
    (fun rest => notOfClaim_of_tier (PackRewards.notOfTier_achievement rest))
    (fun _ _ => of_same rfl rfl rfl) h
  have hbase : KeepsClaims db withXp := by
    rcases unlessZero_ok.mp hxp with ⟨-, rfl⟩ | ⟨-, row, hgrant⟩
    · exact refl _
    · exact of_grantXp hgrant
  exact hbase.trans (hkeeps.trans (of_same rfl rfl rfl))

end KeepsClaims

theorem upsertPassProduct_frame (db : ShopDb) (season : PassSeason) (price : Int) :
    db.upsertPassProduct season price =
      { db with products := (db.upsertPassProduct season price).products } := by
  unfold ShopDb.upsertPassProduct
  dsimp only
  split <;> rfl

theorem activatePass_frame {db db' : ShopDb} {userId : UserId} {seasonId : SeasonId} {price : Int}
    {orderId : OrderId} {entitlementId : String}
    (h : db.activatePass userId seasonId price orderId entitlementId = .ok db') :
    ∃ passes, db' = { db with passEntitlements := passes } := by
  unfold ShopDb.activatePass at h
  split at h
  · exact ⟨_, (pure_ok.mp h).symm⟩
  · simp only [bind_ok, ensure_ok, exists_const, pure_ok] at h
    exact ⟨_, h.2.symm⟩

namespace SamePass

variable {db db' db'' : ShopDb} {userId : UserId} {now : Time}

theorem refl (db : PassDb) : SamePass db db := ⟨rfl, rfl, rfl⟩

theorem trans (h : SamePass db.toPassDb db'.toPassDb) (h' : SamePass db'.toPassDb db''.toPassDb) :
    SamePass db.toPassDb db''.toPassDb :=
  ⟨h'.seasons.trans h.seasons, h'.tiers.trans h.tiers, h'.progress.trans h.progress⟩

theorem of_recordEvent {kind sourceType sourceId : String} {payload : JsonObject}
    {eventId : EventId} {event : EngagementEvent}
    (h : db.recordEvent userId kind sourceType sourceId payload eventId = .ok (db', event)) :
    SamePass db.toPassDb db'.toPassDb := by
  obtain ⟨events, rfl, -⟩ := recordEvent_ok h
  exact ⟨rfl, rfl, rfl⟩

theorem of_insertTransaction {row : PointTransaction}
    (h : db.insertTransaction row = .ok db') : SamePass db.toPassDb db'.toPassDb := by
  obtain ⟨-, -, rfl⟩ := insertTransaction_ok h
  exact ⟨rfl, rfl, rfl⟩

theorem of_createShopOrder {payload : ShopOrderCreate} {key : String} {draws : OrderDraws}
    {answer : OrderAnswer}
    (h : createShopOrder db userId payload key draws now = .ok (db', answer)) :
    SamePass db.toPassDb db'.toPassDb := by
  simp only [createShopOrder, bind_ok, ensure_ok, exists_const] at h
  obtain ⟨-, -, h⟩ := h
  split at h
  · simp only [bind_ok, ensure_ok, exists_const, pure_ok, Prod.mk.injEq] at h
    obtain ⟨-, rfl, -⟩ := h
    exact refl _
  · simp only [bind_ok, placeOrder, Prod.exists, pure_ok, Prod.mk.injEq] at h
    obtain ⟨product, -, ordered, horder, recorded, event, hrecord, spent, ledger, -, delivered,
      hdeliver, completed, hinsert, rfl, -⟩ := h
    obtain ⟨-, rfl⟩ := insertOrder_ok horder
    obtain ⟨events, rfl, -⟩ := recordEvent_ok hrecord
    obtain ⟨-, -, rfl⟩ := insertTransaction_ok hinsert
    obtain ⟨right, -, rfl⟩ | ⟨grants, rfl⟩ := deliverOrder_ok hdeliver
    · exact ⟨rfl, rfl, rfl⟩
    · exact ⟨rfl, rfl, rfl⟩

theorem of_exchangePoints {terms : RewardId → ExchangeTerms} {rewardId : RewardId}
    {key : Option String} {draws : ExchangeDraws} {grant : RewardGrant}
    (h : exchangePoints terms db userId rewardId key draws now = .ok (db', grant)) :
    SamePass db.toPassDb db'.toPassDb := by
  simp only [exchangePoints, bind_ok, ensure_ok, exists_const] at h
  obtain ⟨reward, -, cost, -, -, h⟩ := h
  split at h
  · obtain ⟨rfl, -⟩ := Prod.mk.inj (pure_ok.mp h)
    exact refl _
  · simp only [bind_ok, ensure_ok, exists_const, Prod.exists, pure_ok, Prod.mk.injEq] at h
    obtain ⟨recorded, event, hrecord, points, ledger, -, -, -, rfl, -⟩ := h
    obtain ⟨events, rfl, -⟩ := recordEvent_ok hrecord
    exact ⟨rfl, rfl, rfl⟩

theorem of_claimRewardGrant {grantId : String}
    (h : claimRewardGrant db userId grantId now = .ok db') :
    SamePass db.toPassDb db'.toPassDb := by
  simp only [claimRewardGrant, bind_ok] at h
  obtain ⟨grant, -, hlocked⟩ := h
  rcases claimLocked_ok hlocked with rfl | rfl
  · exact refl _
  · exact ⟨rfl, rfl, rfl⟩

theorem of_claimGrants {grants : List RewardGrant} :
    SamePass db.toPassDb (claimGrants userId now grants db).1.toPassDb := by
  induction grants generalizing db with
  | nil => exact refl _
  | cons grant grants ih =>
    simp only [claimGrants]
    split
    · rename_i claimed hclaim
      exact (of_claimRewardGrant hclaim).trans ih
    · exact refl _

theorem of_claimMissionRewards {missionId : MissionId} {order : List RewardGrant} :
    SamePass db.toPassDb (claimMissionRewards db userId missionId order now).1.toPassDb := by
  have hloop : SamePass db.toPassDb (claimGrants userId now
    (scan order (db.missionGrants userId missionId)) db).1.toPassDb := of_claimGrants
  unfold claimMissionRewards
  split
  · exact refl _
  · split
    · exact refl _
    · split
      · rename_i claimed hclaimed
        rw [hclaimed] at hloop
        exact ⟨hloop.seasons, hloop.tiers, hloop.progress⟩
      · rename_i claimed e hclaimed
        rw [hclaimed] at hloop
        exact hloop

theorem of_refundOrder {order : ShopOrder} {source : RefundSource} {draws : RefundDraws}
    {balance : Int} (h : refundOrder db order source draws now = .ok (db', balance)) :
    SamePass db.toPassDb db'.toPassDb := by
  simp only [refundOrder, bind_ok] at h
  obtain ⟨ledgerId, -, item, -, hreverse⟩ := h
  obtain ⟨points, rfl, -⟩ := reverseOrder_ok hreverse
  cases item with
  | entitlement right => exact ⟨rfl, rfl, rfl⟩
  | grant grant => exact ⟨rfl, rfl, rfl⟩

theorem of_executeApprovedPointAdjustment {users : List User} {item : ApprovalRequest}
    {actorId : String} {draws : RefundDraws} {balance : Int}
    (h : executeApprovedPointAdjustment db users item actorId draws = .ok (db', balance)) :
    SamePass db.toPassDb db'.toPassDb := by
  simp only [executeApprovedPointAdjustment, bind_ok, ensure_ok, exists_const, Prod.exists,
    pure_ok, Prod.mk.injEq] at h
  obtain ⟨-, user, -, recorded, event, hrecord, points, ledger, -, completed, hinsert, rfl, -⟩ := h
  have hrecorded := of_recordEvent hrecord
  have hpaid : SamePass db.toPassDb (recorded.withPoints points).toPassDb :=
    ⟨hrecorded.seasons, hrecorded.tiers, hrecorded.progress⟩
  exact hpaid.trans (of_insertTransaction hinsert)

theorem of_buyPass {season : PassSeason} {draws : PurchaseDraws} {purchased : PassPurchased}
    (h : buyPass db userId season draws now = .ok (db', purchased)) :
    SamePass db.toPassDb db'.toPassDb ∧ db'.rewardGrants = db.rewardGrants := by
  simp only [buyPass, bind_ok, orFail_ok, Prod.exists, pure_ok, Prod.mk.injEq] at h
  obtain ⟨price, -, recorded, event, hrecord, spent, ledger, -, ordered, horder, activated,
    hactivate, rfl, -⟩ := h
  obtain ⟨events, rfl, -⟩ := recordEvent_ok hrecord
  obtain ⟨-, rfl⟩ := insertOrder_ok horder
  obtain ⟨passes, rfl⟩ := activatePass_frame hactivate
  refine ⟨⟨?_, ?_, ?_⟩, ?_⟩
  all_goals
    rw [upsertPassProduct_frame]
    rfl

end SamePass

/-- The tables as claims leave them: grants under the rules of claimed tiers are those of tiers in
the lists. -/
structure ClaimsListed (db : PassDb) : Prop where
  tiers : (db.tiers.map (·.id)).Nodup
  plain : ∀ tier ∈ db.tiers, ':' ∉ tier.id.toList
  seasons : (db.seasons.map (·.id)).Nodup
  ids : (db.passProgress.map (·.id)).Nodup
  listed : ∀ grant ∈ db.rewardGrants, ∀ tier ∈ db.tiers, ∀ track,
    (track = .free ∨ track = .premium) → grant.ruleKey = tier.claimRule track →
      tier.id ∈ claimedIn db.passProgress grant.userId tier.seasonId track

section

variable {db db' : PassDb} {userId : UserId} {now : Time}

theorem ClaimsListed.keep (h : ClaimsListed db) (hkeeps : KeepsClaims db.toGrowthDb db'.toGrowthDb)
    (htiers : db'.tiers = db.tiers) : ClaimsListed db' := by
  refine ⟨htiers ▸ h.tiers, htiers ▸ h.plain, hkeeps.seasons ▸ h.seasons, hkeeps.ids h.ids, ?_⟩
  intro grant hgrant tier htier track htrack hrule
  rw [htiers] at htier
  rw [hkeeps.claimed]
  rcases hkeeps.grants grant hgrant with hother | ⟨old, hold, huser, hkey⟩
  · exact absurd hrule (hother tier track)
  · exact huser ▸ h.listed old hold tier htier track htrack (hkey.trans hrule)

/-- A grant under the rule of a tier is none of another tier or track, so a claim that lists the
tier keeps the lists complete. -/
theorem ClaimsListed.claim (h : ClaimsListed db) {tierId : TierId} {track : PassTrack}
    {draws : ClaimDraws} (hclaim : claimPassTier db userId tierId track draws now = .ok db')
    (hgrants : ∀ tier, db.findTier tierId = some tier → ∀ grant ∈ db'.rewardGrants,
      (grant.userId = userId ∧ grant.ruleKey = tier.claimRule track) ∨
        ∃ old ∈ db.rewardGrants, old.userId = grant.userId ∧ old.ruleKey = grant.ruleKey) :
    ClaimsListed db' := by
  obtain ⟨tier, htier, htrack, -, htiers, hseasons, hids, hclaimed⟩ := claimPassTier_ok h.ids hclaim
  refine ⟨htiers ▸ h.tiers, htiers ▸ h.plain, hseasons ▸ h.seasons, hids, ?_⟩
  intro grant hgrant tier' htier' track' htrack' hrule
  rw [htiers] at htier'
  rw [hclaimed]
  have hmem := (mem_of_find_eq_some (g := PassTier.id) htier).1
  rcases hgrants tier htier grant hgrant with ⟨rfl, hnew⟩ | ⟨old, hold, huser, hkey⟩
  · obtain ⟨hid, rfl⟩ := claimRule_injective htrack htrack' (hnew.symm.trans hrule)
    obtain rfl := eq_of_unique h.tiers hmem htier' hid
    simp
  · have hlisted := h.listed old hold tier' htier' track' htrack' (hkey.trans hrule)
    rw [huser] at hlisted
    split
    · rename_i hsame
      obtain ⟨rfl, hseason, hpremium⟩ := hsame
      have hsame : track' = track := by
        rcases htrack with rfl | rfl <;> rcases htrack' with rfl | rfl <;> simp_all
      rw [hsame, hseason] at hlisted
      exact List.mem_append_left _ hlisted
    · exact hlisted

theorem grantReward_origin {db db' : GrowthDb} {rewardId : RewardId} {eventId : EventId}
    {ruleKey grantId : String} {row grant : RewardGrant}
    (h : grantReward db userId rewardId eventId ruleKey grantId now = .ok (db', row))
    (hgrant : grant ∈ db'.rewardGrants) : (grant.userId = userId ∧ grant.ruleKey = ruleKey) ∨
      ∃ old ∈ db.rewardGrants, old.userId = grant.userId ∧ old.ruleKey = grant.ruleKey := by
  obtain ⟨hkey, ⟨rfl, -⟩ | ⟨rfl, -⟩⟩ := grantReward_row h
  · exact .inr ⟨grant, hgrant, rfl, rfl⟩
  · rcases List.mem_append.mp hgrant with hold | hlast
    · exact .inr ⟨grant, hold, rfl, rfl⟩
    · obtain rfl := List.mem_singleton.mp hlast
      simp only [RewardGrant.entry, Prod.mk.injEq] at hkey
      exact .inl ⟨hkey.1, hkey.2.2⟩

theorem claimGrant_origin {grantId : String} {grant : RewardGrant}
    (hgrant : grant ∈ (claimGrant db grantId now).rewardGrants) :
    ∃ old ∈ db.rewardGrants, old.userId = grant.userId ∧ old.ruleKey = grant.ruleKey := by
  obtain ⟨old, hold, rfl⟩ := mem_patch.mp hgrant
  refine ⟨old, hold, ?_⟩
  split <;> exact ⟨rfl, rfl⟩

/-- What a tier delivers is granted to the fan under the rule of the claim. -/
theorem deliverTierReward_origin {tier : PassTier} {track : PassTrack} {event : EngagementEvent}
    {draws : ClaimDraws} (h : deliverTierReward db userId tier track event draws now = .ok db')
    {grant : RewardGrant} (hgrant : grant ∈ db'.rewardGrants) :
    (grant.userId = userId ∧ grant.ruleKey = tier.claimRule track) ∨
      ∃ old ∈ db.rewardGrants, old.userId = grant.userId ∧ old.ruleKey = grant.ruleKey := by
  unfold deliverTierReward at h
  split at h
  · obtain rfl := Except.ok.inj h
    exact .inr ⟨grant, hgrant, rfl, rfl⟩
  · simp only [bind_ok, Prod.exists] at h
    obtain ⟨granted, row, hrow, h⟩ := h
    split at h
    · obtain rfl := pure_ok.mp h
      exact grantReward_origin hrow hgrant
    · have hclaimed : ∃ old ∈ granted.rewardGrants,
          old.userId = grant.userId ∧ old.ruleKey = grant.ruleKey := by
        split at h
        · simp only [bind_ok, orFail_ok, ensure_ok, exists_const, pure_ok] at h
          obtain ⟨pack, -, -, -, rfl⟩ := h
          exact claimGrant_origin hgrant
        · obtain rfl := pure_ok.mp h
          exact claimGrant_origin hgrant
      obtain ⟨old, hold, huser, hkey⟩ := hclaimed
      rw [← huser, ← hkey]
      exact grantReward_origin hrow hold

theorem claimPassTier_origin {tierId : TierId} {track : PassTrack} {draws : ClaimDraws}
    (h : claimPassTier db userId tierId track draws now = .ok db') {tier : PassTier}
    (htier : db.findTier tierId = some tier) {grant : RewardGrant}
    (hgrant : grant ∈ db'.rewardGrants) :
    (grant.userId = userId ∧ grant.ruleKey = tier.claimRule track) ∨
      ∃ old ∈ db.rewardGrants, old.userId = grant.userId ∧ old.ruleKey = grant.ruleKey := by
  simp only [claimPassTier, bind_ok, Prod.exists] at h
  obtain ⟨tier', season, hcheck, refreshed, progress, hrefresh, hfinish⟩ := h
  obtain rfl := Option.some.inj (htier.symm.trans (checkClaim_ok hcheck).1)
  simp only [finishClaim, bind_ok, Prod.exists, ensure_ok, exists_const, pure_ok] at hfinish
  obtain ⟨-, -, -, recorded, event, hrecord, delivered, hdeliver, rfl⟩ := hfinish
  have hrecorded := (recordTierClaimed_ok hrecord).1.frame
  have horigin := deliverTierReward_origin hdeliver hgrant
  rw [hrecorded, refreshPassProgress_frame hrefresh] at horigin
  exact horigin

/-- A repair grants under a rule of its own. -/
theorem repairTier_keeps {tier : PassTier} {draws : RepairDraws} {count : Nat}
    (hplain : ':' ∉ tier.id.toList)
    (h : repairTier db userId tier draws now = .ok (db', count)) :
    KeepsClaims db.toGrowthDb db'.toGrowthDb ∧ db'.tiers = db.tiers := by
  unfold repairTier at h
  split at h
  · obtain ⟨rfl, -⟩ := Prod.mk.inj (Except.ok.inj h)
    exact ⟨.refl _, rfl⟩
  · simp only [bind_ok, Prod.exists] at h
    obtain ⟨recorded, event, hrecord, granted, grant, hgrant, h⟩ := h
    have hrecorded : KeepsClaims db.toGrowthDb recorded.toGrowthDb ∧ recorded.tiers = db.tiers := by
      rw [(recordTierClaimed_ok hrecord).1.frame]
      exact ⟨.of_same rfl rfl rfl, rfl⟩
    have hgranted := hrecorded.1.trans (.of_grantReward (repairRule_notOfClaim hplain) hgrant)
    split at h
    · obtain ⟨rfl, -⟩ := Prod.mk.inj (pure_ok.mp h)
      exact ⟨hgranted, hrecorded.2⟩
    · obtain ⟨rfl, -⟩ := Prod.mk.inj (pure_ok.mp h)
      exact ⟨hgranted.trans (.of_grows rfl rfl (.claimed _ now rfl rfl rfl)), hrecorded.2⟩

theorem repairTiers_keeps {tiers : List PassTier} {draws : TierId → RepairDraws} {count : Nat}
    (hplain : ∀ tier ∈ tiers, ':' ∉ tier.id.toList)
    (h : repairTiers userId draws now tiers db = .ok (db', count)) :
    KeepsClaims db.toGrowthDb db'.toGrowthDb ∧ db'.tiers = db.tiers := by
  induction tiers generalizing db count with
  | nil =>
    obtain ⟨rfl, -⟩ := Prod.mk.inj (Except.ok.inj h)
    exact ⟨.refl _, rfl⟩
  | cons tier tiers ih =>
    simp only [repairTiers, bind_ok, Prod.exists, pure_ok, Prod.mk.injEq] at h
    obtain ⟨repaired, first, hfirst, _, rest, hrest, rfl, -⟩ := h
    obtain ⟨hkeeps, htiers⟩ := repairTier_keeps (hplain tier List.mem_cons_self) hfirst
    obtain ⟨hkeeps', htiers'⟩ :=
      ih (fun tier' hmem => hplain tier' (List.mem_cons_of_mem _ hmem)) hrest
    exact ⟨hkeeps.trans hkeeps', htiers'.trans htiers⟩

/-- The identifiers drawn for tiers are new: they have no colon, and no grant is under a rule of
theirs. -/
def NewTiers (db : PassDb) (tierIds : Nat → TierId) : Prop :=
  ∀ index, ':' ∉ (tierIds index).toList ∧ ∀ tier : PassTier, tier.id = tierIds index →
    ∀ grant ∈ db.rewardGrants, ∀ track, grant.ruleKey ≠ tier.claimRule track

theorem ClaimsListed.addTiers (h : ClaimsListed db) {seasonId : SeasonId}
    {payload : PassSeasonCreate} {tierIds : Nat → TierId} (hnew : NewTiers db tierIds)
    (hadd : Fanfolio.addTiers db seasonId payload tierIds = .ok db') : ClaimsListed db' := by
  simp only [Fanfolio.addTiers, bind_ok, ensure_ok, exists_const, pure_ok] at hadd
  obtain ⟨hids, rfl⟩ := hadd
  have hdrawn : ∀ tier ∈ payload.rows seasonId tierIds, ∃ index, tier.id = tierIds index := by
    intro tier htier
    obtain ⟨⟨request, index⟩, -, rfl⟩ := List.mem_map.mp htier
    exact ⟨index, rfl⟩
  refine ⟨hids, ?_, h.seasons, h.ids, ?_⟩
  · intro tier htier
    rcases List.mem_append.mp htier with hold | hlast
    · exact h.plain tier hold
    · obtain ⟨index, hid⟩ := hdrawn tier hlast
      exact hid ▸ (hnew index).1
  · intro grant hgrant tier htier track htrack hrule
    rcases List.mem_append.mp htier with hold | hlast
    · exact h.listed grant hgrant tier hold track htrack hrule
    · obtain ⟨index, hid⟩ := hdrawn tier hlast
      exact absurd hrule ((hnew index).2 tier hid grant hgrant track)

theorem ClaimsListed.createSeason (h : ClaimsListed db) {seasonId : SeasonId}
    {payload : PassSeasonCreate} {scope : ScopeCheck} {tierIds : Nat → TierId}
    (hnew : NewTiers db tierIds)
    (hcreate : createPassSeason db seasonId payload scope tierIds = .ok db') : ClaimsListed db' := by
  simp only [createPassSeason, bind_ok, ensure_ok, exists_const] at hcreate
  obtain ⟨-, artistId, -, hfresh, hadd⟩ := hcreate
  refine ClaimsListed.addTiers ?_ ?_ hadd
  · exact ⟨h.tiers, h.plain, nodup_insert h.seasons hfresh, h.ids, h.listed⟩
  · exact hnew

theorem ClaimsListed.updateSeason (h : ClaimsListed db) {seasonId : SeasonId}
    {payload : PassSeasonCreate} {scope : ScopeCheck} {tierIds : Nat → TierId}
    (hnew : NewTiers db tierIds)
    (hupdate : updatePassSeason db seasonId payload scope tierIds = .ok db') : ClaimsListed db' := by
  simp only [updatePassSeason, bind_ok, ensure_ok, exists_const] at hupdate
  obtain ⟨-, season, -, artistId, -, hadd⟩ := hupdate
  refine ClaimsListed.addTiers ?_ ?_ hadd
  · refine ⟨nodup_delete _ h.tiers, ?_, ?_, h.ids, ?_⟩
    · exact fun tier htier => h.plain tier (List.mem_of_mem_filter htier)
    · dsimp only
      rw [map_patch (by intro _; rfl)]
      exact h.seasons
    · exact fun grant hgrant tier htier =>
        h.listed grant hgrant tier (List.mem_of_mem_filter htier)
  · exact hnew

theorem ClaimsListed.transition (h : ClaimsListed db) {seasonId : SeasonId}
    {requiredStatus nextStatus : DefinitionStatus}
    (htransition : transitionPassSeasonStatus db seasonId requiredStatus nextStatus = .ok db') :
    ClaimsListed db' := by
  simp only [transitionPassSeasonStatus, bind_ok, ensure_ok, exists_const, pure_ok] at htransition
  obtain ⟨season, -, -, rfl⟩ := htransition
  refine ⟨h.tiers, h.plain, ?_, h.ids, h.listed⟩
  dsimp only
  rw [map_patch (by intro _; rfl)]
  exact h.seasons

end

namespace ClaimsListed

variable {terms : RewardId → ExchangeTerms} {users : List User} {db db' : ShopDb}
  {userId : UserId} {now : Time}

/-- Requests that write no row of a pass, and grant under no rule of a claimed tier. -/
theorem grows (h : ClaimsListed db.toPassDb) (hsame : SamePass db.toPassDb db'.toPassDb)
    (hgrows : Grows NotOfClaim db.toGrowthDb db'.toGrowthDb) : ClaimsListed db'.toPassDb :=
  h.keep (.of_grows hsame.seasons hsame.progress hgrows) hsame.tiers

theorem adds (h : ClaimsListed db.toPassDb) (hsame : SamePass db.toPassDb db'.toPassDb)
    (hadds : PackRewards.Adds PackRewards.NotOfTier db.toGrowthDb db'.toGrowthDb) :
    ClaimsListed db'.toPassDb :=
  h.keep (.of_adds (fun _ => notOfClaim_of_tier) hsame.seasons hsame.progress hadds) hsame.tiers

theorem request (h : ClaimsListed db.toPassDb) (a : RewardAction) :
    ClaimsListed (PackRewards.step terms db a).toPassDb := by
  have hcommit : ∀ {α : Type} {x : Except Failure (ShopDb × α)},
      (∀ db' r, x = .ok (db', r) → ClaimsListed db'.toPassDb) →
      ClaimsListed (commitOr db x).toPassDb :=
    fun hx => commitOr_keeps (P := fun db' : ShopDb => ClaimsListed db'.toPassDb) h hx
  have hkeep : ∀ {x : Except Failure ShopDb},
      (∀ db', x = .ok db' → ClaimsListed db'.toPassDb) →
      ClaimsListed (PackRewards.orKeep db x).toPassDb :=
    fun hx => PackRewards.orKeep_keeps (P := fun db' : ShopDb => ClaimsListed db'.toPassDb) h hx
  cases a with
  | record =>
    exact hcommit fun _ _ hrecord => h.grows (.of_recordEvent hrecord) (recordEvent_grows hrecord)
  | process eventId readings draws =>
    simp only [PackRewards.step]
    split
    · refine hkeep fun db' hattempt => ?_
      obtain ⟨growth, hgrowth, rfl⟩ := map_ok.mp hattempt
      exact h.keep (.of_attemptEvent hgrowth) rfl
    · exact h
  | order =>
    exact hcommit fun _ _ horder =>
      h.adds (.of_createShopOrder horder) (PackRewards.createShopOrder_adds horder).1
  | refund =>
    refine hcommit fun db' balance hrefund => ?_
    rcases refundShopOrder_ok hrefund with ⟨ledger, -, rfl⟩ | ⟨order, -, -, -, horder⟩
    · exact h
    · exact h.grows (.of_refundOrder horder) (refundShopOrder_grows hrefund)
  | exchange =>
    exact hcommit fun _ _ hexchange =>
      h.adds (.of_exchangePoints hexchange) (PackRewards.exchangePoints_adds hexchange).1
  | claimTier =>
    refine hkeep fun db' hclaim => ?_
    obtain ⟨pass, hpass, rfl⟩ := map_ok.mp hclaim
    exact h.claim hpass fun _ htier _ => claimPassTier_origin hpass htier
  | reconcile userId order =>
    refine hkeep fun db' hreconcile => ?_
    obtain ⟨⟨pass, count⟩, hpass, rfl⟩ := map_ok.mp hreconcile
    have hplain : ∀ tier ∈ db.claimedGlobalTiers userId order, ':' ∉ tier.id.toList := by
      intro tier htier
      exact h.plain tier (List.mem_of_mem_filter ((scan_perm order _).mem_iff.mp htier))
    obtain ⟨hkeeps, htiers⟩ := repairTiers_keeps hplain hpass
    exact h.keep hkeeps htiers
  | claimReward =>
    exact hkeep fun _ hclaim => h.grows (.of_claimRewardGrant hclaim) (claimRewardGrant_grows hclaim)
  | claimMission => exact h.grows .of_claimMissionRewards claimMissionRewards_grows

theorem executeApproved (h : ClaimsListed db.toPassDb) {item : ApprovalRequest} {actorId : String}
    {draws : RefundDraws} {executed : Bool}
    (hexecute : Fanfolio.executeApproved db users item actorId draws now = .ok (db', executed)) :
    ClaimsListed db'.toPassDb := by
  unfold Fanfolio.executeApproved at hexecute
  split at hexecute
  · obtain ⟨⟨refunded, balance⟩, hrefund, heq⟩ := map_ok.mp hexecute
    obtain ⟨rfl, -⟩ := Prod.mk.inj heq
    obtain ⟨order, -, horder⟩ := executeApprovedRefund_ok hrefund
    exact h.grows (.of_refundOrder horder)
      (refundOrder_grows (notOfPass_adminRefund order _ _) horder)
  · obtain ⟨⟨adjusted, balance⟩, hadjust, heq⟩ := map_ok.mp hexecute
    obtain ⟨rfl, -⟩ := Prod.mk.inj heq
    exact h.grows (.of_executeApprovedPointAdjustment hadjust)
      (executeApprovedPointAdjustment_grows hadjust)
  · split at hexecute
    · obtain ⟨rfl, -⟩ := Prod.mk.inj (Except.ok.inj hexecute)
      exact h.keep (.of_same rfl rfl rfl) rfl
    · obtain ⟨rfl, -⟩ := Prod.mk.inj (Except.ok.inj hexecute)
      exact h
  · obtain ⟨rfl, -⟩ := Prod.mk.inj (Except.ok.inj hexecute)
    exact h

end ClaimsListed

/-- What happens to the tables that the pass reads: sales, requests and edits of seasons, edits of
the catalog and of packs, and views of the pass. -/
inductive PassAction where
  | sale (a : SaleAction)
  | editCatalog (rewards : List RewardCatalog) (cardPacks : List CardPack)
  | view (userId : UserId) (artistId : Option String) (globalScope : Bool) (now : Time)

namespace PassView

variable (terms : RewardId → ExchangeTerms) (users : List User)

def step (s : PassSales) : PassAction → PassSales
  | .sale a => PassSales.step terms users s a
  | .editCatalog rewards cardPacks =>
    s.change { s.committed with rewards := rewards, cardPacks := cardPacks }
  | .view userId artistId globalScope now =>
    s.change { s.committed with
      toPassDb := commitOr s.committed.toPassDb
        (fanPassData s.committed.toPassDb userId artistId globalScope now) }

/-- Any tables, before the first season. -/
def start (db : ShopDb) : PassSales :=
  PassSales.start { db with seasons := [], tiers := [], passProgress := [] }

/-- An edit of a season draws new identifiers for its tiers. -/
def DrawsNewTiers (s : PassSales) : PassAction → Prop
  | .sale (.createSeason _ _ _ tierIds) => NewTiers s.committed.toPassDb tierIds
  | .sale (.updateSeason _ _ _ tierIds) => NewTiers s.committed.toPassDb tierIds
  | _ => True

end PassView

/-- A view shows the tier of the season, and leaves the tables `seen`. -/
structure Shows (db seen : PassDb) (userId : UserId) (artistId : Option String) (now : Time)
    (season : PassSeason) (tier : PassTier) (view : PassTierView) : Prop where
  viewed : ∃ globalScope items, fanPassData db userId artistId globalScope now = .ok (seen, items) ∧
    ∃ item ∈ items, item.season = season ∧ view ∈ item.tiers
  tier : tier ∈ db.tiers ∧ tier.id = view.id

/-- A tier is shown as claimable exactly if a claim of it succeeds, on either track. -/
def TierAgrees (seen : PassDb) (userId : UserId) (view : PassTierView) (draws : ClaimDraws)
    (now : Time) : Prop :=
  (view.claimable ↔ ∃ after, claimPassTier seen userId view.id .free draws now = .ok after) ∧
    (view.premiumClaimable ↔
      ∃ after, claimPassTier seen userId view.id .premium draws now = .ok after)

/-- The XP of the fan in a season, of one artist if there is one. -/
def PassDb.seasonXp (db : PassDb) (userId : UserId) (season : PassSeason)
    (artistId : Option String) : Int :=
  scopedUserXp db.toGrowthDb userId artistId season.startsAt season.endsAt

/-- An unclaimed free tier is reached by the XP that is shown as by the XP that a claim counts; for
a fan with the pass, an unclaimed tier has a premium reward and is reached as shown exactly if the
premium track is still enabled and the tier is reached for a claim. -/
structure FlagsAgree (db : PassDb) (userId : UserId) (artistId : Option String)
    (season : PassSeason) (tier : PassTier) : Prop where
  free : tier.id ∉ claimedIn db.passProgress userId season.id .free →
    (tier.requiredXp ≤ db.seasonXp userId season (season.artistId <|> artistId) ↔
      tier.requiredXp ≤ db.seasonXp userId season season.artistId)
  premium : db.hasPass userId season.id →
    tier.id ∉ claimedIn db.passProgress userId season.id .premium →
    (tier.premiumRewardId.isSome ∧
        tier.requiredXp ≤ db.seasonXp userId season (season.artistId <|> artistId) ↔
      season.premiumEnabled ∧ tier.requiredXp ≤ db.seasonXp userId season season.artistId)

/-- The rewards of the tier are published. -/
def TierPublished (db : PassDb) (tier : PassTier) : Prop :=
  ∀ track, ∀ rewardId ∈ tier.reward track, RewardPublished db rewardId

/-- Whatever is shown of a tier with published rewards agrees with claims of it. -/
def ViewAgrees (db : PassDb) : Prop :=
  ∀ seen userId artistId now season tier view draws,
    Shows db seen userId artistId now season tier view → TierPublished db tier →
    NewDraws db draws → TierAgrees seen userId view draws now

/-- It does so exactly if the flags agree. -/
def ViewDecided (db : PassDb) : Prop :=
  ∀ seen userId artistId now season tier view draws,
    Shows db seen userId artistId now season tier view → TierPublished db tier →
    NewDraws db draws →
    (TierAgrees seen userId view draws now ↔ FlagsAgree db userId artistId season tier)

section

variable {terms : RewardId → ExchangeTerms} {users : List User} {s : PassSales}

theorem PassSales.edit_listed (h : ClaimsListed s.committed.toPassDb) (seasonId : SeasonId)
    {x : Except Failure PassDb} (hx : ∀ pass, x = .ok pass → ClaimsListed pass) :
    ClaimsListed (s.edit seasonId x).committed.toPassDb := by
  unfold PassSales.edit
  split
  · rename_i pass _
    exact hx pass rfl
  · exact h

theorem sale_listed (h : ClaimsListed s.committed.toPassDb) {a : SaleAction}
    (hnew : PassView.DrawsNewTiers s (.sale a)) :
    ClaimsListed (PassSales.step terms users s a).committed.toPassDb := by
  cases a with
  | lockSeason worker userId seasonId now =>
    simp only [PassSales.step, PassSales.serve]
    split
    · split <;> exact h
    · exact h
  | pay worker draws now =>
    simp only [PassSales.step, PassSales.serve]
    split
    · split
      · rename_i hbuy
        obtain ⟨hsame, hgrants⟩ := SamePass.of_buyPass hbuy
        exact h.keep (.of_same hsame.seasons hsame.progress hgrants) hsame.tiers
      · exact h
    · exact h
  | abort worker => exact h
  | request a => exact h.request a
  | points call =>
    simp only [PassSales.step, PassSales.serve, PassSales.change]
    split
    · exact h.keep (.of_same rfl rfl rfl) rfl
    · exact h
  | approved item actorId draws now =>
    exact commitOr_keeps (P := fun db : ShopDb => ClaimsListed db.toPassDb) h
      fun _ _ hexecute => h.executeApproved hexecute
  | createSeason seasonId payload scope tierIds =>
    exact PassSales.edit_listed h seasonId fun _ hcreate => h.createSeason hnew hcreate
  | updateSeason seasonId payload scope tierIds =>
    exact PassSales.edit_listed h seasonId fun _ hupdate => h.updateSeason hnew hupdate
  | transitionSeason seasonId requiredStatus nextStatus =>
    exact PassSales.edit_listed h seasonId fun _ htransition => h.transition htransition
  | editProducts products => exact h.keep (.of_same rfl rfl rfl) rfl

theorem PassView.step_listed (h : ClaimsListed s.committed.toPassDb) {a : PassAction}
    (hnew : PassView.DrawsNewTiers s a) :
    ClaimsListed (PassView.step terms users s a).committed.toPassDb := by
  cases a with
  | sale a => exact sale_listed h hnew
  | editCatalog rewards cardPacks => exact h.keep (.of_same rfl rfl rfl) rfl
  | view userId artistId globalScope now =>
    refine commitOr_keeps (P := ClaimsListed) h ?_
    intro seen items hview
    obtain ⟨hrefreshed, hframe, -⟩ := seasonsData_ok hview
    exact h.keep (.of_refreshed hrefreshed) (by rw [hframe])

end

theorem PassView.start_listed (db : ShopDb) : ClaimsListed (PassView.start db).committed.toPassDb := by
  refine ⟨List.nodup_nil, ?_, List.nodup_nil, List.nodup_nil, ?_⟩
  · exact fun _ htier => (nomatch htier)
  · exact fun _ hgrant => (nomatch hgrant)

section

variable {db seen : PassDb} {userId : UserId} {artistId : Option String} {now : Time}
  {season : PassSeason} {tier : PassTier} {view : PassTierView} {draws : ClaimDraws}

theorem openForClaim_of_active (h : seasonActiveForPassView season now) :
    seasonOpenForClaim season now := by
  simp only [seasonActiveForPassView, seasonOpenForClaim, Bool.and_eq_true, Option.all_eq_true,
    decide_eq_true_eq] at h ⊢
  refine ⟨h.1, ?_⟩
  intro endsAt hends
  exact (h.2 endsAt hends).trans (Nat.le_add_right _ _)

/-- A tier is shown from its row and the rows of its season and of the fan. -/
structure ShownTier (db seen : PassDb) (userId : UserId) (artistId : Option String) (now : Time)
    (season : PassSeason) (tier : PassTier) (view : PassTierView) : Prop where
  refreshed : Refreshed db.toGrowthDb seen.toGrowthDb
  frame : seen = { db with toGrowthDb := seen.toGrowthDb }
  listed : season ∈ db.seasons
  published : season.status = .published
  active : seasonActiveForPassView season now
  row : (seen.findPassProgress userId season.id).isSome
  ofSeason : tier.seasonId = season.id
  data : ∃ progress, ShownRow db userId artistId season progress ∧
    view = passTierData tier progress (tier.rewardId.bind db.findReward)
      (tier.premiumRewardId.bind db.findReward) (db.hasPass userId season.id)

theorem Shows.shown (h : Shows db seen userId artistId now season tier view)
    (hids : (db.tiers.map (·.id)).Nodup) :
    ShownTier db seen userId artistId now season tier view := by
  obtain ⟨globalScope, items, hview, item, hitem, rfl, hmem⟩ := h.viewed
  obtain ⟨hrefreshed, hframe, hitems⟩ := seasonsData_ok hview
  obtain ⟨season, hseason, hactive, hrow, progress, hshown, rfl⟩ := hitems item hitem
  rw [PassDb.viewedSeasons, List.mem_insertionSort, List.mem_filter] at hseason
  simp only [Bool.and_eq_true, beq_iff_eq] at hseason
  simp only [PassDb.seasonData, List.mem_map, PassDb.seasonTiers, List.mem_insertionSort,
    List.mem_filter, beq_iff_eq] at hmem
  obtain ⟨tier', ⟨htier', hof⟩, rfl⟩ := hmem
  obtain rfl : tier = tier' := eq_of_unique hids h.tier.1 htier' h.tier.2
  exact ⟨hrefreshed, hframe, hseason.1, hseason.2.1.1, hactive, hrow, hof, progress, hshown, rfl⟩

namespace ShownTier

theorem view_id (h : ShownTier db seen userId artistId now season tier view) : view.id = tier.id := by
  obtain ⟨progress, -, rfl⟩ := h.data
  rfl

theorem claimable_iff (h : ShownTier db seen userId artistId now season tier view) :
    view.claimable ↔ tier.id ∉ claimedIn db.passProgress userId season.id .free ∧
      tier.requiredXp ≤ db.seasonXp userId season (season.artistId <|> artistId) := by
  obtain ⟨progress, hshown, rfl⟩ := h.data
  rw [← hshown.claimed, PassDb.seasonXp, ← hshown.xp]
  simp [passTierData, PassProgress.claimedIds]

theorem premiumClaimable_iff (h : ShownTier db seen userId artistId now season tier view) :
    view.premiumClaimable ↔ tier.premiumRewardId.isSome ∧ db.hasPass userId season.id ∧
      tier.id ∉ claimedIn db.passProgress userId season.id .premium ∧
      tier.requiredXp ≤ db.seasonXp userId season (season.artistId <|> artistId) := by
  obtain ⟨progress, hshown, rfl⟩ := h.data
  rw [← hshown.claimed, PassDb.seasonXp, ← hshown.xp]
  cases hreward : tier.premiumRewardId with
  | none => simp [PassTierView.premiumClaimable, passTierData, hreward]
  | some rewardId =>
    simp [PassTierView.premiumClaimable, passTierData, PassProgress.claimedIds, hreward, and_assoc]

/-- A claim of a tier that is shown. -/
theorem claim_iff (h : ShownTier db seen userId artistId now season tier view)
    (hlisted : ClaimsListed db) (htier : tier ∈ db.tiers) (hpublished : TierPublished db tier)
    (hdraws : NewDraws db draws) {track : PassTrack} (htrack : track = .free ∨ track = .premium) :
    (∃ after, claimPassTier seen userId view.id track draws now = .ok after) ↔
      (track = .premium → season.premiumEnabled ∧ db.hasPass userId season.id) ∧
      tier.id ∉ claimedIn db.passProgress userId season.id track ∧
      tier.requiredXp ≤ db.seasonXp userId season season.artistId := by
  have hseen : ClaimsListed seen := hlisted.keep (.of_refreshed h.refreshed) (by rw [h.frame])
  have hgrowth := h.refreshed.frame
  have hframe : seen = { db with passProgress := seen.passProgress } := by
    rw [h.frame, hgrowth]
  have hfoundTier : seen.findTier tier.id = some tier := by
    rw [hframe]
    exact find_of_mem (g := PassTier.id) hlisted.tiers htier
  have hfoundSeason : seen.findSeason tier.seasonId = some season := by
    rw [hframe, h.ofSeason]
    exact find_of_mem (g := PassSeason.id) hlisted.seasons h.listed
  rw [h.view_id, claimPassTier_ok_iff htrack hfoundTier hfoundSeason h.row ?_ ?_ ?_,
    h.refreshed.claimed, h.refreshed.scopedUserXp]
  · have hpasses : seen.hasPass userId season.id = db.hasPass userId season.id := by
      rw [hframe]
      rfl
    rw [hpasses]
    simp only [h.published, openForClaim_of_active h.active, true_and]
    rfl
  · rw [hframe]
    exact hpublished track
  · rw [hframe]
    exact ⟨hdraws.events, hdraws.grants, hdraws.rights, hdraws.sources⟩
  · intro hnew grant hgrant huser hrule
    refine hnew ?_
    rw [← huser, ← h.ofSeason]
    exact hseen.listed grant hgrant tier (hframe ▸ htier) track htrack hrule

end ShownTier

end

theorem ClaimsListed.viewDecided {db : PassDb} (h : ClaimsListed db) : ViewDecided db := by
  intro seen userId artistId now season tier view draws hshows hpublished hdraws
  have hshown := hshows.shown h.tiers
  have hfree := hshown.claim_iff h hshows.tier.1 hpublished hdraws (.inl rfl)
  have hpremium := hshown.claim_iff h hshows.tier.1 hpublished hdraws (.inr rfl)
  rw [TierAgrees, hshown.claimable_iff, hshown.premiumClaimable_iff, hfree, hpremium]
  constructor
  · rintro ⟨hagree, hagree'⟩
    refine ⟨fun hnew => ?_, fun hpass hnew => ?_⟩
    · simpa [hnew] using hagree
    · simpa [hpass, hnew] using hagree'
  · rintro ⟨hagree, hagree'⟩
    refine ⟨?_, ?_⟩
    · simp only [reduceCtorEq, false_implies, true_and]
      exact and_congr_right hagree
    · simp only [forall_const]
      constructor
      · rintro ⟨hreward, hpass, hnew, hxp⟩
        obtain ⟨henabled, hreached⟩ := (hagree' hpass hnew).mp ⟨hreward, hxp⟩
        exact ⟨⟨henabled, hpass⟩, hnew, hreached⟩
      · rintro ⟨⟨henabled, hpass⟩, hnew, hxp⟩
        obtain ⟨hreward, hreached⟩ := (hagree' hpass hnew).mpr ⟨henabled, hxp⟩
        exact ⟨hreward, hpass, hnew, hreached⟩

/-- In every state that is reached from tables without seasons, edits drawing new identifiers, a
tier is shown as it can be claimed exactly if its flags agree. -/
theorem pass_view_decided (terms : RewardId → ExchangeTerms) (users : List User) (db : ShopDb)
    (acts : List PassAction)
    (hnew : Always (PassView.step terms users) PassView.DrawsNewTiers (PassView.start db) acts) :
    Throughout (PassView.step terms users) (fun s => ViewDecided s.committed.toPassDb)
      (PassView.start db) acts := by
  have hlisted : Throughout (PassView.step terms users)
      (fun s => ClaimsListed s.committed.toPassDb) (PassView.start db) acts :=
    hnew.throughout (PassView.start_listed db) fun _ _ h hdraws => PassView.step_listed h hdraws
  exact hlisted.imp fun _ h => h.viewDecided

/-- A premium pass for 5 points with one tier. -/
def premiumSeason (premiumEnabled : Bool) : PassSeasonCreate :=
  { premiumEnabled := premiumEnabled, premiumPricePoints := some 5
    tiers := [{ tier := 1, requiredXp := 0, premiumRewardId := some "badge" }] }

/-- The pass is published and bought. -/
def soldPass : List PassAction :=
  [.editCatalog [{ id := "badge", status := .published }] [],
    .sale (.createSeason "season" (premiumSeason true) (.ok none) fun _ => "tier"),
    .sale (.transitionSeason "season" .draft .pendingReview),
    .sale (.transitionSeason "season" .pendingReview .published),
    .sale (.lockSeason 0 "fan" "season" 3),
    .sale (.pay 0 ⟨"ev", "ledger", "order", "pass"⟩ 3)]

/-- The same, and the premium track is taken away again. -/
def disabledPass : List PassAction :=
  soldPass ++ [.sale (.updateSeason "season" (premiumSeason false) (.ok none) fun _ => "tier2")]

theorem pass_view_sold : Throughout (PassView.step PackRewards.fivePoints [])
    (fun s => ViewDecided s.committed.toPassDb)
    (PassView.start (openShop [] [⟨"fan", 100⟩])) soldPass := by
  refine pass_view_decided _ _ _ _ ⟨trivial, ?_, trivial, trivial, trivial, trivial, trivial⟩
  intro index
  have hplain : ':' ∉ "tier".toList := by decide
  exact ⟨hplain, fun _ _ grant hgrant => nomatch hgrant⟩

/-- The fan is shown a tier that a claim does not find. -/
theorem pass_view_disabled : ¬Throughout (PassView.step PackRewards.fivePoints [])
    (fun s => ViewAgrees s.committed.toPassDb)
    (PassView.start (openShop [] [⟨"fan", 100⟩])) disabledPass := by
  intro h
  have hagrees := h.last _ "fan" none 4 _ _ _ ⟨"ev2", "grant", "right"⟩
    ⟨⟨false, _, rfl, _, List.mem_cons_self, rfl, List.mem_cons_self⟩, List.mem_cons_self, rfl⟩
    ?_ ⟨?_, ?_, ?_, ?_⟩
  · obtain ⟨after, hclaim⟩ := hagrees.2.mp rfl
    cases hclaim
  · intro track rewardId hreward
    cases track with
    | premium =>
      obtain rfl := Option.some.inj hreward
      exact ⟨_, rfl, rfl, fun htype => nomatch htype⟩
    | free => cases hreward
    | other name => cases hreward
  all_goals decide

end Fanfolio
