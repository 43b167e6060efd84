import Mathlib.Algebra.Order.BigOperators.Group.List
import Mathlib.Algebra.Order.Ring.Nat
import Fanfolio.Framework.Run
import Fanfolio.Framework.Text
import Fanfolio.Pass.Claim

/-!
# Repairing the grants of global passes

`reconcile_claimed_global_pass_reward_grants` grants the reward of every claimed free tier of a
global season that has no grant yet, under a rule key of its own.
-/

namespace Fanfolio

open Framework

/-- The rule key that a repair grants the reward under. -/
def PassTier.repairRule (tier : PassTier) : String := "pass_tier:" ++ tier.id

structure RepairDraws where
  eventId : EventId
  grantId : String
deriving DecidableEq, Repr

namespace PassDb

/-- The event under which the tier was claimed. -/
def tierEvent (db : PassDb) (userId : UserId) (tierId : TierId) : Option EngagementEvent :=
  db.points.events.find? (·.hasSource userId "pass_tier_claimed" "pass_tier" tierId)

def findGrant (db : PassDb) (key : RuleKey) : Option RewardGrant :=
  db.rewardGrants.find? (fun row => row.entry.1 == key)

/-- The grant of a tier under a rule key. -/
def tierGrant (db : PassDb) (userId : UserId) (tierId : TierId) (ruleKey : String) :
    Option RewardGrant :=
  (db.tierEvent userId tierId).bind fun event => db.findGrant (userId, event.id, ruleKey)

/-- The claimed free tiers of global seasons whose reward is published, in the order the query
answers in. -/
def claimedGlobalTiers (db : PassDb) (userId : UserId) (order : List PassTier) : List PassTier :=
  let claimedTierIds := (db.passProgress.filter (·.userId == userId)).flatMap (·.claimedTierIds)
  scan order (db.tiers.filter fun tier =>
    claimedTierIds.contains tier.id &&
    (db.findSeason tier.seasonId).any (·.artistId.isNone) &&
    tier.rewardId.any fun rewardId =>
      (db.rewards.find? (fun row => row.id == rewardId)).any (·.status == .published))

end PassDb

/-- The loop body of `reconcile_claimed_global_pass_reward_grants`; it counts the repairs. -/
def repairTier (db : PassDb) (userId : UserId) (tier : PassTier) (draws : RepairDraws)
    (now : Time) : Except Failure (PassDb × Nat) :=
  match tier.rewardId with
  | none => .ok (db, 0)
  | some rewardId => do
    let (recorded, event) ← recordTierClaimed db userId tier
      [("seasonId", .str tier.seasonId), ("requiredXp", .num tier.requiredXp)] draws.eventId now true
    let (granted, grant) ← grantReward recorded.toGrowthDb userId rewardId event.id tier.repairRule
      draws.grantId now
    let delivered : PassDb := { recorded with toGrowthDb := granted }
    match grant.claimedAt with
    | some _ => return (delivered, 0)
    | none => return (claimGrant delivered grant.id now, 1)

def repairTiers (userId : UserId) (draws : TierId → RepairDraws) (now : Time) :
    List PassTier → PassDb → Except Failure (PassDb × Nat)
  | [], db => .ok (db, 0)
  | tier :: tiers, db => do
    let (repaired, count) ← repairTier db userId tier (draws tier.id) now
    let (db', count') ← repairTiers userId draws now tiers repaired
    return (db', count + count')

/-- `reconcile_claimed_global_pass_reward_grants`. -/
def reconcileClaimedGlobalPassRewardGrants (db : PassDb) (userId : UserId)
    (order : List PassTier) (draws : TierId → RepairDraws) (now : Time) :
    Except Failure (PassDb × Nat) :=
  repairTiers userId draws now (db.claimedGlobalTiers userId order) db

/-- A request for pass rewards. -/
inductive PassCall where
  | claim (userId : UserId) (tierId : TierId) (track : PassTrack) (draws : ClaimDraws) (now : Time)
  | reconcile (userId : UserId) (order : List PassTier) (draws : TierId → RepairDraws) (now : Time)

/-- The tables after one request; a request that fails is rolled back. -/
def passStep (db : PassDb) : PassCall → PassDb
  | .claim userId tierId track draws now =>
    match claimPassTier db userId tierId track draws now with
    | .ok db' => db'
    | .error _ => db
  | .reconcile userId order draws now =>
    commitOr db (reconcileClaimedGlobalPassRewardGrants db userId order draws now)

/-- What the constraints of the tables give: unique tiers and events, and grants whose events
exist. Grants under the rules of pass tiers are claimed as they are made. -/
structure PassSound (db : PassDb) : Prop where
  tiers : (db.tiers.map (·.id)).Nodup
  events : (db.points.events.map (·.id)).Nodup
  source : ∀ grant ∈ db.rewardGrants, grant.sourceEventId ∈ db.points.events.map (·.id)
  claimed : ∀ grant ∈ db.rewardGrants, ∀ rest, grant.ruleKey = "pass_tier:" ++ rest →
    grant.claimedAt ≠ none

/-- Identifiers drawn for the tiers: new ones, and never the same twice. -/
structure FreshRepairs (db : PassDb) (tiers : List PassTier) (draws : TierId → RepairDraws) :
    Prop where
  events : ∀ tier ∈ tiers, ∀ event ∈ db.points.events, event.id ≠ (draws tier.id).eventId
  grants : ∀ tier ∈ tiers, ∀ grant ∈ db.rewardGrants, grant.id ≠ (draws tier.id).grantId
  distinct : tiers.Pairwise fun tier tier' =>
    (draws tier.id).eventId ≠ (draws tier'.id).eventId ∧
      (draws tier.id).grantId ≠ (draws tier'.id).grantId

/-- The fan has the reward of the free tier, through a claim or through a repair. -/
def HasTierGrant (db : PassDb) (userId : UserId) (tier : PassTier) : Prop :=
  (db.tierGrant userId tier.id (tier.claimRule .free)).isSome ∨
    (db.tierGrant userId tier.id tier.repairRule).isSome

instance (db : PassDb) (userId : UserId) (tier : PassTier) :
    Decidable (HasTierGrant db userId tier) := inferInstanceAs (Decidable (_ ∨ _))

/-- A repair grants the reward of every claimed tier that lacks its grant, and nothing else; it
counts the grants it makes, and another repair finds nothing to do. -/
def RepairsMissing (db : PassDb) (userId : UserId) : Prop :=
  ∀ order draws now, FreshRepairs db (db.claimedGlobalTiers userId order) draws →
    ∃ db' added,
      reconcileClaimedGlobalPassRewardGrants db userId order draws now = .ok (db', added.length) ∧
      db'.rewardGrants = db.rewardGrants ++ added ∧
      added.map (fun grant => (grant.userId, grant.ruleKey, some grant.rewardId)) =
        ((db.claimedGlobalTiers userId order).filter fun tier => ¬HasTierGrant db userId tier).map
          (fun tier => (userId, tier.repairRule, tier.rewardId)) ∧
      ∀ order' draws' now',
        reconcileClaimedGlobalPassRewardGrants db' userId order' draws' now' = .ok (db', 0)

/-- A claimed tier with the grant of a claim has the grant of a repair as well. -/
def ClaimsRepaired (db : PassDb) (userId : UserId) : Prop :=
  ∀ tier ∈ db.claimedGlobalTiers userId [],
    (db.tierGrant userId tier.id (tier.claimRule .free)).isSome →
    (db.tierGrant userId tier.id tier.repairRule).isSome

instance (db : PassDb) (userId : UserId) : Decidable (ClaimsRepaired db userId) :=
  inferInstanceAs (Decidable (∀ tier ∈ db.claimedGlobalTiers userId [], _))

section

variable {db db' : PassDb} {userId : UserId} {tier : PassTier} {now : Time}

/-- A tier recorded as claimed: its event, found or new, is now processed. -/
structure TierRecorded (db db' : PassDb) (userId : UserId) (tierId : TierId)
    (event : EngagementEvent) (keep : Bool) (now : Time) : Prop where
  rows : ∃ rows, db' = { db with
      points := { db.points with events := patch (·.id == event.id) (fun row =>
        { row with
          status := .processed
          processedAt := if keep then row.processedAt <|> some now else some now }) rows } } ∧
    (rows = db.points.events ∧ db.tierEvent userId tierId = some event ∨
      rows = db.points.events ++ [event] ∧ db.tierEvent userId tierId = none ∧
        (∀ row ∈ db.points.events, row.id ≠ event.id) ∧
        event.hasSource userId "pass_tier_claimed" "pass_tier" tierId)

theorem recordTierClaimed_ok {payload : JsonObject} {eventId : EventId} {event : EngagementEvent}
    {keep : Bool}
    (h : recordTierClaimed db userId tier payload eventId now keep = .ok (db', event)) :
    TierRecorded db db' userId tier.id event keep now ∧
      (event.id = eventId ∨ event.id ∈ db.points.events.map (·.id)) := by
  simp only [recordTierClaimed, bind_ok, Prod.exists, pure_ok, Prod.mk.injEq] at h
  obtain ⟨events, event, hrecord, rfl, rfl⟩ := h
  rcases recordEngagementEvent_cases hrecord with ⟨hfind, rfl⟩ | ⟨hnone, hfresh, rfl, rfl⟩
  · exact ⟨⟨_, rfl, .inl ⟨rfl, hfind⟩⟩,
      .inr (List.mem_map_of_mem (List.mem_of_find?_eq_some hfind))⟩
  · refine ⟨⟨_, rfl, .inr ⟨rfl, hnone, hfresh, ?_⟩⟩, .inl rfl⟩
    simp [EngagementEvent.hasSource]

theorem recordTierClaimed_fresh {eventId : EventId}
    (hfresh : ∀ event ∈ db.points.events, event.id ≠ eventId) (userId : UserId) (tier : PassTier)
    (payload : JsonObject) (now : Time) (keep : Bool) :
    ∃ r, recordTierClaimed db userId tier payload eventId now keep = .ok r := by
  obtain ⟨events, event, hrecord, -⟩ := recordEngagementEvent_fresh hfresh userId
    "pass_tier_claimed" "pass_tier" tier.id payload
  rw [recordTierClaimed, hrecord]
  exact ⟨_, rfl⟩

theorem hasSource_iff {event : EngagementEvent} {kind sourceType sourceId : String} :
    event.hasSource userId kind sourceType sourceId = true ↔
      event.userId = userId ∧ event.kind = kind ∧ event.sourceType = sourceType ∧
        event.sourceId = sourceId := by
  simp [EngagementEvent.hasSource, and_assoc]

theorem tierEvent_source {tierId : TierId} {event : EngagementEvent}
    (h : db.tierEvent userId tierId = some event) :
    event.hasSource userId "pass_tier_claimed" "pass_tier" tierId = true :=
  List.find?_some (p := fun row : EngagementEvent =>
    row.hasSource userId "pass_tier_claimed" "pass_tier" tierId) h

namespace TierRecorded

variable {event : EngagementEvent} {keep : Bool} {tierId : TierId}

/-- The frame of a recorded tier: nothing but events. -/
theorem frame (h : TierRecorded db db' userId tierId event keep now) :
    db' = { db with points := { db.points with events := db'.points.events } } := by
  obtain ⟨rows, rfl, -⟩ := h.rows
  rfl

theorem ids (h : TierRecorded db db' userId tierId event keep now) :
    db'.points.events.map (·.id) = db.points.events.map (·.id) ∨
      db'.points.events.map (·.id) = db.points.events.map (·.id) ++ [event.id] ∧
        ∀ row ∈ db.points.events, row.id ≠ event.id := by
  obtain ⟨rows, rfl, ⟨rfl, -⟩ | ⟨rfl, -, hfresh, -⟩⟩ := h.rows
  · exact .inl (map_patch (by intro _; rfl) _)
  · refine .inr ⟨?_, hfresh⟩
    rw [map_patch (by intro _; rfl), List.map_append, List.map_singleton]

theorem found (h : TierRecorded db db' userId tierId event keep now) :
    ∃ event', db'.tierEvent userId tierId = some event' ∧ event'.id = event.id ∧
      event'.status = .processed ∧ event'.processedAt ≠ none := by
  have hwritten : ∀ row : EngagementEvent,
      (if keep then row.processedAt <|> some now else some now) ≠ none := by
    intro row
    cases keep <;> cases row.processedAt <;> simp
  obtain ⟨rows, rfl, hrows⟩ := h.rows
  have hfind : rows.find? (·.hasSource userId "pass_tier_claimed" "pass_tier" tierId) =
      some event := by
    rcases hrows with ⟨rfl, hfind⟩ | ⟨rfl, hnone, -, hsource⟩
    · exact hfind
    · rw [PassDb.tierEvent] at hnone
      rw [find_insert, hnone, hsource]
      rfl
  rw [PassDb.tierEvent, find_patch (by intro row; rfl), hfind]
  refine ⟨_, rfl, ?_⟩
  simp only [beq_self_eq_true, if_true, true_and]
  exact hwritten event

/-- Other tiers keep their events. -/
theorem others (h : TierRecorded db db' userId tierId event keep now)
    (hevents : (db.points.events.map (·.id)).Nodup) {userId' : UserId} {tierId' : TierId}
    (hne : ¬(userId' = userId ∧ tierId' = tierId)) :
    db'.tierEvent userId' tierId' = db.tierEvent userId' tierId' := by
  have hother : ∀ row : EngagementEvent,
      row.hasSource userId "pass_tier_claimed" "pass_tier" tierId = true →
      row.hasSource userId' "pass_tier_claimed" "pass_tier" tierId' = false := by
    intro row hsource
    rw [Bool.eq_false_iff]
    intro hsame
    obtain ⟨huser, -, -, hid⟩ := hasSource_iff.mp hsource
    obtain ⟨huser', -, -, hid'⟩ := hasSource_iff.mp hsame
    exact hne ⟨huser'.symm.trans huser, hid'.symm.trans hid⟩
  obtain ⟨rows, rfl, hrows⟩ := h.rows
  rw [PassDb.tierEvent, PassDb.tierEvent, find_patch (by intro row; rfl)]
  have hfind : rows.find? (·.hasSource userId' "pass_tier_claimed" "pass_tier" tierId') =
      db.points.events.find? (·.hasSource userId' "pass_tier_claimed" "pass_tier" tierId') := by
    rcases hrows with ⟨rfl, -⟩ | ⟨rfl, -, -, hsource⟩
    · rfl
    · simp [hother event hsource]
  rw [hfind]
  cases hrow : db.points.events.find?
      (·.hasSource userId' "pass_tier_claimed" "pass_tier" tierId') with
  | none => rfl
  | some row =>
    have hid : row.id ≠ event.id := by
      rcases hrows with ⟨-, hevent⟩ | ⟨-, -, hfresh, -⟩
      · intro heq
        have hmem := List.mem_of_find?_eq_some hevent
        have hsame := eq_of_unique hevents (List.mem_of_find?_eq_some hrow) hmem heq
        have hsource := List.find?_some hrow
        rw [hsame, hother event (tierEvent_source hevent)] at hsource
        cases hsource
      · exact hfresh row (List.mem_of_find?_eq_some hrow)
    simp [hid]

/-- A tier that was processed before is recorded without a change. -/
theorem unchanged (h : TierRecorded db db' userId tierId event true now)
    (hevents : (db.points.events.map (·.id)).Nodup) (hevent : db.tierEvent userId tierId = some event)
    (hstatus : event.status = .processed) (hat : event.processedAt ≠ none) : db' = db := by
  obtain ⟨rows, rfl, ⟨rfl, -⟩ | ⟨-, hnone, -⟩⟩ := h.rows
  · have hfixed : patch (·.id == event.id) (fun row : EngagementEvent =>
        { row with
          status := .processed
          processedAt := if true then row.processedAt <|> some now else some now })
        db.points.events = db.points.events := by
      apply patch_of_fixed
      intro row hrow hid
      have hsame := eq_of_unique hevents hrow (List.mem_of_find?_eq_some hevent) (beq_iff_eq.mp hid)
      subst hsame
      obtain ⟨at', hat'⟩ := Option.ne_none_iff_exists'.mp hat
      simp only [if_true, hat', ← hstatus]
      cases row
      cases hat'
      rfl
    rw [hfixed]
  · rw [hevent] at hnone
    cases hnone

end TierRecorded

/-- The tier has its event, processed, and the grant of a repair, claimed. -/
def Repaired (db : PassDb) (userId : UserId) (tier : PassTier) : Prop :=
  ∃ event grant, db.tierEvent userId tier.id = some event ∧ event.status = .processed ∧
    event.processedAt ≠ none ∧ db.findGrant (userId, event.id, tier.repairRule) = some grant ∧
    grant.claimedAt ≠ none

theorem repairTier_of_repaired (hsound : PassSound db) (h : Repaired db userId tier)
    (draws : RepairDraws) (now : Time) : repairTier db userId tier draws now = .ok (db, 0) := by
  obtain ⟨event, grant, hevent, hstatus, hat, hgrant, hclaimed⟩ := h
  obtain ⟨at', hat'⟩ := Option.ne_none_iff_exists'.mp hclaimed
  have hrecord : ∀ payload, recordTierClaimed db userId tier payload draws.eventId now true =
      .ok (db, event) := by
    intro payload
    have hfound : recordEngagementEvent db.points.events userId "pass_tier_claimed" "pass_tier"
        tier.id payload draws.eventId = .ok (db.points.events, event) := by
      rw [PassDb.tierEvent] at hevent
      rw [recordEngagementEvent, hevent]
    have hdone : ∃ db', recordTierClaimed db userId tier payload draws.eventId now true =
        .ok (db', event) := by
      rw [recordTierClaimed, hfound]
      exact ⟨_, rfl⟩
    obtain ⟨db', hdone⟩ := hdone
    rw [hdone, (recordTierClaimed_ok hdone).1.unchanged hsound.events hevent hstatus hat]
  unfold repairTier
  split
  · rfl
  · rename_i rewardId _
    have hexisting : grantReward db.toGrowthDb userId rewardId event.id tier.repairRule
        draws.grantId now = .ok (db.toGrowthDb, grant) := by
      rw [PassDb.findGrant] at hgrant
      rw [grantReward, hgrant]
    simp only [hrecord, hexisting, bind, Except.bind, hat']
    rfl

/-- The grant of a tier is the one under the event that records it. -/
theorem TierRecorded.tierGrant_eq {event : EngagementEvent} {keep : Bool} {tierId : TierId}
    (h : TierRecorded db db' userId tierId event keep now) (hsound : PassSound db)
    (ruleKey : String) :
    db.tierGrant userId tierId ruleKey = db.findGrant (userId, event.id, ruleKey) := by
  obtain ⟨rows, -, ⟨-, hevent⟩ | ⟨-, hnone, hfresh, -⟩⟩ := h.rows
  · rw [PassDb.tierGrant, hevent]
    rfl
  · have hmissing : db.findGrant (userId, event.id, ruleKey) = none := by
      rw [PassDb.findGrant, List.find?_eq_none]
      intro grant hgrant hkey
      obtain ⟨row, hrow, hid⟩ := List.mem_map.mp (hsound.source grant hgrant)
      have hkey := beq_iff_eq.mp hkey
      simp only [RewardGrant.entry, Prod.mk.injEq] at hkey
      exact hfresh row hrow (hid.trans hkey.2.1)
    rw [PassDb.tierGrant, hnone, hmissing]
    rfl

/-- Events of different tiers have different identifiers. -/
theorem PassSound.tierEvent_id (hsound : PassSound db) {userId' : UserId} {tierId tierId' : TierId}
    {event event' : EngagementEvent} (hevent : db.tierEvent userId tierId = some event)
    (hevent' : db.tierEvent userId' tierId' = some event') (hid : event.id = event'.id) :
    userId' = userId ∧ tierId' = tierId := by
  have hsame := eq_of_unique hsound.events (List.mem_of_find?_eq_some hevent)
    (List.mem_of_find?_eq_some hevent') hid
  subst hsame
  obtain ⟨huser, -, -, hsource⟩ := hasSource_iff.mp (tierEvent_source hevent)
  obtain ⟨huser', -, -, hsource'⟩ := hasSource_iff.mp (tierEvent_source hevent')
  exact ⟨huser'.symm.trans huser, hsource'.symm.trans hsource⟩

theorem TierRecorded.sound {event : EngagementEvent} {keep : Bool} {tierId : TierId}
    (h : TierRecorded db db' userId tierId event keep now) (hsound : PassSound db) :
    PassSound db' := by
  have hframe := h.frame
  have hgrants : db'.rewardGrants = db.rewardGrants := by rw [hframe]
  have htiers : db'.tiers = db.tiers := by rw [hframe]
  refine ⟨htiers ▸ hsound.tiers, ?_, ?_, hgrants ▸ hsound.claimed⟩
  · rcases h.ids with hids | ⟨hids, hfresh⟩
    · exact hids ▸ hsound.events
    · rw [hids, List.nodup_append]
      refine ⟨hsound.events, List.nodup_singleton _, ?_⟩
      intro id hid id' hid'
      obtain ⟨row, hrow, rfl⟩ := List.mem_map.mp hid
      rw [List.mem_singleton.mp hid']
      exact hfresh row hrow
  · rw [hgrants]
    intro grant hgrant
    have hold := hsound.source grant hgrant
    rcases h.ids with hids | ⟨hids, -⟩
    · exact hids ▸ hold
    · exact hids ▸ List.mem_append_left _ hold

/-- Grants may be claimed, and added as claimed grants of events that exist. -/
theorem PassSound.of_grants (hsound : PassSound db) (htiers : db'.tiers = db.tiers)
    (hevents : db'.points.events = db.points.events)
    (hgrants : ∀ grant ∈ db'.rewardGrants,
      (∃ old ∈ db.rewardGrants, grant.sourceEventId = old.sourceEventId ∧
        grant.ruleKey = old.ruleKey ∧ (old.claimedAt ≠ none → grant.claimedAt ≠ none)) ∨
      grant.claimedAt ≠ none ∧ grant.sourceEventId ∈ db.points.events.map (·.id)) :
    PassSound db' := by
  refine ⟨htiers ▸ hsound.tiers, hevents ▸ hsound.events, ?_, ?_⟩
  · intro grant hgrant
    rw [hevents]
    rcases hgrants grant hgrant with ⟨old, hold, hsource, -⟩ | ⟨-, hsource⟩
    · rw [hsource]
      exact hsound.source old hold
    · exact hsource
  · intro grant hgrant rest hrule
    rcases hgrants grant hgrant with ⟨old, hold, -, hsame, hkept⟩ | ⟨hclaimed, -⟩
    · exact hkept (hsound.claimed old hold rest (hsame ▸ hrule))
    · exact hclaimed

/-- The tables after the repair of one tier. -/
structure TierRepaired (db db' : PassDb) (userId : UserId) (tier : PassTier) (draws : RepairDraws)
    (added : List RewardGrant) : Prop where
  frame : db' = { db with points := db'.points, rewardGrants := db'.rewardGrants }
  grants : db'.rewardGrants = db.rewardGrants ++ added
  values : added.map (fun grant => (grant.userId, grant.ruleKey, some grant.rewardId)) =
    if (db.tierGrant userId tier.id tier.repairRule).isSome then []
    else [(userId, tier.repairRule, tier.rewardId)]
  grantIds : ∀ grant ∈ added, grant.id = draws.grantId
  eventIds : ∀ id ∈ db'.points.events.map (·.id),
    id = draws.eventId ∨ id ∈ db.points.events.map (·.id)
  sound : PassSound db'
  repaired : Repaired db' userId tier
  events : ∀ tierId, tierId ≠ tier.id → db'.tierEvent userId tierId = db.tierEvent userId tierId
  others : ∀ tierId, tierId ≠ tier.id → ∀ event, db.tierEvent userId tierId = some event →
    ∀ ruleKey, db'.findGrant (userId, event.id, ruleKey) = db.findGrant (userId, event.id, ruleKey)

/-- A tier whose reward was delivered before. -/
theorem repairTier_delivered {recorded : PassDb} {rewardId : RewardId} {draws : RepairDraws}
    {grant : RewardGrant} (hreward : tier.rewardId = some rewardId)
    (hrecord : recordTierClaimed db userId tier
      [("seasonId", .str tier.seasonId), ("requiredXp", .num tier.requiredXp)] draws.eventId now
      true = .ok (recorded, event))
    (hexisting : recorded.findGrant (userId, event.id, tier.repairRule) = some grant)
    (hclaimed : grant.claimedAt ≠ none) :
    repairTier db userId tier draws now = .ok (recorded, 0) := by
  obtain ⟨claimedAt, hclaimedAt⟩ := Option.ne_none_iff_exists'.mp hclaimed
  have hreuse : grantReward recorded.toGrowthDb userId rewardId event.id tier.repairRule
      draws.grantId now = .ok (recorded.toGrowthDb, grant) := by
    rw [PassDb.findGrant] at hexisting
    rw [grantReward, hexisting]
  simp only [repairTier, hreward, hrecord, bind, Except.bind, hreuse, hclaimedAt]
  rfl

/-- The grant that a repair adds, claimed at once. -/
def repairGrant (userId : UserId) (tier : PassTier) (rewardId : RewardId) (eventId : EventId)
    (draws : RepairDraws) (now : Time) : RewardGrant :=
  { id := draws.grantId, userId := userId, rewardId := rewardId, sourceEventId := eventId,
    ruleKey := tier.repairRule, grantedAt := now, claimedAt := some now }

theorem repairGrant_key {rewardId : RewardId} {eventId : EventId} {draws : RepairDraws} :
    (repairGrant userId tier rewardId eventId draws now).entry.1 =
      (userId, eventId, tier.repairRule) := rfl

/-- A tier whose reward was not delivered. -/
theorem repairTier_missing {recorded : PassDb} {rewardId : RewardId} {reward : RewardCatalog}
    {draws : RepairDraws} (hreward : tier.rewardId = some rewardId)
    (hrecord : recordTierClaimed db userId tier
      [("seasonId", .str tier.seasonId), ("requiredXp", .num tier.requiredXp)] draws.eventId now
      true = .ok (recorded, event))
    (hmissing : recorded.findGrant (userId, event.id, tier.repairRule) = none)
    (hfind : recorded.rewards.find? (fun row => row.id == rewardId) = some reward)
    (hpublished : reward.status = .published)
    (hgrant : ∀ grant ∈ recorded.rewardGrants, grant.id ≠ draws.grantId) :
    repairTier db userId tier draws now =
      .ok ({ recorded with rewardGrants := recorded.rewardGrants ++
        [repairGrant userId tier rewardId event.id draws now] }, 1) := by
  rw [PassDb.findGrant] at hmissing
  have hnew := grantReward_new hmissing hfind hpublished hgrant now
  have hpatch : patch (·.id == draws.grantId) (fun row : RewardGrant =>
      { row with claimedAt := some now }) recorded.rewardGrants = recorded.rewardGrants := by
    apply patch_of_forall_not
    intro row hrow
    exact beq_eq_false_iff_ne.mpr (hgrant row hrow)
  simp only [repairTier, hreward, hrecord, bind, Except.bind, hnew, claimGrant, patch_append,
    hpatch]
  simp [patch, repairGrant]

theorem repairTier_ok (hsound : PassSound db) {rewardId : RewardId} {reward : RewardCatalog}
    (hreward : tier.rewardId = some rewardId)
    (hfind : db.rewards.find? (fun row => row.id == rewardId) = some reward)
    (hpublished : reward.status = .published) {draws : RepairDraws}
    (hevent : ∀ event ∈ db.points.events, event.id ≠ draws.eventId)
    (hgrant : ∀ grant ∈ db.rewardGrants, grant.id ≠ draws.grantId) (userId : UserId) (now : Time) :
    ∃ db' added, repairTier db userId tier draws now = .ok (db', added.length) ∧
      TierRepaired db db' userId tier draws added := by
  obtain ⟨⟨recorded, event⟩, hrecord⟩ := recordTierClaimed_fresh hevent userId tier
    [("seasonId", .str tier.seasonId), ("requiredXp", .num tier.requiredXp)] now true
  obtain ⟨hrecorded, hid⟩ := recordTierClaimed_ok hrecord
  obtain ⟨event', hevent', hsame, hstatus, hat⟩ := hrecorded.found
  have hsound' := hrecorded.sound hsound
  have hframe := hrecorded.frame
  have hgrants : recorded.rewardGrants = db.rewardGrants := by rw [hframe]
  have hrewards : recorded.rewards = db.rewards := by rw [hframe]
  have hkey : db.tierGrant userId tier.id tier.repairRule =
      recorded.findGrant (userId, event.id, tier.repairRule) := by
    rw [hrecorded.tierGrant_eq hsound, PassDb.findGrant, PassDb.findGrant, hgrants]
  have heventIds : ∀ id ∈ recorded.points.events.map (·.id),
      id = draws.eventId ∨ id ∈ db.points.events.map (·.id) := by
    intro id hmem
    rcases hrecorded.ids with hids | ⟨hids, hfresh⟩
    · exact .inr (hids ▸ hmem)
    · rw [hids] at hmem
      rcases List.mem_append.mp hmem with hold | hnew
      · exact .inr hold
      · rw [List.mem_singleton.mp hnew]
        exact hid
  have hevents : ∀ tierId, tierId ≠ tier.id →
      recorded.tierEvent userId tierId = db.tierEvent userId tierId :=
    fun tierId hne => hrecorded.others hsound.events fun hboth => hne hboth.2
  cases hexisting : recorded.findGrant (userId, event.id, tier.repairRule) with
  | some grant =>
    have hclaimed : grant.claimedAt ≠ none := by
      obtain ⟨hmem, hentry⟩ := mem_of_find_eq_some (g := fun row : RewardGrant => row.entry.1)
        hexisting
      simp only [RewardGrant.entry, Prod.mk.injEq] at hentry
      exact hsound'.claimed grant hmem tier.id hentry.2.2
    refine ⟨recorded, [], repairTier_delivered hreward hrecord hexisting hclaimed, ?_⟩
    exact
      { frame := by rw [hframe]
        grants := by rw [hgrants, List.append_nil]
        values := by simp [hkey, hexisting]
        grantIds := by simp
        eventIds := heventIds
        sound := hsound'
        repaired := ⟨event', grant, hevent', hstatus, hat, hsame ▸ hexisting, hclaimed⟩
        events := hevents
        others := fun _ _ _ _ _ => by rw [PassDb.findGrant, hgrants, PassDb.findGrant] }
  | none =>
    let grant := repairGrant userId tier rewardId event.id draws now
    have hdone := repairTier_missing hreward hrecord hexisting (hrewards ▸ hfind) hpublished
      (hgrants ▸ hgrant)
    refine ⟨_, [grant], hdone, ?_⟩
    exact
      { frame := by rw [hframe]
        grants := by rw [hgrants]
        values := by simp [hkey, hexisting, hreward, grant, repairGrant]
        grantIds := by simp [grant, repairGrant]
        eventIds := heventIds
        sound := by
          refine PassSound.of_grants hsound' ?_ ?_ ?_
          · rfl
          · rfl
          intro row hrow
          rcases List.mem_append.mp hrow with hold | hnew
          · exact .inl ⟨row, hold, rfl, rfl, id⟩
          · rw [List.mem_singleton.mp hnew]
            refine .inr ⟨by simp [repairGrant], ?_⟩
            show event.id ∈ _
            rw [← hsame]
            exact List.mem_map_of_mem (List.mem_of_find?_eq_some hevent')
        repaired := by
          refine ⟨event', grant, hevent', hstatus, hat, ?_, by simp [grant, repairGrant]⟩
          rw [PassDb.findGrant] at hexisting ⊢
          rw [find_insert, hsame, hexisting]
          simp [grant, repairGrant_key]
        events := hevents
        others := by
          intro tierId hne other hother ruleKey
          have hid : event.id ≠ other.id := by
            intro hid
            rw [← hevents tierId hne] at hother
            exact hne (hsound'.tierEvent_id hevent' hother (hsame.trans hid)).2
          rw [PassDb.findGrant, find_insert, hgrants, PassDb.findGrant]
          simp [repairGrant_key, hid] }

namespace TierRepaired

variable {draws : RepairDraws} {added : List RewardGrant} {tier' : PassTier}

theorem tierGrant_eq (h : TierRepaired db db' userId tier draws added) (hne : tier'.id ≠ tier.id)
    (ruleKey : String) :
    db'.tierGrant userId tier'.id ruleKey = db.tierGrant userId tier'.id ruleKey := by
  rw [PassDb.tierGrant, PassDb.tierGrant, h.events tier'.id hne]
  cases hevent : db.tierEvent userId tier'.id with
  | none => rfl
  | some event => exact h.others tier'.id hne event hevent ruleKey

theorem keeps (h : TierRepaired db db' userId tier draws added) (hne : tier'.id ≠ tier.id)
    (hrepaired : Repaired db userId tier') : Repaired db' userId tier' := by
  obtain ⟨event, grant, hevent, hstatus, hat, hgrant, hclaimed⟩ := hrepaired
  refine ⟨event, grant, ?_, hstatus, hat, ?_, hclaimed⟩
  · rw [h.events tier'.id hne, hevent]
  · rw [h.others tier'.id hne event hevent, hgrant]

end TierRepaired

/-- The reward of the tier can be granted. -/
def PublishedReward (db : PassDb) (tier : PassTier) : Prop :=
  ∃ rewardId reward, tier.rewardId = some rewardId ∧
    db.rewards.find? (fun row => row.id == rewardId) = some reward ∧ reward.status = .published

/-- The tables after the repair of a list of tiers. -/
structure TiersRepaired (db db' : PassDb) (userId : UserId) (tiers : List PassTier)
    (added : List RewardGrant) : Prop where
  frame : db' = { db with points := db'.points, rewardGrants := db'.rewardGrants }
  grants : db'.rewardGrants = db.rewardGrants ++ added
  values : added.map (fun grant => (grant.userId, grant.ruleKey, some grant.rewardId)) =
    (tiers.filter fun tier => ¬(db.tierGrant userId tier.id tier.repairRule).isSome).map
      (fun tier => (userId, tier.repairRule, tier.rewardId))
  sound : PassSound db'
  repaired : ∀ tier ∈ tiers, Repaired db' userId tier
  kept : ∀ tier, tier.id ∉ tiers.map (·.id) → Repaired db userId tier → Repaired db' userId tier

theorem repairTiers_ok {tiers : List PassTier} {draws : TierId → RepairDraws}
    (hsound : PassSound db) (htiers : (tiers.map (·.id)).Nodup)
    (hrewards : ∀ tier ∈ tiers, PublishedReward db tier) (hfresh : FreshRepairs db tiers draws)
    (now : Time) :
    ∃ db' added, repairTiers userId draws now tiers db = .ok (db', added.length) ∧
      TiersRepaired db db' userId tiers added := by
  induction tiers generalizing db with
  | nil =>
    refine ⟨db, [], rfl, ?_⟩
    exact
      { frame := rfl
        grants := (List.append_nil _).symm
        values := rfl
        sound := hsound
        repaired := by simp
        kept := fun _ _ hrepaired => hrepaired }
  | cons tier tiers ih =>
    rw [List.map_cons, List.nodup_cons] at htiers
    obtain ⟨hnotin, htiers⟩ := htiers
    obtain ⟨rewardId, reward, hreward, hfind, hpublished⟩ := hrewards tier List.mem_cons_self
    obtain ⟨hdistinct, hpairwise⟩ := List.pairwise_cons.mp hfresh.distinct
    obtain ⟨repaired, first, hstep, hfirst⟩ := repairTier_ok hsound hreward hfind hpublished
      (hfresh.events tier List.mem_cons_self) (hfresh.grants tier List.mem_cons_self) userId now
    have hne : ∀ tier' ∈ tiers, tier'.id ≠ tier.id :=
      fun tier' hmem heq => hnotin (heq ▸ List.mem_map_of_mem hmem)
    have hrewards' : ∀ tier' ∈ tiers, PublishedReward repaired tier' := by
      intro tier' hmem
      have hpub := hrewards tier' (List.mem_cons_of_mem _ hmem)
      rw [hfirst.frame]
      exact hpub
    have hfresh' : FreshRepairs repaired tiers draws := by
      refine ⟨?_, ?_, hpairwise⟩
      · intro tier' hmem event hevent
        rcases hfirst.eventIds _ (List.mem_map_of_mem hevent) with hnew | hold
        · rw [hnew]
          exact (hdistinct tier' hmem).1
        · obtain ⟨row, hrow, hid⟩ := List.mem_map.mp hold
          rw [← hid]
          exact hfresh.events tier' (List.mem_cons_of_mem _ hmem) row hrow
      · intro tier' hmem grant hgrant
        rw [hfirst.grants] at hgrant
        rcases List.mem_append.mp hgrant with hold | hnew
        · exact hfresh.grants tier' (List.mem_cons_of_mem _ hmem) grant hold
        · rw [hfirst.grantIds grant hnew]
          exact (hdistinct tier' hmem).2
    obtain ⟨db', rest, hrest, hlast⟩ := ih hfirst.sound htiers hrewards' hfresh'
    refine ⟨db', first ++ rest, ?_, ?_⟩
    · rw [repairTiers, hstep]
      simp only [bind, Except.bind, hrest, List.length_append]
      rfl
    · exact
        { frame := by
            have hstart : { repaired with points := db'.points, rewardGrants := db'.rewardGrants } =
                { db with points := db'.points, rewardGrants := db'.rewardGrants } := by
              rw [hfirst.frame]
            exact hlast.frame.trans hstart
          grants := by rw [hlast.grants, hfirst.grants, List.append_assoc]
          values := by
            have hsame : (tiers.filter fun tier' =>
                ¬(repaired.tierGrant userId tier'.id tier'.repairRule).isSome) =
                tiers.filter fun tier' =>
                  ¬(db.tierGrant userId tier'.id tier'.repairRule).isSome := by
              apply List.filter_congr
              intro tier' hmem
              rw [hfirst.tierGrant_eq (hne tier' hmem)]
            rw [List.map_append, hfirst.values, hlast.values, hsame, List.filter_cons]
            cases (db.tierGrant userId tier.id tier.repairRule).isSome <;> simp
          sound := hlast.sound
          repaired := by
            intro tier' hmem
            rcases List.mem_cons.mp hmem with rfl | hmem
            · exact hlast.kept tier' hnotin hfirst.repaired
            · exact hlast.repaired tier' hmem
          kept := by
            intro tier' hnot hrepaired
            rw [List.map_cons, List.mem_cons, not_or] at hnot
            exact hlast.kept tier' hnot.2 (hfirst.keeps hnot.1 hrepaired) }

/-- A grant under the rule of a tier is claimed as it is made. -/
theorem PassSound.grantReward (hsound : PassSound db) {granted : GrowthDb} {grant : RewardGrant}
    {rewardId : RewardId} {eventId : EventId} {rest grantId : String}
    (hevent : eventId ∈ db.points.events.map (·.id))
    (h : Fanfolio.grantReward db.toGrowthDb userId rewardId eventId ("pass_tier:" ++ rest) grantId
      now = .ok (granted, grant)) :
    PassSound (claimGrant { db with toGrowthDb := granted } grant.id now) ∧
      (grant.claimedAt ≠ none ∨ db.rewards.find? (fun row => row.id == rewardId) = none →
        PassSound { db with toGrowthDb := granted }) := by
  obtain ⟨hkey, ⟨rfl, hmem⟩ | ⟨rfl, hnew, reward, hreward⟩⟩ := grantReward_row h
  · refine ⟨?_, fun _ => hsound⟩
    refine PassSound.of_grants hsound ?_ ?_ ?_
    · rfl
    · rfl
    intro row hrow
    obtain ⟨old, hold, rfl⟩ := mem_patch.mp hrow
    refine .inl ⟨old, hold, ?_⟩
    split <;> simp
  · constructor
    · refine PassSound.of_grants hsound ?_ ?_ ?_
      · rfl
      · rfl
      intro row hrow
      obtain ⟨old, hold, rfl⟩ := mem_patch.mp hrow
      rcases List.mem_append.mp hold with hold | hlast
      · refine .inl ⟨old, hold, ?_⟩
        split <;> simp
      · obtain rfl := List.mem_singleton.mp hlast
        simp only [RewardGrant.entry, Prod.mk.injEq] at hkey
        refine .inr ?_
        simp only [beq_self_eq_true, if_true, hkey.2.1]
        exact ⟨by simp, hevent⟩
    · rintro (hclaimed | hnone)
      · exact absurd hnew hclaimed
      · rw [hreward] at hnone
        cases hnone

theorem TierRecorded.eventId_mem {event : EngagementEvent} {keep : Bool} {tierId : TierId}
    (h : TierRecorded db db' userId tierId event keep now) :
    event.id ∈ db'.points.events.map (·.id) := by
  obtain ⟨event', hevent', hid, -⟩ := h.found
  exact hid ▸ List.mem_map_of_mem (List.mem_of_find?_eq_some hevent')

theorem repairTier_sound (hsound : PassSound db) {draws : RepairDraws} {count : Nat}
    (h : repairTier db userId tier draws now = .ok (db', count)) : PassSound db' := by
  unfold repairTier at h
  split at h
  · obtain ⟨rfl, -⟩ := Prod.mk.inj (Except.ok.inj h)
    exact hsound
  · simp only [bind_ok, Prod.exists] at h
    obtain ⟨recorded, event, hrecord, granted, grant, hgrant, h⟩ := h
    obtain ⟨hrecorded, -⟩ := recordTierClaimed_ok hrecord
    obtain ⟨hclaim, hkeep⟩ := (hrecorded.sound hsound).grantReward hrecorded.eventId_mem hgrant
    split at h
    · rename_i at' hclaimed
      obtain ⟨rfl, -⟩ := Prod.mk.inj (pure_ok.mp h)
      exact hkeep (.inl (by simp [hclaimed]))
    · obtain ⟨rfl, -⟩ := Prod.mk.inj (pure_ok.mp h)
      exact hclaim

theorem repairTiers_sound {tiers : List PassTier} {draws : TierId → RepairDraws} {count : Nat}
    (hsound : PassSound db) (h : repairTiers userId draws now tiers db = .ok (db', count)) :
    PassSound db' := by
  induction tiers generalizing db count with
  | nil =>
    obtain ⟨rfl, -⟩ := Prod.mk.inj (Except.ok.inj h)
    exact hsound
  | cons tier tiers ih =>
    simp only [repairTiers, bind_ok, Prod.exists, pure_ok, Prod.mk.injEq] at h
    obtain ⟨repaired, first, hfirst, _, rest, hrest, rfl, -⟩ := h
    exact ih (repairTier_sound hsound hfirst) hrest

theorem deliverTierReward_sound {track : PassTrack} {event : EngagementEvent} {draws : ClaimDraws}
    (hsound : PassSound db) (hevent : event.id ∈ db.points.events.map (·.id))
    (h : deliverTierReward db userId tier track event draws now = .ok db') : PassSound db' := by
  unfold deliverTierReward at h
  split at h
  · obtain rfl := Except.ok.inj h
    exact hsound
  · rename_i rewardId _
    simp only [bind_ok, Prod.exists] at h
    obtain ⟨granted, grant, hgrant, h⟩ := h
    rw [PassTier.claimRule, String.append_assoc, String.append_assoc] at hgrant
    obtain ⟨hclaim, hkeep⟩ := hsound.grantReward hevent hgrant
    have hrewards : granted.rewards = db.rewards := by
      obtain ⟨rewardGrants, rfl, -⟩ := grantReward_ok hgrant
      rfl
    split at h
    · rename_i hnone
      obtain rfl := pure_ok.mp h
      exact hkeep (.inr (hrewards ▸ hnone))
    · split at h
      · simp only [bind_ok, orFail_ok, ensure_ok, exists_const, pure_ok] at h
        obtain ⟨pack, -, -, -, rfl⟩ := h
        exact ⟨hclaim.tiers, hclaim.events, hclaim.source, hclaim.claimed⟩
      · obtain rfl := pure_ok.mp h
        exact hclaim

theorem claimPassTier_sound {tierId : TierId} {track : PassTrack} {draws : ClaimDraws}
    (hsound : PassSound db) (h : claimPassTier db userId tierId track draws now = .ok db') :
    PassSound db' := by
  simp only [claimPassTier, finishClaim, bind_ok, Prod.exists, ensure_ok, exists_const, pure_ok] at h
  obtain ⟨tier, season, -, refreshed, progress, hrefresh, -, -, -, recorded, event, hrecord,
    delivered, hdeliver, rfl⟩ := h
  have hstart : PassSound { db with toGrowthDb := refreshed } := by
    rw [refreshPassProgress_frame hrefresh]
    exact ⟨hsound.tiers, hsound.events, hsound.source, hsound.claimed⟩
  obtain ⟨hrecorded, -⟩ := recordTierClaimed_ok hrecord
  have hdelivered := deliverTierReward_sound (hrecorded.sound hstart) hrecorded.eventId_mem hdeliver
  exact ⟨hdelivered.tiers, hdelivered.events, hdelivered.source, hdelivered.claimed⟩

theorem passStep_sound (hsound : PassSound db) (call : PassCall) : PassSound (passStep db call) := by
  cases call with
  | claim userId tierId track draws now =>
    rw [passStep]
    split
    · rename_i db' hclaim
      exact claimPassTier_sound hsound hclaim
    · exact hsound
  | reconcile userId order draws now =>
    rw [passStep]
    exact commitOr_keeps hsound fun db' count hdone => repairTiers_sound hsound hdone

theorem repairTiers_of_repaired {tiers : List PassTier} (hsound : PassSound db)
    (h : ∀ tier ∈ tiers, Repaired db userId tier) (draws : TierId → RepairDraws) (now : Time) :
    repairTiers userId draws now tiers db = .ok (db, 0) := by
  induction tiers with
  | nil => rfl
  | cons tier tiers ih =>
    have hrest := ih fun tier' hmem => h tier' (List.mem_cons_of_mem _ hmem)
    rw [repairTiers, repairTier_of_repaired hsound (h tier List.mem_cons_self)]
    simp only [bind, Except.bind, hrest]
    rfl

theorem claimedGlobalTiers_perm (db : PassDb) (userId : UserId) (order order' : List PassTier) :
    (db.claimedGlobalTiers userId order).Perm (db.claimedGlobalTiers userId order') :=
  (scan_perm order _).trans (scan_perm order' _).symm

theorem PassSound.claimedGlobalTiers_nodup (hsound : PassSound db) (userId : UserId)
    (order : List PassTier) : ((db.claimedGlobalTiers userId order).map (·.id)).Nodup :=
  ((scan_perm order _).map _).nodup_iff.mpr (nodup_delete _ hsound.tiers)

theorem publishedReward_of_claimedGlobal {order : List PassTier}
    (h : tier ∈ db.claimedGlobalTiers userId order) : PublishedReward db tier := by
  have hmem := (scan_perm order _).mem_iff.mp h
  simp only [List.mem_filter, Bool.and_eq_true, Option.any_eq_true, beq_iff_eq] at hmem
  obtain ⟨-, -, rewardId, hreward, reward, hfind, hpublished⟩ := hmem
  exact ⟨rewardId, reward, hreward, hfind, hpublished⟩

/-- A repair grants the reward of every claimed tier that no repair has granted before, and
another repair changes nothing. -/
theorem reconcile_repairs (hsound : PassSound db) {order : List PassTier}
    {draws : TierId → RepairDraws}
    (hfresh : FreshRepairs db (db.claimedGlobalTiers userId order) draws) (now : Time) :
    ∃ db' added,
      reconcileClaimedGlobalPassRewardGrants db userId order draws now = .ok (db', added.length) ∧
      TiersRepaired db db' userId (db.claimedGlobalTiers userId order) added ∧
      ∀ order' draws' now',
        reconcileClaimedGlobalPassRewardGrants db' userId order' draws' now' = .ok (db', 0) := by
  obtain ⟨db', added, hdone, hrepaired⟩ := repairTiers_ok hsound
    (hsound.claimedGlobalTiers_nodup userId order)
    (fun tier hmem => publishedReward_of_claimedGlobal hmem) hfresh now
  refine ⟨db', added, hdone, hrepaired, ?_⟩
  intro order' draws' now'
  apply repairTiers_of_repaired hrepaired.sound
  intro tier hmem
  have hsame : db'.claimedGlobalTiers userId order' = db.claimedGlobalTiers userId order' := by
    rw [hrepaired.frame]
    rfl
  rw [hsame] at hmem
  exact hrepaired.repaired tier ((claimedGlobalTiers_perm db userId order order').mem_iff.mpr hmem)

/-- Fresh identifiers can be drawn in every state. -/
theorem exists_freshRepairs (db : PassDb) {tiers : List PassTier}
    (htiers : (tiers.map (·.id)).Nodup) : ∃ draws, FreshRepairs db tiers draws := by
  obtain ⟨p, hp⟩ := exists_fresh_prefix (db.points.events.map (·.id) ++ db.rewardGrants.map (·.id))
  refine ⟨fun tierId => ⟨p ++ tierId, p ++ tierId⟩, ?_, ?_, ?_⟩
  · intro tier _ event hevent
    exact hp _ (List.mem_append_left _ (List.mem_map_of_mem hevent)) _
  · intro tier _ grant hgrant
    exact hp _ (List.mem_append_right _ (List.mem_map_of_mem hgrant)) _
  · refine (List.pairwise_map.mp htiers).imp ?_
    intro tier tier' hne
    have happend : p ++ tier.id ≠ p ++ tier'.id :=
      fun heq => hne (String.append_right_inj p |>.mp heq)
    exact ⟨happend, happend⟩

theorem repairsMissing_iff (hsound : PassSound db) (userId : UserId) :
    RepairsMissing db userId ↔ ClaimsRepaired db userId := by
  constructor
  · intro h tier hmem hclaimed
    obtain ⟨draws, hfresh⟩ := exists_freshRepairs db (hsound.claimedGlobalTiers_nodup userId [])
    obtain ⟨db', added, hdone, -, hvalues, -⟩ := h [] draws 0 hfresh
    obtain ⟨_, added', hdone', hrepaired, -⟩ := reconcile_repairs hsound hfresh 0
    rw [hdone] at hdone'
    have hlength : added.length = added'.length := (Prod.mk.inj (Except.ok.inj hdone')).2
    have hcount := congrArg List.length hvalues
    have hcount' := congrArg List.length hrepaired.values
    simp only [List.length_map] at hcount hcount'
    by_contra hmissing
    have hsub : ((db.claimedGlobalTiers userId []).filter fun tier =>
          ¬HasTierGrant db userId tier).Sublist
        ((db.claimedGlobalTiers userId []).filter fun tier =>
          ¬(db.tierGrant userId tier.id tier.repairRule).isSome) := by
      apply List.monotone_filter_right
      intro tier hlacks
      rw [decide_eq_true_iff] at hlacks ⊢
      exact fun hhas => hlacks (.inr hhas)
    have heq := hsub.eq_of_length (by omega)
    have hlacks : tier ∈ (db.claimedGlobalTiers userId []).filter fun tier =>
        ¬HasTierGrant db userId tier := by
      rw [heq, List.mem_filter]
      exact ⟨hmem, by simpa using hmissing⟩
    rw [List.mem_filter, decide_eq_true_iff] at hlacks
    exact hlacks.2 (.inl hclaimed)
  · intro h order draws now hfresh
    obtain ⟨db', added, hdone, hrepaired, hagain⟩ := reconcile_repairs hsound hfresh now
    refine ⟨db', added, hdone, hrepaired.grants, ?_, hagain⟩
    rw [hrepaired.values]
    congr 1
    apply List.filter_congr
    intro tier hmem
    have hclaims := h tier ((claimedGlobalTiers_perm db userId order []).mem_iff.mp hmem)
    rw [decide_eq_decide, not_iff_not, HasTierGrant]
    exact ⟨.inr, fun hhas => hhas.elim hclaims id⟩

end

/-- In the states that claims and repairs reach, a repair grants what is missing, and only that,
exactly if no claim has left a grant of its own. -/
theorem reconcile_repairsMissing_iff {db : PassDb} (hsound : PassSound db) (calls : List PassCall)
    (userId : UserId) :
    RepairsMissing (run passStep db calls) userId ↔ ClaimsRepaired (run passStep db calls) userId :=
  repairsMissing_iff (run_of_step hsound fun _ call hs => passStep_sound hs call) userId

theorem globalPass_sound (claimedTierIds : List TierId) : PassSound (globalPass claimedTierIds) := by
  refine ⟨List.nodup_singleton _, List.nodup_nil, ?_, ?_⟩
  · intro grant hgrant
    cases hgrant
  · intro grant hgrant
    cases hgrant

def freeClaim : PassCall := .claim "fan" "tier" .free ⟨"evt_1", "grant_1", "ent_1"⟩ 10

def laterRepair : PassCall := .reconcile "fan" [] (fun _ => ⟨"evt_2", "grant_2"⟩) 20

/-- A tier that was claimed before claims granted rewards is repaired once. -/
theorem reconcile_repairsMissing_claimedBefore :
    RepairsMissing (run passStep (globalPass ["tier"]) [laterRepair]) "fan" :=
  (reconcile_repairsMissing_iff (globalPass_sound _) [laterRepair] "fan").mpr (by decide)

/-- A repair after a claim grants the reward a second time. -/
theorem reconcile_grantsTwice_afterClaim :
    (run passStep (globalPass []) [freeClaim, laterRepair]).rewardGrants.map
      (fun grant => (grant.rewardId, grant.ruleKey)) =
      [("badge", "pass_tier:tier:free"), ("badge", "pass_tier:tier")] ∧
    ¬∀ (db : PassDb), PassSound db → ∀ (calls : List PassCall) (userId : UserId),
      RepairsMissing (run passStep db calls) userId := by
  refine ⟨by decide, fun h => ?_⟩
  have hsound := passStep_sound (globalPass_sound []) freeClaim
  have hclaims := (repairsMissing_iff hsound "fan").mp (h _ (globalPass_sound []) [freeClaim] "fan")
  exact absurd hclaims (by decide)

end Fanfolio
