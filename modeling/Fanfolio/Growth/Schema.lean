import Fanfolio.Points.Operations

/-!
# The growth tables

XP, levels, rewards, missions, achievements and season passes: what an engagement event of a
fan feeds when a worker processes it.
-/

namespace Fanfolio

open Framework

abbrev MissionId := String
abbrev AchievementId := String
abbrev RewardId := String
abbrev SeasonId := String
abbrev TierId := String
abbrev ProgressId := String

/-- The `status` of missions, achievements, rewards, seasons and level policies. -/
inductive DefinitionStatus where
  | draft
  | pendingReview
  | published
  | disabled
  | ended
deriving DecidableEq, Repr

/-- A row of `xp_ledger`. -/
structure XpLedger where
  id : LedgerId
  userId : UserId
  eventId : EventId
  ruleKey : String
  amount : Int
  createdAt : Time
deriving DecidableEq, Repr

structure FanLevel where
  userId : UserId
  totalXp : Int := 0
  level : Int := 1
deriving DecidableEq, Repr

structure LevelPolicyVersion where
  id : String
  status : DefinitionStatus
  isActive : Bool
  effectiveAt : Option Time
deriving DecidableEq, Repr

structure LevelThreshold where
  policyVersionId : String
  level : Nat
  requiredXp : Int
deriving DecidableEq, Repr

inductive RewardType where
  | title
  | badge
  | profileFrame
  | collectionTheme
  | seasonBadge
  | photocard
  | digitalBonus
  | cardPack
deriving DecidableEq, Repr

/-- A row of `reward_catalog`; `cardPackId` is the entry of its metadata. -/
structure RewardCatalog where
  id : RewardId
  organizationId : Option String := none
  artistId : Option String := none
  rewardType : RewardType := .badge
  cardPackId : String := ""
  status : DefinitionStatus
deriving DecidableEq, Repr

/-- A row of `reward_grants`. -/
structure RewardGrant where
  id : String
  userId : UserId
  rewardId : RewardId
  sourceEventId : EventId
  ruleKey : String
  grantedAt : Time
  claimedAt : Option Time := none
  revokedAt : Option Time := none
deriving DecidableEq, Repr

inductive Recurrence where
  | once
  | daily
  | weekly
  | season
deriving DecidableEq, Repr

/-- The entries of a `reward_payload` that are delivered, zero where one is missing. -/
structure MissionReward where
  xp : Int := 0
  points : Int := 0
  rewardId : Option RewardId := none
deriving DecidableEq, Repr

/-- The XP that is granted, if any. -/
def MissionReward.xpPart (reward : MissionReward) : Option Int :=
  if reward.xp = 0 then none else some reward.xp

def MissionReward.pointPart (reward : MissionReward) : Option Int :=
  if reward.points = 0 then none else some reward.points

theorem MissionReward.eq_empty_iff (reward : MissionReward) : reward = {} ↔
    reward.xpPart = none ∧ reward.pointPart = none ∧ reward.rewardId = none := by
  obtain ⟨xp, points, rewardId⟩ := reward
  simp [xpPart, pointPart]

/-- A row of `mission_definitions`. -/
structure MissionDefinition where
  id : MissionId
  organizationId : Option String := none
  artistId : Option String := none
  title : String
  eventKind : String
  targetValue : Nat
  recurrence : Recurrence := .once
  conditionPayload : JsonObject := []
  rewardPayload : MissionReward := {}
  status : DefinitionStatus := .draft
  startsAt : Option Time := none
  endsAt : Option Time := none
  /-- `ck_mission_definitions_target_positive`. -/
  target_pos : 0 < targetValue
deriving DecidableEq, Repr

/-- A row of `mission_progress`: one fan, one mission, one period. -/
structure MissionProgress where
  id : ProgressId
  userId : UserId
  missionId : MissionId
  periodKey : String
  currentValue : Nat := 0
  completedAt : Option Time := none
  claimedAt : Option Time := none
  updatedAt : Time
deriving DecidableEq, Repr

/-- A row of `achievement_definitions`; its `xpBonus` and `rewardId` are conditions' entries. -/
structure AchievementDefinition where
  id : AchievementId
  organizationId : Option String := none
  artistId : Option String := none
  targetValue : Nat := 1
  xpBonus : Int := 0
  rewardRuleKey : Option RewardId := none
  rewardId : Option RewardId := none
  status : DefinitionStatus := .draft
  startsAt : Option Time := none
  endsAt : Option Time := none
deriving DecidableEq, Repr

/-- The reward that a completion grants: the rule key or else the entry, empty texts left out. -/
def AchievementDefinition.grantedReward (definition : AchievementDefinition) : Option RewardId :=
  definition.rewardRuleKey.filter (· ≠ "") <|> definition.rewardId.filter (· ≠ "")

structure AchievementProgress where
  id : ProgressId
  userId : UserId
  achievementId : AchievementId
  currentValue : Nat := 0
  completedAt : Option Time := none
  updatedAt : Time
deriving DecidableEq, Repr

structure PassSeason where
  id : SeasonId
  artistId : Option String := none
  status : DefinitionStatus := .draft
  isPaid : Bool := false
  premiumEnabled : Bool := false
  startsAt : Option Time := none
  endsAt : Option Time := none
  title : String := ""
  premiumPricePoints : Option Int := none
deriving DecidableEq, Repr

structure PassProgress where
  id : String
  userId : UserId
  seasonId : SeasonId
  currentXp : Int := 0
  claimedTierIds : List TierId := []
  premiumClaimedTierIds : List TierId := []
  updatedAt : Time
deriving DecidableEq, Repr

/-- The tables that processing an event reads and writes; the events are in the point tables. -/
structure GrowthDb where
  points : PointDb
  xpLedger : List XpLedger
  levels : List FanLevel
  policies : List LevelPolicyVersion
  thresholds : List LevelThreshold
  rewards : List RewardCatalog
  rewardGrants : List RewardGrant
  missions : List MissionDefinition
  progress : List MissionProgress
  achievements : List AchievementDefinition
  achievementProgress : List AchievementProgress
  seasons : List PassSeason
  passProgress : List PassProgress
deriving DecidableEq, Repr

/-- What one grant of XP, points or a reward is unique by: user, event and rule. -/
abbrev RuleKey := UserId × EventId × String

def XpLedger.entry (row : XpLedger) : RuleKey × Int :=
  ((row.userId, row.eventId, row.ruleKey), row.amount)

def PointLedger.entry (row : PointLedger) : RuleKey × Int :=
  ((row.userId, row.sourceEventId, row.ruleKey), row.amount)

def RewardGrant.entry (row : RewardGrant) : RuleKey × RewardId :=
  ((row.userId, row.sourceEventId, row.ruleKey), row.rewardId)

/-- The unique key `uq_mission_progress_user_period`. -/
def MissionProgress.key (row : MissionProgress) : UserId × MissionId × String :=
  (row.userId, row.missionId, row.periodKey)

namespace GrowthDb

def events (db : GrowthDb) : List EngagementEvent := db.points.events

def findEvent (db : GrowthDb) (eventId : EventId) : Option EngagementEvent :=
  db.events.find? (fun row => row.id == eventId)

/-- The XP granted so far, by rule key. -/
def xpEntries (db : GrowthDb) : List (RuleKey × Int) := db.xpLedger.map XpLedger.entry

def pointEntries (db : GrowthDb) : List (RuleKey × Int) := db.points.ledger.map PointLedger.entry

def rewardEntries (db : GrowthDb) : List (RuleKey × RewardId) :=
  db.rewardGrants.map RewardGrant.entry

def findProgress (db : GrowthDb) (key : UserId × MissionId × String) : Option MissionProgress :=
  db.progress.find? (fun row => row.key == key)

/-- The progress of a fan on a mission in a period, zero before the first step. -/
def missionValue (db : GrowthDb) (key : UserId × MissionId × String) : Nat :=
  ((db.findProgress key).map (·.currentValue)).getD 0

/-- The unique columns of the tables that an event feeds. -/
structure Constrained (db : GrowthDb) : Prop where
  missions : (db.missions.map (·.id)).Nodup
  progress : (db.progress.map (·.id)).Nodup
  xp : (db.xpEntries.map Prod.fst).Nodup
  points : (db.pointEntries.map Prod.fst).Nodup

end GrowthDb

/-- A text under a key of a payload. -/
def JsonObject.text (o : JsonObject) (key : String) : Option String :=
  match o.get key with
  | some (.scalar (.str s)) => some s
  | _ => none

end Fanfolio
