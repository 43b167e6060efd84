import Fanfolio.Framework.Run
import Fanfolio.Growth.EventStatus

/-!
# Achievements

An administrator creates an achievement with rewards and an XP bonus, and has it published.
From then on the card events of a fan move it towards its target.
-/

namespace Fanfolio

open Framework

/-- The condition types of an achievement. -/
inductive AchievementCondition where
  | firstCard
  | cardCount
  | memberCount
  | specificCard
  | setComplete
  | dropParticipation
deriving DecidableEq, Repr

/-- The entries of a `condition_payload` that the program reads or writes. -/
structure ConditionPayload where
  cardId : Option String := none
  dropId : Option String := none
  memberId : Option String := none
  rewardIds : List RewardId := []
  rewardId : Option RewardId := none
  xpBonus : Int := 0
deriving DecidableEq, Repr

/-- `AchievementDefinitionCreate`, before its last validator. -/
structure AchievementDefinitionCreate where
  organizationId : Option String := none
  artistId : Option String := none
  memberId : Option String := none
  conditionType : AchievementCondition
  targetValue : Nat := 1
  conditionPayload : ConditionPayload := {}
  rewardIds : List RewardId := []
  xpBonus : Nat := 0
  startsAt : Option Time := none
  endsAt : Option Time := none
  target_pos : 1 ≤ targetValue := by decide
  rewardIds_le : rewardIds.length ≤ 20 := by decide
deriving DecidableEq, Repr

namespace AchievementDefinitionCreate

/-- The payload that `include_condition_metadata` puts together. -/
def mergedPayload (request : AchievementDefinitionCreate) : ConditionPayload :=
  let withMember := match request.memberId with
    | some memberId => { request.conditionPayload with memberId := some memberId }
    | none => request.conditionPayload
  let withRewards := match request.rewardIds with
    | [] => withMember
    | rewardId :: _ =>
      { withMember with rewardIds := request.rewardIds, rewardId := some rewardId }
  if request.xpBonus = 0 then withRewards else { withRewards with xpBonus := request.xpBonus }

/-- `include_condition_metadata`. -/
def includeConditionMetadata (request : AchievementDefinitionCreate) :
    Except Failure ConditionPayload := do
  let invalid : Failure := .app ⟨422, "VALIDATION_ERROR", "입력값을 확인해 주세요."⟩
  let payload := request.mergedPayload
  ensure (request.conditionType = .specificCard → (payload.cardId.getD "") ≠ "") invalid
  ensure (request.conditionType = .dropParticipation → (payload.dropId.getD "") ≠ "") invalid
  ensure (∀ startsAt ∈ request.startsAt, ∀ endsAt ∈ request.endsAt, startsAt < endsAt) invalid
  return payload

end AchievementDefinitionCreate

/-- `validate_reward_scope`. -/
def validateRewardScope (db : GrowthDb) (rewardIds : List RewardId)
    (organizationId artistId : Option String) : Except Failure Unit := do
  if rewardIds = [] then return
  let named := db.rewards.filter fun row => rewardIds.contains row.id
  ensure (artistId = none → ∀ row ∈ named, row.artistId = none)
    (.app ⟨422, "GLOBAL_REWARD_REQUIRED", "전체 레벨에는 전체 보상만 연결할 수 있습니다."⟩)
  ensure (∀ rewardId ∈ rewardIds, ∃ row ∈ named, row.id = rewardId ∧
      row.organizationId = organizationId ∧ row.artistId = artistId)
    (.app ⟨404, "RESOURCE_NOT_FOUND", "항목을 찾을 수 없습니다."⟩)

/-- The row that `create_achievement` inserts. -/
def AchievementDefinitionCreate.definition (request : AchievementDefinitionCreate)
    (organizationId artistId : Option String) (achievementId : AchievementId) :
    AchievementDefinition :=
  { id := achievementId
    organizationId := organizationId
    artistId := artistId
    targetValue := request.targetValue
    xpBonus := request.mergedPayload.xpBonus
    rewardRuleKey := request.rewardIds.head?
    rewardId := request.mergedPayload.rewardId
    status := .draft
    startsAt := request.startsAt
    endsAt := request.endsAt }

/-- `create_achievement`; `scope` is what the checks of the administrator answer. -/
def createAchievement (db : GrowthDb) (scope : Except Failure (Option String × Option String))
    (request : AchievementDefinitionCreate) (achievementId : AchievementId) :
    Except Failure GrowthDb := do
  let _ ← request.includeConditionMetadata
  let (organizationId, artistId) ← scope
  validateRewardScope db request.rewardIds organizationId artistId
  ensure (∀ row ∈ db.achievements, row.id ≠ achievementId)
    (.integrity "achievement_definitions_pkey")
  return { db with
    achievements := db.achievements ++
      [request.definition organizationId artistId achievementId] }

/-- A change of status; `allowed` is what the checks of the administrator answer. -/
def transitionAchievementStatus (db : GrowthDb) (allowed : Except Failure Unit)
    (achievementId : AchievementId) (requiredStatus nextStatus : DefinitionStatus)
    (message : String) : Except Failure GrowthDb := do
  allowed
  let achievement ← orFail (db.achievements.find? fun row => row.id == achievementId)
    (.app ⟨404, "RESOURCE_NOT_FOUND", "항목을 찾을 수 없습니다."⟩)
  ensure (achievement.status = requiredStatus)
    (.app ⟨409, "INVALID_ACHIEVEMENT_STATUS", message⟩)
  return { db with
    achievements := patch (·.id == achievementId) ({ · with status := nextStatus })
      db.achievements }

/-- `submit_achievement_review`. -/
def submitAchievementReview (db : GrowthDb) (allowed : Except Failure Unit)
    (achievementId : AchievementId) : Except Failure GrowthDb :=
  transitionAchievementStatus db allowed achievementId .draft .pendingReview
    "현재 상태에서는 업적 검수 상태를 전환할 수 없습니다."

/-- `approve_achievement`. -/
def approveAchievement (db : GrowthDb) (allowed : Except Failure Unit)
    (achievementId : AchievementId) : Except Failure GrowthDb :=
  transitionAchievementStatus db allowed achievementId .pendingReview .published
    "검수 대기 중인 업적만 공개 승인할 수 있습니다."

/-- `disable_achievement`. -/
def disableAchievement (db : GrowthDb) (allowed : Except Failure Unit)
    (achievementId : AchievementId) : Except Failure GrowthDb :=
  transitionAchievementStatus db allowed achievementId .published .disabled
    "공개 중인 업적만 비활성화할 수 있습니다."

/-- `process_engagement_event`, with no other worker on the event. The attempt may be
`interrupted` by an exception from outside; `text` is the text of an exception. -/
def processEngagementEvent (settings : RetrySettings) (db : GrowthDb) (eventId : EventId)
    (readings : CardReadings) (draws : AttemptDraws) (interrupted : Option Failure) (now : Time)
    (text : String) : GrowthDb :=
  match db.findEvent eventId with
  | none => db
  | some event =>
    if event.status.isFinal then db
    else
      let attempt : Except Failure GrowthDb := match interrupted with
        | some exception => .error exception
        | none => attemptEvent db event readings draws
      match attempt with
      | .ok db' => db'
      | .error exception =>
        db.patchEvent eventId
          (·.bookFailure settings (event.attemptCount + 1) exception now text)

/-- What happens to the growth tables. -/
inductive AchievementAction where
  | create (scope : Except Failure (Option String × Option String))
      (request : AchievementDefinitionCreate) (achievementId : AchievementId)
  | submit (allowed : Except Failure Unit) (achievementId : AchievementId)
  | approve (allowed : Except Failure Unit) (achievementId : AchievementId)
  | disable (allowed : Except Failure Unit) (achievementId : AchievementId)
  /-- Other requests record events, and edit the rewards and the missions. -/
  | record (userId : UserId) (kind sourceType sourceId : String) (payload : JsonObject)
      (eventId : EventId)
  | edit (rewards : List RewardCatalog) (missions : List MissionDefinition)
  | process (eventId : EventId) (readings : CardReadings) (draws : AttemptDraws)
      (interrupted : Option Failure) (now : Time) (text : String)

/-- The tables after a request that is rolled back when it fails. -/
def GrowthDb.commit (db : GrowthDb) (x : Except Failure GrowthDb) : GrowthDb :=
  match x with
  | .ok db' => db'
  | .error _ => db

def achievementStep (settings : RetrySettings) (db : GrowthDb) : AchievementAction → GrowthDb
  | .create scope request achievementId =>
    db.commit (createAchievement db scope request achievementId)
  | .submit allowed achievementId => db.commit (submitAchievementReview db allowed achievementId)
  | .approve allowed achievementId => db.commit (approveAchievement db allowed achievementId)
  | .disable allowed achievementId => db.commit (disableAchievement db allowed achievementId)
  | .record userId kind sourceType sourceId payload eventId =>
    let recorded := commitOr db.points.events
      (recordEngagementEvent db.points.events userId kind sourceType sourceId payload eventId)
    { db with points := { db.points with events := recorded } }
  | .edit rewards missions => { db with rewards := rewards, missions := missions }
  | .process eventId readings draws interrupted now text =>
    processEngagementEvent settings db eventId readings draws interrupted now text

/-- The key that a completed achievement grants its XP and its reward under. -/
def achievementRule (achievementId : AchievementId) : String := "achievement:" ++ achievementId

/-- What a user was granted under a rule, over all events. -/
def grantedUnder {ν : Type} (entries : List (RuleKey × ν)) (userId : UserId) (ruleKey : String) :
    List ν :=
  (entries.filter fun entry => entry.1.1 == userId && entry.1.2.2 == ruleKey).map Prod.snd

/-- The XP that a completion grants, if any. -/
def AchievementDefinition.bonusPart (definition : AchievementDefinition) : Option Int :=
  if definition.xpBonus = 0 then none else some definition.xpBonus

namespace GrowthDb

def achievementRow (db : GrowthDb) (userId : UserId) (achievementId : AchievementId) :
    Option AchievementProgress :=
  db.achievementProgress.find? fun row =>
    row.userId == userId && row.achievementId == achievementId

/-- The progress of a fan on an achievement, zero before the first event. -/
def achievementValue (db : GrowthDb) (userId : UserId) (achievementId : AchievementId) : Nat :=
  ((db.achievementRow userId achievementId).map (·.currentValue)).getD 0

def Completed (db : GrowthDb) (userId : UserId) (achievementId : AchievementId) : Prop :=
  ∃ row ∈ db.achievementRow userId achievementId, row.completedAt ≠ none

/-- The XP that the completion of an achievement granted to a fan. -/
def bonuses (db : GrowthDb) (userId : UserId) (achievementId : AchievementId) : List Int :=
  grantedUnder db.xpEntries userId (achievementRule achievementId)

/-- The rewards that the completion of an achievement granted to a fan. -/
def completionRewards (db : GrowthDb) (userId : UserId) (achievementId : AchievementId) :
    List RewardId :=
  grantedUnder db.rewardEntries userId (achievementRule achievementId)

end GrowthDb

/-- Completed achievements, and no others, have granted their bonus and their reward once. -/
structure AchievementsSound (db : GrowthDb) : Prop where
  ids : (db.achievements.map (·.id)).Nodup
  rows : (db.achievementProgress.map (·.id)).Nodup
  known : ∀ row ∈ db.achievementProgress, row.achievementId ∈ db.achievements.map (·.id)
  targets : ∀ definition ∈ db.achievements, 1 ≤ definition.targetValue
  waiting : ∀ userId achievementId, ¬db.Completed userId achievementId →
    db.bonuses userId achievementId = [] ∧ db.completionRewards userId achievementId = []
  rewarded : ∀ userId, ∀ definition ∈ db.achievements, db.Completed userId definition.id →
    db.bonuses userId definition.id = definition.bonusPart.toList ∧
    db.completionRewards userId definition.id = definition.grantedReward.toList
  reached : ∀ userId, ∀ definition ∈ db.achievements,
    definition.targetValue ≤ db.achievementValue userId definition.id →
    db.Completed userId definition.id

theorem GrowthDb.commit_cases (db : GrowthDb) (x : Except Failure GrowthDb) :
    db.commit x = db ∨ x = .ok (db.commit x) := by
  cases x with
  | ok db' => exact .inr rfl
  | error e => exact .inl rfl

end Fanfolio
