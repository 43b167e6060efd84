import Fanfolio.Calendar
import Fanfolio.Growth.Rewards

/-!
# Missions

An event moves every published mission that it matches one step towards its target, in the
period that the event is processed in. The step that reaches the target delivers the reward.
-/

namespace Fanfolio

open Framework

/-- What the queries on the card tables answer while an event is processed. -/
structure CardReadings where
  sourceIsEligible : Bool := true
  organizationId : Option String := none
  achievementValue : AchievementId → Nat := fun _ => 0

/-- The identifiers drawn and the time read while one mission is updated. -/
structure MissionDraws where
  now : Time
  progressId : ProgressId
  xpId : LedgerId
  pointId : LedgerId
  grantId : String
deriving DecidableEq, Repr

/-- `card_collected_source_is_eligible`. -/
def cardCollectedSourceIsEligible (event : EngagementEvent) (readings : CardReadings) : Bool :=
  if event.kind ≠ "card_collected" then true
  else if event.sourceType ≠ "user_card" then false
  else readings.sourceIsEligible

/-- `organization_id_for_event`. -/
def organizationIdForEvent (event : EngagementEvent) (readings : CardReadings) : Option String :=
  match event.payload.text "organizationId" with
  | some organizationId =>
    if organizationId ≠ "" then some organizationId
    else if event.kind = "card_collected" then readings.organizationId else none
  | none => if event.kind = "card_collected" then readings.organizationId else none

/-- `mission_period_key`. -/
def missionPeriodKey (recurrence : Recurrence) (eventTime : Time)
    (startsAt endsAt : Option Time) : String :=
  match recurrence with
  | .once => "once"
  | .daily => isoDate eventTime
  | .weekly => isoWeek eventTime
  | .season =>
    "season:" ++ (startsAt.map isoDatetime).getD "open" ++ ":" ++
      (endsAt.map isoDatetime).getD "open"

/-- `==` between scalars, under which a boolean is the number zero or one. -/
def JsonScalar.matchesValue : JsonScalar → JsonScalar → Bool
  | .bool b, .num q => q == if b then 1 else 0
  | .num q, .bool b => q == if b then 1 else 0
  | expected, actual => expected == actual

/-- `_payload_value_matches`. -/
def payloadValueMatches : Json → Json → Bool
  | .list expected, .scalar actual => expected.any (·.matchesValue actual)
  | .scalar expected, .scalar actual => expected.matchesValue actual
  | _, .list _ => false

/-- `mission_payload_matches`. -/
def missionPayloadMatches (mission : MissionDefinition) (event : EngagementEvent) : Bool :=
  mission.conditionPayload.all fun entry =>
    (event.payload.get entry.1).any (payloadValueMatches entry.2)

/-- The window of a definition is open, at both ends included. -/
def windowOpen (startsAt endsAt : Option Time) (now : Time) : Bool :=
  startsAt.all (· ≤ now) && endsAt.all (now ≤ ·)

/-- `published_missions_for_event`; `order` is the order its query answers in. -/
def publishedMissionsForEvent (db : GrowthDb) (event : EngagementEvent) (readings : CardReadings)
    (order : List MissionDefinition) (now : Time) : List MissionDefinition :=
  let candidates := scan order (db.missions.filter fun mission =>
    mission.status == .published && mission.eventKind == event.kind &&
      windowOpen mission.startsAt mission.endsAt now)
  candidates.filter fun mission =>
    (mission.organizationId.isNone ||
      mission.organizationId == organizationIdForEvent event readings) &&
    (mission.artistId.isNone || mission.artistId == event.payload.text "artistId") &&
    missionPayloadMatches mission event

/-- `get_or_create_mission_progress`. -/
def getOrCreateMissionProgress (db : GrowthDb) (userId : UserId) (missionId : MissionId)
    (periodKey : String) (progressId : ProgressId) (now : Time) :
    Except Failure (GrowthDb × MissionProgress) :=
  match db.findProgress (userId, missionId, periodKey) with
  | some progress => .ok (db, progress)
  | none => do
    let progress : MissionProgress :=
      { id := progressId, userId := userId, missionId := missionId, periodKey := periodKey,
        updatedAt := now }
    ensure (∀ row ∈ db.progress, row.id ≠ progressId) (.integrity "mission_progress_pkey")
    return ({ db with progress := db.progress ++ [progress] }, progress)

/-- `deliver_mission_reward`. -/
def deliverMissionReward (db : GrowthDb) (event : EngagementEvent) (mission : MissionDefinition)
    (periodKey : String) (draws : MissionDraws) : Except Failure GrowthDb := do
  let reward := mission.rewardPayload
  let ruleKey := "mission:" ++ mission.id ++ ":" ++ periodKey
  let withXp ← unlessZero reward.xp db
    (grantXp db event.userId event.id ruleKey reward.xp draws.xpId draws.now)
  let withPoints ← unlessZero reward.points withXp
    (grantGrowthPoints withXp event.userId event.id ruleKey reward.points
      ("Mission reward: " ++ mission.title)
      [("missionId", .str mission.id), ("periodKey", .str periodKey)] draws.pointId)
  match reward.rewardId with
  | none => return withPoints
  | some rewardId =>
    Prod.fst <$> grantReward withPoints event.userId rewardId event.id ruleKey draws.grantId
      draws.now

/-- One step towards the target, unless the row is completed. -/
def MissionProgress.advance (progress : MissionProgress) (targetValue : Nat) (now : Time) :
    MissionProgress :=
  match progress.completedAt with
  | some _ => progress
  | none =>
    let value := min (progress.currentValue + 1) targetValue
    { progress with
      currentValue := value
      updatedAt := now
      completedAt := if targetValue ≤ value then some now else none }

/-- An update writes the columns that differ from those that were loaded. -/
def MissionProgress.flush (loaded changed row : MissionProgress) : MissionProgress :=
  { row with
    currentValue := if changed.currentValue = loaded.currentValue then row.currentValue
      else changed.currentValue
    completedAt := if changed.completedAt = loaded.completedAt then row.completedAt
      else changed.completedAt
    updatedAt := if changed.updatedAt = loaded.updatedAt then row.updatedAt
      else changed.updatedAt }

/-- `update_mission_progress` after it has loaded the row `progress`. -/
def finishMissionProgress (db : GrowthDb) (event : EngagementEvent) (mission : MissionDefinition)
    (periodKey : String) (progress : MissionProgress) (draws : MissionDraws) :
    Except Failure (GrowthDb × MissionProgress) := do
  let changed := progress.advance mission.targetValue draws.now
  let written : GrowthDb :=
    { db with progress := patch (·.id == progress.id) (progress.flush changed) db.progress }
  if progress.completedAt = none ∧ changed.completedAt ≠ none then
    let delivered ← deliverMissionReward written event mission periodKey draws
    return (delivered, changed)
  else
    return (written, changed)

/-- `update_mission_progress`. -/
def updateMissionProgress (db : GrowthDb) (event : EngagementEvent) (mission : MissionDefinition)
    (draws : MissionDraws) : Except Failure (GrowthDb × MissionProgress) := do
  let periodKey := missionPeriodKey mission.recurrence draws.now mission.startsAt mission.endsAt
  let (loaded, progress) ← getOrCreateMissionProgress db event.userId mission.id periodKey
    draws.progressId draws.now
  finishMissionProgress loaded event mission periodKey progress draws

section

variable {db db' : GrowthDb} {event : EngagementEvent} {mission : MissionDefinition}
  {periodKey : String} {draws : MissionDraws}

/-- Every part of the reward is granted under the key, unless it was granted before. -/
structure Delivers (db db' : GrowthDb) (key : RuleKey) (reward : MissionReward) : Prop where
  events : db'.events = db.events
  missions : db'.missions = db.missions
  progress : db'.progress = db.progress
  xp : db'.xpEntries = reward.xpPart.elim db.xpEntries (addEntry db.xpEntries key)
  points : db'.pointEntries = reward.pointPart.elim db.pointEntries (addEntry db.pointEntries key)
  rewards : db'.rewardEntries = reward.rewardId.elim db.rewardEntries (addEntry db.rewardEntries key)

theorem deliverMissionReward_ok (h : deliverMissionReward db event mission periodKey draws = .ok db') :
    Delivers db db' (event.userId, event.id, "mission:" ++ mission.id ++ ":" ++ periodKey)
      mission.rewardPayload := by
  simp only [deliverMissionReward, bind_ok] at h
  obtain ⟨withXp, hxp, withPoints, hpoints, h⟩ := h
  have hwithXp : Delivers db withXp
      (event.userId, event.id, "mission:" ++ mission.id ++ ":" ++ periodKey)
      { mission.rewardPayload with points := 0, rewardId := none } := by
    rcases unlessZero_ok.mp hxp with ⟨hzero, rfl⟩ | ⟨hnonzero, row, hgrant⟩
    · exact ⟨rfl, rfl, rfl, by simp [MissionReward.xpPart, hzero], rfl, rfl⟩
    · obtain ⟨xpLedger, levels, rfl, hentries⟩ := grantXp_ok hgrant
      exact ⟨rfl, rfl, rfl, by simp [MissionReward.xpPart, hnonzero, hentries], rfl, rfl⟩
  have hwithPoints : Delivers db withPoints
      (event.userId, event.id, "mission:" ++ mission.id ++ ":" ++ periodKey)
      { mission.rewardPayload with rewardId := none } := by
    rcases unlessZero_ok.mp hpoints with ⟨hzero, rfl⟩ | ⟨hnonzero, row, hgrant⟩
    · refine ⟨hwithXp.events, hwithXp.missions, hwithXp.progress, hwithXp.xp, ?_, hwithXp.rewards⟩
      rw [hwithXp.points]
      simp [MissionReward.pointPart, hzero]
    · obtain ⟨balances, ledger, rfl, hentries⟩ := grantGrowthPoints_ok hgrant
      refine ⟨hwithXp.events, hwithXp.missions, hwithXp.progress, hwithXp.xp, ?_, hwithXp.rewards⟩
      rw [hentries, hwithXp.points]
      simp [MissionReward.pointPart, hnonzero]
  cases hreward : mission.rewardPayload.rewardId with
  | none =>
    simp only [hreward, pure_ok] at h
    subst h
    exact ⟨hwithPoints.events, hwithPoints.missions, hwithPoints.progress, hwithPoints.xp,
      hwithPoints.points, by rw [hreward]; exact hwithPoints.rewards⟩
  | some rewardId =>
    simp only [hreward, map_ok, Prod.exists] at h
    obtain ⟨_, row, hgrant, rfl⟩ := h
    obtain ⟨rewardGrants, rfl, hentries⟩ := grantReward_ok hgrant
    refine ⟨hwithPoints.events, hwithPoints.missions, hwithPoints.progress, hwithPoints.xp,
      hwithPoints.points, ?_⟩
    rw [hentries, hreward, hwithPoints.rewards]
    rfl

theorem Delivers.grants {key : RuleKey} {reward : MissionReward}
    (h : Delivers db db' key reward) : Grants db db' := by
  refine ⟨h.events, h.missions, h.progress, ?_, ?_⟩
  · intro hnodup
    rw [h.xp]
    cases reward.xpPart with
    | none => exact hnodup
    | some amount => exact nodup_addEntry hnodup key amount
  · intro hnodup
    rw [h.points]
    cases reward.pointPart with
    | none => exact hnodup
    | some amount => exact nodup_addEntry hnodup key amount

theorem advance_currentValue_le (progress : MissionProgress) (targetValue : Nat) (now : Time) :
    (progress.advance targetValue now).currentValue ≤ progress.currentValue + 1 := by
  unfold MissionProgress.advance
  split
  · exact Nat.le_succ _
  · exact Nat.min_le_left _ _

theorem flush_currentValue (loaded changed : MissionProgress) :
    (loaded.flush changed loaded).currentValue = changed.currentValue := by
  unfold MissionProgress.flush
  split <;> simp_all

theorem findProgress_flush (progress changed : MissionProgress)
    (key : UserId × MissionId × String) :
    GrowthDb.findProgress
      { db with progress := patch (·.id == progress.id) (progress.flush changed) db.progress } key =
      (db.findProgress key).map fun row =>
        if row.id = progress.id then progress.flush changed row else row := by
  rw [GrowthDb.findProgress, find_patch (by intro _; rfl), GrowthDb.findProgress]
  simp

theorem finishMissionProgress_ok {progress changed : MissionProgress}
    (h : finishMissionProgress db event mission periodKey progress draws = .ok (db', changed)) :
    changed = progress.advance mission.targetValue draws.now ∧
    ∃ written, written = { db with
        progress := patch (·.id == progress.id) (progress.flush changed) db.progress } ∧
      if progress.completedAt = none ∧ changed.completedAt ≠ none then
        Delivers written db' (event.userId, event.id, "mission:" ++ mission.id ++ ":" ++ periodKey)
          mission.rewardPayload
      else db' = written := by
  simp only [finishMissionProgress] at h
  split at h
  · rename_i hcompletes
    simp only [bind_ok, pure_ok, Prod.mk.injEq] at h
    obtain ⟨delivered, hdeliver, rfl, rfl⟩ := h
    refine ⟨rfl, _, rfl, ?_⟩
    rw [if_pos hcompletes]
    exact deliverMissionReward_ok hdeliver
  · rename_i hsteps
    obtain ⟨rfl, rfl⟩ := Prod.mk.inj (pure_ok.mp h)
    refine ⟨rfl, _, rfl, ?_⟩
    rw [if_neg hsteps]

theorem getOrCreateMissionProgress_ok {userId : UserId} {missionId : MissionId}
    {progressId : ProgressId} {now : Time} {progress : MissionProgress}
    (h : getOrCreateMissionProgress db userId missionId periodKey progressId now =
      .ok (db', progress)) :
    db.findProgress (userId, missionId, periodKey) = some progress ∧ db' = db ∨
    db.findProgress (userId, missionId, periodKey) = none ∧
      progress =
        { id := progressId, userId := userId, missionId := missionId, periodKey := periodKey,
          updatedAt := now } ∧
      (∀ row ∈ db.progress, row.id ≠ progressId) ∧
      db' = { db with progress := db.progress ++ [progress] } := by
  unfold getOrCreateMissionProgress at h
  split at h
  · rename_i existing hfind
    obtain ⟨rfl, rfl⟩ := Prod.mk.inj (Except.ok.inj h)
    exact .inl ⟨hfind, rfl⟩
  · rename_i hnone
    simp only [bind_ok, ensure_ok, exists_const, pure_ok, Prod.mk.injEq] at h
    obtain ⟨hfresh, rfl, rfl⟩ := h
    exact .inr ⟨hnone, rfl, hfresh, rfl⟩

theorem GrowthDb.Constrained.of_grants (h : db.Constrained) (hgrants : Grants db db') :
    db'.Constrained :=
  ⟨hgrants.missions ▸ h.missions, hgrants.progress ▸ h.progress, hgrants.xp h.xp,
    hgrants.points h.points⟩

theorem Grants.missionValue (h : Grants db db') (key : UserId × MissionId × String) :
    db'.missionValue key = db.missionValue key := by
  rw [GrowthDb.missionValue, GrowthDb.findProgress, h.progress]
  rfl

theorem findProgress_key {key : UserId × MissionId × String} {progress : MissionProgress}
    (h : db.findProgress key = some progress) : progress ∈ db.progress ∧ progress.key = key :=
  mem_of_find_eq_some h

/-- What the tables of the missions are once the row of the fan is there. -/
structure RowLoaded (db db' : GrowthDb) (progress : MissionProgress) : Prop where
  events : db'.events = db.events
  constrained : db'.Constrained
  found : db'.findProgress progress.key = some progress
  value : ∀ key, db'.missionValue key = db.missionValue key

theorem getOrCreateMissionProgress_loaded {userId : UserId} {missionId : MissionId}
    {progressId : ProgressId} {now : Time} {progress : MissionProgress} (hdb : db.Constrained)
    (h : getOrCreateMissionProgress db userId missionId periodKey progressId now =
      .ok (db', progress)) :
    progress.key = (userId, missionId, periodKey) ∧ RowLoaded db db' progress := by
  rcases getOrCreateMissionProgress_ok h with ⟨hfind, rfl⟩ | ⟨hnone, hrow, hfresh, rfl⟩
  · have hkey := (findProgress_key hfind).2
    exact ⟨hkey, rfl, hdb, by rw [hkey]; exact hfind, fun _ => rfl⟩
  · have hkey : progress.key = (userId, missionId, periodKey) := by rw [hrow]; rfl
    have hid : progress.id = progressId := by rw [hrow]
    refine ⟨hkey, rfl, ⟨hdb.missions, ?_, hdb.xp, hdb.points⟩, ?_, ?_⟩
    · exact nodup_insert hdb.progress (by rw [hid]; exact hfresh)
    · rw [GrowthDb.findProgress] at hnone ⊢
      rw [hkey, List.find?_append, hnone]
      simp [hkey]
    · intro key
      rw [GrowthDb.missionValue, GrowthDb.missionValue, GrowthDb.findProgress,
        GrowthDb.findProgress, List.find?_append]
      cases hfind : db.progress.find? (fun row => row.key == key) with
      | some row => rfl
      | none =>
        have hzero : progress.currentValue = 0 := by rw [hrow]
        by_cases heq : progress.key = key <;> simp [heq, hzero]

/-- An update raises the value of its own mission only, and by at most one. -/
theorem updateMissionProgress_value {changed : MissionProgress} (hdb : db.Constrained)
    (h : updateMissionProgress db event mission draws = .ok (db', changed)) :
    db'.events = db.events ∧ db'.Constrained ∧ ∀ key,
      db'.missionValue key ≤ db.missionValue key + if key.2.1 = mission.id then 1 else 0 := by
  simp only [updateMissionProgress, bind_ok, Prod.exists] at h
  obtain ⟨loaded, progress, hload, hfinish⟩ := h
  obtain ⟨hkey, hloaded⟩ := getOrCreateMissionProgress_loaded hdb hload
  obtain ⟨hchanged, written, hwritten, hrest⟩ := finishMissionProgress_ok hfinish
  have hgrants : Grants written db' := by
    split at hrest
    · exact hrest.grants
    · exact hrest ▸ Grants.refl written
  have hconstrained : written.Constrained := by
    rw [hwritten]
    exact ⟨hloaded.constrained.missions,
      by rw [map_patch (by intro _; rfl)]; exact hloaded.constrained.progress,
      hloaded.constrained.xp, hloaded.constrained.points⟩
  refine ⟨?_, hconstrained.of_grants hgrants, ?_⟩
  · rw [hgrants.events, hwritten]
    exact hloaded.events
  · intro key
    rw [hgrants.missionValue, ← hloaded.value, GrowthDb.missionValue, hwritten,
      findProgress_flush, GrowthDb.missionValue]
    cases hfind : loaded.findProgress key with
    | none => simp
    | some row =>
      by_cases hid : row.id = progress.id
      · have hrow : row = progress := eq_of_unique hloaded.constrained.progress
          (findProgress_key hfind).1 (findProgress_key hloaded.found).1 hid
        have hmission : key.2.1 = mission.id := by
          rw [← (findProgress_key hfind).2, hrow, hkey]
        simp only [hrow, hmission, if_true, Option.map_some, Option.getD_some]
        rw [flush_currentValue, hchanged]
        exact advance_currentValue_le progress mission.targetValue draws.now
      · simp [hid]

end

end Fanfolio
