import Fanfolio.Growth.Missions

/-!
# Processing an event

One attempt to process an event grants its XP, moves the missions and achievements that it
matches and refreshes the season passes, all in one transaction.
-/

namespace Fanfolio

open Framework

/-- The identifiers drawn and the time read while one achievement is updated. -/
structure AchievementDraws where
  now : Time
  progressId : ProgressId
  xpId : LedgerId
  grantId : String
deriving DecidableEq, Repr

/-- Everything that one attempt draws, and the orders that its queries answer in. -/
structure AttemptDraws where
  now : Time
  xpId : LedgerId
  missionOrder : List MissionDefinition
  mission : MissionId → MissionDraws
  achievementOrder : List AchievementDefinition
  achievement : AchievementId → AchievementDraws

/-- `base_xp_for`. -/
def baseXpFor (event : EngagementEvent) : Int :=
  if event.kind = "card_collected" then 30 else if event.kind = "card_revoked" then -30 else 0

/-- `published_definitions_for_event`; `order` is the order its query answers in. -/
def publishedDefinitionsForEvent (db : GrowthDb) (event : EngagementEvent)
    (readings : CardReadings) (order : List AchievementDefinition) : List AchievementDefinition :=
  if event.kind ≠ "card_collected" then []
  else
    let artistId := event.payload.text "artistId"
    scan order (db.achievements.filter fun definition =>
      definition.status == .published &&
      (match readings.organizationId with
        | none => definition.organizationId.isNone &&
            (definition.artistId.isNone || definition.artistId == artistId)
        | some organizationId => definition.organizationId == some organizationId ||
            definition.organizationId.isNone && definition.artistId.isNone) &&
      (definition.artistId.isNone || definition.artistId == artistId))

/-- `get_or_create_achievement_progress`. -/
def getOrCreateAchievementProgress (db : GrowthDb) (userId : UserId)
    (achievementId : AchievementId) (progressId : ProgressId) (now : Time) :
    Except Failure (GrowthDb × AchievementProgress) :=
  match db.achievementProgress.find? (fun row =>
      row.userId == userId && row.achievementId == achievementId) with
  | some progress => .ok (db, progress)
  | none => do
    let progress : AchievementProgress :=
      { id := progressId, userId := userId, achievementId := achievementId, updatedAt := now }
    ensure (∀ row ∈ db.achievementProgress, row.id ≠ progressId)
      (.integrity "achievement_progress_pkey")
    return ({ db with achievementProgress := db.achievementProgress ++ [progress] }, progress)

/-- `update_achievement_progress`. -/
def updateAchievementProgress (db : GrowthDb) (event : EngagementEvent)
    (definition : AchievementDefinition) (readings : CardReadings) (draws : AchievementDraws) :
    Except Failure GrowthDb := do
  let (loaded, progress) ← getOrCreateAchievementProgress db event.userId definition.id
    draws.progressId draws.now
  let value := min (readings.achievementValue definition.id) definition.targetValue
  let completes : Bool := decide (definition.targetValue ≤ value) && progress.completedAt.isNone
  let changed : AchievementProgress :=
    { progress with
      currentValue := value
      updatedAt := draws.now
      completedAt := if completes then some draws.now else progress.completedAt }
  let written : GrowthDb :=
    { loaded with
      achievementProgress := patch (·.id == progress.id) (fun _ => changed)
        loaded.achievementProgress }
  if completes then
    let ruleKey := "achievement:" ++ definition.id
    let withXp ← unlessZero definition.xpBonus written
      (grantXp written event.userId event.id ruleKey definition.xpBonus draws.xpId draws.now)
    match definition.grantedReward with
    | none => return withXp
    | some rewardId =>
      Prod.fst <$> grantReward withXp event.userId rewardId event.id ruleKey draws.grantId draws.now
  else
    return written

/-- `scoped_user_xp`. -/
def scopedUserXp (db : GrowthDb) (userId : UserId) (artistId : Option String)
    (startsAt endsAt : Option Time) : Int :=
  ((db.xpLedger.filter fun row =>
    row.userId == userId && windowOpen startsAt endsAt row.createdAt &&
      artistId.all fun artistId =>
        (db.findEvent row.eventId).any (·.payload.text "artistId" == some artistId)).map
    (·.amount)).sum

/-- The primary key that `refresh_pass_progress` gives a new row. -/
def passProgressId (userId : UserId) (seasonId : SeasonId) : String :=
  "pass_progress_" ++ userId ++ "_" ++ seasonId

/-- The row of a fan in a season, inserted if there is none. -/
def getOrCreatePassProgress (db : GrowthDb) (userId : UserId) (seasonId : SeasonId) (now : Time) :
    Except Failure (GrowthDb × PassProgress) :=
  match db.passProgress.find? (fun row => row.userId == userId && row.seasonId == seasonId) with
  | some progress => .ok (db, progress)
  | none => do
    let progress : PassProgress :=
      { id := passProgressId userId seasonId, userId := userId, seasonId := seasonId,
        updatedAt := now }
    ensure (∀ row ∈ db.passProgress, row.id ≠ progress.id) (.integrity "pass_progress_pkey")
    return ({ db with passProgress := db.passProgress ++ [progress] }, progress)

/-- `refresh_pass_progress`. -/
def refreshPassProgress (db : GrowthDb) (userId : UserId) (season : PassSeason) (now : Time) :
    Except Failure (GrowthDb × PassProgress) := do
  let (created, progress) ← getOrCreatePassProgress db userId season.id now
  let currentXp := scopedUserXp db userId season.artistId season.startsAt season.endsAt
  return ({ created with
      passProgress := patch (·.id == progress.id)
        ({ · with currentXp := currentXp, updatedAt := now }) created.passProgress },
    { progress with currentXp := currentXp, updatedAt := now })

/-- `update_pass_progress`. -/
def updatePassProgress (db : GrowthDb) (event : EngagementEvent) (now : Time) :
    Except Failure GrowthDb :=
  (db.seasons.filter fun season =>
    season.status == .published && (!season.isPaid || season.premiumEnabled) &&
      windowOpen season.startsAt season.endsAt now).foldlM
    (fun db season => Prod.fst <$> refreshPassProgress db event.userId season now) db

/-- The missions that an attempt moves. -/
def missionsMoved (db : GrowthDb) (event : EngagementEvent) (readings : CardReadings)
    (order : List MissionDefinition) (now : Time) : List MissionDefinition :=
  if event.kind ≠ "card_collected" ∨ cardCollectedSourceIsEligible event readings then
    publishedMissionsForEvent db event readings order now
  else []

/-- The columns of an event that a successful attempt writes. -/
def EngagementEvent.processed (event : EngagementEvent) (attemptCount : Nat) (now : Time) :
    EngagementEvent :=
  { event with
    status := .processed, processedAt := some now, nextAttemptAt := none
    attemptCount := attemptCount, errorCode := none, errorMessage := none }

def GrowthDb.patchEvent (db : GrowthDb) (eventId : EventId)
    (f : EngagementEvent → EngagementEvent) : GrowthDb :=
  { db with points := { db.points with events := patch (·.id == eventId) f db.points.events } }

/-- The body of `process_engagement_event`, from the locked row to the commit. -/
def attemptEvent (db : GrowthDb) (event : EngagementEvent) (readings : CardReadings)
    (draws : AttemptDraws) : Except Failure GrowthDb := do
  let amount := if cardCollectedSourceIsEligible event readings then baseXpFor event else 0
  let withXp ← unlessZero amount db
    (grantXp db event.userId event.id event.kind amount draws.xpId draws.now)
  let withMissions ← (missionsMoved withXp event readings draws.missionOrder draws.now).foldlM
    (fun db mission => Prod.fst <$> updateMissionProgress db event mission (draws.mission mission.id))
    withXp
  let withAchievements ← (publishedDefinitionsForEvent withMissions event readings
      draws.achievementOrder).foldlM
    (fun db definition => updateAchievementProgress db event definition readings
      (draws.achievement definition.id)) withMissions
  let withPasses ← updatePassProgress withAchievements event draws.now
  return withPasses.patchEvent event.id (·.processed (event.attemptCount + 1) draws.now)

section

variable {db db' : GrowthDb} {event : EngagementEvent} {readings : CardReadings}

/-- A relation that the writes of an attempt keep, with grants under rules of the given kind. -/
structure KeptByWrites (event : EngagementEvent) (rules : String → Prop)
    (R : GrowthDb → GrowthDb → Prop) : Prop where
  trans : ∀ {a b c}, R a b → R b c → R a c
  progress : ∀ db rows, R db { db with progress := rows }
  refresh : ∀ {db db' userId season now progress},
    refreshPassProgress db userId season now = .ok (db', progress) → R db db'
  xp : ∀ {db db' ruleKey amount ledgerId now row}, rules ruleKey →
    grantXp db event.userId event.id ruleKey amount ledgerId now = .ok (db', row) → R db db'
  points : ∀ {db db' ruleKey amount description metadata ledgerId row}, rules ruleKey →
    grantGrowthPoints db event.userId event.id ruleKey amount description metadata ledgerId =
      .ok (db', row) → R db db'
  reward : ∀ {db db' rewardId ruleKey grantId now row}, rules ruleKey →
    grantReward db event.userId rewardId event.id ruleKey grantId now = .ok (db', row) → R db db'

namespace KeptByWrites

variable {rules : String → Prop} {R : GrowthDb → GrowthDb → Prop}

theorem refl (h : KeptByWrites event rules R) (db : GrowthDb) : R db db := h.progress db db.progress

theorem of_deliverMissionReward {mission : MissionDefinition} {periodKey : String}
    {draws : MissionDraws} (h : KeptByWrites event rules R)
    (hrules : ∀ rest, rules ("mission:" ++ rest))
    (hok : deliverMissionReward db event mission periodKey draws = .ok db') : R db db' := by
  have hrule : rules ("mission:" ++ mission.id ++ ":" ++ periodKey) := by
    rw [String.append_assoc, String.append_assoc]
    exact hrules _
  simp only [deliverMissionReward, bind_ok] at hok
  obtain ⟨withXp, hxp, withPoints, hpoints, hok⟩ := hok
  have hwithXp : R db withXp := by
    rcases unlessZero_ok.mp hxp with ⟨-, rfl⟩ | ⟨-, row, hgrant⟩
    · exact h.refl _
    · exact h.xp hrule hgrant
  have hwithPoints : R db withPoints := by
    rcases unlessZero_ok.mp hpoints with ⟨-, rfl⟩ | ⟨-, row, hgrant⟩
    · exact hwithXp
    · exact h.trans hwithXp (h.points hrule hgrant)
  split at hok
  · exact pure_ok.mp hok ▸ hwithPoints
  · simp only [map_ok, Prod.exists] at hok
    obtain ⟨_, row, hgrant, rfl⟩ := hok
    exact h.trans hwithPoints (h.reward hrule hgrant)

theorem of_updateMissionProgress {mission : MissionDefinition} {draws : MissionDraws}
    {changed : MissionProgress} (h : KeptByWrites event rules R)
    (hrules : ∀ rest, rules ("mission:" ++ rest))
    (hok : updateMissionProgress db event mission draws = .ok (db', changed)) : R db db' := by
  simp only [updateMissionProgress, bind_ok, Prod.exists] at hok
  obtain ⟨loaded, progress, hload, hok⟩ := hok
  have hloaded : R db loaded := by
    rcases getOrCreateMissionProgress_ok hload with ⟨-, rfl⟩ | ⟨-, -, -, rfl⟩
    · exact h.refl _
    · exact h.progress db _
  simp only [finishMissionProgress] at hok
  split at hok
  · simp only [bind_ok, pure_ok, Prod.mk.injEq] at hok
    obtain ⟨delivered, hdeliver, rfl, -⟩ := hok
    exact h.trans hloaded (h.trans (h.progress loaded _) (h.of_deliverMissionReward hrules hdeliver))
  · obtain ⟨rfl, -⟩ := Prod.mk.inj (pure_ok.mp hok)
    exact h.trans hloaded (h.progress loaded _)

end KeptByWrites

/-- What the rows of the fan and the two grants keep, the update of an achievement keeps. -/
theorem updateAchievementProgress_rel {R : GrowthDb → GrowthDb → Prop}
    {definition : AchievementDefinition} {draws : AchievementDraws}
    (trans : ∀ {a b c}, R a b → R b c → R a c)
    (hrows : ∀ db rows, R db { db with achievementProgress := rows })
    (hxp : ∀ {db db' ledgerId now row}, grantXp db event.userId event.id
      ("achievement:" ++ definition.id) definition.xpBonus ledgerId now = .ok (db', row) → R db db')
    (hreward : ∀ {db db' rewardId grantId now row}, grantReward db event.userId rewardId event.id
      ("achievement:" ++ definition.id) grantId now = .ok (db', row) → R db db')
    (h : updateAchievementProgress db event definition readings draws = .ok db') : R db db' := by
  have hrefl : ∀ db, R db db := fun db => hrows db db.achievementProgress
  simp only [updateAchievementProgress, bind_ok, Prod.exists] at h
  obtain ⟨loaded, progress, hload, h⟩ := h
  have hloaded : R db loaded := by
    unfold getOrCreateAchievementProgress at hload
    split at hload
    · obtain ⟨rfl, -⟩ := Prod.mk.inj (Except.ok.inj hload)
      exact hrefl db
    · simp only [bind_ok, ensure_ok, exists_const, pure_ok, Prod.mk.injEq] at hload
      obtain ⟨-, rfl, -⟩ := hload
      exact hrows db _
  have hwritten : ∀ rows, R db { loaded with achievementProgress := rows } := fun rows =>
    trans hloaded (hrows loaded rows)
  split at h
  · simp only [bind_ok] at h
    obtain ⟨withXp, hwithXp, h⟩ := h
    have hgranted : R db withXp := by
      rcases unlessZero_ok.mp hwithXp with ⟨-, rfl⟩ | ⟨-, row, hgrant⟩
      · exact hwritten _
      · exact trans (hwritten _) (hxp hgrant)
    split at h
    · exact pure_ok.mp h ▸ hgranted
    · simp only [map_ok, Prod.exists] at h
      obtain ⟨_, row, hgrant, rfl⟩ := h
      exact trans hgranted (hreward hgrant)
  · exact pure_ok.mp h ▸ hwritten _

theorem updateAchievementProgress_grants {definition : AchievementDefinition}
    {draws : AchievementDraws}
    (h : updateAchievementProgress db event definition readings draws = .ok db') :
    Grants db db' :=
  updateAchievementProgress_rel Grants.trans (fun _ _ => ⟨rfl, rfl, rfl, id, id⟩) Grants.of_grantXp
    Grants.of_grantReward h

theorem getOrCreatePassProgress_grants {userId : UserId} {seasonId : SeasonId} {now : Time}
    {progress : PassProgress}
    (h : getOrCreatePassProgress db userId seasonId now = .ok (db', progress)) : Grants db db' := by
  unfold getOrCreatePassProgress at h
  split at h
  · obtain ⟨rfl, -⟩ := Prod.mk.inj (Except.ok.inj h)
    exact Grants.refl db
  · simp only [bind_ok, ensure_ok, exists_const, pure_ok, Prod.mk.injEq] at h
    obtain ⟨-, rfl, -⟩ := h
    exact ⟨rfl, rfl, rfl, id, id⟩

theorem refreshPassProgress_grants {userId : UserId} {season : PassSeason} {now : Time}
    {progress : PassProgress}
    (h : refreshPassProgress db userId season now = .ok (db', progress)) : Grants db db' := by
  simp only [refreshPassProgress, bind_ok, Prod.exists, pure_ok, Prod.mk.injEq] at h
  obtain ⟨created, row, hcreate, rfl, -⟩ := h
  exact (getOrCreatePassProgress_grants hcreate).trans ⟨rfl, rfl, rfl, id, id⟩

/-- The frame of a refreshed row: nothing but the rows of the pass. -/
theorem refreshPassProgress_frame {userId : UserId} {season : PassSeason} {now : Time}
    {progress : PassProgress}
    (h : refreshPassProgress db userId season now = .ok (db', progress)) :
    db' = { db with passProgress := db'.passProgress } := by
  simp only [refreshPassProgress, bind_ok, Prod.exists, pure_ok, Prod.mk.injEq] at h
  obtain ⟨created, row, hcreate, rfl, -⟩ := h
  unfold getOrCreatePassProgress at hcreate
  split at hcreate
  · obtain ⟨rfl, -⟩ := Prod.mk.inj (Except.ok.inj hcreate)
    rfl
  · simp only [bind_ok, ensure_ok, exists_const, pure_ok, Prod.mk.injEq] at hcreate
    obtain ⟨-, rfl, -⟩ := hcreate
    rfl

theorem refreshPassProgress_rel {R : GrowthDb → GrowthDb → Prop} {userId : UserId}
    {season : PassSeason} {now : Time} {progress : PassProgress}
    (hrows : ∀ db rows, R db { db with passProgress := rows })
    (h : refreshPassProgress db userId season now = .ok (db', progress)) : R db db' := by
  rw [refreshPassProgress_frame h]
  exact hrows db _

theorem updatePassProgress_grants {now : Time} (h : updatePassProgress db event now = .ok db') :
    Grants db db' := by
  refine foldlM_rel Grants.refl Grants.trans ?_ h
  intro db season db' hstep
  obtain ⟨⟨_, progress⟩, hrefresh, rfl⟩ := map_ok.mp hstep
  exact refreshPassProgress_grants hrefresh

namespace KeptByWrites

variable {rules : String → Prop} {R : GrowthDb → GrowthDb → Prop}

theorem of_updatePassProgress {now : Time} (h : KeptByWrites event rules R)
    (hok : updatePassProgress db event now = .ok db') : R db db' := by
  refine foldlM_rel h.refl h.trans ?_ hok
  intro db season db' hstep
  obtain ⟨⟨_, progress⟩, hrefresh, rfl⟩ := map_ok.mp hstep
  exact h.refresh hrefresh

/-- After the base grant an attempt keeps the relation, up to the row of the event. -/
theorem of_attemptEvent {draws : AttemptDraws} (h : KeptByWrites event rules R)
    (hmission : ∀ rest, rules ("mission:" ++ rest))
    (hachievement : ∀ rest, rules ("achievement:" ++ rest))
    (hrows : ∀ db rows, R db { db with achievementProgress := rows })
    (hok : attemptEvent db event readings draws = .ok db') :
    ∃ withXp withPasses,
      unlessZero (if cardCollectedSourceIsEligible event readings then baseXpFor event else 0) db
        (grantXp db event.userId event.id event.kind
          (if cardCollectedSourceIsEligible event readings then baseXpFor event else 0) draws.xpId
          draws.now) = .ok withXp ∧
      R withXp withPasses ∧
      db' = withPasses.patchEvent event.id (·.processed (event.attemptCount + 1) draws.now) := by
  simp only [attemptEvent, bind_ok, pure_ok] at hok
  obtain ⟨withXp, hxp, withMissions, hmissions, withAchievements, hachievements, withPasses,
    hpasses, rfl⟩ := hok
  have hmoved : R withXp withMissions := by
    refine foldlM_rel h.refl h.trans ?_ hmissions
    intro db mission db' hstep
    obtain ⟨⟨_, changed⟩, hupdate, rfl⟩ := map_ok.mp hstep
    exact h.of_updateMissionProgress hmission hupdate
  have hachieved : R withMissions withAchievements :=
    foldlM_rel h.refl h.trans (fun _ _ _ => updateAchievementProgress_rel h.trans hrows
      (h.xp (hachievement _)) (h.reward (hachievement _))) hachievements
  exact ⟨withXp, withPasses, hxp,
    h.trans hmoved (h.trans hachieved (h.of_updatePassProgress hpasses)), rfl⟩

end KeptByWrites

theorem missionsMoved_nodup (hdb : db.Constrained) (order : List MissionDefinition) (now : Time) :
    ((missionsMoved db event readings order now).map (·.id)).Nodup := by
  unfold missionsMoved
  split
  · apply nodup_delete
    exact ((scan_perm order _).map _).nodup_iff.mpr (nodup_delete _ hdb.missions)
  · exact List.nodup_nil

/-- Distinct missions move distinct values, each by at most one. -/
theorem updateMissions_value {missions : List MissionDefinition} {draws : MissionId → MissionDraws}
    (hnodup : (missions.map (·.id)).Nodup) (hdb : db.Constrained)
    (h : missions.foldlM (fun db mission =>
      Prod.fst <$> updateMissionProgress db event mission (draws mission.id)) db = .ok db') :
    db'.events = db.events ∧ db'.Constrained ∧ ∀ key, db'.missionValue key ≤
      db.missionValue key + if key.2.1 ∈ missions.map (·.id) then 1 else 0 := by
  induction missions generalizing db with
  | nil =>
    rw [List.foldlM_nil, pure_ok] at h
    subst h
    exact ⟨rfl, hdb, by simp⟩
  | cons mission missions ih =>
    simp only [List.foldlM_cons, bind_ok, map_ok, Prod.exists] at h
    obtain ⟨_, ⟨first, changed, hfirst, rfl⟩, hrest⟩ := h
    rw [List.map_cons, List.nodup_cons] at hnodup
    obtain ⟨hevents, hconstrained, hvalue⟩ := updateMissionProgress_value hdb hfirst
    obtain ⟨hevents', hconstrained', hvalue'⟩ := ih hnodup.2 hconstrained hrest
    refine ⟨hevents'.trans hevents, hconstrained', ?_⟩
    intro key
    have hone := hvalue key
    have hothers := hvalue' key
    by_cases hkey : key.2.1 = mission.id
    · rw [if_neg (hkey ▸ hnodup.1)] at hothers
      simp only [hkey, if_true, List.map_cons, List.mem_cons, true_or] at hone ⊢
      omega
    · simp only [hkey, if_false, List.map_cons, List.mem_cons, false_or] at hone ⊢
      omega

theorem findEvent_patch (db : GrowthDb) (eventId eventId' : EventId)
    {f : EngagementEvent → EngagementEvent} (hf : ∀ event, (f event).id = event.id) :
    (db.patchEvent eventId f).findEvent eventId' =
      (db.findEvent eventId').map fun event => if event.id = eventId then f event else event := by
  rw [GrowthDb.findEvent, GrowthDb.events, GrowthDb.patchEvent]
  rw [find_patch (by intro event; rw [hf])]
  simp [GrowthDb.findEvent, GrowthDb.events]

theorem GrowthDb.Constrained.patchEvent (h : db.Constrained) (eventId : EventId)
    (f : EngagementEvent → EngagementEvent) : (db.patchEvent eventId f).Constrained :=
  ⟨h.missions, h.progress, h.xp, h.points⟩

/-- An attempt writes no event but its own. -/
theorem attemptEvent_events {draws : AttemptDraws}
    (h : attemptEvent db event readings draws = .ok db') :
    db'.events = patch (·.id == event.id) (·.processed (event.attemptCount + 1) draws.now)
      db.events := by
  have hkept : KeptByWrites event (fun _ => True) fun a b : GrowthDb => b.events = a.events :=
    ⟨fun hab hbc => hbc.trans hab, fun _ _ => rfl,
      fun hrefresh => (refreshPassProgress_grants hrefresh).events,
      fun _ hgrant => (Grants.of_grantXp hgrant).events,
      fun _ hgrant => (Grants.of_grantPoints hgrant).events,
      fun _ hgrant => (Grants.of_grantReward hgrant).events⟩
  obtain ⟨withXp, withPasses, hxp, hevents, rfl⟩ := hkept.of_attemptEvent (fun _ => trivial)
    (fun _ => trivial) (fun _ _ => rfl) h
  have hbase := (Grants.of_unlessZero hxp fun _ => Grants.of_grantXp).events
  rw [← hbase, ← hevents]
  rfl

/-- An attempt that succeeds writes the event as processed and moves each value by at most one. -/
theorem attemptEvent_ok {draws : AttemptDraws} (hdb : db.Constrained)
    (h : attemptEvent db event readings draws = .ok db') :
    db'.Constrained ∧ (∀ key, db'.missionValue key ≤ db.missionValue key + 1) ∧
      ∀ eventId, db'.findEvent eventId = (db.findEvent eventId).map fun row =>
        if row.id = event.id then row.processed (event.attemptCount + 1) draws.now else row := by
  have hwritten := attemptEvent_events h
  simp only [attemptEvent, bind_ok, pure_ok] at h
  obtain ⟨withXp, hxp, withMissions, hmissions, withAchievements, hachievements, withPasses,
    hpasses, rfl⟩ := h
  have hgrantsXp := Grants.of_unlessZero hxp fun _ => Grants.of_grantXp
  have hwithXp := hdb.of_grants hgrantsXp
  obtain ⟨hevents, hwithMissions, hvalue⟩ :=
    updateMissions_value (missionsMoved_nodup hwithXp _ _) hwithXp hmissions
  have hgrants : Grants withMissions withPasses :=
    (foldlM_rel Grants.refl Grants.trans (fun _ _ _ => updateAchievementProgress_grants)
      hachievements).trans (updatePassProgress_grants hpasses)
  refine ⟨(hwithMissions.of_grants hgrants).patchEvent _ _, ?_, ?_⟩
  · intro key
    have hle := hvalue key
    rw [hgrantsXp.missionValue] at hle
    calc (withPasses.patchEvent event.id _).missionValue key
        = withMissions.missionValue key := hgrants.missionValue key
      _ ≤ db.missionValue key + if key.2.1 ∈ _ then 1 else 0 := hle
      _ ≤ db.missionValue key + 1 := by split <;> omega
  · intro eventId
    rw [GrowthDb.findEvent, hwritten, find_patch (by intro _; rfl)]
    simp [GrowthDb.findEvent]

end

end Fanfolio
