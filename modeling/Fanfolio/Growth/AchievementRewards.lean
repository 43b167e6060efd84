import Fanfolio.Framework.Text
import Fanfolio.Growth.Achievements

/-!
# The rewards of an achievement

A fan who completes an achievement is granted its bonus and one reward, once. The rewards of the
request that has created it are all granted if it names no other.
-/

namespace Fanfolio

open Framework

section

variable {ν : Type} {entries : List (RuleKey × ν)} {userId : UserId} {eventId : EventId}
  {ruleKey : String}

theorem grantedUnder_addEntry_other {userId' : UserId} {ruleKey' : String}
    (hne : (userId', ruleKey') ≠ (userId, ruleKey)) (value : ν) :
    grantedUnder (addEntry entries (userId', eventId, ruleKey') value) userId ruleKey =
      grantedUnder entries userId ruleKey := by
  unfold addEntry
  split
  · rfl
  · have hother : (userId' == userId && ruleKey' == ruleKey) = false := by
      simpa [Prod.ext_iff] using hne
    simp [grantedUnder, List.filter_append, hother]

theorem grantedUnder_addEntry_new (hnone : grantedUnder entries userId ruleKey = []) (value : ν) :
    grantedUnder (addEntry entries (userId, eventId, ruleKey) value) userId ruleKey = [value] := by
  have hnew : (userId, eventId, ruleKey) ∉ entries.map Prod.fst := by
    intro hmem
    obtain ⟨entry, hentry, hkey⟩ := List.mem_map.mp hmem
    have hgranted : entry.2 ∈ grantedUnder entries userId ruleKey :=
      List.mem_map_of_mem (List.mem_filter.mpr ⟨hentry, by simp [hkey]⟩)
    simp [hnone] at hgranted
  rw [addEntry_of_notMem hnew, grantedUnder, List.filter_append, List.map_append]
  change grantedUnder entries userId ruleKey ++ _ = _
  rw [hnone]
  simp

theorem grantedUnder_elim_other {userId' : UserId} {ruleKey' : String}
    (hne : (userId', ruleKey') ≠ (userId, ruleKey)) (part : Option ν) :
    grantedUnder (part.elim entries (addEntry entries (userId', eventId, ruleKey')))
      userId ruleKey = grantedUnder entries userId ruleKey := by
  cases part with
  | none => rfl
  | some value => exact grantedUnder_addEntry_other hne value

theorem grantedUnder_elim_new (hnone : grantedUnder entries userId ruleKey = [])
    (part : Option ν) :
    grantedUnder (part.elim entries (addEntry entries (userId, eventId, ruleKey)))
      userId ruleKey = part.toList := by
  cases part with
  | none => exact hnone
  | some value => exact grantedUnder_addEntry_new hnone value

end

theorem achievementRule_inj {achievementId achievementId' : AchievementId} :
    achievementRule achievementId = achievementRule achievementId' ↔
      achievementId = achievementId' := String.append_right_inj _

/-- A rule that no achievement grants under. -/
def NotOfAchievement (ruleKey : String) : Prop :=
  ∀ achievementId, ruleKey ≠ achievementRule achievementId

theorem notOfAchievement_mission (rest : String) : NotOfAchievement ("mission:" ++ rest) :=
  append_ne_append (by simp) rest

theorem notOfAchievement_kind {event : EngagementEvent} (h : baseXpFor event ≠ 0) :
    NotOfAchievement event.kind := by
  intro achievementId heq
  have hlist := congrArg String.toList heq
  unfold baseXpFor at h
  split at h
  · rename_i hkind
    simp [hkind, achievementRule] at hlist
  · split at h
    · rename_i hkind
      simp [hkind, achievementRule] at hlist
    · exact absurd rfl h

/-- Nothing of the achievements tells the tables apart. -/
structure KeepsAchievements (db db' : GrowthDb) : Prop where
  achievements : db'.achievements = db.achievements
  progress : db'.achievementProgress = db.achievementProgress
  bonuses : ∀ userId achievementId, db'.bonuses userId achievementId =
    db.bonuses userId achievementId
  rewards : ∀ userId achievementId, db'.completionRewards userId achievementId =
    db.completionRewards userId achievementId

namespace KeepsAchievements

variable {db db' db'' : GrowthDb}

theorem refl (db : GrowthDb) : KeepsAchievements db db :=
  ⟨rfl, rfl, fun _ _ => rfl, fun _ _ => rfl⟩

theorem trans (h : KeepsAchievements db db') (h' : KeepsAchievements db' db'') :
    KeepsAchievements db db'' :=
  ⟨h'.achievements.trans h.achievements, h'.progress.trans h.progress,
    fun userId achievementId => (h'.bonuses _ _).trans (h.bonuses userId achievementId),
    fun userId achievementId => (h'.rewards _ _).trans (h.rewards userId achievementId)⟩

/-- Tables with the same definitions, rows and entries. -/
theorem of_same (hachievements : db'.achievements = db.achievements)
    (hprogress : db'.achievementProgress = db.achievementProgress)
    (hxp : db'.xpLedger = db.xpLedger) (hgrants : db'.rewardGrants = db.rewardGrants) :
    KeepsAchievements db db' := by
  refine ⟨hachievements, hprogress, ?_, ?_⟩
  · intro userId achievementId
    rw [GrowthDb.bonuses, GrowthDb.bonuses, GrowthDb.xpEntries, hxp, GrowthDb.xpEntries]
  · intro userId achievementId
    rw [GrowthDb.completionRewards, GrowthDb.completionRewards, GrowthDb.rewardEntries, hgrants,
      GrowthDb.rewardEntries]

theorem of_grantXp {userId : UserId} {eventId : EventId} {ruleKey : String} {amount : Int}
    {ledgerId : LedgerId} {now : Time} {row : XpLedger} (hrule : NotOfAchievement ruleKey)
    (h : grantXp db userId eventId ruleKey amount ledgerId now = .ok (db', row)) :
    KeepsAchievements db db' := by
  obtain ⟨xpLedger, levels, hdb, hentries⟩ := grantXp_ok h
  have hgrants : db'.rewardEntries = db.rewardEntries := by rw [hdb]; rfl
  refine ⟨by rw [hdb], by rw [hdb], ?_, ?_⟩
  · intro userId' achievementId
    rw [GrowthDb.bonuses, hentries]
    refine grantedUnder_addEntry_other ?_ _
    exact fun heq => hrule achievementId (Prod.ext_iff.mp heq).2
  · intro userId' achievementId
    rw [GrowthDb.completionRewards, hgrants, GrowthDb.completionRewards]

theorem of_grantReward {userId : UserId} {eventId : EventId} {ruleKey : String}
    {rewardId : RewardId} {grantId : String} {now : Time} {row : RewardGrant}
    (hrule : NotOfAchievement ruleKey)
    (h : grantReward db userId rewardId eventId ruleKey grantId now = .ok (db', row)) :
    KeepsAchievements db db' := by
  obtain ⟨rewardGrants, hdb, hentries⟩ := grantReward_ok h
  have hxp : db'.xpEntries = db.xpEntries := by rw [hdb]; rfl
  refine ⟨by rw [hdb], by rw [hdb], ?_, ?_⟩
  · intro userId' achievementId
    rw [GrowthDb.bonuses, hxp, GrowthDb.bonuses]
  · intro userId' achievementId
    rw [GrowthDb.completionRewards, hentries]
    refine grantedUnder_addEntry_other ?_ _
    exact fun heq => hrule achievementId (Prod.ext_iff.mp heq).2

theorem of_grantPoints {userId : UserId} {eventId : EventId} {ruleKey : String} {amount : Int}
    {description : String} {metadata : JsonObject} {ledgerId : LedgerId} {row : PointLedger}
    (h : grantGrowthPoints db userId eventId ruleKey amount description metadata ledgerId =
      .ok (db', row)) : KeepsAchievements db db' := by
  obtain ⟨balances, ledger, rfl, -⟩ := grantGrowthPoints_ok h
  exact of_same rfl rfl rfl rfl

theorem of_unlessZero {ρ : Type} {amount : Int} {grant : Except Failure (GrowthDb × ρ)}
    (h : unlessZero amount db grant = .ok db')
    (hgrant : amount ≠ 0 → ∀ r, grant = .ok (db', r) → KeepsAchievements db db') :
    KeepsAchievements db db' := by
  rcases unlessZero_ok.mp h with ⟨-, rfl⟩ | ⟨hne, r, hr⟩
  · exact refl db
  · exact hgrant hne r hr

end KeepsAchievements

section

variable {db db' : GrowthDb} {event : EngagementEvent} {readings : CardReadings}

/-- Missions and passes leave the achievements alone. -/
theorem keepsAchievements_kept (event : EngagementEvent) :
    KeptByWrites event NotOfAchievement KeepsAchievements :=
  ⟨.trans, fun _ _ => .of_same rfl rfl rfl rfl,
    refreshPassProgress_rel fun _ _ => .of_same rfl rfl rfl rfl, .of_grantXp,
    fun _ => .of_grantPoints, .of_grantReward⟩

theorem achievementRow_some {userId : UserId} {achievementId : AchievementId}
    {row : AchievementProgress} (h : db.achievementRow userId achievementId = some row) :
    row ∈ db.achievementProgress ∧ row.userId = userId ∧ row.achievementId = achievementId := by
  have hkey : (row.userId == userId && row.achievementId == achievementId) = true :=
    List.find?_some (p := fun row : AchievementProgress =>
      row.userId == userId && row.achievementId == achievementId) h
  exact ⟨List.mem_of_find?_eq_some h, by simpa using hkey⟩

theorem getOrCreateAchievementProgress_ok {userId : UserId} {achievementId : AchievementId}
    {progressId : ProgressId} {now : Time} {progress : AchievementProgress}
    (h : getOrCreateAchievementProgress db userId achievementId progressId now =
      .ok (db', progress)) :
    db.achievementRow userId achievementId = some progress ∧ db' = db ∨
    db.achievementRow userId achievementId = none ∧
      progress =
        { id := progressId, userId := userId, achievementId := achievementId, updatedAt := now } ∧
      (∀ row ∈ db.achievementProgress, row.id ≠ progressId) ∧
      db' = { db with achievementProgress := db.achievementProgress ++ [progress] } := by
  unfold getOrCreateAchievementProgress at h
  split at h
  · rename_i existing hfind
    obtain ⟨rfl, rfl⟩ := Prod.mk.inj (Except.ok.inj h)
    exact .inl ⟨hfind, rfl⟩
  · rename_i hnone
    simp only [bind_ok, ensure_ok, exists_const, pure_ok, Prod.mk.injEq] at h
    obtain ⟨hfresh, rfl, rfl⟩ := h
    exact .inr ⟨hnone, rfl, hfresh, rfl⟩

/-- The row of a fan on an achievement is there, and nothing else has changed. -/
structure AchievementLoaded (db db' : GrowthDb) (progress : AchievementProgress) : Prop where
  frame : db' = { db with achievementProgress := db'.achievementProgress }
  rows : (db'.achievementProgress.map (·.id)).Nodup
  known : ∀ row ∈ db'.achievementProgress,
    row.achievementId = progress.achievementId ∨ row ∈ db.achievementProgress
  found : db'.achievementRow progress.userId progress.achievementId = some progress
  completed : progress.completedAt ≠ none ↔
    db.Completed progress.userId progress.achievementId
  others : ∀ userId achievementId,
    (userId, achievementId) ≠ (progress.userId, progress.achievementId) →
    db'.achievementRow userId achievementId = db.achievementRow userId achievementId

theorem getOrCreateAchievementProgress_loaded {userId : UserId} {achievementId : AchievementId}
    {progressId : ProgressId} {now : Time} {progress : AchievementProgress}
    (hrows : (db.achievementProgress.map (·.id)).Nodup)
    (h : getOrCreateAchievementProgress db userId achievementId progressId now =
      .ok (db', progress)) :
    progress.userId = userId ∧ progress.achievementId = achievementId ∧
      AchievementLoaded db db' progress := by
  rcases getOrCreateAchievementProgress_ok h with ⟨hfind, rfl⟩ | ⟨hnone, hrow, hfresh, rfl⟩
  · obtain ⟨-, rfl, rfl⟩ := achievementRow_some hfind
    refine ⟨rfl, rfl, rfl, hrows, fun row hmem => .inr hmem, hfind, ?_, fun _ _ _ => rfl⟩
    simp [GrowthDb.Completed, hfind]
  · have hid : progress.id = progressId := by rw [hrow]
    have huser : progress.userId = userId := by rw [hrow]
    have hachievement : progress.achievementId = achievementId := by rw [hrow]
    refine ⟨huser, hachievement, rfl, ?_, ?_, ?_, ?_, ?_⟩
    · exact nodup_insert hrows (by rw [hid]; exact hfresh)
    · intro row hmem
      rcases List.mem_append.mp hmem with hold | hlast
      · exact .inr hold
      · exact .inl (by rw [List.mem_singleton.mp hlast])
    · rw [GrowthDb.achievementRow] at hnone ⊢
      rw [huser, hachievement, find_insert, hnone]
      simp [huser, hachievement]
    · have hopen : progress.completedAt = none := by rw [hrow]
      simp [GrowthDb.Completed, huser, hachievement, hnone, hopen]
    · intro userId' achievementId' hne
      have hother : (progress.userId == userId' && progress.achievementId == achievementId') =
          false := by
        rw [Bool.eq_false_iff, Ne, Bool.and_eq_true, beq_iff_eq, beq_iff_eq]
        rintro ⟨hu, ha⟩
        exact hne (by rw [hu, ha])
      rw [GrowthDb.achievementRow, find_insert, hother]
      simp [GrowthDb.achievementRow]

/-- The event takes the fan to the target for the first time. -/
def Completes (db : GrowthDb) (event : EngagementEvent) (definition : AchievementDefinition)
    (readings : CardReadings) : Prop :=
  ¬db.Completed event.userId definition.id ∧
    definition.targetValue ≤ readings.achievementValue definition.id

open Classical in
/-- What one update does to the tables. -/
structure AchievementUpdated (db db' : GrowthDb) (event : EngagementEvent)
    (definition : AchievementDefinition) (readings : CardReadings) : Prop where
  achievements : db'.achievements = db.achievements
  rows : (db'.achievementProgress.map (·.id)).Nodup
  known : ∀ row ∈ db'.achievementProgress,
    row.achievementId = definition.id ∨ row ∈ db.achievementProgress
  value : db'.achievementValue event.userId definition.id =
    min (readings.achievementValue definition.id) definition.targetValue
  completed : db'.Completed event.userId definition.id ↔
    db.Completed event.userId definition.id ∨
      definition.targetValue ≤ readings.achievementValue definition.id
  others : ∀ userId achievementId, (userId, achievementId) ≠ (event.userId, definition.id) →
    db'.achievementRow userId achievementId = db.achievementRow userId achievementId
  xp : db'.xpEntries =
    (if Completes db event definition readings then definition.bonusPart else none).elim
      db.xpEntries (addEntry db.xpEntries (event.userId, event.id, achievementRule definition.id))
  rewards : db'.rewardEntries =
    (if Completes db event definition readings then definition.grantedReward else none).elim
      db.rewardEntries
      (addEntry db.rewardEntries (event.userId, event.id, achievementRule definition.id))

/-- A write of the loaded row keeps the rows apart and leaves those of others alone. -/
theorem AchievementLoaded.write {loaded : GrowthDb} {progress : AchievementProgress}
    (h : AchievementLoaded db loaded progress) {f : AchievementProgress → AchievementProgress}
    (hid : ∀ row, (f row).id = row.id) (huser : ∀ row, (f row).userId = row.userId)
    (hachievement : ∀ row, (f row).achievementId = row.achievementId)
    (hrows : db'.achievementProgress =
      patch (·.id == progress.id) (fun _ => f progress) loaded.achievementProgress) :
    (db'.achievementProgress.map (·.id)).Nodup ∧
    (∀ row ∈ db'.achievementProgress,
      row.achievementId = progress.achievementId ∨ row ∈ db.achievementProgress) ∧
    db'.achievementRow progress.userId progress.achievementId = some (f progress) ∧
    ∀ userId achievementId, (userId, achievementId) ≠ (progress.userId, progress.achievementId) →
      db'.achievementRow userId achievementId = db.achievementRow userId achievementId := by
  have honly : ∀ row ∈ loaded.achievementProgress, row.id = progress.id → row = progress :=
    fun row hmem heq => eq_of_unique h.rows hmem (achievementRow_some h.found).1 heq
  have hpatch : db'.achievementProgress =
      patch (·.id == progress.id) f loaded.achievementProgress := by
    rw [hrows]
    refine patch_congr fun row hmem hp => ?_
    rw [honly row hmem (beq_iff_eq.mp hp)]
  have hfind : ∀ userId achievementId, db'.achievementRow userId achievementId =
      (loaded.achievementRow userId achievementId).map
        fun row => if row.id == progress.id then f row else row := by
    intro userId achievementId
    rw [GrowthDb.achievementRow, hpatch, find_patch, GrowthDb.achievementRow]
    intro row
    rw [huser, hachievement]
  refine ⟨?_, ?_, ?_, ?_⟩
  · rw [hpatch, map_patch hid]
    exact h.rows
  · intro row hmem
    rw [hpatch] at hmem
    obtain ⟨row', hmem', rfl⟩ := mem_patch.mp hmem
    by_cases hp : (row'.id == progress.id) = true
    · rw [if_pos hp, hachievement, honly row' hmem' (beq_iff_eq.mp hp)]
      exact .inl rfl
    · rw [if_neg hp]
      exact h.known row' hmem'
  · rw [hfind, h.found, Option.map_some, beq_self_eq_true, if_pos rfl]
  · intro userId achievementId hne
    rw [hfind, ← h.others userId achievementId hne]
    cases hrow : loaded.achievementRow userId achievementId with
    | none => rfl
    | some row =>
      obtain ⟨hmem, hu, ha⟩ := achievementRow_some hrow
      have hother : row.id ≠ progress.id := by
        intro heq
        obtain rfl := honly row hmem heq
        exact hne (by rw [hu, ha])
      simp [hother]

/-- The grants of a completion are made under its rule, and leave everything else alone. -/
theorem completionGrants_ok {definition : AchievementDefinition} {draws : AchievementDraws}
    {withXp : GrowthDb}
    (hxp : unlessZero definition.xpBonus db (grantXp db event.userId event.id
      (achievementRule definition.id) definition.xpBonus draws.xpId draws.now) = .ok withXp)
    (hreward : (match definition.grantedReward with
      | none => pure withXp
      | some rewardId => Prod.fst <$> grantReward withXp event.userId rewardId event.id
          (achievementRule definition.id) draws.grantId draws.now) = .ok db') :
    db'.achievements = db.achievements ∧ db'.achievementProgress = db.achievementProgress ∧
    db'.xpEntries = definition.bonusPart.elim db.xpEntries
      (addEntry db.xpEntries (event.userId, event.id, achievementRule definition.id)) ∧
    db'.rewardEntries = definition.grantedReward.elim db.rewardEntries
      (addEntry db.rewardEntries (event.userId, event.id, achievementRule definition.id)) := by
  have hwithXp : withXp.achievements = db.achievements ∧
      withXp.achievementProgress = db.achievementProgress ∧
      withXp.rewardEntries = db.rewardEntries ∧
      withXp.xpEntries = definition.bonusPart.elim db.xpEntries
        (addEntry db.xpEntries (event.userId, event.id, achievementRule definition.id)) := by
    rcases unlessZero_ok.mp hxp with ⟨hzero, rfl⟩ | ⟨hne, row, hgrant⟩
    · exact ⟨rfl, rfl, rfl, by simp [AchievementDefinition.bonusPart, hzero]⟩
    · obtain ⟨xpLedger, levels, hdb, hentries⟩ := grantXp_ok hgrant
      refine ⟨by rw [hdb], by rw [hdb], by rw [hdb]; rfl, ?_⟩
      rw [hentries, AchievementDefinition.bonusPart, if_neg hne, Option.elim_some]
  obtain ⟨hachievements, hprogress, hrewards, hentries⟩ := hwithXp
  cases hpart : definition.grantedReward with
  | none =>
    simp only [hpart, pure_ok] at hreward
    subst hreward
    exact ⟨hachievements, hprogress, hentries, hrewards⟩
  | some rewardId =>
    simp only [hpart, map_ok, Prod.exists] at hreward
    obtain ⟨_, row, hgrant, rfl⟩ := hreward
    obtain ⟨rewardGrants, hdb, hadded⟩ := grantReward_ok hgrant
    refine ⟨by rw [hdb]; exact hachievements, by rw [hdb]; exact hprogress, ?_, ?_⟩
    · rw [← hentries, hdb]
      rfl
    · rw [hadded, hrewards, Option.elim_some]

open Classical in
theorem AchievementLoaded.updated {loaded : GrowthDb} {progress : AchievementProgress}
    {definition : AchievementDefinition} {updatedAt : Time} {completedAt : Option Time}
    (h : AchievementLoaded db loaded progress) (huser : progress.userId = event.userId)
    (hachievement : progress.achievementId = definition.id)
    (hcompletedAt : completedAt ≠ none ↔ db.Completed event.userId definition.id ∨
      definition.targetValue ≤ readings.achievementValue definition.id)
    (hachievements : db'.achievements = db.achievements)
    (hrows : db'.achievementProgress = patch (·.id == progress.id) (fun _ => { progress with
      currentValue := min (readings.achievementValue definition.id) definition.targetValue
      updatedAt := updatedAt
      completedAt := completedAt }) loaded.achievementProgress)
    (hxp : db'.xpEntries =
      (if Completes db event definition readings then definition.bonusPart else none).elim
        db.xpEntries
        (addEntry db.xpEntries (event.userId, event.id, achievementRule definition.id)))
    (hrewards : db'.rewardEntries =
      (if Completes db event definition readings then definition.grantedReward else none).elim
        db.rewardEntries
        (addEntry db.rewardEntries (event.userId, event.id, achievementRule definition.id))) :
    AchievementUpdated db db' event definition readings := by
  obtain ⟨hids, hknown, hfound, hothers⟩ := h.write
    (f := fun row => { row with
      currentValue := min (readings.achievementValue definition.id) definition.targetValue
      updatedAt := updatedAt
      completedAt := completedAt })
    (by intro _; rfl) (by intro _; rfl) (by intro _; rfl) hrows
  rw [huser, hachievement] at hfound
  rw [hachievement] at hknown
  rw [huser, hachievement] at hothers
  refine ⟨hachievements, hids, hknown, ?_, ?_, hothers, hxp, hrewards⟩
  · rw [GrowthDb.achievementValue, hfound, Option.map_some, Option.getD_some]
  · rw [← hcompletedAt]
    simp [GrowthDb.Completed, hfound]

theorem updateAchievementProgress_ok {definition : AchievementDefinition}
    {draws : AchievementDraws} (hrows : (db.achievementProgress.map (·.id)).Nodup)
    (h : updateAchievementProgress db event definition readings draws = .ok db') :
    AchievementUpdated db db' event definition readings := by
  simp only [updateAchievementProgress, bind_ok, Prod.exists] at h
  obtain ⟨loaded, progress, hload, h⟩ := h
  obtain ⟨huser, hachievement, hloaded⟩ := getOrCreateAchievementProgress_loaded hrows hload
  have hopen := hloaded.completed
  rw [huser, hachievement] at hopen
  have hcompletes : (decide (definition.targetValue ≤
      min (readings.achievementValue definition.id) definition.targetValue) &&
        progress.completedAt.isNone) = true ↔ Completes db event definition readings := by
    rw [Completes, ← hopen, not_not, and_comm]
    simp
  have hframe := hloaded.frame
  have hachievements : loaded.achievements = db.achievements := by rw [hframe]
  have hxp : loaded.xpEntries = db.xpEntries := by rw [hframe]; rfl
  have hrewards : loaded.rewardEntries = db.rewardEntries := by rw [hframe]; rfl
  split at h
  · rename_i hdone
    rw [hcompletes] at hdone
    simp only [bind_ok] at h
    obtain ⟨withXp, hwithXp, h⟩ := h
    obtain ⟨hachievements', hprogress, hxp', hrewards'⟩ := completionGrants_ok hwithXp h
    refine hloaded.updated huser hachievement ?_ (hachievements'.trans hachievements) hprogress
      ?_ ?_
    · exact ⟨fun _ => .inr hdone.2, fun _ => by simp⟩
    · rw [if_pos hdone, hxp']
      exact hxp ▸ rfl
    · rw [if_pos hdone, hrewards']
      exact hrewards ▸ rfl
  · rename_i hdone
    obtain rfl := pure_ok.mp h
    have hwaits : ¬Completes db event definition readings := fun hc => hdone (hcompletes.mpr hc)
    refine hloaded.updated huser hachievement ?_ hachievements rfl ?_ ?_
    · rw [hopen]
      refine ⟨.inl, ?_⟩
      rintro (hcompleted | hreached)
      · exact hcompleted
      · exact not_not.mp fun hc => hwaits ⟨hc, hreached⟩
    · rw [if_neg hwaits]
      exact hxp
    · rw [if_neg hwaits]
      exact hrewards

namespace AchievementUpdated

variable {definition : AchievementDefinition}

/-- Nothing is granted but to the fan of the event, under the rule of the achievement. -/
theorem entries_other (h : AchievementUpdated db db' event definition readings) {userId : UserId}
    {achievementId : AchievementId} (hne : (userId, achievementId) ≠ (event.userId, definition.id)) :
    db'.bonuses userId achievementId = db.bonuses userId achievementId ∧
    db'.completionRewards userId achievementId = db.completionRewards userId achievementId := by
  have hrule : (event.userId, achievementRule definition.id) ≠
      (userId, achievementRule achievementId) := by
    intro heq
    obtain ⟨hu, hr⟩ := Prod.mk.inj heq
    exact hne (by rw [hu, achievementRule_inj.mp hr])
  constructor
  · rw [GrowthDb.bonuses, h.xp]
    exact grantedUnder_elim_other hrule _
  · rw [GrowthDb.completionRewards, h.rewards]
    exact grantedUnder_elim_other hrule _

theorem entries_waiting (h : AchievementUpdated db db' event definition readings)
    (hwaits : ¬Completes db event definition readings) :
    db'.bonuses event.userId definition.id = db.bonuses event.userId definition.id ∧
    db'.completionRewards event.userId definition.id =
      db.completionRewards event.userId definition.id := by
  constructor
  · rw [GrowthDb.bonuses, h.xp, if_neg hwaits]
    rfl
  · rw [GrowthDb.completionRewards, h.rewards, if_neg hwaits]
    rfl

theorem entries_completes (h : AchievementUpdated db db' event definition readings)
    (hcompletes : Completes db event definition readings)
    (hnone : db.bonuses event.userId definition.id = [] ∧
      db.completionRewards event.userId definition.id = []) :
    db'.bonuses event.userId definition.id = definition.bonusPart.toList ∧
    db'.completionRewards event.userId definition.id = definition.grantedReward.toList := by
  constructor
  · rw [GrowthDb.bonuses, h.xp, if_pos hcompletes]
    exact grantedUnder_elim_new hnone.1 _
  · rw [GrowthDb.completionRewards, h.rewards, if_pos hcompletes]
    exact grantedUnder_elim_new hnone.2 _

theorem completed_other (h : AchievementUpdated db db' event definition readings)
    {userId : UserId} {achievementId : AchievementId}
    (hne : (userId, achievementId) ≠ (event.userId, definition.id)) :
    db'.Completed userId achievementId ↔ db.Completed userId achievementId := by
  rw [GrowthDb.Completed, GrowthDb.Completed, h.others _ _ hne]

end AchievementUpdated

theorem AchievementsSound.updated {definition : AchievementDefinition} (h : AchievementsSound db)
    (hmem : definition ∈ db.achievements)
    (hupdated : AchievementUpdated db db' event definition readings) : AchievementsSound db' := by
  have hsame := hupdated.achievements
  refine ⟨hsame ▸ h.ids, hupdated.rows, ?_, hsame ▸ h.targets, ?_, ?_, ?_⟩
  · intro row hrow
    rw [hsame]
    rcases hupdated.known row hrow with hid | hold
    · exact hid ▸ List.mem_map_of_mem hmem
    · exact h.known row hold
  · intro userId achievementId hopen
    by_cases hkey : (userId, achievementId) = (event.userId, definition.id)
    · obtain ⟨rfl, rfl⟩ := Prod.mk.inj hkey
      have hboth := mt hupdated.completed.mpr hopen
      rw [not_or] at hboth
      obtain ⟨hbonuses, hrewards⟩ := hupdated.entries_waiting fun hc => hboth.2 hc.2
      rw [hbonuses, hrewards]
      exact h.waiting _ _ hboth.1
    · obtain ⟨hbonuses, hrewards⟩ := hupdated.entries_other hkey
      rw [hbonuses, hrewards]
      exact h.waiting _ _ (mt (hupdated.completed_other hkey).mpr hopen)
  · intro userId definition' hmem' hcompleted
    rw [hsame] at hmem'
    by_cases hkey : (userId, definition'.id) = (event.userId, definition.id)
    · obtain ⟨rfl, hid⟩ := Prod.mk.inj hkey
      obtain rfl := eq_of_unique h.ids hmem' hmem hid
      by_cases hbefore : db.Completed event.userId definition'.id
      · obtain ⟨hbonuses, hrewards⟩ := hupdated.entries_waiting fun hc => hc.1 hbefore
        rw [hbonuses, hrewards]
        exact h.rewarded _ _ hmem hbefore
      · have hreached := (hupdated.completed.mp hcompleted).resolve_left hbefore
        exact hupdated.entries_completes ⟨hbefore, hreached⟩ (h.waiting _ _ hbefore)
    · obtain ⟨hbonuses, hrewards⟩ := hupdated.entries_other hkey
      rw [hbonuses, hrewards]
      exact h.rewarded _ _ hmem' ((hupdated.completed_other hkey).mp hcompleted)
  · intro userId definition' hmem' hreached
    rw [hsame] at hmem'
    by_cases hkey : (userId, definition'.id) = (event.userId, definition.id)
    · obtain ⟨rfl, hid⟩ := Prod.mk.inj hkey
      obtain rfl := eq_of_unique h.ids hmem' hmem hid
      rw [hupdated.value, le_min_iff] at hreached
      exact hupdated.completed.mpr (.inr hreached.1)
    · rw [hupdated.completed_other hkey]
      refine h.reached _ _ hmem' ?_
      rwa [GrowthDb.achievementValue, hupdated.others _ _ hkey] at hreached

/-- The event leaves the fan where it was on the achievement, or at what the cards are worth. -/
def MovesTo (readings : CardReadings) (db db' : GrowthDb) (userId : UserId)
    (definition : AchievementDefinition) : Prop :=
  db'.achievementRow userId definition.id = db.achievementRow userId definition.id ∨
  db'.achievementValue userId definition.id =
      min (readings.achievementValue definition.id) definition.targetValue ∧
    (db'.Completed userId definition.id ↔ db.Completed userId definition.id ∨
      definition.targetValue ≤ readings.achievementValue definition.id)

theorem MovesTo.trans {db'' : GrowthDb} {userId : UserId} {definition : AchievementDefinition}
    (h : MovesTo readings db db' userId definition)
    (h' : MovesTo readings db' db'' userId definition) :
    MovesTo readings db db'' userId definition := by
  rcases h' with hsame' | ⟨hvalue', hcompleted'⟩
  · rcases h with hsame | ⟨hvalue, hcompleted⟩
    · exact .inl (hsame'.trans hsame)
    · refine .inr ⟨?_, ?_⟩
      · rw [GrowthDb.achievementValue, hsame']
        exact hvalue
      · rw [GrowthDb.Completed, hsame']
        exact hcompleted
  · refine .inr ⟨hvalue', ?_⟩
    rcases h with hsame | ⟨-, hcompleted⟩
    · have hbefore : db'.Completed userId definition.id ↔ db.Completed userId definition.id := by
        rw [GrowthDb.Completed, GrowthDb.Completed, hsame]
      rwa [hbefore] at hcompleted'
    · rw [hcompleted', hcompleted, or_assoc, or_self_iff]

theorem KeepsAchievements.row (h : KeepsAchievements db db') (userId : UserId)
    (achievementId : AchievementId) :
    db'.achievementRow userId achievementId = db.achievementRow userId achievementId := by
  rw [GrowthDb.achievementRow, h.progress, GrowthDb.achievementRow]

theorem KeepsAchievements.completed (h : KeepsAchievements db db') (userId : UserId)
    (achievementId : AchievementId) :
    db'.Completed userId achievementId ↔ db.Completed userId achievementId := by
  rw [GrowthDb.Completed, GrowthDb.Completed, h.row]

theorem KeepsAchievements.sound (h : KeepsAchievements db db') (hsound : AchievementsSound db) :
    AchievementsSound db' := by
  refine ⟨h.achievements ▸ hsound.ids, h.progress ▸ hsound.rows, ?_, h.achievements ▸ hsound.targets,
    ?_, ?_, ?_⟩
  · rw [h.progress, h.achievements]
    exact hsound.known
  · intro userId achievementId hopen
    rw [h.bonuses, h.rewards]
    exact hsound.waiting _ _ (mt (h.completed _ _).mpr hopen)
  · intro userId definition hmem hcompleted
    rw [h.bonuses, h.rewards]
    exact hsound.rewarded _ _ (h.achievements ▸ hmem) ((h.completed _ _).mp hcompleted)
  · intro userId definition hmem hreached
    rw [GrowthDb.achievementValue, h.row] at hreached
    exact (h.completed _ _).mpr (hsound.reached _ _ (h.achievements ▸ hmem) hreached)

/-- What a processed event does to the achievements of all fans. -/
structure AchievementsMoved (readings : CardReadings) (db db' : GrowthDb) : Prop where
  sound : AchievementsSound db'
  achievements : db'.achievements = db.achievements
  moves : ∀ userId, ∀ definition ∈ db.achievements, MovesTo readings db db' userId definition

theorem AchievementsMoved.of_keeps (h : KeepsAchievements db db') (hsound : AchievementsSound db) :
    AchievementsMoved readings db db' :=
  ⟨h.sound hsound, h.achievements, fun _ _ _ => .inl (h.row _ _)⟩

theorem AchievementsMoved.trans {db'' : GrowthDb} (h : AchievementsMoved readings db db')
    (h' : AchievementsMoved readings db' db'') : AchievementsMoved readings db db'' :=
  ⟨h'.sound, h'.achievements.trans h.achievements, fun userId definition hmem =>
    (h.moves userId definition hmem).trans
      (h'.moves userId definition (h.achievements ▸ hmem))⟩

theorem AchievementsMoved.of_updated {definition : AchievementDefinition}
    (hsound : AchievementsSound db) (hmem : definition ∈ db.achievements)
    (h : AchievementUpdated db db' event definition readings) :
    AchievementsMoved readings db db' := by
  refine ⟨hsound.updated hmem h, h.achievements, ?_⟩
  intro userId definition' hmem'
  by_cases hkey : (userId, definition'.id) = (event.userId, definition.id)
  · obtain ⟨rfl, hid⟩ := Prod.mk.inj hkey
    obtain rfl := eq_of_unique hsound.ids hmem' hmem hid
    exact .inr ⟨h.value, h.completed⟩
  · exact .inl (h.others _ _ hkey)

theorem updateAchievements_moved {definitions : List AchievementDefinition}
    {draws : AchievementId → AchievementDraws} (hsound : AchievementsSound db)
    (hmem : ∀ definition ∈ definitions, definition ∈ db.achievements)
    (h : definitions.foldlM (fun db definition =>
      updateAchievementProgress db event definition readings (draws definition.id)) db =
        .ok db') : AchievementsMoved readings db db' := by
  induction definitions generalizing db with
  | nil =>
    rw [List.foldlM_nil, pure_ok] at h
    exact h ▸ .of_keeps (.refl db) hsound
  | cons definition definitions ih =>
    rw [List.foldlM_cons, bind_ok] at h
    obtain ⟨first, hfirst, hrest⟩ := h
    rw [List.forall_mem_cons] at hmem
    have hmoved := AchievementsMoved.of_updated hsound hmem.1
      (updateAchievementProgress_ok hsound.rows hfirst)
    exact hmoved.trans (ih hmoved.sound (by rw [hmoved.achievements]; exact hmem.2) hrest)

theorem mem_publishedDefinitionsForEvent {order : List AchievementDefinition}
    {definition : AchievementDefinition}
    (h : definition ∈ publishedDefinitionsForEvent db event readings order) :
    definition ∈ db.achievements ∧ definition.status = .published := by
  unfold publishedDefinitionsForEvent at h
  split at h
  · exact absurd h List.not_mem_nil
  · rw [(scan_perm _ _).mem_iff, List.mem_filter] at h
    simp only [Bool.and_eq_true, beq_iff_eq] at h
    exact ⟨h.1, h.2.1.1⟩

/-- All that an attempt does to the achievements is to update those that it selects. -/
theorem attemptEvent_achievements {draws : AttemptDraws}
    (h : attemptEvent db event readings draws = .ok db') :
    ∃ before after, KeepsAchievements db before ∧
      (publishedDefinitionsForEvent before event readings draws.achievementOrder).foldlM
        (fun db definition => updateAchievementProgress db event definition readings
          (draws.achievement definition.id)) before = .ok after ∧
      KeepsAchievements after db' := by
  simp only [attemptEvent, bind_ok, pure_ok] at h
  obtain ⟨withXp, hxp, withMissions, hmissions, withAchievements, hachievements, withPasses,
    hpasses, rfl⟩ := h
  have hbase : KeepsAchievements db withXp := by
    refine .of_unlessZero hxp fun hne _ => .of_grantXp (notOfAchievement_kind ?_)
    intro hzero
    rw [hzero, ite_self] at hne
    exact hne rfl
  have hmoved : KeepsAchievements withXp withMissions := by
    refine foldlM_rel KeepsAchievements.refl KeepsAchievements.trans ?_ hmissions
    intro db mission db' hstep
    obtain ⟨⟨_, changed⟩, hupdate, rfl⟩ := map_ok.mp hstep
    exact (keepsAchievements_kept event).of_updateMissionProgress notOfAchievement_mission hupdate
  have hpassed : KeepsAchievements withAchievements withPasses :=
    (keepsAchievements_kept event).of_updatePassProgress hpasses
  exact ⟨withMissions, withAchievements, hbase.trans hmoved, hachievements,
    hpassed.trans (.of_same rfl rfl rfl rfl)⟩

theorem attemptEvent_moved {draws : AttemptDraws} (hsound : AchievementsSound db)
    (h : attemptEvent db event readings draws = .ok db') : AchievementsMoved readings db db' := by
  obtain ⟨before, after, hkeeps, hachievements, hkeeps'⟩ := attemptEvent_achievements h
  have hbefore : AchievementsMoved readings db before := .of_keeps hkeeps hsound
  have hachieved := updateAchievements_moved hbefore.sound
    (fun _ hmem => (mem_publishedDefinitionsForEvent hmem).1) hachievements
  exact hbefore.trans (hachieved.trans (.of_keeps hkeeps' hachieved.sound))

/-- What processing does to the tables: nothing, one failure booked, or one attempt. -/
theorem processEngagementEvent_cases (settings : RetrySettings) (db : GrowthDb) (eventId : EventId)
    (readings : CardReadings) (draws : AttemptDraws) (interrupted : Option Failure) (now : Time)
    (text : String) :
    processEngagementEvent settings db eventId readings draws interrupted now text = db ∨
    (∃ event exception, db.findEvent eventId = some event ∧ ¬event.status.isFinal ∧
      processEngagementEvent settings db eventId readings draws interrupted now text =
        db.patchEvent eventId
          (·.bookFailure settings (event.attemptCount + 1) exception now text)) ∨
    ∃ event, db.findEvent eventId = some event ∧ ¬event.status.isFinal ∧ interrupted = none ∧
      attemptEvent db event readings draws =
        .ok (processEngagementEvent settings db eventId readings draws interrupted now text) := by
  unfold processEngagementEvent
  split
  · exact .inl rfl
  · rename_i event hfind
    split
    · exact .inl rfl
    · rename_i hopen
      cases interrupted with
      | some exception => exact .inr (.inl ⟨event, exception, hfind, hopen, rfl⟩)
      | none =>
        dsimp only
        split
        · rename_i db' hattempt
          exact .inr (.inr ⟨event, hfind, hopen, rfl, hattempt⟩)
        · rename_i exception hattempt
          exact .inr (.inl ⟨event, exception, hfind, hopen, rfl⟩)

theorem processEngagementEvent_moved (settings : RetrySettings) (hsound : AchievementsSound db)
    (eventId : EventId) (readings : CardReadings) (draws : AttemptDraws)
    (interrupted : Option Failure) (now : Time) (text : String) :
    AchievementsMoved readings db
      (processEngagementEvent settings db eventId readings draws interrupted now text) := by
  rcases processEngagementEvent_cases settings db eventId readings draws interrupted now text with
    hsame | ⟨_, _, -, -, hbooked⟩ | ⟨event, -, -, -, hattempt⟩
  · rw [hsame]
    exact .of_keeps (.refl db) hsound
  · rw [hbooked]
    exact .of_keeps (.of_same rfl rfl rfl rfl) hsound
  · exact attemptEvent_moved hsound hattempt

end

end Fanfolio
