import Fanfolio.Growth.AchievementRewards

/-!
# Runs of an achievement

Whatever else happens after an achievement is created, a fan holds its bonus from the event that
first reached the target, and every reward of the request if the request names one reward.
-/

namespace Fanfolio

open Framework

section

variable {db db' : GrowthDb}

/-- Before there is any achievement, nothing is granted for one. -/
theorem AchievementsSound.opening (hachievements : db.achievements = [])
    (hprogress : db.achievementProgress = []) (hxp : db.xpLedger = [])
    (hgrants : db.rewardGrants = []) : AchievementsSound db := by
  have hbonuses : ∀ userId achievementId, db.bonuses userId achievementId = [] := by
    intro userId achievementId
    rw [GrowthDb.bonuses, GrowthDb.xpEntries, hxp]
    rfl
  have hrewards : ∀ userId achievementId, db.completionRewards userId achievementId = [] := by
    intro userId achievementId
    rw [GrowthDb.completionRewards, GrowthDb.rewardEntries, hgrants]
    rfl
  refine ⟨by simp [hachievements], by simp [hprogress], by simp [hprogress],
    by simp [hachievements], fun _ _ _ => ⟨hbonuses _ _, hrewards _ _⟩, by simp [hachievements],
    by simp [hachievements]⟩

/-- Nobody has a row on an achievement that does not exist. -/
theorem AchievementsSound.row_unknown (h : AchievementsSound db) (userId : UserId)
    {achievementId : AchievementId} (hnot : achievementId ∉ db.achievements.map (·.id)) :
    db.achievementRow userId achievementId = none := by
  cases hfound : db.achievementRow userId achievementId with
  | none => rfl
  | some row =>
    obtain ⟨hmem, -, rfl⟩ := achievementRow_some hfound
    exact absurd (h.known row hmem) hnot

/-- Definitions are added under new identifiers, and the others keep all but their status. -/
theorem AchievementsSound.define (h : AchievementsSound db)
    (hframe : db' = { db with achievements := db'.achievements })
    (hids : (db'.achievements.map (·.id)).Nodup)
    (hkept : ∀ definition ∈ db.achievements, definition.id ∈ db'.achievements.map (·.id))
    (hnew : ∀ definition ∈ db'.achievements,
      (∃ before ∈ db.achievements, definition = { before with status := definition.status }) ∨
      1 ≤ definition.targetValue ∧ definition.id ∉ db.achievements.map (·.id)) :
    AchievementsSound db' := by
  have hrow : ∀ userId achievementId,
      db'.achievementRow userId achievementId = db.achievementRow userId achievementId := by
    intro userId achievementId
    rw [hframe]
    rfl
  have hcompleted : ∀ userId achievementId,
      db'.Completed userId achievementId ↔ db.Completed userId achievementId := by
    intro userId achievementId
    rw [GrowthDb.Completed, GrowthDb.Completed, hrow]
  have hentries : ∀ userId achievementId,
      db'.bonuses userId achievementId = db.bonuses userId achievementId ∧
      db'.completionRewards userId achievementId = db.completionRewards userId achievementId := by
    intro userId achievementId
    rw [hframe]
    exact ⟨rfl, rfl⟩
  have hprogress : db'.achievementProgress = db.achievementProgress := by rw [hframe]
  refine ⟨hids, hprogress ▸ h.rows, ?_, ?_, ?_, ?_, ?_⟩
  · intro row hmem
    rw [hprogress] at hmem
    obtain ⟨definition, hdefinition, hid⟩ := List.mem_map.mp (h.known row hmem)
    exact hid ▸ hkept definition hdefinition
  · intro definition hmem
    rcases hnew definition hmem with ⟨before, hbefore, heq⟩ | ⟨hpos, -⟩
    · rw [heq]
      exact h.targets before hbefore
    · exact hpos
  · intro userId achievementId hopen
    obtain ⟨hbonuses, hrewards⟩ := hentries userId achievementId
    rw [hbonuses, hrewards]
    exact h.waiting _ _ (mt (hcompleted _ _).mpr hopen)
  · intro userId definition hmem hdone
    obtain ⟨hbonuses, hrewards⟩ := hentries userId definition.id
    rw [hcompleted] at hdone
    rw [hbonuses, hrewards]
    rcases hnew definition hmem with ⟨before, hbefore, heq⟩ | ⟨-, hnot⟩
    · rw [heq] at hdone ⊢
      exact h.rewarded userId before hbefore hdone
    · obtain ⟨row, hfound, -⟩ := hdone
      rw [h.row_unknown userId hnot] at hfound
      cases hfound
  · intro userId definition hmem hreached
    rw [hcompleted]
    rw [GrowthDb.achievementValue, hrow] at hreached
    rcases hnew definition hmem with ⟨before, hbefore, heq⟩ | ⟨hpos, hnot⟩
    · rw [heq] at hreached ⊢
      exact h.reached userId before hbefore hreached
    · rw [h.row_unknown userId hnot, Option.map_none, Option.getD_none] at hreached
      omega

/-- What a step does to the achievements of all fans. -/
structure AchievementsStepped (db db' : GrowthDb) : Prop where
  sound : AchievementsSound db'
  kept : ∀ definition ∈ db.achievements, ∃ after ∈ db'.achievements,
    after = { definition with status := after.status }
  completed : ∀ userId, ∀ definition ∈ db.achievements, db'.Completed userId definition.id ↔
    db.Completed userId definition.id ∨
      definition.targetValue ≤ db'.achievementValue userId definition.id

theorem AchievementsStepped.of_define (h : AchievementsSound db) (hsound : AchievementsSound db')
    (hkept : ∀ definition ∈ db.achievements, ∃ after ∈ db'.achievements,
      after = { definition with status := after.status })
    (hprogress : db'.achievementProgress = db.achievementProgress) :
    AchievementsStepped db db' := by
  refine ⟨hsound, hkept, ?_⟩
  intro userId definition hmem
  have hrow : db'.achievementRow userId definition.id = db.achievementRow userId definition.id := by
    rw [GrowthDb.achievementRow, hprogress, GrowthDb.achievementRow]
  rw [GrowthDb.Completed, hrow, GrowthDb.achievementValue, hrow]
  exact ⟨.inl, fun hor => hor.elim id (h.reached userId definition hmem)⟩

theorem AchievementsStepped.of_moved {readings : CardReadings} (hsound : AchievementsSound db)
    (h : AchievementsMoved readings db db') : AchievementsStepped db db' := by
  refine ⟨h.sound, ?_, ?_⟩
  · intro definition hmem
    exact ⟨definition, h.achievements ▸ hmem, rfl⟩
  · intro userId definition hmem
    rcases h.moves userId definition hmem with hsame | ⟨hvalue, hcompleted⟩
    · rw [GrowthDb.Completed, hsame, GrowthDb.achievementValue, hsame]
      exact ⟨.inl, fun hor => hor.elim id (hsound.reached userId definition hmem)⟩
    · rw [hcompleted, hvalue, le_min_iff, and_iff_left (le_refl _)]

theorem createAchievement_ok {scope : Except Failure (Option String × Option String)}
    {request : AchievementDefinitionCreate} {achievementId : AchievementId}
    (h : createAchievement db scope request achievementId = .ok db') :
    ∃ organizationId artistId, (∀ row ∈ db.achievements, row.id ≠ achievementId) ∧
      db' = { db with
        achievements := db.achievements ++
          [request.definition organizationId artistId achievementId] } := by
  simp only [createAchievement, bind_ok, Prod.exists, ensure_ok, exists_const, pure_ok] at h
  obtain ⟨_, -, organizationId, artistId, -, _, -, hfresh, rfl⟩ := h
  exact ⟨organizationId, artistId, hfresh, rfl⟩

theorem createAchievement_stepped {scope : Except Failure (Option String × Option String)}
    {request : AchievementDefinitionCreate} {achievementId : AchievementId}
    (hsound : AchievementsSound db)
    (h : createAchievement db scope request achievementId = .ok db') :
    AchievementsStepped db db' := by
  obtain ⟨organizationId, artistId, hfresh, rfl⟩ := createAchievement_ok h
  refine .of_define hsound (hsound.define rfl ?_ ?_ ?_) ?_ rfl
  · exact nodup_insert hsound.ids hfresh
  · intro definition hmem
    exact List.mem_map_of_mem (List.mem_append_left _ hmem)
  · intro definition hmem
    rcases List.mem_append.mp hmem with hold | hlast
    · exact .inl ⟨definition, hold, rfl⟩
    · obtain rfl := List.mem_singleton.mp hlast
      refine .inr ⟨request.target_pos, ?_⟩
      intro hmem
      obtain ⟨row, hrow, hid⟩ := List.mem_map.mp hmem
      exact hfresh row hrow hid
  · intro definition hmem
    exact ⟨definition, List.mem_append_left _ hmem, rfl⟩

theorem transitionAchievementStatus_stepped {allowed : Except Failure Unit}
    {achievementId : AchievementId} {requiredStatus nextStatus : DefinitionStatus}
    {message : String} (hsound : AchievementsSound db)
    (h : transitionAchievementStatus db allowed achievementId requiredStatus nextStatus message =
      .ok db') : AchievementsStepped db db' := by
  simp only [transitionAchievementStatus, bind_ok, orFail_ok, ensure_ok, exists_const,
    pure_ok] at h
  obtain ⟨_, -, _, -, -, rfl⟩ := h
  have hids : ((patch (·.id == achievementId) ({ · with status := nextStatus })
      db.achievements).map (·.id)) = db.achievements.map (·.id) :=
    map_patch (by intro _; rfl) _
  refine .of_define hsound (hsound.define rfl ?_ ?_ ?_) ?_ rfl
  · exact hids ▸ hsound.ids
  · intro definition hmem
    exact hids ▸ List.mem_map_of_mem hmem
  · intro definition hmem
    obtain ⟨before, hbefore, rfl⟩ := mem_patch.mp hmem
    refine .inl ⟨before, hbefore, ?_⟩
    split <;> rfl
  · intro definition hmem
    refine ⟨_, mem_patch.mpr ⟨definition, hmem, rfl⟩, ?_⟩
    split <;> rfl

theorem achievementStep_stepped (settings : RetrySettings) (hsound : AchievementsSound db)
    (a : AchievementAction) : AchievementsStepped db (achievementStep settings db a) := by
  have hstay : ∀ {db'}, KeepsAchievements db db' → AchievementsStepped db db' := by
    intro db' hkeeps
    have hmoved : AchievementsMoved {} db db' := .of_keeps hkeeps hsound
    exact .of_moved hsound hmoved
  have hcommit : ∀ x : Except Failure GrowthDb,
      (∀ db', x = .ok db' → AchievementsStepped db db') → AchievementsStepped db (db.commit x) := by
    intro x hx
    rcases db.commit_cases x with hsame | hok
    · rw [hsame]
      exact hstay (.refl db)
    · exact hx _ hok
  cases a with
  | create scope request achievementId =>
    exact hcommit _ fun _ => createAchievement_stepped hsound
  | submit allowed achievementId =>
    exact hcommit _ fun _ => transitionAchievementStatus_stepped hsound
  | approve allowed achievementId =>
    exact hcommit _ fun _ => transitionAchievementStatus_stepped hsound
  | disable allowed achievementId =>
    exact hcommit _ fun _ => transitionAchievementStatus_stepped hsound
  | record userId kind sourceType sourceId payload eventId =>
    exact hstay (.of_same rfl rfl rfl rfl)
  | edit rewards missions => exact hstay (.of_same rfl rfl rfl rfl)
  | process eventId readings draws interrupted now text =>
    exact .of_moved hsound
      (processEngagementEvent_moved settings hsound eventId readings draws interrupted now text)

/-- The fan was at the target in some state of the run. -/
def ReachedIn (settings : RetrySettings) (db : GrowthDb) (userId : UserId)
    (achievementId : AchievementId) (targetValue : Nat) (acts : List AchievementAction) : Prop :=
  ∃ pre, pre <+: acts ∧
    targetValue ≤ (run (achievementStep settings) db pre).achievementValue userId achievementId

theorem reachedIn_nil {settings : RetrySettings} {userId : UserId} {achievementId : AchievementId}
    {targetValue : Nat} : ReachedIn settings db userId achievementId targetValue [] ↔
      targetValue ≤ db.achievementValue userId achievementId := by
  simp [ReachedIn]

theorem reachedIn_cons {settings : RetrySettings} {userId : UserId} {achievementId : AchievementId}
    {targetValue : Nat} {a : AchievementAction} {acts : List AchievementAction} :
    ReachedIn settings db userId achievementId targetValue (a :: acts) ↔
      targetValue ≤ db.achievementValue userId achievementId ∨
      ReachedIn settings (achievementStep settings db a) userId achievementId targetValue acts := by
  constructor
  · rintro ⟨pre, hpre, hreached⟩
    cases pre with
    | nil => exact .inl hreached
    | cons b pre =>
      obtain ⟨rfl, hrest⟩ := List.cons_prefix_cons.mp hpre
      exact .inr ⟨pre, hrest, hreached⟩
  · rintro (hreached | ⟨pre, hpre, hreached⟩)
    · exact ⟨[], List.nil_prefix, hreached⟩
    · exact ⟨a :: pre, List.cons_prefix_cons.mpr ⟨rfl, hpre⟩, hreached⟩

theorem ReachedIn.mono {settings : RetrySettings} {userId : UserId}
    {achievementId : AchievementId} {targetValue : Nat} {pre acts : List AchievementAction}
    (h : ReachedIn settings db userId achievementId targetValue pre) (hpre : pre <+: acts) :
    ReachedIn settings db userId achievementId targetValue acts := by
  obtain ⟨pre', hpre', hreached⟩ := h
  exact ⟨pre', hpre'.trans hpre, hreached⟩

/-- In a run the definition keeps all but its status, and is completed once it was reached. -/
theorem run_achievement (settings : RetrySettings) (hsound : AchievementsSound db)
    (acts : List AchievementAction) (userId : UserId) {definition : AchievementDefinition}
    (hmem : definition ∈ db.achievements) :
    AchievementsSound (run (achievementStep settings) db acts) ∧
    (∃ after ∈ (run (achievementStep settings) db acts).achievements,
      after = { definition with status := after.status }) ∧
    ((run (achievementStep settings) db acts).Completed userId definition.id ↔
      db.Completed userId definition.id ∨
        ReachedIn settings db userId definition.id definition.targetValue acts) := by
  induction acts generalizing db definition with
  | nil =>
    refine ⟨hsound, ⟨definition, hmem, rfl⟩, ?_⟩
    rw [reachedIn_nil, run_nil]
    exact ⟨.inl, fun hor => hor.elim id (hsound.reached userId definition hmem)⟩
  | cons a acts ih =>
    have hstep := achievementStep_stepped settings hsound a
    obtain ⟨after, hafter, heq⟩ := hstep.kept definition hmem
    obtain ⟨hlast, ⟨final, hfinal, hsame⟩, hcompleted⟩ := ih hstep.sound hafter
    have hid : after.id = definition.id := by rw [heq]
    have htarget : after.targetValue = definition.targetValue := by rw [heq]
    rw [hid, htarget] at hcompleted
    refine ⟨hlast, ⟨final, hfinal, ?_⟩, ?_⟩
    · rw [hsame, heq]
    · rw [run_cons, hcompleted, hstep.completed userId definition hmem, reachedIn_cons]
      have hhere : definition.targetValue ≤ db.achievementValue userId definition.id →
          db.Completed userId definition.id := hsound.reached userId definition hmem
      have hnext : definition.targetValue ≤
          (achievementStep settings db a).achievementValue userId definition.id →
          ReachedIn settings (achievementStep settings db a) userId definition.id
            definition.targetValue acts :=
        fun hreached => ⟨[], List.nil_prefix, hreached⟩
      tauto

end

namespace AchievementDefinitionCreate

/-- The bonus that is asked for, by the field or else by an entry of the client's payload. -/
def bonus (request : AchievementDefinitionCreate) : Int :=
  if request.xpBonus = 0 then request.conditionPayload.xpBonus else request.xpBonus

/-- The rewards are one and the same, under an identifier that is a text. -/
def NamesOneReward (request : AchievementDefinitionCreate) : Prop :=
  ∀ rewardId ∈ request.rewardIds, rewardId ≠ "" ∧ request.rewardIds.head? = some rewardId

instance (request : AchievementDefinitionCreate) : Decidable request.NamesOneReward :=
  inferInstanceAs (Decidable (∀ rewardId ∈ request.rewardIds, _))

variable (request : AchievementDefinitionCreate) (organizationId artistId : Option String)
  (achievementId : AchievementId)

theorem definition_bonus :
    (request.definition organizationId artistId achievementId).xpBonus = request.bonus := by
  unfold definition mergedPayload bonus
  cases request.memberId <;> cases request.rewardIds <;> by_cases h : request.xpBonus = 0 <;>
    simp [h]

theorem definition_rewardId : (request.definition organizationId artistId achievementId).rewardId =
    (request.rewardIds.head? <|> request.conditionPayload.rewardId) := by
  unfold definition mergedPayload
  cases request.memberId <;> cases request.rewardIds <;> by_cases h : request.xpBonus = 0 <;>
    simp [h]

/-- The one reward that is granted covers the rewards that are named if they are one. -/
theorem definition_grants_iff : (∀ rewardId ∈ request.rewardIds,
    (request.definition organizationId artistId achievementId).grantedReward.toList.count rewardId
      = 1) ↔ request.NamesOneReward := by
  cases hids : request.rewardIds with
  | nil => simp [NamesOneReward, hids]
  | cons first rest =>
    have hgranted : (request.definition organizationId artistId achievementId).grantedReward =
        if first = "" then none else some first := by
      rw [AchievementDefinition.grantedReward, definition_rewardId, hids]
      have hkey : (request.definition organizationId artistId achievementId).rewardRuleKey =
          some first := by
        rw [definition, hids]
        rfl
      rw [hkey]
      by_cases h : first = "" <;> simp [h, Option.filter]
    rw [hgranted, NamesOneReward, hids]
    by_cases hempty : first = ""
    · simp only [hempty, if_true, Option.toList_none, List.count_nil]
      constructor
      · intro h
        exact absurd (h "" List.mem_cons_self) (by decide)
      · intro h
        exact absurd rfl (h "" List.mem_cons_self).1
    · refine forall₂_congr fun rewardId hmem => ?_
      rw [if_neg hempty, Option.toList_some, List.count_singleton, List.head?_cons,
        Option.some_inj]
      by_cases heq : first = rewardId
      · subst heq
        simp [hempty]
      · simp [heq]

end AchievementDefinitionCreate

/-- Every reward of the request and its bonus once for a fan who has `received` them, and
nothing of them for any other. -/
structure Receives (db : GrowthDb) (userId : UserId) (achievementId : AchievementId)
    (request : AchievementDefinitionCreate) (received : Prop) : Prop where
  rewards : received → ∀ rewardId ∈ request.rewardIds,
    (db.completionRewards userId achievementId).count rewardId = 1
  bonus : received → db.bonuses userId achievementId =
    if request.bonus = 0 then [] else [request.bonus]
  noRewards : ¬received → db.completionRewards userId achievementId = []
  noBonus : ¬received → db.bonuses userId achievementId = []

section

variable {db db' : GrowthDb} {scope : Except Failure (Option String × Option String)}
  {request : AchievementDefinitionCreate} {achievementId : AchievementId}

theorem receives_iff_namesOneReward {organizationId artistId : Option String} {userId : UserId}
    {received : Prop} {definition : AchievementDefinition} (hsound : AchievementsSound db)
    (hmem : definition ∈ db.achievements)
    (hdefinition : definition = { request.definition organizationId artistId achievementId with
      status := definition.status })
    (hreceived : db.Completed userId achievementId ↔ received) :
    Receives db userId achievementId request received ↔ (received → request.NamesOneReward) := by
  have hid : definition.id = achievementId := by
    rw [hdefinition]
    rfl
  have hgranted : definition.grantedReward =
      (request.definition organizationId artistId achievementId).grantedReward := by
    rw [hdefinition]
    rfl
  have hbonus : definition.bonusPart.toList =
      if request.bonus = 0 then [] else [request.bonus] := by
    rw [hdefinition, AchievementDefinition.bonusPart]
    dsimp only
    rw [request.definition_bonus]
    split <;> rfl
  have hrewarded : received → db.bonuses userId achievementId = definition.bonusPart.toList ∧
      db.completionRewards userId achievementId = definition.grantedReward.toList := by
    intro hyes
    have hcompleted := hreceived.mpr hyes
    rw [← hid] at hcompleted ⊢
    exact hsound.rewarded userId definition hmem hcompleted
  have hnamed : received → ((∀ rewardId ∈ request.rewardIds,
      (db.completionRewards userId achievementId).count rewardId = 1) ↔
        request.NamesOneReward) := by
    intro hyes
    rw [(hrewarded hyes).2, hgranted]
    exact request.definition_grants_iff organizationId artistId achievementId
  constructor
  · intro h hyes
    exact (hnamed hyes).mp (h.rewards hyes)
  · intro hone
    have hwaiting : ¬received → db.bonuses userId achievementId = [] ∧
        db.completionRewards userId achievementId = [] :=
      fun hno => hsound.waiting userId achievementId (mt hreceived.mp hno)
    exact ⟨fun hyes => (hnamed hyes).mpr (hone hyes),
      fun hyes => (hrewarded hyes).1.trans hbonus, fun hno => (hwaiting hno).2,
      fun hno => (hwaiting hno).1⟩

/-- In every state of a run a fan has received the rewards and the bonus of an achievement exactly
if the target was reached before, unless the rewards are several and the target is reached. -/
theorem achievement_receives_iff (settings : RetrySettings) (hdb : AchievementsSound db)
    (hcreate : createAchievement db scope request achievementId = .ok db') (userId : UserId)
    (acts : List AchievementAction) :
    (∀ pre, pre <+: acts →
      Receives (run (achievementStep settings) db' pre) userId achievementId request
        (ReachedIn settings db' userId achievementId request.targetValue pre)) ↔
    request.NamesOneReward ∨
      ¬ReachedIn settings db' userId achievementId request.targetValue acts := by
  have hsound := (createAchievement_stepped hdb hcreate).sound
  obtain ⟨organizationId, artistId, hfresh, rfl⟩ := createAchievement_ok hcreate
  set definition := request.definition organizationId artistId achievementId with hdefinition
  have hnew : ∀ userId, ¬GrowthDb.Completed { db with
      achievements := db.achievements ++ [definition] } userId achievementId := by
    rintro userId ⟨row, hrow, -⟩
    have hnot : achievementId ∉ db.achievements.map (·.id) := by
      intro hmem
      obtain ⟨row, hrow, hid⟩ := List.mem_map.mp hmem
      exact hfresh row hrow hid
    have hnone := hdb.row_unknown userId hnot
    rw [GrowthDb.achievementRow] at hnone hrow
    rw [hnone] at hrow
    cases hrow
  have hpoint : ∀ pre, Receives (run (achievementStep settings) { db with
        achievements := db.achievements ++ [definition] } pre) userId achievementId request
      (ReachedIn settings { db with achievements := db.achievements ++ [definition] } userId
        achievementId request.targetValue pre) ↔
      (ReachedIn settings { db with achievements := db.achievements ++ [definition] } userId
        achievementId request.targetValue pre → request.NamesOneReward) := by
    intro pre
    have hmem : definition ∈ db.achievements ++ [definition] :=
      List.mem_append_right _ (List.mem_singleton.mpr rfl)
    obtain ⟨hlast, ⟨after, hafter, heq⟩, hcompleted⟩ :=
      run_achievement settings hsound pre userId hmem
    exact receives_iff_namesOneReward hlast hafter heq
      (hcompleted.trans (or_iff_right (hnew userId)))
  constructor
  · intro h
    by_cases hreached : ReachedIn settings { db with
        achievements := db.achievements ++ [definition] } userId achievementId
        request.targetValue acts
    · exact .inl ((hpoint acts).mp (h acts (List.prefix_refl acts)) hreached)
    · exact .inr hreached
  · rintro hor pre hpre
    refine (hpoint pre).mpr fun hreached => ?_
    exact hor.elim id fun hnever => absurd (hreached.mono hpre) hnever

end

/-- Two rewards that are published, and a card that a fan has collected. -/
def twoRewards : GrowthDb where
  points := PointDb.opening []
    [{ id := "evt_1", userId := "fan", kind := "card_collected", sourceType := "user_card",
       sourceId := "user_card_1", payload := [] }]
  xpLedger := []
  levels := []
  policies := []
  thresholds := []
  rewards := [{ id := "reward_a", status := .published }, { id := "reward_b", status := .published }]
  rewardGrants := []
  missions := []
  progress := []
  achievements := []
  achievementProgress := []
  seasons := []
  passProgress := []

def oneReward : AchievementDefinitionCreate where
  conditionType := .firstCard
  rewardIds := ["reward_a"]
  xpBonus := 50
  target_pos := Nat.one_pos

def bothRewards : AchievementDefinitionCreate where
  conditionType := .firstCard
  rewardIds := ["reward_a", "reward_b"]
  xpBonus := 50
  target_pos := Nat.one_pos

/-- The achievement is published, and the card is worth one after an attempt that fails. -/
def firstCardRun : List AchievementAction :=
  [.submit (.ok ()) "achievement_1",
   .approve (.ok ()) "achievement_1",
   .process "evt_1" { achievementValue := fun _ => 1 } (commentAttempt 1 "a")
     (some (.unhandled "OperationalError")) 1 "connection lost",
   .process "evt_1" { achievementValue := fun _ => 1 } (commentAttempt 40000000 "b") none 0 ""]

/-- The tables with the achievement of a request. -/
def withAchievement (request : AchievementDefinitionCreate) : GrowthDb :=
  { twoRewards with achievements := [request.definition none none "achievement_1"] }

theorem achievement_receives_oneReward :
    (∀ pre, pre <+: firstCardRun →
      Receives (run (achievementStep {}) (withAchievement oneReward) pre) "fan" "achievement_1"
        oneReward (ReachedIn {} (withAchievement oneReward) "fan" "achievement_1" 1 pre)) ∧
    ReachedIn {} (withAchievement oneReward) "fan" "achievement_1" 1 firstCardRun := by
  have hcreate : createAchievement twoRewards (.ok (none, none)) oneReward "achievement_1" =
      .ok (withAchievement oneReward) := by decide
  have hsound : AchievementsSound twoRewards := .opening rfl rfl rfl rfl
  exact ⟨(achievement_receives_iff {} hsound hcreate "fan" firstCardRun).mpr (.inl (by decide)),
    firstCardRun, List.prefix_refl _, by decide⟩

/-- Of the two rewards that the achievement names the fan is granted the first one only. -/
theorem achievement_fails_bothRewards :
    createAchievement twoRewards (.ok (none, none)) bothRewards "achievement_1" =
      .ok (withAchievement bothRewards) ∧
    (run (achievementStep {}) (withAchievement bothRewards) firstCardRun).completionRewards "fan"
      "achievement_1" = ["reward_a"] ∧
    ¬∀ pre, pre <+: firstCardRun →
      Receives (run (achievementStep {}) (withAchievement bothRewards) pre) "fan" "achievement_1"
        bothRewards (ReachedIn {} (withAchievement bothRewards) "fan" "achievement_1" 1 pre) := by
  have hrewards : (run (achievementStep {}) (withAchievement bothRewards)
      firstCardRun).completionRewards "fan" "achievement_1" = ["reward_a"] := by decide
  refine ⟨by decide, hrewards, ?_⟩
  intro h
  have hreached : ReachedIn {} (withAchievement bothRewards) "fan" "achievement_1" 1
      firstCardRun := ⟨firstCardRun, List.prefix_refl _, by decide⟩
  have hcount := (h firstCardRun (List.prefix_refl _)).rewards hreached "reward_b" (by decide)
  rw [hrewards] at hcount
  exact absurd hcount (by decide)

end Fanfolio
