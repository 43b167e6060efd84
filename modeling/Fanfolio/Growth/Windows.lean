import Fanfolio.Growth.AchievementRuns

/-!
# Events outside of a window

A mission or an achievement may run for a time only. What counts is the instant at which an event
is processed. The missions are selected by their window; the achievements are not, so that an event
moves, completes and rewards an achievement that has not begun or is over.
-/

namespace Fanfolio

open Framework

/-- The key that a mission grants its reward under, in the period of an instant. -/
def missionRule (mission : MissionDefinition) (now : Time) : String :=
  "mission:" ++ mission.id ++ ":" ++
    missionPeriodKey mission.recurrence now mission.startsAt mission.endsAt

theorem isDigit_of_mem_zeroPadded {width n : Nat} {c : Char} (h : c ∈ (zeroPadded width n).toList) :
    c.isDigit := by
  simp only [zeroPadded, String.toList_ofList, List.mem_append, List.mem_replicate] at h
  rcases h with ⟨-, rfl⟩ | h
  · rfl
  · exact Nat.isDigit_of_mem_toDigits (by decide) (by decide) h

/-- The characters of a date. -/
theorem mem_isoDate {time : Time} {c : Char} (h : c ∈ (isoDate time).toList) :
    c.isDigit ∨ c = '-' := by
  simp only [isoDate, String.toList_append, List.mem_append] at h
  rcases h with (((h | h) | h) | h) | h
  · exact .inl (isDigit_of_mem_zeroPadded h)
  · exact .inr (List.mem_singleton.mp h)
  · exact .inl (isDigit_of_mem_zeroPadded h)
  · exact .inr (List.mem_singleton.mp h)
  · exact .inl (isDigit_of_mem_zeroPadded h)

/-- The key of a period that is no season has no colon. -/
structure PlainKey (key : List Char) : Prop where
  colon : ':' ∉ key
  dash : '-' ∈ key ∨ key = "once".toList

/-- The key of a season, of which only its first word has an `s`. -/
structure SeasonKey (key : List Char) : Prop where
  head : key.head? = some 's'
  count : key.count 's' = 2
  last : ∃ front last, key = front ++ ':' :: last ∧ ':' ∉ last ∧ '-' ∉ last ∧
    last ≠ "once".toList

theorem plainKey_once : PlainKey "once".toList := ⟨by decide, .inr rfl⟩

theorem plainKey_isoDate (time : Time) : PlainKey (isoDate time).toList := by
  constructor
  · intro hcolon
    rcases mem_isoDate hcolon with h | h
    · exact absurd h (by decide)
    · exact absurd h (by decide)
  · left
    simp only [isoDate, String.toList_append, List.mem_append]
    exact .inl (.inl (.inl (.inr List.mem_cons_self)))

theorem plainKey_isoWeek (time : Time) : PlainKey (isoWeek time).toList := by
  constructor
  · intro hcolon
    simp only [isoWeek, String.toList_append, List.mem_append] at hcolon
    rcases hcolon with (h | h) | h
    · rw [Nat.toString_eq_repr, Nat.toList_repr] at h
      exact absurd (Nat.isDigit_of_mem_toDigits (by decide) (by decide) h) (by decide)
    · exact absurd h (by decide)
    · exact absurd (isDigit_of_mem_zeroPadded h) (by decide)
  · left
    simp only [isoWeek, String.toList_append, List.mem_append]
    exact .inl (.inr List.mem_cons_self)

theorem notMem_isoDatetime (time : Time) : 's' ∉ (isoDatetime time).toList := by
  have hpadded : ∀ width n, 's' ∉ (zeroPadded width n).toList := by
    intro width n h
    exact absurd (isDigit_of_mem_zeroPadded h) (by decide)
  have hdate : 's' ∉ (isoDate time).toList := by
    intro h
    rcases mem_isoDate h with h | h
    · exact absurd h (by decide)
    · exact absurd h (by decide)
  have hmicros : ∀ micros,
      's' ∉ (if micros = 0 then "" else "." ++ zeroPadded 6 micros : String).toList := by
    intro micros
    split
    · decide
    · rw [String.toList_append, List.mem_append, not_or]
      exact ⟨by decide, hpadded 6 micros⟩
  simp only [isoDatetime, String.toList_append, List.mem_append, not_or]
  exact ⟨⟨⟨⟨⟨⟨⟨⟨hdate, by decide⟩, hpadded _ _⟩, by decide⟩, hpadded _ _⟩, by decide⟩,
    hpadded _ _⟩, hmicros _⟩, by decide⟩

/-- The text of a bound of a season. -/
theorem season_bound (bound : Option Time) :
    's' ∉ ((bound.map isoDatetime).getD "open").toList ∧
    (((bound.map isoDatetime).getD "open").toList = "open".toList ∨
      ∃ front, ((bound.map isoDatetime).getD "open").toList = front ++ ':' :: "00".toList) := by
  cases bound with
  | none => exact ⟨by decide, .inl rfl⟩
  | some time =>
    refine ⟨notMem_isoDatetime time, .inr ?_⟩
    simp only [Option.map_some, Option.getD_some, isoDatetime]
    rw [String.toList_append]
    generalize (_ : String).toList = front
    exact ⟨front ++ "+00".toList, (List.append_assoc front "+00".toList ":00".toList).symm⟩

theorem missionPeriodKey_cases (recurrence : Recurrence) (now : Time)
    (startsAt endsAt : Option Time) :
    PlainKey (missionPeriodKey recurrence now startsAt endsAt).toList ∨
    SeasonKey (missionPeriodKey recurrence now startsAt endsAt).toList := by
  cases recurrence with
  | once => exact .inl plainKey_once
  | daily => exact .inl (plainKey_isoDate now)
  | weekly => exact .inl (plainKey_isoWeek now)
  | season =>
    right
    obtain ⟨hfirst, -⟩ := season_bound startsAt
    obtain ⟨hlast, hend⟩ := season_bound endsAt
    have hkey : (missionPeriodKey .season now startsAt endsAt).toList =
        "season:".toList ++ ((startsAt.map isoDatetime).getD "open").toList ++
          ':' :: ((endsAt.map isoDatetime).getD "open").toList := by
      simp [missionPeriodKey]
    rw [hkey]
    refine ⟨by simp, ?_, ?_⟩
    · rw [List.count_append, List.count_append, List.count_cons_of_ne (by decide),
        List.count_eq_zero_of_not_mem hfirst, List.count_eq_zero_of_not_mem hlast]
      rfl
    · generalize "season:".toList ++ ((startsAt.map isoDatetime).getD "open").toList = start
      rcases hend with hopen | ⟨front, htime⟩
      · exact ⟨start, "open".toList, by rw [hopen], by decide, by decide, by decide⟩
      · refine ⟨start ++ ':' :: front, "00".toList, ?_, by decide, by decide, by decide⟩
        rw [htime]
        exact (List.append_assoc start (':' :: front) (':' :: "00".toList)).symm

/-- No period ends like another one behind a colon. -/
theorem missionPeriodKey_notSuffix {key key' front : List Char}
    (hkey : PlainKey key ∨ SeasonKey key) (hkey' : PlainKey key' ∨ SeasonKey key')
    (h : key' = front ++ ':' :: key) : False := by
  rcases hkey' with hplain' | hseason'
  · exact hplain'.colon (by simp [h])
  · rcases hkey with hplain | hseason
    · obtain ⟨start, last, hsplit, hcolon, hdash, honce⟩ := hseason'.last
      have hsame := append_mark_last (h.symm.trans hsplit) hplain.colon hcolon
      subst hsame
      exact hplain.dash.elim hdash honce
    · have hcount := hseason'.count
      rw [h, List.count_append, List.count_cons_of_ne (by decide), hseason.count] at hcount
      have hnone : 's' ∉ front := by
        rw [← List.count_eq_zero]
        omega
      have hhead := hseason'.head
      cases front with
      | nil =>
        rw [h] at hhead
        exact absurd hhead (by simp)
      | cons c front =>
        rw [h] at hhead
        obtain rfl : c = 's' := by simpa using hhead
        exact hnone List.mem_cons_self

/-- Two missions have no key in common. -/
theorem missionRule_inj {mission mission' : MissionDefinition} {now now' : Time}
    (h : missionRule mission now = missionRule mission' now') : mission.id = mission'.id := by
  have hlist : mission.id.toList ++ ':' :: (missionPeriodKey mission.recurrence now
        mission.startsAt mission.endsAt).toList =
      mission'.id.toList ++ ':' :: (missionPeriodKey mission'.recurrence now'
        mission'.startsAt mission'.endsAt).toList := by
    have hchars := congrArg String.toList h
    simpa [missionRule] using hchars
  have hkey := missionPeriodKey_cases mission.recurrence now mission.startsAt mission.endsAt
  have hkey' := missionPeriodKey_cases mission'.recurrence now' mission'.startsAt mission'.endsAt
  rcases append_mark_cases hlist with ⟨hid, -⟩ | ⟨front, hfront⟩ | ⟨front, hfront⟩
  · exact String.toList_inj.mp hid
  · exact absurd hfront fun heq => missionPeriodKey_notSuffix hkey hkey' heq
  · exact absurd hfront fun heq => missionPeriodKey_notSuffix hkey' hkey heq

/-- An event has changed nothing about a mission: no row, no period and no reward of any fan. -/
structure MissionUntouched (mission : MissionDefinition) (db db' : GrowthDb) : Prop where
  progress : ∀ userId periodKey, db'.findProgress (userId, mission.id, periodKey) =
    db.findProgress (userId, mission.id, periodKey)
  xp : ∀ userId now, grantedUnder db'.xpEntries userId (missionRule mission now) =
    grantedUnder db.xpEntries userId (missionRule mission now)
  points : ∀ userId now, grantedUnder db'.pointEntries userId (missionRule mission now) =
    grantedUnder db.pointEntries userId (missionRule mission now)
  rewards : ∀ userId now, grantedUnder db'.rewardEntries userId (missionRule mission now) =
    grantedUnder db.rewardEntries userId (missionRule mission now)

/-- An event has changed nothing about an achievement: no value, no completion and no reward. -/
structure AchievementUntouched (definition : AchievementDefinition) (db db' : GrowthDb) :
    Prop where
  value : ∀ userId, db'.achievementValue userId definition.id =
    db.achievementValue userId definition.id
  completed : ∀ userId, db'.Completed userId definition.id ↔ db.Completed userId definition.id
  bonuses : ∀ userId, db'.bonuses userId definition.id = db.bonuses userId definition.id
  rewards : ∀ userId, db'.completionRewards userId definition.id =
    db.completionRewards userId definition.id

/-- What holds of the definitions that are published and whose window is closed. -/
structure WindowsHold (db db' : GrowthDb) (now : Time) : Prop where
  missions : ∀ mission ∈ db.missions, mission.status = .published →
    windowOpen mission.startsAt mission.endsAt now = false → MissionUntouched mission db db'
  achievements : ∀ definition ∈ db.achievements, definition.status = .published →
    windowOpen definition.startsAt definition.endsAt now = false →
    AchievementUntouched definition db db'

/-- Edits leave the missions with distinct identifiers: their primary key. -/
def AchievementAction.KeepsKeys : AchievementAction → Prop
  | .edit _ missions => (missions.map (·.id)).Nodup
  | _ => True

abbrev KeyedAction := {a : AchievementAction // a.KeepsKeys}

section

variable (settings : RetrySettings)

def keyedStep (db : GrowthDb) (a : KeyedAction) : GrowthDb := achievementStep settings db a.1

/-- An event that is processed outside of a window changes nothing for its definition. -/
def ProcessedInWindow (db : GrowthDb) (a : KeyedAction) : Prop :=
  match a.1 with
  | .process _ _ draws _ _ _ => WindowsHold db (keyedStep settings db a) draws.now
  | _ => True

end

/-- What the cards of the fan are worth is what the achievement stands at. -/
def StandsAt (db : GrowthDb) (event : EngagementEvent) (readings : CardReadings)
    (definition : AchievementDefinition) : Prop :=
  db.achievementValue event.userId definition.id =
    min (readings.achievementValue definition.id) definition.targetValue

/-- An attempt finds the achievements that it selects open, or where the event would leave them. -/
def MeetsOpenAchievements (db : GrowthDb) (a : KeyedAction) : Prop :=
  match a.1 with
  | .process eventId readings draws none _ _ =>
    ∀ event ∈ db.findEvent eventId, ¬event.status.isFinal →
      ∀ definition ∈ publishedDefinitionsForEvent db event readings draws.achievementOrder,
        windowOpen definition.startsAt definition.endsAt draws.now = false →
        StandsAt db event readings definition
  | _ => True

section

variable {db db' db'' : GrowthDb} {event : EngagementEvent} {readings : CardReadings}
  {mission other : MissionDefinition}

namespace MissionUntouched

theorem refl (mission : MissionDefinition) (db : GrowthDb) : MissionUntouched mission db db :=
  ⟨fun _ _ => rfl, fun _ _ => rfl, fun _ _ => rfl, fun _ _ => rfl⟩

theorem trans (h : MissionUntouched mission db db') (h' : MissionUntouched mission db' db'') :
    MissionUntouched mission db db'' :=
  ⟨fun userId periodKey => (h'.progress _ _).trans (h.progress userId periodKey),
    fun userId now => (h'.xp _ _).trans (h.xp userId now),
    fun userId now => (h'.points _ _).trans (h.points userId now),
    fun userId now => (h'.rewards _ _).trans (h.rewards userId now)⟩

/-- Tables with the same rows and entries. -/
theorem of_same (hprogress : db'.progress = db.progress) (hxp : db'.xpEntries = db.xpEntries)
    (hpoints : db'.pointEntries = db.pointEntries) (hrewards : db'.rewardEntries = db.rewardEntries) :
    MissionUntouched mission db db' := by
  refine ⟨?_, ?_, ?_, ?_⟩
  · intro userId periodKey
    rw [GrowthDb.findProgress, hprogress, GrowthDb.findProgress]
  · intro userId now
    rw [hxp]
  · intro userId now
    rw [hpoints]
  · intro userId now
    rw [hrewards]

/-- The reward of one mission is none of another one. -/
theorem of_delivers {userId : UserId} {eventId : EventId} {now : Time} {reward : MissionReward}
    (hne : other.id ≠ mission.id)
    (h : Delivers db db' (userId, eventId, missionRule other now) reward) :
    MissionUntouched mission db db' := by
  have hrule : ∀ userId' now', (userId, missionRule other now) ≠
      (userId', missionRule mission now') := by
    intro userId' now' heq
    exact hne (missionRule_inj (Prod.mk.inj heq).2)
  refine ⟨?_, ?_, ?_, ?_⟩
  · intro userId' periodKey
    rw [GrowthDb.findProgress, h.progress, GrowthDb.findProgress]
  · intro userId' now'
    rw [h.xp, grantedUnder_elim_other (hrule userId' now')]
  · intro userId' now'
    rw [h.points, grantedUnder_elim_other (hrule userId' now')]
  · intro userId' now'
    rw [h.rewards, grantedUnder_elim_other (hrule userId' now')]

/-- The row that an update loads is none of another mission. -/
theorem of_loaded {userId : UserId} {periodKey : String} {progressId : ProgressId} {now : Time}
    {progress : MissionProgress} (hne : other.id ≠ mission.id)
    (h : getOrCreateMissionProgress db userId other.id periodKey progressId now =
      .ok (db', progress)) : MissionUntouched mission db db' := by
  rcases getOrCreateMissionProgress_ok h with ⟨-, rfl⟩ | ⟨-, hrow, -, rfl⟩
  · exact .refl mission _
  · refine ⟨?_, fun _ _ => rfl, fun _ _ => rfl, fun _ _ => rfl⟩
    intro userId' periodKey'
    have hkey : (progress.key == (userId', mission.id, periodKey')) = false := by
      rw [beq_eq_false_iff_ne, hrow]
      intro heq
      exact hne (Prod.mk.inj (Prod.mk.inj heq).2).1
    rw [GrowthDb.findProgress, find_insert, hkey]
    simp [GrowthDb.findProgress]

/-- A row is written under its primary key, so that the rows of other missions stay. -/
theorem of_flush {progress : MissionProgress} (changed : MissionProgress) (hdb : db.Constrained)
    (hfound : db.findProgress progress.key = some progress)
    (hne : progress.missionId ≠ mission.id) :
    MissionUntouched mission db { db with
      progress := patch (·.id == progress.id) (progress.flush changed) db.progress } := by
  refine ⟨?_, fun _ _ => rfl, fun _ _ => rfl, fun _ _ => rfl⟩
  intro userId periodKey
  rw [findProgress_flush]
  cases hfind : db.findProgress (userId, mission.id, periodKey) with
  | none => rfl
  | some row =>
    obtain ⟨hmem, hkey⟩ := findProgress_key hfind
    have hother : row.id ≠ progress.id := by
      intro hid
      obtain rfl := eq_of_unique hdb.progress hmem (findProgress_key hfound).1 hid
      exact hne (Prod.mk.inj (Prod.mk.inj hkey).2).1
    simp [hother]

/-- An update of one mission leaves all others alone. -/
theorem of_update {draws : MissionDraws} {changed : MissionProgress} (hdb : db.Constrained)
    (hne : other.id ≠ mission.id)
    (h : updateMissionProgress db event other draws = .ok (db', changed)) :
    MissionUntouched mission db db' := by
  simp only [updateMissionProgress, bind_ok, Prod.exists] at h
  obtain ⟨loaded, progress, hload, hfinish⟩ := h
  obtain ⟨hkey, hloaded⟩ := getOrCreateMissionProgress_loaded hdb hload
  have hprogress : progress.missionId = other.id := (Prod.mk.inj (Prod.mk.inj hkey).2).1
  obtain ⟨-, written, rfl, hrest⟩ := finishMissionProgress_ok hfinish
  have hwritten : MissionUntouched mission db _ := (of_loaded hne hload).trans
    (of_flush changed hloaded.constrained hloaded.found (by rwa [hprogress]))
  split at hrest
  · exact hwritten.trans (of_delivers hne hrest)
  · exact hrest ▸ hwritten

/-- A grant of XP under a rule of no mission. -/
theorem of_grantXp {userId : UserId} {eventId : EventId} {ruleKey : String} {amount : Int}
    {ledgerId : LedgerId} {now : Time} {row : XpLedger}
    (hrule : ∀ now', ruleKey ≠ missionRule mission now')
    (h : grantXp db userId eventId ruleKey amount ledgerId now = .ok (db', row)) :
    MissionUntouched mission db db' := by
  obtain ⟨xpLedger, levels, hdb, hentries⟩ := grantXp_ok h
  refine ⟨fun _ _ => by rw [hdb]; rfl, ?_, fun _ _ => by rw [hdb]; rfl, fun _ _ => by rw [hdb]; rfl⟩
  intro userId' now'
  rw [hentries]
  refine grantedUnder_addEntry_other ?_ _
  exact fun heq => hrule now' (Prod.mk.inj heq).2

theorem of_grantReward {userId : UserId} {eventId : EventId} {ruleKey grantId : String}
    {rewardId : RewardId} {now : Time} {row : RewardGrant}
    (hrule : ∀ now', ruleKey ≠ missionRule mission now')
    (h : grantReward db userId rewardId eventId ruleKey grantId now = .ok (db', row)) :
    MissionUntouched mission db db' := by
  obtain ⟨rewardGrants, hdb, hentries⟩ := grantReward_ok h
  refine ⟨fun _ _ => by rw [hdb]; rfl, fun _ _ => by rw [hdb]; rfl, fun _ _ => by rw [hdb]; rfl, ?_⟩
  intro userId' now'
  rw [hentries]
  refine grantedUnder_addEntry_other ?_ _
  exact fun heq => hrule now' (Prod.mk.inj heq).2

end MissionUntouched

theorem missionRule_eq (mission : MissionDefinition) (now : Time) :
    ∃ rest, missionRule mission now = "mission:" ++ rest :=
  ⟨_, by rw [missionRule, String.append_assoc, String.append_assoc]⟩

theorem kind_ne_missionRule (hbase : baseXpFor event ≠ 0) (now : Time) :
    event.kind ≠ missionRule mission now := by
  obtain ⟨rest, hrest⟩ := missionRule_eq mission now
  intro heq
  have hlist := congrArg String.toList (heq.trans hrest)
  unfold baseXpFor at hbase
  split at hbase
  · rename_i hkind
    simp [hkind] at hlist
  · split at hbase
    · rename_i hkind
      simp [hkind] at hlist
    · exact hbase rfl

theorem achievementRule_ne_missionRule (achievementId : AchievementId) (now : Time) :
    achievementRule achievementId ≠ missionRule mission now := by
  obtain ⟨rest, hrest⟩ := missionRule_eq mission now
  rw [hrest]
  exact (notOfAchievement_mission rest achievementId).symm

/-- A mission whose window is closed is not among those that an attempt moves. -/
theorem missionsMoved_open {order : List MissionDefinition} {now : Time}
    (h : mission ∈ missionsMoved db event readings order now) :
    mission ∈ db.missions ∧ windowOpen mission.startsAt mission.endsAt now = true := by
  unfold missionsMoved at h
  split at h
  · simp only [publishedMissionsForEvent] at h
    have hcandidate := (List.mem_filter.mp h).1
    rw [(scan_perm _ _).mem_iff, List.mem_filter] at hcandidate
    simp only [Bool.and_eq_true] at hcandidate
    exact ⟨hcandidate.1, hcandidate.2.2⟩
  · exact absurd h List.not_mem_nil

/-- The updates of other missions leave a mission alone. -/
theorem updateMissions_untouched {missions : List MissionDefinition}
    {draws : MissionId → MissionDraws} (hdb : db.Constrained)
    (hothers : ∀ other ∈ missions, other.id ≠ mission.id)
    (h : missions.foldlM (fun db mission =>
      Prod.fst <$> updateMissionProgress db event mission (draws mission.id)) db = .ok db') :
    MissionUntouched mission db db' := by
  induction missions generalizing db with
  | nil =>
    rw [List.foldlM_nil, pure_ok] at h
    exact h ▸ .refl mission db
  | cons other missions ih =>
    simp only [List.foldlM_cons, bind_ok, map_ok, Prod.exists] at h
    obtain ⟨_, ⟨first, changed, hfirst, rfl⟩, hrest⟩ := h
    rw [List.forall_mem_cons] at hothers
    have hconstrained := (updateMissionProgress_value hdb hfirst).2.1
    exact (MissionUntouched.of_update hdb hothers.1 hfirst).trans
      (ih hconstrained hothers.2 hrest)

/-- An attempt leaves a mission alone whose window is closed. -/
theorem attemptEvent_mission {draws : AttemptDraws} (hdb : db.Constrained)
    (hmem : mission ∈ db.missions)
    (hclosed : windowOpen mission.startsAt mission.endsAt draws.now = false)
    (h : attemptEvent db event readings draws = .ok db') : MissionUntouched mission db db' := by
  simp only [attemptEvent, bind_ok, pure_ok] at h
  obtain ⟨withXp, hxp, withMissions, hmissions, withAchievements, hachievements, withPasses,
    hpasses, rfl⟩ := h
  have hgrants := Grants.of_unlessZero hxp fun _ => Grants.of_grantXp
  have hbase : MissionUntouched mission db withXp := by
    rcases unlessZero_ok.mp hxp with ⟨-, rfl⟩ | ⟨hne, row, hgrant⟩
    · exact .refl mission _
    · refine .of_grantXp (kind_ne_missionRule ?_) hgrant
      intro hzero
      rw [hzero, ite_self] at hne
      exact hne rfl
  have hmoved : MissionUntouched mission withXp withMissions := by
    refine updateMissions_untouched (hdb.of_grants hgrants) ?_ hmissions
    intro other hother hid
    obtain ⟨hknown, hopen⟩ := missionsMoved_open hother
    rw [hgrants.missions] at hknown
    obtain rfl := eq_of_unique hdb.missions hknown hmem hid
    rw [hopen] at hclosed
    cases hclosed
  have hachieved : MissionUntouched mission withMissions withAchievements := by
    refine foldlM_rel (MissionUntouched.refl mission) MissionUntouched.trans ?_ hachievements
    intro db definition db' hstep
    exact updateAchievementProgress_rel .trans (fun _ _ => .of_same rfl rfl rfl rfl)
      (.of_grantXp (achievementRule_ne_missionRule _))
      (.of_grantReward (achievementRule_ne_missionRule _)) hstep
  have hpassed : MissionUntouched mission withAchievements withPasses := by
    refine foldlM_rel (MissionUntouched.refl mission) MissionUntouched.trans ?_ hpasses
    intro db season db' hstep
    obtain ⟨⟨_, progress⟩, hrefresh, rfl⟩ := map_ok.mp hstep
    rw [refreshPassProgress_frame hrefresh]
    exact .of_same rfl rfl rfl rfl
  exact hbase.trans (hmoved.trans (hachieved.trans (hpassed.trans (.of_same rfl rfl rfl rfl))))

namespace AchievementUntouched

variable {definition : AchievementDefinition}

theorem trans (h : AchievementUntouched definition db db')
    (h' : AchievementUntouched definition db' db'') : AchievementUntouched definition db db'' :=
  ⟨fun userId => (h'.value _).trans (h.value userId),
    fun userId => (h'.completed _).trans (h.completed userId),
    fun userId => (h'.bonuses _).trans (h.bonuses userId),
    fun userId => (h'.rewards _).trans (h.rewards userId)⟩

theorem of_keeps (h : KeepsAchievements db db') : AchievementUntouched definition db db' := by
  refine ⟨?_, fun userId => h.completed userId _, fun userId => h.bonuses userId _,
    fun userId => h.rewards userId _⟩
  intro userId
  rw [GrowthDb.achievementValue, h.row, GrowthDb.achievementValue]

/-- An update leaves the fans where they are who stand where it takes them. -/
theorem of_updated {selected : AchievementDefinition} (hsound : AchievementsSound db)
    (hmem : definition ∈ db.achievements) (hselected : selected ∈ db.achievements)
    (hstands : selected = definition → StandsAt db event readings definition)
    (h : AchievementUpdated db db' event selected readings) :
    AchievementUntouched definition db db' := by
  by_cases hsame : selected = definition
  · subst hsame
    have hvalue := (hstands rfl).symm
    have hreached : selected.targetValue ≤ readings.achievementValue selected.id →
        db.Completed event.userId selected.id := by
      intro htarget
      refine hsound.reached event.userId selected hmem ?_
      rw [← hvalue, min_eq_right htarget]
    obtain ⟨hbonuses, hrewards⟩ := h.entries_waiting fun hc => hc.1 (hreached hc.2)
    have hevery : ∀ {P : UserId → Prop}, P event.userId →
        (∀ userId, (userId, selected.id) ≠ (event.userId, selected.id) → P userId) →
        ∀ userId, P userId := by
      intro P hfan hothers userId
      by_cases huser : userId = event.userId
      · exact huser ▸ hfan
      · exact hothers userId fun heq => huser (Prod.mk.inj heq).1
    refine ⟨hevery (h.value.trans hvalue) ?_, hevery ?_ fun userId => h.completed_other,
      hevery hbonuses fun userId hne => (h.entries_other hne).1,
      hevery hrewards fun userId hne => (h.entries_other hne).2⟩
    · intro userId hne
      rw [GrowthDb.achievementValue, h.others _ _ hne, GrowthDb.achievementValue]
    · rw [h.completed]
      exact ⟨fun hor => hor.elim id hreached, .inl⟩
  · have hother : ∀ userId, (userId, definition.id) ≠ (event.userId, selected.id) := by
      intro userId heq
      exact hsame (eq_of_unique hsound.ids hselected hmem (Prod.mk.inj heq).2.symm)
    refine ⟨?_, fun userId => h.completed_other (hother userId),
      fun userId => (h.entries_other (hother userId)).1,
      fun userId => (h.entries_other (hother userId)).2⟩
    intro userId
    rw [GrowthDb.achievementValue, h.others _ _ (hother userId), GrowthDb.achievementValue]

end AchievementUntouched

/-- The updates of a list leave those alone that are not in it, or stand where they are taken. -/
theorem updateAchievements_untouched {definitions : List AchievementDefinition}
    {definition : AchievementDefinition} {draws : AchievementId → AchievementDraws}
    (hsound : AchievementsSound db) (hmem : definition ∈ db.achievements)
    (hknown : ∀ selected ∈ definitions, selected ∈ db.achievements)
    (hstands : definition ∈ definitions → StandsAt db event readings definition)
    (h : definitions.foldlM (fun db definition =>
      updateAchievementProgress db event definition readings (draws definition.id)) db =
        .ok db') : AchievementUntouched definition db db' := by
  induction definitions generalizing db with
  | nil =>
    rw [List.foldlM_nil, pure_ok] at h
    exact h ▸ .of_keeps (.refl db)
  | cons selected definitions ih =>
    rw [List.foldlM_cons, bind_ok] at h
    obtain ⟨first, hfirst, hrest⟩ := h
    rw [List.forall_mem_cons] at hknown
    have hupdated := updateAchievementProgress_ok hsound.rows hfirst
    have huntouched : AchievementUntouched definition db first := by
      refine .of_updated hsound hmem hknown.1 ?_ hupdated
      intro hsame
      exact hstands (hsame ▸ List.mem_cons_self)
    refine huntouched.trans (ih (hsound.updated hknown.1 hupdated) ?_ ?_ ?_ hrest)
    · rwa [hupdated.achievements]
    · rw [hupdated.achievements]
      exact hknown.2
    · intro hlater
      rw [StandsAt, huntouched.value]
      exact hstands (List.mem_cons_of_mem _ hlater)

/-- An attempt leaves an achievement alone that it does not select, or that stands where it is
taken. -/
theorem attemptEvent_achievement {draws : AttemptDraws} {definition : AchievementDefinition}
    (hsound : AchievementsSound db) (hmem : definition ∈ db.achievements)
    (hstands : definition ∈ publishedDefinitionsForEvent db event readings draws.achievementOrder →
      StandsAt db event readings definition)
    (h : attemptEvent db event readings draws = .ok db') :
    AchievementUntouched definition db db' := by
  obtain ⟨before, after, hkeeps, hachievements, hkeeps'⟩ := attemptEvent_achievements h
  have hbefore : AchievementUntouched definition db before := .of_keeps hkeeps
  have hselected : publishedDefinitionsForEvent before event readings draws.achievementOrder =
      publishedDefinitionsForEvent db event readings draws.achievementOrder := by
    rw [publishedDefinitionsForEvent, hkeeps.achievements, publishedDefinitionsForEvent]
  refine hbefore.trans (.trans ?_ (.of_keeps hkeeps'))
  refine updateAchievements_untouched (hkeeps.sound hsound) (hkeeps.achievements ▸ hmem)
    (fun _ hmem => (mem_publishedDefinitionsForEvent hmem).1) ?_ hachievements
  rw [hselected, StandsAt, hbefore.value]
  exact hstands

/-- What the run of the growth tables keeps. -/
structure GrowthKept (db : GrowthDb) : Prop where
  sound : AchievementsSound db
  constrained : db.Constrained

theorem GrowthKept.step (settings : RetrySettings) (h : GrowthKept db) (a : KeyedAction) :
    GrowthKept (keyedStep settings db a) := by
  refine ⟨(achievementStep_stepped settings h.sound a.1).sound, ?_⟩
  have hcommit : ∀ x : Except Failure GrowthDb,
      (∀ db', x = .ok db' → ∃ achievements, db' = { db with achievements := achievements }) →
      (db.commit x).Constrained := by
    intro x hx
    rcases db.commit_cases x with hsame | hok
    · rw [hsame]
      exact h.constrained
    · obtain ⟨achievements, hdb⟩ := hx _ hok
      rw [hdb]
      exact ⟨h.constrained.missions, h.constrained.progress, h.constrained.xp, h.constrained.points⟩
  have htransition : ∀ {allowed achievementId requiredStatus nextStatus message db'},
      transitionAchievementStatus db allowed achievementId requiredStatus nextStatus message =
        .ok db' → ∃ achievements, db' = { db with achievements := achievements } := by
    intro allowed achievementId requiredStatus nextStatus message db' hok
    simp only [transitionAchievementStatus, bind_ok, orFail_ok, ensure_ok, exists_const,
      pure_ok] at hok
    obtain ⟨_, -, _, -, -, rfl⟩ := hok
    exact ⟨_, rfl⟩
  obtain ⟨a, hkeys⟩ := a
  cases a with
  | create scope request achievementId =>
    refine hcommit _ fun db' hok => ?_
    obtain ⟨organizationId, artistId, -, rfl⟩ := createAchievement_ok hok
    exact ⟨_, rfl⟩
  | submit allowed achievementId => exact hcommit _ fun _ => htransition
  | approve allowed achievementId => exact hcommit _ fun _ => htransition
  | disable allowed achievementId => exact hcommit _ fun _ => htransition
  | record userId kind sourceType sourceId payload eventId =>
    exact ⟨h.constrained.missions, h.constrained.progress, h.constrained.xp, h.constrained.points⟩
  | edit rewards missions =>
    exact ⟨hkeys, h.constrained.progress, h.constrained.xp, h.constrained.points⟩
  | process eventId readings draws interrupted now text =>
    rcases processEngagementEvent_cases settings db eventId readings draws interrupted now text with
      hsame | ⟨_, _, -, -, hbooked⟩ | ⟨event, -, -, -, hattempt⟩
    · rw [keyedStep, achievementStep, hsame]
      exact h.constrained
    · rw [keyedStep, achievementStep, hbooked]
      exact h.constrained.patchEvent eventId _
    · exact (attemptEvent_ok h.constrained hattempt).1

/-- The missions hold to their windows whatever is processed. -/
theorem GrowthKept.mission_untouched (settings : RetrySettings) (h : GrowthKept db)
    {eventId : EventId} {draws : AttemptDraws} {interrupted : Option Failure} {now : Time}
    {text : String} (hmem : mission ∈ db.missions)
    (hclosed : windowOpen mission.startsAt mission.endsAt draws.now = false) :
    MissionUntouched mission db
      (processEngagementEvent settings db eventId readings draws interrupted now text) := by
  rcases processEngagementEvent_cases settings db eventId readings draws interrupted now text with
    hsame | ⟨_, _, -, -, hbooked⟩ | ⟨event, -, -, -, hattempt⟩
  · rw [hsame]
    exact .refl mission db
  · rw [hbooked]
    exact .of_same rfl rfl rfl rfl
  · exact attemptEvent_mission h.constrained hmem hclosed hattempt

theorem GrowthKept.achievement_untouched (settings : RetrySettings) (h : GrowthKept db)
    {eventId : EventId} {draws : AttemptDraws} {interrupted : Option Failure} {now : Time}
    {text : String} {definition : AchievementDefinition} (hmem : definition ∈ db.achievements)
    (hstands : interrupted = none → ∀ event ∈ db.findEvent eventId, ¬event.status.isFinal →
      definition ∈ publishedDefinitionsForEvent db event readings draws.achievementOrder →
      StandsAt db event readings definition) :
    AchievementUntouched definition db
      (processEngagementEvent settings db eventId readings draws interrupted now text) := by
  rcases processEngagementEvent_cases settings db eventId readings draws interrupted now text with
    hsame | ⟨_, _, -, -, hbooked⟩ | ⟨event, hfind, hopen, hnone, hattempt⟩
  · rw [hsame]
    exact .of_keeps (.refl db)
  · rw [hbooked]
    exact .of_keeps (.of_same rfl rfl rfl rfl)
  · exact attemptEvent_achievement h.sound hmem (hstands hnone event hfind hopen) hattempt

theorem GrowthKept.processed_in_window (settings : RetrySettings) (h : GrowthKept db)
    (a : KeyedAction) (hmeets : MeetsOpenAchievements db a) : ProcessedInWindow settings db a := by
  obtain ⟨a, hkeys⟩ := a
  cases a with
  | process eventId readings draws interrupted now text =>
    refine ⟨fun mission hmem _ hclosed => h.mission_untouched settings hmem hclosed, ?_⟩
    intro definition hmem _ hclosed
    refine h.achievement_untouched settings hmem ?_
    rintro rfl event hfind hopen hselected
    exact hmeets event hfind hopen definition hselected hclosed
  | _ => trivial

/-- In a run whose attempts select no achievement outside of its window, or only where it stands
already, events that are processed outside of a window change nothing for its definition. -/
theorem processed_in_window_run (settings : RetrySettings) (hsound : AchievementsSound db)
    (hdb : db.Constrained) {acts : List KeyedAction}
    (hmeets : Always (keyedStep settings) MeetsOpenAchievements db acts) :
    Always (keyedStep settings) (ProcessedInWindow settings) db acts := by
  refine hmeets.of_invariant (I := GrowthKept) ⟨hsound, hdb⟩ ?_ ?_
  · intro db a hkept _
    exact hkept.step settings a
  · intro db a hkept hmeets
    exact hkept.processed_in_window settings a hmeets

end

namespace EndedAchievement

/-- An achievement that is over after ten seconds. -/
def request : AchievementDefinitionCreate :=
  { oneReward with endsAt := some 10000000 }

/-- The achievement is published, and the card event is processed at an instant. -/
def acts (now : Time) : List KeyedAction :=
  [⟨.submit (.ok ()) "achievement_1", trivial⟩,
   ⟨.approve (.ok ()) "achievement_1", trivial⟩,
   ⟨.process "evt_1" { achievementValue := fun _ => 1 } (commentAttempt now "a") none now "",
     trivial⟩]

theorem kept : GrowthKept (withAchievement request) := by
  have hcreate : createAchievement twoRewards (.ok (none, none)) request "achievement_1" =
      .ok (withAchievement request) := by decide
  have hsound : AchievementsSound twoRewards := .opening rfl rfl rfl rfl
  exact ⟨(createAchievement_stepped hsound hcreate).sound, by decide, by decide, by decide,
    by decide⟩

theorem meetsOpen : Always (keyedStep {}) MeetsOpenAchievements (withAchievement request)
    (acts 5000000) := by
  refine ⟨trivial, trivial, ?_, trivial⟩
  rintro event ⟨⟩ - definition hselected hclosed
  have hopen : windowOpen definition.startsAt definition.endsAt 5000000 = true :=
    (by decide : ∀ selected ∈ _, windowOpen selected.startsAt selected.endsAt 5000000 = true)
      definition hselected
  exact absurd (hopen.symm.trans hclosed) (by decide)

end EndedAchievement

open EndedAchievement in
theorem processed_in_window_run_open :
    Always (keyedStep {}) (ProcessedInWindow {}) (withAchievement request) (acts 5000000) :=
  processed_in_window_run {} kept.sound kept.constrained meetsOpen

open EndedAchievement in
/-- Thirty seconds later the event completes the achievement, and grants its bonus. -/
theorem processed_in_window_fails : GrowthKept (withAchievement request) ∧
    ¬Always (keyedStep {}) (ProcessedInWindow {}) (withAchievement request) (acts 40000000) := by
  refine ⟨kept, ?_⟩
  intro h
  have hbonuses := (h.2.2.1.achievements _ List.mem_cons_self rfl rfl).bonuses "fan"
  revert hbonuses
  decide

end Fanfolio
