import Fanfolio.Cards.Collection
import Fanfolio.Cards.Notices
import Fanfolio.Framework.Binary64
import Mathlib.Tactic.Tauto

/-!
# Collection goals

A fan sets a number of cards of a pack as a goal. Whether it is reached is read off the percentage
that is shown, each time the goal is shown.
-/

namespace Fanfolio

open Framework

/-- A row of `collection_goals`. -/
structure CollectionGoal where
  id : String
  userId : UserId
  packId : PackId
  targetCount : Nat
  completedAt : Option Time := none
  createdAt : Time
deriving DecidableEq, Repr

/-- The columns of packs that only collection goals read. -/
structure PackLabels where
  name : PackId → String
  seasonName : PackId → Option String
  organizationId : PackId → Option String

/-- The tables that the evaluation of a goal reads and writes. -/
structure GoalDb (Digest : Type) where
  cards : CardDb Digest
  notices : NoticeDb
  goals : List CollectionGoal

/-- What `_collection_goal_data` returns. -/
structure CollectionGoalData where
  id : String
  packId : PackId
  packName : String
  seasonName : Option String
  targetCount : Nat
  ownedCount : Nat
  completionRate : ℤ
  completedAt : Option Time
  createdAt : Time
deriving DecidableEq, Repr

/-- The identifiers that a completion draws. -/
structure GoalDraws where
  eventId : EventId
  notice : NoticeDraws

/-- `completion_rate`. -/
def completionRate (ownedCount targetCount : Nat) : ℤ :=
  if targetCount = 0 then 0
  else min 100 (roundHalfEven (toDouble (toDouble ((ownedCount : ℚ) / targetCount) * 100)))

/-- A percentage of 100 stands for 99.5 percent and more, as far as counts of cards go. -/
theorem completionRate_eq_hundred {ownedCount targetCount : Nat} (h : 1 ≤ targetCount)
    (hcolumn : targetCount < 2 ^ 31) :
    completionRate ownedCount targetCount = 100 ↔ 199 * targetCount ≤ 200 * ownedCount := by
  have hpos : (0 : ℚ) < targetCount := by exact_mod_cast h
  rw [completionRate, if_neg (by omega), min_eq_left_iff, even_le_roundHalfEven (by decide)]
  have hbound : ((100 : ℤ) : ℚ) - 1 / 2 = 199 / 2 := by norm_num
  rw [hbound]
  constructor
  · intro hle
    by_contra hfew
    rw [not_le] at hfew
    rcases Nat.eq_zero_or_pos ownedCount with rfl | howned
    · rw [Nat.cast_zero, zero_div] at hle
      revert hle
      decide +kernel
    · have hquotient : (0 : ℚ) < ownedCount / targetCount := by positivity
      have hbelow : (ownedCount : ℚ) / targetCount ≤ 199 / 200 - 1 / (200 * 2 ^ 31) := by
        have hcount : (200 : ℚ) * ownedCount + 1 ≤ 199 * targetCount := by exact_mod_cast hfew
        have hlimit : (targetCount : ℚ) ≤ 2 ^ 31 := by exact_mod_cast hcolumn.le
        rw [div_le_iff₀ hpos]
        linarith
      have hfirst := toDouble_mono hquotient hbelow
      have hpositive : 0 < toDouble ((ownedCount : ℚ) / targetCount) * 100 :=
        mul_pos ((zpow_pos (by norm_num) _).trans_le (zpow_log_le_toDouble hquotient)) (by norm_num)
      have hsecond := hle.trans
        (toDouble_mono hpositive (mul_le_mul_of_nonneg_right hfirst (by norm_num)))
      revert hsecond
      decide +kernel
  · intro hmany
    have habove : (199 : ℚ) / 200 ≤ ownedCount / targetCount := by
      have hcount : (199 : ℚ) * targetCount ≤ 200 * ownedCount := by exact_mod_cast hmany
      rw [le_div_iff₀ hpos]
      linarith
    have hfirst := toDouble_mono (by norm_num) habove
    have hexact : toDouble (toDouble (199 / 200) * 100) = 199 / 2 := by decide +kernel
    rw [← hexact]
    exact toDouble_mono (by decide +kernel) (mul_le_mul_of_nonneg_right hfirst (by norm_num))

section

variable {Digest : Type}

/-- The cards of a pack that are enabled. -/
def CardDb.enabledCardIds (db : CardDb Digest) (packId : PackId) : List CardId :=
  (db.packCards.filter fun row => row.packId == packId && row.enabled).map (·.cardId)

/-- `owned_count`. -/
def CardDb.ownedCount (db : CardDb Digest) (userId : UserId) (packId : PackId) : Nat :=
  (((db.unconsumed userId).map (·.cardId)).filter
    ((db.enabledCardIds packId).contains ·)).dedup.length

namespace GoalDb

/-- The notification of a goal that is reached. -/
def goalNotice (labels : PackLabels) (goal : CollectionGoal) (pack : CardPack) : NoticeRequest where
  userId := goal.userId
  kind := "collection_goal_completed"
  title := "수집 목표를 달성했어요"
  body := labels.name pack.id ++ " 카드팩 수집 목표를 모두 달성했습니다."
  entityType := "collection_goal"
  entityId := goal.id
  eventKey := "collection-goal-completed:" ++ goal.id

/-- The payload of the event of a goal that is reached. -/
def goalPayload (labels : PackLabels) (goal : CollectionGoal) (pack : CardPack) : JsonObject :=
  [("collectionGoalId", .str goal.id), ("packId", .str pack.id), ("artistId", .str pack.artistId),
    ("organizationId", .ofOption (labels.organizationId pack.id))]

/-- A goal is marked as reached: the event is recorded and queued, and the fan is notified. -/
def completeGoal (labels : PackLabels) (queue : EventId → Except Failure Unit)
    (db : GoalDb Digest) (goal : CollectionGoal) (pack : CardPack) (now : Time)
    (draws : GoalDraws) : Except Failure (GoalDb Digest) := do
  let (events, event) ← recordEngagementEvent db.cards.events goal.userId
    "collection_goal_completed" "collection_goal" goal.id (goalPayload labels goal pack)
    draws.eventId
  queue event.id
  let notices ← db.notices.notifyUserOnce (goalNotice labels goal pack) draws.notice
  pure { cards := { db.cards with events := events }
         notices := notices
         goals := patch (·.id == goal.id) ({ · with completedAt := some now }) db.goals }

/-- A goal is marked once, when it is first shown as full. -/
def settleGoal (labels : PackLabels) (queue : EventId → Except Failure Unit)
    (db : GoalDb Digest) (goal : CollectionGoal) (pack : CardPack) (completionRate : ℤ)
    (now : Time) (draws : GoalDraws) : Except Failure (GoalDb Digest) :=
  if completionRate = 100 ∧ goal.completedAt = none then
    completeGoal labels queue db goal pack now draws
  else .ok db

/-- `_collection_goal_data`, for the fan whose goal it is. -/
def collectionGoalData (labels : PackLabels) (queue : EventId → Except Failure Unit)
    (db : GoalDb Digest) (goal : CollectionGoal) (now : Time) (draws : GoalDraws) :
    Except Failure (GoalDb Digest × CollectionGoalData) := do
  let pack ← orFail (db.cards.packs.find? (·.id == goal.packId))
    (.app ⟨404, "CARD_PACK_NOT_FOUND", "카드팩을 찾을 수 없습니다."⟩)
  let ownedCount := db.cards.ownedCount goal.userId pack.id
  let completionRate := completionRate ownedCount goal.targetCount
  let db ← settleGoal labels queue db goal pack completionRate now draws
  let completedAt :=
    if completionRate = 100 ∧ goal.completedAt = none then some now else goal.completedAt
  pure (db, { id := goal.id
              packId := pack.id
              packName := labels.name pack.id
              seasonName := labels.seasonName pack.id
              targetCount := goal.targetCount
              ownedCount := ownedCount
              completionRate := completionRate
              completedAt := completedAt
              createdAt := goal.createdAt })

/-- `create_collection_goal`; `goalId` is the identifier it draws. -/
def createCollectionGoal (labels : PackLabels) (queue : EventId → Except Failure Unit)
    (db : GoalDb Digest) (userId : UserId) (packId : PackId) (targetCount : Option Nat)
    (goalId : String) (now : Time) (draws : GoalDraws) :
    Except Failure (GoalDb Digest × CollectionGoalData) := do
  ensure (∀ count ∈ targetCount, 0 < count)
    (.app ⟨422, "VALIDATION_ERROR", "입력값을 확인해 주세요."⟩)
  let pack ← orFail (db.cards.packs.find? fun row => row.id == packId && row.status == .published)
    (.app ⟨404, "CARD_PACK_NOT_FOUND", "공개된 카드팩을 찾을 수 없습니다."⟩)
  let availableCount := (db.cards.enabledCardIds pack.id).length
  let target := targetCount.getD availableCount
  ensure (target ≤ availableCount)
    (.app ⟨422, "INVALID_COLLECTION_GOAL", "카드팩에 포함된 카드 수를 초과할 수 없습니다."⟩)
  match db.goals.find? fun row => row.userId == userId && row.packId == pack.id with
  | none => do
    ensure (∀ row ∈ db.goals, row.id ≠ goalId) (.integrity "collection_goals_pkey")
    let goal : CollectionGoal :=
      { id := goalId, userId := userId, packId := pack.id, targetCount := target, createdAt := now }
    collectionGoalData labels queue { db with goals := db.goals ++ [goal] } goal now draws
  | some old =>
    let goal := { old with targetCount := target, completedAt := none }
    collectionGoalData labels queue
      { db with goals := patch (·.id == goal.id) (fun _ => goal) db.goals } goal now draws

end GoalDb

/-- The fan owns that many distinct enabled cards of the pack, consumed copies aside. -/
def CardDb.OwnsDistinct (db : CardDb Digest) (userId : UserId) (packId : PackId) (n : Nat) : Prop :=
  ∃ cardIds : List CardId, cardIds.Nodup ∧ n ≤ cardIds.length ∧ ∀ cardId ∈ cardIds,
    (∃ link ∈ db.packCards, link.packId = packId ∧ link.enabled = true ∧ link.cardId = cardId) ∧
    ∃ row ∈ db.userCards, row.userId = userId ∧ row.cardId = cardId ∧
      ∀ material ∈ db.materials, material.userCardId ≠ row.id

theorem CardDb.ownsDistinct_iff {db : CardDb Digest} {userId : UserId} {packId : PackId} {n : Nat} :
    db.OwnsDistinct userId packId n ↔ n ≤ db.ownedCount userId packId := by
  have hmem (cardId : CardId) : cardId ∈ (((db.unconsumed userId).map (·.cardId)).filter
      ((db.enabledCardIds packId).contains ·)).dedup ↔
      (∃ link ∈ db.packCards, link.packId = packId ∧ link.enabled = true ∧ link.cardId = cardId) ∧
      ∃ row ∈ db.userCards, row.userId = userId ∧ row.cardId = cardId ∧
        ∀ material ∈ db.materials, material.userCardId ≠ row.id := by
    simp only [List.mem_dedup, List.mem_filter, List.contains_eq_mem, decide_eq_true_eq,
      CardDb.enabledCardIds, CardDb.unconsumed, CardDb.isMaterial, List.mem_map, Bool.and_eq_true,
      beq_iff_eq, Bool.not_eq_true', List.any_eq_false]
    constructor
    · rintro ⟨⟨row, ⟨hrow, huser, hunused⟩, hcard⟩, link, ⟨hlink, hpack, henabled⟩, hof⟩
      exact ⟨⟨link, hlink, hpack, henabled, hof⟩, row, hrow, huser, hcard, hunused⟩
    · rintro ⟨⟨link, hlink, hpack, henabled, hof⟩, row, hrow, huser, hcard, hunused⟩
      exact ⟨⟨row, ⟨hrow, huser, hunused⟩, hcard⟩, link, ⟨hlink, hpack, henabled⟩, hof⟩
  constructor
  · rintro ⟨cardIds, hnodup, hlength, hcards⟩
    refine hlength.trans (List.Nodup.subperm hnodup fun cardId hcard => ?_).length_le
    exact (hmem cardId).mpr (hcards cardId hcard)
  · intro hle
    exact ⟨_, List.nodup_dedup _, hle, fun cardId hcard => (hmem cardId).mp hcard⟩

namespace GoalDb

/-- The event that a completion queues. -/
def goalEventId (db : GoalDb Digest) (goal : CollectionGoal) (draws : GoalDraws) : EventId :=
  ((db.cards.events.find? (·.hasSource goal.userId "collection_goal_completed" "collection_goal"
    goal.id)).map (·.id)).getD draws.eventId

/-- Nothing is left to report, or the queue takes the event and the fan can be notified. -/
def CanReport (labels : PackLabels) (queue : EventId → Except Failure Unit) (db : GoalDb Digest)
    (goal : CollectionGoal) (pack : CardPack) (draws : GoalDraws) : Prop :=
  goal.completedAt = none → queue (db.goalEventId goal draws) = .ok () ∧
    db.notices.Notifiable (goalNotice labels goal pack)

/-- The goal is marked as reached now, and its event is recorded and queued. -/
def Completed (queue : EventId → Except Failure Unit) (goal : CollectionGoal) (now : Time)
    (db : GoalDb Digest) : Prop :=
  (db.goals.find? (·.id == goal.id)).any (·.completedAt == some now) ∧
    ∃ event ∈ db.cards.events, event.hasSource goal.userId "collection_goal_completed"
      "collection_goal" goal.id = true ∧ queue event.id = .ok ()

/-- The identifiers that a completion draws are new. -/
structure FreshGoal (labels : PackLabels) (db : GoalDb Digest) (goal : CollectionGoal)
    (pack : CardPack) (draws : GoalDraws) : Prop where
  event : ∀ event ∈ db.cards.events, event.id ≠ draws.eventId
  notice : db.notices.isNotified goal.userId (goalNotice labels goal pack).eventKey = false →
    db.notices.FreshNotice goal.userId draws.notice

variable {labels : PackLabels} {queue : EventId → Except Failure Unit} {db db' : GoalDb Digest}
  {goal : CollectionGoal} {pack : CardPack} {now : Time} {draws : GoalDraws}

theorem recordEngagementEvent_ok {events events' : List EngagementEvent} {event : EngagementEvent}
    {userId : UserId} {kind sourceType sourceId : String} {payload : JsonObject} {eventId : EventId}
    (h : recordEngagementEvent events userId kind sourceType sourceId payload eventId =
      .ok (events', event)) :
    event ∈ events' ∧ event.hasSource userId kind sourceType sourceId = true ∧
      event.id = ((events.find? (·.hasSource userId kind sourceType sourceId)).map (·.id)).getD
        eventId := by
  rcases recordEngagementEvent_cases h with ⟨hfind, rfl⟩ | ⟨hfind, -, rfl, rfl⟩
  · rw [hfind]
    refine ⟨List.mem_of_find?_eq_some hfind, ?_, rfl⟩
    exact List.find?_some
      (p := fun event : EngagementEvent => event.hasSource userId kind sourceType sourceId) hfind
  · rw [hfind]
    exact ⟨by simp, by simp [EngagementEvent.hasSource], rfl⟩

variable (queue now) in
/-- A completion goes through exactly if it can be reported. -/
theorem completeGoal_succeeds (hsound : db.notices.Sound)
    (hfresh : db.FreshGoal labels goal pack draws) :
    (∃ db', completeGoal labels queue db goal pack now draws = .ok db') ↔
      queue (db.goalEventId goal draws) = .ok () ∧
        db.notices.Notifiable (goalNotice labels goal pack) := by
  obtain ⟨events, event, hrecord, -⟩ := recordEngagementEvent_fresh hfresh.event goal.userId
    "collection_goal_completed" "collection_goal" goal.id (goalPayload labels goal pack)
  obtain ⟨-, -, hid⟩ := recordEngagementEvent_ok hrecord
  have hnotified : (∃ notices, db.notices.notifyUserOnce (goalNotice labels goal pack) draws.notice =
      .ok notices) ↔ db.notices.Notifiable (goalNotice labels goal pack) :=
    NoticeDb.notifyUserOnce_succeeds hsound hfresh.notice
  rw [← hnotified, goalEventId, ← hid]
  simp only [completeGoal, hrecord, bind_ok, pure_ok, Except.ok.injEq, exists_eq_left']
  constructor
  · rintro ⟨db', _, hqueue, notices, hnotify, -⟩
    exact ⟨hqueue, notices, hnotify⟩
  · rintro ⟨hqueue, notices, hnotify⟩
    exact ⟨_, (), hqueue, notices, hnotify, rfl⟩

theorem completeGoal_completed (hgoal : goal ∈ db.goals) (hids : (db.goals.map (·.id)).Nodup)
    (hok : completeGoal labels queue db goal pack now draws = .ok db') :
    db'.Completed queue goal now := by
  simp only [completeGoal, bind_ok, pure_ok] at hok
  obtain ⟨recorded, hrecord, _, hqueue, notices, -, rfl⟩ := hok
  obtain ⟨hmem, hsource, -⟩ := recordEngagementEvent_ok hrecord
  refine ⟨?_, recorded.2, hmem, hsource, hqueue⟩
  rw [find_patch_key (by intro _; rfl), find_of_mem hids hgoal]
  simp

/-- The goal counts as reached, as far as the percentage goes. -/
def ShownFull (db : GoalDb Digest) (goal : CollectionGoal) (pack : CardPack) : Prop :=
  199 * goal.targetCount ≤ 200 * db.cards.ownedCount goal.userId pack.id

theorem completionRate_eq_shown (htarget : 1 ≤ goal.targetCount)
    (hcolumn : goal.targetCount < 2 ^ 31) :
    completionRate (db.cards.ownedCount goal.userId pack.id) goal.targetCount = 100 ↔
      db.ShownFull goal pack := completionRate_eq_hundred htarget hcolumn

theorem collectionGoalData_ok {data : CollectionGoalData}
    (hpack : db.cards.packs.find? (·.id == goal.packId) = some pack)
    (hok : collectionGoalData labels queue db goal now draws = .ok (db', data)) :
    settleGoal labels queue db goal pack
      (completionRate (db.cards.ownedCount goal.userId pack.id) goal.targetCount) now draws =
        .ok db' ∧
      data.completionRate =
        completionRate (db.cards.ownedCount goal.userId pack.id) goal.targetCount := by
  simp only [collectionGoalData, hpack, bind_ok, orFail_ok, pure_ok, Option.some.injEq,
    exists_eq_left', Prod.mk.injEq] at hok
  obtain ⟨db₁, hsettle, rfl, rfl⟩ := hok
  exact ⟨hsettle, rfl⟩

theorem collectionGoalData_of_settled
    (hpack : db.cards.packs.find? (·.id == goal.packId) = some pack)
    (hsettle : settleGoal labels queue db goal pack
      (completionRate (db.cards.ownedCount goal.userId pack.id) goal.targetCount) now draws =
        .ok db') :
    ∃ data, collectionGoalData labels queue db goal now draws = .ok (db', data) ∧
      data.completionRate =
        completionRate (db.cards.ownedCount goal.userId pack.id) goal.targetCount := by
  simp only [collectionGoalData, hpack, bind_ok, orFail_ok, pure_ok, Option.some.injEq,
    exists_eq_left', Prod.mk.injEq]
  exact ⟨_, ⟨db', hsettle, rfl, rfl⟩, rfl⟩

/-- A goal that is shown as full is settled exactly if this can be reported. -/
theorem settleGoal_succeeds (hsound : db.notices.Sound)
    (hfresh : db.FreshGoal labels goal pack draws) :
    (∃ db', settleGoal labels queue db goal pack 100 now draws = .ok db') ↔
      db.CanReport labels queue goal pack draws := by
  have hcompletes := completeGoal_succeeds queue now hsound hfresh
  unfold settleGoal CanReport
  by_cases hopen : goal.completedAt = none
  · simp only [hopen, and_self, if_true, forall_const]
    exact hcompletes
  · simp only [hopen, and_false, if_false, false_imp_iff, iff_true]
    exact ⟨db, rfl⟩

variable (queue now) in
/-- An evaluation that marks the goal, or finds it marked, answers 100 percent. -/
theorem collectionGoalData_hundred (hpack : db.cards.packs.find? (·.id == goal.packId) = some pack)
    (htarget : 1 ≤ goal.targetCount) (hcolumn : goal.targetCount < 2 ^ 31)
    (hsound : db.notices.Sound) (hfresh : db.FreshGoal labels goal pack draws) :
    (∃ db' data, collectionGoalData labels queue db goal now draws = .ok (db', data) ∧
      data.completionRate = 100) ↔
      db.ShownFull goal pack ∧ db.CanReport labels queue goal pack draws := by
  rw [← completionRate_eq_shown htarget hcolumn, ← settleGoal_succeeds hsound hfresh]
  constructor
  · rintro ⟨db', data, hok, hhundred⟩
    obtain ⟨hsettle, hrate⟩ := collectionGoalData_ok hpack hok
    rw [hhundred] at hrate
    rw [← hrate] at hsettle
    exact ⟨hrate.symm, db', hsettle⟩
  · rintro ⟨hrate, db', hsettle⟩
    rw [← hrate] at hsettle
    obtain ⟨data, hok, hdata⟩ := collectionGoalData_of_settled hpack hsettle
    exact ⟨db', data, hok, hdata.trans hrate⟩

/-- An open goal is marked as reached exactly if it is shown as full and this can be reported. -/
theorem collectionGoalData_completed (hgoal : goal ∈ db.goals)
    (hids : (db.goals.map (·.id)).Nodup) (hopen : goal.completedAt = none)
    (hpack : db.cards.packs.find? (·.id == goal.packId) = some pack) :
    (∃ db' data, collectionGoalData labels queue db goal now draws = .ok (db', data) ∧
      db'.Completed queue goal now) ↔
    ∃ db' data, collectionGoalData labels queue db goal now draws = .ok (db', data) ∧
      data.completionRate = 100 := by
  refine exists_congr fun db' => exists_congr fun data => and_congr_right fun hok => ?_
  obtain ⟨hsettle, hrate⟩ := collectionGoalData_ok hpack hok
  rw [hrate]
  by_cases hfull :
      completionRate (db.cards.ownedCount goal.userId pack.id) goal.targetCount = 100
  · rw [settleGoal, if_pos ⟨hfull, hopen⟩] at hsettle
    exact iff_of_true (completeGoal_completed hgoal hids hsettle) hfull
  · rw [settleGoal, if_neg fun h => hfull h.1] at hsettle
    obtain rfl := Except.ok.inj hsettle
    refine iff_of_false ?_ hfull
    rintro ⟨hmarked, -⟩
    rw [find_of_mem hids hgoal, Option.any_some, hopen] at hmarked
    cases hmarked

/-- The evaluation of a goal goes by the number of distinct cards that the fan owns. -/
structure JudgedByCount (labels : PackLabels) (queue : EventId → Except Failure Unit)
    (db : GoalDb Digest) (goal : CollectionGoal) (pack : CardPack) (now : Time)
    (draws : GoalDraws) : Prop where
  completed : goal.completedAt = none →
    ((∃ db' data, collectionGoalData labels queue db goal now draws = .ok (db', data) ∧
      db'.Completed queue goal now) ↔
        db.cards.OwnsDistinct goal.userId pack.id goal.targetCount)
  hundred : (∃ db' data, collectionGoalData labels queue db goal now draws = .ok (db', data) ∧
    data.completionRate = 100) ↔ db.cards.OwnsDistinct goal.userId pack.id goal.targetCount

/-- A goal is judged by the count exactly if the fan owns enough cards and this can be reported, or
too few and it is not shown as full either (or that cannot be reported). -/
theorem judgedByCount_iff (hgoal : goal ∈ db.goals) (hids : (db.goals.map (·.id)).Nodup)
    (hpack : db.cards.packs.find? (·.id == goal.packId) = some pack)
    (htarget : 1 ≤ goal.targetCount) (hcolumn : goal.targetCount < 2 ^ 31)
    (hsound : db.notices.Sound) (hfresh : db.FreshGoal labels goal pack draws) :
    JudgedByCount labels queue db goal pack now draws ↔
      (goal.targetCount ≤ db.cards.ownedCount goal.userId pack.id ∧
        db.CanReport labels queue goal pack draws) ∨
      (db.cards.ownedCount goal.userId pack.id < goal.targetCount ∧
        ¬(db.ShownFull goal pack ∧ db.CanReport labels queue goal pack draws)) := by
  have hhundred := collectionGoalData_hundred queue now hpack htarget hcolumn hsound hfresh
  have hfull : goal.targetCount ≤ db.cards.ownedCount goal.userId pack.id →
      db.ShownFull goal pack := by
    intro hle
    unfold ShownFull
    omega
  have hmain : (db.ShownFull goal pack ∧ db.CanReport labels queue goal pack draws ↔
      goal.targetCount ≤ db.cards.ownedCount goal.userId pack.id) ↔
      (goal.targetCount ≤ db.cards.ownedCount goal.userId pack.id ∧
        db.CanReport labels queue goal pack draws) ∨
      (db.cards.ownedCount goal.userId pack.id < goal.targetCount ∧
        ¬(db.ShownFull goal pack ∧ db.CanReport labels queue goal pack draws)) := by
    rw [← not_le]
    tauto
  rw [← hmain, ← CardDb.ownsDistinct_iff, ← hhundred]
  constructor
  · exact fun h => h.hundred
  · intro h
    refine ⟨fun hopen => ?_, h⟩
    rw [collectionGoalData_completed hgoal hids hopen hpack, h]

/-- A goal that is set is an open one that the pack has enough cards for, and is evaluated. -/
theorem createCollectionGoal_ok {userId : UserId} {packId : PackId} {targetCount : Option Nat}
    {goalId : String} {data : CollectionGoalData} (hids : (db.goals.map (·.id)).Nodup)
    (hok : createCollectionGoal labels queue db userId packId targetCount goalId now draws =
      .ok (db', data)) :
    ∃ (db₁ : GoalDb Digest) (goal : CollectionGoal), db₁.cards = db.cards ∧
      db₁.notices = db.notices ∧ goal ∈ db₁.goals ∧ (db₁.goals.map (·.id)).Nodup ∧
      goal.completedAt = none ∧ goal.userId = userId ∧ goal.packId = packId ∧
      goal.targetCount ≤ (db.cards.enabledCardIds packId).length ∧
      collectionGoalData labels queue db₁ goal now draws = .ok (db', data) := by
  simp only [createCollectionGoal, bind_ok, ensure_ok, orFail_ok] at hok
  obtain ⟨_, -, pack, hpack, _, hlimit, hok⟩ := hok
  have hpackId := List.find?_some hpack
  simp only [Bool.and_eq_true, beq_iff_eq] at hpackId
  rw [hpackId.1] at hlimit hok
  split at hok
  · simp only [bind_ok, ensure_ok] at hok
    obtain ⟨_, hnew, hok⟩ := hok
    let goal : CollectionGoal :=
      { id := goalId, userId := userId, packId := packId
        targetCount := targetCount.getD (db.cards.enabledCardIds packId).length, createdAt := now }
    exact ⟨{ db with goals := db.goals ++ [goal] }, goal, rfl, rfl,
      List.mem_append_right _ (List.mem_singleton.mpr rfl), nodup_insert hids hnew, rfl, rfl, rfl,
      hlimit, hok⟩
  · rename_i old hfind
    have hold := List.find?_some hfind
    simp only [Bool.and_eq_true, beq_iff_eq] at hold
    let goal : CollectionGoal :=
      { old with
        targetCount := targetCount.getD (db.cards.enabledCardIds packId).length
        completedAt := none }
    have hkeys : (patch (·.id == goal.id) (fun _ => goal) db.goals).map (·.id) =
        db.goals.map (·.id) := by
      rw [patch, List.map_map]
      apply List.map_congr_left
      intro row _
      by_cases hid : row.id = goal.id <;> simp [hid]
    refine ⟨{ db with goals := patch (·.id == goal.id) (fun _ => goal) db.goals }, goal, rfl, rfl,
      mem_patch.mpr ⟨old, List.mem_of_find?_eq_some hfind, ?_⟩, ?_, rfl, hold.1, hold.2, hlimit,
      hok⟩
    · rw [if_pos (beq_iff_eq.mpr rfl)]
    · rw [hkeys]
      exact hids

end GoalDb

end

namespace BigPack

def cardId (i : Nat) : CardId := String.ofList (List.replicate i 'c')

theorem cardId_injective : Function.Injective cardId := by
  intro i j h
  have hlength := congrArg List.length (String.ofList_injective h)
  rwa [List.length_replicate, List.length_replicate] at hlength

def link (i : Nat) : CardPackCard :=
  { id := cardId i, packId := "pack", cardId := cardId i, probability := 1 / 2 }

def copy (i : Nat) : UserCard :=
  { id := cardId i, userId := "fan_a", cardId := cardId i, redeemCodeId := none, dropId := none
    serialNumber := 1, acquisitionSource := "card_pack", acquiredAt := 0 }

def goal : CollectionGoal :=
  { id := "goal", userId := "fan_a", packId := "pack", targetCount := 200, createdAt := 0 }

theorem targetCount_eq : goal.targetCount = 200 := rfl

def pack : CardPack := { id := "pack", artistId := "artist" }

/-- The goal of all 200 cards of a pack, and a fan who owns some of them. -/
def db (owned : Nat) : GoalDb SymbolicDigest where
  cards := { smallCatalogue with
             packCards := (List.range 200).map link
             userCards := (List.range owned).map copy }
  notices := { accounts := [{ id := "fan_a" }] }
  goals := [goal]

def labels : PackLabels := ⟨fun _ => "Pack", fun _ => none, fun _ => none⟩

def queue (_ : EventId) : Except Failure Unit := .ok ()

def draws : GoalDraws := ⟨"event", NoticeExample.draws⟩

theorem ownedCount_eq {owned : Nat} (h : owned ≤ 200) :
    (db owned).cards.ownedCount goal.userId pack.id = owned := by
  show (db owned).cards.ownedCount "fan_a" "pack" = owned
  have hcopies : (db owned).cards.unconsumed "fan_a" = (List.range owned).map copy := by
    refine List.filter_eq_self.mpr fun row hrow => ?_
    obtain ⟨i, -, rfl⟩ := List.mem_map.mp hrow
    rfl
  have henabled : (db owned).cards.enabledCardIds "pack" = (List.range 200).map cardId := by
    rw [CardDb.enabledCardIds, List.filter_eq_self.mpr]
    · simp [db, link, Function.comp_def]
    · intro row hrow
      obtain ⟨i, -, rfl⟩ := List.mem_map.mp hrow
      rfl
  have hcards : ((List.range owned).map copy).map (·.cardId) = (List.range owned).map cardId := by
    simp [copy, Function.comp_def]
  have hfilter : ((List.range owned).map cardId).filter
      (((List.range 200).map cardId).contains ·) = (List.range owned).map cardId := by
    rw [List.filter_eq_self]
    intro id hid
    obtain ⟨i, hi, rfl⟩ := List.mem_map.mp hid
    rw [List.contains_eq_mem, decide_eq_true_eq]
    exact List.mem_map_of_mem (List.mem_range.mpr ((List.mem_range.mp hi).trans_le h))
  rw [CardDb.ownedCount, hcopies, henabled, hcards, hfilter,
    (List.nodup_range.map cardId_injective).dedup, List.length_map, List.length_range]

theorem fresh (owned : Nat) : (db owned).FreshGoal labels goal pack draws := by
  refine ⟨by simp [db, smallCatalogue], fun _ => ?_⟩
  exact ⟨by simp [db], by simp [db], fun i hi => absurd hi (Nat.not_lt_zero i)⟩

theorem sound (owned : Nat) : (db owned).notices.Sound :=
  NoticeDb.Blank.sound ⟨rfl, rfl, rfl⟩

theorem canReport (owned : Nat) : (db owned).CanReport labels queue goal pack draws := by
  intro _
  refine ⟨rfl, .inr ⟨?_, by simp [db]⟩⟩
  intro recipient hfound henabled
  obtain rfl := Option.some.inj hfound
  cases henabled

end BigPack

open BigPack in
/-- With 199 of 200 cards the percentage is 99.5, and is rounded to 100. -/
theorem judgedByCount_fails : ¬GoalDb.JudgedByCount labels queue (db 199) goal pack 1 draws := by
  intro h
  have hshown : (db 199).ShownFull goal pack := by
    rw [GoalDb.ShownFull, ownedCount_eq (by omega), targetCount_eq]
  have hundred := (GoalDb.collectionGoalData_hundred queue 1 rfl (by decide) (by decide)
    (sound 199) (fresh 199)).mpr ⟨hshown, canReport 199⟩
  have howns := CardDb.ownsDistinct_iff.mp (h.hundred.mp hundred)
  rw [ownedCount_eq (by omega), targetCount_eq] at howns
  omega

open BigPack in
theorem judgedByCount_complete : GoalDb.JudgedByCount labels queue (db 200) goal pack 1 draws := by
  refine (GoalDb.judgedByCount_iff (List.mem_singleton.mpr rfl) (by decide) rfl (by decide)
    (by decide) (sound 200) (fresh 200)).mpr (.inl ⟨?_, canReport 200⟩)
  rw [ownedCount_eq le_rfl, targetCount_eq]

end Fanfolio
