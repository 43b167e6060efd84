import Fanfolio.Growth.Schema
import Fanfolio.Points.Reconciliation

/-!
# Granting XP and rewards

A grant is unique by its user, event and rule: asked for again, it is the one made before.
-/

namespace Fanfolio

open Framework

/-- The latest policy first, one without a start last. -/
def LevelPolicyVersion.precedes (row row' : LevelPolicyVersion) : Bool :=
  match row.effectiveAt, row'.effectiveAt with
  | some effectiveAt, some effectiveAt' =>
    decide (effectiveAt' < effectiveAt ∨ effectiveAt = effectiveAt' ∧ row.id ≤ row'.id)
  | some _, none => true
  | none, some _ => false
  | none, none => decide (row.id ≤ row'.id)

/-- `level_for_total_xp`. -/
def levelForTotalXp (db : GrowthDb) (totalXp : Int) (now : Time) : Int :=
  let active := (db.policies.filter fun row =>
    row.status == .published && row.isActive && row.effectiveAt.all (· ≤ now)).insertionSort
      fun row row' => row.precedes row'
  match active.head? with
  | none => max 1 (totalXp / 100 + 1)
  | some policy =>
    let reached := db.thresholds.filter fun row =>
      row.policyVersionId == policy.id && decide (row.requiredXp ≤ max 0 totalXp)
    max 1 ((reached.map (·.level)).max?.getD 1 : Nat)

/-- The XP of a user over all ledger rows. -/
def GrowthDb.totalXp (db : GrowthDb) (userId : UserId) : Int :=
  ((db.xpLedger.filter fun row => row.userId == userId).map (·.amount)).sum

/-- Write the total and the level of a user, in a new row if there is none. -/
def GrowthDb.writeLevel (db : GrowthDb) (userId : UserId) (now : Time) : GrowthDb :=
  let total := db.totalXp userId
  let level := levelForTotalXp db total now
  let levels := if db.levels.any (·.userId == userId) then db.levels
    else db.levels ++ [{ userId := userId }]
  { db with
    levels := patch (·.userId == userId) ({ · with totalXp := total, level := level }) levels }

/-- `grant_xp`; `ledgerId` is the identifier it draws. -/
def grantXp (db : GrowthDb) (userId : UserId) (eventId : EventId) (ruleKey : String)
    (amount : Int) (ledgerId : LedgerId) (now : Time) : Except Failure (GrowthDb × XpLedger) :=
  match db.xpLedger.find? (fun row => row.entry.1 == (userId, eventId, ruleKey)) with
  | some existing => .ok (db, existing)
  | none => do
    let row : XpLedger :=
      { id := ledgerId, userId := userId, eventId := eventId, ruleKey := ruleKey,
        amount := amount, createdAt := now }
    ensure (∀ row' ∈ db.xpLedger, row'.id ≠ ledgerId) (.integrity "xp_ledger_pkey")
    let inserted : GrowthDb := { db with xpLedger := db.xpLedger ++ [row] }
    return (inserted.writeLevel userId now, row)

/-- `grant_reward`; `grantId` is the identifier it draws. -/
def grantReward (db : GrowthDb) (userId : UserId) (rewardId : RewardId)
    (sourceEventId : EventId) (ruleKey : String) (grantId : String) (now : Time) :
    Except Failure (GrowthDb × RewardGrant) :=
  match db.rewardGrants.find? (fun row => row.entry.1 == (userId, sourceEventId, ruleKey)) with
  | some existing => .ok (db, existing)
  | none => do
    let notPublished : Failure :=
      .app ⟨409, "REWARD_NOT_PUBLISHED", "공개된 보상을 찾을 수 없습니다."⟩
    let reward ← orFail (db.rewards.find? (fun row => row.id == rewardId)) notPublished
    ensure (reward.status = .published) notPublished
    let grant : RewardGrant :=
      { id := grantId, userId := userId, rewardId := rewardId, sourceEventId := sourceEventId,
        ruleKey := ruleKey, grantedAt := now }
    ensure (∀ row ∈ db.rewardGrants, row.id ≠ grantId) (.integrity "reward_grants_pkey")
    return ({ db with rewardGrants := db.rewardGrants ++ [grant] }, grant)

/-- `grant_points`, on the growth tables. -/
def grantGrowthPoints (db : GrowthDb) (userId : UserId) (sourceEventId : EventId)
    (ruleKey : String) (amount : Int) (description : String) (metadata : JsonObject)
    (ledgerId : LedgerId) : Except Failure (GrowthDb × PointLedger) := do
  let (points, ledger) ← grantPoints db.points userId sourceEventId ruleKey amount
    (some description) (some metadata) none ledgerId
  return ({ db with points := points }, ledger)

/-- The tables after a grant that is skipped when its amount is zero. -/
def unlessZero {ρ : Type} (amount : Int) (db : GrowthDb) (grant : Except Failure (GrowthDb × ρ)) :
    Except Failure GrowthDb :=
  if amount = 0 then .ok db else Prod.fst <$> grant

section

variable {db db' : GrowthDb} {userId : UserId} {eventId : EventId} {ruleKey : String}
  {amount : Int}

theorem grantXp_ok {ledgerId : LedgerId} {now : Time} {row : XpLedger}
    (h : grantXp db userId eventId ruleKey amount ledgerId now = .ok (db', row)) :
    ∃ xpLedger levels, db' = { db with xpLedger := xpLedger, levels := levels } ∧
      db'.xpEntries = addEntry db.xpEntries (userId, eventId, ruleKey) amount := by
  unfold grantXp at h
  split at h
  · rename_i existing hfind
    obtain ⟨rfl, -⟩ := Prod.mk.inj (Except.ok.inj h)
    obtain ⟨hmem, hkey⟩ := mem_of_find_eq_some (g := fun row : XpLedger => row.entry.1) hfind
    refine ⟨_, _, rfl, (addEntry_of_mem ?_ _).symm⟩
    exact List.mem_map.mpr ⟨existing.entry, List.mem_map_of_mem hmem, hkey⟩
  · rename_i hnone
    simp only [bind_ok, ensure_ok, exists_const, pure_ok, Prod.mk.injEq] at h
    obtain ⟨-, rfl, -⟩ := h
    refine ⟨_, _, rfl, ?_⟩
    have hnew := find_eq_none_iff (g := fun row : XpLedger => row.entry.1).mp hnone
    rw [addEntry_of_notMem (by simpa [GrowthDb.xpEntries] using hnew)]
    simp [GrowthDb.xpEntries, GrowthDb.writeLevel, XpLedger.entry]

/-- A grant is the row found under its key, or a new row of a published reward. -/
theorem grantReward_cases {rewardId : RewardId} {grantId : String} {now : Time} {row : RewardGrant}
    (h : grantReward db userId rewardId eventId ruleKey grantId now = .ok (db', row)) :
    db.rewardGrants.find? (fun row => row.entry.1 == (userId, eventId, ruleKey)) = some row ∧
      db' = db ∨
    db.rewardGrants.find? (fun row => row.entry.1 == (userId, eventId, ruleKey)) = none ∧
      (∃ reward, db.rewards.find? (fun row => row.id == rewardId) = some reward ∧
        reward.status = .published) ∧
      (∀ row' ∈ db.rewardGrants, row'.id ≠ grantId) ∧
      row = { id := grantId, userId := userId, rewardId := rewardId, sourceEventId := eventId,
              ruleKey := ruleKey, grantedAt := now } ∧
      db' = { db with rewardGrants := db.rewardGrants ++ [row] } := by
  unfold grantReward at h
  split at h
  · rename_i existing hfind
    obtain ⟨rfl, rfl⟩ := Prod.mk.inj (Except.ok.inj h)
    exact .inl ⟨hfind, rfl⟩
  · rename_i hnone
    simp only [bind_ok, orFail_ok, ensure_ok, exists_const, pure_ok, Prod.mk.injEq] at h
    obtain ⟨reward, hreward, hpublished, hfresh, rfl, rfl⟩ := h
    exact .inr ⟨hnone, ⟨reward, hreward, hpublished⟩, hfresh, rfl, rfl⟩

theorem grantReward_ok {rewardId : RewardId} {grantId : String} {now : Time} {row : RewardGrant}
    (h : grantReward db userId rewardId eventId ruleKey grantId now = .ok (db', row)) :
    ∃ rewardGrants, db' = { db with rewardGrants := rewardGrants } ∧
      db'.rewardEntries = addEntry db.rewardEntries (userId, eventId, ruleKey) rewardId := by
  rcases grantReward_cases h with ⟨hfind, rfl⟩ | ⟨hnone, -, -, rfl, rfl⟩
  · obtain ⟨hmem, hkey⟩ := mem_of_find_eq_some (g := fun row : RewardGrant => row.entry.1) hfind
    refine ⟨_, rfl, (addEntry_of_mem ?_ _).symm⟩
    exact List.mem_map.mpr ⟨row.entry, List.mem_map_of_mem hmem, hkey⟩
  · refine ⟨_, rfl, ?_⟩
    have hnew := find_eq_none_iff (g := fun row : RewardGrant => row.entry.1).mp hnone
    rw [addEntry_of_notMem (by simpa [GrowthDb.rewardEntries] using hnew)]
    simp [GrowthDb.rewardEntries, RewardGrant.entry]

theorem grantReward_row {rewardId : RewardId} {grantId : String} {now : Time} {row : RewardGrant}
    (h : grantReward db userId rewardId eventId ruleKey grantId now = .ok (db', row)) :
    row.entry.1 = (userId, eventId, ruleKey) ∧
      (db' = db ∧ row ∈ db.rewardGrants ∨
        db' = { db with rewardGrants := db.rewardGrants ++ [row] } ∧ row.claimedAt = none ∧
          ∃ reward, db.rewards.find? (fun row => row.id == rewardId) = some reward) := by
  rcases grantReward_cases h with ⟨hfind, rfl⟩ | ⟨-, ⟨reward, hreward, -⟩, -, rfl, rfl⟩
  · obtain ⟨hmem, hkey⟩ := mem_of_find_eq_some (g := fun row : RewardGrant => row.entry.1) hfind
    exact ⟨hkey, .inl ⟨rfl, hmem⟩⟩
  · exact ⟨rfl, .inr ⟨rfl, rfl, reward, hreward⟩⟩

theorem grantReward_new {rewardId : RewardId} {reward : RewardCatalog} {grantId : String}
    (hnone : db.rewardGrants.find? (fun row => row.entry.1 == (userId, eventId, ruleKey)) = none)
    (hreward : db.rewards.find? (fun row => row.id == rewardId) = some reward)
    (hpublished : reward.status = .published) (hfresh : ∀ row ∈ db.rewardGrants, row.id ≠ grantId)
    (now : Time) :
    grantReward db userId rewardId eventId ruleKey grantId now =
      .ok ({ db with rewardGrants := db.rewardGrants ++
        [{ id := grantId, userId := userId, rewardId := rewardId, sourceEventId := eventId,
           ruleKey := ruleKey, grantedAt := now }] },
        { id := grantId, userId := userId, rewardId := rewardId, sourceEventId := eventId,
          ruleKey := ruleKey, grantedAt := now }) := by
  simp only [grantReward, hnone, bind_ok, orFail_ok, ensure_ok, exists_const, pure_ok]
  exact ⟨reward, hreward, hpublished, hfresh, trivial⟩

theorem findLedger_eq (points : PointDb) : points.findLedger userId eventId ruleKey =
    points.ledger.find? (fun row => row.entry.1 == (userId, eventId, ruleKey)) := by
  rw [PointDb.findLedger]
  congr 1
  funext row
  rw [Bool.eq_iff_iff]
  simp [PointLedger.entry, and_assoc]

theorem grantPoints_ok {points points' : PointDb} {description : Option String}
    {metadata : Option JsonObject} {expiresAt : Option Time} {ledgerId : LedgerId}
    {row : PointLedger}
    (h : grantPoints points userId eventId ruleKey amount description metadata expiresAt ledgerId =
      .ok (points', row)) :
    ∃ balances ledger, points' = { points with balances := balances, ledger := ledger } ∧
      ledger.map PointLedger.entry =
        addEntry (points.ledger.map PointLedger.entry) (userId, eventId, ruleKey) amount := by
  simp only [grantPoints, bind_ok, ensure_ok, exists_const, findLedger_eq] at h
  obtain ⟨-, h⟩ := h
  split at h
  · rename_i existing hfind
    obtain ⟨rfl, -⟩ := Prod.mk.inj (pure_ok.mp h)
    obtain ⟨hmem, hkey⟩ := mem_of_find_eq_some (g := fun row : PointLedger => row.entry.1) hfind
    refine ⟨_, _, rfl, (addEntry_of_mem ?_ _).symm⟩
    exact List.mem_map.mpr ⟨existing.entry, List.mem_map_of_mem hmem, hkey⟩
  · rename_i hnone
    simp only [bind_ok, pure_ok, Prod.mk.injEq] at h
    obtain ⟨inserted, hins, written, hwrite, rfl, -⟩ := h
    obtain ⟨-, -, rfl⟩ := insertLedger_ok.mp hins
    obtain ⟨-, rfl⟩ := writeBalance_ok.mp hwrite
    have hnew := find_eq_none_iff (g := fun row : PointLedger => row.entry.1).mp hnone
    have hcreated : ∀ db : PointDb, (db.getOrCreatePointBalanceForUpdate userId).1 =
        { db with balances := (db.getOrCreatePointBalanceForUpdate userId).1.balances } := by
      intro db
      unfold PointDb.getOrCreatePointBalanceForUpdate
      split <;> rfl
    rw [hcreated]
    refine ⟨_, _, rfl, ?_⟩
    rw [addEntry_of_notMem (by simpa using hnew), map_patch (by intro _; rfl)]
    simp [PointLedger.entry]

theorem grantGrowthPoints_ok {description : String} {metadata : JsonObject} {ledgerId : LedgerId}
    {row : PointLedger}
    (h : grantGrowthPoints db userId eventId ruleKey amount description metadata ledgerId =
      .ok (db', row)) :
    ∃ balances ledger,
      db' = { db with points := { db.points with balances := balances, ledger := ledger } } ∧
      db'.pointEntries = addEntry db.pointEntries (userId, eventId, ruleKey) amount := by
  simp only [grantGrowthPoints, bind_ok, Prod.exists, pure_ok, Prod.mk.injEq] at h
  obtain ⟨points, ledger, hgrant, rfl, -⟩ := h
  obtain ⟨balances, rows, rfl, hrows⟩ := grantPoints_ok hgrant
  exact ⟨_, _, rfl, hrows⟩

theorem unlessZero_ok {ρ : Type} {grant : Except Failure (GrowthDb × ρ)} :
    unlessZero amount db grant = .ok db' ↔
      amount = 0 ∧ db = db' ∨ amount ≠ 0 ∧ ∃ r, grant = .ok (db', r) := by
  unfold unlessZero
  by_cases h : amount = 0 <;> simp [h]

end

/-- Nothing but grants, each under a key of its own, tells the tables apart. -/
structure Grants (db db' : GrowthDb) : Prop where
  events : db'.events = db.events
  missions : db'.missions = db.missions
  progress : db'.progress = db.progress
  xp : (db.xpEntries.map Prod.fst).Nodup → (db'.xpEntries.map Prod.fst).Nodup
  points : (db.pointEntries.map Prod.fst).Nodup → (db'.pointEntries.map Prod.fst).Nodup

namespace Grants

variable {db db' db'' : GrowthDb}

theorem refl (db : GrowthDb) : Grants db db := ⟨rfl, rfl, rfl, id, id⟩

theorem trans (h : Grants db db') (h' : Grants db' db'') : Grants db db'' :=
  ⟨h'.events.trans h.events, h'.missions.trans h.missions, h'.progress.trans h.progress,
    h'.xp ∘ h.xp, h'.points ∘ h.points⟩

theorem of_grantXp {userId : UserId} {eventId : EventId} {ruleKey : String} {amount : Int}
    {ledgerId : LedgerId} {now : Time} {row : XpLedger}
    (h : grantXp db userId eventId ruleKey amount ledgerId now = .ok (db', row)) :
    Grants db db' := by
  obtain ⟨xpLedger, levels, rfl, hentries⟩ := grantXp_ok h
  refine ⟨rfl, rfl, rfl, ?_, id⟩
  intro hnodup
  rw [hentries]
  exact nodup_addEntry hnodup _ _

theorem of_grantReward {userId : UserId} {eventId : EventId} {ruleKey : String}
    {rewardId : RewardId} {grantId : String} {now : Time} {row : RewardGrant}
    (h : grantReward db userId rewardId eventId ruleKey grantId now = .ok (db', row)) :
    Grants db db' := by
  obtain ⟨rewardGrants, rfl, -⟩ := grantReward_ok h
  exact ⟨rfl, rfl, rfl, id, id⟩

theorem of_grantPoints {userId : UserId} {eventId : EventId} {ruleKey : String} {amount : Int}
    {description : String} {metadata : JsonObject} {ledgerId : LedgerId} {row : PointLedger}
    (h : grantGrowthPoints db userId eventId ruleKey amount description metadata ledgerId =
      .ok (db', row)) : Grants db db' := by
  obtain ⟨balances, ledger, rfl, hentries⟩ := grantGrowthPoints_ok h
  refine ⟨rfl, rfl, rfl, id, ?_⟩
  intro hnodup
  rw [hentries]
  exact nodup_addEntry hnodup _ _

theorem of_unlessZero {ρ : Type} {amount : Int} {grant : Except Failure (GrowthDb × ρ)}
    (h : unlessZero amount db grant = .ok db') (hgrant : ∀ r, grant = .ok (db', r) → Grants db db') :
    Grants db db' := by
  rcases unlessZero_ok.mp h with ⟨-, rfl⟩ | ⟨-, r, hr⟩
  · exact refl db
  · exact hgrant r hr

end Grants

end Fanfolio
