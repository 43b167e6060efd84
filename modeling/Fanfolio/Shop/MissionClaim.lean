import Fanfolio.Shop.PackRewards
import Mathlib.Data.List.Infix
import Mathlib.Data.List.TakeWhile

/-!
# Claiming the rewards of a mission

A claim of a mission claims every open grant of the fan under the mission. Each grant is committed
before the next one is looked at, so a grant that is refused leaves the ones before it claimed.
-/

namespace Fanfolio

open Framework

def RewardGrant.claimedAtTime (now : Time) (grant : RewardGrant) : RewardGrant :=
  { grant with claimedAt := some now }

/-- A completed row of the fan on the mission that is not marked as claimed. -/
def MissionProgress.Awaits (userId : UserId) (missionId : MissionId) (row : MissionProgress) : Prop :=
  row.userId = userId ∧ row.missionId = missionId ∧ row.completedAt.isSome ∧ row.claimedAt.isNone

instance (userId : UserId) (missionId : MissionId) (row : MissionProgress) :
    Decidable (row.Awaits userId missionId) := by
  unfold MissionProgress.Awaits
  infer_instance

/-- An unclaimed grant of the fan under the rules of the mission. -/
structure RewardGrant.AwaitsClaim (userId : UserId) (missionId : MissionId) (row : RewardGrant) :
    Prop where
  userId : row.userId = userId
  rule : ∃ periodKey, row.ruleKey = "mission:" ++ missionId ++ ":" ++ periodKey
  claimedAt : row.claimedAt = none
  revokedAt : row.revokedAt = none

/-- All unclaimed grants of the mission are claimed, together with no other rows than the query
selects, and every completed row of progress is marked. -/
structure ClaimedWhole (db db' : ShopDb) (userId : UserId) (missionId : MissionId) (now : Time) :
    Prop where
  claims : ∀ row ∈ db.rewardGrants, row.AwaitsClaim userId missionId →
    row.claimedAtTime now ∈ db'.rewardGrants
  grants : db'.rewardGrants = db.rewardGrants.map fun row =>
    if row ∈ db.missionGrants userId missionId then row.claimedAtTime now else row
  progress : db'.progress = db.progress.map fun row =>
    if row.Awaits userId missionId then { row with claimedAt := some now } else row

/-- What the answer to a claim promises about the tables after it. -/
def ClaimIsAtomic (db : ShopDb) (userId : UserId) (missionId : MissionId) (now : Time) :
    ShopDb × Option Failure → Prop
  | (db', none) => ClaimedWhole db db' userId missionId now
  | (db', some _) => db'.rewardGrants = db.rewardGrants ∧ db'.progress = db.progress

namespace ShopDb

/-- The reward of a grant is in the catalogue, and published. -/
def offers (db : ShopDb) (grant : RewardGrant) : Bool :=
  (db.rewards.find? (fun row => row.id == grant.rewardId)).any (·.status == .published)

/-- The tables with some grants claimed. -/
def claimAll (db : ShopDb) (grants : List RewardGrant) (now : Time) : ShopDb :=
  { db with
    rewardGrants := patch (fun row => grants.any (·.id == row.id)) (·.claimedAtTime now)
      db.rewardGrants }

/-- A grant of the fan that can be claimed. -/
structure IsOpen (db : ShopDb) (userId : UserId) (grant : RewardGrant) : Prop where
  mem : grant ∈ db.rewardGrants
  userId : grant.userId = userId
  claimedAt : grant.claimedAt = none
  revokedAt : grant.revokedAt = none

end ShopDb

/-- The mission is there, the reward of the grant that is claimed first is published, and the
reward of another one is not. -/
def RefusedMidway (db : ShopDb) (userId : UserId) (missionId : MissionId)
    (order : List RewardGrant) : Prop :=
  (∃ row ∈ db.missions, row.id = missionId) ∧
    (∃ grant ∈ (scan order (db.missionGrants userId missionId)).head?, db.offers grant) ∧
    ∃ grant ∈ db.missionGrants userId missionId, db.offers grant = false

section

variable {db : ShopDb} {userId : UserId} {missionId : MissionId} {grant : RewardGrant} {now : Time}

/-- A pattern that ends in a wildcard matches every text that begins with the rest of it. -/
theorem likePattern_append {start : List Char} (hplain : '\\' ∉ start) (rest : List Char) :
    likePattern (start ++ ['%']) (start ++ rest) := by
  induction start with
  | nil =>
    simp only [List.nil_append, likePattern, List.any_eq_true, List.mem_tails]
    exact ⟨[], List.nil_suffix, rfl⟩
  | cons c start ih =>
    simp only [List.mem_cons, not_or] at hplain
    have hrest : likePattern (start ++ ['%']) (start ++ rest) := ih hplain.2
    by_cases hany : c = '%'
    · subst hany
      simp only [List.cons_append, likePattern, List.any_eq_true, List.mem_tails]
      exact ⟨_, List.suffix_cons _ _, hrest⟩
    by_cases hone : c = '_'
    · subst hone
      simpa [likePattern] using hrest
    rw [List.cons_append, List.cons_append, likePattern.eq_8 _ _ _ _ hany hone]
    · simpa using hrest
    · exact fun _ _ heq => absurd heq.symm hplain.1

/-- The query of a claim selects all the unclaimed grants of the mission. -/
theorem missionGrants_of_awaits (hplain : '\\' ∉ missionId.toList)
    (hmem : grant ∈ db.rewardGrants) (h : grant.AwaitsClaim userId missionId) :
    grant ∈ db.missionGrants userId missionId := by
  obtain ⟨periodKey, hrule⟩ := h.rule
  have hstart : '\\' ∉ ("mission:" ++ missionId ++ ":").toList := by
    simp [hplain]
  have hlike := likePattern_append hstart periodKey.toList
  have hpattern : ("mission:" ++ missionId ++ ":%").toList =
      ("mission:" ++ missionId ++ ":").toList ++ ['%'] := by
    simp
  have hkey : ("mission:" ++ missionId ++ ":" ++ periodKey).toList =
      ("mission:" ++ missionId ++ ":").toList ++ periodKey.toList := String.toList_append
  refine List.mem_filter.mpr ⟨hmem, ?_⟩
  rw [hpattern, hrule, hkey, hlike]
  simp [h.userId, h.claimedAt, h.revokedAt]

theorem claimAll_nil : db.claimAll [] now = db := by
  simp [ShopDb.claimAll, patch_of_forall_not]

/-- A claim that is repeated at the same time writes nothing new. -/
theorem claimAll_cons (grants : List RewardGrant) :
    (db.claimAll [grant] now).claimAll grants now = db.claimAll (grant :: grants) now := by
  simp only [ShopDb.claimAll, ShopDb.mk.injEq, PassDb.mk.injEq, GrowthDb.mk.injEq, and_true,
    true_and, patch, List.map_map]
  apply List.map_congr_left
  intro row _
  by_cases hfirst : grant.id = row.id
  · simp [hfirst, RewardGrant.claimedAtTime]
  · simp [hfirst]

theorem claimAll_offers (grants : List RewardGrant) (row : RewardGrant) :
    (db.claimAll grants now).offers row = db.offers row := rfl

theorem claimAll_ids (grants : List RewardGrant) :
    (db.claimAll grants now).rewardGrants.map (·.id) = db.rewardGrants.map (·.id) :=
  map_patch (f := (·.claimedAtTime now)) (fun _ => rfl) db.rewardGrants

/-- The claim of one grant leaves the other ones open. -/
theorem ShopDb.IsOpen.claimAll {row : RewardGrant} (h : db.IsOpen userId row)
    (hne : grant.id ≠ row.id) : (db.claimAll [grant] now).IsOpen userId row :=
  { h with mem := mem_patch_of_not h.mem (by simp [hne]) }

/-- An open grant is refused exactly if its reward is not published. -/
theorem claimLocked_open (h : grant.claimedAt = none) :
    claimLocked db grant now = if db.offers grant then .ok (db.claimAll [grant] now)
      else .error (.app ⟨404, "REWARD_GRANT_NOT_FOUND", "수령할 보상을 찾을 수 없습니다."⟩) := by
  have hpatch : patch (·.id == grant.id) ({ · with claimedAt := some now }) db.rewardGrants =
      (db.claimAll [grant] now).rewardGrants := by
    apply List.map_congr_left
    intro row _
    simp only [List.any_cons, List.any_nil, Bool.or_false, BEq.comm (a := row.id)]
    rfl
  cases hoffers : db.offers grant with
  | true =>
    rw [ShopDb.offers] at hoffers
    simp only [claimLocked, ensure, hoffers, h, if_true, hpatch]
    rfl
  | false =>
    rw [ShopDb.offers] at hoffers
    simp only [claimLocked, ensure, hoffers, Bool.false_eq_true, if_false]
    rfl

theorem claimableGrant_open (hids : (db.rewardGrants.map (·.id)).Nodup)
    (h : db.IsOpen userId grant) : db.claimableGrant userId grant.id = some grant := by
  have hfilter : db.rewardGrants.filter (fun row => row.id == grant.id) = [grant] :=
    filter_of_mem hids h.mem
  simp only [ShopDb.claimableGrant, Bool.and_assoc]
  rw [find_and, hfilter]
  simp [h.userId, h.revokedAt]

theorem claimRewardGrant_open (hids : (db.rewardGrants.map (·.id)).Nodup)
    (h : db.IsOpen userId grant) :
    claimRewardGrant db userId grant.id now = if db.offers grant then .ok (db.claimAll [grant] now)
      else .error (.app ⟨404, "REWARD_GRANT_NOT_FOUND", "수령할 보상을 찾을 수 없습니다."⟩) := by
  rw [claimRewardGrant, claimableGrant_open hids h]
  exact claimLocked_open h.claimedAt

/-- The loop claims the grants before the first one that is refused. -/
theorem claimGrants_eq (hids : (db.rewardGrants.map (·.id)).Nodup) {grants : List RewardGrant}
    (hopen : ∀ grant ∈ grants, db.IsOpen userId grant) (hnodup : (grants.map (·.id)).Nodup) :
    claimGrants userId now grants db = (db.claimAll (grants.takeWhile db.offers) now,
      if ∀ grant ∈ grants, db.offers grant then none
      else some (.app ⟨404, "REWARD_GRANT_NOT_FOUND", "수령할 보상을 찾을 수 없습니다."⟩)) := by
  induction grants generalizing db with
  | nil => simp [claimGrants, claimAll_nil]
  | cons grant grants ih =>
    obtain ⟨hnotin, hnodup⟩ := List.nodup_cons.mp hnodup
    rw [claimGrants, claimRewardGrant_open hids (hopen grant List.mem_cons_self)]
    cases hoffers : db.offers grant with
    | false => simp [hoffers, claimAll_nil]
    | true =>
      have hrest : ∀ row ∈ grants, (db.claimAll [grant] now).IsOpen userId row := by
        intro row hrow
        refine (hopen row (List.mem_cons_of_mem _ hrow)).claimAll fun heq => hnotin ?_
        show grant.id ∈ grants.map (·.id)
        rw [heq]
        exact List.mem_map_of_mem hrow
      have hids' : ((db.claimAll [grant] now).rewardGrants.map (·.id)).Nodup := by
        rw [claimAll_ids]
        exact hids
      rw [if_pos rfl]
      show claimGrants userId now grants (db.claimAll [grant] now) = _
      rw [ih hids' hrest hnodup, claimAll_cons, List.takeWhile_cons_of_pos hoffers]
      simp only [claimAll_offers, List.forall_mem_cons, hoffers, true_and]
      rfl

variable {order : List RewardGrant}

theorem missionGrants_open : ∀ grant ∈ scan order (db.missionGrants userId missionId),
    db.IsOpen userId grant := by
  intro grant hgrant
  have hmem := List.mem_filter.mp ((scan_perm order _).mem_iff.mp hgrant)
  simp only [Bool.and_eq_true, beq_iff_eq] at hmem
  exact ⟨hmem.1, hmem.2.1.1.1, hmem.2.1.2, hmem.2.2⟩

theorem missionGrants_nodup (hids : (db.rewardGrants.map (·.id)).Nodup) :
    ((scan order (db.missionGrants userId missionId)).map (·.id)).Nodup :=
  ((scan_perm order _).map _).nodup_iff.mpr (hids.sublist (List.filter_sublist.map _))

/-- Claiming the grants of the mission in any order claims these rows and no others. -/
theorem claimAll_missionGrants (hids : (db.rewardGrants.map (·.id)).Nodup) :
    (db.claimAll (scan order (db.missionGrants userId missionId)) now).rewardGrants =
      db.rewardGrants.map fun row =>
        if row ∈ db.missionGrants userId missionId then row.claimedAtTime now else row := by
  apply List.map_congr_left
  intro row hrow
  have hmatch : (scan order (db.missionGrants userId missionId)).any (·.id == row.id) ↔
      row ∈ db.missionGrants userId missionId := by
    rw [← (scan_perm order (db.missionGrants userId missionId)).mem_iff, List.any_eq_true]
    constructor
    · rintro ⟨grant, hgrant, hid⟩
      have hopen := missionGrants_open grant hgrant
      exact eq_of_unique hids hopen.mem hrow (beq_iff_eq.mp hid) ▸ hgrant
    · exact fun hmem => ⟨row, hmem, beq_self_eq_true _⟩
  simp only [hmatch]

theorem claimAll_claims (hids : (db.rewardGrants.map (·.id)).Nodup)
    (hplain : '\\' ∉ missionId.toList) : ∀ row ∈ db.rewardGrants, row.AwaitsClaim userId missionId →
      row.claimedAtTime now ∈
        (db.claimAll (scan order (db.missionGrants userId missionId)) now).rewardGrants := by
  intro row hrow hawaits
  rw [claimAll_missionGrants hids]
  refine List.mem_map.mpr ⟨row, hrow, ?_⟩
  rw [if_pos (missionGrants_of_awaits hplain hrow hawaits)]

/-- The progress after a claim. -/
theorem patch_progress : patch (fun row => row.userId == userId && row.missionId == missionId &&
      row.completedAt.isSome && row.claimedAt.isNone) ({ · with claimedAt := some now }) db.progress =
    db.progress.map fun row =>
      if row.Awaits userId missionId then { row with claimedAt := some now } else row := by
  apply List.map_congr_left
  intro row _
  simp only [MissionProgress.Awaits, Bool.and_eq_true, beq_iff_eq, and_assoc]

/-- A claim that raises has changed no grant exactly if the first grant was refused. -/
theorem claimAll_takeWhile_iff {grants : List RewardGrant}
    (hopen : ∀ grant ∈ grants, db.IsOpen userId grant) :
    (db.claimAll (grants.takeWhile db.offers) now).rewardGrants = db.rewardGrants ↔
      ∀ grant ∈ grants.head?, db.offers grant = false := by
  cases grants with
  | nil => simp [claimAll_nil]
  | cons grant grants =>
    simp only [List.head?_cons, Option.mem_some_iff, forall_eq']
    cases hoffers : db.offers grant with
    | false => simp [hoffers, claimAll_nil]
    | true =>
      have hgrant := hopen grant List.mem_cons_self
      simp only [List.takeWhile_cons_of_pos hoffers, Bool.true_eq_false, iff_false]
      intro heq
      have hfixed : grant.claimedAtTime now = grant := fixed_of_patch heq hgrant.mem (by simp)
      have hclaimed : grant.claimedAt = some now := congrArg RewardGrant.claimedAt hfixed.symm
      simp [hgrant.claimedAt] at hclaimed

/-- A claim is all or nothing exactly if no grant is refused after another one was claimed. The
identifiers of missions are letters, digits and an underscore. -/
theorem claimIsAtomic_iff (db : ShopDb) (userId : UserId) (missionId : MissionId)
    (order : List RewardGrant) (now : Time) (hids : (db.rewardGrants.map (·.id)).Nodup)
    (hplain : ∀ row ∈ db.missions, '\\' ∉ row.id.toList) :
    ClaimIsAtomic db userId missionId now (claimMissionRewards db userId missionId order now) ↔
      ¬RefusedMidway db userId missionId order := by
  unfold claimMissionRewards
  by_cases hmission : ∀ row ∈ db.missions, row.id ≠ missionId
  · rw [if_pos hmission]
    refine iff_of_true ⟨rfl, rfl⟩ ?_
    rintro ⟨⟨row, hrow, hid⟩, -⟩
    exact hmission row hrow hid
  rw [if_neg hmission]
  by_cases hnone : db.missionGrants userId missionId = []
  · rw [if_pos hnone]
    refine iff_of_true ⟨rfl, rfl⟩ ?_
    rintro ⟨-, -, grant, hgrant, -⟩
    simp [hnone] at hgrant
  have hexists : ∃ row ∈ db.missions, row.id = missionId := by simpa using hmission
  have hperm := scan_perm order (db.missionGrants userId missionId)
  rw [if_neg hnone, claimGrants_eq hids missionGrants_open (missionGrants_nodup hids)]
  by_cases hall : ∀ grant ∈ scan order (db.missionGrants userId missionId), db.offers grant
  · rw [if_pos hall, List.takeWhile_eq_self_iff.mpr hall]
    have hmissionId : '\\' ∉ missionId.toList := by
      obtain ⟨row, hrow, rfl⟩ := hexists
      exact hplain row hrow
    refine iff_of_true ⟨claimAll_claims hids hmissionId, claimAll_missionGrants hids,
      patch_progress⟩ ?_
    rintro ⟨-, -, grant, hgrant, hrefused⟩
    simp [hall grant (hperm.mem_iff.mpr hgrant)] at hrefused
  · have hrefused : ∃ grant ∈ db.missionGrants userId missionId, db.offers grant = false := by
      simpa [hperm.mem_iff] using hall
    rw [if_neg hall]
    simp only [ClaimIsAtomic, claimAll_takeWhile_iff missionGrants_open, RefusedMidway, hexists,
      hrefused, and_true, true_and, not_exists, not_and, Bool.not_eq_true]
    exact ⟨fun h => h.1, fun h => ⟨h, rfl⟩⟩

end

namespace MissionClaimExample

def mission : MissionDefinition :=
  { id := "mission_1", title := "Visit", eventKind := "visit", targetValue := 1, recurrence := .daily
    target_pos := Nat.one_pos }

/-- The grant for one day. -/
def grant (id rewardId periodKey : String) : RewardGrant :=
  { id := id, userId := "fan_a", rewardId := rewardId, sourceEventId := "evt_" ++ periodKey
    ruleKey := "mission:mission_1:" ++ periodKey, grantedAt := 0 }

def completed (id periodKey : String) : MissionProgress :=
  { id := id, userId := "fan_a", missionId := "mission_1", periodKey := periodKey, currentValue := 1
    completedAt := some 0, updatedAt := 0 }

/-- A fan completed a daily mission twice, and its reward was another one on the second day. -/
def db (status : DefinitionStatus) : ShopDb :=
  { openShop [] [] with
    rewards := [{ id := "badge_a", status := .published }, { id := "badge_b", status := status }]
    missions := [mission]
    rewardGrants := [grant "grant_1" "badge_a" "2026-08-01", grant "grant_2" "badge_b" "2026-08-02"]
    progress := [completed "progress_1" "2026-08-01", completed "progress_2" "2026-08-02"] }

end MissionClaimExample

open MissionClaimExample in
theorem claimIsAtomic_iff_twoDays : ClaimIsAtomic (MissionClaimExample.db .published) "fan_a"
    "mission_1" 5
    (claimMissionRewards (MissionClaimExample.db .published) "fan_a" "mission_1" [] 5) := by
  refine (claimIsAtomic_iff _ "fan_a" "mission_1" [] 5 (by decide) (by decide)).mpr ?_
  rintro ⟨-, -, grant, hgrant, hrefused⟩
  revert grant
  decide

open MissionClaimExample in
/-- The second reward was disabled: the claim raises, and the first grant is claimed. -/
theorem claimIsAtomic_fails : ¬ClaimIsAtomic (MissionClaimExample.db .disabled) "fan_a"
    "mission_1" 5
    (claimMissionRewards (MissionClaimExample.db .disabled) "fan_a" "mission_1" [] 5) := by
  intro h
  exact absurd h.1 (by decide)

end Fanfolio
