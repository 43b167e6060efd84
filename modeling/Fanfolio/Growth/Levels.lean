import Fanfolio.Framework.Checked
import Fanfolio.Framework.Run
import Fanfolio.Framework.Table
import Fanfolio.Schema
import Mathlib.Data.List.Sort

/-!
# Level policies

Administrators prepare policies and publish them, each with a time from which it holds. A
publication takes the place of the policy that was active before.
-/

namespace Fanfolio

open Framework

/-- A row of `level_thresholds`. -/
structure LevelThresholdRow where
  id : String
  policyVersionId : String
  level : Nat
  requiredXp : Nat
  label : Option String := none
deriving DecidableEq, Repr

inductive LevelPolicyStatus where
  | draft
  | published
  | disabled
deriving DecidableEq, Repr

/-- A row of `level_policy_versions`. -/
structure LevelPolicyRow where
  id : String
  name : String
  status : LevelPolicyStatus := .draft
  isActive : Bool := false
  effectiveAt : Option Time := none
deriving DecidableEq, Repr

structure LevelThresholdInput where
  level : Nat
  requiredXp : Nat
  label : Option String := none
  level_pos : 1 ≤ level

/-- `LevelPolicyCreate`. -/
structure LevelPolicyCreate where
  name : String
  thresholds : List LevelThresholdInput
  effectiveAt : Option Time := none
  name_length : 1 ≤ name.length ∧ name.length ≤ 200
  thresholds_length : 1 ≤ thresholds.length ∧ thresholds.length ≤ 100
  levels_ascending : (thresholds.map (·.level)).Pairwise (· < ·)

structure LevelDb where
  policies : List LevelPolicyRow := []
  thresholds : List LevelThresholdRow := []
deriving DecidableEq, Repr

/-- The thresholds of a new policy; `draw` gives their identifiers. -/
def LevelPolicyCreate.rows (payload : LevelPolicyCreate) (policyId : String) (draw : Nat → String) :
    List LevelThresholdRow :=
  payload.thresholds.zipIdx.map fun (threshold, i) =>
    { id := draw i, policyVersionId := policyId, level := threshold.level
      requiredXp := threshold.requiredXp, label := threshold.label }

/-- `create_level_policy`. -/
def createLevelPolicy (db : LevelDb) (payload : LevelPolicyCreate) (policyId : String)
    (draw : Nat → String) : Except Failure (LevelDb × LevelPolicyRow) := do
  let policy : LevelPolicyRow :=
    { id := policyId, name := payload.name, effectiveAt := payload.effectiveAt }
  let inserted : LevelDb :=
    { policies := db.policies ++ [policy], thresholds := db.thresholds ++ payload.rows policyId draw }
  ensure (∀ row ∈ db.policies, row.id ≠ policyId) (.integrity "level_policy_versions_pkey")
  ensure (inserted.thresholds.map LevelThresholdRow.id).Nodup (.integrity "level_thresholds_pkey")
  ensure (inserted.thresholds.map fun row => (row.policyVersionId, row.level)).Nodup
    (.integrity "uq_level_threshold_policy_level")
  return (inserted, policy)

/-- The policy as its publication leaves it. -/
def LevelPolicyRow.publishedAt (now : Time) (policy : LevelPolicyRow) : LevelPolicyRow :=
  { policy with
    status := .published, isActive := true, effectiveAt := some (policy.effectiveAt.getD now) }

/-- The tables with one policy published and no other one active. -/
def LevelDb.publishing (db : LevelDb) (policyId : String) (now : Time) : LevelDb :=
  { db with
    policies := patch (·.id == policyId) (·.publishedAt now)
      (patch (·.isActive) ({ · with isActive := false }) db.policies) }

/-- `publish_level_policy`. -/
def publishLevelPolicy (db : LevelDb) (policyId : String) (now : Time) :
    Except Failure (LevelDb × LevelPolicyRow) := do
  let policy ← orFail (db.policies.find? (·.id == policyId))
    (.app ⟨404, "RESOURCE_NOT_FOUND", "레벨 정책을 찾을 수 없습니다."⟩)
  ensure (policy.status = .draft)
    (.app ⟨409, "INVALID_LEVEL_POLICY_STATUS", "초안 정책만 공개할 수 있습니다."⟩)
  ensure (∃ row ∈ db.thresholds, row.policyVersionId = policy.id)
    (.app ⟨409, "LEVEL_POLICY_EMPTY", "레벨 기준을 하나 이상 등록해 주세요."⟩)
  return (db.publishing policy.id now, policy.publishedAt now)

/-- The order of the rows in `level_for_total_xp`: late policies first, and by identifier. -/
def LevelPolicyRow.before (a b : LevelPolicyRow) : Prop :=
  match a.effectiveAt, b.effectiveAt with
  | none, none => a.id ≤ b.id
  | none, some _ => False
  | some _, none => True
  | some s, some t => t < s ∨ t = s ∧ a.id ≤ b.id

instance (a b : LevelPolicyRow) : Decidable (a.before b) := by
  unfold LevelPolicyRow.before
  split <;> infer_instance

namespace LevelDb

/-- The policies that are in force and active. -/
def candidates (db : LevelDb) (now : Time) : List LevelPolicyRow :=
  db.policies.filter fun policy => policy.status == .published && policy.isActive &&
    policy.effectiveAt.all (· ≤ now)

/-- The policy that `level_for_total_xp` uses. -/
def effectivePolicy (db : LevelDb) (now : Time) : Option LevelPolicyRow :=
  ((db.candidates now).insertionSort LevelPolicyRow.before).head?

/-- `level_for_total_xp`. -/
def levelForTotalXp (db : LevelDb) (totalXp : Int) (now : Time) : Int :=
  match db.effectivePolicy now with
  | none => max 1 (totalXp / 100 + 1)
  | some policy =>
    let levels := (db.thresholds.filter fun row =>
      row.policyVersionId == policy.id && row.requiredXp ≤ max 0 totalXp).map (·.level)
    (levels.max?).getD 1

/-- A policy that was published and holds from `effectiveAt` on. -/
def IsPublished (db : LevelDb) (policy : LevelPolicyRow) (effectiveAt : Time) : Prop :=
  policy ∈ db.policies ∧ policy.status = .published ∧ policy.effectiveAt = some effectiveAt

/-- If any published policy is in force, the latest of them decides the level. -/
def FollowsLatest (db : LevelDb) (now : Time) : Prop :=
  (∃ policy effectiveAt, db.IsPublished policy effectiveAt ∧ effectiveAt ≤ now) →
    ∃ policy effectiveAt, db.effectivePolicy now = some policy ∧
      db.IsPublished policy effectiveAt ∧ effectiveAt ≤ now ∧
      ∀ other otherAt, db.IsPublished other otherAt → otherAt ≤ now → otherAt ≤ effectiveAt

end LevelDb

/-- A request of an administrator. -/
inductive LevelAction where
  | create (payload : LevelPolicyCreate) (policyId : String) (draw : Nat → String)
  | publish (policyId : String) (now : Time)

/-- The tables, and the time of the last publication. -/
structure LevelState where
  db : LevelDb
  publishedAt : Time

def levelStep (s : LevelState) : LevelAction → LevelState
  | .create payload policyId draw =>
    { s with db := commitOr s.db (createLevelPolicy s.db payload policyId draw) }
  | .publish policyId now =>
    match publishLevelPolicy s.db policyId now with
    | .ok (db, _) => ⟨db, now⟩
    | .error _ => s

/-- From the last publication on, the latest policy in force decides the level. -/
def LevelsLawful (s : LevelState) : Prop := ∀ now, s.publishedAt ≤ now → s.db.FollowsLatest now

/-- A publication changes no level before the policy takes effect. -/
def PublicationWaits (s : LevelState) : LevelAction → Prop
  | .publish policyId now => ∀ db policy, publishLevelPolicy s.db policyId now = .ok (db, policy) →
      ∀ t totalXp, now ≤ t → (∀ effectiveAt ∈ policy.effectiveAt, t < effectiveAt) →
        db.levelForTotalXp totalXp t = s.db.levelForTotalXp totalXp t
  | .create .. => True

/-- A published policy takes effect no earlier than the policies published before, and by the time
that it is published or that they take effect. -/
def PublishesInOrder (s : LevelState) : LevelAction → Prop
  | .publish policyId now => ∀ policy, s.db.policies.find? (·.id == policyId) = some policy →
      policy.status = .draft → (∃ row ∈ s.db.thresholds, row.policyVersionId = policy.id) →
        ∀ other otherAt, s.db.IsPublished other otherAt →
          otherAt ≤ policy.effectiveAt.getD now ∧ policy.effectiveAt.getD now ≤ max now otherAt
  | .create .. => True

/-- What every run keeps: at most one policy is active, and it is published. -/
structure LevelsKept (s : LevelState) : Prop where
  ids : (s.db.policies.map (·.id)).Nodup
  active : ∀ policy ∈ s.db.policies, policy.isActive → policy.status = .published
  single : ∀ policy ∈ s.db.policies, ∀ other ∈ s.db.policies, policy.isActive → other.isActive →
    policy = other
  dated : ∀ policy ∈ s.db.policies, policy.status = .published → policy.effectiveAt.isSome

section

variable {db db' : LevelDb} {s : LevelState} {policy : LevelPolicyRow} {policyId : String}
  {now : Time}

theorem mem_candidates : policy ∈ db.candidates now ↔ policy ∈ db.policies ∧
    policy.status = .published ∧ policy.isActive ∧ ∀ effectiveAt ∈ policy.effectiveAt,
      effectiveAt ≤ now := by
  simp only [LevelDb.candidates, List.mem_filter, Bool.and_eq_true, beq_iff_eq, Option.all_eq_true,
    decide_eq_true_eq, Option.mem_def, and_assoc]

theorem effectivePolicy_mem (h : db.effectivePolicy now = some policy) :
    policy ∈ db.candidates now :=
  (List.perm_insertionSort _ _).mem_iff.mp (List.mem_of_head? h)

theorem effectivePolicy_eq_none : db.effectivePolicy now = none ↔ db.candidates now = [] := by
  rw [LevelDb.effectivePolicy, List.head?_eq_none_iff]
  constructor
  · intro h
    exact List.perm_nil.mp (h ▸ (List.perm_insertionSort LevelPolicyRow.before _).symm)
  · intro h
    rw [h]
    rfl

theorem createLevelPolicy_ok {payload : LevelPolicyCreate} {draw : Nat → String}
    (h : createLevelPolicy db payload policyId draw = .ok (db', policy)) :
    (∀ row ∈ db.policies, row.id ≠ policyId) ∧ policy.id = policyId ∧ policy.status = .draft ∧
      policy.isActive = false ∧ db'.policies = db.policies ++ [policy] := by
  simp only [createLevelPolicy, bind_ok, ensure_ok, exists_const, pure_ok, Prod.mk.injEq] at h
  obtain ⟨hfresh, -, -, rfl, rfl⟩ := h
  exact ⟨hfresh, rfl, rfl, rfl, rfl⟩

theorem publishLevelPolicy_ok (h : publishLevelPolicy db policyId now = .ok (db', policy)) :
    ∃ draft, db.policies.find? (·.id == policyId) = some draft ∧ draft.status = .draft ∧
      (∃ row ∈ db.thresholds, row.policyVersionId = draft.id) ∧ policy = draft.publishedAt now ∧
      db' = db.publishing draft.id now := by
  simp only [publishLevelPolicy, bind_ok, orFail_ok, ensure_ok, exists_const, pure_ok,
    Prod.mk.injEq] at h
  obtain ⟨draft, hdraft, hstatus, hthresholds, rfl, rfl⟩ := h
  exact ⟨draft, hdraft, hstatus, hthresholds, rfl, rfl⟩

/-- A row after a publication is the published policy, or another one that is not active. -/
theorem mem_publishing (hids : (db.policies.map (·.id)).Nodup) {draft : LevelPolicyRow}
    (hdraft : draft ∈ db.policies) :
    policy ∈ (db.publishing draft.id now).policies ↔ policy = draft.publishedAt now ∨
      ∃ row ∈ db.policies, row.id ≠ draft.id ∧ policy = { row with isActive := false } := by
  have hrow : ∀ row : LevelPolicyRow,
      (if row.isActive then { row with isActive := false } else row) =
        { row with isActive := false } := by
    intro row
    split
    · rfl
    · rename_i hnot
      rw [Bool.not_eq_true] at hnot
      rw [← hnot]
  simp only [LevelDb.publishing, mem_patch, hrow]
  constructor
  · rintro ⟨_, ⟨row, hmem, rfl⟩, rfl⟩
    by_cases hid : row.id = draft.id
    · obtain rfl := eq_of_unique hids hmem hdraft hid
      left
      rw [if_pos (beq_iff_eq.mpr rfl)]
      rfl
    · right
      exact ⟨row, hmem, hid, by rw [if_neg (by simpa using hid)]⟩
  · rintro (rfl | ⟨row, hmem, hid, rfl⟩)
    · refine ⟨_, ⟨draft, hdraft, rfl⟩, ?_⟩
      rw [if_pos (beq_iff_eq.mpr rfl)]
      rfl
    · exact ⟨_, ⟨row, hmem, rfl⟩, by rw [if_neg (by simpa using hid)]⟩

/-- The time from which a draft holds if it is published now. -/
def LevelPolicyRow.takesEffect (draft : LevelPolicyRow) (now : Time) : Time :=
  draft.effectiveAt.getD now

theorem publishing_isPublished (hids : (db.policies.map (·.id)).Nodup) {draft : LevelPolicyRow}
    (hdraft : draft ∈ db.policies) (hstatus : draft.status = .draft) (now effectiveAt : Time) :
    (∃ policy, (db.publishing draft.id now).IsPublished policy effectiveAt) ↔
      effectiveAt = draft.takesEffect now ∨ ∃ policy, db.IsPublished policy effectiveAt := by
  simp only [LevelDb.IsPublished, mem_publishing hids hdraft]
  constructor
  · rintro ⟨policy, rfl | ⟨row, hrow, -, rfl⟩, hpublished, hat⟩
    · exact .inl (Option.some.inj hat).symm
    · exact .inr ⟨row, hrow, hpublished, hat⟩
  · rintro (rfl | ⟨row, hrow, hpublished, hat⟩)
    · exact ⟨_, .inl rfl, rfl, rfl⟩
    · have hid : row.id ≠ draft.id := by
        intro heq
        rw [eq_of_unique hids hrow hdraft heq, hstatus] at hpublished
        cases hpublished
      exact ⟨_, .inr ⟨row, hrow, hid, rfl⟩, hpublished, hat⟩

theorem publishing_candidates (hids : (db.policies.map (·.id)).Nodup) {draft : LevelPolicyRow}
    (hdraft : draft ∈ db.policies) {t : Time} :
    policy ∈ (db.publishing draft.id now).candidates t ↔
      policy = draft.publishedAt now ∧ draft.takesEffect now ≤ t := by
  rw [mem_candidates, mem_publishing hids hdraft]
  constructor
  · rintro ⟨rfl | ⟨row, -, -, rfl⟩, -, hactive, hdue⟩
    · exact ⟨rfl, hdue _ rfl⟩
    · cases hactive
  · rintro ⟨rfl, hdue⟩
    refine ⟨.inl rfl, rfl, rfl, ?_⟩
    intro effectiveAt hat
    rw [← Option.some.inj hat]
    exact hdue

/-- After a publication, the published policy decides as soon as it takes effect, and none before. -/
theorem publishing_effectivePolicy (hids : (db.policies.map (·.id)).Nodup)
    {draft : LevelPolicyRow} (hdraft : draft ∈ db.policies) (t : Time) :
    (db.publishing draft.id now).effectivePolicy t =
      if draft.takesEffect now ≤ t then some (draft.publishedAt now) else none := by
  split
  · rename_i hdue
    cases heffective : (db.publishing draft.id now).effectivePolicy t with
    | none =>
      have hmem := (publishing_candidates hids hdraft).mpr ⟨rfl, hdue⟩
      rw [effectivePolicy_eq_none.mp heffective] at hmem
      cases hmem
    | some policy =>
      rw [((publishing_candidates hids hdraft).mp (effectivePolicy_mem heffective)).1]
  · rename_i hlater
    rw [effectivePolicy_eq_none, List.eq_nil_iff_forall_not_mem]
    exact fun policy hmem => hlater ((publishing_candidates hids hdraft).mp hmem).2

/-- From a publication on, the latest policy in force decides exactly if the publication was in
order. -/
theorem publishing_lawful_iff (hids : (db.policies.map (·.id)).Nodup) {draft : LevelPolicyRow}
    (hdraft : draft ∈ db.policies) (hstatus : draft.status = .draft) :
    LevelsLawful ⟨db.publishing draft.id now, now⟩ ↔ ∀ other otherAt, db.IsPublished other otherAt →
      otherAt ≤ draft.takesEffect now ∧ draft.takesEffect now ≤ max now otherAt := by
  have hpublished := publishing_isPublished hids hdraft hstatus now
  constructor
  · intro hlawful other otherAt hother
    obtain ⟨row, hrow⟩ := (hpublished otherAt).mpr (.inr ⟨other, hother⟩)
    obtain ⟨policy, effectiveAt, heffective, hpolicy, hdue, hlatest⟩ :=
      hlawful (max now otherAt) (le_max_left _ _) ⟨row, otherAt, hrow, le_max_right _ _⟩
    rw [publishing_effectivePolicy hids hdraft] at heffective
    split at heffective
    · rename_i hle
      obtain rfl := Option.some.inj heffective
      obtain rfl : draft.takesEffect now = effectiveAt := Option.some.inj hpolicy.2.2
      exact ⟨hlatest row otherAt hrow (le_max_right _ _), hle⟩
    · cases heffective
  · rintro horder t hlate ⟨policy, effectiveAt, hpolicy, hdue⟩
    have hle : draft.takesEffect now ≤ t := by
      rcases (hpublished effectiveAt).mp ⟨policy, hpolicy⟩ with rfl | ⟨other, hother⟩
      · exact hdue
      · exact (horder other effectiveAt hother).2.trans (max_le hlate hdue)
    refine ⟨draft.publishedAt now, draft.takesEffect now, ?_, ?_, hle, ?_⟩
    · rw [publishing_effectivePolicy hids hdraft, if_pos hle]
    · exact ⟨(mem_publishing hids hdraft).mpr (.inl rfl), rfl, rfl⟩
    · intro other otherAt hother _
      rcases (hpublished otherAt).mp ⟨other, hother⟩ with rfl | ⟨row, hrow⟩
      · exact le_rfl
      · exact (horder row otherAt hrow).1

/-- A publication in order changes no level before its policy takes effect. -/
theorem publishing_waits (hkept : LevelsKept s) {draft : LevelPolicyRow}
    (hdraft : draft ∈ s.db.policies)
    (horder : ∀ other otherAt, s.db.IsPublished other otherAt →
      otherAt ≤ draft.takesEffect now ∧ draft.takesEffect now ≤ max now otherAt)
    {t : Time} (hlate : now ≤ t) (hearly : t < draft.takesEffect now) (totalXp : Int) :
    (s.db.publishing draft.id now).levelForTotalXp totalXp t = s.db.levelForTotalXp totalXp t := by
  have hafter : (s.db.publishing draft.id now).effectivePolicy t = none := by
    rw [publishing_effectivePolicy hkept.ids hdraft, if_neg (not_le.mpr hearly)]
  have hbefore : s.db.effectivePolicy t = none := by
    rw [effectivePolicy_eq_none, List.eq_nil_iff_forall_not_mem]
    intro policy hmem
    obtain ⟨hrow, hstatus, -, hdue⟩ := mem_candidates.mp hmem
    obtain ⟨effectiveAt, hat⟩ := Option.isSome_iff_exists.mp (hkept.dated policy hrow hstatus)
    have hle := (horder policy effectiveAt ⟨hrow, hstatus, hat⟩).2
    exact absurd (hle.trans (max_le hlate (hdue effectiveAt hat))) (not_le.mpr hearly)
  rw [LevelDb.levelForTotalXp, LevelDb.levelForTotalXp, hafter, hbefore]

/-- A draft decides no level. -/
theorem LevelDb.FollowsLatest.create (h : db.FollowsLatest now) {payload : LevelPolicyCreate}
    {draw : Nat → String} (hok : createLevelPolicy db payload policyId draw = .ok (db', policy)) :
    db'.FollowsLatest now := by
  obtain ⟨-, -, hstatus, -, hpolicies⟩ := createLevelPolicy_ok hok
  have hpublished : ∀ row effectiveAt, db'.IsPublished row effectiveAt ↔
      db.IsPublished row effectiveAt := by
    intro row effectiveAt
    simp only [LevelDb.IsPublished, hpolicies, List.mem_append, List.mem_singleton]
    refine ⟨?_, fun hrow => ⟨.inl hrow.1, hrow.2⟩⟩
    rintro ⟨hold | rfl, hrow⟩
    · exact ⟨hold, hrow⟩
    · rw [hstatus] at hrow
      cases hrow.1
  have hcandidates : db'.candidates now = db.candidates now := by
    rw [LevelDb.candidates, hpolicies, List.filter_append]
    simp [LevelDb.candidates, hstatus]
  unfold LevelDb.FollowsLatest LevelDb.effectivePolicy at *
  simpa only [hpublished, hcandidates] using h

theorem LevelsKept.create (h : LevelsKept s) {payload : LevelPolicyCreate} {draw : Nat → String}
    (hok : createLevelPolicy s.db payload policyId draw = .ok (db', policy)) :
    LevelsKept { s with db := db' } := by
  obtain ⟨hfresh, hid, hstatus, hinactive, hpolicies⟩ := createLevelPolicy_ok hok
  have hmem : ∀ row ∈ db'.policies, row ∈ s.db.policies ∨ row = policy := by
    intro row hrow
    rw [hpolicies, List.mem_append, List.mem_singleton] at hrow
    exact hrow
  refine ⟨?_, ?_, ?_, ?_⟩
  · rw [hpolicies]
    exact nodup_insert h.ids (by rw [hid]; exact hfresh)
  · intro row hrow hactive
    rcases hmem row hrow with hold | rfl
    · exact h.active row hold hactive
    · rw [hinactive] at hactive
      cases hactive
  · intro row hrow other hother hactive hactive'
    rcases hmem row hrow with hold | rfl
    · rcases hmem other hother with hold' | rfl
      · exact h.single row hold other hold' hactive hactive'
      · rw [hinactive] at hactive'
        cases hactive'
    · rw [hinactive] at hactive
      cases hactive
  · intro row hrow hpublished
    rcases hmem row hrow with hold | rfl
    · exact h.dated row hold hpublished
    · rw [hstatus] at hpublished
      cases hpublished

theorem LevelsKept.publish (h : LevelsKept s) {draft : LevelPolicyRow}
    (hdraft : draft ∈ s.db.policies) : LevelsKept ⟨s.db.publishing draft.id now, now⟩ := by
  have hmem := fun row : LevelPolicyRow =>
    (mem_publishing h.ids hdraft : row ∈ (s.db.publishing draft.id now).policies ↔ _).mp
  refine ⟨?_, ?_, ?_, ?_⟩
  · show (List.map _ (patch _ _ (patch _ _ _))).Nodup
    rw [map_patch (by intro _; rfl), map_patch (by intro _; rfl)]
    exact h.ids
  · intro row hrow hactive
    rcases hmem row hrow with rfl | ⟨_, -, -, rfl⟩
    · rfl
    · cases hactive
  · intro row hrow other hother hactive hactive'
    rcases hmem row hrow with rfl | ⟨_, -, -, rfl⟩
    · rcases hmem other hother with rfl | ⟨_, -, -, rfl⟩
      · rfl
      · cases hactive'
    · cases hactive
  · intro row hrow hpublished
    rcases hmem row hrow with rfl | ⟨old, hold, -, rfl⟩
    · rfl
    · exact h.dated old hold hpublished

theorem LevelsKept.step (h : LevelsKept s) (a : LevelAction) : LevelsKept (levelStep s a) := by
  cases a with
  | create payload policyId draw =>
    exact commitOr_keeps (P := fun db => LevelsKept { s with db := db }) h fun _ _ => h.create
  | publish policyId now =>
    rw [levelStep]
    split
    · rename_i hok
      obtain ⟨draft, hdraft, -, -, -, rfl⟩ := publishLevelPolicy_ok hok
      exact h.publish (List.mem_of_find?_eq_some hdraft)
    · exact h

/-- A request keeps the levels lawful, and changes none too early, exactly if it is in order. -/
theorem LevelsKept.lawful_iff (h : LevelsKept s) (hlawful : LevelsLawful s) (a : LevelAction) :
    PublicationWaits s a ∧ LevelsLawful (levelStep s a) ↔ PublishesInOrder s a := by
  cases a with
  | create payload policyId draw =>
    refine iff_of_true ⟨trivial, ?_⟩ trivial
    rcases commitOr_cases s.db (createLevelPolicy s.db payload policyId draw) with heq | ⟨_, hok⟩
    · rw [levelStep, heq]
      exact hlawful
    · exact fun now hlate => (hlawful now hlate).create hok
  | publish policyId now =>
    cases hpublish : publishLevelPolicy s.db policyId now with
    | error e =>
      have hsame : levelStep s (.publish policyId now) = s := by
        rw [levelStep, hpublish]
      rw [hsame]
      refine iff_of_true ⟨fun db policy hok => ?_, hlawful⟩ ?_
      · rw [hpublish] at hok
        cases hok
      · intro draft hdraft hstatus hthresholds
        have hok : publishLevelPolicy s.db policyId now =
            .ok (s.db.publishing draft.id now, draft.publishedAt now) := by
          simp only [publishLevelPolicy, bind_ok, orFail_ok, ensure_ok, exists_const, pure_ok]
          exact ⟨draft, hdraft, hstatus, hthresholds, rfl⟩
        rw [hpublish] at hok
        cases hok
    | ok result =>
      obtain ⟨db', policy⟩ := result
      obtain ⟨draft, hdraft, hstatus, hthresholds, rfl, rfl⟩ := publishLevelPolicy_ok hpublish
      have hmem := List.mem_of_find?_eq_some hdraft
      have horder : PublishesInOrder s (.publish policyId now) ↔
          ∀ other otherAt, s.db.IsPublished other otherAt →
            otherAt ≤ draft.takesEffect now ∧ draft.takesEffect now ≤ max now otherAt := by
        constructor
        · intro hin
          exact hin draft hdraft hstatus hthresholds
        · intro hall found hfound _ _
          obtain rfl := Option.some.inj (hdraft.symm.trans hfound)
          exact hall
      have hnext : levelStep s (.publish policyId now) = ⟨s.db.publishing draft.id now, now⟩ := by
        rw [levelStep, hpublish]
      rw [horder, hnext, publishing_lawful_iff h.ids hmem hstatus]
      refine ⟨fun hboth => hboth.2, fun hall => ⟨?_, hall⟩⟩
      intro db' policy hok t totalXp hlate hearly
      obtain ⟨rfl, rfl⟩ := Prod.mk.inj (Except.ok.inj (hpublish.symm.trans hok))
      exact publishing_waits h hmem hall hlate (hearly _ rfl) totalXp

/-- Over any requests, the latest published policy in force decides the level at every instant, and
no publication changes a level before its time, exactly if every publication is in order. -/
theorem levels_lawful_iff (start : Time) (acts : List LevelAction) :
    Throughout levelStep LevelsLawful ⟨{}, start⟩ acts ∧
      Always levelStep PublicationWaits ⟨{}, start⟩ acts ↔
      Always levelStep PublishesInOrder ⟨{}, start⟩ acts := by
  have hkept : LevelsKept ⟨{}, start⟩ := by
    refine ⟨?_, ?_, ?_, ?_⟩ <;> simp
  have hlawful : LevelsLawful ⟨{}, start⟩ := by
    rintro now - ⟨policy, effectiveAt, ⟨hmem, -⟩, -⟩
    cases hmem
  exact throughout_and_always_iff hkept hlawful (fun s a h _ _ => h.step a)
    fun s a h hlawful => h.lawful_iff hlawful a

end

namespace LevelExample

def payload (effectiveAt : Option Time) : LevelPolicyCreate where
  name := "policy"
  thresholds := [⟨1, 0, none, Nat.one_pos⟩, ⟨2, 50, none, by decide⟩]
  effectiveAt := effectiveAt
  name_length := by decide
  thresholds_length := by decide
  levels_ascending := by decide

/-- Two policies, the second one to hold from the time 100 on. -/
def acts : List LevelAction :=
  [.create (payload none) "a" (fun i => if i = 0 then "a0" else "a1"), .publish "a" 0,
   .create (payload (some 100)) "b" (fun i => if i = 0 then "b0" else "b1"), .publish "b" 10]

end LevelExample

open LevelExample in
/-- The second policy is published for later, and the level of a fan drops at once. -/
theorem levels_lawful_fails :
    (run levelStep ⟨{}, 0⟩ (acts.take 3)).db.levelForTotalXp 60 50 = 2 ∧
    (run levelStep ⟨{}, 0⟩ acts).db.levelForTotalXp 60 50 = 1 ∧
    ¬(Throughout levelStep LevelsLawful ⟨{}, 0⟩ acts ∧
      Always levelStep PublicationWaits ⟨{}, 0⟩ acts) := by
  refine ⟨by decide, by decide, ?_⟩
  rintro ⟨-, -, -, -, hwaits, -⟩
  have hlevel := hwaits _ _ rfl 50 60 (by decide) (by decide)
  exact absurd hlevel (by decide)

end Fanfolio
