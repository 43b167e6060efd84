import Fanfolio.Shop.Posted

/-!
# Profile equipment

A fan equips claimed rewards: a title, up to three badges, a frame and a theme. They are stored as
one list and sorted into their slots again by the type of their reward when they are read. A
refund takes back no reward that was claimed, so what was equipped can always be read back.
-/

namespace Fanfolio

open Framework

/-- A row of `profile_equipment`. -/
structure ProfileEquipment where
  userId : UserId
  equippedRewardIds : List String := []
  isPublic : Bool := true
  updatedAt : Time
deriving DecidableEq, Repr

/-- The rewards and what the fans equipped of them. -/
structure Profiles where
  db : ShopDb
  equipment : List ProfileEquipment

/-- `ProfileEquipmentUpdate`: identifiers are not empty, and there are at most three badges. -/
structure ProfileEquipmentUpdate where
  titleRewardId : Option String := none
  badgeRewardIds : List String := []
  frameRewardId : Option String := none
  themeRewardId : Option String := none
  publicProfileEnabled : Bool := false
  named : ∀ id ∈ titleRewardId.toList ++ badgeRewardIds ++ frameRewardId.toList ++
    themeRewardId.toList, id ≠ ""
  few : badgeRewardIds.length ≤ 3
deriving DecidableEq, Repr

/-- What `_equipment_data` answers. -/
structure EquipmentData where
  titleRewardId : Option String := none
  badgeRewardIds : List String := []
  frameRewardId : Option String := none
  themeRewardId : Option String := none
  publicProfileEnabled : Bool
deriving DecidableEq, Repr

/-- A grant goes to the slot of its type, as long as there is room. -/
def EquipmentData.place (data : EquipmentData) (grantId : String)
    (rewardType : Option RewardType) : EquipmentData :=
  if rewardType = some .title ∧ data.titleRewardId = none then
    { data with titleRewardId := some grantId }
  else if rewardType = some .badge ∧ data.badgeRewardIds.length < 3 then
    { data with badgeRewardIds := data.badgeRewardIds ++ [grantId] }
  else if rewardType = some .profileFrame ∧ data.frameRewardId = none then
    { data with frameRewardId := some grantId }
  else if rewardType = some .collectionTheme ∧ data.themeRewardId = none then
    { data with themeRewardId := some grantId }
  else
    data

/-- The rows of `_equipment_data`: the equipped grants with the types of their rewards. -/
def ShopDb.equippedTypes (db : ShopDb) (userId : UserId) (equipped : List String) :
    List (String × RewardType) :=
  (db.rewardGrants.filter fun grant =>
      grant.userId == userId && equipped.contains grant.id && grant.revokedAt == none).filterMap
    fun grant => (db.rewards.find? fun reward => reward.id == grant.rewardId).map
      fun reward => (grant.id, reward.rewardType)

/-- `_reward_grant_with_catalog`. -/
def ShopDb.rewardGrantWithCatalog (db : ShopDb) (userId : UserId) (grantId : String) :
    Option (RewardGrant × RewardCatalog) :=
  (db.claimableGrant userId grantId).bind fun grant =>
    ((db.rewards.find? fun reward => reward.id == grant.rewardId).filter
      (·.status = .published)).map fun reward => (grant, reward)

/-- `_validate_equipment_reward`. -/
def validateEquipmentReward (db : ShopDb) (userId : UserId) (expectedType : RewardType)
    (grantId : String) : Except Failure Unit := do
  let (grant, reward) ← orFail (db.rewardGrantWithCatalog userId grantId)
    (.app ⟨404, "REWARD_GRANT_NOT_FOUND", "장착할 보상을 찾을 수 없습니다."⟩)
  ensure (grant.claimedAt ≠ none)
    (.app ⟨409, "REWARD_GRANT_UNCLAIMED", "보상을 수령한 뒤 장착할 수 있습니다."⟩)
  ensure (reward.rewardType = expectedType)
    (.app ⟨422, "INVALID_EQUIPMENT_REWARD_TYPE", "장착 위치와 보상 유형이 일치하지 않습니다."⟩)

namespace Profiles

def findEquipment (s : Profiles) (userId : UserId) : Option ProfileEquipment :=
  s.equipment.find? fun row => row.userId == userId

/-- `_equipment_data`. -/
def equipmentData (s : Profiles) (userId : UserId) : EquipmentData :=
  let equipment := s.findEquipment userId
  let equipped := (equipment.map (·.equippedRewardIds)).getD []
  let types := s.db.equippedTypes userId equipped
  equipped.foldl
    (fun data grantId => data.place grantId ((types.find? (·.1 == grantId)).map (·.2)))
    { publicProfileEnabled := (equipment.map (·.isPublic)).getD false }

/-- Write the row of a fan, and add it if there is none. -/
def writeEquipment (s : Profiles) (row : ProfileEquipment) : Profiles :=
  match s.findEquipment row.userId with
  | some _ => { s with
      equipment := patch (·.userId == row.userId)
        ({ · with
          equippedRewardIds := row.equippedRewardIds, isPublic := row.isPublic
          updatedAt := row.updatedAt }) s.equipment }
  | none => { s with equipment := s.equipment ++ [row] }

/-- `update_profile_equipment`. -/
def updateProfileEquipment (s : Profiles) (userId : UserId) (payload : ProfileEquipmentUpdate)
    (now : Time) : Except Failure (Profiles × EquipmentData) := do
  let title := payload.titleRewardId.filter (· ≠ "")
  let frame := payload.frameRewardId.filter (· ≠ "")
  let theme := payload.themeRewardId.filter (· ≠ "")
  let equipped := title.toList ++ payload.badgeRewardIds.filter (· ≠ "") ++ frame.toList ++
    theme.toList
  ensure equipped.Nodup
    (.app ⟨422, "DUPLICATE_EQUIPMENT_REWARD", "같은 보상을 중복 장착할 수 없습니다."⟩)
  forEach (validateEquipmentReward s.db userId .title) title.toList
  forEach (validateEquipmentReward s.db userId .badge) payload.badgeRewardIds
  forEach (validateEquipmentReward s.db userId .profileFrame) frame.toList
  forEach (validateEquipmentReward s.db userId .collectionTheme) theme.toList
  let updated := s.writeEquipment
    { userId := userId, equippedRewardIds := equipped, isPublic := payload.publicProfileEnabled
      updatedAt := now }
  return (updated, updated.equipmentData userId)

end Profiles

/-- A request that equips, grants, claims or takes back rewards. -/
inductive ProfileAction where
  | equip (userId : UserId) (payload : ProfileEquipmentUpdate) (now : Time)
  | request (a : RewardAction)
  | approvedRefund (orderId : OrderId) (approvalId actorId : String) (draws : RefundDraws)
      (now : Time)

namespace Profiles

variable (terms : RewardId → ExchangeTerms)

/-- The state after one request; a request that fails is rolled back. -/
def step (s : Profiles) : ProfileAction → Profiles
  | .equip userId payload now => commitOr s (s.updateProfileEquipment userId payload now)
  | .request a => { s with db := PackRewards.step terms s.db a }
  | .approvedRefund orderId approvalId actorId draws now =>
    { s with db := commitOr s.db (executeApprovedRefund s.db orderId approvalId actorId draws now) }

/-- Any tables, before the first grant. -/
def start (db : ShopDb) : Profiles := ⟨PackRewards.start db, []⟩

/-- The state that a sequence of requests leaves behind. -/
def after (db : ShopDb) (acts : List ProfileAction) : Profiles := run (step terms) (start db) acts

/-- The fan equips nothing else. -/
def LeavesEquipment (userId : UserId) (s : Profiles) : ProfileAction → Prop
  | .equip userId' payload now => userId' = userId →
      ∃ e, s.updateProfileEquipment userId' payload now = .error e
  | _ => True

end Profiles

namespace ProfileEquipmentUpdate

/-- The slots of a payload, as they are answered. -/
def data (payload : ProfileEquipmentUpdate) : EquipmentData :=
  { titleRewardId := payload.titleRewardId, badgeRewardIds := payload.badgeRewardIds
    frameRewardId := payload.frameRewardId, themeRewardId := payload.themeRewardId
    publicProfileEnabled := payload.publicProfileEnabled }

/-- The grants of a payload, with the type of the slot each is for. -/
def slots (payload : ProfileEquipmentUpdate) : List (RewardType × String) :=
  payload.titleRewardId.toList.map (.title, ·) ++ payload.badgeRewardIds.map (.badge, ·) ++
    payload.frameRewardId.toList.map (.profileFrame, ·) ++
    payload.themeRewardId.toList.map (.collectionTheme, ·)

end ProfileEquipmentUpdate

/-- The grant belongs to the user, is claimed, not taken back and of the type of the slot. -/
def ShopDb.Holds (db : ShopDb) (userId : UserId) (slot : RewardType × String) : Prop :=
  ∃ grant ∈ db.rewardGrants, grant.id = slot.2 ∧ grant.userId = userId ∧ grant.claimedAt ≠ none ∧
    grant.revokedAt = none ∧
    ∃ reward, db.rewards.find? (fun reward => reward.id == grant.rewardId) = some reward ∧
      reward.rewardType = slot.1

/-- What a request keeps of the rewards that were claimed. -/
structure KeepsClaimed (db db' : GrowthDb) : Prop where
  ids : (db.rewardGrants.map (·.id)).Nodup → (db'.rewardGrants.map (·.id)).Nodup
  rewards : db'.rewards = db.rewards
  rows : (db.rewardGrants.map (·.id)).Nodup → ∀ row ∈ db.rewardGrants, row.claimedAt ≠ none →
    row.revokedAt = none → ∃ row' ∈ db'.rewardGrants, row'.id = row.id ∧ row'.entry = row.entry ∧
      row'.claimedAt ≠ none ∧ row'.revokedAt = none

namespace KeepsClaimed

variable {db db' db'' : GrowthDb}

theorem of_same (hgrants : db'.rewardGrants = db.rewardGrants)
    (hrewards : db'.rewards = db.rewards) : KeepsClaimed db db' := by
  refine ⟨by rw [hgrants]; exact id, hrewards, ?_⟩
  intro _ row hrow hclaimed hrevoked
  exact ⟨row, hgrants ▸ hrow, rfl, rfl, hclaimed, hrevoked⟩

theorem trans (h : KeepsClaimed db db') (h' : KeepsClaimed db' db'') : KeepsClaimed db db'' := by
  refine ⟨h'.ids ∘ h.ids, h'.rewards.trans h.rewards, ?_⟩
  intro hids row hrow hclaimed hrevoked
  obtain ⟨row', hrow', hid, hentry, hclaimed', hrevoked'⟩ := h.rows hids row hrow hclaimed hrevoked
  obtain ⟨row'', hrow'', hid', hentry', hkept⟩ :=
    h'.rows (h.ids hids) row' hrow' hclaimed' hrevoked'
  exact ⟨row'', hrow'', hid'.trans hid, hentry'.trans hentry, hkept⟩

/-- A grant is only taken back before it is claimed. -/
theorem of_grows {rules : String → Prop} (h : Grows rules db db') : KeepsClaimed db db' := by
  induction h with
  | points _ hgrants hrewards => exact of_same hgrants hrewards
  | granted grant _ hid _ hgrants hrewards =>
    refine ⟨fun hids => hgrants ▸ nodup_insert hids hid, hrewards, ?_⟩
    intro _ row hrow hclaimed hrevoked
    exact ⟨row, hgrants ▸ List.mem_append_left _ hrow, rfl, rfl, hclaimed, hrevoked⟩
  | claimed p now _ hgrants hrewards =>
    refine ⟨?_, hrewards, ?_⟩
    · rw [hgrants, map_patch (by intro _; rfl)]
      exact id
    · intro _ row hrow hclaimed hrevoked
      refine ⟨_, hgrants ▸ mem_patch.mpr ⟨row, hrow, rfl⟩, ?_⟩
      split
      · exact ⟨rfl, rfl, Option.some_ne_none now, hrevoked⟩
      · exact ⟨rfl, rfl, hclaimed, hrevoked⟩
  | revoked grant now _ hmem _ hunclaimed _ hgrants hrewards =>
    refine ⟨?_, hrewards, ?_⟩
    · rw [hgrants, map_patch (by intro _; rfl)]
      exact id
    · intro hids row hrow hclaimed hrevoked
      refine ⟨row, hgrants ▸ mem_patch_of_not hrow ?_, rfl, rfl, hclaimed, hrevoked⟩
      rw [beq_eq_false_iff_ne]
      intro hid
      rw [eq_of_unique hids hrow hmem hid] at hclaimed
      exact hclaimed hunclaimed
  | trans _ _ ih ih' => exact ih.trans ih'

end KeepsClaimed

theorem ShopDb.Holds.kept {db db' : ShopDb} {userId : UserId} {slot : RewardType × String}
    (h : db.Holds userId slot) (hids : (db.rewardGrants.map (·.id)).Nodup)
    (hkeeps : KeepsClaimed db.toGrowthDb db'.toGrowthDb) : db'.Holds userId slot := by
  obtain ⟨grant, hmem, hid, huser, hclaimed, hrevoked, reward, hreward, htype⟩ := h
  obtain ⟨row, hrow, hsame, hentry, hkept⟩ := hkeeps.rows hids grant hmem hclaimed hrevoked
  have hkey : row.userId = grant.userId := congrArg (·.1.1) hentry
  have hof : row.rewardId = grant.rewardId := congrArg (·.2) hentry
  refine ⟨row, hrow, hsame.trans hid, hkey.trans huser, hkept.1, hkept.2, reward, ?_, htype⟩
  rw [hkeeps.rewards, hof]
  exact hreward

section Slots

variable {types : String → Option RewardType} {title frame theme : Option String}
  {badges ids : List String} {isPublic : Bool}

theorem foldl_title (htypes : ∀ id ∈ title.toList, types id = some .title) :
    title.toList.foldl (fun data id => EquipmentData.place data id (types id))
      ⟨none, [], none, none, isPublic⟩ = ⟨title, [], none, none, isPublic⟩ := by
  cases title with
  | none => rfl
  | some id =>
    rw [Option.toList_some, List.foldl_cons, List.foldl_nil, htypes id (by simp)]
    rfl

/-- Badges are placed in their order, as long as there are at most three. -/
theorem foldl_badges (htypes : ∀ id ∈ ids, types id = some .badge)
    (hfew : badges.length + ids.length ≤ 3) :
    ids.foldl (fun data id => EquipmentData.place data id (types id))
      ⟨title, badges, none, none, isPublic⟩ = ⟨title, badges ++ ids, none, none, isPublic⟩ := by
  induction ids generalizing badges with
  | nil => rw [List.foldl_nil, List.append_nil]
  | cons id ids ih =>
    rw [List.length_cons] at hfew
    have hplace : EquipmentData.place ⟨title, badges, none, none, isPublic⟩ id (types id) =
        ⟨title, badges ++ [id], none, none, isPublic⟩ := by
      have hroom : badges.length < 3 := by omega
      rw [htypes id List.mem_cons_self]
      simp [EquipmentData.place, hroom]
    rw [List.foldl_cons, hplace, ih (fun id' hid' => htypes id' (List.mem_cons_of_mem id hid'))]
    · rw [List.append_assoc, List.singleton_append]
    · rw [List.length_append, List.length_singleton]
      omega

theorem foldl_frame (htypes : ∀ id ∈ frame.toList, types id = some .profileFrame) :
    frame.toList.foldl (fun data id => EquipmentData.place data id (types id))
      ⟨title, badges, none, none, isPublic⟩ = ⟨title, badges, frame, none, isPublic⟩ := by
  cases frame with
  | none => rfl
  | some id =>
    rw [Option.toList_some, List.foldl_cons, List.foldl_nil, htypes id (by simp)]
    rfl

theorem foldl_theme (htypes : ∀ id ∈ theme.toList, types id = some .collectionTheme) :
    theme.toList.foldl (fun data id => EquipmentData.place data id (types id))
      ⟨title, badges, frame, none, isPublic⟩ = ⟨title, badges, frame, theme, isPublic⟩ := by
  cases theme with
  | none => rfl
  | some id =>
    rw [Option.toList_some, List.foldl_cons, List.foldl_nil, htypes id (by simp)]
    rfl

end Slots

namespace ProfileEquipmentUpdate

variable (payload : ProfileEquipmentUpdate)

/-- The list that is stored. -/
def equipped : List String :=
  payload.titleRewardId.toList ++ payload.badgeRewardIds ++ payload.frameRewardId.toList ++
    payload.themeRewardId.toList

theorem mem_equipped {slot : RewardType × String} (h : slot ∈ payload.slots) :
    slot.2 ∈ payload.equipped := by
  have hmap : payload.slots.map (·.2) = payload.equipped := by
    simp [slots, equipped, Function.comp_def]
  rw [← hmap]
  exact List.mem_map_of_mem h

/-- Grants that are sorted by the types of their slots are back in their slots. -/
theorem foldl_equipped {types : String → Option RewardType}
    (htypes : ∀ slot ∈ payload.slots, types slot.2 = some slot.1) :
    payload.equipped.foldl (fun data id => EquipmentData.place data id (types id))
      { publicProfileEnabled := payload.publicProfileEnabled } = payload.data := by
  have htitle : ∀ id ∈ payload.titleRewardId.toList, types id = some .title := by
    intro id hid
    exact htypes (.title, id) (by simp [slots, Option.mem_toList.mp hid])
  have hbadges : ∀ id ∈ payload.badgeRewardIds, types id = some .badge := by
    intro id hid
    exact htypes (.badge, id) (by simp [slots, hid])
  have hframe : ∀ id ∈ payload.frameRewardId.toList, types id = some .profileFrame := by
    intro id hid
    exact htypes (.profileFrame, id) (by simp [slots, Option.mem_toList.mp hid])
  have htheme : ∀ id ∈ payload.themeRewardId.toList, types id = some .collectionTheme := by
    intro id hid
    exact htypes (.collectionTheme, id) (by simp [slots, Option.mem_toList.mp hid])
  rw [equipped, List.foldl_append, List.foldl_append, List.foldl_append, foldl_title htitle,
    foldl_badges hbadges (by simpa using payload.few), foldl_frame hframe, foldl_theme htheme]
  rfl

end ProfileEquipmentUpdate

/-- A grant that is held is found among the rows, with the type of its slot. -/
theorem ShopDb.Holds.found {db : ShopDb} {userId : UserId} {slot : RewardType × String}
    {equipped : List String} (h : db.Holds userId slot)
    (hids : (db.rewardGrants.map (·.id)).Nodup) (hmem : slot.2 ∈ equipped) :
    ((db.equippedTypes userId equipped).find? (·.1 == slot.2)).map (·.2) = some slot.1 := by
  obtain ⟨grant, hgrant, hid, huser, -, hrevoked, reward, hreward, htype⟩ := h
  have hkeys : ((db.equippedTypes userId equipped).map (·.1)).Nodup := by
    refine (filterMap_keys_sublist (k := RewardGrant.id) ?_ _).nodup ?_
    · intro row made hmade
      obtain ⟨reward, -, rfl⟩ := Option.map_eq_some_iff.mp hmade
      rfl
    · exact hids.sublist (List.filter_sublist.map _)
  have hrow : (slot.2, slot.1) ∈ db.equippedTypes userId equipped := by
    refine List.mem_filterMap.mpr ⟨grant, List.mem_filter.mpr ⟨hgrant, ?_⟩, ?_⟩
    · simp [huser, hid, hmem, hrevoked]
    · rw [hreward, Option.map_some, hid, htype]
  have hfound := find_of_mem (g := fun row : String × RewardType => row.1) hkeys hrow
  rw [hfound]
  rfl

namespace Profiles

variable {terms : RewardId → ExchangeTerms} {s s' : Profiles} {userId userId' : UserId}
  {payload : ProfileEquipmentUpdate} {now : Time} {data : EquipmentData}

/-- The fan wears what the payload names. -/
structure Wears (s : Profiles) (userId : UserId) (payload : ProfileEquipmentUpdate) : Prop where
  ids : (s.db.rewardGrants.map (·.id)).Nodup
  row : ∃ updatedAt, s.findEquipment userId =
    some ⟨userId, payload.equipped, payload.publicProfileEnabled, updatedAt⟩
  holds : ∀ slot ∈ payload.slots, s.db.Holds userId slot

/-- What the fan wears is read back. -/
theorem Wears.equipmentData (h : Wears s userId payload) :
    s.equipmentData userId = payload.data := by
  obtain ⟨updatedAt, hrow⟩ := h.row
  simp only [Profiles.equipmentData, hrow, Option.map_some, Option.getD_some]
  refine payload.foldl_equipped ?_
  intro slot hslot
  exact (h.holds slot hslot).found h.ids (payload.mem_equipped hslot)

theorem writeEquipment_db {row : ProfileEquipment} : (s.writeEquipment row).db = s.db := by
  unfold writeEquipment
  split <;> rfl

theorem findEquipment_write {row : ProfileEquipment} :
    (s.writeEquipment row).findEquipment userId =
      if row.userId = userId then some row else s.findEquipment userId := by
  unfold writeEquipment
  split
  · rename_i found hfound
    have huser := (mem_of_find_eq_some (g := ProfileEquipment.userId) hfound).2
    by_cases hsame : row.userId = userId
    · subst hsame
      rw [if_pos rfl]
      refine (find_patch_key (g := ProfileEquipment.userId) (by intro _; rfl) _ _).trans ?_
      rw [findEquipment] at hfound
      rw [hfound, Option.map_some, huser]
    · rw [if_neg hsame]
      exact find_patch_other (g := ProfileEquipment.userId) (by intro _; rfl) _ (Ne.symm hsame)
  · rename_i hnone
    rw [findEquipment, find_insert]
    by_cases hsame : row.userId = userId
    · subst hsame
      rw [findEquipment] at hnone
      rw [hnone, if_pos (beq_self_eq_true _), if_pos rfl, Option.none_or]
    · rw [if_neg (by simpa using hsame), if_neg hsame, Option.or_none]
      rfl

theorem rewardGrantWithCatalog_ok {db : ShopDb} {grantId : String} {grant : RewardGrant}
    {reward : RewardCatalog} (h : db.rewardGrantWithCatalog userId grantId = some (grant, reward)) :
    grant ∈ db.rewardGrants ∧ grant.id = grantId ∧ grant.userId = userId ∧ grant.revokedAt = none ∧
      db.rewards.find? (fun reward => reward.id == grant.rewardId) = some reward := by
  obtain ⟨found, hfound, hcatalog⟩ := Option.bind_eq_some_iff.mp h
  obtain ⟨published, hpublished, hpair⟩ := Option.map_eq_some_iff.mp hcatalog
  obtain ⟨rfl, rfl⟩ := Prod.mk.inj hpair
  have hrow := List.find?_some hfound
  simp only [Bool.and_eq_true, beq_iff_eq, and_assoc] at hrow
  exact ⟨List.mem_of_find?_eq_some hfound, hrow.1, hrow.2.1, hrow.2.2,
    (Option.filter_eq_some_iff.mp hpublished).1⟩

/-- What a validation accepts is held. -/
theorem validateEquipmentReward_holds {db : ShopDb} {expectedType : RewardType} {grantId : String}
    (h : validateEquipmentReward db userId expectedType grantId = .ok ()) :
    db.Holds userId (expectedType, grantId) := by
  simp only [validateEquipmentReward, bind_ok, orFail_ok, ensure_ok, exists_const, Prod.exists] at h
  obtain ⟨grant, reward, hfound, hclaimed, htype⟩ := h
  obtain ⟨hmem, hid, huser, hrevoked, hreward⟩ := rewardGrantWithCatalog_ok hfound
  exact ⟨grant, hmem, hid, huser, hclaimed, hrevoked, reward, hreward, htype⟩

theorem filter_named {o : Option String} (h : ∀ id ∈ o.toList, id ≠ "") :
    o.filter (· ≠ "") = o := by
  cases o with
  | none => rfl
  | some id => simpa using h id (by simp)

/-- An update that succeeds stores the payload, and the fan holds what it names. -/
theorem updateProfileEquipment_ok
    (h : s.updateProfileEquipment userId payload now = .ok (s', data)) :
    s' = s.writeEquipment ⟨userId, payload.equipped, payload.publicProfileEnabled, now⟩ ∧
      data = s'.equipmentData userId ∧ ∀ slot ∈ payload.slots, s.db.Holds userId slot := by
  have hnamed := payload.named
  simp only [List.mem_append, or_imp, forall_and] at hnamed
  obtain ⟨⟨⟨htitle, hbadges⟩, hframe⟩, htheme⟩ := hnamed
  simp only [updateProfileEquipment, filter_named htitle, filter_named hframe, filter_named htheme,
    List.filter_eq_self.mpr fun id hid => decide_eq_true (hbadges id hid), bind_ok, ensure_ok,
    forEach_ok, exists_const, pure_ok, Prod.mk.injEq] at h
  obtain ⟨-, htitles, hbadge, hframes, hthemes, rfl, rfl⟩ := h
  refine ⟨rfl, rfl, ?_⟩
  intro slot hslot
  simp only [ProfileEquipmentUpdate.slots, List.mem_append, List.mem_map] at hslot
  rcases hslot with ((⟨id, hid, rfl⟩ | ⟨id, hid, rfl⟩) | ⟨id, hid, rfl⟩) | ⟨id, hid, rfl⟩
  · exact validateEquipmentReward_holds (htitles id hid)
  · exact validateEquipmentReward_holds (hbadge id hid)
  · exact validateEquipmentReward_holds (hframes id hid)
  · exact validateEquipmentReward_holds (hthemes id hid)

theorem step_equip_db (payload : ProfileEquipmentUpdate) :
    (step terms s (.equip userId payload now)).db = s.db := by
  rw [step]
  refine commitOr_keeps (P := fun s' : Profiles => s'.db = s.db) rfl ?_
  intro s' data hok
  rw [(updateProfileEquipment_ok hok).1]
  exact writeEquipment_db

/-- An update leaves the equipment of every other fan as it is. -/
theorem step_equip_other (payload : ProfileEquipmentUpdate) (hother : userId ≠ userId') :
    (step terms s (.equip userId payload now)).findEquipment userId' = s.findEquipment userId' := by
  rw [step]
  refine commitOr_keeps (P := fun s' : Profiles =>
    s'.findEquipment userId' = s.findEquipment userId') rfl ?_
  intro s' data hok
  rw [(updateProfileEquipment_ok hok).1, findEquipment_write, if_neg hother]

/-- No request takes back a reward that was claimed. -/
theorem step_keeps (terms : RewardId → ExchangeTerms) (s : Profiles) (a : ProfileAction) :
    KeepsClaimed s.db.toGrowthDb (step terms s a).db.toGrowthDb := by
  cases a with
  | equip userId payload now =>
    rw [step_equip_db payload]
    exact .of_same rfl rfl
  | request a => exact .of_grows (step_grows terms s.db a)
  | approvedRefund orderId approvalId actorId draws now =>
    refine commitOr_keeps (P := fun db : ShopDb => KeepsClaimed s.db.toGrowthDb db.toGrowthDb)
      (.of_same rfl rfl) ?_
    intro db balance hrefund
    obtain ⟨order, -, hrefund⟩ := executeApprovedRefund_ok hrefund
    have hgrows : Grows (fun _ => True) s.db.toGrowthDb db.toGrowthDb :=
      refundOrder_grows (notOfPass_adminRefund order approvalId actorId) hrefund
    exact .of_grows hgrows

/-- What a fan wears stays, until the fan equips something else. -/
theorem Wears.step (h : Wears s userId payload) (a : ProfileAction)
    (hleaves : LeavesEquipment userId s a) : Wears (step terms s a) userId payload := by
  have hkeeps := step_keeps terms s a
  have hrow : (Profiles.step terms s a).findEquipment userId = s.findEquipment userId := by
    cases a with
    | equip userId' payload' now' =>
      by_cases hsame : userId' = userId
      · obtain ⟨e, hfails⟩ := hleaves hsame
        rw [Profiles.step, hfails]
        rfl
      · exact step_equip_other payload' hsame
    | request => rfl
    | approvedRefund => rfl
  refine ⟨hkeeps.ids h.ids, hrow ▸ h.row, ?_⟩
  intro slot hslot
  exact (h.holds slot hslot).kept h.ids hkeeps

theorem after_ids (terms : RewardId → ExchangeTerms) (db : ShopDb) (acts : List ProfileAction) :
    ((after terms db acts).db.rewardGrants.map (·.id)).Nodup := by
  refine run_of_step (I := fun s : Profiles => (s.db.rewardGrants.map RewardGrant.id).Nodup)
    List.nodup_nil ?_
  intro s a hids
  exact (step_keeps terms s a).ids hids

/-- An update that succeeds is worn. -/
theorem wears_updated (hids : (s.db.rewardGrants.map (·.id)).Nodup)
    (h : s.updateProfileEquipment userId payload now = .ok (s', data)) :
    Wears s' userId payload := by
  obtain ⟨rfl, -, hholds⟩ := updateProfileEquipment_ok h
  refine ⟨?_, ⟨now, ?_⟩, ?_⟩
  · rw [writeEquipment_db]
    exact hids
  · rw [findEquipment_write, if_pos rfl]
  · rw [writeEquipment_db]
    exact hholds

/-- After any requests, an update that succeeds is read back exactly, then and after any later
requests by which the fan equips nothing else; and every grant it names stays with the fan, claimed,
not taken back and of the type of its slot. An update that fails changes nothing. -/
theorem profileEquipment_kept (terms : RewardId → ExchangeTerms) (db : ShopDb)
    (before : List ProfileAction) (userId : UserId) (payload : ProfileEquipmentUpdate)
    (now : Time) :
    let s := after terms db before
    let answer := s.updateProfileEquipment userId payload now
    (∀ s' data, answer = .ok (s', data) → data = payload.data ∧
      ∀ later, Always (Profiles.step terms) (LeavesEquipment userId) s' later →
        let t := run (Profiles.step terms) s' later
        t.equipmentData userId = payload.data ∧
          ∀ slot ∈ payload.slots, t.db.Holds userId slot) ∧
    (∀ e, answer = .error e → Profiles.step terms s (.equip userId payload now) = s) := by
  intro s answer
  refine ⟨?_, ?_⟩
  · intro s' data hok
    have hwears : Wears s' userId payload := wears_updated (after_ids terms db before) hok
    have hdata : data = s'.equipmentData userId := (updateProfileEquipment_ok hok).2.1
    refine ⟨hdata.trans hwears.equipmentData, ?_⟩
    intro later hleaves t
    have hlater : Wears t userId payload := by
      refine (hleaves.throughout (I := fun s => Wears s userId payload) hwears ?_).last
      intro s a h hleaves
      exact h.step a hleaves
    exact ⟨hlater.equipmentData, hlater.holds⟩
  · intro e herror
    show commitOr s answer = s
    rw [herror]
    rfl

end Profiles

end Fanfolio
