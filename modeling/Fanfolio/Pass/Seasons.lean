import Fanfolio.Framework.Run
import Fanfolio.Pass.Claim

/-!
# Editing a season while it is claimed

An edit of a season deletes its tiers and writes the tiers of the request, with identifiers of
their own. The receipts of a run are kept next to the tables: who received the reward of which
tier number, on which track.
-/

namespace Fanfolio

open Framework

/-- `PassTierCreate`. -/
structure PassTierCreate where
  tier : Nat
  requiredXp : Nat
  rewardId : Option RewardId := none
  premiumRewardId : Option RewardId := none
deriving DecidableEq, Repr

/-- `PassSeasonCreate`, as far as claims and purchases depend on it. -/
structure PassSeasonCreate where
  title : String := ""
  startsAt : Option Time := none
  endsAt : Option Time := none
  premiumEnabled : Bool := false
  premiumPricePoints : Option Int := none
  tiers : List PassTierCreate
deriving DecidableEq, Repr

def PassTierCreate.reward (tier : PassTierCreate) (track : PassTrack) : Option RewardId :=
  if track = .premium then tier.premiumRewardId else tier.rewardId

/-- The rows of the tiers of a request; `tierIds` are the identifiers they draw. -/
def PassSeasonCreate.rows (payload : PassSeasonCreate) (seasonId : SeasonId)
    (tierIds : Nat → TierId) : List PassTier :=
  payload.tiers.zipIdx.map fun (tier, index) =>
    { id := tierIds index, seasonId := seasonId, tier := tier.tier, requiredXp := tier.requiredXp,
      rewardId := tier.rewardId, premiumRewardId := tier.premiumRewardId }

def premiumPriceRequired : Failure :=
  .app ⟨422, "PREMIUM_PRICE_REQUIRED", "프리미엄 패스 가격을 1P 이상 입력해 주세요."⟩

/-- The outcome of `require_engagement_scope` and `validate_reward_scope`: the artist the season
is written for. -/
abbrev ScopeCheck := Except Failure (Option String)

/-- Insert the tiers of a request. -/
def addTiers (db : PassDb) (seasonId : SeasonId) (payload : PassSeasonCreate)
    (tierIds : Nat → TierId) : Except Failure PassDb := do
  let tiers := db.tiers ++ payload.rows seasonId tierIds
  ensure ((tiers.map (·.id)).Nodup) (.integrity "pass_tiers_pkey")
  return { db with tiers := tiers }

/-- `create_pass_season`; `seasonId` is the identifier it draws. -/
def createPassSeason (db : PassDb) (seasonId : SeasonId) (payload : PassSeasonCreate)
    (scope : ScopeCheck) (tierIds : Nat → TierId) : Except Failure PassDb := do
  ensure (payload.premiumEnabled → payload.premiumPricePoints.any (0 < ·)) premiumPriceRequired
  let artistId ← scope
  ensure (∀ row ∈ db.seasons, row.id ≠ seasonId) (.integrity "pass_seasons_pkey")
  let season : PassSeason :=
    { id := seasonId, artistId := artistId, status := .draft, isPaid := payload.premiumEnabled,
      premiumEnabled := payload.premiumEnabled, startsAt := payload.startsAt,
      endsAt := payload.endsAt, title := payload.title,
      premiumPricePoints := if payload.premiumEnabled then payload.premiumPricePoints else none }
  addTiers { db with seasons := db.seasons ++ [season] } seasonId payload tierIds

/-- `update_pass_season`. -/
def updatePassSeason (db : PassDb) (seasonId : SeasonId) (payload : PassSeasonCreate)
    (scope : ScopeCheck) (tierIds : Nat → TierId) : Except Failure PassDb := do
  ensure (payload.premiumEnabled → payload.premiumPricePoints.any (0 < ·)) premiumPriceRequired
  let _season ← orFail (db.findSeason seasonId)
    (.app ⟨404, "RESOURCE_NOT_FOUND", "항목을 찾을 수 없습니다."⟩)
  let artistId ← scope
  let updated : PassDb :=
    { db with
      seasons := patch (·.id == seasonId) (fun row =>
        { row with
          artistId := artistId, startsAt := payload.startsAt, endsAt := payload.endsAt
          isPaid := payload.premiumEnabled, premiumEnabled := payload.premiumEnabled
          title := payload.title
          premiumPricePoints :=
            if payload.premiumEnabled then payload.premiumPricePoints else none }) db.seasons
      tiers := db.tiers.filter (·.seasonId ≠ seasonId) }
  addTiers updated seasonId payload tierIds

/-- `transition_pass_season_status`, and `approve_pass_season` with its own message. -/
def transitionPassSeasonStatus (db : PassDb) (seasonId : SeasonId)
    (requiredStatus nextStatus : DefinitionStatus) : Except Failure PassDb := do
  let season ← orFail (db.findSeason seasonId)
    (.app ⟨404, "RESOURCE_NOT_FOUND", "항목을 찾을 수 없습니다."⟩)
  ensure (season.status = requiredStatus)
    (.app ⟨409, "INVALID_PASS_SEASON_STATUS",
      if requiredStatus = .pendingReview then "검수 대기 중인 팬 패스만 공개 승인할 수 있습니다."
      else "현재 상태에서는 팬 패스 검수 상태를 전환할 수 없습니다."⟩)
  return { db with
    seasons := patch (·.id == seasonId) ({ · with status := nextStatus }) db.seasons }

/-- One reward that was received: who, in which season, of which tier number, on which track. -/
structure PassReceipt where
  userId : UserId
  seasonId : SeasonId
  tier : Nat
  track : PassTrack
deriving DecidableEq, Repr

/-- The tables, and the receipts of the run so far. -/
structure PassHistory where
  db : PassDb
  receipts : List PassReceipt := []
deriving DecidableEq, Repr

/-- What fans, admins and workers do to a season. -/
inductive SeasonCall where
  | grantXp (userId : UserId) (eventId : EventId) (ruleKey : String) (amount : Int)
      (ledgerId : LedgerId) (now : Time)
  | refresh (userId : UserId) (season : PassSeason) (now : Time)
  | claim (userId : UserId) (tierId : TierId) (track : PassTrack) (draws : ClaimDraws) (now : Time)
  | create (seasonId : SeasonId) (payload : PassSeasonCreate) (scope : ScopeCheck)
      (tierIds : Nat → TierId)
  | update (seasonId : SeasonId) (payload : PassSeasonCreate) (scope : ScopeCheck)
      (tierIds : Nat → TierId)
  | submit (seasonId : SeasonId)
  | approve (seasonId : SeasonId)

/-- The receipt of a claim that grants a reward. -/
def claimReceipt (db : PassDb) (userId : UserId) (tierId : TierId) (track : PassTrack) :
    List PassReceipt :=
  match db.findTier tierId with
  | none => []
  | some tier =>
    if (tier.reward track).isSome then [⟨userId, tier.seasonId, tier.tier, track⟩] else []

/-- The tables after a call that fails with no trace. -/
def orKeep (db : PassDb) : Except Failure PassDb → PassDb
  | .ok db' => db'
  | .error _ => db

def seasonStep (h : PassHistory) : SeasonCall → PassHistory
  | .grantXp userId eventId ruleKey amount ledgerId now =>
    let growth := commitOr h.db.toGrowthDb
      (grantXp h.db.toGrowthDb userId eventId ruleKey amount ledgerId now)
    { h with db := { h.db with toGrowthDb := growth } }
  | .refresh userId season now =>
    let growth := commitOr h.db.toGrowthDb
      (refreshPassProgress h.db.toGrowthDb userId season now)
    { h with db := { h.db with toGrowthDb := growth } }
  | .claim userId tierId track draws now =>
    match claimPassTier h.db userId tierId track draws now with
    | .ok db => ⟨db, h.receipts ++ claimReceipt h.db userId tierId track⟩
    | .error _ => h
  | .create seasonId payload scope tierIds =>
    { h with db := orKeep h.db (createPassSeason h.db seasonId payload scope tierIds) }
  | .update seasonId payload scope tierIds =>
    { h with db := orKeep h.db (updatePassSeason h.db seasonId payload scope tierIds) }
  | .submit seasonId =>
    { h with db := orKeep h.db (transitionPassSeasonStatus h.db seasonId .draft .pendingReview) }
  | .approve seasonId =>
    { h with db := orKeep h.db (transitionPassSeasonStatus h.db seasonId .pendingReview .published) }

/-- The fan has received no reward of a season, number and track twice. -/
def ReceivedOnce (userId : UserId) (h : PassHistory) : Prop :=
  (h.receipts.filter (·.userId == userId)).Nodup

instance (userId : UserId) : DecidablePred (ReceivedOnce userId) :=
  fun _ => inferInstanceAs (Decidable (List.Nodup _))

/-- A request for tiers names no number twice on one track, and none that the fan has received
there before. -/
def NamesNew (userId : UserId) (receipts : List PassReceipt) (seasonId : SeasonId)
    (tiers : List PassTierCreate) : Prop :=
  ∀ track, ((tiers.filter fun tier => (tier.reward track).isSome).map (·.tier)).Nodup ∧
    ∀ tier ∈ tiers, (tier.reward track).isSome → ⟨userId, seasonId, tier.tier, track⟩ ∉ receipts

/-- Edits leave the numbers alone that the fan has received. -/
def EditsNew (userId : UserId) (h : PassHistory) : SeasonCall → Prop
  | .create seasonId payload _ _ => NamesNew userId h.receipts seasonId payload.tiers
  | .update seasonId payload _ _ => NamesNew userId h.receipts seasonId payload.tiers
  | _ => True

/-- The numbers of the tiers of a season with a reward on a track are unique. -/
def SlotsUnique (db : PassDb) : Prop :=
  ∀ tier ∈ db.tiers, ∀ tier' ∈ db.tiers, ∀ track, tier.seasonId = tier'.seasonId →
    tier.tier = tier'.tier → (tier.reward track).isSome → (tier'.reward track).isSome →
    tier.id = tier'.id

/-- What ties the receipts of a fan to the tables: a tier whose number the fan has received is in
the list of claimed tiers. -/
structure ReceiptsKept (userId : UserId) (h : PassHistory) : Prop where
  ids : (h.db.passProgress.map (·.id)).Nodup
  seasons : ∀ tier ∈ h.db.tiers, tier.seasonId ∈ h.db.seasons.map (·.id)
  slots : SlotsUnique h.db
  claimed : ∀ receipt ∈ h.receipts, receipt.userId = userId →
    ∀ tier ∈ h.db.tiers, tier.seasonId = receipt.seasonId → tier.tier = receipt.tier →
      (tier.reward receipt.track).isSome →
      tier.id ∈ claimedIn h.db.passProgress userId receipt.seasonId receipt.track
  once : ReceivedOnce userId h

section

variable {db db' : PassDb} {userId : UserId} {seasonId : SeasonId} {payload : PassSeasonCreate}
  {tierIds : Nat → TierId}

theorem mem_rows {tier : PassTier} (h : tier ∈ payload.rows seasonId tierIds) :
    tier.seasonId = seasonId ∧ ∃ request ∈ payload.tiers, tier.tier = request.tier ∧
      ∀ track, tier.reward track = request.reward track := by
  obtain ⟨⟨request, index⟩, hmem, rfl⟩ := List.mem_map.mp h
  refine ⟨rfl, request, ?_, rfl, fun track => rfl⟩
  exact List.fst_mem_of_mem_zipIdx hmem

/-- Rows of one request with the same number on a track are the same row. -/
theorem rows_unique {track : PassTrack}
    (hnodup : ((payload.tiers.filter fun tier => (tier.reward track).isSome).map (·.tier)).Nodup)
    {tier tier' : PassTier} (h : tier ∈ payload.rows seasonId tierIds)
    (h' : tier' ∈ payload.rows seasonId tierIds) (hreward : (tier.reward track).isSome)
    (hreward' : (tier'.reward track).isSome) (heq : tier.tier = tier'.tier) : tier = tier' := by
  have hrows : ((payload.rows seasonId tierIds).filter fun tier => (tier.reward track).isSome).map
      (·.tier) = (payload.tiers.filter fun tier => (tier.reward track).isSome).map (·.tier) := by
    calc _ = (payload.tiers.zipIdx.filter fun entry => (entry.1.reward track).isSome).map
            (fun entry => entry.1.tier) := by
          rw [PassSeasonCreate.rows, List.filter_map, List.map_map]
          rfl
      _ = ((payload.tiers.zipIdx.map Prod.fst).filter fun tier => (tier.reward track).isSome).map
            (·.tier) := by
          rw [List.filter_map, List.map_map]
          rfl
      _ = _ := by rw [List.zipIdx_map_fst]
  rw [← hrows] at hnodup
  exact eq_of_unique hnodup (List.mem_filter.mpr ⟨h, hreward⟩) (List.mem_filter.mpr ⟨h', hreward'⟩)
    heq

/-- New tiers under numbers that the fan has not received keep the receipts tied to the tables. -/
theorem ReceiptsKept.addTiers {h : PassHistory} (hkept : ReceiptsKept userId h)
    (hseasons : db.seasons.map (·.id) = h.db.seasons.map (·.id) ∨
      db.seasons.map (·.id) = h.db.seasons.map (·.id) ++ [seasonId])
    (hseason : seasonId ∈ db.seasons.map (·.id))
    (htiers : ∀ tier ∈ db.tiers, tier ∈ h.db.tiers ∧ tier.seasonId ≠ seasonId)
    (hrows : db.passProgress = h.db.passProgress)
    (hnew : NamesNew userId h.receipts seasonId payload.tiers)
    (hadd : Fanfolio.addTiers db seasonId payload tierIds = .ok db') :
    ReceiptsKept userId { h with db := db' } := by
  simp only [Fanfolio.addTiers, bind_ok, ensure_ok, exists_const, pure_ok] at hadd
  obtain ⟨-, rfl⟩ := hadd
  have hcases : ∀ tier ∈ db.tiers ++ payload.rows seasonId tierIds,
      (tier ∈ h.db.tiers ∧ tier.seasonId ≠ seasonId) ∨
        tier ∈ payload.rows seasonId tierIds ∧ tier.seasonId = seasonId := by
    intro tier hmem
    rcases List.mem_append.mp hmem with hold | hrow
    · exact .inl (htiers tier hold)
    · exact .inr ⟨hrow, (mem_rows hrow).1⟩
  refine ⟨?_, ?_, ?_, ?_, hkept.once⟩
  · exact hrows ▸ hkept.ids
  · intro tier hmem
    rcases hcases tier hmem with ⟨hold, -⟩ | ⟨-, heq⟩
    · have hthere := hkept.seasons tier hold
      rcases hseasons with hsame | hsame
      · exact hsame ▸ hthere
      · exact hsame ▸ List.mem_append_left _ hthere
    · exact heq ▸ hseason
  · intro tier hmem tier' hmem' track hsame hnumber hreward hreward'
    rcases hcases tier hmem with ⟨hold, hne⟩ | ⟨hrow, heq⟩
    · rcases hcases tier' hmem' with ⟨hold', -⟩ | ⟨-, heq'⟩
      · exact hkept.slots tier hold tier' hold' track hsame hnumber hreward hreward'
      · exact absurd (hsame.trans heq') hne
    · rcases hcases tier' hmem' with ⟨-, hne'⟩ | ⟨hrow', -⟩
      · exact absurd (hsame.symm.trans heq) hne'
      · rw [rows_unique (hnew track).1 hrow hrow' hreward hreward' hnumber]
  · intro receipt hreceipt huser tier hmem hsame hnumber hreward
    dsimp only
    rw [hrows]
    rcases hcases tier hmem with ⟨hold, -⟩ | ⟨hrow, heq⟩
    · exact hkept.claimed receipt hreceipt huser tier hold hsame hnumber hreward
    · obtain ⟨-, request, hrequest, htier, hrewards⟩ := mem_rows hrow
      rw [hrewards] at hreward
      refine absurd ?_ ((hnew receipt.track).2 request hrequest hreward)
      rw [← htier, hnumber, ← heq, hsame, ← huser]
      exact hreceipt

theorem orKeep_cases (db : PassDb) (x : Except Failure PassDb) :
    orKeep db x = db ∨ x = .ok (orKeep db x) := by
  cases x with
  | error e => exact .inl rfl
  | ok db' => exact .inr rfl

theorem ReceiptsKept.of_create {h : PassHistory} (hkept : ReceiptsKept userId h)
    {scope : ScopeCheck} (hnew : NamesNew userId h.receipts seasonId payload.tiers) :
    ReceiptsKept userId (seasonStep h (.create seasonId payload scope tierIds)) := by
  rw [seasonStep]
  rcases orKeep_cases h.db (createPassSeason h.db seasonId payload scope tierIds) with heq | hdone
  · rw [heq]
    exact hkept
  · generalize orKeep h.db (createPassSeason h.db seasonId payload scope tierIds) = db' at hdone
    simp only [createPassSeason, bind_ok, ensure_ok, exists_const] at hdone
    obtain ⟨-, artistId, -, hfresh, hadd⟩ := hdone
    refine hkept.addTiers (.inr ?_) ?_ ?_ ?_ hnew hadd
    · simp
    · simp
    · intro tier hmem
      refine ⟨hmem, fun heq => ?_⟩
      obtain ⟨season, hseason, hid⟩ := List.mem_map.mp (hkept.seasons tier hmem)
      exact hfresh season hseason (hid.trans heq)
    · rfl

theorem ReceiptsKept.of_update {h : PassHistory} (hkept : ReceiptsKept userId h)
    {scope : ScopeCheck} (hnew : NamesNew userId h.receipts seasonId payload.tiers) :
    ReceiptsKept userId (seasonStep h (.update seasonId payload scope tierIds)) := by
  rw [seasonStep]
  rcases orKeep_cases h.db (updatePassSeason h.db seasonId payload scope tierIds) with heq | hdone
  · rw [heq]
    exact hkept
  · generalize orKeep h.db (updatePassSeason h.db seasonId payload scope tierIds) = db' at hdone
    simp only [updatePassSeason, bind_ok, ensure_ok, exists_const, orFail_ok] at hdone
    obtain ⟨-, season, hseason, artistId, -, hadd⟩ := hdone
    obtain ⟨hmem, hid⟩ := mem_of_find_eq_some (g := PassSeason.id) hseason
    refine hkept.addTiers (.inl ?_) ?_ ?_ ?_ hnew hadd
    · exact map_patch (by intro _; rfl) _
    · dsimp only
      rw [map_patch (by intro _; rfl), ← hid]
      exact List.mem_map_of_mem hmem
    · intro tier hmem
      simpa using hmem
    · rfl

/-- What touches neither tiers nor claimed lists keeps the receipts tied to the tables. -/
theorem ReceiptsKept.frame {h : PassHistory} (hkept : ReceiptsKept userId h)
    (htiers : db.tiers = h.db.tiers)
    (hseasons : db.seasons.map (·.id) = h.db.seasons.map (·.id))
    (hids : (db.passProgress.map (·.id)).Nodup)
    (hclaimed : ∀ seasonId track, claimedIn db.passProgress userId seasonId track =
      claimedIn h.db.passProgress userId seasonId track) :
    ReceiptsKept userId { h with db := db } := by
  refine ⟨hids, ?_, ?_, ?_, hkept.once⟩
  · dsimp only
    rw [htiers, hseasons]
    exact hkept.seasons
  · rw [SlotsUnique, htiers]
    exact hkept.slots
  · dsimp only
    rw [htiers]
    intro receipt hreceipt huser tier hmem hsame hnumber hreward
    rw [hclaimed]
    exact hkept.claimed receipt hreceipt huser tier hmem hsame hnumber hreward

theorem ReceiptsKept.of_transition {h : PassHistory} (hkept : ReceiptsKept userId h)
    (requiredStatus nextStatus : DefinitionStatus) :
    ReceiptsKept userId { h with
      db := orKeep h.db (transitionPassSeasonStatus h.db seasonId requiredStatus nextStatus) } := by
  rcases orKeep_cases h.db (transitionPassSeasonStatus h.db seasonId requiredStatus nextStatus) with
    heq | hdone
  · rw [heq]
    exact hkept
  · generalize orKeep h.db _ = db' at hdone ⊢
    simp only [transitionPassSeasonStatus, bind_ok, orFail_ok, ensure_ok, exists_const,
      pure_ok] at hdone
    obtain ⟨season, -, -, rfl⟩ := hdone
    refine hkept.frame ?_ ?_ ?_ ?_
    · rfl
    · exact map_patch (by intro _; rfl) _
    · exact hkept.ids
    · exact fun _ _ => rfl

/-- A claim of a number that the fan has received is refused: its tier is in the list. -/
theorem ReceiptsKept.of_claim {h : PassHistory} (hkept : ReceiptsKept userId h)
    {claimer : UserId} {tierId : TierId} {track : PassTrack} {draws : ClaimDraws} {now : Time}
    (hclaim : claimPassTier h.db claimer tierId track draws now = .ok db) :
    ReceiptsKept userId ⟨db, h.receipts ++ claimReceipt h.db claimer tierId track⟩ := by
  obtain ⟨tier, htier, htrack, hnew, htiers, hseasons, hids, hclaimed⟩ :=
    claimPassTier_ok hkept.ids hclaim
  have hmem : tier ∈ h.db.tiers := List.mem_of_find?_eq_some htier
  have hgrows : ∀ seasonId track', ∀ id ∈ claimedIn h.db.passProgress userId seasonId track',
      id ∈ claimedIn db.passProgress userId seasonId track' := by
    intro seasonId track' id hid
    rw [hclaimed]
    split
    · rename_i hsame
      obtain ⟨rfl, rfl, hsame⟩ := hsame
      have hlist : claimedIn h.db.passProgress userId tier.seasonId track' =
          claimedIn h.db.passProgress userId tier.seasonId track := by
        unfold claimedIn PassProgress.claimedIds
        simp only [hsame]
      exact List.mem_append_left _ (hlist ▸ hid)
    · exact hid
  have hreceipt : ∀ receipt ∈ claimReceipt h.db claimer tierId track,
      receipt = ⟨claimer, tier.seasonId, tier.tier, track⟩ ∧ (tier.reward track).isSome := by
    intro receipt hreceipt
    rw [claimReceipt, htier] at hreceipt
    dsimp only at hreceipt
    split at hreceipt
    · rename_i hreward
      exact ⟨List.mem_singleton.mp hreceipt, hreward⟩
    · cases hreceipt
  refine ⟨hids, ?_, ?_, ?_, ?_⟩
  · dsimp only
    rw [htiers, hseasons]
    exact hkept.seasons
  · rw [SlotsUnique, htiers]
    exact hkept.slots
  · dsimp only
    rw [htiers]
    intro receipt hmem' huser tier' htier' hsame hnumber hreward
    rcases List.mem_append.mp hmem' with hold | hnow
    · exact hgrows _ _ _ (hkept.claimed receipt hold huser tier' htier' hsame hnumber hreward)
    · obtain ⟨rfl, hreward'⟩ := hreceipt receipt hnow
      have hid := hkept.slots tier' htier' tier hmem track hsame hnumber hreward hreward'
      rw [hclaimed, if_pos ⟨huser.symm, rfl, Iff.rfl⟩, hid]
      exact List.mem_append_right _ (List.mem_singleton.mpr rfl)
  · rw [ReceivedOnce, List.filter_append, List.nodup_append]
    refine ⟨hkept.once, ?_, ?_⟩
    · rw [claimReceipt, htier]
      dsimp only
      split
      · exact (List.nodup_singleton _).filter _
      · exact List.nodup_nil
    · intro receipt hold receipt' hnow heq
      subst heq
      obtain ⟨hold, huser⟩ := List.mem_filter.mp hold
      obtain ⟨rfl, hreward⟩ := hreceipt receipt (List.mem_filter.mp hnow).1
      have huser : claimer = userId := beq_iff_eq.mp huser
      exact hnew (huser ▸ hkept.claimed _ hold huser tier hmem rfl rfl hreward)

theorem seasonStep_kept {h : PassHistory} (call : SeasonCall) (hkept : ReceiptsKept userId h)
    (hnew : EditsNew userId h call) : ReceiptsKept userId (seasonStep h call) := by
  cases call with
  | grantXp claimer eventId ruleKey amount ledgerId now =>
    rw [seasonStep]
    rcases commitOr_cases h.db.toGrowthDb
      (grantXp h.db.toGrowthDb claimer eventId ruleKey amount ledgerId now) with heq | ⟨row, hdone⟩
    · rw [heq]
      exact hkept
    · obtain ⟨xpLedger, levels, heq, -⟩ := grantXp_ok hdone
      rw [heq]
      exact hkept.frame rfl rfl hkept.ids fun _ _ => rfl
  | refresh claimer season now =>
    rw [seasonStep]
    rcases commitOr_cases h.db.toGrowthDb
      (refreshPassProgress h.db.toGrowthDb claimer season now) with heq | ⟨row, hdone⟩
    · rw [heq]
      exact hkept
    · obtain ⟨-, hids, hclaimed⟩ := refreshPassProgress_ok hdone
      refine hkept.frame rfl ?_ (hids hkept.ids) (hclaimed userId)
      dsimp only
      rw [refreshPassProgress_frame hdone]
  | claim claimer tierId track draws now =>
    rw [seasonStep]
    split
    · rename_i db hclaim
      exact hkept.of_claim hclaim
    · exact hkept
  | create seasonId payload scope tierIds => exact hkept.of_create hnew
  | update seasonId payload scope tierIds => exact hkept.of_update hnew
  | submit seasonId => exact hkept.of_transition .draft .pendingReview
  | approve seasonId => exact hkept.of_transition .pendingReview .published

end

/-- A fan receives the reward of a season, number and track at most once in every run whose edits
leave the numbers alone that the fan has received. -/
theorem passReward_receivedOnce (userId : UserId) {db : PassDb}
    (hids : (db.passProgress.map (·.id)).Nodup)
    (hseasons : ∀ tier ∈ db.tiers, tier.seasonId ∈ db.seasons.map (·.id)) (hslots : SlotsUnique db)
    {calls : List SeasonCall} (hedits : Always seasonStep (EditsNew userId) ⟨db, []⟩ calls) :
    Throughout seasonStep (ReceivedOnce userId) ⟨db, []⟩ calls := by
  have hstart : ReceiptsKept userId ⟨db, []⟩ :=
    ⟨hids, hseasons, hslots, fun _ hreceipt => absurd hreceipt List.not_mem_nil, List.nodup_nil⟩
  exact (hedits.throughout hstart fun h call hkept hnew => seasonStep_kept call hkept hnew).imp
    fun h hkept => hkept.once

/-- A claim, an edit of the season that leaves one tier of a number, and another claim. -/
def editedSeason (number : Nat) : List SeasonCall :=
  [.claim "fan" "tier" .free ⟨"evt_1", "grant_1", "ent_1"⟩ 10,
   .update "season" { tiers := [{ tier := number, requiredXp := 0, rewardId := some "badge" }] }
     (.ok none) (fun _ => "tier_2"),
   .claim "fan" "tier_2" .free ⟨"evt_2", "grant_2", "ent_2"⟩ 20]

theorem passReward_receivedOnce_newNumber :
    Throughout seasonStep (ReceivedOnce "fan") ⟨globalPass [], []⟩ (editedSeason 2) ∧
      (run seasonStep ⟨globalPass [], []⟩ (editedSeason 2)).receipts.length = 2 := by
  refine ⟨passReward_receivedOnce "fan" (by decide) (by decide) ?_ ?_, by decide⟩
  · intro tier htier tier' htier' track _ _ _ _
    rw [List.mem_singleton.mp htier, List.mem_singleton.mp htier']
  · refine ⟨trivial, ?_, trivial, trivial⟩
    intro track
    refine ⟨(List.nodup_singleton 2).sublist (List.filter_sublist.map _), ?_⟩
    intro tier htier _ hreceipt
    rw [List.mem_singleton.mp htier] at hreceipt
    have hreceived : PassReceipt.mk "fan" "season" 2 track = ⟨"fan", "season", 1, .free⟩ :=
      List.mem_singleton.mp hreceipt
    cases hreceived

/-- An edit that keeps the tier number lets the fan receive its reward again. -/
theorem passReward_receivedTwice_sameNumber :
    (run seasonStep ⟨globalPass [], []⟩ (editedSeason 1)).receipts =
      [⟨"fan", "season", 1, .free⟩, ⟨"fan", "season", 1, .free⟩] ∧
    (run seasonStep ⟨globalPass [], []⟩ (editedSeason 1)).db.rewardGrants.map (·.rewardId) =
      ["badge", "badge"] ∧
    ¬Throughout seasonStep (ReceivedOnce "fan") ⟨globalPass [], []⟩ (editedSeason 1) := by
  refine ⟨by decide, by decide, fun h => ?_⟩
  exact absurd h.last (by decide)

end Fanfolio
