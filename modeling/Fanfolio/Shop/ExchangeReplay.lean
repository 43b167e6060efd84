import Fanfolio.Shop.Posted

/-!
# Repeated exchanges

An exchange that is repeated under its key is answered from the grants of its event. A mission that
the event completes puts its own grants there, and the answer is any one of them.
-/

namespace Fanfolio

open Framework PackRewards

/-- The tables, and the terms under which rewards are exchanged. -/
structure ExchangeDb where
  db : ShopDb
  terms : RewardId → ExchangeTerms

/-- A request for rewards, another point operation, or an edit of what is offered. -/
inductive ExchangeAction where
  | request (a : RewardAction)
  | points (call : PointCall)
  | catalogue (rewards : List RewardCatalog) (missions : List MissionDefinition)
      (achievements : List AchievementDefinition) (terms : RewardId → ExchangeTerms)

def exchangeStep (s : ExchangeDb) : ExchangeAction → ExchangeDb
  | .request a => { s with db := PackRewards.step s.terms s.db a }
  | .points call => { s with db := s.db.withPoints (pointStep s.db.points call) }
  | .catalogue rewards missions achievements terms =>
    { db := { s.db with rewards := rewards, missions := missions, achievements := achievements }
      terms := terms }

/-- The source of an exchange under a key. -/
def exchangeSource (userId : UserId) (rewardId : RewardId) (key : String) : String :=
  userId ++ ":" ++ rewardId ++ ":" ++ key

/-- The same tables, with the grants stored in another order. -/
def ShopDb.stored (db : ShopDb) (order : List RewardGrant) : ShopDb :=
  { db with rewardGrants := scan order db.rewardGrants }

/-- The request is answered with the grant and writes nothing, however the grants are stored. -/
def ReturnsGrant (s : ExchangeDb) (userId : UserId) (rewardId : RewardId) (key : String)
    (draws : ExchangeDraws) (now : Time) (grantId : String) : Prop :=
  ∀ order, ∃ row, row.id = grantId ∧
    exchangePoints s.terms (s.db.stored order) userId rewardId (some key) draws now =
      .ok (s.db.stored order, row)

/-- The points of the exchange are debited by one row. -/
def SpentOnce (s : ExchangeDb) (grant : RewardGrant) (cost : Int) : Prop :=
  s.db.points.posted grant.entry.1 = [(grant.entry.1, -cost)]

/-- The reward is published and has a price. -/
def Exchangeable (db : ShopDb) (terms : RewardId → ExchangeTerms) (rewardId : RewardId) : Prop :=
  ∃ reward, db.rewards.find? (fun row => row.id == rewardId && row.status == .published) =
      some reward ∧
    ∃ cost, (terms reward.id).pointCost = some cost ∧ 0 < cost

/-- A grant of the fan for the event of the exchange that is not taken back. -/
def RewardGrant.answers (grant row : RewardGrant) : Bool :=
  row.userId == grant.userId && row.sourceEventId == grant.sourceEventId && row.revokedAt == none

/-- No other grant was made for the event of the exchange. -/
def OnlyGrant (db : ShopDb) (grant : RewardGrant) : Prop :=
  ∀ row ∈ db.rewardGrants, grant.answers row → row.id = grant.id

/-- What a request keeps of the grants that are not those of orders. -/
structure KeepsGrants (db db' : GrowthDb) : Prop where
  ids : (db.rewardGrants.map (·.id)).Nodup → (db'.rewardGrants.map (·.id)).Nodup
  rows : (db.rewardGrants.map (·.id)).Nodup → ∀ row ∈ db.rewardGrants, row.revokedAt = none →
    (∀ orderId, row.ruleKey ≠ orderRule orderId) →
      ∃ row' ∈ db'.rewardGrants, row'.id = row.id ∧ row'.entry = row.entry ∧ row'.revokedAt = none

namespace KeepsGrants

variable {db db' db'' : GrowthDb}

theorem of_same (h : db'.rewardGrants = db.rewardGrants) : KeepsGrants db db' :=
  ⟨by rw [h]; exact id, fun _ row hrow hrevoked _ => ⟨row, h ▸ hrow, rfl, rfl, hrevoked⟩⟩

theorem refl (db : GrowthDb) : KeepsGrants db db := of_same rfl

theorem trans (h : KeepsGrants db db') (h' : KeepsGrants db' db'') : KeepsGrants db db'' := by
  refine ⟨h'.ids ∘ h.ids, fun hids row hrow hrevoked hrule => ?_⟩
  obtain ⟨row', hrow', hid, hentry, hrevoked'⟩ := h.rows hids row hrow hrevoked hrule
  have hsameRule : row'.ruleKey = row.ruleKey := congrArg (·.1.2.2) hentry
  obtain ⟨row'', hrow'', hid', hentry', hrevoked''⟩ :=
    h'.rows (h.ids hids) row' hrow' hrevoked' (by rwa [hsameRule])
  exact ⟨row'', hrow'', hid'.trans hid, hentry'.trans hentry, hrevoked''⟩

/-- Grants are claimed. -/
theorem of_claim {p : RewardGrant → Bool} {now : Time}
    (h : db'.rewardGrants = patch p ({ · with claimedAt := some now }) db.rewardGrants) :
    KeepsGrants db db' := by
  refine ⟨?_, fun _ row hrow hrevoked _ => ?_⟩
  · rw [h, map_patch (by intro _; rfl)]
    exact id
  · refine ⟨_, h ▸ mem_patch.mpr ⟨row, hrow, rfl⟩, ?_⟩
    split
    · exact ⟨rfl, rfl, hrevoked⟩
    · exact ⟨rfl, rfl, hrevoked⟩

/-- The grant of an order is taken back. -/
theorem of_revoke {grant : RewardGrant} {now : Time} {orderId : OrderId}
    (hmem : grant ∈ db.rewardGrants) (hrule : grant.ruleKey = orderRule orderId)
    (h : db'.rewardGrants =
      patch (·.id == grant.id) ({ · with revokedAt := some now }) db.rewardGrants) :
    KeepsGrants db db' := by
  refine ⟨?_, fun hids row hrow hnone hother => ⟨row, h ▸ ?_, rfl, rfl, hnone⟩⟩
  · rw [h, map_patch (by intro _; rfl)]
    exact id
  · refine mem_patch_of_not hrow (beq_eq_false_iff_ne.mpr fun hid => ?_)
    obtain rfl := eq_of_unique hids hrow hmem hid
    exact hother orderId hrule

theorem of_grows {rules : String → Prop} (h : Grows rules db db') : KeepsGrants db db' := by
  induction h with
  | points _ hgrants _ => exact of_same hgrants
  | granted grant _ hid _ hgrants _ =>
    refine ⟨fun hids => hgrants ▸ nodup_insert hids hid, fun _ row hrow hrevoked _ => ?_⟩
    exact ⟨row, hgrants ▸ List.mem_append_left _ hrow, rfl, rfl, hrevoked⟩
  | claimed _ _ _ hgrants _ => exact of_claim hgrants
  | revoked _ _ _ hmem hrule _ _ hgrants _ => exact of_revoke hmem hrule hgrants
  | trans _ _ ih ih' => exact ih.trans ih'

end KeepsGrants

theorem exchangeStep_keeps (s : ExchangeDb) (a : ExchangeAction) :
    Settles s.db.points (exchangeStep s a).db.points ∧
      KeepsGrants s.db.toGrowthDb (exchangeStep s a).db.toGrowthDb := by
  cases a with
  | request a =>
    have hgrows := step_grows s.terms s.db a
    exact ⟨hgrows.posts.settles, .of_grows hgrows⟩
  | points call => exact ⟨(Posts.of_pointStep s.db.points call).settles, .of_same rfl⟩
  | catalogue => exact ⟨.refl _, .of_same rfl⟩

/-- What an exchange leaves behind, and every later request keeps. -/
structure ExchangeKept (rewardId : RewardId) (key : String) (cost : Int) (grant : RewardGrant)
    (s : ExchangeDb) : Prop where
  event : s.db.points.eventOf grant.userId "points_spent" "point_exchange"
    (exchangeSource grant.userId rewardId key) = some grant.sourceEventId
  spent : SpentOnce s grant cost
  ids : (s.db.rewardGrants.map (·.id)).Nodup
  row : ∃ row ∈ s.db.rewardGrants, row.id = grant.id ∧ row.entry = grant.entry ∧
    row.revokedAt = none

section

variable {s : ExchangeDb} {rewardId : RewardId} {key : String} {cost : Int} {grant : RewardGrant}
  {draws : ExchangeDraws} {now : Time}

theorem ExchangeKept.step (h : ExchangeKept rewardId key cost grant s)
    (hrule : ∀ orderId, grant.ruleKey ≠ orderRule orderId) (a : ExchangeAction) :
    ExchangeKept rewardId key cost grant (exchangeStep s a) := by
  obtain ⟨hsettles, hgrants⟩ := exchangeStep_keeps s a
  obtain ⟨row, hrow, hid, hentry, hrevoked⟩ := h.row
  have hsameRule : row.ruleKey = grant.ruleKey := congrArg (·.1.2.2) hentry
  obtain ⟨row', hrow', hid', hentry', hrevoked'⟩ :=
    hgrants.rows h.ids row hrow hrevoked (by rwa [hsameRule])
  refine ⟨hsettles.events _ _ _ _ _ h.event, ?_, hgrants.ids h.ids, row', hrow', hid'.trans hid,
    hentry'.trans hentry, hrevoked'⟩
  have hspent := h.spent
  rw [SpentOnce] at hspent ⊢
  rw [hsettles.posted _ (by simp [hspent]), hspent]

/-- The grants among which the answer is found. -/
theorem ExchangeKept.exchangedGrant (h : ExchangeKept rewardId key cost grant s)
    (order : List RewardGrant) :
    (s.db.stored order).exchangedGrant grant.userId (exchangeSource grant.userId rewardId key) =
      (scan order s.db.rewardGrants).find? grant.answers := by
  obtain ⟨event, hevent, hid⟩ := Option.map_eq_some_iff.mp h.event
  rw [ShopDb.exchangedGrant]
  show (s.db.points.events.find? _).bind _ = _
  rw [hevent, Option.bind_some, hid]
  rfl

theorem ExchangeKept.answered (h : ExchangeKept rewardId key cost grant s)
    (order : List RewardGrant) : ∃ row ∈ s.db.rewardGrants, grant.answers row ∧
      (scan order s.db.rewardGrants).find? grant.answers = some row := by
  have hperm := scan_perm order s.db.rewardGrants
  obtain ⟨row, hrow, -, hentry, hrevoked⟩ := h.row
  simp only [RewardGrant.entry, Prod.mk.injEq] at hentry
  have hanswers : grant.answers row := by
    simp [RewardGrant.answers, hentry.1.1, hentry.1.2.1, hrevoked]
  obtain ⟨found, hfound⟩ : ∃ found, (scan order s.db.rewardGrants).find? grant.answers =
      some found := by
    apply Option.isSome_iff_exists.mp
    rw [List.find?_isSome]
    exact ⟨row, hperm.mem_iff.mpr hrow, hanswers⟩
  exact ⟨found, hperm.mem_iff.mp (List.mem_of_find?_eq_some hfound), List.find?_some hfound, hfound⟩

/-- An exchange with a grant to answer from checks the reward and writes nothing. -/
theorem exchangePoints_replay {terms : RewardId → ExchangeTerms} {db db' : ShopDb} {userId : UserId}
    {row row' : RewardGrant} (hkey : key ≠ "")
    (h : db.exchangedGrant userId (exchangeSource userId rewardId key) = some row) :
    exchangePoints terms db userId rewardId (some key) draws now = .ok (db', row') ↔
      Exchangeable db terms rewardId ∧ db' = db ∧ row' = row := by
  have hsource : (Option.filter (· ≠ "") (some key)).getD draws.nonce = key := by
    simp [Option.filter, hkey]
  rw [exchangeSource] at h
  simp only [exchangePoints, hsource, h, bind_ok, orFail_ok, ensure_ok,
    exists_const, pure_ok, Prod.mk.injEq, Exchangeable]
  constructor
  · rintro ⟨reward, hreward, cost, hcost, hpos, rfl, rfl⟩
    exact ⟨⟨reward, hreward, cost, hcost, hpos⟩, rfl, rfl⟩
  · rintro ⟨⟨reward, hreward, cost, hcost, hpos⟩, rfl, rfl⟩
    exact ⟨reward, hreward, cost, hcost, hpos, rfl, rfl⟩

/-- The answer is the grant in every order of the rows exactly if no other one can be found. -/
theorem ExchangeKept.returnsGrant_iff (h : ExchangeKept rewardId key cost grant s) (hkey : key ≠ "") :
    ReturnsGrant s grant.userId rewardId key draws now grant.id ↔
      Exchangeable s.db s.terms rewardId ∧ OnlyGrant s.db grant := by
  constructor
  · intro hreturns
    refine ⟨?_, fun row hrow hanswers => ?_⟩
    · obtain ⟨found, -, -, hfound⟩ := h.answered []
      obtain ⟨row, -, hok⟩ := hreturns []
      rw [exchangePoints_replay hkey ((h.exchangedGrant []).trans hfound)] at hok
      exact hok.1
    · -- the rows are stored with this one first
      have hperm : (row :: s.db.rewardGrants.erase row).Perm s.db.rewardGrants :=
        (List.perm_cons_erase hrow).symm
      have hfound : (scan (row :: s.db.rewardGrants.erase row) s.db.rewardGrants).find?
          grant.answers = some row := by
        rw [scan, if_pos hperm]
        exact List.find?_cons_of_pos hanswers
      obtain ⟨row', hid, hok⟩ := hreturns (row :: s.db.rewardGrants.erase row)
      rw [exchangePoints_replay hkey ((h.exchangedGrant _).trans hfound)] at hok
      rw [← hok.2.2]
      exact hid
  · rintro ⟨hexchangeable, honly⟩ order
    obtain ⟨found, hmem, hanswers, hfound⟩ := h.answered order
    refine ⟨found, honly found hmem hanswers, ?_⟩
    rw [exchangePoints_replay hkey ((h.exchangedGrant order).trans hfound)]
    exact ⟨hexchangeable, rfl, rfl⟩

/-- The first exchange under a key records its event, debits the price, and adds its grant. -/
theorem exchangePoints_kept {terms : RewardId → ExchangeTerms} {db db' : ShopDb} {userId : UserId}
    (hkey : key ≠ "") (hids : (db.rewardGrants.map (·.id)).Nodup)
    (hledger : ∀ row ∈ db.points.ledger, row.sourceEventId ∈ db.points.events.map (·.id))
    (hfirst : db.points.eventOf userId "points_spent" "point_exchange"
      (exchangeSource userId rewardId key) = none)
    (h : exchangePoints terms db userId rewardId (some key) draws now = .ok (db', grant)) :
    grant.userId = userId ∧ (∀ orderId, grant.ruleKey ≠ orderRule orderId) ∧
      ∃ cost, (terms rewardId).pointCost = some cost ∧
        ExchangeKept rewardId key cost grant ⟨db', terms⟩ := by
  have hsource : (Option.filter (· ≠ "") (some key)).getD draws.nonce = key := by
    simp [Option.filter, hkey]
  have hnone : db.points.events.find? (·.hasSource userId "points_spent" "point_exchange"
      (exchangeSource userId rewardId key)) = none := Option.map_eq_none_iff.mp hfirst
  have hungranted : db.exchangedGrant userId (exchangeSource userId rewardId key) = none := by
    rw [ShopDb.exchangedGrant, hnone]
    rfl
  have hnone' := hnone
  rw [exchangeSource] at hungranted hnone'
  simp only [exchangePoints, hsource, hungranted, ShopDb.recordEvent, recordEngagementEvent,
    hnone', bind_ok, orFail_ok, ensure_ok, exists_const, Prod.exists, pure_ok,
    Prod.mk.injEq] at h
  obtain ⟨reward, hreward, cost, hcost, -, recorded, event, ⟨events, event', hrecord, rfl, rfl⟩,
    points, ledger, hspend, hfresh, hfreshKey, rfl, rfl⟩ := h
  split at hrecord
  · cases hrecord
  rename_i hnew
  obtain ⟨rfl, rfl⟩ := Prod.mk.inj (Except.ok.inj hrecord)
  have hrewardId : reward.id = rewardId := by
    have hfound := List.find?_some hreward
    simp only [Bool.and_eq_true, beq_iff_eq] at hfound
    exact hfound.1
  subst hrewardId
  have hunposted : ∀ row ∈ db.points.ledger, row.sourceEventId ≠ draws.eventId := by
    intro row hrow heq
    obtain ⟨event, hevent, hid⟩ := List.mem_map.mp (hledger row hrow)
    refine hnew (List.any_eq_true.mpr ⟨event, hevent, ?_⟩)
    simp [hid, heq]
  refine ⟨rfl, ?_, cost, hcost, ?_⟩
  · exact notOfOrder_exchange reward.id
  · obtain ⟨hevent, ⟨rfl, hmem⟩ | ⟨⟨balances, rfl⟩, -, hrule, -, hamount, -⟩⟩ := spendPoints_ok hspend
    · exact absurd hevent (hunposted ledger hmem)
    · refine ⟨?_, ?_, ?_, ?_⟩
      · show ((db.points.events ++ [_]).find? _).map _ = _
        rw [find_insert, hnone, Option.none_or]
        simp [EngagementEvent.hasSource, exchangeSource]
      · have hentry : ledger.entry = ((userId, draws.eventId, "point_exchange:" ++ reward.id), -cost) :=
          Prod.ext (spendPoints_entry hspend) hamount
        have hold : (db.points.ledger.map PointLedger.entry).filter
            (·.1 == (userId, draws.eventId, "point_exchange:" ++ reward.id)) = [] := by
          refine List.filter_eq_nil_iff.mpr fun entry hmem heq => ?_
          obtain ⟨row, hrow, rfl⟩ := List.mem_map.mp hmem
          exact hunposted row hrow (congrArg (·.2.1) (beq_iff_eq.mp heq))
        show ((db.points.ledger ++ [ledger]).map PointLedger.entry).filter
          (·.1 == (userId, draws.eventId, "point_exchange:" ++ reward.id)) = _
        rw [List.map_append, List.filter_append, hold, List.map_singleton, hentry]
        simp [RewardGrant.entry]
      · exact nodup_insert hids hfresh
      · exact ⟨_, List.mem_append_right _ List.mem_cons_self, rfl, rfl, rfl⟩

/-- After any requests, an exchange that is repeated under its key returns the grant of the first
one, and its points are debited once, exactly if the reward can still be exchanged and no other
grant was made for the event. -/
theorem exchangeReplays_iff {terms : RewardId → ExchangeTerms} {db₀ db : ShopDb} {userId : UserId}
    {draws₀ : ExchangeDraws} {now₀ : Time} (hkey : key ≠ "")
    (hids : (db₀.rewardGrants.map (·.id)).Nodup)
    (hledger : ∀ row ∈ db₀.points.ledger, row.sourceEventId ∈ db₀.points.events.map (·.id))
    (hfirst : db₀.points.eventOf userId "points_spent" "point_exchange"
      (exchangeSource userId rewardId key) = none)
    (h : exchangePoints terms db₀ userId rewardId (some key) draws₀ now₀ = .ok (db, grant))
    (acts : List ExchangeAction) (draws : ExchangeDraws) (now : Time) :
    (ReturnsGrant (run exchangeStep ⟨db, terms⟩ acts) userId rewardId key draws now grant.id ∧
        ∃ cost, (terms rewardId).pointCost = some cost ∧
          SpentOnce (run exchangeStep ⟨db, terms⟩ acts) grant cost) ↔
      Exchangeable (run exchangeStep ⟨db, terms⟩ acts).db (run exchangeStep ⟨db, terms⟩ acts).terms
          rewardId ∧
        OnlyGrant (run exchangeStep ⟨db, terms⟩ acts).db grant := by
  obtain ⟨rfl, hrule, cost, hcost, hkept⟩ := exchangePoints_kept hkey hids hledger hfirst h
  have hlast : ExchangeKept rewardId key cost grant (run exchangeStep ⟨db, terms⟩ acts) :=
    run_of_step hkept fun _ a hs => hs.step hrule a
  rw [← hlast.returnsGrant_iff hkey]
  exact and_iff_left ⟨cost, hcost, hlast.spent⟩

end

namespace ExchangeReplayExample

/-- A mission that one exchange completes, with a badge for its reward. -/
def mission (rewardId : Option RewardId) : MissionDefinition :=
  { id := "mission_1", title := "Exchange", eventKind := "points_spent", targetValue := 1
    rewardPayload := { points := 1, rewardId := rewardId }, status := .published
    target_pos := Nat.one_pos }

def db (rewardId : Option RewardId) : ShopDb :=
  { openShop [] [⟨"fan_a", 100⟩] with
    rewards := [{ id := "frame", status := .published }, { id := "badge", status := .published }]
    missions := [mission rewardId] }

def terms (_ : RewardId) : ExchangeTerms := ⟨"Frame", some 5⟩

def draws : ExchangeDraws := ⟨"evt_1", "point_1", "reward_grant_1", "nonce_1"⟩

def exchange (rewardId : Option RewardId) : Except Failure (ShopDb × RewardGrant) :=
  exchangePoints terms (db rewardId) "fan_a" "frame" (some "key") draws 0

def exchanged (rewardId : Option RewardId) : ShopDb := commitOr (db rewardId) (exchange rewardId)

def grant : RewardGrant :=
  { id := "reward_grant_1", userId := "fan_a", rewardId := "frame", sourceEventId := "evt_1"
    ruleKey := "point_exchange:frame", grantedAt := 0 }

/-- A worker processes the event of the exchange. -/
def process : ExchangeAction :=
  .request (.process "evt_1" {}
    { now := 1, xpId := "xp_1", missionOrder := []
      mission := fun _ => ⟨1, "mission_progress_1", "xp_2", "point_2", "reward_grant_2"⟩
      achievementOrder := [], achievement := fun _ => ⟨1, "", "", ""⟩ })

/-- The grant of the mission. -/
def badge : RewardGrant :=
  { id := "reward_grant_2", userId := "fan_a", rewardId := "badge", sourceEventId := "evt_1"
    ruleKey := "mission:mission_1:once", grantedAt := 1 }

def again : ExchangeDraws := ⟨"evt_2", "point_3", "reward_grant_3", "nonce_2"⟩

theorem exchange_ok (rewardId : Option RewardId) :
    exchange rewardId = .ok (exchanged rewardId, grant) := rfl

theorem processed_grants : (run exchangeStep ⟨exchanged (some "badge"), terms⟩ [process]).db.rewardGrants =
    [grant, badge] := by decide

end ExchangeReplayExample

open ExchangeReplayExample in
theorem exchangeReplays_iff_points :
    ReturnsGrant (run exchangeStep ⟨exchanged none, terms⟩ [process]) "fan_a" "frame" "key" again 2
        "reward_grant_1" ∧
      ∃ cost, (terms "frame").pointCost = some cost ∧
        SpentOnce (run exchangeStep ⟨exchanged none, terms⟩ [process]) grant cost := by
  refine (exchangeReplays_iff (by decide) (by decide) (by decide) (by decide) (exchange_ok none)
    [process] again 2).mpr ⟨⟨_, rfl, 5, rfl, by decide⟩, ?_⟩
  have hgrants : (run exchangeStep ⟨exchanged none, terms⟩ [process]).db.rewardGrants = [grant] := by
    decide
  rw [OnlyGrant, hgrants]
  decide

open ExchangeReplayExample in
/-- The event of the exchange completes a mission with a badge: the repeated exchange is answered
with the grant of the badge when that row comes first. -/
theorem exchangeReplays_fails : exchange (some "badge") = .ok (exchanged (some "badge"), grant) ∧
    ¬(ReturnsGrant (run exchangeStep ⟨exchanged (some "badge"), terms⟩ [process]) "fan_a" "frame"
        "key" again 2 "reward_grant_1" ∧
      ∃ cost, (terms "frame").pointCost = some cost ∧
        SpentOnce (run exchangeStep ⟨exchanged (some "badge"), terms⟩ [process]) grant cost) := by
  refine ⟨exchange_ok _, ?_⟩
  rintro ⟨hreturns, -⟩
  obtain ⟨row, hid, hok⟩ := hreturns [badge, grant]
  have hanswer : exchangePoints terms ((run exchangeStep ⟨exchanged (some "badge"), terms⟩
      [process]).db.stored [badge, grant]) "fan_a" "frame" (some "key") again 2 =
        .ok ((run exchangeStep ⟨exchanged (some "badge"), terms⟩ [process]).db.stored
          [badge, grant], badge) := by
    decide
  obtain ⟨-, rfl⟩ := Prod.mk.inj (Except.ok.inj (hok.symm.trans hanswer))
  exact absurd hid (by decide)

end Fanfolio
