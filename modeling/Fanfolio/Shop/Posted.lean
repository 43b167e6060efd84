import Fanfolio.Framework.Text
import Fanfolio.Shop.PackRewards

/-!
# What stays posted

Every movement of points looks for a row under its event and rule before it posts one, and no
event changes its source. So no request touches what is posted under a rule of an event. The
rules of a season pass are its own, and so are those of the rewards that an order delivers.
-/

namespace Fanfolio

open Framework PackRewards

namespace PointDb

/-- What the ledger holds under a rule of an event. -/
def posted (db : PointDb) (key : RuleKey) : List (RuleKey × Int) :=
  (db.ledger.map PointLedger.entry).filter (·.1 == key)

/-- The event that was recorded for a source. -/
def eventOf (db : PointDb) (userId : UserId) (kind sourceType sourceId : String) : Option EventId :=
  (db.events.find? (·.hasSource userId kind sourceType sourceId)).map (·.id)

end PointDb

/-- Events and posted rules stay as they are. -/
structure Settles (db db' : PointDb) : Prop where
  events : ∀ userId kind sourceType sourceId eventId,
    db.eventOf userId kind sourceType sourceId = some eventId →
      db'.eventOf userId kind sourceType sourceId = some eventId
  posted : ∀ key, db.posted key ≠ [] → db'.posted key = db.posted key

namespace Settles

variable {db db' db'' : PointDb} {userId : UserId} {eventId : EventId} {ruleKey : String}
  {amount : Int}

theorem of_same (hevents : db'.events = db.events) (hledger : db'.ledger = db.ledger) :
    Settles db db' := by
  refine ⟨?_, ?_⟩
  · intro userId kind sourceType sourceId eventId h
    rwa [PointDb.eventOf, hevents]
  · intro key _
    rw [PointDb.posted, hledger, PointDb.posted]

theorem refl (db : PointDb) : Settles db db := of_same rfl rfl

theorem trans (h : Settles db db') (h' : Settles db' db'') : Settles db db'' := by
  refine ⟨?_, ?_⟩
  · intro userId kind sourceType sourceId eventId hevent
    exact h'.events _ _ _ _ _ (h.events _ _ _ _ _ hevent)
  · intro key hposted
    have hkept := h.posted key hposted
    rw [← hkept] at hposted
    exact (h'.posted key hposted).trans hkept

/-- A row is posted under a key of its own. -/
theorem of_posted {row : PointLedger} (hevents : db'.events = db.events)
    (hnew : db.findLedger row.userId row.sourceEventId row.ruleKey = none)
    (hledger : db'.ledger = db.ledger ++ [row]) : Settles db db' := by
  have hsame : Settles db { db with events := db'.events } := of_same hevents rfl
  rw [findLedger_eq] at hnew
  have hfree := find_eq_none_iff (g := fun row : PointLedger => row.entry.1).mp hnew
  refine ⟨hsame.events, ?_⟩
  intro key hposted
  have hne : (row.entry.1 == key) = false := by
    rw [beq_eq_false_iff_ne]
    rintro rfl
    refine hposted (List.filter_eq_nil_iff.mpr ?_)
    intro entry hentry heq
    obtain ⟨row', hrow', rfl⟩ := List.mem_map.mp hentry
    exact hfree (List.mem_map.mpr ⟨row', hrow', beq_iff_eq.mp heq⟩)
  rw [PointDb.posted, hledger, List.map_append, List.filter_append, PointDb.posted]
  simp [hne]

theorem of_recordEvent {events : List EngagementEvent} {event : EngagementEvent}
    {kind sourceType sourceId : String} {payload : JsonObject}
    (h : recordEngagementEvent db.events userId kind sourceType sourceId payload eventId =
      .ok (events, event)) : Settles db { db with events := events } := by
  refine ⟨?_, fun _ _ => rfl⟩
  intro userId' kind' sourceType' sourceId' eventId' hfound
  rcases recordEngagementEvent_cases h with ⟨-, rfl⟩ | ⟨-, -, -, rfl⟩
  · exact hfound
  · obtain ⟨found, hfind, rfl⟩ := Option.map_eq_some_iff.mp hfound
    rw [PointDb.eventOf, find_insert_of_some hfind]
    rfl

/-- Events are rewritten, and keep their sources. -/
theorem of_patchEvents {p : EngagementEvent → Bool} {f : EngagementEvent → EngagementEvent}
    (hid : ∀ event, (f event).id = event.id)
    (hsource : ∀ event userId kind sourceType sourceId,
      (f event).hasSource userId kind sourceType sourceId =
        event.hasSource userId kind sourceType sourceId) :
    Settles db { db with events := patch p f db.events } := by
  refine ⟨?_, fun _ _ => rfl⟩
  intro userId kind sourceType sourceId eventId hfound
  obtain ⟨found, hfind, rfl⟩ := Option.map_eq_some_iff.mp hfound
  rw [PointDb.eventOf, find_patch (fun event => hsource event _ _ _ _), hfind]
  simp only [Option.map_some, Option.some.injEq]
  split
  · exact hid found
  · rfl

end Settles

/-- Events are recorded and rewritten, and rows posted under some rules, one after the other. -/
inductive Posts (rules : String → Prop) : PointDb → PointDb → Prop
  | same {db db' : PointDb} (hevents : db'.events = db.events) (hledger : db'.ledger = db.ledger) :
      Posts rules db db'
  | recorded {db : PointDb} {userId : UserId} {kind sourceType sourceId : String}
      {payload : JsonObject} {eventId : EventId} {events : List EngagementEvent}
      {event : EngagementEvent}
      (h : recordEngagementEvent db.events userId kind sourceType sourceId payload eventId =
        .ok (events, event)) : Posts rules db { db with events := events }
  | rewritten {db : PointDb} {p : EngagementEvent → Bool} {f : EngagementEvent → EngagementEvent}
      (hid : ∀ event, (f event).id = event.id)
      (hsource : ∀ event userId kind sourceType sourceId,
        (f event).hasSource userId kind sourceType sourceId =
          event.hasSource userId kind sourceType sourceId) :
      Posts rules db { db with events := patch p f db.events }
  | posted {db db' : PointDb} (row : PointLedger) (hrule : rules row.ruleKey)
      (hid : ∀ row' ∈ db.ledger, row'.id ≠ row.id)
      (hnew : db.findLedger row.userId row.sourceEventId row.ruleKey = none)
      (hevents : db'.events = db.events) (hledger : db'.ledger = db.ledger ++ [row]) :
      Posts rules db db'
  | trans {db db' db'' : PointDb} (h : Posts rules db db') (h' : Posts rules db' db'') :
      Posts rules db db''

namespace Posts

variable {rules : String → Prop} {db db' : PointDb} {userId : UserId} {eventId : EventId}
  {ruleKey : String} {amount : Int}

theorem refl (db : PointDb) : Posts rules db db := same rfl rfl

theorem settles (h : Posts rules db db') : Settles db db' := by
  induction h with
  | same hevents hledger => exact .of_same hevents hledger
  | recorded h => exact .of_recordEvent h
  | rewritten hid hsource => exact .of_patchEvents hid hsource
  | posted row _ _ hnew hevents hledger => exact .of_posted hevents hnew hledger
  | trans _ _ ih ih' => exact ih.trans ih'

/-- The ledger only grows, by rows under the rules. -/
theorem ledger (h : Posts rules db db') :
    ∃ added, db'.ledger = db.ledger ++ added ∧ ∀ row ∈ added, rules row.ruleKey := by
  induction h with
  | same _ hledger => exact ⟨[], by simpa using hledger, by simp⟩
  | recorded => exact ⟨[], by simp, by simp⟩
  | rewritten => exact ⟨[], by simp, by simp⟩
  | posted row hrule _ _ _ hledger => exact ⟨[row], hledger, by simpa using hrule⟩
  | trans _ _ ih ih' =>
    obtain ⟨added, hadded, hrules⟩ := ih
    obtain ⟨added', hadded', hrules'⟩ := ih'
    refine ⟨added ++ added', by rw [hadded', hadded, List.append_assoc], ?_⟩
    intro row hrow
    exact (List.mem_append.mp hrow).elim (hrules row) (hrules' row)

theorem ledgerIds (h : Posts rules db db') (hids : (db.ledger.map (·.id)).Nodup) :
    (db'.ledger.map (·.id)).Nodup := by
  induction h with
  | same _ hledger => rwa [hledger]
  | recorded | rewritten => exact hids
  | posted row _ hid _ _ hledger =>
    rw [hledger]
    exact nodup_insert hids hid
  | trans _ _ ih ih' => exact ih' (ih hids)

theorem of_insertLedger {row : PointLedger} (hrule : rules row.ruleKey)
    (h : db.insertLedger row = .ok db') : Posts rules db db' := by
  obtain ⟨hid, hnew, rfl⟩ := insertLedger_ok.mp h
  exact posted row hrule hid hnew rfl rfl

theorem of_writeBalance {balance : Int} (h : db.writeBalance userId balance = .ok db') :
    Posts rules db db' := by
  obtain ⟨-, rfl⟩ := writeBalance_ok.mp h
  exact same rfl rfl

theorem of_getOrCreate : Posts rules db (db.getOrCreatePointBalanceForUpdate userId).1 := by
  unfold PointDb.getOrCreatePointBalanceForUpdate
  split
  · exact refl db
  · exact same rfl rfl

theorem of_insertTransaction {row : PointTransaction} (h : db.insertTransaction row = .ok db') :
    Posts rules db db' := by
  simp only [PointDb.insertTransaction, bind_ok, ensure_ok, exists_const, pure_ok] at h
  obtain ⟨-, -, rfl⟩ := h
  exact same rfl rfl

theorem of_insertCharge {row : PointCharge} (h : db.insertCharge row = .ok db') :
    Posts rules db db' := by
  simp only [PointDb.insertCharge, bind_ok, ensure_ok, exists_const, pure_ok] at h
  obtain ⟨-, -, rfl⟩ := h
  exact same rfl rfl

variable {description : Option String} {metadata : Option JsonObject} {ledgerId : LedgerId}
  {row : PointLedger} {draws : PointDraws} {now : Time}

theorem of_grantPoints {expiresAt : Option Time} (hrule : rules ruleKey)
    (h : grantPoints db userId eventId ruleKey amount description metadata expiresAt ledgerId =
      .ok (db', row)) : Posts rules db db' := by
  simp only [grantPoints, bind_ok, ensure_ok, exists_const] at h
  obtain ⟨-, h⟩ := h
  split at h
  · obtain ⟨rfl, -⟩ := Prod.mk.inj (pure_ok.mp h)
    exact refl db
  · simp only [bind_ok, pure_ok, Prod.mk.injEq] at h
    obtain ⟨inserted, hinsert, written, hwrite, rfl, hrow⟩ := h
    obtain ⟨hid, hnew, rfl⟩ := insertLedger_ok.mp hinsert
    obtain ⟨-, rfl⟩ := writeBalance_ok.mp hwrite
    refine posted row (hrow ▸ hrule) (hrow ▸ hid) (hrow ▸ hnew) getOrCreatePointBalance_events ?_
    rw [← hrow]
    dsimp only
    rw [getOrCreatePointBalance_ledger]
    exact patch_insert (fun row' hrow' => beq_eq_false_iff_ne.mpr (hid row' hrow')) (by simp)

theorem of_spendPoints (hrule : rules ruleKey)
    (h : spendPoints db userId eventId ruleKey amount description metadata ledgerId =
      .ok (db', row)) : Posts rules db db' := by
  simp only [spendPoints, bind_ok, ensure_ok, exists_const] at h
  obtain ⟨-, h⟩ := h
  split at h
  · obtain ⟨rfl, -⟩ := Prod.mk.inj (pure_ok.mp h)
    exact refl db
  · simp only [bind_ok, pure_ok, Prod.mk.injEq] at h
    obtain ⟨balance, -, -, -, written, hwrite, inserted, hinsert, rfl, -⟩ := h
    exact (of_writeBalance hwrite).trans (of_insertLedger hrule hinsert)

theorem of_reversePoints {reversedLedgerId : LedgerId} (hrule : rules ruleKey)
    (h : reversePoints db userId eventId ruleKey amount reversedLedgerId description metadata
      ledgerId = .ok (db', row)) : Posts rules db db' := by
  simp only [reversePoints, bind_ok, ensure_ok, exists_const] at h
  obtain ⟨-, h⟩ := h
  split at h
  · obtain ⟨rfl, -⟩ := Prod.mk.inj (pure_ok.mp h)
    exact refl db
  · simp only [bind_ok, pure_ok, Prod.mk.injEq] at h
    obtain ⟨written, hwrite, inserted, hinsert, rfl, -⟩ := h
    exact of_getOrCreate.trans ((of_writeBalance hwrite).trans (of_insertLedger hrule hinsert))

theorem of_createPointCharge {packageId : PackageId} {paymentMethod key : String}
    {charge : PointCharge}
    (hrule : ∀ rest, rules ("point_charge:" ++ rest))
    (h : createPointCharge db userId packageId paymentMethod key draws now = .ok (db', charge)) :
    Posts rules db db' := by
  simp only [createPointCharge, bind_ok, Prod.exists] at h
  obtain ⟨stocked, package, hresolve, h⟩ := h
  have hstocked : Posts rules db stocked := by
    simp only [resolvePointChargePackage, bind_ok, orFail_ok, ensure_ok, exists_const, pure_ok,
      Prod.mk.injEq] at hresolve
    obtain ⟨_, -, -, -, rfl, -⟩ := hresolve
    unfold ensurePointChargePackages
    split
    · exact same rfl rfl
    · exact refl db
  split at h
  · obtain ⟨rfl, -⟩ := Prod.mk.inj (pure_ok.mp h)
    exact hstocked
  · simp only [bind_ok, Prod.exists, pure_ok, Prod.mk.injEq] at h
    obtain ⟨events, event, hrecord, granted, ledger, hgrant, charged, hcharge, recorded, hinsert,
      rfl, -⟩ := h
    have hgranted := (Posts.recorded hrecord).trans (of_grantPoints (hrule packageId) hgrant)
    have hcharged : Posts rules granted recorded :=
      (of_insertCharge hcharge).trans (of_insertTransaction hinsert)
    exact hstocked.trans (hgranted.trans hcharged)

theorem of_refundPointCharge {chargeId : ChargeId} {key : String} {charge : PointCharge}
    (hrule : ∀ rest, rules ("point_charge_refund:" ++ rest))
    (h : refundPointCharge db userId chargeId key draws now = .ok (db', charge)) :
    Posts rules db db' := by
  simp only [refundPointCharge] at h
  split at h
  · simp only [bind_ok, ensure_ok, exists_const, pure_ok, Prod.mk.injEq] at h
    obtain ⟨-, _, -, rfl, -⟩ := h
    exact refl db
  · simp only [bind_ok] at h
    obtain ⟨found, -, h⟩ := h
    split at h
    · obtain ⟨rfl, -⟩ := Prod.mk.inj (pure_ok.mp h)
      exact refl db
    · simp only [bind_ok, Prod.exists, ensure_ok, exists_const, pure_ok, Prod.mk.injEq] at h
      obtain ⟨-, _, -, events, event, hrecord, -, written, hwrite, inserted, hinsert, recorded,
        htransaction, rfl, -⟩ := h
      have hledger := of_getOrCreate.trans
        ((of_writeBalance hwrite).trans (of_insertLedger (hrule _) hinsert))
      refine .trans (.recorded hrecord) (hledger.trans (.trans ?_ (of_insertTransaction htransaction)))
      exact same rfl rfl

theorem of_adjustPoints {reason : Option String} {actorId key : String}
    {result : PointLedger × Bool} (hrule : rules "admin_point_adjustment")
    (h : adjustPoints db userId amount reason actorId key draws = .ok (db', result)) :
    Posts rules db db' := by
  simp only [adjustPoints, bind_ok, ensure_ok, exists_const] at h
  obtain ⟨-, -, h⟩ := h
  split at h
  · obtain ⟨rfl, -⟩ := Prod.mk.inj (pure_ok.mp h)
    exact refl db
  · simp only [bind_ok, Prod.exists] at h
    obtain ⟨events, event, hrecord, moved, ledger, hmove, h⟩ := h
    have hmoved : Posts rules { db with events := events } moved := by
      unfold moveAdjustment at hmove
      split at hmove
      · exact of_grantPoints hrule hmove
      · exact of_spendPoints hrule hmove
    have hposts := (Posts.recorded hrecord).trans hmoved
    split at h
    · obtain ⟨rfl, -⟩ := Prod.mk.inj (pure_ok.mp h)
      exact hposts.trans (same rfl rfl)
    · simp only [bind_ok, pure_ok, Prod.mk.injEq] at h
      obtain ⟨inserted, hinsert, rfl, -⟩ := h
      exact hposts.trans (of_insertTransaction hinsert)

theorem of_pointStep (db : PointDb) (call : PointCall) :
    Posts (fun _ => True) db (pointStep db call) := by
  cases call with
  | grant => exact commitOr_keeps (refl db) fun _ _ => of_grantPoints trivial
  | spend => exact commitOr_keeps (refl db) fun _ _ => of_spendPoints trivial
  | reverse => exact commitOr_keeps (refl db) fun _ _ => of_reversePoints trivial
  | charge => exact commitOr_keeps (refl db) fun _ _ => of_createPointCharge fun _ => trivial
  | refund => exact commitOr_keeps (refl db) fun _ _ => of_refundPointCharge fun _ => trivial
  | adjust => exact commitOr_keeps (refl db) fun _ _ => of_adjustPoints trivial

end Posts

/-- The rule that the points of a season pass are posted under. -/
def passRule (seasonId : SeasonId) : String := "pass_purchase:" ++ seasonId

/-- The rule is not that of a season pass. -/
def NotOfPass (ruleKey : String) : Prop := ∀ seasonId, ruleKey ≠ passRule seasonId

/-- The rule is not that of the reward of an order. -/
def NotOfOrder (ruleKey : String) : Prop := ∀ orderId, ruleKey ≠ orderRule orderId

/-- Points are posted, none under the rule of a pass, and rewards of the same catalogue are granted
under some rules, claimed, or taken back from an order before they are claimed. -/
inductive Grows (rules : String → Prop) : GrowthDb → GrowthDb → Prop
  | points {db db' : GrowthDb} (hposts : Posts NotOfPass db.points db'.points)
      (hgrants : db'.rewardGrants = db.rewardGrants) (hrewards : db'.rewards = db.rewards) :
      Grows rules db db'
  | granted {db db' : GrowthDb} (grant : RewardGrant) (hrule : rules grant.ruleKey)
      (hid : ∀ row ∈ db.rewardGrants, row.id ≠ grant.id) (hpoints : db'.points = db.points)
      (hgrants : db'.rewardGrants = db.rewardGrants ++ [grant])
      (hrewards : db'.rewards = db.rewards) : Grows rules db db'
  | claimed {db db' : GrowthDb} (p : RewardGrant → Bool) (now : Time)
      (hpoints : db'.points = db.points)
      (hgrants : db'.rewardGrants = patch p ({ · with claimedAt := some now }) db.rewardGrants)
      (hrewards : db'.rewards = db.rewards) : Grows rules db db'
  | revoked {db db' : GrowthDb} (grant : RewardGrant) (now : Time) (orderId : OrderId)
      (hmem : grant ∈ db.rewardGrants) (hrule : grant.ruleKey = orderRule orderId)
      (hclaimed : grant.claimedAt = none) (hpoints : db'.points = db.points)
      (hgrants : db'.rewardGrants =
        patch (·.id == grant.id) ({ · with revokedAt := some now }) db.rewardGrants)
      (hrewards : db'.rewards = db.rewards) : Grows rules db db'
  | trans {db db' db'' : GrowthDb} (h : Grows rules db db') (h' : Grows rules db' db'') :
      Grows rules db db''

namespace Grows

variable {rules : String → Prop} {db db' : GrowthDb} {userId : UserId} {eventId : EventId}
  {ruleKey : String} {amount : Int} {now : Time}

theorem of_same (hpoints : db'.points = db.points)
    (hgrants : db'.rewardGrants = db.rewardGrants) (hrewards : db'.rewards = db.rewards) :
    Grows rules db db' :=
  points (hpoints ▸ .refl _) hgrants hrewards

theorem refl (db : GrowthDb) : Grows rules db db := of_same rfl rfl rfl

theorem posts (h : Grows rules db db') : Posts NotOfPass db.points db'.points := by
  induction h with
  | points hposts => exact hposts
  | granted _ _ _ hpoints => exact hpoints ▸ .refl _
  | claimed _ _ hpoints => exact hpoints ▸ .refl _
  | revoked _ _ _ _ _ _ hpoints => exact hpoints ▸ .refl _
  | trans _ _ ih ih' => exact ih.trans ih'

/-- A grant was there for the same fan, or was made under one of the rules. -/
theorem origin_user (h : Grows rules db db') {grant : RewardGrant}
    (hgrant : grant ∈ db'.rewardGrants) : rules grant.ruleKey ∨
      ∃ old ∈ db.rewardGrants, old.userId = grant.userId ∧ old.ruleKey = grant.ruleKey := by
  have hpatched : ∀ {p : RewardGrant → Bool} {f : RewardGrant → RewardGrant}
      {rows : List RewardGrant} {grant : RewardGrant},
      (∀ row, (f row).userId = row.userId ∧ (f row).ruleKey = row.ruleKey) →
      grant ∈ patch p f rows →
        ∃ old ∈ rows, old.userId = grant.userId ∧ old.ruleKey = grant.ruleKey := by
    intro p f rows grant hf hmem
    obtain ⟨row, hrow, rfl⟩ := mem_patch.mp hmem
    refine ⟨row, hrow, ?_⟩
    split
    · exact ⟨(hf row).1.symm, (hf row).2.symm⟩
    · exact ⟨rfl, rfl⟩
  induction h generalizing grant with
  | points _ hgrants _ => exact .inr ⟨grant, hgrants ▸ hgrant, rfl, rfl⟩
  | granted made hrule _ _ hgrants _ =>
    rw [hgrants, List.mem_append, List.mem_singleton] at hgrant
    rcases hgrant with hold | rfl
    · exact .inr ⟨grant, hold, rfl, rfl⟩
    · exact .inl hrule
  | claimed p now _ hgrants _ => exact .inr (hpatched (by intro _; exact ⟨rfl, rfl⟩) (hgrants ▸ hgrant))
  | revoked _ _ _ _ _ _ _ hgrants _ => exact .inr (hpatched (by intro _; exact ⟨rfl, rfl⟩) (hgrants ▸ hgrant))
  | trans _ _ ih ih' =>
    rcases ih' hgrant with hrule | ⟨old, hold, huser, heq⟩
    · exact .inl hrule
    · exact huser ▸ heq ▸ ih hold

/-- A grant was there, or was made under one of the rules. -/
theorem origin (h : Grows rules db db') {grant : RewardGrant} (hgrant : grant ∈ db'.rewardGrants) :
    rules grant.ruleKey ∨ ∃ old ∈ db.rewardGrants, old.ruleKey = grant.ruleKey := by
  rcases h.origin_user hgrant with hrule | ⟨old, hold, -, heq⟩
  · exact .inl hrule
  · exact .inr ⟨old, hold, heq⟩

theorem mono {rules' : String → Prop} (h : Grows rules db db')
    (himp : ∀ ruleKey, rules ruleKey → rules' ruleKey) : Grows rules' db db' := by
  induction h with
  | points hposts hgrants hrewards => exact points hposts hgrants hrewards
  | granted grant hrule hid hpoints hgrants hrewards =>
    exact granted grant (himp _ hrule) hid hpoints hgrants hrewards
  | claimed p now hpoints hgrants hrewards => exact claimed p now hpoints hgrants hrewards
  | revoked grant now orderId hmem hrule hclaimed hpoints hgrants hrewards =>
    exact revoked grant now orderId hmem hrule hclaimed hpoints hgrants hrewards
  | trans _ _ ih ih' => exact ih.trans ih'

theorem of_grantXp {ledgerId : LedgerId} {row : XpLedger}
    (h : grantXp db userId eventId ruleKey amount ledgerId now = .ok (db', row)) :
    Grows rules db db' := by
  obtain ⟨xpLedger, levels, rfl, -⟩ := grantXp_ok h
  exact of_same rfl rfl rfl

theorem of_grantPoints {description : String} {metadata : JsonObject} {ledgerId : LedgerId}
    {row : PointLedger} (hrule : NotOfPass ruleKey)
    (h : grantGrowthPoints db userId eventId ruleKey amount description metadata ledgerId =
      .ok (db', row)) : Grows rules db db' := by
  simp only [grantGrowthPoints, bind_ok, Prod.exists, pure_ok, Prod.mk.injEq] at h
  obtain ⟨granted, ledger, hgrant, rfl, -⟩ := h
  exact points (.of_grantPoints hrule hgrant) rfl rfl

theorem of_grantReward {rewardId : RewardId} {grantId : String} {row : RewardGrant}
    (hrule : rules ruleKey)
    (h : grantReward db userId rewardId eventId ruleKey grantId now = .ok (db', row)) :
    Grows rules db db' := by
  rcases grantReward_cases h with ⟨-, rfl⟩ | ⟨-, -, hfresh, rfl, rfl⟩
  · exact refl db'
  · exact granted _ hrule hfresh rfl rfl rfl

theorem of_unlessZero {ρ : Type} {grant : Except Failure (GrowthDb × ρ)}
    (h : unlessZero amount db grant = .ok db')
    (hgrant : ∀ r, grant = .ok (db', r) → Grows rules db db') : Grows rules db db' := by
  rcases unlessZero_ok.mp h with ⟨-, rfl⟩ | ⟨-, r, hr⟩
  · exact refl db
  · exact hgrant r hr

end Grows

theorem notOfOrder_mission (rest : String) : NotOfOrder ("mission:" ++ rest) :=
  append_ne_append (by simp) rest

theorem notOfOrder_achievement (rest : String) : NotOfOrder ("achievement:" ++ rest) :=
  append_ne_append (by simp) rest

theorem notOfOrder_tier (rest : String) : NotOfOrder ("pass_tier:" ++ rest) :=
  append_ne_append (by simp) rest

theorem notOfOrder_exchange (rest : String) : NotOfOrder ("point_exchange:" ++ rest) :=
  append_ne_append (by simp) rest

theorem notOfPass_mission (rest : String) : NotOfPass ("mission:" ++ rest) :=
  append_ne_append (by simp) rest

theorem notOfPass_achievement (rest : String) : NotOfPass ("achievement:" ++ rest) :=
  append_ne_append (by simp) rest

theorem notOfPass_order (rest : String) : NotOfPass ("shop_order:" ++ rest) :=
  append_ne_append (by simp) rest

theorem notOfPass_exchange (rest : String) : NotOfPass ("point_exchange:" ++ rest) :=
  append_ne_append (by simp) rest

theorem notOfPass_charge (rest : String) : NotOfPass ("point_charge:" ++ rest) :=
  append_ne_append (by simp) rest

theorem notOfPass_chargeRefund (rest : String) : NotOfPass ("point_charge_refund:" ++ rest) :=
  append_ne_append (by simp) rest

theorem notOfPass_adjustment : NotOfPass "admin_point_adjustment" := by
  intro seasonId
  rw [← String.append_empty (s := "admin_point_adjustment")]
  exact append_ne_append (by simp) "" seasonId

theorem notOfPass_fanRefund (order : ShopOrder) (key : String) :
    NotOfPass (fanRefund order key).ruleKey :=
  append_ne_append (by simp) order.id

theorem notOfPass_adminRefund (order : ShopOrder) (approvalId actorId : String) :
    NotOfPass (adminRefund order approvalId actorId).ruleKey :=
  append_ne_append (by simp) order.id

section

variable {db db' : GrowthDb} {event : EngagementEvent} {readings : CardReadings}

/-- The rules of missions and achievements are neither of an order nor of a pass. -/
theorem grows_kept (event : EngagementEvent) :
    KeptByWrites event (fun ruleKey => NotOfOrder ruleKey ∧ NotOfPass ruleKey)
      (Grows NotOfOrder) :=
  ⟨.trans, fun _ _ => .of_same rfl rfl rfl, refreshPassProgress_rel fun _ _ => .of_same rfl rfl rfl,
    fun _ => .of_grantXp, fun hrule => .of_grantPoints hrule.2, fun hrule => .of_grantReward hrule.1⟩

theorem attemptEvent_grows {draws : AttemptDraws}
    (h : attemptEvent db event readings draws = .ok db') : Grows NotOfOrder db db' := by
  obtain ⟨withXp, withPasses, hxp, hgrows, rfl⟩ := (grows_kept event).of_attemptEvent
    (fun rest => ⟨notOfOrder_mission rest, notOfPass_mission rest⟩)
    (fun rest => ⟨notOfOrder_achievement rest, notOfPass_achievement rest⟩)
    (fun _ _ => .of_same rfl rfl rfl) h
  refine (Grows.of_unlessZero hxp fun _ => .of_grantXp).trans (hgrows.trans ?_)
  exact .points (.rewritten (fun _ => rfl) fun _ _ _ _ _ => rfl) rfl rfl

end

section

variable {db db' : PassDb} {userId : UserId} {now : Time}

theorem recordTierClaimed_grows {tier : PassTier} {payload : JsonObject} {eventId : EventId}
    {event : EngagementEvent} {keep : Bool}
    (h : recordTierClaimed db userId tier payload eventId now keep = .ok (db', event)) :
    Grows NotOfOrder db.toGrowthDb db'.toGrowthDb := by
  simp only [recordTierClaimed, bind_ok, Prod.exists, pure_ok, Prod.mk.injEq] at h
  obtain ⟨events, event, hrecord, rfl, -⟩ := h
  refine .points ((Posts.recorded hrecord).trans ?_) rfl rfl
  exact .rewritten (fun _ => rfl) fun _ _ _ _ _ => rfl

theorem deliverTierReward_grows {tier : PassTier} {track : PassTrack} {event : EngagementEvent}
    {draws : ClaimDraws} (h : deliverTierReward db userId tier track event draws now = .ok db') :
    Grows NotOfOrder db.toGrowthDb db'.toGrowthDb := by
  unfold deliverTierReward at h
  split at h
  · obtain rfl := Except.ok.inj h
    exact .refl _
  · simp only [bind_ok, Prod.exists] at h
    obtain ⟨granted, grant, hgrant, h⟩ := h
    have hrule : NotOfOrder (tier.claimRule track) := by
      rw [PassTier.claimRule, String.append_assoc, String.append_assoc]
      exact notOfOrder_tier _
    have hgranted : Grows NotOfOrder db.toGrowthDb granted := .of_grantReward hrule hgrant
    split at h
    · obtain rfl := pure_ok.mp h
      exact hgranted
    · split at h
      · simp only [bind_ok, orFail_ok, ensure_ok, exists_const, pure_ok] at h
        obtain ⟨pack, -, -, -, rfl⟩ := h
        exact hgranted.trans (.claimed _ now rfl rfl rfl)
      · obtain rfl := pure_ok.mp h
        exact hgranted.trans (.claimed _ now rfl rfl rfl)

theorem claimPassTier_grows {tierId : TierId} {track : PassTrack} {draws : ClaimDraws}
    (h : claimPassTier db userId tierId track draws now = .ok db') :
    Grows NotOfOrder db.toGrowthDb db'.toGrowthDb := by
  simp only [claimPassTier, bind_ok, Prod.exists] at h
  obtain ⟨tier, season, -, refreshed, progress, hrefresh, hfinish⟩ := h
  simp only [finishClaim, bind_ok, Prod.exists, ensure_ok, exists_const, pure_ok] at hfinish
  obtain ⟨-, -, -, recorded, event, hrecord, delivered, hdeliver, rfl⟩ := hfinish
  have hrefreshed : Grows NotOfOrder db.toGrowthDb refreshed := by
    rw [refreshPassProgress_frame hrefresh]
    exact .of_same rfl rfl rfl
  have hdelivered := deliverTierReward_grows hdeliver
  exact hrefreshed.trans ((recordTierClaimed_grows hrecord).trans
    (hdelivered.trans (.of_same rfl rfl rfl)))

theorem repairTier_grows {tier : PassTier} {draws : RepairDraws} {count : Nat}
    (h : repairTier db userId tier draws now = .ok (db', count)) :
    Grows NotOfOrder db.toGrowthDb db'.toGrowthDb := by
  unfold repairTier at h
  split at h
  · obtain ⟨rfl, -⟩ := Prod.mk.inj (Except.ok.inj h)
    exact .refl _
  · simp only [bind_ok, Prod.exists] at h
    obtain ⟨recorded, event, hrecord, granted, grant, hgrant, h⟩ := h
    have hgranted := (recordTierClaimed_grows hrecord).trans
      (.of_grantReward (notOfOrder_tier _) hgrant)
    split at h
    · obtain ⟨rfl, -⟩ := Prod.mk.inj (pure_ok.mp h)
      exact hgranted
    · obtain ⟨rfl, -⟩ := Prod.mk.inj (pure_ok.mp h)
      exact hgranted.trans (.claimed _ now rfl rfl rfl)

theorem repairTiers_grows {tiers : List PassTier} {draws : TierId → RepairDraws} {count : Nat}
    (h : repairTiers userId draws now tiers db = .ok (db', count)) :
    Grows NotOfOrder db.toGrowthDb db'.toGrowthDb := by
  induction tiers generalizing db count with
  | nil =>
    obtain ⟨rfl, -⟩ := Prod.mk.inj (Except.ok.inj h)
    exact .refl _
  | cons tier tiers ih =>
    simp only [repairTiers, bind_ok, Prod.exists, pure_ok, Prod.mk.injEq] at h
    obtain ⟨repaired, first, hfirst, _, rest, hrest, rfl, -⟩ := h
    exact (repairTier_grows hfirst).trans (ih hrest)

end

section

variable {db db' : ShopDb} {userId : UserId} {now : Time} {rules : String → Prop}

/-- The row of a spend, found or new, is that of its user, event and rule. -/
theorem spendPoints_entry {points points' : PointDb} {eventId : EventId} {ruleKey : String}
    {amount : Int} {ledgerId : LedgerId} {description : Option String}
    {metadata : Option JsonObject} {row : PointLedger}
    (h : spendPoints points userId eventId ruleKey amount description metadata ledgerId =
      .ok (points', row)) : row.entry.1 = (userId, eventId, ruleKey) := by
  simp only [spendPoints, bind_ok, ensure_ok, exists_const, findLedger_eq] at h
  obtain ⟨-, h⟩ := h
  split at h
  · rename_i existing hfind
    obtain ⟨-, rfl⟩ := Prod.mk.inj (pure_ok.mp h)
    exact (mem_of_find_eq_some (g := fun row : PointLedger => row.entry.1) hfind).2
  · simp only [bind_ok, pure_ok, Prod.mk.injEq] at h
    obtain ⟨balance, -, -, -, written, -, inserted, -, -, rfl⟩ := h
    rfl

theorem recordEvent_grows {kind sourceType sourceId : String} {payload : JsonObject}
    {eventId : EventId} {event : EngagementEvent}
    (h : db.recordEvent userId kind sourceType sourceId payload eventId = .ok (db', event)) :
    Grows rules db.toGrowthDb db'.toGrowthDb := by
  simp only [ShopDb.recordEvent, bind_ok, Prod.exists, pure_ok, Prod.mk.injEq] at h
  obtain ⟨events, event', hrecord, rfl, -⟩ := h
  exact .points (.recorded hrecord) rfl rfl

theorem insertTransaction_grows {row : PointTransaction}
    (h : db.insertTransaction row = .ok db') : Grows rules db.toGrowthDb db'.toGrowthDb := by
  simp only [ShopDb.insertTransaction, bind_ok, pure_ok] at h
  obtain ⟨points, hinsert, rfl⟩ := h
  exact .points (.of_insertTransaction hinsert) rfl rfl

/-- What an order delivers is granted under its own rule. -/
theorem deliverOrder_grows {product : ShopProduct} {orderId : OrderId} {eventId : EventId}
    {draws : OrderDraws} (hrule : rules (orderRule orderId))
    (h : deliverOrder db userId product orderId eventId draws now = .ok db') :
    Grows rules db.toGrowthDb db'.toGrowthDb := by
  unfold deliverOrder at h
  split at h
  · simp only [ShopDb.insertEntitlement, bind_ok, ensure_ok, exists_const, pure_ok] at h
    obtain ⟨-, -, rfl⟩ := h
    exact .refl _
  · simp only [bind_ok, Prod.exists, pure_ok] at h
    obtain ⟨granted, row, hgrant, rfl⟩ := h
    exact .of_grantReward hrule hgrant

theorem createShopOrder_grows {payload : ShopOrderCreate} {key : String} {draws : OrderDraws}
    {answer : OrderAnswer} (hrule : rules (orderRule draws.orderId))
    (h : createShopOrder db userId payload key draws now = .ok (db', answer)) :
    Grows rules db.toGrowthDb db'.toGrowthDb := by
  simp only [createShopOrder, bind_ok, ensure_ok, exists_const] at h
  obtain ⟨-, -, h⟩ := h
  split at h
  · simp only [bind_ok, ensure_ok, exists_const, pure_ok, Prod.mk.injEq] at h
    obtain ⟨-, rfl, -⟩ := h
    exact .refl _
  · simp only [bind_ok, placeOrder, Prod.exists, pure_ok, Prod.mk.injEq] at h
    obtain ⟨product, -, ordered, horder, recorded, event, hrecord, spent, ledger, hspend, delivered,
      hdeliver, completed, hinsert, rfl, -⟩ := h
    obtain ⟨-, rfl⟩ := insertOrder_ok horder
    have hspent : Grows rules recorded.toGrowthDb (recorded.withPoints spent).toGrowthDb :=
      .points (.of_spendPoints (notOfPass_order _) hspend) rfl rfl
    exact (recordEvent_grows hrecord).trans (hspent.trans
      ((deliverOrder_grows hrule hdeliver).trans (insertTransaction_grows hinsert)))

theorem exchangePoints_grows {terms : RewardId → ExchangeTerms} {rewardId : RewardId}
    {key : Option String} {draws : ExchangeDraws} {grant : RewardGrant}
    (h : exchangePoints terms db userId rewardId key draws now = .ok (db', grant)) :
    Grows NotOfOrder db.toGrowthDb db'.toGrowthDb := by
  simp only [exchangePoints, bind_ok, ensure_ok, exists_const] at h
  obtain ⟨reward, -, cost, -, -, h⟩ := h
  split at h
  · obtain ⟨rfl, -⟩ := Prod.mk.inj (pure_ok.mp h)
    exact .refl _
  · simp only [bind_ok, ensure_ok, exists_const, Prod.exists, pure_ok, Prod.mk.injEq] at h
    obtain ⟨recorded, event, hrecord, points, ledger, hspend, hfresh, -, rfl, -⟩ := h
    have hspent : Grows NotOfOrder recorded.toGrowthDb (recorded.withPoints points).toGrowthDb :=
      .points (.of_spendPoints (notOfPass_exchange _) hspend) rfl rfl
    refine (recordEvent_grows hrecord).trans (hspent.trans (.granted _ ?_ ?_ rfl rfl rfl))
    · exact notOfOrder_exchange _
    · exact hfresh

/-- A refund takes back a grant of its order. -/
theorem revoke_grows {order : ShopOrder} {message : String} {item : RefundItem}
    (h : refundItem db order message = .ok item) :
    Grows rules db.toGrowthDb (db.revoke item now).toGrowthDb := by
  cases item with
  | entitlement row => exact .refl _
  | grant revoked =>
    obtain ⟨-, hgrant, -, hclaimed⟩ := refundItem_ok h
    have hrevoked := List.find?_some hgrant
    simp only [Bool.and_eq_true, beq_iff_eq] at hrevoked
    exact .revoked revoked now order.id (List.mem_of_find?_eq_some hgrant) hrevoked.2 hclaimed rfl rfl
      rfl

theorem refundOrder_grows {order : ShopOrder} {source : RefundSource} {draws : RefundDraws}
    {balance : Int} (hrule : NotOfPass source.ruleKey)
    (h : refundOrder db order source draws now = .ok (db', balance)) :
    Grows rules db.toGrowthDb db'.toGrowthDb := by
  simp only [refundOrder, bind_ok] at h
  obtain ⟨ledgerId, -, item, hitem, h⟩ := h
  simp only [reverseOrder, bind_ok, Prod.exists, pure_ok, Prod.mk.injEq] at h
  obtain ⟨original, -, recorded, event, hrecord, points, row, hreverse, completed, hinsert, rfl,
    -⟩ := h
  have hreversed : Grows rules recorded.toGrowthDb (recorded.withPoints points).toGrowthDb :=
    .points (.of_reversePoints hrule hreverse) rfl rfl
  have hcompleted : Grows rules (recorded.withPoints points).toGrowthDb completed.toGrowthDb :=
    insertTransaction_grows hinsert
  exact (revoke_grows hitem).trans ((recordEvent_grows hrecord).trans (hreversed.trans hcompleted))

theorem refundShopOrder_grows {orderId : OrderId} {key : String} {draws : RefundDraws}
    {balance : Int} (h : refundShopOrder db userId orderId key draws now = .ok (db', balance)) :
    Grows rules db.toGrowthDb db'.toGrowthDb := by
  rcases refundShopOrder_ok h with ⟨ledger, -, rfl⟩ | ⟨order, -, -, -, horder⟩
  · exact .refl _
  · exact refundOrder_grows (notOfPass_fanRefund order key) horder

theorem claimRewardGrant_grows {grantId : String}
    (h : claimRewardGrant db userId grantId now = .ok db') :
    Grows rules db.toGrowthDb db'.toGrowthDb := by
  simp only [claimRewardGrant, bind_ok] at h
  obtain ⟨grant, -, hlocked⟩ := h
  rcases claimLocked_ok hlocked with rfl | rfl
  · exact .refl _
  · exact .claimed _ now rfl rfl rfl

theorem claimGrants_grows {grants : List RewardGrant} :
    Grows rules db.toGrowthDb (claimGrants userId now grants db).1.toGrowthDb := by
  induction grants generalizing db with
  | nil => exact .refl _
  | cons grant grants ih =>
    simp only [claimGrants]
    split
    · rename_i claimed hclaim
      exact (claimRewardGrant_grows hclaim).trans ih
    · exact .refl _

theorem claimMissionRewards_grows {missionId : MissionId} {order : List RewardGrant} :
    Grows rules db.toGrowthDb
      (claimMissionRewards db userId missionId order now).1.toGrowthDb := by
  have hloop : Grows rules db.toGrowthDb (claimGrants userId now
    (scan order (db.missionGrants userId missionId)) db).1.toGrowthDb := claimGrants_grows
  unfold claimMissionRewards
  split
  · exact .refl _
  · split
    · exact .refl _
    · split
      · rename_i claimed hclaimed
        rw [hclaimed] at hloop
        exact hloop.trans (.of_same rfl rfl rfl)
      · rename_i claimed e hclaimed
        rw [hclaimed] at hloop
        exact hloop

/-- The order that a request places. -/
def RewardAction.newOrder : RewardAction → Option OrderId
  | .order _ _ _ draws _ => some draws.orderId
  | _ => none

/-- The rules under which a request grants rewards. -/
def RewardAction.grantRules (a : RewardAction) (ruleKey : String) : Prop :=
  NotOfOrder ruleKey ∨ ∃ orderId ∈ a.newOrder, ruleKey = orderRule orderId

theorem step_grows (terms : RewardId → ExchangeTerms) (db : ShopDb) (a : RewardAction) :
    Grows a.grantRules db.toGrowthDb (PackRewards.step terms db a).toGrowthDb := by
  have hother : ∀ {db' : ShopDb}, Grows NotOfOrder db.toGrowthDb db'.toGrowthDb →
      Grows a.grantRules db.toGrowthDb db'.toGrowthDb :=
    fun h => h.mono fun _ hrule => .inl hrule
  have hcommit : ∀ {α : Type} {x : Except Failure (ShopDb × α)},
      (∀ db' r, x = .ok (db', r) → Grows a.grantRules db.toGrowthDb db'.toGrowthDb) →
      Grows a.grantRules db.toGrowthDb (commitOr db x).toGrowthDb := by
    intro α x hx
    exact commitOr_keeps
      (P := fun db' : ShopDb => Grows a.grantRules db.toGrowthDb db'.toGrowthDb) (.refl _) hx
  have hkeep : ∀ {x : Except Failure ShopDb},
      (∀ db', x = .ok db' → Grows a.grantRules db.toGrowthDb db'.toGrowthDb) →
      Grows a.grantRules db.toGrowthDb (PackRewards.orKeep db x).toGrowthDb := by
    intro x hx
    exact PackRewards.orKeep_keeps
      (P := fun db' : ShopDb => Grows a.grantRules db.toGrowthDb db'.toGrowthDb) (.refl _) hx
  cases a with
  | record => exact hcommit fun _ _ => recordEvent_grows
  | process eventId readings draws =>
    simp only [PackRewards.step]
    split
    · refine hkeep fun db' hattempt => ?_
      obtain ⟨growth, hgrowth, rfl⟩ := map_ok.mp hattempt
      exact hother (attemptEvent_grows hgrowth)
    · exact .refl _
  | order userId payload key draws now =>
    exact hcommit fun _ _ => createShopOrder_grows (.inr ⟨draws.orderId, rfl, rfl⟩)
  | refund => exact hcommit fun _ _ => refundShopOrder_grows
  | exchange => exact hcommit fun _ _ hexchange => hother (exchangePoints_grows hexchange)
  | claimTier =>
    refine hkeep fun db' hclaim => ?_
    obtain ⟨pass, hpass, rfl⟩ := map_ok.mp hclaim
    exact hother (claimPassTier_grows hpass)
  | reconcile =>
    refine hkeep fun db' hreconcile => ?_
    obtain ⟨⟨pass, count⟩, hpass, rfl⟩ := map_ok.mp hreconcile
    exact hother (repairTiers_grows hpass)
  | claimReward => exact hkeep fun _ => claimRewardGrant_grows
  | claimMission => exact claimMissionRewards_grows

end

end Fanfolio
