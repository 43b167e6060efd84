import Fanfolio.Framework.Text
import Fanfolio.Points.Movements

/-!
# Adjustments under one key

An adjustment leaves three records: a transaction under its key, an event of its own source and a
row of the ledger under that event. No other operation records an event of such a source, and none
writes a transaction of an adjustment with a resource.
-/

namespace Fanfolio

open Framework

/-- The source of the event of an adjustment. -/
def adjustmentSource (userId : UserId) (idempotencyKey : String) : String :=
  "admin_adjustment:" ++ userId ++ ":" ++ idempotencyKey

/-- The event of an adjustment. -/
def PointDb.adjustmentEvent (db : PointDb) (userId : UserId) (idempotencyKey : String) :
    Option EngagementEvent :=
  db.events.find? (·.hasSource userId "points_adjusted" "admin_point_adjustment"
    (adjustmentSource userId idempotencyKey))

/-- An adjustment that went through, with the entry it returned. -/
structure Adjustment where
  userId : UserId
  idempotencyKey : String
  amount : Int
  ledger : PointLedger
deriving DecidableEq, Repr

structure AdjustedPoints where
  db : PointDb
  adjustments : List Adjustment
deriving DecidableEq, Repr

/-- The first adjustment of a user that went through with a key. -/
def AdjustedPoints.first (s : AdjustedPoints) (userId : UserId) (idempotencyKey : String) :
    Option Adjustment :=
  s.adjustments.find? fun entry => entry.userId == userId && entry.idempotencyKey == idempotencyKey

/-- The event that a movement of points names. -/
def PointCall.sourceEvent : PointCall → Option EventId
  | .grant _ sourceEventId _ _ _ _ _ _ => some sourceEventId
  | .spend _ sourceEventId _ _ _ _ _ => some sourceEventId
  | .reverse _ sourceEventId _ _ _ _ _ _ => some sourceEventId
  | _ => none

/-- The foreign key of `source_event_id`. -/
def PointDb.HasEvent (db : PointDb) (eventId : EventId) : Prop :=
  ∃ event ∈ db.events, event.id = eventId

instance (db : PointDb) (eventId : EventId) : Decidable (db.HasEvent eventId) :=
  inferInstanceAs (Decidable (∃ event ∈ db.events, event.id = eventId))

/-- The adjustment that a call makes, or repeats. -/
def PointCall.adjusted (db : PointDb) : PointCall → Option Adjustment
  | .adjust userId amount reason actorId idempotencyKey draws =>
    match adjustPoints db userId amount reason actorId idempotencyKey draws with
    | .ok (_, ledger, _) => some ⟨userId, idempotencyKey, amount, ledger⟩
    | .error _ => none
  | _ => none

/-- What the requests do to points: calls of the operations, and the writes around them. Orders,
exchanges, rewards and approvals are sequences of these. -/
inductive PointRequest where
  | call (call : PointCall)
  | record (userId : UserId) (kind sourceType sourceId : String) (payload : JsonObject)
      (eventId : EventId)
  | mark (eventId : EventId) (status : EventStatus)
  | transaction (row : PointTransaction)
deriving DecidableEq, Repr

namespace AdjustedPoints

def opening (packages : List PointChargePackage) : AdjustedPoints := ⟨.opening packages [], []⟩

/-- The state after one request; one that fails is rolled back. Only `adjust_points` records events
of the source type `admin_point_adjustment`, and the transaction of an approved adjustment names
no resource. -/
def step (s : AdjustedPoints) : PointRequest → AdjustedPoints
  | .call call =>
    if ∀ eventId ∈ call.sourceEvent, s.db.HasEvent eventId then
      ⟨pointStep s.db call, s.adjustments ++ (call.adjusted s.db).toList⟩
    else
      s
  | .record userId kind sourceType sourceId payload eventId =>
    if sourceType = "admin_point_adjustment" then s
    else
      match recordEngagementEvent s.db.events userId kind sourceType sourceId payload eventId with
      | .ok (events, _) => { s with db := { s.db with events := events } }
      | .error _ => s
  | .mark eventId status =>
    { s with db := { s.db with
        events := patch (·.id == eventId) ({ · with status := status }) s.db.events } }
  | .transaction row =>
    if row.operation = .adjustment ∧ row.resourceId ≠ none then s
    else
      match s.db.insertTransaction row with
      | .ok db => { s with db := db }
      | .error _ => s

/-- The state that a sequence of requests leaves behind. -/
def after (packages : List PointChargePackage) (requests : List PointRequest) : AdjustedPoints :=
  run step (opening packages) requests

end AdjustedPoints

section Movements

variable {db db' : PointDb} {userId : UserId} {eventId : EventId} {ruleKey : String} {amount : Int}
  {description : Option String} {metadata : Option JsonObject} {ledgerId : LedgerId}
  {row : PointLedger}

/-- The row is posted, and nothing but the ledger and the balances is written. -/
structure Enters (db db' : PointDb) (row : PointLedger) : Prop where
  posted : Posted db db' row
  events : db'.events = db.events
  transactions : db'.transactions = db.transactions

/-- A movement finds its row and changes nothing, or enters a row of the amount. -/
def MovesOnce (userId : UserId) (eventId : EventId) (ruleKey : String) (amount : Int)
    (db db' : PointDb) (row : PointLedger) : Prop :=
  db.findLedger userId eventId ruleKey = some row ∧ db' = db ∨
    db.findLedger userId eventId ruleKey = none ∧ Enters db db' row ∧
      row.userId = userId ∧ row.sourceEventId = eventId ∧ row.amount = amount

theorem recordEngagementEvent_mem {events events' : List EngagementEvent} {event : EngagementEvent}
    {kind sourceType sourceId : String} {payload : JsonObject}
    (h : recordEngagementEvent events userId kind sourceType sourceId payload eventId =
      .ok (events', event)) : event ∈ events' := by
  rcases recordEngagementEvent_cases h with ⟨hfound, rfl⟩ | ⟨-, -, -, rfl⟩
  · exact List.mem_of_find?_eq_some hfound
  · simp

theorem MovesOnce.entered (h : MovesOnce userId eventId ruleKey amount db db' row)
    (hnone : db.findLedger userId eventId ruleKey = none) :
    Enters db db' row ∧ row.userId = userId ∧ row.sourceEventId = eventId ∧
      row.amount = amount := by
  rcases h with ⟨hfound, -⟩ | ⟨-, hentered⟩
  · rw [hnone] at hfound
    cases hfound
  · exact hentered

theorem PostsAtMostOnce.posted_of_new (h : PostsAtMostOnce db db') (hnew : row ∈ db'.ledger)
    (hold : row ∉ db.ledger) : Posted db db' row := by
  rcases h with hsame | ⟨row', hposted⟩
  · rw [hsame.ledger] at hnew
    exact absurd hnew hold
  · rw [hposted.ledger, List.mem_append, List.mem_singleton] at hnew
    obtain rfl := hnew.resolve_left hold
    exact hposted

theorem grantPoints_movesOnce {expiresAt : Option Time}
    (h : grantPoints db userId eventId ruleKey amount description metadata expiresAt ledgerId =
      .ok (db', row)) : MovesOnce userId eventId ruleKey amount db db' row := by
  have hposts := grantPoints_posts h
  simp only [grantPoints, bind_ok, ensure_ok, exists_const] at h
  obtain ⟨-, h⟩ := h
  split at h
  · rename_i existing hfound
    obtain ⟨rfl, rfl⟩ := Prod.mk.inj (pure_ok.mp h)
    exact .inl ⟨hfound, rfl⟩
  · rename_i hnone
    simp only [bind_ok, pure_ok, Prod.mk.injEq] at h
    obtain ⟨inserted, hinsert, written, hwrite, rfl, rfl⟩ := h
    obtain ⟨hfresh, -, rfl⟩ := insertLedger_ok.mp hinsert
    obtain ⟨-, rfl⟩ := writeBalance_ok.mp hwrite
    refine .inr ⟨hnone, ⟨hposts.posted_of_new ?_ ?_, ?_, ?_⟩, rfl, rfl, rfl⟩
    · dsimp only
      rw [getOrCreatePointBalance_ledger, patch_append]
      exact List.mem_append_right _ (by simp [patch])
    · intro hold
      exact hfresh _ hold rfl
    · exact getOrCreatePointBalance_events
    · exact getOrCreatePointBalance_transactions

theorem spendPoints_movesOnce
    (h : spendPoints db userId eventId ruleKey amount description metadata ledgerId =
      .ok (db', row)) : MovesOnce userId eventId ruleKey (-amount) db db' row := by
  have hposts := spendPoints_posts h
  simp only [spendPoints, bind_ok, ensure_ok, exists_const] at h
  obtain ⟨-, h⟩ := h
  split at h
  · rename_i existing hfound
    obtain ⟨rfl, rfl⟩ := Prod.mk.inj (pure_ok.mp h)
    exact .inl ⟨hfound, rfl⟩
  · rename_i hnone
    simp only [bind_ok, orFail_ok, ensure_ok, exists_const, pure_ok, Prod.mk.injEq] at h
    obtain ⟨balance, -, -, written, hwrite, inserted, hinsert, rfl, rfl⟩ := h
    obtain ⟨-, rfl⟩ := writeBalance_ok.mp hwrite
    obtain ⟨hfresh, -, rfl⟩ := insertLedger_ok.mp hinsert
    refine .inr ⟨hnone, ⟨hposts.posted_of_new (by simp) ?_, rfl, rfl⟩, rfl, rfl, rfl⟩
    intro hold
    exact hfresh _ hold rfl

theorem reversePoints_movesOnce {reversedLedgerId : LedgerId}
    (h : reversePoints db userId eventId ruleKey amount reversedLedgerId description metadata
      ledgerId = .ok (db', row)) : MovesOnce userId eventId ruleKey amount db db' row := by
  have hposts := reversePoints_posts h
  simp only [reversePoints, bind_ok, ensure_ok, exists_const] at h
  obtain ⟨-, h⟩ := h
  split at h
  · rename_i existing hfound
    obtain ⟨rfl, rfl⟩ := Prod.mk.inj (pure_ok.mp h)
    exact .inl ⟨hfound, rfl⟩
  · rename_i hnone
    simp only [bind_ok, pure_ok, Prod.mk.injEq] at h
    obtain ⟨written, hwrite, inserted, hinsert, rfl, rfl⟩ := h
    obtain ⟨-, rfl⟩ := writeBalance_ok.mp hwrite
    obtain ⟨hfresh, -, rfl⟩ := insertLedger_ok.mp hinsert
    rw [getOrCreatePointBalance_ledger] at hfresh
    refine .inr ⟨hnone, ⟨hposts.posted_of_new (by simp) ?_, ?_, ?_⟩, rfl, rfl, rfl⟩
    · intro hold
      exact hfresh _ hold rfl
    · exact getOrCreatePointBalance_events
    · exact getOrCreatePointBalance_transactions

end Movements

/-- Every entry of the ledger names an event that exists. -/
def PointDb.Sourced (db : PointDb) : Prop := ∀ row ∈ db.ledger, db.HasEvent row.sourceEventId

/-- The records of an adjustment stay as they are: its transaction or, as long as there is none,
that only a transaction without a resource is written; no event of its source; the ledger. -/
structure SparesAdjustment (userId : UserId) (key : String) (db db' : PointDb) : Prop where
  kept : ∀ row, db.findTransaction userId .adjustment key = some row →
    db'.findTransaction userId .adjustment key = some row
  written : ∀ row, db'.findTransaction userId .adjustment key = some row →
    db.findTransaction userId .adjustment key = some row ∨ row.resourceId = none
  event : db.adjustmentEvent userId key = none → db'.adjustmentEvent userId key = none
  ledger : ∀ ledgerId row, db.ledger.find? (fun row => row.id == ledgerId) = some row →
    db'.ledger.find? (fun row => row.id == ledgerId) = some row
  sourced : db.Sourced → db'.Sourced

namespace SparesAdjustment

variable {userId : UserId} {key : String} {db db' db'' : PointDb}

theorem of_same (hevents : db'.events = db.events) (hledger : db'.ledger = db.ledger)
    (htransactions : db'.transactions = db.transactions) :
    SparesAdjustment userId key db db' := by
  have hfind : db'.findTransaction userId .adjustment key =
      db.findTransaction userId .adjustment key := by
    rw [PointDb.findTransaction, htransactions, PointDb.findTransaction]
  refine ⟨?_, ?_, ?_, ?_, ?_⟩
  · intro row hrow
    rwa [hfind]
  · intro row hrow
    rw [hfind] at hrow
    exact .inl hrow
  · intro hnone
    rwa [PointDb.adjustmentEvent, hevents]
  · intro ledgerId row hrow
    rwa [hledger]
  · intro hsourced row hrow
    rw [hledger] at hrow
    rw [PointDb.HasEvent, hevents]
    exact hsourced row hrow

theorem refl (db : PointDb) : SparesAdjustment userId key db db := of_same rfl rfl rfl

theorem trans (h : SparesAdjustment userId key db db') (h' : SparesAdjustment userId key db' db'') :
    SparesAdjustment userId key db db'' := by
  refine ⟨?_, ?_, ?_, ?_, ?_⟩
  · intro row hrow
    exact h'.kept row (h.kept row hrow)
  · intro row hrow
    rcases h'.written row hrow with hold | hnone
    · exact h.written row hold
    · exact .inr hnone
  · intro hnone
    exact h'.event (h.event hnone)
  · intro ledgerId row hrow
    exact h'.ledger ledgerId row (h.ledger ledgerId row hrow)
  · intro hsourced
    exact h'.sourced (h.sourced hsourced)

variable {eventId : EventId} {ruleKey : String} {amount : Int} {row : PointLedger}
  {transaction : PointTransaction} {draws : PointDraws} {now : Time} {other : UserId}

/-- An event of another source is recorded. -/
theorem of_recordEvent {events : List EngagementEvent} {event : EngagementEvent}
    {kind sourceType sourceId : String} {payload : JsonObject}
    (hother : sourceType = "admin_point_adjustment" →
      ¬(other = userId ∧ sourceId = adjustmentSource userId key))
    (h : recordEngagementEvent db.events other kind sourceType sourceId payload eventId =
      .ok (events, event)) :
    SparesAdjustment userId key db { db with events := events } := by
  rcases recordEngagementEvent_cases h with ⟨-, rfl⟩ | ⟨-, -, rfl, rfl⟩
  · exact refl db
  · refine ⟨fun _ => id, fun _ => .inl, ?_, fun _ _ => id, ?_⟩
    · intro hnone
      rw [PointDb.adjustmentEvent] at hnone ⊢
      rw [find_insert, hnone, Option.none_or, if_neg]
      rw [Bool.not_eq_true]
      simp only [EngagementEvent.hasSource, Bool.and_eq_false_iff, beq_eq_false_iff_ne]
      by_cases htype : sourceType = "admin_point_adjustment"
      · have hne := hother htype
        by_cases huser : other = userId
        · exact .inr fun hsource => hne ⟨huser, hsource⟩
        · exact .inl (.inl (.inl huser))
      · exact .inl (.inr htype)
    · intro hsourced row hrow
      obtain ⟨event', hmem, hid⟩ := hsourced row hrow
      exact ⟨event', List.mem_append_left _ hmem, hid⟩

/-- Events are rewritten, and keep their identifiers and sources. -/
theorem of_mark {status : EventStatus} :
    SparesAdjustment userId key db { db with
      events := patch (·.id == eventId) ({ · with status := status }) db.events } := by
  refine ⟨fun _ => id, fun _ => .inl, ?_, fun _ _ => id, ?_⟩
  · intro hnone
    rw [PointDb.adjustmentEvent] at hnone ⊢
    rw [find_patch (by intro _; rfl), hnone, Option.map_none]
  · intro hsourced row hrow
    obtain ⟨event, hmem, hid⟩ := hsourced row hrow
    refine ⟨_, mem_patch.mpr ⟨event, hmem, rfl⟩, ?_⟩
    split
    · exact hid
    · exact hid

/-- A row under an event that exists is entered. -/
theorem of_entered (hevent : db.HasEvent row.sourceEventId) (hevents : db'.events = db.events)
    (hledger : db'.ledger = db.ledger ++ [row])
    (htransactions : db'.transactions = db.transactions) :
    SparesAdjustment userId key db db' := by
  have htables : SparesAdjustment userId key { db with ledger := db'.ledger } db' :=
    of_same hevents rfl htransactions
  refine ⟨htables.kept, htables.written, htables.event, ?_, ?_⟩
  · intro ledgerId row' hrow'
    rw [hledger]
    exact find_insert_of_some hrow' row
  · intro hsourced row' hrow'
    rw [PointDb.HasEvent, hevents]
    rw [hledger, List.mem_append, List.mem_singleton] at hrow'
    rcases hrow' with hold | rfl
    · exact hsourced row' hold
    · exact hevent

theorem of_insertLedger (hevent : db.HasEvent row.sourceEventId)
    (h : db.insertLedger row = .ok db') : SparesAdjustment userId key db db' := by
  obtain ⟨-, -, rfl⟩ := insertLedger_ok.mp h
  exact of_entered hevent rfl rfl rfl

theorem of_movesOnce (hevent : db.HasEvent eventId)
    (h : MovesOnce other eventId ruleKey amount db db' row) :
    SparesAdjustment userId key db db' := by
  rcases h with ⟨-, rfl⟩ | ⟨-, henters, -, rfl, -⟩
  · exact refl _
  · exact of_entered hevent henters.events henters.posted.ledger henters.transactions

theorem of_insertTransaction
    (hrow : transaction.userId = userId → transaction.operation = .adjustment →
      transaction.idempotencyKey = key → transaction.resourceId = none)
    (h : db.insertTransaction transaction = .ok db') : SparesAdjustment userId key db db' := by
  simp only [PointDb.insertTransaction, bind_ok, ensure_ok, exists_const, pure_ok] at h
  obtain ⟨-, -, rfl⟩ := h
  refine ⟨?_, ?_, id, fun _ _ => id, id⟩
  · intro row hfound
    exact find_insert_of_some hfound transaction
  · intro row hfound
    rw [PointDb.findTransaction, find_insert, Option.or_eq_some_iff] at hfound
    rcases hfound with hold | ⟨-, hnew⟩
    · exact .inl hold
    · rw [Option.ite_none_right_eq_some] at hnew
      obtain ⟨hkey, hsame⟩ := hnew
      simp only [Bool.and_eq_true, beq_iff_eq] at hkey
      obtain rfl := Option.some.inj hsame
      exact .inr (hrow hkey.1.1 hkey.1.2 hkey.2)

theorem of_getOrCreate :
    SparesAdjustment userId key db (db.getOrCreatePointBalanceForUpdate other).1 :=
  of_same getOrCreatePointBalance_events getOrCreatePointBalance_ledger
    getOrCreatePointBalance_transactions

theorem of_writeBalance {balance : Int} (h : db.writeBalance other balance = .ok db') :
    SparesAdjustment userId key db db' := by
  obtain ⟨-, rfl⟩ := writeBalance_ok.mp h
  exact of_same rfl rfl rfl

theorem of_resolve {packageId : PackageId} {package : PointChargePackage}
    (h : resolvePointChargePackage db packageId now = .ok (db', package)) :
    SparesAdjustment userId key db db' := by
  obtain ⟨packages, rfl⟩ := resolvePointChargePackage_ok h
  exact of_same rfl rfl rfl

theorem of_createPointCharge {packageId : PackageId} {paymentMethod chargeKey : String}
    {charge : PointCharge}
    (h : createPointCharge db other packageId paymentMethod chargeKey draws now =
      .ok (db', charge)) : SparesAdjustment userId key db db' := by
  simp only [createPointCharge, bind_ok, Prod.exists] at h
  obtain ⟨stocked, package, hresolve, h⟩ := h
  split at h
  · obtain ⟨rfl, -⟩ := Prod.mk.inj (pure_ok.mp h)
    exact of_resolve hresolve
  · simp only [bind_ok, Prod.exists, pure_ok, Prod.mk.injEq] at h
    obtain ⟨events, event, hrecord, granted, ledger, hgrant, charged, hcharge, recorded, hinsert,
      rfl, -⟩ := h
    have hcharged : SparesAdjustment userId key granted charged := by
      simp only [PointDb.insertCharge, bind_ok, ensure_ok, exists_const, pure_ok] at hcharge
      obtain ⟨-, -, rfl⟩ := hcharge
      exact of_same rfl rfl rfl
    have hgranted : SparesAdjustment userId key { stocked with events := events } granted :=
      of_movesOnce ⟨event, recordEngagementEvent_mem hrecord, rfl⟩ (grantPoints_movesOnce hgrant)
    have hrecorded : SparesAdjustment userId key stocked { stocked with events := events } :=
      of_recordEvent (by simp) hrecord
    exact (of_resolve hresolve).trans (hrecorded.trans (hgranted.trans (hcharged.trans
      (of_insertTransaction (by simp) hinsert))))

theorem of_refundPointCharge {chargeId : ChargeId} {refundKey : String} {charge : PointCharge}
    (h : refundPointCharge db other chargeId refundKey draws now = .ok (db', charge)) :
    SparesAdjustment userId key db db' := by
  simp only [refundPointCharge] at h
  split at h
  · simp only [bind_ok, ensure_ok, exists_const, pure_ok, Prod.mk.injEq] at h
    obtain ⟨-, _, -, rfl, -⟩ := h
    exact refl _
  · simp only [bind_ok] at h
    obtain ⟨found, -, h⟩ := h
    split at h
    · obtain ⟨rfl, -⟩ := Prod.mk.inj (pure_ok.mp h)
      exact refl _
    · simp only [bind_ok, Prod.exists, ensure_ok, exists_const, pure_ok, Prod.mk.injEq] at h
      obtain ⟨-, _, -, events, event, hrecord, -, written, hwrite, inserted, hinsert, recorded,
        htransaction, rfl, -⟩ := h
      have hevent : written.HasEvent event.id := by
        obtain ⟨-, rfl⟩ := writeBalance_ok.mp hwrite
        rw [PointDb.HasEvent, getOrCreatePointBalance_events]
        exact ⟨event, recordEngagementEvent_mem hrecord, rfl⟩
      have hrecorded : SparesAdjustment userId key db { db with events := events } :=
        of_recordEvent (by simp) hrecord
      have hposted : SparesAdjustment userId key { db with events := events } inserted :=
        of_getOrCreate.trans ((of_writeBalance hwrite).trans (of_insertLedger hevent hinsert))
      refine hrecorded.trans (hposted.trans ?_)
      refine trans ?_ (of_insertTransaction (by simp) htransaction)
      exact of_same rfl rfl rfl

end SparesAdjustment

theorem insertTransaction_events {db db' : PointDb} {row : PointTransaction}
    (h : db.insertTransaction row = .ok db') : db'.events = db.events := by
  simp only [PointDb.insertTransaction, bind_ok, ensure_ok, exists_const, pure_ok] at h
  obtain ⟨-, -, rfl⟩ := h
  rfl

theorem findTransaction_insert {db db' : PointDb} {row : PointTransaction}
    (h : db.insertTransaction row = .ok db')
    (hnone : db.findTransaction row.userId row.operation row.idempotencyKey = none) :
    db'.findTransaction row.userId row.operation row.idempotencyKey = some row := by
  simp only [PointDb.insertTransaction, bind_ok, ensure_ok, exists_const, pure_ok] at h
  obtain ⟨-, -, rfl⟩ := h
  rw [PointDb.findTransaction] at hnone ⊢
  rw [find_insert, hnone]
  simp

theorem adjustmentSource_inj {userId : UserId} {key key' : String}
    (h : adjustmentSource userId key = adjustmentSource userId key') : key = key' :=
  String.append_right_inj _ |>.mp h

/-- Nothing was adjusted under the key. -/
structure Unadjusted (db : PointDb) (userId : UserId) (key : String) : Prop where
  event : db.adjustmentEvent userId key = none
  transaction : ∀ row, db.findTransaction userId .adjustment key = some row → row.resourceId = none

/-- An adjustment under the key left its transaction and its entry. -/
structure Recorded (db : PointDb) (userId : UserId) (key : String) (amount : Int)
    (ledger : PointLedger) : Prop where
  nonzero : amount ≠ 0
  transaction : ∃ row, db.findTransaction userId .adjustment key = some row ∧
    row.amount = amount ∧ row.resourceId = some userId ∧ row.ledgerId = some ledger.id
  entry : db.ledger.find? (fun row => row.id == ledger.id) = some ledger

/-- The identifiers are new. -/
structure PointDraws.New (draws : PointDraws) (db : PointDb) : Prop where
  event : ∀ row ∈ db.events, row.id ≠ draws.eventId
  ledger : ∀ row ∈ db.ledger, row.id ≠ draws.ledgerId
  transaction : ∀ row ∈ db.transactions, row.id ≠ draws.transactionId

/-- The refusal of a spend that the balance does not cover. -/
def insufficientPoints : Failure := .app ⟨409, "INSUFFICIENT_POINTS", "포인트가 부족합니다."⟩

/-- The refusal of a key that another adjustment used. -/
def adjustmentKeyReused : Failure :=
  .app ⟨409, "IDEMPOTENCY_KEY_REUSED", "같은 멱등 키로 다른 포인트 조정을 요청할 수 없습니다."⟩

section

variable {db db' : PointDb} {userId : UserId} {key : String} {amount : Int}
  {ledger : PointLedger}

theorem Unadjusted.of_spares (h : Unadjusted db userId key)
    (hspares : SparesAdjustment userId key db db') : Unadjusted db' userId key := by
  refine ⟨hspares.event h.event, ?_⟩
  intro row hrow
  rcases hspares.written row hrow with hold | hnone
  · exact h.transaction row hold
  · exact hnone

theorem Recorded.of_spares (h : Recorded db userId key amount ledger)
    (hspares : SparesAdjustment userId key db db') : Recorded db' userId key amount ledger := by
  obtain ⟨row, hrow, hfields⟩ := h.transaction
  exact ⟨h.nonzero, ⟨row, hspares.kept row hrow, hfields⟩, hspares.ledger _ _ h.entry⟩

variable {reason : Option String} {actorId : String} {draws : PointDraws} {replayed : Bool}

/-- A key that was adjusted under is answered from its records. -/
theorem Recorded.adjustPoints (h : Recorded db userId key amount ledger) (amount' : Int) :
    (amount' = amount →
      adjustPoints db userId amount' reason actorId key draws = .ok (db, ledger, true)) ∧
    (amount' ≠ amount → ∃ e, adjustPoints db userId amount' reason actorId key draws = .error e ∧
      e.isRefusal) := by
  obtain ⟨row, hrow, hamount, hresource, hledger⟩ := h.transaction
  refine ⟨?_, ?_⟩
  · rintro rfl
    have hreplayed : (some row : Option PointTransaction).bind (·.ledgerId) = some ledger.id :=
      hledger
    simp only [Fanfolio.adjustPoints, hrow, bind_ok, ensure_ok, exists_const, hreplayed,
      Option.bind_some, h.entry, pure_ok]
    refine ⟨h.nonzero, ?_, trivial⟩
    intro row' hmem
    obtain rfl := Option.some.inj hmem
    exact ⟨hamount, hresource⟩
  · intro hother
    by_cases hzero : amount' = 0
    · have hfails : Fanfolio.adjustPoints db userId amount' reason actorId key draws =
          .error (invalidPointAmount "조정 포인트는 0이 될 수 없습니다.") := by
        simp only [Fanfolio.adjustPoints, bind_error, ensure_error]
        exact .inl ⟨not_not.mpr hzero, trivial⟩
      exact ⟨_, hfails, rfl⟩
    · have hfails : Fanfolio.adjustPoints db userId amount' reason actorId key draws =
          .error adjustmentKeyReused := by
        simp only [Fanfolio.adjustPoints, hrow, bind_error, ensure_error, ensure_ok, exists_const]
        refine .inr ⟨hzero, .inl ⟨?_, rfl⟩⟩
        intro hsame
        exact hother (hamount ▸ (hsame row rfl).1.symm)
      exact ⟨_, hfails, rfl⟩

/-- What a first adjustment leaves. -/
structure Adjusts (db db' : PointDb) (userId : UserId) (key : String) (amount : Int)
    (ledger : PointLedger) : Prop where
  posted : Posted db db' ledger
  user : ledger.userId = userId
  moved : ledger.amount = amount
  recorded : Recorded db' userId key amount ledger
  sourced : db'.Sourced
  spares : ∀ userId' key', ¬(userId' = userId ∧ key' = key) →
    SparesAdjustment userId' key' db db'

theorem Adjusts.balanceOf {db' : PointDb} (h : Adjusts db db' userId key amount ledger)
    (userId' : UserId) :
    db'.balanceOf userId' = db.balanceOf userId' + if userId' = userId then amount else 0 := by
  rw [PointDb.balanceOf, h.posted.balanceSet.balanceIn, h.posted.balanceAfter, h.user, h.moved]
  by_cases huser : userId = userId'
  · rw [if_pos huser, if_pos huser.symm, huser]
  · rw [if_neg huser, if_neg (Ne.symm huser), add_zero]
    rfl

theorem moveAdjustment_movesOnce {eventId : EventId} {ledgerId : LedgerId}
    (h : moveAdjustment db userId eventId amount reason actorId ledgerId = .ok (db', ledger)) :
    MovesOnce userId eventId "admin_point_adjustment" amount db db' ledger := by
  unfold moveAdjustment at h
  split at h
  · exact grantPoints_movesOnce h
  · have hmoves := spendPoints_movesOnce h
    have hamount : -((amount.natAbs : Nat) : Int) = amount := by omega
    rwa [hamount] at hmoves

/-- Nothing is posted under a new event. -/
theorem PointDb.Sourced.new {eventId : EventId} (h : db.Sourced)
    (hfresh : ∀ event ∈ db.events, event.id ≠ eventId) :
    ∀ row ∈ db.ledger, row.sourceEventId ≠ eventId := by
  intro row hrow hsame
  obtain ⟨event, hmem, hid⟩ := h row hrow
  exact hfresh event hmem (hid.trans hsame)

theorem Unadjusted.recordsNew {payload : JsonObject} {eventId : EventId}
    {events : List EngagementEvent} {event : EngagementEvent} (h : Unadjusted db userId key)
    (hrecord : recordEngagementEvent db.events userId "points_adjusted" "admin_point_adjustment"
      (adjustmentSource userId key) payload eventId = .ok (events, event)) :
    events = db.events ++ [event] ∧ ∀ event' ∈ db.events, event'.id ≠ event.id := by
  refine (recordEngagementEvent_cases hrecord).elim ?_ ?_
  · intro hold
    exact absurd (hold.1.symm.trans h.event) (Option.some_ne_none event)
  · intro hnew
    have hid : event.id = eventId := by rw [hnew.2.2.1]
    rw [hid]
    exact ⟨hnew.2.2.2, hnew.2.1⟩

/-- The first adjustment under a key enters its amount. -/
theorem Unadjusted.adjustPoints (h : Unadjusted db userId key) (hsourced : db.Sourced)
    (hok : adjustPoints db userId amount reason actorId key draws = .ok (db', ledger, replayed)) :
    replayed = false ∧ Adjusts db db' userId key amount ledger := by
  simp only [Fanfolio.adjustPoints, bind_ok, ensure_ok, exists_const] at hok
  obtain ⟨hnonzero, hexisting, hok⟩ := hok
  have hnone : db.findTransaction userId .adjustment key = none := by
    rw [Option.eq_none_iff_forall_ne_some]
    intro row hrow
    have hresource := (hexisting row hrow).2
    rw [h.transaction row hrow] at hresource
    cases hresource
  simp only [hnone, Option.bind_none, bind_ok, Prod.exists, pure_ok, Prod.mk.injEq] at hok
  obtain ⟨events, event, hrecord, moved, ledger', hmove, inserted, hinsert, rfl, rfl, rfl⟩ := hok
  obtain ⟨hevents, hfresh⟩ := h.recordsNew hrecord
  have hevent : PointDb.HasEvent { db with events := events } event.id :=
    ⟨event, recordEngagementEvent_mem hrecord, rfl⟩
  have hunposted : PointDb.findLedger { db with events := events } userId event.id
      "admin_point_adjustment" = none := findLedger_of_new (hsourced.new hfresh)
  have hmoves := moveAdjustment_movesOnce hmove
  obtain ⟨henters, huser, hsource, hamount⟩ := hmoves.entered hunposted
  obtain ⟨hledger, hbalances⟩ := insertTransaction_tables hinsert
  have hposted : Posted db inserted ledger' := by
    refine ⟨hledger.trans henters.posted.ledger, henters.posted.freshId,
      henters.posted.balanceAfter, ?_⟩
    rw [hbalances]
    exact henters.posted.balanceSet
  refine ⟨rfl, hposted, huser, hamount, ⟨hnonzero, ?_, ?_⟩, ?_, ?_⟩
  · refine ⟨_, findTransaction_insert hinsert ?_, rfl, rfl, rfl⟩
    rw [PointDb.findTransaction, henters.transactions]
    exact hnone
  · rw [hposted.ledger, find_insert, List.find?_eq_none.mpr ?_]
    · simp
    · intro row hrow
      simpa using hposted.freshId row hrow
  · have hall : inserted.events = events := (insertTransaction_events hinsert).trans henters.events
    intro row hrow
    rw [PointDb.HasEvent, hall]
    rw [hposted.ledger, List.mem_append, List.mem_singleton] at hrow
    rcases hrow with hold | rfl
    · obtain ⟨event', hmem, hid⟩ := hsourced row hold
      exact ⟨event', hevents ▸ List.mem_append_left _ hmem, hid⟩
    · exact ⟨event, recordEngagementEvent_mem hrecord, hsource.symm⟩
  · intro userId' key' hother
    have hrecorded : SparesAdjustment userId' key' db { db with events := events } := by
      refine .of_recordEvent ?_ hrecord
      intro _ hsame
      obtain ⟨rfl, hsource⟩ := hsame
      exact hother ⟨rfl, (adjustmentSource_inj hsource).symm⟩
    refine hrecorded.trans ((SparesAdjustment.of_movesOnce hevent hmoves).trans ?_)
    refine .of_insertTransaction ?_ hinsert
    intro huser _ hkey
    exact absurd ⟨huser.symm, hkey.symm⟩ hother

/-- A movement that the balance covers goes through for a new event. -/
theorem moveAdjustment_pays {eventId : EventId} {ledgerId : LedgerId} (hfunded : db.Funded)
    (hnonzero : amount ≠ 0) (hcovered : -amount ≤ db.balanceOf userId)
    (hid : ∀ row ∈ db.ledger, row.id ≠ ledgerId)
    (hevent : ∀ row ∈ db.ledger, row.sourceEventId ≠ eventId) :
    ∃ moved ledger, moveAdjustment db userId eventId amount reason actorId ledgerId =
      .ok (moved, ledger) := by
  unfold moveAdjustment
  split
  · rename_i hpositive
    exact grantPoints_pays hfunded hpositive hid (findLedger_of_new hevent)
  · refine spendPoints_pays (by omega) (by omega) ?_
    intro row hrow
    exact ⟨hid row hrow, hevent row hrow⟩

/-- An adjustment under a key without a transaction goes through when the balance covers it. -/
theorem Unadjusted.succeeds (h : Unadjusted db userId key)
    (hnone : db.findTransaction userId .adjustment key = none) (hsourced : db.Sourced)
    (hfunded : db.Funded) (hnonzero : amount ≠ 0) (hcovered : -amount ≤ db.balanceOf userId)
    (hnew : draws.New db) :
    ∃ adjusted ledger, Fanfolio.adjustPoints db userId amount reason actorId key draws =
      .ok (adjusted, ledger, false) := by
  obtain ⟨events, event, hrecord, -⟩ := recordEngagementEvent_fresh hnew.event userId
    "points_adjusted" "admin_point_adjustment" (adjustmentSource userId key)
    [("amount", .num amount), ("reason", .ofOption reason)]
  obtain ⟨-, hfresh⟩ := h.recordsNew hrecord
  have hmoves : ∃ moved ledger, moveAdjustment { db with events := events } userId event.id amount
      reason actorId draws.ledgerId = .ok (moved, ledger) :=
    moveAdjustment_pays hfunded hnonzero hcovered hnew.ledger (hsourced.new hfresh)
  obtain ⟨moved, ledger, hmove⟩ := hmoves
  obtain ⟨henters, -⟩ :=
    (moveAdjustment_movesOnce hmove).entered (findLedger_of_new (hsourced.new hfresh))
  let row : PointTransaction :=
    { id := draws.transactionId, userId := userId, operation := .adjustment,
      idempotencyKey := key, amount := amount, resourceType := "user", resourceId := userId,
      ledgerId := some ledger.id }
  have hinsert : ∃ inserted, moved.insertTransaction row = .ok inserted := by
    simp only [PointDb.insertTransaction, bind_ok, ensure_ok, exists_const, pure_ok]
    refine ⟨_, ?_, ?_, rfl⟩
    · rw [henters.transactions]
      exact hnew.transaction
    · rw [PointDb.findTransaction, henters.transactions]
      exact hnone
  obtain ⟨inserted, hinsert⟩ := hinsert
  refine ⟨inserted, ledger, ?_⟩
  simp only [Fanfolio.adjustPoints, hnone, Option.bind_none, bind_ok, ensure_ok, exists_const,
    Prod.exists, pure_ok]
  exact ⟨hnonzero, by simp, events, event, hrecord, moved, ledger, hmove, inserted, hinsert, rfl⟩

end

namespace AdjustedPoints

/-- Every adjustment that went through left its records, and nothing else did. -/
structure Accounted (s : AdjustedPoints) : Prop where
  sourced : s.db.Sourced
  reconciled : PointsReconciled s.db
  made : ∀ userId key entry, s.first userId key = some entry →
    Recorded s.db userId key entry.amount entry.ledger
  unmade : ∀ userId key, s.first userId key = none → Unadjusted s.db userId key

variable {s : AdjustedPoints} {db : PointDb} {userId : UserId} {key : String} {amount : Int}
  {reason : Option String} {actorId : String} {draws : PointDraws} {ledger : PointLedger}
  {replayed : Bool} {packages : List PointChargePackage}

theorem Accounted.opening (packages : List PointChargePackage) : Accounted (opening packages) := by
  refine ⟨?_, .opening packages [], ?_, ?_⟩
  · intro row hrow
    cases hrow
  · intro userId key entry hentry
    cases hentry
  · intro userId key _
    refine ⟨rfl, ?_⟩
    intro row hrow
    cases hrow

/-- A request that adjusts nothing. -/
theorem Accounted.of_spares (h : Accounted s)
    (hspares : ∀ userId key, SparesAdjustment userId key s.db db)
    (hposts : PostsAtMostOnce s.db db) : Accounted { s with db := db } := by
  refine ⟨(hspares "" "").sourced h.sourced, h.reconciled.step hposts, ?_, ?_⟩
  · intro userId key entry hentry
    exact (h.made userId key entry hentry).of_spares (hspares userId key)
  · intro userId key hnone
    exact (h.unmade userId key hnone).of_spares (hspares userId key)

theorem first_append (entry : Adjustment) :
    first ⟨db, s.adjustments ++ [entry]⟩ userId key = (s.first userId key).or
      (if entry.userId = userId ∧ entry.idempotencyKey = key then some entry else none) := by
  rw [first, find_insert]
  simp only [Bool.and_eq_true, beq_iff_eq]
  rfl

/-- What a call that goes through does: it repeats the first one, or is the first. -/
theorem Accounted.adjustPoints_ok (h : Accounted s)
    (hok : adjustPoints s.db userId amount reason actorId key draws = .ok (db, ledger, replayed)) :
    (∃ entry, s.first userId key = some entry ∧ amount = entry.amount ∧ db = s.db ∧
      ledger = entry.ledger ∧ replayed = true) ∨
    s.first userId key = none ∧ replayed = false ∧ Adjusts s.db db userId key amount ledger := by
  cases hfirst : s.first userId key with
  | none => exact .inr ⟨rfl, (h.unmade userId key hfirst).adjustPoints h.sourced hok⟩
  | some entry =>
    have hmade := h.made userId key entry hfirst
    by_cases hamount : amount = entry.amount
    · rw [(hmade.adjustPoints amount).1 hamount] at hok
      obtain ⟨rfl, hanswered⟩ := Prod.mk.inj (Except.ok.inj hok)
      obtain ⟨rfl, rfl⟩ := Prod.mk.inj hanswered
      exact .inl ⟨entry, rfl, hamount, rfl, rfl, rfl⟩
    · obtain ⟨e, hfails, -⟩ := (hmade.adjustPoints amount).2 hamount
      rw [hfails] at hok
      cases hok

/-- The first adjustment under a key is accounted for. -/
theorem Accounted.of_adjusts (h : Accounted s) (hfirst : s.first userId key = none)
    (hadjusts : Adjusts s.db db userId key amount ledger) :
    Accounted ⟨db, s.adjustments ++ [⟨userId, key, amount, ledger⟩]⟩ := by
  refine ⟨hadjusts.sourced, h.reconciled.step (.inr ⟨ledger, hadjusts.posted⟩), ?_, ?_⟩
  · intro userId' key' entry hentry
    rw [first_append, Option.or_eq_some_iff] at hentry
    rcases hentry with hold | ⟨-, hnew⟩
    · refine (h.made userId' key' entry hold).of_spares (hadjusts.spares userId' key' ?_)
      intro hsame
      rw [hsame.1, hsame.2, hfirst] at hold
      cases hold
    · rw [Option.ite_none_right_eq_some] at hnew
      obtain ⟨hkeys, hentry⟩ := hnew
      obtain rfl := Option.some.inj hentry
      rw [← hkeys.1, ← hkeys.2]
      exact hadjusts.recorded
  · intro userId' key' hnone
    rw [first_append, Option.or_eq_none_iff] at hnone
    refine (h.unmade userId' key' hnone.1).of_spares (hadjusts.spares userId' key' ?_)
    intro hsame
    rw [hsame.1, hsame.2, if_pos ⟨rfl, rfl⟩] at hnone
    cases hnone.2

/-- A repeated adjustment is accounted for by the first. -/
theorem Accounted.of_repeated (h : Accounted s) {entry : Adjustment}
    (hfirst : s.first entry.userId entry.idempotencyKey ≠ none) :
    Accounted ⟨s.db, s.adjustments ++ [entry]⟩ := by
  have hsame : ∀ userId key, first ⟨s.db, s.adjustments ++ [entry]⟩ userId key =
      s.first userId key := by
    intro userId key
    rw [first_append]
    by_cases hkeys : entry.userId = userId ∧ entry.idempotencyKey = key
    · rw [hkeys.1, hkeys.2] at hfirst
      obtain ⟨found, hfound⟩ := Option.ne_none_iff_exists'.mp hfirst
      rw [hfound, Option.some_or]
    · rw [if_neg hkeys, Option.or_none]
  refine ⟨h.sourced, h.reconciled, ?_, ?_⟩
  · intro userId key entry hentry
    rw [hsame] at hentry
    exact h.made userId key entry hentry
  · intro userId key hnone
    rw [hsame] at hnone
    exact h.unmade userId key hnone

/-- A call of a movement, a charge or a refund spares every adjustment. -/
theorem Accounted.commitOr {α : Type} (h : Accounted s) {x : Except Failure (PointDb × α)}
    (hspares : ∀ db a, x = .ok (db, a) → ∀ userId key, SparesAdjustment userId key s.db db)
    (hposts : PostsAtMostOnce s.db (commitOr s.db x)) :
    Accounted ⟨commitOr s.db x, s.adjustments ++ []⟩ := by
  rw [List.append_nil]
  refine h.of_spares ?_ hposts
  exact commitOr_keeps (fun userId key => .refl s.db) hspares

theorem Accounted.adjust (h : Accounted s) :
    Accounted ⟨pointStep s.db (.adjust userId amount reason actorId key draws), s.adjustments ++
      ((PointCall.adjust userId amount reason actorId key draws).adjusted s.db).toList⟩ := by
  rw [pointStep, PointCall.adjusted]
  cases hok : adjustPoints s.db userId amount reason actorId key draws with
  | error e =>
    rw [Option.toList_none, List.append_nil]
    exact h
  | ok done =>
    obtain ⟨db, ledger, replayed⟩ := done
    rcases h.adjustPoints_ok hok with ⟨entry, hfirst, -, rfl, -⟩ | ⟨hfirst, -, hadjusts⟩
    · refine h.of_repeated ?_
      dsimp only
      rw [hfirst]
      exact Option.some_ne_none entry
    · exact h.of_adjusts hfirst hadjusts

theorem Accounted.step (h : Accounted s) (request : PointRequest) :
    Accounted (s.step request) := by
  cases request with
  | call call =>
    by_cases hevent : ∀ eventId ∈ call.sourceEvent, s.db.HasEvent eventId
    · have hposts : PostsAtMostOnce s.db (pointStep s.db call) := pointStep_posts call
      rw [AdjustedPoints.step, if_pos hevent]
      cases call with
      | grant =>
        refine h.commitOr ?_ hposts
        intro db row hok _ _
        exact .of_movesOnce (hevent _ rfl) (grantPoints_movesOnce hok)
      | spend =>
        refine h.commitOr ?_ hposts
        intro db row hok _ _
        exact .of_movesOnce (hevent _ rfl) (spendPoints_movesOnce hok)
      | reverse =>
        refine h.commitOr ?_ hposts
        intro db row hok _ _
        exact .of_movesOnce (hevent _ rfl) (reversePoints_movesOnce hok)
      | charge => exact h.commitOr (fun _ _ hok _ _ => .of_createPointCharge hok) hposts
      | refund => exact h.commitOr (fun _ _ hok _ _ => .of_refundPointCharge hok) hposts
      | adjust userId amount reason actorId key draws => exact h.adjust
    · rw [AdjustedPoints.step, if_neg hevent]
      exact h
  | record userId kind sourceType sourceId payload eventId =>
    rw [AdjustedPoints.step]
    split
    · exact h
    · rename_i hother
      split
      · rename_i events event hrecord
        refine h.of_spares ?_ (.inl ⟨rfl, rfl⟩)
        intro userId key
        exact .of_recordEvent (fun hsame => absurd hsame hother) hrecord
      · exact h
  | mark eventId status => exact h.of_spares (fun _ _ => .of_mark) (.inl ⟨rfl, rfl⟩)
  | transaction row =>
    rw [AdjustedPoints.step]
    split
    · exact h
    · rename_i hother
      split
      · rename_i db hinsert
        obtain ⟨hledger, hbalances⟩ := insertTransaction_tables hinsert
        refine h.of_spares ?_ (.inl ⟨hledger, hbalances⟩)
        intro userId key
        refine .of_insertTransaction ?_ hinsert
        intro _ hoperation _
        by_contra hresource
        exact hother ⟨hoperation, hresource⟩
      · exact h

theorem step_adjust : s.step (.call (.adjust userId amount reason actorId key draws)) =
    ⟨pointStep s.db (.adjust userId amount reason actorId key draws), s.adjustments ++
      ((PointCall.adjust userId amount reason actorId key draws).adjusted s.db).toList⟩ := by
  rw [step, if_pos]
  intro eventId hevent
  cases hevent

theorem first_step {entry : Adjustment} (h : s.first userId key = some entry)
    (request : PointRequest) : (s.step request).first userId key = some entry := by
  cases request with
  | call call =>
    rw [step]
    split
    · rw [first, List.find?_append]
      exact Option.or_eq_some_iff.mpr (.inl h)
    · exact h
  | record =>
    rw [step]
    split
    · exact h
    · split
      · exact h
      · exact h
  | mark => exact h
  | transaction =>
    rw [step]
    split
    · exact h
    · split
      · exact h
      · exact h

/-- The first adjustment under a key stays the first. -/
theorem first_run {entry : Adjustment} (h : s.first userId key = some entry)
    (later : List PointRequest) : (run step s later).first userId key = some entry :=
  run_of_step (I := fun s : AdjustedPoints => s.first userId key = some entry) h
    fun _ request h => first_step h request

theorem run_accounted (h : Accounted s) (later : List PointRequest) :
    Accounted (run step s later) := run_of_step h fun _ request h => h.step request

/-- The first call that goes through is the first of its key from then on. -/
theorem first_of_ok (hfirst : s.first userId key = none)
    (hok : adjustPoints s.db userId amount reason actorId key draws = .ok (db, ledger, replayed)) :
    (s.step (.call (.adjust userId amount reason actorId key draws))).first userId key =
      some ⟨userId, key, amount, ledger⟩ := by
  have hadjusted : (PointCall.adjust userId amount reason actorId key draws).adjusted s.db =
      some ⟨userId, key, amount, ledger⟩ := by
    rw [PointCall.adjusted, hok]
  rw [step_adjust, hadjusted, Option.toList_some, first_append, hfirst, Option.none_or,
    if_pos ⟨rfl, rfl⟩]

theorem step_of_ok
    (hok : adjustPoints s.db userId amount reason actorId key draws = .ok (db, ledger, replayed)) :
    (s.step (.call (.adjust userId amount reason actorId key draws))).db = db := by
  rw [step_adjust, pointStep, hok]
  rfl

/-- A call that fails leaves everything as it is. -/
theorem step_of_error {e : Failure}
    (herror : adjustPoints s.db userId amount reason actorId key draws = .error e) :
    s.step (.call (.adjust userId amount reason actorId key draws)) = s := by
  rw [step_adjust, pointStep, PointCall.adjusted, herror]
  exact congrArg (AdjustedPoints.mk s.db) (List.append_nil _)

/-- A call rejected for its balance finds no transaction under its key. -/
theorem Accounted.of_insufficient (h : Accounted s)
    (herror : adjustPoints s.db userId amount reason actorId key draws =
      .error insufficientPoints) :
    amount ≠ 0 ∧ s.db.findTransaction userId .adjustment key = none := by
  have hpassed : amount ≠ 0 ∧ ∀ row ∈ s.db.findTransaction userId .adjustment key,
      row.amount = amount ∧ row.resourceId = userId := by
    simp only [Fanfolio.adjustPoints, bind_error, ensure_error, ensure_ok, exists_const] at herror
    rcases herror with ⟨-, hother⟩ | ⟨hnonzero, ⟨-, hother⟩ | ⟨hexisting, -⟩⟩
    · simp [invalidPointAmount, insufficientPoints] at hother
    · simp [insufficientPoints] at hother
    · exact ⟨hnonzero, hexisting⟩
  obtain ⟨hnonzero, hexisting⟩ := hpassed
  refine ⟨hnonzero, ?_⟩
  cases hfirst : s.first userId key with
  | none =>
    rw [Option.eq_none_iff_forall_ne_some]
    intro row hrow
    have hresource := (hexisting row hrow).2
    rw [(h.unmade userId key hfirst).transaction row hrow] at hresource
    cases hresource
  | some entry =>
    have hmade := h.made userId key entry hfirst
    obtain ⟨row, hrow, hamount, -⟩ := hmade.transaction
    have hsame : amount = entry.amount := (hexisting row hrow).1.symm.trans hamount
    rw [(hmade.adjustPoints amount).1 hsame] at herror
    cases herror

/-- Without a transaction under its key a call that the balance covers goes through. -/
theorem Accounted.succeeds (h : Accounted s)
    (hnone : s.db.findTransaction userId .adjustment key = none) (hnonzero : amount ≠ 0)
    (hcovered : -amount ≤ s.db.balanceOf userId) (hnew : draws.New s.db) :
    ∃ db ledger, adjustPoints s.db userId amount reason actorId key draws =
      .ok (db, ledger, false) := by
  refine Unadjusted.succeeds ?_ hnone h.sourced h.reconciled.nonneg hnonzero hcovered hnew
  cases hfirst : s.first userId key with
  | none => exact h.unmade userId key hfirst
  | some entry =>
    obtain ⟨row, hrow, -⟩ := (h.made userId key entry hfirst).transaction
    rw [hnone] at hrow
    cases hrow

theorem exists_newDraws (db : PointDb) : ∃ draws : PointDraws, draws.New db := by
  obtain ⟨p, hp⟩ := exists_fresh_prefix
    (db.events.map (·.id) ++ db.ledger.map (·.id) ++ db.transactions.map (·.id))
  refine ⟨⟨p, p, p, p⟩, ?_, ?_, ?_⟩
  · intro row hrow
    simpa using hp row.id (by simp [List.mem_map_of_mem hrow]) ""
  · intro row hrow
    simpa using hp row.id (by simp [List.mem_map_of_mem hrow]) ""
  · intro row hrow
    simpa using hp row.id (by simp [List.mem_map_of_mem hrow]) ""

/-- A new event can be recorded. -/
theorem exists_recorded (s : AdjustedPoints) (userId : UserId) : ∃ request eventId,
    (s.step request).db.HasEvent eventId ∧ (∀ event ∈ s.db.events, event.id ≠ eventId) ∧
      (s.step request).db.ledger = s.db.ledger ∧
      (s.step request).db.transactions = s.db.transactions := by
  obtain ⟨p, hp⟩ := exists_fresh_prefix
    (s.db.events.map (·.id) ++ s.db.events.map (·.sourceId))
  have hid : ∀ event ∈ s.db.events, event.id ≠ p := by
    intro event hevent
    simpa using hp event.id (by simp [List.mem_map_of_mem hevent]) ""
  have hnone : s.db.events.find? (·.hasSource userId "points" "points" p) = none := by
    rw [List.find?_eq_none]
    intro event hevent hsource
    simp only [EngagementEvent.hasSource, Bool.and_eq_true, beq_iff_eq] at hsource
    exact hp event.sourceId (by simp [List.mem_map_of_mem hevent]) "" (by simpa using hsource.2)
  have hnew : s.db.events.any (fun event => event.id == p) = false := by
    simpa using hid
  have hrecord : ∃ event : EngagementEvent, event.id = p ∧
      recordEngagementEvent s.db.events userId "points" "points" p [] p =
        .ok (s.db.events ++ [event], event) := by
    simp only [recordEngagementEvent, hnone, hnew, Bool.false_eq_true, if_false]
    exact ⟨_, rfl, rfl⟩
  obtain ⟨event, hevent, hrecord⟩ := hrecord
  have hstep : s.step (.record userId "points" "points" p [] p) =
      { s with db := { s.db with events := s.db.events ++ [event] } } := by
    rw [step, if_neg (by decide), hrecord]
  refine ⟨.record userId "points" "points" p [] p, p, ?_, hid, ?_, ?_⟩
  · rw [hstep]
    exact ⟨event, by simp, hevent⟩
  · rw [hstep]
  · rw [hstep]

/-- Points can be granted for a new event. -/
theorem Accounted.exists_granted (h : Accounted s) (userId : UserId) {points : Int}
    (hpositive : 0 < points) : ∃ later,
      points ≤ (run AdjustedPoints.step s later).db.balanceOf userId ∧
      (run AdjustedPoints.step s later).db.transactions = s.db.transactions := by
  obtain ⟨request, eventId, hevent, hfresh, hledger, htransactions⟩ := exists_recorded s userId
  have hnext : Accounted (s.step request) := h.step request
  obtain ⟨draws, hnew⟩ := exists_newDraws (s.step request).db
  have hunposted : ∀ row ∈ (s.step request).db.ledger, row.sourceEventId ≠ eventId := by
    rw [hledger]
    exact h.sourced.new hfresh
  have hgrants : ∃ granted row, grantPoints (s.step request).db userId eventId "points" points none
      none none draws.ledgerId = .ok (granted, row) :=
    grantPoints_pays hnext.reconciled.nonneg hpositive hnew.ledger (findLedger_of_new hunposted)
  obtain ⟨granted, row, hgrant⟩ := hgrants
  obtain ⟨henters, huser, -, hamount⟩ :=
    (grantPoints_movesOnce hgrant).entered (findLedger_of_new hunposted)
  let grant : PointRequest :=
    .call (.grant userId eventId "points" points none none none draws.ledgerId)
  have hrun : (run AdjustedPoints.step s [request, grant]).db = granted := by
    rw [run_cons, run_cons, run_nil, AdjustedPoints.step, if_pos]
    · rw [pointStep, hgrant]
      rfl
    · intro eventId' hsource
      obtain rfl := Option.some.inj hsource
      exact hevent
  refine ⟨[request, grant], ?_, ?_⟩
  · have hnonneg := hnext.reconciled.balanceOf_nonneg userId
    rw [hrun, PointDb.balanceOf, henters.posted.balanceSet.balanceIn, if_pos huser,
      henters.posted.balanceAfter, huser, hamount]
    omega
  · rw [hrun, henters.transactions, htransactions]

end AdjustedPoints

end Fanfolio
