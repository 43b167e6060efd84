import Fanfolio.Cards.Schema
import Fanfolio.Framework.Run
import Fanfolio.Shop.Refunds

/-!
# Approvals of two admins

One admin requests, another decides. The decision reads the request without a lock, and writes its
status whatever has become of it; the effects of a refund and of a point adjustment lock or insert
rows that let them happen once.
-/

namespace Fanfolio

open Framework

/-- The kinds of `ApprovalCreateRequest`. -/
inductive AdminApprovalKind where
  | pointsAdjustment
  | shopRefund
  | productPublish
  | oddsChange
deriving DecidableEq, Repr

/-- The kinds that the support actions create. -/
inductive SupportApprovalKind where
  | refundOrder
  | grantPoints
deriving DecidableEq, Repr

inductive ApprovalKind where
  | admin (kind : AdminApprovalKind)
  | support (kind : SupportApprovalKind)
deriving DecidableEq, Repr

/-- A refund, a point adjustment or the publication of a product. -/
def ApprovalKind.named : ApprovalKind → Bool
  | .admin .oddsChange => false
  | _ => true

inductive ApprovalStatus where
  | pending
  | approved
  | rejected
deriving DecidableEq, Repr

/-- What is requested; `amount` is what the payload holds under that key. -/
structure ApprovalTerms where
  id : String
  kind : ApprovalKind
  entityType : String
  entityId : String
  requestedBy : UserId
  amount : Option Int := none
deriving DecidableEq, Repr

structure ApprovalRequest extends ApprovalTerms where
  reason : Option String := none
  status : ApprovalStatus := .pending
  approvedBy : Option UserId := none
  decidedAt : Option Time := none
deriving DecidableEq, Repr

/-- A request that an endpoint adds. -/
inductive NewApproval where
  /-- `create_admin_approval`. -/
  | admin (kind : AdminApprovalKind) (entityType entityId : String)
  /-- `act_on_support_ticket`, whose reference is not empty. -/
  | support (kind : SupportApprovalKind) (referenceId : String) (amount : Option Int)
deriving DecidableEq, Repr

/-- The row that is added. -/
def NewApproval.row (id : String) (requestedBy : UserId) (reason : Option String) :
    NewApproval → ApprovalRequest
  | .admin kind entityType entityId =>
    { id := id, kind := .admin kind, entityType := entityType, entityId := entityId
      requestedBy := requestedBy, reason := reason }
  | .support kind referenceId amount =>
    { id := id, kind := .support kind
      entityType := if kind = .refundOrder then "shop_order" else "user"
      entityId := referenceId, requestedBy := requestedBy, amount := amount, reason := reason }

def approvalKey (approvalId : String) : String := "approval:" ++ approvalId

/-- The movement of an approved adjustment: a grant of a positive amount, a spend of a negative
one. -/
def moveApproved (points : PointDb) (userId : UserId) (eventId : EventId) (item : ApprovalRequest)
    (amount : Int) (actorId : String) (ledgerId : LedgerId) :
    Except Failure (PointDb × PointLedger) :=
  let description := (item.reason.filter (· ≠ "")).getD "승인된 관리자 포인트 조정"
  if 0 < amount then
    grantPoints points userId eventId ("approved_admin_adjustment:" ++ item.id) amount description
      (some [("actorId", .str actorId)]) none ledgerId
  else
    spendPoints points userId eventId ("approved_admin_adjustment:" ++ item.id) amount.natAbs
      description (some [("actorId", .str actorId)]) ledgerId

/-- `_execute_approved_point_adjustment`. -/
def executeApprovedPointAdjustment (db : ShopDb) (users : List User) (item : ApprovalRequest)
    (actorId : String) (draws : RefundDraws) : Except Failure (ShopDb × Int) := do
  let amount := item.amount.getD 0
  ensure (amount ≠ 0) (invalidPointAmount "승인된 조정 포인트가 없습니다.")
  let user ← orFail ((users.find? (fun row => row.id == item.entityId)).filter (·.role = .fan))
    (.app ⟨404, "FAN_NOT_FOUND", "포인트를 조정할 팬을 찾을 수 없습니다."⟩)
  let (recorded, event) ← db.recordEvent user.id "points_adjusted"
    "approved_admin_point_adjustment" item.id
    [("amount", .num amount), ("approvalId", .str item.id)] draws.eventId
  let (points, ledger) ← moveApproved recorded.points user.id event.id item amount actorId
    draws.ledgerId
  let completed ← (recorded.withPoints points).insertTransaction
    { id := draws.transactionId, userId := user.id, operation := .adjustment
      idempotencyKey := approvalKey item.id, amount := amount, ledgerId := some ledger.id }
  return (completed, ledger.balanceAfter)

def ShopDb.publishProduct (db : ShopDb) (productId : ProductId) : ShopDb :=
  { db with products := patch (·.id == productId) ({ · with status := .published }) db.products }

/-- What `approve_admin_approval` does for a request; the flag says whether that is the effect the
request names. -/
def executeApproved (db : ShopDb) (users : List User) (item : ApprovalRequest) (actorId : String)
    (draws : RefundDraws) (now : Time) : Except Failure (ShopDb × Bool) :=
  match item.kind with
  | .support .refundOrder =>
    (fun result => (result.1, true)) <$>
      executeApprovedRefund db item.entityId item.id actorId draws now
  | .support .grantPoints =>
    (fun result => (result.1, true)) <$>
      executeApprovedPointAdjustment db users item actorId draws
  | .admin .productPublish =>
    if (db.findProduct item.entityId).isSome then .ok (db.publishProduct item.entityId, true)
    else .ok (db, false)
  | .admin _ => .ok (db, false)

/-- The request that a decision has read, and who decides. -/
inductive ApprovalPhase where
  | idle
  | approving (item : ApprovalRequest) (actorId : UserId)
  | rejecting (item : ApprovalRequest) (actorId : UserId)
deriving DecidableEq, Repr

inductive ApprovalAction where
  /-- `approve_admin_approval` reads the request. -/
  | approve (worker : Nat) (actorId : UserId)
  | finishApprove (worker : Nat) (draws : RefundDraws) (now : Time)
  /-- `reject_admin_approval` reads the request. -/
  | reject (worker : Nat) (actorId : UserId)
  | finishReject (worker : Nat) (reason : Option String) (now : Time)
  | abort (worker : Nat)
deriving DecidableEq, Repr

/-- The committed tables, who has executed the effect, and the decisions at work. -/
structure Approval where
  db : ShopDb
  users : List User
  item : ApprovalRequest
  executions : List UserId := []
  phase : Nat → ApprovalPhase

namespace Approval

/-- A request that has just been added to any tables. -/
def start (db : ShopDb) (users : List User) (id : String) (requestedBy : UserId)
    (reason : Option String) (request : NewApproval) : Approval :=
  { db := db, users := users, item := request.row id requestedBy reason, phase := fun _ => .idle }

def goOn (s : Approval) (w : Nat) (p : ApprovalPhase) : Approval :=
  { s with phase := Function.update s.phase w p }

/-- An approval commits its execution and its status. -/
def commitApproved (s : Approval) (actorId : UserId) (db : ShopDb) (executed : Bool)
    (now : Time) : Approval :=
  { s with
    db := db
    item := { s.item with status := .approved, approvedBy := some actorId, decidedAt := some now }
    executions := if executed then actorId :: s.executions else s.executions }

def commitRejected (s : Approval) (actorId : UserId) (reason : Option String) (now : Time) :
    Approval :=
  { s with
    item := { s.item with
      status := .rejected, approvedBy := some actorId, decidedAt := some now
      reason := (reason.filter (· ≠ "")).orElse fun _ => s.item.reason } }

/-- One step of a request; a request that is replayed, refused or rolled back changes nothing. -/
def step (s : Approval) : ApprovalAction → Approval
  | .approve w actorId =>
    match s.phase w with
    | .idle =>
      if s.item.status = .pending ∧ s.item.requestedBy ≠ actorId then
        s.goOn w (.approving s.item actorId)
      else s
    | _ => s
  | .finishApprove w draws now =>
    match s.phase w with
    | .approving item actorId =>
      match executeApproved s.db s.users item actorId draws now with
      | .ok (db, executed) => (s.commitApproved actorId db executed now).goOn w .idle
      | .error _ => s.goOn w .idle
    | _ => s
  | .reject w actorId =>
    match s.phase w with
    | .idle =>
      if s.item.status = .pending then s.goOn w (.rejecting s.item actorId) else s
    | _ => s
  | .finishReject w reason now =>
    match s.phase w with
    | .rejecting _ actorId => (s.commitRejected actorId reason now).goOn w .idle
    | _ => s
  | .abort w => s.goOn w .idle

/-- The named effect has been executed at most once, not by the requester, and exactly if the
request is approved. -/
structure Settled (s : Approval) : Prop where
  once : s.executions.length ≤ 1
  others : ∀ actorId ∈ s.executions, actorId ≠ s.item.requestedBy
  agrees : s.executions ≠ [] ↔ s.item.status = .approved

/-- `Settled`, for a request that names a refund, a point adjustment or a publication. -/
def Lawful (s : Approval) : Prop := s.item.kind.named → Settled s

/-- A rejection does not follow an approval, nor does the publication of a product; the product is
there; and no request is approved under a kind that has no execution. -/
def Careful (s : Approval) : ApprovalAction → Prop
  | .finishApprove w _ _ =>
    match s.phase w with
    | .approving _ _ =>
      match s.item.kind with
      | .admin .pointsAdjustment => False
      | .admin .shopRefund => False
      | .admin .productPublish =>
        s.item.status ≠ .approved ∧ (s.db.findProduct s.item.entityId).isSome
      | _ => True
    | _ => True
  | .finishReject w _ _ =>
    match s.phase w with
    | .rejecting _ _ => s.item.kind.named → s.item.status ≠ .approved
    | _ => True
  | _ => True

/-- What keeps an effect from being executed again. -/
def Spent (db : ShopDb) (terms : ApprovalTerms) : Prop :=
  match terms.kind with
  | .support .refundOrder =>
    ∀ order, db.findOrder terms.entityId = some order → order.status ≠ .completed
  | .support .grantPoints =>
    (db.points.findTransaction terms.entityId .adjustment (approvalKey terms.id)).isSome
  | .admin .productPublish => (db.findProduct terms.entityId).isSome
  | .admin _ => False

/-- A decision is about the request, and an approval is not by its requester. -/
def PhaseFact (terms : ApprovalTerms) : ApprovalPhase → Prop
  | .idle => True
  | .approving item actorId => item.toApprovalTerms = terms ∧ actorId ≠ terms.requestedBy
  | .rejecting item _ => item.toApprovalTerms = terms

structure Sound (s : Approval) : Prop where
  phases : ∀ w, PhaseFact s.item.toApprovalTerms (s.phase w)
  spent : s.executions ≠ [] → Spent s.db s.item.toApprovalTerms

section

variable {db db' : ShopDb} {users : List User} {item : ApprovalRequest} {actorId : UserId}
  {draws : RefundDraws} {now : Time} {executed : Bool}

theorem moveApproved_transactions {points points' : PointDb} {userId : UserId} {eventId : EventId}
    {amount : Int} {ledgerId : LedgerId} {row : PointLedger}
    (h : moveApproved points userId eventId item amount actorId ledgerId = .ok (points', row)) :
    points'.transactions = points.transactions := by
  unfold moveApproved at h
  split at h
  · exact (grantPoints_moved h).transactions
  · exact (spendPoints_moved h).1.transactions

/-- A refund finds the order completed, and leaves it refunded. -/
theorem executeApprovedRefund_spends {balance : Int}
    (hkind : item.kind = .support .refundOrder)
    (h : executeApprovedRefund db item.entityId item.id actorId draws now = .ok (db', balance)) :
    ¬Spent db item.toApprovalTerms ∧ Spent db' item.toApprovalTerms := by
  obtain ⟨order, hfound, hrefund⟩ := executeApprovedRefund_ok h
  obtain ⟨hcompleted, -, horders⟩ := refundOrder_ok hrefund
  have hid : order.id = item.entityId := (mem_of_find_eq_some (g := ShopOrder.id) hfound).2
  simp only [Spent, hkind]
  refine ⟨fun hspent => hspent order hfound hcompleted, ?_⟩
  intro order' hfound'
  obtain ⟨hmem', hid'⟩ := mem_of_find_eq_some (g := ShopOrder.id) hfound'
  rw [horders] at hmem'
  obtain ⟨row, -, rfl⟩ := mem_patch.mp hmem'
  by_cases hrow : (row.id == order.id) = true
  · rw [if_pos hrow]
    exact fun hstatus => nomatch hstatus
  · rw [if_neg hrow] at hid'
    exact absurd (beq_iff_eq.mpr (hid'.trans hid.symm)) hrow

/-- An adjustment finds no transaction under the key of the request, and leaves one. -/
theorem executeApprovedPointAdjustment_spends {balance : Int}
    (hkind : item.kind = .support .grantPoints)
    (h : executeApprovedPointAdjustment db users item actorId draws = .ok (db', balance)) :
    ¬Spent db item.toApprovalTerms ∧ Spent db' item.toApprovalTerms := by
  simp only [executeApprovedPointAdjustment, bind_ok, ensure_ok, exists_const, orFail_ok,
    Prod.exists, pure_ok, Prod.mk.injEq] at h
  obtain ⟨-, user, huser, recorded, event, hrecord, points, row, hmove, completed, hinsert, rfl,
    -⟩ := h
  rw [Option.filter_eq_some_iff] at huser
  have hid : user.id = item.entityId := (mem_of_find_eq_some (g := User.id) huser.1).2
  obtain ⟨events, rfl, -⟩ := recordEvent_ok hrecord
  obtain ⟨-, hnone, rfl⟩ := insertTransaction_ok hinsert
  have htransactions := moveApproved_transactions hmove
  simp only [Spent, hkind]
  constructor
  · intro hspent
    simp only [ShopDb.withPoints, PointDb.findTransaction, htransactions, hid] at hnone
    rw [PointDb.findTransaction, hnone] at hspent
    cases hspent
  · simp only [ShopDb.withPoints, PointDb.findTransaction, List.find?_isSome, List.mem_append,
      List.mem_singleton]
    exact ⟨_, .inr rfl, by simp [hid]⟩

/-- The effects that a support action requests are executed once. -/
theorem executeApproved_support {kind : SupportApprovalKind} (hkind : item.kind = .support kind)
    (h : executeApproved db users item actorId draws now = .ok (db', executed)) :
    executed = true ∧ ¬Spent db item.toApprovalTerms ∧ Spent db' item.toApprovalTerms := by
  cases kind with
  | refundOrder =>
    simp only [executeApproved, hkind, map_ok, Prod.exists, Prod.mk.injEq] at h
    obtain ⟨_, balance, hrefund, rfl, rfl⟩ := h
    exact ⟨rfl, executeApprovedRefund_spends hkind hrefund⟩
  | grantPoints =>
    simp only [executeApproved, hkind, map_ok, Prod.exists, Prod.mk.injEq] at h
    obtain ⟨_, balance, hadjust, rfl, rfl⟩ := h
    exact ⟨rfl, executeApprovedPointAdjustment_spends hkind hadjust⟩

theorem executeApproved_publish (hkind : item.kind = .admin .productPublish) :
    executeApproved db users item actorId draws now =
      if (db.findProduct item.entityId).isSome then .ok (db.publishProduct item.entityId, true)
      else .ok (db, false) := by
  simp only [executeApproved, hkind]

theorem findProduct_publishProduct (productId : ProductId) :
    ((db.publishProduct productId).findProduct productId).isSome =
      (db.findProduct productId).isSome := by
  have hfind : (db.publishProduct productId).findProduct productId =
      (db.findProduct productId).map ({ · with status := .published }) :=
    find_patch_key (by intro _; rfl) _ _
  rw [hfind, Option.isSome_map]

/-- What an execution leaves keeps the effect from being executed again. -/
theorem executeApproved_spent
    (h : executeApproved db users item actorId draws now = .ok (db', executed)) :
    (executed = true → Spent db' item.toApprovalTerms) ∧ (executed = false → db' = db) := by
  cases hkind : item.kind with
  | support kind =>
    obtain ⟨rfl, -, hspent⟩ := executeApproved_support hkind h
    exact ⟨fun _ => hspent, fun h' => nomatch h'⟩
  | admin kind =>
    cases kind with
    | productPublish =>
      rw [executeApproved_publish hkind] at h
      split at h
      · rename_i hproduct
        obtain ⟨rfl, rfl⟩ := Prod.mk.inj (Except.ok.inj h)
        refine ⟨fun _ => ?_, fun h' => nomatch h'⟩
        simp only [Spent, hkind]
        rw [findProduct_publishProduct]
        exact hproduct
      · obtain ⟨rfl, rfl⟩ := Prod.mk.inj (Except.ok.inj h)
        exact ⟨fun h' => (nomatch h'), fun _ => rfl⟩
    | _ =>
      simp only [executeApproved, hkind] at h
      obtain ⟨rfl, rfl⟩ := Prod.mk.inj (Except.ok.inj h)
      exact ⟨fun h' => (nomatch h'), fun _ => rfl⟩

variable {s : Approval} {w : Nat} {p : ApprovalPhase}

theorem Sound.goOn (h : Sound s) (hp : PhaseFact s.item.toApprovalTerms p) :
    Sound (s.goOn w p) := by
  refine ⟨?_, h.spent⟩
  intro w'
  by_cases hw : w' = w
  · simpa only [Approval.goOn, hw, Function.update_self] using hp
  · simpa only [Approval.goOn, Function.update_of_ne hw] using h.phases w'

theorem lawful_goOn : Lawful (s.goOn w p) ↔ Lawful s := by
  constructor
  · intro h hnamed
    obtain ⟨honce, hothers, hagrees⟩ := h hnamed
    exact ⟨honce, hothers, hagrees⟩
  · intro h hnamed
    obtain ⟨honce, hothers, hagrees⟩ := h hnamed
    exact ⟨honce, hothers, hagrees⟩

theorem Sound.commitApproved (h : Sound s) (hterms : item.toApprovalTerms = s.item.toApprovalTerms)
    (hexecute : executeApproved s.db users item actorId draws now = .ok (db', executed)) :
    Sound (s.commitApproved actorId db' executed now) := by
  refine ⟨h.phases, ?_⟩
  obtain ⟨hspent, hsame⟩ := executeApproved_spent hexecute
  cases executed with
  | true =>
    intro _
    rw [hterms] at hspent
    exact hspent rfl
  | false =>
    intro hexecutions
    rw [hsame rfl]
    exact h.spent hexecutions

theorem step_sound (h : Sound s) (a : ApprovalAction) : Sound (step s a) := by
  cases a with
  | approve w actorId =>
    simp only [step]
    split
    · split
      · rename_i hchecks
        exact h.goOn ⟨rfl, hchecks.2.symm⟩
      · exact h
    · exact h
  | finishApprove w draws now =>
    simp only [step]
    split
    · rename_i item actorId hphase
      have hfact := h.phases w
      rw [hphase] at hfact
      split
      · rename_i hexecute
        exact (h.commitApproved hfact.1 hexecute).goOn trivial
      · exact h.goOn trivial
    · exact h
  | reject w actorId =>
    simp only [step]
    split
    · split
      · exact h.goOn rfl
      · exact h
    · exact h
  | finishReject w reason now =>
    simp only [step]
    split
    · exact Sound.goOn ⟨h.phases, h.spent⟩ trivial
    · exact h
  | abort w => exact h.goOn trivial

/-- The first execution. -/
theorem Settled.first (hnone : s.executions = []) (hother : actorId ≠ s.item.requestedBy) :
    Settled (s.commitApproved actorId db true now) := by
  simp only [Approval.commitApproved, hnone]
  exact ⟨le_refl 1, by simpa using hother, by simp⟩

/-- A request is approved without an execution. -/
theorem not_settled_of_none (hnone : s.executions = []) :
    ¬Settled (s.commitApproved actorId db false now) := by
  intro h
  exact h.agrees.mpr rfl hnone

theorem commitApproved_lawful (h : Sound s) (hlawful : Lawful s)
    (hterms : item.toApprovalTerms = s.item.toApprovalTerms)
    (hother : actorId ≠ s.item.requestedBy) (hphase : s.phase w = .approving item actorId)
    (hexecute : executeApproved s.db users item actorId draws now = .ok (db', executed)) :
    Lawful (s.commitApproved actorId db' executed now) ↔
      Careful s (.finishApprove w draws now) := by
  have hkind : item.kind = s.item.kind := congrArg ApprovalTerms.kind hterms
  have hentity : item.entityId = s.item.entityId := congrArg ApprovalTerms.entityId hterms
  have hspent := h.spent
  simp only [Careful, hphase, Lawful, Approval.commitApproved]
  cases hcase : s.item.kind with
  | support kind =>
    rw [hcase] at hkind
    obtain ⟨rfl, hunspent, -⟩ := executeApproved_support hkind hexecute
    have hnone : s.executions = [] := by
      by_contra hsome
      exact hunspent (hterms ▸ hspent hsome)
    exact ⟨fun _ => trivial, fun _ _ => Settled.first hnone hother⟩
  | admin kind =>
    rw [hcase] at hkind
    simp only [Lawful, hcase] at hlawful
    simp only [Spent, hcase] at hspent
    cases kind with
    | productPublish =>
      rw [executeApproved_publish hkind, hentity] at hexecute
      split at hexecute
      · rename_i hproduct
        obtain ⟨rfl, rfl⟩ := Prod.mk.inj (Except.ok.inj hexecute)
        constructor
        · intro hsettled
          refine ⟨fun hstatus => ?_, hproduct⟩
          have hsome := (hlawful rfl).agrees.mpr hstatus
          have honce := (hsettled rfl).once
          exact hsome (List.length_eq_zero_iff.mp (Nat.le_zero.mp (Nat.le_of_succ_le_succ honce)))
        · rintro ⟨hstatus, -⟩ -
          have hnone : s.executions = [] := by
            by_contra hsome
            exact hstatus ((hlawful rfl).agrees.mp hsome)
          exact Settled.first hnone hother
      · rename_i hproduct
        obtain ⟨rfl, rfl⟩ := Prod.mk.inj (Except.ok.inj hexecute)
        have hnone : s.executions = [] := by
          by_contra hsome
          exact hproduct (hspent hsome)
        exact ⟨fun hsettled => absurd (hsettled rfl) (not_settled_of_none hnone),
          fun hcareful => absurd hcareful.2 hproduct⟩
    | oddsChange => exact ⟨fun _ => trivial, fun _ hnamed => nomatch hnamed⟩
    | _ =>
      simp only [executeApproved, hkind] at hexecute
      obtain ⟨rfl, rfl⟩ := Prod.mk.inj (Except.ok.inj hexecute)
      have hnone : s.executions = [] := by
        by_contra hsome
        exact hspent hsome
      exact ⟨fun hsettled => absurd (hsettled rfl) (not_settled_of_none hnone), False.elim⟩

/-- The kinds that may fail to execute ask for no care. -/
theorem careful_of_error {e : Failure} (hterms : item.toApprovalTerms = s.item.toApprovalTerms)
    (hphase : s.phase w = .approving item actorId)
    (hexecute : executeApproved db users item actorId draws now = .error e) :
    Careful s (.finishApprove w draws now) := by
  have hkind : item.kind = s.item.kind := congrArg ApprovalTerms.kind hterms
  simp only [Careful, hphase]
  cases hcase : s.item.kind with
  | support kind => trivial
  | admin kind =>
    rw [hcase] at hkind
    cases kind with
    | productPublish =>
      rw [executeApproved_publish hkind] at hexecute
      split at hexecute <;> cases hexecute
    | oddsChange => trivial
    | _ =>
      simp only [executeApproved, hkind] at hexecute
      cases hexecute

theorem commitRejected_lawful (hlawful : Lawful s) {reason : Option String} :
    Lawful (s.commitRejected actorId reason now) ↔
      (s.item.kind.named → s.item.status ≠ .approved) := by
  constructor
  · intro hsettled hnamed hstatus
    have hsome := (hlawful hnamed).agrees.mpr hstatus
    exact nomatch (hsettled hnamed).agrees.mp hsome
  · intro hstatus hnamed
    have hbefore := hlawful hnamed
    refine ⟨hbefore.once, hbefore.others, ?_⟩
    exact ⟨fun hsome => absurd (hbefore.agrees.mp hsome) (hstatus hnamed), fun h => nomatch h⟩

/-- A lawful state stays lawful exactly under careful steps. -/
theorem step_lawful (h : Sound s) (hlawful : Lawful s) (a : ApprovalAction) :
    Lawful (step s a) ↔ Careful s a := by
  have hsame : Lawful s ↔ True := ⟨fun _ => trivial, fun _ => hlawful⟩
  cases a with
  | approve w actorId =>
    simp only [step]
    split
    · split
      · exact lawful_goOn.trans hsame
      · exact hsame
    · exact hsame
  | finishApprove w draws now =>
    cases hphase : s.phase w with
    | approving item actorId =>
      have hfact := h.phases w
      rw [hphase] at hfact
      simp only [step, hphase]
      split
      · rename_i hexecute
        rw [lawful_goOn]
        exact commitApproved_lawful h hlawful hfact.1 hfact.2 hphase hexecute
      · rename_i hexecute
        exact ⟨fun _ => careful_of_error hfact.1 hphase hexecute,
          fun _ => lawful_goOn.mpr hlawful⟩
    | _ =>
      simp only [step, Careful, hphase]
      exact hsame
  | reject w actorId =>
    simp only [step]
    split
    · split
      · exact lawful_goOn.trans hsame
      · exact hsame
    · exact hsame
  | finishReject w reason now =>
    cases hphase : s.phase w with
    | rejecting item actorId =>
      simp only [step, Careful, hphase, lawful_goOn]
      exact commitRejected_lawful hlawful
    | _ =>
      simp only [step, Careful, hphase]
      exact hsame
  | abort w => exact lawful_goOn.trans hsame

theorem start_lawful (db : ShopDb) (users : List User) (id : String) (requestedBy : UserId)
    (reason : Option String) (request : NewApproval) :
    Lawful (start db users id requestedBy reason request) := by
  intro _
  refine ⟨Nat.zero_le 1, fun _ h => (nomatch h), fun h => absurd rfl h, fun h => ?_⟩
  cases request <;> cases h

/-- The decisions on a request execute its effect at most once, not by the requester, and exactly
if it is approved, in every state of a run exactly if the run is careful. -/
theorem lawful_iff_careful (db : ShopDb) (users : List User) (id : String) (requestedBy : UserId)
    (reason : Option String) (request : NewApproval) (acts : List ApprovalAction) :
    Throughout step Lawful (start db users id requestedBy reason request) acts ↔
      Always step Careful (start db users id requestedBy reason request) acts := by
  have hsound : Sound (start db users id requestedBy reason request) :=
    ⟨fun _ => trivial, fun h => absurd rfl h⟩
  exact throughout_iff_always hsound (start_lawful db users id requestedBy reason request)
    (fun _ a h _ _ => step_sound h a) fun _ a h hlawful => step_lawful h hlawful a

end

/-- A fan who has paid 100 points for a pack. -/
def paidOrder : ShopDb :=
  let db := openShop [packProduct] [⟨"fan", 0⟩]
  { db with
    points := { db.points with
      ledger := [{ id := "paid", userId := "fan", sourceEventId := "event", ruleKey := "shop"
                   transactionType := .spend, amount := -100, balanceAfter := 0
                   metadataJson := [] }] }
    orders := [{ id := "order", userId := "fan", productId := "pack-product"
                 productName := "Pack", pricePoints := 100, paymentMethod := "points"
                 idempotencyKey := none, pointLedgerId := some "paid" }]
    shopEntitlements := [{ id := "e", sourceId := "order", userId := "fan", packId := "pack"
                           status := .available, createdAt := 0 }] }

/-- A rejection that has read the request before its approval leaves the refund executed and the
request rejected; the approval of a refund under the other kind executes nothing; and so does the
approval of a product that is not there. -/
theorem approval_without_effect :
    ¬Throughout step Lawful
      (start paidOrder [] "a" "admin1" none (.support .refundOrder "order" none))
      [.reject 1 "admin2", .approve 0 "admin3", .finishApprove 0 ⟨"ev", "ledger", "tx"⟩ 5,
        .finishReject 1 none 6] ∧
    ¬Throughout step Lawful
      (start paidOrder [] "a" "admin1" none (.admin .shopRefund "shop_order" "order"))
      [.approve 0 "admin2", .finishApprove 0 ⟨"ev", "ledger", "tx"⟩ 5] ∧
    ¬Throughout step Lawful
      (start paidOrder [] "a" "admin1" none (.admin .productPublish "shop_product" "none"))
      [.approve 0 "admin2", .finishApprove 0 ⟨"ev", "ledger", "tx"⟩ 5] := by
  refine ⟨fun h => ?_, fun h => ?_, fun h => ?_⟩
  · exact absurd ((h.last rfl).agrees.mp (by decide)) (by decide)
  · exact (h.last rfl).agrees.mpr (by decide) (by decide)
  · exact (h.last rfl).agrees.mpr (by decide) (by decide)

end Approval

end Fanfolio
