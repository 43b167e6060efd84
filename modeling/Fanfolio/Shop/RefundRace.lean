import Fanfolio.Framework.RowLocks
import Fanfolio.Framework.Run
import Fanfolio.Framework.Text
import Fanfolio.Points.Reconciliation
import Fanfolio.Shop.Refunds

/-!
# Refunds that race with the use of an order

Fans and admins refund an order while its pack is opened or its reward claimed. A refund locks
the row of the order, then the row of what was delivered; an opening or a claim locks only the
latter. Every request reads a row again once it has the lock.
-/

namespace Fanfolio

open Framework

/-- The rows of an order that requests lock. -/
inductive OrderRow where
  | order
  | entitlement
  | grant
deriving DecidableEq, Repr

/-- A refund of the order: by a user under a key, or of an approved request. -/
inductive RefundRequest where
  | fan (userId : UserId) (key : String)
  | admin (approvalId actorId : String)
deriving DecidableEq, Repr

/-- What a request on the order is about. -/
inductive OrderPhase where
  | idle
  | asked (request : RefundRequest)
  | ordered (order : ShopOrder) (ledgerId : LedgerId) (source : RefundSource)
  | holding (order : ShopOrder) (ledgerId : LedgerId) (source : RefundSource) (item : RefundItem)
  | opening (entitlement : PackEntitlement)
  | claiming (grant : RewardGrant)
deriving DecidableEq, Repr

/-- A step of a request, or of any other transaction. -/
inductive OrderAction where
  /-- A refund looks for an earlier refund under its key. -/
  | ask (worker : Nat) (request : RefundRequest)
  | lockOrder (worker : Nat)
  | lockItem (worker : Nat)
  /-- The rest of the refund, up to its commit or rollback. -/
  | refund (worker : Nat) (draws : RefundDraws) (now : Time)
  /-- `open_card_pack` locks the right of the order, if it is the first one available. -/
  | lockRight (worker : Nat) (userId : UserId) (packId : PackId)
  /-- The rest of the opening; the flag says whether it commits. -/
  | opens (worker : Nat) (succeeds : Bool) (now : Time)
  | lockGrant (worker : Nat) (userId : UserId) (grantId : String)
  /-- The rest of `claim_reward_grant`. -/
  | claims (worker : Nat) (now : Time)
  | abort (worker : Nat)
  /-- A commit that leaves the rows of the order alone. -/
  | elsewhere (db : ShopDb)

abbrev RefundRace := RowLocks Nat OrderRow ShopDb OrderPhase

def RefundRequest.source (order : ShopOrder) : RefundRequest → RefundSource
  | .fan _ key => fanRefund order key
  | .admin approvalId actorId => adminRefund order approvalId actorId

/-- The refund is answered from an earlier one, or refused for want of a key. -/
def RefundRequest.answered (db : ShopDb) : RefundRequest → Bool
  | .fan userId key => key == "" || (db.refundUnder userId key).isSome
  | .admin _ _ => false

/-- The row of what was delivered. -/
def RefundItem.row : RefundItem → OrderRow
  | .entitlement _ => .entitlement
  | .grant _ => .grant

/-- One order: its user, and the ledger row that paid it. -/
structure OrderSlice where
  orderId : OrderId
  userId : UserId
  ledgerId : LedgerId
deriving DecidableEq, Repr

namespace OrderSlice

variable (slice : OrderSlice)

def order (db : ShopDb) : Option ShopOrder := db.findOrder slice.orderId

def entitlement (db : ShopDb) : Option PackEntitlement := db.entitlementOf slice.orderId

def grant (db : ShopDb) : Option RewardGrant := db.grantOf slice.userId slice.orderId

/-- The ledger row is about the order: it paid it, or a refund of it wrote the row. -/
def concerns (row : PointLedger) : Bool :=
  row.id == slice.ledgerId || row.reversedLedgerId == some slice.ledgerId ||
    row.ruleKey == "shop_refund:" ++ slice.orderId ||
    row.ruleKey == "admin_shop_refund:" ++ slice.orderId

/-- The amounts that refunds have returned of what the order was paid with. -/
def refunds (db : ShopDb) : List Int :=
  (db.points.ledger.filter (·.reversedLedgerId == some slice.ledgerId)).map (·.amount)

/-- What the order delivered has been used. -/
def Used (db : ShopDb) : Prop :=
  (slice.entitlement db).any (·.status == .opened) ∨
    (slice.grant db).any (·.claimedAt != none)

instance : DecidablePred slice.Used := fun _ => inferInstanceAs (Decidable (_ ∨ _))

/-- A commit of another transaction: the rows of the order stay as they are. -/
def Keeps (s : RefundRace) (db : ShopDb) : Prop :=
  slice.order db = slice.order s.committed ∧ slice.entitlement db = slice.entitlement s.committed ∧
    slice.grant db = slice.grant s.committed ∧
    db.points.ledger.filter slice.concerns = s.committed.points.ledger.filter slice.concerns

instance (s : RefundRace) (db : ShopDb) : Decidable (slice.Keeps s db) :=
  inferInstanceAs (Decidable (_ ∧ _ ∧ _ ∧ _))

/-- The order that a refund asks for. -/
def requested (db : ShopDb) : RefundRequest → Option ShopOrder
  | .fan userId _ => (slice.order db).filter (·.userId = userId)
  | .admin _ _ => slice.order db

/-- The row that a refund has to lock after the order. -/
def itemRow (db : ShopDb) : OrderRow :=
  if (slice.entitlement db).isSome then .entitlement else .grant

/-- One step; a step that waits for a lock leaves the state as it is. -/
def step (s : RefundRace) : OrderAction → RefundRace
  | .ask worker request =>
    match s.phase worker with
    | .idle => if request.answered s.committed then s else s.move worker (.asked request)
    | _ => s
  | .lockOrder worker =>
    match s.phase worker with
    | .asked request =>
      match slice.requested s.committed request with
      | none => s.move worker .idle
      | some order =>
        if s.owner .order = none then
          match checkRefundable order with
          | .ok ledgerId =>
            s.acquire worker .order (.ordered order ledgerId (request.source order))
          | .error _ => s.move worker .idle
        else s
    | _ => s
  | .lockItem worker =>
    match s.phase worker with
    | .ordered order ledgerId source =>
      if s.owner (slice.itemRow s.committed) = none then
        match refundItem s.committed order source.claimedMessage with
        | .ok item =>
          s.acquire worker item.row (.holding order ledgerId source item)
        | .error _ => s.release worker s.committed .idle
      else s
    | _ => s
  | .refund worker draws now =>
    match s.phase worker with
    | .holding order ledgerId source item =>
      match reverseOrder (s.committed.revoke item now) order ledgerId source draws now with
      | .ok (db, _) => s.release worker db .idle
      | .error _ => s.release worker s.committed .idle
    | _ => s
  | .lockRight worker userId packId =>
    match s.phase worker, firstAvailable s.committed.shopEntitlements userId packId with
    | .idle, some right =>
      if slice.entitlement s.committed = some right ∧ s.owner .entitlement = none then
        s.acquire worker .entitlement (.opening right)
      else s
    | _, _ => s
  | .opens worker succeeds now =>
    match s.phase worker with
    | .opening right =>
      let opened : ShopDb :=
        { s.committed with
          shopEntitlements := markOpened s.committed.shopEntitlements right.id now }
      s.release worker (if succeeds then opened else s.committed) .idle
    | _ => s
  | .lockGrant worker userId grantId =>
    match s.phase worker, s.committed.claimableGrant userId grantId with
    | .idle, some grant =>
      if slice.grant s.committed = some grant ∧ s.owner .grant = none then
        s.acquire worker .grant (.claiming grant)
      else s
    | _, _ => s
  | .claims worker now =>
    match s.phase worker with
    | .claiming grant =>
      match claimLocked s.committed grant now with
      | .ok db => s.release worker db .idle
      | .error _ => s.release worker s.committed .idle
    | _ => s
  | .abort worker => s.release worker s.committed .idle
  | .elsewhere db => if slice.Keeps s db then { s with committed := db } else s

/-- No request is about the order. -/
def start (db : ShopDb) : RefundRace := ⟨db, fun _ => none, fun _ => .idle⟩

/-- The order is refunded at most once, for exactly the points it was paid with, and never if what
it delivered has been used. -/
structure RefundedOnce (db : ShopDb) : Prop where
  paidBy : (slice.order db).any (·.pointLedgerId == some slice.ledgerId)
  marked : slice.refunds db ≠ [] ↔ (slice.order db).any (·.status == .refunded)
  once : (slice.refunds db).length ≤ 1
  exact : ∀ amount ∈ slice.refunds db, ∃ row ∈ db.points.ledger,
    row.id = slice.ledgerId ∧ row.transactionType = .spend ∧ amount = -row.amount
  unused : slice.refunds db ≠ [] → ¬slice.Used db

/-- The rows that a request holds. -/
def holds : OrderPhase → OrderRow → Prop
  | .ordered .., row => row = .order
  | .holding _ _ _ item, row => row = .order ∨ row = item.row
  | .opening _, row => row = .entitlement
  | .claiming _, row => row = .grant
  | _, _ => False

/-- The item of a refund is what the order has delivered, unused. -/
def Delivers (slice : OrderSlice) (db : ShopDb) : RefundItem → Prop
  | .entitlement row => slice.entitlement db = some row ∧ row.status ≠ .opened
  | .grant row => slice.entitlement db = none ∧ slice.grant db = some row ∧ row.revokedAt = none ∧
      row.claimedAt = none

/-- The order that a refund has locked. -/
structure Locks (slice : OrderSlice) (db : ShopDb) (order : ShopOrder) (ledgerId : LedgerId)
    (source : RefundSource) : Prop where
  found : slice.order db = some order
  completed : order.status = .completed
  paid : order.pointLedgerId = some ledgerId
  source : ∃ request : RefundRequest, source = request.source order

/-- What a request knows of the rows that it holds. -/
def knows (slice : OrderSlice) : OrderPhase → ShopDb → Prop
  | .ordered order ledgerId source, db => slice.Locks db order ledgerId source
  | .holding order ledgerId source item, db =>
    slice.Locks db order ledgerId source ∧ slice.Delivers db item
  | .opening row, db => slice.entitlement db = some row ∧ row.status = .available
  | .claiming row, db => slice.grant db = some row ∧ row.revokedAt = none
  | _, _ => True

/-- Nothing has been returned for the order. -/
structure Unrefunded (slice : OrderSlice) (db : ShopDb) : Prop where
  refunds : slice.refunds db = []
  rules : ∀ row ∈ db.points.ledger, row.ruleKey ≠ "shop_refund:" ++ slice.orderId ∧
    row.ruleKey ≠ "admin_shop_refund:" ++ slice.orderId

/-- The price has been returned, and what the order delivered is taken back. -/
structure Refunded (slice : OrderSlice) (price : Int) (db : ShopDb) : Prop where
  refunds : slice.refunds db = [price]
  entitlement : ∀ row, slice.entitlement db = some row → row.status = .revoked
  grant : ∀ row, slice.grant db = some row → row.revokedAt ≠ none ∧ row.claimedAt = none

/-- What holds of the order in every state: it was paid, it delivered one thing, and it is marked
refunded exactly if its price has been returned. -/
structure Sound (slice : OrderSlice) (price : Int) (db : ShopDb) : Prop where
  paid : ∃ row ∈ db.points.ledger, row.id = slice.ledgerId ∧ row.transactionType = .spend ∧
    row.amount = -price
  order : ∃ order, slice.order db = some order ∧ order.userId = slice.userId ∧
    order.pointLedgerId = some slice.ledgerId ∧ order.pricePoints = price ∧
    (order.status = .completed ∧ slice.Unrefunded db ∨
      order.status = .refunded ∧ slice.Refunded price db)
  delivered : slice.entitlement db = none ∨ slice.grant db = none

section

variable {slice : OrderSlice} {price : Int} {db db' : ShopDb} {order : ShopOrder}

theorem Sound.refundedOnce (h : slice.Sound price db) : slice.RefundedOnce db := by
  obtain ⟨order, hfound, -, hpaid, -, ⟨hcompleted, hnot⟩ | ⟨hrefunded, hdone⟩⟩ := h.order
  · refine ⟨?_, ?_, ?_, ?_, ?_⟩
    · simp [hfound, hpaid]
    · simp [hfound, hcompleted, hnot.refunds]
    · simp [hnot.refunds]
    · simp [hnot.refunds]
    · exact fun hne => absurd hnot.refunds hne
  · refine ⟨?_, ?_, ?_, ?_, ?_⟩
    · simp [hfound, hpaid]
    · simp [hfound, hrefunded, hdone.refunds]
    · simp [hdone.refunds]
    · intro amount hamount
      obtain ⟨row, hrow, hid, hspend, hprice⟩ := h.paid
      rw [hdone.refunds, List.mem_singleton] at hamount
      exact ⟨row, hrow, hid, hspend, by omega⟩
    · rintro - (hopened | hclaimed)
      · obtain ⟨row, hrow, hstatus⟩ := Option.any_eq_true _ _ |>.mp hopened
        rw [hdone.entitlement row hrow] at hstatus
        cases hstatus
      · obtain ⟨row, hrow, hat⟩ := Option.any_eq_true _ _ |>.mp hclaimed
        rw [(hdone.grant row hrow).2] at hat
        cases hat

theorem order_id (h : slice.order db = some order) : order.id = slice.orderId :=
  (mem_of_find_eq_some (g := ShopOrder.id) h).2

theorem revoke_entitlement {row : PackEntitlement} (h : slice.entitlement db = some row)
    (now : Time) :
    slice.entitlement (db.revoke (.entitlement row) now) = some { row with status := .revoked } := by
  unfold entitlement ShopDb.entitlementOf at h ⊢
  rw [ShopDb.revoke, find_patch (by intro _; rfl), h]
  simp

theorem revoke_grant {row : RewardGrant} (h : slice.grant db = some row) (now : Time) :
    slice.grant (db.revoke (.grant row) now) = some { row with revokedAt := some now } := by
  unfold grant ShopDb.grantOf at h ⊢
  rw [ShopDb.revoke, find_patch (by intro _; rfl), h]
  simp

theorem Unrefunded.rule_ne (h : slice.Unrefunded db) (hid : order.id = slice.orderId)
    {row : PointLedger} (hrow : row ∈ db.points.ledger) (request : RefundRequest) :
    row.ruleKey ≠ (request.source order).ruleKey := by
  obtain ⟨hfan, hadmin⟩ := h.rules row hrow
  cases request with
  | fan userId key => simpa [RefundRequest.source, fanRefund, hid] using hfan
  | admin approvalId actorId => simpa [RefundRequest.source, adminRefund, hid] using hadmin

/-- What the order delivered is taken back, and nothing else of it changes. -/
theorem revoke_item {item : RefundItem} (hdelivers : slice.Delivers db item)
    (hsound : slice.entitlement db = none ∨ slice.grant db = none) (now : Time) :
    (∀ row, slice.entitlement (db.revoke item now) = some row → row.status = .revoked) ∧
      (∀ row, slice.grant (db.revoke item now) = some row →
        row.revokedAt ≠ none ∧ row.claimedAt = none) ∧
      (slice.entitlement (db.revoke item now) = none ∨
        slice.grant (db.revoke item now) = none) := by
  cases item with
  | entitlement row =>
    have hnone : slice.grant db = none := hsound.resolve_left (by simp [hdelivers.1])
    have hgrant : slice.grant (db.revoke (.entitlement row) now) = none := hnone
    refine ⟨?_, ?_, .inr hgrant⟩
    · intro row' hrow'
      rw [revoke_entitlement hdelivers.1] at hrow'
      rw [← Option.some.inj hrow']
    · intro row' hrow'
      rw [hgrant] at hrow'
      cases hrow'
  | grant row =>
    obtain ⟨hnone, hgrant, -, hclaimed⟩ := hdelivers
    have hentitlement : slice.entitlement (db.revoke (.grant row) now) = none := hnone
    refine ⟨?_, ?_, .inl hentitlement⟩
    · intro row' hrow'
      rw [hentitlement] at hrow'
      cases hrow'
    · intro row' hrow'
      rw [revoke_grant hgrant] at hrow'
      rw [← Option.some.inj hrow']
      exact ⟨by simp, hclaimed⟩

/-- A refund that goes through leaves the order refunded, once. -/
theorem refund_sound (hsound : slice.Sound price db) {ledgerId : LedgerId} {source : RefundSource}
    {item : RefundItem} (hlocks : slice.Locks db order ledgerId source)
    (hdelivers : slice.Delivers db item) {draws : RefundDraws} {now : Time} {balance : Int}
    (h : reverseOrder (db.revoke item now) order ledgerId source draws now = .ok (db', balance)) :
    slice.Sound price db' := by
  obtain ⟨order', hfound, huser, hpaid, hprice, hstatus⟩ := hsound.order
  obtain rfl := Option.some.inj (hlocks.found.symm.trans hfound)
  obtain rfl := Option.some.inj (hlocks.paid.symm.trans hpaid)
  obtain ⟨-, hnot⟩ | ⟨hrefunded, -⟩ := hstatus
  swap
  · rw [hlocks.completed] at hrefunded
    cases hrefunded
  obtain ⟨points, rfl, hledger⟩ := reverseOrder_ok h
  have hid := order_id hlocks.found
  have hpoints : (db.revoke item now).points = db.points := by cases item <;> rfl
  have horders : (db.revoke item now).orders = db.orders := by cases item <;> rfl
  rw [hpoints] at hledger
  obtain ⟨row, hrow, hrule⟩ | ⟨row, hledger, hamount, hreversed, -, -⟩ := hledger
  · obtain ⟨request, rfl⟩ := hlocks.source
    exact absurd hrule (hnot.rule_ne hid hrow request)
  obtain ⟨hentitlement, hgrant, hdelivered⟩ := revoke_item hdelivers hsound.delivered now
  refine ⟨?_, ?_, hdelivered⟩
  · obtain ⟨spent, hspent, hfacts⟩ := hsound.paid
    exact ⟨spent, by rw [hledger]; exact List.mem_append_left _ hspent, hfacts⟩
  · let refunded : ShopOrder :=
      { order with
        status := .refunded, refundTransactionId := some draws.transactionId
        refundedAt := some now }
    refine ⟨refunded, ?_, huser, hlocks.paid, hprice, .inr ⟨rfl, ?_, hentitlement, hgrant⟩⟩
    · have hold : db.orders.find? (fun row => row.id == slice.orderId) = some order := hlocks.found
      unfold OrderSlice.order ShopDb.findOrder
      rw [horders, find_patch (by intro _; rfl), hold]
      simp [refunded]
    · have hnone := hnot.refunds
      unfold OrderSlice.refunds at hnone ⊢
      rw [hledger, List.filter_append, List.map_append, hnone, List.nil_append]
      simp [hreversed, hamount, hprice]

/-- An opening uses a right that no refund has taken back. -/
theorem opened_sound (hsound : slice.Sound price db) {right : PackEntitlement}
    (hfound : slice.entitlement db = some right) (havailable : right.status = .available)
    (now : Time) : slice.Sound price
      { db with shopEntitlements := markOpened db.shopEntitlements right.id now } := by
  obtain ⟨order, horder, huser, hpaid, hprice, ⟨hcompleted, hnot⟩ | ⟨-, hdone⟩⟩ := hsound.order
  · refine ⟨hsound.paid, ⟨order, horder, huser, hpaid, hprice, .inl ⟨hcompleted, hnot.1, hnot.2⟩⟩,
      .inr (hsound.delivered.resolve_left (by simp [hfound]))⟩
  · rw [hdone.entitlement right hfound] at havailable
    cases havailable

/-- A claim receives a grant that no refund has taken back. -/
theorem claimed_sound (hsound : slice.Sound price db) {grant : RewardGrant}
    (hfound : slice.grant db = some grant) (hkept : grant.revokedAt = none) {now : Time}
    (h : claimLocked db grant now = .ok db') : slice.Sound price db' := by
  obtain rfl | rfl := claimLocked_ok h
  · exact hsound
  · obtain ⟨order, horder, huser, hpaid, hprice, ⟨hcompleted, hnot⟩ | ⟨-, hdone⟩⟩ := hsound.order
    · refine ⟨hsound.paid,
        ⟨order, horder, huser, hpaid, hprice, .inl ⟨hcompleted, hnot.1, hnot.2⟩⟩,
        .inl (hsound.delivered.resolve_right (by simp [hfound]))⟩
    · exact absurd hkept (hdone.grant grant hfound).1

/-- The ledger rows about the order determine what is asked of the ledger. -/
theorem refunds_concerns : slice.refunds db =
    ((db.points.ledger.filter slice.concerns).filter
      (·.reversedLedgerId == some slice.ledgerId)).map (·.amount) := by
  unfold refunds
  rw [List.filter_filter]
  congr 1
  apply List.filter_congr
  intro row _
  cases hrow : row.reversedLedgerId == some slice.ledgerId <;> simp [concerns, hrow]

theorem mem_concerns {row : PointLedger} (h : slice.concerns row) :
    row ∈ db.points.ledger ↔ row ∈ db.points.ledger.filter slice.concerns := by
  simp [h]

theorem keeps_sound {s : RefundRace} (hkeeps : slice.Keeps s db)
    (hsound : slice.Sound price s.committed) : slice.Sound price db := by
  obtain ⟨horder, hentitlement, hgrant, hledger⟩ := hkeeps
  have hrefunds : slice.refunds db = slice.refunds s.committed := by
    rw [refunds_concerns, refunds_concerns, hledger]
  refine ⟨?_, ?_, ?_⟩
  · obtain ⟨row, hrow, hid, hfacts⟩ := hsound.paid
    have hconcerns : slice.concerns row := by simp [concerns, hid]
    exact ⟨row, by rwa [mem_concerns hconcerns, hledger, ← mem_concerns hconcerns], hid, hfacts⟩
  · obtain ⟨order, hfound, huser, hpaid, hprice, hstatus⟩ := hsound.order
    refine ⟨order, horder.trans hfound, huser, hpaid, hprice, ?_⟩
    obtain ⟨hcompleted, hnot⟩ | ⟨hrefunded, hdone⟩ := hstatus
    · refine .inl ⟨hcompleted, hrefunds.trans hnot.refunds, ?_⟩
      intro row hrow
      by_contra hrule
      have hconcerns : slice.concerns row := by
        simp only [concerns, Bool.or_eq_true, beq_iff_eq]
        tauto
      refine hrule (hnot.rules row ?_)
      rwa [mem_concerns hconcerns, ← hledger, ← mem_concerns hconcerns]
    · refine .inr ⟨hrefunded, hrefunds.trans hdone.refunds, ?_, ?_⟩
      · rw [hentitlement]
        exact hdone.entitlement
      · rw [hgrant]
        exact hdone.grant
  · rw [hentitlement, hgrant]
    exact hsound.delivered

/-- What a request knows is about the rows that it holds. -/
theorem knows_congr {phase : OrderPhase} (h : slice.knows phase db)
    (horder : holds phase .order → slice.order db' = slice.order db)
    (hentitlement : holds phase .entitlement → slice.entitlement db' = slice.entitlement db)
    (hgrant : holds phase .grant → slice.grant db' = slice.grant db)
    (hnone : slice.entitlement db = none → slice.entitlement db' = none) :
    slice.knows phase db' := by
  cases phase with
  | idle => trivial
  | asked request => trivial
  | ordered order ledgerId source => exact ⟨(horder rfl).trans h.found, h.2, h.3, h.4⟩
  | holding order ledgerId source item =>
    obtain ⟨hlocks, hdelivers⟩ := h
    refine ⟨⟨(horder (.inl rfl)).trans hlocks.found, hlocks.2, hlocks.3, hlocks.4⟩, ?_⟩
    cases item with
    | entitlement row => exact ⟨(hentitlement (.inr rfl)).trans hdelivers.1, hdelivers.2⟩
    | grant row =>
      exact ⟨hnone hdelivers.1, (hgrant (.inr rfl)).trans hdelivers.2.1, hdelivers.2.2⟩
  | opening right => exact ⟨(hentitlement rfl).trans h.1, h.2⟩
  | claiming grant => exact ⟨(hgrant rfl).trans h.1, h.2⟩

/-- What the requests know of the rows that they hold is so, and the order is sound. -/
structure Invariant (slice : OrderSlice) (price : Int) (s : RefundRace) : Prop where
  knows : s.Knows holds slice.knows
  sound : slice.Sound price s.committed

variable {s : RefundRace} {worker : Nat}

theorem Invariant.move (h : slice.Invariant price s) {phase : OrderPhase}
    (hrows : ∀ row, ¬holds phase row) (hknows : slice.knows phase s.committed) :
    slice.Invariant price (s.move worker phase) :=
  ⟨h.knows.move (fun row hrow => absurd hrow (hrows row)) hknows, h.sound⟩

theorem Invariant.giveUp (h : slice.Invariant price s) :
    slice.Invariant price (s.release worker s.committed .idle) :=
  ⟨h.knows.release (fun _ => id) trivial fun _ _ hfact => hfact, h.sound⟩

theorem Invariant.lockOrder (h : slice.Invariant price s) {request : RefundRequest}
    (hfound : slice.requested s.committed request = some order) (hfree : s.owner .order = none)
    {ledgerId : LedgerId} (hcheck : checkRefundable order = .ok ledgerId) :
    slice.Invariant price
      (s.acquire worker .order (.ordered order ledgerId (request.source order))) := by
  obtain ⟨hcompleted, hpaid⟩ := checkRefundable_ok hcheck
  have hrow : slice.order s.committed = some order := by
    cases request with
    | fan userId key => exact (Option.filter_eq_some_iff.mp hfound).1
    | admin approvalId actorId => exact hfound
  exact ⟨h.knows.acquire hfree (fun row hrow => .inl hrow) ⟨hrow, hcompleted, hpaid, request, rfl⟩,
    h.sound⟩

theorem Invariant.lockItem (h : slice.Invariant price s) {ledgerId : LedgerId}
    {source : RefundSource} (hphase : s.phase worker = .ordered order ledgerId source)
    (hfree : s.owner (slice.itemRow s.committed) = none) {item : RefundItem}
    (hitem : refundItem s.committed order source.claimedMessage = .ok item) :
    slice.Invariant price (s.acquire worker item.row (.holding order ledgerId source item)) := by
  have hlocks : slice.Locks s.committed order ledgerId source := by
    simpa [hphase, OrderSlice.knows] using h.knows.facts worker
  have hid := order_id hlocks.found
  have huser : order.userId = slice.userId := by
    obtain ⟨order', hfound, huser, -⟩ := h.sound.order
    rwa [Option.some.inj (hlocks.found.symm.trans hfound)]
  have hdelivers := refundItem_ok hitem
  rw [hid, huser] at hdelivers
  have hfacts : slice.Delivers s.committed item ∧ slice.itemRow s.committed = item.row := by
    cases item with
    | entitlement row =>
      have hsome : slice.entitlement s.committed = some row := hdelivers.1
      exact ⟨hdelivers, by simp [itemRow, hsome, RefundItem.row]⟩
    | grant row =>
      have hnone : slice.entitlement s.committed = none := hdelivers.1
      exact ⟨hdelivers, by simp [itemRow, hnone, RefundItem.row]⟩
  refine ⟨h.knows.acquire (hfacts.2 ▸ hfree) ?_ ⟨hlocks, hfacts.1⟩, h.sound⟩
  rintro row (hrow | hrow)
  · exact .inr (by rw [hphase]; exact hrow)
  · exact .inl hrow

/-- The other requests hold neither the order nor what a refund takes back. -/
theorem Invariant.refund (h : slice.Invariant price s) {ledgerId : LedgerId}
    {source : RefundSource} {item : RefundItem}
    (hphase : s.phase worker = .holding order ledgerId source item) {draws : RefundDraws}
    {now : Time} {balance : Int}
    (hreverse : reverseOrder (s.committed.revoke item now) order ledgerId source draws now =
      .ok (db, balance)) : slice.Invariant price (s.release worker db .idle) := by
  have hfacts : slice.Locks s.committed order ledgerId source ∧
      slice.Delivers s.committed item := by
    simpa [hphase, OrderSlice.knows] using h.knows.facts worker
  refine ⟨h.knows.release (fun _ => id) trivial ?_, refund_sound h.sound hfacts.1 hfacts.2 hreverse⟩
  intro phase hothers hknows
  rw [hphase] at hothers
  obtain ⟨points, rfl, -⟩ := reverseOrder_ok hreverse
  refine knows_congr hknows ?_ ?_ ?_ ?_
  · exact fun hrow => absurd (.inl rfl) (hothers _ hrow)
  · intro hrow
    cases item with
    | entitlement row => exact absurd (.inr rfl) (hothers _ hrow)
    | grant row => rfl
  · intro hrow
    cases item with
    | entitlement row => rfl
    | grant row => exact absurd (.inr rfl) (hothers _ hrow)
  · intro hnone
    cases item with
    | entitlement row =>
      rw [hfacts.2.1] at hnone
      cases hnone
    | grant row => exact hnone

theorem Invariant.opens (h : slice.Invariant price s) {right : PackEntitlement}
    (hphase : s.phase worker = .opening right) (now : Time) :
    slice.Invariant price (s.release worker
      { s.committed with
        shopEntitlements := markOpened s.committed.shopEntitlements right.id now } .idle) := by
  have hfacts : slice.entitlement s.committed = some right ∧ right.status = .available := by
    simpa [hphase, OrderSlice.knows] using h.knows.facts worker
  refine ⟨h.knows.release (fun _ => id) trivial ?_, opened_sound h.sound hfacts.1 hfacts.2 now⟩
  intro phase hothers hknows
  rw [hphase] at hothers
  refine knows_congr hknows (fun _ => rfl) (fun hrow => absurd rfl (hothers _ hrow))
    (fun _ => rfl) ?_
  intro hnone
  rw [hfacts.1] at hnone
  cases hnone

theorem Invariant.claims (h : slice.Invariant price s) {grant : RewardGrant}
    (hphase : s.phase worker = .claiming grant) {now : Time}
    (hclaim : claimLocked s.committed grant now = .ok db) :
    slice.Invariant price (s.release worker db .idle) := by
  have hfacts : slice.grant s.committed = some grant ∧ grant.revokedAt = none := by
    simpa [hphase, OrderSlice.knows] using h.knows.facts worker
  refine ⟨h.knows.release (fun _ => id) trivial ?_,
    claimed_sound h.sound hfacts.1 hfacts.2 hclaim⟩
  intro phase hothers hknows
  rw [hphase] at hothers
  obtain rfl | rfl := claimLocked_ok hclaim
  · exact hknows
  · exact knows_congr hknows (fun _ => rfl) (fun _ => rfl)
      (fun hrow => absurd rfl (hothers _ hrow)) id

theorem Invariant.elsewhere (h : slice.Invariant price s) (hkeeps : slice.Keeps s db) :
    slice.Invariant price { s with committed := db } := by
  refine ⟨h.knows.change ?_, keeps_sound hkeeps h.sound⟩
  intro worker hknows
  obtain ⟨horder, hentitlement, hgrant, -⟩ := hkeeps
  exact knows_congr hknows (fun _ => horder) (fun _ => hentitlement) (fun _ => hgrant)
    hentitlement.trans

/-- One step of a request or of another transaction keeps the order sound. -/
theorem Invariant.step (h : slice.Invariant price s) (a : OrderAction) :
    slice.Invariant price (slice.step s a) := by
  cases a with
  | ask worker request =>
    simp only [OrderSlice.step]
    split
    · split
      · exact h
      · exact h.move (fun _ => id) trivial
    · exact h
  | lockOrder worker =>
    simp only [OrderSlice.step]
    split
    · split
      · exact h.move (fun _ => id) trivial
      · rename_i hfound
        split
        · rename_i hfree
          split
          · rename_i hcheck
            exact h.lockOrder hfound hfree hcheck
          · exact h.move (fun _ => id) trivial
        · exact h
    · exact h
  | lockItem worker =>
    simp only [OrderSlice.step]
    split
    · rename_i hphase
      split
      · rename_i hfree
        split
        · rename_i hitem
          exact h.lockItem hphase hfree hitem
        · exact h.giveUp
      · exact h
    · exact h
  | refund worker draws now =>
    simp only [OrderSlice.step]
    split
    · rename_i hphase
      split
      · rename_i hreverse
        exact h.refund hphase hreverse
      · exact h.giveUp
    · exact h
  | lockRight worker userId packId =>
    simp only [OrderSlice.step]
    split
    · rename_i right _ hright
      split
      · rename_i hmine
        exact ⟨h.knows.acquire hmine.2 (fun row hrow => .inl hrow)
          ⟨hmine.1, (firstAvailable_ok hright).2.2.2⟩, h.sound⟩
      · exact h
    · exact h
  | opens worker succeeds now =>
    simp only [OrderSlice.step]
    split
    · rename_i hphase
      cases succeeds with
      | true => exact h.opens hphase now
      | false => exact h.giveUp
    · exact h
  | lockGrant worker userId grantId =>
    simp only [OrderSlice.step]
    split
    · rename_i grant _ hgrant
      split
      · rename_i hmine
        exact ⟨h.knows.acquire hmine.2 (fun row hrow => .inl hrow)
          ⟨hmine.1, (claimableGrant_ok hgrant).2⟩, h.sound⟩
      · exact h
    · exact h
  | claims worker now =>
    simp only [OrderSlice.step]
    split
    · rename_i hphase
      split
      · rename_i hclaim
        exact h.claims hphase hclaim
      · exact h.giveUp
    · exact h
  | abort worker => exact h.giveUp
  | elsewhere db =>
    simp only [OrderSlice.step]
    split
    · rename_i hkeeps
      exact h.elsewhere hkeeps
    · exact h

/-- A step leaves the points alone, commits a refund, or keeps the rows of the order. -/
theorem step_committed (slice : OrderSlice) (s : RefundRace) (a : OrderAction) :
    (slice.step s a).committed.points = s.committed.points ∨
      (∃ worker order ledgerId source item,
        s.phase worker = .holding order ledgerId source item) ∨
      slice.Keeps s (slice.step s a).committed := by
  cases a with
  | refund worker draws now =>
    cases hphase : s.phase worker with
    | holding order ledgerId source item => exact .inr (.inl ⟨_, _, _, _, _, hphase⟩)
    | _ => simp [OrderSlice.step, hphase]
  | elsewhere db =>
    by_cases hkeeps : slice.Keeps s db
    · simp only [OrderSlice.step, if_pos hkeeps]
      exact .inr (.inr hkeeps)
    · simp [OrderSlice.step, if_neg hkeeps]
  | opens worker succeeds now =>
    refine .inl ?_
    simp only [OrderSlice.step]
    split
    · cases succeeds <;> rfl
    · rfl
  | claims worker now =>
    refine .inl ?_
    simp only [OrderSlice.step]
    split
    · split
      · rename_i hclaim
        obtain rfl | rfl := claimLocked_ok hclaim <;> rfl
      · rfl
    · rfl
  | ask worker request => exact .inl (by simp only [OrderSlice.step]; split <;> [split; skip] <;> rfl)
  | lockOrder worker =>
    refine .inl ?_
    simp only [OrderSlice.step]
    split
    · split
      · rfl
      · split
        · split <;> rfl
        · rfl
    · rfl
  | lockItem worker =>
    refine .inl ?_
    simp only [OrderSlice.step]
    split
    · split
      · split <;> rfl
      · rfl
    · rfl
  | lockRight worker userId packId =>
    refine .inl ?_
    simp only [OrderSlice.step]
    split
    · split <;> rfl
    · rfl
  | lockGrant worker userId grantId =>
    refine .inl ?_
    simp only [OrderSlice.step]
    split
    · split <;> rfl
    · rfl
  | abort worker => exact .inl rfl

/-- What a refund has returned stays returned. -/
theorem Invariant.refunds_step (h : slice.Invariant price s) (hne : slice.refunds s.committed ≠ [])
    (a : OrderAction) : slice.refunds (slice.step s a).committed ≠ [] := by
  obtain hpoints | ⟨worker, order, ledgerId, source, item, hphase⟩ | ⟨-, -, -, hledger⟩ :=
    step_committed slice s a
  · rwa [OrderSlice.refunds, hpoints]
  · have hfacts : slice.Locks s.committed order ledgerId source ∧
        slice.Delivers s.committed item := by
      simpa [hphase, OrderSlice.knows] using h.knows.facts worker
    have hmarked := h.sound.refundedOnce.marked.mp hne
    simp [hfacts.1.found, hfacts.1.completed] at hmarked
  · rwa [refunds_concerns, hledger, ← refunds_concerns]

/-- The identifiers that an order draws are new: nothing refers to them. -/
structure FreshDraws (db : ShopDb) (draws : OrderDraws) : Prop where
  entitlements : ∀ row ∈ db.shopEntitlements, row.sourceId ≠ draws.orderId
  grants : ∀ row ∈ db.rewardGrants, row.ruleKey ≠ orderRule draws.orderId
  events : ∀ row ∈ db.points.events, row.sourceId ≠ draws.orderId
  ledgerEvents : ∀ row ∈ db.points.ledger, row.sourceEventId ≠ draws.eventId
  reversals : ∀ row ∈ db.points.ledger, row.reversedLedgerId ≠ some draws.ledgerId
  rules : ∀ row ∈ db.points.ledger, row.ruleKey ≠ "shop_refund:" ++ draws.orderId ∧
    row.ruleKey ≠ "admin_shop_refund:" ++ draws.orderId

instance (db : ShopDb) (draws : OrderDraws) : Decidable (FreshDraws db draws) :=
  decidable_of_iff (_ ∧ _ ∧ _ ∧ _ ∧ _ ∧ _)
    ⟨fun h => ⟨h.1, h.2.1, h.2.2.1, h.2.2.2.1, h.2.2.2.2.1, h.2.2.2.2.2⟩,
      fun h => ⟨h.1, h.2, h.3, h.4, h.5, h.6⟩⟩

theorem orderRules_ne (productId : ProductId) (orderId : OrderId) :
    "shop_order:" ++ productId ≠ "shop_refund:" ++ orderId ∧
      "shop_order:" ++ productId ≠ "admin_shop_refund:" ++ orderId :=
  ⟨append_ne_append (by simp) productId orderId, append_ne_append (by simp) productId orderId⟩

/-- A new order is paid, and nothing has been returned for it. -/
theorem placeOrder_sound {userId : UserId} {product : ShopProduct} {payload : ShopOrderCreate}
    {key : String} {draws : OrderDraws} {now : Time} {answer : OrderAnswer}
    (h : placeOrder db userId product payload key draws now = .ok (db', answer))
    (hdraws : FreshDraws db draws) :
    Sound ⟨draws.orderId, userId, draws.ledgerId⟩ product.pricePoints db' := by
  obtain ⟨event, ledger, points, entitlements, grants, rfl, -, hid, hevent, hsource, hledger,
    hdelivered⟩ := placeOrder_ok h
  have heventId : event.id = draws.eventId := by
    rcases hevent with ⟨hmem, hold⟩ | hnew
    · exact absurd hold (hdraws.events event hmem)
    · exact hnew
  obtain hold | ⟨hledger, hledgerId, hrule, hspend, hamount, hreversed⟩ := hledger
  · exact absurd (hsource.trans heventId) (hdraws.ledgerEvents ledger hold)
  refine ⟨?_, ?_, ?_⟩
  · exact ⟨ledger, by simp [hledger], hledgerId, hspend, hamount⟩
  · let placed : ShopOrder :=
      { id := draws.orderId, userId := userId, productId := product.id
        productName := product.name, pricePoints := product.pricePoints
        paymentMethod := payload.paymentMethod, idempotencyKey := some key
        pointLedgerId := some ledger.id, pointEventId := some event.id }
    refine ⟨placed, ?_, rfl, congrArg some hledgerId, rfl, .inl ⟨rfl, ?_, ?_⟩⟩
    · have hnone : db.orders.find? (fun row => row.id == draws.orderId) = none :=
        List.find?_eq_none.mpr fun row hrow => by simpa using hid row hrow
      simp only [OrderSlice.order, ShopDb.findOrder]
      rw [find_insert, hnone]
      simp [placed]
    · have hnone : db.points.ledger.filter (·.reversedLedgerId == some draws.ledgerId) = [] :=
        List.filter_eq_nil_iff.mpr fun row hrow => by simpa using hdraws.reversals row hrow
      simp only [OrderSlice.refunds, hledger, List.filter_append, hnone]
      simp [hreversed]
    · intro row hrow
      simp only [hledger, List.mem_append, List.mem_singleton] at hrow
      rcases hrow with hold | rfl
      · exact hdraws.rules row hold
      · rw [hrule]
        exact orderRules_ne _ _
  · obtain ⟨row, -, -, rfl⟩ | rfl := hdelivered
    · refine .inr (List.find?_eq_none.mpr ?_)
      intro grant hgrant
      have hother := hdraws.grants grant hgrant
      simp [hother]
    · refine .inl (List.find?_eq_none.mpr ?_)
      intro row hrow
      simpa using hdraws.entitlements row hrow

theorem createShopOrder_placed {userId : UserId} {payload : ShopOrderCreate} {key : String}
    {draws : OrderDraws} {now : Time} {answer : OrderAnswer}
    (h : createShopOrder db userId payload key draws now = .ok (db', answer))
    (hnew : answer.replayed = false) :
    ∃ product, placeOrder db userId product payload key draws now = .ok (db', answer) := by
  simp only [createShopOrder, bind_ok, ensure_ok, exists_const] at h
  obtain ⟨-, -, h⟩ := h
  split at h
  · simp only [bind_ok, ensure_ok, exists_const, pure_ok, Prod.mk.injEq] at h
    rw [← h.2.2] at hnew
    cases hnew
  · simp only [bind_ok] at h
    obtain ⟨product, -, hplace⟩ := h
    exact ⟨product, hplace⟩

end

end OrderSlice

/-- However refunds race with openings and claims, an order is refunded at most once, for what it
was paid with, and never together with a use of what it delivered. -/
theorem order_refundedOnce {db db' : ShopDb} {userId : UserId} {payload : ShopOrderCreate}
    {key : String} {draws : OrderDraws} {now : Time} {answer : OrderAnswer}
    (hcreate : createShopOrder db userId payload key draws now = .ok (db', answer))
    (hnew : answer.replayed = false) (hdraws : OrderSlice.FreshDraws db draws)
    (acts : List OrderAction) :
    let slice : OrderSlice := ⟨draws.orderId, userId, draws.ledgerId⟩
    Throughout slice.step (fun s => slice.RefundedOnce s.committed) (OrderSlice.start db') acts ∧
      ∀ pre, pre <+: acts →
        slice.refunds (run slice.step (OrderSlice.start db') pre).committed ≠ [] →
        ¬slice.Used (run slice.step (OrderSlice.start db') acts).committed := by
  intro slice
  obtain ⟨product, hplace⟩ := OrderSlice.createShopOrder_placed hcreate hnew
  have hstart : slice.Invariant product.pricePoints (OrderSlice.start db') :=
    ⟨⟨fun _ _ => False.elim, fun _ => trivial⟩, OrderSlice.placeOrder_sound hplace hdraws⟩
  have hkept : Throughout slice.step (slice.Invariant product.pricePoints)
      (OrderSlice.start db') acts := throughout_of_step hstart fun s a h => h.step a
  refine ⟨hkept.imp fun s h => h.sound.refundedOnce, ?_⟩
  rintro pre ⟨post, rfl⟩ hrefunded
  have hpre : slice.Invariant product.pricePoints (run slice.step (OrderSlice.start db') pre) :=
    throughout_iff_reached.mp hkept pre (List.prefix_append pre post)
  rw [run_append]
  have hlast : slice.Invariant product.pricePoints
        (run slice.step (run slice.step (OrderSlice.start db') pre) post) ∧
      slice.refunds
        (run slice.step (run slice.step (OrderSlice.start db') pre) post).committed ≠ [] :=
    run_of_step (I := fun s => slice.Invariant product.pricePoints s ∧
      slice.refunds s.committed ≠ []) ⟨hpre, hrefunded⟩
      fun s a h => ⟨h.1.step a, h.1.refunds_step h.2 a⟩
  exact hlast.1.sound.refundedOnce.unused hlast.2

/-- A fan and an admin refund an order while its pack is about to be opened. -/
theorem order_refundedOnce_raced :
    let shop := openShop [packProduct] [⟨"fan", 1000⟩]
    let sold := createShopOrder shop "fan" ⟨"pack-product", "points"⟩ "buy"
      ⟨"order", "event", "ledger", "right", "grant", "transaction"⟩ 5
    let acts : List OrderAction :=
      [.ask 0 (.fan "fan" "back"), .ask 1 (.admin "approval" "admin"), .lockOrder 0,
        .lockOrder 1, .lockItem 0, .lockRight 2 "fan" "pack",
        .refund 0 ⟨"event2", "ledger2", "transaction2"⟩ 6, .lockOrder 1, .lockRight 2 "fan" "pack"]
    let slice : OrderSlice := ⟨"order", "fan", "ledger"⟩
    let start := OrderSlice.start (commitOr shop sold)
    slice.refunds (run slice.step start acts).committed = [100] ∧
      Throughout slice.step (fun s => slice.RefundedOnce s.committed) start acts := by
  intro shop sold acts slice start
  have hsold : sold = .ok (commitOr shop sold, ⟨"order", "pack-product", .completed, false⟩) := rfl
  exact ⟨by decide, (order_refundedOnce hsold rfl (by decide) acts).1⟩

end Fanfolio
