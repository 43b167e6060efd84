import Fanfolio.Framework.RowLocks
import Fanfolio.Framework.Run
import Fanfolio.Shop.Refunds

/-!
# The stock of a product

A product counts its sales in `sold_count`, and its orders are rows. An order locks the product,
compares the counter with the limit and counts one up; a refund marks the order and leaves the
counter as it is.
-/

namespace Fanfolio

open Framework

/-- A request for one order. -/
structure OrderRequest where
  userId : UserId
  payload : ShopOrderCreate
  key : String
deriving DecidableEq, Repr

/-- What a worker is about: a request for an order, from its arrival to its commit. -/
inductive StockPhase where
  | idle
  | asked (request : OrderRequest)
  | locked (request : OrderRequest)
  | checked (request : OrderRequest) (product : ShopProduct)
deriving DecidableEq, Repr

/-- A step of an order, a refund, or a commit of another transaction. -/
inductive StockAction where
  /-- An order arrives; it is not a replay. -/
  | ask (worker : Nat) (request : OrderRequest)
  | lock (worker : Nat)
  /-- The checks on the locked product. -/
  | check (worker : Nat) (now : Time)
  | place (worker : Nat) (draws : OrderDraws) (now : Time)
  | abort (worker : Nat)
  | fanRefund (userId : UserId) (orderId : OrderId) (key : String) (draws : RefundDraws)
      (now : Time)
  | adminRefund (orderId : OrderId) (approvalId actorId : String) (draws : RefundDraws)
      (now : Time)
  | elsewhere (db : ShopDb)

/-- The workers share the shop, and lock the row of the product. -/
abbrev StockRace := RowLocks Nat Unit ShopDb StockPhase

namespace ShopDb

/-- The orders of a product that are completed. -/
def completedOf (db : ShopDb) (productId : ProductId) : Nat :=
  db.orders.countP fun row => row.productId == productId && row.status == .completed

def refundedOf (db : ShopDb) (productId : ProductId) : Nat :=
  db.orders.countP fun row => row.productId == productId && row.status == .refunded

/-- All orders of a product, whatever has become of them. -/
def ordersOf (db : ShopDb) (productId : ProductId) : Nat :=
  db.orders.countP fun row => row.productId == productId

end ShopDb

/-- The checks of an order come as far as the stock of the product. -/
def reachesStock (product : ShopProduct) (now : Time) : Bool :=
  shopProductIsSellable product now &&
    (product.productType ≠ .cardPack || product.cardPackId.any (· ≠ "")) &&
    (product.productType = .cardPack || product.rewardId ≠ "")

/-- A limit is not lowered. -/
def limitKept (before after : Option Nat) : Bool := after.all fun limit => before.any (· ≤ limit)

/-- An order that is not a replay: it goes on to the product. -/
def OrderRequest.admitted (request : OrderRequest) (productId : ProductId) (db : ShopDb) : Bool :=
  request.key ≠ "" && request.payload.paymentMethod = "points" &&
    request.payload.productId = productId && (db.orderUnder request.userId request.key).isNone

namespace Stock

variable (productId : ProductId)

/-- A commit of another transaction: it leaves the orders and the counter of the product alone,
lowers no limit, and waits for the lock to write the product. -/
def Keeps (s : StockRace) (db : ShopDb) : Prop :=
  db.orders.filter (·.productId == productId) =
      s.committed.orders.filter (·.productId == productId) ∧
    (db.findProduct productId).all (fun row => (s.committed.findProduct productId).any fun old =>
      row.soldCount == old.soldCount && limitKept old.inventoryLimit row.inventoryLimit &&
        limitKept old.perUserLimit row.perUserLimit) ∧
    (s.owner () ≠ none → db.findProduct productId = s.committed.findProduct productId)

instance (s : StockRace) (db : ShopDb) : Decidable (Keeps productId s db) :=
  inferInstanceAs (Decidable (_ ∧ _ ∧ _))

/-- One step; an order that waits for the lock leaves the state as it is. -/
def step (s : StockRace) : StockAction → StockRace
  | .ask worker request =>
    match s.phase worker with
    | .idle =>
      if request.admitted productId s.committed then s.move worker (.asked request) else s
    | _ => s
  | .lock worker =>
    match s.phase worker with
    | .asked request =>
      if s.owner () = none then s.acquire worker () (.locked request) else s
    | _ => s
  | .check worker now =>
    match s.phase worker with
    | .locked request =>
      match checkProduct s.committed request.userId
          (s.committed.findProduct request.payload.productId) now with
      | .ok product => s.move worker (.checked request product)
      | .error _ => s.release worker s.committed .idle
    | _ => s
  | .place worker draws now =>
    match s.phase worker with
    | .checked request product =>
      match placeOrder s.committed request.userId product request.payload request.key draws
          now with
      | .ok (db, _) => s.release worker db .idle
      | .error _ => s.release worker s.committed .idle
    | _ => s
  | .abort worker => s.release worker s.committed .idle
  | .fanRefund userId orderId key draws now =>
    { s with
      committed := commitOr s.committed (refundShopOrder s.committed userId orderId key draws now) }
  | .adminRefund orderId approvalId actorId draws now =>
    { s with
      committed := commitOr s.committed
        (executeApprovedRefund s.committed orderId approvalId actorId draws now) }
  | .elsewhere db => if Keeps productId s db then { s with committed := db } else s

def start (db : ShopDb) : StockRace := ⟨db, fun _ => none, fun _ => .idle⟩

/-- The product as it is created: nothing sold. -/
def Unsold (db : ShopDb) : Prop :=
  (db.findProduct productId).any (·.soldCount = 0) ∧
    ∀ order ∈ db.orders, order.productId ≠ productId

instance : DecidablePred (Unsold productId) := fun _ => inferInstanceAs (Decidable (_ ∧ _))

/-- No more orders are completed than the product has in stock, and none beyond the limit of a
fan. -/
def WithinLimits (db : ShopDb) : Prop :=
  ∀ product ∈ db.findProduct productId,
    (∀ limit ∈ product.inventoryLimit, db.completedOf productId ≤ limit) ∧
      ∀ limit ∈ product.perUserLimit, ∀ userId, db.completedBy userId productId ≤ limit

/-- The request of an order that is about to be checked, if its worker is at that step. -/
def checking (s : StockRace) : StockAction → Option (OrderRequest × Time)
  | .check worker now =>
    match s.phase worker with
    | .locked request => some (request, now)
    | _ => none
  | _ => none

/-- An order is refused as sold out only when orders in the number of the limit are completed. -/
def SoldOutRightly (s : StockRace) (a : StockAction) : Prop :=
  ∀ request now, checking s a = some (request, now) →
    checkProduct s.committed request.userId (s.committed.findProduct request.payload.productId)
      now = .error productSoldOut →
    ∃ product ∈ s.committed.findProduct productId,
      s.committed.completedOf productId ∈ product.inventoryLimit

/-- An order that finds the product sold as often as its limit finds none of the orders
refunded. -/
def NoneRefunded (s : StockRace) (a : StockAction) : Prop :=
  ∀ request now, checking s a = some (request, now) →
    ∀ product ∈ s.committed.findProduct productId, reachesStock product now →
      s.committed.ordersOf productId ∈ product.inventoryLimit →
      s.committed.refundedOf productId = 0

section

variable {productId : ProductId} {db db' : ShopDb} {product : ShopProduct} {userId : UserId}
  {now : Time}

theorem checkProduct_soldOut_iff {product? : Option ShopProduct} :
    checkProduct db userId product? now = .error productSoldOut ↔
      ∃ product ∈ product?, reachesStock product now ∧
        ∃ limit ∈ product.inventoryLimit, limit ≤ product.soldCount := by
  simp only [checkProduct, bind_error, orFail_error, orFail_ok, ensure_error,
    ensure_ok, exists_const, pure_error, Option.filter_eq_some_iff, Option.filter_eq_none_iff]
  simp only [productSoldOut, reachesStock]
  cases product? with
  | none => simp
  | some row =>
    cases hpack : decide (row.productType = .cardPack) <;> cases hlimit : row.inventoryLimit <;>
      simp_all [and_assoc]

/-- The counter and the rows agree, and both are within the limits. -/
structure Counted (productId : ProductId) (db : ShopDb) : Prop where
  counter : ∀ product ∈ db.findProduct productId, product.soldCount = db.ordersOf productId
  stock : ∀ product ∈ db.findProduct productId, ∀ limit ∈ product.inventoryLimit,
    product.soldCount ≤ limit
  quota : ∀ product ∈ db.findProduct productId, ∀ limit ∈ product.perUserLimit, ∀ userId,
    db.completedBy userId productId ≤ limit
  statuses : ∀ order ∈ db.orders, order.productId = productId → order.status ≠ .failed

theorem Counted.completed_add_refunded (h : Counted productId db) :
    db.completedOf productId + db.refundedOf productId = db.ordersOf productId := by
  unfold ShopDb.completedOf ShopDb.refundedOf ShopDb.ordersOf
  rw [List.countP_eq_countP_filter_add db.orders (fun row => row.productId == productId)
    (fun row => row.status == .completed), List.countP_filter, List.countP_filter]
  congr 1
  apply List.countP_congr
  intro order horder
  have hstatus := h.statuses order horder
  cases hcase : order.status <;> simp_all

theorem Counted.withinLimits (h : Counted productId db) : WithinLimits productId db := by
  intro product hproduct
  refine ⟨?_, fun limit hlimit userId => h.quota product hproduct limit hlimit userId⟩
  intro limit hlimit
  have hcounter := h.counter product hproduct
  have hstock := h.stock product hproduct limit hlimit
  have hrows := h.completed_add_refunded
  omega

theorem Unsold.counted (h : Unsold productId db) : Counted productId db := by
  obtain ⟨hproduct, horders⟩ := h
  have hnone (p : ShopOrder → Bool) :
      db.orders.countP (fun row => row.productId == productId && p row) = 0 :=
    List.countP_eq_zero.mpr fun row hrow => by simp [horders row hrow]
  refine ⟨?_, ?_, ?_, fun order horder heq => absurd heq (horders order horder)⟩
  · intro product hfind
    rw [hfind] at hproduct
    have hrows := hnone fun _ => true
    simp only [Bool.and_true] at hrows
    simpa [ShopDb.ordersOf, hrows] using hproduct
  · intro product hfind limit _
    rw [hfind] at hproduct
    simp_all
  · intro product _ limit _ userId
    have hrows : db.completedBy userId productId = 0 :=
      List.countP_eq_zero.mpr fun row hrow => by simp [horders row hrow]
    omega

theorem limitKept_iff {before after : Option Nat} :
    limitKept before after ↔ ∀ limit ∈ after, ∃ old ∈ before, old ≤ limit := by
  simp [limitKept, Option.all_eq_true, Option.any_eq_true]

/-- A commit that places no order of the product. -/
structure PlacesNone (productId : ProductId) (db db' : ShopDb) : Prop where
  product : db'.findProduct productId = db.findProduct productId
  orders : db'.ordersOf productId = db.ordersOf productId
  completed : ∀ userId, db'.completedBy userId productId ≤ db.completedBy userId productId
  statuses : (∀ order ∈ db.orders, order.productId = productId → order.status ≠ .failed) →
    ∀ order ∈ db'.orders, order.productId = productId → order.status ≠ .failed

theorem PlacesNone.refl (productId : ProductId) (db : ShopDb) : PlacesNone productId db db :=
  ⟨rfl, rfl, fun _ => le_rfl, id⟩

theorem refundOrder_placesNone {order : ShopOrder} {source : RefundSource} {draws : RefundDraws}
    {balance : Int} (h : refundOrder db order source draws now = .ok (db', balance)) :
    PlacesNone productId db db' := by
  obtain ⟨-, hproducts, horders⟩ := refundOrder_ok h
  refine ⟨?_, ?_, ?_, ?_⟩
  · rw [ShopDb.findProduct, hproducts, ShopDb.findProduct]
  · rw [ShopDb.ordersOf, horders, countP_patch (by intro _; rfl), ShopDb.ordersOf]
  · intro userId
    rw [ShopDb.completedBy, horders]
    exact countP_patch_le (by simp) _
  · intro hstatuses row hrow heq
    rw [horders] at hrow
    obtain ⟨row', hrow', rfl⟩ := mem_patch.mp hrow
    by_cases hid : row'.id == order.id
    · simp [hid]
    · simp only [hid] at heq ⊢
      exact hstatuses row' hrow' heq

theorem refundShopOrder_placesNone {orderId : OrderId} {key : String} {draws : RefundDraws} :
    PlacesNone productId db (commitOr db (refundShopOrder db userId orderId key draws now)) := by
  refine commitOr_keeps (.refl productId db) fun db' balance h => ?_
  obtain ⟨ledger, -, rfl⟩ | ⟨order, -, -, -, hrefund⟩ := refundShopOrder_ok h
  · exact .refl productId db'
  · exact refundOrder_placesNone hrefund

theorem executeApprovedRefund_placesNone {orderId : OrderId} {approvalId actorId : String}
    {draws : RefundDraws} : PlacesNone productId db
      (commitOr db (executeApprovedRefund db orderId approvalId actorId draws now)) := by
  refine commitOr_keeps (.refl productId db) fun db' balance h => ?_
  obtain ⟨order, -, hrefund⟩ := executeApprovedRefund_ok h
  exact refundOrder_placesNone hrefund

theorem Counted.placesNone (h : Counted productId db) (hnone : PlacesNone productId db db') :
    Counted productId db' := by
  refine ⟨?_, ?_, ?_, hnone.statuses h.statuses⟩
  · rw [hnone.product, hnone.orders]
    exact h.counter
  · rw [hnone.product]
    exact h.stock
  · rw [hnone.product]
    intro product hproduct limit hlimit userId
    exact (hnone.completed userId).trans (h.quota product hproduct limit hlimit userId)

/-- The worker holds the product from its lock to its commit. -/
def holds : StockPhase → Unit → Prop
  | .locked _, _ => True
  | .checked .., _ => True
  | _, _ => False

/-- What the checks have found out goes on being so. -/
structure Passed (productId : ProductId) (request : OrderRequest) (product : ShopProduct)
    (db : ShopDb) : Prop where
  found : db.findProduct productId = some product
  stock : ∀ limit ∈ product.inventoryLimit, product.soldCount < limit
  quota : ∀ limit ∈ product.perUserLimit, db.completedBy request.userId productId < limit

def knows (productId : ProductId) : StockPhase → ShopDb → Prop
  | .idle, _ => True
  | .asked request, _ => request.payload.productId = productId
  | .locked request, _ => request.payload.productId = productId
  | .checked request product, db => Passed productId request product db

/-- The counter agrees with the rows, and what the workers know is so. -/
structure Invariant (productId : ProductId) (s : StockRace) : Prop where
  knows : s.Knows holds (knows productId)
  counted : Counted productId s.committed

variable {s : StockRace} {worker : Nat} {request : OrderRequest}

theorem findProduct_ok (h : db.findProduct productId = some product) : product.id = productId :=
  (mem_of_find_eq_some (g := ShopProduct.id) h).2

theorem Passed.placesNone (h : Passed productId request product db)
    (hnone : PlacesNone productId db db') : Passed productId request product db' :=
  ⟨hnone.product.trans h.found, h.stock,
    fun limit hlimit => (hnone.completed request.userId).trans_lt (h.quota limit hlimit)⟩

theorem Invariant.placesNone (h : Invariant productId s)
    (hnone : PlacesNone productId s.committed db) :
    Invariant productId { s with committed := db } := by
  refine ⟨h.knows.change ?_, h.counted.placesNone hnone⟩
  intro worker hknows
  cases hphase : s.phase worker with
  | checked request product =>
    rw [hphase] at hknows
    exact Passed.placesNone hknows hnone
  | idle => trivial
  | _ => simpa [hphase, Stock.knows] using hknows

/-- An order that passed the checks raises the counter and the rows by one. -/
theorem Counted.placed (h : Counted productId db) (hpassed : Passed productId request product db)
    {draws : OrderDraws} {answer : OrderAnswer}
    (hplace : placeOrder db request.userId product request.payload request.key draws now =
      .ok (db', answer)) : Counted productId db' := by
  have hid := findProduct_ok hpassed.found
  have hcounter := h.counter product hpassed.found
  have hbought : db.products.find? (fun row => row.id == productId) = some product := hpassed.found
  obtain ⟨event, ledger, points, entitlements, grants, rfl, -⟩ := placeOrder_ok hplace
  have hsold : ∀ row ∈ (patch (·.id == product.id) ({ · with soldCount := product.soldCount + 1 })
      db.products).find? (fun row => row.id == productId),
      row = { product with soldCount := product.soldCount + 1 } := by
    intro row hrow
    rw [find_patch (by intro _; rfl), hbought] at hrow
    simp only [Option.map_some, beq_self_eq_true, if_true, Option.mem_def,
      Option.some.injEq] at hrow
    exact hrow.symm
  refine ⟨?_, ?_, ?_, ?_⟩
  · intro row hrow
    rw [hsold row hrow]
    simpa [ShopDb.ordersOf, hid] using hcounter
  · intro row hrow limit hlimit
    rw [hsold row hrow] at hlimit ⊢
    exact hpassed.stock limit hlimit
  · intro row hrow limit hlimit userId
    rw [hsold row hrow] at hlimit
    have hothers := h.quota product hpassed.found limit hlimit userId
    have hmine := hpassed.quota limit hlimit
    simp only [ShopDb.completedBy, List.countP_append, List.countP_singleton] at hothers hmine ⊢
    by_cases huser : request.userId = userId
    · subst huser
      simpa [hid] using Nat.succ_le_of_lt hmine
    · simpa [huser] using hothers
  · intro order horder heq
    simp only [List.mem_append, List.mem_singleton] at horder
    rcases horder with hold | rfl
    · exact h.statuses order hold heq
    · simp

theorem Invariant.giveUp (h : Invariant productId s) :
    Invariant productId (s.release worker s.committed .idle) :=
  ⟨h.knows.release (fun _ => id) trivial fun _ _ hfact => hfact, h.counted⟩

theorem Invariant.place (h : Invariant productId s)
    (hphase : s.phase worker = .checked request product) {draws : OrderDraws}
    {answer : OrderAnswer}
    (hplace : placeOrder s.committed request.userId product request.payload request.key draws now =
      .ok (db, answer)) : Invariant productId (s.release worker db .idle) := by
  have hpassed : Passed productId request product s.committed := by
    simpa [hphase, Stock.knows] using h.knows.facts worker
  refine ⟨h.knows.release (fun _ => id) trivial ?_, h.counted.placed hpassed hplace⟩
  intro phase hothers hknows
  cases phase with
  | checked request' product' =>
    rw [hphase] at hothers
    exact absurd trivial (hothers () trivial)
  | _ => exact hknows

theorem Invariant.elsewhere (h : Invariant productId s) (hkeeps : Keeps productId s db) :
    Invariant productId { s with committed := db } := by
  obtain ⟨horders, hproduct, hlocked⟩ := hkeeps
  have hcompleted (userId : UserId) :
      db.completedBy userId productId = s.committed.completedBy userId productId :=
    countP_eq_of_filter horders (by simp +contextual)
  have hrows : db.ordersOf productId = s.committed.ordersOf productId :=
    countP_eq_of_filter horders (by simp)
  constructor
  · refine h.knows.change ?_
    intro worker hknows
    cases hphase : s.phase worker with
    | checked request product =>
      rw [hphase] at hknows
      have howner := h.knows.owns worker () (by rw [hphase]; trivial)
      refine ⟨(hlocked (by simp [howner])).trans hknows.found, hknows.stock, ?_⟩
      rw [hcompleted]
      exact hknows.quota
    | _ => rwa [hphase] at hknows
  · have hold : ∀ product ∈ db.findProduct productId,
        ∃ old ∈ s.committed.findProduct productId, product.soldCount = old.soldCount ∧
          limitKept old.inventoryLimit product.inventoryLimit ∧
          limitKept old.perUserLimit product.perUserLimit := by
      intro product hfound
      rw [hfound] at hproduct
      simpa [Option.any_eq_true, and_assoc] using hproduct
    refine ⟨?_, ?_, ?_, ?_⟩
    · intro product hfound
      obtain ⟨old, hwas, hcount, -, -⟩ := hold product hfound
      rw [hcount, hrows]
      exact h.counted.counter old hwas
    · intro product hfound limit hlimit
      obtain ⟨old, hwas, hcount, hstock, -⟩ := hold product hfound
      obtain ⟨before, hbefore, hle⟩ := limitKept_iff.mp hstock limit hlimit
      rw [hcount]
      exact (h.counted.stock old hwas before hbefore).trans hle
    · intro product hfound limit hlimit userId
      obtain ⟨old, hwas, -, -, hquota⟩ := hold product hfound
      obtain ⟨before, hbefore, hle⟩ := limitKept_iff.mp hquota limit hlimit
      rw [hcompleted]
      exact (h.counted.quota old hwas before hbefore userId).trans hle
    · intro order horder heq
      refine h.counted.statuses order ?_ heq
      have hmem : order ∈ db.orders.filter (·.productId == productId) := by simp [horder, heq]
      rw [horders] at hmem
      exact (List.mem_filter.mp hmem).1

theorem Invariant.step (h : Invariant productId s) (a : StockAction) :
    Invariant productId (step productId s a) := by
  cases a with
  | ask worker request =>
    simp only [Stock.step]
    split
    · split
      · rename_i hadmitted
        refine ⟨h.knows.move (fun _ => False.elim) ?_, h.counted⟩
        simp only [OrderRequest.admitted, Bool.and_eq_true, decide_eq_true_eq] at hadmitted
        exact hadmitted.1.2
      · exact h
    · exact h
  | lock worker =>
    simp only [Stock.step]
    split
    · rename_i request hphase
      have hrequest : request.payload.productId = productId := by
        simpa [hphase, Stock.knows] using h.knows.facts worker
      split
      · rename_i hfree
        exact ⟨h.knows.acquire hfree (fun _ _ => .inl rfl) hrequest, h.counted⟩
      · exact h
    · exact h
  | check worker now =>
    simp only [Stock.step]
    split
    · rename_i request hphase
      have hrequest : request.payload.productId = productId := by
        simpa [hphase, Stock.knows] using h.knows.facts worker
      split
      · rename_i product hcheck
        obtain ⟨hfound, hstock, hquota⟩ := checkProduct_ok hcheck
        rw [hrequest] at hfound
        rw [findProduct_ok hfound] at hquota
        refine ⟨h.knows.move (fun _ _ => by rw [hphase]; trivial) ⟨hfound, ?_, ?_⟩, h.counted⟩
        · simpa [Option.all_eq_true] using hstock
        · simpa [Option.all_eq_true] using hquota
      · exact h.giveUp
    · exact h
  | place worker draws now =>
    simp only [Stock.step]
    split
    · rename_i hphase
      split
      · rename_i hplace
        exact h.place hphase hplace
      · exact h.giveUp
    · exact h
  | abort worker => exact h.giveUp
  | fanRefund userId orderId key draws now => exact h.placesNone refundShopOrder_placesNone
  | adminRefund orderId approvalId actorId draws now =>
    exact h.placesNone executeApprovedRefund_placesNone
  | elsewhere db =>
    simp only [Stock.step]
    split
    · rename_i hkeeps
      exact h.elsewhere hkeeps
    · exact h

/-- With the counter in agreement, an order is refused rightly exactly if no order was refunded. -/
theorem soldOutRightly_iff (h : Invariant productId s) (a : StockAction) :
    SoldOutRightly productId s a ↔ NoneRefunded productId s a := by
  have hrequest : ∀ request now, checking s a = some (request, now) →
      request.payload.productId = productId := by
    intro request now hchecking
    cases a with
    | check worker now' =>
      simp only [checking] at hchecking
      split at hchecking
      · rename_i hphase
        obtain ⟨rfl, -⟩ := Prod.mk.inj (Option.some.inj hchecking)
        simpa [hphase, Stock.knows] using h.knows.facts worker
      · cases hchecking
    | _ => cases hchecking
  have hrows := h.counted.completed_add_refunded
  constructor
  · intro hright request now hchecking product hfound hreaches hlimit
    have hcounter := h.counted.counter product hfound
    obtain ⟨product', hfound', hcompleted⟩ := hright request now hchecking (by
      rw [hrequest request now hchecking, checkProduct_soldOut_iff]
      exact ⟨product, hfound, hreaches, _, hlimit, hcounter.ge⟩)
    obtain rfl := Option.some.inj (hfound.symm.trans hfound')
    have hsame := Option.some.inj (Option.mem_def.mp hlimit ▸ hcompleted)
    omega
  · intro hnone request now hchecking hsoldOut
    rw [hrequest request now hchecking, checkProduct_soldOut_iff] at hsoldOut
    obtain ⟨product, hfound, hreaches, limit, hlimit, hle⟩ := hsoldOut
    have hcounter := h.counted.counter product hfound
    have hstock := h.counted.stock product hfound limit hlimit
    have hat : limit = s.committed.ordersOf productId := by omega
    subst hat
    have hzero := hnone request now hchecking product hfound hreaches hlimit
    have hcompleted : s.committed.completedOf productId = s.committed.ordersOf productId := by omega
    exact ⟨product, hfound, hcompleted ▸ hlimit⟩

end

end Stock

/-- The limits of a product hold however orders and refunds interleave; orders are refused as sold
out rightly exactly if none comes to a spent counter after a refund. -/
theorem stock_kept_iff (productId : ProductId) {db : ShopDb} (hunsold : Stock.Unsold productId db)
    (acts : List StockAction) :
    (Throughout (Stock.step productId) (fun s => Stock.WithinLimits productId s.committed)
        (Stock.start db) acts ∧
      Always (Stock.step productId) (Stock.SoldOutRightly productId) (Stock.start db) acts) ↔
      Always (Stock.step productId) (Stock.NoneRefunded productId) (Stock.start db) acts := by
  have hstart : Stock.Invariant productId (Stock.start db) :=
    ⟨⟨fun _ _ => False.elim, fun _ => trivial⟩, hunsold.counted⟩
  have hlimits : Throughout (Stock.step productId)
      (fun s => Stock.WithinLimits productId s.committed) (Stock.start db) acts :=
    (throughout_of_step hstart fun s a h => h.step a).imp fun s h => h.counted.withinLimits
  have hrefusals : Always (Stock.step productId) (Stock.SoldOutRightly productId)
        (Stock.start db) acts ↔
      Always (Stock.step productId) (Stock.NoneRefunded productId) (Stock.start db) acts :=
    always_congr_of_invariant hstart (fun s a h => Stock.soldOutRightly_iff h a)
      fun s a h _ => h.step a
  exact ⟨fun h => hrefusals.mp h.2, fun h => ⟨hlimits, hrefusals.mpr h⟩⟩

/-- A pack of which one is sold. -/
def singlePack : ShopProduct := { packProduct with inventoryLimit := some 1 }

/-- The steps of an order by a fan, up to its commit. -/
def orderSteps (worker : Nat) (userId : UserId) : List StockAction :=
  [.ask worker ⟨userId, ⟨"pack-product", "points"⟩, "buy"⟩, .lock worker, .check worker 5,
    .place worker ⟨"order-" ++ userId, "event-" ++ userId, "ledger-" ++ userId, "right-" ++ userId,
      "grant-" ++ userId, "transaction-" ++ userId⟩ 5]

/-- Two fans order the last pack, and the second is refused. -/
theorem stock_kept_soldOut :
    let shop := Stock.start (openShop [singlePack] [⟨"fan", 1000⟩, ⟨"other", 1000⟩])
    let acts := orderSteps 0 "fan" ++ orderSteps 1 "other"
    Throughout (Stock.step "pack-product") (fun s => Stock.WithinLimits "pack-product" s.committed)
        shop acts ∧
      Always (Stock.step "pack-product") (Stock.SoldOutRightly "pack-product") shop acts := by
  refine (stock_kept_iff "pack-product" (by decide) _).mpr ?_
  refine ⟨?_, ?_, ?_, ?_, ?_, ?_, ?_, ?_, trivial⟩ <;>
    exact fun request now _ product _ _ _ => by decide

/-- After a refund of the only order, the next fan is refused although no order is completed. -/
theorem stock_soldOut_afterRefund :
    let shop := Stock.start (openShop [singlePack] [⟨"fan", 1000⟩, ⟨"other", 1000⟩])
    let acts := orderSteps 0 "fan" ++
      .fanRefund "fan" "order-fan" "back" ⟨"event2", "ledger2", "transaction2"⟩ 6 ::
        orderSteps 1 "other"
    ¬(Throughout (Stock.step "pack-product")
        (fun s => Stock.WithinLimits "pack-product" s.committed) shop acts ∧
      Always (Stock.step "pack-product") (Stock.SoldOutRightly "pack-product") shop acts) := by
  intro shop acts h
  let seen := run (Stock.step "pack-product") shop (acts.take 7)
  have hcheck : Stock.SoldOutRightly "pack-product" seen (.check 1 5) :=
    always_iff_split.mp h.2 (acts.take 7) (.check 1 5) (acts.drop 8) rfl
  have hfound : seen.committed.findProduct "pack-product" =
      some { singlePack with soldCount := 1 } := by decide
  have hsoldOut : checkProduct seen.committed "other"
      (seen.committed.findProduct "pack-product") 5 = .error productSoldOut :=
    Stock.checkProduct_soldOut_iff.mpr ⟨_, hfound, by decide, 1, rfl, by decide⟩
  obtain ⟨product, hproduct, hcompleted⟩ :=
    hcheck ⟨"other", ⟨"pack-product", "points"⟩, "buy"⟩ 5 (by decide) hsoldOut
  obtain rfl := Option.some.inj (hfound.symm.trans hproduct)
  exact absurd hcompleted (by decide)

end Fanfolio
