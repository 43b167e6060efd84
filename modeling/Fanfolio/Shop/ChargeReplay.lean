import Fanfolio.Shop.Keys

/-!
# Repeating a point charge

A charge is found again under its key, but only after its package was resolved once more. The
catalogue of packages belongs to the administrators, who can take a package off sale at any time.
-/

namespace Fanfolio

open Framework

/-- `AdminPointChargePackageCreate`. -/
structure AdminPointChargePackageCreate where
  id : PackageId
  points : Int
  priceWon : Int
  label : String
  sortOrder : Nat := 0
  scheduledPublishAt : Option Time := none
  points_pos : 0 < points
  priceWon_pos : 0 < priceWon

/-- The fields that an `AdminPointChargePackageUpdate` sets; a schedule can be set to nothing. -/
structure AdminPointChargePackageUpdate where
  points : Option Int := none
  priceWon : Option Int := none
  label : Option String := none
  active : Option Bool := none
  sortOrder : Option Nat := none
  scheduledPublishAt : Option (Option Time) := none
  points_pos : ∀ value ∈ points, 0 < value
  priceWon_pos : ∀ value ∈ priceWon, 0 < value

/-- The package with the fields of the update. -/
def AdminPointChargePackageUpdate.apply (payload : AdminPointChargePackageUpdate)
    (package : PointChargePackage) : PointChargePackage :=
  { package with
    points := payload.points.getD package.points
    priceWon := payload.priceWon.getD package.priceWon
    label := payload.label.getD package.label
    active := payload.active.getD package.active
    sortOrder := payload.sortOrder.getD package.sortOrder
    scheduledPublishAt := payload.scheduledPublishAt.getD package.scheduledPublishAt }

/-- `create_admin_point_charge_package`. -/
def createAdminPointChargePackage (db : PointDb) (payload : AdminPointChargePackageCreate) :
    Except Failure (PointDb × PackageId) := do
  ensure (∀ package ∈ db.packages, package.id ≠ payload.id)
    (.app ⟨409, "POINT_PACKAGE_EXISTS", "같은 ID의 포인트 상품이 이미 있습니다."⟩)
  return ({ db with packages := db.packages ++
      [{ id := payload.id, points := payload.points, priceWon := payload.priceWon
         label := payload.label, sortOrder := payload.sortOrder
         scheduledPublishAt := payload.scheduledPublishAt }] }, payload.id)

/-- `update_admin_point_charge_package`. -/
def updateAdminPointChargePackage (db : PointDb) (packageId : PackageId)
    (payload : AdminPointChargePackageUpdate) : Except Failure (PointDb × PackageId) := do
  let package ← orFail (db.packages.find? (·.id == packageId))
    (.app ⟨404, "POINT_PACKAGE_NOT_FOUND", "포인트 상품을 찾을 수 없습니다."⟩)
  return ({ db with packages := patch (·.id == package.id) payload.apply db.packages }, package.id)

/-- A point operation, an edit of a package, or an event that another request records. -/
inductive ChargeAction where
  | call (call : PointCall)
  | createPackage (payload : AdminPointChargePackageCreate)
  | updatePackage (packageId : PackageId) (payload : AdminPointChargePackageUpdate)
  | listPackages
  | events (events : List EngagementEvent)

def chargeStep (db : PointDb) : ChargeAction → PointDb
  | .call call => pointStep db call
  | .createPackage payload => commitOr db (createAdminPointChargePackage db payload)
  | .updatePackage packageId payload =>
    commitOr db (updateAdminPointChargePackage db packageId payload)
  | .listPackages => ensurePointChargePackages db
  | .events events => { db with events := events }

/-- The same charge, refunded or not. -/
def PointCharge.IsSame (row charge : PointCharge) : Prop :=
  { row with status := charge.status, refundedAt := charge.refundedAt } = charge

/-- The request is answered with the charge, and no balance changes. -/
def ReplaysCharge (db : PointDb) (userId : UserId) (packageId : PackageId)
    (paymentMethod key : String) (draws : PointDraws) (now : Time) (charge : PointCharge) : Prop :=
  ∃ db' row, createFanPointCharge db userId packageId paymentMethod key draws now = .ok (db', row) ∧
    row.IsSame charge ∧ db'.balances = db.balances

/-- The package exists, is active, and its schedule is due. -/
def PackageOnSale (db : PointDb) (packageId : PackageId) (now : Time) : Prop :=
  ∃ package, (ensurePointChargePackages db).packages.find? (·.id == packageId) = some package ∧
    package.active ∧ ∀ scheduledAt ∈ package.scheduledPublishAt, scheduledAt ≤ now

/-- What an action does to the charges: one more, or a refund of one. -/
inductive ChargesStep (rows : List PointCharge) : List PointCharge → Prop
  | same : ChargesStep rows rows
  | insert (row : PointCharge) : ChargesStep rows (rows ++ [row])
  | refund (chargeId : ChargeId) (now : Time) : ChargesStep rows
      (patch (·.id == chargeId) ({ · with status := .refunded, refundedAt := some now }) rows)

section

variable {db db' : PointDb} {userId : UserId} {packageId : PackageId} {paymentMethod key : String}
  {draws : PointDraws} {now : Time} {charge : PointCharge}

theorem adjustPoints_charges {amount : Int} {reason : Option String} {actorId : String}
    {result : PointLedger × Bool}
    (h : adjustPoints db userId amount reason actorId key draws = .ok (db', result)) :
    db'.charges = db.charges := by
  simp only [adjustPoints, bind_ok, ensure_ok, exists_const] at h
  obtain ⟨-, -, h⟩ := h
  split at h
  · rw [← (Prod.mk.inj (pure_ok.mp h)).1]
  · simp only [bind_ok, Prod.exists] at h
    obtain ⟨events, event, -, moved, ledger, hmove, h⟩ := h
    have hmoved : moved.charges = db.charges := by
      unfold moveAdjustment at hmove
      split at hmove
      · exact (grantPoints_moved hmove).charges
      · exact (spendPoints_moved hmove).1.charges
    split at h
    · rw [← (Prod.mk.inj (pure_ok.mp h)).1]
      exact hmoved
    · simp only [bind_ok, PointDb.insertTransaction, ensure_ok, exists_const, pure_ok,
        Prod.mk.injEq] at h
      obtain ⟨inserted, ⟨-, -, rfl⟩, rfl, -⟩ := h
      exact hmoved

theorem commitOr_charges {α : Type} {attempt : Except Failure (PointDb × α)}
    (hok : ∀ db' a, attempt = .ok (db', a) → ChargesStep db.charges db'.charges) :
    ChargesStep db.charges (commitOr db attempt).charges :=
  commitOr_keeps (P := fun db' : PointDb => ChargesStep db.charges db'.charges) .same hok

theorem pointStep_charges (db : PointDb) (call : PointCall) :
    ChargesStep db.charges (pointStep db call).charges := by
  have hsame : ∀ {db' : PointDb}, db'.charges = db.charges → ChargesStep db.charges db'.charges := by
    intro db' heq
    rw [heq]
    exact .same
  cases call with
  | grant => exact commitOr_charges fun _ _ hok => hsame (grantPoints_moved hok).charges
  | spend => exact commitOr_charges fun _ _ hok => hsame (spendPoints_moved hok).1.charges
  | reverse => exact commitOr_charges fun _ _ hok => hsame (reversePoints_moved hok).1.charges
  | adjust => exact commitOr_charges fun _ _ hok => hsame (adjustPoints_charges hok)
  | charge =>
    refine commitOr_charges fun db' charge hok => ?_
    obtain ⟨-, packages, rfl⟩ | ⟨-, -, -, -, -, -, -, points, transaction, hmoved, rfl, -⟩ :=
      createPointCharge_ok hok
    · exact .same
    · rw [← hmoved.charges]
      exact .insert charge
  | refund userId chargeId key draws now =>
    refine commitOr_charges fun db' charge hok => ?_
    obtain ⟨_, -, -, rfl⟩ | ⟨-, found, -, -, -, -, ⟨-, rfl⟩ |
      ⟨-, points, transaction, hmoved, -, rfl, -⟩⟩ := refundPointCharge_ok hok
    · exact .same
    · exact .same
    · rw [← hmoved.charges]
      exact .refund found.id now

theorem chargeStep_charges (db : PointDb) (a : ChargeAction) :
    ChargesStep db.charges (chargeStep db a).charges := by
  cases a with
  | call call => exact pointStep_charges db call
  | events => exact .same
  | listPackages =>
    rw [chargeStep, ensurePointChargePackages]
    split <;> exact .same
  | createPackage payload =>
    refine commitOr_charges fun db' packageId hok => ?_
    simp only [createAdminPointChargePackage, bind_ok, ensure_ok, exists_const, pure_ok,
      Prod.mk.injEq] at hok
    obtain ⟨-, rfl, -⟩ := hok
    exact .same
  | updatePackage packageId payload =>
    refine commitOr_charges fun db' packageId hok => ?_
    simp only [updateAdminPointChargePackage, bind_ok, orFail_ok, pure_ok, Prod.mk.injEq] at hok
    obtain ⟨package, -, rfl, -⟩ := hok
    exact .same

/-- The charge is found under its key. -/
def ChargeKept (charge : PointCharge) (db : PointDb) : Prop :=
  ∃ row, db.chargeUnder charge.userId charge.idempotencyKey = some row ∧ row.IsSame charge

theorem ChargeKept.step (h : ChargeKept charge db) (a : ChargeAction) :
    ChargeKept charge (chargeStep db a) := by
  obtain ⟨row, hfound, hsame⟩ := h
  have hstep := chargeStep_charges db a
  generalize hrows : (chargeStep db a).charges = rows at hstep
  unfold ChargeKept PointDb.chargeUnder at *
  rw [hrows]
  cases hstep with
  | same => exact ⟨row, hfound, hsame⟩
  | insert row' => exact ⟨row, find_insert_of_some hfound row', hsame⟩
  | refund chargeId now =>
    rw [find_patch (by intro _; rfl), hfound]
    refine ⟨_, rfl, ?_⟩
    dsimp only
    split
    · exact hsame
    · exact hsame

theorem createFanPointCharge_kept
    (h : createFanPointCharge db userId packageId paymentMethod key draws now = .ok (db', charge)) :
    charge.userId = userId ∧ charge.idempotencyKey = key ∧ charge.packageId = packageId ∧
      charge.paymentMethod = paymentMethod ∧ key ≠ "" ∧ ChargeKept charge db' := by
  simp only [createFanPointCharge, bind_ok, ensure_ok, exists_const] at h
  obtain ⟨hkey, hmatch, hcreate⟩ := h
  rcases createPointCharge_ok hcreate with ⟨hfound, packages, rfl⟩ |
    ⟨hnone, -, huser, hpackage, hmethod, hkeyed, -, points, transaction, hmoved, rfl, -⟩
  · obtain ⟨hpackage, hmethod⟩ := hmatch charge hfound
    have hrow := List.find?_some hfound
    simp only [Bool.and_eq_true, beq_iff_eq] at hrow
    obtain ⟨rfl, rfl⟩ := hrow
    exact ⟨rfl, rfl, hpackage, hmethod, hkey, charge, hfound, rfl⟩
  · subst huser hkeyed
    refine ⟨rfl, rfl, hpackage, hmethod, hkey, charge, ?_, rfl⟩
    have hmissing : points.charges.find? (fun row =>
        row.userId == charge.userId && row.idempotencyKey == charge.idempotencyKey) = none := by
      rw [hmoved.charges]
      exact hnone
    show (points.charges ++ [charge]).find? _ = _
    rw [find_insert, hmissing, Option.none_or]
    simp

/-- A charge that is kept is answered exactly if its package is on sale. -/
theorem ChargeKept.replays_iff (h : ChargeKept charge db) (hkey : charge.idempotencyKey ≠ "") :
    ReplaysCharge db charge.userId charge.packageId charge.paymentMethod charge.idempotencyKey draws
      now charge ↔ PackageOnSale db charge.packageId now := by
  obtain ⟨row, hfound, hsame⟩ := h
  have hcharge : { row with status := charge.status, refundedAt := charge.refundedAt } = charge :=
    hsame
  have hrow : row.packageId = charge.packageId ∧ row.paymentMethod = charge.paymentMethod :=
    ⟨by rw [← hcharge], by rw [← hcharge]⟩
  simp only [ReplaysCharge, createFanPointCharge, createPointCharge, resolvePointChargePackage,
    bind_ok, ensure_ok, exists_const, orFail_ok, pure_ok, Prod.exists, Prod.mk.injEq]
  constructor
  · rintro ⟨db', row', ⟨-, -, stocked, package, ⟨_, hpackage, hactive, hdue, -, rfl⟩, -⟩, -⟩
    exact ⟨_, hpackage, hactive, hdue⟩
  · rintro ⟨package, hpackage, hactive, hdue⟩
    have hstocked : (ensurePointChargePackages db).charges = db.charges ∧
        (ensurePointChargePackages db).balances = db.balances := by
      unfold ensurePointChargePackages
      split <;> exact ⟨rfl, rfl⟩
    have hagain : (ensurePointChargePackages db).charges.find? (fun row =>
        row.userId == charge.userId && row.idempotencyKey == charge.idempotencyKey) = some row := by
      rw [hstocked.1]
      exact hfound
    refine ⟨ensurePointChargePackages db, row, ⟨hkey, ?_, _, package,
      ⟨package, hpackage, hactive, hdue, rfl, rfl⟩, ?_⟩, hsame, hstocked.2⟩
    · intro found hmem
      obtain rfl := Option.some.inj (hfound.symm.trans hmem)
      exact hrow
    · simp only [hagain, pure_ok]

/-- After a charge and any further operations and edits of packages, the same request is answered
with the charge exactly if the package is on sale at that time. -/
theorem chargeReplays_iff {db₀ : PointDb} {draws₀ : PointDraws} {now₀ : Time}
    (h : createFanPointCharge db₀ userId packageId paymentMethod key draws₀ now₀ = .ok (db, charge))
    (acts : List ChargeAction) (draws : PointDraws) (now : Time) :
    ReplaysCharge (run chargeStep db acts) userId packageId paymentMethod key draws now charge ↔
      PackageOnSale (run chargeStep db acts) packageId now := by
  obtain ⟨rfl, rfl, rfl, rfl, hkey, hkept⟩ := createFanPointCharge_kept h
  have hlast : ChargeKept charge (run chargeStep db acts) :=
    run_of_step hkept fun _ a hdb => hdb.step a
  exact hlast.replays_iff hkey

end

namespace ChargeReplayExample

def draws : PointDraws := ⟨"evt_1", "point_1", "point_charge_1", "point_tx_1"⟩

/-- A fan charges the smallest package once. -/
def charged : Except Failure (PointDb × PointCharge) :=
  createFanPointCharge (.opening [] []) "fan_a" "points_500" "sandbox_card" "key" draws 0

def db : PointDb := commitOr (.opening [] []) charged

def charge : PointCharge :=
  { id := "point_charge_1", userId := "fan_a", packageId := "points_500"
    paymentMethod := "sandbox_card", points := 500, priceWon := 5000, status := .completed
    idempotencyKey := "key", ledgerId := some "point_1" }

theorem charged_ok : charged = .ok (db, charge) := rfl

/-- An administrator doubles the price. -/
def repriced : ChargeAction :=
  .updatePackage "points_500" { priceWon := some 10000, points_pos := by simp, priceWon_pos := by simp }

/-- An administrator takes the package off sale. -/
def withdrawn : ChargeAction :=
  .updatePackage "points_500" { active := some false, points_pos := by simp, priceWon_pos := by simp }

theorem off_sale : ¬PackageOnSale (run chargeStep db [withdrawn]) "points_500" 1 := by
  rintro ⟨package, hpackage, hactive, -⟩
  obtain rfl := Option.some.inj (hpackage.symm.trans rfl)
  cases hactive

end ChargeReplayExample

open ChargeReplayExample in
theorem chargeReplays_iff_repriced : ReplaysCharge (run chargeStep ChargeReplayExample.db [repriced])
    "fan_a" "points_500" "sandbox_card" "key" draws 1 charge :=
  (chargeReplays_iff charged_ok [repriced] draws 1).mpr ⟨_, rfl, rfl, by decide⟩

open ChargeReplayExample in
/-- The repetition is refused once the package is off sale. -/
theorem chargeReplays_fails : charged = .ok (ChargeReplayExample.db, charge) ∧
    ¬ReplaysCharge (run chargeStep ChargeReplayExample.db [withdrawn]) "fan_a" "points_500"
      "sandbox_card" "key" draws 1 charge := by
  refine ⟨charged_ok, fun hreplays => off_sale ?_⟩
  have hkept : ChargeKept charge ChargeReplayExample.db := ⟨_, rfl, rfl⟩
  exact ((hkept.step withdrawn).replays_iff (by decide)).mp hreplays

end Fanfolio
