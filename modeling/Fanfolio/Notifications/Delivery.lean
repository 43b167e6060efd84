import Fanfolio.Framework.Run
import Fanfolio.Framework.Table
import Fanfolio.Identity.Schema
import Mathlib.Data.List.Sort
import Mathlib.Logic.Function.Basic

/-!
# The delivery outbox

A worker claims a delivery in one transaction, calls the provider, and records the outcome in
another. A delivery that is being sent can be claimed again.
-/

namespace Fanfolio

open Framework

inductive DeliveryStatus where
  | pending
  | sending
  | sent
  | failed
  | deadLetter
deriving DecidableEq, Repr

structure Notification where
  id : String
  title : String
  body : Option String
deriving DecidableEq, Repr

structure NotificationDelivery where
  id : String
  notificationId : String
  channel : String
  destination : String
  status : DeliveryStatus := .pending
  attemptCount : Nat := 0
  nextAttemptAt : Option Time := none
  lastError : Option String := none
  sentAt : Option Time := none
  createdAt : Time := 0
deriving DecidableEq, Repr

/-- The status that `decide_retry` answers. -/
def DeliveryStatus.retried : EventStatus → DeliveryStatus
  | .deadLetter => .deadLetter
  | _ => .failed

structure DeliveryDb where
  notifications : List Notification := []
  deliveries : List NotificationDelivery := []
  pushDevices : List PushDevice := []
deriving DecidableEq, Repr

/-- The delivery is `sent` or a `dead_letter`. -/
def DeliveryStatus.isFinal : DeliveryStatus → Bool
  | .sent => true
  | .deadLetter => true
  | _ => false

namespace NotificationDelivery

/-- What the claim writes. -/
def claimed (row : NotificationDelivery) : NotificationDelivery :=
  { row with status := .sending, attemptCount := row.attemptCount + 1 }

/-- The claim of a delivery whose notification is gone. -/
def orphaned (row : NotificationDelivery) : NotificationDelivery :=
  { row with status := .deadLetter, lastError := some "notification_not_found" }

def delivered (now : Time) (row : NotificationDelivery) : NotificationDelivery :=
  { row with status := .sent, sentAt := some now, nextAttemptAt := none, lastError := none }

/-- What a failed attempt writes; the count is that of the claim. -/
def failed (settings : RetrySettings) (attemptCount : Nat) (permanent : Bool) (error : String)
    (now : Time) (row : NotificationDelivery) : NotificationDelivery :=
  let decision := decideRetry settings attemptCount now
  { row with
    status := if permanent then .deadLetter else .retried decision.status
    nextAttemptAt := if permanent then none else decision.nextAttemptAt
    lastError := some (error.take 500).toString }

/-- The delivery is selected by a due run. -/
def due (now : Time) (row : NotificationDelivery) : Bool :=
  (row.status == .pending || row.status == .failed) &&
    row.nextAttemptAt.all fun nextAttemptAt => decide (nextAttemptAt ≤ now)

end NotificationDelivery

namespace DeliveryDb

def findDelivery (db : DeliveryDb) (deliveryId : String) : Option NotificationDelivery :=
  db.deliveries.find? (·.id == deliveryId)

def findNotification (db : DeliveryDb) (notificationId : String) : Option Notification :=
  db.notifications.find? (·.id == notificationId)

def modifyDelivery (db : DeliveryDb) (deliveryId : String)
    (change : NotificationDelivery → NotificationDelivery) : DeliveryDb :=
  { db with deliveries := patch (·.id == deliveryId) change db.deliveries }

/-- A permanent failure disables the device. -/
def disableDevice (db : DeliveryDb) (token : String) : DeliveryDb :=
  { db with pushDevices := patch (·.token == token) ({ · with enabled := false }) db.pushDevices }

/-- The ids that `process_due_notification_deliveries` selects. -/
def dueIds (db : DeliveryDb) (now : Time) (limit : Nat) : List String :=
  (((db.deliveries.filter (·.due now)).insertionSort fun row row' =>
    row.createdAt ≤ row'.createdAt).take limit).map (·.id)

/-- Every delivery has its notification, and none has been claimed yet. -/
structure Ready (db : DeliveryDb) : Prop where
  ids : (db.deliveries.map (·.id)).Nodup
  notified : ∀ row ∈ db.deliveries, (db.findNotification row.notificationId).isSome
  quiet : ∀ row ∈ db.deliveries, row.status ≠ .sending

end DeliveryDb

/-- What a worker is about: the deliveries it has to process, and the one it is sending. -/
inductive DeliveryPhase where
  | working (queue : List String)
  | sending (delivery : NotificationDelivery) (queue : List String)
deriving DecidableEq, Repr

def DeliveryPhase.sends : DeliveryPhase → String → Prop
  | .sending delivery _, deliveryId => delivery.id = deliveryId
  | .working _, _ => False

inductive DeliveryAction where
  /-- A worker is asked to process one delivery. -/
  | process (worker : Nat) (deliveryId : String)
  /-- A worker selects the due deliveries. -/
  | select (worker : Nat) (now : Time) (limit : Nat)
  /-- The first transaction, after which the provider is called. -/
  | claim (worker : Nat)
  /-- The provider accepts, and the second transaction records it. -/
  | deliver (worker : Nat) (now : Time)
  /-- The provider raises an error that is caught. -/
  | fail (worker : Nat) (permanent : Bool) (error : String) (now : Time)
  /-- The worker dies, or the provider raises any other exception. -/
  | die (worker : Nat)
deriving DecidableEq, Repr

/-- The committed tables, and the workers. -/
structure Outbox where
  db : DeliveryDb
  phase : Nat → DeliveryPhase

namespace Outbox

/-- Any tables, and no worker busy. -/
def start (db : DeliveryDb) : Outbox := ⟨db, fun _ => .working []⟩

def goOn (s : Outbox) (w : Nat) (db : DeliveryDb) (p : DeliveryPhase) : Outbox :=
  ⟨db, Function.update s.phase w p⟩

/-- The first transaction of `process_notification_delivery`. -/
def claim (s : Outbox) (w : Nat) (deliveryId : String) (queue : List String) : Outbox :=
  match s.db.findDelivery deliveryId with
  | none => s.goOn w s.db (.working queue)
  | some row =>
    if row.status.isFinal then s.goOn w s.db (.working queue)
    else if (s.db.findNotification row.notificationId).isNone then
      s.goOn w (s.db.modifyDelivery deliveryId (·.orphaned)) (.working queue)
    else s.goOn w (s.db.modifyDelivery deliveryId (·.claimed)) (.sending row.claimed queue)

variable (settings : RetrySettings)

def step (s : Outbox) : DeliveryAction → Outbox
  | .process w deliveryId =>
    match s.phase w with
    | .working [] => s.goOn w s.db (.working [deliveryId])
    | _ => s
  | .select w now limit =>
    match s.phase w with
    | .working [] => s.goOn w s.db (.working (s.db.dueIds now limit))
    | _ => s
  | .claim w =>
    match s.phase w with
    | .working (deliveryId :: queue) => s.claim w deliveryId queue
    | _ => s
  | .deliver w now =>
    match s.phase w with
    | .sending delivery queue =>
      s.goOn w (s.db.modifyDelivery delivery.id (·.delivered now)) (.working queue)
    | _ => s
  | .fail w permanent error now =>
    match s.phase w with
    | .sending delivery queue =>
      let db := s.db.modifyDelivery delivery.id
        (·.failed settings delivery.attemptCount permanent error now)
      s.goOn w (if permanent then db.disableDevice delivery.destination else db) (.working queue)
    | _ => s
  | .die w => s.goOn w s.db (.working [])

/-- The worker is sending the delivery. -/
def Sends (s : Outbox) (w : Nat) (deliveryId : String) : Prop := (s.phase w).sends deliveryId

/-- A worker that starts to send a delivery is the only one; a final status stays; and a delivery
without a worker and without a final status is due from some time on. -/
structure Delivers (s : Outbox) (a : DeliveryAction) : Prop where
  one : ∀ w deliveryId, ¬s.Sends w deliveryId → (step settings s a).Sends w deliveryId →
    ∀ w', w' ≠ w → ¬s.Sends w' deliveryId
  final : ∀ row ∈ s.db.deliveries, row.status.isFinal →
    ∃ row' ∈ (step settings s a).db.deliveries, row'.id = row.id ∧ row'.status = row.status
  selected : ∀ row ∈ (step settings s a).db.deliveries, row.status.isFinal = false →
    (∀ w, ¬(step settings s a).Sends w row.id) → ∃ time, ∀ now, time ≤ now → row.due now

/-- No delivery is claimed while it is being sent, and no worker ends while it sends one. -/
def Careful (s : Outbox) : DeliveryAction → Prop
  | .claim w => ∀ deliveryId queue row, s.phase w = .working (deliveryId :: queue) →
    s.db.findDelivery deliveryId = some row → row.status ≠ .sending
  | .die w => ∀ delivery queue, s.phase w ≠ .sending delivery queue
  | _ => True

/-- Every delivery that is being sent has one worker, and no other delivery has one. -/
structure Sound (s : Outbox) : Prop where
  ids : (s.db.deliveries.map (·.id)).Nodup
  notified : ∀ row ∈ s.db.deliveries, (s.db.findNotification row.notificationId).isSome
  sending : ∀ w deliveryId, s.Sends w deliveryId →
    ∃ row ∈ s.db.deliveries, row.id = deliveryId ∧ row.status = .sending
  sole : ∀ w w' deliveryId, s.Sends w deliveryId → s.Sends w' deliveryId → w = w'
  owned : ∀ row ∈ s.db.deliveries, row.status = .sending → ∃ w, s.Sends w row.id

section

variable {settings : RetrySettings} {s : Outbox} {db : DeliveryDb} {w : Nat}
  {row : NotificationDelivery} {deliveryId : String} {p : DeliveryPhase}
  {change : NotificationDelivery → NotificationDelivery}

theorem sends_goOn_self : (s.goOn w db p).Sends w deliveryId ↔ p.sends deliveryId := by
  simp only [Sends, goOn, Function.update_self]

theorem sends_goOn_of_ne {w' : Nat} (hw : w' ≠ w) :
    (s.goOn w db p).Sends w' deliveryId ↔ s.Sends w' deliveryId := by
  simp only [Sends, goOn, Function.update_of_ne hw]

theorem due_eventually (hopen : row.status = .pending ∨ row.status = .failed) :
    ∃ time, ∀ now, time ≤ now → row.due now := by
  refine ⟨row.nextAttemptAt.getD 0, ?_⟩
  intro now hnow
  rw [NotificationDelivery.due, Bool.and_eq_true]
  refine ⟨by rcases hopen with h | h <;> simp [h], ?_⟩
  cases hnext : row.nextAttemptAt with
  | none => rfl
  | some time => simpa [hnext] using hnow

/-- In a sound state a delivery without a worker and a final status is due from some time on. -/
theorem Sound.selected (h : Sound s) (hmem : row ∈ s.db.deliveries)
    (hfinal : row.status.isFinal = false) (hfree : ∀ w, ¬s.Sends w row.id) :
    ∃ time, ∀ now, time ≤ now → row.due now := by
  refine due_eventually ?_
  cases hstatus : row.status with
  | pending => exact .inl rfl
  | failed => exact .inr rfl
  | sending =>
    obtain ⟨w, hw⟩ := h.owned row hmem hstatus
    exact absurd hw (hfree w)
  | sent => simp [hstatus, DeliveryStatus.isFinal] at hfinal
  | deadLetter => simp [hstatus, DeliveryStatus.isFinal] at hfinal

/-- A worker that sends nothing goes on with nothing to send. -/
theorem Sound.goOn (h : Sound s) (hbefore : ∀ deliveryId, ¬s.Sends w deliveryId)
    (hafter : ∀ deliveryId, ¬p.sends deliveryId) : Sound (s.goOn w s.db p) := by
  have hsame (w' : Nat) (deliveryId : String) :
      (s.goOn w s.db p).Sends w' deliveryId ↔ s.Sends w' deliveryId := by
    by_cases hw : w' = w
    · subst hw
      rw [sends_goOn_self]
      exact iff_of_false (hafter deliveryId) (hbefore deliveryId)
    · exact sends_goOn_of_ne hw
  refine ⟨h.ids, h.notified, ?_, ?_, ?_⟩
  · intro w' deliveryId hsends
    exact h.sending w' deliveryId ((hsame w' deliveryId).mp hsends)
  · intro w' w'' deliveryId hsends hsends'
    exact h.sole w' w'' deliveryId ((hsame w' deliveryId).mp hsends)
      ((hsame w'' deliveryId).mp hsends')
  · intro row hrow hstatus
    obtain ⟨w', hw'⟩ := h.owned row hrow hstatus
    exact ⟨w', (hsame w' row.id).mpr hw'⟩

/-- The row that a worker is sending. -/
theorem Sound.sent_row (h : Sound s) (hsends : s.Sends w deliveryId) (hmem : row ∈ s.db.deliveries)
    (hid : row.id = deliveryId) : row.status = .sending := by
  obtain ⟨row', hmem', hid', hstatus⟩ := h.sending w deliveryId hsends
  rw [eq_of_unique h.ids hmem hmem' (hid.trans hid'.symm)]
  exact hstatus

/-- A write to one delivery, with the worker that makes it: the row is being sent afterwards
exactly if the worker sends it. -/
theorem Sound.modify (h : Sound s) (hchange : ∀ row, (change row).id = row.id ∧
      (change row).notificationId = row.notificationId)
    {db' : DeliveryDb} (hdb : db'.deliveries = (s.db.modifyDelivery deliveryId change).deliveries)
    (hnotifications : db'.notifications = s.db.notifications)
    (hmem : ∃ row ∈ s.db.deliveries, row.id = deliveryId)
    (hbefore : ∀ w' deliveryId', s.Sends w' deliveryId' → (w' = w ↔ deliveryId' = deliveryId))
    (hafter : ∀ deliveryId', p.sends deliveryId' → deliveryId' = deliveryId)
    (hstatus : ∀ row, (change row).status = .sending ↔ p.sends deliveryId) :
    Sound (s.goOn w db' p) := by
  have hother {w' : Nat} {deliveryId' : String} (hsends : s.Sends w' deliveryId') (hw : w' ≠ w) :
      deliveryId' ≠ deliveryId := fun hid => hw ((hbefore w' deliveryId' hsends).mpr hid)
  have hrows {row : NotificationDelivery} (hrow : row ∈ db'.deliveries) :
      (row ∈ s.db.deliveries ∧ row.id ≠ deliveryId) ∨
      ∃ old ∈ s.db.deliveries, old.id = deliveryId ∧ row = change old := by
    rw [hdb] at hrow
    obtain ⟨old, hold, rfl⟩ := mem_patch.mp hrow
    by_cases hid : old.id = deliveryId
    · exact .inr ⟨old, hold, hid, if_pos (beq_iff_eq.mpr hid)⟩
    · rw [if_neg (by simpa using hid)]
      exact .inl ⟨hold, hid⟩
  constructor
  · show (db'.deliveries.map (·.id)).Nodup
    rw [hdb, DeliveryDb.modifyDelivery, map_patch fun row => (hchange row).1]
    exact h.ids
  · intro row hrow
    have hfind : (s.goOn w db' p).db.findNotification row.notificationId =
        s.db.findNotification row.notificationId := by
      rw [DeliveryDb.findNotification, DeliveryDb.findNotification,
        show (s.goOn w db' p).db.notifications = s.db.notifications from hnotifications]
    rw [hfind]
    rcases hrows hrow with ⟨hold, -⟩ | ⟨old, hold, -, rfl⟩
    · exact h.notified row hold
    · rw [(hchange old).2]
      exact h.notified old hold
  · intro w' deliveryId' hsends
    by_cases hw : w' = w
    · subst hw
      rw [sends_goOn_self] at hsends
      obtain rfl := hafter deliveryId' hsends
      obtain ⟨row, hrow, hid⟩ := hmem
      refine ⟨change row, ?_, (hchange row).1.trans hid, (hstatus row).mpr hsends⟩
      show change row ∈ db'.deliveries
      rw [hdb]
      exact mem_patch.mpr ⟨row, hrow, (if_pos (beq_iff_eq.mpr hid)).symm⟩
    · rw [sends_goOn_of_ne hw] at hsends
      obtain ⟨row, hrow, hid, hsending⟩ := h.sending w' deliveryId' hsends
      refine ⟨row, ?_, hid, hsending⟩
      show row ∈ db'.deliveries
      rw [hdb]
      exact mem_patch_of_not hrow (by simpa [hid] using hother hsends hw)
  · intro w' w'' deliveryId' hsends hsends'
    by_cases hw : w' = w
    · by_cases hw' : w'' = w
      · rw [hw, hw']
      · subst hw
        rw [sends_goOn_self] at hsends
        rw [sends_goOn_of_ne hw'] at hsends'
        exact absurd (hafter deliveryId' hsends) (hother hsends' hw')
    · rw [sends_goOn_of_ne hw] at hsends
      by_cases hw' : w'' = w
      · subst hw'
        rw [sends_goOn_self] at hsends'
        exact absurd (hafter deliveryId' hsends') (hother hsends hw)
      · rw [sends_goOn_of_ne hw'] at hsends'
        exact h.sole w' w'' deliveryId' hsends hsends'
  · intro row hrow hsending
    rcases hrows hrow with ⟨hold, hid⟩ | ⟨old, hold, hid, rfl⟩
    · obtain ⟨w', hw'⟩ := h.owned row hold hsending
      have hne : w' ≠ w := fun hw => hid ((hbefore w' row.id hw').mp hw)
      exact ⟨w', (sends_goOn_of_ne hne).mpr hw'⟩
    · refine ⟨w, ?_⟩
      rw [sends_goOn_self, (hchange old).1, hid]
      exact (hstatus old).mp hsending

/-- What a write to an open delivery leaves of the final ones. -/
theorem final_modify (hopen : ∀ row ∈ s.db.deliveries, row.id = deliveryId →
      row.status.isFinal = false) {db' : DeliveryDb}
    (hdb : db'.deliveries = (s.db.modifyDelivery deliveryId change).deliveries) :
    ∀ row ∈ s.db.deliveries, row.status.isFinal →
      ∃ row' ∈ db'.deliveries, row'.id = row.id ∧ row'.status = row.status := by
  intro row hrow hfinal
  refine ⟨row, ?_, rfl, rfl⟩
  rw [hdb]
  refine mem_patch_of_not hrow ?_
  rw [beq_eq_false_iff_ne]
  intro hid
  rw [hopen row hrow hid] at hfinal
  cases hfinal

theorem not_sends_of_working {queue : List String} (hphase : s.phase w = .working queue)
    (deliveryId : String) : ¬s.Sends w deliveryId := by
  rw [Sends, hphase]
  exact id

/-- A worker that is about to claim does not send, and nobody sends what may be claimed. -/
theorem Sound.claim (h : Sound s) {queue : List String}
    (hphase : s.phase w = .working (deliveryId :: queue))
    (hfree : ∀ row, s.db.findDelivery deliveryId = some row → row.status ≠ .sending) :
    Sound (s.claim w deliveryId queue) ∧
    (∀ deliveryId', ¬s.Sends w deliveryId' → (s.claim w deliveryId queue).Sends w deliveryId' →
      ∀ w', w' ≠ w → ¬s.Sends w' deliveryId') ∧
    ∀ row ∈ s.db.deliveries, row.status.isFinal →
      ∃ row' ∈ (s.claim w deliveryId queue).db.deliveries,
        row'.id = row.id ∧ row'.status = row.status := by
  have hbefore := not_sends_of_working hphase
  have hgoOn : Sound (s.goOn w s.db (.working queue)) := h.goOn hbefore fun _ => id
  have hkept : ∀ row ∈ s.db.deliveries, row.status.isFinal →
      ∃ row' ∈ s.db.deliveries, row'.id = row.id ∧ row'.status = row.status :=
    fun row hrow _ => ⟨row, hrow, rfl, rfl⟩
  unfold Outbox.claim
  split
  · exact ⟨hgoOn, fun deliveryId' _ hsends => (sends_goOn_self.mp hsends).elim, hkept⟩
  · rename_i row hfound
    obtain ⟨hmem, hid⟩ := mem_of_find_eq_some hfound
    have hnobody : ∀ w', ¬s.Sends w' deliveryId := fun w' hsends =>
      hfree row hfound (h.sent_row hsends hmem hid)
    split
    · exact ⟨hgoOn, fun deliveryId' _ hsends => (sends_goOn_self.mp hsends).elim, hkept⟩
    · rename_i hopen
      have hopen' : ∀ row' ∈ s.db.deliveries, row'.id = deliveryId →
          row'.status.isFinal = false := by
        intro row' hrow' hid'
        rw [eq_of_unique h.ids hrow' hmem (hid'.trans hid.symm)]
        exact Bool.not_eq_true _ ▸ hopen
      have hpair : ∀ w' deliveryId', s.Sends w' deliveryId' → (w' = w ↔ deliveryId' = deliveryId) := by
        intro w' deliveryId' hsends
        refine iff_of_false ?_ ?_
        · rintro rfl
          exact hbefore deliveryId' hsends
        · rintro rfl
          exact hnobody w' hsends
      split
      · rename_i hnone
        rw [Option.isNone_iff_eq_none] at hnone
        have hsome := h.notified row hmem
        rw [hnone] at hsome
        cases hsome
      · refine ⟨h.modify (by intro _; exact ⟨rfl, rfl⟩) rfl rfl ⟨row, hmem, hid⟩ hpair ?_ ?_, ?_,
          final_modify hopen' rfl⟩
        · rintro deliveryId' rfl
          exact hid
        · intro row'
          exact iff_of_true rfl hid
        · intro deliveryId' _ hsends w' _ hsends'
          rw [sends_goOn_self] at hsends
          obtain rfl : row.id = deliveryId' := hsends
          exact hnobody w' (hid ▸ hsends')

/-- A worker records the outcome of what it is sending. -/
theorem Sound.record (h : Sound s) {delivery : NotificationDelivery} {queue : List String}
    (hphase : s.phase w = .sending delivery queue) (hchange : ∀ row, (change row).id = row.id ∧
      (change row).notificationId = row.notificationId) (hstatus : ∀ row, (change row).status ≠ .sending)
    {db' : DeliveryDb} (hdb : db'.deliveries = (s.db.modifyDelivery delivery.id change).deliveries)
    (hnotifications : db'.notifications = s.db.notifications) :
    Sound (s.goOn w db' (.working queue)) ∧
    ∀ row ∈ s.db.deliveries, row.status.isFinal →
      ∃ row' ∈ db'.deliveries, row'.id = row.id ∧ row'.status = row.status := by
  have hsends : s.Sends w delivery.id := by rw [Sends, hphase]; rfl
  have hpair : ∀ w' deliveryId', s.Sends w' deliveryId' → (w' = w ↔ deliveryId' = delivery.id) := by
    intro w' deliveryId' hsends'
    constructor
    · rintro rfl
      rw [Sends, hphase] at hsends'
      exact hsends'.symm
    · rintro rfl
      exact h.sole w' w delivery.id hsends' hsends
  obtain ⟨row, hmem, hid, -⟩ := h.sending w delivery.id hsends
  refine ⟨h.modify hchange hdb hnotifications ⟨row, hmem, hid⟩ hpair (fun _ hsends => hsends.elim)
    fun row => iff_of_false (hstatus row) id, final_modify ?_ hdb⟩
  intro row' hrow' hid'
  rw [h.sent_row hsends hrow' hid']
  rfl

/-- What is to be shown of a step of one worker. -/
theorem Sound.delivers {a : DeliveryAction} (hnext : Sound (step settings s a))
    (hone : ∀ w' deliveryId, ¬s.Sends w' deliveryId → (step settings s a).Sends w' deliveryId →
      ∀ w'', w'' ≠ w' → ¬s.Sends w'' deliveryId)
    (hfinal : ∀ row ∈ s.db.deliveries, row.status.isFinal →
      ∃ row' ∈ (step settings s a).db.deliveries, row'.id = row.id ∧ row'.status = row.status) :
    Delivers settings s a :=
  ⟨hone, hfinal, fun _ hmem hopen hfree => hnext.selected hmem hopen hfree⟩

theorem sends_of_working {queue : List String} {w' : Nat}
    (hsends : (s.goOn w db (.working queue)).Sends w' deliveryId) : s.Sends w' deliveryId := by
  by_cases hw : w' = w
  · subst hw
    exact (sends_goOn_self.mp hsends).elim
  · exact (sends_goOn_of_ne hw).mp hsends

theorem failed_status (settings : RetrySettings) (attemptCount : Nat) (permanent : Bool)
    (error : String) (now : Time) (row : NotificationDelivery) :
    (row.failed settings attemptCount permanent error now).status ≠ .sending := by
  have hretried (status : EventStatus) : DeliveryStatus.retried status ≠ .sending := by
    cases status <;> decide
  simp only [NotificationDelivery.failed]
  split
  · decide
  · exact hretried _

theorem disabled_deliveries (permanent : Bool) (token : String) :
    (if permanent then db.disableDevice token else db).deliveries = db.deliveries := by
  split <;> rfl

theorem disabled_notifications (permanent : Bool) (token : String) :
    (if permanent then db.disableDevice token else db).notifications = db.notifications := by
  split <;> rfl

/-- A careful step delivers, and keeps the invariant. -/
theorem step_delivers (h : Sound s) {a : DeliveryAction} (hcareful : Careful s a) :
    Sound (step settings s a) ∧ Delivers settings s a := by
  have hsame : Sound s ∧ (∀ w' deliveryId, ¬s.Sends w' deliveryId → s.Sends w' deliveryId →
      ∀ w'', w'' ≠ w' → ¬s.Sends w'' deliveryId) ∧ ∀ row ∈ s.db.deliveries, row.status.isFinal →
      ∃ row' ∈ s.db.deliveries, row'.id = row.id ∧ row'.status = row.status :=
    ⟨h, fun _ _ hbefore hafter => absurd hafter hbefore, fun row hrow _ => ⟨row, hrow, rfl, rfl⟩⟩
  suffices hstep : Sound (step settings s a) ∧
      (∀ w' deliveryId, ¬s.Sends w' deliveryId → (step settings s a).Sends w' deliveryId →
        ∀ w'', w'' ≠ w' → ¬s.Sends w'' deliveryId) ∧
      ∀ row ∈ s.db.deliveries, row.status.isFinal →
        ∃ row' ∈ (step settings s a).db.deliveries, row'.id = row.id ∧ row'.status = row.status from
    ⟨hstep.1, hstep.1.delivers hstep.2.1 hstep.2.2⟩
  have hquiet {w : Nat} {queue queue' : List String} (hphase : s.phase w = .working queue) :
      Sound (s.goOn w s.db (.working queue')) ∧
      (∀ w' deliveryId, ¬s.Sends w' deliveryId →
        (s.goOn w s.db (.working queue')).Sends w' deliveryId →
        ∀ w'', w'' ≠ w' → ¬s.Sends w'' deliveryId) ∧
      ∀ row ∈ s.db.deliveries, row.status.isFinal →
        ∃ row' ∈ s.db.deliveries, row'.id = row.id ∧ row'.status = row.status :=
    ⟨h.goOn (not_sends_of_working hphase) fun _ => id, fun _ _ hbefore hafter =>
      absurd (sends_of_working hafter) hbefore, hsame.2.2⟩
  cases a with
  | process w deliveryId =>
    simp only [step]
    split
    · rename_i hphase
      exact hquiet hphase
    · exact hsame
  | select w now limit =>
    simp only [step]
    split
    · rename_i hphase
      exact hquiet hphase
    · exact hsame
  | claim w =>
    simp only [step]
    split
    · rename_i deliveryId queue hphase
      obtain ⟨hsound, hone, hfinal⟩ := h.claim hphase fun row hfound =>
        hcareful deliveryId queue row hphase hfound
      refine ⟨hsound, ?_, hfinal⟩
      intro w' deliveryId' hbefore hafter
      by_cases hw : w' = w
      · subst hw
        exact hone deliveryId' hbefore hafter
      · refine absurd ?_ hbefore
        unfold Outbox.claim at hafter
        split at hafter
        · exact (sends_goOn_of_ne hw).mp hafter
        · split at hafter
          · exact (sends_goOn_of_ne hw).mp hafter
          · split at hafter <;> exact (sends_goOn_of_ne hw).mp hafter
    · exact hsame
  | deliver w now =>
    simp only [step]
    split
    · rename_i hphase
      have hstatus (row : NotificationDelivery) : (row.delivered now).status ≠ .sending := by
        simp [NotificationDelivery.delivered]
      obtain ⟨hsound, hfinal⟩ := h.record hphase (by intro _; exact ⟨rfl, rfl⟩) hstatus rfl
        rfl
      exact ⟨hsound, fun _ _ hbefore hafter => absurd (sends_of_working hafter) hbefore, hfinal⟩
    · exact hsame
  | fail w permanent error now =>
    simp only [step]
    split
    · rename_i hphase
      obtain ⟨hsound, hfinal⟩ := h.record hphase (by intro _; exact ⟨rfl, rfl⟩)
        (failed_status settings _ permanent error now) (disabled_deliveries permanent _)
        (disabled_notifications permanent _)
      exact ⟨hsound, fun _ _ hbefore hafter => absurd (sends_of_working hafter) hbefore, hfinal⟩
    · exact hsame
  | die w =>
    cases hphase : s.phase w with
    | working queue => exact hquiet hphase
    | sending delivery queue => exact absurd hphase (hcareful delivery queue)

/-- A step that is not careful does not deliver. -/
theorem careful_of_delivers (h : Sound s) {a : DeliveryAction} (hdelivers : Delivers settings s a) :
    Careful s a := by
  cases a with
  | claim w =>
    intro deliveryId queue row hphase hfound hsending
    obtain ⟨hmem, hid⟩ := mem_of_find_eq_some hfound
    obtain ⟨w', hw'⟩ := h.owned row hmem hsending
    rw [hid] at hw'
    have hbefore := not_sends_of_working hphase deliveryId
    have hne : w' ≠ w := by
      rintro rfl
      exact hbefore hw'
    refine hdelivers.one w deliveryId hbefore ?_ w' hne hw'
    have hnotified : (s.db.findNotification row.notificationId).isNone = false := by
      simpa using h.notified row hmem
    simp only [step, hphase, Outbox.claim, hfound, hsending, DeliveryStatus.isFinal, hnotified]
    exact sends_goOn_self.mpr hid
  | die w =>
    intro delivery queue hphase
    have hsends : s.Sends w delivery.id := by rw [Sends, hphase]; rfl
    obtain ⟨row, hmem, hid, hstatus⟩ := h.sending w delivery.id hsends
    obtain ⟨time, hdue⟩ := hdelivers.selected row hmem (by rw [hstatus]; rfl) (by
      intro w' hsends'
      by_cases hw : w' = w
      · subst hw
        exact (sends_goOn_self.mp hsends').elim
      · rw [hid] at hsends'
        exact hw (h.sole w' w delivery.id ((sends_goOn_of_ne hw).mp hsends') hsends))
    have hnow := hdue time (le_refl time)
    simp [NotificationDelivery.due, hstatus] at hnow
  | process w deliveryId => trivial
  | select w now limit => trivial
  | deliver w now => trivial
  | fail w permanent error now => trivial

/-- A run delivers at every step exactly if no delivery is claimed while it is being sent and no
worker ends while it sends. -/
theorem delivers_iff_careful (hdb : db.Ready) (acts : List DeliveryAction) :
    Always (step settings) (Delivers settings) (start db) acts ↔
      Always (step settings) Careful (start db) acts := by
  have hstart : Sound (start db) :=
    { ids := hdb.ids
      notified := hdb.notified
      sending := fun _ _ h => h.elim
      sole := fun _ _ _ h => h.elim
      owned := fun row hrow h => absurd h (hdb.quiet row hrow) }
  exact always_congr_of_invariant hstart
    (fun _ _ h => ⟨careful_of_delivers h, fun hcareful => (step_delivers h hcareful).2⟩)
    fun _ _ h hcareful => (step_delivers h hcareful).1

end

/-- One delivery that is pending. -/
def onePending : DeliveryDb :=
  { notifications := [⟨"n", "title", none⟩]
    deliveries := [{ id := "d", notificationId := "n", channel := "email", destination := "a" }] }

theorem onePending_ready : onePending.Ready := ⟨by decide, by decide, by decide⟩

theorem delivers_one_worker : Always (step {}) (Delivers {}) (start onePending)
    [.select 1 5 100, .claim 1, .fail 1 false "timeout" 6, .process 2 "d", .claim 2,
      .deliver 2 90] := by
  rw [delivers_iff_careful onePending_ready]
  refine ⟨trivial, ?_, trivial, trivial, ?_, trivial, trivial⟩
  · rintro _ _ _ ⟨⟩ ⟨⟩ ⟨⟩
  · rintro _ _ _ ⟨⟩ ⟨⟩ ⟨⟩

/-- Two workers select one delivery: both send it, and the failure of the second takes back the
status `sent`. A worker that dies while it sends leaves a delivery that is never due again. -/
theorem delivery_sent_twice :
    ¬Always (step {}) (Delivers {}) (start onePending)
      [.select 1 5 100, .select 2 5 100, .claim 1, .claim 2] ∧
    (run (step {}) (start onePending) [.select 1 5 100, .select 2 5 100, .claim 1, .claim 2,
      .deliver 1 6]).db.deliveries.map (·.status) = [.sent] ∧
    (run (step {}) (start onePending) [.select 1 5 100, .select 2 5 100, .claim 1, .claim 2,
      .deliver 1 6, .fail 2 false "timeout" 7]).db.deliveries.map (·.status) = [.failed] ∧
    ¬Always (step {}) (Delivers {}) (start onePending) [.select 1 5 100, .claim 1, .die 1] := by
  refine ⟨?_, by decide, by decide, ?_⟩
  · rintro ⟨-, -, -, h, -⟩
    exact h.one 2 "d" id rfl 1 (by decide) rfl
  · rintro ⟨-, -, h, -⟩
    obtain ⟨time, hdue⟩ := h.selected
      { id := "d", notificationId := "n", channel := "email", destination := "a"
        status := .sending, attemptCount := 1 } (by decide) rfl (by
          intro w
          by_cases hw : w = 1
          · subst hw
            exact id
          · change ¬(Function.update (Function.update (Function.update (fun _ : Nat =>
              DeliveryPhase.working []) 1 _) 1 _) 1 (.working []) w).sends "d"
            rw [Function.update_of_ne hw, Function.update_of_ne hw, Function.update_of_ne hw]
            exact id)
    exact absurd (hdue time (le_refl time)) (by simp [NotificationDelivery.due])

end Outbox

end Fanfolio
