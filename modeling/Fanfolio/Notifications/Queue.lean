import Fanfolio.Framework.Checked
import Fanfolio.Notifications.Delivery

/-!
# Queueing deliveries

A notification is created inside the transaction of what it tells about, together with one row of
the outbox for every address of its recipient. A row that the table refuses fails the transaction.
-/

namespace Fanfolio

open Framework

/-- `uuid4().hex[:12]`. -/
abbrev HexDigits := { text : String // text.length = 12 }

/-- A row of `notifications`. -/
structure UserNotification extends Notification where
  userId : UserId
  kind : String
  entityType : Option String := none
  entityId : Option String := none
  eventKey : Option String := none
deriving DecidableEq, Repr

/-- A row of `notification_deliveries` with its key. -/
structure QueuedDelivery extends NotificationDelivery where
  idempotencyKey : String
deriving DecidableEq, Repr

structure Follow where
  followerId : UserId
  followingId : UserId
deriving DecidableEq, Repr

structure CardVisibility where
  userId : UserId
  publicEnabled : Bool := true
deriving DecidableEq, Repr

structure NoticeDb where
  accounts : List Account := []
  devices : List PushDevice := []
  follows : List Follow := []
  visibilities : List CardVisibility := []
  notifications : List UserNotification := []
  deliveries : List QueuedDelivery := []
deriving DecidableEq, Repr

/-- The arguments of `notify_user_once`. -/
structure NoticeRequest where
  userId : UserId
  kind : String
  title : String
  body : String
  entityType : String
  entityId : String
  eventKey : String
deriving DecidableEq, Repr

/-- The identifiers that a notification and its deliveries draw. -/
structure NoticeDraws where
  notification : HexDigits
  delivery : Nat → HexDigits

def NoticeDraws.notificationId (draws : NoticeDraws) : String :=
  "notification_" ++ draws.notification.val

def NoticeDraws.deliveryId (draws : NoticeDraws) (i : Nat) : String :=
  "delivery_" ++ (draws.delivery i).val

/-- The `idempotency_key` of a delivery. -/
def deliveryKey (notificationId channel destination : String) : String :=
  notificationId ++ (":" ++ (channel ++ (":" ++ destination)))

/-- `build_delivery`. -/
def buildDelivery (id notificationId channel destination : String) : QueuedDelivery where
  id := id
  notificationId := notificationId
  channel := channel
  destination := destination
  idempotencyKey := deliveryKey notificationId channel destination

def DeliveryStatus.text : DeliveryStatus → String
  | .pending => "pending"
  | .sending => "sending"
  | .sent => "sent"
  | .failed => "failed"
  | .deadLetter => "dead_letter"

namespace QueuedDelivery

/-- The columns of a row under `uq_notification_delivery_target`. -/
def target (row : QueuedDelivery) : String × String × String :=
  (row.notificationId, row.channel, row.destination)

/-- The declared lengths of the columns of `notification_deliveries`. -/
structure ColumnsFit (row : QueuedDelivery) : Prop where
  channel : row.channel.length ≤ 20
  destination : row.destination.length ≤ 4096
  idempotencyKey : row.idempotencyKey.length ≤ 255
  status : row.status.text.length ≤ 20

instance (row : QueuedDelivery) : Decidable row.ColumnsFit :=
  decidable_of_iff (_ ∧ _ ∧ _ ∧ _)
    ⟨fun h => ⟨h.1, h.2.1, h.2.2.1, h.2.2.2⟩, fun h => ⟨h.1, h.2, h.3, h.4⟩⟩

end QueuedDelivery

/-- The table takes the row, or refuses it. -/
def insertDelivery (rows : List QueuedDelivery) (row : QueuedDelivery) :
    Except Failure (List QueuedDelivery) := do
  ensure row.ColumnsFit (.unhandled "DBAPIError")
  ensure (∀ row' ∈ rows, row'.id ≠ row.id) (.integrity "notification_deliveries_pkey")
  ensure (∀ row' ∈ rows, row'.target ≠ row.target) (.integrity "uq_notification_delivery_target")
  ensure (∀ row' ∈ rows, row'.idempotencyKey ≠ row.idempotencyKey)
    (.integrity "notification_deliveries_idempotency_key_key")
  return rows ++ [row]

namespace NoticeDb

variable (db : NoticeDb)

def findAccount (userId : UserId) : Option Account := db.accounts.find? (·.id == userId)

/-- The channels and destinations of a recipient. -/
def deliveryTargets (userId : UserId) : List (String × String) :=
  match db.findAccount userId with
  | none => []
  | some recipient =>
    (if recipient.notificationEmailEnabled then recipient.email.filter (· ≠ "") else
        none).toList.map (fun email => ("email", email)) ++
      (db.devices.filter fun device => device.userId == userId && device.enabled).map
        fun device => ("push", device.token)

/-- The rows that `_queue_notification_deliveries` adds. -/
def queuedDeliveries (userId : UserId) (draws : NoticeDraws) : List QueuedDelivery :=
  (db.deliveryTargets userId).zipIdx.map fun entry =>
    buildDelivery (draws.deliveryId entry.2) draws.notificationId entry.1.1 entry.1.2

/-- The fan was notified of the event before. -/
def isNotified (userId : UserId) (eventKey : String) : Bool :=
  db.notifications.any fun row => row.userId == userId && row.eventKey == some eventKey

/-- A notification with the deliveries to its addresses. -/
def insertNotice (row : UserNotification) (rows : List QueuedDelivery) : Except Failure NoticeDb := do
  ensure (∀ row' ∈ db.notifications, row'.id ≠ row.id) (.integrity "notifications_pkey")
  ensure (∀ row' ∈ db.notifications, row.eventKey.isSome → row'.eventKey = row.eventKey →
    row'.userId ≠ row.userId) (.integrity "uq_notifications_user_event_key")
  let deliveries ← rows.foldlM insertDelivery db.deliveries
  return { db with notifications := db.notifications ++ [row], deliveries := deliveries }

/-- `notify_user_once`, with the flush of what it adds. -/
def notifyUserOnce (request : NoticeRequest) (draws : NoticeDraws) : Except Failure NoticeDb :=
  if db.isNotified request.userId request.eventKey then .ok db
  else db.insertNotice
    { id := draws.notificationId, title := request.title, body := some request.body,
      userId := request.userId, kind := request.kind, entityType := some request.entityType,
      entityId := some request.entityId, eventKey := some request.eventKey }
    (db.queuedDeliveries request.userId draws)

/-- `notify_fans`, for one fan. -/
def notifyFan (kind title body : String) (draws : NoticeDraws) (fan : Account) :
    Except Failure NoticeDb :=
  db.insertNotice
    { id := draws.notificationId, title := title, body := some body, userId := fan.id, kind := kind }
    (if fan.notificationEmailEnabled then
      (fan.email.filter (· ≠ "")).toList.map
        (buildDelivery (draws.deliveryId 0) draws.notificationId "email" ·)
    else [])

/-- `notify_fans`. -/
def notifyFans (kind title body : String) (draws : UserId → NoticeDraws) : Except Failure NoticeDb :=
  (db.accounts.filter (·.role == .fan)).foldlM
    (fun db fan => db.notifyFan kind title body (draws fan.id) fan) db

end NoticeDb

/-- `PushDeviceRegister`. -/
structure PushDeviceRegister where
  token : String
  token_length : 1 ≤ token.length ∧ token.length ≤ 4096

/-- `register_push_device`. -/
def registerPushDevice (db : NoticeDb) (userId : UserId) (payload : PushDeviceRegister)
    (deviceId : String) : Except Failure NoticeDb :=
  match db.devices.find? (·.token == payload.token) with
  | some device => do
    ensure (device.userId = userId)
      (.app ⟨409, "PUSH_DEVICE_OWNED_BY_ANOTHER_USER", "이미 다른 계정에 등록된 기기입니다."⟩)
    return { db with
      devices := patch (·.token == payload.token) ({ · with enabled := true }) db.devices }
  | none => do
    ensure (∀ device ∈ db.devices, device.id ≠ deviceId) (.integrity "push_devices_pkey")
    return { db with
      devices := db.devices ++ [{ id := deviceId, userId := userId, token := payload.token }] }

/-- What happens to the tables around notifications. -/
inductive NoticeAction where
  /-- Sign-ups, logins and edits of profiles. -/
  | accounts (accounts : List Account)
  | follow (follows : List Follow) (visibilities : List CardVisibility)
  | register (userId : UserId) (payload : PushDeviceRegister) (deviceId : String)
  /-- Devices are unregistered, or disabled by a failure of their provider. -/
  | disable (devices : PushDevice → Bool)
  | notify (request : NoticeRequest) (draws : NoticeDraws)
  | notifyFans (kind title body : String) (draws : UserId → NoticeDraws)
  /-- A notification without deliveries. -/
  | record (userId : UserId) (kind title : String) (body eventKey : Option String)
      (notification : HexDigits)
  /-- A worker records an attempt on a delivery. -/
  | attempt (deliveryId : String) (status : DeliveryStatus) (attemptCount : Nat)
      (nextAttemptAt : Option Time) (lastError : Option String) (sentAt : Option Time)

def noticeStep (db : NoticeDb) : NoticeAction → NoticeDb
  | .accounts accounts => { db with accounts := accounts }
  | .follow follows visibilities => { db with follows := follows, visibilities := visibilities }
  | .register userId payload deviceId =>
    (registerPushDevice db userId payload deviceId).toOption.getD db
  | .disable devices => { db with devices := patch devices ({ · with enabled := false }) db.devices }
  | .notify request draws => (db.notifyUserOnce request draws).toOption.getD db
  | .notifyFans kind title body draws => (db.notifyFans kind title body draws).toOption.getD db
  | .record userId kind title body eventKey notification =>
    (db.insertNotice
      { id := "notification_" ++ notification.val, title := title, body := body, userId := userId,
        kind := kind, eventKey := eventKey } []).toOption.getD db
  | .attempt deliveryId status attemptCount nextAttemptAt lastError sentAt => { db with
      deliveries := patch (·.id == deliveryId)
        ({ · with status := status, attemptCount := attemptCount, nextAttemptAt := nextAttemptAt,
                  lastError := lastError, sentAt := sentAt }) db.deliveries }

/-- The rows of the outbox after new ones are added, as far as the table can take them. -/
structure DeliveriesFit (rows new : List QueuedDelivery) : Prop where
  columns : ∀ row ∈ new, row.ColumnsFit
  ids : ((rows ++ new).map (·.id)).Nodup
  targets : ((rows ++ new).map (·.target)).Nodup
  keys : ((rows ++ new).map (·.idempotencyKey)).Nodup

theorem insertDelivery_ok {rows rows' : List QueuedDelivery} {row : QueuedDelivery} :
    insertDelivery rows row = .ok rows' ↔ row.ColumnsFit ∧ (∀ row' ∈ rows, row'.id ≠ row.id) ∧
      (∀ row' ∈ rows, row'.target ≠ row.target) ∧
      (∀ row' ∈ rows, row'.idempotencyKey ≠ row.idempotencyKey) ∧ rows ++ [row] = rows' := by
  simp only [insertDelivery, bind_ok, ensure_ok, exists_const, pure_ok]

/-- The outbox takes the rows exactly if they fit. -/
theorem insertDeliveries_ok {rows rows' new : List QueuedDelivery} (hrows : DeliveriesFit rows []) :
    new.foldlM insertDelivery rows = .ok rows' ↔ DeliveriesFit rows new ∧ rows' = rows ++ new := by
  induction new generalizing rows with
  | nil =>
    rw [List.foldlM_nil, pure_ok, List.append_nil]
    exact ⟨fun h => ⟨hrows, h.symm⟩, fun h => h.2.symm⟩
  | cons row new ih =>
    have hnodup : ∀ {β : Type} (g : QueuedDelivery → β), ((rows ++ []).map g).Nodup →
        (((rows ++ [row]).map g).Nodup ↔ ∀ row' ∈ rows, g row' ≠ g row) := by
      intro β g hold
      rw [List.append_nil] at hold
      simp only [List.map_append, List.map_cons, List.map_nil, List.nodup_append, hold,
        List.nodup_singleton, List.mem_map, List.mem_singleton, true_and, ne_eq,
        forall_exists_index, and_imp, forall_apply_eq_imp_iff₂, forall_eq]
    simp only [List.foldlM_cons, bind_ok, insertDelivery_ok]
    constructor
    · rintro ⟨_, ⟨hcolumns, hid, htarget, hkey, rfl⟩, hrest⟩
      have hnext : DeliveriesFit (rows ++ [row]) [] := by
        refine ⟨by simp, ?_, ?_, ?_⟩ <;> rw [List.append_nil]
        · exact (hnodup _ hrows.ids).mpr hid
        · exact (hnodup _ hrows.targets).mpr htarget
        · exact (hnodup _ hrows.keys).mpr hkey
      obtain ⟨hfit, rfl⟩ := (ih hnext).mp hrest
      obtain ⟨hcolumns', hids, htargets, hkeys⟩ := hfit
      rw [List.append_assoc, List.singleton_append] at hids htargets hkeys ⊢
      exact ⟨⟨List.forall_mem_cons.mpr ⟨hcolumns, hcolumns'⟩, hids, htargets, hkeys⟩, rfl⟩
    · rintro ⟨⟨hcolumns, hids, htargets, hkeys⟩, rfl⟩
      obtain ⟨hcolumn, hcolumns⟩ := List.forall_mem_cons.mp hcolumns
      have hfirst : ∀ {β : Type} {g : QueuedDelivery → β},
          ((rows ++ row :: new).map g).Nodup → ((rows ++ [row]).map g).Nodup := by
        intro β g h
        rw [List.append_cons, List.map_append] at h
        exact (List.nodup_append.mp h).1
      have hnext : DeliveriesFit (rows ++ [row]) [] := by
        refine ⟨by simp, ?_, ?_, ?_⟩ <;> rw [List.append_nil]
        · exact hfirst hids
        · exact hfirst htargets
        · exact hfirst hkeys
      refine ⟨_, ⟨hcolumn, (hnodup _ hrows.ids).mp (hfirst hids),
        (hnodup _ hrows.targets).mp (hfirst htargets),
        (hnodup _ hrows.keys).mp (hfirst hkeys), rfl⟩, (ih hnext).mpr ⟨⟨hcolumns, ?_, ?_, ?_⟩, ?_⟩⟩
      all_goals rw [List.append_assoc, List.singleton_append]
      · exact hids
      · exact htargets
      · exact hkeys

/-- The two channels. -/
def IsChannel (channel : String) : Prop := channel = "email" ∨ channel = "push"

/-- The key of a delivery tells its notification, its channel and its destination. -/
theorem deliveryKey_inj {notificationId notificationId' channel channel' destination
    destination' : String} (hlength : notificationId.length = notificationId'.length)
    (hchannel : IsChannel channel) (hchannel' : IsChannel channel')
    (h : deliveryKey notificationId channel destination =
      deliveryKey notificationId' channel' destination') :
    notificationId = notificationId' ∧ channel = channel' ∧ destination = destination' := by
  have hlist := congrArg String.toList h
  simp only [deliveryKey, String.toList_append] at hlist
  obtain ⟨hid, hrest⟩ :=
    List.append_inj hlist (by rw [String.length_toList, String.length_toList, hlength])
  refine ⟨String.toList_inj.mp hid, ?_⟩
  rcases hchannel with rfl | rfl <;> rcases hchannel' with rfl | rfl
  · exact ⟨rfl, String.toList_inj.mp (by simpa using hrest)⟩
  · simp at hrest
  · simp at hrest
  · exact ⟨rfl, String.toList_inj.mp (by simpa using hrest)⟩

/-- A delivery is built for a notification with an identifier of the usual length. -/
structure QueuedDelivery.BuiltFor (row : QueuedDelivery) (notificationId : String) : Prop where
  notification : row.notificationId = notificationId
  channel : IsChannel row.channel
  key : row.idempotencyKey = deliveryKey row.notificationId row.channel row.destination

namespace NoticeDb

/-- Devices have tokens of their own, and the outbox was filled by `build_delivery`. -/
structure Sound (db : NoticeDb) : Prop where
  tokens : (db.devices.map (·.token)).Nodup
  notificationIds : ∀ row ∈ db.notifications, row.id.length = 25
  built : ∀ row ∈ db.deliveries, ∃ notification ∈ db.notifications, row.BuiltFor notification.id
  outbox : DeliveriesFit db.deliveries []

/-- No device is registered, and nobody was notified. -/
structure Blank (db : NoticeDb) : Prop where
  devices : db.devices = []
  notifications : db.notifications = []
  deliveries : db.deliveries = []

variable {db db' : NoticeDb}

theorem Blank.sound (h : db.Blank) : db.Sound := by
  refine ⟨?_, ?_, ?_, ?_⟩
  · simp [h.devices]
  · simp [h.notifications]
  · simp [h.deliveries]
  · rw [h.deliveries]
    exact ⟨by simp, by simp, by simp, by simp⟩

theorem insertNotice_ok {row : UserNotification} {rows : List QueuedDelivery} :
    db.insertNotice row rows = .ok db' ↔ (∀ row' ∈ db.notifications, row'.id ≠ row.id) ∧
      (∀ row' ∈ db.notifications, row.eventKey.isSome → row'.eventKey = row.eventKey →
        row'.userId ≠ row.userId) ∧
      ∃ deliveries, rows.foldlM insertDelivery db.deliveries = .ok deliveries ∧
        { db with notifications := db.notifications ++ [row], deliveries := deliveries } = db' := by
  simp only [insertNotice, bind_ok, ensure_ok, exists_const, pure_ok]

theorem Sound.insertNotice (h : db.Sound) {row : UserNotification} {rows : List QueuedDelivery}
    (hid : row.id.length = 25) (hrows : ∀ delivery ∈ rows, delivery.BuiltFor row.id)
    (hok : db.insertNotice row rows = .ok db') : db'.Sound := by
  obtain ⟨-, -, _, hinsert, rfl⟩ := insertNotice_ok.mp hok
  obtain ⟨hfit, rfl⟩ := (insertDeliveries_ok h.outbox).mp hinsert
  refine ⟨h.tokens, ?_, ?_, ?_⟩
  · intro notification hmem
    rcases List.mem_append.mp hmem with hold | hnew
    · exact h.notificationIds notification hold
    · rw [List.mem_singleton.mp hnew]
      exact hid
  · intro delivery hmem
    rcases List.mem_append.mp hmem with hold | hnew
    · obtain ⟨notification, hnotification, hbuilt⟩ := h.built delivery hold
      exact ⟨notification, List.mem_append_left _ hnotification, hbuilt⟩
    · exact ⟨row, List.mem_append_right _ (List.mem_singleton.mpr rfl), hrows delivery hnew⟩
  · refine ⟨by simp, ?_, ?_, ?_⟩ <;> rw [List.append_nil]
    · exact hfit.ids
    · exact hfit.targets
    · exact hfit.keys

end NoticeDb

theorem NoticeDraws.notificationId_length (draws : NoticeDraws) :
    draws.notificationId.length = 25 := by
  rw [NoticeDraws.notificationId, String.length_append, draws.notification.property]
  rfl

namespace NoticeDb

variable {db db' : NoticeDb} {userId : UserId} {request : NoticeRequest} {draws : NoticeDraws}

theorem deliveryTargets_channel {target : String × String} (h : target ∈ db.deliveryTargets userId) :
    IsChannel target.1 := by
  unfold deliveryTargets at h
  split at h
  · cases h
  · rcases List.mem_append.mp h with hemail | hpush
    · obtain ⟨_, -, rfl⟩ := List.mem_map.mp hemail
      exact .inl rfl
    · obtain ⟨_, -, rfl⟩ := List.mem_map.mp hpush
      exact .inr rfl

theorem queuedDeliveries_built {row : QueuedDelivery} (h : row ∈ db.queuedDeliveries userId draws) :
    row.BuiltFor draws.notificationId := by
  obtain ⟨entry, hentry, rfl⟩ := List.mem_map.mp h
  exact ⟨rfl, deliveryTargets_channel (List.fst_mem_of_mem_zipIdx hentry), rfl⟩

theorem Sound.notifyUserOnce (h : db.Sound) (hok : db.notifyUserOnce request draws = .ok db') :
    db'.Sound := by
  unfold NoticeDb.notifyUserOnce at hok
  split at hok
  · obtain rfl := Except.ok.inj hok
    exact h
  · refine h.insertNotice ?_ (fun _ => queuedDeliveries_built) hok
    exact draws.notificationId_length

theorem Sound.notifyFan (h : db.Sound) {kind title body : String} {fan : Account}
    (hok : db.notifyFan kind title body draws fan = .ok db') : db'.Sound := by
  refine h.insertNotice ?_ ?_ hok
  · exact draws.notificationId_length
  · intro delivery hmem
    split at hmem
    · obtain ⟨_, -, rfl⟩ := List.mem_map.mp hmem
      exact ⟨rfl, .inl rfl, rfl⟩
    · cases hmem

theorem Sound.notifyFans (h : db.Sound) {kind title body : String} {draws : UserId → NoticeDraws}
    (hok : db.notifyFans kind title body draws = .ok db') : db'.Sound :=
  foldlM_rel (R := fun db db' => Sound db → Sound db') (fun _ hdb => hdb)
    (fun hfirst hrest hdb => hrest (hfirst hdb)) (fun _ _ _ hstep hdb => hdb.notifyFan hstep) hok h

theorem Sound.registerPushDevice (h : db.Sound) {payload : PushDeviceRegister} {deviceId : String}
    (hok : registerPushDevice db userId payload deviceId = .ok db') : db'.Sound := by
  unfold Fanfolio.registerPushDevice at hok
  split at hok
  · simp only [bind_ok, ensure_ok, exists_const, pure_ok] at hok
    obtain ⟨-, rfl⟩ := hok
    exact ⟨by rw [map_patch (by intro _; rfl)]; exact h.tokens, h.notificationIds, h.built, h.outbox⟩
  · rename_i hnone
    simp only [bind_ok, ensure_ok, exists_const, pure_ok] at hok
    obtain ⟨-, rfl⟩ := hok
    refine ⟨nodup_insert h.tokens ?_, h.notificationIds, h.built, h.outbox⟩
    intro row' hmem heq
    exact find_eq_none_iff.mp hnone (List.mem_map.mpr ⟨row', hmem, heq⟩)

theorem Sound.step (h : db.Sound) (a : NoticeAction) : (noticeStep db a).Sound := by
  have hcommit : ∀ {attempt : Except Failure NoticeDb},
      (∀ db', attempt = .ok db' → db'.Sound) → (attempt.toOption.getD db).Sound := by
    intro attempt hok
    cases hattempt : attempt with
    | error e => exact h
    | ok db' => exact hok db' hattempt
  cases a with
  | accounts => exact ⟨h.tokens, h.notificationIds, h.built, h.outbox⟩
  | follow => exact ⟨h.tokens, h.notificationIds, h.built, h.outbox⟩
  | register => exact hcommit fun _ hok => h.registerPushDevice hok
  | disable devices =>
    refine ⟨?_, h.notificationIds, h.built, h.outbox⟩
    show (List.map _ (patch _ _ _)).Nodup
    rw [map_patch (by intro _; rfl)]
    exact h.tokens
  | notify => exact hcommit fun _ hok => h.notifyUserOnce hok
  | notifyFans => exact hcommit fun _ hok => h.notifyFans hok
  | record userId kind title body eventKey notification =>
    refine hcommit fun _ hok => h.insertNotice ?_ (by simp) hok
    rw [String.length_append, notification.property]
    rfl
  | attempt =>
    refine ⟨h.tokens, h.notificationIds, ?_, ⟨by simp, ?_, ?_, ?_⟩⟩
    · intro row hrow
      obtain ⟨row', hrow', rfl⟩ := mem_patch.mp hrow
      obtain ⟨notification, hnotification, hbuilt⟩ := h.built row' hrow'
      refine ⟨notification, hnotification, ?_⟩
      split
      · exact ⟨hbuilt.notification, hbuilt.channel, hbuilt.key⟩
      · exact hbuilt
    all_goals
      rw [List.append_nil]
      show (List.map _ (patch _ _ _)).Nodup
      rw [map_patch (by intro _; rfl)]
    · simpa using h.outbox.ids
    · simpa using h.outbox.targets
    · simpa using h.outbox.keys

/-- The identifiers of a notification to the fan are drawn anew. -/
structure FreshNotice (db : NoticeDb) (userId : UserId) (draws : NoticeDraws) : Prop where
  notification : ∀ row ∈ db.notifications, row.id ≠ draws.notificationId
  deliveries : ∀ row ∈ db.deliveries, ∀ i < (db.deliveryTargets userId).length,
    row.id ≠ draws.deliveryId i
  distinct : ∀ i < (db.deliveryTargets userId).length, ∀ j < (db.deliveryTargets userId).length,
    draws.delivery i = draws.delivery j → i = j

/-- The addresses of the recipient leave room for the identifier in the key of a delivery. -/
structure AddressesFit (db : NoticeDb) (userId : UserId) : Prop where
  email : ∀ recipient, db.findAccount userId = some recipient →
    recipient.notificationEmailEnabled → ∀ email, recipient.email = some email → email.length ≤ 223
  tokens : (db.findAccount userId).isSome → ∀ device ∈ db.devices, device.userId = userId →
    device.enabled → device.token.length ≤ 224

/-- What is queued satisfies the columns and the keys of its table, and the transaction goes on. -/
def QueuesSafely (db : NoticeDb) (request : NoticeRequest) (draws : NoticeDraws) : Prop :=
  (db.isNotified request.userId request.eventKey = false →
    DeliveriesFit db.deliveries (db.queuedDeliveries request.userId draws)) ∧
  ∃ db', db.notifyUserOnce request draws = .ok db'

theorem mem_deliveryTargets {channel destination : String} :
    (channel, destination) ∈ db.deliveryTargets userId ↔
      ∃ recipient, db.findAccount userId = some recipient ∧
        ((channel = "email" ∧ recipient.notificationEmailEnabled ∧
            recipient.email = some destination ∧ destination ≠ "") ∨
          (channel = "push" ∧ ∃ device ∈ db.devices, device.userId = userId ∧ device.enabled ∧
            device.token = destination)) := by
  unfold deliveryTargets
  cases hfound : db.findAccount userId with
  | none => simp
  | some recipient =>
    have hemail : (channel, destination) ∈ ((if recipient.notificationEmailEnabled then
          recipient.email.filter (· ≠ "") else none).toList.map fun email => ("email", email)) ↔
        channel = "email" ∧ recipient.notificationEmailEnabled ∧
          recipient.email = some destination ∧ destination ≠ "" := by
      cases recipient.notificationEmailEnabled with
      | false => simp
      | true =>
        rw [List.mem_map]
        constructor
        · rintro ⟨email, hmem, heq⟩
          obtain ⟨rfl, rfl⟩ := Prod.mk.inj heq
          simp only [if_true, Option.mem_toList, Option.filter_eq_some_iff,
            decide_eq_true_eq] at hmem
          exact ⟨rfl, rfl, hmem⟩
        · rintro ⟨rfl, -, hmem⟩
          refine ⟨destination, ?_, rfl⟩
          simpa only [if_true, Option.mem_toList, Option.mem_def, Option.filter_eq_some_iff,
            decide_eq_true_eq] using hmem
    have hpush : (channel, destination) ∈ ((db.devices.filter fun device =>
          device.userId == userId && device.enabled).map fun device => ("push", device.token)) ↔
        channel = "push" ∧ ∃ device ∈ db.devices, device.userId = userId ∧ device.enabled ∧
          device.token = destination := by
      rw [List.mem_map]
      constructor
      · rintro ⟨device, hdevice, heq⟩
        obtain ⟨rfl, rfl⟩ := Prod.mk.inj heq
        rw [List.mem_filter, Bool.and_eq_true, beq_iff_eq] at hdevice
        exact ⟨rfl, device, hdevice.1, hdevice.2.1, hdevice.2.2, rfl⟩
      · rintro ⟨rfl, device, hdevice, huser, henabled, rfl⟩
        refine ⟨device, List.mem_filter.mpr ⟨hdevice, ?_⟩, rfl⟩
        rw [Bool.and_eq_true, beq_iff_eq]
        exact ⟨huser, henabled⟩
    rw [List.mem_append, hemail, hpush]
    simp only [Option.some.injEq, exists_eq_left']

theorem addressesFit_iff : db.AddressesFit userId ↔ ∀ channel destination,
    (channel, destination) ∈ db.deliveryTargets userId →
      channel.length + destination.length ≤ 228 := by
  constructor
  · intro h channel destination hmem
    obtain ⟨recipient, hfound,
      ⟨rfl, henabled, hemail, -⟩ | ⟨rfl, device, hdevice, huser, henabled, rfl⟩⟩ :=
      mem_deliveryTargets.mp hmem
    · have hlength := h.email recipient hfound henabled destination hemail
      show 5 + destination.length ≤ 228
      omega
    · have hlength := h.tokens (by rw [hfound]; rfl) device hdevice huser henabled
      show 4 + device.token.length ≤ 228
      omega
  · intro h
    constructor
    · intro recipient hfound henabled email hemail
      by_cases hempty : email = ""
      · rw [hempty]
        exact Nat.zero_le _
      · have hlength : 5 + email.length ≤ 228 := h "email" email
          (mem_deliveryTargets.mpr ⟨recipient, hfound, .inl ⟨rfl, henabled, hemail, hempty⟩⟩)
        omega
    · intro hfound device hdevice huser henabled
      obtain ⟨recipient, hrecipient⟩ := Option.isSome_iff_exists.mp hfound
      have hlength : 4 + device.token.length ≤ 228 := h "push" device.token (mem_deliveryTargets.mpr
        ⟨recipient, hrecipient, .inr ⟨rfl, device, hdevice, huser, henabled, rfl⟩⟩)
      omega

theorem deliveryKey_length (notificationId channel destination : String) :
    (deliveryKey notificationId channel destination).length =
      notificationId.length + 1 + channel.length + 1 + destination.length := by
  simp only [deliveryKey, String.length_append]
  have hcolon : ":".length = 1 := rfl
  omega

/-- The columns of a new delivery fit exactly if its key does. -/
theorem buildDelivery_fits (id : String) {channel destination : String} (hchannel : IsChannel channel) :
    (buildDelivery id draws.notificationId channel destination).ColumnsFit ↔
      channel.length + destination.length ≤ 228 := by
  have hkey : (buildDelivery id draws.notificationId channel destination).idempotencyKey.length =
      27 + channel.length + destination.length := by
    show (deliveryKey _ _ _).length = _
    rw [deliveryKey_length, draws.notificationId_length]
    omega
  have hshort : channel.length ≤ 20 := by
    rcases hchannel with rfl | rfl <;> decide
  constructor
  · intro h
    have hfits := h.idempotencyKey
    omega
  · intro h
    refine ⟨hshort, ?_, by omega, (by decide : "pending".length ≤ 20)⟩
    show destination.length ≤ 4096
    omega

theorem deliveryTargets_nodup (h : db.Sound) : (db.deliveryTargets userId).Nodup := by
  unfold deliveryTargets
  split
  · exact List.nodup_nil
  · refine List.nodup_append.mpr ⟨?_, ?_, ?_⟩
    · split
      · rename_i recipient _ _
        cases Option.filter (fun x => decide (x ≠ "")) recipient.email <;> simp
      · simp
    · have htokens : ((db.devices.filter fun device =>
          device.userId == userId && device.enabled).map (·.token)).Nodup :=
        h.tokens.sublist (List.filter_sublist.map _)
      have hpush := htokens.map (f := fun token => ("push", token)) fun _ _ heq => (Prod.mk.inj heq).2
      rwa [List.map_map] at hpush
    · intro email hemail push hpush heq
      obtain ⟨_, -, rfl⟩ := List.mem_map.mp hemail
      obtain ⟨_, -, rfl⟩ := List.mem_map.mp hpush
      have hchannel : "email" = "push" := (Prod.mk.inj heq).1
      exact absurd hchannel (by decide)

/-- Rows that were built for notifications have keys of their own if they have targets of their
own. -/
theorem keys_nodup_of_targets {rows : List QueuedDelivery}
    (hbuilt : ∀ row ∈ rows, ∃ notificationId : String, notificationId.length = 25 ∧
      row.BuiltFor notificationId)
    (h : (rows.map (·.target)).Nodup) : (rows.map (·.idempotencyKey)).Nodup := by
  rw [List.Nodup, List.pairwise_map] at h ⊢
  refine h.imp_of_mem ?_
  intro row row' hrow hrow' hne hkey
  obtain ⟨_, hlength, hid, hchannel, hkey₁⟩ := hbuilt row hrow
  obtain ⟨_, hlength', hid', hchannel', hkey₂⟩ := hbuilt row' hrow'
  rw [hkey₁, hkey₂] at hkey
  obtain ⟨hsame, hsameChannel, hsameDestination⟩ :=
    deliveryKey_inj (by rw [hid, hid', hlength, hlength']) hchannel hchannel' hkey
  exact hne (by rw [QueuedDelivery.target, QueuedDelivery.target, hsame, hsameChannel,
    hsameDestination])

theorem nodup_append_of_new {β : Type} {g : QueuedDelivery → β} {rows new : List QueuedDelivery}
    (hrows : ((rows ++ []).map g).Nodup) (hnew : (new.map g).Nodup)
    (hne : ∀ row ∈ rows, ∀ row' ∈ new, g row ≠ g row') : ((rows ++ new).map g).Nodup := by
  rw [List.append_nil] at hrows
  rw [List.map_append]
  refine List.nodup_append.mpr ⟨hrows, hnew, ?_⟩
  intro key hkey key' hkey' heq
  obtain ⟨row, hrow, rfl⟩ := List.mem_map.mp hkey
  obtain ⟨row', hrow', rfl⟩ := List.mem_map.mp hkey'
  exact hne row hrow row' hrow' heq

theorem queuedDeliveries_ids_nodup (h : db.FreshNotice userId draws) :
    ((db.queuedDeliveries userId draws).map (·.id)).Nodup := by
  have hid : ∀ i < (db.deliveryTargets userId).length, ∀ j < (db.deliveryTargets userId).length,
      draws.deliveryId i = draws.deliveryId j → i = j := by
    intro i hi j hj heq
    refine h.distinct i hi j hj (Subtype.ext (String.toList_inj.mp ?_))
    have hlist := congrArg String.toList heq
    simpa [NoticeDraws.deliveryId] using hlist
  have hids : (db.queuedDeliveries userId draws).map (·.id) =
      ((db.deliveryTargets userId).zipIdx.map Prod.snd).map draws.deliveryId := by
    simp only [queuedDeliveries, List.map_map]
    rfl
  rw [hids, List.zipIdx_map_snd, ← List.range_eq_range']
  exact List.nodup_range.map_on fun i hi j hj =>
    hid i (List.mem_range.mp hi) j (List.mem_range.mp hj)

theorem queuedDeliveries_targets (h : db.Sound) (hfresh : db.FreshNotice userId draws) :
    ((db.deliveries ++ db.queuedDeliveries userId draws).map (·.target)).Nodup := by
  have htargets : (db.queuedDeliveries userId draws).map (·.target) =
      ((db.deliveryTargets userId).zipIdx.map Prod.fst).map (Prod.mk draws.notificationId) := by
    simp only [queuedDeliveries, List.map_map]
    rfl
  refine nodup_append_of_new h.outbox.targets ?_ ?_
  · rw [htargets, List.zipIdx_map_fst]
    exact (deliveryTargets_nodup h).map fun _ _ heq => (Prod.mk.inj heq).2
  · intro row hrow row' hrow' heq
    obtain ⟨notification, hnotification, hbuilt⟩ := h.built row hrow
    refine hfresh.notification notification hnotification ?_
    rw [← hbuilt.notification, ← (queuedDeliveries_built hrow').notification]
    exact congrArg Prod.fst heq

/-- New deliveries of a notification fit exactly if the addresses of its recipient do. -/
theorem queuedDeliveries_fit_iff (h : db.Sound) (hfresh : db.FreshNotice userId draws) :
    DeliveriesFit db.deliveries (db.queuedDeliveries userId draws) ↔ db.AddressesFit userId := by
  have hcolumns : (∀ row ∈ db.queuedDeliveries userId draws, row.ColumnsFit) ↔
      db.AddressesFit userId := by
    rw [addressesFit_iff]
    constructor
    · intro hrows channel destination hmem
      obtain ⟨i, hi⟩ := List.getElem?_of_mem hmem
      exact (buildDelivery_fits _ (deliveryTargets_channel hmem)).mp
        (hrows _ (List.mem_map.mpr ⟨_, List.mk_mem_zipIdx_iff_getElem?.mpr hi, rfl⟩))
    · intro htargets row hrow
      obtain ⟨⟨⟨channel, destination⟩, i⟩, hentry, rfl⟩ := List.mem_map.mp hrow
      have hmem := List.fst_mem_of_mem_zipIdx hentry
      exact (buildDelivery_fits _ (deliveryTargets_channel hmem)).mpr (htargets _ _ hmem)
  rw [← hcolumns]
  refine ⟨fun hfit => hfit.columns, fun hfit => ⟨hfit, ?_, ?_, ?_⟩⟩
  · exact nodup_append_of_new h.outbox.ids (queuedDeliveries_ids_nodup hfresh) fun row hrow
      new hnew => by
        obtain ⟨entry, hentry, rfl⟩ := List.mem_map.mp hnew
        exact hfresh.deliveries row hrow entry.2
          (by simpa using List.snd_lt_of_mem_zipIdx hentry)
  · exact queuedDeliveries_targets h hfresh
  · refine keys_nodup_of_targets ?_ (queuedDeliveries_targets h hfresh)
    intro row hrow
    rcases List.mem_append.mp hrow with hold | hnew
    · obtain ⟨notification, hmem, hbuilt⟩ := h.built row hold
      exact ⟨_, h.notificationIds notification hmem, hbuilt⟩
    · exact ⟨_, draws.notificationId_length, queuedDeliveries_built hnew⟩

/-- What is queued for a notification is safe exactly if the fan was notified before or has
addresses that fit. -/
theorem queuesSafely_iff_addressesFit (h : db.Sound)
    (hfresh : db.FreshNotice request.userId draws) :
    db.QueuesSafely request draws ↔
      db.isNotified request.userId request.eventKey = true ∨ db.AddressesFit request.userId := by
  unfold QueuesSafely NoticeDb.notifyUserOnce
  cases hnotified : db.isNotified request.userId request.eventKey with
  | true => simp
  | false =>
    have hkey : ∀ row ∈ db.notifications, row.eventKey = some request.eventKey →
        row.userId ≠ request.userId := by
      intro row hrow heq huser
      exact List.any_eq_false.mp hnotified row hrow (by rw [heq, huser]; simp)
    simp only [forall_const, Bool.false_eq_true, if_false, false_or, insertNotice_ok,
      insertDeliveries_ok h.outbox]
    rw [← queuedDeliveries_fit_iff h hfresh]
    refine ⟨fun hsafe => hsafe.1, fun hfit => ⟨hfit, ?_⟩⟩
    exact ⟨_, hfresh.notification, fun row hrow _ => hkey row hrow, _, ⟨hfit, rfl⟩, rfl⟩

end NoticeDb

/-- The tables around notifications after a list of operations. -/
abbrev noticesAfter (start : NoticeDb) (acts : List NoticeAction) : NoticeDb :=
  run noticeStep start acts

namespace NoticeDb

theorem Blank.reached {start : NoticeDb} (h : start.Blank) (acts : List NoticeAction) :
    (noticesAfter start acts).Sound :=
  run_of_step h.sound fun _ a hdb => hdb.step a

end NoticeDb

/-- After any operations, a notification is queued safely exactly if its recipient was notified of
the event before, or the addresses of the recipient fit into the keys of the deliveries. -/
theorem queuesSafely_iff {start : NoticeDb} (h : start.Blank) (acts : List NoticeAction)
    (request : NoticeRequest) {draws : NoticeDraws}
    (hfresh : (noticesAfter start acts).FreshNotice request.userId draws) :
    (noticesAfter start acts).QueuesSafely request draws ↔
      (noticesAfter start acts).isNotified request.userId request.eventKey = true ∨
        (noticesAfter start acts).AddressesFit request.userId :=
  NoticeDb.queuesSafely_iff_addressesFit (h.reached acts) hfresh

namespace NoticeExample

def fan : Account := { id := "fan_a", role := .fan }

def start : NoticeDb := { accounts := [fan] }

def token (length : Nat) : String := String.ofList (List.replicate length 't')

theorem token_length (length : Nat) : (token length).length = length := by
  simp [token]

/-- The fan registers a device with a token of the given length. -/
def registration (length : Nat) (h : 1 ≤ length ∧ length ≤ 4096) : NoticeAction :=
  .register "fan_a" ⟨token length, by rwa [token_length]⟩ "device-1"

def request : NoticeRequest where
  userId := "fan_a"
  kind := "card_redeemed"
  title := "card"
  body := "registered"
  entityType := "card"
  entityId := "card-1"
  eventKey := "redemption:code-1:fan_a"

def draws : NoticeDraws := ⟨⟨"000000000001", rfl⟩, fun _ => ⟨"000000000002", rfl⟩⟩

theorem start_blank : start.Blank := ⟨rfl, rfl, rfl⟩

theorem reached (length : Nat) (h : 1 ≤ length ∧ length ≤ 4096) :
    noticesAfter start [registration length h] = { accounts := [fan], devices :=
      [{ id := "device-1", userId := "fan_a", token := token length }] } := rfl

theorem reached_fresh (length : Nat) (h : 1 ≤ length ∧ length ≤ 4096) :
    (noticesAfter start [registration length h]).FreshNotice request.userId draws := by
  rw [reached]
  refine ⟨by simp, by simp, ?_⟩
  intro i hi j hj _
  have hone : (NoticeDb.deliveryTargets { accounts := [fan], devices :=
      [{ id := "device-1", userId := "fan_a", token := token length }] } request.userId).length = 1 := rfl
  omega

/-- The token fits exactly if it has at most 224 characters. -/
theorem reached_fits (length : Nat) (h : 1 ≤ length ∧ length ≤ 4096) :
    (noticesAfter start [registration length h]).AddressesFit request.userId ↔ length ≤ 224 := by
  rw [reached]
  constructor
  · intro hfit
    have htoken := hfit.tokens rfl _ (List.mem_singleton.mpr rfl) rfl rfl
    rwa [token_length] at htoken
  · intro hle
    constructor
    · intro recipient hfound henabled
      obtain rfl : fan = recipient := Option.some.inj hfound
      cases henabled
    · intro _ device hdevice _ _
      rw [List.mem_singleton.mp hdevice, token_length]
      exact hle

end NoticeExample

open NoticeExample in
theorem queuesSafely_iff_longest :
    (noticesAfter start [registration 224 (by decide)]).QueuesSafely request draws :=
  (queuesSafely_iff start_blank [registration 224 (by decide)] request
    (reached_fresh 224 (by decide))).mpr (.inr ((reached_fits 224 (by decide)).mpr le_rfl))

open NoticeExample in
/-- A device with a token of 225 characters fails every transaction that notifies its owner. -/
theorem queuesSafely_fails :
    ¬ ∀ (start : NoticeDb) (acts : List NoticeAction) (request : NoticeRequest)
      (draws : NoticeDraws), start.Blank →
      (noticesAfter start acts).FreshNotice request.userId draws →
      (noticesAfter start acts).QueuesSafely request draws := by
  intro h
  have hsafe := h start [registration 225 (by decide)] request draws start_blank
    (reached_fresh 225 (by decide))
  rcases (NoticeDb.queuesSafely_iff_addressesFit (start_blank.reached _)
    (reached_fresh 225 (by decide))).mp hsafe with hnotified | hfit
  · exact absurd hnotified (by decide)
  · exact absurd ((reached_fits 225 (by decide)).mp hfit) (by decide)

end Fanfolio
