import Fanfolio.FanEvents.Schema
import Fanfolio.Framework.Run
import Fanfolio.Framework.Text
import Fanfolio.Notifications.Queue

/-!
# Notifications of events

A page view tells the fans of the events that have started, and the applicants of the deadlines
that are near. What it wrote is committed if it told somebody, or if the request commits anyway.
-/

namespace Fanfolio

open Framework

/-- A row of `events`, with the time at which its start was announced. -/
structure AnnouncedEvent extends Event where
  notificationSentAt : Option Time := none
deriving DecidableEq, Repr

structure EventNoticeDb where
  users : List User
  events : List AnnouncedEvent
  applications : List EventApplication
  notifications : List UserNotification
deriving DecidableEq, Repr

inductive EventNoticeKind where
  | started
  | deadline
deriving DecidableEq, Repr

def EventNoticeKind.text : EventNoticeKind → String
  | .started => "event_started"
  | .deadline => "event_application_deadline"

/-- The `event_key` of a notification. -/
def EventNoticeKind.key : EventNoticeKind → EventId → UserId → String
  | .started, eventId, _ => "event_started:" ++ eventId
  | .deadline, eventId, userId =>
    "event_application_deadline:" ++ (eventId ++ (":" ++ userId))

def startedNotice (event : Event) (userId : UserId) : UserNotification where
  id := "notification_event_" ++ event.id ++ "_" ++ userId
  title := "새 이벤트가 시작되었어요"
  body := some event.title
  userId := userId
  kind := EventNoticeKind.started.text
  entityType := some "event"
  entityId := some event.id
  eventKey := some (EventNoticeKind.started.key event.id userId)

def deadlineNotice (event : Event) (userId : UserId) : UserNotification where
  id := "notification_event_deadline_" ++ event.id ++ "_" ++ userId
  title := "이벤트 신청 마감이 임박했어요"
  body := some event.title
  userId := userId
  kind := EventNoticeKind.deadline.text
  entityType := some "event"
  entityId := some event.id
  eventKey := some (EventNoticeKind.deadline.key event.id userId)

/-- The event is scheduled or published. -/
def AnnouncedEvent.isOpen (event : AnnouncedEvent) : Bool :=
  event.workflowStatus == .scheduled || event.workflowStatus == .published

/-- The first query of `reconcile_due_event_notifications` selects the event. -/
def AnnouncedEvent.isDue (event : AnnouncedEvent) (now : Time) : Bool :=
  event.isOpen && decide (event.startsAt ≤ now) && event.notificationSentAt.isNone

namespace EventNoticeDb

def hasNotice (db : EventNoticeDb) (userId : UserId) (eventKey : Option String) : Bool :=
  db.notifications.any fun row => row.userId == userId && row.eventKey == eventKey

/-- A notification, unless its user has one with its key; the number of those added is counted. -/
def addNotice (s : EventNoticeDb × Nat) (row : UserNotification) :
    Except Failure (EventNoticeDb × Nat) :=
  if s.1.hasNotice row.userId row.eventKey then .ok s
  else do
    ensure (∀ row' ∈ s.1.notifications, row'.id ≠ row.id) (.integrity "notifications_pkey")
    pure ({ s.1 with notifications := s.1.notifications ++ [row] }, s.2 + 1)

/-- The announcement of an event is marked as sent. -/
def markSent (db : EventNoticeDb) (eventId : EventId) (clock : Time) : EventNoticeDb :=
  { db with
    events := patch (·.id == eventId) ({ · with notificationSentAt := some clock }) db.events }

/-- `create_event_notification`, with the count of its caller. -/
def createEventNotification (clock : Time) (s : EventNoticeDb × Nat) (event : AnnouncedEvent) :
    Except Failure (EventNoticeDb × Nat) :=
  if event.notificationSentAt.isSome then .ok s
  else do
    let fans := s.1.users.filter (·.role == .fan)
    let s ← fans.foldlM (fun s user => addNotice s (startedNotice event.toEvent user.id)) s
    pure (s.1.markSent event.id clock, s.2)

/-- The reminders of one event. -/
def remindApplicants (now : Time) (s : EventNoticeDb × Nat) (event : AnnouncedEvent) :
    Except Failure (EventNoticeDb × Nat) :=
  if event.applicationEndsAt.any fun deadline => now < deadline && deadline ≤ now + days 1 then
    let applications := s.1.applications.filter fun row =>
      row.eventId == event.id && row.status == .submitted
    applications.foldlM (fun s row => addNotice s (deadlineNotice event.toEvent row.userId)) s
  else .ok s

/-- `reconcile_due_event_notifications`, up to its commit. -/
def reconcileDueEventNotifications (db : EventNoticeDb) (now clock : Time) :
    Except Failure (EventNoticeDb × Nat) := do
  let s ← (db.events.filter (·.isDue now)).foldlM (createEventNotification clock) (db, 0)
  let deadlineEvents := s.1.events.filter fun event =>
    event.isOpen && event.applicationEndsAt.isSome
  deadlineEvents.foldlM (remindApplicants now) s

end EventNoticeDb

/-- A page view, whose request commits in any case or not, or another request. -/
inductive EventNoticeAction where
  | reconcile (now clock : Time) (commits : Bool)
  | other (change : EventNoticeDb → EventNoticeDb)

namespace EventNoticeDb

def step (db : EventNoticeDb) : EventNoticeAction → EventNoticeDb
  | .reconcile now clock commits =>
    match db.reconcileDueEventNotifications now clock with
    | .ok (db', count) => if count ≠ 0 ∨ commits = true then db' else db
    | .error _ => db
  | .other change => change db

/-- The notifications of events. -/
def eventNotices (db : EventNoticeDb) : List UserNotification :=
  db.notifications.filter fun row =>
    row.kind == EventNoticeKind.started.text || row.kind == EventNoticeKind.deadline.text

/-- The notifications of a kind that a user has about an event. -/
def noticesOf (db : EventNoticeDb) (kind : EventNoticeKind) (userId : UserId) (eventId : EventId) :
    List UserNotification :=
  db.notifications.filter fun row =>
    row.kind == kind.text && row.userId == userId && row.entityId == some eventId

/-- Every fan has at most one announcement of an event, and at most one reminder. -/
def ToldOnce (db : EventNoticeDb) : Prop :=
  ∀ kind userId eventId, (db.noticesOf kind userId eventId).length ≤ 1

/-- An announcement is of an event that is active. -/
def AnnouncedInTime (db : EventNoticeDb) (now : Time) (row : UserNotification) : Prop :=
  row.kind = EventNoticeKind.started.text → ∃ event ∈ db.events, row.entityId = some event.id ∧
    publicEventStatus event.workflowStatus event.startsAt event.endsAt now = some .active

/-- A reminder is of a deadline within the next 24 hours. -/
def RemindedInTime (db : EventNoticeDb) (now : Time) (row : UserNotification) : Prop :=
  row.kind = EventNoticeKind.deadline.text → ∃ event ∈ db.events, row.entityId = some event.id ∧
    (∃ application ∈ db.applications, application.eventId = event.id ∧
      application.userId = row.userId) ∧
    ∃ deadline, event.applicationEndsAt = some deadline ∧ now < deadline ∧ deadline ≤ now + days 1

/-- The notifications that a page view adds are in time. -/
def TellsInTime (db : EventNoticeDb) : EventNoticeAction → Prop
  | .reconcile now clock commits =>
    ∀ row ∈ (db.step (.reconcile now clock commits)).notifications, row ∉ db.notifications →
      db.AnnouncedInTime now row ∧ db.RemindedInTime now row
  | .other _ => True

/-- Other requests leave the notifications of events alone. -/
def LeavesNotices (db : EventNoticeDb) : EventNoticeAction → Prop
  | .reconcile .. => True
  | .other change => (change db).eventNotices = db.eventNotices

/-- An event that is over when it is due for its announcement finds nobody left to be told. -/
def Prompt (db : EventNoticeDb) : EventNoticeAction → Prop
  | .reconcile now _ _ => ∀ event ∈ db.events, event.isDue now → event.endsAt.any (· ≤ now) →
    ∀ user ∈ db.users, user.role = .fan →
      db.hasNotice user.id (some (EventNoticeKind.started.key event.id user.id))
  | .other _ => True

instance (db : EventNoticeDb) : (a : EventNoticeAction) → Decidable (db.Prompt a)
  | .reconcile .. => inferInstanceAs (Decidable (∀ event ∈ _, _))
  | .other _ => isTrue trivial

end EventNoticeDb

/-- A notification of an event has the key of its kind. -/
def UserNotification.Keyed (row : UserNotification) : Prop :=
  ∀ kind : EventNoticeKind, row.kind = kind.text → ∀ eventId, row.entityId = some eventId →
    row.eventKey = some (kind.key eventId row.userId)

theorem EventNoticeKind.text_inj {kind kind' : EventNoticeKind} (h : kind.text = kind'.text) :
    kind = kind' := by
  cases kind <;> cases kind' <;> first | rfl | exact absurd h (by decide)

theorem startedNotice_keyed (event : Event) (userId : UserId) :
    (startedNotice event userId).Keyed := by
  intro kind hkind eventId hevent
  obtain rfl : EventNoticeKind.started = kind := EventNoticeKind.text_inj hkind
  obtain rfl := Option.some.inj hevent
  rfl

theorem deadlineNotice_keyed (event : Event) (userId : UserId) :
    (deadlineNotice event userId).Keyed := by
  intro kind hkind eventId hevent
  obtain rfl : EventNoticeKind.deadline = kind := EventNoticeKind.text_inj hkind
  obtain rfl := Option.some.inj hevent
  rfl

namespace EventNoticeDb

/-- Every notification of an event has its key, and nobody has two. -/
structure Sound (db : EventNoticeDb) : Prop where
  keyed : ∀ row ∈ db.eventNotices, row.Keyed
  once : db.ToldOnce

variable {db db' : EventNoticeDb} {s s' : EventNoticeDb × Nat} {row : UserNotification}
  {now clock : Time} {event : AnnouncedEvent}

theorem mem_eventNotices : row ∈ db.eventNotices ↔
    row ∈ db.notifications ∧ ∃ kind : EventNoticeKind, row.kind = kind.text := by
  simp only [eventNotices, List.mem_filter, Bool.or_eq_true, beq_iff_eq]
  refine and_congr_right fun _ => ?_
  constructor
  · rintro (hkind | hkind)
    · exact ⟨.started, hkind⟩
    · exact ⟨.deadline, hkind⟩
  · rintro ⟨kind, hkind⟩
    cases kind
    · exact .inl hkind
    · exact .inr hkind

/-- The notifications of events are all that counts. -/
theorem noticesOf_eq (kind : EventNoticeKind) (userId : UserId) (eventId : EventId) :
    db.noticesOf kind userId eventId = db.eventNotices.filter fun row =>
      row.kind == kind.text && row.userId == userId && row.entityId == some eventId := by
  rw [noticesOf, eventNotices, List.filter_filter]
  apply List.filter_congr
  intro row _
  cases kind <;> cases hkind : row.kind == _ <;> simp_all

theorem hasNotice_iff {userId : UserId} {eventKey : Option String} :
    db.hasNotice userId eventKey ↔ ∃ row ∈ db.notifications,
      row.userId = userId ∧ row.eventKey = eventKey := by
  simp [hasNotice]

/-- A notification is added exactly if its user has none with its key. -/
theorem addNotice_ok (h : addNotice s row = .ok s') :
    (s.1.hasNotice row.userId row.eventKey = true ∧ s' = s) ∨
    (s.1.hasNotice row.userId row.eventKey = false ∧
      s' = ({ s.1 with notifications := s.1.notifications ++ [row] }, s.2 + 1)) := by
  unfold addNotice at h
  cases hhas : s.1.hasNotice row.userId row.eventKey with
  | true =>
    rw [hhas, if_pos rfl] at h
    exact .inl ⟨rfl, (Except.ok.inj h).symm⟩
  | false =>
    rw [hhas, if_neg Bool.false_ne_true] at h
    simp only [bind_ok, pure_ok] at h
    obtain ⟨_, -, rfl⟩ := h
    exact .inr ⟨rfl, rfl⟩

/-- A user without a notification under its key has none of its kind about the event. -/
theorem noticesOf_eq_nil {kind : EventNoticeKind} {eventId : EventId} (h : db.Sound)
    (hrow : row.Keyed) (hnone : db.hasNotice row.userId row.eventKey = false)
    (hkind : row.kind = kind.text) (hevent : row.entityId = some eventId) :
    db.noticesOf kind row.userId eventId = [] := by
  rw [noticesOf, List.filter_eq_nil_iff]
  intro row' hmem hmatch
  simp only [Bool.and_eq_true, beq_iff_eq] at hmatch
  obtain ⟨⟨hkind', huser'⟩, hevent'⟩ := hmatch
  have hkey' := h.keyed row' (mem_eventNotices.mpr ⟨hmem, kind, hkind'⟩) kind hkind' eventId hevent'
  have hkey := hrow kind hkind eventId hevent
  have hhas : db.hasNotice row.userId row.eventKey = true :=
    hasNotice_iff.mpr ⟨row', hmem, huser', by rw [hkey', hkey, huser']⟩
  rw [hnone] at hhas
  cases hhas

theorem Sound.addNotice (h : s.1.Sound) (hrow : row.Keyed)
    (hok : EventNoticeDb.addNotice s row = .ok s') : s'.1.Sound := by
  rcases addNotice_ok hok with ⟨-, rfl⟩ | ⟨hnone, rfl⟩
  · exact h
  · refine ⟨?_, ?_⟩
    · intro row' hrow'
      obtain ⟨hmem, hkind⟩ := mem_eventNotices.mp hrow'
      rcases List.mem_append.mp hmem with hold | hnew
      · exact h.keyed row' (mem_eventNotices.mpr ⟨hold, hkind⟩)
      · rw [List.mem_singleton.mp hnew]
        exact hrow
    · intro kind userId eventId
      rw [noticesOf, List.filter_append, List.length_append]
      by_cases hmatch : row.kind = kind.text ∧ row.userId = userId ∧ row.entityId = some eventId
      · obtain ⟨hkind, rfl, hevent⟩ := hmatch
        have hempty := noticesOf_eq_nil h hrow hnone hkind hevent
        rw [noticesOf] at hempty
        rw [hempty, List.length_nil, Nat.zero_add]
        exact List.length_filter_le _ [row]
      · have hlast : [row].filter (fun row =>
            row.kind == kind.text && row.userId == userId && row.entityId == some eventId) = [] := by
          rw [List.filter_eq_nil_iff]
          intro row' hrow'
          rw [List.mem_singleton.mp hrow']
          simpa [and_assoc] using hmatch
        rw [hlast, List.length_nil, Nat.add_zero]
        exact h.once kind userId eventId

/-- What a page view has done so far is in time. -/
structure Told (db : EventNoticeDb) (now : Time) (s : EventNoticeDb × Nat) : Prop where
  users : s.1.users = db.users
  applications : s.1.applications = db.applications
  events : ∀ event ∈ s.1.events, ∃ event' ∈ db.events, event'.toEvent = event.toEvent
  kept : ∀ row ∈ db.notifications, row ∈ s.1.notifications
  told : ∀ row ∈ s.1.notifications, row ∉ db.notifications →
    db.AnnouncedInTime now row ∧ db.RemindedInTime now row
  sound : s.1.Sound

theorem Told.start (h : db.Sound) (count : Nat) : Told db now (db, count) where
  users := rfl
  applications := rfl
  events event hevent := ⟨event, hevent, rfl⟩
  kept _ hrow := hrow
  told _ hrow hnew := absurd hrow hnew
  sound := h

theorem Told.addNotice (h : Told db now s) (hrow : row.Keyed)
    (htell : s.1.hasNotice row.userId row.eventKey = false →
      db.AnnouncedInTime now row ∧ db.RemindedInTime now row)
    (hok : EventNoticeDb.addNotice s row = .ok s') : Told db now s' := by
  have hsound := h.sound.addNotice hrow hok
  rcases addNotice_ok hok with ⟨-, rfl⟩ | ⟨hnone, rfl⟩
  · exact h
  · refine ⟨h.users, h.applications, h.events, ?_, ?_, hsound⟩
    · exact fun row' hrow' => List.mem_append_left _ (h.kept row' hrow')
    · intro row' hrow' hnew
      rcases List.mem_append.mp hrow' with hold | hlast
      · exact h.told row' hold hnew
      · rw [List.mem_singleton.mp hlast]
        exact htell hnone

theorem Told.hasNotice (h : Told db now s) {userId : UserId} {eventKey : Option String}
    (hold : db.hasNotice userId eventKey) : s.1.hasNotice userId eventKey = true := by
  obtain ⟨row, hrow, hmatch⟩ := hasNotice_iff.mp hold
  exact hasNotice_iff.mpr ⟨row, h.kept row hrow, hmatch⟩

theorem Told.markSent (h : Told db now s) (eventId : EventId) (count : Nat) :
    Told db now (s.1.markSent eventId clock, count) := by
  refine ⟨h.users, h.applications, ?_, h.kept, h.told, ⟨h.sound.keyed, h.sound.once⟩⟩
  intro event hevent
  obtain ⟨old, hold, rfl⟩ := mem_patch.mp hevent
  obtain ⟨event', hevent', hsame⟩ := h.events old hold
  refine ⟨event', hevent', ?_⟩
  split <;> exact hsame

theorem publicEventStatus_active (hopen : event.isOpen) (hstart : event.startsAt ≤ now)
    (hend : ¬event.endsAt.any (· ≤ now)) :
    publicEventStatus event.workflowStatus event.startsAt event.endsAt now = some .active := by
  simp only [AnnouncedEvent.isOpen, Bool.or_eq_true, beq_iff_eq] at hopen
  have hrunning : event.workflowStatus ≠ .ended := by
    rcases hopen with hstatus | hstatus <;> simp [hstatus]
  rw [publicEventStatus, if_neg (by simp only [hrunning, false_or]; exact hend), if_pos hopen,
    if_pos hstart]

theorem startedNotice_inTime {userId : UserId} (hevent : event ∈ db.events)
    (hactive : publicEventStatus event.workflowStatus event.startsAt event.endsAt now =
      some .active) : db.AnnouncedInTime now (startedNotice event.toEvent userId) ∧
        db.RemindedInTime now (startedNotice event.toEvent userId) := by
  refine ⟨fun _ => ⟨event, hevent, rfl, hactive⟩, ?_⟩
  intro (hkind : EventNoticeKind.started.text = EventNoticeKind.deadline.text)
  exact absurd hkind (by decide)

theorem deadlineNotice_inTime {userId : UserId} {deadline : Time} (hevent : event ∈ db.events)
    (happlication : ∃ application ∈ db.applications, application.eventId = event.id ∧
      application.userId = userId) (hdeadline : event.applicationEndsAt = some deadline)
    (hwindow : now < deadline ∧ deadline ≤ now + days 1) :
    db.AnnouncedInTime now (deadlineNotice event.toEvent userId) ∧
      db.RemindedInTime now (deadlineNotice event.toEvent userId) := by
  refine ⟨?_, fun _ => ⟨event, hevent, rfl, happlication, deadline, hdeadline, hwindow⟩⟩
  intro (hkind : EventNoticeKind.deadline.text = EventNoticeKind.started.text)
  exact absurd hkind (by decide)

theorem Told.createEventNotification (h : Told db now s) (hevent : event ∈ db.events)
    (hdue : event.isDue now) (hprompt : event.endsAt.any (· ≤ now) → ∀ user ∈ db.users,
      user.role = .fan →
        db.hasNotice user.id (some (EventNoticeKind.started.key event.id user.id)))
    (hok : EventNoticeDb.createEventNotification clock s event = .ok s') : Told db now s' := by
  simp only [AnnouncedEvent.isDue, Bool.and_eq_true, decide_eq_true_eq] at hdue
  obtain ⟨⟨hopen, hstart⟩, -⟩ := hdue
  unfold EventNoticeDb.createEventNotification at hok
  split at hok
  · exact Except.ok.inj hok ▸ h
  · simp only [bind_ok, pure_ok] at hok
    obtain ⟨s₁, hloop, rfl⟩ := hok
    refine Told.markSent ?_ event.id s₁.2
    refine foldlM_keeps (I := Told db now) h ?_ hloop
    intro user huser b b' hb hadd
    obtain ⟨hmem, hfan⟩ := List.mem_filter.mp huser
    rw [h.users] at hmem
    refine hb.addNotice (startedNotice_keyed event.toEvent user.id) ?_ hadd
    intro hnone
    refine startedNotice_inTime hevent (publicEventStatus_active hopen hstart ?_)
    -- the fans of an event that is over have been told before
    intro hover
    have hold := hb.hasNotice (hprompt hover user hmem (beq_iff_eq.mp hfan))
    exact absurd (hold.symm.trans hnone) (by decide)

theorem Told.remindApplicants (h : Told db now s) (hevent : event ∈ s.1.events)
    (hok : EventNoticeDb.remindApplicants now s event = .ok s') : Told db now s' := by
  unfold EventNoticeDb.remindApplicants at hok
  split at hok
  · rename_i hnear
    obtain ⟨deadline, hdeadline, hwindow⟩ := (Option.any_eq_true _ _).mp hnear
    simp only [Bool.and_eq_true, decide_eq_true_eq] at hwindow
    obtain ⟨event', hevent', hsame⟩ := h.events event hevent
    refine foldlM_keeps (I := Told db now) h ?_ hok
    intro application hmem b b' hb
      (hadd : EventNoticeDb.addNotice b (deadlineNotice event.toEvent application.userId) = .ok b')
    obtain ⟨happlication, hof⟩ := List.mem_filter.mp hmem
    rw [h.applications] at happlication
    simp only [Bool.and_eq_true, beq_iff_eq] at hof
    rw [← hsame] at hadd hof hdeadline
    refine hb.addNotice (deadlineNotice_keyed event'.toEvent application.userId) (fun _ => ?_) hadd
    exact deadlineNotice_inTime hevent' ⟨application, happlication, hof.1, rfl⟩ hdeadline hwindow
  · exact Except.ok.inj hok ▸ h

theorem addNotice_events (hok : addNotice s row = .ok s') : s'.1.events = s.1.events := by
  rcases addNotice_ok hok with ⟨-, rfl⟩ | ⟨-, rfl⟩ <;> rfl

theorem remindApplicants_events (hok : remindApplicants now s event = .ok s') :
    s'.1.events = s.1.events := by
  unfold remindApplicants at hok
  split at hok
  · exact foldlM_keeps (I := fun b : EventNoticeDb × Nat => b.1.events = s.1.events) rfl
      (fun _ _ _ _ hb hone => (addNotice_events hone).trans hb) hok
  · obtain rfl := Except.ok.inj hok
    rfl

theorem Told.reconcile (h : db.Sound)
    (hprompt : ∀ event ∈ db.events, event.isDue now → event.endsAt.any (· ≤ now) →
      ∀ user ∈ db.users, user.role = .fan →
        db.hasNotice user.id (some (EventNoticeKind.started.key event.id user.id)))
    (hok : db.reconcileDueEventNotifications now clock = .ok s') : Told db now s' := by
  simp only [reconcileDueEventNotifications, bind_ok] at hok
  obtain ⟨s, hstarted, hreminded⟩ := hok
  have htold : Told db now s := by
    refine foldlM_keeps (I := Told db now) (Told.start h 0) ?_ hstarted
    intro event hmem b b' hb hone
    obtain ⟨hevent, hdue⟩ := List.mem_filter.mp hmem
    exact hb.createEventNotification hevent hdue (hprompt event hevent hdue) hone
  -- the reminders leave the events of the page view as they are
  refine (foldlM_keeps (I := fun b => Told db now b ∧ b.1.events = s.1.events) ⟨htold, rfl⟩ ?_
    hreminded).1
  rintro event hmem b b' ⟨hb, hevents⟩ hone
  refine ⟨hb.remindApplicants (hevents ▸ List.mem_of_mem_filter hmem) hone, ?_⟩
  exact (remindApplicants_events hone).trans hevents

theorem step_reconcile_cases (commits : Bool) :
    db.step (.reconcile now clock commits) = db ∨
      ∃ count, db.reconcileDueEventNotifications now clock =
        .ok (db.step (.reconcile now clock commits), count) := by
  cases hok : db.reconcileDueEventNotifications now clock with
  | error e => exact .inl (by simp only [step, hok])
  | ok s =>
    by_cases hc : s.2 ≠ 0 ∨ commits = true
    · exact .inr ⟨s.2, by simp only [step, hok, if_pos hc]⟩
    · exact .inl (by simp only [step, hok, if_neg hc])

theorem Sound.step (h : db.Sound) (a : EventNoticeAction) (hleaves : db.LeavesNotices a)
    (hprompt : db.Prompt a) : (db.step a).Sound := by
  cases a with
  | reconcile now clock commits =>
    rcases step_reconcile_cases commits with heq | ⟨count, hok⟩
    · rw [heq]
      exact h
    · exact (Told.reconcile h hprompt hok).sound
  | other change =>
    refine ⟨fun row hrow => h.keyed row (hleaves ▸ hrow), fun kind userId eventId => ?_⟩
    have hsame : (change db).eventNotices = db.eventNotices := hleaves
    rw [EventNoticeDb.step, noticesOf_eq, hsame, ← noticesOf_eq]
    exact h.once kind userId eventId

theorem tellsInTime_step (h : db.Sound) (a : EventNoticeAction) (hprompt : db.Prompt a) :
    db.TellsInTime a := by
  cases a with
  | reconcile now clock commits =>
    intro row hrow hnew
    rcases step_reconcile_cases commits with heq | ⟨count, hok⟩
    · rw [heq] at hrow
      exact absurd hrow hnew
    · exact (Told.reconcile h hprompt hok).told row hrow hnew
  | other change => trivial

/-- In a run whose page views are prompt, everybody is told once and in time. -/
theorem toldInTime_run {acts : List EventNoticeAction} (h : db.eventNotices = [])
    (hleaves : Always step LeavesNotices db acts) (hprompt : Always step Prompt db acts) :
    Throughout step ToldOnce db acts ∧ Always step TellsInTime db acts := by
  have hstart : db.Sound := by
    refine ⟨fun row hrow => ?_, fun kind userId eventId => ?_⟩
    · rw [h] at hrow
      cases hrow
    · rw [noticesOf_eq, h]
      exact Nat.zero_le 1
  have hguard : Always step (fun db a => db.LeavesNotices a ∧ db.Prompt a) db acts := by
    rw [always_iff_split] at hleaves hprompt ⊢
    exact fun pre a post he => ⟨hleaves pre a post he, hprompt pre a post he⟩
  constructor
  · exact (hguard.throughout hstart fun _ a h' hg => h'.step a hg.1 hg.2).imp fun _ h' => h'.once
  · exact hguard.of_invariant hstart (fun _ a h' hg => h'.step a hg.1 hg.2)
      fun _ a h' hg => tellsInTime_step h' a hg.2

/-- A fan, and an event of ten days with a deadline that the fan applies before. -/
def tenDays : EventNoticeDb where
  users := [{ id := "fan" }]
  events := [{ id := "e1", title := "Meet", heroAssetId := "banner", startsAt := days 10,
               endsAt := some (days 20), applicationEndsAt := some (days 9),
               workflowStatus := .published, createdBy := "root" }]
  applications := [{ id := "a1", eventId := "e1", userId := "fan" }]
  notifications := []

/-- Nobody looks at the pages before the event is over. -/
theorem toldInTime_fails : tenDays.eventNotices = [] ∧
    Always step LeavesNotices tenDays [.reconcile (days 21) (days 21) false] ∧
    ¬Always step TellsInTime tenDays [.reconcile (days 21) (days 21) false] := by
  refine ⟨by decide, ⟨trivial, trivial⟩, ?_⟩
  rintro ⟨htells, -⟩
  have hrow : startedNotice (tenDays.events.head (by decide)).toEvent "fan" ∈
      (tenDays.step (.reconcile (days 21) (days 21) false)).notifications := by decide
  obtain ⟨event, hevent, -, hactive⟩ := (htells _ hrow (by decide)).1 rfl
  obtain rfl := List.mem_singleton.mp hevent
  revert hactive
  decide

theorem toldInTime_run_visited :
    let visits : List EventNoticeAction := [.reconcile (days 8) (days 8) false,
      .reconcile (days 8 + 1) (days 8) true, .reconcile (days 10) (days 10) false,
      .reconcile (days 21) (days 21) true]
    Throughout step ToldOnce tenDays visits ∧ Always step TellsInTime tenDays visits ∧
      (run step tenDays visits).notifications.map (·.kind) =
        ["event_application_deadline", "event_started"] := by
  intro visits
  have hleaves : Always step LeavesNotices tenDays visits :=
    ⟨trivial, trivial, trivial, trivial, trivial⟩
  have hprompt : Always step Prompt tenDays visits := by decide
  have hrun := toldInTime_run (by decide) hleaves hprompt
  exact ⟨hrun.1, hrun.2, by decide⟩

end EventNoticeDb

end Fanfolio
