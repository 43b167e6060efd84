import Fanfolio.Schema
import Fanfolio.Framework.Checked
import Fanfolio.Framework.Table

/-!
# Engagement events

Every action of a fan that other subsystems react to is recorded once, under the unique key
of its user, kind and source.
-/

namespace Fanfolio

open Framework

abbrev EventId := String

inductive EventStatus where
  | pending
  | processed
  | failed
  | deadLetter
deriving DecidableEq, Repr

/-- A row of `engagement_events`. -/
structure EngagementEvent where
  id : EventId
  userId : UserId
  kind : String
  sourceType : String
  sourceId : String
  payload : JsonObject
  status : EventStatus := .pending
  processedAt : Option Time := none
  errorCode : Option String := none
  errorMessage : Option String := none
  attemptCount : Nat := 0
  nextAttemptAt : Option Time := none
  deadLetteredAt : Option Time := none
deriving DecidableEq, Repr

/-- The unique constraint `uq_engagement_event_source`. -/
def EngagementEvent.hasSource (event : EngagementEvent) (userId : UserId)
    (kind sourceType sourceId : String) : Bool :=
  event.userId == userId && event.kind == kind && event.sourceType == sourceType &&
    event.sourceId == sourceId

/-- `record_engagement_event`; `eventId` is the identifier it draws. -/
def recordEngagementEvent (events : List EngagementEvent) (userId : UserId)
    (kind sourceType sourceId : String) (payload : JsonObject) (eventId : EventId) :
    Except Failure (List EngagementEvent × EngagementEvent) :=
  match events.find? (·.hasSource userId kind sourceType sourceId) with
  | some existing => .ok (events, existing)
  | none =>
    let event : EngagementEvent :=
      { id := eventId, userId := userId, kind := kind, sourceType := sourceType,
        sourceId := sourceId, payload := payload }
    if events.any (fun event' => event'.id == eventId) then
      .error (.integrity "engagement_events_pkey")
    else
      .ok (events ++ [event], event)

/-- A fresh identifier is never refused. -/
theorem recordEngagementEvent_fresh {events : List EngagementEvent} {eventId : EventId}
    (hfresh : ∀ event ∈ events, event.id ≠ eventId) (userId : UserId)
    (kind sourceType sourceId : String) (payload : JsonObject) :
    ∃ events' event,
      recordEngagementEvent events userId kind sourceType sourceId payload eventId =
        .ok (events', event) ∧
      ∀ event ∈ events', event ∈ events ∨ event.id = eventId := by
  unfold recordEngagementEvent
  split
  · exact ⟨events, _, rfl, fun event hevent => .inl hevent⟩
  · have hnew : events.any (fun event => event.id == eventId) = false := by
      simpa using hfresh
    simp only [hnew, Bool.false_eq_true, if_false]
    refine ⟨_, _, rfl, ?_⟩
    intro event hevent
    rcases List.mem_append.mp hevent with hold | hlast
    · exact .inl hold
    · exact .inr (by rw [List.mem_singleton.mp hlast])

/-- The event of a source is found, or recorded under a fresh identifier. -/
theorem recordEngagementEvent_cases {events events' : List EngagementEvent}
    {event : EngagementEvent} {userId : UserId} {kind sourceType sourceId : String}
    {payload : JsonObject} {eventId : EventId}
    (h : recordEngagementEvent events userId kind sourceType sourceId payload eventId =
      .ok (events', event)) :
    events.find? (·.hasSource userId kind sourceType sourceId) = some event ∧ events' = events ∨
    events.find? (·.hasSource userId kind sourceType sourceId) = none ∧
      (∀ event' ∈ events, event'.id ≠ eventId) ∧
      event = { id := eventId, userId := userId, kind := kind, sourceType := sourceType,
                sourceId := sourceId, payload := payload } ∧
      events' = events ++ [event] := by
  unfold recordEngagementEvent at h
  split at h
  · rename_i existing hfind
    obtain ⟨rfl, rfl⟩ := Prod.mk.inj (Except.ok.inj h)
    exact .inl ⟨hfind, rfl⟩
  · rename_i hnone
    dsimp only at h
    split at h
    · cases h
    · rename_i hfresh
      obtain ⟨rfl, rfl⟩ := Prod.mk.inj (Except.ok.inj h)
      exact .inr ⟨hnone, by simpa using hfresh, rfl, rfl⟩

/-- An event is only refused by the database. -/
theorem recordEngagementEvent_failsIn {P : Failure → Prop}
    (hP : ∀ constraint, P (.integrity constraint)) (events : List EngagementEvent)
    (userId : UserId) (kind sourceType sourceId : String) (payload : JsonObject)
    (eventId : EventId) :
    FailsIn P (recordEngagementEvent events userId kind sourceType sourceId payload eventId) := by
  unfold recordEngagementEvent
  split
  · exact .ok _
  · dsimp only
    split
    · exact .error (hP _)
    · exact .ok _

/-- The settings that `decide_retry` is called with. -/
structure RetrySettings where
  maxAttempts : Nat := 5
  baseDelaySeconds : Nat := 30
  maxDelaySeconds : Nat := 3600
deriving DecidableEq, Repr

/-- `RetryDecision`. -/
structure RetryDecision where
  status : EventStatus
  nextAttemptAt : Option Time
deriving DecidableEq, Repr

/-- `decide_retry`. -/
def decideRetry (settings : RetrySettings) (attemptCount : Nat) (now : Time) : RetryDecision :=
  if settings.maxAttempts ≤ attemptCount then ⟨.deadLetter, none⟩
  else
    let delay := min (settings.baseDelaySeconds * 2 ^ (attemptCount - 1)) settings.maxDelaySeconds
    ⟨.failed, some (now + delay * 1000000)⟩

theorem decideRetry_ne_processed (settings : RetrySettings) (attemptCount : Nat) (now : Time) :
    (decideRetry settings attemptCount now).status ≠ .processed := by
  unfold decideRetry
  split <;> simp

end Fanfolio
