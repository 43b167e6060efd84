import Fanfolio.Growth.Schema
import Fanfolio.Partners.Access

/-!
# Managed fan events

The rows of events, of the cards shown with them and of the applications of fans.
-/

namespace Fanfolio

open Framework

abbrev ApplicationId := String

inductive EventType where
  | announcement
  | comment
  | cardDrop
  | card
  | fanMission
  | external
deriving DecidableEq, Repr

inductive EventWorkflowStatus where
  | draft
  | pendingReview
  | changesRequested
  | approved
  | scheduled
  | published
  | ended
deriving DecidableEq, Repr

def EventWorkflowStatus.text : EventWorkflowStatus → String
  | .draft => "draft"
  | .pendingReview => "pending_review"
  | .changesRequested => "changes_requested"
  | .approved => "approved"
  | .scheduled => "scheduled"
  | .published => "published"
  | .ended => "ended"

/-- The columns of an event that every edit replaces. -/
structure EventContent where
  title : String
  summary : String := ""
  description : String := ""
  noticeItems : List String := []
  heroAssetId : String
  eventType : EventType := .announcement
  startsAt : Time
  endsAt : Option Time := none
  venue : Option String := none
  participantLimit : Option Nat := none
  applicationStartsAt : Option Time := none
  applicationEndsAt : Option Time := none
  featured : Bool := false
  ctaLabel : Option String := none
  dropId : Option DropId := none
  cardId : Option CardId := none
  achievementId : Option AchievementId := none
  externalUrl : Option String := none
deriving DecidableEq, Repr

/-- A row of `events`. -/
structure Event extends EventContent where
  id : EventId
  organizationId : Option OrganizationId := none
  artistId : Option ArtistId := none
  workflowStatus : EventWorkflowStatus := .draft
  priority : Nat := 0
  reviewNote : Option String := none
  createdBy : UserId
  reviewedBy : Option UserId := none
  publishedAt : Option Time := none
deriving DecidableEq, Repr

structure EventRelatedCard where
  eventId : EventId
  cardId : CardId
  position : Nat
deriving DecidableEq, Repr

inductive ApplicationStatus where
  | submitted
  | winner
  | notSelected
deriving DecidableEq, Repr

/-- A row of `event_applications`. -/
structure EventApplication where
  id : ApplicationId
  eventId : EventId
  userId : UserId
  status : ApplicationStatus := .submitted
  checkInTokenHash : Option String := none
  checkedInAt : Option Time := none
  checkedInBy : Option UserId := none
deriving DecidableEq, Repr

inductive PublicEventStatus where
  | upcoming
  | active
  | ended
deriving DecidableEq, Repr

/-- `public_event_status`. -/
def publicEventStatus (workflowStatus : EventWorkflowStatus) (startsAt : Time)
    (endsAt : Option Time) (now : Time) : Option PublicEventStatus :=
  if workflowStatus = .ended ∨ endsAt.any (· ≤ now) then some .ended
  else if workflowStatus = .scheduled ∨ workflowStatus = .published then
    if startsAt ≤ now then some .active else some .upcoming
  else none

/-- `event_in_scope`. -/
def eventInScope (context : AdminContext) (event : Event) : Bool :=
  if context.isRoot || context.isPlatformOperator then true
  else match context.organization with
    | none => false
    | some organization =>
      event.organizationId == some organization.id &&
        (context.membership.accessLevel == .partner .companyAdmin ||
          event.artistId.any (· ∈ context.assignedArtistIds))

/-- `EVENT_NOT_FOUND`. -/
def eventNotFound : Failure := .app ⟨404, "EVENT_NOT_FOUND", "이벤트를 찾을 수 없습니다."⟩

/-- The event of an admin request: an event that is there and in the scope of the admin. -/
def loadEventInScope (events : List Event) (context : AdminContext) (eventId : EventId) :
    Except Failure Event :=
  orFail ((events.find? (·.id == eventId)).filter (eventInScope context)) eventNotFound

theorem loadEventInScope_ok {events : List Event} {context : AdminContext} {eventId : EventId}
    {event : Event} (h : loadEventInScope events context eventId = .ok event) :
    event ∈ events ∧ event.id = eventId := by
  rw [loadEventInScope, orFail_ok] at h
  exact mem_of_find_eq_some (Option.filter_eq_some_iff.mp h).1

end Fanfolio
