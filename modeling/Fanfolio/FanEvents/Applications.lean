import Fanfolio.FanEvents.Capacity

/-!
# One application of a fan

A fan has at most one application to an event, whatever its status. The look for it only sees those
that are submitted, and the insert of a second one fails before the request can catch the failure:
the first query after it writes the row.
-/

namespace Fanfolio

open Framework

namespace EventApplication

/-- The application is the one of a fan to an event. -/
def isOf (application : EventApplication) (eventId : EventId) (userId : UserId) : Bool :=
  application.eventId == eventId && application.userId == userId

def key (application : EventApplication) : EventId × UserId :=
  (application.eventId, application.userId)

theorem isOf_iff {application : EventApplication} {eventId : EventId} {userId : UserId} :
    application.isOf eventId userId = true ↔ application.key = (eventId, userId) := by
  simp [isOf, key]

end EventApplication

/-- `EVENT_APPLICATION_UNAVAILABLE`. -/
def eventApplicationUnavailable : Failure :=
  .app ⟨409, "EVENT_APPLICATION_UNAVAILABLE", "현재 신청할 수 없는 이벤트입니다."⟩

/-- What `apply_to_event` returns or raises, for a fan and an event. -/
structure ApplyAnswer where
  eventId : EventId
  userId : UserId
  result : Except Failure EventApplication

namespace EventPlaces

variable (s : EventPlaces)

/-- The application cannot be inserted: its identifier is taken, or the fan has one. -/
def conflicts (applicationId : ApplicationId) (eventId : EventId) (userId : UserId) : Bool :=
  s.applications.any fun row => row.id == applicationId || row.isOf eventId userId

/-- The answer of an apply that a step ends. -/
def answer : CapacityAction → Option ApplyAnswer
  | .apply _ eventId userId now =>
    match s.findOpenEvent eventId now with
    | none => some ⟨eventId, userId, .error eventNotFound⟩
    | some event =>
      (s.applications.find? fun row => row.isSubmitted event.id && row.userId == userId).map
        fun existing => ⟨eventId, userId, .ok existing⟩
  | .count requestId =>
    match s.phaseOf requestId with
    | some (.checked event userId now) =>
      if fanApplicationStatus s.applications event userId now = .available then none
      else some ⟨event.id, userId, .error eventApplicationUnavailable⟩
    | _ => none
  | .insert requestId applicationId =>
    match s.phaseOf requestId with
    | some (.counted eventId userId) =>
      -- the first query of `record_engagement_event` flushes the row, outside of the `try`
      some ⟨eventId, userId,
        if s.conflicts applicationId eventId userId then
          .error (.integrity "uq_event_applications_event_user")
        else .ok { id := applicationId, eventId := eventId, userId := userId }⟩
    | _ => none
  | _ => none

/-- An apply that a step ends returns the one application of the fan, or raises an `AppError`. -/
def Answers (a : CapacityAction) : Prop :=
  ∀ answer ∈ s.answer a,
    (∀ row, answer.result = .ok row →
      (s.step a).applications.filter (·.isOf answer.eventId answer.userId) = [row]) ∧
    ∀ failure, answer.result = .error failure → failure.isRefusal = true

/-- A fan has at most one application to an event. -/
def OnePerFan : Prop := (s.applications.map (·.key)).Nodup

instance : Decidable s.OnePerFan := inferInstanceAs (Decidable (List.Nodup _))

/-- An insert finds no application under its identifier, and none of the fan to the event. -/
def FindsNone : CapacityAction → Prop
  | .insert requestId applicationId =>
    match s.phaseOf requestId with
    | some (.counted eventId userId) => s.conflicts applicationId eventId userId = false
    | _ => True
  | _ => True

variable {s}

theorem findOpenEvent_id {eventId : EventId} {now : Time} {event : Event}
    (h : s.findOpenEvent eventId now = some event) : event.id = eventId :=
  (mem_of_find_eq_some (Option.filter_eq_some_iff.mp h).1).2

@[simp] theorem begin_applications (s : EventPlaces) (requestId : CapacityRequestId)
    (phase : CapacityPhase) : (s.begin requestId phase).applications = s.applications := by
  unfold EventPlaces.begin
  split <;> rfl

@[simp] theorem finish_applications (s : EventPlaces) (requestId : CapacityRequestId) :
    (s.finish requestId).applications = s.applications := rfl

@[simp] theorem proceed_applications (s : EventPlaces) (requestId : CapacityRequestId)
    (phase : CapacityPhase) : (s.proceed requestId phase).applications = s.applications := rfl

theorem step_apply_applications (s : EventPlaces) (requestId : CapacityRequestId)
    (eventId : EventId) (userId : UserId) (now : Time) :
    (s.step (.apply requestId eventId userId now)).applications = s.applications := by
  simp only [step]
  split
  · rfl
  · split
    · rfl
    · exact begin_applications s requestId _

theorem step_insert_applications {requestId : CapacityRequestId} {applicationId : ApplicationId}
    {eventId : EventId} {userId : UserId}
    (hphase : s.phaseOf requestId = some (.counted eventId userId)) :
    (s.step (.insert requestId applicationId)).applications =
      if s.conflicts applicationId eventId userId then s.applications
      else s.applications ++ [{ id := applicationId, eventId := eventId, userId := userId }] := by
  have hstep : s.step (.insert requestId applicationId) =
      if s.conflicts applicationId eventId userId then s.finish requestId
      else { s.finish requestId with
             applications := s.applications ++
               [{ id := applicationId, eventId := eventId, userId := userId }] } := by
    simp only [step, hphase]
    rfl
  rw [hstep]
  split <;> rfl

/-- What a step does to the applications. -/
theorem step_applications (s : EventPlaces) (a : CapacityAction) :
    (s.step a).applications = s.applications ∨
    (∃ requestId applicationId eventId userId, a = .insert requestId applicationId ∧
      s.phaseOf requestId = some (.counted eventId userId) ∧
      s.conflicts applicationId eventId userId = false ∧
      (s.step a).applications = s.applications ++
        [{ id := applicationId, eventId := eventId, userId := userId }]) ∨
    ∃ candidates : List ApplicationId, ∃ winners, (s.step a).applications =
      patch (fun row => candidates.contains row.id)
        (fun row => { row with status := drawnStatus winners row.id }) s.applications := by
  cases a with
  | apply requestId eventId userId now =>
    exact .inl (step_apply_applications s requestId eventId userId now)
  | count requestId =>
    refine .inl ?_
    simp only [step]
    split
    · split <;> rfl
    · rfl
  | insert requestId applicationId =>
    cases hphase : s.phaseOf requestId with
    | none => exact .inl (by simp only [step, hphase])
    | some phase =>
      cases phase with
      | counted eventId userId =>
        rw [step_insert_applications hphase]
        split
        · exact .inl rfl
        · rename_i hfree
          exact .inr (.inl ⟨requestId, applicationId, eventId, userId, rfl, hphase,
            Bool.eq_false_iff.mpr hfree, rfl⟩)
      | checked event userId now => exact .inl (by simp only [step, hphase])
      | drawing candidates winnerCount => exact .inl (by simp only [step, hphase])
  | draw requestId context eventId winnerCount =>
    refine .inl ?_
    simp only [step]
    split
    · split
      · rfl
      · exact begin_applications s requestId _
    · rfl
  | commitDraw requestId winners =>
    simp only [step]
    split
    · rename_i candidates winnerCount _
      split
      · exact .inr (.inr ⟨candidates, winners, rfl⟩)
      · exact .inl rfl
    · exact .inl rfl
  | abort requestId => exact .inl rfl

theorem OnePerFan.step (h : s.OnePerFan) (a : CapacityAction) : (s.step a).OnePerFan := by
  rcases step_applications s a with hsame |
    ⟨requestId, applicationId, eventId, userId, -, -, hfree, hinsert⟩ | ⟨candidates, winners, hdraw⟩
  · rwa [OnePerFan, hsame]
  · rw [OnePerFan, hinsert]
    refine nodup_insert h fun row hrow hkey => ?_
    have hother := List.any_eq_false.mp hfree row hrow
    exact hother (by simp [EventApplication.isOf_iff.mpr hkey])
  · rw [OnePerFan, hdraw, map_patch (by intro _; rfl)]
    exact h

/-- The application that is found is the only one of the fan. -/
theorem OnePerFan.filter_eq (h : s.OnePerFan) {row : EventApplication} {eventId : EventId}
    {userId : UserId} (hrow : row ∈ s.applications) (hof : row.isOf eventId userId = true) :
    s.applications.filter (·.isOf eventId userId) = [row] := by
  rw [← filter_of_mem h hrow]
  refine List.filter_congr fun other _ => ?_
  rw [Bool.eq_iff_iff, EventApplication.isOf_iff, beq_iff_eq, EventApplication.isOf_iff.mp hof]

theorem OnePerFan.apply_answers (h : s.OnePerFan) (requestId : CapacityRequestId)
    (eventId : EventId) (userId : UserId) (now : Time) :
    s.Answers (.apply requestId eventId userId now) := by
  intro answer hanswer
  rw [step_apply_applications]
  simp only [EventPlaces.answer] at hanswer
  split at hanswer
  · obtain rfl := Option.some.inj hanswer
    exact ⟨by simp, by rintro _ ⟨⟩; rfl⟩
  · rename_i event hopen
    obtain ⟨existing, hfound, rfl⟩ := Option.map_eq_some_iff.mp hanswer
    refine ⟨?_, by simp⟩
    rintro _ ⟨⟩
    have hsubmitted := List.find?_some hfound
    simp only [EventApplication.isSubmitted, findOpenEvent_id hopen, Bool.and_eq_true] at hsubmitted
    exact h.filter_eq (List.mem_of_find?_eq_some hfound)
      (by rw [EventApplication.isOf, hsubmitted.1.1, hsubmitted.2, Bool.and_self])

theorem insert_answers_iff {requestId : CapacityRequestId} {applicationId : ApplicationId}
    {eventId : EventId} {userId : UserId}
    (hphase : s.phaseOf requestId = some (.counted eventId userId)) :
    s.Answers (.insert requestId applicationId) ↔
      s.conflicts applicationId eventId userId = false := by
  simp only [Answers, EventPlaces.answer, hphase, Option.mem_def, Option.some.injEq,
    forall_eq', step_insert_applications hphase]
  cases hconflicts : s.conflicts applicationId eventId userId with
  | true =>
    simp only [if_true, reduceCtorEq, false_implies, implies_true, true_and, iff_false]
    intro hrefusal
    exact absurd (hrefusal _ rfl) (by simp [Failure.isRefusal])
  | false =>
    simp only [Bool.false_eq_true, if_false, iff_true]
    refine ⟨?_, by simp⟩
    rintro _ ⟨⟩
    have hnone : s.applications.filter (·.isOf eventId userId) = [] := by
      refine List.filter_eq_nil_iff.mpr fun row hrow hof => ?_
      exact List.any_eq_false.mp hconflicts row hrow (by simp [hof])
    rw [List.filter_append, hnone]
    simp [EventApplication.isOf]

/-- Where each fan has at most one application, only an insert that finds one goes wrong. -/
theorem OnePerFan.answers_iff (h : s.OnePerFan) (a : CapacityAction) :
    s.Answers a ↔ s.FindsNone a := by
  cases a with
  | apply requestId eventId userId now =>
    exact iff_of_true (h.apply_answers requestId eventId userId now) trivial
  | count requestId =>
    refine iff_of_true ?_ trivial
    intro answer hanswer
    simp only [EventPlaces.answer] at hanswer
    split at hanswer
    · split at hanswer
      · cases hanswer
      · obtain rfl := Option.some.inj hanswer
        exact ⟨by simp, by rintro _ ⟨⟩; rfl⟩
    · cases hanswer
  | insert requestId applicationId =>
    cases hphase : s.phaseOf requestId with
    | none => simp [Answers, EventPlaces.answer, FindsNone, hphase]
    | some phase =>
      cases phase with
      | counted eventId userId =>
        simp only [FindsNone, hphase]
        exact insert_answers_iff hphase
      | checked event userId now => simp [Answers, EventPlaces.answer, FindsNone, hphase]
      | drawing candidates winnerCount => simp [Answers, EventPlaces.answer, FindsNone, hphase]
  | draw requestId context eventId winnerCount =>
    exact iff_of_true (by simp [Answers, EventPlaces.answer]) trivial
  | commitDraw requestId winners =>
    exact iff_of_true (by simp [Answers, EventPlaces.answer]) trivial
  | abort requestId => exact iff_of_true (by simp [Answers, EventPlaces.answer]) trivial

/-- A fan wins the draw, and then applies once more. -/
def winnerApplies : List CapacityAction :=
  [.apply 1 "e1" "ada" 1, .count 1, .insert 1 "a1", .draw 2 rootContext "e1" 1,
    .commitDraw 2 ["a1"], .apply 3 "e1" "ada" 2, .count 3]

end EventPlaces

end Fanfolio
