import Fanfolio.FanEvents.Schema
import Fanfolio.Framework.Run

/-!
# The places of an event

Fans apply and admins draw at the same time. An application is counted in before it is inserted,
without a lock, and the count has only the applications that are still submitted.
-/

namespace Fanfolio

open Framework

/-- `applicationStatus` of `_fan_data`. -/
inductive ApplicationWindow where
  | applied
  | upcoming
  | closed
  | full
  | available
deriving DecidableEq, Repr

def EventApplication.isSubmitted (application : EventApplication) (eventId : EventId) : Bool :=
  application.eventId == eventId && application.status == .submitted

/-- The applications that the limit of the event is for. -/
def EventApplication.isLive (application : EventApplication) : Bool :=
  application.status == .submitted || application.status == .winner

/-- `_fan_data`, for `participantCount`, `applied` and `applicationStatus`. -/
def fanApplicationStatus (applications : List EventApplication) (event : Event) (userId : UserId)
    (now : Time) : ApplicationWindow :=
  let participantCount := applications.countP (·.isSubmitted event.id)
  let windowStart := event.applicationStartsAt.getD event.startsAt
  let windowEnd := event.applicationEndsAt.or event.endsAt
  if applications.any (fun row => row.isSubmitted event.id && row.userId == userId) then .applied
  else if now < windowStart then .upcoming
  else if windowEnd.any (· < now) then .closed
  else if event.participantLimit.any (fun limit => limit != 0 && limit ≤ participantCount) then .full
  else .available

/-- What a request is about to do: its count, its insert, or the update of its candidates. -/
inductive CapacityPhase where
  | checked (event : Event) (userId : UserId) (now : Time)
  | counted (eventId : EventId) (userId : UserId)
  | drawing (candidates : List ApplicationId) (winnerCount : Nat)
deriving DecidableEq, Repr

abbrev CapacityRequestId := Nat

structure CapacityRequest where
  id : CapacityRequestId
  phase : CapacityPhase
deriving DecidableEq, Repr

/-- The committed events and applications, and the requests that are under way. -/
structure EventPlaces where
  events : List Event
  applications : List EventApplication
  requests : List CapacityRequest
deriving DecidableEq, Repr

/-- A step of a request; `abort` is any failure before the commit. -/
inductive CapacityAction where
  /-- `apply_to_event`, up to its look for an application of the fan. -/
  | apply (requestId : CapacityRequestId) (eventId : EventId) (userId : UserId) (now : Time)
  | count (requestId : CapacityRequestId)
  | insert (requestId : CapacityRequestId) (applicationId : ApplicationId)
  /-- `admin_draw_event_winners`, up to its read of the candidates. -/
  | draw (requestId : CapacityRequestId) (context : AdminContext) (eventId : EventId)
      (winnerCount : Nat)
  | commitDraw (requestId : CapacityRequestId) (winners : List ApplicationId)
  | abort (requestId : CapacityRequestId)
deriving DecidableEq, Repr

namespace CapacityRequest

def isCounted (eventId : EventId) (request : CapacityRequest) : Bool :=
  match request.phase with
  | .counted eventId' _ => eventId' == eventId
  | _ => false

def candidates (request : CapacityRequest) : List ApplicationId :=
  match request.phase with
  | .drawing candidates _ => candidates
  | _ => []

end CapacityRequest

namespace EventPlaces

def phaseOf (s : EventPlaces) (requestId : CapacityRequestId) : Option CapacityPhase :=
  (s.requests.find? (·.id == requestId)).map (·.phase)

/-- The checks of `apply_to_event` on the event. -/
def findOpenEvent (s : EventPlaces) (eventId : EventId) (now : Time) : Option Event :=
  (s.events.find? (·.id == eventId)).filter fun event =>
    (event.workflowStatus == .scheduled || event.workflowStatus == .published) &&
      (publicEventStatus event.workflowStatus event.startsAt event.endsAt now).isSome

def begin (s : EventPlaces) (requestId : CapacityRequestId) (phase : CapacityPhase) : EventPlaces :=
  if requestId ∈ s.requests.map (·.id) then s
  else { s with requests := s.requests ++ [⟨requestId, phase⟩] }

def finish (s : EventPlaces) (requestId : CapacityRequestId) : EventPlaces :=
  { s with requests := s.requests.filter (·.id != requestId) }

def proceed (s : EventPlaces) (requestId : CapacityRequestId) (phase : CapacityPhase) :
    EventPlaces :=
  { s with requests := patch (·.id == requestId) ({ · with phase := phase }) s.requests }

/-- The status that `admin_draw_event_winners` gives a candidate. -/
def drawnStatus (winners : List ApplicationId) (applicationId : ApplicationId) :
    ApplicationStatus :=
  if applicationId ∈ winners then .winner else .notSelected

/-- `SystemRandom().sample(candidates, winner_count)` can be `winners`. -/
def IsSample (candidates winners : List ApplicationId) (winnerCount : Nat) : Prop :=
  winners.Nodup ∧ winners ⊆ candidates ∧ winners.length = min winnerCount candidates.length

instance (candidates winners : List ApplicationId) (winnerCount : Nat) :
    Decidable (IsSample candidates winners winnerCount) := inferInstanceAs (Decidable (_ ∧ _ ∧ _))

/-- One step of the requests. -/
def step (s : EventPlaces) : CapacityAction → EventPlaces
  | .apply requestId eventId userId now =>
    match s.findOpenEvent eventId now with
    | none => s
    | some event =>
      if s.applications.any (fun row => row.isSubmitted event.id && row.userId == userId) then s
      else s.begin requestId (.checked event userId now)
  | .count requestId =>
    match s.phaseOf requestId with
    | some (.checked event userId now) =>
      if fanApplicationStatus s.applications event userId now = .available then
        s.proceed requestId (.counted event.id userId)
      else s.finish requestId
    | _ => s
  | .insert requestId applicationId =>
    match s.phaseOf requestId with
    | some (.counted eventId userId) =>
      -- the primary key, and `uq_event_applications_event_user`
      if s.applications.any fun row => row.id == applicationId ||
          (row.eventId == eventId && row.userId == userId) then s.finish requestId
      else
        { s.finish requestId with
          applications := s.applications ++
            [{ id := applicationId, eventId := eventId, userId := userId }] }
    | _ => s
  | .draw requestId context eventId winnerCount =>
    match context.requireAction "events:write", loadEventInScope s.events context eventId with
    | .ok _, .ok event =>
      let candidates := (s.applications.filter (·.isSubmitted event.id)).map (·.id)
      if candidates = [] then s else s.begin requestId (.drawing candidates winnerCount)
    | _, _ => s
  | .commitDraw requestId winners =>
    match s.phaseOf requestId with
    | some (.drawing candidates winnerCount) =>
      if IsSample candidates winners winnerCount then
        { s.finish requestId with
          applications := patch (fun row => candidates.contains row.id)
            (fun row => { row with status := drawnStatus winners row.id }) s.applications }
      else s
    | _ => s
  | .abort requestId => s.finish requestId

/-- The applications of an event in status submitted or winner. -/
def liveCount (s : EventPlaces) (eventId : EventId) : Nat :=
  s.applications.countP fun row => row.eventId == eventId && row.isLive

/-- The limit of every event is kept. -/
def WithinLimits (s : EventPlaces) : Prop :=
  ∀ event ∈ s.events, ∀ limit ∈ event.participantLimit, s.liveCount event.id ≤ limit

/-- The application is live, or is one that a draw under way may make a winner. -/
def isPromised (s : EventPlaces) (row : EventApplication) : Bool :=
  row.isLive || s.requests.any fun request => request.candidates.contains row.id

/-- The places of an event that are taken, or that requests under way may still take. -/
def taken (s : EventPlaces) (eventId : EventId) : Nat :=
  s.applications.countP (fun row => row.eventId == eventId && s.isPromised row) +
    s.requests.countP (·.isCounted eventId)

/-- A request that counts itself in finds a place that is neither taken nor promised. -/
def FindsPlace (s : EventPlaces) : CapacityAction → Prop
  | .count requestId =>
    match s.phaseOf requestId with
    | some (.checked event userId now) =>
      fanApplicationStatus s.applications event userId now = .available →
        ∀ limit ∈ event.participantLimit, s.taken event.id < limit
    | _ => True
  | _ => True

instance (s : EventPlaces) : (a : CapacityAction) → Decidable (s.FindsPlace a)
  | .count requestId => by
    unfold FindsPlace
    dsimp only
    cases s.phaseOf requestId with
    | none => infer_instance
    | some phase => cases phase <;> infer_instance
  | .apply .. => isTrue trivial
  | .insert .. => isTrue trivial
  | .draw .. => isTrue trivial
  | .commitDraw .. => isTrue trivial
  | .abort _ => isTrue trivial

/-- No more places are promised than there are. -/
structure Sound (s : EventPlaces) : Prop where
  eventIds : (s.events.map (·.id)).Nodup
  applicationIds : (s.applications.map (·.id)).Nodup
  requestIds : (s.requests.map (·.id)).Nodup
  checkedEvents : ∀ request ∈ s.requests, ∀ event userId now,
    request.phase = .checked event userId now → event ∈ s.events
  room : ∀ event ∈ s.events, ∀ limit ∈ event.participantLimit, s.taken event.id ≤ limit

section

variable {s s' : EventPlaces} {requestId : CapacityRequestId} {phase : CapacityPhase}
  {eventId : EventId}

theorem phaseOf_mem (h : s.phaseOf requestId = some phase) :
    ∃ request ∈ s.requests, request.id = requestId ∧ request.phase = phase := by
  obtain ⟨request, hfind, hphase⟩ := Option.map_eq_some_iff.mp h
  obtain ⟨hmem, hid⟩ := mem_of_find_eq_some hfind
  exact ⟨request, hmem, hid, hphase⟩

theorem liveCount_le_taken (s : EventPlaces) (eventId : EventId) :
    s.liveCount eventId ≤ s.taken eventId := by
  refine le_trans ?_ (Nat.le_add_right _ _)
  apply List.countP_mono_left
  intro row _ hrow
  simp only [Bool.and_eq_true, isPromised] at hrow ⊢
  exact ⟨hrow.1, by rw [hrow.2, Bool.true_or]⟩

theorem Sound.withinLimits (h : s.Sound) : s.WithinLimits := by
  intro event hevent limit hlimit
  exact le_trans (s.liveCount_le_taken event.id) (h.room event hevent limit hlimit)

/-- Requests without candidates promise nothing. -/
theorem isPromised_of_requests {row : EventApplication}
    (h : ∀ request ∈ s'.requests, request ∈ s.requests ∨ request.candidates = [])
    (hrow : s'.isPromised row = true) : s.isPromised row = true := by
  simp only [isPromised, Bool.or_eq_true, List.any_eq_true] at hrow ⊢
  rcases hrow with hlive | ⟨request, hmem, hcandidate⟩
  · exact .inl hlive
  · rcases h request hmem with hold | hnone
    · exact .inr ⟨request, hold, hcandidate⟩
    · rw [hnone] at hcandidate
      cases hcandidate

theorem taken_le_of_requests (happlications : s'.applications = s.applications)
    (hrequests : ∀ request ∈ s'.requests, request ∈ s.requests ∨ request.candidates = []) :
    s'.taken eventId ≤ s.applications.countP (fun row => row.eventId == eventId && s.isPromised row) +
      s'.requests.countP (·.isCounted eventId) := by
  rw [taken, happlications]
  refine Nat.add_le_add_right (List.countP_mono_left ?_) _
  intro row _ hrow
  simp only [Bool.and_eq_true] at hrow ⊢
  exact ⟨hrow.1, isPromised_of_requests hrequests hrow.2⟩

theorem finish_requests (request : CapacityRequest)
    (h : request ∈ (s.finish requestId).requests) : request ∈ s.requests :=
  (List.mem_filter.mp h).1

theorem taken_finish_le : (s.finish requestId).taken eventId ≤ s.taken eventId :=
  le_trans (taken_le_of_requests (s := s) rfl fun request h => .inl (finish_requests request h))
    (Nat.add_le_add_left (List.filter_sublist.countP_le) _)

/-- A request that is over no longer counts. -/
theorem countP_finish {q : CapacityRequest → Bool} {request : CapacityRequest}
    (hmem : request ∈ s.requests) (hid : request.id = requestId) (hq : q request = true) :
    (s.finish requestId).requests.countP q + 1 ≤ s.requests.countP q := by
  rw [List.countP_eq_countP_filter_add s.requests q (·.id != requestId)]
  refine Nat.add_le_add_left ?_ _
  apply List.countP_pos_iff.mpr
  exact ⟨request, List.mem_filter.mpr ⟨hmem, by simp [hid]⟩, hq⟩

theorem Sound.finish (h : s.Sound) : (s.finish requestId).Sound where
  eventIds := h.eventIds
  applicationIds := h.applicationIds
  requestIds := nodup_delete _ h.requestIds
  checkedEvents request hmem := h.checkedEvents request (finish_requests request hmem)
  room event hevent limit hlimit := le_trans taken_finish_le (h.room event hevent limit hlimit)

theorem Sound.begin (h : s.Sound)
    (hevent : ∀ event userId now, phase = .checked event userId now → event ∈ s.events)
    (hcounted : ∀ eventId, CapacityRequest.isCounted eventId ⟨requestId, phase⟩ = false)
    (hcandidates : ∀ row ∈ s.applications,
      row.id ∈ CapacityRequest.candidates ⟨requestId, phase⟩ → row.isLive = true) :
    (s.begin requestId phase).Sound := by
  unfold EventPlaces.begin
  split
  · exact h
  · rename_i hfresh
    refine ⟨h.eventIds, h.applicationIds, ?_, ?_, ?_⟩
    · refine nodup_insert h.requestIds fun request hmem heq => ?_
      exact hfresh (List.mem_map.mpr ⟨request, hmem, heq⟩)
    · intro request hmem event userId now hphase
      rcases List.mem_append.mp hmem with hold | hnew
      · exact h.checkedEvents request hold event userId now hphase
      · rw [List.mem_singleton.mp hnew] at hphase
        exact hevent event userId now hphase
    · intro event hmem limit hlimit
      refine le_trans ?_ (h.room event hmem limit hlimit)
      refine Nat.add_le_add (List.countP_mono_left ?_) (le_of_eq ?_)
      · intro row hrow hpromised
        simp only [isPromised, List.any_append, List.any_cons, List.any_nil, Bool.or_false,
          Bool.and_eq_true, Bool.or_eq_true, List.contains_iff_mem] at hpromised ⊢
        refine ⟨hpromised.1, ?_⟩
        rcases hpromised.2 with hlive | hany | hcandidate
        · exact .inl hlive
        · exact .inr hany
        · exact .inl (hcandidates row hrow hcandidate)
      · simp [List.countP_append, hcounted]

/-- A request that has counted itself in takes one more place of its event. -/
theorem Sound.proceed (h : s.Sound) {event : Event} {userId : UserId} {now : Time}
    (hphase : s.phaseOf requestId = some (.checked event userId now))
    (hroom : ∀ limit ∈ event.participantLimit, s.taken event.id < limit) :
    (s.proceed requestId (.counted event.id userId)).Sound := by
  obtain ⟨request, hmem, -, hchecked⟩ := phaseOf_mem hphase
  have hevent := h.checkedEvents request hmem event userId now hchecked
  have hrequests : ∀ request ∈ (s.proceed requestId (.counted event.id userId)).requests,
      request ∈ s.requests ∨ request.candidates = [] := by
    intro request hrequest
    obtain ⟨old, hold, rfl⟩ := mem_patch.mp hrequest
    split
    · exact .inr rfl
    · exact .inl hold
  refine ⟨h.eventIds, h.applicationIds, ?_, ?_, ?_⟩
  · rw [EventPlaces.proceed, map_patch (by intro _; rfl)]
    exact h.requestIds
  · intro request hrequest event' userId' now' hphase'
    obtain ⟨old, hold, rfl⟩ := mem_patch.mp hrequest
    split at hphase'
    · cases hphase'
    · exact h.checkedEvents old hold event' userId' now' hphase'
  · intro event' hevent' limit hlimit
    refine le_trans (taken_le_of_requests (s := s) rfl hrequests) ?_
    by_cases hsame : event'.id = event.id
    · obtain rfl := eq_of_unique h.eventIds hevent' hevent hsame
      have hone : (s.proceed requestId (.counted event'.id userId)).requests.countP
          (·.isCounted event'.id) ≤ s.requests.countP (·.isCounted event'.id) + 1 :=
        countP_patch_one h.requestIds requestId
      have htaken := hroom limit hlimit
      rw [taken] at htaken
      omega
    · have hnone : (s.proceed requestId (.counted event.id userId)).requests.countP
          (·.isCounted event'.id) ≤ s.requests.countP (·.isCounted event'.id) := by
        apply countP_patch_le
        intro request hcounted
        simp [CapacityRequest.isCounted, Ne.symm hsame] at hcounted
      have htaken := h.room event' hevent' limit hlimit
      rw [taken] at htaken
      omega

/-- The insert of an application uses the place that its request has counted. -/
theorem Sound.insert (h : s.Sound) {userId : UserId} {applicationId : ApplicationId}
    (hphase : s.phaseOf requestId = some (.counted eventId userId))
    (hfresh : ∀ row ∈ s.applications, row.id ≠ applicationId) :
    Sound { s.finish requestId with
      applications := s.applications ++
        [{ id := applicationId, eventId := eventId, userId := userId }] } := by
  obtain ⟨request, hmem, hid, hcounted⟩ := phaseOf_mem hphase
  refine ⟨h.eventIds, nodup_insert h.applicationIds hfresh, h.finish.requestIds,
    h.finish.checkedEvents, ?_⟩
  intro event hevent limit hlimit
  refine le_trans ?_ (h.room event hevent limit hlimit)
  have hrows : s.applications.countP (fun row => row.eventId == event.id &&
      (s.finish requestId).isPromised row) ≤
      s.applications.countP (fun row => row.eventId == event.id && s.isPromised row) := by
    apply List.countP_mono_left
    intro row _ hrow
    simp only [Bool.and_eq_true] at hrow ⊢
    exact ⟨hrow.1, isPromised_of_requests
      (fun request hrequest => .inl (finish_requests request hrequest)) hrow.2⟩
  have hpromised : ∀ row, isPromised { s.finish requestId with
      applications := s.applications ++
        [{ id := applicationId, eventId := eventId, userId := userId }] } row =
      (s.finish requestId).isPromised row := fun _ => rfl
  simp only [taken, hpromised, List.countP_append, List.countP_cons, List.countP_nil]
  by_cases hsame : eventId = event.id
  · have hplace : (s.finish requestId).requests.countP (·.isCounted event.id) + 1 ≤
        s.requests.countP (·.isCounted event.id) :=
      countP_finish hmem hid (by simp [CapacityRequest.isCounted, hcounted, hsame])
    split <;> omega
  · have hfewer : (s.finish requestId).requests.countP (·.isCounted event.id) ≤
        s.requests.countP (·.isCounted event.id) := List.filter_sublist.countP_le
    simp only [beq_iff_eq, hsame, Bool.and_eq_true, false_and, if_false]
    omega

/-- The winners of a draw were promised a place. -/
theorem Sound.commitDraw (h : s.Sound) {candidates winners : List ApplicationId}
    {winnerCount : Nat} (hphase : s.phaseOf requestId = some (.drawing candidates winnerCount)) :
    Sound { s.finish requestId with
      applications := patch (fun row => candidates.contains row.id)
        (fun row => { row with status := drawnStatus winners row.id }) s.applications } := by
  obtain ⟨request, hmem, -, hdrawing⟩ := phaseOf_mem hphase
  have hcandidates : request.candidates = candidates := by
    simp [CapacityRequest.candidates, hdrawing]
  refine ⟨h.eventIds, ?_, h.finish.requestIds, h.finish.checkedEvents, ?_⟩
  · show (List.map _ (patch _ _ s.applications)).Nodup
    rw [map_patch (by intro _; rfl)]
    exact h.applicationIds
  · intro event hevent limit hlimit
    refine le_trans ?_ (h.room event hevent limit hlimit)
    refine Nat.add_le_add ?_ List.filter_sublist.countP_le
    rw [patch, List.countP_map]
    apply List.countP_mono_left
    intro row _ hrow
    simp only [Function.comp_apply] at hrow
    by_cases hcandidate : candidates.contains row.id = true
    · simp only [hcandidate, if_true, Bool.and_eq_true] at hrow ⊢
      refine ⟨hrow.1, ?_⟩
      rw [isPromised, Bool.or_eq_true, List.any_eq_true]
      exact .inr ⟨request, hmem, by rw [hcandidates]; exact hcandidate⟩
    · simp only [hcandidate, Bool.false_eq_true, if_false, Bool.and_eq_true] at hrow ⊢
      exact ⟨hrow.1, isPromised_of_requests
        (fun request hrequest => .inl (finish_requests request hrequest)) hrow.2⟩

theorem Sound.step (h : s.Sound) (a : CapacityAction) (hplace : s.FindsPlace a) :
    (s.step a).Sound := by
  cases a with
  | apply requestId eventId userId now =>
    simp only [EventPlaces.step]
    split
    · exact h
    · rename_i event hopen
      split
      · exact h
      · refine h.begin ?_ (fun _ => rfl) (fun _ _ hcandidate => absurd hcandidate List.not_mem_nil)
        rintro event' userId' now' hphase
        cases hphase
        exact List.mem_of_find?_eq_some (Option.filter_eq_some_iff.mp hopen).1
  | count requestId =>
    simp only [EventPlaces.step]
    split
    · rename_i event userId now hphase
      split
      · rename_i havailable
        simp only [FindsPlace, hphase] at hplace
        exact h.proceed hphase (hplace havailable)
      · exact h.finish
    · exact h
  | insert requestId applicationId =>
    simp only [EventPlaces.step]
    split
    · rename_i eventId userId hphase
      split
      · exact h.finish
      · rename_i hfree
        refine h.insert hphase ?_
        intro row hrow hid
        exact hfree (List.any_eq_true.mpr ⟨row, hrow, by simp [hid]⟩)
    · exact h
  | draw requestId context eventId winnerCount =>
    simp only [EventPlaces.step]
    split
    · rename_i event _ _
      split
      · exact h
      · refine h.begin (by intro _ _ _ hphase; cases hphase) (fun _ => rfl) ?_
        intro row hrow hcandidate
        obtain ⟨row', hrow', hid⟩ := List.mem_map.mp hcandidate
        obtain ⟨hmem, hsubmitted⟩ := List.mem_filter.mp hrow'
        obtain rfl := eq_of_unique h.applicationIds hrow hmem hid.symm
        simp only [EventApplication.isSubmitted, Bool.and_eq_true] at hsubmitted
        rw [EventApplication.isLive, hsubmitted.2, Bool.true_or]
    · exact h
  | commitDraw requestId winners =>
    simp only [EventPlaces.step]
    split
    · rename_i candidates winnerCount hphase
      split
      · exact h.commitDraw hphase
      · exact h
    · exact h
  | abort requestId => exact h.finish

/-- Events and applications under their keys, no request under way, and no limit exceeded. -/
structure Fresh (s : EventPlaces) : Prop where
  eventIds : (s.events.map (·.id)).Nodup
  applicationIds : (s.applications.map (·.id)).Nodup
  requests : s.requests = []
  within : s.WithinLimits

theorem Fresh.sound (h : s.Fresh) : s.Sound := by
  refine ⟨h.eventIds, h.applicationIds, by simp [h.requests], by simp [h.requests], ?_⟩
  intro event hevent limit hlimit
  have hlive : s.taken event.id = s.liveCount event.id := by
    simp [taken, liveCount, isPromised, h.requests]
  rw [hlive]
  exact h.within event hevent limit hlimit

theorem withinLimits_run (h : s.Fresh) {acts : List CapacityAction}
    (hplaces : Always step FindsPlace s acts) : Throughout step WithinLimits s acts :=
  (hplaces.throughout h.sound fun _ a hs hplace => hs.step a hplace).imp fun _ => Sound.withinLimits

end

instance (s : EventPlaces) : Decidable s.WithinLimits :=
  inferInstanceAs (Decidable (∀ event ∈ s.events, ∀ limit ∈ event.participantLimit, _))

/-- An event for one fan. -/
def oneSeat : EventPlaces where
  events := [{ id := "e1", title := "Meet", heroAssetId := "banner", startsAt := 0,
               workflowStatus := .published, participantLimit := some 1, createdBy := "root" }]
  applications := []
  requests := []

theorem oneSeat_fresh : oneSeat.Fresh := ⟨by decide, by decide, rfl, by decide⟩

/-- A fan applies and wins the draw, and then another fan applies. -/
def afterDraw : List CapacityAction :=
  [.apply 1 "e1" "ada" 1, .count 1, .insert 1 "a1", .draw 2 rootContext "e1" 1,
    .commitDraw 2 ["a1"], .apply 3 "e1" "max" 2, .count 3, .insert 3 "a2"]

theorem withinLimits_fails : oneSeat.Fresh ∧ ¬Throughout step WithinLimits oneSeat afterDraw :=
  ⟨oneSeat_fresh, fun h => absurd h.last (by decide)⟩

/-- Two fans apply one after the other; the second finds the event full. -/
def inTurn : List CapacityAction :=
  [.apply 1 "e1" "ada" 1, .count 1, .insert 1 "a1", .apply 3 "e1" "max" 2, .count 3,
    .insert 3 "a2", .draw 2 rootContext "e1" 1, .commitDraw 2 ["a1"]]

theorem withinLimits_run_inTurn : (oneSeat.Fresh ∧ Always step FindsPlace oneSeat inTurn) ∧
    Throughout step WithinLimits oneSeat inTurn ∧
    (run step oneSeat inTurn).liveCount "e1" = 1 :=
  ⟨⟨oneSeat_fresh, by decide⟩, withinLimits_run oneSeat_fresh (by decide), by decide⟩

end EventPlaces

end Fanfolio
