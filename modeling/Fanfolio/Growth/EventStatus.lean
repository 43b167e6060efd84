import Fanfolio.Framework.RowLock
import Fanfolio.Growth.Processing

/-!
# Workers on one event

An attempt holds the row of the event from its first read to its commit or rollback. After a
rollback the row is free, and the worker locks it once more to book the failure.
-/

namespace Fanfolio

open Framework

/-- What a worker is about. -/
inductive WorkPhase where
  | idle
  | attempting (event : EngagementEvent)
  | failed (attemptCount : Nat) (exception : Failure)
deriving DecidableEq, Repr

/-- A step of a worker on the event. -/
inductive WorkAction where
  /-- A redelivery or a scheduled retry enters `process_engagement_event`. -/
  | start (worker : Nat)
  | work (worker : Nat) (readings : CardReadings) (draws : AttemptDraws)
  /-- The attempt fails for a reason outside of the tables, and is rolled back. -/
  | crash (worker : Nat) (exception : Failure)
  /-- The second transaction, in which `text` is the text of the exception. -/
  | book (worker : Nat) (now : Time) (text : String)
  /-- The worker dies, and with it its open transaction. -/
  | kill (worker : Nat)

/-- The committed tables, the lock on the row of the event and the workers. -/
abbrev EventWork := Locked Nat GrowthDb WorkPhase

def EventStatus.isFinal (status : EventStatus) : Prop := status = .processed ∨ status = .deadLetter

instance (status : EventStatus) : Decidable status.isFinal :=
  inferInstanceAs (Decidable (_ ∨ _))

/-- The error code and message that a failure leaves on the row. -/
def Failure.booked (exception : Failure) (text : String) : String × String :=
  match exception with
  | .app e => (e.code, String.ofList (e.message.toList.take 500))
  | .integrity _ => ("IntegrityError", String.ofList (text.toList.take 500))
  | .unhandled name => (name, String.ofList (text.toList.take 500))

/-- The columns that the failure path of `process_engagement_event` writes. -/
def EngagementEvent.bookFailure (event : EngagementEvent) (settings : RetrySettings)
    (attemptCount : Nat) (exception : Failure) (now : Time) (text : String) : EngagementEvent :=
  let decision := decideRetry settings attemptCount now
  { event with
    status := decision.status
    nextAttemptAt := decision.nextAttemptAt
    deadLetteredAt := if decision.status = .deadLetter then some now else none
    attemptCount := attemptCount
    errorCode := some (exception.booked text).1
    errorMessage := some (exception.booked text).2 }

section

variable (settings : RetrySettings) (eventId : EventId)

/-- One step of a worker; a step that waits for the lock leaves the state as it is. -/
def workStep (s : EventWork) : WorkAction → EventWork
  | .start worker =>
    if s.lock = none ∧ s.phase worker = .idle then
      match s.committed.findEvent eventId with
      | some event => if event.status.isFinal then s else s.acquire worker (.attempting event)
      | none => s
    else s
  | .work worker readings draws =>
    match s.phase worker with
    | .attempting event =>
      match attemptEvent s.committed event readings draws with
      | .ok db => s.release worker db .idle
      | .error exception => s.release worker s.committed (.failed (event.attemptCount + 1) exception)
    | _ => s
  | .crash worker exception =>
    match s.phase worker with
    | .attempting event =>
      s.release worker s.committed (.failed (event.attemptCount + 1) exception)
    | _ => s
  | .book worker now text =>
    match s.phase worker with
    | .failed attemptCount exception =>
      if s.lock = none then
        s.release worker (s.committed.patchEvent eventId
          (·.bookFailure settings attemptCount exception now text)) .idle
      else s
    | _ => s
  | .kill worker =>
    if s.lock = some worker then s.release worker s.committed .idle else s.move worker .idle

/-- No worker is about the event. -/
def workStart (db : GrowthDb) : EventWork := ⟨db, none, fun _ => .idle⟩

def eventStatus (s : EventWork) : Option EventStatus :=
  (s.committed.findEvent eventId).map (·.status)

/-- What a worker knows while it holds the lock. -/
def workKnows : WorkPhase → Option (GrowthDb → Prop)
  | .attempting event =>
    some fun db => db.findEvent eventId = some event ∧ ¬event.status.isFinal
  | _ => none

/-- The step leaves the status alone once it is final. -/
def EventFinal (s : EventWork) (a : WorkAction) : Prop :=
  ∀ status ∈ eventStatus eventId s, status.isFinal →
    eventStatus eventId (workStep settings eventId s a) = some status

/-- A failure is booked on an event that is not final, or with the status it has. -/
def BooksUnfinished (s : EventWork) : WorkAction → Prop
  | .book worker now _ => s.lock = none → ∀ attemptCount exception,
    s.phase worker = .failed attemptCount exception →
    ∀ status ∈ eventStatus eventId s, status.isFinal →
      (decideRetry settings attemptCount now).status = status
  | _ => True

/-- The values of the missions are raised by at most one, and every rule is granted once. -/
structure CountedOnce (db₀ : GrowthDb) (s : EventWork) : Prop where
  missions : ∀ key, s.committed.missionValue key ≤ db₀.missionValue key + 1
  xp : (s.committed.xpEntries.map Prod.fst).Nodup
  points : (s.committed.pointEntries.map Prod.fst).Nodup

end

section

variable {settings : RetrySettings} {eventId : EventId} {s : EventWork}

theorem findEvent_some {db : GrowthDb} {event : EngagementEvent}
    (h : db.findEvent eventId = some event) : event.id = eventId := by
  simpa using List.find?_some (p := fun row : EngagementEvent => row.id == eventId) h

theorem workKnows_step (settings : RetrySettings) (h : s.Knows (workKnows eventId))
    (a : WorkAction) :
    (workStep settings eventId s a).Knows (workKnows eventId) := by
  cases a with
  | start worker =>
    simp only [workStep]
    split
    · rename_i hfree
      split
      · rename_i event hfind
        split
        · exact h
        · rename_i hopen
          refine h.acquire hfree.1 ?_
          rintro fact ⟨⟩
          exact ⟨hfind, hopen⟩
      · exact h
    · exact h
  | work worker readings draws =>
    simp only [workStep]
    split
    · rename_i event hphase
      split <;> exact h.release_of_knows (by rw [hphase]; rfl) _ rfl
    · exact h
  | crash worker exception =>
    simp only [workStep]
    split
    · rename_i event hphase
      exact h.release_of_knows (by rw [hphase]; rfl) _ rfl
    · exact h
  | book worker now text =>
    simp only [workStep]
    split
    · split
      · rename_i hfree
        exact h.release (by simp [hfree]) _ rfl
      · exact h
    · exact h
  | kill worker =>
    simp only [workStep]
    split
    · rename_i hmine
      refine h.release ?_ _ rfl
      intro w' hlock
      exact Option.some.inj (hlock.symm.trans hmine)
    · exact h.move rfl

/-- What a step does to the tables: nothing, one successful attempt, or one failure booked. -/
theorem workStep_committed (settings : RetrySettings) (h : s.Knows (workKnows eventId))
    (a : WorkAction) :
    (workStep settings eventId s a).committed = s.committed ∨
    (∃ event readings draws, s.committed.findEvent eventId = some event ∧ ¬event.status.isFinal ∧
      attemptEvent s.committed event readings draws =
        .ok (workStep settings eventId s a).committed) ∨
    ∃ worker now text attemptCount exception, a = .book worker now text ∧ s.lock = none ∧
      s.phase worker = .failed attemptCount exception ∧
      (workStep settings eventId s a).committed = s.committed.patchEvent eventId
        (·.bookFailure settings attemptCount exception now text) := by
  cases a with
  | start worker =>
    refine .inl ?_
    simp only [workStep]
    split
    · split
      · split <;> rfl
      · rfl
    · rfl
  | work worker readings draws =>
    simp only [workStep]
    split
    · rename_i event hphase
      obtain ⟨-, hfind, hopen⟩ := h worker _ (by rw [hphase]; rfl)
      split
      · rename_i db hok
        exact .inr (.inl ⟨event, readings, draws, hfind, hopen, hok⟩)
      · exact .inl rfl
    · exact .inl rfl
  | crash worker exception =>
    refine .inl ?_
    simp only [workStep]
    split <;> rfl
  | book worker now text =>
    simp only [workStep]
    split
    · rename_i attemptCount exception hphase
      split
      · rename_i hfree
        exact .inr (.inr ⟨worker, now, text, attemptCount, exception, rfl, hfree, hphase, rfl⟩)
      · exact .inl rfl
    · exact .inl rfl
  | kill worker =>
    refine .inl ?_
    simp only [workStep]
    split <;> rfl

theorem eventStatus_of_committed {s' : EventWork} (h : s'.committed = s.committed) :
    eventStatus eventId s' = eventStatus eventId s := by
  rw [eventStatus, h, eventStatus]

theorem eventStatus_book {s' : EventWork} {attemptCount : Nat} {exception : Failure} {now : Time}
    {text : String}
    (h : s'.committed = s.committed.patchEvent eventId
      (·.bookFailure settings attemptCount exception now text)) :
    eventStatus eventId s' =
      (eventStatus eventId s).map fun _ => (decideRetry settings attemptCount now).status := by
  rw [eventStatus, h, findEvent_patch _ _ _ (by intro _; rfl), eventStatus]
  cases hfind : s.committed.findEvent eventId with
  | none => rfl
  | some event => simp [findEvent_some hfind, EngagementEvent.bookFailure]

theorem eventStatus_attempt {s' : EventWork} {event : EngagementEvent} {readings : CardReadings}
    {draws : AttemptDraws} (hdb : s.committed.Constrained)
    (hfind : s.committed.findEvent eventId = some event)
    (h : attemptEvent s.committed event readings draws = .ok s'.committed) :
    eventStatus eventId s' = some .processed := by
  obtain ⟨-, -, hevents⟩ := attemptEvent_ok hdb h
  rw [eventStatus, hevents, hfind]
  simp [findEvent_some hfind, EngagementEvent.processed]

/-- A status changes once it is final only by a failure that is booked over it. -/
theorem eventFinal_iff (h : s.Knows (workKnows eventId)) (a : WorkAction) :
    EventFinal settings eventId s a ↔ BooksUnfinished settings eventId s a := by
  cases a with
  | book worker now text =>
    simp only [EventFinal, BooksUnfinished]
    by_cases hfree : s.lock = none
    · cases hphase : s.phase worker with
      | failed attemptCount exception =>
        have hstep : (workStep settings eventId s (.book worker now text)).committed =
            s.committed.patchEvent eventId
              (·.bookFailure settings attemptCount exception now text) := by
          simp only [workStep, hphase, hfree, if_true, Locked.release_committed]
        rw [eventStatus_book hstep]
        cases hstatus : eventStatus eventId s with
        | none => simp
        | some status => simp [hfree]
      | _ =>
        refine iff_of_true ?_ (by simp)
        intro status hstatus _
        simpa [workStep, hphase] using hstatus
    · refine iff_of_true ?_ (fun hlock => absurd hlock hfree)
      intro status hstatus _
      rw [← hstatus]
      apply eventStatus_of_committed
      simp only [workStep, hfree, if_false]
      split <;> rfl
  | _ =>
    refine iff_of_true ?_ trivial
    intro status hstatus hfinal
    rcases workStep_committed settings h _ with
      hsame | ⟨event, readings, draws, hfind, hopen, -⟩ | ⟨_, _, _, _, _, ha, -⟩
    · exact (eventStatus_of_committed hsame).trans hstatus
    · rw [eventStatus, hfind] at hstatus
      obtain rfl : event.status = status := Option.some.inj hstatus
      exact absurd hfinal hopen
    · cases ha

/-- What holds in every state of a run that books failures on unfinished events only: the event
has raised a value only if it is processed. -/
structure WorkCounted (eventId : EventId) (db₀ : GrowthDb) (s : EventWork) : Prop where
  knows : s.Knows (workKnows eventId)
  constrained : s.committed.Constrained
  missions : ∀ key, s.committed.missionValue key ≤
    db₀.missionValue key + if eventStatus eventId s = some .processed then 1 else 0

theorem WorkCounted.countedOnce {db₀ : GrowthDb} (h : WorkCounted eventId db₀ s) :
    CountedOnce db₀ s := by
  refine ⟨?_, h.constrained.xp, h.constrained.points⟩
  intro key
  have hvalue := h.missions key
  split at hvalue <;> omega

theorem WorkCounted.step {db₀ : GrowthDb} (h : WorkCounted eventId db₀ s) {a : WorkAction}
    (hbooks : BooksUnfinished settings eventId s a) :
    WorkCounted eventId db₀ (workStep settings eventId s a) := by
  have hknows := workKnows_step settings h.knows a
  rcases workStep_committed settings h.knows a with
    hsame | ⟨event, readings, draws, hfind, hopen, hok⟩ |
      ⟨worker, now, text, attemptCount, exception, rfl, hfree, hphase, hbook⟩
  · refine ⟨hknows, hsame ▸ h.constrained, ?_⟩
    rw [eventStatus_of_committed hsame, hsame]
    exact h.missions
  · obtain ⟨hconstrained, hvalue, -⟩ := attemptEvent_ok h.constrained hok
    refine ⟨hknows, hconstrained, ?_⟩
    intro key
    have hbefore := h.missions key
    have hnot : eventStatus eventId s ≠ some .processed := by
      rw [eventStatus, hfind]
      intro heq
      exact hopen (.inl (Option.some.inj heq))
    rw [eventStatus_attempt h.constrained hfind hok, if_pos rfl]
    rw [if_neg hnot] at hbefore
    exact (hvalue key).trans (Nat.add_le_add_right hbefore 1)
  · refine ⟨hknows, hbook ▸ h.constrained.patchEvent _ _, ?_⟩
    have hstatus : eventStatus eventId s ≠ some .processed := by
      intro hprocessed
      exact decideRetry_ne_processed settings attemptCount now
        (hbooks hfree attemptCount exception hphase .processed hprocessed (.inl rfl))
    have hvalue := h.missions
    rw [if_neg hstatus] at hvalue
    rw [hbook]
    intro key
    exact (hvalue key).trans (Nat.le_add_right _ _)

/-- In a run of workers on one event a final status stays, no mission moves by more than one and
every rule is granted once, exactly when no failure is booked over a different final status. -/
theorem eventProcessing_final_iff (settings : RetrySettings) (eventId : EventId) {db : GrowthDb}
    (hdb : db.Constrained) (acts : List WorkAction) :
    (Always (workStep settings eventId) (EventFinal settings eventId) (workStart db) acts ∧
      Throughout (workStep settings eventId) (CountedOnce db) (workStart db) acts) ↔
      Always (workStep settings eventId) (BooksUnfinished settings eventId) (workStart db) acts := by
  have hknows : (workStart db).Knows (workKnows eventId) := by
    intro worker fact hfact
    cases hfact
  have hfinal : Always (workStep settings eventId) (EventFinal settings eventId) (workStart db) acts ↔
      Always (workStep settings eventId) (BooksUnfinished settings eventId) (workStart db) acts :=
    always_congr_of_invariant hknows (fun s a hs => eventFinal_iff hs a)
      fun s a hs _ => workKnows_step settings hs a
  constructor
  · rintro ⟨hkept, -⟩
    exact hfinal.mp hkept
  · intro hguard
    refine ⟨hfinal.mpr hguard, ?_⟩
    have hstart : WorkCounted eventId db (workStart db) :=
      ⟨hknows, hdb, fun key => Nat.le_add_right _ _⟩
    exact (hguard.throughout hstart fun s a hs hbooks => hs.step hbooks).imp
      fun s hs => hs.countedOnce

end

/-- A fan has one comment waiting, and a mission asks for three. -/
def oneComment : GrowthDb where
  points := PointDb.opening []
    [{ id := "evt_1", userId := "fan", kind := "event_commented", sourceType := "event_comment",
       sourceId := "comment_1", payload := [] }]
  xpLedger := []
  levels := []
  policies := []
  thresholds := []
  rewards := []
  rewardGrants := []
  missions :=
    [{ id := "mission", title := "댓글", eventKind := "event_commented", targetValue := 3,
       rewardPayload := { xp := 10 }, status := .published, target_pos := by decide }]
  progress := []
  achievements := []
  achievementProgress := []
  seasons := []
  passProgress := []

def commentDraws (now : Time) (tag : String) : MissionDraws :=
  ⟨now, "progress_" ++ tag, "xp_" ++ tag, "point_" ++ tag, "grant_" ++ tag⟩

def commentAttempt (now : Time) (tag : String) : AttemptDraws :=
  ⟨now, "base_" ++ tag, [], fun _ => commentDraws now tag, [], fun _ => ⟨now, tag, tag, tag⟩⟩

/-- A worker loses its connection, another one processes the event, the first one books its
failure after all, and a retry processes the event once more. -/
def bookedOver : List WorkAction :=
  [.start 0,
   .crash 0 (.unhandled "OperationalError"),
   .start 1,
   .work 1 {} (commentAttempt 1 "a"),
   .book 0 2 "connection lost",
   .start 2,
   .work 2 {} (commentAttempt 40000000 "b")]

/-- The event was processed, is failed again, and counts twice. -/
theorem eventProcessing_twice_bookedOver :
    oneComment.Constrained ∧
    eventStatus "evt_1" (run (workStep {} "evt_1") (workStart oneComment) (bookedOver.take 4)) =
      some .processed ∧
    eventStatus "evt_1" (run (workStep {} "evt_1") (workStart oneComment) (bookedOver.take 5)) =
      some .failed ∧
    (run (workStep {} "evt_1") (workStart oneComment) bookedOver).committed.missionValue
      ("fan", "mission", "once") = 2 :=
  ⟨⟨by decide, by decide, by decide, by decide⟩, by decide, by decide, by decide⟩

/-- The first worker books its failure before the event is processed. -/
def bookedFirst : List WorkAction :=
  [.start 0,
   .crash 0 (.unhandled "OperationalError"),
   .book 0 2 "connection lost",
   .start 1,
   .work 1 {} (commentAttempt 40000000 "a")]

theorem eventProcessing_final_bookedFirst :
    Always (workStep {} "evt_1") (EventFinal {} "evt_1") (workStart oneComment) bookedFirst := by
  have hdb : oneComment.Constrained := ⟨by decide, by decide, by decide, by decide⟩
  have hpending : eventStatus "evt_1" (run (workStep {} "evt_1") (workStart oneComment)
      (bookedFirst.take 2)) = some .pending := by decide
  refine ((eventProcessing_final_iff {} "evt_1" hdb bookedFirst).mpr ?_).1
  refine ⟨trivial, trivial, ?_, trivial, trivial, trivial⟩
  intro _ attemptCount exception _ status hstatus hfinal
  obtain rfl : EventStatus.pending = status := Option.some.inj (hpending.symm.trans hstatus)
  rcases hfinal with hfinal | hfinal <;> cases hfinal

end Fanfolio
