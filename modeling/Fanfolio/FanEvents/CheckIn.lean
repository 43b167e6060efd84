import Fanfolio.FanEvents.Schema
import Fanfolio.Framework.RowLocks
import Fanfolio.Framework.Run

/-!
# Check-in

A check-in request reads the application without a lock, and then sets the time of the check-in
with a conditional update, which waits for the row and reads it again. Any number of requests run
at the same time.
-/

namespace Fanfolio

open Framework

/-- What a check-in pass carries. -/
structure CheckInClaims where
  eventId : Option EventId
  applicationId : Option ApplicationId
  exp : Int
deriving DecidableEq, Repr

/-- The signature of a payload, if it is ASCII, the JSON object it encodes, and SHA-256. -/
structure CheckInEnv where
  signature : String → Option String
  decode : String → Option CheckInClaims
  sha256 : String → String

/-- `token.split(".", 1)`. -/
def splitToken (token : String) : Option (String × String) :=
  let payload := token.toList.takeWhile (· != '.')
  match token.toList.drop payload.length with
  | [] => none
  | _ :: signature => some (String.ofList payload, String.ofList signature)

/-- `EVENT_CHECKIN_INVALID`. -/
def checkInInvalid (statusCode : Nat) : Failure :=
  .app ⟨statusCode, "EVENT_CHECKIN_INVALID", "유효하지 않은 체크인 패스입니다."⟩

/-- `verify_check_in_token`. -/
def verifyCheckInToken (env : CheckInEnv) (token : String) (now : Time) :
    Except Failure CheckInClaims := do
  let (payload, signature) ← orFail (splitToken token) (checkInInvalid 401)
  ensure (env.signature payload = some signature) (checkInInvalid 401)
  let data ← orFail (env.decode payload) (checkInInvalid 401)
  ensure (((now / 1000000 : Nat) : Int) < data.exp)
    (.app ⟨401, "EVENT_CHECKIN_EXPIRED", "체크인 패스가 만료되었습니다."⟩)
  ensure (truthy data.eventId = true ∧ truthy data.applicationId = true) (checkInInvalid 401)
  pure data

/-- `check_in_token_hash`. -/
def checkInTokenHash (env : CheckInEnv) (token : String) : String := env.sha256 token

/-- A row of `audit_logs`. -/
structure EventAudit where
  actorUserId : UserId
  action : String
  entityType : String
  entityId : ApplicationId
  organizationId : Option OrganizationId
  artistId : Option ArtistId
  eventId : EventId
deriving DecidableEq, Repr

structure CheckInDb where
  events : List Event
  applications : List EventApplication
  audits : List EventAudit
deriving DecidableEq, Repr

namespace CheckInDb

def findApplication (db : CheckInDb) (applicationId : ApplicationId) : Option EventApplication :=
  db.applications.find? (·.id == applicationId)

/-- `checked_in_at` and `checked_in_by` of an application. -/
def checkIn (db : CheckInDb) (applicationId : ApplicationId) : Option Time × Option UserId :=
  match db.findApplication applicationId with
  | some application => (application.checkedInAt, application.checkedInBy)
  | none => (none, none)

def auditsOf (db : CheckInDb) (applicationId : ApplicationId) : List EventAudit :=
  db.audits.filter (·.entityId == applicationId)

end CheckInDb

/-- `EventCheckInRequest`, the event of its path and the admin that sends it. -/
structure CheckInRequest where
  context : AdminContext
  eventId : EventId
  token : String

/-- The checks of `admin_check_in_event_application`, up to its first look at `checked_in_at`. -/
def admitCheckIn (env : CheckInEnv) (db : CheckInDb) (request : CheckInRequest)
    (verifiedAt now : Time) : Except Failure (Event × EventApplication) := do
  request.context.requireAction "events:write"
  let event ← loadEventInScope db.events request.context request.eventId
  let claims ← verifyCheckInToken env request.token verifiedAt
  ensure (claims.eventId = some event.id)
    (.app ⟨422, "EVENT_CHECKIN_WRONG_EVENT", "다른 이벤트의 체크인 패스입니다."⟩)
  let application ← orFail ((claims.applicationId.bind db.findApplication).filter
    (·.eventId == event.id)) (checkInInvalid 422)
  ensure (application.checkInTokenHash = some (checkInTokenHash env request.token))
    (checkInInvalid 401)
  ensure (application.status = .submitted ∨ application.status = .winner)
    (.app ⟨409, "EVENT_CHECKIN_UNAVAILABLE", "체크인할 수 없는 신청 상태입니다."⟩)
  ensure (event.startsAt ≤ now)
    (.app ⟨409, "EVENT_CHECKIN_NOT_OPEN", "아직 체크인 시간이 아닙니다."⟩)
  ensure (∀ endsAt ∈ event.endsAt, now ≤ endsAt + days 1)
    (.app ⟨409, "EVENT_CHECKIN_CLOSED", "체크인 가능한 시간이 지났습니다."⟩)
  pure (event, application)

/-- The answer of an accepted request. -/
structure CheckInAnswer where
  eventId : EventId
  applicationId : ApplicationId
  alreadyCheckedIn : Bool
  checkedInAt : Time
deriving DecidableEq, Repr

/-- What a request is about to do: its update, its commit, or its answer. -/
inductive CheckInPhase where
  | idle
  | admitted (event : Event) (application : EventApplication) (userId : UserId) (now : Time)
  | updated (event : Event) (application : EventApplication) (userId : UserId) (now : Time)
  | lost (event : Event) (application : EventApplication) (userId : UserId)
  | answered (userId : UserId) (answer : CheckInAnswer)
  | failed (failure : Failure)
deriving DecidableEq, Repr

/-- A step of one of the requests; `abort` is any failure before the commit. -/
inductive CheckInAction (W : Type) where
  | read (worker : W) (request : CheckInRequest) (verifiedAt now : Time)
  | update (worker : W)
  | commit (worker : W)
  | reread (worker : W)
  | abort (worker : W)

/-- The committed tables, the request that has written each application, and the requests. -/
abbrev CheckInRace (W : Type) := RowLocks W ApplicationId CheckInDb CheckInPhase

/-- The audit record of a check-in. -/
def checkInAudit (event : Event) (application : EventApplication) (userId : UserId) : EventAudit :=
  { actorUserId := userId, action := "event.application_checked_in",
    entityType := "event_application", entityId := application.id,
    organizationId := event.organizationId, artistId := event.artistId, eventId := event.id }

/-- The commit of a check-in: the values of the update and the audit record. -/
def CheckInDb.commitCheckIn (db : CheckInDb) (event : Event) (application : EventApplication)
    (userId : UserId) (now : Time) : CheckInDb :=
  { db with
    applications := patch (·.id == application.id)
      (fun row => { row with checkedInAt := some now, checkedInBy := some userId }) db.applications
    audits := db.audits ++ [checkInAudit event application userId] }

namespace CheckInRace

variable {W : Type} [DecidableEq W]

/-- One step; an update that waits for the row leaves the state as it is. -/
def step (env : CheckInEnv) (s : CheckInRace W) : CheckInAction W → CheckInRace W
  | .read worker request verifiedAt now =>
    match s.phase worker with
    | .idle =>
      match admitCheckIn env s.committed request verifiedAt now with
      | .error failure => s.move worker (.failed failure)
      | .ok (event, application) =>
        match application.checkedInAt with
        | some checkedInAt => s.move worker
          (.answered request.context.user.id ⟨event.id, application.id, true, checkedInAt⟩)
        | none => s.move worker (.admitted event application request.context.user.id now)
    | _ => s
  | .update worker =>
    match s.phase worker with
    | .admitted event application userId now =>
      if s.owner application.id = none then
        if (s.committed.findApplication application.id).any (·.checkedInAt.isNone) then
          s.acquire worker application.id (.updated event application userId now)
        else s.move worker (.lost event application userId)
      else s
    | _ => s
  | .commit worker =>
    match s.phase worker with
    | .updated event application userId now =>
      s.release worker (s.committed.commitCheckIn event application userId now)
        (.answered userId ⟨event.id, application.id, false, now⟩)
    | _ => s
  | .reread worker =>
    match s.phase worker with
    | .lost event application userId =>
      match (s.committed.findApplication application.id).bind (·.checkedInAt) with
      | some checkedInAt =>
        s.move worker (.answered userId ⟨event.id, application.id, true, checkedInAt⟩)
      | none => s.move worker (.failed (.unhandled "AttributeError"))
    | _ => s
  | .abort worker =>
    match s.phase worker with
    | .admitted .. | .updated .. | .lost .. =>
      s.release worker s.committed (.failed (.unhandled "rolled back"))
    | _ => s

/-- No request has begun. -/
structure Fresh (s : CheckInRace W) : Prop where
  phases : ∀ worker, s.phase worker = .idle
  rows : ∀ applicationId, s.owner applicationId = none

/-- A request that has updated an application holds its row, and nobody is checked in yet. -/
def holds : CheckInPhase → ApplicationId → Prop
  | .updated _ application _ _, applicationId => applicationId = application.id
  | _, _ => False

def known : CheckInPhase → CheckInDb → Prop
  | .updated _ application _ _, db =>
    (db.findApplication application.id).any (·.checkedInAt.isNone)
  | _, _ => True

/-- A request was accepted with an answer about the application. -/
def Answers (s : CheckInRace W) (applicationId : ApplicationId) (worker : W) (userId : UserId)
    (answer : CheckInAnswer) : Prop :=
  s.phase worker = .answered userId answer ∧ answer.applicationId = applicationId

/-- Either nobody has checked in since the start, or one request has, and all others say so. -/
inductive CheckedInOnce (start : CheckInDb) (applicationId : ApplicationId) (s : CheckInRace W) :
    Prop
  | before
      (hrow : s.committed.checkIn applicationId = start.checkIn applicationId)
      (haudits : s.committed.auditsOf applicationId = start.auditsOf applicationId)
      (hanswers : ∀ worker userId answer, s.Answers applicationId worker userId answer →
        answer.alreadyCheckedIn = true ∧
          (start.checkIn applicationId).1 = some answer.checkedInAt)
  | after (worker : W) (userId : UserId) (answer : CheckInAnswer) (audit : EventAudit)
      (hunset : (start.checkIn applicationId).1 = none)
      (hanswer : s.Answers applicationId worker userId answer)
      (hfirst : answer.alreadyCheckedIn = false)
      (hrow : s.committed.checkIn applicationId = (some answer.checkedInAt, some userId))
      (haudits : s.committed.auditsOf applicationId = start.auditsOf applicationId ++ [audit])
      (hactor : audit.actorUserId = userId)
      (hothers : ∀ worker' userId' answer', s.Answers applicationId worker' userId' answer' →
        worker' ≠ worker → answer'.alreadyCheckedIn = true ∧
          answer'.checkedInAt = answer.checkedInAt)

section

variable {env : CheckInEnv} {db start : CheckInDb} {event : Event} {application : EventApplication}
  {applicationId : ApplicationId} {userId : UserId} {now : Time} {s s' : CheckInRace W}

theorem checkIn_commit (h : (db.findApplication application.id).any (·.checkedInAt.isNone)) :
    (db.commitCheckIn event application userId now).checkIn application.id =
      (some now, some userId) := by
  obtain ⟨row, hfind, -⟩ := (Option.any_eq_true _ _).mp h
  have hpatched : (db.commitCheckIn event application userId now).findApplication application.id =
      (db.findApplication application.id).map
        fun row => { row with checkedInAt := some now, checkedInBy := some userId } :=
    find_patch_key (by intro _; rfl) db.applications application.id
  simp [CheckInDb.checkIn, hpatched, hfind]

theorem findApplication_commit_other (hne : applicationId ≠ application.id) :
    (db.commitCheckIn event application userId now).findApplication applicationId =
      db.findApplication applicationId :=
  find_patch_other (by intro _; rfl) db.applications hne

theorem checkIn_commit_other (hne : applicationId ≠ application.id) :
    (db.commitCheckIn event application userId now).checkIn applicationId =
      db.checkIn applicationId := by
  simp only [CheckInDb.checkIn, findApplication_commit_other hne]

theorem auditsOf_commit :
    (db.commitCheckIn event application userId now).auditsOf application.id =
      db.auditsOf application.id ++ [checkInAudit event application userId] := by
  simp [CheckInDb.auditsOf, CheckInDb.commitCheckIn, checkInAudit]

theorem auditsOf_commit_other (hne : applicationId ≠ application.id) :
    (db.commitCheckIn event application userId now).auditsOf applicationId =
      db.auditsOf applicationId := by
  simp [CheckInDb.auditsOf, CheckInDb.commitCheckIn, checkInAudit, Ne.symm hne]

/-- A step of a request that had no answer yet: it may answer that somebody is checked in. -/
theorem CheckedInOnce.move {worker : W} (h : CheckedInOnce start applicationId s)
    (hrow : s'.committed.checkIn applicationId = s.committed.checkIn applicationId)
    (haudits : s'.committed.auditsOf applicationId = s.committed.auditsOf applicationId)
    (hopen : ∀ userId answer, s.phase worker ≠ .answered userId answer)
    (hothers : ∀ other, other ≠ worker → s'.phase other = s.phase other)
    (hnew : ∀ userId answer, s'.Answers applicationId worker userId answer →
      answer.alreadyCheckedIn = true ∧
        (s.committed.checkIn applicationId).1 = some answer.checkedInAt) :
    CheckedInOnce start applicationId s' := by
  cases h with
  | before hrow₀ haudits₀ hanswers =>
    refine .before (hrow.trans hrow₀) (haudits.trans haudits₀) ?_
    intro other userId answer hanswer
    by_cases hother : other = worker
    · subst hother
      rw [← hrow₀]
      exact hnew userId answer hanswer
    · rw [Answers, hothers other hother] at hanswer
      exact hanswers other userId answer hanswer
  | after first userId answer audit hunset hanswer hfirst hrow₀ haudits₀ hactor hrest =>
    have hne : first ≠ worker := fun heq => hopen userId answer (heq ▸ hanswer.1)
    refine .after first userId answer audit hunset ?_ hfirst (hrow.trans hrow₀)
      (haudits.trans haudits₀) hactor ?_
    · rw [Answers, hothers first hne]
      exact hanswer
    · intro other userId' answer' hanswer' hother'
      by_cases hother : other = worker
      · subst hother
        obtain ⟨halready, htime⟩ := hnew userId' answer' hanswer'
        rw [hrow₀] at htime
        exact ⟨halready, (Option.some.inj htime).symm⟩
      · rw [Answers, hothers other hother] at hanswer'
        exact hrest other userId' answer' hanswer' hother'

/-- The commit of the update: nobody had checked in before it. -/
theorem CheckedInOnce.commit {worker : W} (h : CheckedInOnce start application.id s)
    (hunset : (s.committed.findApplication application.id).any (·.checkedInAt.isNone)) :
    CheckedInOnce start application.id
      (s.release worker (s.committed.commitCheckIn event application userId now)
        (.answered userId ⟨event.id, application.id, false, now⟩)) := by
  obtain ⟨row, hfind, hrow⟩ := (Option.any_eq_true _ _).mp hunset
  have hnone : (s.committed.checkIn application.id).1 = none := by
    simpa [CheckInDb.checkIn, hfind] using hrow
  cases h with
  | before hrow₀ haudits₀ hanswers =>
    rw [hrow₀] at hnone
    refine .after worker userId ⟨event.id, application.id, false, now⟩
      (checkInAudit event application userId) hnone ?_ rfl (checkIn_commit hunset)
      (auditsOf_commit.trans (by rw [haudits₀])) rfl ?_
    · exact ⟨Function.update_self .., rfl⟩
    · intro other userId' answer' hanswer' hother
      simp only [Answers, RowLocks.release, Function.update_of_ne hother] at hanswer'
      obtain ⟨-, htime⟩ := hanswers other userId' answer' hanswer'
      rw [hnone] at htime
      cases htime
  | after first userId' answer audit _ _ _ hrow₀ _ _ _ =>
    rw [hrow₀] at hnone
    cases hnone

theorem admitCheckIn_ok {request : CheckInRequest} {verifiedAt : Time}
    (h : admitCheckIn env db request verifiedAt now = .ok (event, application)) :
    db.findApplication application.id = some application := by
  simp only [admitCheckIn, bind_ok, orFail_ok, pure_ok] at h
  obtain ⟨_, -, event', -, claims, -, _, -, found, hfound, _, -, _, -, _, -, _, -, hpair⟩ := h
  obtain ⟨rfl, rfl⟩ := Prod.mk.inj hpair
  obtain ⟨hfind, -⟩ := Option.filter_eq_some_iff.mp hfound
  obtain ⟨id, -, hid⟩ := Option.bind_eq_some_iff.mp hfind
  rw [(mem_of_find_eq_some hid).2]
  exact hid

abbrev Sound (s : CheckInRace W) : Prop := RowLocks.Knows holds known s

omit [DecidableEq W] in
theorem Fresh.sound (h : s.Fresh) : s.Sound := by
  constructor
  · intro worker applicationId hholds
    rw [h.phases worker] at hholds
    exact absurd hholds id
  · intro worker
    rw [h.phases worker]
    trivial

theorem Sound.step (h : s.Sound) (a : CheckInAction W) : (CheckInRace.step env s a).Sound := by
  cases a with
  | read worker request verifiedAt now =>
    simp only [CheckInRace.step]
    split
    · split
      · exact h.move (fun _ hr => absurd hr id) trivial
      · split
        · exact h.move (fun _ hr => absurd hr id) trivial
        · exact h.move (fun _ hr => absurd hr id) trivial
    · exact h
  | update worker =>
    simp only [CheckInRace.step]
    split
    · split
      · rename_i hfree
        split
        · rename_i hunset
          exact h.acquire hfree (fun _ hr => .inl hr) hunset
        · exact h.move (fun _ hr => absurd hr id) trivial
      · exact h
    · exact h
  | commit worker =>
    simp only [CheckInRace.step]
    split
    · rename_i event application userId now hphase
      refine h.release (fun _ hr => hr) trivial ?_
      intro phase hdisjoint hfact
      rw [hphase] at hdisjoint
      cases phase with
      | updated event' application' userId' now' =>
        have hne : application'.id ≠ application.id := fun heq => hdisjoint _ rfl heq
        simpa only [known, findApplication_commit_other hne] using hfact
      | _ => trivial
    · exact h
  | reread worker =>
    simp only [CheckInRace.step]
    split
    · split
      · exact h.move (fun _ hr => absurd hr id) trivial
      · exact h.move (fun _ hr => absurd hr id) trivial
    · exact h
  | abort worker =>
    simp only [CheckInRace.step]
    split
    · exact h.release (fun _ hr => hr) trivial fun _ _ hfact => hfact
    · exact h.release (fun _ hr => hr) trivial fun _ _ hfact => hfact
    · exact h.release (fun _ hr => hr) trivial fun _ _ hfact => hfact
    · exact h

theorem CheckedInOnce.step (hsound : s.Sound) (h : CheckedInOnce start applicationId s)
    (a : CheckInAction W) : CheckedInOnce start applicationId (CheckInRace.step env s a) := by
  cases a with
  | read worker request verifiedAt now =>
    simp only [CheckInRace.step]
    split
    · rename_i hphase
      have hopen : ∀ userId answer, s.phase worker ≠ .answered userId answer := by simp [hphase]
      split
      · exact h.move rfl rfl hopen (fun _ hne => Function.update_of_ne hne _ _)
          (by simp [Answers, RowLocks.move])
      · rename_i event application hadmit
        have hfind := admitCheckIn_ok hadmit
        split
        · rename_i checkedInAt htime
          refine h.move rfl rfl hopen (fun _ hne => Function.update_of_ne hne _ _) ?_
          rintro userId answer ⟨hanswer, rfl⟩
          simp only [RowLocks.move, Function.update_self] at hanswer
          cases hanswer
          exact ⟨rfl, by simp [CheckInDb.checkIn, hfind, htime]⟩
        · exact h.move rfl rfl hopen (fun _ hne => Function.update_of_ne hne _ _)
            (by simp [Answers, RowLocks.move])
    · exact h
  | update worker =>
    simp only [CheckInRace.step]
    split
    · rename_i hphase
      have hopen : ∀ userId answer, s.phase worker ≠ .answered userId answer := by simp [hphase]
      split
      · split
        · exact h.move rfl rfl hopen (fun _ hne => Function.update_of_ne hne _ _)
            (by simp [Answers, RowLocks.acquire])
        · exact h.move rfl rfl hopen (fun _ hne => Function.update_of_ne hne _ _)
            (by simp [Answers, RowLocks.move])
      · exact h
    · exact h
  | commit worker =>
    simp only [CheckInRace.step]
    split
    · rename_i event application userId now hphase
      by_cases hown : applicationId = application.id
      · subst hown
        have hunset := hsound.facts worker
        rw [hphase] at hunset
        exact h.commit hunset
      · refine h.move (checkIn_commit_other hown) (auditsOf_commit_other hown)
          (by simp [hphase]) (fun _ hne => Function.update_of_ne hne _ _) ?_
        rintro userId' answer ⟨hanswer, rfl⟩
        simp only [RowLocks.release, Function.update_self] at hanswer
        cases hanswer
        exact absurd rfl hown
    · exact h
  | reread worker =>
    simp only [CheckInRace.step]
    split
    · rename_i hphase
      have hopen : ∀ userId answer, s.phase worker ≠ .answered userId answer := by simp [hphase]
      split
      · rename_i checkedInAt htime
        refine h.move rfl rfl hopen (fun _ hne => Function.update_of_ne hne _ _) ?_
        rintro userId answer ⟨hanswer, rfl⟩
        simp only [RowLocks.move, Function.update_self] at hanswer
        cases hanswer
        obtain ⟨row, hfind, hrow⟩ := Option.bind_eq_some_iff.mp htime
        exact ⟨rfl, by simp [CheckInDb.checkIn, hfind, hrow]⟩
      · exact h.move rfl rfl hopen (fun _ hne => Function.update_of_ne hne _ _)
          (by simp [Answers, RowLocks.move])
    · exact h
  | abort worker =>
    have hrolled (hopen : ∀ userId answer, s.phase worker ≠ .answered userId answer) :
        CheckedInOnce start applicationId
          (s.release worker s.committed (.failed (.unhandled "rolled back"))) :=
      h.move rfl rfl hopen (fun _ hne => Function.update_of_ne hne _ _)
        (by simp [Answers, RowLocks.release])
    simp only [CheckInRace.step]
    split
    · exact hrolled (by simp [*])
    · exact hrolled (by simp [*])
    · exact hrolled (by simp [*])
    · exact h

/-- A check-in is never set a second time. -/
theorem checkIn_step (hsound : s.Sound) {checkedInAt : Time} {checkedInBy : Option UserId}
    (h : s.committed.checkIn applicationId = (some checkedInAt, checkedInBy))
    (a : CheckInAction W) : (CheckInRace.step env s a).committed.checkIn applicationId =
      (some checkedInAt, checkedInBy) := by
  cases a with
  | read worker request verifiedAt now =>
    simp only [CheckInRace.step]
    split
    · split
      · exact h
      · split <;> exact h
    · exact h
  | update worker =>
    simp only [CheckInRace.step]
    split
    · split
      · split <;> exact h
      · exact h
    · exact h
  | commit worker =>
    simp only [CheckInRace.step]
    split
    · rename_i event application userId now hphase
      by_cases hown : applicationId = application.id
      · have hunset := hsound.facts worker
        rw [hphase] at hunset
        obtain ⟨row, hfind, hrow⟩ := (Option.any_eq_true _ _).mp hunset
        rw [hown, CheckInDb.checkIn, hfind, Prod.mk.injEq] at h
        rw [h.1] at hrow
        cases hrow
      · exact (checkIn_commit_other hown).trans h
    · exact h
  | reread worker =>
    simp only [CheckInRace.step]
    split
    · split <;> exact h
    · exact h
  | abort worker =>
    simp only [CheckInRace.step]
    split <;> exact h

end

/-- An open event with the application of a fan whose pass is `p.s`. -/
def openEvent : CheckInDb where
  events := [{ id := "e1", title := "Meet", heroAssetId := "banner", startsAt := 0,
               workflowStatus := .published, createdBy := "root" }]
  applications := [{ id := "a1", eventId := "e1", userId := "fan", checkInTokenHash := some "p.s" }]
  audits := []

def plainCheckIn : CheckInEnv where
  signature _ := some "s"
  decode _ := some ⟨some "e1", some "a1", 100⟩
  sha256 := id

/-- Two requests read the application before either of them updates it. -/
def overlappingCheckIns : List (CheckInAction Nat) :=
  let request : CheckInRequest := ⟨rootContext, "e1", "p.s"⟩
  [.read 1 request 5 5, .read 2 request 6 6, .update 1, .update 2, .commit 1, .update 2, .reread 2]

end CheckInRace

end Fanfolio
