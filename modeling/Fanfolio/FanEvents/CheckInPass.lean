import Fanfolio.FanEvents.CheckIn

/-!
# Check-in passes

A pass is signed anew whenever the fan opens it. The hash of the first one is stored, and a later
one is only shown if it has the same hash.
-/

namespace Fanfolio

open Framework

/-- `int(value.timestamp())`. -/
def timestamp (time : Time) : Nat := time / 1000000

/-- The encoding of the claims as well; it is ASCII without a dot, and can be decoded. -/
structure PassEnv extends CheckInEnv where
  encode : EventId → ApplicationId → Int → String
  encode_noDot : ∀ eventId applicationId exp, '.' ∉ (encode eventId applicationId exp).toList
  encode_ascii : ∀ eventId applicationId exp, (signature (encode eventId applicationId exp)).isSome
  decode_encode : ∀ eventId applicationId exp,
    decode (encode eventId applicationId exp) = some ⟨some eventId, some applicationId, exp⟩

/-- `create_check_in_token`. -/
def createCheckInToken (env : PassEnv) (eventId : EventId) (applicationId : ApplicationId)
    (expiresAt : Int) : Except Failure String := do
  let payload := env.encode eventId applicationId expiresAt
  let signature ← orFail (env.signature payload) (.unhandled "UnicodeEncodeError")
  pure (payload ++ "." ++ signature)

/-- A row of `event_applications`, with the time at which its pass was issued. -/
structure PassApplication extends EventApplication where
  checkInTokenIssuedAt : Option Time := none
deriving DecidableEq, Repr

/-- The rows that a pass depends on; identifiers are never empty. -/
structure CheckInPassDb where
  events : List Event
  applications : List PassApplication
  eventIds : ∀ event ∈ events, event.id ≠ ""
  applicationIds : ∀ application ∈ applications, application.id ≠ ""
  uniqueApplications : (applications.map (·.id)).Nodup

namespace CheckInPassDb

variable (db : CheckInPassDb)

def findEvent (eventId : EventId) : Option Event := db.events.find? (·.id == eventId)

def findApplication (applicationId : ApplicationId) : Option PassApplication :=
  db.applications.find? (·.id == applicationId)

/-- The stored hash of the pass of an application. -/
def tokenHash (applicationId : ApplicationId) : Option String :=
  (db.findApplication applicationId).bind (·.checkInTokenHash)

/-- The first pass of an application is stored. -/
def issue (applicationId : ApplicationId) (hash : String) (now : Time) : CheckInPassDb :=
  { db with
    applications := patch (·.id == applicationId) (fun row => { row with
      checkInTokenHash := some hash, checkInTokenIssuedAt := some now }) db.applications
    applicationIds := by
      intro row hrow
      obtain ⟨old, hold, rfl⟩ := mem_patch.mp hrow
      split <;> exact db.applicationIds old hold
    uniqueApplications := by
      rw [map_patch (by intro _; rfl)]
      exact db.uniqueApplications }

end CheckInPassDb

/-- The answer of `get_event_check_in_pass`. -/
structure CheckInPass where
  eventId : EventId
  applicationId : ApplicationId
  token : String
  expiresAt : Nat
  checkedIn : Bool
deriving DecidableEq, Repr

/-- The stored hash is that of the pass, or the pass is the first one. -/
def CheckInPassDb.storePass (db : CheckInPassDb) (application : PassApplication) (hash : String)
    (now : Time) : Except Failure CheckInPassDb :=
  match application.checkInTokenHash with
  | none => .ok (db.issue application.id hash now)
  | some stored => do
    ensure (stored = hash) (.app ⟨409, "EVENT_CHECKIN_PASS_ROTATED",
      "이벤트 일정이 변경되어 체크인 패스를 다시 발급할 수 없습니다."⟩)
    pure db

/-- When a pass that is signed now expires. -/
def passExpiry (endsAt : Option Time) (now : Time) : Nat :=
  timestamp (endsAt.getD (now + days 1) + days 1)

/-- `get_event_check_in_pass`. -/
def getEventCheckInPass (env : PassEnv) (db : CheckInPassDb) (applicationId : ApplicationId)
    (userId : UserId) (now : Time) : Except Failure (CheckInPassDb × CheckInPass) := do
  let application ← orFail
    (db.applications.find? fun row => row.id == applicationId && row.userId == userId)
    (.app ⟨404, "EVENT_APPLICATION_NOT_FOUND", "이벤트 신청 내역을 찾을 수 없습니다."⟩)
  let event ← orFail (db.findEvent application.eventId)
    (.app ⟨404, "EVENT_APPLICATION_NOT_FOUND", "이벤트 신청 내역을 찾을 수 없습니다."⟩)
  ensure (application.status = .submitted ∨ application.status = .winner)
    (.app ⟨409, "EVENT_CHECKIN_UNAVAILABLE", "현재 체크인할 수 없는 신청 내역입니다."⟩)
  let expiresAt := passExpiry event.endsAt now
  let token ← createCheckInToken env event.id application.id expiresAt
  let db ← db.storePass application (checkInTokenHash env.toCheckInEnv token) now
  pure (db, ⟨event.id, application.id, token, expiresAt, application.checkedInAt.isSome⟩)

/-- The token that the claims are signed to. -/
def PassEnv.token (env : PassEnv) (eventId : EventId) (applicationId : ApplicationId)
    (expiresAt : Int) : String :=
  env.encode eventId applicationId expiresAt ++ "." ++
    ((env.signature (env.encode eventId applicationId expiresAt)).getD "")

section

variable {env : PassEnv} {eventId : EventId} {applicationId : ApplicationId} {token : String}

theorem createCheckInToken_ok {expiresAt : Int} :
    createCheckInToken env eventId applicationId expiresAt = .ok token ↔
      env.token eventId applicationId expiresAt = token := by
  obtain ⟨signature, hsignature⟩ :=
    Option.isSome_iff_exists.mp (env.encode_ascii eventId applicationId expiresAt)
  simp [createCheckInToken, PassEnv.token, hsignature]

/-- A text is split at the first dot. -/
theorem splitToken_append {payload signature : String} (h : '.' ∉ payload.toList) :
    splitToken (payload ++ "." ++ signature) = some (payload, signature) := by
  have hfront : (payload ++ "." ++ signature).toList =
      payload.toList ++ '.' :: signature.toList := by
    simp [String.toList_append]
  have htake : (payload.toList ++ '.' :: signature.toList).takeWhile (· != '.') =
      payload.toList := by
    rw [List.takeWhile_append_of_pos (by simpa using fun c hc (heq : c = '.') => h (heq ▸ hc))]
    simp
  simp only [splitToken, hfront, htake, List.drop_left]
  rw [String.ofList_toList, String.ofList_toList]

/-- A signed token verifies until it expires. -/
theorem verify_token {expiresAt : Int} {now : Time} (hevent : eventId ≠ "")
    (happlication : applicationId ≠ "") :
    (∃ claims, verifyCheckInToken env.toCheckInEnv (env.token eventId applicationId expiresAt) now =
      .ok claims) ↔ (timestamp now : Int) < expiresAt := by
  obtain ⟨signature, hsignature⟩ :=
    Option.isSome_iff_exists.mp (env.encode_ascii eventId applicationId expiresAt)
  have hsplit : splitToken (env.token eventId applicationId expiresAt) =
      some (env.encode eventId applicationId expiresAt, signature) := by
    rw [PassEnv.token, hsignature]
    exact splitToken_append (env.encode_noDot eventId applicationId expiresAt)
  simp only [verifyCheckInToken, hsplit, bind_ok, orFail_ok, Option.some.injEq, exists_eq_left',
    hsignature, env.decode_encode, ensure_ok, pure_ok, exists_const]
  constructor
  · rintro ⟨claims, -, htime, -⟩
    exact htime
  · intro htime
    refine ⟨_, trivial, htime, ⟨?_, ?_⟩, rfl⟩
    · simpa [truthy] using hevent
    · simpa [truthy] using happlication

end

/-- A fan opens a pass, or any other request commits. -/
inductive CheckInPassRequest where
  | open (applicationId : ApplicationId) (userId : UserId) (now : Time)
  | other (change : CheckInPassDb → CheckInPassDb)

/-- Nothing else writes passes or changes the end of an event with applications. -/
structure CheckInPassDb.Keeps (db db' : CheckInPassDb) : Prop where
  passes : ∀ application' ∈ db'.applications, application'.checkInTokenHash = none ∨
    ∃ application ∈ db.applications, application'.id = application.id ∧
      application'.eventId = application.eventId ∧
      application'.checkInTokenHash = application.checkInTokenHash ∧
      application'.checkInTokenIssuedAt = application.checkInTokenIssuedAt
  schedules : ∀ application ∈ db.applications, ∀ event',
    db'.findEvent application.eventId = some event' →
      ∃ event, db.findEvent application.eventId = some event ∧ event.endsAt = event'.endsAt

namespace CheckInPassDb

/-- The new state of the database; a request that fails is rolled back. -/
def step (env : PassEnv) (db : CheckInPassDb) : CheckInPassRequest → CheckInPassDb
  | .open applicationId userId now =>
    commitOr db (getEventCheckInPass env db applicationId userId now)
  | .other change => change db

def Unchanged (db : CheckInPassDb) : CheckInPassRequest → Prop
  | .open .. => True
  | .other change => db.Keeps (change db)

/-- A stored hash is that of the pass that was signed when it was issued. -/
def Issued (env : PassEnv) (db : CheckInPassDb) : Prop :=
  ∀ application ∈ db.applications, ∀ hash, application.checkInTokenHash = some hash →
    ∃ issuedAt, application.checkInTokenIssuedAt = some issuedAt ∧
      ∀ event, db.findEvent application.eventId = some event →
        hash = checkInTokenHash env.toCheckInEnv
          (env.token event.id application.id (passExpiry event.endsAt issuedAt))

section

variable {env : PassEnv} {db db' : CheckInPassDb} {applicationId : ApplicationId} {userId : UserId}
  {now : Time} {application : PassApplication} {event : Event} {pass : CheckInPass}

theorem findEvent_ok {eventId : EventId} (h : db.findEvent eventId = some event) :
    event ∈ db.events ∧ event.id = eventId := mem_of_find_eq_some h

theorem findApplication_of_mem (h : application ∈ db.applications) :
    db.findApplication application.id = some application :=
  find_of_mem db.uniqueApplications h

/-- The application that a fan opens the pass of. -/
theorem find_own (h : application ∈ db.applications) :
    (db.applications.find? fun row =>
      row.id == application.id && row.userId == application.userId) = some application := by
  have hids := filter_of_mem db.uniqueApplications h
  rw [find_and, hids, List.find?_singleton, beq_self_eq_true, if_pos rfl]

theorem getEventCheckInPass_ok :
    getEventCheckInPass env db applicationId userId now = .ok (db', pass) ↔
      ∃ application event,
        (db.applications.find? fun row => row.id == applicationId && row.userId == userId) =
          some application ∧
        db.findEvent application.eventId = some event ∧
        (application.status = .submitted ∨ application.status = .winner) ∧
        db.storePass application (checkInTokenHash env.toCheckInEnv
          (env.token event.id application.id (passExpiry event.endsAt now))) now = .ok db' ∧
        pass = ⟨event.id, application.id,
          env.token event.id application.id (passExpiry event.endsAt now),
          passExpiry event.endsAt now, application.checkedInAt.isSome⟩ := by
  simp only [getEventCheckInPass, bind_ok, orFail_ok, ensure_ok, pure_ok, createCheckInToken_ok]
  constructor
  · rintro ⟨application, hfind, event, hevent, _, hstatus, token, rfl, db', hstore, hpair⟩
    obtain ⟨rfl, rfl⟩ := Prod.mk.inj hpair
    exact ⟨application, event, hfind, hevent, hstatus, hstore, rfl⟩
  · rintro ⟨application, event, hfind, hevent, hstatus, hstore, rfl⟩
    exact ⟨application, hfind, event, hevent, (), hstatus, _, rfl, db', hstore, rfl⟩

theorem storePass_ok {hash : String} : db.storePass application hash now = .ok db' ↔
    (application.checkInTokenHash = none ∧ db.issue application.id hash now = db') ∨
      (application.checkInTokenHash = some hash ∧ db = db') := by
  unfold storePass
  cases application.checkInTokenHash <;> simp

/-- The passes that are stored are those of the first time they were opened. -/
theorem Issued.issue (h : db.Issued env) (hmem : application ∈ db.applications)
    (hevent : db.findEvent application.eventId = some event) :
    (db.issue application.id (checkInTokenHash env.toCheckInEnv
      (env.token event.id application.id (passExpiry event.endsAt now))) now).Issued env := by
  intro row hrow hash hhash
  obtain ⟨old, hold, rfl⟩ := mem_patch.mp hrow
  by_cases hid : old.id = application.id
  · have hsame : old = application := eq_of_unique db.uniqueApplications hold hmem hid
    subst hsame
    simp only [beq_self_eq_true, if_true, Option.some.injEq] at hhash ⊢
    refine ⟨now, rfl, ?_⟩
    intro event' hevent'
    have hfound : db.findEvent old.eventId = some event' := hevent'
    rw [hevent] at hfound
    obtain rfl := Option.some.inj hfound
    exact hhash.symm
  · rw [if_neg (by simpa using hid)] at hhash ⊢
    exact h old hold hash hhash

theorem Issued.keeps (h : db.Issued env) (hkeeps : db.Keeps db') : db'.Issued env := by
  intro application' hmem' hash hhash
  rcases hkeeps.passes application' hmem' with hnone | ⟨application, hmem, hid, hevent, hhash', hat⟩
  · rw [hnone] at hhash
    cases hhash
  · obtain ⟨issuedAt, hissued, hall⟩ := h application hmem hash (hhash' ▸ hhash)
    refine ⟨issuedAt, hat.trans hissued, ?_⟩
    intro event' hfind'
    rw [hevent] at hfind'
    obtain ⟨event, hfind, hends⟩ := hkeeps.schedules application hmem event' hfind'
    have heventId : event'.id = event.id :=
      (findEvent_ok hfind').2.trans (findEvent_ok hfind).2.symm
    rw [hid, heventId, ← hends]
    exact hall event hfind

theorem Issued.step (h : db.Issued env) (request : CheckInPassRequest)
    (hkeeps : db.Unchanged request) : (db.step env request).Issued env := by
  cases request with
  | «open» applicationId userId now =>
    refine commitOr_keeps (P := fun db' : CheckInPassDb => db'.Issued env) h ?_
    intro db' pass hok
    obtain ⟨application, event, hfind, hevent, -, hstore, -⟩ := getEventCheckInPass_ok.mp hok
    rcases storePass_ok.mp hstore with ⟨-, rfl⟩ | ⟨-, rfl⟩
    · exact h.issue (List.mem_of_find?_eq_some hfind) hevent
    · exact h
  | other change => exact h.keeps hkeeps

/-- A pass is shown exactly if it is the first one or has the stored hash; it is stored then. -/
theorem getEventCheckInPass_own (env : PassEnv) (now : Time)
    (hmem : application ∈ db.applications)
    (hstatus : application.status = .submitted ∨ application.status = .winner)
    (hevent : db.findEvent application.eventId = some event) :
    let token := env.token event.id application.id (passExpiry event.endsAt now)
    (∀ hash, application.checkInTokenHash = some hash →
      hash = checkInTokenHash env.toCheckInEnv token) →
    ∃ db' pass,
      getEventCheckInPass env db application.id application.userId now = .ok (db', pass) ∧
      pass.token = token ∧
      db'.tokenHash application.id = some (checkInTokenHash env.toCheckInEnv token) := by
  intro token hstored
  simp only [getEventCheckInPass_ok]
  cases hhash : application.checkInTokenHash with
  | none =>
    refine ⟨_, _, ⟨application, event, find_own hmem, hevent, hstatus,
      storePass_ok.mpr (.inl ⟨hhash, rfl⟩), rfl⟩, rfl, ?_⟩
    have hfind : (db.issue application.id (checkInTokenHash env.toCheckInEnv token) now
        ).findApplication application.id =
        (db.findApplication application.id).map fun row => { row with
          checkInTokenHash := some (checkInTokenHash env.toCheckInEnv token)
          checkInTokenIssuedAt := some now } :=
      find_patch_key (by intro _; rfl) db.applications application.id
    rw [tokenHash, hfind, findApplication_of_mem hmem]
    rfl
  | some hash =>
    have hsame := hstored hash hhash
    refine ⟨db, _, ⟨application, event, find_own hmem, hevent, hstatus,
      storePass_ok.mpr (.inr ⟨hsame ▸ hhash, rfl⟩), rfl⟩, rfl, ?_⟩
    rw [tokenHash, findApplication_of_mem hmem, ← hsame]
    exact hhash

/-- Without an end the pass depends on the time: it is only shown again in the second in which it
was issued, as long as no two passes of the application have the same hash. -/
theorem getEventCheckInPass_endless {hash : String} {issuedAt : Time} (h : db.Issued env)
    (hmem : application ∈ db.applications)
    (hstatus : application.status = .submitted ∨ application.status = .winner)
    (hevent : db.findEvent application.eventId = some event) (hends : event.endsAt = none)
    (hhash : application.checkInTokenHash = some hash)
    (hissued : application.checkInTokenIssuedAt = some issuedAt)
    (hcollision : ∀ exp exp',
      checkInTokenHash env.toCheckInEnv (env.token event.id application.id exp) =
        checkInTokenHash env.toCheckInEnv (env.token event.id application.id exp') → exp = exp') :
    (∃ db' pass, getEventCheckInPass env db application.id application.userId now =
      .ok (db', pass)) ↔ timestamp now = timestamp issuedAt := by
  have hexpiry (time : Time) : passExpiry event.endsAt time = timestamp time + 172800 := by
    simp only [passExpiry, hends, Option.getD_none, timestamp, days]
    omega
  obtain ⟨issuedAt', hissued', hall⟩ := h application hmem hash hhash
  rw [hissued] at hissued'
  obtain rfl := Option.some.inj hissued'
  have hstored := hall event hevent
  constructor
  · rintro ⟨db', pass, hok⟩
    obtain ⟨application', event', hfind, hevent', -, hstore, -⟩ := getEventCheckInPass_ok.mp hok
    rw [find_own hmem] at hfind
    obtain rfl := Option.some.inj hfind
    rw [hevent] at hevent'
    obtain rfl := Option.some.inj hevent'
    rcases storePass_ok.mp hstore with ⟨hnone, -⟩ | ⟨hsame, -⟩
    · rw [hhash] at hnone
      cases hnone
    · rw [hhash, hstored] at hsame
      have hexp := hcollision _ _ (Option.some.inj hsame)
      rw [hexpiry, hexpiry] at hexp
      omega
  · intro htime
    obtain ⟨db', pass, hok, -⟩ := getEventCheckInPass_own env now hmem hstatus hevent (by
        intro hash' hhash'
        rw [hhash] at hhash'
        obtain rfl := Option.some.inj hhash'
        rw [hstored, hexpiry, hexpiry, htime])
    exact ⟨db', pass, hok⟩

end

/-- Numbers in unary. -/
def unaryText (numbers : List Nat) : List Char :=
  numbers.flatMap fun n => List.replicate n '1' ++ ['0']

def unaryNumbers (count : Nat) : List Char → List Nat
  | [] => []
  | c :: text => if c = '0' then count :: unaryNumbers 0 text else unaryNumbers (count + 1) text

theorem unaryNumbers_text (numbers : List Nat) :
    unaryNumbers 0 (unaryText numbers) = numbers := by
  have hone (n count : Nat) (text : List Char) :
      unaryNumbers count (List.replicate n '1' ++ '0' :: text) =
        (count + n) :: unaryNumbers 0 text := by
    induction n generalizing count with
    | zero => simp [unaryNumbers]
    | succ n ih =>
      rw [List.replicate_succ, List.cons_append, unaryNumbers, if_neg (by decide), ih]
      congr 1
      omega
  induction numbers with
  | nil => rfl
  | cons n numbers ih =>
    simp only [unaryText, List.flatMap_cons, List.append_assoc, List.singleton_append] at ih ⊢
    rw [hone, ih, Nat.zero_add]

/-- The characters of a text and of another one after it. -/
def textPair (a b : String) : List Nat :=
  a.length :: (a.toList ++ b.toList).map Char.toNat

def splitPair : List Nat → String × String
  | [] => ("", "")
  | n :: codes =>
    let chars := codes.map Char.ofNat
    (String.ofList (chars.take n), String.ofList (chars.drop n))

theorem splitPair_textPair (a b : String) : splitPair (textPair a b) = (a, b) := by
  have hchars : ((a.toList ++ b.toList).map Char.toNat).map Char.ofNat = a.toList ++ b.toList := by
    rw [List.map_map]
    exact List.map_id'' Char.ofNat_toNat _
  rw [textPair, splitPair]
  simp only [hchars, ← String.length_toList, List.take_left, List.drop_left, String.ofList_toList]

/-- Claims as numbers in unary, and a signature that is always the same. -/
def unaryPass : PassEnv where
  signature _ := some "s"
  decode payload :=
    match unaryNumbers 0 payload.toList with
    | positive :: negative :: codes =>
      let ids := splitPair codes
      some ⟨some ids.1, some ids.2, (positive : Int) - negative⟩
    | _ => none
  sha256 := id
  encode eventId applicationId exp := String.ofList (unaryText
    (exp.toNat :: (-exp).toNat :: textPair eventId applicationId))
  encode_noDot eventId applicationId exp := by
    simp [unaryText, List.mem_replicate]
  encode_ascii _ _ _ := rfl
  decode_encode eventId applicationId exp := by
    simp only [String.toList_ofList, unaryNumbers_text, splitPair_textPair, Int.toNat_sub_toNat_neg]

/-- An event of one day, for which a fan has applied. -/
def dayEvent : CheckInPassDb where
  events := [{ id := "e1", title := "Meet", heroAssetId := "banner", startsAt := 0,
               endsAt := some (days 1), workflowStatus := .published, createdBy := "root" }]
  applications := [{ id := "a1", eventId := "e1", userId := "fan" }]
  eventIds := by decide
  applicationIds := by decide
  uniqueApplications := by decide

end CheckInPassDb

end Fanfolio
