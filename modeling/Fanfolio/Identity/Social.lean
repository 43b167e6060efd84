import Fanfolio.Identity.Schema

/-!
# Social login

The profile is read from the answer of the provider, and the account is found by the linked
identity or by the email of the profile, or created.
-/

namespace Fanfolio

open Framework

/-- A value of the JSON that a provider answers with. -/
inductive ProviderValue where
  | null
  | bool (b : Bool)
  | int (i : Int)
  | real (q : Rat)
  | str (s : String)
  | list (items : List ProviderValue)
  | dict (entries : List (String × ProviderValue))

abbrev ProviderDict := List (String × ProviderValue)

def ProviderDict.get (entries : ProviderDict) (key : String) : Option ProviderValue :=
  (entries.find? fun entry => entry.1 == key).map Prod.snd

namespace ProviderValue

/-- `value is True`. -/
def isTrue : Option ProviderValue → Bool
  | some (.bool true) => true
  | _ => false

/-- The text of a value that `isinstance(value, str)`. -/
def text : Option ProviderValue → Option String
  | some (.str s) => some s
  | _ => none

def nonEmptyText (value : Option ProviderValue) : Option String :=
  (text value).filter (· != "")

/-- The entries of a value that `isinstance(value, dict)`, or none. -/
def entries : Option ProviderValue → ProviderDict
  | some (.dict d) => d
  | _ => []

/-- `str(value)` of a value that `isinstance(value, (str, int))`; a `bool` is an `int`. -/
def subjectText : Option ProviderValue → Option String
  | some (.str s) => some s
  | some (.int i) => some (toString i)
  | some (.bool b) => some (if b then "True" else "False")
  | _ => none

end ProviderValue

structure OAuthSettings where
  googleClientId : String := ""
  googleClientSecret : String := ""
  kakaoClientId : String := ""
  kakaoClientSecret : String := ""
deriving DecidableEq, Repr

structure OAuthProfile where
  provider : String
  subject : String
  email : Option String
  nickname : Option String := none
  profileImageUrl : Option String := none
deriving DecidableEq, Repr

def socialProviderNotFound : AppError :=
  ⟨404, "SOCIAL_PROVIDER_NOT_FOUND", "지원하지 않는 소셜 로그인입니다."⟩

def socialProviderNotConfigured : AppError :=
  ⟨503, "SOCIAL_PROVIDER_NOT_CONFIGURED", "소셜 로그인 설정이 아직 완료되지 않았습니다."⟩

def socialEmailRequired : AppError :=
  ⟨422, "SOCIAL_EMAIL_REQUIRED", "이메일 인증이 완료된 계정만 사용할 수 있습니다."⟩

def socialProfileIncomplete : AppError :=
  ⟨422, "SOCIAL_PROFILE_INCOMPLETE", "소셜 계정에서 필요한 정보를 가져오지 못했습니다."⟩

/-- `OAuthError`. -/
def oauthError (message : String) : AppError := ⟨502, "SOCIAL_LOGIN_FAILED", message⟩

def oauthFailed : AppError := oauthError "소셜 로그인에 실패했습니다."

/-- The client id and secret of the provider. -/
def providerConfig (settings : OAuthSettings) (provider : String) :
    Except Failure (String × String) :=
  if provider = "google" then .ok (settings.googleClientId, settings.googleClientSecret)
  else if provider = "kakao" then .ok (settings.kakaoClientId, settings.kakaoClientSecret)
  else .error (.app socialProviderNotFound)

def ensureProviderConfigured (settings : OAuthSettings) (provider : String) :
    Except Failure Unit := do
  let config ← providerConfig settings provider
  ensure (config.1 ≠ "" ∧ config.2 ≠ "") (.app socialProviderNotConfigured)

/-- The body of an answer; none if the request fails or the answer is not JSON. -/
def providerRequest (reply : Option ProviderValue) : Except Failure ProviderDict :=
  match reply with
  | some (.dict body) => .ok body
  | _ => .error (.app oauthFailed)

/-- What the branch of a provider reads from the profile. -/
structure ProfileValues where
  subject : Option ProviderValue
  email : Option ProviderValue
  nickname : Option ProviderValue
  profileImageUrl : Option ProviderValue

def googleProfile (profile : ProviderDict) : Except Failure ProfileValues := do
  let email := profile.get "email"
  ensure (ProviderValue.isTrue (profile.get "email_verified")) (.app socialEmailRequired)
  ensure ((ProviderValue.nonEmptyText email).isSome) (.app socialEmailRequired)
  pure ⟨profile.get "sub", email, profile.get "name", profile.get "picture"⟩

def kakaoAccount (profile : ProviderDict) : ProviderDict :=
  ProviderValue.entries (profile.get "kakao_account")

def kakaoProfile (profile : ProviderDict) : ProfileValues :=
  let properties := ProviderValue.entries (profile.get "properties")
  ⟨profile.get "id", (kakaoAccount profile).get "email", properties.get "nickname",
    properties.get "profile_image"⟩

def profileValues (provider : String) (profile : ProviderDict) : Except Failure ProfileValues :=
  if provider = "google" then googleProfile profile else .ok (kakaoProfile profile)

/-- `lower` is Python's `str.lower`; the replies are the answers to the two requests. -/
def fetchOauthProfile (lower : String → String) (settings : OAuthSettings) (provider : String)
    (tokenReply profileReply : Option ProviderValue) : Except Failure OAuthProfile := do
  ensureProviderConfigured settings provider
  let tokenData ← providerRequest tokenReply
  ensure ((ProviderValue.nonEmptyText (tokenData.get "access_token")).isSome) (.app oauthFailed)
  let profile ← providerRequest profileReply
  let values ← profileValues provider profile
  let subject ← orFail (ProviderValue.subjectText values.subject) (.app socialProfileIncomplete)
  pure
    { provider := provider
      subject := subject
      email := (ProviderValue.nonEmptyText values.email).map lower
      nickname := ProviderValue.text values.nickname
      profileImageUrl := ProviderValue.text values.profileImageUrl }

/-- The identifiers that `upsert_social_user` draws. -/
structure SocialDraws where
  userId : UserId
  accountId : String
deriving DecidableEq, Repr

namespace OAuthProfile

variable (profile : OAuthProfile)

def newUser (userId : UserId) : Account :=
  { id := userId, email := profile.email, nickname := profile.nickname
    profileImageUrl := profile.profileImageUrl, role := .fan }

def newAccount (accountId : String) (userId : UserId) : SocialAccount :=
  { id := accountId, provider := profile.provider, subject := profile.subject, userId := userId
    email := profile.email }

/-- What a login with a linked identity writes to the row of the user. -/
def refreshed (user : Account) : Account :=
  { user with
    nickname := if truthy profile.nickname then profile.nickname else user.nickname
    profileImageUrl :=
      if truthy profile.profileImageUrl then profile.profileImageUrl else user.profileImageUrl
    email := if truthy profile.email && user.email.isNone then profile.email else user.email }

/-- What a login writes to the row of a linked identity. -/
def relinked (userId : UserId) (row : SocialAccount) : SocialAccount :=
  { row with
    userId := userId
    email := if truthy profile.email then profile.email else row.email }

/-- The fan that holds the email of the profile. -/
def knownFan (db : IdentityDb) : Option Account :=
  if truthy profile.email then profile.email.bind db.fanByEmail else none

end OAuthProfile

/-- The fan that holds the email of the profile, or a new one. -/
def fanForProfile (lower : String → String) (db : IdentityDb) (profile : OAuthProfile)
    (userId : UserId) : Except Failure (Account × IdentityDb) :=
  match profile.knownFan db with
  | some user => .ok (user, db)
  | none => do
    let user := profile.newUser userId
    let db ← db.insertUser lower user
    pure (user, db)

/-- The fan that a login with the identity of `linked` is for. -/
def ownerForProfile (lower : String → String) (db : IdentityDb) (profile : OAuthProfile)
    (linked : Account) (userId : UserId) : Except Failure (Account × IdentityDb) :=
  if linked.role = .fan then .ok (linked, db) else fanForProfile lower db profile userId

/-- The identity points to the user, and takes over the email of the profile. -/
def IdentityDb.relink (db : IdentityDb) (account : SocialAccount) (userId : UserId)
    (profile : OAuthProfile) : IdentityDb :=
  { db with
    socialAccounts := patch (·.id == account.id) (profile.relinked userId) db.socialAccounts }

/-- The user of the profile; `lower` is the function of the database. The writes are checked where
the caller flushes them. -/
def upsertSocialUser (lower : String → String) (db : IdentityDb) (profile : OAuthProfile)
    (draws : SocialDraws) : Except Failure (Account × IdentityDb) :=
  match db.socialAccount profile.provider profile.subject with
  | some account => do
    let linked ← orFail (db.findUser account.userId)
      (.app (oauthError "연결된 Fanfolio 계정을 찾을 수 없습니다."))
    let (user, db) ← ownerForProfile lower db profile linked draws.userId
    let db ← db.updateUser lower (profile.refreshed user)
    pure (profile.refreshed user, db.relink account user.id profile)
  | none => do
    let (user, db) ← fanForProfile lower db profile draws.userId
    let db ← db.insertSocialAccount (profile.newAccount draws.accountId user.id)
    pure (user, db)

/-- Drawn identifiers are new. -/
structure SocialDraws.Fresh (draws : SocialDraws) (db : IdentityDb) : Prop where
  userId : draws.userId ∉ db.users.map (·.id)
  accountId : draws.accountId ∉ db.socialAccounts.map (·.id)

namespace IdentityDb

/-- Another fan holds the email. -/
def HoldsEmail (db : IdentityDb) (email : String) (userId : UserId) : Prop :=
  ∃ user ∈ db.users, user.id ≠ userId ∧ user.role = .fan ∧ user.email = some email

/-- Another fan holds the nickname, up to case; blank nicknames are free. -/
def HoldsNickname (lower : String → String) (db : IdentityDb) (nickname : String)
    (userId : UserId) : Prop :=
  blank nickname = false ∧ ∃ user ∈ db.users, user.id ≠ userId ∧ user.role = .fan ∧
    ∃ held, user.nickname = some held ∧ blank held = false ∧ lower held = lower nickname

end IdentityDb

namespace OAuthProfile

variable (lower : String → String) (db : IdentityDb) (profile : OAuthProfile)

/-- The fan that the identity of the profile is linked to. -/
def linkedFan : Option Account :=
  ((db.socialAccount profile.provider profile.subject).bind fun account =>
    db.findUser account.userId).filter (·.role == .fan)

/-- The nickname of the profile, and its email where the row has none, are free for the row. -/
def FitsRow (user : Account) : Prop :=
  (∀ nickname, profile.nickname = some nickname → ¬db.HoldsNickname lower nickname user.id) ∧
    ∀ email, profile.email = some email → email ≠ "" → user.email = none →
      ¬db.HoldsEmail email user.id

/-- The nickname and the email of the profile are free for a new row. -/
def FitsNew (userId : UserId) : Prop :=
  (∀ nickname, profile.nickname = some nickname → ¬db.HoldsNickname lower nickname userId) ∧
    ∀ email, profile.email = some email → ¬db.HoldsEmail email userId

/-- What the login writes to `users` collides with no other fan. A fan that is found by its email,
and whose identity is new, is not written to. -/
def Fits (userId : UserId) : Prop :=
  match profile.linkedFan db, profile.knownFan db with
  | some user, _ => profile.FitsRow lower db user
  | none, some user =>
    (db.socialAccount profile.provider profile.subject).isSome → profile.FitsRow lower db user
  | none, none => profile.FitsNew lower db userId

/-- The user is a fan, and the only row of the identity points to it. -/
structure Linked (user : Account) : Prop where
  fan : user.role = .fan
  stored : user ∈ db.users
  owner : (db.socialAccounts.filter fun account =>
    (account.provider, account.subject) == (profile.provider, profile.subject)).map (·.userId) =
      [user.id]

/-- The login returns a fan, to which it has linked the identity, and keeps the constraints. -/
def SignsIn (draws : SocialDraws) : Prop :=
  ∃ user db', upsertSocialUser lower db profile draws = .ok (user, db') ∧
    profile.Linked db' user ∧ db'.Valid lower

end OAuthProfile

section

variable {lower : String → String} {db : IdentityDb} {profile : OAuthProfile} {user : Account}

theorem taken_email (hfan : user.role = .fan) : db.taken (·.emailKey) user = false ↔
    ∀ email, user.email = some email → ¬db.HoldsEmail email user.id := by
  rw [IdentityDb.taken_eq_false]
  constructor
  · rintro h email hemail ⟨other, hmem, hid, hrole, hother⟩
    exact h (.fan, email) (by simp [Account.emailKey, hemail, hfan]) other hmem hid
      (by simp [Account.emailKey, hother, hrole])
  · intro h k hk other hmem hid hother
    simp only [Account.emailKey, Option.map_eq_some_iff] at hk hother
    obtain ⟨email, hemail, rfl⟩ := hk
    obtain ⟨email', hemail', heq⟩ := hother
    obtain ⟨hrole, rfl⟩ := Prod.mk.inj heq
    exact h email' hemail ⟨other, hmem, hid, hrole.trans hfan, hemail'⟩

theorem taken_nickname (hfan : user.role = .fan) : db.taken (·.nicknameKey lower) user = false ↔
    ∀ nickname, user.nickname = some nickname → ¬db.HoldsNickname lower nickname user.id := by
  rw [IdentityDb.taken_eq_false]
  constructor
  · rintro h nickname hnickname ⟨hblank, other, hmem, hid, hrole, held, hheld, hother, hlower⟩
    exact h (.fan, lower nickname) (by simp [Account.nicknameKey, hnickname, hblank, hfan]) other
      hmem hid (by simp [Account.nicknameKey, hheld, hother, hrole, hlower])
  · intro h k hk other hmem hid hother
    simp only [Account.nicknameKey, Option.map_eq_some_iff, Option.filter_eq_some_iff] at hk hother
    obtain ⟨nickname, ⟨hnickname, hblank⟩, rfl⟩ := hk
    obtain ⟨held, ⟨hheld, hblank'⟩, heq⟩ := hother
    obtain ⟨hrole, hlower⟩ := Prod.mk.inj heq
    exact h nickname hnickname ⟨by simpa using hblank, other, hmem, hid, hrole.trans hfan, held,
      hheld, by simpa using hblank', hlower⟩

theorem checkUser_fan (user : Account) (hfan : user.role = .fan)
    (husername : db.taken (·.username) user = false) :
    db.checkUser lower user = .ok () ↔
      (∀ nickname, user.nickname = some nickname → ¬db.HoldsNickname lower nickname user.id) ∧
        ∀ email, user.email = some email → ¬db.HoldsEmail email user.id := by
  rw [IdentityDb.checkUser_ok, taken_email hfan, taken_nickname hfan, and_iff_right husername,
    and_comm]

theorem refreshed_newUser (userId : UserId) :
    profile.refreshed (profile.newUser userId) = profile.newUser userId := by
  simp [OAuthProfile.refreshed, OAuthProfile.newUser]

theorem checkUser_newUser (userId : UserId) :
    db.checkUser lower (profile.newUser userId) = .ok () ↔ profile.FitsNew lower db userId :=
  checkUser_fan _ rfl rfl

theorem checkUser_refreshed (hdb : db.Valid lower) (hmem : user ∈ db.users)
    (hfan : user.role = .fan) :
    db.checkUser lower (profile.refreshed user) = .ok () ↔ profile.FitsRow lower db user := by
  have hemail := (taken_email hfan).mp (hdb.emails user hmem)
  have hnickname := (taken_nickname hfan).mp (hdb.nicknames user hmem)
  rw [checkUser_fan (profile.refreshed user) hfan (hdb.usernames user hmem),
    OAuthProfile.FitsRow]
  refine and_congr ?_ ?_
  · constructor
    · intro h nickname hprofile hheld
      have htruthy : truthy (some nickname) = true := by
        rw [truthy, bne_iff_ne]
        rintro rfl
        exact absurd hheld.1 (by decide)
      exact h nickname (by simp [OAuthProfile.refreshed, htruthy, hprofile]) hheld
    · intro h nickname hrow
      simp only [OAuthProfile.refreshed] at hrow
      split at hrow
      · exact h nickname hrow
      · exact hnickname nickname hrow
  · constructor
    · intro h email hprofile hne hnone
      refine h email ?_
      simp [OAuthProfile.refreshed, truthy, hprofile, hne, hnone]
    · intro h email hrow
      simp only [OAuthProfile.refreshed] at hrow
      split at hrow
      · rename_i hcond
        simp only [hrow, truthy, Bool.and_eq_true, bne_iff_ne, Option.isNone_iff_eq_none] at hcond
        exact h email hrow hcond.1 hcond.2
      · exact hemail email hrow

theorem fanByEmail_mem {email : String} (h : db.fanByEmail email = some user) :
    user ∈ db.users ∧ user.role = .fan ∧ user.email = some email := by
  have hfound := List.find?_some (p := fun row : Account => row.email == some email &&
    row.role == .fan) h
  rw [Bool.and_eq_true, beq_iff_eq, beq_iff_eq] at hfound
  exact ⟨List.mem_of_find?_eq_some h, hfound.2, hfound.1⟩

theorem knownFan_mem (h : profile.knownFan db = some user) :
    user ∈ db.users ∧ user.role = .fan ∧ user.email = profile.email ∧ truthy profile.email := by
  unfold OAuthProfile.knownFan at h
  split at h
  · rename_i htruthy
    obtain ⟨email, hemail, hfound⟩ := Option.bind_eq_some_iff.mp h
    obtain ⟨hmem, hfan, hrow⟩ := fanByEmail_mem hfound
    exact ⟨hmem, hfan, hrow.trans hemail.symm, htruthy⟩
  · cases h

theorem fanForProfile_known {userId : UserId} (h : profile.knownFan db = some user) :
    fanForProfile lower db profile userId = .ok (user, db) := by
  simp only [fanForProfile, h]

theorem fanForProfile_new {userId : UserId} (h : profile.knownFan db = none)
    (hfresh : userId ∉ db.users.map (·.id)) {r : Account × IdentityDb} :
    fanForProfile lower db profile userId = .ok r ↔ profile.FitsNew lower db userId ∧
      r = (profile.newUser userId, { db with users := db.users ++ [profile.newUser userId] }) := by
  simp only [fanForProfile, h, bind_ok, pure_ok, IdentityDb.insertUser_ok, checkUser_newUser]
  constructor
  · rintro ⟨_, ⟨-, hfits, rfl⟩, rfl⟩
    exact ⟨hfits, rfl⟩
  · rintro ⟨hfits, rfl⟩
    exact ⟨_, ⟨hfresh, hfits, rfl⟩, rfl⟩

/-- The account found or created is a stored fan, and nothing but a new row was written. -/
theorem fanForProfile_ok (hdb : db.Valid lower) {userId : UserId} {db' : IdentityDb}
    (h : fanForProfile lower db profile userId = .ok (user, db')) :
    user.role = .fan ∧ user ∈ db'.users ∧ db'.Valid lower ∧
      db'.socialAccounts = db.socialAccounts := by
  unfold fanForProfile at h
  split at h
  · rename_i known hknown
    obtain ⟨rfl, rfl⟩ := Prod.mk.inj (Except.ok.inj h)
    obtain ⟨hmem, hfan, -⟩ := knownFan_mem hknown
    exact ⟨hfan, hmem, hdb, rfl⟩
  · simp only [bind_ok, pure_ok] at h
    obtain ⟨db₁, hinsert, heq⟩ := h
    obtain ⟨rfl, rfl⟩ := Prod.mk.inj heq
    refine ⟨rfl, ?_, hdb.insertUser hinsert, ?_⟩
    · obtain ⟨-, -, rfl⟩ := IdentityDb.insertUser_ok.mp hinsert
      exact List.mem_append_right _ (List.mem_singleton_self _)
    · obtain ⟨-, -, rfl⟩ := IdentityDb.insertUser_ok.mp hinsert
      rfl

theorem socialAccount_mem {provider subject : String} {account : SocialAccount}
    (h : db.socialAccount provider subject = some account) :
    account ∈ db.socialAccounts ∧ (account.provider, account.subject) = (provider, subject) :=
  mem_of_find_eq_some h

/-- What follows once the account is known: its row is refreshed and the identity points to it. -/
theorem relink_linked (hdb : db.Valid lower) {account : SocialAccount}
    (haccount : account ∈ db.socialAccounts)
    (hsubject : (account.provider, account.subject) = (profile.provider, profile.subject))
    (hmem : user ∈ db.users) (hfan : user.role = .fan)
    (hcheck : db.checkUser lower (profile.refreshed user) = .ok ()) :
    profile.Linked ((db.setUser (profile.refreshed user)).relink account user.id profile)
      (profile.refreshed user) ∧
    ((db.setUser (profile.refreshed user)).relink account user.id profile).Valid lower := by
  have hset := hdb.setUser hcheck
  have howner : user.id ∈ db.users.map (·.id) := List.mem_map_of_mem hmem
  refine ⟨⟨hfan, IdentityDb.mem_setUser.mpr (.inr ⟨rfl, howner⟩), ?_⟩, ?_⟩
  · simp only [IdentityDb.relink, ← hsubject]
    rw [filter_patch (by intro _; rfl)]
    have honly := filter_of_mem (g := fun row : SocialAccount => (row.provider, row.subject))
      hdb.subjects haccount
    rw [show (db.setUser (profile.refreshed user)).socialAccounts = db.socialAccounts from rfl,
      honly]
    simp [patch, OAuthProfile.relinked, OAuthProfile.refreshed]
  · refine { hset with socialIds := ?_, subjects := ?_, owners := ?_ }
    · rw [IdentityDb.relink, map_patch (by intro _; rfl)]
      exact hset.socialIds
    · rw [IdentityDb.relink, map_patch (by intro _; rfl)]
      exact hset.subjects
    · intro row hrow
      obtain ⟨row', hrow', rfl⟩ := mem_patch.mp hrow
      split
      · rw [show (IdentityDb.relink _ account user.id profile).users =
          (db.setUser (profile.refreshed user)).users from rfl, IdentityDb.setUser_ids]
        exact howner
      · exact hset.owners row' hrow'

theorem insertSocialAccount_linked (hdb : db.Valid lower) {accountId : String}
    (hfresh : accountId ∉ db.socialAccounts.map (·.id))
    (hnone : db.socialAccount profile.provider profile.subject = none)
    (hmem : user ∈ db.users) (hfan : user.role = .fan) :
    ∃ db', db.insertSocialAccount (profile.newAccount accountId user.id) = .ok db' ∧
      profile.Linked db' user ∧ db'.Valid lower := by
  have hother (row : SocialAccount) (hrow : row ∈ db.socialAccounts) :
      (row.provider, row.subject) ≠ (profile.provider, profile.subject) := by
    simpa using List.find?_eq_none.mp hnone row hrow
  refine ⟨{ db with socialAccounts := db.socialAccounts ++ [profile.newAccount accountId user.id] },
    ?_, ⟨hfan, hmem, ?_⟩, ?_⟩
  · simp only [IdentityDb.insertSocialAccount, bind_ok, ensure_ok]
    exact ⟨(), hfresh, (), by simp [OAuthProfile.newAccount, hnone], rfl⟩
  · rw [List.filter_append, List.filter_eq_nil_iff.mpr (by simpa using hother)]
    simp [OAuthProfile.newAccount]
  · refine { hdb with socialIds := ?_, subjects := ?_, owners := ?_ }
    · exact nodup_insert hdb.socialIds fun row hrow hid => hfresh (List.mem_map.mpr ⟨row, hrow, hid⟩)
    · exact nodup_insert hdb.subjects hother
    · intro row hrow
      rcases List.mem_append.mp hrow with hrow | hrow
      · exact hdb.owners row hrow
      · rw [List.mem_singleton.mp hrow]
        exact List.mem_map_of_mem hmem

theorem linkedFan_some (h : profile.linkedFan db = some user) : ∃ account,
    db.socialAccount profile.provider profile.subject = some account ∧
      db.findUser account.userId = some user ∧ user.role = .fan := by
  obtain ⟨hfound, hfan⟩ := Option.filter_eq_some_iff.mp h
  obtain ⟨account, haccount, huser⟩ := Option.bind_eq_some_iff.mp hfound
  exact ⟨account, haccount, huser, beq_iff_eq.mp hfan⟩

theorem linkedFan_none (hdb : db.Valid lower) (h : profile.linkedFan db = none)
    {account : SocialAccount}
    (haccount : db.socialAccount profile.provider profile.subject = some account) :
    ∃ linked, db.findUser account.userId = some linked ∧ linked.role ≠ .fan := by
  cases hlinked : db.findUser account.userId with
  | none =>
    have howner := hdb.owners account (socialAccount_mem haccount).1
    exact absurd howner (find_eq_none_iff.mp hlinked)
  | some linked =>
    refine ⟨linked, rfl, ?_⟩
    intro hfan
    simp [OAuthProfile.linkedFan, haccount, hlinked, hfan] at h

theorem upsert_existing {account : SocialAccount} {linked : Account}
    (haccount : db.socialAccount profile.provider profile.subject = some account)
    (hlinked : db.findUser account.userId = some linked) {draws : SocialDraws}
    {db' : IdentityDb} :
    upsertSocialUser lower db profile draws = .ok (user, db') ↔
      ∃ owner db₁, ownerForProfile lower db profile linked draws.userId = .ok (owner, db₁) ∧
        db₁.checkUser lower (profile.refreshed owner) = .ok () ∧ user = profile.refreshed owner ∧
        db' = (db₁.setUser (profile.refreshed owner)).relink account owner.id profile := by
  simp only [upsertSocialUser, haccount, hlinked, bind_ok, orFail_ok, pure_ok, Prod.mk.injEq,
    IdentityDb.updateUser_ok]
  constructor
  · rintro ⟨_, heq, ⟨owner, db₁⟩, howner, _, ⟨hcheck, rfl⟩, rfl, rfl⟩
    rw [← Option.some.inj heq] at howner
    exact ⟨owner, db₁, howner, hcheck, rfl, rfl⟩
  · rintro ⟨owner, db₁, howner, hcheck, rfl, rfl⟩
    exact ⟨linked, rfl, (owner, db₁), howner, _, ⟨hcheck, rfl⟩, rfl, rfl⟩

theorem upsert_new (hnone : db.socialAccount profile.provider profile.subject = none)
    {draws : SocialDraws} {db' : IdentityDb} :
    upsertSocialUser lower db profile draws = .ok (user, db') ↔
      ∃ db₁, fanForProfile lower db profile draws.userId = .ok (user, db₁) ∧
        db₁.insertSocialAccount (profile.newAccount draws.accountId user.id) = .ok db' := by
  simp only [upsertSocialUser, hnone, bind_ok, pure_ok, Prod.mk.injEq]
  constructor
  · rintro ⟨⟨_, db₁⟩, howner, _, hinsert, rfl, rfl⟩
    exact ⟨db₁, howner, hinsert⟩
  · rintro ⟨db₁, howner, hinsert⟩
    exact ⟨(user, db₁), howner, db', hinsert, rfl, rfl⟩

/-- The identity is linked to a fan: its row is refreshed. -/
theorem upsert_linked (hdb : db.Valid lower) (hlinked : profile.linkedFan db = some user)
    (draws : SocialDraws) :
    profile.SignsIn lower db draws ↔ profile.FitsRow lower db user := by
  obtain ⟨account, haccount, huser, hfan⟩ := linkedFan_some hlinked
  obtain ⟨hmem, -⟩ := IdentityDb.findUser_mem huser
  obtain ⟨hstored, hsubject⟩ := socialAccount_mem haccount
  have howner : ownerForProfile lower db profile user draws.userId = .ok (user, db) :=
    if_pos hfan
  rw [← checkUser_refreshed hdb hmem hfan]
  simp only [OAuthProfile.SignsIn, upsert_existing haccount huser, howner]
  constructor
  · rintro ⟨_, _, ⟨_, _, heq, hcheck, -, -⟩, -⟩
    obtain ⟨rfl, rfl⟩ := Prod.mk.inj (Except.ok.inj heq)
    exact hcheck
  · intro hcheck
    exact ⟨_, _, ⟨user, db, rfl, hcheck, rfl, rfl⟩,
      relink_linked hdb hstored hsubject hmem hfan hcheck⟩

/-- The identity is linked to no fan, and a fan holds the email. -/
theorem upsert_known (hdb : db.Valid lower) {draws : SocialDraws} (hdraws : draws.Fresh db)
    (hlinked : profile.linkedFan db = none) (hknown : profile.knownFan db = some user) :
    profile.SignsIn lower db draws ↔
    ((db.socialAccount profile.provider profile.subject).isSome →
      profile.FitsRow lower db user) := by
  obtain ⟨hmem, hfan, -⟩ := knownFan_mem hknown
  have hfound : fanForProfile lower db profile draws.userId = .ok (user, db) :=
    fanForProfile_known hknown
  cases haccount : db.socialAccount profile.provider profile.subject with
  | none =>
    simp only [OAuthProfile.SignsIn, upsert_new haccount, hfound, Option.isSome_none]
    refine ⟨fun _ h => (by cases h), fun _ => ?_⟩
    obtain ⟨db', hinsert, hresult⟩ :=
      insertSocialAccount_linked hdb hdraws.accountId haccount hmem hfan
    exact ⟨user, db', ⟨db, rfl, hinsert⟩, hresult⟩
  | some account =>
    obtain ⟨linked, hfoundLinked, hrole⟩ := linkedFan_none hdb hlinked haccount
    have howner : ownerForProfile lower db profile linked draws.userId = .ok (user, db) := by
      rw [ownerForProfile, if_neg hrole, hfound]
    obtain ⟨hstored, hsubject⟩ := socialAccount_mem haccount
    simp only [OAuthProfile.SignsIn, upsert_existing haccount hfoundLinked, howner,
      Option.isSome_some, true_imp_iff, ← checkUser_refreshed hdb hmem hfan]
    constructor
    · rintro ⟨_, _, ⟨_, _, heq, hcheck, -, -⟩, -⟩
      obtain ⟨rfl, rfl⟩ := Prod.mk.inj (Except.ok.inj heq)
      exact hcheck
    · intro hcheck
      exact ⟨_, _, ⟨user, db, rfl, hcheck, rfl, rfl⟩,
        relink_linked hdb hstored hsubject hmem hfan hcheck⟩

/-- The identity is linked to no fan, and no fan holds the email: a fan is created. -/
theorem upsert_created (hdb : db.Valid lower) {draws : SocialDraws} (hdraws : draws.Fresh db)
    (hlinked : profile.linkedFan db = none) (hknown : profile.knownFan db = none) :
    profile.SignsIn lower db draws ↔ profile.FitsNew lower db draws.userId := by
  have hfound (r : Account × IdentityDb) : fanForProfile lower db profile draws.userId = .ok r ↔ _ :=
    fanForProfile_new hknown hdraws.userId
  constructor
  · rintro ⟨user', db', hok, -⟩
    cases haccount : db.socialAccount profile.provider profile.subject with
    | none =>
      obtain ⟨db₁, hnew, -⟩ := (upsert_new haccount).mp hok
      exact ((hfound _).mp hnew).1
    | some account =>
      obtain ⟨linked, hfoundLinked, hrole⟩ := linkedFan_none hdb hlinked haccount
      obtain ⟨owner, db₁, hnew, -⟩ := (upsert_existing haccount hfoundLinked).mp hok
      rw [ownerForProfile, if_neg hrole] at hnew
      exact ((hfound _).mp hnew).1
  · intro hfits
    have hnew := (hfound _).mpr ⟨hfits, rfl⟩
    obtain ⟨hfan, hmem, hvalid, hsame⟩ := fanForProfile_ok hdb hnew
    cases haccount : db.socialAccount profile.provider profile.subject with
    | none =>
      obtain ⟨db', hinsert, hresult⟩ := insertSocialAccount_linked hvalid
        (hsame ▸ hdraws.accountId) haccount hmem hfan
      exact ⟨_, db', (upsert_new haccount).mpr ⟨_, hnew, hinsert⟩, hresult⟩
    | some account =>
      obtain ⟨linked, hfoundLinked, hrole⟩ := linkedFan_none hdb hlinked haccount
      obtain ⟨hstored, hsubject⟩ := socialAccount_mem haccount
      have howner : ownerForProfile lower db profile linked draws.userId = _ :=
        (if_neg hrole).trans hnew
      have hcheck := hvalid.checkUser hmem
      nth_rewrite 2 [← refreshed_newUser] at hcheck
      exact ⟨_, _, (upsert_existing haccount hfoundLinked).mpr ⟨_, _, howner, hcheck, rfl, rfl⟩,
        relink_linked hvalid (hsame ▸ hstored) hsubject hmem hfan hcheck⟩

/-- A social login links a fan and keeps the table constraints exactly if what it writes to
`users` collides with no other fan. -/
theorem upsertSocialUser_iff_fits (hdb : db.Valid lower) {draws : SocialDraws}
    (hdraws : draws.Fresh db) :
    profile.SignsIn lower db draws ↔ profile.Fits lower db draws.userId := by
  unfold OAuthProfile.Fits
  cases hlinked : profile.linkedFan db with
  | some user => exact upsert_linked hdb hlinked draws
  | none =>
    cases hknown : profile.knownFan db with
    | some user => exact upsert_known hdb hdraws hlinked hknown
    | none => exact upsert_created hdb hdraws hlinked hknown

end

/-- One fan, who goes by a nickname. -/
def oneFan : IdentityDb :=
  { users := [{ id := "user_a", email := some "a@example.com", nickname := some "별빛" }] }

theorem oneFan_valid : oneFan.Valid id where
  userIds := by decide
  emails := by decide
  usernames := by decide
  nicknames := by decide
  socialIds := by decide
  subjects := by decide
  owners := by decide

theorem oneFan_fresh : SocialDraws.Fresh ⟨"user_b", "social_b"⟩ oneFan := ⟨by decide, by decide⟩

theorem upsertSocialUser_other_nickname :
    OAuthProfile.SignsIn id oneFan ⟨"google", "sub-b", some "b@example.com", some "달빛", none⟩
      ⟨"user_b", "social_b"⟩ := by
  rw [upsertSocialUser_iff_fits oneFan_valid oneFan_fresh]
  constructor
  · rintro _ ⟨⟩ ⟨-, other, hmem, -, -, held, hheld, -, hsame⟩
    obtain rfl := List.mem_singleton.mp hmem
    cases hheld
    exact absurd hsame (by decide)
  · rintro _ ⟨⟩ ⟨other, hmem, -, -, hemail⟩
    obtain rfl := List.mem_singleton.mp hmem
    exact absurd hemail (by decide)

/-- A new fan whose provider nickname is another fan's cannot log in. -/
theorem upsertSocialUser_same_nickname :
    oneFan.Valid id ∧ SocialDraws.Fresh ⟨"user_b", "social_b"⟩ oneFan ∧
      upsertSocialUser id oneFan ⟨"google", "sub-b", some "b@example.com", some "별빛", none⟩
        ⟨"user_b", "social_b"⟩ = .error (.integrity "uq_users_role_nickname_ci") ∧
      ¬OAuthProfile.SignsIn id oneFan
        ⟨"google", "sub-b", some "b@example.com", some "별빛", none⟩ ⟨"user_b", "social_b"⟩ := by
  have hfails : upsertSocialUser id oneFan
      ⟨"google", "sub-b", some "b@example.com", some "별빛", none⟩ ⟨"user_b", "social_b"⟩ =
        .error (.integrity "uq_users_role_nickname_ci") := by decide
  refine ⟨oneFan_valid, oneFan_fresh, hfails, ?_⟩
  rintro ⟨user, db', hok, -⟩
  rw [hfails] at hok
  cases hok

end Fanfolio
