import Fanfolio.Identity.Tokens

/-!
# Logging in and leaving

Sign-up, password login, magic links, social login with its exchange code, the refresh of tokens,
and the deletion of an account.
-/

namespace Fanfolio

open Framework

namespace IdentityDb

def findMagicLink (db : IdentityDb) (tokenHash : String) : Option MagicLink :=
  db.magicLinks.find? (·.tokenHash == tokenHash)

def findOauthState (db : IdentityDb) (stateHash : String) : Option OAuthState :=
  db.oauthStates.find? (·.stateHash == stateHash)

def findExchangeCode (db : IdentityDb) (codeHash : String) : Option OAuthExchangeCode :=
  db.exchangeCodes.find? (·.codeHash == codeHash)

def consumeMagicLink (db : IdentityDb) (tokenHash : String) (now : Time) : IdentityDb :=
  { db with
    magicLinks := patch (·.tokenHash == tokenHash) ({ · with consumedAt := some now })
      db.magicLinks }

def consumeState (db : IdentityDb) (stateHash : String) (now : Time) : IdentityDb :=
  { db with
    oauthStates := patch (·.stateHash == stateHash) ({ · with consumedAt := some now })
      db.oauthStates }

def consumeCode (db : IdentityDb) (codeHash : String) (now : Time) : IdentityDb :=
  { db with
    exchangeCodes := patch (·.codeHash == codeHash) ({ · with consumedAt := some now })
      db.exchangeCodes }

end IdentityDb

def authRequired (message : String) : Failure := .app ⟨401, "AUTH_REQUIRED", message⟩

def invalidCredentials : Failure :=
  .app ⟨401, "INVALID_CREDENTIALS", "이메일 또는 비밀번호가 올바르지 않습니다."⟩

/-- The fan that a request is authenticated as. -/
def fanUser (db : IdentityDb) (userId : UserId) : Except Failure Account := do
  let user ← orFail (db.findUser userId) authTokenInvalid
  ensure (user.deletedAt = none) authTokenInvalid
  ensure (user.role = .fan) (.app ⟨403, "FORBIDDEN", "권한이 없습니다."⟩)
  pure user

section Passwords

variable (env : AuthEnv) (db : IdentityDb)

def fanPasswordSignup (email passwordHash : String) (userId : UserId) (draws : TokenDraws)
    (now : Time) : Except Failure (RefreshToken × IdentityDb) := do
  let email := env.pythonLower email
  ensure ((db.fanByEmail email).isNone)
    (.app ⟨409, "EMAIL_ALREADY_REGISTERED", "이미 가입된 이메일입니다."⟩)
  let user : Account := { id := userId, email := some email, passwordHash := some passwordHash }
  let db ← db.insertUser env.lower user
  issueTokenPair env db user "fan" draws now

/-- The login forms look up the column of their role. -/
def passwordAccount (role : Role) (identifier : String) : Option Account :=
  match role with
  | .artist => db.users.find? fun user => user.username == some identifier && user.role == .artist
  | role => db.users.find? fun user => user.email == some identifier && user.role == role

/-- `load_admin_context`, which only the login and the refresh of an admin ask. -/
def adminContext (isAdmin : Bool) (context : Except Failure Unit) : Except Failure Unit :=
  if isAdmin then context else .ok ()

/-- `fan_password_login`, `artist_password_login` and `admin_password_login`; `context` is what
`load_admin_context` answers for the user. -/
def passwordLogin (role : Role) (identifier password : String) (context : Except Failure Unit)
    (draws : TokenDraws) (now : Time) : Except Failure (RefreshToken × IdentityDb) := do
  let user ← orFail (passwordAccount db role (env.pythonLower identifier)) invalidCredentials
  ensure (env.verifyPassword password user.passwordHash) invalidCredentials
  adminContext (role = .admin) context
  issueTokenPair env db user role.value draws now

end Passwords

section MagicLinks

variable (env : AuthEnv) (db : IdentityDb)

/-- `request_magic_link`. -/
def requestMagicLink (email purpose token : String) (now : Time) : Except Failure IdentityDb := do
  ensure (env.hash token ∉ db.magicLinks.map (·.tokenHash)) (.integrity "magic_links_pkey")
  pure { db with
    magicLinks := db.magicLinks ++
      [{ tokenHash := env.hash token, email := env.pythonLower email, purpose := purpose
         expiresAt := now + 900000000 }] }

/-- The link is there, unused and not expired. -/
def usableLink (token : String) (now : Time) : Option MagicLink :=
  (db.findMagicLink (env.hash token)).filter fun link =>
    link.consumedAt.isNone && decide (now < link.expiresAt)

/-- The user of a link: the fan, or the only user, with its email. -/
def linkUser (email : String) : Option Account :=
  let matching := db.users.filter (·.email == some email)
  (matching.find? (·.role == .fan)).or (if matching.length = 1 then matching.head? else none)

/-- The user of a link, or a new fan. -/
def linkAccount (email : String) (userId : UserId) : Except Failure (Account × IdentityDb) :=
  match linkUser db email with
  | some user => .ok (user, db)
  | none => do
    let user : Account := { id := userId, email := some email, role := .fan }
    let db ← db.insertUser env.lower user
    pure (user, db)

/-- The user logs in with a browser session, where the app is not hosted. -/
def openSession (userId : UserId) (sessionToken : String) : IdentityDb :=
  if env.isHosted then db
  else { db with sessions := db.sessions ++ [⟨sessionToken, userId⟩] }

/-- What `verify_magic_link` does with the link it has read. -/
def completeMagicLink (link : MagicLink) (userId : UserId) (sessionToken : String) (now : Time) :
    Except Failure (UserId × IdentityDb) := do
  let (user, db) ← linkAccount env db link.email userId
  pure (user.id, openSession env (db.consumeMagicLink link.tokenHash now) user.id sessionToken)

/-- `verify_magic_link`, which commits. -/
def verifyMagicLink (token : String) (userId : UserId) (sessionToken : String) (now : Time) :
    Except Failure (UserId × IdentityDb) := do
  let link ← orFail (usableLink env db token now)
    (.app ⟨401, "MAGIC_LINK_INVALID", "유효하지 않거나 만료된 매직 링크입니다."⟩)
  completeMagicLink env db link userId sessionToken now

/-- What `verify_magic_link_endpoint` does once the link is consumed. -/
def magicLinkTokens (userId : UserId) (client : Option String) (draws : TokenDraws) (now : Time) :
    Except Failure (RefreshToken × IdentityDb) := do
  let user ← orFail (db.findUser userId) (authRequired "로그인 계정을 찾을 수 없습니다.")
  issueTokenPair env db user (client.getD "fan") draws now

def passwordResetInvalid : Failure :=
  .app ⟨401, "PASSWORD_RESET_INVALID", "유효하지 않거나 만료된 재설정 링크입니다."⟩

/-- What `confirm_fan_password_reset` does with the link it has read. -/
def completePasswordReset (link : MagicLink) (passwordHash : String) (now : Time) :
    Except Failure IdentityDb := do
  let user ← orFail (db.fanByEmail link.email) passwordResetInvalid
  pure ((db.setUser { user with passwordHash := some passwordHash }).consumeMagicLink
    link.tokenHash now)

/-- The link is usable, and for a reset. -/
def resetLink (token : String) (now : Time) : Option MagicLink :=
  (usableLink env db token now).filter (·.purpose == "reset_password")

def confirmFanPasswordReset (token passwordHash : String) (now : Time) :
    Except Failure IdentityDb := do
  let link ← orFail (resetLink env db token now) passwordResetInvalid
  completePasswordReset db link passwordHash now

end MagicLinks

section SocialLogins

variable (env : AuthEnv) (db : IdentityDb)

def socialStateInvalid : Failure :=
  .app ⟨401, "SOCIAL_STATE_INVALID", "소셜 로그인 요청이 만료되었거나 유효하지 않습니다."⟩

/-- The state is there, for the provider, unused and not expired. -/
def usableState (provider rawState : String) (now : Time) : Option OAuthState :=
  (db.findOauthState (env.hash rawState)).filter fun row =>
    row.provider == provider && row.consumedAt.isNone && decide (now < row.expiresAt)

def consumeOauthState (provider rawState : String) (now : Time) :
    Except Failure (OAuthState × IdentityDb) := do
  let row ← orFail (usableState env db provider rawState now) socialStateInvalid
  pure (row, db.consumeState row.stateHash now)

def createExchangeCode (user : Account) (client rawCode : String) (now : Time) :
    Except Failure IdentityDb := do
  ensure (env.hash rawCode ∉ db.exchangeCodes.map (·.codeHash))
    (.integrity "oauth_exchange_codes_pkey")
  pure { db with
    exchangeCodes := db.exchangeCodes ++
      [{ codeHash := env.hash rawCode, userId := user.id, client := client
         expiresAt := now + env.exchangeCodeTtl }] }

/-- What `oauth_callback` does once the state is consumed. -/
def completeCallback (state : OAuthState) (provider : String)
    (tokenReply profileReply : Option ProviderValue) (draws : SocialDraws) (rawCode : String)
    (now : Time) : Except Failure IdentityDb := do
  let profile ← fetchOauthProfile env.pythonLower env.oauth provider tokenReply profileReply
  let (user, db) ← upsertSocialUser env.lower db profile draws
  createExchangeCode env db user state.client rawCode now

/-- `oauth_callback` of a request that carries the matching cookie. -/
def oauthCallback (provider rawState : String) (tokenReply profileReply : Option ProviderValue)
    (draws : SocialDraws) (rawCode : String) (now : Time) : Except Failure IdentityDb := do
  let (state, db) ← consumeOauthState env db provider rawState now
  completeCallback env db state provider tokenReply profileReply draws rawCode now

def socialExchangeInvalid : Failure :=
  .app ⟨401, "SOCIAL_EXCHANGE_INVALID", "소셜 로그인 교환 코드가 유효하지 않습니다."⟩

/-- The code is there, for the client, unused and not expired. -/
def usableCode (rawCode client : String) (now : Time) : Option OAuthExchangeCode :=
  (db.findExchangeCode (env.hash rawCode)).filter fun row =>
    row.client == client && row.consumedAt.isNone && decide (now < row.expiresAt)

/-- What `exchange_code_for_tokens` does with the code it has locked. -/
def completeExchange (row : OAuthExchangeCode) (client : String) (draws : TokenDraws) (now : Time) :
    Except Failure (RefreshToken × IdentityDb) := do
  let user ← orFail (db.findUser row.userId)
    (.app (oauthError "소셜 로그인 계정을 찾을 수 없습니다."))
  issueTokenPair env (db.consumeCode row.codeHash now) user client draws now

def exchangeCodeForTokens (rawCode client : String) (draws : TokenDraws) (now : Time) :
    Except Failure (RefreshToken × IdentityDb) := do
  let row ← orFail (usableCode env db rawCode client now) socialExchangeInvalid
  completeExchange env db row client draws now

end SocialLogins

section Sessions

variable (env : AuthEnv) (db : IdentityDb)

/-- `refresh_access_token`; `context` is what `load_admin_context` answers for the user. -/
def refreshAccessToken (rawToken client : String) (context : Except Failure Unit)
    (draws : TokenDraws) (now : Time) : IdentityDb :=
  match rotateRefreshToken env db rawToken client draws now with
  | (rotated, .error _) => rotated
  | (rotated, .ok _) =>
    match adminContext (client = "admin") context with
    | .ok () => rotated
    | .error _ => db

/-- `logout` with the tokens that the request carries. -/
def logout (sessionToken refreshToken : Option String) (client : String) (now : Time) :
    IdentityDb :=
  let db := match sessionToken with
    | some token => { db with sessions := db.sessions.filter (·.token != token) }
    | none => db
  match (do
      let rawToken ← refreshToken
      let claims ← (decodeRefreshToken env rawToken client now).toOption
      db.findRefreshToken claims.jti) with
  | some row => revokeRefreshFamily db row.familyId now
  | none => db

/-- `update_profile`, with favourites that pass their check. -/
def updateProfile (user : Account) (nickname : String) (artistIds memberIds : List String)
    (imageUrl : Option String) : Except Failure IdentityDb := do
  ensure (nickname ≠ "") (.app ⟨422, "INVALID_NICKNAME", "닉네임을 입력해 주세요."⟩)
  ensure (db.users.all fun other => !(other.role == .fan && other.id != user.id &&
      other.nickname.map env.lower == some (env.pythonLower nickname)))
    (.app ⟨409, "NICKNAME_ALREADY_TAKEN", "이미 사용 중인 닉네임입니다."⟩)
  db.updateUser env.lower
    { user with nickname := some nickname, favoriteArtistIds := artistIds
                favoriteMemberIds := memberIds, profileImageUrl := imageUrl
                onboardingCompleted := true }

def deletedNickname : String := "탈퇴한 사용자"

/-- What `delete_account` leaves of a row. -/
def Account.anonymized (now : Time) (user : Account) : Account :=
  { id := user.id, role := user.role, nickname := some deletedNickname, deletedAt := some now }

def deleteAccount (lower : String → String) (confirmation : String) (user : Account) (now : Time) :
    Except Failure IdentityDb := do
  ensure (confirmation = "DELETE MY ACCOUNT") (.app ⟨422, "INVALID_ACCOUNT_DELETION_CONFIRMATION",
    "계정 삭제를 진행하려면 확인 문구를 정확히 입력해 주세요."⟩)
  let db ← db.updateUser lower (user.anonymized now)
  pure { db with
    sessions := db.sessions.filter (·.userId != user.id)
    refreshTokens := patch (fun row => row.userId == user.id && row.revokedAt.isNone)
      (·.revoke now) db.refreshTokens
    pushDevices := patch (·.userId == user.id) ({ · with enabled := false }) db.pushDevices }

end Sessions

end Fanfolio
