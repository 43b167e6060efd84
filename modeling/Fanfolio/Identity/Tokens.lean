import Fanfolio.Identity.Social

/-!
# Refresh tokens

A refresh token is consumed when it is rotated into its successor. A second presentation of a
consumed token revokes the whole family.
-/

namespace Fanfolio

open Framework

/-- The payload of a signed token. -/
structure TokenClaims where
  sub : UserId
  role : String
  client : String
  typ : String
  jti : String
deriving DecidableEq, Repr

/-- The settings and the external functions of the login code: `lower` of Python and of the
database, SHA-256, `jwt.decode` with the refresh secret, and the password check. -/
structure AuthEnv where
  refreshTtl : Time
  exchangeCodeTtl : Time
  isHosted : Bool
  oauth : OAuthSettings
  pythonLower : String → String
  lower : String → String
  hash : String → String
  jwtDecode : String → Time → Option TokenClaims
  verifyPassword : String → Option String → Bool

/-- `AuthTokenError`. -/
def authTokenError (message : String) : Failure := .app ⟨401, "AUTH_TOKEN_INVALID", message⟩

def authTokenInvalid : Failure := authTokenError "인증 토큰이 유효하지 않습니다."

def Role.value : Role → String
  | .fan => "fan"
  | .admin => "admin"
  | .artist => "artist"

/-- `_validate_client`. -/
def validateClient (client : String) : Except Failure Unit :=
  ensure (client = "fan" ∨ client = "admin" ∨ client = "artist")
    (authTokenError "인증 대상이 유효하지 않습니다.")

def decodeRefreshToken (env : AuthEnv) (rawToken expectedClient : String) (now : Time) :
    Except Failure TokenClaims := do
  validateClient expectedClient
  let payload ← orFail (env.jwtDecode rawToken now) authTokenInvalid
  ensure (payload.typ = "refresh" ∧ payload.client = expectedClient) authTokenInvalid
  pure payload

/-- What the issue of a refresh token draws: its id, a new family and the signed text. -/
structure TokenDraws where
  jti : String
  familyId : String
  rawToken : String
deriving DecidableEq, Repr

namespace IdentityDb

def findRefreshToken (db : IdentityDb) (jti : String) : Option RefreshToken :=
  db.refreshTokens.find? (·.jti == jti)

end IdentityDb

/-- `issue_refresh_token`. -/
def issueRefreshToken (env : AuthEnv) (db : IdentityDb) (user : Account) (client : String)
    (familyId : Option String) (draws : TokenDraws) (now : Time) :
    Except Failure (RefreshToken × IdentityDb) := do
  validateClient client
  let row : RefreshToken :=
    { jti := draws.jti, familyId := familyId.getD draws.familyId
      tokenDigest := env.hash draws.rawToken, userId := user.id, client := client
      expiresAt := now + env.refreshTtl }
  ensure (row.jti ∉ db.refreshTokens.map (·.jti)) (.integrity "refresh_tokens_pkey")
  ensure (row.tokenDigest ∉ db.refreshTokens.map (·.tokenDigest))
    (.integrity "refresh_tokens_token_digest_key")
  pure (row, { db with refreshTokens := db.refreshTokens ++ [row] })

/-- `issue_token_pair`, without the text of the access token. -/
def issueTokenPair (env : AuthEnv) (db : IdentityDb) (user : Account) (client : String)
    (draws : TokenDraws) (now : Time) : Except Failure (RefreshToken × IdentityDb) :=
  issueRefreshToken env db user client none draws now

/-- The row is revoked unless it was. -/
def RefreshToken.revoke (now : Time) (row : RefreshToken) : RefreshToken :=
  { row with revokedAt := row.revokedAt.or (some now) }

def revokeRefreshFamily (db : IdentityDb) (familyId : String) (now : Time) : IdentityDb :=
  { db with
    refreshTokens := patch (fun row => row.familyId == familyId && row.revokedAt.isNone)
      (·.revoke now) db.refreshTokens }

/-- The token was rotated before. -/
def RefreshToken.consumed (row : RefreshToken) : Bool :=
  row.usedAt.isSome || row.replacedByJti.isSome

/-- The row that a presented token names. -/
def presentedToken (env : AuthEnv) (db : IdentityDb) (rawToken : String) (claims : TokenClaims) :
    Except Failure RefreshToken := do
  let row ← orFail (db.findRefreshToken claims.jti) authTokenInvalid
  ensure (row.tokenDigest = env.hash rawToken) authTokenInvalid
  pure row

/-- The token may be rotated, by the user that is returned. -/
def rotatable (db : IdentityDb) (row : RefreshToken) (claims : TokenClaims)
    (expectedClient : String) (now : Time) : Except Failure Account := do
  ensure (row.revokedAt = none ∧ now < row.expiresAt)
    (authTokenError "만료되었거나 폐기된 인증 토큰입니다.")
  ensure (row.userId = claims.sub ∧ row.client = expectedClient) authTokenInvalid
  let user ← orFail (db.findUser row.userId) authTokenInvalid
  ensure (user.role.value = claims.role) authTokenInvalid
  pure user

/-- The row is used up, in favour of its replacement. -/
def RefreshToken.rotated (now : Time) (replacement : String) (row : RefreshToken) : RefreshToken :=
  { row with usedAt := some now, replacedByJti := some replacement }

/-- `rotate_refresh_token`. The new state is committed also when a replay is refused. -/
def rotateRefreshToken (env : AuthEnv) (db : IdentityDb) (rawToken expectedClient : String)
    (draws : TokenDraws) (now : Time) : IdentityDb × Except Failure RefreshToken :=
  match (do
      let claims ← decodeRefreshToken env rawToken expectedClient now
      let row ← presentedToken env db rawToken claims
      pure (claims, row)) with
  | .error e => (db, .error e)
  | .ok (claims, row) =>
    if row.consumed then
      (revokeRefreshFamily db row.familyId now,
        .error (authTokenError "재사용된 인증 토큰입니다. 다시 로그인해 주세요."))
    else
      match (do
          let user ← rotatable db row claims expectedClient now
          issueRefreshToken env db user expectedClient (some row.familyId) draws now) with
      | .error e => (db, .error e)
      | .ok (replacement, db) =>
        ({ db with
            refreshTokens := patch (·.jti == row.jti) (·.rotated now replacement.jti)
              db.refreshTokens },
          .ok replacement)

theorem issueRefreshToken_ok {env : AuthEnv} {db db' : IdentityDb} {user : Account}
    {client : String} {familyId : Option String} {draws : TokenDraws} {now : Time}
    {token : RefreshToken}
    (h : issueRefreshToken env db user client familyId draws now = .ok (token, db')) :
    token.userId = user.id ∧ token.familyId = familyId.getD draws.familyId ∧
      token.jti ∉ db.refreshTokens.map (·.jti) ∧
      db' = { db with refreshTokens := db.refreshTokens ++ [token] } := by
  simp only [issueRefreshToken, bind_ok, ensure_ok, pure_ok, Prod.mk.injEq] at h
  obtain ⟨_, -, _, hfresh, _, -, rfl, rfl⟩ := h
  exact ⟨rfl, rfl, hfresh, rfl⟩

theorem revoke_revoked {now : Time} (row : RefreshToken) : (row.revoke now).revokedAt ≠ none := by
  cases h : row.revokedAt <;> simp [RefreshToken.revoke, h]

/-- An environment without tokens, for fans with lower-case data. -/
def plainEnv : AuthEnv :=
  { refreshTtl := 10, exchangeCodeTtl := 10, isHosted := true, oauth := {}, pythonLower := id
    lower := id, hash := id, jwtDecode := fun _ _ => none, verifyPassword := fun _ _ => false }

end Fanfolio
