import Fanfolio.Framework.Run
import Fanfolio.Identity.Deletion

/-!
# The life of a deleted account

Fans sign up, log in on every path, and delete their accounts. A deleted row keeps its id, and the
identities and exchange codes that point to it.
-/

namespace Fanfolio

open Framework

/-- A request to the login system. `context` is what `load_admin_context` answers. -/
inductive IdentityAction where
  | signup (email passwordHash : String) (userId : UserId) (draws : TokenDraws) (now : Time)
  | passwordLogin (role : Role) (identifier password : String) (context : Except Failure Unit)
      (draws : TokenDraws) (now : Time)
  | requestMagicLink (email purpose token : String) (now : Time)
  | verifyMagicLink (token : String) (client : Option String) (userId : UserId)
      (sessionToken : String) (draws : TokenDraws) (now : Time)
  | confirmPasswordReset (token passwordHash : String) (now : Time)
  | oauthCallback (provider rawState : String) (tokenReply profileReply : Option ProviderValue)
      (draws : SocialDraws) (rawCode : String) (now : Time)
  | oauthExchange (rawCode client : String) (draws : TokenDraws) (now : Time)
  | refresh (rawToken client : String) (context : Except Failure Unit) (draws : TokenDraws)
      (now : Time)
  | logout (sessionToken refreshToken : Option String) (client : String) (now : Time)
  | updateProfile (userId : UserId) (nickname : String) (artistIds memberIds : List String)
      (imageUrl : Option String)
  | deleteAccount (userId : UserId) (confirmation : String) (now : Time)

/-- The state after a request whose failure is rolled back. -/
def IdentityDb.attempt (db : IdentityDb) (x : Except Failure IdentityDb) : IdentityDb :=
  match x with
  | .ok db' => db'
  | .error _ => db

namespace Identity

variable (env : AuthEnv) (db : IdentityDb)

def step : IdentityAction → IdentityDb
  | .signup email passwordHash userId draws now =>
    commitOr db (Prod.swap <$> fanPasswordSignup env db email passwordHash userId draws now)
  | .passwordLogin role identifier password context draws now =>
    commitOr db (Prod.swap <$> passwordLogin env db role identifier password context draws now)
  | .requestMagicLink email purpose token now =>
    db.attempt (requestMagicLink env db email purpose token now)
  | .verifyMagicLink token client userId sessionToken draws now =>
    match verifyMagicLink env db token userId sessionToken now with
    | .error _ => db
    | .ok (userId, db) => commitOr db (Prod.swap <$> magicLinkTokens env db userId client draws now)
  | .confirmPasswordReset token passwordHash now =>
    db.attempt (confirmFanPasswordReset env db token passwordHash now)
  | .oauthCallback provider rawState tokenReply profileReply draws rawCode now =>
    db.attempt (oauthCallback env db provider rawState tokenReply profileReply draws rawCode now)
  | .oauthExchange rawCode client draws now =>
    commitOr db (Prod.swap <$> exchangeCodeForTokens env db rawCode client draws now)
  | .refresh rawToken client context draws now =>
    refreshAccessToken env db rawToken client context draws now
  | .logout sessionToken refreshToken client now =>
    logout env db sessionToken refreshToken client now
  | .updateProfile userId nickname artistIds memberIds imageUrl =>
    db.attempt (do
      let user ← fanUser db userId
      updateProfile env db user nickname artistIds memberIds imageUrl)
  | .deleteAccount userId confirmation now =>
    db.attempt (do
      let user ← fanUser db userId
      deleteAccount db env.lower confirmation user now)

/-- A deleted fan keeps its row as it is, and gets no new token. -/
def LeavesDeleted (db db' : IdentityDb) : Prop :=
  ∀ user ∈ db.users, user.role = .fan → user.deletedAt ≠ none →
    db'.findUser user.id = some user ∧
      ∀ token ∈ db'.refreshTokens, token.userId = user.id →
        ∃ old ∈ db.refreshTokens, old.jti = token.jti ∧ old.userId = token.userId

instance (db db' : IdentityDb) : Decidable (LeavesDeleted db db') :=
  inferInstanceAs (Decidable (∀ user ∈ db.users, user.role = .fan → user.deletedAt ≠ none →
    db'.findUser user.id = some user ∧
      ∀ token ∈ db'.refreshTokens, token.userId = user.id →
        ∃ old ∈ db.refreshTokens, old.jti = token.jti ∧ old.userId = token.userId))

/-- No social login with an identity of a deleted fan has something to write to its row, and no
exchange code of a deleted fan is presented. -/
def Avoids : IdentityAction → Prop
  | .oauthCallback provider rawState tokenReply profileReply _ _ now =>
    ∀ state, consumeOauthState env db provider rawState now = .ok state → ∀ profile,
      fetchOauthProfile env.pythonLower env.oauth provider tokenReply profileReply = .ok profile →
      ∀ user, profile.linkedFan db = some user → user.deletedAt ≠ none →
        profile.refreshed user = user
  | .oauthExchange rawCode client _ now =>
    ∀ row, usableCode env db rawCode client now = some row →
      ∀ user, db.findUser row.userId = some user → user.role = .fan → user.deletedAt = none
  | _ => True

/-- What a deletion leaves goes on being so. -/
structure Retired : Prop where
  userIds : (db.users.map (·.id)).Nodup
  anonymous : ∀ user ∈ db.users, user.role = .fan → user.deletedAt ≠ none →
    user.email = none ∧ user.username = none
  revoked : ∀ user ∈ db.users, user.role = .fan → user.deletedAt ≠ none →
    ∀ token ∈ db.refreshTokens, token.userId = user.id → token.revokedAt ≠ none

/-- A deletion stays what it was, across a transaction. -/
structure Keeps (db db' : IdentityDb) : Prop where
  retired : Retired db'
  leaves : LeavesDeleted db db'

section

variable {env : AuthEnv} {db db' db₁ : IdentityDb} {user row : Account} {now : Time}

theorem Keeps.trans (h : Keeps db db₁) (h' : Keeps db₁ db') : Keeps db db' := by
  refine ⟨h'.retired, ?_⟩
  intro user hmem hfan hdeleted
  obtain ⟨hfound, htokens⟩ := h.leaves user hmem hfan hdeleted
  obtain ⟨hfound', htokens'⟩ :=
    h'.leaves user (IdentityDb.findUser_mem hfound).1 hfan hdeleted
  refine ⟨hfound', ?_⟩
  intro token htoken huser
  obtain ⟨old, hold, hjti, hsame⟩ := htokens' token htoken huser
  obtain ⟨old', hold', hjti', hsame'⟩ := htokens old hold (hsame.trans huser)
  exact ⟨old', hold', hjti'.trans hjti, hsame'.trans hsame⟩

theorem findUser_of_mem (h : Retired db) (hmem : user ∈ db.users) :
    db.findUser user.id = some user := find_of_mem h.userIds hmem

/-- A row that is no deleted fan has an id that no deleted fan has. -/
theorem alive (h : Retired db) (hmem : user ∈ db.users)
    (halive : user.role = .fan → user.deletedAt = none) :
    ∀ other ∈ db.users, other.role = .fan → other.deletedAt ≠ none → other.id ≠ user.id := by
  intro other hother hfan hdeleted hid
  obtain rfl := eq_of_unique h.userIds hother hmem hid
  exact hdeleted (halive hfan)

/-- Tokens may be revoked, rotated, or issued to a user that is no deleted fan. -/
theorem Keeps.tokens (h : Retired db) (husers : db'.users = db.users)
    (htokens : ∀ token ∈ db'.refreshTokens,
      (∃ old ∈ db.refreshTokens, old.jti = token.jti ∧ old.userId = token.userId ∧
        (old.revokedAt ≠ none → token.revokedAt ≠ none)) ∨
      ∀ user ∈ db.users, user.role = .fan → user.deletedAt ≠ none → user.id ≠ token.userId) :
    Keeps db db' := by
  constructor
  · refine ⟨husers ▸ h.userIds, husers ▸ h.anonymous, ?_⟩
    intro user hmem hfan hdeleted token htoken huser
    rw [husers] at hmem
    rcases htokens token htoken with ⟨old, hold, -, hsame, hrevoked⟩ | hother
    · exact hrevoked (h.revoked user hmem hfan hdeleted old hold (hsame.trans huser))
    · exact absurd huser.symm (hother user hmem hfan hdeleted)
  · intro user hmem hfan hdeleted
    refine ⟨?_, ?_⟩
    · rw [IdentityDb.findUser, husers]
      exact findUser_of_mem h hmem
    · intro token htoken huser
      rcases htokens token htoken with ⟨old, hold, hjti, hsame, -⟩ | hother
      · exact ⟨old, hold, hjti, hsame⟩
      · exact absurd huser.symm (hother user hmem hfan hdeleted)

theorem Keeps.same (h : Retired db) (husers : db'.users = db.users)
    (htokens : db'.refreshTokens = db.refreshTokens) : Keeps db db' :=
  Keeps.tokens h husers fun token htoken =>
    .inl ⟨token, htokens ▸ htoken, rfl, rfl, id⟩

theorem Keeps.refl (h : Retired db) : Keeps db db := Keeps.same h rfl rfl

theorem Keeps.revoke (h : Retired db) (p : RefreshToken → Bool) :
    Keeps db { db with refreshTokens := patch p (·.revoke now) db.refreshTokens } := by
  refine Keeps.tokens h rfl ?_
  intro token htoken
  obtain ⟨old, hold, rfl⟩ := mem_patch.mp htoken
  refine .inl ⟨old, hold, ?_⟩
  split
  · exact ⟨rfl, rfl, fun _ => revoke_revoked old⟩
  · exact ⟨rfl, rfl, id⟩

/-- A write to the row of a user that is no deleted fan. -/
theorem Keeps.setUser (h : Retired db) (hmem : user ∈ db.users)
    (halive : user.role = .fan → user.deletedAt = none) (hid : row.id = user.id)
    (hrow : row.role = .fan → row.deletedAt = none) : Keeps db (db.setUser row) := by
  have hother := alive h hmem halive
  constructor
  · refine ⟨by rw [IdentityDb.setUser_ids]; exact h.userIds, ?_, ?_⟩
    · intro user' hmem' hfan hdeleted
      rcases IdentityDb.mem_setUser.mp hmem' with ⟨hold, -⟩ | ⟨rfl, -⟩
      · exact h.anonymous user' hold hfan hdeleted
      · exact absurd (hrow hfan) hdeleted
    · intro user' hmem' hfan hdeleted
      rcases IdentityDb.mem_setUser.mp hmem' with ⟨hold, -⟩ | ⟨rfl, -⟩
      · exact h.revoked user' hold hfan hdeleted
      · exact absurd (hrow hfan) hdeleted
  · intro user' hmem' hfan hdeleted
    refine ⟨?_, fun token htoken _ => ⟨token, htoken, rfl, rfl⟩⟩
    have hstored : user' ∈ (db.setUser row).users :=
      IdentityDb.mem_setUser.mpr (.inl ⟨hmem', hid ▸ hother user' hmem' hfan hdeleted⟩)
    have hids : ((db.setUser row).users.map (·.id)).Nodup := by
      rw [IdentityDb.setUser_ids]
      exact h.userIds
    exact find_of_mem hids hstored

theorem Keeps.insertUser (h : Retired db) {lower : String → String} (hrow : row.deletedAt = none)
    (hok : db.insertUser lower row = .ok db') : Keeps db db' := by
  obtain ⟨hfresh, -, rfl⟩ := IdentityDb.insertUser_ok.mp hok
  have hids : ((db.users ++ [row]).map (·.id)).Nodup :=
    nodup_insert h.userIds fun user hmem hid => hfresh (hid ▸ List.mem_map_of_mem hmem)
  have hold {user : Account} (hmem : user ∈ db.users ++ [row]) (hdeleted : user.deletedAt ≠ none) :
      user ∈ db.users := by
    rcases List.mem_append.mp hmem with hmem | hmem
    · exact hmem
    · rw [List.mem_singleton.mp hmem] at hdeleted
      exact absurd hrow hdeleted
  constructor
  · exact ⟨hids, fun user hmem hfan hdeleted =>
        h.anonymous user (hold hmem hdeleted) hfan hdeleted,
      fun user hmem hfan hdeleted => h.revoked user (hold hmem hdeleted) hfan hdeleted⟩
  · intro user hmem _ _
    exact ⟨find_of_mem hids (List.mem_append_left _ hmem), fun token htoken _ =>
      ⟨token, htoken, rfl, rfl⟩⟩

theorem Keeps.issue (h : Retired db) (hmem : user ∈ db.users)
    (halive : user.role = .fan → user.deletedAt = none) {client : String}
    {familyId : Option String} {draws : TokenDraws} {token : RefreshToken}
    (hok : issueRefreshToken env db user client familyId draws now = .ok (token, db')) :
    Keeps db db' := by
  obtain ⟨huser, -, -, rfl⟩ := issueRefreshToken_ok hok
  refine Keeps.tokens h rfl ?_
  intro token' htoken
  rcases List.mem_append.mp htoken with htoken | htoken
  · exact .inl ⟨token', htoken, rfl, rfl, id⟩
  · rw [List.mem_singleton.mp htoken, huser]
    exact .inr (alive h hmem halive)

theorem alive_of_email (h : Retired db) (hmem : user ∈ db.users) {email : String}
    (hemail : user.email = some email) : user.role = .fan → user.deletedAt = none := by
  intro hfan
  by_contra hdeleted
  rw [(h.anonymous user hmem hfan hdeleted).1] at hemail
  cases hemail

theorem Keeps.signup (h : Retired db) {email passwordHash : String} {userId : UserId}
    {draws : TokenDraws} {token : RefreshToken}
    (hok : fanPasswordSignup env db email passwordHash userId draws now = .ok (token, db')) :
    Keeps db db' := by
  simp only [fanPasswordSignup, bind_ok] at hok
  obtain ⟨_, -, db₁, hinsert, hissue⟩ := hok
  have hkeeps := Keeps.insertUser h rfl hinsert
  obtain ⟨-, -, rfl⟩ := IdentityDb.insertUser_ok.mp hinsert
  exact hkeeps.trans (Keeps.issue hkeeps.retired
    (List.mem_append_right _ (List.mem_singleton_self _)) (fun _ => rfl) hissue)

theorem passwordAccount_alive (h : Retired db) {role : Role} {identifier : String}
    (hfound : passwordAccount db role identifier = some user) :
    user ∈ db.users ∧ (user.role = .fan → user.deletedAt = none) := by
  unfold passwordAccount at hfound
  split at hfound
  · have hcond := List.find?_some (p := fun row : Account => row.username == some identifier &&
      row.role == .artist) hfound
    rw [Bool.and_eq_true, beq_iff_eq, beq_iff_eq] at hcond
    refine ⟨List.mem_of_find?_eq_some hfound, fun hfan => ?_⟩
    rw [hfan] at hcond
    cases hcond.2
  · have hcond := List.find?_some (p := fun row : Account => row.email == some identifier &&
      row.role == role) hfound
    rw [Bool.and_eq_true, beq_iff_eq, beq_iff_eq] at hcond
    have hmem := List.mem_of_find?_eq_some hfound
    exact ⟨hmem, alive_of_email h hmem hcond.1⟩

theorem Keeps.passwordLogin (h : Retired db) {role : Role} {identifier password : String}
    {context : Except Failure Unit} {draws : TokenDraws} {token : RefreshToken}
    (hok : passwordLogin env db role identifier password context draws now = .ok (token, db')) :
    Keeps db db' := by
  simp only [Fanfolio.passwordLogin, bind_ok, orFail_ok] at hok
  obtain ⟨user, hfound, _, -, _, -, hissue⟩ := hok
  obtain ⟨hmem, halive⟩ := passwordAccount_alive h hfound
  exact Keeps.issue h hmem halive hissue

theorem linkUser_email {email : String} (h : linkUser db email = some user) :
    user ∈ db.users ∧ user.email = some email := by
  have hmatching : user ∈ db.users.filter (·.email == some email) := by
    rcases Option.or_eq_some_iff.mp h with hfan | ⟨-, honly⟩
    · exact List.mem_of_find?_eq_some hfan
    · split at honly
      · exact List.mem_of_mem_head? honly
      · cases honly
  rw [List.mem_filter, beq_iff_eq] at hmatching
  exact hmatching

theorem openSession_users (userId : UserId) (sessionToken : String) :
    (openSession env db userId sessionToken).users = db.users := by
  unfold openSession
  split <;> rfl

theorem openSession_tokens (userId : UserId) (sessionToken : String) :
    (openSession env db userId sessionToken).refreshTokens = db.refreshTokens := by
  unfold openSession
  split <;> rfl

theorem Keeps.linkAccount (h : Retired db) {email : String} {userId : UserId}
    (hok : linkAccount env db email userId = .ok (user, db')) :
    Keeps db db' ∧ user ∈ db'.users ∧ (user.role = .fan → user.deletedAt = none) := by
  unfold Fanfolio.linkAccount at hok
  split at hok
  · rename_i known hknown
    obtain ⟨rfl, rfl⟩ := Prod.mk.inj (Except.ok.inj hok)
    obtain ⟨hmem, hemail⟩ := linkUser_email hknown
    exact ⟨Keeps.refl h, hmem, alive_of_email h hmem hemail⟩
  · simp only [bind_ok, pure_ok] at hok
    obtain ⟨db₁, hinsert, heq⟩ := hok
    obtain ⟨rfl, rfl⟩ := Prod.mk.inj heq
    refine ⟨Keeps.insertUser h rfl hinsert, ?_, fun _ => rfl⟩
    obtain ⟨-, -, rfl⟩ := IdentityDb.insertUser_ok.mp hinsert
    exact List.mem_append_right _ (List.mem_singleton_self _)

theorem Keeps.verifyMagicLink (h : Retired db) {token sessionToken : String}
    {userId linkedId : UserId}
    (hok : verifyMagicLink env db token userId sessionToken now = .ok (linkedId, db')) :
    Keeps db db' ∧ ∀ user, db'.findUser linkedId = some user → user.role = .fan →
      user.deletedAt = none := by
  simp only [Fanfolio.verifyMagicLink, completeMagicLink, bind_ok, orFail_ok, pure_ok] at hok
  obtain ⟨link, -, ⟨user, db₁⟩, haccount, heq⟩ := hok
  obtain ⟨rfl, rfl⟩ := Prod.mk.inj heq
  obtain ⟨hkeeps, hmem, halive⟩ := Keeps.linkAccount h haccount
  have hsame : Keeps db₁
      (openSession env (db₁.consumeMagicLink link.tokenHash now) user.id sessionToken) :=
    Keeps.same hkeeps.retired (openSession_users _ _) (openSession_tokens _ _)
  refine ⟨hkeeps.trans hsame, ?_⟩
  intro user' hfound
  have hfound' : db₁.findUser user.id = some user' := by
    rw [← hfound, IdentityDb.findUser, IdentityDb.findUser, openSession_users]
    rfl
  rw [findUser_of_mem hkeeps.retired hmem] at hfound'
  rwa [← Option.some.inj hfound']

theorem Keeps.magicLinkTokens (h : Retired db) {linkedId : UserId} {client : Option String}
    {draws : TokenDraws} {token : RefreshToken}
    (halive : ∀ user, db.findUser linkedId = some user → user.role = .fan → user.deletedAt = none)
    (hok : magicLinkTokens env db linkedId client draws now = .ok (token, db')) :
    Keeps db db' := by
  simp only [Fanfolio.magicLinkTokens, bind_ok, orFail_ok] at hok
  obtain ⟨user, hfound, hissue⟩ := hok
  exact Keeps.issue h (IdentityDb.findUser_mem hfound).1 (halive user hfound) hissue

theorem Keeps.confirmPasswordReset (h : Retired db) {token passwordHash : String}
    (hok : confirmFanPasswordReset env db token passwordHash now = .ok db') : Keeps db db' := by
  simp only [confirmFanPasswordReset, completePasswordReset, bind_ok, orFail_ok, pure_ok] at hok
  obtain ⟨link, -, user, hfound, rfl⟩ := hok
  obtain ⟨hmem, -, hemail⟩ := fanByEmail_mem hfound
  have halive := alive_of_email h hmem hemail
  have hkeeps : Keeps db (db.setUser { user with passwordHash := some passwordHash }) :=
    Keeps.setUser h hmem halive rfl halive
  exact hkeeps.trans (Keeps.same hkeeps.retired rfl rfl)

theorem Keeps.rotateRefreshToken (h : Retired db) {rawToken client : String} {draws : TokenDraws} :
    Keeps db (rotateRefreshToken env db rawToken client draws now).1 := by
  unfold Fanfolio.rotateRefreshToken
  split
  · exact Keeps.refl h
  · rename_i hpresented
    simp only [presentedToken, bind_ok, orFail_ok, pure_ok] at hpresented
    obtain ⟨_, -, _, ⟨row, hrow, _, -, rfl⟩, heq⟩ := hpresented
    obtain ⟨rfl, rfl⟩ := Prod.mk.inj heq
    split
    · exact Keeps.revoke h _
    · split
      · exact Keeps.refl h
      · rename_i replacement db₁ hissue
        simp only [rotatable, bind_ok, ensure_ok, orFail_ok, pure_ok] at hissue
        obtain ⟨_, ⟨_, ⟨hlive, -⟩, _, -, user, huser, _, -, rfl⟩, hissue⟩ := hissue
        obtain ⟨hmem, hid⟩ := IdentityDb.findUser_mem huser
        have halive : user.role = .fan → user.deletedAt = none := by
          intro hfan
          by_contra hdeleted
          exact h.revoked user hmem hfan hdeleted row (List.mem_of_find?_eq_some hrow) hid.symm hlive
        have hkeeps := Keeps.issue h hmem halive hissue
        refine hkeeps.trans (Keeps.tokens hkeeps.retired rfl ?_)
        intro token htoken
        obtain ⟨old, hold, rfl⟩ := mem_patch.mp htoken
        refine .inl ⟨old, hold, ?_⟩
        split
        · exact ⟨rfl, rfl, id⟩
        · exact ⟨rfl, rfl, id⟩

theorem Keeps.refresh (h : Retired db) {rawToken client : String} {context : Except Failure Unit}
    {draws : TokenDraws} :
    Keeps db (refreshAccessToken env db rawToken client context draws now) := by
  have hrotate : Keeps db (Fanfolio.rotateRefreshToken env db rawToken client draws now).1 :=
    Keeps.rotateRefreshToken h
  unfold refreshAccessToken
  split
  · rename_i heq
    rwa [heq] at hrotate
  · rename_i heq
    rw [heq] at hrotate
    split
    · exact hrotate
    · exact Keeps.refl h

theorem Keeps.logout (h : Retired db) {sessionToken refreshToken : Option String} {client : String} :
    Keeps db (logout env db sessionToken refreshToken client now) := by
  unfold Fanfolio.logout
  cases sessionToken with
  | some token =>
    have hsession : Keeps db { db with sessions := db.sessions.filter (·.token != token) } :=
      Keeps.same h rfl rfl
    dsimp only
    split
    · exact hsession.trans (Keeps.revoke hsession.retired _)
    · exact hsession
  | none =>
    dsimp only
    split
    · exact Keeps.revoke h _
    · exact Keeps.refl h

theorem Keeps.fanForProfile (h : Retired db) {lower : String → String} {profile : OAuthProfile}
    {userId : UserId} (hok : fanForProfile lower db profile userId = .ok (user, db')) :
    Keeps db db' ∧ user ∈ db'.users ∧ (user.role = .fan → user.deletedAt = none) := by
  unfold Fanfolio.fanForProfile at hok
  split at hok
  · rename_i known hknown
    obtain ⟨rfl, rfl⟩ := Prod.mk.inj (Except.ok.inj hok)
    obtain ⟨hmem, -, hemail, htruthy⟩ := knownFan_mem hknown
    obtain ⟨email, hsome⟩ : ∃ email, known.email = some email := by
      rw [hemail]
      cases hprofile : profile.email with
      | none => simp [hprofile, truthy] at htruthy
      | some email => exact ⟨email, rfl⟩
    exact ⟨Keeps.refl h, hmem, alive_of_email h hmem hsome⟩
  · simp only [bind_ok, pure_ok] at hok
    obtain ⟨db₁, hinsert, heq⟩ := hok
    obtain ⟨rfl, rfl⟩ := Prod.mk.inj heq
    refine ⟨Keeps.insertUser h rfl hinsert, ?_, fun _ => rfl⟩
    obtain ⟨-, -, rfl⟩ := IdentityDb.insertUser_ok.mp hinsert
    exact List.mem_append_right _ (List.mem_singleton_self _)

/-- A row that is written as it is. -/
theorem Keeps.setUser_self (h : Retired db) (hmem : user ∈ db.users) : Keeps db (db.setUser user) := by
  refine Keeps.same h ?_ rfl
  rw [IdentityDb.setUser, patch_of_fixed]
  intro row hrow hid
  exact eq_of_unique h.userIds hmem hrow (beq_iff_eq.mp hid).symm

theorem Keeps.upsertSocialUser (h : Retired db) {lower : String → String} {profile : OAuthProfile}
    {draws : SocialDraws}
    (hguard : ∀ user, profile.linkedFan db = some user → user.deletedAt ≠ none →
      profile.refreshed user = user)
    (hok : upsertSocialUser lower db profile draws = .ok (user, db')) : Keeps db db' := by
  unfold Fanfolio.upsertSocialUser at hok
  split at hok
  · rename_i account haccount
    simp only [bind_ok, orFail_ok, IdentityDb.updateUser_ok, pure_ok] at hok
    obtain ⟨linked, hlinked, ⟨owner, db₁⟩, howner, _, ⟨-, rfl⟩, heq⟩ := hok
    obtain ⟨rfl, rfl⟩ := Prod.mk.inj heq
    obtain ⟨hmem, -⟩ := IdentityDb.findUser_mem hlinked
    have hset : Keeps db (db₁.setUser (profile.refreshed owner)) := by
      unfold ownerForProfile at howner
      split at howner
      · rename_i hfan
        obtain ⟨rfl, rfl⟩ := Prod.mk.inj (Except.ok.inj howner)
        have hfound : profile.linkedFan db = some linked := by
          simp [OAuthProfile.linkedFan, haccount, hlinked, hfan]
        by_cases hdeleted : linked.deletedAt = none
        · exact Keeps.setUser h hmem (fun _ => hdeleted) rfl fun _ => hdeleted
        · rw [hguard linked hfound hdeleted]
          exact Keeps.setUser_self h hmem
      · obtain ⟨hkeeps, hmem', halive⟩ := Keeps.fanForProfile h howner
        exact hkeeps.trans (Keeps.setUser hkeeps.retired hmem' halive rfl halive)
    exact hset.trans (Keeps.same hset.retired rfl rfl)
  · simp only [bind_ok, pure_ok] at hok
    obtain ⟨⟨owner, db₁⟩, howner, db₂, hinsert, heq⟩ := hok
    obtain ⟨rfl, rfl⟩ := Prod.mk.inj heq
    obtain ⟨hkeeps, -⟩ := Keeps.fanForProfile h howner
    simp only [IdentityDb.insertSocialAccount, bind_ok, pure_ok] at hinsert
    obtain ⟨_, -, _, -, rfl⟩ := hinsert
    exact hkeeps.trans (Keeps.same hkeeps.retired rfl rfl)

theorem linkedFan_congr {profile : OAuthProfile} (husers : db'.users = db.users)
    (haccounts : db'.socialAccounts = db.socialAccounts) :
    profile.linkedFan db' = profile.linkedFan db := by
  simp only [OAuthProfile.linkedFan, IdentityDb.socialAccount, IdentityDb.findUser, husers,
    haccounts]

theorem consumeOauthState_ok {provider rawState : String} {state : OAuthState}
    (h : consumeOauthState env db provider rawState now = .ok (state, db')) :
    db'.users = db.users ∧ db'.socialAccounts = db.socialAccounts ∧
      db'.refreshTokens = db.refreshTokens := by
  simp only [consumeOauthState, bind_ok, pure_ok] at h
  obtain ⟨_, -, heq⟩ := h
  obtain ⟨rfl, rfl⟩ := Prod.mk.inj heq
  exact ⟨rfl, rfl, rfl⟩

theorem Keeps.oauthCallback (h : Retired db) {provider rawState rawCode : String}
    {tokenReply profileReply : Option ProviderValue} {draws : SocialDraws}
    (hguard : Avoids env db
      (.oauthCallback provider rawState tokenReply profileReply draws rawCode now))
    (hok : oauthCallback env db provider rawState tokenReply profileReply draws rawCode now =
      .ok db') : Keeps db db' := by
  simp only [Fanfolio.oauthCallback, completeCallback, createExchangeCode, bind_ok, pure_ok] at hok
  obtain ⟨⟨state, db₁⟩, hstate, profile, hprofile, ⟨user, db₂⟩, hupsert, _, -, rfl⟩ := hok
  obtain ⟨husers, haccounts, htokens⟩ := consumeOauthState_ok hstate
  have hconsumed : Keeps db db₁ := Keeps.same h husers htokens
  have hlinked : ∀ user, profile.linkedFan db₁ = some user → user.deletedAt ≠ none →
      profile.refreshed user = user := by
    rw [linkedFan_congr husers haccounts]
    exact hguard _ hstate profile hprofile
  have hkeeps := hconsumed.trans (Keeps.upsertSocialUser hconsumed.retired hlinked hupsert)
  exact hkeeps.trans (Keeps.same hkeeps.retired rfl rfl)

theorem Keeps.oauthExchange (h : Retired db) {rawCode client : String} {draws : TokenDraws}
    {token : RefreshToken} (hguard : Avoids env db (.oauthExchange rawCode client draws now))
    (hok : exchangeCodeForTokens env db rawCode client draws now = .ok (token, db')) :
    Keeps db db' := by
  simp only [exchangeCodeForTokens, completeExchange, bind_ok, orFail_ok] at hok
  obtain ⟨row, hrow, user, huser, hissue⟩ := hok
  have hconsumed : Keeps db (db.consumeCode row.codeHash now) := Keeps.same h rfl rfl
  exact hconsumed.trans (Keeps.issue hconsumed.retired (IdentityDb.findUser_mem huser).1
    (hguard row hrow user huser) hissue)

theorem fanUser_ok {userId : UserId} (h : fanUser db userId = .ok user) :
    user ∈ db.users ∧ user.deletedAt = none ∧ user.role = .fan := by
  simp only [fanUser, bind_ok, orFail_ok, ensure_ok, pure_ok] at h
  obtain ⟨_, hfound, _, hdeleted, _, hfan, rfl⟩ := h
  exact ⟨(IdentityDb.findUser_mem hfound).1, hdeleted, hfan⟩

theorem Keeps.updateProfile (h : Retired db) {userId : UserId} {nickname : String}
    {artistIds memberIds : List String} {imageUrl : Option String}
    (hok : (do
      let user ← fanUser db userId
      updateProfile env db user nickname artistIds memberIds imageUrl) = .ok db') :
    Keeps db db' := by
  simp only [bind_ok, Fanfolio.updateProfile, IdentityDb.updateUser_ok] at hok
  obtain ⟨user, huser, _, -, _, -, -, rfl⟩ := hok
  obtain ⟨hmem, halive, -⟩ := fanUser_ok huser
  exact Keeps.setUser h hmem (fun _ => halive) rfl fun _ => halive

theorem Keeps.deleteAccount (h : Retired db) {lower : String → String} {confirmation : String}
    {userId : UserId} (hok : (do
      let user ← fanUser db userId
      deleteAccount db lower confirmation user now) = .ok db') : Keeps db db' := by
  obtain ⟨user, huser, hdelete⟩ := bind_ok.mp hok
  obtain ⟨hmem, halive, hfan⟩ := fanUser_ok huser
  have herased := deleteAccount_erased hmem hdelete
  simp only [Fanfolio.deleteAccount, bind_ok, IdentityDb.updateUser_ok, pure_ok] at hdelete
  obtain ⟨_, -, _, ⟨-, rfl⟩, rfl⟩ := hdelete
  have hids : ((db.setUser (user.anonymized now)).users.map (·.id)).Nodup := by
    rw [IdentityDb.setUser_ids]
    exact h.userIds
  constructor
  · refine ⟨hids, ?_, ?_⟩
    · intro other hother hrole hdeleted
      rcases IdentityDb.mem_setUser.mp hother with ⟨hold, -⟩ | ⟨rfl, -⟩
      · exact h.anonymous other hold hrole hdeleted
      · exact ⟨rfl, rfl⟩
    · intro other hother hrole hdeleted token htoken hsame
      rcases IdentityDb.mem_setUser.mp hother with ⟨hold, -⟩ | ⟨rfl, -⟩
      · obtain ⟨old, hmemOld, rfl⟩ := mem_patch.mp htoken
        split
        · exact revoke_revoked old
        · rename_i hcond
          rw [if_neg hcond] at hsame
          exact h.revoked other hold hrole hdeleted old hmemOld hsame
      · exact herased.tokens token htoken hsame
  · intro other hother hrole hdeleted
    have hne : other.id ≠ user.id := alive h hmem (fun _ => halive) other hother hrole hdeleted
    refine ⟨find_of_mem hids (IdentityDb.mem_setUser.mpr (.inl ⟨hother, hne⟩)), ?_⟩
    intro token htoken _
    obtain ⟨old, hold, rfl⟩ := mem_patch.mp htoken
    refine ⟨old, hold, ?_⟩
    split <;> exact ⟨rfl, rfl⟩

theorem Keeps.attempt (h : Retired db) {x : Except Failure IdentityDb}
    (hok : ∀ db', x = .ok db' → Keeps db db') : Keeps db (db.attempt x) := by
  cases x with
  | error e => exact Keeps.refl h
  | ok db' => exact hok db' rfl

theorem Keeps.commitOr (h : Retired db) {x : Except Failure (RefreshToken × IdentityDb)}
    (hok : ∀ token db', x = .ok (token, db') → Keeps db db') :
    Keeps db (commitOr db (Prod.swap <$> x)) := by
  cases x with
  | error e => exact Keeps.refl h
  | ok p => exact hok p.1 p.2 rfl

/-- A request that avoids the deleted fans keeps them as they are. -/
theorem step_keeps (h : Retired db) {a : IdentityAction} (hguard : Avoids env db a) :
    Keeps db (step env db a) := by
  cases a with
  | signup email passwordHash userId draws now =>
    exact Keeps.commitOr h fun token db' hok => Keeps.signup h hok
  | passwordLogin role identifier password context draws now =>
    exact Keeps.commitOr h fun token db' hok => Keeps.passwordLogin h hok
  | requestMagicLink email purpose token now =>
    refine Keeps.attempt h fun db' hok => ?_
    simp only [requestMagicLink, bind_ok, pure_ok] at hok
    obtain ⟨_, -, rfl⟩ := hok
    exact Keeps.same h rfl rfl
  | verifyMagicLink token client userId sessionToken draws now =>
    simp only [step]
    split
    · exact Keeps.refl h
    · rename_i linkedId db₁ hverify
      obtain ⟨hkeeps, halive⟩ := Keeps.verifyMagicLink h hverify
      exact hkeeps.trans (Keeps.commitOr hkeeps.retired fun token db' hok =>
        Keeps.magicLinkTokens hkeeps.retired halive hok)
  | confirmPasswordReset token passwordHash now =>
    exact Keeps.attempt h fun db' hok => Keeps.confirmPasswordReset h hok
  | oauthCallback provider rawState tokenReply profileReply draws rawCode now =>
    exact Keeps.attempt h fun db' hok => Keeps.oauthCallback h hguard hok
  | oauthExchange rawCode client draws now =>
    exact Keeps.commitOr h fun token db' hok => Keeps.oauthExchange h hguard hok
  | refresh rawToken client context draws now => exact Keeps.refresh h
  | logout sessionToken refreshToken client now => exact Keeps.logout h
  | updateProfile userId nickname artistIds memberIds imageUrl =>
    exact Keeps.attempt h fun db' hok => Keeps.updateProfile h hok
  | deleteAccount userId confirmation now =>
    exact Keeps.attempt h fun db' hok => Keeps.deleteAccount h hok

/-- In a run from a state without deleted fans whose requests avoid the deleted fans, no request
writes to the row of a deleted fan or issues a token to it. -/
theorem leavesDeleted_of_avoids (hids : (db.users.map (·.id)).Nodup)
    (hstart : ∀ user ∈ db.users, user.deletedAt = none) {acts : List IdentityAction}
    (hguard : Always (step env) (Avoids env) db acts) :
    Always (step env) (fun db a => LeavesDeleted db (step env db a)) db acts := by
  have hretired : Retired db := ⟨hids, fun user hmem _ hdeleted => absurd (hstart user hmem) hdeleted,
    fun user hmem _ hdeleted => absurd (hstart user hmem) hdeleted⟩
  exact hguard.of_invariant hretired (fun db a h hguard => (step_keeps h hguard).retired)
    fun db a h hguard => (step_keeps h hguard).leaves

end

/-- A fan with a Kakao identity. -/
def kakaoFan : IdentityDb :=
  { users := [{ id := "user_a", nickname := some "별빛" }]
    socialAccounts := [⟨"social_a", "kakao", "7", "user_a", none⟩]
    oauthStates := [⟨"state", "kakao", "fan", "uri", 100, none⟩] }

def kakaoEnv : AuthEnv :=
  { plainEnv with oauth := { kakaoClientId := "client", kakaoClientSecret := "secret" } }

def kakaoReturns : List IdentityAction :=
  [.deleteAccount "user_a" "DELETE MY ACCOUNT" 1,
    .oauthCallback "kakao" "state" (some (.dict [("access_token", .str "token")]))
      (some (.dict [("id", .int 7), ("properties", .dict [("nickname", .str "달빛")])]))
      ⟨"user_b", "social_b"⟩ "code" 2,
    .oauthExchange "code" "fan" ⟨"jti", "family", "raw"⟩ 3]

theorem leavesDeleted_unknown_code :
    Always (step kakaoEnv) (fun db a => LeavesDeleted db (step kakaoEnv db a)) kakaoFan
      [.deleteAccount "user_a" "DELETE MY ACCOUNT" 1,
        .oauthExchange "code" "fan" ⟨"jti", "family", "raw"⟩ 3] := by
  refine leavesDeleted_of_avoids (by decide) (by decide) ⟨trivial, ?_, trivial⟩
  rintro row ⟨⟩

/-- A deleted fan logs in with its Kakao identity: the nickname comes back, and tokens are issued. -/
theorem leavesDeleted_kakao_returns :
    ¬Always (step kakaoEnv) (fun db a => LeavesDeleted db (step kakaoEnv db a)) kakaoFan
      kakaoReturns ∧
    (run (step kakaoEnv) kakaoFan kakaoReturns).users =
      [{ id := "user_a", nickname := some "달빛", deletedAt := some 1 }] ∧
    (run (step kakaoEnv) kakaoFan kakaoReturns).refreshTokens.map (·.userId) = ["user_a"] := by
  refine ⟨?_, by decide, by decide⟩
  rintro ⟨-, hlogin, -⟩
  exact absurd hlogin (by decide)

end Identity

end Fanfolio
