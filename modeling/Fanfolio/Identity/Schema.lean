import Fanfolio.Cards.Schema
import Fanfolio.Framework.Checked
import Fanfolio.Framework.Table

/-!
# Accounts and their credentials

The rows of users, of the provider identities linked to them, and of the sessions, tokens, links
and codes that log them in. A write to `users` is checked against the unique keys of the table.
-/

namespace Fanfolio

open Framework

/-- A row of `users`. -/
structure Account extends User where
  email : Option String := none
  username : Option String := none
  passwordHash : Option String := none
  mustChangePassword : Bool := false
  nickname : Option String := none
  profileImageUrl : Option String := none
  favoriteArtistIds : List String := []
  favoriteMemberIds : List String := []
  onboardingCompleted : Bool := false
  notificationEmailEnabled : Bool := false
  deletedAt : Option Time := none
deriving DecidableEq, Repr

structure SocialAccount where
  id : String
  provider : String
  subject : String
  userId : UserId
  email : Option String
deriving DecidableEq, Repr

/-- A row of `sessions`. -/
structure BrowserSession where
  token : String
  userId : UserId
deriving DecidableEq, Repr

structure RefreshToken where
  jti : String
  familyId : String
  tokenDigest : String
  userId : UserId
  client : String
  expiresAt : Time
  usedAt : Option Time := none
  revokedAt : Option Time := none
  replacedByJti : Option String := none
deriving DecidableEq, Repr

structure PushDevice where
  id : String
  userId : UserId
  token : String
  enabled : Bool := true
deriving DecidableEq, Repr

structure MagicLink where
  tokenHash : String
  email : String
  purpose : String
  expiresAt : Time
  consumedAt : Option Time := none
deriving DecidableEq, Repr

structure OAuthState where
  stateHash : String
  provider : String
  client : String
  redirectUri : String
  expiresAt : Time
  consumedAt : Option Time := none
deriving DecidableEq, Repr

structure OAuthExchangeCode where
  codeHash : String
  userId : UserId
  client : String
  expiresAt : Time
  consumedAt : Option Time := none
deriving DecidableEq, Repr

structure IdentityDb where
  users : List Account := []
  socialAccounts : List SocialAccount := []
  sessions : List BrowserSession := []
  refreshTokens : List RefreshToken := []
  pushDevices : List PushDevice := []
  magicLinks : List MagicLink := []
  oauthStates : List OAuthState := []
  exchangeCodes : List OAuthExchangeCode := []
deriving DecidableEq, Repr

/-- The truth value Python gives an optional string. -/
def truthy : Option String → Bool
  | some s => s != ""
  | none => false

/-- `btrim(s) = ''`: the string is empty or made of spaces. -/
def blank (s : String) : Bool := s.toList.all (· == ' ')

/-- The key of a row in `uq_users_role_email`. -/
def Account.emailKey (user : Account) : Option (Role × String) :=
  user.email.map fun email => (user.role, email)

/-- The key of a row in `uq_users_role_nickname_ci`; `lower` is the function of the database. -/
def Account.nicknameKey (lower : String → String) (user : Account) : Option (Role × String) :=
  (user.nickname.filter fun nickname => !blank nickname).map fun nickname =>
    (user.role, lower nickname)

namespace IdentityDb

def findUser (db : IdentityDb) (userId : UserId) : Option Account :=
  db.users.find? (·.id == userId)

def fanByEmail (db : IdentityDb) (email : String) : Option Account :=
  db.users.find? fun user => user.email == some email && user.role == .fan

def socialAccount (db : IdentityDb) (provider subject : String) : Option SocialAccount :=
  db.socialAccounts.find? fun account => (account.provider, account.subject) == (provider, subject)

/-- Another row holds the value of a unique key. -/
def taken {κ : Type} [DecidableEq κ] (key : Account → Option κ) (db : IdentityDb) (row : Account) :
    Bool :=
  (key row).isSome && db.users.any fun user => user.id != row.id && key user == key row

/-- The unique keys that a written row of `users` is checked against. -/
def checkUser (lower : String → String) (db : IdentityDb) (row : Account) : Except Failure Unit := do
  ensure (db.taken (·.emailKey) row = false) (.integrity "uq_users_role_email")
  ensure (db.taken (·.username) row = false) (.integrity "users_username_key")
  ensure (db.taken (·.nicknameKey lower) row = false) (.integrity "uq_users_role_nickname_ci")

def setUser (db : IdentityDb) (row : Account) : IdentityDb :=
  { db with users := patch (·.id == row.id) (fun _ => row) db.users }

/-- `UPDATE users`. -/
def updateUser (lower : String → String) (db : IdentityDb) (row : Account) :
    Except Failure IdentityDb := do
  checkUser lower db row
  pure (db.setUser row)

/-- `INSERT INTO users`. -/
def insertUser (lower : String → String) (db : IdentityDb) (row : Account) :
    Except Failure IdentityDb := do
  ensure (row.id ∉ db.users.map (·.id)) (.integrity "users_pkey")
  checkUser lower db row
  pure { db with users := db.users ++ [row] }

/-- `INSERT INTO social_accounts`. -/
def insertSocialAccount (db : IdentityDb) (row : SocialAccount) : Except Failure IdentityDb := do
  ensure (row.id ∉ db.socialAccounts.map (·.id)) (.integrity "social_accounts_pkey")
  ensure ((db.socialAccount row.provider row.subject).isNone)
    (.integrity "uq_social_accounts_provider_subject")
  pure { db with socialAccounts := db.socialAccounts ++ [row] }

/-- No two rows have the same value of a unique key. -/
def Unique {κ : Type} [DecidableEq κ] (key : Account → Option κ) (db : IdentityDb) : Prop :=
  ∀ user ∈ db.users, db.taken key user = false

instance {κ : Type} [DecidableEq κ] (key : Account → Option κ) (db : IdentityDb) :
    Decidable (db.Unique key) :=
  inferInstanceAs (Decidable (∀ user ∈ db.users, db.taken key user = false))

/-- The table constraints on users and on the provider identities linked to them. -/
structure Valid (lower : String → String) (db : IdentityDb) : Prop where
  userIds : (db.users.map (·.id)).Nodup
  emails : db.Unique (·.emailKey)
  usernames : db.Unique (·.username)
  nicknames : db.Unique (·.nicknameKey lower)
  socialIds : (db.socialAccounts.map (·.id)).Nodup
  subjects : (db.socialAccounts.map fun account => (account.provider, account.subject)).Nodup
  owners : ∀ account ∈ db.socialAccounts, account.userId ∈ db.users.map (·.id)

section

variable {κ : Type} [DecidableEq κ] {key : Account → Option κ} {lower : String → String}
  {db : IdentityDb} {row user : Account}

theorem taken_eq_false : db.taken key row = false ↔
    ∀ k, key row = some k → ∀ user ∈ db.users, user.id ≠ row.id → key user ≠ some k := by
  constructor
  · intro h k hk user hmem hid hsame
    have hany : db.taken key row = true := by
      simp only [taken, hk, Option.isSome_some, Bool.true_and, List.any_eq_true]
      exact ⟨user, hmem, by simp [hid, hsame]⟩
    rw [h] at hany
    cases hany
  · intro h
    cases hk : key row with
    | none => simp [taken, hk]
    | some k =>
      simp only [taken, hk, Option.isSome_some, Bool.true_and, List.any_eq_false]
      intro user hmem
      by_cases hid : user.id = row.id
      · simp [hid]
      · simpa [hid] using h k hk user hmem hid

@[simp] theorem checkUser_ok {u : Unit} : checkUser lower db row = .ok u ↔
    db.taken (·.emailKey) row = false ∧ db.taken (·.username) row = false ∧
      db.taken (·.nicknameKey lower) row = false := by
  simp [checkUser]

theorem updateUser_ok {db' : IdentityDb} : updateUser lower db row = .ok db' ↔
    checkUser lower db row = .ok () ∧ db' = db.setUser row := by
  rw [updateUser, bind_ok, eq_comm (a := db')]
  exact ⟨fun ⟨_, hcheck, hdb⟩ => ⟨hcheck, pure_ok.mp hdb⟩,
    fun ⟨hcheck, hdb⟩ => ⟨(), hcheck, pure_ok.mpr hdb⟩⟩

theorem insertUser_ok {db' : IdentityDb} : insertUser lower db row = .ok db' ↔
    row.id ∉ db.users.map (·.id) ∧ checkUser lower db row = .ok () ∧
      db' = { db with users := db.users ++ [row] } := by
  simp only [insertUser, bind_ok, ensure_ok]
  constructor
  · rintro ⟨_, hfresh, _, hcheck, hdb⟩
    exact ⟨hfresh, hcheck, (pure_ok.mp hdb).symm⟩
  · rintro ⟨hfresh, hcheck, rfl⟩
    exact ⟨(), hfresh, (), hcheck, rfl⟩

theorem findUser_mem {userId : UserId} (h : db.findUser userId = some user) :
    user ∈ db.users ∧ user.id = userId := mem_of_find_eq_some h

theorem mem_setUser : user ∈ (db.setUser row).users ↔
    (user ∈ db.users ∧ user.id ≠ row.id) ∨ (user = row ∧ row.id ∈ db.users.map (·.id)) := by
  simp only [setUser, mem_patch, List.mem_map, beq_iff_eq]
  constructor
  · rintro ⟨row', hmem, rfl⟩
    split
    · exact .inr ⟨rfl, row', hmem, by assumption⟩
    · exact .inl ⟨hmem, by assumption⟩
  · rintro (⟨hmem, hid⟩ | ⟨rfl, row', hmem, hid⟩)
    · exact ⟨user, hmem, by rw [if_neg hid]⟩
    · exact ⟨row', hmem, by rw [if_pos hid]⟩

theorem setUser_ids : (db.setUser row).users.map (·.id) = db.users.map (·.id) := by
  rw [setUser, patch, List.map_map]
  apply List.map_congr_left
  intro user _
  by_cases hid : user.id = row.id <;> simp [hid]

theorem Unique.setUser (h : db.Unique key) (hrow : db.taken key row = false) :
    (db.setUser row).Unique key := by
  intro user huser
  rw [taken_eq_false] at hrow ⊢
  intro k hk other hother hid hsame
  rcases mem_setUser.mp huser with ⟨hmem, hne⟩ | ⟨rfl, -⟩
  · rcases mem_setUser.mp hother with ⟨hmem', -⟩ | ⟨rfl, -⟩
    · exact taken_eq_false.mp (h user hmem) k hk other hmem' hid hsame
    · exact hrow k hsame user hmem hne hk
  · rcases mem_setUser.mp hother with ⟨hmem', -⟩ | ⟨rfl, -⟩
    · exact hrow k hk other hmem' hid hsame
    · exact hid rfl

theorem Unique.insert (h : db.Unique key) (hrow : db.taken key row = false)
    (hfresh : row.id ∉ db.users.map (·.id)) :
    ({ db with users := db.users ++ [row] } : IdentityDb).Unique key := by
  have hne (user : Account) (hmem : user ∈ db.users) : user.id ≠ row.id :=
    fun hid => hfresh (hid ▸ List.mem_map_of_mem hmem)
  intro user huser
  rw [taken_eq_false] at hrow ⊢
  intro k hk other hother hid hsame
  rcases List.mem_append.mp huser with hmem | hmem
  · rcases List.mem_append.mp hother with hmem' | hmem'
    · exact taken_eq_false.mp (h user hmem) k hk other hmem' hid hsame
    · obtain rfl := List.mem_singleton.mp hmem'
      exact hrow k hsame user hmem (hne user hmem) hk
  · obtain rfl := List.mem_singleton.mp hmem
    rcases List.mem_append.mp hother with hmem' | hmem'
    · exact hrow k hk other hmem' hid hsame
    · exact hid (by rw [List.mem_singleton.mp hmem'])

theorem Valid.checkUser (h : db.Valid lower) (hmem : row ∈ db.users) :
    checkUser lower db row = .ok () :=
  checkUser_ok.mpr ⟨h.emails row hmem, h.usernames row hmem, h.nicknames row hmem⟩

theorem Valid.setUser (h : db.Valid lower) (hrow : IdentityDb.checkUser lower db row = .ok ()) :
    (db.setUser row).Valid lower := by
  obtain ⟨hemail, husername, hnickname⟩ := checkUser_ok.mp hrow
  exact
    { userIds := by rw [setUser_ids]; exact h.userIds
      emails := h.emails.setUser hemail
      usernames := h.usernames.setUser husername
      nicknames := h.nicknames.setUser hnickname
      socialIds := h.socialIds
      subjects := h.subjects
      owners := by rw [setUser_ids]; exact h.owners }

theorem Valid.insertUser (h : db.Valid lower) {db' : IdentityDb}
    (hok : db.insertUser lower row = .ok db') : db'.Valid lower := by
  obtain ⟨hfresh, hrow, rfl⟩ := insertUser_ok.mp hok
  obtain ⟨hemail, husername, hnickname⟩ := checkUser_ok.mp hrow
  exact
    { userIds := nodup_insert h.userIds fun user hmem hid => hfresh (hid ▸ List.mem_map_of_mem hmem)
      emails := h.emails.insert hemail hfresh
      usernames := h.usernames.insert husername hfresh
      nicknames := h.nicknames.insert hnickname hfresh
      socialIds := h.socialIds
      subjects := h.subjects
      owners := by
        intro account hmem
        rw [List.map_append]
        exact List.mem_append_left _ (h.owners account hmem) }

end

end IdentityDb

end Fanfolio
