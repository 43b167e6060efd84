import Fanfolio.Identity.Logins

/-!
# Deleting an account

The deletion writes one nickname to every deleted row, and nicknames are unique among fans.
-/

namespace Fanfolio

open Framework

/-- The user is gone: no identity, no profile, no session and no live refresh token is left. -/
structure IdentityDb.Erased (db : IdentityDb) (userId : UserId) (now : Time) : Prop where
  row : ∃ user, db.findUser userId = some user ∧ user.deletedAt = some now ∧ user.email = none ∧
    user.username = none ∧ user.passwordHash = none ∧ user.nickname = some deletedNickname ∧
    user.profileImageUrl = none ∧ user.favoriteArtistIds = [] ∧ user.favoriteMemberIds = [] ∧
    user.onboardingCompleted = false ∧ user.notificationEmailEnabled = false
  sessions : ∀ session ∈ db.sessions, session.userId ≠ userId
  tokens : ∀ token ∈ db.refreshTokens, token.userId = userId → token.revokedAt ≠ none

variable {lower : String → String} {db : IdentityDb} {user : Account} {now : Time}

theorem findUser_setUser (row : Account) (h : row.id ∈ db.users.map (·.id)) :
    (db.setUser row).findUser row.id = some row := by
  have hfound : (db.findUser row.id).isSome := by
    rw [Option.isSome_iff_ne_none]
    exact fun hnone => find_eq_none_iff.mp hnone h
  rw [IdentityDb.findUser, IdentityDb.setUser, patch, List.find?_map]
  obtain ⟨old, hold⟩ := Option.isSome_iff_exists.mp hfound
  have hsame : (fun user : Account => user.id == row.id) ∘
      (fun user => if user.id == row.id then row else user) = fun user => user.id == row.id := by
    funext user
    by_cases hid : user.id = row.id <;> simp [hid]
  rw [hsame, ← IdentityDb.findUser, hold, Option.map_some,
    if_pos (beq_iff_eq.mpr (IdentityDb.findUser_mem hold).2)]

/-- What a deletion that succeeds leaves. -/
theorem deleteAccount_erased {confirmation : String} {db' : IdentityDb} (hmem : user ∈ db.users)
    (h : deleteAccount db lower confirmation user now = .ok db') : db'.Erased user.id now := by
  simp only [deleteAccount, bind_ok, IdentityDb.updateUser_ok, pure_ok] at h
  obtain ⟨_, -, _, ⟨-, rfl⟩, rfl⟩ := h
  refine ⟨⟨user.anonymized now, ?_, rfl, rfl, rfl, rfl, rfl, rfl, rfl, rfl, rfl, rfl⟩, ?_, ?_⟩
  · have hstored : user.id ∈ db.users.map (·.id) := List.mem_map_of_mem hmem
    exact findUser_setUser (user.anonymized now) hstored
  · intro session hsession
    simpa using (List.mem_filter.mp hsession).2
  · intro token htoken huser
    obtain ⟨old, -, rfl⟩ := mem_patch.mp htoken
    split
    · exact revoke_revoked old
    · rename_i hcond
      rw [if_neg hcond] at huser
      simpa [huser] using hcond

/-- A fan can be deleted exactly if no other fan goes by the nickname of deleted rows. -/
theorem deleteAccount_iff_nickname_free (hmem : user ∈ db.users) (hfan : user.role = .fan) :
    (∃ db', deleteAccount db lower "DELETE MY ACCOUNT" user now = .ok db' ∧
      db'.Erased user.id now) ↔ ¬db.HoldsNickname lower deletedNickname user.id := by
  have hcheck : db.checkUser lower (user.anonymized now) = .ok () ↔
      ¬db.HoldsNickname lower deletedNickname user.id := by
    rw [checkUser_fan (user.anonymized now) hfan rfl]
    simp [Account.anonymized]
  rw [← hcheck]
  constructor
  · rintro ⟨db', hok, -⟩
    simp only [deleteAccount, bind_ok, IdentityDb.updateUser_ok] at hok
    obtain ⟨_, -, _, ⟨hrow, -⟩, -⟩ := hok
    exact hrow
  · intro hrow
    have hok : ∃ db', deleteAccount db lower "DELETE MY ACCOUNT" user now = .ok db' := by
      simp only [deleteAccount, bind_ok, ensure_ok, IdentityDb.updateUser_ok]
      exact ⟨_, (), trivial, _, ⟨hrow, rfl⟩, rfl⟩
    obtain ⟨db', hok⟩ := hok
    exact ⟨db', hok, deleteAccount_erased hmem hok⟩

/-- A fan that has signed up with the email. -/
def fanRow (userId email : String) : Account :=
  { id := userId, email := some email, passwordHash := some "hash" }

/-- Two fans sign up. -/
def signedUp : Except Failure IdentityDb := do
  let (_, db) ← fanPasswordSignup plainEnv {} "a@example.com" "hash" "user_a" ⟨"j1", "f1", "t1"⟩ 0
  let (_, db) ← fanPasswordSignup plainEnv db "b@example.com" "hash" "user_b" ⟨"j2", "f2", "t2"⟩ 0
  pure db

theorem deleteAccount_first :
    ∃ db', deleteAccount { users := [fanRow "user_a" "a@example.com"] } id "DELETE MY ACCOUNT"
      (fanRow "user_a" "a@example.com") 1 = .ok db' ∧
        db'.Erased (fanRow "user_a" "a@example.com").id 1 := by
  rw [deleteAccount_iff_nickname_free (by decide) (by decide)]
  rintro ⟨-, other, hmem, hid, -⟩
  obtain rfl := List.mem_singleton.mp hmem
  exact hid rfl

/-- Of two fans that sign up, only the first can delete its account. -/
theorem deleteAccount_second : (do
    let db ← signedUp
    let db ← deleteAccount db id "DELETE MY ACCOUNT" (fanRow "user_a" "a@example.com") 1
    deleteAccount db id "DELETE MY ACCOUNT" (fanRow "user_b" "b@example.com") 2) =
      .error (.integrity "uq_users_role_nickname_ci") ∧
    ∃ db, (do
      let db ← signedUp
      deleteAccount db id "DELETE MY ACCOUNT" (fanRow "user_a" "a@example.com") 1) = .ok db ∧
      fanRow "user_b" "b@example.com" ∈ db.users ∧
      ¬∃ db', deleteAccount db id "DELETE MY ACCOUNT" (fanRow "user_b" "b@example.com") 2 = .ok db' ∧
        db'.Erased "user_b" 2 := by
  refine ⟨by decide, _, rfl, by decide, ?_⟩
  rintro ⟨db', hok, -⟩
  cases hok

end Fanfolio
