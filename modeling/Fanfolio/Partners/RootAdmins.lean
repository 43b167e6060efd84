import Fanfolio.Partners.Containment

/-!
# Root admins

A root admin changes the roles of accounts and creates accounts of admins and artists. Whoever
acts as root keeps the own role, so that one request after the other never takes the last root
admin away, and nobody else changes who does.
-/

namespace Fanfolio

open Framework

namespace PartnerDb

/-- `current_admin_context`, with the checks of the session that come before it. -/
def currentAdmin (db : PartnerDb) (userId : UserId) : Except Failure AdminContext := do
  let user ← orFail ((db.identity.findUser userId).filter (·.deletedAt.isNone))
    (.app ⟨401, "AUTH_REQUIRED", "유효하지 않은 세션입니다."⟩)
  ensure (user.role = .admin) (.app ⟨403, "FORBIDDEN", "권한이 없습니다."⟩)
  loadAdminContext db user

/-- `root_admin_user`. -/
def rootAdmin (db : PartnerDb) (userId : UserId) : Except Failure AdminContext := do
  let context ← db.currentAdmin userId
  context.requireRoot
  return context

/-- The console lets the user act as root. -/
def ActsAsRoot (db : PartnerDb) (userId : UserId) : Prop :=
  ∃ context, db.rootAdmin userId = .ok context

def adminCount (db : PartnerDb) : Nat := db.identity.users.countP (·.role == .admin)

end PartnerDb

def userNotFound : Failure := .app ⟨404, "USER_NOT_FOUND", "사용자를 찾을 수 없습니다."⟩

def ownRole : Failure :=
  .app ⟨409, "CANNOT_CHANGE_OWN_ROLE", "현재 로그인한 관리자의 역할은 변경할 수 없습니다."⟩

def lastAdminRequired : Failure :=
  .app ⟨409, "LAST_ADMIN_REQUIRED", "최소 한 명의 관리자가 필요합니다."⟩

/-- `AdminAccountCreate`, with what the request draws. -/
structure AdminAccountCreate where
  email : String
  displayName : String
  draws : MemberDraws
deriving DecidableEq, Repr

/-- `ArtistAccountCreate`, with what the request draws. -/
structure ArtistAccountCreate where
  username : String
  displayName : String
  draws : MemberDraws
deriving DecidableEq, Repr

namespace PartnerDb

variable (env : PartnerEnv) (db : PartnerDb)

/-- The write of `update_user_role`; a role that was loaded as it should be is not written. -/
def writeRole (user : Account) (role : Role) : Except Failure PartnerDb :=
  if user.role = role then pure db
  else do
    let row ← orFail (db.identity.findUser user.id) (.unhandled "StaleDataError")
    let identity ← db.identity.updateUser env.lower { row with role := role }
    return { db with identity := identity }

/-- The change takes the role of an admin away. -/
def demotes (user : Account) (role : Role) : Bool := user.role == .admin && role != .admin

/-- `update_user_role`. -/
def updateUserRole (context : AdminContext) (userId : UserId) (role : Role) :
    Except Failure PartnerDb := do
  ensure (userId ≠ context.user.id) ownRole
  let user ← orFail (db.identity.findUser userId) userNotFound
  ensure (¬(demotes user role ∧ db.adminCount = 1)) lastAdminRequired
  db.writeRole env user role

/-- `create_admin_account`. -/
def createAdminAccount (context : AdminContext) (payload : AdminAccountCreate) :
    Except Failure PartnerDb := do
  let email := env.lowerEmail payload.email
  ensure (db.identity.users.all fun user => user.email != some email || user.role != .admin)
    (.app ⟨409, "EMAIL_TAKEN", "이미 등록된 이메일입니다."⟩)
  let identity ← db.identity.insertUser env.lower
    { id := payload.draws.userId, email := some email, nickname := some payload.displayName,
      role := .admin, passwordHash := some payload.draws.passwordHash, mustChangePassword := true }
  ensure (db.findMembership payload.draws.userId = none) (.integrity "admin_memberships_pkey")
  return { db with
    identity := identity
    memberships := db.memberships ++
      [{ userId := payload.draws.userId, organizationId := none, accessLevel := .root,
         displayName := payload.displayName, createdByUserId := some context.user.id,
         updatedAt := payload.draws.now }] }

/-- `create_artist_account`. -/
def createArtistAccount (payload : ArtistAccountCreate) : Except Failure PartnerDb := do
  let username := env.lowerEmail payload.username
  ensure (db.identity.users.all (·.username != some username))
    (.app ⟨409, "USERNAME_TAKEN", "이미 사용 중인 아이디입니다."⟩)
  let identity ← db.identity.insertUser env.lower
    { id := payload.draws.userId, username := some username, nickname := some payload.displayName,
      role := .artist, passwordHash := some payload.draws.passwordHash,
      mustChangePassword := true }
  return { db with identity := identity }

/-- `reset_artist_account_password`. -/
def resetArtistAccountPassword (userId : UserId) (draws : MemberDraws) :
    Except Failure PartnerDb := do
  let user ← orFail ((db.identity.findUser userId).filter (·.role == .artist))
    (.app ⟨404, "ARTIST_ACCOUNT_NOT_FOUND", "아티스트 계정을 찾을 수 없습니다."⟩)
  let identity := db.identity.setUser
    { user with passwordHash := some draws.passwordHash, mustChangePassword := true }
  return { db with
    identity := { identity with
      refreshTokens := patch
        (fun token => token.userId == userId && token.client == "artist" && token.revokedAt.isNone)
        (fun token => { token with revokedAt := some draws.now }) identity.refreshTokens } }

end PartnerDb

/-- A request to the console, of those that write accounts or memberships. -/
inductive ConsoleRequest where
  | partner (request : PartnerRequest)
  | updateUserRole (userId : UserId) (role : Role)
  | createAdminAccount (payload : AdminAccountCreate)
  | createArtistAccount (payload : ArtistAccountCreate)
  | resetArtistAccountPassword (userId : UserId) (draws : MemberDraws)
deriving DecidableEq, Repr

namespace PartnerDb

variable (env : PartnerEnv) (db : PartnerDb)

/-- A request of the user, from the check of the session to the commit. -/
def serve (userId : UserId) : ConsoleRequest → Except Failure PartnerDb
  | .partner request => do
    let context ← db.currentAdmin userId
    db.perform env context request
  | .updateUserRole targetId role => do
    let context ← db.rootAdmin userId
    db.updateUserRole env context targetId role
  | .createAdminAccount payload => do
    let context ← db.rootAdmin userId
    db.createAdminAccount env context payload
  | .createArtistAccount payload => do
    let _ ← db.rootAdmin userId
    db.createArtistAccount env payload
  | .resetArtistAccountPassword targetId draws => do
    let _ ← db.rootAdmin userId
    db.resetArtistAccountPassword targetId draws

/-- One request after the other; one that fails is rolled back. -/
def serveStep (request : UserId × ConsoleRequest) : PartnerDb :=
  match db.serve env request.1 request.2 with
  | .ok db' => db'
  | .error _ => db

/-- The primary key of memberships and the check `ck_admin_membership_scope` of root admins. -/
structure Governed (db : PartnerDb) : Prop where
  keys : db.Keyed
  scope : ∀ membership ∈ db.memberships, membership.accessLevel = .root →
    membership.organizationId = none

section

variable {env : PartnerEnv} {db db' : PartnerDb} {context : AdminContext} {userId : UserId}

theorem currentAdmin_ok : db.currentAdmin userId = .ok context ↔
    ∃ user, db.identity.findUser userId = some user ∧ user.deletedAt = none ∧
      user.role = .admin ∧ loadAdminContext db user = .ok context := by
  simp only [currentAdmin, bind_ok, orFail_ok, ensure_ok, exists_const, Option.filter_eq_some_iff,
    Option.isNone_iff_eq_none, and_assoc]

theorem requireRoot_ok {u : Unit} : context.requireRoot = .ok u ↔
    context.membership.accessLevel = .root := by
  simp only [AdminContext.requireRoot, ensure_ok, AdminContext.isRoot, beq_iff_eq]

theorem loadAdminContext_root {user : Account} :
    (∃ context, loadAdminContext db user = .ok context ∧
      context.membership.accessLevel = .root) ↔
    ∃ membership, db.findMembership user.id = some membership ∧ membership.status = .active ∧
      membership.accessLevel = .root := by
  constructor
  · rintro ⟨context, hload, hroot⟩
    simp only [loadAdminContext, bind_ok, orFail_ok, ensure_ok, exists_const] at hload
    obtain ⟨membership, hfind, hactive, hcontext⟩ := hload
    refine ⟨membership, hfind, hactive, ?_⟩
    split at hcontext
    · assumption
    · simp only [bind_ok, ensure_ok, pure_ok] at hcontext
      obtain ⟨_, -, rfl⟩ := hcontext
      exact hroot
    · simp only [bind_ok, orFail_ok, pure_ok] at hcontext
      obtain ⟨_, -, _, -, rfl⟩ := hcontext
      exact hroot
  · rintro ⟨membership, hfind, hactive, hroot⟩
    refine ⟨⟨user, membership, none, [], rootActions⟩, ?_, hroot⟩
    simp only [loadAdminContext, bind_ok, orFail_ok, ensure_ok, exists_const]
    refine ⟨membership, hfind, hactive, ?_⟩
    rw [hroot]
    rfl

/-- Who acts as root, by the rows of the account and of the membership. -/
theorem actsAsRoot_iff : db.ActsAsRoot userId ↔
    ∃ user, db.identity.findUser userId = some user ∧ user.deletedAt = none ∧
      user.role = .admin ∧ ∃ membership, db.findMembership userId = some membership ∧
        membership.status = .active ∧ membership.accessLevel = .root := by
  simp only [ActsAsRoot, rootAdmin, bind_ok, requireRoot_ok, pure_ok, currentAdmin_ok,
    exists_const]
  constructor
  · rintro ⟨context, context, ⟨user, hfind, hkept, hrole, hload⟩, hroot, rfl⟩
    obtain ⟨-, rfl⟩ := IdentityDb.findUser_mem hfind
    exact ⟨user, hfind, hkept, hrole, loadAdminContext_root.mp ⟨context, hload, hroot⟩⟩
  · rintro ⟨user, hfind, hkept, hrole, hmembership⟩
    obtain ⟨-, rfl⟩ := IdentityDb.findUser_mem hfind
    obtain ⟨context, hload, hroot⟩ := loadAdminContext_root.mpr hmembership
    exact ⟨context, context, ⟨user, hfind, hkept, hrole, hload⟩, hroot, rfl⟩

/-- The account and the membership of the user are as they were. -/
structure KeepsAdmin (userId : UserId) (db db' : PartnerDb) : Prop where
  account : db'.identity.findUser userId = db.identity.findUser userId
  membership : db'.findMembership userId = db.findMembership userId

theorem KeepsAdmin.refl (userId : UserId) (db : PartnerDb) : KeepsAdmin userId db db := ⟨rfl, rfl⟩

theorem KeepsAdmin.actsAsRoot (h : KeepsAdmin userId db db') :
    db'.ActsAsRoot userId ↔ db.ActsAsRoot userId := by
  rw [actsAsRoot_iff, actsAsRoot_iff, h.account, h.membership]

theorem findUser_append {identity : IdentityDb} {row : Account} {userId : UserId}
    (h : (identity.findUser userId).isSome) :
    ({ identity with users := identity.users ++ [row] } : IdentityDb).findUser userId =
      identity.findUser userId := by
  obtain ⟨user, huser⟩ := Option.isSome_iff_exists.mp h
  rw [huser]
  exact find_insert_of_some huser row

theorem findMembership_append {row : AdminMembership} {membership : AdminMembership}
    (h : db.findMembership userId = some membership) :
    ({ db with memberships := db.memberships ++ [row] } : PartnerDb).findMembership userId =
      db.findMembership userId := by
  rw [h]
  exact find_insert_of_some h row

theorem findMembership_setMembership {row : AdminMembership} (h : row.userId ≠ userId) :
    (db.setMembership row).findMembership userId = db.findMembership userId :=
  find_replace_other db.memberships h

theorem Governed.append {row : AdminMembership} (h : db.Governed)
    (hnew : db.findMembership row.userId = none)
    (hscope : row.accessLevel = .root → row.organizationId = none)
    (hmemberships : db'.memberships = db.memberships ++ [row]) : db'.Governed where
  keys := by
    rw [Keyed, hmemberships]
    refine nodup_insert h.keys fun membership hmem hid => ?_
    exact find_eq_none_iff.mp hnew (List.mem_map.mpr ⟨membership, hmem, hid⟩)
  scope membership hmem := by
    rw [hmemberships] at hmem
    rcases List.mem_append.mp hmem with hold | hlast
    · exact h.scope membership hold
    · rw [List.mem_singleton.mp hlast]
      exact hscope

/-- The membership of a member of an organization is written. -/
theorem Governed.setMembership {row : AdminMembership} (h : db.Governed)
    (hlevel : row.accessLevel ≠ .root) : (db.setMembership row).Governed where
  keys := by
    rw [Keyed, setMembership_userIds]
    exact h.keys
  scope membership hmem hroot := by
    rcases mem_setMembership hmem with rfl | ⟨hold, -⟩
    · exact absurd hroot hlevel
    · exact h.scope membership hold hroot

theorem Governed.of_memberships (h : db.Governed) (heq : db'.memberships = db.memberships) :
    db'.Governed where
  keys := by
    rw [Keyed, heq]
    exact h.keys
  scope := by
    rw [heq]
    exact h.scope

theorem ActsAsRoot.membership (h : db.ActsAsRoot userId) :
    ∃ membership, db.findMembership userId = some membership ∧ membership.accessLevel = .root := by
  obtain ⟨_, -, -, -, membership, hfind, -, hroot⟩ := actsAsRoot_iff.mp h
  exact ⟨membership, hfind, hroot⟩

/-- A row that is inserted for no root admin makes none of the accounts one. -/
theorem keepsAdmin_append {row : AdminMembership} {account : Account}
    (hnew : db.findMembership row.userId = none) (hlevel : row.accessLevel ≠ .root)
    (hid : account.id = row.userId)
    (hidentity : db'.identity.users = db.identity.users ++ [account])
    (hmemberships : db'.memberships = db.memberships ++ [row])
    (hroot : db.ActsAsRoot userId ∨ db'.ActsAsRoot userId) : KeepsAdmin userId db db' := by
  have hmembership : db'.findMembership userId =
      (db.findMembership userId).or (if row.userId == userId then some row else none) := by
    rw [findMembership, hmemberships, find_insert]
    rfl
  have hfound : ∃ membership, db.findMembership userId = some membership := by
    rcases hroot with hroot | hroot
    · obtain ⟨membership, hfind, -⟩ := hroot.membership
      exact ⟨membership, hfind⟩
    · obtain ⟨membership, hfind, hmember⟩ := hroot.membership
      rw [hmembership] at hfind
      cases hold : db.findMembership userId with
      | some membership => exact ⟨membership, rfl⟩
      | none =>
        rw [hold, Option.none_or] at hfind
        split at hfind
        · cases hfind
          exact absurd hmember hlevel
        · cases hfind
  obtain ⟨membership, hfind⟩ := hfound
  have hne : (account.id == userId) = false := by
    rw [beq_eq_false_iff_ne, hid]
    rintro rfl
    rw [hnew] at hfind
    cases hfind
  constructor
  · simp [IdentityDb.findUser, hidentity, hne]
  · rw [hmembership, hfind, Option.some_or]

/-- A membership that is written for no root admin makes none of the accounts one. -/
theorem keepsAdmin_set {old row : AdminMembership} (hlevel : row.accessLevel ≠ .root)
    (hfind : db.findMembership row.userId = some old) (hold : old.accessLevel ≠ .root)
    (hidentity : ∀ other, other ≠ row.userId →
      db'.identity.findUser other = db.identity.findUser other)
    (hmemberships : db'.memberships = (db.setMembership row).memberships)
    (hroot : db.ActsAsRoot userId ∨ db'.ActsAsRoot userId) : KeepsAdmin userId db db' := by
  have hne : userId ≠ row.userId := by
    rintro rfl
    rcases hroot with hroot | hroot
    · obtain ⟨membership, hfound, hmember⟩ := hroot.membership
      cases hfind.symm.trans hfound
      exact hold hmember
    · obtain ⟨membership, hfound, hmember⟩ := hroot.membership
      have hset : db'.findMembership row.userId = some row := by
        rw [findMembership, hmemberships, PartnerDb.setMembership,
          find_replace (g := AdminMembership.userId), ← findMembership, hfind]
        rfl
      cases hset.symm.trans hfound
      exact hlevel hmember
  refine ⟨hidentity userId hne, ?_⟩
  rw [findMembership, hmemberships]
  exact findMembership_setMembership hne.symm

/-- A member of an organization is no root admin. -/
theorem Governed.memberOr404_ok (h : db.Governed) {organizationId : OrganizationId}
    {memberId : UserId} {user : Account} {membership : AdminMembership}
    (hmember : db.memberOr404 organizationId memberId = .ok (user, membership)) :
    db.findMembership membership.userId = some membership ∧ membership.accessLevel ≠ .root ∧
      user.id = membership.userId ∧ membership.userId = memberId := by
  obtain ⟨⟨hmem, hid, horganization⟩, -, huser⟩ := PartnerDb.memberOr404_ok hmember
  refine ⟨find_of_mem h.keys hmem, fun hroot => ?_, huser.trans hid.symm, hid⟩
  rw [h.scope membership hmem hroot] at horganization
  cases horganization

/-- No request about organizations and their staff makes an account a root admin or takes one
away. -/
theorem perform_keepsAdmin (userId : UserId) {request : PartnerRequest} (h : db.Governed)
    (hok : db.perform env context request = .ok db') :
    db'.Governed ∧ (db.ActsAsRoot userId ∨ db'.ActsAsRoot userId → KeepsAdmin userId db db') := by
  cases request with
  | updateOrganization organizationId payload now =>
    simp only [perform, updateOrganization, bind_ok, pure_ok] at hok
    obtain ⟨_, -, _, -, _, -, _, -, _, -, _, -, _, -, _, -, rfl⟩ := hok
    exact ⟨h.of_memberships rfl, fun _ => ⟨rfl, rfl⟩⟩
  | setOrganizationArtists organizationId artistIds =>
    simp only [perform, setOrganizationArtists, bind_ok, pure_ok] at hok
    obtain ⟨_, -, _, -, _, -, rfl⟩ := hok
    exact ⟨h.of_memberships rfl, fun _ => ⟨rfl, rfl⟩⟩
  | listMembers organizationId =>
    simp only [perform, bind_ok, pure_ok] at hok
    obtain ⟨_, -, rfl⟩ := hok
    exact ⟨h, fun _ => .refl userId db⟩
  | createMember organizationId payload draws =>
    simp only [perform, createOrganizationMember, bind_ok, ensure_ok] at hok
    obtain ⟨_, -, _, -, _, -, artistIds, -, identity, hidentity, _, hnone, hinsert⟩ := hok
    obtain ⟨-, -, rfl⟩ := IdentityDb.insertUser_ok.mp hidentity
    obtain rfl := insertAssignments_ok hinsert
    exact ⟨h.append hnone (fun hroot => by cases hroot) rfl,
      keepsAdmin_append hnone (fun hroot => by cases hroot) rfl rfl rfl⟩
  | updateMember organizationId memberId payload now =>
    simp only [perform, updateOrganizationMember, bind_ok, pure_ok] at hok
    obtain ⟨_, -, ⟨user, membership⟩, hmember, _, -, accessLevel, haccess, status, -, displayName,
      -, identity, hrename, rfl⟩ := hok
    obtain ⟨hfind, hold, huser, -⟩ := h.memberOr404_ok hmember
    have hpartner : accessLevel ≠ .root := by
      rcases setRequired_ok haccess with ⟨-, rfl⟩ | hset
      · exact hold
      · rintro rfl
        obtain ⟨field, -, hvalue⟩ := Option.map_eq_some_iff.mp hset
        cases field <;> cases hvalue
    have hlevel : { membership with
        accessLevel := accessLevel, status := status, displayName := displayName,
        updatedAt := now }.accessLevel ≠ .root := hpartner
    refine ⟨(h.setMembership hlevel).of_memberships rfl, keepsAdmin_set hlevel hfind hold ?_ rfl⟩
    intro other hother
    have hrenamed : identity.findUser other = db.identity.findUser other :=
      renameUser_others hrename (huser ▸ hother)
    simp only [PartnerDb.setMembership]
    split
    · exact hrenamed
    · exact hrenamed
  | resetPassword organizationId memberId draws =>
    simp only [perform, resetOrganizationMemberPassword, bind_ok, pure_ok] at hok
    obtain ⟨_, -, ⟨user, membership⟩, hmember, _, -, rfl⟩ := hok
    obtain ⟨hfind, hold, huser, -⟩ := h.memberOr404_ok hmember
    have hlevel : { membership with updatedAt := draws.now }.accessLevel ≠ .root := hold
    refine ⟨(h.setMembership hlevel).of_memberships rfl, keepsAdmin_set hlevel hfind hold ?_ rfl⟩
    exact fun other hother => findUser_setUser (huser ▸ hother)
  | setMemberArtists organizationId memberId artistIds now =>
    simp only [perform, setMemberArtists, bind_ok] at hok
    obtain ⟨_, -, ⟨user, membership⟩, hmember, _, -, artistIds, -, hinsert⟩ := hok
    obtain ⟨hfind, hold, huser, -⟩ := h.memberOr404_ok hmember
    obtain rfl := insertAssignments_ok hinsert
    have hlevel : { membership with updatedAt := now }.accessLevel ≠ .root := hold
    exact ⟨(h.setMembership hlevel).of_memberships rfl,
      keepsAdmin_set hlevel hfind hold (fun _ _ => rfl) rfl⟩

theorem findUser_setUser_other {identity : IdentityDb} {row : Account} (h : row.id ≠ userId) :
    (identity.setUser row).findUser userId = identity.findUser userId :=
  find_replace_other identity.users h

/-- A role is written to one account. -/
theorem writeRole_ok {user : Account} {role : Role} (hok : db.writeRole env user role = .ok db') :
    db'.memberships = db.memberships ∧
      ∀ other, other ≠ user.id → KeepsAdmin other db db' := by
  unfold writeRole at hok
  split at hok
  · rw [pure_ok] at hok
    subst hok
    exact ⟨rfl, fun other _ => .refl other db⟩
  · simp only [bind_ok, orFail_ok, pure_ok] at hok
    obtain ⟨row, hrow, identity, hidentity, rfl⟩ := hok
    obtain ⟨-, hid⟩ := IdentityDb.findUser_mem hrow
    obtain ⟨-, rfl⟩ := IdentityDb.updateUser_ok.mp hidentity
    refine ⟨rfl, fun other hother => ⟨findUser_setUser_other ?_, rfl⟩⟩
    exact fun heq => hother (heq.symm.trans hid)

/-- Of a request that is served, the account and the membership of a root admin are kept, unless it
changes the role of this admin. -/
theorem serve_keepsAdmin (userId : UserId) {adminId : UserId} {request : ConsoleRequest}
    (h : db.Governed)
    (hok : db.serve env adminId request = .ok db') :
    db'.Governed ∧ (db.ActsAsRoot userId →
      (∀ role, request ≠ .updateUserRole userId role) → KeepsAdmin userId db db') := by
  cases request with
  | partner request =>
    simp only [serve, bind_ok] at hok
    obtain ⟨_, -, hok⟩ := hok
    obtain ⟨hgoverned, hkeeps⟩ := perform_keepsAdmin userId h hok
    exact ⟨hgoverned, fun hroot _ => hkeeps (.inl hroot)⟩
  | updateUserRole targetId role =>
    simp only [serve, updateUserRole, bind_ok, orFail_ok] at hok
    obtain ⟨_, -, _, -, user, huser, _, -, hwrite⟩ := hok
    obtain ⟨-, hid⟩ := IdentityDb.findUser_mem huser
    obtain ⟨hmemberships, hkeeps⟩ := writeRole_ok hwrite
    refine ⟨h.of_memberships hmemberships, fun _ hother => hkeeps userId ?_⟩
    rintro rfl
    exact hother role (by rw [hid])
  | createAdminAccount payload =>
    simp only [serve, createAdminAccount, bind_ok, ensure_ok, pure_ok] at hok
    obtain ⟨_, -, _, -, identity, hidentity, _, hnone, rfl⟩ := hok
    obtain ⟨-, -, rfl⟩ := IdentityDb.insertUser_ok.mp hidentity
    refine ⟨h.append hnone (fun _ => rfl) rfl, fun hroot _ => ?_⟩
    obtain ⟨user, huser, -, -, membership, hmembership, -⟩ := actsAsRoot_iff.mp hroot
    exact ⟨findUser_append (Option.isSome_of_eq_some huser), findMembership_append hmembership⟩
  | createArtistAccount payload =>
    simp only [serve, createArtistAccount, bind_ok, pure_ok] at hok
    obtain ⟨_, -, _, -, identity, hidentity, rfl⟩ := hok
    obtain ⟨-, -, rfl⟩ := IdentityDb.insertUser_ok.mp hidentity
    refine ⟨h.of_memberships rfl, fun hroot _ => ?_⟩
    obtain ⟨user, huser, -⟩ := actsAsRoot_iff.mp hroot
    exact ⟨findUser_append (Option.isSome_of_eq_some huser), rfl⟩
  | resetArtistAccountPassword targetId draws =>
    simp only [serve, resetArtistAccountPassword, bind_ok, orFail_ok, pure_ok] at hok
    obtain ⟨_, -, user, huser, rfl⟩ := hok
    obtain ⟨hfind, hrole⟩ := Option.filter_eq_some_iff.mp huser
    refine ⟨h.of_memberships rfl, fun hroot _ => ⟨findUser_setUser_other ?_, rfl⟩⟩
    obtain ⟨found, hfound, -, hadmin, -⟩ := actsAsRoot_iff.mp hroot
    rintro rfl
    obtain ⟨-, hid⟩ := IdentityDb.findUser_mem hfind
    rw [hid, hfind] at hfound
    cases hfound
    rw [hadmin] at hrole
    cases hrole

theorem serveStep_governed (request : UserId × ConsoleRequest) (h : db.Governed) :
    (db.serveStep env request).Governed := by
  unfold serveStep
  split
  · rename_i db' hok
    exact (serve_keepsAdmin request.1 h hok).1
  · exact h

/-- A demotion that is written. -/
theorem writeRole_demotes {user : Account} {role : Role} (h : demotes user role = true)
    (hok : db.writeRole env user role = .ok db') : ¬db'.ActsAsRoot user.id := by
  simp only [demotes, Bool.and_eq_true, beq_iff_eq, bne_iff_ne] at h
  rw [writeRole, if_neg (by rw [h.1]; exact h.2.symm)] at hok
  simp only [bind_ok, orFail_ok, pure_ok] at hok
  obtain ⟨row, hrow, identity, hidentity, rfl⟩ := hok
  obtain ⟨-, hid⟩ := IdentityDb.findUser_mem hrow
  obtain ⟨-, rfl⟩ := IdentityDb.updateUser_ok.mp hidentity
  intro hroot
  obtain ⟨found, hfound, -, hadmin, -⟩ := actsAsRoot_iff.mp hroot
  obtain ⟨hmem, hfoundId⟩ := IdentityDb.findUser_mem hfound
  rcases IdentityDb.mem_setUser.mp hmem with ⟨-, hne⟩ | ⟨rfl, -⟩
  · exact hne (hfoundId.trans hid.symm)
  · exact h.2 hadmin

theorem loadAdminContext_user {user : Account} (h : loadAdminContext db user = .ok context) :
    context.user = user := by
  simp only [loadAdminContext, bind_ok, ensure_ok, orFail_ok] at h
  obtain ⟨membership, -, _, -, hcontext⟩ := h
  split at hcontext
  · rw [pure_ok] at hcontext
    rw [← hcontext]
  · simp only [bind_ok, ensure_ok, pure_ok] at hcontext
    obtain ⟨_, -, rfl⟩ := hcontext
    rfl
  · simp only [bind_ok, orFail_ok, pure_ok] at hcontext
    obtain ⟨_, -, _, -, rfl⟩ := hcontext
    rfl

theorem rootAdmin_ok (h : db.rootAdmin userId = .ok context) :
    db.ActsAsRoot userId ∧ context.user.id = userId := by
  refine ⟨⟨context, h⟩, ?_⟩
  simp only [rootAdmin, bind_ok, pure_ok, currentAdmin_ok] at h
  obtain ⟨context, ⟨user, hfind, -, -, hload⟩, _, -, rfl⟩ := h
  rw [loadAdminContext_user hload]
  exact (IdentityDb.findUser_mem hfind).2

theorem currentAdmin_error {e : Failure} (h : db.currentAdmin userId = .error e) :
    ∃ e', e = .app e' ∧ e'.statusCode ≠ 409 := by
  simp only [currentAdmin, bind_error, orFail_error, ensure_error] at h
  rcases h with ⟨-, rfl⟩ | ⟨user, -, ⟨-, rfl⟩ | ⟨_, -, h⟩⟩
  · exact ⟨_, rfl, by decide⟩
  · exact ⟨_, rfl, by decide⟩
  simp only [loadAdminContext, bind_error, orFail_error, ensure_error] at h
  rcases h with ⟨-, rfl⟩ | ⟨membership, -, ⟨-, rfl⟩ | ⟨_, -, h⟩⟩
  · exact ⟨_, rfl, by decide⟩
  · exact ⟨_, rfl, by decide⟩
  split at h
  · cases h
  · simp only [membershipInvalid, bind_error, ensure_error, pure_error, and_false, exists_false,
      or_false] at h
    obtain ⟨-, rfl⟩ := h
    exact ⟨_, rfl, by decide⟩
  · simp only [membershipInvalid, bind_error, orFail_error, pure_error, and_false, exists_false,
      or_false] at h
    rcases h with ⟨-, rfl⟩ | ⟨_, -, -, rfl⟩
    · exact ⟨_, rfl, by decide⟩
    · exact ⟨_, rfl, by decide⟩

/-- Who is not let in as root is not told of the last admin. -/
theorem rootAdmin_error {e : Failure} (h : db.rootAdmin userId = .error e) :
    e ≠ lastAdminRequired := by
  simp only [rootAdmin, AdminContext.requireRoot, bind_error, ensure_error, pure_error, and_false,
    exists_false, or_false] at h
  rcases h with h | ⟨_, -, -, rfl⟩
  · obtain ⟨e', rfl, hstatus⟩ := currentAdmin_error h
    rintro heq
    cases heq
    exact hstatus rfl
  · decide

/-- The account has the role of an admin. -/
def isAdmin (db : PartnerDb) (userId : UserId) : Prop :=
  ∃ user, db.identity.findUser userId = some user ∧ user.role = .admin

/-- Two accounts of admins are counted twice. -/
theorem isAdmin.two_le_adminCount {targetId : UserId} (h : db.isAdmin userId)
    (h' : db.isAdmin targetId) (hne : targetId ≠ userId) : 2 ≤ db.adminCount := by
  obtain ⟨user, hfind, hrole⟩ := h
  obtain ⟨target, hfind', hrole'⟩ := h'
  obtain ⟨hmem, rfl⟩ := IdentityDb.findUser_mem hfind
  obtain ⟨hmem', rfl⟩ := IdentityDb.findUser_mem hfind'
  have hmem : user ∈ db.identity.users.filter (·.role == .admin) :=
    List.mem_filter.mpr ⟨hmem, beq_iff_eq.mpr hrole⟩
  have hmem' : target ∈ db.identity.users.filter (·.role == .admin) :=
    List.mem_filter.mpr ⟨hmem', beq_iff_eq.mpr hrole'⟩
  rw [adminCount, List.countP_eq_length_filter]
  generalize db.identity.users.filter (·.role == .admin) = admins at hmem hmem'
  match admins with
  | [] => cases hmem
  | [admin] =>
    rw [List.mem_singleton] at hmem hmem'
    exact absurd (by rw [hmem, hmem']) hne
  | _ :: _ :: _ => simp

theorem ActsAsRoot.isAdmin (h : db.ActsAsRoot userId) : db.isAdmin userId := by
  obtain ⟨user, hfind, -, hrole, -⟩ := actsAsRoot_iff.mp h
  exact ⟨user, hfind, hrole⟩

theorem writeRole_error {user : Account} {role : Role} {e : Failure}
    (h : db.writeRole env user role = .error e) : e ≠ lastAdminRequired := by
  unfold writeRole at h
  split at h
  · cases h
  simp only [IdentityDb.updateUser, IdentityDb.checkUser, bind_error, orFail_error, ensure_error,
    pure_error, and_false, exists_false, or_false] at h
  rcases h with ⟨-, rfl⟩ | ⟨_, -, ⟨-, rfl⟩ | ⟨_, -, ⟨-, rfl⟩ | ⟨_, -, -, rfl⟩⟩⟩
  all_goals decide

/-- The admin who asks is counted beside the one who is to lose the role. -/
theorem updateUserRole_counted {targetId : UserId} {role : Role}
    (hroot : db.rootAdmin userId = .ok context) :
    db.updateUserRole env context targetId role ≠ .error lastAdminRequired := by
  obtain ⟨hacts, hid⟩ := rootAdmin_ok hroot
  intro h
  simp only [updateUserRole, bind_error, orFail_error, ensure_error, orFail_ok, ensure_ok] at h
  rcases h with ⟨-, h⟩ | ⟨_, hne, ⟨-, h⟩ | ⟨user, huser, ⟨hlast, -⟩ | ⟨_, -, h⟩⟩⟩
  · revert h
    decide
  · revert h
    decide
  · obtain ⟨hdemotes, hcount⟩ := not_not.mp hlast
    have hadmin : db.isAdmin targetId := by
      refine ⟨user, huser, ?_⟩
      simp only [demotes, Bool.and_eq_true, beq_iff_eq] at hdemotes
      exact hdemotes.1
    have htwo := hacts.isAdmin.two_le_adminCount hadmin (hid ▸ hne)
    omega
  · exact writeRole_error h rfl

/-- Whoever serves a request, an admin who acts as root is left: the one who asked, or the one
there was. -/
theorem serve_leavesRoot {adminId : UserId} {request : ConsoleRequest} (h : db.Governed)
    (hroot : ∃ userId, db.ActsAsRoot userId) (hok : db.serve env adminId request = .ok db') :
    db'.Governed ∧ ∃ userId, db'.ActsAsRoot userId := by
  obtain ⟨userId, hacts⟩ := hroot
  by_cases hrequest : ∃ role, request = .updateUserRole userId role
  · obtain ⟨role, rfl⟩ := hrequest
    have hserved := hok
    simp only [serve, updateUserRole, bind_ok, ensure_ok] at hserved
    obtain ⟨context, hadmin, _, hne, -⟩ := hserved
    obtain ⟨hactor, hid⟩ := rootAdmin_ok hadmin
    obtain ⟨hgoverned, hkeeps⟩ := serve_keepsAdmin adminId h hok
    refine ⟨hgoverned, adminId, (hkeeps hactor ?_).actsAsRoot.mpr hactor⟩
    intro role' heq
    obtain ⟨heq, -⟩ := ConsoleRequest.updateUserRole.inj heq
    exact hne (heq.trans hid.symm)
  · obtain ⟨hgoverned, hkeeps⟩ := serve_keepsAdmin userId h hok
    exact ⟨hgoverned, userId,
      (hkeeps hacts fun role heq => hrequest ⟨role, heq⟩).actsAsRoot.mpr hacts⟩

theorem serveStep_leavesRoot (request : UserId × ConsoleRequest)
    (h : db.Governed ∧ ∃ userId, db.ActsAsRoot userId) :
    (db.serveStep env request).Governed ∧
      ∃ userId, (db.serveStep env request).ActsAsRoot userId := by
  unfold serveStep
  split
  · rename_i db' hok
    exact serve_leavesRoot h.1 h.2 hok
  · exact h

/-- Of requests that are handled one after the other, none takes the last root admin away, and
none that changes a role is refused for the sake of the last admin. -/
theorem rootAdmin_stays (h : db.Governed) (hroot : ∃ userId, db.ActsAsRoot userId)
    (requests : List (UserId × ConsoleRequest)) :
    Throughout (serveStep env) (fun db => ∃ userId, db.ActsAsRoot userId) db requests ∧
      Always (serveStep env) (fun db request => ∀ targetId role,
        request.2 = .updateUserRole targetId role →
          db.serve env request.1 request.2 ≠ .error lastAdminRequired) db requests := by
  constructor
  · refine (throughout_of_step (I := fun db => db.Governed ∧ ∃ userId, db.ActsAsRoot userId)
      ⟨h, hroot⟩ ?_).imp fun _ h => h.2
    intro db request hdb
    exact serveStep_leavesRoot request hdb
  · rw [always_iff_split]
    rintro pre ⟨adminId, request⟩ post - targetId role hrequest herror
    subst hrequest
    simp only [serve, bind_error] at herror
    rcases herror with herror | ⟨context, hadmin, herror⟩
    · exact rootAdmin_error herror rfl
    · exact updateUserRole_counted hadmin herror

/-- A request of somebody who does not act as root. -/
theorem serveStep_fixesRoots {request : UserId × ConsoleRequest} (h : db.Governed)
    (hactor : ¬db.ActsAsRoot request.1) :
    (db.serveStep env request).Governed ∧
      ∀ userId, (db.serveStep env request).ActsAsRoot userId ↔ db.ActsAsRoot userId := by
  have hrefused {context : AdminContext} : db.rootAdmin request.1 ≠ .ok context :=
    fun hadmin => hactor ⟨context, hadmin⟩
  obtain ⟨actorId, request⟩ := request
  unfold serveStep
  split
  · rename_i db' hok
    cases request with
    | partner request =>
      simp only [serve, bind_ok] at hok
      obtain ⟨_, -, hok⟩ := hok
      refine ⟨(perform_keepsAdmin actorId h hok).1, fun userId => ?_⟩
      have hkeeps := (perform_keepsAdmin userId h hok).2
      exact ⟨fun hroot => (hkeeps (.inr hroot)).actsAsRoot.mp hroot,
        fun hroot => (hkeeps (.inl hroot)).actsAsRoot.mpr hroot⟩
    | updateUserRole targetId role =>
      simp only [serve, bind_ok] at hok
      obtain ⟨_, hadmin, -⟩ := hok
      exact absurd hadmin hrefused
    | createAdminAccount payload =>
      simp only [serve, bind_ok] at hok
      obtain ⟨_, hadmin, -⟩ := hok
      exact absurd hadmin hrefused
    | createArtistAccount payload =>
      simp only [serve, bind_ok] at hok
      obtain ⟨_, hadmin, -⟩ := hok
      exact absurd hadmin hrefused
    | resetArtistAccountPassword targetId draws =>
      simp only [serve, bind_ok] at hok
      obtain ⟨_, hadmin, -⟩ := hok
      exact absurd hadmin hrefused
  · exact ⟨h, fun _ => Iff.rfl⟩

/-- Those who do not act as root change nothing in who does, whatever they ask for. -/
theorem rootAdmins_fixed (h : db.Governed) {requests : List (UserId × ConsoleRequest)}
    (hothers : ∀ request ∈ requests, ¬db.ActsAsRoot request.1) :
    Throughout (serveStep env) (fun db' => ∀ userId, db'.ActsAsRoot userId ↔ db.ActsAsRoot userId)
      db requests := by
  have hguard : Always (serveStep env) (fun _ request => ¬db.ActsAsRoot request.1) db requests := by
    rw [always_iff_split]
    rintro pre request post rfl
    exact hothers request (by simp)
  refine (hguard.throughout (I := fun db' => db'.Governed ∧
    ∀ userId, db'.ActsAsRoot userId ↔ db.ActsAsRoot userId) ⟨h, fun _ => Iff.rfl⟩ ?_).imp
      fun _ h => h.2
  intro db' request ⟨hgoverned, hsame⟩ hactor
  obtain ⟨hnext, hfixed⟩ : (db'.serveStep env request).Governed ∧
      ∀ userId, (db'.serveStep env request).ActsAsRoot userId ↔ db'.ActsAsRoot userId :=
    serveStep_fixesRoots hgoverned fun hroot => hactor ((hsame _).mp hroot)
  exact ⟨hnext, fun userId => (hfixed userId).trans (hsame userId)⟩

end

/-- Two root admins. -/
def twoRoots : PartnerDb where
  identity :=
    { users := [{ id := "ada", role := .admin }, { id := "eve", role := .admin },
        { id := "fan" }] }
  artists := []
  assets := []
  organizations := []
  organizationArtists := []
  memberships :=
    [{ userId := "ada", organizationId := none, accessLevel := .root, displayName := "Ada" },
     { userId := "eve", organizationId := none, accessLevel := .root, displayName := "Eve" }]
  assignments := []

theorem twoRoots_governed : twoRoots.Governed := ⟨by decide, by decide⟩

theorem twoRoots_only {userId : UserId} (h : twoRoots.ActsAsRoot userId) :
    userId = "ada" ∨ userId = "eve" := by
  obtain ⟨membership, hfind, -⟩ := h.membership
  obtain ⟨hmem, rfl⟩ := mem_of_find_eq_some hfind
  rcases List.mem_pair.mp hmem with rfl | rfl
  · exact .inl rfl
  · exact .inr rfl

theorem twoRoots_acts : twoRoots.ActsAsRoot "ada" := ⟨_, rfl⟩

/-- The demoted admin can no more demote the other. -/
theorem rootAdmin_stays_twoRoots :
    Throughout (serveStep plainEnv) (fun db => ∃ userId, db.ActsAsRoot userId) twoRoots
        [("ada", .updateUserRole "eve" .fan), ("eve", .updateUserRole "ada" .fan)] ∧
      Always (serveStep plainEnv) (fun db request => ∀ targetId role,
        request.2 = .updateUserRole targetId role →
          db.serve plainEnv request.1 request.2 ≠ .error lastAdminRequired) twoRoots
        [("ada", .updateUserRole "eve" .fan), ("eve", .updateUserRole "ada" .fan)] :=
  rootAdmin_stays twoRoots_governed ⟨"ada", twoRoots_acts⟩ _

theorem rootAdmins_fixed_twoRoots :
    Throughout (serveStep plainEnv)
      (fun db => ∀ userId, db.ActsAsRoot userId ↔ twoRoots.ActsAsRoot userId) twoRoots
      [("fan", .createAdminAccount ⟨"fan@fan", "Fan", ⟨1, "new", "h"⟩⟩),
        ("fan", .updateUserRole "fan" .admin)] := by
  have hfan : ¬twoRoots.ActsAsRoot "fan" := by
    rintro ⟨_, hadmin⟩
    cases hadmin
  refine rootAdmins_fixed twoRoots_governed ?_
  rintro request hmem
  rcases List.mem_pair.mp hmem with rfl | rfl
  · exact hfan
  · exact hfan

end PartnerDb

end Fanfolio
