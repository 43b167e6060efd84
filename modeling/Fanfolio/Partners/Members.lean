import Fanfolio.Framework.Run
import Fanfolio.Partners.Access

/-!
# Organizations and their staff

The requests that edit an organization, its artists and its staff. Root admins manage every
organization, company admins the other staff of their own.
-/

namespace Fanfolio

open Framework

/-- What the code takes from its surroundings: `str.lower` of Python, `lower` of the database, and
the paths that the asset store has. -/
structure PartnerEnv where
  lowerEmail : String → String
  lower : String → String
  stored : String → Bool

/-- `OrganizationMemberCreate`. -/
structure OrganizationMemberCreate where
  email : String
  displayName : String
  accessLevel : PartnerLevel
  artistIds : List ArtistId := []
deriving DecidableEq, Repr

/-- `OrganizationMemberUpdate`: a field is unset, null, or has a value. -/
structure OrganizationMemberUpdate where
  displayName : Option (Option String) := none
  accessLevel : Option (Option PartnerLevel) := none
  status : Option (Option AccountStatus) := none
deriving DecidableEq, Repr

/-- `OrganizationUpdate`. -/
structure OrganizationUpdate where
  name : Option (Option String) := none
  slug : Option (Option String) := none
  status : Option (Option AccountStatus) := none
  contactName : Option (Option String) := none
  contactEmail : Option (Option String) := none
  contractStartsAt : Option (Option Time) := none
  contractEndsAt : Option (Option Time) := none
  logoUrl : Option (Option String) := none
  logoAssetId : Option (Option String) := none
deriving DecidableEq, Repr

/-- What a request draws: the time, a user identifier and the hash of a temporary password. -/
structure MemberDraws where
  now : Time
  userId : UserId
  passwordHash : String
deriving DecidableEq, Repr

/-- A column that may not be null: an unset field keeps it, a null is refused. -/
def setRequired {α : Type} (column : String) (field : Option (Option α)) (old : α) :
    Except Failure α :=
  match field with
  | none => .ok old
  | some (some value) => .ok value
  | some none => .error (.integrity (column ++ " NOT NULL"))

/-- `RESOURCE_NOT_FOUND` for an organization. -/
def organizationNotFound : Failure :=
  .app ⟨404, "RESOURCE_NOT_FOUND", "파트너를 찾을 수 없습니다."⟩

/-- `RESOURCE_NOT_FOUND` for a member. -/
def memberNotFound : Failure :=
  .app ⟨404, "RESOURCE_NOT_FOUND", "담당자를 찾을 수 없습니다."⟩

namespace PartnerDb

variable (db : PartnerDb) (context : AdminContext)

/-- `_organization_or_404`. -/
def organizationOr404 (organizationId : OrganizationId) : Except Failure Organization :=
  orFail (db.findOrganization organizationId) organizationNotFound

/-- `_require_root_or_same_organization_read`. -/
def requireRootOrSameOrganizationRead (organizationId : OrganizationId) :
    Except Failure Organization :=
  if context.isRoot then db.organizationOr404 organizationId
  else do
    let organization ← orFail (context.organization.filter (·.id == organizationId))
      organizationNotFound
    context.requireAction "organization:read"
    pure organization

/-- `_require_organization_member_management`. -/
def requireOrganizationMemberManagement (organizationId : OrganizationId) :
    Except Failure Organization := do
  let organization ← db.requireRootOrSameOrganizationRead context organizationId
  if context.isRoot then pure () else context.requireAction "members:manage_scoped"
  pure organization

end PartnerDb

/-- `_require_company_admin_subordinate_role`. -/
def requireCompanyAdminSubordinateRole (context : AdminContext)
    (accessLevel targetAccessLevel : Option AccessLevel) : Except Failure Unit :=
  if context.isRoot then .ok ()
  else ensure (accessLevel ≠ some (.partner .companyAdmin) ∧
      targetAccessLevel ≠ some (.partner .companyAdmin))
    (.app ⟨403, "ADMIN_WRITE_REQUIRED",
      "기업 슈퍼 관리자는 매니저, 에디터, 뷰어 계정만 관리할 수 있습니다."⟩)

namespace PartnerDb

variable (env : PartnerEnv) (db : PartnerDb) (context : AdminContext)

/-- `_validated_logo_asset`. -/
def validatedLogoAsset (assetId : Option String) (ownerId : UserId) : Except Failure Unit :=
  match assetId with
  | none => .ok ()
  | some assetId => do
    let invalid : Failure := .app ⟨422, "INVALID_LOGO_ASSET", "파트너 로고 자산을 확인해 주세요."⟩
    let asset ← orFail (db.findAsset assetId) invalid
    ensure (asset.ownerId = ownerId ∧ asset.purpose = "organization_logo" ∧
      asset.contentType ∈ [some "image/png", some "image/jpeg", some "image/webp"]) invalid
    ensure (asset.uploadCompletedAt.isSome ∧ asset.storagePath.any env.stored)
      (.app ⟨409, "ASSET_NOT_READY", "파트너 로고 업로드가 완료되지 않았습니다."⟩)

/-- `_member_or_404`. -/
def memberOr404 (organizationId : OrganizationId) (userId : UserId) :
    Except Failure (Account × AdminMembership) := do
  let membership ← orFail ((db.findMembership userId).filter
    (·.organizationId == some organizationId)) memberNotFound
  let user ← orFail ((db.identity.findUser userId).filter (·.role == .admin)) memberNotFound
  pure (user, membership)

/-- `_validate_artist_subset`. -/
def validateArtistSubset (organizationId : OrganizationId) (artistIds : List ArtistId) :
    Except Failure (List ArtistId) := do
  let normalized := artistIds.eraseDups
  ensure (∀ artistId ∈ normalized, artistId ∈ db.organizationArtistIds organizationId)
    (.app ⟨409, "ARTIST_OUTSIDE_ORGANIZATION",
      "파트너에 연결되지 않은 아티스트는 담당자에게 배정할 수 없습니다."⟩)
  pure normalized

/-- `_validate_contract_window`. -/
def validateContractWindow (startsAt endsAt : Option Time) : Except Failure Unit :=
  match startsAt, endsAt with
  | some startsAt, some endsAt => ensure (startsAt < endsAt)
    (.app ⟨422, "INVALID_CONTRACT_WINDOW", "계약 종료일을 시작일 이후로 설정해 주세요."⟩)
  | _, _ => .ok ()

/-- The write of `update_organization`. -/
def setOrganization (organization : Organization) : PartnerDb :=
  { db with
    organizations := patch (·.id == organization.id) (fun _ => organization) db.organizations }

/-- The check of a new slug in `update_organization`. -/
def requireSlugFree (organization : Organization) (slug : Option String) : Except Failure Unit :=
  ensure (∀ text ∈ slug, text = organization.slug ∨ db.organizations.all (·.slug != text))
    (.app ⟨409, "ORGANIZATION_SLUG_TAKEN", "이미 사용 중인 파트너 식별자입니다."⟩)

/-- `update_organization`. -/
def updateOrganization (organizationId : OrganizationId) (payload : OrganizationUpdate)
    (now : Time) : Except Failure PartnerDb := do
  context.requireRoot
  let organization ← db.organizationOr404 organizationId
  db.requireSlugFree organization payload.slug.join
  let contractStartsAt := payload.contractStartsAt.getD organization.contractStartsAt
  let contractEndsAt := payload.contractEndsAt.getD organization.contractEndsAt
  validateContractWindow contractStartsAt contractEndsAt
  db.validatedLogoAsset env payload.logoAssetId.join context.user.id
  let name ← setRequired "name" payload.name organization.name
  let slug ← setRequired "slug" payload.slug organization.slug
  let status ← setRequired "status" payload.status organization.status
  pure (db.setOrganization
    { organization with
      name := name
      slug := slug
      status := status
      contactName := payload.contactName.getD organization.contactName
      contactEmail := payload.contactEmail.getD organization.contactEmail
      contractStartsAt := contractStartsAt
      contractEndsAt := contractEndsAt
      logoUrl := if payload.logoAssetId.isSome then none
        else payload.logoUrl.getD organization.logoUrl
      logoAssetId := payload.logoAssetId.getD organization.logoAssetId
      updatedAt := now })

/-- `set_organization_artists`. -/
def setOrganizationArtists (organizationId : OrganizationId) (artistIds : List ArtistId) :
    Except Failure PartnerDb := do
  context.requireRoot
  let _ ← db.organizationOr404 organizationId
  let artistIds := artistIds.eraseDups
  ensure (∀ artistId ∈ artistIds, artistId ∈ db.artists)
    (.app ⟨404, "RESOURCE_NOT_FOUND", "아티스트를 찾을 수 없습니다."⟩)
  let removed := (db.organizationArtistIds organizationId).filter (· ∉ artistIds)
  let memberIds := (db.memberships.filter (·.organizationId == some organizationId)).map (·.userId)
  pure { db with
    assignments := db.assignments.filter fun assignment =>
      ¬(assignment.adminUserId ∈ memberIds ∧ assignment.artistId ∈ removed)
    organizationArtists := db.organizationArtists.filter (·.organizationId != organizationId) ++
      artistIds.map (⟨organizationId, ·⟩) }

/-- `list_organization_members`: the memberships it answers. -/
def listOrganizationMembers (organizationId : OrganizationId) :
    Except Failure (List AdminMembership) := do
  let _ ← db.requireRootOrSameOrganizationRead context organizationId
  pure (db.memberships.filter (·.organizationId == some organizationId))

/-- The inserts of `AdminArtistAssignment`. -/
def insertAssignments (userId : UserId) (artistIds : List ArtistId) : Except Failure PartnerDb := do
  ensure (∀ artistId ∈ artistIds, artistId ∉ db.assignedArtistIds userId)
    (.integrity "admin_artist_assignments_pkey")
  pure { db with assignments := db.assignments ++
    artistIds.map (⟨userId, ·, some context.user.id⟩) }

/-- `create_organization_member`. -/
def createOrganizationMember (organizationId : OrganizationId) (payload : OrganizationMemberCreate)
    (draws : MemberDraws) : Except Failure PartnerDb := do
  let _ ← db.requireOrganizationMemberManagement context organizationId
  requireCompanyAdminSubordinateRole context (some (.partner payload.accessLevel)) none
  let email := env.lowerEmail payload.email
  ensure (db.identity.users.all fun user => user.email != some email || user.role != .admin)
    (.app ⟨409, "EMAIL_TAKEN", "이미 등록된 관리자 이메일입니다."⟩)
  let artistIds ← db.validateArtistSubset organizationId payload.artistIds
  let identity ← db.identity.insertUser env.lower
    { id := draws.userId, email := some email, nickname := some payload.displayName,
      role := .admin, passwordHash := some draws.passwordHash, mustChangePassword := true }
  ensure (db.findMembership draws.userId = none) (.integrity "admin_memberships_pkey")
  let db : PartnerDb := { db with
    identity := identity
    memberships := db.memberships ++
      [{ userId := draws.userId, organizationId := some organizationId,
         accessLevel := .partner payload.accessLevel, displayName := payload.displayName,
         createdByUserId := some context.user.id, updatedAt := draws.now }] }
  db.insertAssignments context draws.userId artistIds

/-- `_revoke_member_sessions`. -/
def revokeMemberSessions (identity : IdentityDb) (userId : UserId) (now : Time) : IdentityDb :=
  { identity with
    refreshTokens := patch (fun token => token.userId == userId && token.revokedAt.isNone)
      (fun token => { token with revokedAt := some now }) identity.refreshTokens
    sessions := identity.sessions.filter (·.userId != userId) }

def setMembership (membership : AdminMembership) : PartnerDb :=
  { db with
    memberships := patch (·.userId == membership.userId) (fun _ => membership) db.memberships }

/-- The new nickname of the user of a membership. -/
def renameUser (identity : IdentityDb) (user : Account) (displayName : Option (Option String)) :
    Except Failure IdentityDb :=
  match displayName with
  | none => .ok identity
  | some nickname => identity.updateUser env.lower { user with nickname := nickname }

/-- `update_organization_member`. -/
def updateOrganizationMember (organizationId : OrganizationId) (userId : UserId)
    (payload : OrganizationMemberUpdate) (now : Time) : Except Failure PartnerDb := do
  let _ ← db.requireOrganizationMemberManagement context organizationId
  let (user, membership) ← db.memberOr404 organizationId userId
  requireCompanyAdminSubordinateRole context (payload.accessLevel.join.map .partner)
    (some membership.accessLevel)
  let accessLevel ← setRequired "access_level" (payload.accessLevel.map (·.map .partner))
    membership.accessLevel
  let status ← setRequired "status" payload.status membership.status
  let displayName ← setRequired "display_name" payload.displayName membership.displayName
  let identity ← renameUser env db.identity user payload.displayName
  let securityChanged := accessLevel ≠ membership.accessLevel ∨ status ≠ membership.status
  let db : PartnerDb := { db with
    identity := if securityChanged then revokeMemberSessions identity userId now else identity }
  pure (db.setMembership
    { membership with
      accessLevel := accessLevel, status := status, displayName := displayName, updatedAt := now })

/-- `reset_organization_member_password`. -/
def resetOrganizationMemberPassword (organizationId : OrganizationId) (userId : UserId)
    (draws : MemberDraws) : Except Failure PartnerDb := do
  let _ ← db.requireOrganizationMemberManagement context organizationId
  let (user, membership) ← db.memberOr404 organizationId userId
  requireCompanyAdminSubordinateRole context none (some membership.accessLevel)
  let identity := db.identity.setUser
    { user with passwordHash := some draws.passwordHash, mustChangePassword := true }
  let db : PartnerDb :=
    { db with identity := revokeMemberSessions identity userId draws.now }
  pure (db.setMembership { membership with updatedAt := draws.now })

/-- `set_member_artists`. -/
def setMemberArtists (organizationId : OrganizationId) (userId : UserId)
    (artistIds : List ArtistId) (now : Time) : Except Failure PartnerDb := do
  let _ ← db.requireOrganizationMemberManagement context organizationId
  let (_, membership) ← db.memberOr404 organizationId userId
  requireCompanyAdminSubordinateRole context none (some membership.accessLevel)
  let artistIds ← db.validateArtistSubset organizationId artistIds
  let db : PartnerDb :=
    { db with assignments := db.assignments.filter (·.adminUserId != userId) }
  (db.setMembership { membership with updatedAt := now }).insertAssignments context userId artistIds

end PartnerDb

/-- A request of an admin. -/
inductive PartnerRequest where
  | updateOrganization (organizationId : OrganizationId) (payload : OrganizationUpdate)
      (now : Time)
  | setOrganizationArtists (organizationId : OrganizationId) (artistIds : List ArtistId)
  | listMembers (organizationId : OrganizationId)
  | createMember (organizationId : OrganizationId) (payload : OrganizationMemberCreate)
      (draws : MemberDraws)
  | updateMember (organizationId : OrganizationId) (userId : UserId)
      (payload : OrganizationMemberUpdate) (now : Time)
  | resetPassword (organizationId : OrganizationId) (userId : UserId) (draws : MemberDraws)
  | setMemberArtists (organizationId : OrganizationId) (userId : UserId)
      (artistIds : List ArtistId) (now : Time)
deriving DecidableEq, Repr

namespace PartnerDb

def perform (env : PartnerEnv) (db : PartnerDb) (context : AdminContext) :
    PartnerRequest → Except Failure PartnerDb
  | .updateOrganization organizationId payload now =>
    db.updateOrganization env context organizationId payload now
  | .setOrganizationArtists organizationId artistIds =>
    db.setOrganizationArtists context organizationId artistIds
  | .listMembers organizationId => do
    let _ ← db.listOrganizationMembers context organizationId
    pure db
  | .createMember organizationId payload draws =>
    db.createOrganizationMember env context organizationId payload draws
  | .updateMember organizationId userId payload now =>
    db.updateOrganizationMember env context organizationId userId payload now
  | .resetPassword organizationId userId draws =>
    db.resetOrganizationMemberPassword context organizationId userId draws
  | .setMemberArtists organizationId userId artistIds now =>
    db.setMemberArtists context organizationId userId artistIds now

/-- A request of an admin; one that fails is rolled back. -/
def step (env : PartnerEnv) (db : PartnerDb) (request : AdminContext × PartnerRequest) :
    PartnerDb :=
  match db.perform env request.1 request.2 with
  | .ok db' => db'
  | .error _ => db

end PartnerDb

end Fanfolio
