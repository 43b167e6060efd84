import Fanfolio.Assets.Completion
import Fanfolio.Identity.Schema
import Fanfolio.Release.Schema

/-!
# What an admin may do

The rows of partner organizations and of their staff, and the scope that is loaded for an admin
at every request.
-/

namespace Fanfolio

open Framework

abbrev OrganizationId := String

inductive AccountStatus where
  | active
  | suspended
deriving DecidableEq, Repr

/-- The access levels of the staff of an organization. -/
inductive PartnerLevel where
  | companyAdmin
  | manager
  | editor
  | viewer
deriving DecidableEq, Repr

inductive AccessLevel where
  | root
  | platformOperator
  | partner (level : PartnerLevel)
deriving DecidableEq, Repr

structure Organization where
  id : OrganizationId
  name : String
  slug : String
  status : AccountStatus := .active
  contactName : Option String := none
  contactEmail : Option String := none
  contractStartsAt : Option Time := none
  contractEndsAt : Option Time := none
  logoUrl : Option String := none
  logoAssetId : Option String := none
  updatedAt : Time := 0
deriving DecidableEq, Repr

structure AdminMembership where
  userId : UserId
  organizationId : Option OrganizationId
  accessLevel : AccessLevel
  status : AccountStatus := .active
  displayName : String
  createdByUserId : Option UserId := none
  updatedAt : Time := 0
deriving DecidableEq, Repr

structure OrganizationArtist where
  organizationId : OrganizationId
  artistId : ArtistId
deriving DecidableEq, Repr

structure AdminArtistAssignment where
  adminUserId : UserId
  artistId : ArtistId
  assignedByUserId : Option UserId := none
deriving DecidableEq, Repr

/-- An asset with the media type that its upload was checked for. -/
structure MediaAsset extends Asset where
  contentType : Option String := none
deriving DecidableEq, Repr

structure PartnerDb where
  identity : IdentityDb
  artists : List ArtistId
  assets : List MediaAsset
  organizations : List Organization
  organizationArtists : List OrganizationArtist
  memberships : List AdminMembership
  assignments : List AdminArtistAssignment
deriving DecidableEq, Repr

namespace PartnerDb

def findOrganization (db : PartnerDb) (organizationId : OrganizationId) : Option Organization :=
  db.organizations.find? (·.id == organizationId)

def findMembership (db : PartnerDb) (userId : UserId) : Option AdminMembership :=
  db.memberships.find? (·.userId == userId)

def findAsset (db : PartnerDb) (assetId : String) : Option MediaAsset :=
  db.assets.find? (·.id == assetId)

/-- `_organization_artist_ids`. -/
def organizationArtistIds (db : PartnerDb) (organizationId : OrganizationId) : List ArtistId :=
  (db.organizationArtists.filter (·.organizationId == organizationId)).map (·.artistId)

/-- The artists of the assignments of an admin. -/
def assignedArtistIds (db : PartnerDb) (userId : UserId) : List ArtistId :=
  (db.assignments.filter (·.adminUserId == userId)).map (·.artistId)

end PartnerDb

/-- `ROOT_ACTIONS`. -/
def rootActions : List String :=
  ["organizations:manage", "members:manage", "artists:manage", "artists:read", "artists:write",
    "cards:read", "cards:write", "cards:review", "cards:publish", "drops:manage", "events:read",
    "events:write", "events:submit", "events:review", "events:publish", "codes:manage",
    "codes:read", "codes:write", "users:manage", "audit:read", "statistics:read",
    "engagement:manage_global", "engagement:approve_global", "engagement:points_adjust",
    "engagement:retry", "support:read", "support:write"]

/-- `PLATFORM_ACTIONS`. -/
def platformActions : List String :=
  ["cards:read", "cards:review_platform", "notifications:read", "support:read", "support:write",
    "engagement:approve_global", "events:read", "events:review"]

/-- `PARTNER_ACTIONS`. -/
def partnerActions : PartnerLevel → List String
  | .companyAdmin =>
    ["organization:read", "organization:manage_scoped", "members:manage_scoped", "artists:read",
      "artists:write", "cards:read", "cards:write", "cards:submit_review", "drops:read",
      "drops:write", "drops:submit", "events:read", "events:write", "events:submit", "codes:read",
      "codes:write", "engagement:write", "engagement:approve", "audit:read", "statistics:read",
      "support:read", "support:write"]
  | .manager =>
    ["artists:read", "artists:write", "cards:read", "cards:write", "cards:submit_review",
      "drops:read", "drops:write", "drops:submit", "events:read", "events:write", "events:submit",
      "codes:read", "codes:write", "engagement:write", "audit:read", "statistics:read",
      "support:read", "support:write"]
  | .editor =>
    ["artists:read", "artists:write", "cards:read", "cards:write", "cards:submit_review",
      "drops:read", "events:read", "events:write", "drops:write", "codes:read",
      "engagement:write", "audit:read", "statistics:read", "support:read", "support:write"]
  | .viewer =>
    ["artists:read", "cards:read", "drops:read", "events:read", "codes:read", "audit:read",
      "statistics:read", "support:read"]

/-- `PARTNER_SCOPED_ACTIONS`. -/
def partnerScopedActions : List String :=
  partnerActions .companyAdmin ++ partnerActions .manager ++ partnerActions .editor ++
    partnerActions .viewer ++ platformActions

structure AdminContext where
  user : Account
  membership : AdminMembership
  organization : Option Organization
  assignedArtistIds : List ArtistId
  allowedActions : List String
deriving DecidableEq, Repr

namespace AdminContext

def isRoot (context : AdminContext) : Bool := context.membership.accessLevel == .root

def isPlatformOperator (context : AdminContext) : Bool :=
  context.membership.accessLevel == .platformOperator

def requireRoot (context : AdminContext) : Except Failure Unit :=
  ensure (context.isRoot = true)
    (.app ⟨403, "ADMIN_ROOT_REQUIRED", "루트 관리자 권한이 필요한 작업입니다."⟩)

def requireAction (context : AdminContext) (action : String) : Except Failure Unit :=
  ensure (action ∈ context.allowedActions)
    (.app ⟨403,
      if action ∈ partnerScopedActions then "ADMIN_WRITE_REQUIRED" else "ADMIN_ROOT_REQUIRED",
      "이 작업을 수행할 권한이 없습니다."⟩)

/-- `require_artist`. -/
def requireArtist (context : AdminContext) (artistId : Option ArtistId) : Except Failure Unit :=
  match artistId.filter (· != "") with
  | none => ensure (context.isRoot = true)
    (.app ⟨422, "ARTIST_REQUIRED", "아티스트를 선택해 주세요."⟩)
  | some artistId => ensure (context.isRoot = true ∨ artistId ∈ context.assignedArtistIds)
    (.app ⟨404, "RESOURCE_NOT_FOUND", "항목을 찾을 수 없습니다."⟩)

end AdminContext

/-- `ADMIN_MEMBERSHIP_INVALID`. -/
def membershipInvalid : Failure :=
  .app ⟨403, "ADMIN_MEMBERSHIP_INVALID", "관리자 권한 구성이 올바르지 않습니다."⟩

/-- `load_admin_context`. -/
def loadAdminContext (db : PartnerDb) (user : Account) : Except Failure AdminContext := do
  let membership ← orFail (db.findMembership user.id)
    (.app ⟨403, "ADMIN_MEMBERSHIP_REQUIRED", "활성 관리자 권한이 등록되어 있지 않습니다."⟩)
  ensure (membership.status = .active)
    (.app ⟨403, "ADMIN_ACCESS_SUSPENDED", "중지된 관리자 계정입니다."⟩)
  match membership.accessLevel with
  | .root => pure ⟨user, membership, none, [], rootActions⟩
  | .platformOperator =>
    ensure (membership.organizationId = none) membershipInvalid
    pure ⟨user, membership, none, [], platformActions⟩
  | .partner level =>
    let organizationId ← orFail membership.organizationId membershipInvalid
    let organization ← orFail ((db.findOrganization organizationId).filter (·.status == .active))
      (.app ⟨403, "ADMIN_ACCESS_SUSPENDED", "중지된 파트너 조직입니다."⟩)
    pure ⟨user, membership, some organization,
      if level = .companyAdmin then db.organizationArtistIds organizationId
      else db.assignedArtistIds user.id,
      partnerActions level⟩

/-- The scope of a partner admin: its own organization, and its artists or those assigned. -/
theorem loadAdminContext_partner {db : PartnerDb} {user : Account} {context : AdminContext}
    (hload : loadAdminContext db user = .ok context) {organization : Organization}
    (horganization : context.organization = some organization) :
    context.isRoot = false ∧
    ∃ membership ∈ db.memberships, membership.userId = user.id ∧
      membership.organizationId = some organization.id ∧
      (context.assignedArtistIds = db.organizationArtistIds organization.id ∨
        context.assignedArtistIds = db.assignedArtistIds user.id) := by
  simp only [loadAdminContext, bind_ok, ensure_ok, orFail_ok] at hload
  obtain ⟨membership, hfind, _, -, hcontext⟩ := hload
  obtain ⟨hmem, huser⟩ := mem_of_find_eq_some hfind
  split at hcontext
  · rw [pure_ok] at hcontext
    rw [← hcontext] at horganization
    cases horganization
  · simp only [bind_ok, ensure_ok, pure_ok] at hcontext
    obtain ⟨_, -, rfl⟩ := hcontext
    cases horganization
  · rename_i level hlevel
    simp only [bind_ok, orFail_ok, pure_ok] at hcontext
    obtain ⟨organizationId, hid, found, hfound, rfl⟩ := hcontext
    obtain rfl := Option.some.inj horganization
    obtain ⟨-, rfl⟩ := mem_of_find_eq_some (Option.filter_eq_some_iff.mp hfound).1
    refine ⟨by simp [AdminContext.isRoot, hlevel], membership, hmem, huser, hid, ?_⟩
    dsimp only
    split
    · exact .inl rfl
    · exact .inr rfl

/-- The context of a root or platform admin has no organization and no artists. -/
theorem loadAdminContext_unscoped {db : PartnerDb} {user : Account} {context : AdminContext}
    (hload : loadAdminContext db user = .ok context) (hnone : context.organization = none) :
    context.assignedArtistIds = [] := by
  simp only [loadAdminContext, bind_ok, ensure_ok, orFail_ok] at hload
  obtain ⟨membership, -, _, -, hcontext⟩ := hload
  split at hcontext
  · rw [pure_ok] at hcontext
    rw [← hcontext]
  · simp only [bind_ok, ensure_ok, pure_ok] at hcontext
    obtain ⟨_, -, rfl⟩ := hcontext
    rfl
  · simp only [bind_ok, orFail_ok, pure_ok] at hcontext
    obtain ⟨_, -, _, -, rfl⟩ := hcontext
    cases hnone

/-- The context of a root admin. -/
def rootContext : AdminContext :=
  ⟨{ id := "root", role := .admin },
    { userId := "root", organizationId := none, accessLevel := .root, displayName := "Root" },
    none, [], rootActions⟩

end Fanfolio
