import Fanfolio.Partners.Members

/-!
# What stays inside an organization

Admins of one organization leave its company admins and every other organization alone, and the
artists assigned to a member are artists of the organization of the member.
-/

namespace Fanfolio

open Framework

namespace AdminMembership

def isCompanyAdmin (membership : AdminMembership) : Bool :=
  membership.accessLevel == .partner .companyAdmin

/-- A member of the organization below its company admins. -/
structure Subordinate (organizationId : OrganizationId) (membership : AdminMembership) : Prop where
  organization : membership.organizationId = some organizationId
  level : membership.isCompanyAdmin = false

end AdminMembership

namespace PartnerDb

/-- The primary key of `admin_memberships`. -/
def Keyed (db : PartnerDb) : Prop := (db.memberships.map (·.userId)).Nodup

instance (db : PartnerDb) : Decidable db.Keyed := inferInstanceAs (Decidable (List.Nodup _))

/-- No company admin, and no row of another organization, has changed. -/
structure Confined (organizationId : OrganizationId) (db db' : PartnerDb) : Prop where
  companyAdmins : db'.memberships.filter (·.isCompanyAdmin) =
    db.memberships.filter (·.isCompanyAdmin)
  accounts : ∀ membership ∈ db.memberships, membership.isCompanyAdmin →
    db'.identity.findUser membership.userId = db.identity.findUser membership.userId
  memberships : db'.memberships.filter (·.organizationId != some organizationId) =
    db.memberships.filter (·.organizationId != some organizationId)
  assignments : ∀ membership ∈ db.memberships, membership.organizationId ≠ some organizationId →
    db'.assignments.filter (·.adminUserId == membership.userId) =
      db.assignments.filter (·.adminUserId == membership.userId)
  organizations : db'.organizations = db.organizations
  organizationArtists : db'.organizationArtists = db.organizationArtists

/-- Only the rows of one subordinate have changed. -/
structure TouchesOnly (organizationId : OrganizationId) (userId : UserId) (db db' : PartnerDb) :
    Prop where
  before : ∀ membership ∈ db.memberships, membership.userId = userId →
    membership.Subordinate organizationId
  after : ∀ membership ∈ db'.memberships, membership.userId = userId →
    membership.Subordinate organizationId
  memberships : db'.memberships.filter (·.userId != userId) =
    db.memberships.filter (·.userId != userId)
  assignments : db'.assignments.filter (·.adminUserId != userId) =
    db.assignments.filter (·.adminUserId != userId)
  accounts : ∀ other, other ≠ userId → db'.identity.findUser other = db.identity.findUser other
  organizations : db'.organizations = db.organizations
  organizationArtists : db'.organizationArtists = db.organizationArtists
  keys : db'.Keyed

section

variable {env : PartnerEnv} {db db' db'' : PartnerDb} {context : AdminContext}
  {organizationId : OrganizationId} {userId : UserId}

theorem Confined.refl : Confined organizationId db db where
  companyAdmins := rfl
  accounts _ _ _ := rfl
  memberships := rfl
  assignments _ _ _ := rfl
  organizations := rfl
  organizationArtists := rfl

theorem Confined.trans (h : Confined organizationId db db')
    (h' : Confined organizationId db' db'') :
    Confined organizationId db db'' where
  companyAdmins := h'.companyAdmins.trans h.companyAdmins
  accounts := by
    intro membership hmem hadmin
    have hmem' : membership ∈ db'.memberships.filter (·.isCompanyAdmin) :=
      h.companyAdmins ▸ List.mem_filter.mpr ⟨hmem, hadmin⟩
    exact (h'.accounts membership (List.mem_filter.mp hmem').1 hadmin).trans
      (h.accounts membership hmem hadmin)
  memberships := h'.memberships.trans h.memberships
  assignments := by
    intro membership hmem hother
    have hmem' : membership ∈ db'.memberships.filter (·.organizationId != some organizationId) :=
      h.memberships ▸ List.mem_filter.mpr ⟨hmem, by simpa using hother⟩
    exact (h'.assignments membership (List.mem_filter.mp hmem').1 hother).trans
      (h.assignments membership hmem hother)
  organizations := h'.organizations.trans h.organizations
  organizationArtists := h'.organizationArtists.trans h.organizationArtists

/-- A selection that leaves one user out is a selection among the rows of the others. -/
theorem filter_others {p : AdminMembership → Bool} {rows : List AdminMembership}
    (h : ∀ membership ∈ rows, membership.userId = userId → p membership = false) :
    rows.filter p = (rows.filter (·.userId != userId)).filter p := by
  rw [List.filter_filter]
  apply List.filter_congr
  intro membership hmem
  by_cases hid : membership.userId = userId
  · simp [hid, h membership hmem hid]
  · simp [hid]

theorem TouchesOnly.confined (h : TouchesOnly organizationId userId db db') :
    Confined organizationId db db' where
  companyAdmins := by
    rw [filter_others fun membership hmem hid => (h.after membership hmem hid).level,
      filter_others fun membership hmem hid => (h.before membership hmem hid).level, h.memberships]
  accounts := by
    intro membership hmem hadmin
    apply h.accounts
    intro hid
    rw [(h.before membership hmem hid).level] at hadmin
    cases hadmin
  memberships := by
    have hothers {rows : List AdminMembership} (hrows : ∀ membership ∈ rows,
        membership.userId = userId → membership.Subordinate organizationId) :
        rows.filter (·.organizationId != some organizationId) =
          (rows.filter (·.userId != userId)).filter (·.organizationId != some organizationId) :=
      filter_others fun membership hmem hid => by simp [(hrows membership hmem hid).organization]
    rw [hothers h.after, hothers h.before, h.memberships]
  assignments := by
    intro membership hmem hother
    have hne : membership.userId ≠ userId :=
      fun hid => hother (h.before membership hmem hid).organization
    have hkept (rows : List AdminArtistAssignment) :
        rows.filter (·.adminUserId == membership.userId) =
          (rows.filter (·.adminUserId != userId)).filter (·.adminUserId == membership.userId) := by
      rw [List.filter_filter]
      apply List.filter_congr
      intro assignment _
      by_cases hid : assignment.adminUserId = membership.userId
      · simp [hid, hne]
      · simp [hid]
    rw [hkept, h.assignments, ← hkept]
  organizations := h.organizations
  organizationArtists := h.organizationArtists

theorem requireOrganizationMemberManagement_ok {organization : Organization}
    (hroot : context.isRoot = false)
    (h : db.requireOrganizationMemberManagement context organizationId = .ok organization) :
    context.organization.map (·.id) = some organizationId := by
  simp only [requireOrganizationMemberManagement, requireRootOrSameOrganizationRead, hroot,
    Bool.false_eq_true, if_false, bind_ok, orFail_ok] at h
  obtain ⟨_, ⟨found, hfound, -⟩, -⟩ := h
  obtain ⟨hsome, hid⟩ := Option.filter_eq_some_iff.mp hfound
  rw [hsome]
  simpa using hid

theorem requireCompanyAdminSubordinateRole_ok {u : Unit} {accessLevel target : Option AccessLevel}
    (hroot : context.isRoot = false)
    (h : requireCompanyAdminSubordinateRole context accessLevel target = .ok u) :
    accessLevel ≠ some (.partner .companyAdmin) ∧ target ≠ some (.partner .companyAdmin) := by
  simpa only [requireCompanyAdminSubordinateRole, hroot, Bool.false_eq_true, if_false, ensure_ok]
    using h

theorem memberOr404_ok {user : Account} {membership : AdminMembership}
    (h : db.memberOr404 organizationId userId = .ok (user, membership)) :
    (membership ∈ db.memberships ∧ membership.userId = userId ∧
      membership.organizationId = some organizationId) ∧
    user ∈ db.identity.users ∧ user.id = userId := by
  simp only [memberOr404, bind_ok, orFail_ok, pure_ok] at h
  obtain ⟨found, hfound, row, hrow, hpair⟩ := h
  obtain ⟨rfl, rfl⟩ := Prod.mk.inj hpair
  obtain ⟨hmembership, horganization⟩ := Option.filter_eq_some_iff.mp hfound
  obtain ⟨hmem, hid⟩ := mem_of_find_eq_some hmembership
  obtain ⟨huser, -⟩ := Option.filter_eq_some_iff.mp hrow
  exact ⟨⟨hmem, hid, beq_iff_eq.mp horganization⟩, IdentityDb.findUser_mem huser⟩

theorem validateArtistSubset_ok {artistIds normalized : List ArtistId}
    (h : db.validateArtistSubset organizationId artistIds = .ok normalized) :
    ∀ artistId ∈ normalized, artistId ∈ db.organizationArtistIds organizationId := by
  simp only [validateArtistSubset, bind_ok, ensure_ok, pure_ok] at h
  obtain ⟨_, hsubset, rfl⟩ := h
  exact hsubset

theorem insertAssignments_ok {artistIds : List ArtistId}
    (h : db.insertAssignments context userId artistIds = .ok db') :
    db' = { db with
      assignments := db.assignments ++ artistIds.map (⟨userId, ·, some context.user.id⟩) } := by
  simp only [insertAssignments, bind_ok, ensure_ok, pure_ok] at h
  obtain ⟨_, -, rfl⟩ := h
  rfl

theorem filter_inserted (rows : List AdminArtistAssignment) (artistIds : List ArtistId)
    (assignedBy : Option UserId) :
    (rows ++ artistIds.map fun artistId => AdminArtistAssignment.mk userId artistId
      assignedBy).filter (·.adminUserId != userId) = rows.filter (·.adminUserId != userId) := by
  rw [List.filter_append]
  refine (congrArg _ (List.filter_eq_nil_iff.mpr ?_)).trans (List.append_nil _)
  intro assignment hassignment
  obtain ⟨_, -, rfl⟩ := List.mem_map.mp hassignment
  simp

theorem setMembership_userIds (db : PartnerDb) (row : AdminMembership) :
    (db.setMembership row).memberships.map (·.userId) = db.memberships.map (·.userId) := by
  rw [setMembership, patch, List.map_map]
  apply List.map_congr_left
  intro membership _
  by_cases hsame : membership.userId = row.userId <;> simp [hsame]

theorem mem_setMembership {row membership : AdminMembership}
    (h : membership ∈ (db.setMembership row).memberships) :
    membership = row ∨ membership ∈ db.memberships ∧ membership.userId ≠ row.userId := by
  obtain ⟨membership', hmem, rfl⟩ := mem_patch.mp h
  by_cases hsame : membership'.userId = row.userId
  · simp [hsame]
  · simp [hsame, hmem]

/-- Writes to the membership of a subordinate, to its account and to its assignments. -/
theorem touchesOnly_of_member {old : AdminMembership} (row : AdminMembership) (hkeys : db.Keyed)
    (hmem : old ∈ db.memberships) (hold : old.Subordinate organizationId)
    (hid : row.userId = old.userId) (hrow : row.Subordinate organizationId)
    (hmemberships : db'.memberships = (db.setMembership row).memberships)
    (hassignments : db'.assignments.filter (·.adminUserId != old.userId) =
      db.assignments.filter (·.adminUserId != old.userId))
    (haccounts : ∀ other, other ≠ old.userId →
      db'.identity.findUser other = db.identity.findUser other)
    (horganizations : db'.organizations = db.organizations)
    (hartists : db'.organizationArtists = db.organizationArtists) :
    TouchesOnly organizationId old.userId db db' where
  before := by
    intro membership hmem' hsame
    rw [eq_of_unique hkeys hmem' hmem hsame]
    exact hold
  after := by
    intro membership hmem' hsame
    rw [hmemberships] at hmem'
    rcases mem_setMembership hmem' with rfl | ⟨-, hne⟩
    · exact hrow
    · exact absurd (hsame.trans hid.symm) hne
  memberships := by
    rw [hmemberships, setMembership, patch, List.filter_map, ← patch, patch_of_forall_not]
    · apply List.filter_congr
      intro membership _
      by_cases hsame : membership.userId = old.userId <;> simp [hid, hsame]
    · intro membership hmem'
      obtain ⟨-, hne⟩ := List.mem_filter.mp hmem'
      by_cases hsame : membership.userId = old.userId
      · simp [hid, hsame] at hne
      · simpa [hid] using hsame
  assignments := hassignments
  accounts := haccounts
  organizations := horganizations
  organizationArtists := hartists
  keys := by
    rw [Keyed, hmemberships, setMembership_userIds]
    exact hkeys

theorem createOrganizationMember_touches {payload : OrganizationMemberCreate} {draws : MemberDraws}
    (hkeys : db.Keyed) (hroot : context.isRoot = false)
    (h : db.createOrganizationMember env context organizationId payload draws = .ok db') :
    TouchesOnly organizationId draws.userId db db' := by
  simp only [createOrganizationMember, bind_ok, ensure_ok] at h
  obtain ⟨_, -, _, hrole, _, -, artistIds, -, identity, hidentity, _, hnone, hinsert⟩ := h
  obtain ⟨hlevel, -⟩ := requireCompanyAdminSubordinateRole_ok hroot hrole
  obtain ⟨hfresh, -, rfl⟩ := IdentityDb.insertUser_ok.mp hidentity
  have hnew : ∀ membership ∈ db.memberships, membership.userId ≠ draws.userId := by
    intro membership hmem hid
    exact find_eq_none_iff.mp hnone (List.mem_map.mpr ⟨membership, hmem, hid⟩)
  obtain rfl := insertAssignments_ok hinsert
  constructor
  · intro membership hmem hid
    exact absurd hid (hnew membership hmem)
  · intro membership hmem hid
    rcases List.mem_append.mp hmem with hold | hlast
    · exact absurd hid (hnew membership hold)
    · rw [List.mem_singleton.mp hlast]
      exact ⟨rfl, by simpa [AdminMembership.isCompanyAdmin] using hlevel⟩
  · rw [List.filter_append]
    simp
  · exact filter_inserted _ _ _
  · intro other hother
    simp only [IdentityDb.findUser, find_insert]
    cases db.identity.users.find? (·.id == other) <;> simp [Ne.symm hother]
  · rfl
  · rfl
  · exact nodup_insert hkeys hnew

theorem findUser_revokeMemberSessions (identity : IdentityDb) (now : Time) (other : UserId) :
    (revokeMemberSessions identity userId now).findUser other = identity.findUser other := rfl

theorem findUser_setUser {identity : IdentityDb} {row : Account} {other : UserId}
    (h : other ≠ row.id) : (identity.setUser row).findUser other = identity.findUser other := by
  simp only [IdentityDb.findUser, IdentityDb.setUser]
  induction identity.users with
  | nil => rfl
  | cons user users ih =>
    by_cases hid : user.id = row.id
    · simp only [patch, List.map_cons, List.find?_cons, hid, beq_self_eq_true, if_true,
        beq_eq_false_iff_ne.mpr (Ne.symm h)] at ih ⊢
      exact ih
    · simp only [patch, List.map_cons, List.find?_cons, beq_iff_eq, hid, if_false] at ih ⊢
      cases user.id == other
      · exact ih
      · rfl

theorem renameUser_others {identity identity' : IdentityDb} {user : Account}
    {displayName : Option (Option String)}
    (h : renameUser env identity user displayName = .ok identity') {other : UserId}
    (hother : other ≠ user.id) : identity'.findUser other = identity.findUser other := by
  unfold renameUser at h
  split at h
  · cases h
    rfl
  · obtain ⟨-, rfl⟩ := IdentityDb.updateUser_ok.mp h
    exact findUser_setUser hother

theorem setRequired_ok {α : Type} {column : String} {field : Option (Option α)} {old new : α}
    (h : setRequired column field old = .ok new) :
    (field = none ∧ new = old) ∨ field = some (some new) := by
  unfold setRequired at h
  split at h
  · exact .inl ⟨rfl, (Except.ok.inj h).symm⟩
  · exact .inr (by rw [Except.ok.inj h])
  · cases h

theorem updateOrganizationMember_touches {payload : OrganizationMemberUpdate} {now : Time}
    (hkeys : db.Keyed) (hroot : context.isRoot = false)
    (h : db.updateOrganizationMember env context organizationId userId payload now = .ok db') :
    TouchesOnly organizationId userId db db' := by
  simp only [updateOrganizationMember, bind_ok, pure_ok] at h
  obtain ⟨_, -, ⟨user, membership⟩, hmember, _, hrole, accessLevel, hlevel, status, -, displayName,
    -, identity, hrename, rfl⟩ := h
  obtain ⟨⟨hmem, rfl, horganization⟩, -, huser⟩ := memberOr404_ok hmember
  obtain ⟨hasked, htarget⟩ := requireCompanyAdminSubordinateRole_ok hroot hrole
  have hsubordinate : accessLevel ≠ .partner .companyAdmin := by
    rcases setRequired_ok hlevel with ⟨-, rfl⟩ | hset
    · exact fun heq => htarget (congrArg some heq)
    · obtain ⟨field, hfield, hvalue⟩ := Option.map_eq_some_iff.mp hset
      intro heq
      rw [heq] at hvalue
      exact hasked (by rw [hfield, Option.join_some, hvalue])
  apply touchesOnly_of_member
    { membership with
      accessLevel := accessLevel, status := status, displayName := displayName, updatedAt := now }
    hkeys hmem
  · exact ⟨horganization, by simpa [AdminMembership.isCompanyAdmin] using htarget⟩
  · rfl
  · exact ⟨horganization, by simpa [AdminMembership.isCompanyAdmin] using hsubordinate⟩
  · rfl
  · rfl
  · intro other hother
    have hrenamed := renameUser_others hrename (huser ▸ hother)
    simp only [setMembership]
    split
    · exact hrenamed
    · exact hrenamed
  · rfl
  · rfl

theorem resetOrganizationMemberPassword_touches {draws : MemberDraws} (hkeys : db.Keyed)
    (hroot : context.isRoot = false)
    (h : db.resetOrganizationMemberPassword context organizationId userId draws = .ok db') :
    TouchesOnly organizationId userId db db' := by
  simp only [resetOrganizationMemberPassword, bind_ok, pure_ok] at h
  obtain ⟨_, -, ⟨user, membership⟩, hmember, _, hrole, rfl⟩ := h
  obtain ⟨⟨hmem, rfl, horganization⟩, -, huser⟩ := memberOr404_ok hmember
  obtain ⟨-, htarget⟩ := requireCompanyAdminSubordinateRole_ok hroot hrole
  have hold : membership.Subordinate organizationId :=
    ⟨horganization, by simpa [AdminMembership.isCompanyAdmin] using htarget⟩
  apply touchesOnly_of_member { membership with updatedAt := draws.now } hkeys hmem hold
  · rfl
  · exact ⟨hold.organization, hold.level⟩
  · rfl
  · rfl
  · exact fun other hother => findUser_setUser (huser ▸ hother)
  · rfl
  · rfl

theorem setMemberArtists_touches {artistIds : List ArtistId} {now : Time} (hkeys : db.Keyed)
    (hroot : context.isRoot = false)
    (h : db.setMemberArtists context organizationId userId artistIds now = .ok db') :
    TouchesOnly organizationId userId db db' := by
  simp only [setMemberArtists, bind_ok] at h
  obtain ⟨_, -, ⟨user, membership⟩, hmember, _, hrole, artistIds, -, hinsert⟩ := h
  obtain ⟨⟨hmem, rfl, horganization⟩, -⟩ := memberOr404_ok hmember
  obtain ⟨-, htarget⟩ := requireCompanyAdminSubordinateRole_ok hroot hrole
  have hold : membership.Subordinate organizationId :=
    ⟨horganization, by simpa [AdminMembership.isCompanyAdmin] using htarget⟩
  obtain rfl := insertAssignments_ok hinsert
  apply touchesOnly_of_member { membership with updatedAt := now } hkeys hmem hold
  · rfl
  · exact ⟨hold.organization, hold.level⟩
  · rfl
  · simp only [setMembership, filter_inserted, List.filter_filter, Bool.and_self]
  · exact fun _ _ => rfl
  · rfl
  · rfl

/-- What a request of an admin who is not root can do. -/
theorem perform_touches {request : PartnerRequest} (hkeys : db.Keyed)
    (hroot : context.isRoot = false)
    (horganization : context.organization.map (·.id) = some organizationId)
    (h : db.perform env context request = .ok db') :
    db' = db ∨ ∃ userId, TouchesOnly organizationId userId db db' := by
  have hscope {target : OrganizationId} {organization : Organization}
      (hok : db.requireOrganizationMemberManagement context target = .ok organization) :
      target = organizationId :=
    Option.some.inj ((requireOrganizationMemberManagement_ok hroot hok).symm.trans horganization)
  have hrefused {u : Unit} : context.requireRoot ≠ .ok u := by
    simp [AdminContext.requireRoot, hroot]
  cases request with
  | updateOrganization target payload now =>
    simp only [perform, updateOrganization, bind_ok] at h
    obtain ⟨_, hok, -⟩ := h
    exact absurd hok hrefused
  | setOrganizationArtists target artistIds =>
    simp only [perform, setOrganizationArtists, bind_ok] at h
    obtain ⟨_, hok, -⟩ := h
    exact absurd hok hrefused
  | listMembers target =>
    simp only [perform, bind_ok, pure_ok] at h
    obtain ⟨_, -, rfl⟩ := h
    exact .inl rfl
  | createMember target payload draws =>
    have htarget := h
    simp only [perform, createOrganizationMember, bind_ok] at htarget
    obtain ⟨_, hok, -⟩ := htarget
    rw [hscope hok] at h
    exact .inr ⟨_, createOrganizationMember_touches hkeys hroot h⟩
  | updateMember target userId payload now =>
    have htarget := h
    simp only [perform, updateOrganizationMember, bind_ok] at htarget
    obtain ⟨_, hok, -⟩ := htarget
    rw [hscope hok] at h
    exact .inr ⟨_, updateOrganizationMember_touches hkeys hroot h⟩
  | resetPassword target userId draws =>
    have htarget := h
    simp only [perform, resetOrganizationMemberPassword, bind_ok] at htarget
    obtain ⟨_, hok, -⟩ := htarget
    rw [hscope hok] at h
    exact .inr ⟨_, resetOrganizationMemberPassword_touches hkeys hroot h⟩
  | setMemberArtists target userId artistIds now =>
    have htarget := h
    simp only [perform, setMemberArtists, bind_ok] at htarget
    obtain ⟨_, hok, -⟩ := htarget
    rw [hscope hok] at h
    exact .inr ⟨_, setMemberArtists_touches hkeys hroot h⟩

/-- The request comes from an admin of the organization who is not root. -/
def IssuedWithin (organizationId : OrganizationId) (request : AdminContext × PartnerRequest) :
    Prop :=
  request.1.isRoot = false ∧ request.1.organization.map (·.id) = some organizationId

instance (request : AdminContext × PartnerRequest) :
    Decidable (IssuedWithin organizationId request) := inferInstanceAs (Decidable (_ ∧ _))

theorem step_confined {request : AdminContext × PartnerRequest} (hkeys : db.Keyed)
    (hissued : IssuedWithin organizationId request) :
    (db.step env request).Keyed ∧ Confined organizationId db (db.step env request) := by
  unfold step
  split
  · rename_i db' hok
    rcases perform_touches hkeys hissued.1 hissued.2 hok with rfl | ⟨_, htouches⟩
    · exact ⟨hkeys, .refl⟩
    · exact ⟨htouches.keys, htouches.confined⟩
  · exact ⟨hkeys, .refl⟩

theorem confined_run (hkeys : db.Keyed) {requests : List (AdminContext × PartnerRequest)}
    (hissued : ∀ request ∈ requests, IssuedWithin organizationId request) :
    Throughout (step env) (Confined organizationId db) db requests := by
  have hguard : Always (step env) (fun _ request => IssuedWithin organizationId request) db
      requests := by
    rw [always_iff_split]
    rintro pre request post rfl
    exact hissued request (by simp)
  refine (hguard.throughout (I := fun db' => db'.Keyed ∧ Confined organizationId db db')
    ⟨hkeys, .refl⟩ ?_).imp fun _ h => h.2
  intro db' request ⟨hkeys', hconfined⟩ hrequest
  have hnext : (db'.step env request).Keyed ∧ Confined organizationId db' (db'.step env request) :=
    step_confined hkeys' hrequest
  exact ⟨hnext.1, hconfined.trans hnext.2⟩

end

/-- Two organizations: `ada` and `max` are staff of the first, `eve` of the second. -/
def twoOrganizations : PartnerDb where
  identity :=
    { users := [{ id := "ada", role := .admin, passwordHash := some "h1" },
        { id := "max", role := .admin, passwordHash := some "h2" },
        { id := "eve", role := .admin, passwordHash := some "h3" }] }
  artists := ["luna", "nova"]
  assets := []
  organizations := [{ id := "o1", name := "One", slug := "one" },
    { id := "o2", name := "Two", slug := "two" }]
  organizationArtists := [⟨"o1", "luna"⟩, ⟨"o2", "nova"⟩]
  memberships :=
    [{ userId := "ada", organizationId := some "o1", accessLevel := .partner .companyAdmin,
       displayName := "Ada" },
     { userId := "max", organizationId := some "o1", accessLevel := .partner .manager,
       displayName := "Max" },
     { userId := "eve", organizationId := some "o2", accessLevel := .partner .editor,
       displayName := "Eve" }]
  assignments := [{ adminUserId := "max", artistId := "luna" },
    { adminUserId := "eve", artistId := "nova" }]

def plainEnv : PartnerEnv := ⟨id, id, fun _ => true⟩

/-- The context of a user, if it has one. -/
def contextOf (db : PartnerDb) (user : Account) : AdminContext :=
  match loadAdminContext db user with
  | .ok context => context
  | .error _ => ⟨user, ⟨user.id, none, .root, .suspended, "", none, 0⟩, none, [], []⟩

def adaRequests : List (AdminContext × PartnerRequest) :=
  let ada := contextOf twoOrganizations { id := "ada", role := .admin }
  [(ada, .createMember "o1" ⟨"kim@one", "Kim", .editor, ["luna"]⟩ ⟨1, "kim", "h4"⟩),
    (ada, .createMember "o1" ⟨"lee@one", "Lee", .companyAdmin, []⟩ ⟨2, "lee", "h5"⟩),
    (ada, .updateMember "o1" "max" { accessLevel := some (some .companyAdmin) } 3),
    (ada, .resetPassword "o1" "max" ⟨4, "", "h6"⟩),
    (ada, .setMemberArtists "o2" "eve" [] 5)]

theorem confined_run_ada :
    (twoOrganizations.Keyed ∧ ∀ request ∈ adaRequests, IssuedWithin "o1" request) ∧
    Throughout (step plainEnv) (Confined "o1" twoOrganizations) twoOrganizations adaRequests ∧
    (run (step plainEnv) twoOrganizations adaRequests).assignedArtistIds "kim" = ["luna"] :=
  ⟨⟨by decide, by decide⟩, confined_run (by decide) (by decide), by decide⟩

/-- The artists assigned to a member are artists of the organization of the member. -/
def Contained (db : PartnerDb) : Prop :=
  ∀ membership ∈ db.memberships, ∀ organizationId ∈ membership.organizationId,
    ∀ artistId ∈ db.assignedArtistIds membership.userId,
      artistId ∈ db.organizationArtistIds organizationId

/-- The foreign key of `admin_artist_assignments`. -/
def Held (db : PartnerDb) : Prop :=
  ∀ assignment ∈ db.assignments, assignment.adminUserId ∈ db.identity.users.map (·.id)

/-- The scope that is loaded for an admin has no artist outside the organization. -/
def ScopesContained (db : PartnerDb) : Prop :=
  ∀ user context, loadAdminContext db user = .ok context → context.isRoot = false →
    ∀ artistId ∈ context.assignedArtistIds,
      ∃ organization, context.organization = some organization ∧
        artistId ∈ db.organizationArtistIds organization.id

section

variable {env : PartnerEnv} {db db' : PartnerDb} {context : AdminContext}
  {organizationId : OrganizationId} {userId : UserId}

theorem mem_assignedArtistIds {artistId : ArtistId} : artistId ∈ db.assignedArtistIds userId ↔
    ∃ assignment ∈ db.assignments, assignment.adminUserId = userId ∧
      assignment.artistId = artistId := by
  simp [assignedArtistIds, and_assoc]

theorem mem_organizationArtistIds {artistId : ArtistId} :
    artistId ∈ db.organizationArtistIds organizationId ↔
      ⟨organizationId, artistId⟩ ∈ db.organizationArtists := by
  simp only [organizationArtistIds, List.mem_map, List.mem_filter, beq_iff_eq]
  constructor
  · rintro ⟨row, ⟨hmem, rfl⟩, rfl⟩
    exact hmem
  · exact fun hmem => ⟨_, ⟨hmem, rfl⟩, rfl⟩

theorem Contained.scopes (h : db.Contained) : db.ScopesContained := by
  intro user context hload hroot artistId hartist
  cases horganization : context.organization with
  | none =>
    rw [loadAdminContext_unscoped hload horganization] at hartist
    cases hartist
  | some organization =>
    obtain ⟨-, membership, hmem, hid, hown, hscope⟩ := loadAdminContext_partner hload horganization
    refine ⟨organization, rfl, ?_⟩
    rcases hscope with hscope | hscope
    · rwa [hscope] at hartist
    · rw [hscope, ← hid] at hartist
      exact h membership hmem organization.id hown artistId hartist

/-- A member that keeps its organization and its artists. -/
theorem Contained.setMembership (h : db.Contained) {old row : AdminMembership}
    (hmem : old ∈ db.memberships) (hid : row.userId = old.userId)
    (horganization : row.organizationId = old.organizationId) :
    (db.setMembership row).Contained := by
  intro membership hmem' target htarget artistId hartist
  rcases mem_setMembership hmem' with rfl | ⟨hold, -⟩
  · rw [horganization] at htarget
    exact h old hmem target htarget artistId (hid ▸ hartist)
  · exact h membership hold target htarget artistId hartist

theorem setOrganizationArtists_contained {artistIds : List ArtistId} (h : db.Contained)
    (hok : db.setOrganizationArtists context organizationId artistIds = .ok db') :
    db'.Contained := by
  simp only [setOrganizationArtists, bind_ok, ensure_ok, pure_ok] at hok
  obtain ⟨_, -, _, -, _, -, rfl⟩ := hok
  intro membership hmem target htarget artistId hartist
  obtain ⟨assignment, hassignment, hadmin, rfl⟩ := mem_assignedArtistIds.mp hartist
  obtain ⟨hassigned, hkept⟩ := List.mem_filter.mp hassignment
  have hbefore := h membership hmem target htarget assignment.artistId
    (mem_assignedArtistIds.mpr ⟨assignment, hassigned, hadmin, rfl⟩)
  rw [mem_organizationArtistIds]
  by_cases htarget' : target = organizationId
  · subst htarget'
    have hmember : assignment.adminUserId ∈
        (db.memberships.filter (·.organizationId == some target)).map (·.userId) :=
      List.mem_map.mpr ⟨membership, List.mem_filter.mpr ⟨hmem, by simpa using htarget⟩, hadmin.symm⟩
    have hin : assignment.artistId ∈ artistIds.eraseDups := by
      by_contra hout
      have hremoved : assignment.artistId ∈
          (db.organizationArtistIds target).filter (· ∉ artistIds.eraseDups) :=
        List.mem_filter.mpr ⟨hbefore, decide_eq_true hout⟩
      exact of_decide_eq_true hkept ⟨hmember, hremoved⟩
    exact List.mem_append_right _ (List.mem_map_of_mem hin)
  · apply List.mem_append_left
    exact List.mem_filter.mpr ⟨mem_organizationArtistIds.mp hbefore, by simpa using htarget'⟩

/-- An assignment of the table is an old one or one of those that are inserted. -/
theorem assigned_cases {artistIds : List ArtistId} {assignedBy : Option UserId}
    {rows : List AdminArtistAssignment} (hrows : db'.assignments =
      rows ++ artistIds.map fun artistId => AdminArtistAssignment.mk userId artistId assignedBy)
    {other : UserId} {artistId : ArtistId} (h : artistId ∈ db'.assignedArtistIds other) :
    (∃ assignment ∈ rows, assignment.adminUserId = other ∧ assignment.artistId = artistId) ∨
      other = userId ∧ artistId ∈ artistIds := by
  obtain ⟨assignment, hmem, rfl, rfl⟩ := mem_assignedArtistIds.mp h
  rw [hrows] at hmem
  rcases List.mem_append.mp hmem with hold | hnew
  · exact .inl ⟨assignment, hold, rfl, rfl⟩
  · obtain ⟨artistId, hartist, rfl⟩ := List.mem_map.mp hnew
    exact .inr ⟨rfl, hartist⟩

theorem createOrganizationMember_contained {payload : OrganizationMemberCreate}
    {draws : MemberDraws} (h : db.Contained) (hheld : db.Held)
    (hok : db.createOrganizationMember env context organizationId payload draws = .ok db') :
    db'.Contained ∧ db'.Held := by
  simp only [createOrganizationMember, bind_ok, ensure_ok] at hok
  obtain ⟨_, -, _, -, _, -, artistIds, hsubset, identity, hidentity, _, hnone, hinsert⟩ := hok
  have hartists := validateArtistSubset_ok hsubset
  obtain ⟨hfresh, -, rfl⟩ := IdentityDb.insertUser_ok.mp hidentity
  obtain rfl := insertAssignments_ok hinsert
  constructor
  · intro membership hmem target htarget artistId hartist
    rcases assigned_cases rfl hartist with ⟨assignment, hold, hadmin, hartist'⟩ | ⟨hid, hin⟩
    · rcases List.mem_append.mp hmem with hmem | hlast
      · exact h membership hmem target htarget artistId
          (mem_assignedArtistIds.mpr ⟨assignment, hold, hadmin, hartist'⟩)
      · have hholder := hheld assignment hold
        rw [List.mem_singleton.mp hlast] at hadmin
        rw [hadmin] at hholder
        exact absurd hholder hfresh
    · rcases List.mem_append.mp hmem with hmem | hlast
      · exact absurd (List.mem_map.mpr ⟨membership, hmem, hid⟩) (find_eq_none_iff.mp hnone)
      · rw [List.mem_singleton.mp hlast] at htarget
        obtain rfl := Option.some.inj htarget
        exact hartists artistId hin
  · intro assignment hmem
    rw [List.map_append]
    rcases List.mem_append.mp hmem with hold | hnew
    · exact List.mem_append_left _ (hheld assignment hold)
    · obtain ⟨_, -, rfl⟩ := List.mem_map.mp hnew
      exact List.mem_append_right _ (by simp)

theorem setMemberArtists_contained {artistIds : List ArtistId} {now : Time} (h : db.Contained)
    (hheld : db.Held)
    (hok : db.setMemberArtists context organizationId userId artistIds now = .ok db') :
    db'.Contained ∧ db'.Held := by
  simp only [setMemberArtists, bind_ok] at hok
  obtain ⟨_, -, ⟨user, membership⟩, hmember, _, -, artistIds, hsubset, hinsert⟩ := hok
  obtain ⟨⟨hmem, hid, horganization⟩, huser, huserId⟩ := memberOr404_ok hmember
  have hartists := validateArtistSubset_ok hsubset
  obtain rfl := insertAssignments_ok hinsert
  constructor
  · intro row hrow target htarget artistId hartist
    rcases assigned_cases rfl hartist with ⟨assignment, hold, hadmin, hartist'⟩ | ⟨hrowId, hin⟩
    · obtain ⟨hassigned, hother⟩ := List.mem_filter.mp hold
      rcases mem_setMembership hrow with rfl | ⟨hold', -⟩
      · rw [hadmin, hid] at hother
        simp at hother
      · exact h row hold' target htarget artistId
          (mem_assignedArtistIds.mpr ⟨assignment, hassigned, hadmin, hartist'⟩)
    · rcases mem_setMembership hrow with rfl | ⟨-, hne⟩
      · obtain rfl := Option.some.inj (horganization.symm.trans htarget)
        exact hartists artistId hin
      · exact absurd (hrowId.trans hid.symm) hne
  · intro assignment hassignment
    rcases List.mem_append.mp hassignment with hold | hnew
    · exact hheld assignment (List.mem_filter.mp hold).1
    · obtain ⟨_, -, rfl⟩ := List.mem_map.mp hnew
      exact List.mem_map.mpr ⟨user, huser, huserId⟩

theorem setUser_held {user : Account} (hheld : db.Held) :
    ∀ assignment ∈ db.assignments,
      assignment.adminUserId ∈ (db.identity.setUser user).users.map (·.id) := by
  rw [IdentityDb.setUser_ids]
  exact hheld

theorem renameUser_held {identity : IdentityDb} {user : Account}
    {displayName : Option (Option String)} (hheld : db.Held)
    (hok : renameUser env db.identity user displayName = .ok identity) :
    ∀ assignment ∈ db.assignments, assignment.adminUserId ∈ identity.users.map (·.id) := by
  unfold renameUser at hok
  split at hok
  · cases hok
    exact hheld
  · obtain ⟨-, rfl⟩ := IdentityDb.updateUser_ok.mp hok
    exact setUser_held hheld

theorem updateOrganizationMember_contained {payload : OrganizationMemberUpdate} {now : Time}
    (h : db.Contained) (hheld : db.Held)
    (hok : db.updateOrganizationMember env context organizationId userId payload now = .ok db') :
    db'.Contained ∧ db'.Held := by
  simp only [updateOrganizationMember, bind_ok, pure_ok] at hok
  obtain ⟨_, -, ⟨user, membership⟩, hmember, _, -, _, -, _, -, _, -, identity, hrename, rfl⟩ := hok
  obtain ⟨⟨hmem, -, -⟩, -⟩ := memberOr404_ok hmember
  refine ⟨h.setMembership hmem rfl rfl, ?_⟩
  have hrenamed := renameUser_held hheld hrename
  unfold Held
  simp only [setMembership]
  split
  · exact hrenamed
  · exact hrenamed

theorem resetOrganizationMemberPassword_contained {draws : MemberDraws} (h : db.Contained)
    (hheld : db.Held)
    (hok : db.resetOrganizationMemberPassword context organizationId userId draws = .ok db') :
    db'.Contained ∧ db'.Held := by
  simp only [resetOrganizationMemberPassword, bind_ok, pure_ok] at hok
  obtain ⟨_, -, ⟨user, membership⟩, hmember, _, -, rfl⟩ := hok
  obtain ⟨⟨hmem, -, -⟩, -⟩ := memberOr404_ok hmember
  exact ⟨h.setMembership hmem rfl rfl, setUser_held hheld⟩

theorem perform_contained {request : PartnerRequest} (h : db.Contained) (hheld : db.Held)
    (hok : db.perform env context request = .ok db') : db'.Contained ∧ db'.Held := by
  cases request with
  | updateOrganization target payload now =>
    simp only [perform, updateOrganization, bind_ok, pure_ok] at hok
    obtain ⟨_, -, _, -, _, -, _, -, _, -, _, -, _, -, _, -, rfl⟩ := hok
    exact ⟨h, hheld⟩
  | setOrganizationArtists target artistIds =>
    refine ⟨setOrganizationArtists_contained h hok, ?_⟩
    simp only [perform, setOrganizationArtists, bind_ok, pure_ok] at hok
    obtain ⟨_, -, _, -, _, -, rfl⟩ := hok
    exact fun assignment hmem => hheld assignment (List.mem_filter.mp hmem).1
  | listMembers target =>
    simp only [perform, bind_ok, pure_ok] at hok
    obtain ⟨_, -, rfl⟩ := hok
    exact ⟨h, hheld⟩
  | createMember target payload draws => exact createOrganizationMember_contained h hheld hok
  | updateMember target userId payload now => exact updateOrganizationMember_contained h hheld hok
  | resetPassword target userId draws => exact resetOrganizationMemberPassword_contained h hheld hok
  | setMemberArtists target userId artistIds now => exact setMemberArtists_contained h hheld hok

theorem contained_run (h : db.Contained) (hheld : db.Held)
    (requests : List (AdminContext × PartnerRequest)) :
    Throughout (step env) (fun db' => db'.Contained ∧ db'.ScopesContained) db requests := by
  have hrun : Throughout (step env) (fun db' => db'.Contained ∧ db'.Held) db requests := by
    refine throughout_of_step ⟨h, hheld⟩ ?_
    rintro db' ⟨context, request⟩ ⟨h', hheld'⟩
    unfold step
    split
    · rename_i db'' hok
      exact perform_contained h' hheld' hok
    · exact ⟨h', hheld'⟩
  exact hrun.imp fun _ h' => ⟨h'.1, h'.1.scopes⟩

end

instance (db : PartnerDb) : Decidable db.Contained :=
  inferInstanceAs (Decidable (∀ membership ∈ db.memberships,
    ∀ organizationId ∈ membership.organizationId, _))

instance (db : PartnerDb) : Decidable db.Held :=
  inferInstanceAs (Decidable (∀ assignment ∈ db.assignments, _))

/-- The root admin takes the artist of `max` away from the organization. -/
def artistRequests : List (AdminContext × PartnerRequest) :=
  [(rootContext, .setOrganizationArtists "o1" ["nova"]),
    (rootContext, .setMemberArtists "o1" "max" ["luna"] 1),
    (rootContext, .setMemberArtists "o1" "max" ["nova", "nova"] 2)]

theorem contained_run_artists :
    (twoOrganizations.Contained ∧ twoOrganizations.Held) ∧
    Throughout (step plainEnv) (fun db => db.Contained ∧ db.ScopesContained) twoOrganizations
      artistRequests ∧
    (run (step plainEnv) twoOrganizations artistRequests).assignedArtistIds "max" = ["nova"] :=
  ⟨⟨by decide, by decide⟩, contained_run (by decide) (by decide) artistRequests, by decide⟩

end PartnerDb

end Fanfolio
