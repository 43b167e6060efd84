import Fanfolio.Partners.RootAdmins

/-!
# Changes of roles that overlap

A request to change a role checks that an admin is left, and writes in a later statement. Two root
admins who demote each other at once both pass the check.
-/

namespace Fanfolio

open Framework

/-- How far a request to change a role has come: it was let in, it has loaded the account, it has
made its checks. -/
inductive RolePhase where
  | admitted
  | loaded (user : Account)
  | checked (user : Account)
  | answered (answer : Except Failure Unit)

/-- A request of an admin to change the role of an account. -/
structure RoleFlight where
  adminId : UserId
  userId : UserId
  role : Role
  phase : RolePhase

/-- The committed rows, and the requests that are under way. -/
structure RoleSystem where
  db : PartnerDb
  flights : ℕ → Option RoleFlight := fun _ => none

inductive RoleAction where
  | receive (n : ℕ) (adminId userId : UserId) (role : Role)
  | advance (n : ℕ)
  | fail (n : ℕ)
  | serve (userId : UserId) (request : ConsoleRequest)

namespace RoleSystem

def set (s : RoleSystem) (n : ℕ) (f : RoleFlight) (phase : RolePhase) : RoleSystem :=
  { s with flights := Function.update s.flights n (some { f with phase := phase }) }

/-- The next statement of `update_user_role`. The write waits for the row and is the last before
the commit. -/
def advance (env : PartnerEnv) (s : RoleSystem) (n : ℕ) (f : RoleFlight) : RoleSystem :=
  match f.phase with
  | .admitted =>
    match s.db.identity.findUser f.userId with
    | none => s.set n f (.answered (.error userNotFound))
    | some user => s.set n f (.loaded user)
  | .loaded user =>
    if PartnerDb.demotes user f.role ∧ s.db.adminCount = 1 then
      s.set n f (.answered (.error lastAdminRequired))
    else s.set n f (.checked user)
  | .checked user =>
    match s.db.writeRole env user f.role with
    | .error e => s.set n f (.answered (.error e))
    | .ok db => { s.set n f (.answered (.ok ())) with db := db }
  | .answered _ => s

/-- The session and the own role are checked when a request comes in; requests of other kinds run
alone. -/
def step (env : PartnerEnv) (s : RoleSystem) : RoleAction → RoleSystem
  | .receive n adminId userId role =>
    match s.flights n with
    | some _ => s
    | none =>
      match s.db.rootAdmin adminId with
      | .error e => s.set n ⟨adminId, userId, role, .admitted⟩ (.answered (.error e))
      | .ok _ =>
        if userId = adminId then
          s.set n ⟨adminId, userId, role, .admitted⟩ (.answered (.error ownRole))
        else s.set n ⟨adminId, userId, role, .admitted⟩ .admitted
  | .advance n =>
    match s.flights n with
    | none => s
    | some f => s.advance env n f
  | .fail n =>
    match s.flights n with
    | none => s
    | some f =>
      match f.phase with
      | .answered _ => s
      | _ => s.set n f (.answered (.error (.unhandled "OperationalError")))
  | .serve userId request => { s with db := s.db.serveStep env (userId, request) }

end RoleSystem

/-- A request that is under way is about another account, and has loaded this one. -/
def RoleFlight.Sound (f : RoleFlight) : Prop :=
  match f.phase with
  | .admitted => f.userId ≠ f.adminId
  | .loaded user => f.userId ≠ f.adminId ∧ user.id = f.userId
  | .checked user => f.userId ≠ f.adminId ∧ user.id = f.userId
  | .answered _ => True

namespace RoleSystem

variable {env : PartnerEnv} {s : RoleSystem} {n : ℕ} {f : RoleFlight}

structure Sound (s : RoleSystem) : Prop where
  governed : s.db.Governed
  flights : ∀ n f, s.flights n = some f → f.Sound

/-- What a step can do to the rows and to the requests. -/
inductive Change (env : PartnerEnv) (s : RoleSystem) : RoleAction → RoleSystem → Prop where
  | stays (a : RoleAction) : Change env s a s
  | moves (a : RoleAction) (n : ℕ) (f : RoleFlight) (hsound : f.Sound) :
      Change env s a { s with flights := Function.update s.flights n (some f) }
  | writes (n : ℕ) (f : RoleFlight) (user : Account) (db : PartnerDb) (hf : s.flights n = some f)
      (hphase : f.phase = .checked user) (hwrite : s.db.writeRole env user f.role = .ok db) :
      Change env s (.advance n) { s.set n f (.answered (.ok ())) with db := db }
  | serves (userId : UserId) (request : ConsoleRequest) :
      Change env s (.serve userId request) { s with db := s.db.serveStep env (userId, request) }

theorem step_change (h : s.Sound) (a : RoleAction) : Change env s a (step env s a) := by
  cases a with
  | receive n adminId userId role =>
    simp only [step]
    split
    · exact .stays _
    · split
      · exact .moves _ n _ trivial
      · split
        · exact .moves _ n _ trivial
        · rename_i hother
          exact .moves _ n _ hother
  | advance n =>
    simp only [step]
    split
    · exact .stays _
    · rename_i f hf
      have hsound := h.flights n f hf
      unfold advance
      split
      · rename_i hphase
        rw [RoleFlight.Sound, hphase] at hsound
        split
        · exact .moves _ n _ trivial
        · rename_i user huser
          exact .moves _ n _ ⟨hsound, (IdentityDb.findUser_mem huser).2⟩
      · rename_i user hphase
        rw [RoleFlight.Sound, hphase] at hsound
        split
        · exact .moves _ n _ trivial
        · exact .moves _ n _ hsound
      · rename_i user hphase
        split
        · exact .moves _ n _ trivial
        · rename_i db hwrite
          exact .writes n f user db hf hphase hwrite
      · exact .stays _
  | fail n =>
    simp only [step]
    split
    · exact .stays _
    · split
      · exact .stays _
      · exact .moves _ n _ trivial
  | serve userId request => exact .serves userId request

theorem flights_sound {g : RoleFlight} (h : s.Sound) (hg : g.Sound) :
    ∀ m f, Function.update s.flights n (some g) m = some f → f.Sound := by
  intro m f hf
  by_cases hm : m = n
  · subst hm
    rw [Function.update_self] at hf
    cases hf
    exact hg
  · rw [Function.update_of_ne hm] at hf
    exact h.flights m f hf

theorem Change.sound {a : RoleAction} {s' : RoleSystem} (hchange : Change env s a s')
    (h : s.Sound) : s'.Sound := by
  cases hchange with
  | stays => exact h
  | moves _ n f hsound => exact ⟨h.governed, flights_sound h hsound⟩
  | writes n f user db hf hphase hwrite =>
    exact ⟨h.governed.of_memberships (PartnerDb.writeRole_ok hwrite).1, flights_sound h trivial⟩
  | serves userId request =>
    exact ⟨PartnerDb.serveStep_governed (userId, request) h.governed, h.flights⟩

/-- The rows, when no request is under way. -/
def start (db : PartnerDb) : RoleSystem := { db := db }

theorem start_sound {db : PartnerDb} (h : db.Governed) : (start db).Sound :=
  ⟨h, fun n f hf => by cases hf⟩

theorem run_sound {db : PartnerDb} (h : db.Governed) (acts : List RoleAction) :
    (run (step env) (start db) acts).Sound :=
  run_of_step (start_sound h) fun _ a hs => (step_change hs a).sound hs

/-- Who writes a change of a role still acts as root. -/
def SteadyActor (s : RoleSystem) (a : RoleAction) : Prop :=
  ∀ n f user, a = .advance n → s.flights n = some f → f.phase = .checked user →
    s.db.ActsAsRoot f.adminId

/-- Whoever a request takes the role away from, the admin who asked for it is left. -/
theorem Change.leavesRoot {a : RoleAction} {s' : RoleSystem} (hchange : Change env s a s')
    (h : s.Sound) (hsteady : SteadyActor s a) (hroot : ∃ userId, s.db.ActsAsRoot userId) :
    ∃ userId, s'.db.ActsAsRoot userId := by
  cases hchange with
  | stays => exact hroot
  | moves => exact hroot
  | writes n f user db hf hphase hwrite =>
    have hactor := hsteady n f user rfl hf hphase
    have hsound := h.flights n f hf
    rw [RoleFlight.Sound, hphase] at hsound
    have hkeeps := (PartnerDb.writeRole_ok hwrite).2 f.adminId (hsound.2 ▸ hsound.1.symm)
    exact ⟨f.adminId, hkeeps.actsAsRoot.mpr hactor⟩
  | serves userId request =>
    exact (PartnerDb.serveStep_leavesRoot (userId, request) ⟨h.governed, hroot⟩).2

/-- However requests to change roles interleave, an admin who acts as root is left, as long as none
is written for somebody who has lost the role in the meantime. -/
theorem rootAdmin_throughout {db : PartnerDb} (h : db.Governed)
    (hroot : ∃ userId, db.ActsAsRoot userId) {acts : List RoleAction}
    (hsteady : Always (step env) SteadyActor (start db) acts) :
    Throughout (step env) (fun s => ∃ userId, s.db.ActsAsRoot userId) (start db) acts := by
  refine (hsteady.throughout (I := fun s => s.Sound ∧ ∃ userId, s.db.ActsAsRoot userId)
    ⟨start_sound h, hroot⟩ ?_).imp fun _ h => h.2
  intro s a ⟨hsound, hroot⟩ hsteady
  have hchange : Change env s a (step env s a) := step_change hsound a
  exact ⟨hchange.sound hsound, hchange.leavesRoot hsound hsteady hroot⟩

/-- A root admin demotes the other, and is there to write it. -/
theorem rootAdmin_throughout_twoRoots :
    Throughout (step PartnerDb.plainEnv) (fun s => ∃ userId, s.db.ActsAsRoot userId)
      (start PartnerDb.twoRoots)
      [.receive 0 "ada" "eve" .fan, .advance 0, .advance 0, .advance 0] := by
  refine rootAdmin_throughout PartnerDb.twoRoots_governed ⟨"ada", PartnerDb.twoRoots_acts⟩ ?_
  refine ⟨?_, ?_, ?_, ?_, trivial⟩
  · intro n f user ha
    cases ha
  · intro n f user ha hf hphase
    cases ha
    cases hf
    cases hphase
  · intro n f user ha hf hphase
    cases ha
    cases hf
    cases hphase
  · intro n f user ha hf hphase
    cases ha
    cases hf
    exact PartnerDb.twoRoots_acts

/-- Both requests have made their checks, and each takes the role away from the admin who sent the
other. -/
structure Crossing (s : RoleSystem) (n m : ℕ) (f g : RoleFlight) (user user' : Account) : Prop where
  first : s.flights n = some f
  second : s.flights m = some g
  checked : f.phase = .checked user
  checked' : g.phase = .checked user'
  demotes : PartnerDb.demotes user f.role = true
  demotes' : PartnerDb.demotes user' g.role = true
  target : f.userId = g.adminId
  target' : g.userId = f.adminId

theorem step_writes {user : Account} {db : PartnerDb} (hf : s.flights n = some f)
    (hphase : f.phase = .checked user) (hwrite : s.db.writeRole env user f.role = .ok db) :
    step env s (.advance n) = { s.set n f (.answered (.ok ())) with db := db } := by
  simp only [step, hf, advance, hphase, hwrite]

theorem run_serves (requests : List (UserId × ConsoleRequest)) :
    run (step env) s (requests.map fun request => .serve request.1 request.2) =
      { s with db := run (PartnerDb.serveStep env) s.db requests } := by
  induction requests generalizing s with
  | nil => rfl
  | cons request requests ih => rw [List.map_cons, run_cons, run_cons, ih, step]

/-- The two root admins demote each other. -/
def crossingActs : List RoleAction :=
  [.receive 0 "ada" "eve" .fan, .receive 1 "eve" "ada" .fan, .advance 0, .advance 0, .advance 1,
    .advance 1]

/-- The rows once a role is written. -/
def demoted (db : PartnerDb) (userId : UserId) : PartnerDb :=
  { db with identity := db.identity.setUser { id := userId } }

end RoleSystem

end Fanfolio
