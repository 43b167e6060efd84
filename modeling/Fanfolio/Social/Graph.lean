import Fanfolio.Framework.ReadCommitted
import Fanfolio.Framework.Run
import Fanfolio.Notifications.Queue
import Mathlib.Data.List.Infix

/-!
# Follows and blocks

Fans follow and block each other. A block takes back the follows between the two and hides them
from each other. Each request is one transaction of several statements, and those of other requests
may run in between.
-/

namespace Fanfolio

open Framework

structure SocialDb where
  users : List User := []
  follows : List Follow := []
  blocks : List UserBlock := []
deriving DecidableEq, Repr

/-- `_is_blocked`. -/
def isBlocked (blocks : List UserBlock) (firstId secondId : UserId) : Bool :=
  blocks.any fun row =>
    (row.blockerId == firstId && row.blockedId == secondId) ||
      (row.blockerId == secondId && row.blockedId == firstId)

theorem isBlocked_comm (blocks : List UserBlock) (firstId secondId : UserId) :
    isBlocked blocks firstId secondId = isBlocked blocks secondId firstId := by
  unfold isBlocked
  congr 1
  funext row
  exact Bool.or_comm _ _

theorem isBlocked_iff {blocks : List UserBlock} {firstId secondId : UserId} :
    isBlocked blocks firstId secondId = true ↔
      ⟨firstId, secondId⟩ ∈ blocks ∨ ⟨secondId, firstId⟩ ∈ blocks := by
  simp only [isBlocked, List.any_eq_true, Bool.or_eq_true, Bool.and_eq_true, beq_iff_eq]
  constructor
  · rintro ⟨⟨blocker, blocked⟩, hmem, ⟨rfl, rfl⟩ | ⟨rfl, rfl⟩⟩
    · exact .inl hmem
    · exact .inr hmem
  · rintro (hmem | hmem)
    · exact ⟨_, hmem, .inl ⟨rfl, rfl⟩⟩
    · exact ⟨_, hmem, .inr ⟨rfl, rfl⟩⟩

/-- The follow is one between the two. -/
def Follow.between (firstId secondId : UserId) (row : Follow) : Bool :=
  (row.followerId == firstId && row.followingId == secondId) ||
    (row.followerId == secondId && row.followingId == firstId)

namespace SocialDb

variable (db : SocialDb) (userId targetId : UserId)

def findUser (db : SocialDb) (userId : UserId) : Option User :=
  db.users.find? (·.id == userId)

/-- The refusals of `block_fan`. -/
def checkBlock : Except Failure Unit := do
  ensure (targetId ≠ userId)
    (.app ⟨422, "SELF_BLOCK_NOT_ALLOWED", "자기 자신은 차단할 수 없습니다."⟩)
  let notFound : Failure := .app ⟨404, "FAN_NOT_FOUND", "차단할 팬을 찾을 수 없습니다."⟩
  let target ← orFail (db.findUser targetId) notFound
  ensure (target.role = .fan) notFound

/-- `block_fan`. -/
def blockFan : Except Failure SocialDb := do
  db.checkBlock userId targetId
  if ⟨userId, targetId⟩ ∈ db.blocks then pure db
  else pure { db with
    blocks := db.blocks ++ [⟨userId, targetId⟩]
    follows := db.follows.filter fun row => !row.between userId targetId }

/-- `unblock_fan`. -/
def unblockFan : Except Failure SocialDb :=
  pure { db with blocks := db.blocks.filter (· ≠ ⟨userId, targetId⟩) }

/-- The refusals of `follow_fan`. -/
def checkFollow : Except Failure Unit := do
  ensure (targetId ≠ userId)
    (.app ⟨422, "SELF_FOLLOW_NOT_ALLOWED", "자기 자신은 팔로우할 수 없습니다."⟩)
  let notFound : Failure := .app ⟨404, "FAN_NOT_FOUND", "팔로우할 팬을 찾을 수 없습니다."⟩
  let target ← orFail (db.findUser targetId) notFound
  ensure (target.role = .fan ∧ isBlocked db.blocks userId targetId = false) notFound

/-- `follow_fan`. -/
def followFan : Except Failure SocialDb := do
  db.checkFollow userId targetId
  if ⟨userId, targetId⟩ ∈ db.follows then pure db
  else pure { db with follows := db.follows ++ [⟨userId, targetId⟩] }

/-- `unfollow_fan`. -/
def unfollowFan : Except Failure SocialDb :=
  pure { db with follows := db.follows.filter (· ≠ ⟨userId, targetId⟩) }

/-- What the tables and their unique constraints say. -/
structure Valid (db : SocialDb) : Prop where
  follows : db.follows.Nodup
  blocks : db.blocks.Nodup
  followsOthers : ∀ row ∈ db.follows, row.followerId ≠ row.followingId
  blocksOthers : ∀ row ∈ db.blocks, row.blockerId ≠ row.blockedId

/-- Nobody follows across a block. -/
def NoFollowAcrossBlock (db : SocialDb) : Prop :=
  ∀ row ∈ db.follows, isBlocked db.blocks row.followerId row.followingId = false

instance : Decidable (NoFollowAcrossBlock db) :=
  inferInstanceAs (Decidable (∀ row ∈ db.follows, _))

end SocialDb

inductive SocialRequest where
  | follow
  | unfollow
  | block
  | unblock
deriving DecidableEq, Repr

/-- The request, as one function of the tables. -/
def SocialRequest.serve (request : SocialRequest) (db : SocialDb) (userId targetId : UserId) :
    Except Failure SocialDb :=
  match request with
  | .follow => db.followFan userId targetId
  | .unfollow => db.unfollowFan userId targetId
  | .block => db.blockFan userId targetId
  | .unblock => db.unblockFan userId targetId

/-- How far a request has come: its checks, the look for an existing row, its insert, all of its
statements. -/
inductive SocialPhase where
  | opened
  | checked
  | missing
  | inserted
  | written
  | answered (answer : Except Failure Unit)
deriving DecidableEq

structure SocialFlight where
  request : SocialRequest
  userId : UserId
  targetId : UserId
  phase : SocialPhase := .opened
deriving DecidableEq

/-- The shared tables, and the requests with their transactions. -/
structure SocialSystem where
  users : List User
  follows : SharedRows Follow Follow
  blocks : SharedRows UserBlock UserBlock
  flights : ℕ → Option SocialFlight

namespace SocialSystem

def start (db : SocialDb) : SocialSystem :=
  ⟨db.users, { rows := db.follows }, { rows := db.blocks }, fun _ => none⟩

/-- What is committed. -/
def db (s : SocialSystem) : SocialDb := ⟨s.users, s.follows.rows, s.blocks.rows⟩

section

variable (s : SocialSystem) (n : ℕ) (f : SocialFlight)

def goOn (phase : SocialPhase) : SocialSystem :=
  { s with flights := Function.update s.flights n (some { f with phase := phase }) }

/-- The transaction is given up. -/
def giveUp (e : Failure) : SocialSystem :=
  { s.goOn n f (.answered (.error e)) with
    follows := s.follows.rollback n, blocks := s.blocks.rollback n }

/-- The transaction ends, once no other one holds a row that it deletes. -/
def commit : SocialSystem :=
  if s.follows.held n || s.blocks.held n then s
  else { s.goOn n f (.answered (.ok ())) with
    follows := s.follows.commit id n, blocks := s.blocks.commit id n }

/-- The next statement of a follow. -/
def advanceFollow : SocialSystem :=
  match f.phase with
  | .opened =>
    match s.db.checkFollow f.userId f.targetId with
    | .ok () => s.goOn n f .checked
    | .error e => s.goOn n f (.answered (.error e))
  | .checked =>
    if ⟨f.userId, f.targetId⟩ ∈ s.follows.rows then s.goOn n f (.answered (.ok ()))
    else s.goOn n f .missing
  | .missing =>
    match s.follows.insert id n ⟨f.userId, f.targetId⟩ with
    | .waits => s
    | .violates => s.giveUp n f (.integrity "uq_follows_pair")
    | .done follows => { s.goOn n f .written with follows := follows }
  | .written => s.commit n f
  | _ => s

/-- The next statement of a block. -/
def advanceBlock : SocialSystem :=
  match f.phase with
  | .opened =>
    match s.db.checkBlock f.userId f.targetId with
    | .ok () => s.goOn n f .checked
    | .error e => s.goOn n f (.answered (.error e))
  | .checked =>
    if ⟨f.userId, f.targetId⟩ ∈ s.blocks.rows then s.goOn n f (.answered (.ok ()))
    else s.goOn n f .missing
  | .missing =>
    match s.blocks.insert id n ⟨f.userId, f.targetId⟩ with
    | .waits => s
    | .violates => s.giveUp n f (.integrity "uq_user_blocks_pair")
    | .done blocks => { s.goOn n f .inserted with blocks := blocks }
  | .inserted =>
    { s.goOn n f .written with
      follows := s.follows.delete id n (·.between f.userId f.targetId) }
  | .written => s.commit n f
  | _ => s

/-- The next statement of an unfollow. -/
def advanceUnfollow : SocialSystem :=
  match f.phase with
  | .opened =>
    { s.goOn n f .written with follows := s.follows.delete id n (· = ⟨f.userId, f.targetId⟩) }
  | .written => s.commit n f
  | _ => s

/-- The next statement of an unblock. -/
def advanceUnblock : SocialSystem :=
  match f.phase with
  | .opened =>
    { s.goOn n f .written with blocks := s.blocks.delete id n (· = ⟨f.userId, f.targetId⟩) }
  | .written => s.commit n f
  | _ => s

def advance : SocialSystem :=
  match s.flights n with
  | none => s
  | some f =>
    match f.request with
    | .follow => s.advanceFollow n f
    | .unfollow => s.advanceUnfollow n f
    | .block => s.advanceBlock n f
    | .unblock => s.advanceUnblock n f

end

end SocialSystem

/-- A request comes in, runs its next statement, or loses its connection. -/
inductive SocialAction where
  | receive (n : ℕ) (request : SocialRequest) (userId targetId : UserId)
  | advance (n : ℕ)
  | fail (n : ℕ)
deriving DecidableEq, Repr

def SocialAction.request : SocialAction → ℕ
  | .receive n _ _ _ => n
  | .advance n => n
  | .fail n => n

def SocialSystem.step (s : SocialSystem) : SocialAction → SocialSystem
  | .receive n request userId targetId =>
    match s.flights n with
    | none =>
      { s with flights := Function.update s.flights n (some ⟨request, userId, targetId, .opened⟩) }
    | some _ => s
  | .advance n => s.advance n
  | .fail n =>
    match s.flights n with
    | none => s
    | some f =>
      match f.phase with
      | .answered _ => s
      | _ => s.giveUp n f (.unhandled "OperationalError")

/-- A follow or a block that has passed its checks and is not answered. -/
def SocialFlight.Underway (f : SocialFlight) : Prop :=
  (f.request = .follow ∨ f.request = .block) ∧
    (f.phase = .checked ∨ f.phase = .missing ∨ f.phase = .inserted ∨ f.phase = .written)

/-- The follow is under way, and the block is about to commit. -/
def SocialFlight.Crosses (f g : SocialFlight) : Prop :=
  f.request = .follow ∧ f.Underway ∧ g.request = .block ∧ g.phase = .written ∧
    Follow.between g.userId g.targetId ⟨f.userId, f.targetId⟩ = true

instance (f : SocialFlight) : Decidable f.Underway :=
  inferInstanceAs (Decidable (_ ∧ _))

instance (f g : SocialFlight) : Decidable (f.Crosses g) :=
  inferInstanceAs (Decidable (_ ∧ f.Underway ∧ _))

def SocialFlight.InsertsFollow (f : SocialFlight) (row : Follow) : Prop :=
  f.request = .follow ∧ f.phase = .written ∧ row = ⟨f.userId, f.targetId⟩

def SocialFlight.InsertsBlock (f : SocialFlight) (row : UserBlock) : Prop :=
  f.request = .block ∧ (f.phase = .inserted ∨ f.phase = .written) ∧ row = ⟨f.userId, f.targetId⟩

/-- The request has changed rows, and is not answered. -/
def SocialFlight.Writes (f : SocialFlight) : Prop :=
  f.phase = .written ∨ (f.request = .block ∧ f.phase = .inserted)

def SocialFlight.DeletesFollows (f : SocialFlight) : Prop :=
  (f.request = .unfollow ∨ f.request = .block) ∧ f.phase = .written

def SocialFlight.DeletesBlocks (f : SocialFlight) : Prop :=
  f.request = .unblock ∧ f.phase = .written

namespace SocialSystem

variable {s : SocialSystem} {n : ℕ}

/-- The request has come so far, and the tables are these. -/
def put (s : SocialSystem) (n : ℕ) (f : SocialFlight) (follows : SharedRows Follow Follow)
    (blocks : SharedRows UserBlock UserBlock) : SocialSystem :=
  ⟨s.users, follows, blocks, Function.update s.flights n (some f)⟩

/-- What a step can do. -/
inductive Change (s : SocialSystem) (n : ℕ) :
    SocialFlight → SharedRows Follow Follow → SharedRows UserBlock UserBlock → Prop where
  | receives (request : SocialRequest) (userId targetId : UserId) (hnew : s.flights n = none) :
      Change s n ⟨request, userId, targetId, .opened⟩ s.follows s.blocks
  | answers (f : SocialFlight) (answer : Except Failure Unit) (hf : s.flights n = some f)
      (hphase : f.phase = .opened ∨ f.phase = .checked) :
      Change s n { f with phase := .answered answer } s.follows s.blocks
  | passes (f : SocialFlight) (hf : s.flights n = some f)
      (hphase : f.phase = .opened) (hself : f.targetId ≠ f.userId)
      (hblock : f.request = .follow → isBlocked s.blocks.rows f.userId f.targetId = false) :
      Change s n { f with phase := .checked } s.follows s.blocks
  | misses (f : SocialFlight) (hf : s.flights n = some f)
      (hrequest : f.request = .follow ∨ f.request = .block) (hphase : f.phase = .checked) :
      Change s n { f with phase := .missing } s.follows s.blocks
  | insertsFollow (f : SocialFlight) (follows : SharedRows Follow Follow)
      (hf : s.flights n = some f) (hrequest : f.request = .follow) (hphase : f.phase = .missing)
      (hdone : s.follows.insert id n ⟨f.userId, f.targetId⟩ = .done follows) :
      Change s n { f with phase := .written } follows s.blocks
  | insertsBlock (f : SocialFlight) (blocks : SharedRows UserBlock UserBlock)
      (hf : s.flights n = some f) (hrequest : f.request = .block) (hphase : f.phase = .missing)
      (hdone : s.blocks.insert id n ⟨f.userId, f.targetId⟩ = .done blocks) :
      Change s n { f with phase := .inserted } s.follows blocks
  | deletesFollow (f : SocialFlight) (hf : s.flights n = some f)
      (hrequest : f.request = .unfollow) (hphase : f.phase = .opened) :
      Change s n { f with phase := .written }
        (s.follows.delete id n (· = ⟨f.userId, f.targetId⟩)) s.blocks
  | deletesBetween (f : SocialFlight) (hf : s.flights n = some f)
      (hrequest : f.request = .block) (hphase : f.phase = .inserted) :
      Change s n { f with phase := .written }
        (s.follows.delete id n (·.between f.userId f.targetId)) s.blocks
  | deletesBlock (f : SocialFlight) (hf : s.flights n = some f)
      (hrequest : f.request = .unblock) (hphase : f.phase = .opened) :
      Change s n { f with phase := .written } s.follows
        (s.blocks.delete id n (· = ⟨f.userId, f.targetId⟩))
  | commits (f : SocialFlight) (hf : s.flights n = some f) (hphase : f.phase = .written)
      (hheld : s.follows.held n = false) :
      Change s n { f with phase := .answered (.ok ()) } (s.follows.commit id n)
        (s.blocks.commit id n)
  | givesUp (f : SocialFlight) (e : Failure) (hf : s.flights n = some f) :
      Change s n { f with phase := .answered (.error e) } (s.follows.rollback n)
        (s.blocks.rollback n)

/-- Nothing happens, or the request makes a change. -/
def Changes (s : SocialSystem) (n : ℕ) (s' : SocialSystem) : Prop :=
  s' = s ∨ ∃ f follows blocks, Change s n f follows blocks ∧ s' = s.put n f follows blocks

section

variable {f : SocialFlight} (hf : s.flights n = some f)

include hf

theorem commit_changes (hphase : f.phase = .written) : Changes s n (s.commit n f) := by
  unfold commit
  split
  · exact .inl rfl
  · rename_i hheld
    simp only [Bool.or_eq_true, not_or, Bool.not_eq_true] at hheld
    exact .inr ⟨_, _, _, .commits f hf hphase hheld.1, rfl⟩

theorem advanceFollow_changes (hrequest : f.request = .follow) :
    Changes s n (s.advanceFollow n f) := by
  unfold advanceFollow
  split
  · rename_i hphase
    split
    · rename_i hok
      simp only [SocialDb.checkFollow, bind_ok, ensure_ok, orFail_ok] at hok
      obtain ⟨_, hself, _, -, -, hblock⟩ := hok
      exact .inr ⟨_, _, _, .passes f hf hphase hself fun _ => hblock, rfl⟩
    · exact .inr ⟨_, _, _, .answers f _ hf (.inl hphase), rfl⟩
  · rename_i hphase
    split
    · exact .inr ⟨_, _, _, .answers f _ hf (.inr hphase), rfl⟩
    · exact .inr ⟨_, _, _, .misses f hf (.inl hrequest) hphase, rfl⟩
  · rename_i hphase
    split
    · exact .inl rfl
    · exact .inr ⟨_, _, _, .givesUp f _ hf, rfl⟩
    · rename_i follows hdone
      exact .inr ⟨_, _, _, .insertsFollow f follows hf hrequest hphase hdone, rfl⟩
  · rename_i hphase
    exact commit_changes hf hphase
  · exact .inl rfl

theorem advanceBlock_changes (hrequest : f.request = .block) :
    Changes s n (s.advanceBlock n f) := by
  unfold advanceBlock
  split
  · rename_i hphase
    split
    · rename_i hok
      simp only [SocialDb.checkBlock, bind_ok, ensure_ok, orFail_ok] at hok
      obtain ⟨_, hself, -⟩ := hok
      refine .inr ⟨_, _, _, .passes f hf hphase hself fun hfollow => ?_, rfl⟩
      rw [hrequest] at hfollow
      cases hfollow
    · exact .inr ⟨_, _, _, .answers f _ hf (.inl hphase), rfl⟩
  · rename_i hphase
    split
    · exact .inr ⟨_, _, _, .answers f _ hf (.inr hphase), rfl⟩
    · exact .inr ⟨_, _, _, .misses f hf (.inr hrequest) hphase, rfl⟩
  · rename_i hphase
    split
    · exact .inl rfl
    · exact .inr ⟨_, _, _, .givesUp f _ hf, rfl⟩
    · rename_i blocks hdone
      exact .inr ⟨_, _, _, .insertsBlock f blocks hf hrequest hphase hdone, rfl⟩
  · rename_i hphase
    exact .inr ⟨_, _, _, .deletesBetween f hf hrequest hphase, rfl⟩
  · rename_i hphase
    exact commit_changes hf hphase
  · exact .inl rfl

theorem advanceUnfollow_changes (hrequest : f.request = .unfollow) :
    Changes s n (s.advanceUnfollow n f) := by
  unfold advanceUnfollow
  split
  · rename_i hphase
    exact .inr ⟨_, _, _, .deletesFollow f hf hrequest hphase, rfl⟩
  · rename_i hphase
    exact commit_changes hf hphase
  · exact .inl rfl

theorem advanceUnblock_changes (hrequest : f.request = .unblock) :
    Changes s n (s.advanceUnblock n f) := by
  unfold advanceUnblock
  split
  · rename_i hphase
    exact .inr ⟨_, _, _, .deletesBlock f hf hrequest hphase, rfl⟩
  · rename_i hphase
    exact commit_changes hf hphase
  · exact .inl rfl

end

theorem step_changes (s : SocialSystem) (a : SocialAction) : Changes s a.request (s.step a) := by
  cases a with
  | receive n request userId targetId =>
    unfold step
    dsimp only
    split
    · rename_i hnew
      exact .inr ⟨_, _, _, .receives request userId targetId hnew, rfl⟩
    · exact .inl rfl
  | advance n =>
    unfold step advance
    dsimp only
    split
    · exact .inl rfl
    · rename_i f hf
      split
      · rename_i hrequest
        exact advanceFollow_changes hf hrequest
      · rename_i hrequest
        exact advanceUnfollow_changes hf hrequest
      · rename_i hrequest
        exact advanceBlock_changes hf hrequest
      · rename_i hrequest
        exact advanceUnblock_changes hf hrequest
  | fail n =>
    unfold step
    dsimp only
    split
    · exact .inl rfl
    · rename_i f hf
      split
      · exact .inl rfl
      · exact .inr ⟨_, _, _, .givesUp f _ hf, rfl⟩

/-- The tables keep their constraints, and what is open in them belongs to the requests. -/
structure Sound (s : SocialSystem) : Prop where
  follows : s.follows.Sound id
  blocks : s.blocks.Sound id
  followsOthers : ∀ row ∈ s.follows.rows, row.followerId ≠ row.followingId
  blocksOthers : ∀ row ∈ s.blocks.rows, row.blockerId ≠ row.blockedId
  others : ∀ n f, s.flights n = some f → f.Underway → f.targetId ≠ f.userId
  addsFollow : ∀ n row, (n, row) ∈ s.follows.added ↔
    ∃ f, s.flights n = some f ∧ f.InsertsFollow row
  addsBlock : ∀ n row, (n, row) ∈ s.blocks.added ↔
    ∃ f, s.flights n = some f ∧ f.InsertsBlock row
  dropsFollow : ∀ n row, (n, row) ∈ s.follows.removed →
    ∃ f, s.flights n = some f ∧ f.DeletesFollows
  dropsBlock : ∀ n row, (n, row) ∈ s.blocks.removed →
    ∃ f, s.flights n = some f ∧ f.DeletesBlocks

theorem start_sound {db : SocialDb} (h : db.Valid) : (start db).Sound where
  follows := ⟨by simpa [start] using h.follows, by simp [start], by simp [start], by simp [start]⟩
  blocks := ⟨by simpa [start] using h.blocks, by simp [start], by simp [start], by simp [start]⟩
  followsOthers := h.followsOthers
  blocksOthers := h.blocksOthers
  others := by simp [start]
  addsFollow := by simp [start]
  addsBlock := by simp [start]
  dropsFollow := by simp [start]
  dropsBlock := by simp [start]

theorem put_flights_of_ne {f : SocialFlight} {follows : SharedRows Follow Follow}
    {blocks : SharedRows UserBlock UserBlock} {m : ℕ} (h : m ≠ n) :
    (s.put n f follows blocks).flights m = s.flights m :=
  Function.update_of_ne h _ _

@[simp] theorem put_flights_self {f : SocialFlight} {follows : SharedRows Follow Follow}
    {blocks : SharedRows UserBlock UserBlock} :
    (s.put n f follows blocks).flights n = some f :=
  Function.update_self _ _ _

@[simp] theorem put_follows {f : SocialFlight} {follows : SharedRows Follow Follow}
    {blocks : SharedRows UserBlock UserBlock} : (s.put n f follows blocks).follows = follows := rfl

@[simp] theorem put_blocks {f : SocialFlight} {follows : SharedRows Follow Follow}
    {blocks : SharedRows UserBlock UserBlock} : (s.put n f follows blocks).blocks = blocks := rfl

namespace Sound

/-- One request goes on: its own part is to be shown, that of the others is kept. -/
theorem put (h : s.Sound) {f : SocialFlight} {follows : SharedRows Follow Follow}
    {blocks : SharedRows UserBlock UserBlock} (hfollows : follows.Sound id)
    (hblocks : blocks.Sound id) (hkeepsF : SharedRows.Keeps n s.follows follows)
    (hkeepsB : SharedRows.Keeps n s.blocks blocks)
    (hfollowsOthers : ∀ row ∈ follows.rows, row.followerId ≠ row.followingId)
    (hblocksOthers : ∀ row ∈ blocks.rows, row.blockerId ≠ row.blockedId)
    (hothers : f.Underway → f.targetId ≠ f.userId)
    (haddsF : ∀ row, (n, row) ∈ follows.added ↔ f.InsertsFollow row)
    (haddsB : ∀ row, (n, row) ∈ blocks.added ↔ f.InsertsBlock row)
    (hdropsF : ∀ row, (n, row) ∈ follows.removed → f.DeletesFollows)
    (hdropsB : ∀ row, (n, row) ∈ blocks.removed → f.DeletesBlocks) :
    (s.put n f follows blocks).Sound := by
  refine ⟨hfollows, hblocks, hfollowsOthers, hblocksOthers, ?_, ?_, ?_, ?_, ?_⟩
  · intro m g hg
    by_cases hm : m = n
    · subst hm
      rw [put_flights_self] at hg
      cases hg
      exact hothers
    · rw [put_flights_of_ne hm] at hg
      exact h.others m g hg
  · intro m row
    by_cases hm : m = n
    · subst hm
      simp only [put_flights_self, Option.some.injEq, exists_eq_left']
      exact haddsF row
    · rw [put_flights_of_ne hm]
      exact (hkeepsF.added _ hm).trans (h.addsFollow m row)
  · intro m row
    by_cases hm : m = n
    · subst hm
      simp only [put_flights_self, Option.some.injEq, exists_eq_left']
      exact haddsB row
    · rw [put_flights_of_ne hm]
      exact (hkeepsB.added _ hm).trans (h.addsBlock m row)
  · intro m row hmem
    by_cases hm : m = n
    · subst hm
      exact ⟨f, put_flights_self, hdropsF row hmem⟩
    · rw [put_flights_of_ne hm]
      exact h.dropsFollow m row (hkeepsF.removed _ hm hmem)
  · intro m row hmem
    by_cases hm : m = n
    · subst hm
      exact ⟨f, put_flights_self, hdropsB row hmem⟩
    · rw [put_flights_of_ne hm]
      exact h.dropsBlock m row (hkeepsB.removed _ hm hmem)

theorem own_follow (h : s.Sound) {f : SocialFlight} (hf : s.flights n = some f) (row : Follow) :
    (n, row) ∈ s.follows.added ↔ f.InsertsFollow row := by
  rw [h.addsFollow, hf]
  simp

theorem own_block (h : s.Sound) {f : SocialFlight} (hf : s.flights n = some f) (row : UserBlock) :
    (n, row) ∈ s.blocks.added ↔ f.InsertsBlock row := by
  rw [h.addsBlock, hf]
  simp

theorem own_unfollow (h : s.Sound) {f : SocialFlight} (hf : s.flights n = some f) {row : Follow}
    (hmem : (n, row) ∈ s.follows.removed) : f.DeletesFollows := by
  obtain ⟨g, hg, hdeletes⟩ := h.dropsFollow n row hmem
  rw [hf] at hg
  cases hg
  exact hdeletes

theorem own_unblock (h : s.Sound) {f : SocialFlight} (hf : s.flights n = some f) {row : UserBlock}
    (hmem : (n, row) ∈ s.blocks.removed) : f.DeletesBlocks := by
  obtain ⟨g, hg, hdeletes⟩ := h.dropsBlock n row hmem
  rw [hf] at hg
  cases hg
  exact hdeletes

/-- Before it writes, a request has nothing open in the tables. -/
theorem nothing_open (h : s.Sound) (hreads : ∀ f, s.flights n = some f → ¬ f.Writes) :
    (∀ row, (n, row) ∉ s.follows.added) ∧ (∀ row, (n, row) ∉ s.blocks.added) ∧
      (∀ row, (n, row) ∉ s.follows.removed) ∧ ∀ row, (n, row) ∉ s.blocks.removed := by
  refine ⟨fun row hmem => ?_, fun row hmem => ?_, fun row hmem => ?_, fun row hmem => ?_⟩
  · obtain ⟨f, hf, -, hphase, -⟩ := (h.addsFollow n row).mp hmem
    exact hreads f hf (.inl hphase)
  · obtain ⟨f, hf, hrequest, hphase, -⟩ := (h.addsBlock n row).mp hmem
    exact hreads f hf (hphase.elim (fun hphase => .inr ⟨hrequest, hphase⟩) .inl)
  · obtain ⟨f, hf, -, hphase⟩ := h.dropsFollow n row hmem
    exact hreads f hf (.inl hphase)
  · obtain ⟨f, hf, -, hphase⟩ := h.dropsBlock n row hmem
    exact hreads f hf (.inl hphase)

/-- A request that reads, and goes on reading or is answered. -/
theorem put_reading (h : s.Sound) (hreads : ∀ f, s.flights n = some f → ¬ f.Writes)
    {g : SocialFlight} (hg : ¬ g.Writes) (hothers : g.Underway → g.targetId ≠ g.userId) :
    (s.put n g s.follows s.blocks).Sound := by
  obtain ⟨hF, hB, hremovedF, hremovedB⟩ := h.nothing_open hreads
  refine h.put h.follows h.blocks (.refl n _) (.refl n _) h.followsOthers h.blocksOthers hothers
    (fun row => ?_) (fun row => ?_) (fun row hmem => absurd hmem (hremovedF row))
    (fun row hmem => absurd hmem (hremovedB row))
  · exact iff_of_false (hF row) fun hinserts => hg (.inl hinserts.2.1)
  · refine iff_of_false (hB row) fun hinserts => hg ?_
    exact hinserts.2.1.elim (fun hphase => .inr ⟨hinserts.1, hphase⟩) .inl

theorem commit_follows (h : s.Sound) {row : Follow} (hmem : row ∈ (s.follows.commit id n).rows) :
    row.followerId ≠ row.followingId := by
  rcases SharedRows.mem_commit.mp hmem with ⟨hrow, -⟩ | hadded
  · exact h.followsOthers row hrow
  · obtain ⟨f, hf, hrequest, hphase, rfl⟩ := (h.addsFollow n row).mp hadded
    exact (h.others n f hf ⟨.inl hrequest, .inr (.inr (.inr hphase))⟩).symm

theorem commit_blocks (h : s.Sound) {row : UserBlock}
    (hmem : row ∈ (s.blocks.commit id n).rows) : row.blockerId ≠ row.blockedId := by
  rcases SharedRows.mem_commit.mp hmem with ⟨hrow, -⟩ | hadded
  · exact h.blocksOthers row hrow
  · obtain ⟨f, hf, hrequest, hphase, rfl⟩ := (h.addsBlock n row).mp hadded
    exact (h.others n f hf ⟨.inr hrequest, .inr (.inr hphase)⟩).symm

theorem change (h : s.Sound) {f : SocialFlight} {follows : SharedRows Follow Follow}
    {blocks : SharedRows UserBlock UserBlock} (hchange : Change s n f follows blocks) :
    (s.put n f follows blocks).Sound := by
  cases hchange with
  | receives request userId targetId hnew =>
    refine h.put_reading (fun f hf => ?_) (by simp [SocialFlight.Writes])
      (by simp [SocialFlight.Underway])
    rw [hnew] at hf
    cases hf
  | answers f answer hf hphase =>
    refine h.put_reading (fun g hg => ?_) (by simp [SocialFlight.Writes])
      (by simp [SocialFlight.Underway])
    rw [hf] at hg
    cases hg
    rcases hphase with hphase | hphase <;> simp [SocialFlight.Writes, hphase]
  | passes f hf hphase hself hblock =>
    refine h.put_reading (fun g hg => ?_) (by simp [SocialFlight.Writes]) fun _ => hself
    rw [hf] at hg
    cases hg
    simp [SocialFlight.Writes, hphase]
  | misses f hf hrequest hphase =>
    refine h.put_reading (fun g hg => ?_) (by simp [SocialFlight.Writes]) fun _ =>
      h.others n f hf ⟨hrequest, .inl hphase⟩
    rw [hf] at hg
    cases hg
    simp [SocialFlight.Writes, hphase]
  | insertsFollow f follows hf hrequest hphase hdone =>
    obtain ⟨hF, hB, hremovedF, hremovedB⟩ := h.nothing_open (n := n) fun g hg => by
      rw [hf] at hg
      cases hg
      simp [SocialFlight.Writes, hphase]
    have hself := h.others n f hf ⟨.inl hrequest, .inr (.inl hphase)⟩
    obtain ⟨-, -, rfl⟩ := SharedRows.insert_done hdone
    refine h.put (h.follows.insert hdone) h.blocks (SharedRows.insert_keeps hdone) (.refl n _)
      h.followsOthers h.blocksOthers (fun _ => hself) (fun row => ?_) (fun row => ?_)
      (fun row hmem => absurd hmem (hremovedF row)) (fun row hmem => absurd hmem (hremovedB row))
    · simp [SocialFlight.InsertsFollow, hrequest, hF row]
    · exact iff_of_false (hB row) fun hinserts =>
        absurd (hrequest.symm.trans hinserts.1) (by decide)
  | insertsBlock f blocks hf hrequest hphase hdone =>
    obtain ⟨hF, hB, hremovedF, hremovedB⟩ := h.nothing_open (n := n) fun g hg => by
      rw [hf] at hg
      cases hg
      simp [SocialFlight.Writes, hphase]
    have hself := h.others n f hf ⟨.inr hrequest, .inr (.inl hphase)⟩
    obtain ⟨-, -, rfl⟩ := SharedRows.insert_done hdone
    refine h.put h.follows (h.blocks.insert hdone) (.refl n _) (SharedRows.insert_keeps hdone)
      h.followsOthers h.blocksOthers (fun _ => hself) (fun row => ?_) (fun row => ?_)
      (fun row hmem => absurd hmem (hremovedF row)) (fun row hmem => absurd hmem (hremovedB row))
    · exact iff_of_false (hF row) fun hinserts => by cases hinserts.2.1
    · simp [SocialFlight.InsertsBlock, hrequest, hB row]
  | deletesFollow f hf hrequest hphase =>
    obtain ⟨hF, hB, -, hremovedB⟩ := h.nothing_open (n := n) fun g hg => by
      rw [hf] at hg
      cases hg
      simp [SocialFlight.Writes, hphase]
    refine h.put (h.follows.delete n _) h.blocks (SharedRows.delete_keeps _ n _) (.refl n _)
      h.followsOthers h.blocksOthers (fun hunderway => ?_) (fun row => ?_) (fun row => ?_)
      (fun _ _ => ⟨.inl hrequest, rfl⟩) (fun row hmem => absurd hmem (hremovedB row))
    · simp [SocialFlight.Underway, hrequest] at hunderway
    · exact iff_of_false (fun hmem => hF row (List.mem_filter.mp hmem).1)
        fun hinserts => absurd (hrequest.symm.trans hinserts.1) (by decide)
    · exact iff_of_false (hB row) fun hinserts =>
        absurd (hrequest.symm.trans hinserts.1) (by decide)
  | deletesBetween f hf hrequest hphase =>
    have hself := h.others n f hf ⟨.inr hrequest, .inr (.inr (.inl hphase))⟩
    refine h.put (h.follows.delete n _) h.blocks (SharedRows.delete_keeps _ n _) (.refl n _)
      h.followsOthers h.blocksOthers (fun _ => hself) (fun row => ?_) (fun row => ?_)
      (fun _ _ => ⟨.inr hrequest, rfl⟩) (fun row hmem => ?_)
    · refine iff_of_false (fun hmem => ?_) fun hinserts =>
        absurd (hrequest.symm.trans hinserts.1) (by decide)
      have hinserts := (h.own_follow hf row).mp (List.mem_filter.mp hmem).1
      simp [SocialFlight.InsertsFollow, hrequest] at hinserts
    · rw [h.own_block hf]
      simp [SocialFlight.InsertsBlock, hphase]
    · have hdeletes := h.own_unblock hf hmem
      simp [SocialFlight.DeletesBlocks, hrequest] at hdeletes
  | deletesBlock f hf hrequest hphase =>
    obtain ⟨hF, hB, hremovedF, -⟩ := h.nothing_open (n := n) fun g hg => by
      rw [hf] at hg
      cases hg
      simp [SocialFlight.Writes, hphase]
    refine h.put h.follows (h.blocks.delete n _) (.refl n _) (SharedRows.delete_keeps _ n _)
      h.followsOthers h.blocksOthers (fun hunderway => ?_) (fun row => ?_) (fun row => ?_)
      (fun row hmem => absurd hmem (hremovedF row)) (fun _ _ => ⟨hrequest, rfl⟩)
    · simp [SocialFlight.Underway, hrequest] at hunderway
    · exact iff_of_false (hF row) fun hinserts =>
        absurd (hrequest.symm.trans hinserts.1) (by decide)
    · exact iff_of_false (fun hmem => hB row (List.mem_filter.mp hmem).1)
        fun hinserts => absurd (hrequest.symm.trans hinserts.1) (by decide)
  | commits f hf hphase hheld =>
    obtain ⟨hF, hremovedF⟩ := SharedRows.commit_own id s.follows n
    obtain ⟨hB, hremovedB⟩ := SharedRows.commit_own id s.blocks n
    refine h.put (h.follows.commit n) (h.blocks.commit n) (SharedRows.commit_keeps _ n)
      (SharedRows.commit_keeps _ n) (fun row => h.commit_follows) (fun row => h.commit_blocks)
      (by simp [SocialFlight.Underway])
      (fun row => iff_of_false (hF row) (by simp [SocialFlight.InsertsFollow]))
      (fun row => iff_of_false (hB row) (by simp [SocialFlight.InsertsBlock]))
      (fun row hmem => absurd hmem (hremovedF row)) (fun row hmem => absurd hmem (hremovedB row))
  | givesUp f e hf =>
    obtain ⟨hF, hremovedF⟩ := SharedRows.rollback_own s.follows n
    obtain ⟨hB, hremovedB⟩ := SharedRows.rollback_own s.blocks n
    refine h.put (h.follows.rollback n) (h.blocks.rollback n) (SharedRows.rollback_keeps _ n)
      (SharedRows.rollback_keeps _ n) h.followsOthers h.blocksOthers
      (by simp [SocialFlight.Underway])
      (fun row => iff_of_false (hF row) (by simp [SocialFlight.InsertsFollow]))
      (fun row => iff_of_false (hB row) (by simp [SocialFlight.InsertsBlock]))
      (fun row hmem => absurd hmem (hremovedF row)) (fun row hmem => absurd hmem (hremovedB row))

theorem step (h : s.Sound) (a : SocialAction) : (s.step a).Sound := by
  rcases step_changes s a with hsame | ⟨f, follows, blocks, hchange, hput⟩
  · rw [hsame]
    exact h
  · rw [hput]
    exact h.change hchange

theorem db_valid (h : s.Sound) : s.db.Valid :=
  ⟨by simpa [db] using h.follows.rows, by simpa [db] using h.blocks.rows, h.followsOthers,
    h.blocksOthers⟩

end Sound

/-- However the requests of the fans interleave, and whichever of them fail, nobody follows or
blocks the same fan twice, or follows or blocks oneself. -/
theorem db_valid_throughout {db : SocialDb} (h : db.Valid) (acts : List SocialAction) :
    Throughout step (fun s => s.db.Valid) (start db) acts :=
  (throughout_of_step (start_sound h) fun _ a hs => hs.step a).imp fun _ => Sound.db_valid

/-- A follow is under way while a block of the two has taken back their follows and is not yet
committed. -/
def Crossing (s : SocialSystem) : Prop :=
  ∃ m n f g, s.flights m = some f ∧ s.flights n = some g ∧ f.Crosses g

/-- No follow that is there or under way crosses a block, and a block that is about to commit takes
back all that is there. -/
structure Apart (s : SocialSystem) : Prop where
  safe : s.db.NoFollowAcrossBlock
  unblocked : ∀ n f, s.flights n = some f → f.request = .follow → f.Underway →
    isBlocked s.blocks.rows f.userId f.targetId = false
  taken : ∀ n f, s.flights n = some f → f.request = .block → f.phase = .written →
    ∀ row ∈ s.follows.rows, row.between f.userId f.targetId = true →
      (n, row) ∈ s.follows.removed

theorem start_apart {db : SocialDb} (h : db.NoFollowAcrossBlock) : (start db).Apart :=
  ⟨h, by simp [start], by simp [start]⟩

namespace Apart

/-- A statement that commits nothing. -/
theorem put (h : s.Apart) {g : SocialFlight} {follows : SharedRows Follow Follow}
    {blocks : SharedRows UserBlock UserBlock} (hfollows : follows.rows = s.follows.rows)
    (hblocks : blocks.rows = s.blocks.rows)
    (hkept : ∀ m row, m ≠ n → (m, row) ∈ s.follows.removed → (m, row) ∈ follows.removed)
    (hfollow : g.request = .follow → g.Underway →
      isBlocked s.blocks.rows g.userId g.targetId = false)
    (hblock : g.request = .block → g.phase = .written → ∀ row ∈ s.follows.rows,
      row.between g.userId g.targetId = true → (n, row) ∈ follows.removed) :
    (s.put n g follows blocks).Apart := by
  refine ⟨?_, ?_, ?_⟩
  · intro row hrow
    simp only [SocialSystem.put, db, hfollows, hblocks] at hrow ⊢
    exact h.safe row hrow
  · intro m f hf hrequest hunderway
    simp only [SocialSystem.put, hblocks]
    by_cases hm : m = n
    · subst hm
      rw [put_flights_self] at hf
      cases hf
      exact hfollow hrequest hunderway
    · rw [put_flights_of_ne hm] at hf
      exact h.unblocked m f hf hrequest hunderway
  · intro m f hf hrequest hphase row hrow hbetween
    simp only [SocialSystem.put, hfollows] at hrow ⊢
    by_cases hm : m = n
    · subst hm
      rw [put_flights_self] at hf
      cases hf
      exact hblock hrequest hphase row hrow hbetween
    · rw [put_flights_of_ne hm] at hf
      exact hkept m row hm (h.taken m f hf hrequest hphase row hrow hbetween)

/-- A commit of a follow or a block that crosses nothing. -/
theorem commit (h : s.Apart) (hs : s.Sound) (hcross : ¬ s.Crossing) {f : SocialFlight}
    (hf : s.flights n = some f) (hphase : f.phase = .written) :
    (s.put n { f with phase := .answered (.ok ()) } (s.follows.commit id n)
      (s.blocks.commit id n)).Apart := by
  -- A block that is committed is an old one, or that of this request.
  have hisBlocked : ∀ firstId secondId, isBlocked s.blocks.rows firstId secondId = false →
      (f.request = .block → Follow.between f.userId f.targetId ⟨firstId, secondId⟩ = false) →
      isBlocked (s.blocks.commit id n).rows firstId secondId = false := by
    intro firstId secondId hold hnew
    by_contra hblocked
    rw [Bool.not_eq_false, isBlocked_iff] at hblocked
    have hboth : ∀ row : UserBlock, row ∈ (s.blocks.commit id n).rows →
        row = ⟨firstId, secondId⟩ ∨ row = ⟨secondId, firstId⟩ → False := by
      intro row hmem hrow
      rcases SharedRows.mem_commit.mp hmem with ⟨hmem, -⟩ | hadded
      · have hall : isBlocked s.blocks.rows firstId secondId = true := by
          rw [isBlocked_iff]
          rcases hrow with rfl | rfl
          · exact .inl hmem
          · exact .inr hmem
        rw [hold] at hall
        cases hall
      · obtain ⟨hrequest, -, hpair⟩ := (hs.own_block hf row).mp hadded
        have hbetween := hnew hrequest
        rw [hpair] at hrow
        rcases hrow with hrow | hrow
        · obtain ⟨huser, htarget⟩ := UserBlock.mk.inj hrow
          simp [Follow.between, huser, htarget] at hbetween
        · obtain ⟨huser, htarget⟩ := UserBlock.mk.inj hrow
          simp [Follow.between, huser, htarget] at hbetween
    exact hblocked.elim (fun hmem => hboth _ hmem (.inl rfl)) fun hmem => hboth _ hmem (.inr rfl)
  refine ⟨?_, ?_, ?_⟩
  · intro row hrow
    simp only [SocialSystem.put, db] at hrow ⊢
    rcases SharedRows.mem_commit.mp hrow with ⟨hrow, hstays⟩ | hadded
    · refine hisBlocked _ _ (h.safe row hrow) fun hrequest => ?_
      by_contra hbetween
      rw [Bool.not_eq_false] at hbetween
      exact hstays (h.taken n f hf hrequest hphase row hrow hbetween)
    · obtain ⟨hrequest, -, rfl⟩ := (hs.own_follow hf row).mp hadded
      refine hisBlocked _ _ (h.unblocked n f hf hrequest
        ⟨.inl hrequest, .inr (.inr (.inr hphase))⟩) fun hblock => ?_
      rw [hrequest] at hblock
      cases hblock
  · intro m g hg hrequest hunderway
    by_cases hm : m = n
    · subst hm
      rw [put_flights_self] at hg
      cases hg
      simp [SocialFlight.Underway] at hunderway
    · rw [put_flights_of_ne hm] at hg
      refine hisBlocked _ _ (h.unblocked m g hg hrequest hunderway) fun hblock => ?_
      by_contra hbetween
      rw [Bool.not_eq_false] at hbetween
      exact hcross ⟨m, n, g, f, hg, hf, hrequest, hunderway, hblock, hphase, hbetween⟩
  · intro m g hg hrequest hwritten row hrow hbetween
    by_cases hm : m = n
    · subst hm
      rw [put_flights_self] at hg
      cases hg
      cases hwritten
    · rw [put_flights_of_ne hm] at hg
      simp only [SocialSystem.put] at hrow ⊢
      rcases SharedRows.mem_commit.mp hrow with ⟨hrow, hstays⟩ | hadded
      · exact List.mem_filter.mpr
          ⟨h.taken m g hg hrequest hwritten row hrow hbetween, by simpa using hstays⟩
      · obtain ⟨hfollow, -, rfl⟩ := (hs.own_follow hf row).mp hadded
        exact absurd ⟨n, m, f, g, hf, hg, hfollow, ⟨.inl hfollow, .inr (.inr (.inr hphase))⟩,
          hrequest, hwritten, hbetween⟩ hcross

theorem change (h : s.Apart) (hs : s.Sound) (hcross : ¬ s.Crossing) {f : SocialFlight}
    {follows : SharedRows Follow Follow} {blocks : SharedRows UserBlock UserBlock}
    (hchange : Change s n f follows blocks) : (s.put n f follows blocks).Apart := by
  cases hchange with
  | receives request userId targetId hnew =>
    exact h.put rfl rfl (fun _ _ _ => id) (by simp [SocialFlight.Underway]) (by simp)
  | answers f answer hf hphase =>
    exact h.put rfl rfl (fun _ _ _ => id) (by simp [SocialFlight.Underway]) (by simp)
  | passes f hf hphase hself hblock =>
    exact h.put rfl rfl (fun _ _ _ => id) (fun hrequest _ => hblock hrequest) (by simp)
  | misses f hf hrequest hphase =>
    exact h.put rfl rfl (fun _ _ _ => id)
      (fun hfollow _ => h.unblocked n f hf hfollow ⟨hrequest, .inl hphase⟩) (by simp)
  | insertsFollow f follows hf hrequest hphase hdone =>
    obtain ⟨-, -, rfl⟩ := SharedRows.insert_done hdone
    refine h.put rfl rfl (fun _ _ _ => id)
      (fun hfollow _ => h.unblocked n f hf hfollow ⟨.inl hrequest, .inr (.inl hphase)⟩) ?_
    intro hblock
    exact absurd (hrequest.symm.trans hblock) (by decide)
  | insertsBlock f blocks hf hrequest hphase hdone =>
    obtain ⟨-, -, rfl⟩ := SharedRows.insert_done hdone
    refine h.put rfl rfl (fun _ _ _ => id) ?_ (by simp)
    intro hfollow
    exact absurd (hrequest.symm.trans hfollow) (by decide)
  | deletesFollow f hf hrequest hphase =>
    refine h.put rfl rfl (fun _ _ _ => List.mem_append_left _) ?_ ?_
    · intro hfollow
      exact absurd (hrequest.symm.trans hfollow) (by decide)
    · intro hblock
      exact absurd (hrequest.symm.trans hblock) (by decide)
  | deletesBetween f hf hrequest hphase =>
    refine h.put rfl rfl (fun _ _ _ => List.mem_append_left _) ?_ ?_
    · intro hfollow
      exact absurd (hrequest.symm.trans hfollow) (by decide)
    · intro _ _ row hrow hbetween
      exact List.mem_append_right _ (List.mem_map_of_mem (List.mem_filter.mpr ⟨hrow, hbetween⟩))
  | deletesBlock f hf hrequest hphase =>
    refine h.put rfl rfl (fun _ _ _ => id) ?_ ?_
    · intro hfollow
      exact absurd (hrequest.symm.trans hfollow) (by decide)
    · intro hblock
      exact absurd (hrequest.symm.trans hblock) (by decide)
  | commits f hf hphase hheld => exact h.commit hs hcross hf hphase
  | givesUp f e hf =>
    refine h.put rfl rfl (fun m row hm hmem => ?_) (by simp [SocialFlight.Underway]) (by simp)
    exact List.mem_filter.mpr ⟨hmem, by simpa using hm⟩

theorem step (h : s.Apart) (hs : s.Sound) (hcross : ¬ s.Crossing) (a : SocialAction) :
    (s.step a).Apart := by
  rcases step_changes s a with hsame | ⟨f, follows, blocks, hchange, hput⟩
  · rw [hsame]
    exact h
  · rw [hput]
    exact h.change hs hcross hchange

end Apart

/-- As long as no follow of two fans is under way while a block of the two is about to commit,
nobody follows across a block. -/
theorem noFollowAcrossBlock_throughout {db : SocialDb} (h : db.Valid)
    (hsafe : db.NoFollowAcrossBlock) {acts : List SocialAction}
    (hcross : Throughout step (fun s => ¬ s.Crossing) (start db) acts) :
    Throughout step (fun s => s.db.NoFollowAcrossBlock) (start db) acts := by
  have halways : Always step (fun s _ => ¬ s.Crossing) (start db) acts := by
    rw [always_iff_split]
    rintro pre a post rfl
    exact throughout_iff_reached.mp hcross pre (List.prefix_append pre _)
  exact (halways.throughout (I := fun s => s.Sound ∧ s.Apart)
    ⟨start_sound h, start_apart hsafe⟩ fun s a hs hcross =>
      ⟨hs.1.step a, hs.2.step hs.1 hcross a⟩).imp fun s hs => hs.2.safe

theorem step_commit {f : SocialFlight} (hf : s.flights n = some f) (hphase : f.phase = .written)
    (hfollows : s.follows.held n = false) (hblocks : s.blocks.held n = false) :
    s.step (.advance n) = s.put n { f with phase := .answered (.ok ()) }
      (s.follows.commit id n) (s.blocks.commit id n) := by
  have hcommit : s.commit n f = s.put n { f with phase := .answered (.ok ()) }
      (s.follows.commit id n) (s.blocks.commit id n) := by
    rw [commit, hfollows, hblocks]
    rfl
  simp only [step, advance, hf]
  split <;>
    simp only [advanceFollow, advanceUnfollow, advanceBlock, advanceUnblock, hphase, hcommit]

section

variable {m : ℕ} {f g : SocialFlight}

namespace Sound

variable (h : s.Sound)

include h

/-- A follow waits for nobody. -/
theorem follow_free (hf : s.flights m = some f) (hfollow : f.request = .follow) :
    (∀ row, (m, row) ∉ s.follows.removed) ∧ ∀ row, (m, row) ∉ s.blocks.removed := by
  refine ⟨fun row hmem => ?_, fun row hmem => ?_⟩
  · have hdeletes := h.own_unfollow hf hmem
    simp [SocialFlight.DeletesFollows, hfollow] at hdeletes
  · have hdeletes := h.own_unblock hf hmem
    simp [SocialFlight.DeletesBlocks, hfollow] at hdeletes

/-- A block waits for nobody who unblocks. -/
theorem block_free (hg : s.flights n = some g) (hblock : g.request = .block) (row : UserBlock) :
    (n, row) ∉ s.blocks.removed := by
  intro hmem
  have hdeletes := h.own_unblock hg hmem
  simp [SocialFlight.DeletesBlocks, hblock] at hdeletes

/-- A follow that is not yet committed is not taken back. -/
theorem follow_untaken (hf : s.flights m = some f) (hfollow : f.request = .follow)
    (hwritten : f.phase = .written) (n : ℕ) : (n, ⟨f.userId, f.targetId⟩) ∉ s.follows.removed := by
  intro hmem
  have hadded := (h.own_follow hf ⟨f.userId, f.targetId⟩).mpr ⟨hfollow, hwritten, rfl⟩
  have hthere := h.follows.removed (n, ⟨f.userId, f.targetId⟩) hmem
  exact (h.follow_free hf hfollow).1 _ (h.follows.beside _ hadded hthere)

end Sound

/-- Once both have committed, the follow is there across the block, and blocking once more does not
take it back. -/
theorem crossed {s' : SocialSystem} (hf : ⟨f.userId, f.targetId⟩ ∈ s'.db.follows)
    (hg : ⟨g.userId, g.targetId⟩ ∈ s'.db.blocks)
    (hbetween : Follow.between g.userId g.targetId ⟨f.userId, f.targetId⟩ = true) :
    ⟨f.userId, f.targetId⟩ ∈ s'.db.follows ∧ isBlocked s'.db.blocks f.userId f.targetId = true ∧
      ∀ db', s'.db.blockFan g.userId g.targetId = .ok db' → db' = s'.db := by
  refine ⟨hf, ?_, ?_⟩
  · rw [isBlocked_iff]
    simp only [Follow.between, Bool.or_eq_true, Bool.and_eq_true, beq_iff_eq] at hbetween
    rcases hbetween with ⟨huser, htarget⟩ | ⟨huser, htarget⟩
    · exact .inl (huser ▸ htarget ▸ hg)
    · exact .inr (huser ▸ htarget ▸ hg)
  · intro db' hok
    simp only [SocialDb.blockFan, bind_ok, if_pos hg, pure_ok] at hok
    obtain ⟨_, -, rfl⟩ := hok
    rfl

end

/-- A step is one of the request it names. -/
theorem step_flights (s : SocialSystem) {a : SocialAction} {k : ℕ} (h : a.request ≠ k) :
    (s.step a).flights k = s.flights k := by
  rcases step_changes s a with hsame | ⟨f, follows, blocks, -, hput⟩
  · rw [hsame]
  · rw [hput, put_flights_of_ne h.symm]

theorem flights_of_unnamed {db : SocialDb} {acts : List SocialAction} {k : ℕ}
    (h : ∀ a ∈ acts, a.request ≠ k) : (run step (start db) acts).flights k = none := by
  have hnone : ∀ s : SocialSystem, s.flights k = none → (run step s acts).flights k = none := by
    induction acts with
    | nil => exact fun s hs => hs
    | cons a acts ih =>
      rw [List.forall_mem_cons] at h
      intro s hs
      exact ih h.2 _ ((step_flights s h.1).trans hs)
  exact hnone _ rfl

/-- Two fans; the second one will follow the first, who blocks. -/
def twoFans : SocialDb := { users := [{ id := "mina" }, { id := "jun" }] }

theorem twoFans_valid : twoFans.Valid := ⟨by decide, by decide, by decide, by decide⟩

/-- The follow finds no block, and the block no follow. -/
def crossingActs : List SocialAction :=
  [.receive 0 .follow "jun" "mina", .advance 0, .advance 0, .receive 1 .block "mina" "jun",
    .advance 1, .advance 1, .advance 1, .advance 1, .advance 0]

theorem db_valid_crossingActs :
    Throughout step (fun s => s.db.Valid) (start twoFans) crossingActs :=
  db_valid_throughout twoFans_valid crossingActs

/-- A follow, and after it a block, which takes it back. -/
def followThenBlock : List SocialAction :=
  [.receive 0 .follow "jun" "mina", .advance 0, .advance 0, .advance 0, .advance 0,
    .receive 1 .block "mina" "jun", .advance 1, .advance 1, .advance 1, .advance 1, .advance 1]

theorem followThenBlock_throughout :
    Throughout step (fun s => s.db.NoFollowAcrossBlock) (start twoFans) followThenBlock := by
  have hcross : Throughout step (fun s => ¬ s.Crossing) (start twoFans) followThenBlock := by
    have hpairs : ∀ pre ∈ followThenBlock.inits, ∀ m < 2, ∀ n < 2,
        ∀ f ∈ (run step (start twoFans) pre).flights m,
        ∀ g ∈ (run step (start twoFans) pre).flights n, ¬ f.Crosses g := by decide
    rw [throughout_iff_reached]
    rintro pre hpre ⟨m, n, f, g, hf, hg, hcrosses⟩
    have hbound : ∀ k, 2 ≤ k → (run step (start twoFans) pre).flights k = none := by
      intro k hk
      refine flights_of_unnamed fun a ha hname => ?_
      have hnames : ∀ a ∈ followThenBlock, a.request < 2 := by decide
      have hlt := hnames a (hpre.subset ha)
      omega
    have hlt (k : ℕ) {f : SocialFlight} (hf : (run step (start twoFans) pre).flights k = some f) :
        k < 2 := by
      by_contra hk
      rw [hbound k (by omega)] at hf
      cases hf
    exact hpairs pre ((List.mem_inits _ _).mpr hpre) m (hlt m hf) n (hlt n hg) f hf g hg hcrosses
  exact noFollowAcrossBlock_throughout twoFans_valid (by decide) hcross

/-- No transaction is open. -/
def idle (db : SocialDb) (flights : ℕ → Option SocialFlight) : SocialSystem :=
  ⟨db.users, .quiet db.follows, .quiet db.blocks, flights⟩

section

variable {f : SocialFlight} {follows : SharedRows Follow Follow}
  {blocks : SharedRows UserBlock UserBlock}

theorem put_goOn (phase : SocialPhase) : (s.put n f follows blocks).goOn n f phase =
    s.put n { f with phase := phase } follows blocks := by
  simp only [goOn, put, Function.update_idem]

theorem put_commit (hfollows : follows.held n = false) (hblocks : blocks.held n = false) :
    (s.put n f follows blocks).commit n f = s.put n { f with phase := .answered (.ok ()) }
      (follows.commit id n) (blocks.commit id n) := by
  simp only [commit, put, goOn, hfollows, hblocks, Bool.or_self, Bool.false_eq_true, if_false,
    Function.update_idem]

theorem put_tables (f : SocialFlight) (follows follows' : SharedRows Follow Follow)
    (blocks blocks' : SharedRows UserBlock UserBlock) :
    (⟨(s.put n f follows blocks).users, follows', blocks', (s.put n f follows blocks).flights⟩ :
      SocialSystem) = s.put n f follows' blocks' := rfl

theorem put_advance : (s.put n f follows blocks).step (.advance n) =
    match f.request with
    | .follow => (s.put n f follows blocks).advanceFollow n f
    | .unfollow => (s.put n f follows blocks).advanceUnfollow n f
    | .block => (s.put n f follows blocks).advanceBlock n f
    | .unblock => (s.put n f follows blocks).advanceUnblock n f := by
  simp only [step, advance, put_flights_self]

end

variable {db : SocialDb} {flights : ℕ → Option SocialFlight}

/-- A request whose statements run with no others in between does what it does as one function. -/
theorem run_alone (hdb : db.Valid) (hnew : flights n = none) (request : SocialRequest)
    (userId targetId : UserId) :
    run step (idle db flights)
        (.receive n request userId targetId :: List.replicate 5 (.advance n)) =
      match request.serve db userId targetId with
      | .ok db' => idle db' (Function.update flights n
          (some ⟨request, userId, targetId, .answered (.ok ())⟩))
      | .error e => idle db (Function.update flights n
          (some ⟨request, userId, targetId, .answered (.error e)⟩)) := by
  have hreceive : (idle db flights).step (.receive n request userId targetId) =
      (idle db flights).put n ⟨request, userId, targetId, .opened⟩ (.quiet db.follows)
        (.quiet db.blocks) := by
    simp only [step, idle, hnew, put]
  have hdb' (f : SocialFlight) :
      ((idle db flights).put n f (.quiet db.follows) (.quiet db.blocks)).db = db := rfl
  have hfollows : (SharedRows.quiet db.follows : SharedRows Follow Follow).held n = false :=
    SharedRows.held_quiet n db.follows
  have hblocks : (SharedRows.quiet db.blocks : SharedRows UserBlock UserBlock).held n = false :=
    SharedRows.held_quiet n db.blocks
  have hfollows' := SharedRows.commit_quiet id n db.follows
  have hblocks' := SharedRows.commit_quiet id n db.blocks
  have hunique : (db.follows.map id).Nodup := by simpa using hdb.follows
  have hunique' : (db.blocks.map id).Nodup := by simpa using hdb.blocks
  rw [run_cons, hreceive]
  cases request with
  | follow =>
    simp only [SocialRequest.serve, SocialDb.followFan]
    cases hcheck : db.checkFollow userId targetId with
    | error e =>
      simp [run, put_advance, put_goOn, advanceFollow, hdb', hcheck, bind, Except.bind]
      rfl
    | ok _ =>
      by_cases hmem : ⟨userId, targetId⟩ ∈ db.follows
      · simp [run, put_advance, put_goOn, advanceFollow, hdb', hcheck, hmem]
        rfl
      · have hnone : id (⟨userId, targetId⟩ : Follow) ∉ db.follows.map id := by simpa using hmem
        have hinsert := SharedRows.insert_quiet n hnone
        have hheld : (SharedRows.mk db.follows [(n, ⟨userId, targetId⟩)] [] :
            SharedRows Follow Follow).held n = false := SharedRows.held_inserted n _ _
        simp [run, put_advance, put_goOn, advanceFollow, hdb', hcheck, hmem, hinsert, put_tables,
          put_commit, hheld, hblocks, hblocks', SharedRows.commit_insert_quiet]
        rfl
  | unfollow =>
    have hdelete := SharedRows.commit_delete_quiet n hunique (· = ⟨userId, targetId⟩)
    have hheld := SharedRows.held_delete_quiet id n db.follows (· = ⟨userId, targetId⟩)
    simp [run, put_advance, put_goOn, advanceUnfollow, SocialRequest.serve, SocialDb.unfollowFan,
      put_tables, put_commit, hheld, hblocks, hdelete, hblocks']
    rfl
  | block =>
    simp only [SocialRequest.serve, SocialDb.blockFan]
    cases hcheck : db.checkBlock userId targetId with
    | error e =>
      simp [run, put_advance, put_goOn, advanceBlock, hdb', hcheck, bind, Except.bind]
      rfl
    | ok _ =>
      by_cases hmem : ⟨userId, targetId⟩ ∈ db.blocks
      · simp [run, put_advance, put_goOn, advanceBlock, hdb', hcheck, hmem]
        rfl
      · have hnone : id (⟨userId, targetId⟩ : UserBlock) ∉ db.blocks.map id := by simpa using hmem
        have hinsert := SharedRows.insert_quiet n hnone
        have hheld : (SharedRows.mk db.blocks [(n, ⟨userId, targetId⟩)] [] :
            SharedRows UserBlock UserBlock).held n = false := SharedRows.held_inserted n _ _
        have hdelete := SharedRows.commit_delete_quiet n hunique (·.between userId targetId)
        have hheld' := SharedRows.held_delete_quiet id n db.follows (·.between userId targetId)
        simp [run, put_advance, put_goOn, advanceBlock, hdb', hcheck, hmem, hinsert, hdelete,
          put_tables, put_commit, hheld, hheld', SharedRows.commit_insert_quiet]
        rfl
  | unblock =>
    have hdelete := SharedRows.commit_delete_quiet n hunique' (· = ⟨userId, targetId⟩)
    have hheld := SharedRows.held_delete_quiet id n db.blocks (· = ⟨userId, targetId⟩)
    simp [run, put_advance, put_goOn, advanceUnblock, SocialRequest.serve, SocialDb.unblockFan,
      put_tables, put_commit, hheld, hfollows, hdelete, hfollows']
    rfl

end SocialSystem

end Fanfolio
