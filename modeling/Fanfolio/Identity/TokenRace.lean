import Fanfolio.Framework.RowLocks
import Fanfolio.Framework.Run
import Fanfolio.Identity.Logins

/-!
# Rotations that race with revocations

A rotation locks the row of the presented token. A revocation is one `UPDATE` of the family, which
works through the rows that were committed when it started, waits for their locks and reads each
row again: a token that is committed in the meantime is not among them.
-/

namespace Fanfolio

open Framework

/-- The committed tables, and the families in which a replay has been detected and committed. -/
structure TokenData where
  db : IdentityDb
  detected : List String := []
deriving DecidableEq, Repr

/-- What a request on the tokens is about. -/
inductive TokenPhase where
  | idle
  /-- A rotation has locked the row and passed its checks. -/
  | rotating (row : RefreshToken) (user : Account) (client : String)
  /-- A replay, or a logout, is about to revoke the family. -/
  | revokes (familyId : String) (replay : Bool)
  /-- The `UPDATE` has started: the rows still to come, and those that it has written. -/
  | updating (familyId : String) (replay : Bool) (pending written : List String)
deriving DecidableEq, Repr

/-- A step of a request. -/
inductive TokenAction where
  /-- A login issues the first token of a family. -/
  | login (user : Account) (client : String) (draws : TokenDraws) (now : Time)
  /-- `rotate_refresh_token` selects the row of the presented token for update. -/
  | present (worker : Nat) (rawToken client : String) (now : Time)
  /-- The rest of a rotation, up to its commit. -/
  | rotate (worker : Nat) (draws : TokenDraws) (now : Time)
  /-- `logout` reads the row of its token. -/
  | logout (worker : Nat) (rawToken client : String) (now : Time)
  | beginUpdate (worker : Nat)
  | updateRow (worker : Nat) (jti : String)
  | commitUpdate (worker : Nat) (now : Time)
  | abort (worker : Nat)

abbrev TokenRace := RowLocks Nat String TokenData TokenPhase

/-- The token is neither used nor revoked. -/
def RefreshToken.isOpen (row : RefreshToken) : Bool :=
  row.usedAt.isNone && row.revokedAt.isNone

/-- Unused, unrevoked, unexpired. -/
def RefreshToken.live (now : Time) (row : RefreshToken) : Bool :=
  row.isOpen && decide (now < row.expiresAt)

namespace TokenRace

variable (env : AuthEnv)

/-- All users are there, no token is, and nobody is at work. -/
def start (users : List Account) : TokenRace :=
  { committed := { db := { users := users } }, owner := fun _ => none, phase := fun _ => .idle }

/-- What the locking read of a presented token leads to, and the row that it locks. -/
def presented (db : IdentityDb) (rawToken client : String) (now : Time) :
    Except Failure (RefreshToken × TokenPhase) := do
  let claims ← decodeRefreshToken env rawToken client now
  let row ← presentedToken env db rawToken claims
  if row.consumed then pure (row, .revokes row.familyId true)
  else do
    let user ← rotatable db row claims client now
    pure (row, .rotating row user client)

/-- The row of the token that a logout carries. -/
def leaving (db : IdentityDb) (rawToken client : String) (now : Time) : Option RefreshToken := do
  let claims ← (decodeRefreshToken env rawToken client now).toOption
  db.findRefreshToken claims.jti

/-- What a rotation commits. -/
def rotation (db : IdentityDb) (row : RefreshToken) (user : Account) (client : String)
    (draws : TokenDraws) (now : Time) : Except Failure IdentityDb := do
  let (replacement, db) ← issueRefreshToken env db user client (some row.familyId) draws now
  pure { db with
    refreshTokens := patch (·.jti == row.jti) (·.rotated now replacement.jti) db.refreshTokens }

/-- The rows that an `UPDATE` of the family sees at its start. -/
def snapshot (db : IdentityDb) (familyId : String) : List String :=
  (db.refreshTokens.filter fun row => row.familyId == familyId && row.revokedAt.isNone).map (·.jti)

/-- What the `UPDATE` commits. -/
def revoked (data : TokenData) (familyId : String) (replay : Bool) (written : List String)
    (now : Time) : TokenData :=
  { db := { data.db with
      refreshTokens := patch (fun row => written.contains row.jti) (·.revoke now)
        data.db.refreshTokens }
    detected := if replay then familyId :: data.detected else data.detected }

/-- One step of a request; a step that waits for a lock leaves the state as it is. The family of a
login is drawn, and new. -/
def step (s : TokenRace) : TokenAction → TokenRace
  | .login user client draws now =>
    if draws.familyId ∈ s.committed.db.refreshTokens.map (·.familyId) then s
    else
      match issueTokenPair env s.committed.db user client draws now with
      | .error _ => s
      | .ok (_, db) => { s with committed := { s.committed with db := db } }
  | .present w rawToken client now =>
    match s.phase w, presented env s.committed.db rawToken client now with
    | .idle, .ok (row, phase) =>
      if s.owner row.jti = none then s.acquire w row.jti phase else s
    | _, _ => s
  | .rotate w draws now =>
    match s.phase w with
    | .rotating row user client =>
      match rotation env s.committed.db row user client draws now with
      | .error _ => s.release w s.committed .idle
      | .ok db => s.release w { s.committed with db := db } .idle
    | _ => s
  | .logout w rawToken client now =>
    match s.phase w, leaving env s.committed.db rawToken client now with
    | .idle, some row => s.move w (.revokes row.familyId false)
    | _, _ => s
  | .beginUpdate w =>
    match s.phase w with
    | .revokes familyId replay =>
      s.move w (.updating familyId replay (snapshot s.committed.db familyId) [])
    | _ => s
  | .updateRow w jti =>
    match s.phase w with
    | .updating familyId replay pending written =>
      if jti ∉ pending ∨ s.owner jti ∉ [none, some w] then s
      else if (s.committed.db.findRefreshToken jti).any (·.revokedAt.isNone) then
        s.acquire w jti (.updating familyId replay (pending.erase jti) (jti :: written))
      else s.move w (.updating familyId replay (pending.erase jti) written)
    | _ => s
  | .commitUpdate w now =>
    match s.phase w with
    | .updating familyId replay [] written =>
      s.release w (revoked s.committed familyId replay written now) .idle
    | _ => s
  | .abort w => s.release w s.committed .idle

/-- At most one token of each family is live, and none of a family with a detected replay. -/
def Safe (s : TokenRace) : Prop :=
  (∀ familyId now, (s.committed.db.refreshTokens.filter fun row =>
    row.familyId == familyId && row.live now).length ≤ 1) ∧
  ∀ familyId ∈ s.committed.detected, ∀ row ∈ s.committed.db.refreshTokens,
    row.familyId = familyId → ∀ now, row.live now = false

/-- No rotation commits while the `UPDATE` of a detected replay of its family is under way. -/
def Apart (s : TokenRace) : TokenAction → Prop
  | .rotate w _ _ => ∀ row user client, s.phase w = .rotating row user client →
    ∀ w' familyId pending written, s.phase w' = .updating familyId true pending written →
      familyId ≠ row.familyId
  | _ => True

/-- The rows that a request knows to be locked. -/
def Holds : TokenPhase → String → Prop
  | .rotating row _ _, jti => jti = row.jti
  | .updating _ _ _ written, jti => jti ∈ written
  | _, _ => False

/-- What a request knows: the row that is rotated is open, and the open rows of a replayed family
are among those that the `UPDATE` has written or has still to come to. -/
def Fact : TokenPhase → TokenData → Prop
  | .rotating row _ _, data => data.db.findRefreshToken row.jti = some row ∧ row.isOpen
  | .revokes familyId true, data => familyId ∈ data.db.refreshTokens.map (·.familyId)
  | .updating familyId true pending written, data =>
    familyId ∈ data.db.refreshTokens.map (·.familyId) ∧
      ∀ row ∈ data.db.refreshTokens, row.familyId = familyId → row.isOpen →
        row.jti ∈ pending ∨ row.jti ∈ written
  | _, _ => True

/-- The table as it is committed. -/
structure Intact (data : TokenData) : Prop where
  jtis : (data.db.refreshTokens.map (·.jti)).Nodup
  single : ∀ row ∈ data.db.refreshTokens, ∀ row' ∈ data.db.refreshTokens,
    row.familyId = row'.familyId → row.isOpen → row'.isOpen → row = row'
  known : ∀ familyId ∈ data.detected, familyId ∈ data.db.refreshTokens.map (·.familyId)
  closed : ∀ familyId ∈ data.detected, ∀ row ∈ data.db.refreshTokens,
    row.familyId = familyId → row.isOpen = false

structure Sound (s : TokenRace) : Prop where
  knows : s.Knows Holds Fact
  intact : Intact s.committed

section

variable {env : AuthEnv} {s : TokenRace} {data : TokenData} {db' : IdentityDb} {w : Nat}
  {row token : RefreshToken} {now : Time}

theorem length_le_one {tokens : List RefreshToken} (hnd : (tokens.map (·.jti)).Nodup)
    (hsame : ∀ row ∈ tokens, ∀ row' ∈ tokens, row = row') : tokens.length ≤ 1 := by
  match tokens with
  | [] => simp
  | [_] => simp
  | row :: row' :: rest =>
    have heq := hsame row (by simp) row' (by simp)
    simp [heq] at hnd

theorem Intact.safe (h : Intact s.committed) : Safe s := by
  have hopen {row : RefreshToken} {now : Time} (hlive : row.live now = true) : row.isOpen := by
    rw [RefreshToken.live, Bool.and_eq_true] at hlive
    exact hlive.1
  constructor
  · intro familyId now
    refine length_le_one (nodup_delete _ h.jtis) ?_
    intro row hrow row' hrow'
    simp only [List.mem_filter, Bool.and_eq_true, beq_iff_eq] at hrow hrow'
    exact h.single row hrow.1 row' hrow'.1 (hrow.2.1.trans hrow'.2.1.symm) (hopen hrow.2.2)
      (hopen hrow'.2.2)
  · intro familyId hdetected row hrow hfamily now
    rw [RefreshToken.live, h.closed familyId hdetected row hrow hfamily, Bool.false_and]

/-- A row that is open after an update of revocations was open, and not written. -/
theorem open_of_revoke {p : RefreshToken → Bool} {tokens : List RefreshToken}
    (hrow : row ∈ patch p (·.revoke now) tokens) (hopen : row.isOpen) : row ∈ tokens ∧ p row = false := by
  obtain ⟨old, hold, rfl⟩ := mem_patch.mp hrow
  split at hopen
  · rename_i hp
    have hrevoked : (old.revoke now).revokedAt ≠ none := revoke_revoked old
    simp [RefreshToken.isOpen, hrevoked] at hopen
  · rename_i hp
    rw [if_neg hp]
    exact ⟨hold, by simpa using hp⟩

/-- A new token of a new family. -/
theorem Intact.login (h : Intact data) (hfamily : token.familyId ∉ data.db.refreshTokens.map (·.familyId))
    (hjti : token.jti ∉ data.db.refreshTokens.map (·.jti)) :
    Intact { data with db := { data.db with refreshTokens := data.db.refreshTokens ++ [token] } } := by
  have hother {row : RefreshToken} (hrow : row ∈ data.db.refreshTokens) :
      row.familyId ≠ token.familyId :=
    fun heq => hfamily (List.mem_map.mpr ⟨row, hrow, heq⟩)
  constructor
  · exact nodup_insert h.jtis fun row hrow heq => hjti (List.mem_map.mpr ⟨row, hrow, heq⟩)
  · intro row hrow row' hrow' hsame hopen hopen'
    rcases List.mem_append.mp hrow with hrow | hrow
    · rcases List.mem_append.mp hrow' with hrow' | hrow'
      · exact h.single row hrow row' hrow' hsame hopen hopen'
      · rw [List.mem_singleton.mp hrow'] at hsame
        exact absurd hsame (hother hrow)
    · rcases List.mem_append.mp hrow' with hrow' | hrow'
      · rw [List.mem_singleton.mp hrow] at hsame
        exact absurd hsame.symm (hother hrow')
      · rw [List.mem_singleton.mp hrow, List.mem_singleton.mp hrow']
  · intro familyId hdetected
    rw [List.map_append]
    exact List.mem_append_left _ (h.known familyId hdetected)
  · intro familyId hdetected row hrow heq
    rcases List.mem_append.mp hrow with hrow | hrow
    · exact h.closed familyId hdetected row hrow heq
    · rw [List.mem_singleton.mp hrow] at heq
      exact absurd (heq ▸ h.known familyId hdetected) hfamily

theorem rotation_ok {db : IdentityDb} {user : Account} {client : String} {draws : TokenDraws}
    (hfound : db.findRefreshToken row.jti = some row)
    (h : rotation env db row user client draws now = .ok db') :
    ∃ replacement, replacement.familyId = row.familyId ∧
      replacement.jti ∉ db.refreshTokens.map (·.jti) ∧
      db' = { db with
        refreshTokens := patch (·.jti == row.jti) (·.rotated now replacement.jti)
          db.refreshTokens ++ [replacement] } := by
  simp only [rotation, bind_ok, pure_ok] at h
  obtain ⟨⟨replacement, db₁⟩, hissue, rfl⟩ := h
  obtain ⟨-, hfamily, hfresh, rfl⟩ := issueRefreshToken_ok hissue
  refine ⟨replacement, hfamily, hfresh, ?_⟩
  have hne : replacement.jti ≠ row.jti := by
    rintro heq
    exact hfresh (heq ▸ (mem_of_find_eq_some hfound).2 ▸
      List.mem_map_of_mem (mem_of_find_eq_some hfound).1)
  rw [patch_append]
  simp [patch, hne]

/-- The rotation of an open token closes it, and opens its replacement. -/
theorem Intact.rotation (h : Intact data) {tokens : List RefreshToken}
    (hfound : data.db.findRefreshToken row.jti = some row) (hopen : row.isOpen)
    (hfamily : token.familyId = row.familyId)
    (hjti : token.jti ∉ data.db.refreshTokens.map (·.jti))
    (htokens : tokens = patch (·.jti == row.jti) (·.rotated now token.jti)
      data.db.refreshTokens ++ [token]) :
    Intact { data with db := { data.db with refreshTokens := tokens } } := by
  obtain ⟨hmem, -⟩ := mem_of_find_eq_some hfound
  have hold {row' : RefreshToken}
      (hrow : row' ∈ patch (·.jti == row.jti) (·.rotated now token.jti) data.db.refreshTokens)
      (hopen' : row'.isOpen) : row' ∈ data.db.refreshTokens ∧ row'.familyId ≠ row.familyId := by
    obtain ⟨old, hmemOld, rfl⟩ := mem_patch.mp hrow
    split at hopen'
    · simp [RefreshToken.isOpen, RefreshToken.rotated] at hopen'
    · rename_i hne
      rw [if_neg hne]
      refine ⟨hmemOld, fun hsame => hne ?_⟩
      rw [h.single old hmemOld row hmem hsame hopen' hopen, beq_iff_eq]
  subst htokens
  constructor
  · refine nodup_insert ?_ ?_
    · rw [map_patch (by intro _; rfl)]
      exact h.jtis
    · intro row' hrow' heq
      obtain ⟨old, hmemOld, rfl⟩ := mem_patch.mp hrow'
      refine hjti (List.mem_map.mpr ⟨old, hmemOld, ?_⟩)
      rw [← heq]
      split <;> rfl
  · intro row₁ hrow₁ row₂ hrow₂ hsame hopen₁ hopen₂
    rcases List.mem_append.mp hrow₁ with hrow₁ | hrow₁
    · obtain ⟨hmem₁, hne₁⟩ := hold hrow₁ hopen₁
      rcases List.mem_append.mp hrow₂ with hrow₂ | hrow₂
      · exact h.single row₁ hmem₁ row₂ (hold hrow₂ hopen₂).1 hsame hopen₁ hopen₂
      · rw [List.mem_singleton.mp hrow₂, hfamily] at hsame
        exact absurd hsame hne₁
    · rcases List.mem_append.mp hrow₂ with hrow₂ | hrow₂
      · rw [List.mem_singleton.mp hrow₁, hfamily] at hsame
        exact absurd hsame.symm (hold hrow₂ hopen₂).2
      · rw [List.mem_singleton.mp hrow₁, List.mem_singleton.mp hrow₂]
  · intro familyId hdetected
    rw [List.map_append, map_patch (by intro _; rfl)]
    exact List.mem_append_left _ (h.known familyId hdetected)
  · intro familyId hdetected row' hrow' heq
    by_contra hopen'
    rw [Bool.not_eq_false] at hopen'
    have hclosed := h.closed familyId hdetected
    rcases List.mem_append.mp hrow' with hrow' | hrow'
    · rw [hclosed row' (hold hrow' hopen').1 heq] at hopen'
      cases hopen'
    · rw [List.mem_singleton.mp hrow', hfamily] at heq
      rw [hclosed row hmem heq] at hopen
      cases hopen

/-- A revocation that wrote every open row of a replayed family. -/
theorem Intact.revoked (h : Intact data) {familyId : String} {replay : Bool} {written : List String}
    (hall : replay = true → familyId ∈ data.db.refreshTokens.map (·.familyId) ∧
      ∀ row ∈ data.db.refreshTokens, row.familyId = familyId → row.isOpen → row.jti ∈ written) :
    Intact (TokenRace.revoked data familyId replay written now) := by
  constructor
  · rw [TokenRace.revoked, map_patch (by intro _; rfl)]
    exact h.jtis
  · intro row hrow row' hrow' hsame hopen hopen'
    exact h.single row (open_of_revoke hrow hopen).1 row' (open_of_revoke hrow' hopen').1 hsame
      hopen hopen'
  · intro familyId' hdetected
    rw [TokenRace.revoked, map_patch (by intro _; rfl)]
    rw [TokenRace.revoked] at hdetected
    split at hdetected
    · rename_i hreplay
      rcases List.mem_cons.mp hdetected with rfl | hdetected
      · exact (hall hreplay).1
      · exact h.known familyId' hdetected
    · exact h.known familyId' hdetected
  · intro familyId' hdetected row hrow heq
    by_contra hopen
    rw [Bool.not_eq_false] at hopen
    obtain ⟨hmem, hnot⟩ := open_of_revoke hrow hopen
    rw [TokenRace.revoked] at hdetected
    have hold (hdetected : familyId' ∈ data.detected) : False := by
      rw [h.closed familyId' hdetected row hmem heq] at hopen
      cases hopen
    split at hdetected
    · rename_i hreplay
      rcases List.mem_cons.mp hdetected with rfl | hdetected
      · have hwritten := (hall hreplay).2 row hmem heq hopen
        simp [hwritten] at hnot
      · exact hold hdetected
    · exact hold hdetected

theorem Fact.login {p : TokenPhase} (h : Fact p data)
    (hfamily : token.familyId ∉ data.db.refreshTokens.map (·.familyId)) :
    Fact p { data with db := { data.db with refreshTokens := data.db.refreshTokens ++ [token] } } := by
  unfold Fact at h ⊢
  split at h
  · refine ⟨?_, h.2⟩
    rw [IdentityDb.findRefreshToken, find_insert, ← IdentityDb.findRefreshToken, h.1]
    rfl
  · rw [List.map_append]
    exact List.mem_append_left _ h
  · rw [List.map_append]
    refine ⟨List.mem_append_left _ h.1, ?_⟩
    intro row hrow heq hopen
    rcases List.mem_append.mp hrow with hrow | hrow
    · exact h.2 row hrow heq hopen
    · rw [List.mem_singleton.mp hrow] at heq
      exact absurd (heq ▸ h.1) hfamily
  · trivial

theorem Fact.rotation {p : TokenPhase} (h : Fact p data) (hother : ¬Holds p row.jti)
    (hapart : ∀ familyId pending written, p = .updating familyId true pending written →
      familyId ≠ row.familyId)
    (hfamily : token.familyId = row.familyId) :
    Fact p { data with db := { data.db with
      refreshTokens := patch (·.jti == row.jti) (·.rotated now token.jti) data.db.refreshTokens ++
        [token] } } := by
  have hpatched : (patch (·.jti == row.jti) (·.rotated now token.jti)
      data.db.refreshTokens).map (·.familyId) = data.db.refreshTokens.map (·.familyId) :=
    map_patch (by intro _; rfl) _
  unfold Fact at h ⊢
  split at h
  · rename_i held user client
    have hne : held.jti ≠ row.jti := fun heq => hother heq.symm
    have hkept : (patch (·.jti == row.jti) (·.rotated now token.jti) data.db.refreshTokens).find?
        (·.jti == held.jti) = some held :=
      (find_patch_other (by intro _; rfl) _ hne).trans h.1
    exact ⟨find_insert_of_some hkept _, h.2⟩
  · rw [List.map_append, hpatched]
    exact List.mem_append_left _ h
  · rename_i familyId pending written
    rw [List.map_append, hpatched]
    refine ⟨List.mem_append_left _ h.1, ?_⟩
    have hne := hapart familyId pending written rfl
    intro row' hrow' heq hopen
    rcases List.mem_append.mp hrow' with hrow' | hrow'
    · obtain ⟨old, hold, rfl⟩ := mem_patch.mp hrow'
      split at hopen
      · simp [RefreshToken.isOpen, RefreshToken.rotated] at hopen
      · rename_i hcond
        rw [if_neg hcond] at heq ⊢
        exact h.2 old hold heq hopen
    · rw [List.mem_singleton.mp hrow', hfamily] at heq
      exact absurd heq.symm hne
  · trivial

theorem Fact.revoked {p : TokenPhase} (h : Fact p data) {familyId : String} {replay : Bool}
    {written : List String} (hother : ∀ jti, Holds p jti → jti ∉ written) :
    Fact p (TokenRace.revoked data familyId replay written now) := by
  have hpatched : (patch (fun row => written.contains row.jti) (·.revoke now)
      data.db.refreshTokens).map (·.familyId) = data.db.refreshTokens.map (·.familyId) :=
    map_patch (by intro _; rfl) _
  unfold Fact at h ⊢
  split at h
  · rename_i held user client
    have hne : written.contains held.jti = false := by
      simpa using hother held.jti rfl
    refine ⟨?_, h.2⟩
    rw [IdentityDb.findRefreshToken, TokenRace.revoked, find_patch (by intro _; rfl),
      ← IdentityDb.findRefreshToken, h.1, Option.map_some, if_neg (by rw [hne]; simp)]
  · rw [TokenRace.revoked, hpatched]
    exact h
  · rw [TokenRace.revoked, hpatched]
    refine ⟨h.1, ?_⟩
    intro row hrow heq hopen
    exact h.2 row (open_of_revoke hrow hopen).1 heq hopen
  · trivial

theorem presented_fact {rawToken client : String} {phase : TokenPhase}
    (h : presented env data.db rawToken client now = .ok (row, phase)) :
    Fact phase data ∧ ∀ jti, Holds phase jti → jti = row.jti := by
  simp only [presented, presentedToken, bind_ok, orFail_ok] at h
  obtain ⟨claims, -, found, ⟨row', hfound, _, -, hsame⟩, h⟩ := h
  obtain rfl := pure_ok.mp hsame
  obtain ⟨hmem, hjti⟩ := mem_of_find_eq_some hfound
  split at h
  · obtain ⟨rfl, rfl⟩ := Prod.mk.inj (pure_ok.mp h)
    exact ⟨List.mem_map_of_mem hmem, fun _ hholds => hholds.elim⟩
  · rename_i hconsumed
    simp only [rotatable, bind_ok, ensure_ok, orFail_ok, pure_ok] at h
    obtain ⟨_, ⟨_, hlive, -⟩, heq⟩ := h
    obtain ⟨rfl, rfl⟩ := Prod.mk.inj heq
    refine ⟨⟨?_, ?_⟩, fun _ hholds => hholds⟩
    · rw [← hfound, hjti]
    · simp only [RefreshToken.consumed, Bool.or_eq_true, not_or, Bool.not_eq_true,
        Option.isSome_eq_false_iff] at hconsumed
      simp [RefreshToken.isOpen, hconsumed.1, hlive.1]

theorem start_sound (users : List Account) : Sound (start users) where
  knows := ⟨fun _ _ h => h.elim, fun _ => trivial⟩
  intact :=
    { jtis := by simp [start]
      single := by simp [start]
      known := by simp [start]
      closed := by simp [start] }

/-- A step that commits nothing. -/
theorem Sound.release_same (h : Sound s) (w : Nat) : Sound (s.release w s.committed .idle) where
  knows := h.knows.release_others (fun _ h => h.elim) trivial fun _ _ _ hfact => hfact
  intact := h.intact

theorem Sound.login (h : Sound s) {user : Account} {client : String} {draws : TokenDraws}
    (hfresh : draws.familyId ∉ s.committed.db.refreshTokens.map (·.familyId))
    (hok : issueTokenPair env s.committed.db user client draws now = .ok (token, db')) :
    Sound { s with committed := { s.committed with db := db' } } := by
  obtain ⟨-, hfamily, hjti, rfl⟩ := issueRefreshToken_ok hok
  have hnew : token.familyId ∉ s.committed.db.refreshTokens.map (·.familyId) := hfamily ▸ hfresh
  exact ⟨h.knows.change fun _ hfact => hfact.login hnew, h.intact.login hnew hjti⟩

theorem Sound.present (h : Sound s) {rawToken client : String} {phase : TokenPhase}
    (hfree : s.owner row.jti = none)
    (hok : presented env s.committed.db rawToken client now = .ok (row, phase)) :
    Sound (s.acquire w row.jti phase) := by
  obtain ⟨hfact, hholds⟩ := presented_fact hok
  exact ⟨h.knows.acquire hfree (fun jti hjti => .inl (hholds jti hjti)) hfact, h.intact⟩

theorem Sound.rotate (h : Sound s) {user : Account} {client : String} {draws : TokenDraws}
    (hphase : s.phase w = .rotating row user client)
    (hapart : ∀ w' familyId pending written, s.phase w' = .updating familyId true pending written →
      familyId ≠ row.familyId)
    (hok : rotation env s.committed.db row user client draws now = .ok db') :
    Sound (s.release w { s.committed with db := db' } .idle) := by
  have hfact := h.knows.facts w
  rw [hphase] at hfact
  obtain ⟨hfound, hopen⟩ := hfact
  obtain ⟨replacement, hfamily, hjti, rfl⟩ := rotation_ok hfound hok
  constructor
  · refine h.knows.release_others (fun _ h => h.elim) trivial ?_
    intro w' _ hdisjoint hfact
    refine hfact.rotation ?_ (hapart w') hfamily
    intro hholds
    exact hdisjoint row.jti hholds (by rw [hphase]; rfl)
  · exact h.intact.rotation hfound hopen hfamily hjti rfl

/-- An `UPDATE` starts: every open row of the family is still to come. -/
theorem Sound.beginUpdate (h : Sound s) {familyId : String} {replay : Bool}
    (hphase : s.phase w = .revokes familyId replay) :
    Sound (s.move w (.updating familyId replay (snapshot s.committed.db familyId) [])) := by
  refine ⟨h.knows.move_owned (by rintro r ⟨⟩) ?_, h.intact⟩
  have hfact := h.knows.facts w
  rw [hphase] at hfact
  cases replay with
  | false => trivial
  | true =>
    refine ⟨hfact, ?_⟩
    intro row hrow hfamily hopen
    rw [RefreshToken.isOpen, Bool.and_eq_true] at hopen
    exact .inl (List.mem_map_of_mem (List.mem_filter.mpr ⟨hrow, by simp [hfamily, hopen.2]⟩))

/-- The `UPDATE` comes to a row, and writes it if it is not revoked by now. -/
theorem Sound.updateRow (h : Sound s) {jti familyId : String} {replay : Bool}
    {pending written : List String} (hphase : s.phase w = .updating familyId replay pending written)
    (howner : s.owner jti = none ∨ s.owner jti = some w) :
    Sound (if (s.committed.db.findRefreshToken jti).any (·.revokedAt.isNone) then
      s.acquire w jti (.updating familyId replay (pending.erase jti) (jti :: written))
    else s.move w (.updating familyId replay (pending.erase jti) written)) := by
  have hfact := h.knows.facts w
  rw [hphase] at hfact
  have howns (r : String) (hr : r ∈ written) : s.owner r = some w :=
    h.knows.owns w r (by rw [hphase]; exact hr)
  split
  · have hnext : Fact (.updating familyId replay (pending.erase jti) (jti :: written))
        s.committed := by
      cases replay with
      | false => trivial
      | true =>
        refine ⟨hfact.1, ?_⟩
        intro row hrow hfamily hopen
        by_cases hjti : row.jti = jti
        · exact .inr (hjti ▸ List.mem_cons_self)
        · rcases hfact.2 row hrow hfamily hopen with hpending | hwritten
          · exact .inl ((List.mem_erase_of_ne hjti).mpr hpending)
          · exact .inr (List.mem_cons_of_mem _ hwritten)
    rcases howner with hfree | hmine
    · refine ⟨h.knows.acquire hfree ?_ hnext, h.intact⟩
      intro r hr
      rcases List.mem_cons.mp hr with rfl | hr
      · exact .inl rfl
      · exact .inr (by rw [hphase]; exact hr)
    · rw [RowLocks.acquire, ← hmine, Function.update_eq_self]
      refine ⟨h.knows.move_owned ?_ hnext, h.intact⟩
      intro r hr
      rcases List.mem_cons.mp hr with rfl | hr
      · exact hmine
      · exact howns r hr
  · rename_i hrevoked
    refine ⟨h.knows.move_owned howns ?_, h.intact⟩
    cases replay with
    | false => trivial
    | true =>
      refine ⟨hfact.1, ?_⟩
      intro row hrow hfamily hopen
      by_cases hjti : row.jti = jti
      · have hfound : s.committed.db.findRefreshToken jti = some row :=
          hjti ▸ find_of_mem h.intact.jtis hrow
        rw [RefreshToken.isOpen, Bool.and_eq_true] at hopen
        simp [hfound, hopen.2] at hrevoked
      · rcases hfact.2 row hrow hfamily hopen with hpending | hwritten
        · exact .inl ((List.mem_erase_of_ne hjti).mpr hpending)
        · exact .inr hwritten

theorem Sound.commitUpdate (h : Sound s) {familyId : String} {replay : Bool}
    {written : List String} (hphase : s.phase w = .updating familyId replay [] written) :
    Sound (s.release w (TokenRace.revoked s.committed familyId replay written now) .idle) := by
  have hfact := h.knows.facts w
  rw [hphase] at hfact
  constructor
  · refine h.knows.release_others (fun _ h => h.elim) trivial ?_
    intro w' _ hdisjoint hfact'
    refine hfact'.revoked ?_
    intro jti hholds hwritten
    exact hdisjoint jti hholds (by rw [hphase]; exact hwritten)
  · refine h.intact.revoked ?_
    rintro rfl
    refine ⟨hfact.1, ?_⟩
    intro row hrow hfamily hopen
    exact (hfact.2 row hrow hfamily hopen).resolve_left (by simp)

/-- A step that keeps rotations apart from the updates of replays keeps the invariant. -/
theorem step_sound (h : Sound s) {a : TokenAction} (hapart : Apart s a) : Sound (step env s a) := by
  cases a with
  | login user client draws now =>
    simp only [step]
    split
    · exact h
    · rename_i hfresh
      split
      · exact h
      · rename_i hok
        exact h.login hfresh hok
  | present w rawToken client now =>
    simp only [step]
    split
    · split
      · rename_i hok hfree
        exact h.present hfree hok
      · exact h
    · exact h
  | rotate w draws now =>
    simp only [step]
    split
    · rename_i row user client hphase
      split
      · exact h.release_same w
      · rename_i hok
        exact h.rotate hphase (hapart row user client hphase) hok
    · exact h
  | logout w rawToken client now =>
    simp only [step]
    split
    · exact ⟨h.knows.move_owned (fun _ h => h.elim) trivial, h.intact⟩
    · exact h
  | beginUpdate w =>
    simp only [step]
    split
    · rename_i hphase
      exact h.beginUpdate hphase
    · exact h
  | updateRow w jti =>
    simp only [step]
    split
    · rename_i familyId replay pending written hphase
      by_cases hwait : jti ∉ pending ∨ s.owner jti ∉ [none, some w]
      · rw [if_pos hwait]
        exact h
      · rw [if_neg hwait]
        refine h.updateRow hphase ?_
        simpa [or_iff_not_imp_left] using (not_or.mp hwait).2
    · exact h
  | commitUpdate w now =>
    simp only [step]
    split
    · rename_i hphase
      exact h.commitUpdate hphase
    · exact h
  | abort w => exact h.release_same w

/-- In a run where no rotation commits while the `UPDATE` of a replay of its family is under way, at
most one token of each family is live, and none of a family whose replay was detected. -/
theorem safe_of_apart {users : List Account} {acts : List TokenAction}
    (hapart : Always (step env) Apart (start users) acts) :
    Throughout (step env) Safe (start users) acts :=
  (hapart.throughout (start_sound users) fun _ _ h hapart => step_sound h hapart).imp
    fun _ h => h.intact.safe

end

/-- An environment where a token is signed as its id. -/
def raceEnv : AuthEnv :=
  { plainEnv with jwtDecode := fun rawToken _ => some ⟨"user_a", "fan", "fan", "refresh", rawToken⟩ }

/-- The draws of a token with the id. -/
def tokenDraws (jti : String) : TokenDraws := ⟨jti, "family", jti⟩

def raceFan : Account := { id := "user_a" }

theorem safe_rotation : Throughout (step raceEnv) Safe (start [raceFan])
    [.login raceFan "fan" (tokenDraws "t1") 0, .present 1 "t1" "fan" 1,
      .rotate 1 (tokenDraws "t2") 1] := by
  refine safe_of_apart ⟨trivial, trivial, ?_, trivial⟩
  intro row user client _ w' familyId pending written hphase
  by_cases hw : w' = 1
  · subst hw
    cases hphase
  · change Function.update (fun _ => TokenPhase.idle) 1 _ w' = _ at hphase
    rw [Function.update_of_ne hw] at hphase
    cases hphase

/-- While the `UPDATE` of a replayed first token waits for the second, which is being rotated, the
rotation commits a third: it stays live. -/
theorem replay_misses_successor :
    ¬Throughout (step raceEnv) Safe (start [raceFan])
      [.login raceFan "fan" (tokenDraws "t1") 0, .present 1 "t1" "fan" 1,
        .rotate 1 (tokenDraws "t2") 1, .present 2 "t1" "fan" 2, .present 3 "t2" "fan" 2,
        .beginUpdate 2, .updateRow 2 "t1", .rotate 3 (tokenDraws "t3") 3, .updateRow 2 "t2",
        .commitUpdate 2 4] := by
  intro h
  have hclosed := h.last.2 "family" (by decide)
    { jti := "t3", familyId := "family", tokenDigest := "t3", userId := "user_a", client := "fan"
      expiresAt := 13 } (by decide) rfl 5
  exact absurd hclosed (by decide)

end TokenRace

end Fanfolio
