import Fanfolio.Framework.RotatingCredential
import Fanfolio.Identity.Logins

/-!
# Refreshing access tokens over the network

A browser holds the refresh token as a cookie, which its tabs share; each tab has one refresh under
way at most. The server rotates the token, and takes its second use for a theft.
-/

namespace Fanfolio

open Framework Framework.RotatingCredential

/-- What a refresh draws, its time, and what `load_admin_context` answers. -/
structure RefreshDraws where
  draws : TokenDraws
  now : Time
  context : Except Failure Unit := .ok ()

/-- What a login draws. -/
structure LoginDraws where
  user : Account
  draws : TokenDraws
  now : Time

namespace RefreshProtocol

variable (env : AuthEnv) (client : String)

def issuedDigests (db : IdentityDb) : Set String :=
  {d | d ∈ db.refreshTokens.map (·.tokenDigest)}

def usedDigests (db : IdentityDb) : Set String :=
  {d | ∃ row ∈ db.refreshTokens, row.tokenDigest = d ∧ row.consumed}

def ValidTokens (db : IdentityDb) : Prop := (db.refreshTokens.map (·.jti)).Nodup

/-- A login, with the cookie that it sets. -/
def login (db : IdentityDb) (w : LoginDraws) : IdentityDb × Option String :=
  match issueTokenPair env db w.user client w.draws w.now with
  | .ok (_, db) => (db, some w.draws.rawToken)
  | .error _ => (db, none)

/-- `POST /auth/refresh`, with the cookie that it sets. -/
def refresh (db : IdentityDb) (rawToken : String) (w : RefreshDraws) :
    IdentityDb × Option String :=
  (refreshAccessToken env db rawToken client w.context w.draws w.now,
    match (rotateRefreshToken env db rawToken client w.draws w.now).2,
      adminContext (client = "admin") w.context with
    | .ok _, .ok () => some w.draws.rawToken
    | _, _ => none)

def server : Server IdentityDb String String LoginDraws RefreshDraws where
  digest := env.hash
  Valid := ValidTokens
  issued := issuedDigests
  used := usedDigests
  login := login env client
  rotate := refresh env client

section

variable {env client} {db db' : IdentityDb} {user : Account} {draws : TokenDraws} {now : Time}
  {rawToken : String} {token : RefreshToken} {familyId : Option String}

theorem issued_token (h : issueRefreshToken env db user client familyId draws now =
    .ok (token, db')) : token.tokenDigest = env.hash draws.rawToken ∧
      token.tokenDigest ∉ issuedDigests db ∧ token.consumed = false ∧ token.revokedAt = none := by
  simp only [issueRefreshToken, bind_ok, ensure_ok, pure_ok, Prod.mk.injEq] at h
  obtain ⟨_, -, _, -, _, hfresh, rfl, rfl⟩ := h
  exact ⟨rfl, hfresh, rfl, rfl⟩

/-- What a rotation does: it refuses and changes nothing, or takes the token for stolen and revokes
its family, or replaces it. -/
theorem rotateRefreshToken_cases (env : AuthEnv) (db : IdentityDb) (rawToken client : String)
    (draws : TokenDraws) (now : Time) :
    (∃ e, rotateRefreshToken env db rawToken client draws now = (db, .error e)) ∨
    (∃ row ∈ db.refreshTokens, row.tokenDigest = env.hash rawToken ∧ row.consumed ∧
      ∃ e, rotateRefreshToken env db rawToken client draws now =
        (revokeRefreshFamily db row.familyId now, .error e)) ∨
    ∃ row ∈ db.refreshTokens, row.tokenDigest = env.hash rawToken ∧
      (∃ claims, decodeRefreshToken env rawToken client now = .ok claims ∧ row.jti = claims.jti) ∧
      ∃ user token db', issueRefreshToken env db user client (some row.familyId) draws now =
          .ok (token, db') ∧
        rotateRefreshToken env db rawToken client draws now =
          ({ db' with
            refreshTokens := patch (·.jti == row.jti) (·.rotated now token.jti)
              db'.refreshTokens }, .ok token) := by
  rw [rotateRefreshToken]
  split
  · rename_i e _
    exact .inl ⟨e, rfl⟩
  · rename_i claims row hpresented
    simp only [bind_ok, pure_ok, Prod.mk.injEq, presentedToken, orFail_ok, ensure_ok] at hpresented
    obtain ⟨claims, hclaims, row, ⟨row, hfound, _, hdigest, rfl⟩, rfl, rfl⟩ := hpresented
    obtain ⟨hmem, hjti⟩ := mem_of_find_eq_some hfound
    split
    · rename_i hconsumed
      exact .inr (.inl ⟨row, hmem, hdigest, hconsumed, _, rfl⟩)
    · rename_i hconsumed
      split
      · rename_i e _
        exact .inl ⟨e, rfl⟩
      · rename_i token db' hissue
        simp only [bind_ok] at hissue
        obtain ⟨user, -, hissue⟩ := hissue
        exact .inr (.inr ⟨row, hmem, hdigest, ⟨claims, hclaims, hjti⟩, user, token, db', hissue,
          rfl⟩)

/-- The tables after a rotation. -/
theorem rotated_tables (hvalid : ValidTokens db) {row : RefreshToken}
    (hmem : row ∈ db.refreshTokens) (hrow : row.tokenDigest = env.hash rawToken)
    (hissue : issueRefreshToken env db user client familyId draws now = .ok (token, db')) :
    let rotated : IdentityDb := { db' with
      refreshTokens := patch (·.jti == row.jti) (·.rotated now token.jti) db'.refreshTokens }
    ValidTokens rotated ∧
      issuedDigests rotated = insert (env.hash draws.rawToken) (issuedDigests db) ∧
      usedDigests rotated = usedDigests db ∪ {env.hash rawToken} := by
  obtain ⟨-, -, hfresh, rfl⟩ := issueRefreshToken_ok hissue
  obtain ⟨hdigest, -, hconsumed, -⟩ := issued_token hissue
  have hkeeps (r : RefreshToken) : (r.rotated now token.jti).jti = r.jti ∧
      (r.rotated now token.jti).tokenDigest = r.tokenDigest := ⟨rfl, rfl⟩
  refine ⟨?_, ?_, ?_⟩
  · rw [ValidTokens, map_patch fun r => (hkeeps r).1]
    refine nodup_insert hvalid fun row' hrow' heq => hfresh ?_
    exact heq ▸ List.mem_map_of_mem hrow'
  · ext d
    simp only [issuedDigests, map_patch fun r => (hkeeps r).2, List.map_append, List.mem_append,
      List.map_cons, List.map_nil, List.mem_singleton, hdigest, Set.mem_ofPred_eq,
      Set.mem_insert_iff, or_comm]
  · ext d
    simp only [usedDigests, mem_patch, Set.mem_ofPred_eq, Set.mem_union, Set.mem_singleton_iff,
      List.mem_append, List.mem_singleton, beq_iff_eq]
    constructor
    · rintro ⟨_, ⟨row', hrow' | rfl, rfl⟩, rfl, hused⟩
      · split at hused
        · rename_i hjti
          obtain rfl : row' = row := List.inj_on_of_nodup_map hvalid hrow' hmem hjti
          exact .inr (by rw [if_pos rfl]; exact hrow)
        · rename_i hjti
          exact .inl ⟨row', hrow', by rw [if_neg hjti], hused⟩
      · have hjti : row'.jti ≠ row.jti := fun heq => hfresh (heq ▸ List.mem_map_of_mem hmem)
        rw [if_neg hjti, hconsumed] at hused
        cases hused
    · rintro (⟨row', hrow', rfl, hused⟩ | rfl)
      · refine ⟨_, ⟨row', .inl hrow', rfl⟩, ?_, ?_⟩ <;> split
        · rfl
        · rfl
        · rfl
        · exact hused
      · refine ⟨_, ⟨row, .inl hmem, rfl⟩, ?_, ?_⟩
        · rw [if_pos rfl]
          exact hrow
        · rw [if_pos rfl]
          rfl

theorem refresh_refused (e : Failure) {w : RefreshDraws}
    (h : rotateRefreshToken env db rawToken client w.draws w.now = (db, .error e)) :
    refresh env client db rawToken w = (db, none) := by
  simp [refresh, refreshAccessToken, h]

/-- The rotation is committed unless the administrator has lost access. -/
theorem refresh_rotated {w : RefreshDraws} (hrotate :
    rotateRefreshToken env db rawToken client w.draws w.now = (db', .ok token)) :
    refresh env client db rawToken w = (db', some w.draws.rawToken) ∨
      refresh env client db rawToken w = (db, none) := by
  cases hcontext : adminContext (client = "admin") w.context with
  | ok u => exact .inl (by simp [refresh, refreshAccessToken, hrotate, hcontext])
  | error e => exact .inr (by simp [refresh, refreshAccessToken, hrotate, hcontext])

theorem server_lawful (env : AuthEnv) (client : String) : (server env client).Lawful where
  used_issued := by
    rintro db - d ⟨row, hmem, rfl, -⟩
    exact List.mem_map_of_mem hmem
  login := by
    intro db w hvalid
    rcases hissue : issueTokenPair env db w.user client w.draws w.now with e | ⟨token, db'⟩
    · have hlogin : login env client db w = (db, none) := by simp [login, hissue]
      simp only [server, hlogin, Server.Outcome]
      exact ⟨hvalid, trivial, trivial⟩
    · have hlogin : login env client db w = (db', some w.draws.rawToken) := by
        simp [login, hissue]
      obtain ⟨-, -, hfresh, rfl⟩ := issueRefreshToken_ok hissue
      obtain ⟨hdigest, hnew, hconsumed, -⟩ := issued_token hissue
      simp only [server, hlogin, Server.Outcome]
      refine ⟨?_, hdigest ▸ hnew, ?_, ?_⟩
      · refine nodup_insert hvalid fun row' hrow' heq => hfresh ?_
        exact heq ▸ List.mem_map_of_mem hrow'
      · ext d
        simp only [issuedDigests, List.map_append, List.mem_append, List.map_cons, List.map_nil,
          List.mem_singleton, hdigest, Set.mem_ofPred_eq, Set.mem_insert_iff, or_comm]
      · ext d
        simp [usedDigests, or_and_right, exists_or, hconsumed]
  rotate := by
    intro db rawToken w hvalid hunused
    rcases rotateRefreshToken_cases env db rawToken client w.draws w.now with
      ⟨e, hrotate⟩ | ⟨row, hmem, hrow, hconsumed, -⟩ |
        ⟨row, hmem, hrow, -, user, token, db', hissue, hrotate⟩
    · simp only [server, refresh_refused e hrotate, Server.Outcome]
      exact ⟨hvalid, trivial, trivial⟩
    · exact absurd ⟨row, hmem, hrow, hconsumed⟩ hunused
    · obtain ⟨hdigest, hnew, -⟩ := issued_token hissue
      rcases refresh_rotated hrotate with h | h
      · simp only [server, h, Server.Outcome]
        exact ⟨(rotated_tables hvalid hmem hrow hissue).1, hdigest ▸ hnew,
          (rotated_tables hvalid hmem hrow hissue).2⟩
      · simp only [server, h, Server.Outcome]
        exact ⟨hvalid, trivial, trivial⟩

/-- No session has been closed as stolen. -/
def NoneRevoked (db : IdentityDb) : Prop := ∀ row ∈ db.refreshTokens, row.revokedAt = none

theorem server_keeps_noneRevoked (env : AuthEnv) (client : String) :
    (server env client).Keeps NoneRevoked where
  login := by
    intro db w _ hnone
    rcases hissue : issueTokenPair env db w.user client w.draws w.now with e | ⟨token, db'⟩
    · have hlogin : login env client db w = (db, none) := by simp [login, hissue]
      simpa only [server, hlogin] using hnone
    · have hlogin : login env client db w = (db', some w.draws.rawToken) := by
        simp [login, hissue]
      obtain ⟨-, -, -, rfl⟩ := issueRefreshToken_ok hissue
      obtain ⟨-, -, -, hopen⟩ := issued_token hissue
      simp only [server, hlogin]
      intro row hrow
      rcases List.mem_append.mp hrow with hrow | hrow
      · exact hnone row hrow
      · rw [List.mem_singleton.mp hrow, hopen]
  rotate := by
    intro db rawToken w _ hunused hnone
    rcases rotateRefreshToken_cases env db rawToken client w.draws w.now with
      ⟨e, hrotate⟩ | ⟨row, hmem, hrow, hconsumed, -⟩ |
        ⟨row, hmem, hrow, -, user, token, db', hissue, hrotate⟩
    · simpa only [server, refresh_refused e hrotate] using hnone
    · exact absurd ⟨row, hmem, hrow, hconsumed⟩ hunused
    · rcases refresh_rotated hrotate with h | h
      · obtain ⟨-, -, -, rfl⟩ := issueRefreshToken_ok hissue
        obtain ⟨-, -, -, hopen⟩ := issued_token hissue
        simp only [server, h]
        intro row' hrow'
        obtain ⟨old, hold, rfl⟩ := mem_patch.mp hrow'
        have hrevoked : old.revokedAt = none := by
          rcases List.mem_append.mp hold with hold | hold
          · exact hnone old hold
          · rw [List.mem_singleton.mp hold, hopen]
        split
        · exact hrevoked
        · exact hrevoked
      · simpa only [server, h] using hnone

/-- A token is signed as its id. -/
def tabEnv : AuthEnv :=
  { plainEnv with jwtDecode := fun rawToken _ => some ⟨"user_a", "fan", "fan", "refresh", rawToken⟩ }

def tabFan : Account := { id := "user_a" }

def tabDraws (jti : String) : TokenDraws := ⟨jti, "family", jti⟩

/-- Whatever is lost, and however many tabs a browser has: as long as no tab sends a cookie that
another request has carried without an answer, no session is closed as stolen. -/
theorem noneRevoked_of_sendsAnswered {users : List Account}
    {acts : List (Action ℕ LoginDraws RefreshDraws)}
    (hacts : Always (System.step (server env client)) (System.SendsAnswered (server env client))
      (System.start { users := users }) acts) :
    Throughout (System.step (server env client)) (fun s => NoneRevoked s.server)
      (System.start { users := users }) acts :=
  System.server_throughout (server_lawful env client) (server_keeps_noneRevoked env client)
    (System.start_sound List.nodup_nil) (by simp [NoneRevoked, System.start]) hacts

/-- A second tab refreshes after the answer to the first, and its own answer is lost. -/
theorem noneRevoked_two_tabs :
    Throughout (System.step (server tabEnv "fan")) (fun s => NoneRevoked s.server)
      (System.start { users := [tabFan] })
      [.login 0 ⟨tabFan, tabDraws "t1", 0⟩, .send 0 0, .handle 0 ⟨tabDraws "t2", 1, .ok ()⟩,
        .deliver 0, .send 0 1, .handle 1 ⟨tabDraws "t3", 2, .ok ()⟩, .lose 1] := by
  refine noneRevoked_of_sendsAnswered ⟨trivial, ?_, trivial, trivial, ?_, trivial, trivial, trivial⟩
  · rintro - k - k' (⟨n, f, hf, -⟩ | hlost)
    · cases hf
    · cases hlost
  · rintro - k - k' (⟨n, f, hf, -⟩ | hlost)
    · rcases System.update_some hf with ⟨-, hnone⟩ | ⟨hn, hf⟩
      · cases hnone
      · rcases System.update_some hf with ⟨hzero, -⟩ | ⟨-, hf⟩
        · exact absurd hzero hn
        · rcases System.update_some hf with ⟨hzero, -⟩ | ⟨-, hf⟩
          · exact absurd hzero hn
          · cases hf
    · cases hlost

/-- Browsers with one tab each, whose requests are answered in the end: whatever the order in which
requests are sent, handled and answered, no session is closed as stolen. -/
theorem noneRevoked_of_tidy {users : List Account} {tab : ℕ → ℕ}
    {acts : List (Action ℕ LoginDraws RefreshDraws)}
    (hacts : ∀ a ∈ acts, System.Tidy tab a) :
    Throughout (System.step (server env client)) (fun s => NoneRevoked s.server)
      (System.start { users := users }) acts :=
  System.server_throughout (server_lawful env client) (server_keeps_noneRevoked env client)
    (System.start_sound List.nodup_nil) (by simp [NoneRevoked, System.start])
    (System.sendsAnswered_of_tidy (System.start_waiting _) hacts)

/-- Two browsers of a fan, whose requests cross. -/
def crossing : List (Action ℕ LoginDraws RefreshDraws) :=
  [.login 0 ⟨tabFan, tabDraws "t1", 0⟩, .login 1 ⟨tabFan, ⟨"t2", "family2", "t2"⟩, 0⟩,
    .send 0 0, .send 1 0, .send 0 0, .handle 1 ⟨tabDraws "t3", 1, .ok ()⟩,
    .handle 0 ⟨tabDraws "t4", 1, .ok ()⟩, .deliver 0, .deliver 1]

theorem noneRevoked_crossing :
    Throughout (System.step (server tabEnv "fan")) (fun s => NoneRevoked s.server)
      (System.start { users := [tabFan] }) crossing := by
  have htidy : ∀ a ∈ crossing, System.Tidy (fun _ => 0) a := by
    simp [crossing, System.Tidy]
  exact noneRevoked_of_tidy htidy

/-- Every token is still there, and used up if it was. -/
def Later (db db' : IdentityDb) : Prop :=
  ∀ row ∈ db.refreshTokens, ∃ row' ∈ db'.refreshTokens, row'.jti = row.jti ∧
    row'.tokenDigest = row.tokenDigest ∧ row'.familyId = row.familyId ∧
    (row.consumed → row'.consumed)

theorem Later.refl (db : IdentityDb) : Later db db := fun row hrow =>
  ⟨row, hrow, rfl, rfl, rfl, id⟩

theorem Later.trans {db₁ db₂ db₃ : IdentityDb} (h : Later db₁ db₂) (h' : Later db₂ db₃) :
    Later db₁ db₃ := by
  intro row hrow
  obtain ⟨row₂, hrow₂, hjti, hdigest, hfamily, hconsumed⟩ := h row hrow
  obtain ⟨row₃, hrow₃, hjti', hdigest', hfamily', hconsumed'⟩ := h' row₂ hrow₂
  exact ⟨row₃, hrow₃, hjti'.trans hjti, hdigest'.trans hdigest, hfamily'.trans hfamily,
    fun h => hconsumed' (hconsumed h)⟩

theorem later_insert (db : IdentityDb) (token : RefreshToken) :
    Later db { db with refreshTokens := db.refreshTokens ++ [token] } := fun row hrow =>
  ⟨row, List.mem_append_left _ hrow, rfl, rfl, rfl, id⟩

theorem later_patch (db : IdentityDb) (p : RefreshToken → Bool) {f : RefreshToken → RefreshToken}
    (hf : ∀ row, (f row).jti = row.jti ∧ (f row).tokenDigest = row.tokenDigest ∧
      (f row).familyId = row.familyId ∧ (row.consumed → (f row).consumed)) :
    Later db { db with refreshTokens := patch p f db.refreshTokens } := by
  intro row hrow
  refine ⟨if p row then f row else row, mem_patch.mpr ⟨row, hrow, rfl⟩, ?_⟩
  split
  · exact hf row
  · exact ⟨rfl, rfl, rfl, id⟩

/-- Whatever is presented, tokens stay unique and are never forgotten. -/
theorem rotateRefreshToken_later (env : AuthEnv) (rawToken client : String) (draws : TokenDraws)
    (now : Time) (hvalid : ValidTokens db) :
    ValidTokens (rotateRefreshToken env db rawToken client draws now).1 ∧
      Later db (rotateRefreshToken env db rawToken client draws now).1 := by
  rcases rotateRefreshToken_cases env db rawToken client draws now with
    ⟨e, h⟩ | ⟨row, -, -, -, e, h⟩ | ⟨row, hmem, hrow, -, user, token, db', hissue, h⟩ <;> rw [h]
  · exact ⟨hvalid, .refl db⟩
  · refine ⟨?_, later_patch db _ fun _ => ⟨rfl, rfl, rfl, id⟩⟩
    have hkeeps (r : RefreshToken) : (r.revoke now).jti = r.jti := rfl
    rw [ValidTokens, revokeRefreshFamily, map_patch hkeeps]
    exact hvalid
  · refine ⟨(rotated_tables hvalid hmem hrow hissue).1, ?_⟩
    obtain ⟨-, -, -, rfl⟩ := issueRefreshToken_ok hissue
    exact (later_insert db token).trans (later_patch _ _ fun _ => ⟨rfl, rfl, rfl, fun _ => rfl⟩)

theorem refresh_later (env : AuthEnv) (client rawToken : String) (w : RefreshDraws)
    (hvalid : ValidTokens db) :
    ValidTokens (refresh env client db rawToken w).1 ∧
      Later db (refresh env client db rawToken w).1 := by
  have hlater := rotateRefreshToken_later env rawToken client w.draws w.now hvalid
  rcases h : rotateRefreshToken env db rawToken client w.draws w.now with ⟨db', e | token⟩ <;>
    rw [h] at hlater
  · simpa only [refresh, refreshAccessToken, h] using hlater
  · rcases refresh_rotated h with hrefresh | hrefresh <;> rw [hrefresh]
    · exact hlater
    · exact ⟨hvalid, .refl db⟩

theorem login_later (env : AuthEnv) (client : String) (w : LoginDraws) (hvalid : ValidTokens db) :
    ValidTokens (login env client db w).1 ∧ Later db (login env client db w).1 := by
  refine ⟨((server_lawful env client).login db w hvalid).1, ?_⟩
  rcases hissue : issueTokenPair env db w.user client w.draws w.now with e | ⟨token, db'⟩ <;>
    simp only [login, hissue]
  · exact .refl db
  · obtain ⟨-, -, -, rfl⟩ := issueRefreshToken_ok hissue
    exact later_insert db token

/-- Over a run no token is forgotten. -/
theorem run_later (env : AuthEnv) (client : String) {s : System IdentityDb ℕ String}
    (hvalid : ValidTokens s.server)
    (acts : List (Action ℕ LoginDraws RefreshDraws)) :
    ValidTokens (run (System.step (server env client)) s acts).server ∧
      Later s.server (run (System.step (server env client)) s acts).server := by
  refine run_of_step (I := fun s' : System IdentityDb ℕ String =>
    ValidTokens s'.server ∧ Later s.server s'.server) ⟨hvalid, .refl s.server⟩ ?_
  rintro s' a ⟨hvalid', hlater⟩
  rcases System.step_server (S := server env client) s' a with
    heq | ⟨w, heq⟩ | ⟨n, f, w, -, -, heq⟩ <;> rw [heq]
  · exact ⟨hvalid', hlater⟩
  · have hlogin := login_later env client w hvalid'
    exact ⟨hlogin.1, hlater.trans hlogin.2⟩
  · have hrefresh := refresh_later env client f.credential w hvalid'
    exact ⟨hrefresh.1, hlater.trans hrefresh.2⟩

/-- A token that was rotated is still there, used up, with its successor in its family. -/
theorem refresh_consumes {w : RefreshDraws} {k : String} {claims : TokenClaims}
    (hclaims : decodeRefreshToken env rawToken client w.now = .ok claims)
    (hok : (refresh env client db rawToken w).2 = some k) :
    ∃ row ∈ (refresh env client db rawToken w).1.refreshTokens,
      ∃ next ∈ (refresh env client db rawToken w).1.refreshTokens,
        row.jti = claims.jti ∧ row.tokenDigest = env.hash rawToken ∧ row.consumed ∧
          next.tokenDigest = env.hash k ∧ next.familyId = row.familyId := by
  rcases rotateRefreshToken_cases env db rawToken client w.draws w.now with
    ⟨e, h⟩ | ⟨row, -, -, -, e, h⟩ |
      ⟨row, hmem, hrow, ⟨claims', hclaims', hjti⟩, user, token, db', hissue, h⟩
  · rw [refresh_refused e h] at hok
    cases hok
  · simp [refresh, h] at hok
  · obtain rfl : claims = claims' := Except.ok.inj (hclaims.symm.trans hclaims')
    rcases refresh_rotated h with hrefresh | hrefresh <;> rw [hrefresh] at hok ⊢
    · obtain rfl : w.draws.rawToken = k := Option.some.inj hok
      obtain ⟨-, hfamily, hfresh, rfl⟩ := issueRefreshToken_ok hissue
      obtain ⟨hdigest, -⟩ := issued_token hissue
      have hne : token.jti ≠ row.jti := fun heq => hfresh (heq ▸ List.mem_map_of_mem hmem)
      refine ⟨row.rotated w.now token.jti, mem_patch.mpr ⟨row, List.mem_append_left _ hmem, ?_⟩,
        token, mem_patch_of_not (List.mem_append_right _ List.mem_cons_self) (by simpa using hne),
        hjti, hrow, rfl, hdigest, hfamily⟩
      simp
    · cases hok

/-- The second use of a token revokes its family. -/
theorem refresh_second_use (hvalid : ValidTokens db) {w : RefreshDraws} {claims : TokenClaims}
    {row : RefreshToken} (hclaims : decodeRefreshToken env rawToken client w.now = .ok claims)
    (hmem : row ∈ db.refreshTokens) (hjti : row.jti = claims.jti)
    (hdigest : row.tokenDigest = env.hash rawToken) (hconsumed : row.consumed) :
    refresh env client db rawToken w = (revokeRefreshFamily db row.familyId w.now, none) := by
  have hpresented : presentedToken env db rawToken claims = .ok row := by
    simp only [presentedToken, bind_ok, orFail_ok, ensure_ok, pure_ok]
    exact ⟨row, hjti ▸ find_of_mem hvalid hmem, (), hdigest, rfl⟩
  have hrotate : rotateRefreshToken env db rawToken client w.draws w.now =
      (revokeRefreshFamily db row.familyId w.now,
        .error (authTokenError "재사용된 인증 토큰입니다. 다시 로그인해 주세요.")) := by
    have hread : (do
        let claims ← decodeRefreshToken env rawToken client w.now
        let row ← presentedToken env db rawToken claims
        pure (claims, row)) = .ok (claims, row) := by
      simp only [hclaims, bind_ok, pure_ok]
      exact ⟨claims, rfl, row, hpresented, rfl⟩
    rw [rotateRefreshToken, hread]
    exact if_pos hconsumed
  simp [refresh, refreshAccessToken, hrotate]

/-- Two tabs of a browser have sent the cookie of a login. -/
def twoTabs : System IdentityDb ℕ String :=
  run (System.step (server tabEnv "fan")) (System.start { users := [tabFan] })
    [.login 0 ⟨tabFan, tabDraws "t1", 0⟩, .send 0 0, .send 0 1]

end

end RefreshProtocol

end Fanfolio
