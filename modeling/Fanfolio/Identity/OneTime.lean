import Fanfolio.Framework.RowLocks
import Fanfolio.Framework.Run
import Fanfolio.Identity.System

/-!
# One-time links, states and codes

The consumers of a state or of an exchange code lock its row. The two consumers of a magic link
read it without a lock, and write that it is consumed whatever has become of it.
-/

namespace Fanfolio

open Framework

/-- A row that may be used once, by its key. -/
inductive OneTimeRow where
  | link (tokenHash : String)
  | state (stateHash : String)
  | code (codeHash : String)
deriving DecidableEq, Repr

/-- A committed use: when its check was made, and what the row was at the commit. -/
structure OneTimeUse where
  row : OneTimeRow
  checkedAt : Time
  expiresAt : Time
  consumedBefore : Bool
deriving DecidableEq, Repr

/-- The committed tables, and the uses that have succeeded. -/
structure OneTimeData where
  db : IdentityDb
  uses : List OneTimeUse := []
deriving DecidableEq, Repr

/-- What a request that has passed its check is about. -/
inductive OneTimePhase where
  | idle
  | verifying (link : MagicLink) (checkedAt : Time)
  | resetting (link : MagicLink) (checkedAt : Time)
  | returning (state : OAuthState) (checkedAt : Time)
  | exchanging (code : OAuthExchangeCode) (checkedAt : Time)
deriving DecidableEq, Repr

inductive OneTimeAction where
  | requestLink (email purpose token : String) (now : Time)
  | createState (provider client redirectUri rawState : String) (expiresAt : Time)
  /-- `verify_magic_link` reads the link. -/
  | readLink (worker : Nat) (token : String) (now : Time)
  | finishVerify (worker : Nat) (userId : UserId) (sessionToken : String) (now : Time)
  /-- `confirm_fan_password_reset` reads the link. -/
  | readResetLink (worker : Nat) (token : String) (now : Time)
  | finishReset (worker : Nat) (passwordHash : String) (now : Time)
  /-- `consume_oauth_state` locks the row. -/
  | lockState (worker : Nat) (provider rawState : String) (now : Time)
  | finishCallback (worker : Nat) (tokenReply profileReply : Option ProviderValue)
      (draws : SocialDraws) (rawCode : String) (now : Time)
  /-- `exchange_code_for_tokens` locks the row. -/
  | lockCode (worker : Nat) (rawCode client : String) (now : Time)
  | finishExchange (worker : Nat) (draws : TokenDraws) (now : Time)
  | abort (worker : Nat)

abbrev OneTime := RowLocks Nat OneTimeRow OneTimeData OneTimePhase

namespace OneTime

/-- The expiry of a row, and when it was consumed. -/
def entry (db : IdentityDb) : OneTimeRow → Option (Time × Option Time)
  | .link tokenHash => (db.findMagicLink tokenHash).map fun row => (row.expiresAt, row.consumedAt)
  | .state stateHash => (db.findOauthState stateHash).map fun row => (row.expiresAt, row.consumedAt)
  | .code codeHash => (db.findExchangeCode codeHash).map fun row => (row.expiresAt, row.consumedAt)

/-- The row that the request has checked, its expiry and the time of the check. -/
def checked : OneTimePhase → Option (OneTimeRow × Time × Time)
  | .idle => none
  | .verifying link checkedAt => some (.link link.tokenHash, link.expiresAt, checkedAt)
  | .resetting link checkedAt => some (.link link.tokenHash, link.expiresAt, checkedAt)
  | .returning state checkedAt => some (.state state.stateHash, state.expiresAt, checkedAt)
  | .exchanging code checkedAt => some (.code code.codeHash, code.expiresAt, checkedAt)

/-- A request commits what it does with the row that it has checked. -/
def finish (s : OneTime) (w : Nat) (result : Except Failure IdentityDb) : OneTime :=
  match checked (s.phase w), result with
  | some (row, expiresAt, checkedAt), .ok db =>
    let use : OneTimeUse :=
      { row := row, checkedAt := checkedAt, expiresAt := expiresAt
        consumedBefore := (entry s.committed.db row).any (·.2.isSome) }
    s.release w { db := db, uses := use :: s.committed.uses } .idle
  | _, _ => s.release w s.committed .idle

variable (env : AuthEnv)

/-- `create_oauth_state`. -/
def createState (db : IdentityDb) (provider client redirectUri rawState : String)
    (expiresAt : Time) : Except Failure IdentityDb := do
  ensure (env.hash rawState ∉ db.oauthStates.map (·.stateHash)) (.integrity "oauth_states_pkey")
  pure { db with
    oauthStates := db.oauthStates ++
      [{ stateHash := env.hash rawState, provider := provider, client := client
         redirectUri := redirectUri, expiresAt := expiresAt }] }

/-- One step of a request; a step that waits for a lock leaves the state as it is. -/
def step (s : OneTime) : OneTimeAction → OneTime
  | .requestLink email purpose token now =>
    { s with committed := { s.committed with
      db := s.committed.db.attempt (requestMagicLink env s.committed.db email purpose token now) } }
  | .createState provider client redirectUri rawState expiresAt =>
    { s with committed := { s.committed with
      db := s.committed.db.attempt
        (createState env s.committed.db provider client redirectUri rawState expiresAt) } }
  | .readLink w token now =>
    match s.phase w, usableLink env s.committed.db token now with
    | .idle, some link => s.move w (.verifying link now)
    | _, _ => s
  | .finishVerify w userId sessionToken now =>
    match s.phase w with
    | .verifying link _ => finish s w
        (Prod.snd <$> completeMagicLink env s.committed.db link userId sessionToken now)
    | _ => s
  | .readResetLink w token now =>
    match s.phase w, resetLink env s.committed.db token now with
    | .idle, some link => s.move w (.resetting link now)
    | _, _ => s
  | .finishReset w passwordHash now =>
    match s.phase w with
    | .resetting link _ => finish s w (completePasswordReset s.committed.db link passwordHash now)
    | _ => s
  | .lockState w provider rawState now =>
    match s.phase w, usableState env s.committed.db provider rawState now with
    | .idle, some state =>
      if s.owner (.state state.stateHash) = none then
        s.acquire w (.state state.stateHash) (.returning state now)
      else s
    | _, _ => s
  | .finishCallback w tokenReply profileReply draws rawCode now =>
    match s.phase w with
    | .returning state _ => finish s w
        (completeCallback env (s.committed.db.consumeState state.stateHash now) state
          state.provider tokenReply profileReply draws rawCode now)
    | _ => s
  | .lockCode w rawCode client now =>
    match s.phase w, usableCode env s.committed.db rawCode client now with
    | .idle, some code =>
      if s.owner (.code code.codeHash) = none then
        s.acquire w (.code code.codeHash) (.exchanging code now)
      else s
    | _, _ => s
  | .finishExchange w draws now =>
    match s.phase w with
    | .exchanging code _ => finish s w
        (Prod.snd <$> completeExchange env s.committed.db code code.client draws now)
    | _ => s
  | .abort w => s.release w s.committed .idle

/-- Any tables, and nobody at work. -/
def start (db : IdentityDb) : OneTime :=
  { committed := { db := db }, owner := fun _ => none, phase := fun _ => .idle }

/-- Every row has been used at most once, before it expired, and not once it was consumed. -/
def Safe (s : OneTime) : Prop :=
  (s.committed.uses.map (·.row)).Nodup ∧
    ∀ use ∈ s.committed.uses, use.consumedBefore = false ∧ use.checkedAt < use.expiresAt

/-- The request is at work on the magic link. -/
def Uses (p : OneTimePhase) (tokenHash : String) : Prop :=
  ∃ expiresAt checkedAt, checked p = some (.link tokenHash, expiresAt, checkedAt)

/-- Nobody reads a magic link while another request is at work on it. -/
def Alone (s : OneTime) : OneTimeAction → Prop
  | .readLink w token _ => ∀ w', w' ≠ w → ¬Uses (s.phase w') (env.hash token)
  | .readResetLink w token _ => ∀ w', w' ≠ w → ¬Uses (s.phase w') (env.hash token)
  | _ => True

/-- The rows that a request has locked. -/
def Holds : OneTimePhase → OneTimeRow → Prop
  | .returning state _, row => row = .state state.stateHash
  | .exchanging code _, row => row = .code code.codeHash
  | _, _ => False

/-- The row that a request has checked is not consumed, and was not expired. -/
def Fact (p : OneTimePhase) (data : OneTimeData) : Prop :=
  ∀ row expiresAt checkedAt, checked p = some (row, expiresAt, checkedAt) →
    entry data.db row = some (expiresAt, none) ∧ checkedAt < expiresAt

/-- A magic link has one request at work on it. -/
def Lone (phase : Nat → OneTimePhase) : Prop :=
  ∀ w w' tokenHash, Uses (phase w) tokenHash → Uses (phase w') tokenHash → w = w'

structure Sound (s : OneTime) : Prop where
  knows : s.Knows Holds Fact
  alone : Lone s.phase
  spent : ∀ use ∈ s.committed.uses, ∃ expiresAt consumedAt,
    entry s.committed.db use.row = some (expiresAt, some consumedAt)
  safe : Safe s

/-- The tables of one-time rows stay as they are. -/
def SameRows (db db' : IdentityDb) : Prop :=
  db'.magicLinks = db.magicLinks ∧ db'.oauthStates = db.oauthStates ∧
    db'.exchangeCodes = db.exchangeCodes

/-- Rows that are there stay as they are. -/
def Adds (db db' : IdentityDb) : Prop :=
  ∀ row value, entry db row = some value → entry db' row = some value

/-- The row is consumed, and the others stay as they are. -/
def Consumes (db db' : IdentityDb) (row : OneTimeRow) : Prop :=
  (∃ expiresAt consumedAt, entry db' row = some (expiresAt, some consumedAt)) ∧
    ∀ row' value, row' ≠ row → entry db row' = some value → entry db' row' = some value

section

variable {env : AuthEnv} {s : OneTime} {db db' db₁ : IdentityDb} {w : Nat} {row : OneTimeRow}
  {now : Time}

theorem SameRows.trans (h : SameRows db db₁) (h' : SameRows db₁ db') : SameRows db db' :=
  ⟨h'.1.trans h.1, h'.2.1.trans h.2.1, h'.2.2.trans h.2.2⟩

theorem SameRows.entry (h : SameRows db db') (row : OneTimeRow) :
    OneTime.entry db' row = OneTime.entry db row := by
  obtain ⟨hlinks, hstates, hcodes⟩ := h
  cases row with
  | link tokenHash => simp only [OneTime.entry, IdentityDb.findMagicLink, hlinks]
  | state stateHash => simp only [OneTime.entry, IdentityDb.findOauthState, hstates]
  | code codeHash => simp only [OneTime.entry, IdentityDb.findExchangeCode, hcodes]

theorem SameRows.consumes (h : SameRows db db') (hconsumes : Consumes db' db₁ row) :
    Consumes db db₁ row :=
  ⟨hconsumes.1, fun row' value hne hold => hconsumes.2 row' value hne ((h.entry row').trans hold)⟩

theorem Consumes.same (h : Consumes db db' row) (hsame : SameRows db' db₁) :
    Consumes db db₁ row := by
  refine ⟨?_, fun row' value hne hold => (hsame.entry row').trans (h.2 row' value hne hold)⟩
  obtain ⟨expiresAt, consumedAt, hentry⟩ := h.1
  exact ⟨expiresAt, consumedAt, (hsame.entry row).trans hentry⟩

theorem Consumes.adds (h : Consumes db db' row) (hadds : Adds db' db₁) : Consumes db db₁ row := by
  refine ⟨?_, fun row' value hne hold => hadds row' value (h.2 row' value hne hold)⟩
  obtain ⟨expiresAt, consumedAt, hentry⟩ := h.1
  exact ⟨expiresAt, consumedAt, hadds row _ hentry⟩

theorem consumeMagicLink_consumes {tokenHash : String}
    (h : (entry db (.link tokenHash)).isSome) :
    Consumes db (db.consumeMagicLink tokenHash now) (.link tokenHash) := by
  constructor
  · rw [entry, Option.isSome_map] at h
    obtain ⟨link, hlink⟩ := Option.isSome_iff_exists.mp h
    have hconsumed : (db.consumeMagicLink tokenHash now).findMagicLink tokenHash =
        some { link with consumedAt := some now } :=
      (find_patch_key (by intro _; rfl) _ _).trans (congrArg _ hlink)
    exact ⟨link.expiresAt, now, by rw [entry, hconsumed]; rfl⟩
  · intro row' value hne hold
    cases row' with
    | link key =>
      have hkey : key ≠ tokenHash := fun heq => hne (heq ▸ rfl)
      have hkept : (db.consumeMagicLink tokenHash now).findMagicLink key = db.findMagicLink key :=
        find_patch_other (by intro _; rfl) _ hkey
      rwa [entry, hkept]
    | state key => exact hold
    | code key => exact hold

theorem consumeState_consumes {stateHash : String} (h : (entry db (.state stateHash)).isSome) :
    Consumes db (db.consumeState stateHash now) (.state stateHash) := by
  constructor
  · rw [entry, Option.isSome_map] at h
    obtain ⟨state, hstate⟩ := Option.isSome_iff_exists.mp h
    have hconsumed : (db.consumeState stateHash now).findOauthState stateHash =
        some { state with consumedAt := some now } :=
      (find_patch_key (by intro _; rfl) _ _).trans (congrArg _ hstate)
    exact ⟨state.expiresAt, now, by rw [entry, hconsumed]; rfl⟩
  · intro row' value hne hold
    cases row' with
    | link key => exact hold
    | state key =>
      have hkey : key ≠ stateHash := fun heq => hne (heq ▸ rfl)
      have hkept : (db.consumeState stateHash now).findOauthState key = db.findOauthState key :=
        find_patch_other (by intro _; rfl) _ hkey
      rwa [entry, hkept]
    | code key => exact hold

theorem consumeCode_consumes {codeHash : String} (h : (entry db (.code codeHash)).isSome) :
    Consumes db (db.consumeCode codeHash now) (.code codeHash) := by
  constructor
  · rw [entry, Option.isSome_map] at h
    obtain ⟨code, hcode⟩ := Option.isSome_iff_exists.mp h
    have hconsumed : (db.consumeCode codeHash now).findExchangeCode codeHash =
        some { code with consumedAt := some now } :=
      (find_patch_key (by intro _; rfl) _ _).trans (congrArg _ hcode)
    exact ⟨code.expiresAt, now, by rw [entry, hconsumed]; rfl⟩
  · intro row' value hne hold
    cases row' with
    | link key => exact hold
    | state key => exact hold
    | code key =>
      have hkey : key ≠ codeHash := fun heq => hne (heq ▸ rfl)
      have hkept : (db.consumeCode codeHash now).findExchangeCode key = db.findExchangeCode key :=
        find_patch_other (by intro _; rfl) _ hkey
      rwa [entry, hkept]

theorem SameRows.refl (db : IdentityDb) : SameRows db db := ⟨rfl, rfl, rfl⟩

theorem insertUser_same {lower : String → String} {user : Account}
    (h : db.insertUser lower user = .ok db') : SameRows db db' := by
  obtain ⟨-, -, rfl⟩ := IdentityDb.insertUser_ok.mp h
  exact .refl db

theorem linkAccount_same {email : String} {userId : UserId} {user : Account}
    (h : linkAccount env db email userId = .ok (user, db')) : SameRows db db' := by
  unfold linkAccount at h
  split at h
  · obtain ⟨-, rfl⟩ := Prod.mk.inj (Except.ok.inj h)
    exact .refl db
  · simp only [bind_ok, pure_ok] at h
    obtain ⟨db₁, hinsert, heq⟩ := h
    obtain ⟨-, rfl⟩ := Prod.mk.inj heq
    exact insertUser_same hinsert

theorem openSession_same (userId : UserId) (sessionToken : String) :
    SameRows db (openSession env db userId sessionToken) := by
  unfold openSession
  split <;> exact .refl db

theorem completeMagicLink_consumes {link : MagicLink} {userId linkedId : UserId}
    {sessionToken : String} (hlink : (entry db (.link link.tokenHash)).isSome)
    (h : completeMagicLink env db link userId sessionToken now = .ok (linkedId, db')) :
    Consumes db db' (.link link.tokenHash) := by
  simp only [completeMagicLink, bind_ok, pure_ok] at h
  obtain ⟨⟨user, db₁⟩, haccount, heq⟩ := h
  obtain ⟨-, rfl⟩ := Prod.mk.inj heq
  have hsame := linkAccount_same haccount
  refine hsame.consumes ((consumeMagicLink_consumes ?_).same (openSession_same _ _))
  rw [hsame.entry]
  exact hlink

theorem completePasswordReset_consumes {link : MagicLink} {passwordHash : String}
    (hlink : (entry db (.link link.tokenHash)).isSome)
    (h : completePasswordReset db link passwordHash now = .ok db') :
    Consumes db db' (.link link.tokenHash) := by
  simp only [completePasswordReset, bind_ok, pure_ok] at h
  obtain ⟨user, -, rfl⟩ := h
  exact consumeMagicLink_consumes hlink

theorem fanForProfile_same {lower : String → String} {profile : OAuthProfile} {userId : UserId}
    {user : Account} (h : fanForProfile lower db profile userId = .ok (user, db')) :
    SameRows db db' := by
  unfold fanForProfile at h
  split at h
  · obtain ⟨-, rfl⟩ := Prod.mk.inj (Except.ok.inj h)
    exact .refl db
  · simp only [bind_ok, pure_ok] at h
    obtain ⟨db₁, hinsert, heq⟩ := h
    obtain ⟨-, rfl⟩ := Prod.mk.inj heq
    exact insertUser_same hinsert

theorem upsertSocialUser_same {lower : String → String} {profile : OAuthProfile}
    {draws : SocialDraws} {user : Account}
    (h : upsertSocialUser lower db profile draws = .ok (user, db')) : SameRows db db' := by
  unfold upsertSocialUser at h
  split at h
  · simp only [bind_ok, IdentityDb.updateUser_ok, pure_ok] at h
    obtain ⟨linked, -, ⟨owner, db₁⟩, howner, _, ⟨-, rfl⟩, heq⟩ := h
    obtain ⟨-, rfl⟩ := Prod.mk.inj heq
    have hsame : SameRows db db₁ := by
      unfold ownerForProfile at howner
      split at howner
      · obtain ⟨-, rfl⟩ := Prod.mk.inj (Except.ok.inj howner)
        exact .refl db
      · exact fanForProfile_same howner
    exact hsame.trans ⟨rfl, rfl, rfl⟩
  · simp only [bind_ok, IdentityDb.insertSocialAccount, pure_ok] at h
    obtain ⟨⟨owner, db₁⟩, howner, _, ⟨_, -, _, -, rfl⟩, heq⟩ := h
    obtain ⟨-, rfl⟩ := Prod.mk.inj heq
    exact (fanForProfile_same howner).trans ⟨rfl, rfl, rfl⟩

theorem createExchangeCode_adds {user : Account} {client rawCode : String}
    (h : createExchangeCode env db user client rawCode now = .ok db') : Adds db db' := by
  simp only [createExchangeCode, bind_ok, pure_ok] at h
  obtain ⟨_, -, rfl⟩ := h
  intro row value hold
  cases row with
  | link key => exact hold
  | state key => exact hold
  | code key =>
    simp only [entry, Option.map_eq_some_iff] at hold ⊢
    obtain ⟨code, hcode, rfl⟩ := hold
    exact ⟨code, find_insert_of_some hcode _, rfl⟩

theorem requestMagicLink_adds {email purpose token : String}
    (h : requestMagicLink env db email purpose token now = .ok db') : Adds db db' := by
  simp only [requestMagicLink, bind_ok, pure_ok] at h
  obtain ⟨_, -, rfl⟩ := h
  intro row value hold
  cases row with
  | link key =>
    simp only [entry, Option.map_eq_some_iff] at hold ⊢
    obtain ⟨link, hlink, rfl⟩ := hold
    exact ⟨link, find_insert_of_some hlink _, rfl⟩
  | state key => exact hold
  | code key => exact hold

theorem createState_adds {provider client redirectUri rawState : String} {expiresAt : Time}
    (h : createState env db provider client redirectUri rawState expiresAt = .ok db') :
    Adds db db' := by
  simp only [createState, bind_ok, pure_ok] at h
  obtain ⟨_, -, rfl⟩ := h
  intro row value hold
  cases row with
  | link key => exact hold
  | state key =>
    simp only [entry, Option.map_eq_some_iff] at hold ⊢
    obtain ⟨state, hstate, rfl⟩ := hold
    exact ⟨state, find_insert_of_some hstate _, rfl⟩
  | code key => exact hold

theorem SameRows.adds (h : SameRows db db') : Adds db db' :=
  fun row _ hold => (h.entry row).trans hold

theorem Adds.trans (h : Adds db db₁) (h' : Adds db₁ db') : Adds db db' :=
  fun row value hold => h' row value (h row value hold)

theorem completeCallback_adds {state : OAuthState} {provider rawCode : String}
    {tokenReply profileReply : Option ProviderValue} {draws : SocialDraws}
    (h : completeCallback env db state provider tokenReply profileReply draws rawCode now =
      .ok db') : Adds db db' := by
  simp only [completeCallback, bind_ok] at h
  obtain ⟨_, -, ⟨user, db₁⟩, hupsert, hcode⟩ := h
  exact (upsertSocialUser_same hupsert).adds.trans (createExchangeCode_adds hcode)

theorem completeExchange_consumes {code : OAuthExchangeCode} {client : String}
    {draws : TokenDraws} {token : RefreshToken} (hcode : (entry db (.code code.codeHash)).isSome)
    (h : completeExchange env db code client draws now = .ok (token, db')) :
    Consumes db db' (.code code.codeHash) := by
  simp only [completeExchange, bind_ok] at h
  obtain ⟨user, -, hissue⟩ := h
  obtain ⟨-, -, -, rfl⟩ := issueRefreshToken_ok hissue
  exact (consumeCode_consumes hcode).same ⟨rfl, rfl, rfl⟩

theorem Lone.update {phase : Nat → OneTimePhase} (h : Lone phase) {p : OneTimePhase}
    (hp : ∀ tokenHash, Uses p tokenHash → ∀ w', w' ≠ w → ¬Uses (phase w') tokenHash) :
    Lone (Function.update phase w p) := by
  intro w₁ w₂ tokenHash h₁ h₂
  by_cases hw₁ : w₁ = w
  · by_cases hw₂ : w₂ = w
    · rw [hw₁, hw₂]
    · subst hw₁
      rw [Function.update_self] at h₁
      rw [Function.update_of_ne hw₂] at h₂
      exact absurd h₂ (hp tokenHash h₁ w₂ hw₂)
  · rw [Function.update_of_ne hw₁] at h₁
    by_cases hw₂ : w₂ = w
    · subst hw₂
      rw [Function.update_self] at h₂
      exact absurd h₁ (hp tokenHash h₂ w₁ hw₁)
    · rw [Function.update_of_ne hw₂] at h₂
      exact h w₁ w₂ tokenHash h₁ h₂

theorem Lone.idle {phase : Nat → OneTimePhase} (h : Lone phase) (w : Nat) :
    Lone (Function.update phase w .idle) :=
  h.update (by rintro tokenHash ⟨_, _, ⟨⟩⟩)

/-- A request that ends without a use. -/
theorem Sound.release_same (h : Sound s) (w : Nat) : Sound (s.release w s.committed .idle) :=
  ⟨h.knows.release_others (fun _ h => h.elim) (fun _ _ _ h => by cases h)
    fun _ _ _ hfact => hfact, h.alone.idle w, h.spent, h.safe⟩

/-- The rows of two requests at work differ. -/
theorem Sound.other_row (h : Sound s) {w' : Nat} (hw : w' ≠ w)
    (hdisjoint : ∀ r, Holds (s.phase w') r → ¬Holds (s.phase w) r) {row' : OneTimeRow}
    {expiresAt checkedAt expiresAt' checkedAt' : Time}
    (hrow : checked (s.phase w) = some (row, expiresAt, checkedAt))
    (hrow' : checked (s.phase w') = some (row', expiresAt', checkedAt')) : row' ≠ row := by
  rintro rfl
  cases row' with
  | link tokenHash => exact hw (h.alone w' w tokenHash ⟨_, _, hrow'⟩ ⟨_, _, hrow⟩)
  | state stateHash =>
    have hholds {p : OneTimePhase} {expiresAt checkedAt : Time}
        (hp : checked p = some (.state stateHash, expiresAt, checkedAt)) :
        Holds p (.state stateHash) := by
      cases p <;> cases hp
      rfl
    exact hdisjoint _ (hholds hrow') (hholds hrow)
  | code codeHash =>
    have hholds {p : OneTimePhase} {expiresAt checkedAt : Time}
        (hp : checked p = some (.code codeHash, expiresAt, checkedAt)) :
        Holds p (.code codeHash) := by
      cases p <;> cases hp
      rfl
    exact hdisjoint _ (hholds hrow') (hholds hrow)

theorem Sound.finish (h : Sound s) {result : Except Failure IdentityDb}
    (hconsumes : ∀ row expiresAt checkedAt, checked (s.phase w) = some (row, expiresAt, checkedAt) →
      (entry s.committed.db row).isSome → ∀ db', result = .ok db' →
        Consumes s.committed.db db' row) : Sound (OneTime.finish s w result) := by
  unfold OneTime.finish
  split
  · rename_i row expiresAt checkedAt db' hrow
    obtain ⟨hentry, htime⟩ := h.knows.facts w row expiresAt checkedAt hrow
    obtain ⟨hconsumed, hkept⟩ :=
      hconsumes row expiresAt checkedAt hrow (by rw [hentry]; rfl) db' rfl
    have hnew (use : OneTimeUse) (huse : use ∈ s.committed.uses) : use.row ≠ row := by
      intro heq
      obtain ⟨_, _, hspent⟩ := h.spent use huse
      rw [heq, hentry] at hspent
      cases hspent
    constructor
    · refine h.knows.release_others (fun _ h => h.elim) (fun _ _ _ h => by cases h) ?_
      intro w' hw hdisjoint hfact row' expiresAt' checkedAt' hrow'
      obtain ⟨hentry', htime'⟩ := hfact row' expiresAt' checkedAt' hrow'
      exact ⟨hkept row' _ (h.other_row hw hdisjoint hrow hrow') hentry', htime'⟩
    · exact h.alone.idle w
    · intro use huse
      rcases List.mem_cons.mp huse with rfl | huse
      · exact hconsumed
      · obtain ⟨expiresAt', consumedAt', hspent⟩ := h.spent use huse
        exact ⟨expiresAt', consumedAt', hkept use.row _ (hnew use huse) hspent⟩
    · constructor
      · rw [RowLocks.release_committed, List.map_cons, List.nodup_cons]
        refine ⟨?_, h.safe.1⟩
        rintro hmem
        obtain ⟨use, huse, heq⟩ := List.mem_map.mp hmem
        exact hnew use huse heq
      · intro use huse
        rcases List.mem_cons.mp huse with rfl | huse
        · exact ⟨by rw [hentry]; rfl, htime⟩
        · exact h.safe.2 use huse
  · exact h.release_same w

/-- A commit that adds rows. -/
theorem Sound.adds (h : Sound s) (hadds : Adds s.committed.db db') :
    Sound { s with committed := { s.committed with db := db' } } := by
  refine ⟨h.knows.change ?_, h.alone, ?_, h.safe⟩
  · intro w hfact row expiresAt checkedAt hrow
    obtain ⟨hentry, htime⟩ := hfact row expiresAt checkedAt hrow
    exact ⟨hadds row _ hentry, htime⟩
  · intro use huse
    obtain ⟨expiresAt, consumedAt, hspent⟩ := h.spent use huse
    exact ⟨expiresAt, consumedAt, hadds use.row _ hspent⟩

theorem attempt_adds {x : Except Failure IdentityDb} (h : ∀ db', x = .ok db' → Adds db db') :
    Adds db (db.attempt x) := by
  cases x with
  | error e => exact fun _ _ hold => hold
  | ok db' => exact h db' rfl

theorem usableLink_entry {token : String} {link : MagicLink}
    (h : usableLink env db token now = some link) :
    entry db (.link link.tokenHash) = some (link.expiresAt, none) ∧ now < link.expiresAt ∧
      link.tokenHash = env.hash token := by
  obtain ⟨hfound, hcond⟩ := Option.filter_eq_some_iff.mp h
  have hhash : link.tokenHash = env.hash token := (mem_of_find_eq_some hfound).2
  rw [Bool.and_eq_true, Option.isNone_iff_eq_none, decide_eq_true_eq] at hcond
  exact ⟨by simp [entry, hhash, hfound, hcond.1], hcond.2, hhash⟩

theorem Sound.readLink (h : Sound s) {token : String} {link : MagicLink} {p : OneTimePhase}
    (hlone : ∀ w', w' ≠ w → ¬Uses (s.phase w') (env.hash token))
    (hp : checked p = some (.link link.tokenHash, link.expiresAt, now))
    (hlink : usableLink env s.committed.db token now = some link) : Sound (s.move w p) := by
  obtain ⟨hentry, htime, hhash⟩ := usableLink_entry hlink
  refine ⟨h.knows.move_owned ?_ ?_, h.alone.update ?_, h.spent, h.safe⟩
  · intro r hr
    cases p <;> first | exact hr.elim | cases hp
  · intro row expiresAt checkedAt hrow
    rw [hp] at hrow
    cases hrow
    exact ⟨hentry, htime⟩
  · rintro tokenHash ⟨_, _, hrow⟩
    rw [hp] at hrow
    cases hrow
    rw [hhash]
    exact hlone

theorem Sound.lockState (h : Sound s) {provider rawState : String} {state : OAuthState}
    (hfree : s.owner (.state state.stateHash) = none)
    (hstate : usableState env s.committed.db provider rawState now = some state) :
    Sound (s.acquire w (.state state.stateHash) (.returning state now)) := by
  obtain ⟨hfound, hcond⟩ := Option.filter_eq_some_iff.mp hstate
  have hhash : state.stateHash = env.hash rawState := (mem_of_find_eq_some hfound).2
  simp only [Bool.and_eq_true, Option.isNone_iff_eq_none, decide_eq_true_eq] at hcond
  refine ⟨h.knows.acquire hfree (fun _ hr => .inl hr) ?_, h.alone.update ?_, h.spent, h.safe⟩
  · intro row expiresAt checkedAt hrow
    cases hrow
    exact ⟨by simp [entry, hhash, hfound, hcond.1.2], hcond.2⟩
  · rintro tokenHash ⟨_, _, ⟨⟩⟩

theorem Sound.lockCode (h : Sound s) {rawCode client : String} {code : OAuthExchangeCode}
    (hfree : s.owner (.code code.codeHash) = none)
    (hcode : usableCode env s.committed.db rawCode client now = some code) :
    Sound (s.acquire w (.code code.codeHash) (.exchanging code now)) := by
  obtain ⟨hfound, hcond⟩ := Option.filter_eq_some_iff.mp hcode
  have hhash : code.codeHash = env.hash rawCode := (mem_of_find_eq_some hfound).2
  simp only [Bool.and_eq_true, Option.isNone_iff_eq_none, decide_eq_true_eq] at hcond
  refine ⟨h.knows.acquire hfree (fun _ hr => .inl hr) ?_, h.alone.update ?_, h.spent, h.safe⟩
  · intro row expiresAt checkedAt hrow
    cases hrow
    exact ⟨by simp [entry, hhash, hfound, hcond.1.2], hcond.2⟩
  · rintro tokenHash ⟨_, _, ⟨⟩⟩

/-- A step that reads no magic link which another request is at work on keeps the invariant. -/
theorem step_sound (h : Sound s) {a : OneTimeAction} (hguard : Alone env s a) :
    Sound (step env s a) := by
  cases a with
  | requestLink email purpose token now =>
    exact h.adds (attempt_adds fun db' hok => requestMagicLink_adds hok)
  | createState provider client redirectUri rawState expiresAt =>
    exact h.adds (attempt_adds fun db' hok => createState_adds hok)
  | readLink w token now =>
    simp only [step]
    split
    · rename_i hlink
      exact h.readLink hguard rfl hlink
    · exact h
  | finishVerify w userId sessionToken now =>
    simp only [step]
    split
    · rename_i hphase
      refine h.finish ?_
      intro row expiresAt checkedAt hrow hentry db' hok
      rw [hphase] at hrow
      cases hrow
      obtain ⟨⟨linkedId, _⟩, hcomplete, rfl⟩ := map_ok.mp hok
      exact completeMagicLink_consumes hentry hcomplete
    · exact h
  | readResetLink w token now =>
    simp only [step]
    split
    · rename_i hlink
      exact h.readLink hguard rfl (Option.filter_eq_some_iff.mp hlink).1
    · exact h
  | finishReset w passwordHash now =>
    simp only [step]
    split
    · rename_i hphase
      refine h.finish ?_
      intro row expiresAt checkedAt hrow hentry db' hok
      rw [hphase] at hrow
      cases hrow
      exact completePasswordReset_consumes hentry hok
    · exact h
  | lockState w provider rawState now =>
    simp only [step]
    split
    · split
      · rename_i hstate hfree
        exact h.lockState hfree hstate
      · exact h
    · exact h
  | finishCallback w tokenReply profileReply draws rawCode now =>
    simp only [step]
    split
    · rename_i hphase
      refine h.finish ?_
      intro row expiresAt checkedAt hrow hentry db' hok
      rw [hphase] at hrow
      cases hrow
      exact (consumeState_consumes hentry).adds (completeCallback_adds hok)
    · exact h
  | lockCode w rawCode client now =>
    simp only [step]
    split
    · split
      · rename_i hcode hfree
        exact h.lockCode hfree hcode
      · exact h
    · exact h
  | finishExchange w draws now =>
    simp only [step]
    split
    · rename_i hphase
      refine h.finish ?_
      intro row expiresAt checkedAt hrow hentry db' hok
      rw [hphase] at hrow
      cases hrow
      obtain ⟨⟨token, _⟩, hcomplete, rfl⟩ := map_ok.mp hok
      exact completeExchange_consumes hentry hcomplete
    · exact h
  | abort w => exact h.release_same w

/-- In a run in which no request reads a magic link while another is at work on it, every link,
state and code is used at most once, and not once it is consumed or expired. -/
theorem safe_of_alone {acts : List OneTimeAction}
    (hguard : Always (step env) (Alone env) (start db) acts) :
    Throughout (step env) Safe (start db) acts := by
  have hstart : Sound (start db) :=
    { knows := ⟨fun _ _ h => h.elim, fun _ _ _ _ h => by cases h⟩
      alone := by rintro w w' tokenHash ⟨_, _, ⟨⟩⟩
      spent := by simp [start]
      safe := by simp [Safe, start] }
  exact (hguard.throughout hstart fun _ _ h hguard => step_sound h hguard).imp fun _ h => h.safe

end

/-- A fan with a password, to whom a reset link was sent. -/
def linkedFan : IdentityDb :=
  { users := [fanRow "user_a" "a@example.com"]
    magicLinks := [⟨"token", "a@example.com", "reset_password", 900, none⟩] }

theorem safe_one_reset : Throughout (step plainEnv) Safe (start linkedFan)
    [.readResetLink 1 "token" 5, .finishReset 1 "new" 6, .readLink 2 "token" 7] := by
  refine safe_of_alone ⟨?_, trivial, ?_, trivial⟩
  · rintro w' - ⟨_, _, ⟨⟩⟩
  · rintro w' - ⟨_, _, hchecked⟩
    by_cases hw : w' = 1
    · subst hw
      cases hchecked
    · change checked (Function.update (Function.update (fun _ : Nat => OneTimePhase.idle) 1
        (.resetting ⟨"token", "a@example.com", "reset_password", 900, none⟩ 5)) 1 .idle w') = _
        at hchecked
      rw [Function.update_of_ne hw, Function.update_of_ne hw] at hchecked
      cases hchecked

/-- A password reset and a login that both read one link before the other commits both succeed. -/
theorem link_used_twice : ¬Throughout (step plainEnv) Safe (start linkedFan)
    [.readResetLink 1 "token" 5, .readLink 2 "token" 5, .finishReset 1 "new" 6,
      .finishVerify 2 "user_b" "session" 7] := by
  intro h
  exact absurd h.last.1 (by decide)

end OneTime

end Fanfolio
