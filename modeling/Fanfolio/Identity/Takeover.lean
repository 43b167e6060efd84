import Fanfolio.Identity.Social

/-!
# Linking an account by its email

A login with a new identity reaches an existing fan only by the email of the profile. The email of
a Google profile is verified; a Kakao profile is taken as it is.
-/

namespace Fanfolio

open Framework

/-- The provider asserts that the email of the profile is verified. -/
def emailVerified (provider : String) : Option ProviderValue → Bool
  | some (.dict profile) =>
    if provider = "google" then ProviderValue.isTrue (ProviderDict.get profile "email_verified")
    else ProviderValue.isTrue ((kakaoAccount profile).get "is_email_verified")
  | _ => false

/-- One login: the settings, the answers of the provider and the identifiers drawn. -/
structure SocialLogin where
  settings : OAuthSettings
  provider : String
  tokenReply : Option ProviderValue
  profileReply : Option ProviderValue
  draws : SocialDraws

namespace SocialLogin

variable (pythonLower lower : String → String) (db : IdentityDb) (login : SocialLogin)

/-- `fetch_oauth_profile`. -/
def fetch : Except Failure OAuthProfile :=
  fetchOauthProfile pythonLower login.settings login.provider login.tokenReply login.profileReply

/-- Whatever fan the login reaches that it did not create, and that the identity was not linked
to, is reached by a verified email. -/
def LinksVerified : Prop :=
  ∀ profile user db', login.fetch pythonLower = .ok profile →
    upsertSocialUser lower db profile login.draws = .ok (user, db') →
    user.id ∈ db.users.map (·.id) →
    (∀ account, db.socialAccount profile.provider profile.subject = some account →
      account.userId ≠ user.id) →
    emailVerified login.provider login.profileReply

/-- A Kakao profile whose email is not said to be verified, of an identity that is linked to no
fan, where a fan holds the email and the login can write to it. -/
def UnverifiedMatch : Prop :=
  login.provider = "kakao" ∧ ¬emailVerified login.provider login.profileReply ∧
    ∃ profile, login.fetch pythonLower = .ok profile ∧ profile.linkedFan db = none ∧
      ∃ fan, profile.knownFan db = some fan ∧
        ((db.socialAccount profile.provider profile.subject).isSome →
          profile.FitsRow lower db fan)

end SocialLogin

section

variable {pythonLower lower : String → String} {db : IdentityDb} {login : SocialLogin}
  {profile : OAuthProfile}

theorem providerConfig_ok {settings : OAuthSettings} {provider : String}
    {config : String × String} (h : providerConfig settings provider = .ok config) :
    provider = "google" ∨ provider = "kakao" := by
  unfold providerConfig at h
  split at h
  · exact .inl (by assumption)
  · split at h
    · exact .inr (by assumption)
    · cases h

/-- A profile comes from one of the two providers, and a Google profile has a verified email. -/
theorem fetch_ok (h : login.fetch pythonLower = .ok profile) :
    (login.provider = "google" ∨ login.provider = "kakao") ∧
      (login.provider = "google" → emailVerified login.provider login.profileReply) := by
  simp only [SocialLogin.fetch, fetchOauthProfile, ensureProviderConfigured, bind_ok] at h
  obtain ⟨_, ⟨_, hconfig, -⟩, _, -, _, -, body, hbody, values, hvalues, -⟩ := h
  refine ⟨providerConfig_ok hconfig, ?_⟩
  intro hgoogle
  rw [profileValues, if_pos hgoogle, googleProfile] at hvalues
  simp only [bind_ok, ensure_ok] at hvalues
  obtain ⟨_, hverified, -⟩ := hvalues
  unfold providerRequest at hbody
  split at hbody
  · rename_i hreply
    rw [hreply, emailVerified, if_pos hgoogle, Except.ok.inj hbody]
    exact hverified
  · cases hbody

theorem fanForProfile_user {userId : UserId} {user : Account} {db' : IdentityDb}
    (h : fanForProfile lower db profile userId = .ok (user, db')) :
    profile.knownFan db = some user ∨ user.id = userId := by
  cases hknown : profile.knownFan db with
  | some fan =>
    rw [fanForProfile_known hknown] at h
    exact .inl (congrArg some (Prod.mk.inj (Except.ok.inj h)).1)
  | none =>
    simp only [fanForProfile, hknown, bind_ok, pure_ok, Prod.mk.injEq] at h
    obtain ⟨_, -, rfl, -⟩ := h
    exact .inr rfl

/-- The fan that a login returns is the one it is linked to, the one its email finds, or new. -/
theorem upsert_user (hdb : db.Valid lower) {draws : SocialDraws} {user : Account}
    {db' : IdentityDb} (h : upsertSocialUser lower db profile draws = .ok (user, db')) :
    (∃ account, db.socialAccount profile.provider profile.subject = some account ∧
      account.userId = user.id) ∨
    (profile.linkedFan db = none ∧ ∃ fan, profile.knownFan db = some fan ∧ fan.id = user.id) ∨
    user.id = draws.userId := by
  cases haccount : db.socialAccount profile.provider profile.subject with
  | none =>
    obtain ⟨db₁, hfound, -⟩ := (upsert_new haccount).mp h
    rcases fanForProfile_user hfound with hknown | hnew
    · exact .inr (.inl ⟨by simp [OAuthProfile.linkedFan, haccount], user, hknown, rfl⟩)
    · exact .inr (.inr hnew)
  | some account =>
    cases hlinked : profile.linkedFan db with
    | some fan =>
      obtain ⟨account', haccount', hfan, hrole⟩ := linkedFan_some hlinked
      rw [haccount] at haccount'
      obtain rfl := Option.some.inj haccount'
      obtain ⟨owner, db₁, howner, -, rfl, -⟩ := (upsert_existing haccount hfan).mp h
      rw [ownerForProfile, if_pos hrole] at howner
      obtain ⟨rfl, -⟩ := Prod.mk.inj (Except.ok.inj howner)
      exact .inl ⟨account, rfl, (IdentityDb.findUser_mem hfan).2.symm⟩
    | none =>
      obtain ⟨linked, hfound, hrole⟩ := linkedFan_none hdb hlinked haccount
      obtain ⟨owner, db₁, howner, -, rfl, -⟩ := (upsert_existing haccount hfound).mp h
      rw [ownerForProfile, if_neg hrole] at howner
      rcases fanForProfile_user howner with hknown | hnew
      · exact .inr (.inl ⟨rfl, owner, hknown, rfl⟩)
      · exact .inr (.inr hnew)

/-- A fan found by the email of an identity that is linked to no fan was not linked to it. -/
theorem knownFan_not_linked (hdb : db.Valid lower) (hlinked : profile.linkedFan db = none)
    {fan : Account} (hknown : profile.knownFan db = some fan) {account : SocialAccount}
    (haccount : db.socialAccount profile.provider profile.subject = some account) :
    account.userId ≠ fan.id := by
  intro hid
  obtain ⟨hmem, hfan, -⟩ := knownFan_mem hknown
  obtain ⟨linked, hfound, hrole⟩ := linkedFan_none hdb hlinked haccount
  obtain ⟨hmem', hid'⟩ := IdentityDb.findUser_mem hfound
  rw [eq_of_unique hdb.userIds hmem' hmem (hid'.trans hid)] at hrole
  exact hrole hfan

/-- A login that reaches the fan of its email returns that fan. -/
theorem upsert_known_user (hdb : db.Valid lower) {draws : SocialDraws}
    (hlinked : profile.linkedFan db = none) {fan user : Account} {db' : IdentityDb}
    (hknown : profile.knownFan db = some fan)
    (h : upsertSocialUser lower db profile draws = .ok (user, db')) : user.id = fan.id := by
  have hfound : fanForProfile lower db profile draws.userId = .ok (fan, db) :=
    fanForProfile_known hknown
  cases haccount : db.socialAccount profile.provider profile.subject with
  | none =>
    obtain ⟨db₁, hnew, -⟩ := (upsert_new haccount).mp h
    rw [hfound] at hnew
    rw [(Prod.mk.inj (Except.ok.inj hnew)).1]
  | some account =>
    obtain ⟨linked, hfoundLinked, hrole⟩ := linkedFan_none hdb hlinked haccount
    obtain ⟨owner, db₁, howner, -, rfl, -⟩ := (upsert_existing haccount hfoundLinked).mp h
    rw [ownerForProfile, if_neg hrole, hfound] at howner
    obtain ⟨rfl, -⟩ := Prod.mk.inj (Except.ok.inj howner)
    rfl

theorem upsert_known_fits (hdb : db.Valid lower) {draws : SocialDraws}
    (hlinked : profile.linkedFan db = none) {fan user : Account} {db' : IdentityDb}
    (hknown : profile.knownFan db = some fan)
    (h : upsertSocialUser lower db profile draws = .ok (user, db'))
    (hsome : (db.socialAccount profile.provider profile.subject).isSome) :
    profile.FitsRow lower db fan := by
  obtain ⟨account, haccount⟩ := Option.isSome_iff_exists.mp hsome
  obtain ⟨linked, hfoundLinked, hrole⟩ := linkedFan_none hdb hlinked haccount
  obtain ⟨owner, db₁, howner, hcheck, -, -⟩ := (upsert_existing haccount hfoundLinked).mp h
  rw [ownerForProfile, if_neg hrole, fanForProfile_known hknown] at howner
  obtain ⟨rfl, rfl⟩ := Prod.mk.inj (Except.ok.inj howner)
  obtain ⟨hmem, hfan, -⟩ := knownFan_mem hknown
  exact (checkUser_refreshed hdb hmem hfan).mp hcheck

/-- A login reaches an existing fan by a verified email only, exactly unless it is one with an
unverified Kakao email that a fan holds. -/
theorem linksVerified_iff (hdb : db.Valid lower) (hdraws : login.draws.Fresh db) :
    login.LinksVerified pythonLower lower db ↔ ¬login.UnverifiedMatch pythonLower lower db := by
  constructor
  · rintro h ⟨-, hunverified, profile, hfetch, hlinked, fan, hknown, hfits⟩
    obtain ⟨user, db', hok, -⟩ := (upsert_known hdb hdraws hlinked hknown).mpr hfits
    have huser : user.id = fan.id := upsert_known_user hdb hlinked hknown hok
    refine hunverified (h profile user db' hfetch hok ?_ ?_)
    · rw [huser]
      exact List.mem_map_of_mem (knownFan_mem hknown).1
    · intro account haccount
      rw [huser]
      exact knownFan_not_linked hdb hlinked hknown haccount
  · intro h profile user db' hfetch hok hexisted hother
    by_contra hunverified
    obtain ⟨hprovider, hgoogle⟩ := fetch_ok hfetch
    have hkakao : login.provider = "kakao" := hprovider.resolve_left fun hp =>
      hunverified (hgoogle hp)
    rcases upsert_user hdb hok with ⟨account, haccount, hid⟩ | ⟨hlinked, fan, hknown, -⟩ | hnew
    · exact hother account haccount hid
    · exact h ⟨hkakao, hunverified, profile, hfetch, hlinked, fan, hknown,
        upsert_known_fits hdb hlinked hknown hok⟩
    · exact hdraws.userId (hnew ▸ hexisted)

end

/-- A Kakao login whose profile carries the email of the one fan. -/
def kakaoLogin (verified : Bool) : SocialLogin :=
  { settings := { kakaoClientId := "client", kakaoClientSecret := "secret" }
    provider := "kakao"
    tokenReply := some (.dict [("access_token", .str "token")])
    profileReply := some (.dict [("id", .int 7), ("kakao_account", .dict
      [("email", .str "a@example.com"), ("is_email_verified", .bool verified)])])
    draws := ⟨"user_b", "social_b"⟩ }

theorem linksVerified_kakao : (kakaoLogin true).LinksVerified id id oneFan :=
  by
  rw [linksVerified_iff oneFan_valid oneFan_fresh]
  exact fun h => h.2.1 (by decide)

/-- An unverified Kakao email links the identity to the fan that holds it. -/
theorem linksVerified_kakao_unverified :
    oneFan.Valid id ∧ (kakaoLogin false).draws.Fresh oneFan ∧
      ¬(kakaoLogin false).LinksVerified id id oneFan := by
  refine ⟨oneFan_valid, oneFan_fresh, ?_⟩
  intro h
  have hverified := h ⟨"kakao", "7", some "a@example.com", none, none⟩
    { id := "user_a", email := some "a@example.com", nickname := some "별빛" }
    { oneFan with socialAccounts := [⟨"social_b", "kakao", "7", "user_a", some "a@example.com"⟩] }
    (by decide) (by decide) (by decide) (by decide)
  exact absurd hverified (by decide)

end Fanfolio
