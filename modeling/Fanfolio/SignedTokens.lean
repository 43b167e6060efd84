import Fanfolio.Cards.Collection
import Fanfolio.Design.EffectConfig
import Fanfolio.FanEvents.CheckInPass
import Fanfolio.Framework.Base64
import Fanfolio.Framework.JsonText

/-!
# Signed tokens

Check-in passes and download links are texts that the server signs under one secret. A token is the
JSON of its claims in base64, a dot, and the HMAC of what stands before it.
-/

namespace Fanfolio.SignedTokens

open Framework Framework.JsonText

/-- HMAC under `download_signing_secret`, what is read beyond ASCII and of floats, and how long a
download link lasts. -/
structure SigningEnv where
  hmac : List UInt8 → List UInt8
  digits : DecimalDigits
  readFloat : List Char → PyFloat
  decodeWide : List UInt8 → Option (List Char)
  downloadUrlTtlSeconds : Int

/-- The digits of an integer that Python converts. -/
def maxStrDigits : Nat := 4300

def readNatural (digits : List Char) : Option Nat :=
  if digits.length ≤ maxStrDigits then some (Nat.ofDigitChars 10 digits 0) else none

/-- The integer of a JSON text. -/
def readInt : List Char → Option Int
  | [] => none
  | c :: digits =>
    if c = '-' then (readNatural digits).map fun n : Nat => -(n : Int)
    else (readNatural (c :: digits)).map fun n : Nat => (n : Int)

def SigningEnv.numbers (env : SigningEnv) : NumberReader PyNumber where
  int text := (readInt text).map .int
  float text := .float (env.readFloat text)
  nan := .float .nan
  infinity negative := .float (.infinite negative)

/-- `str(n)` does not fail. -/
def isPrintable (n : Int) : Bool := (Nat.toDigits 10 n.natAbs).length ≤ maxStrDigits

def Scalar.isPrintable : Scalar → Bool
  | .str _ => true
  | .int n => SignedTokens.isPrintable n

/-- `s.encode("utf-8")`. -/
def utf8 (s : String) : List UInt8 := s.toUTF8.data.toList

/-- `detect_encoding` finds UTF-16 or UTF-32. -/
def isWide (bytes : List UInt8) : Bool :=
  [0xFE, 0xFF].isPrefixOf bytes || [0xFF, 0xFE].isPrefixOf bytes ||
    ((bytes.length == 2 || 4 ≤ bytes.length) && (bytes.take 2).contains 0)

def dropMark (bytes : List UInt8) : List UInt8 :=
  if [0xEF, 0xBB, 0xBF].isPrefixOf bytes then bytes.drop 3 else bytes

/-- `s.decode(detect_encoding(s))`. -/
def SigningEnv.decodeText (env : SigningEnv) (bytes : List UInt8) : Option (List Char) :=
  if isWide bytes then env.decodeWide bytes
  else (String.fromUTF8? ⟨(dropMark bytes).toArray⟩).map String.toList

/-- `_encode`. -/
def encode (bytes : List UInt8) : String := String.ofList (Base64.encode bytes)

def isAscii (s : String) : Bool := s.toList.all fun c => c.toNat < 128

/-- `_signature`. -/
def SigningEnv.signature (env : SigningEnv) (payload : String) : Except Failure String := do
  ensure (isAscii payload) (.unhandled "UnicodeEncodeError")
  return encode (env.hmac (utf8 payload))

/-- `_encode(json.dumps(...).encode("utf-8"))`. -/
def payloadOf (members : List (String × Scalar)) : Except Failure String := do
  ensure (members.all fun member => Scalar.isPrintable member.2) (.unhandled "ValueError")
  return encode (utf8 (String.ofList (dumps members)))

/-- What a token is made of. -/
inductive SignedClaims where
  | checkIn (eventId : EventId) (applicationId : ApplicationId) (exp : Int)
  | download (userId : UserId) (campaignId : CampaignId) (assetId : AssetId) (exp : Int)
deriving DecidableEq, Repr

namespace SignedClaims

def members : SignedClaims → List (String × Scalar)
  | checkIn eventId applicationId exp =>
    [("eventId", .str eventId), ("applicationId", .str applicationId), ("exp", .int exp)]
  | download userId campaignId assetId exp =>
    [("userId", .str userId), ("campaignId", .str campaignId), ("assetId", .str assetId),
      ("exp", .int exp)]

def exp : SignedClaims → Int
  | checkIn _ _ exp => exp
  | download _ _ _ exp => exp

/-- The claims as they are read back. -/
def entries : SignedClaims → PyEntries
  | checkIn eventId applicationId exp =>
    [("eventId", .str eventId), ("applicationId", .str applicationId), ("exp", .num (.int exp))]
  | download userId campaignId assetId exp =>
    [("userId", .str userId), ("campaignId", .str campaignId), ("assetId", .str assetId),
      ("exp", .num (.int exp))]

end SignedClaims

def SigningEnv.sign (env : SigningEnv) (claims : SignedClaims) : Except Failure String := do
  let payload ← payloadOf claims.members
  let signature ← env.signature payload
  return payload ++ "." ++ signature

/-- `create_check_in_token`. -/
def createCheckInToken (env : SigningEnv) (eventId : EventId) (applicationId : ApplicationId)
    (expiresAt : Int) : Except Failure String :=
  env.sign (.checkIn eventId applicationId expiresAt)

/-- `create_download_token`. -/
def createDownloadToken (env : SigningEnv) (userId : UserId) (campaignId : CampaignId)
    (assetId : AssetId) (now : Time) : Except Failure String :=
  env.sign (.download userId campaignId assetId (timestamp now + env.downloadUrlTtlSeconds))

/-- A call of a create function. -/
inductive TokenCall where
  | checkIn (eventId : EventId) (applicationId : ApplicationId) (expiresAt : Int)
  | download (userId : UserId) (campaignId : CampaignId) (assetId : AssetId) (now : Time)
deriving DecidableEq, Repr

namespace TokenCall

variable (env : SigningEnv)

def create : TokenCall → Except Failure String
  | checkIn eventId applicationId expiresAt =>
    createCheckInToken env eventId applicationId expiresAt
  | download userId campaignId assetId now => createDownloadToken env userId campaignId assetId now

def claims : TokenCall → SignedClaims
  | checkIn eventId applicationId expiresAt => .checkIn eventId applicationId expiresAt
  | download userId campaignId assetId now =>
    .download userId campaignId assetId (timestamp now + env.downloadUrlTtlSeconds)

end TokenCall

/-- What `except (ValueError, KeyError, TypeError)` catches, by the names of the exceptions that can
be raised. -/
def handled : List String :=
  ["ValueError", "UnicodeEncodeError", "UnicodeDecodeError", "binascii.Error", "JSONDecodeError",
    "KeyError", "TypeError"]

/-- An exception that is caught is raised again as the refusal. -/
def rescue {α : Type} (invalid : Failure) : Except Failure α → Except Failure α
  | .error (.unhandled exception) =>
    .error (if handled.contains exception then invalid else .unhandled exception)
  | x => x

/-- The document of a token with a right signature. -/
def SigningEnv.signedData (env : SigningEnv) (token : String) : Except Failure PyJson := do
  let (payload, signature) ← orFail (splitToken token) (.unhandled "ValueError")
  let expected ← env.signature payload
  ensure (isAscii signature) (.unhandled "TypeError")
  ensure (signature = expected) (.unhandled "ValueError")
  let bytes ← orFail (Base64.decode payload.toList) (.unhandled "binascii.Error")
  let text ← orFail (env.decodeText bytes) (.unhandled "UnicodeDecodeError")
  orFail (loads env.numbers text) (.unhandled "JSONDecodeError")

/-- Only a `dict` has entries. -/
def asDict : PyJson → Except Failure PyEntries
  | .obj entries => .ok entries
  | _ => .error (.unhandled "TypeError")

/-- The value of an entry is true. -/
def isTrue : Option PyJson → Bool
  | none | some .null => false
  | some (.bool b) => b
  | some (.num (.int n)) => n ≠ 0
  | some (.num (.float (.finite q))) => q ≠ 0
  | some (.num (.float _)) => true
  | some (.str s) => s ≠ ""
  | some (.arr items) => !items.isEmpty
  | some (.obj entries) => !entries.isEmpty

/-- The claims of a token that has not expired and passes the check of its kind. -/
def SigningEnv.verify (env : SigningEnv) (expired invalid : Failure) (check : PyEntries → Bool)
    (token : String) (now : Time) : Except Failure PyEntries :=
  rescue invalid do
    let data ← asDict (← env.signedData token)
    let exp ← toInt env.digits (← orFail (data.lookup "exp") (.unhandled "KeyError"))
    ensure ((timestamp now : Int) < exp) expired
    ensure (check data) (.unhandled "ValueError")
    return data

/-- `EVENT_CHECKIN_EXPIRED`. -/
def checkInExpired : Failure :=
  .app ⟨401, "EVENT_CHECKIN_EXPIRED", "체크인 패스가 만료되었습니다."⟩

/-- `SIGNED_URL_EXPIRED`. -/
def signedUrlExpired : Failure :=
  .app ⟨401, "SIGNED_URL_EXPIRED", "다운로드 링크가 만료되었습니다."⟩

/-- `SIGNED_URL_INVALID`. -/
def signedUrlInvalid : Failure :=
  .app ⟨401, "SIGNED_URL_INVALID", "유효하지 않은 다운로드 링크입니다."⟩

def namesApplication (data : PyEntries) : Bool :=
  isTrue (data.lookup "eventId") && isTrue (data.lookup "applicationId")

/-- `verify_check_in_token`. -/
def verifyCheckInToken (env : SigningEnv) : String → Time → Except Failure PyEntries :=
  env.verify checkInExpired (checkInInvalid 401) namesApplication

/-- `verify_download_token`. -/
def verifyDownloadToken (env : SigningEnv) : String → Time → Except Failure PyEntries :=
  env.verify signedUrlExpired signedUrlInvalid fun _ => true

/-- A row of `assets`, as far as a download reads it. -/
structure BenefitAsset where
  id : AssetId
  fileName : Option String := none
  contentType : Option String := none
  storagePath : Option String := none
deriving DecidableEq, Repr

/-- The tables of a download, and `storage.exists`. -/
structure BenefitDb where
  campaigns : List CollectionCampaign
  claims : List CollectionBenefitClaim
  assets : List BenefitAsset
  isStored : String → Bool

/-- The file that is answered, with the row of `audit_logs`. -/
structure BenefitDownload where
  storagePath : String
  mediaType : String
  fileName : String
  actorUserId : UserId
  campaignId : CampaignId
  claimId : String
  assetId : AssetId
deriving DecidableEq, Repr

/-- An entry equals a text, or neither is there. -/
def isText : Option PyJson → Option String → Bool
  | none, text | some .null, text => text.isNone
  | some (.str s), text => text == some s
  | some _, _ => false

/-- `verify_download_token(token) if token else None`. -/
def tokenData (env : SigningEnv) (token : Option String) (now : Time) :
    Except Failure (Option PyEntries) :=
  match token.filter (· ≠ "") with
  | some token => some <$> verifyDownloadToken env token now
  | none => .ok none

/-- The fan whom the link names, or else the one who is logged in. -/
def effectiveUserId (data : Option PyEntries) (userId : Option UserId) : Option PyJson :=
  match data with
  | some data => data.lookup "userId"
  | none => userId.map .str

/-- `download_collection_benefit`. -/
def downloadCollectionBenefit (env : SigningEnv) (db : BenefitDb) (campaignId : CampaignId)
    (userId : Option UserId) (token : Option String) (now : Time) :
    Except Failure BenefitDownload := do
  let data ← tokenData env token now
  ensure (data.all fun data => isText (data.lookup "campaignId") (some campaignId)) signedUrlInvalid
  let effective := effectiveUserId data userId
  ensure (isTrue effective) (.app ⟨401, "AUTH_REQUIRED", "로그인이 필요합니다."⟩)
  ensure (userId.all fun userId => isText effective (some userId))
    (.app ⟨403, "SIGNED_URL_USER_MISMATCH", "이 다운로드 링크를 사용할 수 없습니다."⟩)
  let campaign ← orFail (db.campaigns.find? (·.id == campaignId))
    (.app ⟨404, "CAMPAIGN_NOT_FOUND", "컬렉션 캠페인을 찾을 수 없습니다."⟩)
  ensure (data.all fun data => isText (data.lookup "assetId") campaign.benefitAssetId)
    signedUrlInvalid
  let claim ← orFail
    (db.claims.find? fun row => isText effective (some row.userId) && row.campaignId == campaign.id)
    (.app ⟨403, "BENEFIT_NOT_CLAIMED", "특전을 먼저 수령해 주세요."⟩)
  let assetId ← orFail (campaign.benefitAssetId.filter (· ≠ ""))
    (.app ⟨404, "BENEFIT_ASSET_NOT_FOUND", "아직 다운로드할 특전 파일이 없습니다."⟩)
  let notReady := .app ⟨404, "BENEFIT_ASSET_NOT_READY", "특전 파일이 아직 준비되지 않았습니다."⟩
  let asset ← orFail (db.assets.find? (·.id == assetId)) notReady
  let storagePath ← orFail
    (asset.storagePath.filter fun path => path ≠ "" && db.isStored path) notReady
  return {
    storagePath := storagePath
    mediaType := orDefault asset.contentType "application/octet-stream"
    fileName := orDefault asset.fileName (campaign.id ++ "-benefit")
    actorUserId := claim.userId
    campaignId := campaign.id
    claimId := claim.id
    assetId := asset.id }

section

variable {env : SigningEnv} {claims : SignedClaims} {token payload signature : String}

theorem readNatural_toDigits {k : Nat} (h : (Nat.toDigits 10 k).length ≤ maxStrDigits) :
    readNatural (Nat.toDigits 10 k) = some k := by
  rw [readNatural, if_pos h, Nat.ofDigitChars_ten_toDigits]

theorem readInt_intText {n : Int} (h : isPrintable n) : readInt (intText n) = some n := by
  have hdigits := readNatural_toDigits (of_decide_eq_true h)
  by_cases hneg : n < 0
  · rw [intText, if_pos hneg, readInt, if_pos rfl, hdigits, Option.map_some]
    congr
    omega
  · obtain ⟨d, digits, hcons⟩ :=
      List.exists_cons_of_ne_nil (Nat.toDigits_ne_nil (n := n.natAbs) (b := 10))
    have hd : d ≠ '-' := by
      rintro rfl
      exact absurd (isDigit_of_mem (k := n.natAbs) (hcons ▸ List.mem_cons_self)) (by decide)
    rw [intText, if_neg hneg, hcons, readInt, if_neg hd, ← hcons, hdigits, Option.map_some]
    congr
    omega

theorem utf8_ofList (chars : List Char) :
    utf8 (String.ofList chars) = chars.flatMap String.utf8EncodeChar := by
  simp [utf8, List.utf8Encode]

theorem fromUTF8_utf8 (s : String) : String.fromUTF8? ⟨(utf8 s).toArray⟩ = some s := by
  have hbytes : (⟨(utf8 s).toArray⟩ : ByteArray) = s.toByteArray := by simp [utf8]
  rw [hbytes, String.fromUTF8?, dif_pos s.isValidUTF8]
  rfl

/-- A text that begins as an object does is read in UTF-8. -/
theorem decodeText_object (text : List Char) :
    env.decodeText (utf8 (String.ofList ('{' :: '"' :: text))) = some ('{' :: '"' :: text) := by
  have hfront : utf8 (String.ofList ('{' :: '"' :: text)) =
      0x7B :: 0x22 :: text.flatMap String.utf8EncodeChar := by
    rw [utf8_ofList]
    rfl
  have hwide : isWide (utf8 (String.ofList ('{' :: '"' :: text))) = false := by
    rw [hfront]
    simp [isWide, List.isPrefixOf]
  have hmark : dropMark (utf8 (String.ofList ('{' :: '"' :: text))) =
      utf8 (String.ofList ('{' :: '"' :: text)) := by
    rw [hfront]
    simp [dropMark, List.isPrefixOf]
  rw [SigningEnv.decodeText, hwide, hmark, fromUTF8_utf8, Option.map_some, String.toList_ofList]
  rfl

namespace SignedClaims

theorem decodeText_dumps (claims : SignedClaims) :
    env.decodeText (utf8 (String.ofList (dumps claims.members))) = some (dumps claims.members) := by
  cases claims with
  | checkIn => exact decodeText_object _
  | download => exact decodeText_object _

theorem loads_dumps_members (hprintable : isPrintable claims.exp) :
    loads env.numbers (dumps claims.members) = some (.obj claims.entries) := by
  have hints : IntsRead env.numbers PyNumber.int claims.members := by
    intro key n hmem
    have hexp : n = claims.exp := by
      cases claims <;> simp [members] at hmem <;> exact hmem.2
    rw [hexp]
    exact congrArg (Option.map PyNumber.int) (readInt_intText hprintable)
  rw [loads_dumps hints]
  cases claims <;> rfl

end SignedClaims

theorem payloadOf_ok : payloadOf claims.members = .ok payload ↔
    isPrintable claims.exp ∧ encode (utf8 (String.ofList (dumps claims.members))) = payload := by
  have hall : (claims.members.all fun member => Scalar.isPrintable member.2) =
      isPrintable claims.exp := by
    cases claims <;> simp [SignedClaims.members, SignedClaims.exp, Scalar.isPrintable]
  simp only [payloadOf, hall, bind_ok, ensure_ok, pure_ok, exists_const]

/-- What is encoded has no dot and is ASCII. -/
theorem noDot_encode (bytes : List UInt8) : '.' ∉ (encode bytes).toList := by
  rw [encode, String.toList_ofList]
  exact Base64.noDot_encode bytes

theorem isAscii_encode (bytes : List UInt8) : isAscii (encode bytes) := by
  rw [isAscii, encode, String.toList_ofList, List.all_eq_true]
  intro c hc
  exact decide_eq_true (Base64.ascii_encode hc)

theorem signature_ok : env.signature payload = .ok signature ↔
    isAscii payload ∧ encode (env.hmac (utf8 payload)) = signature := by
  simp only [SigningEnv.signature, bind_ok, ensure_ok, pure_ok, exists_const]

theorem sign_ok : env.sign claims = .ok token ↔ ∃ payload signature,
    payloadOf claims.members = .ok payload ∧ env.signature payload = .ok signature ∧
      payload ++ "." ++ signature = token := by
  simp only [SigningEnv.sign, bind_ok, pure_ok]
  constructor
  · rintro ⟨payload, hpayload, signature, hsignature, htoken⟩
    exact ⟨payload, signature, hpayload, hsignature, htoken⟩
  · rintro ⟨payload, signature, hpayload, hsignature, htoken⟩
    exact ⟨payload, hpayload, signature, hsignature, htoken⟩

/-- The claims of a token that was signed are read back. -/
theorem signedData_of_sign (h : env.sign claims = .ok token) :
    env.signedData token = .ok (.obj claims.entries) := by
  obtain ⟨payload, signature, hpayload, hsignature, rfl⟩ := sign_ok.mp h
  obtain ⟨hprintable, rfl⟩ := payloadOf_ok.mp hpayload
  have hascii : isAscii signature := by
    rw [← (signature_ok.mp hsignature).2]
    exact isAscii_encode _
  have hdecode : Base64.decode (encode (utf8 (String.ofList (dumps claims.members)))).toList =
      some (utf8 (String.ofList (dumps claims.members))) := by
    rw [encode, String.toList_ofList, Base64.decode_encode]
  simp only [SigningEnv.signedData, bind_ok, orFail_ok, ensure_ok]
  exact ⟨_, splitToken_append (noDot_encode _), signature, hsignature, (), hascii, (), rfl, _,
    hdecode, _, claims.decodeText_dumps, claims.loads_dumps_members hprintable⟩

/-- A token is its two parts. -/
theorem splitToken_eq_some (h : splitToken token = some (payload, signature)) :
    token = payload ++ "." ++ signature := by
  obtain ⟨rest, hrest⟩ := List.takeWhile_prefix (· != '.') (l := token.toList)
  have hdropWhile : token.toList.dropWhile (· != '.') = rest := by
    have happend := List.takeWhile_append_dropWhile (p := (· != '.')) (l := token.toList)
    exact List.append_cancel_left (happend.trans hrest.symm)
  have hdrop : token.toList.drop (token.toList.takeWhile (· != '.')).length = rest :=
    (congrArg (List.drop _) hrest.symm).trans List.drop_left
  simp only [splitToken, hdrop] at h
  cases rest with
  | nil => cases h
  | cons c rest =>
    have hdot : c = '.' := by
      have hnot := List.head?_dropWhile_not (· != '.') token.toList
      simpa [hdropWhile] using hnot
    simp only [Option.some.injEq, Prod.mk.injEq] at h
    obtain ⟨hpayload, hsignature⟩ := h
    have hchars : (payload ++ "." ++ signature).toList =
        token.toList.takeWhile (· != '.') ++ '.' :: rest := by
      simp [String.toList_append, ← hpayload, ← hsignature]
    rw [hdot] at hrest
    exact String.toList_inj.mp (hrest.symm.trans hchars.symm)

/-- A right signature is one that a create function computed. -/
def SigningEnv.Unforged (env : SigningEnv) (issued : List TokenCall) (token : String) : Prop :=
  ∀ payload signature, splitToken token = some (payload, signature) →
    env.signature payload = .ok signature →
      ∃ call ∈ issued, payloadOf (call.claims env).members = .ok payload

theorem TokenCall.create_eq (call : TokenCall) : call.create env = env.sign (call.claims env) := by
  cases call <;> rfl

variable {issued : List TokenCall} {expired invalid : AppError} {failure : Failure}
  {check : PyEntries → Bool} {now : Time} {data : PyJson}

theorem signedData_issued (hunforged : env.Unforged issued token)
    (h : env.signedData token = .ok data) :
    ∃ call ∈ issued, call.create env = .ok token ∧ data = .obj (call.claims env).entries := by
  have hdata := h
  simp only [SigningEnv.signedData, bind_ok, orFail_ok, ensure_ok] at h
  obtain ⟨⟨payload, signature⟩, hsplit, expected, hsignature, -, -, -, rfl, -⟩ := h
  obtain ⟨call, hissued, hpayload⟩ := hunforged payload signature hsplit hsignature
  have hsign : env.sign (call.claims env) = .ok token :=
    sign_ok.mpr ⟨payload, signature, hpayload, hsignature, (splitToken_eq_some hsplit).symm⟩
  refine ⟨call, hissued, call.create_eq.trans hsign, ?_⟩
  rw [signedData_of_sign hsign] at hdata
  exact (Except.ok.inj hdata).symm

/-- What goes wrong with a document that is not signed rightly is caught. -/
theorem signedData_error (h : env.signedData token = .error failure) :
    ∃ exception ∈ handled, failure = .unhandled exception := by
  have hfails : FailsIn (fun failure => ∃ exception ∈ handled, failure = .unhandled exception)
      (env.signedData token) := by
    refine .bind (.orFail ⟨_, by decide, rfl⟩) fun parts => ?_
    refine .bind ?_ fun expected => ?_
    · exact .bind (.ensure ⟨_, by decide, rfl⟩) fun _ => .pure _
    refine .bind (.ensure ⟨_, by decide, rfl⟩) fun _ => ?_
    refine .bind (.ensure ⟨_, by decide, rfl⟩) fun _ => ?_
    refine .bind (.orFail ⟨_, by decide, rfl⟩) fun bytes => ?_
    exact .bind (.orFail ⟨_, by decide, rfl⟩) fun text => .orFail ⟨_, by decide, rfl⟩
  exact hfails failure h

theorem rescue_unhandled {α : Type} {exception : String} (h : exception ∈ handled) :
    rescue (.app invalid) (.error (.unhandled exception) : Except Failure α) =
      .error (.app invalid) := by
  simp [rescue, h]

theorem SignedClaims.lookup_exp (claims : SignedClaims) :
    claims.entries.lookup "exp" = some (.num (.int claims.exp)) := by
  cases claims <;> rfl

/-- A token that was signed is accepted until it expires. -/
theorem verify_of_sign (h : env.sign claims = .ok token) :
    env.verify (.app expired) (.app invalid) check token now =
      if (timestamp now : Int) < claims.exp then
        if check claims.entries then .ok claims.entries else .error (.app invalid)
      else .error (.app expired) := by
  have hbody : env.verify (.app expired) (.app invalid) check token now =
      rescue (.app invalid) (do
        ensure ((timestamp now : Int) < claims.exp) (.app expired)
        ensure (check claims.entries) (.unhandled "ValueError")
        return claims.entries) := by
    rw [SigningEnv.verify, signedData_of_sign h]
    change rescue _ (do
      let exp ← toInt env.digits (← orFail (claims.entries.lookup "exp") _)
      ensure ((timestamp now : Int) < exp) _
      ensure (check claims.entries) _
      return claims.entries) = _
    rw [claims.lookup_exp]
    rfl
  rw [hbody]
  by_cases htime : (timestamp now : Int) < claims.exp
  · by_cases hcheck : check claims.entries
    · rw [if_pos htime, if_pos hcheck, ensure, if_pos htime, ensure, if_pos hcheck]
      rfl
    · rw [if_pos htime, if_neg hcheck, ensure, if_pos htime, ensure, if_neg hcheck]
      exact rescue_unhandled (by decide)
  · rw [if_neg htime, ensure, if_neg htime]
    rfl

/-- A token is one that was created, or it is refused as no token. -/
theorem create_or_invalid (hunforged : env.Unforged issued token) :
    (∃ call ∈ issued, call.create env = .ok token) ∨
      ∀ expired invalid check now,
        env.verify (.app expired) (.app invalid) check token now = .error (.app invalid) := by
  cases hdata : env.signedData token with
  | ok data =>
    obtain ⟨call, hissued, hcreate, -⟩ := signedData_issued hunforged hdata
    exact .inl ⟨call, hissued, hcreate⟩
  | error failure =>
    obtain ⟨exception, hhandled, rfl⟩ := signedData_error hdata
    refine .inr fun expired invalid check now => ?_
    simp only [SigningEnv.verify, hdata]
    exact rescue_unhandled hhandled

/-- What is accepted was created, and has not expired. -/
theorem verify_ok (hunforged : env.Unforged issued token) {entries : PyEntries}
    (h : env.verify (.app expired) (.app invalid) check token now = .ok entries) :
    ∃ call ∈ issued, call.create env = .ok token ∧ entries = (call.claims env).entries ∧
      (timestamp now : Int) < (call.claims env).exp ∧ check (call.claims env).entries := by
  rcases create_or_invalid hunforged with ⟨call, hissued, hcreate⟩ | hinvalid
  · rw [verify_of_sign (call.create_eq.symm.trans hcreate)] at h
    split_ifs at h with htime hcheck
    exact ⟨call, hissued, hcreate, (Except.ok.inj h).symm, htime, hcheck⟩
  · rw [hinvalid] at h
    cases h

theorem verify_error (hunforged : env.Unforged issued token)
    (h : env.verify (.app expired) (.app invalid) check token now = .error failure) :
    failure = .app expired ∨ failure = .app invalid := by
  rcases create_or_invalid hunforged with ⟨call, hissued, hcreate⟩ | hinvalid
  · rw [verify_of_sign (call.create_eq.symm.trans hcreate)] at h
    split_ifs at h with htime hcheck
    · exact .inr (Except.error.inj h).symm
    · exact .inl (Except.error.inj h).symm
  · rw [hinvalid] at h
    exact .inr (Except.error.inj h).symm

/-- What was created is not forged. -/
theorem unforged_of_create {call : TokenCall} (hissued : call ∈ issued)
    (h : call.create env = .ok token) : env.Unforged issued token := by
  obtain ⟨payload, signature, hpayload, -, rfl⟩ := sign_ok.mp (call.create_eq.symm.trans h)
  intro payload' signature' hsplit hsignature
  have hencoded := hpayload
  obtain ⟨-, rfl⟩ := payloadOf_ok.mp hencoded
  rw [splitToken_append (noDot_encode _)] at hsplit
  cases hsplit
  exact ⟨call, hissued, hpayload⟩

/-- Only the expiry can be too long. -/
theorem exists_sign (hprintable : isPrintable claims.exp) : ∃ token, env.sign claims = .ok token :=
  ⟨_, sign_ok.mpr ⟨_, _, payloadOf_ok.mpr ⟨hprintable, rfl⟩,
    signature_ok.mpr ⟨isAscii_encode _, rfl⟩, rfl⟩⟩

/-- A token has one kind. -/
theorem create_ne_of_create {eventId : EventId} {applicationId : ApplicationId} {expiresAt : Int}
    (h : createCheckInToken env eventId applicationId expiresAt = .ok token) (userId : UserId)
    (campaignId : CampaignId) (assetId : AssetId) (issuedAt : Time) :
    createDownloadToken env userId campaignId assetId issuedAt ≠ .ok token := by
  intro hdownload
  have hsame := (signedData_of_sign h).symm.trans (signedData_of_sign hdownload)
  simp [SignedClaims.entries] at hsame

/-- A token is not empty. -/
theorem sign_ne_empty (h : env.sign claims = .ok token) : token ≠ "" := by
  obtain ⟨payload, signature, -, -, rfl⟩ := sign_ok.mp h
  intro hempty
  have hlength := congrArg String.length hempty
  simp only [String.length_append] at hlength
  exact absurd hlength (by simp)

/-- Only a pass names an application. -/
theorem namesApplication_entries (claims : SignedClaims) :
    namesApplication claims.entries ↔ ∃ eventId applicationId exp,
      claims = .checkIn eventId applicationId exp ∧ eventId ≠ "" ∧ applicationId ≠ "" := by
  cases claims with
  | checkIn eventId applicationId exp =>
    have hnames : namesApplication (SignedClaims.checkIn eventId applicationId exp).entries =
        (decide (eventId ≠ "") && decide (applicationId ≠ "")) := rfl
    simp [hnames]
  | download userId campaignId assetId exp =>
    have hnames : namesApplication (SignedClaims.download userId campaignId assetId exp).entries =
        false := rfl
    simp [hnames]

theorem verifyCheckInToken_of_sign (h : env.sign claims = .ok token) :
    verifyCheckInToken env token now =
      if (timestamp now : Int) < claims.exp then
        if namesApplication claims.entries then .ok claims.entries else .error (checkInInvalid 401)
      else .error checkInExpired := verify_of_sign h

section

variable {eventId : EventId} {applicationId : ApplicationId} {expiresAt : Int}

/-- A pass verifies until it expires. -/
theorem verifyCheckInToken_of_create (hevent : eventId ≠ "") (happlication : applicationId ≠ "")
    (h : createCheckInToken env eventId applicationId expiresAt = .ok token) :
    verifyCheckInToken env token now =
      if (timestamp now : Int) < expiresAt then
        .ok (SignedClaims.checkIn eventId applicationId expiresAt).entries
      else .error checkInExpired := by
  have hnames : namesApplication (SignedClaims.checkIn eventId applicationId expiresAt).entries :=
    (namesApplication_entries _).mpr ⟨_, _, _, rfl, hevent, happlication⟩
  rw [verifyCheckInToken_of_sign h, if_pos hnames]
  rfl

/-- What the download endpoint does with a pass. -/
theorem downloadCollectionBenefit_pass {db : BenefitDb} {campaignId : CampaignId}
    {userId : Option UserId}
    (h : createCheckInToken env eventId applicationId expiresAt = .ok token) :
    downloadCollectionBenefit env db campaignId userId (some token) now =
      .error (if (timestamp now : Int) < expiresAt then signedUrlInvalid
        else signedUrlExpired) := by
  have hfilter : (some token).filter (fun token => decide (token ≠ "")) = some token := by
    simp [Option.filter, sign_ne_empty h]
  have hverify : verifyDownloadToken env token now = if (timestamp now : Int) < expiresAt then
      .ok (SignedClaims.checkIn eventId applicationId expiresAt).entries
        else .error signedUrlExpired := verify_of_sign h
  have hdata : tokenData env (some token) now = some <$> verifyDownloadToken env token now := by
    simp only [tokenData, hfilter]
  rw [downloadCollectionBenefit, hdata, hverify]
  split_ifs with htime
  · rfl
  · rfl

end

section

variable {userId : UserId} {campaignId : CampaignId} {assetId : AssetId} {issuedAt : Time}

/-- A download link verifies until it expires. -/
theorem verifyDownloadToken_of_create
    (h : createDownloadToken env userId campaignId assetId issuedAt = .ok token) :
    verifyDownloadToken env token now =
      if (timestamp now : Int) < timestamp issuedAt + env.downloadUrlTtlSeconds then
        .ok (SignedClaims.download userId campaignId assetId
          (timestamp issuedAt + env.downloadUrlTtlSeconds)).entries
      else .error signedUrlExpired :=
  verify_of_sign h

/-- A download link is no pass. -/
theorem verifyCheckInToken_of_download
    (h : createDownloadToken env userId campaignId assetId issuedAt = .ok token) :
    verifyCheckInToken env token now =
      .error (if (timestamp now : Int) < timestamp issuedAt + env.downloadUrlTtlSeconds then
        checkInInvalid 401 else checkInExpired) := by
  have hnames : ¬namesApplication (SignedClaims.download userId campaignId assetId
      (timestamp issuedAt + env.downloadUrlTtlSeconds)).entries := by
    simp [namesApplication_entries]
  rw [verifyCheckInToken_of_sign h, if_neg hnames]
  exact (apply_ite Except.error _ _ _).symm

end

/-- A pass verifies as a download link too, under the one secret, which the endpoint then refuses; a
pass without identifiers never verifies. -/
theorem signedTokens_kept (env : SigningEnv) :
    (∀ issued token now, env.Unforged issued token →
      (∀ data, verifyCheckInToken env token now = .ok data →
        ∃ eventId applicationId expiresAt, .checkIn eventId applicationId expiresAt ∈ issued ∧
          createCheckInToken env eventId applicationId expiresAt = .ok token ∧
          data = (SignedClaims.checkIn eventId applicationId expiresAt).entries ∧
          (timestamp now : Int) < expiresAt) ∧
      (∀ failure, verifyCheckInToken env token now = .error failure →
        failure = checkInExpired ∨ failure = checkInInvalid 401) ∧
      (∀ data, verifyDownloadToken env token now = .ok data →
        ∃ call ∈ issued, call.create env = .ok token ∧ data = (call.claims env).entries ∧
          (timestamp now : Int) < (call.claims env).exp) ∧
      (∀ failure, verifyDownloadToken env token now = .error failure →
        failure = signedUrlExpired ∨ failure = signedUrlInvalid)) ∧
    (∀ eventId applicationId expiresAt token, eventId ≠ "" → applicationId ≠ "" →
      createCheckInToken env eventId applicationId expiresAt = .ok token →
        ∀ now, verifyCheckInToken env token now =
          if (timestamp now : Int) < expiresAt then
            .ok (SignedClaims.checkIn eventId applicationId expiresAt).entries
          else .error checkInExpired) ∧
    (∀ userId campaignId assetId issuedAt token,
      createDownloadToken env userId campaignId assetId issuedAt = .ok token →
        ∀ now,
          (verifyDownloadToken env token now =
            if (timestamp now : Int) < timestamp issuedAt + env.downloadUrlTtlSeconds then
              .ok (SignedClaims.download userId campaignId assetId
                (timestamp issuedAt + env.downloadUrlTtlSeconds)).entries
            else .error signedUrlExpired) ∧
          verifyCheckInToken env token now =
            .error (if (timestamp now : Int) < timestamp issuedAt + env.downloadUrlTtlSeconds then
              checkInInvalid 401 else checkInExpired)) ∧
    (∀ eventId applicationId expiresAt token,
      createCheckInToken env eventId applicationId expiresAt = .ok token →
        ∀ db campaignId userId now,
          downloadCollectionBenefit env db campaignId userId (some token) now =
            .error (if (timestamp now : Int) < expiresAt then signedUrlInvalid
              else signedUrlExpired)) := by
  refine ⟨?_, ?_, ?_, ?_⟩
  · intro issued token now hunforged
    refine ⟨?_, fun failure => verify_error hunforged, ?_, fun failure => verify_error hunforged⟩
    · intro data hverify
      obtain ⟨call, hissued, hcreate, hdata, htime, hnames⟩ := verify_ok hunforged hverify
      obtain ⟨eventId, applicationId, exp, hclaims, -, -⟩ := (namesApplication_entries _).mp hnames
      rw [hclaims] at hdata htime
      cases call with
      | checkIn =>
        cases hclaims
        exact ⟨_, _, _, hissued, hcreate, hdata, htime⟩
      | download => cases hclaims
    · intro data hverify
      obtain ⟨call, hissued, hcreate, hdata, htime, -⟩ := verify_ok hunforged hverify
      exact ⟨call, hissued, hcreate, hdata, htime⟩
  · intro eventId applicationId expiresAt token hevent happlication hcreate now
    exact verifyCheckInToken_of_create hevent happlication hcreate
  · intro userId campaignId assetId issuedAt token hcreate now
    exact ⟨verifyDownloadToken_of_create hcreate, verifyCheckInToken_of_download hcreate⟩
  · intro eventId applicationId expiresAt token hcreate db campaignId userId now
    exact downloadCollectionBenefit_pass hcreate

end

/-- The payload of a pass, and its HMAC under the secret of a development server. -/
def passPayload : String :=
  "eyJldmVudElkIjoiZXZlbnQtMSIsImFwcGxpY2F0aW9uSWQiOiJhcHBsaWNhdGlvbi0xIiwiZXhwIjoxNzY3MjI1NjAwfQ"

def developmentEnv : SigningEnv where
  hmac message := if message = utf8 passPayload then
    [161, 156, 245, 71, 34, 243, 165, 77, 152, 242, 147, 201, 230, 206, 183, 78, 121, 227, 51, 100,
      247, 154, 215, 226, 104, 164, 170, 32, 139, 96, 75, 3] else []
  digits := .asciiOnly
  readFloat _ := .nan
  decodeWide _ := none
  downloadUrlTtlSeconds := 300

def passToken : String := passPayload ++ ".oZz1RyLzpU2Y8pPJ5s63TnnjM2T3mtfiaKSqIItgSwM"

theorem create_passToken :
    createCheckInToken developmentEnv "event-1" "application-1" 1767225600 = .ok passToken := by
  decide +kernel

theorem signedTokens_kept_pass :
    verifyCheckInToken developmentEnv passToken 1767139200000000 =
      .ok (SignedClaims.checkIn "event-1" "application-1" 1767225600).entries ∧
    ∃ eventId applicationId expiresAt,
      TokenCall.checkIn eventId applicationId expiresAt ∈
        [TokenCall.checkIn "event-1" "application-1" 1767225600] ∧
      createCheckInToken developmentEnv eventId applicationId expiresAt = .ok passToken ∧
      (SignedClaims.checkIn "event-1" "application-1" 1767225600).entries =
        (SignedClaims.checkIn eventId applicationId expiresAt).entries ∧
      (timestamp 1767139200000000 : Int) < expiresAt := by
  obtain ⟨hpresented, hpasses, -, -⟩ := signedTokens_kept developmentEnv
  have hunforged : developmentEnv.Unforged [.checkIn "event-1" "application-1" 1767225600]
      passToken := unforged_of_create List.mem_cons_self create_passToken
  have hverify : verifyCheckInToken developmentEnv passToken 1767139200000000 =
      .ok (SignedClaims.checkIn "event-1" "application-1" 1767225600).entries := by
    rw [hpasses _ _ _ _ (by decide) (by decide) create_passToken, if_pos (by decide)]
  exact ⟨hverify, (hpresented _ _ _ hunforged).1 _ hverify⟩

/-- A pass verifies as a download link, though no download link has its text, and a pass of nothing
does not verify. -/
theorem checkInPass_isDownload :
    (createCheckInToken developmentEnv "event-1" "application-1" 1767225600 = .ok passToken ∧
      developmentEnv.Unforged [.checkIn "event-1" "application-1" 1767225600] passToken ∧
      verifyDownloadToken developmentEnv passToken 1767139200000000 =
        .ok (SignedClaims.checkIn "event-1" "application-1" 1767225600).entries ∧
      ∀ userId campaignId assetId issuedAt,
        createDownloadToken developmentEnv userId campaignId assetId issuedAt ≠ .ok passToken) ∧
    ∃ token, createCheckInToken developmentEnv "" "" 1767225600 = .ok token ∧
      verifyCheckInToken developmentEnv token 1767139200000000 = .error (checkInInvalid 401) := by
  constructor
  · refine ⟨create_passToken, unforged_of_create List.mem_cons_self create_passToken, ?_,
      create_ne_of_create create_passToken⟩
    have hverify : verifyDownloadToken developmentEnv passToken 1767139200000000 =
        if (timestamp 1767139200000000 : Int) < 1767225600 then
          .ok (SignedClaims.checkIn "event-1" "application-1" 1767225600).entries
        else .error signedUrlExpired := verify_of_sign create_passToken
    rw [hverify, if_pos (by decide)]
  · obtain ⟨token, hcreate⟩ : ∃ token, createCheckInToken developmentEnv "" "" 1767225600 =
        .ok token := exists_sign (by decide)
    refine ⟨token, hcreate, ?_⟩
    rw [verifyCheckInToken_of_sign hcreate, if_pos (by decide), if_neg (by decide)]

end Fanfolio.SignedTokens
