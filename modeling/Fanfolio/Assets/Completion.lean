import Fanfolio.Framework.Checked
import Fanfolio.Framework.Run
import Fanfolio.Schema
import Mathlib.Logic.Function.Basic

/-!
# Direct uploads

A client puts its file under a staging key. A complete request reads the asset without a lock,
scans the staging object, saves it under the canonical key, and commits; the cleanup of expired
uploads deletes the staging object and forgets the path. Each call of the object store is a step.
-/

namespace Fanfolio

open Framework

abbrev Content := List UInt8

structure Asset where
  id : String
  ownerId : UserId
  purpose : String
  storagePath : Option String := none
  contentSha256 : Option String := none
  uploadExpiresAt : Option Time := none
  uploadCompletedAt : Option Time := none
deriving DecidableEq, Repr

/-- `S3AssetStorage`. -/
structure S3AssetStorage where
  bucket : String
  keyPrefix : String

namespace S3AssetStorage

def key (storage : S3AssetStorage) (storageId suffix : String) : String :=
  storage.keyPrefix ++ "/assets/" ++ storageId ++ suffix

def uri (storage : S3AssetStorage) (key : String) : String :=
  "s3://" ++ storage.bucket ++ "/" ++ key

def assetPath (storage : S3AssetStorage) (assetId suffix : String) : String :=
  storage.uri (storage.key assetId suffix)

/-- The path of `save_bytes`. -/
def canonicalPath (storage : S3AssetStorage) (assetId : String) : String :=
  storage.assetPath assetId ".bin"

/-- The path of the presigned URL. -/
def stagingPath (storage : S3AssetStorage) (assetId : String) : String :=
  storage.assetPath assetId "-upload.bin"

theorem staging_ne_canonical (storage : S3AssetStorage) (assetId : String) :
    storage.stagingPath assetId ≠ storage.canonicalPath assetId := by
  intro h
  have hlength := congrArg String.length h
  simp only [stagingPath, canonicalPath, assetPath, uri, key, String.length_append] at hlength
  have hsuffix : "-upload.bin".length = ".bin".length := by omega
  exact absurd hsuffix (by decide)

end S3AssetStorage

/-- The settings, and the digest that is stored. -/
structure UploadEnv where
  storage : S3AssetStorage
  maxUploadBytes : Nat := 10 * 1024 * 1024
  sha256 : Content → String

/-- `ORGANIZATION_LOGO_MAX_BYTES`. -/
def organizationLogoMaxBytes : Nat := 2 * 1024 * 1024

def uploadLimitBytes (env : UploadEnv) (asset : Asset) : Nat :=
  if asset.purpose = "organization_logo" then organizationLogoMaxBytes else env.maxUploadBytes

namespace Asset

/-- The asset that `presign_upload` adds for a direct upload. -/
def presigned (env : UploadEnv) (id : String) (ownerId : UserId) (purpose : String)
    (expiresAt : Time) : Asset :=
  { id := id, ownerId := ownerId, purpose := purpose
    storagePath := some (env.storage.stagingPath id), uploadExpiresAt := some expiresAt }

def unexpired (asset : Asset) (now : Time) : Bool :=
  asset.uploadExpiresAt.all fun expiresAt => decide (now ≤ expiresAt)

/-- What the last commit of a complete request writes. -/
def completed (env : UploadEnv) (content : Content) (now : Time) (asset : Asset) : Asset :=
  { asset with
    storagePath := some (env.storage.canonicalPath asset.id)
    contentSha256 := some (env.sha256 content)
    uploadCompletedAt := some now }

def uploadNotFound : AppError := ⟨404, "ASSET_NOT_FOUND", "자산을 찾을 수 없습니다."⟩
def uploadExpired : AppError := ⟨410, "UPLOAD_URL_EXPIRED", "업로드 URL이 만료되었습니다."⟩
def uploadNotReady : AppError := ⟨409, "UPLOAD_NOT_READY", "업로드된 파일을 찾을 수 없습니다."⟩
def uploadTooLarge : AppError := ⟨413, "UPLOAD_TOO_LARGE", "업로드 파일이 너무 큽니다."⟩

/-- The checks of `complete_asset_upload` on the asset that it has read: the path to go on with,
or none if the asset is ready. -/
def admitComplete (asset : Asset) (user : UserId) (now : Time) :
    Except AppError (Option String) := do
  ensure (asset.ownerId = user) uploadNotFound
  ensure (asset.unexpired now) uploadExpired
  if asset.uploadCompletedAt.isSome then
    pure none
  else
    let path ← orFail asset.storagePath uploadNotReady
    pure (some path)

/-- The asset is selected by `cleanup_expired_uploads`. -/
def expiredPath (asset : Asset) (now : Time) : Option String :=
  if asset.uploadExpiresAt.any (· < now) && asset.uploadCompletedAt.isNone then asset.storagePath
  else none

end Asset

/-- Where a request or a cleanup is between two calls of the object store. -/
inductive UploadPhase where
  | idle
  | loaded (path : String)
  | present (path : String)
  | fitting (path : String)
  | scanning (path : String) (content : Content)
  | discarding (path : String) (refusal : AppError)
  /-- About to commit that there is no path; a cleanup has nobody to answer to. -/
  | clearing (refusal : Option AppError)
  | passed (path : String) (content : Content)
  | saved (path : String) (content : Content)
  | finishing (path : String)
  | sweeping (path : String)
deriving DecidableEq, Repr

inductive UploadAction where
  /-- A client puts a file to its presigned URL. -/
  | put (content : Content)
  | complete (worker : Nat) (user : UserId) (now : Time)
  | cleanup (worker : Nat) (now : Time)
  /-- `scan_uploaded_content` returns or raises. -/
  | scan (worker : Nat) (refusal : Option AppError)
  /-- The next call of the object store, or the commit, succeeds. -/
  | proceed (worker : Nat) (now : Time)
  /-- It raises, or the process dies. -/
  | fail (worker : Nat)
deriving DecidableEq, Repr

/-- An answer of `complete_asset_upload`; `none` is ready. -/
structure CompleteAnswer where
  user : UserId
  afterCompletion : Bool
  refusal : Option AppError
deriving DecidableEq, Repr

/-- One asset, the object store, the files that have passed a scan, and the answers given. -/
structure Upload where
  asset : Asset
  objects : String → Option Content
  scanned : List Content := []
  answers : List CompleteAnswer := []
  phase : Nat → UploadPhase

namespace Upload

def goOn (s : Upload) (w : Nat) (p : UploadPhase) : Upload :=
  { s with phase := Function.update s.phase w p }

def deleteObject (s : Upload) (path : String) : Upload :=
  { s with objects := Function.update s.objects path none }

def putObject (s : Upload) (path : String) (content : Content) : Upload :=
  { s with objects := Function.update s.objects path (some content) }

def answer (s : Upload) (user : UserId) (afterCompletion : Bool) (refusal : Option AppError) :
    Upload :=
  { s with answers := ⟨user, afterCompletion, refusal⟩ :: s.answers }

/-- The answer to a request that has found the asset incomplete. -/
def answerOwner (s : Upload) (refusal : Option AppError) : Upload :=
  s.answer s.asset.ownerId false refusal

variable (env : UploadEnv)

/-- The asset is presigned, and nothing has been put. -/
def start (id : String) (ownerId : UserId) (purpose : String) (expiresAt : Time) : Upload :=
  { asset := .presigned env id ownerId purpose expiresAt
    objects := fun _ => none
    phase := fun _ => .idle }

/-- The next call of a request that succeeds. -/
def proceed (s : Upload) (w : Nat) (now : Time) : Upload :=
  match s.phase w with
  | .idle => s
  | .loaded path =>
    if (s.objects path).isSome then s.goOn w (.present path)
    else (s.answerOwner (some Asset.uploadNotReady)).goOn w .idle
  | .present path =>
    match s.objects path with
    | none => s.goOn w .idle
    | some content =>
      if uploadLimitBytes env s.asset < content.length then
        s.goOn w (.discarding path Asset.uploadTooLarge)
      else s.goOn w (.fitting path)
  | .fitting path =>
    match s.objects path with
    | none => s.goOn w (.clearing (some Asset.uploadNotReady))
    | some content => s.goOn w (.scanning path content)
  | .scanning _ _ => s
  | .discarding path refusal => (s.deleteObject path).goOn w (.clearing (some refusal))
  | .clearing refusal =>
    let cleared := { s with asset := { s.asset with storagePath := none } }
    match refusal with
    | none => cleared.goOn w .idle
    | some refusal => (cleared.answerOwner (some refusal)).goOn w .idle
  | .passed path content =>
    (s.putObject (env.storage.canonicalPath s.asset.id) content).goOn w (.saved path content)
  | .saved path content =>
    { s with asset := s.asset.completed env content now }.goOn w (.finishing path)
  | .finishing path =>
    let s := s.answerOwner none
    if path ≠ env.storage.canonicalPath s.asset.id then (s.deleteObject path).goOn w .idle
    else s.goOn w .idle
  | .sweeping path => (s.deleteObject path).goOn w (.clearing none)

def step (s : Upload) : UploadAction → Upload
  | .put content => s.putObject (env.storage.stagingPath s.asset.id) content
  | .complete w user now =>
    match s.phase w with
    | .idle =>
      match s.asset.admitComplete user now with
      | .error refusal => s.answer user s.asset.uploadCompletedAt.isSome (some refusal)
      | .ok none => s.answer user s.asset.uploadCompletedAt.isSome none
      | .ok (some path) => s.goOn w (.loaded path)
    | _ => s
  | .cleanup w now =>
    match s.phase w, s.asset.expiredPath now with
    | .idle, some path => s.goOn w (.sweeping path)
    | _, _ => s
  | .scan w refusal =>
    match s.phase w with
    | .scanning path content =>
      match refusal with
      | none => { s with scanned := content :: s.scanned }.goOn w (.passed path content)
      | some refusal => s.goOn w (.discarding path refusal)
    | _ => s
  | .proceed w now => proceed env s w now
  | .fail w =>
    match s.phase w with
    -- The failed deletion of the staging object is only logged.
    | .finishing _ => (s.answerOwner none).goOn w .idle
    | _ => s.goOn w .idle

/-- A completed asset has a path to a scanned object with the stored digest, and complete calls
of the owner that follow the completion are answered ready. -/
structure Safe (s : Upload) : Prop where
  stored : s.asset.uploadCompletedAt.isSome → ∃ path content,
    s.asset.storagePath = some path ∧ s.objects path = some content ∧ content ∈ s.scanned ∧
      s.asset.contentSha256 = some (env.sha256 content)
  ready : ∀ answer ∈ s.answers, answer.user = s.asset.ownerId → answer.afterCompletion →
    answer.refusal = none

/-- The step leads to a safe state, and leaves the path and the digest of a completed asset. -/
structure Upholds (s : Upload) (a : UploadAction) : Prop where
  safe : Safe env (step env s a)
  kept : s.asset.uploadCompletedAt.isSome →
    (step env s a).asset.storagePath = s.asset.storagePath ∧
      (step env s a).asset.contentSha256 = s.asset.contentSha256

/-- The owner does not call complete on a completed asset once it has expired. A request that
found the asset incomplete, once the asset is completed, neither clears its path nor saves a file
with another digest; and it commits its digest if the canonical object still has that digest. -/
def Careful (s : Upload) : UploadAction → Prop
  | .complete w user now => s.phase w = .idle → user = s.asset.ownerId →
      s.asset.uploadCompletedAt.isSome → s.asset.unexpired now
  | .proceed w _ =>
    match s.phase w with
    | .clearing _ => s.asset.uploadCompletedAt = none
    | .passed _ content => s.asset.uploadCompletedAt.isSome →
        s.asset.contentSha256 = some (env.sha256 content)
    | .saved _ content => ∀ object, s.objects (env.storage.canonicalPath s.asset.id) = some object →
        env.sha256 object = env.sha256 content
    | _ => True
  | _ => True

/-- What a request has read, and has had scanned and saved. -/
def PhaseFact (s : Upload) : UploadPhase → Prop
  | .idle => True
  | .loaded path => path = env.storage.stagingPath s.asset.id
  | .present path => path = env.storage.stagingPath s.asset.id
  | .fitting path => path = env.storage.stagingPath s.asset.id
  | .scanning path _ => path = env.storage.stagingPath s.asset.id
  | .discarding path _ => path = env.storage.stagingPath s.asset.id
  | .clearing _ => True
  | .passed path content => path = env.storage.stagingPath s.asset.id ∧ content ∈ s.scanned
  | .saved path content => path = env.storage.stagingPath s.asset.id ∧ content ∈ s.scanned ∧
      (s.objects (env.storage.canonicalPath s.asset.id)).isSome
  | .finishing path => path = env.storage.stagingPath s.asset.id
  | .sweeping path => path = env.storage.stagingPath s.asset.id

structure Sound (s : Upload) : Prop where
  safe : Safe env s
  settled : s.asset.uploadCompletedAt.isSome →
    s.asset.storagePath = some (env.storage.canonicalPath s.asset.id)
  pending : s.asset.uploadCompletedAt = none → ∀ path, s.asset.storagePath = some path →
    path = env.storage.stagingPath s.asset.id
  scanned : ∀ content, s.objects (env.storage.canonicalPath s.asset.id) = some content →
    content ∈ s.scanned
  phases : ∀ w, PhaseFact env s (s.phase w)

section

variable {env : UploadEnv} {s s' : Upload} {w : Nat} {p : UploadPhase}

theorem Safe.path_ne_none (h : Safe env s) (hcompleted : s.asset.uploadCompletedAt.isSome) :
    s.asset.storagePath ≠ none := by
  obtain ⟨path, _, hpath, -⟩ := h.stored hcompleted
  rw [hpath]
  exact Option.some_ne_none path

/-- What a request knows outlives steps that keep the asset's identifier, scans and the canonical
object. -/
theorem PhaseFact.mono (h : PhaseFact env s p) (hid : s'.asset.id = s.asset.id)
    (hscanned : s.scanned ⊆ s'.scanned)
    (hobject : (s.objects (env.storage.canonicalPath s.asset.id)).isSome →
      (s'.objects (env.storage.canonicalPath s.asset.id)).isSome) : PhaseFact env s' p := by
  cases p with
  | idle => trivial
  | clearing refusal => trivial
  | passed path content => exact ⟨by rw [hid]; exact h.1, hscanned h.2⟩
  | saved path content =>
    refine ⟨by rw [hid]; exact h.1, hscanned h.2.1, ?_⟩
    rw [hid]
    exact hobject h.2.2
  | _ => simpa only [PhaseFact, hid] using h

/-- A step of one request that leaves the asset and the canonical object. -/
theorem Sound.frame (h : Sound env s) (hasset : s'.asset = s.asset)
    (hobject : s'.objects (env.storage.canonicalPath s.asset.id) =
      s.objects (env.storage.canonicalPath s.asset.id))
    (hscanned : s.scanned ⊆ s'.scanned)
    (hready : ∀ answer ∈ s'.answers, answer.user = s.asset.ownerId → answer.afterCompletion →
      answer.refusal = none)
    (hphase : ∀ w, PhaseFact env s' (s'.phase w)) : Sound env s' := by
  refine ⟨⟨?_, by rw [hasset]; exact hready⟩, by rw [hasset]; exact h.settled,
    by rw [hasset]; exact h.pending, ?_, hphase⟩
  · rw [hasset]
    intro hcompleted
    obtain ⟨path, content, hpath, hcontent, hmem, hdigest⟩ := h.safe.stored hcompleted
    obtain rfl : env.storage.canonicalPath s.asset.id = path :=
      Option.some.inj ((h.settled hcompleted).symm.trans hpath)
    exact ⟨_, content, hpath, hobject.trans hcontent, hscanned hmem, hdigest⟩
  · rw [hasset, hobject]
    exact fun content hcontent => hscanned (h.scanned content hcontent)

theorem phases_goOn (h : ∀ w, PhaseFact env s (s.phase w)) (hp : PhaseFact env s p) (w' : Nat) :
    PhaseFact env s (Function.update s.phase w p w') := by
  by_cases hw : w' = w
  · rw [hw, Function.update_self]
    exact hp
  · rw [Function.update_of_ne hw]
    exact h w'

@[simp] theorem putObject_self (s : Upload) (path : String) (content : Content) :
    (s.putObject path content).objects path = some content := Function.update_self ..

theorem Sound.goOn (h : Sound env s) (hp : PhaseFact env s p) : Sound env (s.goOn w p) :=
  h.frame rfl rfl (List.Subset.refl _) h.safe.ready (phases_goOn h.phases hp)

theorem Sound.deleteStaging (h : Sound env s) {path : String}
    (hpath : path = env.storage.stagingPath s.asset.id) : Sound env (s.deleteObject path) := by
  have hkept : (s.deleteObject path).objects (env.storage.canonicalPath s.asset.id) =
      s.objects (env.storage.canonicalPath s.asset.id) := by
    rw [hpath]
    exact Function.update_of_ne (env.storage.staging_ne_canonical _).symm _ _
  exact h.frame rfl hkept (List.Subset.refl _) h.safe.ready
    fun w => (h.phases w).mono rfl (List.Subset.refl _) (by rw [hkept]; exact id)

theorem Sound.putStaging (h : Sound env s) (content : Content) :
    Sound env (s.putObject (env.storage.stagingPath s.asset.id) content) := by
  have hkept : (s.putObject (env.storage.stagingPath s.asset.id) content).objects
      (env.storage.canonicalPath s.asset.id) =
        s.objects (env.storage.canonicalPath s.asset.id) :=
    Function.update_of_ne (env.storage.staging_ne_canonical _).symm _ _
  exact h.frame rfl hkept (List.Subset.refl _) h.safe.ready
    fun w => (h.phases w).mono rfl (List.Subset.refl _) (by rw [hkept]; exact id)

theorem Sound.answer (h : Sound env s) {user : UserId} {afterCompletion : Bool}
    {refusal : Option AppError}
    (hready : user = s.asset.ownerId → afterCompletion → refusal = none) :
    Sound env (s.answer user afterCompletion refusal) := by
  refine h.frame rfl rfl (List.Subset.refl _) ?_
    fun w => (h.phases w).mono rfl (List.Subset.refl _) id
  rintro answer (_ | ⟨_, hmem⟩)
  · exact hready
  · exact h.safe.ready answer hmem

theorem Sound.answerOwner (h : Sound env s) (refusal : Option AppError) :
    Sound env (s.answerOwner refusal) := h.answer (by rintro _ ⟨⟩)

theorem Sound.passed (h : Sound env s) {path : String} {content : Content}
    (hpath : path = env.storage.stagingPath s.asset.id) :
    Sound env ({ s with scanned := content :: s.scanned }.goOn w (.passed path content)) := by
  have hscanned : Sound env { s with scanned := content :: s.scanned } :=
    h.frame rfl rfl (List.subset_cons_self _ _) h.safe.ready
      fun w => (h.phases w).mono rfl (List.subset_cons_self _ _) id
  exact hscanned.goOn ⟨hpath, List.mem_cons_self⟩

/-- An incomplete asset loses its path. -/
theorem Sound.clear (h : Sound env s) (hincomplete : s.asset.uploadCompletedAt = none) :
    Sound env { s with asset := { s.asset with storagePath := none } } := by
  have hnot : ¬s.asset.uploadCompletedAt.isSome := by rw [hincomplete]; exact Bool.false_ne_true
  exact ⟨⟨fun h' => absurd h' hnot, h.safe.ready⟩, fun h' => absurd h' hnot,
    fun _ _ h' => (nomatch h'), h.scanned,
    fun w => (h.phases w).mono rfl (List.Subset.refl _) id⟩

/-- The canonical object is written with a scanned file that has the stored digest. -/
theorem Sound.save (h : Sound env s) {content : Content} (hmem : content ∈ s.scanned)
    (hdigest : s.asset.uploadCompletedAt.isSome →
      s.asset.contentSha256 = some (env.sha256 content)) :
    Sound env (s.putObject (env.storage.canonicalPath s.asset.id) content) := by
  have hobject := putObject_self s (env.storage.canonicalPath s.asset.id) content
  refine ⟨⟨?_, h.safe.ready⟩, h.settled, h.pending, ?_, ?_⟩
  · intro hcompleted
    exact ⟨_, content, h.settled hcompleted, hobject, hmem, hdigest hcompleted⟩
  · intro content' hcontent'
    obtain rfl : content = content' := Option.some.inj (hobject.symm.trans hcontent')
    exact hmem
  · intro w
    refine (h.phases w).mono rfl (List.Subset.refl _) ?_
    rw [hobject]
    exact fun _ => rfl

/-- The completion is committed while the canonical object has its digest. -/
theorem Sound.complete (h : Sound env s) {content object : Content} {now : Time}
    (hobject : s.objects (env.storage.canonicalPath s.asset.id) = some object)
    (hdigest : env.sha256 object = env.sha256 content) :
    Sound env { s with asset := s.asset.completed env content now } := by
  refine ⟨⟨fun _ => ?_, h.safe.ready⟩, fun _ => rfl, fun h' => (nomatch h'), h.scanned,
    fun w => (h.phases w).mono rfl (List.Subset.refl _) id⟩
  exact ⟨_, object, rfl, hobject, h.scanned object hobject, by rw [hdigest]; rfl⟩

/-- The digest of a completed asset is that of its canonical object. -/
theorem Sound.digest (h : Sound env s) (hcompleted : s.asset.uploadCompletedAt.isSome)
    {object : Content} (hobject : s.objects (env.storage.canonicalPath s.asset.id) = some object) :
    s.asset.contentSha256 = some (env.sha256 object) := by
  obtain ⟨path, content, hpath, hcontent, -, hdigest⟩ := h.safe.stored hcompleted
  obtain rfl : env.storage.canonicalPath s.asset.id = path :=
    Option.some.inj ((h.settled hcompleted).symm.trans hpath)
  obtain rfl : content = object := Option.some.inj (hcontent.symm.trans hobject)
  exact hdigest

/-- What one action of a careful run comes to. -/
structure Advance (env : UploadEnv) (s s' : Upload) : Prop where
  sound : Sound env s'
  kept : s.asset.uploadCompletedAt.isSome →
    s'.asset.storagePath = s.asset.storagePath ∧ s'.asset.contentSha256 = s.asset.contentSha256

theorem Advance.same (h : Sound env s') (hasset : s'.asset = s.asset) : Advance env s s' :=
  ⟨h, fun _ => by rw [hasset]; exact ⟨rfl, rfl⟩⟩

theorem proceed_advance (h : Sound env s) {now : Time} (hcareful : Careful env s (.proceed w now)) :
    Advance env s (proceed env s w now) := by
  have hfact := h.phases w
  unfold proceed
  cases hphase : s.phase w with
  | idle => exact .same h rfl
  | loaded path =>
    rw [hphase] at hfact
    simp only
    split
    · exact .same (h.goOn hfact) rfl
    · exact .same ((h.answerOwner _).goOn trivial) rfl
  | present path =>
    rw [hphase] at hfact
    simp only
    split
    · exact .same (h.goOn trivial) rfl
    · split
      · exact .same (h.goOn hfact) rfl
      · exact .same (h.goOn hfact) rfl
  | fitting path =>
    rw [hphase] at hfact
    simp only
    split
    · exact .same (h.goOn trivial) rfl
    · exact .same (h.goOn hfact) rfl
  | scanning path content => exact .same h rfl
  | discarding path refusal =>
    rw [hphase] at hfact
    exact .same ((h.deleteStaging hfact).goOn trivial) rfl
  | clearing refusal =>
    simp only [Careful, hphase] at hcareful
    have hcleared := h.clear hcareful
    have hnot : ¬s.asset.uploadCompletedAt.isSome := by rw [hcareful]; exact Bool.false_ne_true
    cases refusal with
    | none => exact ⟨hcleared.goOn trivial, fun h' => absurd h' hnot⟩
    | some refusal =>
      exact ⟨(hcleared.answerOwner _).goOn trivial, fun h' => absurd h' hnot⟩
  | passed path content =>
    rw [hphase] at hfact
    simp only [Careful, hphase] at hcareful
    exact .same ((h.save hfact.2 hcareful).goOn ⟨hfact.1, hfact.2,
      Option.isSome_of_eq_some (putObject_self ..)⟩) rfl
  | saved path content =>
    rw [hphase] at hfact
    simp only [Careful, hphase] at hcareful
    obtain ⟨object, hobject⟩ := Option.isSome_iff_exists.mp hfact.2.2
    have hdigest := hcareful object hobject
    refine ⟨(h.complete hobject hdigest).goOn hfact.1, fun hcompleted => ?_⟩
    exact ⟨(h.settled hcompleted).symm, by rw [h.digest hcompleted hobject, hdigest]; rfl⟩
  | finishing path =>
    rw [hphase] at hfact
    simp only
    split
    · exact .same (((h.answerOwner none).deleteStaging hfact).goOn trivial) rfl
    · exact .same ((h.answerOwner none).goOn trivial) rfl
  | sweeping path =>
    rw [hphase] at hfact
    exact .same ((h.deleteStaging hfact).goOn trivial) rfl

/-- An owner is refused on a completed asset only once it has expired. -/
theorem admitComplete_error {asset : Asset} {user : UserId} {now : Time} {refusal : AppError}
    (h : asset.admitComplete user now = .error refusal) (howner : user = asset.ownerId)
    (hcompleted : asset.uploadCompletedAt.isSome) : ¬asset.unexpired now := by
  intro hfresh
  simp [Asset.admitComplete, ensure, howner, hcompleted, hfresh, bind, Except.bind] at h

theorem admitComplete_expired {asset : Asset} {now : Time} (h : ¬asset.unexpired now) :
    asset.admitComplete asset.ownerId now = .error Asset.uploadExpired := by
  simp [Asset.admitComplete, ensure, h, bind, Except.bind]

theorem admitComplete_path {asset : Asset} {user : UserId} {now : Time} {path : String}
    (h : asset.admitComplete user now = .ok (some path)) :
    asset.uploadCompletedAt = none ∧ asset.storagePath = some path := by
  simp only [Asset.admitComplete, bind_ok] at h
  obtain ⟨-, -, -, -, h⟩ := h
  split at h
  · cases h
  · rename_i hincomplete
    simp only [bind_ok, orFail_ok, pure_ok] at h
    obtain ⟨path', hpath, heq⟩ := h
    exact ⟨by simpa using hincomplete, hpath.trans heq⟩

theorem expiredPath_some {asset : Asset} {now : Time} {path : String}
    (h : asset.expiredPath now = some path) :
    asset.uploadCompletedAt = none ∧ asset.storagePath = some path := by
  unfold Asset.expiredPath at h
  split at h
  · rename_i hexpired
    simp only [Bool.and_eq_true, Option.isNone_iff_eq_none] at hexpired
    exact ⟨hexpired.2, h⟩
  · cases h

theorem step_advance (h : Sound env s) {a : UploadAction} (hcareful : Careful env s a) :
    Advance env s (step env s a) := by
  cases a with
  | put content => exact .same (h.putStaging content) rfl
  | complete w user now =>
    simp only [step]
    split
    · rename_i hidle
      split
      · rename_i refusal hrefused
        refine .same (h.answer fun howner hcompleted => ?_) rfl
        exact absurd (hcareful hidle howner hcompleted)
          (admitComplete_error hrefused howner hcompleted)
      · exact .same (h.answer fun _ _ => rfl) rfl
      · rename_i path hpath
        obtain ⟨hincomplete, hstored⟩ := admitComplete_path hpath
        exact .same (h.goOn (h.pending hincomplete path hstored)) rfl
    · exact .same h rfl
  | cleanup w now =>
    simp only [step]
    split
    · rename_i path _ hpath
      obtain ⟨hincomplete, hstored⟩ := expiredPath_some hpath
      exact .same (h.goOn (h.pending hincomplete _ hstored)) rfl
    · exact .same h rfl
  | scan w refusal =>
    simp only [step]
    split
    · rename_i path content hphase
      have hfact := h.phases w
      rw [hphase] at hfact
      cases refusal with
      | none => exact .same (h.passed hfact) rfl
      | some refusal => exact .same (h.goOn hfact) rfl
    · exact .same h rfl
  | proceed w now => exact proceed_advance h hcareful
  | fail w =>
    simp only [step]
    split
    · exact .same ((h.answerOwner none).goOn trivial) rfl
    · exact .same (h.goOn trivial) rfl

/-- A step that is not careful breaks the law. -/
theorem careful_of_upholds (h : Sound env s) {a : UploadAction} (hupholds : Upholds env s a) :
    Careful env s a := by
  obtain ⟨⟨hstored, hready⟩, -⟩ := hupholds
  cases a with
  | complete w user now =>
    rintro hidle rfl hcompleted
    by_contra hexpired
    simp only [step, hidle, admitComplete_expired hexpired, Upload.answer] at hready
    exact nomatch hready _ List.mem_cons_self rfl hcompleted
  | proceed w now =>
    cases hphase : s.phase w with
    | clearing refusal =>
      simp only [Careful, hphase]
      by_contra hcompleted
      have hsome : s.asset.uploadCompletedAt.isSome := Option.isSome_iff_ne_none.mpr hcompleted
      cases refusal with
      | none =>
        simp only [step, proceed, hphase] at hstored
        obtain ⟨_, _, hpath, -⟩ := hstored hsome
        cases hpath
      | some refusal =>
        simp only [step, proceed, hphase] at hstored
        obtain ⟨_, _, hpath, -⟩ := hstored hsome
        cases hpath
    | passed path content =>
      simp only [Careful, hphase]
      intro hcompleted
      simp only [step, proceed, hphase] at hstored
      obtain ⟨path', content', hpath, hcontent, -, hdigest⟩ := hstored hcompleted
      obtain rfl : env.storage.canonicalPath s.asset.id = path' :=
        Option.some.inj ((h.settled hcompleted).symm.trans hpath)
      have hsaved : content = content' :=
        Option.some.inj ((putObject_self s _ content).symm.trans hcontent)
      rw [hsaved]
      exact hdigest
    | saved path content =>
      simp only [Careful, hphase]
      intro object hobject
      simp only [step, proceed, hphase] at hstored
      obtain ⟨path', content', hpath, hcontent, -, hdigest⟩ := hstored rfl
      obtain rfl : env.storage.canonicalPath s.asset.id = path' := Option.some.inj hpath
      obtain rfl : object = content' := Option.some.inj (hobject.symm.trans hcontent)
      exact (Option.some.inj hdigest).symm
    | _ => simp only [Careful, hphase]
  | _ => trivial

theorem start_sound (id : String) (ownerId : UserId) (purpose : String) (expiresAt : Time) :
    Sound env (start env id ownerId purpose expiresAt) := by
  constructor
  · exact ⟨fun h => (nomatch h), fun _ h => (nomatch h)⟩
  · exact fun h => (nomatch h)
  · rintro - path ⟨⟩
    rfl
  · exact fun _ h => (nomatch h)
  · exact fun _ => trivial

/-- A run upholds the law at every step exactly if every step is careful. -/
theorem upholds_iff_careful (env : UploadEnv) (id : String) (ownerId : UserId) (purpose : String)
    (expiresAt : Time) (acts : List UploadAction) :
    Always (step env) (Upholds env) (start env id ownerId purpose expiresAt) acts ↔
      Always (step env) (Careful env) (start env id ownerId purpose expiresAt) acts := by
  refine always_congr_of_invariant (start_sound id ownerId purpose expiresAt) ?_
    fun _ _ h hcareful => (step_advance h hcareful).sound
  intro s a h
  refine ⟨careful_of_upholds h, fun hcareful => ?_⟩
  obtain ⟨hsound, hkept⟩ := step_advance h hcareful
  exact ⟨hsound.safe, hkept⟩

end

/-- A digest that tells the files of the runs below apart. -/
def plainUploads : UploadEnv :=
  { storage := ⟨"bucket", "fanfolio"⟩, sha256 := fun content => toString content.length }

/-- A request goes on up to its last commit. -/
def finishing (w : Nat) (now : Time) : List UploadAction :=
  [.proceed w now, .proceed w now, .proceed w now, .scan w none, .proceed w now, .proceed w now]

/-- A retry that overlaps the first request finds the staging object gone, and clears the path of
the completed asset. A cleanup that has selected the asset does so too. A retry after the expiry is
refused. -/
theorem completed_upload_lost :
    ¬Always (step plainUploads) (Upholds plainUploads)
      (start plainUploads "a" "owner" "card_image" 10)
      ([.put [1], .complete 0 "owner" 5, .complete 1 "owner" 6, .proceed 1 6, .proceed 1 6] ++
        finishing 0 7 ++ [.proceed 0 7, .proceed 1 8, .proceed 1 8]) ∧
    ¬Always (step plainUploads) (Upholds plainUploads)
      (start plainUploads "a" "owner" "card_image" 10)
      ([.put [1], .complete 0 "owner" 10, .cleanup 1 11, .proceed 0 11, .proceed 0 11,
        .proceed 0 11, .scan 0 none, .proceed 0 11, .proceed 0 11, .proceed 1 12] ++
        [.proceed 1 12]) ∧
    ¬Always (step plainUploads) (Upholds plainUploads)
      (start plainUploads "a" "owner" "card_image" 10)
      ([.put [1], .complete 0 "owner" 5] ++ finishing 0 7 ++ [.complete 1 "owner" 11]) := by
  refine ⟨fun h => ?_, fun h => ?_, fun h => ?_⟩
  · obtain ⟨hsafe, -⟩ := always_iff_split.mp h
      ([.put [1], .complete 0 "owner" 5, .complete 1 "owner" 6, .proceed 1 6, .proceed 1 6] ++
        finishing 0 7 ++ [.proceed 0 7, .proceed 1 8]) (.proceed 1 8) [] rfl
    exact hsafe.path_ne_none (by decide) (by decide)
  · obtain ⟨hsafe, -⟩ := always_iff_split.mp h
      [.put [1], .complete 0 "owner" 10, .cleanup 1 11, .proceed 0 11, .proceed 0 11,
        .proceed 0 11, .scan 0 none, .proceed 0 11, .proceed 0 11, .proceed 1 12]
      (.proceed 1 12) [] rfl
    exact hsafe.path_ne_none (by decide) (by decide)
  · obtain ⟨hsafe, -⟩ := always_iff_split.mp h
      ([.put [1], .complete 0 "owner" 5] ++ finishing 0 7) (.complete 1 "owner" 11) [] rfl
    have hrefused := hsafe.ready ⟨"owner", true, some Asset.uploadExpired⟩ (by decide) rfl rfl
    cases hrefused

end Upload

end Fanfolio
