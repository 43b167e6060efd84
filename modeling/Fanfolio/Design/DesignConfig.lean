import Fanfolio.Design.CardEffects
import Fanfolio.Design.EffectConfig

/-!
# The design that the studio sends

The studio builds a design from the state of its form and editor over an existing design, and the
server checks it. Unless a conversion throws, the design is accepted, and its effects are the ones
that the studio reads back from it.
-/

namespace Fanfolio

open Framework

namespace Studio

def clamped (numbers : ℚ → String) (value : JsField) (minimum maximum fallback : ℚ) :
    Except JsError ℚ :=
  (fun q => max minimum (min maximum q)) <$> numeric numbers value fallback

/-- `compactObject` of an object literal. -/
def compactObject (properties : List (String × JsField)) : JsEntries :=
  JsonEntries.assignAll [] properties

/-- `value || undefined`. -/
def orUndefined (value : JsField) : JsField := value.orElse none

def textField (s : String) : JsField := some (.str s)

def numberField (q : ℚ) : JsField := some (.num q)

def boolField (b : Bool) : JsField := some (.bool b)

/-- `layer.zIndex === undefined ? undefined : clamped(layer.zIndex, 1, 99, index + 1)`. -/
def zIndexOf (numbers : ℚ → String) (index : Nat) (value : JsField) : Except JsError JsField :=
  if value.isSome then numberField <$> clamped numbers value 1 99 (index + 1) else .ok none

/-- `normalizeCreativeLayer`. -/
def normalizeCreativeLayer (numbers : ℚ → String) (index : Nat) : JsJson → Except JsError JsJson
  | .null => .error .typeError
  | layer => do
    let get := JsField.get (some layer)
    let written ← ((get "color").orElse (textField "")).text numbers
    let id ← ((get "id").orElse (textField ("creative-layer-" ++ toString (index + 1)))).text numbers
    let x ← clamped numbers (get "x") 0 100 50
    let y ← clamped numbers (get "y") 0 100 50
    let width ← clamped numbers (get "width") 8 100 36
    let rotation ← clamped numbers (get "rotation") (-180) 180 0
    let opacity ← clamped numbers (get "opacity") 0 1 1
    let zIndex ← zIndexOf numbers index (get "zIndex")
    return .obj (compactObject [
      ("id", textField id),
      ("type", textField
        (oneOf (get "type").asText ["handwriting", "drawing", "sticker"] "handwriting")),
      ("side", textField (if (get "side").asText = some "back" then "back" else "front")),
      ("assetId", orUndefined (get "assetId")),
      ("builtinId", orUndefined (get "builtinId")),
      ("x", numberField x),
      ("y", numberField y),
      ("width", numberField width),
      ("rotation", numberField rotation),
      ("opacity", numberField opacity),
      ("color", textField (if isHexColor written then written.map Char.toLower else "#ffffff")),
      ("zIndex", zIndex)])

/-- `layerSource.map(normalizeCreativeLayer)` from an index on. -/
def normalizeLayers (numbers : ℚ → String) : Nat → List JsJson → Except JsError (List JsJson)
  | _, [] => .ok []
  | index, layer :: rest => do
    let first ← normalizeCreativeLayer numbers index layer
    (first :: ·) <$> normalizeLayers numbers (index + 1) rest

/-- `rawExisting`. -/
def rawExisting (form editor : JsState) : JsJson :=
  ((form.get "designConfig").orElse ((editor.get "designConfig").orElse (some (.obj [])))).getD
    (.obj [])

/-- `existing`. -/
def existingOf (form editor : JsState) : JsEntries :=
  (rawExisting form editor).ownEntries.remove "lenticularAssetId"

/-- `existing.back` without its asset. -/
def existingBackOf (existing : JsEntries) : JsEntries :=
  (JsField.spread (existing.lookup "back")).remove "lenticularAssetId"

/-- The layers, if there is an array of them. -/
def layersOf (editor : JsState) (existing : JsEntries) : Option (List JsJson) :=
  match (editor.get "layers").coalesce (existing.lookup "creativeLayers") with
  | some (.arr layers) => some layers
  | _ => none

def creativeLayersOf (numbers : ℚ → String) (editor : JsState) (existing : JsEntries) :
    Except JsError JsField :=
  match layersOf editor existing with
  | some layers => (fun normalized => some (.arr normalized)) <$> normalizeLayers numbers 0 layers
  | none => .ok none

/-- The preset of a front that names none. -/
def defaultPreset (editor : JsState) : String :=
  if (editor.get "effect").asText = some "none" then "none"
  else if (editor.get "tool").asText = some "motion" then "motion"
  else "hologram"

/-- `a !== undefined || b !== undefined ? convert(a ?? b) : undefined`. -/
def whenDefined (convert : JsField → Except JsError ℚ) (a b : JsField) : Except JsError JsField :=
  if a.isSome ∨ b.isSome then numberField <$> convert (a.coalesce b) else .ok none

def imageOf (form editor : JsState) (image : JsField) : JsField :=
  let imageAssetId := (editor.get "imageAssetId").orElse (form.get "imageAssetId")
  if image.truthy ∨ imageAssetId.truthy then
    some (.obj (image.spread.assignAll [
      ("assetId", imageAssetId.coalesce (image.get "assetId")),
      ("filter", (editor.get "filter").coalesce (image.get "filter"))]))
  else none

/-- `frontSource`. -/
def frontSource (numbers : ℚ → String) (form editor : JsState) (existing : JsEntries) :
    Except JsError JsEntries := do
  let get := JsField.get (existing.lookup "front")
  let either := fun key => (editor.get key).coalesce (get key)
  let effectIntensity ← whenDefined (normalizedIntensity numbers · 0.78)
    (editor.get "effectIntensity") (get "effectIntensity")
  let effectAngle ← whenDefined (numeric numbers · 135) (editor.get "effectAngle")
    (get "effectAngle")
  let effectSpread ← whenDefined (normalizedIntensity numbers · 0.64) (editor.get "effectSpread")
    (get "effectSpread")
  let effectGrain ← whenDefined (normalizedIntensity numbers · 0.38) (editor.get "effectGrain")
    (get "effectGrain")
  return (JsField.spread (existing.lookup "front")).assignAll [
    ("preset", (get "preset").coalesce (textField (defaultPreset editor))),
    ("material", either "material"),
    ("foilPattern", either "foilPattern"),
    ("foilCoverage", either "foilCoverage"),
    ("interaction", either "interaction"),
    ("intensity", (editor.get "effectIntensity").coalesce (get "intensity")),
    ("angle", (editor.get "effectAngle").coalesce (get "angle")),
    ("lenticularAssetId", if editor.hasOwn "lenticularAssetId" then editor.get "lenticularAssetId"
      else get "lenticularAssetId"),
    ("effect", either "effect"),
    ("effectPreset", either "effectPreset"),
    ("effectIntensity", effectIntensity),
    ("effectAngle", effectAngle),
    ("effectMotion", either "effectMotion"),
    ("effectSpread", effectSpread),
    ("effectGrain", effectGrain),
    ("effectFinish", either "effectFinish"),
    ("spatialScene", if editor.hasOwn "spatialScene" then editor.get "spatialScene"
      else get "spatialScene"),
    ("spatialEnabled", either "spatialEnabled"),
    ("selectedEffect", either "selectedEffect"),
    ("photoAnalysis", if editor.hasOwn "photoAnalysis" then editor.get "photoAnalysis"
      else get "photoAnalysis"),
    ("image", imageOf form editor (get "image"))]

/-- `backSource`. -/
def backSource (editor : JsState) (existing : JsEntries) : JsEntries :=
  let existingBack := existingBackOf existing
  existingBack.assignAll [
    ("material", (editor.get "backMaterial").coalesce (existingBack.lookup "material")),
    ("edgeFoil", (editor.get "backEdgeFoil").coalesce (existingBack.lookup "edgeFoil")),
    ("spotUv", (editor.get "backSpotUv").coalesce (existingBack.lookup "spotUv")),
    ("hiddenMessage",
      (editor.get "backHiddenMessage").coalesce (existingBack.lookup "hiddenMessage")),
    ("effect", (editor.get "backEffect").coalesce (existingBack.lookup "effect")),
    ("background", (editor.get "background").coalesce (existingBack.lookup "background")),
    ("templateId", (editor.get "backTemplateId").coalesce (existingBack.lookup "templateId"))]

/-- The fields of `effects.front`. -/
def FrontEffects.properties (effects : FrontEffects) : List (String × JsField) := [
  ("material", textField effects.material),
  ("foilPattern", textField effects.foilPattern),
  ("foilCoverage", textField effects.foilCoverage),
  ("interaction", textField effects.interaction),
  ("intensity", numberField effects.intensity),
  ("angle", numberField effects.angle),
  ("lenticularAssetId", some effects.lenticularAssetId)]

end Studio

/-- The fields of `effects.back`. -/
def BackEffects.properties (effects : BackEffects) : List (String × JsField) := [
  ("material", Studio.textField effects.material),
  ("edgeFoil", Studio.textField effects.edgeFoil),
  ("spotUv", Studio.textField effects.spotUv),
  ("hiddenMessage", Studio.textField effects.hiddenMessage)]

namespace Studio

def videoEnabled (form editor : JsState) (existing : JsEntries) : Bool :=
  let videoAssetId := (editor.get "videoAssetId").orElse (form.get "videoAssetId")
  JsField.truthy ((editor.get "videoEnabled").coalesce
    ((JsField.get (existing.lookup "video") "enabled").coalesce
      ((form.get "videoEnabled").coalesce videoAssetId)))

def voiceEnabled (form editor : JsState) (existing : JsEntries) : Bool :=
  JsField.truthy ((editor.get "voiceEnabled").coalesce
    ((JsField.get (existing.lookup "voice") "enabled").coalesce
      ((form.get "hasVoice").coalesce (form.get "voiceAssetId"))))

def handwritingEnabled (form editor : JsState) (existing : JsEntries) : Bool :=
  JsField.truthy ((editor.get "handwritingEnabled").coalesce
    ((JsField.get (existing.lookup "handwriting") "enabled").coalesce
      ((editor.get "handwritingAssetId").coalesce
        ((editor.get "signatureAssetId").coalesce (form.get "handwritingAssetId")))))

def videoOf (numbers : ℚ → String) (form editor : JsState) (existing : JsEntries) :
    Except JsError JsJson := do
  let video := existing.lookup "video"
  let posterTime ← numeric numbers
    ((editor.get "videoPosterTime").coalesce (JsField.get video "posterTime")) 0
  return .obj ((JsField.spread video).assignAll [
    ("enabled", boolField (videoEnabled form editor existing)),
    ("posterTime", numberField posterTime),
    ("loop", (editor.get "videoLoop").coalesce
      ((JsField.get video "loop").coalesce (boolField true)))])

def voiceOf (numbers : ℚ → String) (form editor : JsState) (existing : JsEntries) :
    Except JsError JsJson := do
  let voice := existing.lookup "voice"
  let trimStart ← numeric numbers
    ((editor.get "voiceTrimStart").coalesce (JsField.get voice "trimStart")) 0
  let trimEnd ← whenDefined (numeric numbers · 0) (editor.get "voiceTrimEnd")
    (JsField.get voice "trimEnd")
  return .obj ((JsField.spread voice).assignAll [
    ("enabled", boolField (voiceEnabled form editor existing)),
    ("trimStart", numberField trimStart),
    ("trimEnd", trimEnd)])

def handwritingOf (form editor : JsState) (existing : JsEntries) : JsJson :=
  .obj ((JsField.spread (existing.lookup "handwriting")).assignAll [
    ("enabled", boolField (handwritingEnabled form editor existing))])

/-- `buildDesignConfig`. -/
def buildDesignConfig (numbers : ℚ → String) (form editor : JsState) : Except JsError JsJson := do
  let existing := existingOf form editor
  let creativeLayers ← creativeLayersOf numbers editor existing
  let front ← frontSource numbers form editor existing
  let back := backSource editor existing
  let effects ← normalizeCardEffects numbers
    (.obj ((existing.set "front" (.obj front)).set "back" (.obj back)))
  let video ← videoOf numbers form editor existing
  let voice ← voiceOf numbers form editor existing
  return .obj (existing.assignAll [
    ("version", numberField 3),
    ("creativeLayers", creativeLayers.or (existing.lookup "creativeLayers")),
    ("front", some (.obj (front.assignAll (effects.front.properties ++
      [("effectMotion", boolField (effects.front.interaction ≠ "static"))])))),
    ("back", some (.obj (back.assignAll effects.back.properties))),
    ("video", some video),
    ("voice", some voice),
    ("handwriting", some (handwritingOf form editor existing))])

/-- Effects that are what they are read back as. -/
structure FrontEffects.Normal (effects : FrontEffects) : Prop where
  material : effects.material ∈ materials
  foilPattern : effects.foilPattern ∈ foilPatterns
  foilCoverage : effects.foilCoverage ∈ foilCoverages
  interaction : effects.interaction ∈ interactions
  intensity : 0 ≤ effects.intensity ∧ effects.intensity ≤ 1
  angle : 0 ≤ effects.angle ∧ effects.angle < 360
  lenticularAssetId : effects.lenticularAssetId = .null ∨
    effects.interaction = "lenticular" ∧ effects.lenticularAssetId.truthy

section

variable {numbers : ℚ → String} {front back : JsEntries} {effects : FrontEffects}

theorem interactionOf_mem (front : JsEntries) : interactionOf front ∈ interactions :=
  oneOf_mem (by decide) _

/-- The asset is none, or the one of a lenticular front. -/
theorem lenticularAssetIdOf_cases (front : JsEntries) : lenticularAssetIdOf front = .null ∨
    interactionOf front = "lenticular" ∧ (lenticularAssetIdOf front).truthy ∧
      front.lookup "lenticularAssetId" = some (lenticularAssetIdOf front) := by
  unfold lenticularAssetIdOf
  split
  · rename_i hlenticular
    cases htruthy : JsField.truthy (front.lookup "lenticularAssetId") with
    | false => exact .inl (by simp [JsField.orElse, htruthy])
    | true =>
      cases hlookup : front.lookup "lenticularAssetId" with
      | none =>
        rw [hlookup] at htruthy
        cases htruthy
      | some value =>
        rw [hlookup] at htruthy
        rw [JsField.orElse, htruthy, if_pos rfl]
        exact .inr ⟨hlenticular, htruthy, rfl⟩
  · exact .inl rfl

theorem normalizeFront_normal (h : normalizeFront numbers front = .ok effects) :
    effects.Normal := by
  simp only [normalizeFront, bind_ok, pure_ok] at h
  obtain ⟨finish, -, pattern, -, intensity, hintensity, angle, hangle, rfl⟩ := h
  exact {
    material := oneOf_mem (oneOf_mem (by decide) _) _
    foilPattern := oneOf_mem (oneOf_mem (by decide) _) _
    foilCoverage := oneOf_mem (by decide) _
    interaction := interactionOf_mem front
    intensity := normalizedIntensity_bounds hintensity
    angle := normalizedAngle_bounds hangle
    lenticularAssetId := by
      rcases lenticularAssetIdOf_cases front with hnull | ⟨hlenticular, htruthy, -⟩
      · exact .inl hnull
      · exact .inr ⟨hlenticular, htruthy⟩ }

/-- A front that holds normal effects is read as them. -/
theorem normalizeFront_of_normal (hnormal : effects.Normal)
    (hfields : ∀ property ∈ effects.properties, front.lookup property.1 = property.2)
    (hfinish : (legacyFinish front).hasText)
    (hpreset : JsField.hasText (front.lookup "effectPreset")) :
    normalizeFront numbers front = .ok effects := by
  simp only [FrontEffects.properties, List.forall_mem_cons, List.not_mem_nil, false_implies,
    implies_true, and_true] at hfields
  obtain ⟨hmaterial, hpattern, hcoverage, hinteraction, hintensity, hangle, hasset⟩ := hfields
  obtain ⟨finish, hfinish⟩ := (tableText_ok_iff numbers legacyMaterial).mpr hfinish
  obtain ⟨pattern, hpreset⟩ := (tableText_ok_iff numbers legacyPattern).mpr hpreset
  have hread : interactionOf front = effects.interaction := by
    have hmem := hnormal.interaction
    simp only [interactions, List.mem_cons, List.not_mem_nil, or_false] at hmem
    rw [interactionOf, hinteraction]
    rcases hmem with h | h | h <;> rw [h] <;> rfl
  have hassetRead : lenticularAssetIdOf front = effects.lenticularAssetId := by
    rw [lenticularAssetIdOf, hread, hasset]
    rcases hnormal.lenticularAssetId with hnull | ⟨hlenticular, htruthy⟩
    · rw [hnull]
      split <;> rfl
    · rw [if_pos hlenticular, JsField.orElse, JsField.truthy, Option.any_some, htruthy, if_pos rfl,
        Option.getD_some]
  simp only [normalizeFront, bind_ok, pure_ok]
  refine ⟨finish, hfinish, pattern, hpreset, effects.intensity, ?_, effects.angle, ?_, ?_⟩
  · rw [hintensity]
    exact normalizedIntensity_of_bounds hnormal.intensity _
  · rw [hangle]
    exact normalizedAngle_of_bounds hnormal.angle _
  · simp only [hread, hassetRead, hmaterial, hpattern, hcoverage, textField, JsField.asText,
      oneOf_of_mem hnormal.material, oneOf_of_mem hnormal.foilPattern,
      oneOf_of_mem hnormal.foilCoverage]

end

end Studio

/-- The effects of a back are what they are read back as. -/
structure BackEffects.Normal (effects : BackEffects) : Prop where
  material : effects.material ∈ materials
  edgeFoil : effects.edgeFoil ∈ edgeFoils
  spotUv : effects.spotUv ∈ spotUvTargets
  hiddenMessage : effects.hiddenMessage.toList.length ≤ 40

section

variable {numbers : ℚ → String} {back : JsEntries} {effects : BackEffects}

theorem normalizeBack_normal (h : normalizeBack numbers back = .ok effects) : effects.Normal := by
  simp only [normalizeBack, bind_ok, pure_ok] at h
  obtain ⟨message, -, rfl⟩ := h
  exact {
    material := oneOf_mem (by decide) _
    edgeFoil := oneOf_mem (by decide) _
    spotUv := oneOf_mem (by decide) _
    hiddenMessage := by simp }

theorem normalizeBack_of_normal (hnormal : effects.Normal)
    (hfields : ∀ property ∈ effects.properties, back.lookup property.1 = property.2) :
    normalizeBack numbers back = .ok effects := by
  simp only [BackEffects.properties, List.forall_mem_cons, List.not_mem_nil, false_implies,
    implies_true, and_true] at hfields
  obtain ⟨hmaterial, hfoil, hspot, hmessage⟩ := hfields
  simp only [normalizeBack, bind_ok, pure_ok]
  refine ⟨effects.hiddenMessage, by rw [hmessage]; rfl, ?_⟩
  simp only [hmaterial, hfoil, hspot, Studio.textField, JsField.asText,
    oneOf_of_mem hnormal.material, oneOf_of_mem hnormal.edgeFoil, oneOf_of_mem hnormal.spotUv,
    List.take_of_length_le hnormal.hiddenMessage, String.ofList_toList]

end

namespace Studio

/-- The values of a layer that are converted to texts or numbers. -/
def convertedInLayer (layer : JsJson) : List JsField :=
  ["color", "id", "x", "y", "width", "rotation", "opacity", "zIndex"].map (JsField.get (some layer))

def LayerReadable (layer : JsJson) : Prop :=
  layer ≠ .null ∧ ∀ value ∈ convertedInLayer layer, value.hasText

/-- The other values that are converted. -/
def convertedInputs (editor : JsState) (existing : JsEntries) : List JsField :=
  let front := JsField.get (existing.lookup "front")
  [(editor.get "effectIntensity").coalesce (front "effectIntensity"),
    (editor.get "effectAngle").coalesce (front "effectAngle"),
    (editor.get "effectSpread").coalesce (front "effectSpread"),
    (editor.get "effectGrain").coalesce (front "effectGrain"),
    (editor.get "effectFinish").coalesce (front "effectFinish"),
    (editor.get "effectPreset").coalesce (front "effectPreset"),
    (editor.get "effectIntensity").coalesce (front "intensity"),
    (editor.get "effectAngle").coalesce (front "angle"),
    (editor.get "backHiddenMessage").coalesce ((existingBackOf existing).lookup "hiddenMessage"),
    (editor.get "videoPosterTime").coalesce (JsField.get (existing.lookup "video") "posterTime"),
    (editor.get "voiceTrimStart").coalesce (JsField.get (existing.lookup "voice") "trimStart"),
    (editor.get "voiceTrimEnd").coalesce (JsField.get (existing.lookup "voice") "trimEnd")]

/-- No layer is null, and every value that is converted has a text. -/
structure Buildable (editor : JsState) (existing : JsEntries) : Prop where
  layers : ∀ layers, layersOf editor existing = some layers →
    ∀ layer ∈ layers, LayerReadable layer
  inputs : ∀ value ∈ convertedInputs editor existing, value.hasText

section

variable {numbers : ℚ → String} {form editor : JsState} {existing front : JsEntries}

theorem clamped_ok_iff (numbers : ℚ → String) {value : JsField} (minimum maximum fallback : ℚ) :
    (∃ q, clamped numbers value minimum maximum fallback = .ok q) ↔ value.hasText := by
  rw [← numeric_ok_iff numbers fallback]
  simp [clamped]

theorem zIndexOf_ok_iff (numbers : ℚ → String) (index : Nat) {value : JsField} :
    (∃ field, zIndexOf numbers index value = .ok field) ↔ value.hasText := by
  rw [zIndexOf, ← clamped_ok_iff numbers 1 99 (index + 1)]
  cases value with
  | none => simp [clamped, numeric, JsField.number]
  | some v => simp

theorem normalizeCreativeLayer_ok_iff (numbers : ℚ → String) (index : Nat) (layer : JsJson) :
    (∃ normalized, normalizeCreativeLayer numbers index layer = .ok normalized) ↔
      LayerReadable layer := by
  have htext : ∀ s, JsField.hasText (textField s) := fun _ => rfl
  unfold normalizeCreativeLayer LayerReadable
  split
  · simp
  · rename_i layer hnull
    simp only [convertedInLayer, List.map_cons, List.map_nil, List.forall_mem_cons,
      List.not_mem_nil, false_implies, implies_true, and_true, ne_eq]
    rw [and_iff_right (by rintro rfl; exact hnull rfl)]
    constructor
    · rintro ⟨_, h⟩
      simp only [bind_ok, pure_ok] at h
      obtain ⟨color, hcolor, id, hid, x, hx, y, hy, width, hwidth, rotation, hrotation, opacity,
        hopacity, zIndex, hzIndex, -⟩ := h
      refine ⟨?_, ?_, (clamped_ok_iff numbers _ _ _).mp ⟨x, hx⟩,
        (clamped_ok_iff numbers _ _ _).mp ⟨y, hy⟩, (clamped_ok_iff numbers _ _ _).mp ⟨width, hwidth⟩,
        (clamped_ok_iff numbers _ _ _).mp ⟨rotation, hrotation⟩,
        (clamped_ok_iff numbers _ _ _).mp ⟨opacity, hopacity⟩,
        (zIndexOf_ok_iff numbers _).mp ⟨zIndex, hzIndex⟩⟩
      · rw [← JsField.hasText_orElse (htext ""), ← JsField.text_ok_iff numbers]
        exact ⟨color, hcolor⟩
      · rw [← JsField.hasText_orElse (htext _), ← JsField.text_ok_iff numbers]
        exact ⟨id, hid⟩
    · rintro ⟨hcolor, hid, hx, hy, hwidth, hrotation, hopacity, hzIndex⟩
      rw [← JsField.hasText_orElse (htext ""), ← JsField.text_ok_iff numbers] at hcolor
      rw [← JsField.hasText_orElse (htext ("creative-layer-" ++ toString (index + 1))),
        ← JsField.text_ok_iff numbers] at hid
      obtain ⟨color, hcolor⟩ := hcolor
      obtain ⟨id, hid⟩ := hid
      obtain ⟨x, hx⟩ := (clamped_ok_iff numbers 0 100 50).mpr hx
      obtain ⟨y, hy⟩ := (clamped_ok_iff numbers 0 100 50).mpr hy
      obtain ⟨width, hwidth⟩ := (clamped_ok_iff numbers 8 100 36).mpr hwidth
      obtain ⟨rotation, hrotation⟩ := (clamped_ok_iff numbers (-180) 180 0).mpr hrotation
      obtain ⟨opacity, hopacity⟩ := (clamped_ok_iff numbers 0 1 1).mpr hopacity
      obtain ⟨zIndex, hzIndex⟩ := (zIndexOf_ok_iff numbers index).mpr hzIndex
      simp only [bind_ok, pure_ok]
      exact ⟨_, color, hcolor, id, hid, x, hx, y, hy, width, hwidth, rotation, hrotation, opacity,
        hopacity, zIndex, hzIndex, rfl⟩

theorem normalizeLayers_ok_iff (numbers : ℚ → String) (index : Nat) (layers : List JsJson) :
    (∃ normalized, normalizeLayers numbers index layers = .ok normalized) ↔
      ∀ layer ∈ layers, LayerReadable layer := by
  induction layers generalizing index with
  | nil => simp [normalizeLayers]
  | cons layer rest ih =>
    rw [List.forall_mem_cons, ← ih (index + 1), ← normalizeCreativeLayer_ok_iff numbers index]
    simp [normalizeLayers]

theorem creativeLayersOf_ok_iff (numbers : ℚ → String) :
    (∃ layers, creativeLayersOf numbers editor existing = .ok layers) ↔
      ∀ layers, layersOf editor existing = some layers → ∀ layer ∈ layers, LayerReadable layer := by
  cases hlayers : layersOf editor existing with
  | none => simp [creativeLayersOf, hlayers]
  | some layers => simp [creativeLayersOf, hlayers, ← normalizeLayers_ok_iff numbers 0]

theorem whenDefined_ok_iff {convert : JsField → Except JsError ℚ}
    (hconvert : ∀ value : JsField, (∃ q, convert value = .ok q) ↔ value.hasText) (a b : JsField) :
    (∃ field, whenDefined convert a b = .ok field) ↔ (a.coalesce b).hasText := by
  rw [whenDefined, ← hconvert]
  split
  · simp
  · rename_i hundefined
    rw [hconvert]
    cases a with
    | some value => exact absurd (.inl rfl) hundefined
    | none => cases b with
      | some value => exact absurd (.inr rfl) hundefined
      | none => exact iff_of_true ⟨none, rfl⟩ rfl

theorem whenDefined_hasText {convert : JsField → Except JsError ℚ} {a b field : JsField}
    (h : whenDefined convert a b = .ok field) : field.hasText := by
  unfold whenDefined at h
  split at h
  · obtain ⟨q, -, rfl⟩ := map_ok.mp h
    rfl
  · cases h
    rfl

theorem normalizeFront_ok_iff (numbers : ℚ → String) (front : JsEntries) :
    (∃ effects, normalizeFront numbers front = .ok effects) ↔
      (legacyFinish front).hasText ∧ JsField.hasText (front.lookup "effectPreset") ∧
      (JsField.coalesce (front.lookup "intensity") (front.lookup "effectIntensity")).hasText ∧
      (JsField.coalesce (front.lookup "angle") (front.lookup "effectAngle")).hasText := by
  rw [← tableText_ok_iff numbers legacyMaterial, ← tableText_ok_iff numbers legacyPattern,
    ← normalizedIntensity_ok_iff numbers 0.58, ← normalizedAngle_ok_iff numbers 135]
  simp only [normalizeFront, bind_ok, pure_ok]
  constructor
  · rintro ⟨_, finish, hfinish, pattern, hpattern, intensity, hintensity, angle, hangle, -⟩
    exact ⟨⟨finish, hfinish⟩, ⟨pattern, hpattern⟩, ⟨intensity, hintensity⟩, ⟨angle, hangle⟩⟩
  · rintro ⟨⟨finish, hfinish⟩, ⟨pattern, hpattern⟩, ⟨intensity, hintensity⟩, ⟨angle, hangle⟩⟩
    exact ⟨_, finish, hfinish, pattern, hpattern, intensity, hintensity, angle, hangle, rfl⟩

theorem legacyFinish_hasText (front : JsEntries) :
    (legacyFinish front).hasText = JsField.hasText (front.lookup "effectFinish") := by
  apply JsField.hasText_coalesce
  split <;> rfl

/-- What the normalization of the front converts: what the editor and the existing front have. -/
theorem frontSource_spec (h : frontSource numbers form editor existing = .ok front) :
    front.lookup "effectFinish" = (editor.get "effectFinish").coalesce
        (JsField.get (existing.lookup "front") "effectFinish") ∧
    front.lookup "effectPreset" = (editor.get "effectPreset").coalesce
        (JsField.get (existing.lookup "front") "effectPreset") ∧
    (JsField.coalesce (front.lookup "intensity") (front.lookup "effectIntensity")).hasText =
      ((editor.get "effectIntensity").coalesce
        (JsField.get (existing.lookup "front") "intensity")).hasText ∧
    (JsField.coalesce (front.lookup "angle") (front.lookup "effectAngle")).hasText =
      ((editor.get "effectAngle").coalesce
        (JsField.get (existing.lookup "front") "angle")).hasText := by
  simp only [frontSource, bind_ok, pure_ok] at h
  obtain ⟨intensity, hintensity, angle, hangle, spread, -, grain, -, rfl⟩ := h
  simp only [JsonEntries.lookup_assignAll]
  exact ⟨rfl, rfl, JsField.hasText_coalesce (whenDefined_hasText hintensity) _,
    JsField.hasText_coalesce (whenDefined_hasText hangle) _⟩

/-- What the server checks in the front that is built, before its effects are written. -/
theorem frontSource_kept (h : frontSource numbers form editor existing = .ok front) :
    front.lookup "preset" = (JsField.get (existing.lookup "front") "preset").coalesce
        (textField (defaultPreset editor)) ∧
    front.lookup "lenticularAssetId" = (if editor.hasOwn "lenticularAssetId" then
        editor.get "lenticularAssetId"
      else JsField.get (existing.lookup "front") "lenticularAssetId") ∧
    ∀ key ∈ ["speed", "particleCount", "color", "backImageAssetId", "imageAssetId"],
      front.lookup key = (JsField.spread (existing.lookup "front")).lookup key := by
  simp only [frontSource, bind_ok, pure_ok] at h
  obtain ⟨_, -, _, -, _, -, _, -, rfl⟩ := h
  simp only [List.forall_mem_cons, List.not_mem_nil, false_implies, implies_true, and_true,
    JsonEntries.lookup_assignAll]
  exact ⟨rfl, rfl, rfl, rfl, rfl, rfl, rfl⟩

theorem frontSource_ok_iff (numbers : ℚ → String) (form editor : JsState)
    (existing : JsEntries) : (∃ front, frontSource numbers form editor existing = .ok front) ↔
      ∀ key ∈ ["effectIntensity", "effectAngle", "effectSpread", "effectGrain"],
        ((editor.get key).coalesce (JsField.get (existing.lookup "front") key)).hasText := by
  have hintensity : ∀ fallback (value : JsField),
      (∃ q, normalizedIntensity numbers value fallback = .ok q) ↔ value.hasText :=
    fun fallback _ => normalizedIntensity_ok_iff numbers fallback
  have hangle : ∀ value : JsField, (∃ q, numeric numbers value 135 = .ok q) ↔ value.hasText :=
    fun _ => numeric_ok_iff numbers 135
  simp only [List.forall_mem_cons, List.not_mem_nil, false_implies, implies_true, and_true]
  rw [← whenDefined_ok_iff (hintensity 0.78), ← whenDefined_ok_iff hangle,
    ← whenDefined_ok_iff (hintensity 0.64), ← whenDefined_ok_iff (hintensity 0.38)]
  simp only [frontSource, bind_ok, pure_ok]
  constructor
  · rintro ⟨_, intensity, hintensity, angle, hangle, spread, hspread, grain, hgrain, -⟩
    exact ⟨⟨intensity, hintensity⟩, ⟨angle, hangle⟩, ⟨spread, hspread⟩, ⟨grain, hgrain⟩⟩
  · rintro ⟨⟨intensity, hintensity⟩, ⟨angle, hangle⟩, ⟨spread, hspread⟩, ⟨grain, hgrain⟩⟩
    exact ⟨_, intensity, hintensity, angle, hangle, spread, hspread, grain, hgrain, rfl⟩

theorem videoOf_ok_iff (numbers : ℚ → String) (form editor : JsState) (existing : JsEntries) :
    (∃ video, videoOf numbers form editor existing = .ok video) ↔
      ((editor.get "videoPosterTime").coalesce
        (JsField.get (existing.lookup "video") "posterTime")).hasText := by
  rw [← numeric_ok_iff numbers 0]
  simp [videoOf]

theorem voiceOf_ok_iff (numbers : ℚ → String) (form editor : JsState) (existing : JsEntries) :
    (∃ voice, voiceOf numbers form editor existing = .ok voice) ↔
      ((editor.get "voiceTrimStart").coalesce
        (JsField.get (existing.lookup "voice") "trimStart")).hasText ∧
      ((editor.get "voiceTrimEnd").coalesce
        (JsField.get (existing.lookup "voice") "trimEnd")).hasText := by
  rw [← numeric_ok_iff numbers 0, ← whenDefined_ok_iff fun _ => numeric_ok_iff numbers 0]
  simp only [voiceOf, bind_ok, pure_ok]
  constructor
  · rintro ⟨_, start, hstart, stop, hstop, -⟩
    exact ⟨⟨start, hstart⟩, ⟨stop, hstop⟩⟩
  · rintro ⟨⟨start, hstart⟩, ⟨stop, hstop⟩⟩
    exact ⟨_, start, hstart, stop, hstop, rfl⟩

/-- The document of which the studio takes the effects. -/
def mergedDesign (existing front back : JsEntries) : JsJson :=
  .obj ((existing.set "front" (.obj front)).set "back" (.obj back))

theorem frontOf_mergedDesign (existing front back : JsEntries) :
    frontOf (mergedDesign existing front back) = front := by
  simp [frontOf, mergedDesign, JsonValue.fields, JsField.fields]

theorem backOf_mergedDesign (existing front back : JsEntries) :
    backOf (mergedDesign existing front back) = back := by
  simp [backOf, mergedDesign, JsonValue.fields, JsField.fields]

theorem normalizeCardEffects_merged {back : JsEntries} :
    normalizeCardEffects numbers (mergedDesign existing front back) = do
      let frontEffects ← normalizeFront numbers front
      let backEffects ← normalizeBack numbers back
      return { version := 3, front := frontEffects, back := backEffects } := by
  rw [normalizeCardEffects_of_ne_null (by rintro ⟨⟩), frontOf_mergedDesign, backOf_mergedDesign]

/-- The parts of a design that is built. -/
theorem buildDesignConfig_ok_iff {config : JsJson} :
    buildDesignConfig numbers form editor = .ok config ↔
      ∃ layers, creativeLayersOf numbers editor (existingOf form editor) = .ok layers ∧
      ∃ front, frontSource numbers form editor (existingOf form editor) = .ok front ∧
      ∃ frontEffects, normalizeFront numbers front = .ok frontEffects ∧
      ∃ backEffects, normalizeBack numbers (backSource editor (existingOf form editor)) =
        .ok backEffects ∧
      ∃ video, videoOf numbers form editor (existingOf form editor) = .ok video ∧
      ∃ voice, voiceOf numbers form editor (existingOf form editor) = .ok voice ∧
      config = .obj ((existingOf form editor).assignAll [
        ("version", numberField 3),
        ("creativeLayers", layers.or ((existingOf form editor).lookup "creativeLayers")),
        ("front", some (.obj (front.assignAll (frontEffects.properties ++
          [("effectMotion", boolField (frontEffects.interaction ≠ "static"))])))),
        ("back", some (.obj ((backSource editor (existingOf form editor)).assignAll
          backEffects.properties))),
        ("video", some video),
        ("voice", some voice),
        ("handwriting", some (handwritingOf form editor (existingOf form editor)))]) := by
  simp only [buildDesignConfig, bind_ok, pure_ok]
  constructor
  · rintro ⟨layers, hlayers, front, hfront, effects, heffects, video, hvideo, voice, hvoice, rfl⟩
    have hmerged : normalizeCardEffects numbers (mergedDesign (existingOf form editor) front
      (backSource editor (existingOf form editor))) = .ok effects := heffects
    rw [normalizeCardEffects_merged] at hmerged
    simp only [bind_ok, pure_ok] at hmerged
    obtain ⟨frontEffects, hfrontEffects, backEffects, hbackEffects, rfl⟩ := hmerged
    exact ⟨layers, hlayers, front, hfront, frontEffects, hfrontEffects, backEffects, hbackEffects,
      video, hvideo, voice, hvoice, rfl⟩
  · rintro ⟨layers, hlayers, front, hfront, frontEffects, hfrontEffects, backEffects,
      hbackEffects, video, hvideo, voice, hvoice, rfl⟩
    have hmerged : normalizeCardEffects numbers (mergedDesign (existingOf form editor) front
        (backSource editor (existingOf form editor))) =
        .ok { version := 3, front := frontEffects, back := backEffects } := by
      rw [normalizeCardEffects_merged]
      simp only [bind_ok, pure_ok]
      exact ⟨frontEffects, hfrontEffects, backEffects, hbackEffects, rfl⟩
    exact ⟨layers, hlayers, front, hfront, _, hmerged, video, hvideo, voice, hvoice, rfl⟩

theorem backSource_message (editor : JsState) (existing : JsEntries) :
    (backSource editor existing).lookup "hiddenMessage" =
      (editor.get "backHiddenMessage").coalesce
        ((existingBackOf existing).lookup "hiddenMessage") := by
  rw [backSource, JsonEntries.lookup_assignAll]
  rfl

/-- What the effects of a front that is built need. -/
theorem normalizeFront_frontSource_iff
    (h : frontSource numbers form editor existing = .ok front) :
    (∃ effects, normalizeFront numbers front = .ok effects) ↔
      ((editor.get "effectFinish").coalesce
        (JsField.get (existing.lookup "front") "effectFinish")).hasText ∧
      ((editor.get "effectPreset").coalesce
        (JsField.get (existing.lookup "front") "effectPreset")).hasText ∧
      ((editor.get "effectIntensity").coalesce
        (JsField.get (existing.lookup "front") "intensity")).hasText ∧
      ((editor.get "effectAngle").coalesce
        (JsField.get (existing.lookup "front") "angle")).hasText := by
  obtain ⟨hfinish, hpreset, hintensity, hangle⟩ := frontSource_spec h
  rw [normalizeFront_ok_iff, legacyFinish_hasText, hfinish, hpreset, hintensity, hangle]

theorem normalizeBack_backSource_iff (numbers : ℚ → String) (editor : JsState)
    (existing : JsEntries) :
    (∃ effects, normalizeBack numbers (backSource editor existing) = .ok effects) ↔
      ((editor.get "backHiddenMessage").coalesce
        ((existingBackOf existing).lookup "hiddenMessage")).hasText := by
  rw [normalizeBack_ok_iff, backSource_message, JsField.hasText_coalesce rfl]

/-- A design is built exactly if the layers and the inputs can be converted. -/
theorem buildDesignConfig_isOk_iff (numbers : ℚ → String) (form editor : JsState) :
    (∃ config, buildDesignConfig numbers form editor = .ok config) ↔
      Buildable editor (existingOf form editor) := by
  simp only [buildDesignConfig_ok_iff]
  generalize existingOf form editor = existing
  constructor
  · rintro ⟨_, layers, hlayers, front, hfront, frontEffects, hfrontEffects, backEffects,
      hbackEffects, video, hvideo, voice, hvoice, -⟩
    refine ⟨(creativeLayersOf_ok_iff numbers).mp ⟨layers, hlayers⟩, ?_⟩
    have hsource := (frontSource_ok_iff numbers form editor existing).mp ⟨front, hfront⟩
    have heffects := (normalizeFront_frontSource_iff hfront).mp ⟨_, hfrontEffects⟩
    have hmessage := (normalizeBack_backSource_iff numbers editor existing).mp ⟨_, hbackEffects⟩
    have hposter := (videoOf_ok_iff numbers form editor existing).mp ⟨video, hvideo⟩
    have htrim := (voiceOf_ok_iff numbers form editor existing).mp ⟨voice, hvoice⟩
    simp only [List.forall_mem_cons, List.not_mem_nil, false_implies, implies_true, and_true]
      at hsource
    simp only [convertedInputs, List.forall_mem_cons, List.not_mem_nil, false_implies,
      implies_true, and_true]
    exact ⟨hsource.1, hsource.2.1, hsource.2.2.1, hsource.2.2.2, heffects.1, heffects.2.1,
      heffects.2.2.1, heffects.2.2.2, hmessage, hposter, htrim.1, htrim.2⟩
  · rintro ⟨hlayers, hinputs⟩
    simp only [convertedInputs, List.forall_mem_cons, List.not_mem_nil, false_implies,
      implies_true, and_true] at hinputs
    obtain ⟨hintensity, hangle, hspread, hgrain, hfinish, hpreset, hshown, hturned, hmessage,
      hposter, hstart, hstop⟩ := hinputs
    obtain ⟨layers, hlayers⟩ := (creativeLayersOf_ok_iff numbers).mpr hlayers
    obtain ⟨front, hfront⟩ := (frontSource_ok_iff numbers form editor existing).mpr (by
      simp only [List.forall_mem_cons, List.not_mem_nil, false_implies, implies_true, and_true]
      exact ⟨hintensity, hangle, hspread, hgrain⟩)
    obtain ⟨frontEffects, hfrontEffects⟩ :=
      (normalizeFront_frontSource_iff hfront).mpr ⟨hfinish, hpreset, hshown, hturned⟩
    obtain ⟨backEffects, hbackEffects⟩ :=
      (normalizeBack_backSource_iff numbers editor existing).mpr hmessage
    obtain ⟨video, hvideo⟩ := (videoOf_ok_iff numbers form editor existing).mpr hposter
    obtain ⟨voice, hvoice⟩ := (voiceOf_ok_iff numbers form editor existing).mpr ⟨hstart, hstop⟩
    exact ⟨_, layers, hlayers, front, hfront, frontEffects, hfrontEffects, backEffects,
      hbackEffects, video, hvideo, voice, hvoice, rfl⟩

end

end Studio

/-- The effects that are read back from a design are the fields that it has. -/
def ReproducesEffects (numbers : ℚ → String) (config : JsJson) : Prop :=
  ∃ effects, Studio.normalizeCardEffects numbers config = .ok effects ∧
    config.fields.lookup "version" = Studio.numberField effects.version ∧
    (∀ property ∈ effects.front.properties, (frontOf config).lookup property.1 = property.2) ∧
    ∀ property ∈ effects.back.properties, (backOf config).lookup property.1 = property.2

/-- A number as the server reads it from the text that JavaScript writes. -/
def pyNumber (q : ℚ) : PyNumber :=
  if q.den = 1 ∧ |q| < 10 ^ 21 then .int q.num else .float (.finite q)

/-- A document as the server reads it. -/
def toPython (config : JsJson) : PyJson := config.mapNumbers pyNumber

/-- The server accepts a design. -/
def DesignAccepted (digits : DecimalDigits) (config : JsJson) : Prop :=
  ∃ result, validateEffectConfig digits (toPython config) = .ok result

section

variable {numbers : ℚ → String} {form editor : JsState} {config : JsJson}

theorem buildDesignConfig_reproduces
    (h : Studio.buildDesignConfig numbers form editor = .ok config) :
    ReproducesEffects numbers config := by
  obtain ⟨layers, -, front, hfront, frontEffects, hfrontEffects, backEffects, hbackEffects, video,
    -, voice, -, rfl⟩ := Studio.buildDesignConfig_ok_iff.mp h
  generalize hwritten : front.assignAll (frontEffects.properties ++
    [("effectMotion", Studio.boolField (frontEffects.interaction ≠ "static"))]) = written
  generalize hback : (Studio.backSource editor (Studio.existingOf form editor)).assignAll
    backEffects.properties = back
  have hfrontFields : ∀ property ∈ frontEffects.properties,
      written.lookup property.1 = property.2 := by
    simp only [Studio.FrontEffects.properties, List.forall_mem_cons, List.not_mem_nil,
      false_implies, implies_true, and_true, ← hwritten, JsonEntries.lookup_assignAll]
    exact ⟨rfl, rfl, rfl, rfl, rfl, rfl, rfl⟩
  have hbackFields : ∀ property ∈ backEffects.properties,
      back.lookup property.1 = property.2 := by
    simp only [BackEffects.properties, List.forall_mem_cons, List.not_mem_nil,
      false_implies, implies_true, and_true, ← hback, JsonEntries.lookup_assignAll]
    exact ⟨rfl, rfl, rfl, rfl⟩
  have hfinish : written.lookup "effectFinish" = front.lookup "effectFinish" := by
    rw [← hwritten, JsonEntries.lookup_assignAll]
    rfl
  have hpreset : written.lookup "effectPreset" = front.lookup "effectPreset" := by
    rw [← hwritten, JsonEntries.lookup_assignAll]
    rfl
  have hconverted := (Studio.normalizeFront_ok_iff numbers front).mp ⟨_, hfrontEffects⟩
  rw [Studio.legacyFinish_hasText] at hconverted
  have hread : Studio.normalizeFront numbers written = .ok frontEffects := by
    apply Studio.normalizeFront_of_normal (Studio.normalizeFront_normal hfrontEffects) hfrontFields
    · rw [Studio.legacyFinish_hasText, hfinish]
      exact hconverted.1
    · rw [hpreset]
      exact hconverted.2.1
  have hreadBack : normalizeBack numbers back = .ok backEffects :=
    normalizeBack_of_normal (normalizeBack_normal hbackEffects) hbackFields
  generalize hbuilt : (Studio.existingOf form editor).assignAll _ = built
  have hversion : built.lookup "version" = Studio.numberField 3 := by
    rw [← hbuilt, JsonEntries.lookup_assignAll]
    rfl
  have hfrontOf : frontOf (.obj built) = written := by
    rw [frontOf, JsonValue.fields, ← hbuilt, JsonEntries.lookup_assignAll]
    rfl
  have hbackOf : backOf (.obj built) = back := by
    rw [backOf, JsonValue.fields, ← hbuilt, JsonEntries.lookup_assignAll]
    rfl
  refine ⟨{ version := 3, front := frontEffects, back := backEffects }, ?_, hversion, ?_, ?_⟩
  · rw [Studio.normalizeCardEffects_of_ne_null (by rintro ⟨⟩), hfrontOf, hbackOf]
    simp only [bind_ok, pure_ok]
    exact ⟨frontEffects, hread, backEffects, hreadBack, rfl⟩
  · rw [hfrontOf]
    exact hfrontFields
  · rw [hbackOf]
    exact hbackFields

theorem sideOf_toPython {entries : JsEntries} {name : CardSide} {side : PyEntries}
    (h : sideOf (JsonValue.mapEntries pyNumber entries) name = .ok side) :
    side = JsonValue.mapEntries pyNumber (JsField.spread (entries.lookup name.key)) ∧
      JsField.fields (entries.lookup name.key) = JsField.spread (entries.lookup name.key) := by
  rw [sideOf, JsonEntries.lookup_mapEntries] at h
  cases hlookup : entries.lookup name.key with
  | none =>
    rw [hlookup] at h
    cases h
    exact ⟨rfl, rfl⟩
  | some value =>
    rw [hlookup] at h
    cases value with
    | obj found =>
      cases h
      exact ⟨rfl, rfl⟩
    | _ => cases h

theorem entryOk_toPython_iff {side : JsEntries} {check : PyJson → Bool} {key : String} :
    entryOk (JsonValue.mapEntries pyNumber side) check key ↔
      ∀ value, side.lookup key = some value → value = .null ∨ check (toPython value) := by
  rw [entryOk, JsonEntries.lookup_mapEntries]
  rcases side.lookup key with _ | value
  · simp
  · cases value <;> simp [toPython, JsonValue.mapNumbers]

/-- The server takes the asset that the editor has, if it has one. -/
def AssetAllowed (editor : JsState) : Prop :=
  ∀ value, editor.get "lenticularAssetId" = some value → value = .null ∨
    ∃ s, value = .str s ∧ s.length ≤ 200 ∧ ¬"data:".toList <+: s.toList ∧
      ¬"javascript:".toList <+: s.toList

theorem isUnitNumber_pyNumber {q : ℚ} (h : 0 ≤ q ∧ q ≤ 1) :
    isUnitNumber (toPython (.num q)) = true := by
  show PyNumber.between 0 1 (pyNumber q) = true
  unfold pyNumber
  split
  · rename_i hint
    have hnum : (q.num : ℚ) = q := Rat.coe_int_num_of_den_eq_one hint.1
    rw [← hnum] at h
    simp only [PyNumber.between, decide_eq_true_eq]
    exact_mod_cast h
  · simp [PyNumber.between, h]

/-- The back keeps what the server checks, but for the asset. -/
theorem back_accepted (editor : JsState) (effects : BackEffects) {existing : JsEntries}
    {preset interaction : PyJson} (h : checkSide .back (JsonValue.mapEntries pyNumber
      (JsField.spread (existing.lookup "back"))) = .ok (preset, interaction)) :
    ∃ preset interaction, checkSide .back (JsonValue.mapEntries pyNumber
      ((Studio.backSource editor existing).assignAll effects.properties)) =
        .ok (preset, interaction) := by
  generalize hwritten : (Studio.backSource editor existing).assignAll effects.properties = written
  have hlookup : ∀ key ∈ ["preset", "effectPreset", "interaction", "intensity", "speed",
      "particleCount", "color", "backImageAssetId", "imageAssetId"],
      written.lookup key = (JsField.spread (existing.lookup "back")).lookup key := by
    simp only [List.forall_mem_cons, List.not_mem_nil, false_implies, implies_true, and_true,
      ← hwritten, Studio.backSource, JsonEntries.lookup_assignAll, Studio.existingBackOf,
      JsonEntries.lookup_remove]
    exact ⟨rfl, rfl, rfl, rfl, rfl, rfl, rfl, rfl, rfl⟩
  have hasset : written.lookup "lenticularAssetId" = none := by
    simp only [← hwritten, Studio.backSource, JsonEntries.lookup_assignAll, Studio.existingBackOf,
      JsonEntries.lookup_remove]
    rfl
  generalize JsField.spread (existing.lookup "back") = back at h hlookup
  have hsame : ∀ key ∈ ["preset", "effectPreset", "interaction", "intensity", "speed",
      "particleCount", "color", "backImageAssetId", "imageAssetId"],
      (JsonValue.mapEntries pyNumber written).lookup key =
        (JsonValue.mapEntries pyNumber back).lookup key := by
    intro key hkey
    rw [JsonEntries.lookup_mapEntries, JsonEntries.lookup_mapEntries, hlookup key hkey]
  have hpreset : presetOf (JsonValue.mapEntries pyNumber written) =
      presetOf (JsonValue.mapEntries pyNumber back) := by
    rw [presetOf, presetOf, hsame "preset" (by simp), hsame "effectPreset" (by simp)]
  have hinteraction : interactionOf .back (JsonValue.mapEntries pyNumber written) =
      interactionOf .back (JsonValue.mapEntries pyNumber back) := by
    rw [interactionOf, interactionOf, hsame "interaction" (by simp)]
  obtain ⟨-, rfl, hpresetOk, -, rfl, hinteractionOk, hbackOk, hunit, -⟩ := checkSide_ok_iff.mp h
  rw [← hpreset] at hpresetOk
  rw [← hinteraction] at hinteractionOk hbackOk
  apply checkSide_of_passed h hpresetOk hinteractionOk hbackOk
  · simp only [List.all_cons, List.all_nil, Bool.and_true, Bool.and_eq_true] at hunit
    rw [entryOk, hsame "intensity" (by simp)]
    exact hunit.1
  · rw [entryOk_toPython_iff, hasset]
    rintro value ⟨⟩
  · intro key hkey
    apply hsame
    revert key
    decide

theorem assetReference_of_allowed (h : AssetAllowed editor) {value : JsJson}
    (hvalue : editor.get "lenticularAssetId" = some value) :
    value = .null ∨ isAssetReference (toPython value) := by
  rcases h value hvalue with hnull | ⟨s, rfl, hlength, hdata, hscript⟩
  · exact .inl hnull
  · refine .inr ?_
    rw [← List.isPrefixOf_iff_prefix, Bool.not_eq_true] at hdata hscript
    simp only [toPython, JsonValue.mapNumbers, isAssetReference, hlength, hdata, hscript,
      decide_true, Bool.not_false, Bool.and_true]

/-- The front names an allowed preset and interaction, and keeps the rest of what the server
checks. -/
theorem front_accepted {existing front : JsEntries} {preset interaction : PyJson}
    {effects : Studio.FrontEffects} (hasset : AssetAllowed editor)
    (h : checkSide .front (JsonValue.mapEntries pyNumber
      (JsField.spread (existing.lookup "front"))) = .ok (preset, interaction))
    (hobject : JsField.fields (existing.lookup "front") = JsField.spread (existing.lookup "front"))
    (hfront : Studio.frontSource numbers form editor existing = .ok front)
    (heffects : Studio.normalizeFront numbers front = .ok effects) :
    ∃ preset interaction, checkSide .front (JsonValue.mapEntries pyNumber
      (front.assignAll (effects.properties ++
        [("effectMotion", Studio.boolField (effects.interaction ≠ "static"))]))) =
          .ok (preset, interaction) := by
  have hnormal := Studio.normalizeFront_normal heffects
  generalize hwritten : front.assignAll (effects.properties ++
    [("effectMotion", Studio.boolField (effects.interaction ≠ "static"))]) = written
  have hfields : ∀ property ∈ effects.properties, written.lookup property.1 = property.2 := by
    simp only [Studio.FrontEffects.properties, List.forall_mem_cons, List.not_mem_nil,
      false_implies, implies_true, and_true, ← hwritten, JsonEntries.lookup_assignAll]
    exact ⟨rfl, rfl, rfl, rfl, rfl, rfl, rfl⟩
  have hread : ∀ key, key ∉ ["material", "foilPattern", "foilCoverage", "interaction", "intensity",
      "angle", "lenticularAssetId", "effectMotion"] → written.lookup key = front.lookup key := by
    intro key hkey
    rw [← hwritten, JsonEntries.lookup_assignAll, JsonEntries.lookup_eq_none_iff_keys.mpr hkey]
    rfl
  obtain ⟨hpreset, hassetOf, hkept⟩ := Studio.frontSource_kept hfront
  obtain ⟨-, rfl, hpresetOk, -, -, -, -, -, -, -, hassets⟩ := checkSide_ok_iff.mp h
  have hinteraction : interactionOf .front (JsonValue.mapEntries pyNumber written) =
      .str effects.interaction := by
    rw [interactionOf, JsonEntries.lookup_mapEntries,
      hfields ("interaction", Studio.textField effects.interaction) (by
        simp [Studio.FrontEffects.properties])]
    rfl
  rw [JsField.get, hobject] at hpreset hassetOf
  apply checkSide_of_passed h
  · rw [presetOf, JsonEntries.lookup_mapEntries, hread "preset" (by decide), hpreset]
    rw [presetOf, JsonEntries.lookup_mapEntries] at hpresetOk
    cases hown : (JsField.spread (existing.lookup "front")).lookup "preset" with
    | none =>
      show isOneOf allowedPresets (legacyPreset (.str (Studio.defaultPreset editor)))
      unfold Studio.defaultPreset
      split
      · rfl
      · split <;> rfl
    | some own =>
      rw [hown] at hpresetOk
      have hnull : own ≠ .null := by
        rintro rfl
        cases hpresetOk
      rw [JsField.coalesce_of_ne_null hnull]
      exact hpresetOk
  · rw [hinteraction]
    exact List.contains_iff_mem.mpr hnormal.interaction
  · rintro ⟨⟨⟩, -⟩
  · rw [entryOk_toPython_iff, hfields ("intensity", Studio.numberField effects.intensity) (by
      simp [Studio.FrontEffects.properties])]
    rintro value ⟨⟩
    exact .inr (isUnitNumber_pyNumber hnormal.intensity)
  · rw [entryOk_toPython_iff, hfields ("lenticularAssetId", some effects.lenticularAssetId) (by
      simp [Studio.FrontEffects.properties])]
    rintro value ⟨⟩
    have hown : effects.lenticularAssetId = .null ∨
        front.lookup "lenticularAssetId" = some effects.lenticularAssetId := by
      simp only [Studio.normalizeFront, bind_ok, pure_ok] at heffects
      obtain ⟨_, -, _, -, _, -, _, -, rfl⟩ := heffects
      rcases Studio.lenticularAssetIdOf_cases front with hnull | ⟨-, -, hlookup⟩
      · exact .inl hnull
      · exact .inr hlookup
    rcases hown with hnull | hlookup
    · exact .inl hnull
    · rw [hassetOf] at hlookup
      split at hlookup
      · exact assetReference_of_allowed hasset hlookup
      · simp only [List.all_cons, Bool.and_eq_true] at hassets
        exact entryOk_toPython_iff.mp hassets.1 _ hlookup
  · intro key hkey
    rw [JsonEntries.lookup_mapEntries, JsonEntries.lookup_mapEntries, ← hkept key hkey, hread]
    revert key
    decide

theorem pyNumber_three : pyNumber 3 = .int 3 := by
  have hint : (3 : ℚ).den = 1 ∧ |(3 : ℚ)| < 10 ^ 21 := by norm_num
  rw [pyNumber, if_pos hint]
  rfl

theorem buildDesignConfig_accepted {digits : DecimalDigits}
    (hexisting : DesignAccepted digits (Studio.rawExisting form editor)) (hasset : AssetAllowed editor)
    (h : Studio.buildDesignConfig numbers form editor = .ok config) :
    DesignAccepted digits config := by
  obtain ⟨layers, -, front, hfront, frontEffects, hfrontEffects, backEffects, -, video, -, voice, -,
    rfl⟩ := Studio.buildDesignConfig_ok_iff.mp h
  obtain ⟨result, hresult⟩ := hexisting
  cases hraw : Studio.rawExisting form editor with
  | obj entries =>
    rw [hraw] at hresult
    obtain ⟨version, -, side, preset, interaction, hside, hcheck, side', preset', interaction',
      hside', hcheck', -⟩ := validateEffectConfig_ok hresult
    have hexisting : Studio.existingOf form editor =
        JsonEntries.remove entries "lenticularAssetId" := by
      rw [Studio.existingOf, hraw]
      rfl
    have hfrontEntry : (Studio.existingOf form editor).lookup "front" = entries.lookup "front" := by
      rw [hexisting, JsonEntries.lookup_remove]
      rfl
    have hbackEntry : (Studio.existingOf form editor).lookup "back" = entries.lookup "back" := by
      rw [hexisting, JsonEntries.lookup_remove]
      rfl
    obtain ⟨rfl, hobject⟩ := sideOf_toPython hside
    obtain ⟨rfl, -⟩ := sideOf_toPython hside'
    rw [CardSide.key, ← hfrontEntry] at hcheck hobject
    rw [CardSide.key, ← hbackEntry] at hcheck'
    obtain ⟨_, _, hfrontOk⟩ := front_accepted hasset hcheck hobject hfront hfrontEffects
    obtain ⟨_, _, hbackOk⟩ := back_accepted editor backEffects hcheck'
    generalize hbuilt : (Studio.existingOf form editor).assignAll _ = built
    have hversion : toInt digits (((JsonValue.mapEntries pyNumber built).lookup "version").getD
        (.num (.int 3))) = .ok 3 := by
      rw [JsonEntries.lookup_mapEntries, ← hbuilt, JsonEntries.lookup_assignAll]
      show toInt digits (.num (pyNumber 3)) = .ok 3
      rw [pyNumber_three]
      rfl
    refine validateEffectConfig_accepts hversion ?_ hfrontOk ?_ hbackOk
    · rw [sideOf, JsonEntries.lookup_mapEntries, ← hbuilt, JsonEntries.lookup_assignAll]
      rfl
    · rw [sideOf, JsonEntries.lookup_mapEntries, ← hbuilt, JsonEntries.lookup_assignAll]
      rfl
  | _ =>
    rw [hraw] at hresult
    cases hresult

end

/-- A design is built that the server accepts and whose effects are read back. -/
def BuildsAccepted (digits : DecimalDigits) (numbers : ℚ → String) (form editor : JsState) : Prop :=
  ∃ config, Studio.buildDesignConfig numbers form editor = .ok config ∧
    DesignAccepted digits config ∧ ReproducesEffects numbers config

/-- Over an accepted design, the design that is built is accepted and its effects are read back,
exactly if no layer is null and every value that is converted has a text. -/
theorem buildDesignConfig_accepted_iff (digits : DecimalDigits) (numbers : ℚ → String)
    (form editor : JsState) (hexisting : DesignAccepted digits (Studio.rawExisting form editor))
    (hasset : AssetAllowed editor) :
    BuildsAccepted digits numbers form editor ↔
      Studio.Buildable editor (Studio.existingOf form editor) := by
  rw [← Studio.buildDesignConfig_isOk_iff numbers]
  constructor
  · rintro ⟨config, hbuild, -, -⟩
    exact ⟨config, hbuild⟩
  · rintro ⟨config, hbuild⟩
    exact ⟨config, hbuild, buildDesignConfig_accepted hexisting hasset hbuild,
      buildDesignConfig_reproduces hbuild⟩

/-- A foil that is made stronger, with a layer that has nothing set. -/
theorem buildDesignConfig_foil :
    BuildsAccepted .asciiOnly integerText
      ⟨[("designConfig", some (.obj [("front", .obj [("preset", .str "foil")]),
        ("creativeLayers", .arr [.obj []])]))]⟩
      ⟨[("effectIntensity", some (.num 60)), ("lenticularAssetId", some .null)]⟩ := by
  refine (buildDesignConfig_accepted_iff _ _ _ _ ⟨_, rfl⟩ ?_).mpr ⟨?_, by decide⟩
  · intro value hvalue
    cases hvalue
    exact .inl rfl
  · intro layers hlayers layer hlayer
    cases hlayers
    rw [List.mem_singleton.mp hlayer]
    exact ⟨by rintro ⟨⟩, by decide⟩

/-- A layer that is null is accepted by the server, and the studio throws. -/
theorem buildDesignConfig_null_layer :
    DesignAccepted .asciiOnly (.obj [("creativeLayers", .arr [.null])]) ∧
    Studio.buildDesignConfig integerText
      ⟨[("designConfig", some (.obj [("creativeLayers", .arr [.null])]))]⟩
      ⟨[("lenticularAssetId", some .null)]⟩ = .error .typeError ∧
    ¬BuildsAccepted .asciiOnly integerText
      ⟨[("designConfig", some (.obj [("creativeLayers", .arr [.null])]))]⟩
      ⟨[("lenticularAssetId", some .null)]⟩ := by
  refine ⟨⟨_, rfl⟩, rfl, ?_⟩
  rintro ⟨config, hbuild, -⟩
  cases hbuild

end Fanfolio
