import Fanfolio.Framework.JsCoercion

/-!
# The effects of a card in its two clients

The studio and the fan app each normalize the effects of a design, with tables and fallbacks of
their own. Where nothing throws they differ in four fields of the front.
-/

namespace Fanfolio

open Framework

/-- A document as JavaScript reads it. -/
abbrev JsJson := JsonValue ℚ

abbrev JsEntries := JsonEntries ℚ

/-- `numeric`, the same in both clients. -/
def numeric (numbers : ℚ → String) (value : JsField) (fallback : ℚ) : Except JsError ℚ :=
  (·.getD fallback) <$> value.number numbers

/-- `normalizedIntensity`, the same in both clients. -/
def normalizedIntensity (numbers : ℚ → String) (value : JsField) (fallback : ℚ) :
    Except JsError ℚ := do
  let parsed ← numeric numbers value fallback
  return max 0 (min 1 (if parsed > 1 then parsed / 100 else parsed))

/-- `normalizedAngle`, the same in both clients. -/
def normalizedAngle (numbers : ℚ → String) (value : JsField) (fallback : ℚ) :
    Except JsError ℚ := do
  let parsed ← numeric numbers value fallback
  let angle := jsRemainder parsed 360
  return if angle < 0 then angle + 360 else angle

/-- `oneOf`; a value that is no text is not allowed. -/
def oneOf (value : Option String) (allowed : List String) (fallback : String) : String :=
  match value with
  | some s => if s ∈ allowed then s else fallback
  | none => fallback

def materials : List String := ["matte", "pearl", "chrome"]

def foilCoverages : List String := ["full", "background", "frame", "signature"]

def interactions : List String := ["static", "tilt", "lenticular"]

def edgeFoils : List String := ["none", "silver", "gold"]

def spotUvTargets : List String := ["none", "logo", "symbol", "serial"]

def effectCatalogIds : List String :=
  ["aurora-wave", "satin-pearl", "gold-signature", "spectrum-edge", "constellation",
    "glass-caustics", "liquid-silver", "laser-engraving", "cinema-flare", "blossom-depth",
    "light-signature", "diamond-cut"]

def legacyFoilPatternIds : List String :=
  ["aurora-wave", "prism", "cracked-ice", "micro-star", "liquid-chrome", "glass-flare"]

/-- `ALL_FOIL_PATTERN_IDS`. -/
def foilPatterns : List String :=
  effectCatalogIds ++ legacyFoilPatternIds.filter (· ∉ effectCatalogIds)

def legacyMaterial : List (String × String) :=
  [("glass", "pearl"), ("silk", "matte"), ("diamond", "chrome")]

def legacyPattern : List (String × String) :=
  [("aurora", "aurora-wave"), ("moonlight", "aurora-wave"), ("rose-opal", "aurora-wave"),
    ("prism", "prism"), ("crystal", "cracked-ice"), ("stardust", "micro-star")]

structure BackEffects where
  material : String
  edgeFoil : String
  spotUv : String
  hiddenMessage : String
deriving DecidableEq, Repr

/-- The back side, the same in both clients. -/
def normalizeBack (numbers : ℚ → String) (back : JsEntries) : Except JsError BackEffects := do
  let message ← (JsField.coalesce (back.lookup "hiddenMessage") (some (.str ""))).text numbers
  return {
    material := oneOf (JsField.asText (back.lookup "material")) materials "matte"
    edgeFoil := oneOf (JsField.asText (back.lookup "edgeFoil")) edgeFoils "none"
    spotUv := oneOf (JsField.asText (back.lookup "spotUv")) spotUvTargets "none"
    hiddenMessage := String.ofList (message.toList.take 40) }

/-- `front.effectMotion === false ? 'static' : 'tilt'`. -/
def motionInteraction (front : JsEntries) : String :=
  match front.lookup "effectMotion" with
  | some (.bool false) => "static"
  | _ => "tilt"

/-- `front.effectFinish ?? (front.effect === 'holographic' ? 'glass' : undefined)`. -/
def legacyFinish (front : JsEntries) : JsField :=
  JsField.coalesce (front.lookup "effectFinish")
    (if JsField.asText (front.lookup "effect") = some "holographic" then some (.str "glass")
    else none)

def frontOf (designConfig : JsJson) : JsEntries :=
  JsField.fields (designConfig.fields.lookup "front")

def backOf (designConfig : JsJson) : JsEntries :=
  JsField.fields (designConfig.fields.lookup "back")

namespace Studio

structure FrontEffects where
  material : String
  foilPattern : String
  foilCoverage : String
  interaction : String
  intensity : ℚ
  angle : ℚ
  lenticularAssetId : JsJson
deriving Repr

structure CardEffects where
  version : Nat
  front : FrontEffects
  back : BackEffects
deriving Repr

/-- A table is read under the text of any value. -/
def tableText (numbers : ℚ → String) (table : List (String × String)) (key : JsField) :
    Except JsError (Option String) := do
  let name ← key.text numbers
  return (jsMember table name).bind JsMember.asText

def interactionOf (front : JsEntries) : String :=
  oneOf (JsField.asText
    (JsField.orElse (front.lookup "interaction") (some (.str (motionInteraction front)))))
    interactions "static"

def lenticularAssetIdOf (front : JsEntries) : JsJson :=
  if interactionOf front = "lenticular" then
    (JsField.orElse (front.lookup "lenticularAssetId") (some .null)).getD .null
  else .null

def normalizeFront (numbers : ℚ → String) (front : JsEntries) : Except JsError FrontEffects := do
  let finish ← tableText numbers legacyMaterial (legacyFinish front)
  let pattern ← tableText numbers legacyPattern (front.lookup "effectPreset")
  let intensity ← normalizedIntensity numbers
    (JsField.coalesce (front.lookup "intensity") (front.lookup "effectIntensity")) 0.58
  let angle ← normalizedAngle numbers
    (JsField.coalesce (front.lookup "angle") (front.lookup "effectAngle")) 135
  return {
    material := oneOf (JsField.asText (front.lookup "material")) materials
      (oneOf finish materials "matte")
    foilPattern := oneOf (JsField.asText (front.lookup "foilPattern")) foilPatterns
      (oneOf pattern foilPatterns "aurora-wave")
    foilCoverage := oneOf (JsField.asText (front.lookup "foilCoverage")) foilCoverages "full"
    interaction := interactionOf front
    intensity := intensity
    angle := angle
    lenticularAssetId := lenticularAssetIdOf front }

/-- `normalizeCardEffects` of the studio. -/
def normalizeCardEffects (numbers : ℚ → String) : JsJson → Except JsError CardEffects
  | .null => .error .typeError
  | designConfig => do
    let front ← normalizeFront numbers (frontOf designConfig)
    let back ← normalizeBack numbers (backOf designConfig)
    return { version := 3, front := front, back := back }

end Studio

namespace FanApp

structure FrontEffects where
  material : JsMember
  foilPattern : JsMember
  foilCoverage : String
  interaction : String
  intensity : ℚ
  angle : ℚ
  lenticularAssetId : Option String
  effectSpread : ℚ
  effectGrain : ℚ
deriving Repr

structure CardEffects where
  version : Nat
  front : FrontEffects
  back : BackEffects
deriving Repr

/-- `oneOf` with a fallback that a table may have inherited. -/
def oneOfMember (value : Option String) (allowed : List String) (fallback : JsMember) : JsMember :=
  match value with
  | some s => if s ∈ allowed then .own s else fallback
  | none => fallback

def presetPattern : List (String × String) :=
  [("light", "aurora-wave"), ("glow", "aurora-wave"), ("foil", "prism"), ("hologram", "prism"),
    ("particles", "micro-star"), ("motion", "aurora-wave")]

/-- `nonemptyString`. -/
def nonemptyString (value : JsField) : Option String :=
  value.asText.filter fun s => jsTrim s.toList ≠ []

def interactionOf (front : JsEntries) : String :=
  oneOf (JsField.asText
    (JsField.coalesce (front.lookup "interaction") (some (.str (motionInteraction front)))))
    interactions "static"

def lenticularAssetIdOf (front : JsEntries) : Option String :=
  if interactionOf front = "lenticular" then nonemptyString (front.lookup "lenticularAssetId")
  else none

/-- `legacyMaterial ?? 'matte'`; a table is read under a text only. -/
def finishMaterial (front : JsEntries) : JsMember :=
  ((legacyFinish front).asText.bind (jsMember legacyMaterial)).getD (.own "matte")

def configuredPreset (front : JsEntries) : String :=
  (JsField.asText (front.lookup "preset")).getD ""

def presetFoilPattern (front : JsEntries) : JsMember :=
  let legacyPreset := (JsField.asText (front.lookup "effectPreset")).getD (configuredPreset front)
  ((jsMember legacyPattern legacyPreset).or
    (jsMember presetPattern (configuredPreset front))).getD (.own "aurora-wave")

def normalizeFront (numbers : ℚ → String) (front : JsEntries) : Except JsError FrontEffects := do
  let intensity ← normalizedIntensity numbers
    (JsField.coalesce (front.lookup "intensity") (front.lookup "effectIntensity")) 0.58
  let angle ← normalizedAngle numbers
    (JsField.coalesce (front.lookup "angle") (front.lookup "effectAngle")) 135
  let effectSpread ← normalizedIntensity numbers (front.lookup "effectSpread") 0.64
  let effectGrain ← normalizedIntensity numbers (front.lookup "effectGrain") 0.38
  return {
    material := oneOfMember (JsField.asText (front.lookup "material")) materials
      (finishMaterial front)
    foilPattern := oneOfMember (JsField.asText (front.lookup "foilPattern")) foilPatterns
      (presetFoilPattern front)
    foilCoverage := oneOf (JsField.asText (front.lookup "foilCoverage")) foilCoverages "full"
    interaction := interactionOf front
    intensity := intensity
    angle := angle
    lenticularAssetId := lenticularAssetIdOf front
    effectSpread := effectSpread
    effectGrain := effectGrain }

/-- `normalizeCardEffects` of the fan app. -/
def normalizeCardEffects (numbers : ℚ → String) (designConfig : JsJson) :
    Except JsError CardEffects := do
  let front ← normalizeFront numbers (frontOf designConfig)
  let back ← normalizeBack numbers (backOf designConfig)
  return { version := 3, front := front, back := back }

end FanApp

/-- The field is one of the texts. -/
def IsOneOf (allowed : List String) (value : JsField) : Prop := ∃ s ∈ allowed, value = some (.str s)

/-- The effects of both clients are the same, so far as both have them. -/
structure SameEffects (studio : Studio.CardEffects) (fan : FanApp.CardEffects) : Prop where
  material : fan.front.material = .own studio.front.material
  foilPattern : fan.front.foilPattern = .own studio.front.foilPattern
  foilCoverage : fan.front.foilCoverage = studio.front.foilCoverage
  interaction : fan.front.interaction = studio.front.interaction
  intensity : fan.front.intensity = studio.front.intensity
  angle : fan.front.angle = studio.front.angle
  lenticularAssetId : (fan.front.lenticularAssetId.map JsonValue.str).getD .null =
    studio.front.lenticularAssetId
  back : fan.back = studio.back

/-- The fields that one client or both convert to texts or numbers. -/
def convertedFields (front back : JsEntries) : List JsField :=
  [legacyFinish front, front.lookup "effectPreset",
    JsField.coalesce (front.lookup "intensity") (front.lookup "effectIntensity"),
    JsField.coalesce (front.lookup "angle") (front.lookup "effectAngle"),
    front.lookup "effectSpread", front.lookup "effectGrain",
    JsField.coalesce (back.lookup "hiddenMessage") (some (.str ""))]

/-- An interaction that is false, 0 or an empty text comes with motion switched off. -/
def InteractionAlike (front : JsEntries) : Prop :=
  ∀ value, front.lookup "interaction" = some value → value ∈ [.bool false, .num 0, .str ""] →
    front.lookup "effectMotion" = some (.bool false)

/-- A lenticular card names no asset or one whose name is not blank. -/
def LenticularAlike (front : JsEntries) : Prop :=
  front.lookup "interaction" = some (.str "lenticular") →
    JsField.truthy (front.lookup "lenticularAssetId") →
      ∃ s, front.lookup "lenticularAssetId" = some (.str s) ∧ jsTrim s.toList ≠ []

/-- The material is named, or the finish of an earlier version is a text that is not inherited, or a
value whose text is no other finish than silk. -/
def MaterialAlike (numbers : ℚ → String) (front : JsEntries) : Prop :=
  IsOneOf materials (front.lookup "material") ∨
    match legacyFinish front with
    | some (.str s) => s ∉ inheritedNames
    | finish => finish.text numbers ≠ .ok "glass" ∧ finish.text numbers ≠ .ok "diamond"

/-- The pattern is named, or the presets of the earlier and of the present version stand for the
same one. -/
def FoilPatternAlike (numbers : ℚ → String) (front : JsEntries) : Prop :=
  IsOneOf foilPatterns (front.lookup "foilPattern") ∨
    match front.lookup "effectPreset" with
    | some (.str s) => s ∈ legacyPattern.map Prod.fst ∨ (s ∉ inheritedNames ∧
        FanApp.configuredPreset front ∉ inheritedNames ∧
        FanApp.configuredPreset front ∉ ["foil", "hologram", "particles"])
    | preset => FanApp.configuredPreset front ∉ inheritedNames ∧
        (JsField.text numbers preset = .ok "prism" ↔
          FanApp.configuredPreset front ∈ ["prism", "foil", "hologram"]) ∧
        (JsField.text numbers preset = .ok "crystal" ↔
          FanApp.configuredPreset front = "crystal") ∧
        (JsField.text numbers preset = .ok "stardust" ↔
          FanApp.configuredPreset front ∈ ["stardust", "particles"])

/-- Both clients show a design alike. -/
structure ShownAlike (numbers : ℚ → String) (designConfig : JsJson) : Prop where
  document : designConfig ≠ .null
  texts : ∀ value ∈ convertedFields (frontOf designConfig) (backOf designConfig), value.hasText
  interaction : InteractionAlike (frontOf designConfig)
  lenticular : LenticularAlike (frontOf designConfig)
  material : MaterialAlike numbers (frontOf designConfig)
  foilPattern : FoilPatternAlike numbers (frontOf designConfig)

section

variable {numbers : ℚ → String} {value : JsField} {front back : JsEntries}

theorem numeric_ok_iff (numbers : ℚ → String) (fallback : ℚ) :
    (∃ q, numeric numbers value fallback = .ok q) ↔ value.hasText := by
  rw [← JsField.number_ok_iff numbers]
  simp [numeric]

theorem normalizedIntensity_ok_iff (numbers : ℚ → String) (fallback : ℚ) :
    (∃ q, normalizedIntensity numbers value fallback = .ok q) ↔ value.hasText := by
  rw [← numeric_ok_iff numbers fallback]
  simp [normalizedIntensity]

theorem normalizedAngle_ok_iff (numbers : ℚ → String) (fallback : ℚ) :
    (∃ q, normalizedAngle numbers value fallback = .ok q) ↔ value.hasText := by
  rw [← numeric_ok_iff numbers fallback]
  simp [normalizedAngle]

theorem normalizeBack_ok_iff (numbers : ℚ → String) :
    (∃ effects, normalizeBack numbers back = .ok effects) ↔
      JsField.hasText (JsField.coalesce (back.lookup "hiddenMessage") (some (.str ""))) := by
  rw [← JsField.text_ok_iff numbers]
  simp [normalizeBack]

theorem Studio.tableText_ok_iff (numbers : ℚ → String) (table : List (String × String)) :
    (∃ found, Studio.tableText numbers table value = .ok found) ↔ value.hasText := by
  rw [← JsField.text_ok_iff numbers]
  simp [Studio.tableText]

theorem oneOf_mem {allowed : List String} {fallback : String} (h : fallback ∈ allowed)
    (found : Option String) : oneOf found allowed fallback ∈ allowed := by
  unfold oneOf
  split
  · split
    · assumption
    · exact h
  · exact h

theorem oneOf_of_mem {allowed : List String} {s : String} (h : s ∈ allowed) (fallback : String) :
    oneOf (some s) allowed fallback = s := if_pos h

theorem normalizedIntensity_bounds {fallback q : ℚ}
    (h : normalizedIntensity numbers value fallback = .ok q) : 0 ≤ q ∧ q ≤ 1 := by
  simp only [normalizedIntensity, bind_ok, pure_ok] at h
  obtain ⟨parsed, -, rfl⟩ := h
  exact ⟨le_max_left _ _, max_le zero_le_one (min_le_left _ _)⟩

theorem normalizedIntensity_of_bounds {q : ℚ} (h : 0 ≤ q ∧ q ≤ 1) (fallback : ℚ) :
    normalizedIntensity numbers (some (.num q)) fallback = .ok q := by
  have hparsed : numeric numbers (some (.num q)) fallback = .ok q := rfl
  rw [normalizedIntensity, hparsed]
  simp only [bind_ok, Except.ok.injEq, pure_ok, exists_eq_left', if_neg (not_lt.mpr h.2)]
  rw [min_eq_right h.2, max_eq_right h.1]

theorem normalizedAngle_bounds {fallback q : ℚ}
    (h : normalizedAngle numbers value fallback = .ok q) : 0 ≤ q ∧ q < 360 := by
  simp only [normalizedAngle, bind_ok, pure_ok] at h
  obtain ⟨parsed, -, rfl⟩ := h
  obtain ⟨hlow, hhigh⟩ := jsRemainder_bounds (by norm_num : (0 : ℚ) < 360) parsed
  split
  · constructor <;> linarith
  · constructor <;> linarith

theorem normalizedAngle_of_bounds {q : ℚ} (h : 0 ≤ q ∧ q < 360) (fallback : ℚ) :
    normalizedAngle numbers (some (.num q)) fallback = .ok q := by
  have hparsed : numeric numbers (some (.num q)) fallback = .ok q := rfl
  rw [normalizedAngle, hparsed]
  simp only [bind_ok, Except.ok.injEq, pure_ok, exists_eq_left', jsRemainder_of_lt h.1 h.2,
    if_neg (not_lt.mpr h.1)]

theorem motionInteraction_cases (front : JsEntries) : motionInteraction front = "tilt" ∨
    motionInteraction front = "static" := by
  unfold motionInteraction
  split
  · exact .inr rfl
  · exact .inl rfl

theorem motionInteraction_eq_static_iff : motionInteraction front = "static" ↔
    front.lookup "effectMotion" = some (.bool false) := by
  unfold motionInteraction
  split <;> simp_all

theorem oneOf_motionInteraction (front : JsEntries) (fallback : String) :
    oneOf (some (motionInteraction front)) interactions fallback = motionInteraction front := by
  rcases motionInteraction_cases front with h | h <;> rw [h] <;> rfl

/-- The studio takes an interaction that does not count as true for a missing one. -/
theorem interactionOf_eq_iff :
    FanApp.interactionOf front = Studio.interactionOf front ↔ InteractionAlike front := by
  by_cases hfalse : ∃ value, front.lookup "interaction" = some value ∧
      value ∈ [.bool false, .num 0, .str ""]
  · obtain ⟨value, hlookup, hvalue⟩ := hfalse
    have hfan : FanApp.interactionOf front = "static" := by
      rw [FanApp.interactionOf, hlookup]
      simp only [List.mem_cons, List.not_mem_nil, or_false] at hvalue
      rcases hvalue with rfl | rfl | rfl <;> rfl
    have hstudio : Studio.interactionOf front = motionInteraction front := by
      have htruthy : value.truthy = false := JsonValue.truthy_eq_false_iff.mpr (.inr hvalue)
      rw [Studio.interactionOf, hlookup, JsField.orElse, JsField.truthy, Option.any_some, htruthy,
        if_neg Bool.false_ne_true]
      exact oneOf_motionInteraction front "static"
    rw [hfan, hstudio, eq_comm, motionInteraction_eq_static_iff]
    constructor
    · intro hmotion _ _ _
      exact hmotion
    · intro halike
      exact halike value hlookup hvalue
  · push Not at hfalse
    refine iff_of_true ?_ ?_
    · rw [Studio.interactionOf, JsField.orElse_eq_coalesce hfalse, FanApp.interactionOf]
    · intro value hlookup hvalue
      exact absurd hvalue (hfalse value hlookup)

theorem oneOf_eq_iff {found : Option String} {allowed : List String} {fallback s : String}
    (h : fallback ≠ s) : oneOf found allowed fallback = s ↔ found = some s ∧ s ∈ allowed := by
  cases found with
  | none => simp [oneOf, h]
  | some other =>
    simp only [oneOf, Option.some.injEq]
    split
    · rename_i hallowed
      constructor
      · rintro rfl
        exact ⟨rfl, hallowed⟩
      · exact And.left
    · rename_i hallowed
      refine iff_of_false h ?_
      rintro ⟨rfl, hmem⟩
      exact hallowed hmem

theorem interactionOf_eq_lenticular_iff : FanApp.interactionOf front = "lenticular" ↔
    front.lookup "interaction" = some (.str "lenticular") := by
  have hmotion : motionInteraction front ≠ "lenticular" := by
    rcases motionInteraction_cases front with h | h <;> rw [h] <;> decide
  rw [FanApp.interactionOf, oneOf_eq_iff (by decide), JsField.asText_eq_some_iff]
  cases front.lookup "interaction" with
  | none => simp [JsField.coalesce, hmotion]
  | some value =>
    cases value with
    | null => simp [JsField.coalesce, hmotion]
    | _ => simp [JsField.coalesce, interactions]

theorem nonemptyString_of_not_truthy (h : value.truthy = false) :
    FanApp.nonemptyString value = none := by
  rcases value with _ | v
  · rfl
  · rcases JsonValue.truthy_eq_false_iff.mp h with rfl | hv
    · rfl
    · simp only [List.mem_cons, List.not_mem_nil, or_false] at hv
      rcases hv with rfl | rfl | rfl <;> rfl

/-- The studio takes any asset of a lenticular card that counts as true, the fan app a name that is
not blank. -/
theorem nonemptyString_eq_iff :
    ((FanApp.nonemptyString value).map JsonValue.str).getD .null =
      (value.orElse (some .null)).getD .null ↔
      (value.truthy → ∃ s, value = some (.str s) ∧ jsTrim s.toList ≠ []) := by
  cases htruthy : value.truthy with
  | false => simp [nonemptyString_of_not_truthy htruthy, JsField.orElse, htruthy]
  | true =>
    simp only [JsField.orElse, htruthy, if_true, true_implies]
    rcases value with _ | v
    · cases htruthy
    · cases v with
      | str s => by_cases hblank : jsTrim s.toList = [] <;>
          simp [FanApp.nonemptyString, JsField.asText, Option.filter, hblank]
      | null => cases htruthy
      | _ => simp [FanApp.nonemptyString, JsField.asText]

theorem lenticularAssetIdOf_eq_iff (h : FanApp.interactionOf front = Studio.interactionOf front) :
    ((FanApp.lenticularAssetIdOf front).map JsonValue.str).getD .null =
      Studio.lenticularAssetIdOf front ↔ LenticularAlike front := by
  unfold FanApp.lenticularAssetIdOf Studio.lenticularAssetIdOf LenticularAlike
  rw [← h, ← interactionOf_eq_lenticular_iff]
  by_cases hlenticular : FanApp.interactionOf front = "lenticular"
  · rw [if_pos hlenticular, if_pos hlenticular, nonemptyString_eq_iff]
    simp [hlenticular]
  · simp [hlenticular]

/-- A value that both clients allow, or fallbacks that are the same. -/
theorem oneOfMember_eq_iff {allowed : List String} {fallback : JsMember} {fallback' : String} :
    FanApp.oneOfMember value.asText allowed fallback = .own (oneOf value.asText allowed fallback') ↔
      IsOneOf allowed value ∨ fallback = .own fallback' := by
  simp only [IsOneOf, ← JsField.asText_eq_some_iff]
  cases value.asText with
  | none => simp [FanApp.oneOfMember, oneOf]
  | some s => by_cases h : s ∈ allowed <;> simp [FanApp.oneOfMember, oneOf, h]

theorem legacyMaterial_of_inherited {name : String} (h : name ∈ inheritedNames) :
    legacyMaterial.lookup name = none := by
  have hdisjoint : ∀ key ∈ inheritedNames, key ∉ legacyMaterial.map Prod.fst := by decide
  exact JsonEntries.lookup_eq_none_iff_keys.mpr (hdisjoint name h)

theorem legacyPattern_of_inherited {name : String} (h : name ∈ inheritedNames) :
    legacyPattern.lookup name = none := by
  have hdisjoint : ∀ key ∈ inheritedNames, key ∉ legacyPattern.map Prod.fst := by decide
  exact JsonEntries.lookup_eq_none_iff_keys.mpr (hdisjoint name h)

theorem presetPattern_of_inherited {name : String} (h : name ∈ inheritedNames) :
    FanApp.presetPattern.lookup name = none := by
  have hdisjoint : ∀ key ∈ inheritedNames, key ∉ FanApp.presetPattern.map Prod.fst := by decide
  exact JsonEntries.lookup_eq_none_iff_keys.mpr (hdisjoint name h)

theorem legacyMaterial_lookup (name : String) :
    oneOf (legacyMaterial.lookup name) materials "matte" =
      (legacyMaterial.lookup name).getD "matte" := by
  simp only [legacyMaterial, JsonEntries.lookup_cons_eq, List.lookup_nil]
  split_ifs <;> rfl

theorem legacyPattern_lookup (name : String) :
    oneOf (legacyPattern.lookup name) foilPatterns "aurora-wave" =
      (legacyPattern.lookup name).getD "aurora-wave" := by
  simp only [legacyPattern, JsonEntries.lookup_cons_eq, List.lookup_nil]
  split_ifs <;> rfl

theorem legacyMaterial_eq_matte_iff (name : String) :
    (legacyMaterial.lookup name).getD "matte" = "matte" ↔ name ≠ "glass" ∧ name ≠ "diamond" := by
  simp only [legacyMaterial, JsonEntries.lookup_cons_eq, List.lookup_nil]
  split_ifs with hglass hsilk hdiamond
  · simp [hglass]
  · simp [hsilk]
  · simp [hdiamond]
  · simp [hglass, hdiamond]

theorem material_eq_iff {finish : Option String}
    (h : Studio.tableText numbers legacyMaterial (legacyFinish front) = .ok finish) :
    FanApp.oneOfMember (JsField.asText (front.lookup "material")) materials
        (FanApp.finishMaterial front) =
      .own (oneOf (JsField.asText (front.lookup "material")) materials
        (oneOf finish materials "matte")) ↔ MaterialAlike numbers front := by
  rw [oneOfMember_eq_iff, MaterialAlike]
  apply or_congr_right
  simp only [Studio.tableText, bind_ok, pure_ok, jsMember_bind_asText] at h
  obtain ⟨name, hname, rfl⟩ := h
  rw [FanApp.finishMaterial, legacyMaterial_lookup]
  split
  · rename_i s hs
    rw [hs] at hname
    cases hname
    rw [hs, JsField.asText, Option.bind_some]
    by_cases hinherited : name ∈ inheritedNames
    · have hlookup := legacyMaterial_of_inherited hinherited
      simp [jsMember_of_mem hinherited hlookup, hinherited]
    · rw [jsMember_of_not_mem hinherited]
      cases legacyMaterial.lookup name <;> simp [hinherited]
  · rename_i hno
    have hnone : (legacyFinish front).asText = none := by
      rw [Option.eq_none_iff_forall_ne_some]
      intro s hs
      exact hno s (JsField.asText_eq_some_iff.mp hs)
    rw [hnone, hname, Option.bind_none, Option.getD_none, JsMember.own.injEq, eq_comm,
      legacyMaterial_eq_matte_iff]
    simp

theorem legacyPattern_getD (name : String) : (legacyPattern.lookup name).getD "aurora-wave" =
    if name = "prism" then "prism" else if name = "crystal" then "cracked-ice"
    else if name = "stardust" then "micro-star" else "aurora-wave" := by
  simp only [legacyPattern, JsonEntries.lookup_cons_eq, List.lookup_nil]
  split_ifs <;> simp_all

theorem presetPattern_getD (name : String) :
    ((legacyPattern.lookup name).or (FanApp.presetPattern.lookup name)).getD "aurora-wave" =
      if name ∈ ["prism", "foil", "hologram"] then "prism"
      else if name = "crystal" then "cracked-ice"
      else if name ∈ ["stardust", "particles"] then "micro-star" else "aurora-wave" := by
  have hkeys : ∀ key ∈ (legacyPattern ++ FanApp.presetPattern).map Prod.fst,
      ((legacyPattern.lookup key).or (FanApp.presetPattern.lookup key)).getD "aurora-wave" =
        if key ∈ ["prism", "foil", "hologram"] then "prism"
        else if key = "crystal" then "cracked-ice"
        else if key ∈ ["stardust", "particles"] then "micro-star" else "aurora-wave" := by decide
  by_cases hkey : name ∈ (legacyPattern ++ FanApp.presetPattern).map Prod.fst
  · exact hkeys name hkey
  · rw [← List.lookup_append, JsonEntries.lookup_eq_none_iff_keys.mpr hkey]
    simp [legacyPattern, FanApp.presetPattern] at hkey
    simp [hkey]

theorem presetPattern_eq_aurora_iff (name : String) :
    (FanApp.presetPattern.lookup name).getD "aurora-wave" = "aurora-wave" ↔
      name ∉ ["foil", "hologram", "particles"] := by
  simp only [FanApp.presetPattern, JsonEntries.lookup_cons_eq, List.lookup_nil]
  split_ifs <;> simp_all

theorem foilPattern_eq_iff {pattern : Option String}
    (h : Studio.tableText numbers legacyPattern (front.lookup "effectPreset") = .ok pattern) :
    FanApp.oneOfMember (JsField.asText (front.lookup "foilPattern")) foilPatterns
        (FanApp.presetFoilPattern front) =
      .own (oneOf (JsField.asText (front.lookup "foilPattern")) foilPatterns
        (oneOf pattern foilPatterns "aurora-wave")) ↔ FoilPatternAlike numbers front := by
  rw [oneOfMember_eq_iff, FoilPatternAlike]
  apply or_congr_right
  simp only [Studio.tableText, bind_ok, pure_ok, jsMember_bind_asText] at h
  obtain ⟨name, hname, rfl⟩ := h
  rw [FanApp.presetFoilPattern, legacyPattern_lookup]
  generalize FanApp.configuredPreset front = preset
  split
  · rename_i s hs
    rw [hs] at hname
    cases hname
    simp only [hs, JsField.asText, Option.getD_some]
    cases hlookup : legacyPattern.lookup name with
    | some pattern =>
      have hkey : name ∈ legacyPattern.map Prod.fst := by
        by_contra hno
        rw [JsonEntries.lookup_eq_none_iff_keys.mpr hno] at hlookup
        cases hlookup
      simp [jsMember, hlookup, hkey]
    | none =>
      have hkey := JsonEntries.lookup_eq_none_iff_keys.mp hlookup
      rw [or_iff_right hkey]
      by_cases hinherited : name ∈ inheritedNames
      · simp [jsMember_of_mem hinherited hlookup, hinherited]
      · rw [jsMember_of_not_mem hinherited, hlookup, Option.map_none, Option.none_or]
        by_cases hpreset : preset ∈ inheritedNames
        · simp [jsMember_of_mem hpreset (presetPattern_of_inherited hpreset), hpreset]
        · rw [jsMember_of_not_mem hpreset, Option.getD_map JsMember.own, Option.getD_none,
            JsMember.own.injEq, presetPattern_eq_aurora_iff]
          simp [hinherited, hpreset]
  · rename_i hno
    have hnone : JsField.asText (front.lookup "effectPreset") = none := by
      rw [Option.eq_none_iff_forall_ne_some]
      intro s hs
      exact hno s (JsField.asText_eq_some_iff.mp hs)
    simp only [hnone, hname, Option.getD_none, Except.ok.injEq]
    by_cases hpreset : preset ∈ inheritedNames
    · simp [jsMember_of_mem hpreset (legacyPattern_of_inherited hpreset), hpreset]
    · rw [jsMember_of_not_mem hpreset, jsMember_of_not_mem hpreset, ← Option.map_or,
        Option.getD_map JsMember.own, JsMember.own.injEq, presetPattern_getD, legacyPattern_getD]
      have hdisjoint : ∀ p ∈ ["prism", "foil", "hologram"],
          p ≠ "crystal" ∧ p ∉ ["stardust", "particles"] := by decide
      by_cases hprism : preset ∈ ["prism", "foil", "hologram"]
      · obtain ⟨hcrystal, hstardust⟩ := hdisjoint preset hprism
        simp only [hprism, hcrystal, hstardust, hpreset, if_true, not_false_eq_true, true_and,
          iff_true, iff_false]
        split_ifs <;> simp_all
      · simp only [hprism, hpreset, if_false, not_false_eq_true, true_and, iff_false]
        split_ifs <;> simp_all

theorem Studio.normalizeCardEffects_of_ne_null {designConfig : JsJson} (h : designConfig ≠ .null) :
    Studio.normalizeCardEffects numbers designConfig = do
      let front ← Studio.normalizeFront numbers (frontOf designConfig)
      let back ← normalizeBack numbers (backOf designConfig)
      return { version := 3, front := front, back := back } := by
  cases designConfig with
  | null => exact absurd rfl h
  | _ => rfl

/-- Both clients answer with the same effects. -/
def AnswerAlike (numbers : ℚ → String) (designConfig : JsJson) : Prop :=
  ∃ studio fan, Studio.normalizeCardEffects numbers designConfig = .ok studio ∧
    FanApp.normalizeCardEffects numbers designConfig = .ok fan ∧ SameEffects studio fan

theorem AnswerAlike.shownAlike {designConfig : JsJson} (h : AnswerAlike numbers designConfig) :
    ShownAlike numbers designConfig := by
  obtain ⟨studio, fan, hstudio, hfan, hsame⟩ := h
  have hdocument : designConfig ≠ .null := by
    rintro rfl
    cases hstudio
  rw [Studio.normalizeCardEffects_of_ne_null hdocument] at hstudio
  rw [FanApp.normalizeCardEffects] at hfan
  simp only [Studio.normalizeFront, FanApp.normalizeFront, bind_ok, pure_ok] at hstudio hfan
  obtain ⟨_, ⟨finish, hfinish, pattern, hpattern, intensity, hintensity, angle, hangle, rfl⟩, back,
    hback, rfl⟩ := hstudio
  obtain ⟨_, ⟨intensity', -, angle', -, spread, hspread, grain, hgrain, rfl⟩, back', -, rfl⟩ := hfan
  have hinteraction : FanApp.interactionOf (frontOf designConfig) =
      Studio.interactionOf (frontOf designConfig) := hsame.interaction
  refine ⟨hdocument, ?_, interactionOf_eq_iff.mp hinteraction,
    (lenticularAssetIdOf_eq_iff hinteraction).mp hsame.lenticularAssetId,
    (material_eq_iff hfinish).mp hsame.material, (foilPattern_eq_iff hpattern).mp hsame.foilPattern⟩
  simp only [convertedFields, List.forall_mem_cons, List.not_mem_nil, false_implies, implies_true,
    and_true]
  exact ⟨(Studio.tableText_ok_iff numbers _).mp ⟨_, hfinish⟩,
    (Studio.tableText_ok_iff numbers _).mp ⟨_, hpattern⟩,
    (normalizedIntensity_ok_iff numbers _).mp ⟨_, hintensity⟩,
    (normalizedAngle_ok_iff numbers _).mp ⟨_, hangle⟩,
    (normalizedIntensity_ok_iff numbers _).mp ⟨_, hspread⟩,
    (normalizedIntensity_ok_iff numbers _).mp ⟨_, hgrain⟩,
    (normalizeBack_ok_iff numbers).mp ⟨_, hback⟩⟩

theorem ShownAlike.answerAlike {designConfig : JsJson} (h : ShownAlike numbers designConfig) :
    AnswerAlike numbers designConfig := by
  have htexts := h.texts
  simp only [convertedFields, List.forall_mem_cons, List.not_mem_nil, false_implies, implies_true,
    and_true] at htexts
  obtain ⟨hfinish, hpattern, hintensity, hangle, hspread, hgrain, hmessage⟩ := htexts
  obtain ⟨finish, hfinish⟩ := (Studio.tableText_ok_iff numbers legacyMaterial).mpr hfinish
  obtain ⟨pattern, hpattern⟩ := (Studio.tableText_ok_iff numbers legacyPattern).mpr hpattern
  obtain ⟨intensity, hintensity⟩ := (normalizedIntensity_ok_iff numbers 0.58).mpr hintensity
  obtain ⟨angle, hangle⟩ := (normalizedAngle_ok_iff numbers 135).mpr hangle
  obtain ⟨spread, hspread⟩ := (normalizedIntensity_ok_iff numbers 0.64).mpr hspread
  obtain ⟨grain, hgrain⟩ := (normalizedIntensity_ok_iff numbers 0.38).mpr hgrain
  obtain ⟨back, hback⟩ := (normalizeBack_ok_iff numbers).mpr hmessage
  have hinteraction := interactionOf_eq_iff.mpr h.interaction
  rw [AnswerAlike, Studio.normalizeCardEffects_of_ne_null h.document, FanApp.normalizeCardEffects]
  simp only [Studio.normalizeFront, FanApp.normalizeFront, bind_ok, pure_ok]
  refine ⟨_, _, ⟨_, ⟨finish, hfinish, pattern, hpattern, intensity, hintensity, angle, hangle, rfl⟩,
    back, hback, rfl⟩, ⟨_, ⟨intensity, hintensity, angle, hangle, spread, hspread, grain, hgrain,
    rfl⟩, back, hback, rfl⟩, ?_⟩
  exact {
    material := (material_eq_iff hfinish).mpr h.material
    foilPattern := (foilPattern_eq_iff hpattern).mpr h.foilPattern
    foilCoverage := rfl
    interaction := hinteraction
    intensity := rfl
    angle := rfl
    lenticularAssetId := (lenticularAssetIdOf_eq_iff hinteraction).mpr h.lenticular
    back := rfl }

end

/-- Both clients answer with the same effects exactly for the designs that they show alike. -/
theorem normalizeCardEffects_same_iff (numbers : ℚ → String) (designConfig : JsJson) :
    AnswerAlike numbers designConfig ↔ ShownAlike numbers designConfig :=
  ⟨AnswerAlike.shownAlike, ShownAlike.answerAlike⟩

/-- The fan app alone knows the pattern of a preset. -/
theorem normalizeCardEffects_foil :
    (∃ studio fan, Studio.normalizeCardEffects integerText
        (.obj [("front", .obj [("preset", .str "foil")])]) = .ok studio ∧
      FanApp.normalizeCardEffects integerText
        (.obj [("front", .obj [("preset", .str "foil")])]) = .ok fan ∧
      studio.front.foilPattern = "aurora-wave" ∧ fan.front.foilPattern = .own "prism") ∧
    ¬AnswerAlike integerText (.obj [("front", .obj [("preset", .str "foil")])]) := by
  constructor
  · exact ⟨_, _, rfl, rfl, rfl, rfl⟩
  · rintro ⟨studio, fan, hstudio, hfan, hsame⟩
    cases hstudio
    cases hfan
    have hpattern := hsame.foilPattern
    revert hpattern
    decide

end Fanfolio
