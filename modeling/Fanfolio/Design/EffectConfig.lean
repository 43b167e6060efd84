import Fanfolio.Framework.Checked
import Fanfolio.Framework.JsonValue
import Fanfolio.Framework.PyNumber
import Fanfolio.Schema

/-!
# Configurations of card effects

The server checks the two sides of a configuration that an artist sends, and writes the preset and
the interaction of a side that come from a default or from a field of an earlier version.
-/

namespace Fanfolio

open Framework

/-- A document as Python reads it. -/
abbrev PyJson := JsonValue PyNumber

abbrev PyEntries := JsonEntries PyNumber

def allowedPresets : List String :=
  ["none", "light", "glow", "foil", "hologram", "particles", "motion"]

def legacyPresets : List (String × String) :=
  [("aurora", "hologram"), ("moonlight", "hologram"), ("stardust", "hologram")]

def allowedInteractions : List String := ["static", "tilt", "lenticular"]

def invalidEffectConfig (message : String) : Failure :=
  .app ⟨422, "INVALID_EFFECT_CONFIG", message⟩

inductive CardSide where
  | front
  | back
deriving DecidableEq, Repr

def CardSide.key : CardSide → String
  | .front => "front"
  | .back => "back"

/-- `int`. -/
def toInt (digits : DecimalDigits) : PyJson → Except Failure Int
  | .num (.int n) => .ok n
  | .num (.float (.finite q)) => .ok (truncate q)
  | .num (.float (.infinite _)) => .error (.unhandled "OverflowError")
  | .num (.float .nan) => .error (.unhandled "ValueError")
  | .bool b => .ok (if b then 1 else 0)
  | .str s => orFail (digits.integer s) (.unhandled "ValueError")
  | .null | .arr _ | .obj _ => .error (.unhandled "TypeError")

/-- A value that is looked up in a set or as a key; a list or a dict has no hash. -/
def hashed : PyJson → Except Failure PyJson
  | .arr _ | .obj _ => .error (.unhandled "TypeError")
  | value => .ok value

/-- `LEGACY_PRESETS.get(preset, preset)`. -/
def legacyPreset : PyJson → PyJson
  | .str s => .str ((legacyPresets.lookup s).getD s)
  | preset => preset

/-- The value is one of the texts. -/
def isOneOf (allowed : List String) : PyJson → Bool
  | .str s => allowed.contains s
  | _ => false

/-- `HEX_COLOR.fullmatch`. -/
def isHexColor (s : String) : Bool :=
  match s.toList with
  | '#' :: digits => digits.length == 6 && digits.all fun c =>
      c.isDigit || ('a' ≤ c && c ≤ 'f') || ('A' ≤ c && c ≤ 'F')
  | _ => false

/-- An intensity or a speed: a number from 0 to 1, and no bool. -/
def isUnitNumber : PyJson → Bool
  | .num n => n.between 0 1
  | _ => false

def isParticleCount : PyJson → Bool
  | .num (.int n) => 0 ≤ n ∧ n ≤ 40
  | _ => false

def isColor : PyJson → Bool
  | .str s => isHexColor s
  | _ => false

/-- A text of at most 200 characters that carries neither data nor a script. -/
def isAssetReference : PyJson → Bool
  | .str s => s.length ≤ 200 && !("data:".toList.isPrefixOf s.toList) &&
      !("javascript:".toList.isPrefixOf s.toList)
  | _ => false

/-- The entry is missing, is null, or passes the check. -/
def entryOk (side : PyEntries) (check : PyJson → Bool) (key : String) : Bool :=
  match side.lookup key with
  | none | some .null => true
  | some value => check value

/-- The preset of a side, which may be in the field of an earlier version. -/
def presetOf (side : PyEntries) : PyJson :=
  (side.lookup "preset").getD ((side.lookup "effectPreset").getD (.str "none"))

def interactionOf (name : CardSide) (side : PyEntries) : PyJson :=
  (side.lookup "interaction").getD (.str (if name = .back then "static" else "tilt"))

/-- The checks of one side; they answer with its preset and its interaction. -/
def checkSide (name : CardSide) (side : PyEntries) : Except Failure (PyJson × PyJson) := do
  let preset ← legacyPreset <$> hashed (presetOf side)
  ensure (isOneOf allowedPresets preset)
    (invalidEffectConfig "지원하지 않는 효과 프리셋입니다.")
  let interaction ← hashed (interactionOf name side)
  ensure (isOneOf allowedInteractions interaction)
    (invalidEffectConfig "지원하지 않는 카드 상호작용입니다.")
  ensure (¬(name = .back ∧ isOneOf ["lenticular"] interaction))
    (invalidEffectConfig "카드 뒷면은 틸트만 지원합니다.")
  ensure (["intensity", "speed"].all (entryOk side isUnitNumber))
    (invalidEffectConfig "효과 강도는 0과 1 사이여야 합니다.")
  ensure (entryOk side isParticleCount "particleCount")
    (invalidEffectConfig "파티클 수는 0에서 40 사이여야 합니다.")
  ensure (entryOk side isColor "color") (invalidEffectConfig "색상 형식을 확인해 주세요.")
  ensure (["lenticularAssetId", "backImageAssetId", "imageAssetId"].all
      (entryOk side isAssetReference))
    (invalidEffectConfig "효과 자산 참조를 확인해 주세요.")
  return (preset, interaction)

/-- The entries of a side, none if it is missing. -/
def sideOf (config : PyEntries) (name : CardSide) : Except Failure PyEntries :=
  match config.lookup name.key with
  | none => .ok []
  | some (.obj side) => .ok side
  | some _ => .error (invalidEffectConfig "효과 설정 형식을 확인해 주세요.")

/-- A side with its preset and its interaction, where it did not name them. -/
def filledSide (side : PyEntries) (preset interaction : PyJson) : PyEntries :=
  (JsonEntries.setDefault side "preset" preset).setDefault "interaction" interaction

/-- The loop body of `validate_effect_config`; `normalized` is a copy of the configuration, so its
side has the same entries. -/
def normalizeSide (config normalized : PyEntries) (name : CardSide) : Except Failure PyEntries := do
  let side ← sideOf config name
  let (preset, interaction) ← checkSide name side
  return normalized.set name.key (.obj (filledSide side preset interaction))

/-- `validate_effect_config`. -/
def validateEffectConfig (digits : DecimalDigits) : PyJson → Except Failure PyJson
  | .obj config => do
    let version ← toInt digits ((config.lookup "version").getD (.num (.int 3)))
    let normalized ← [CardSide.front, CardSide.back].foldlM (normalizeSide config)
      (JsonEntries.set config "version" (.num (.int version)))
    return .obj normalized
  | _ => .error (invalidEffectConfig "효과 설정 형식을 확인해 주세요.")

/-- A side as it is written: an interaction that is allowed, and, unless it came with a name of an
earlier version under `preset` itself, a preset that is allowed; nothing else. -/
structure SideNormalized (name : CardSide) (side side' : PyEntries) : Prop where
  interaction : side'.lookup "interaction" = some (interactionOf name side) ∧
    isOneOf allowedInteractions (interactionOf name side)
  preset : (∀ s, side.lookup "preset" = some (.str s) → legacyPresets.lookup s = none) →
    side'.lookup "preset" = some (legacyPreset (presetOf side)) ∧
      isOneOf allowedPresets (legacyPreset (presetOf side))
  others : ∀ key, key ≠ "preset" → key ≠ "interaction" → side'.lookup key = side.lookup key

/-- A configuration as it is written: an integer version, two sides, and nothing else. -/
def ConfigNormalized (digits : DecimalDigits) (config config' : PyEntries) : Prop :=
  (∃ version, toInt digits ((config.lookup "version").getD (.num (.int 3))) = .ok version ∧
      config'.lookup "version" = some (.num (.int version))) ∧
    (∀ name : CardSide, ∃ side side', sideOf config name = .ok side ∧
      config'.lookup name.key = some (.obj side') ∧ SideNormalized name side side') ∧
    ∀ key, key ≠ "version" → (∀ name : CardSide, key ≠ name.key) →
      config'.lookup key = config.lookup key

/-- The version can be read as an integer, and presets and interactions can be looked up. -/
def Readable (digits : DecimalDigits) (config : PyEntries) : Prop :=
  (∃ version, toInt digits ((config.lookup "version").getD (.num (.int 3))) = .ok version) ∧
    ∀ (name : CardSide) side, sideOf config name = .ok side →
      hashed (presetOf side) = .ok (presetOf side) ∧
        hashed (interactionOf name side) = .ok (interactionOf name side)

section

variable {digits : DecimalDigits} {config normalized normalized' : PyEntries} {name : CardSide}
  {side side' : PyEntries} {preset interaction : PyJson}

theorem hashed_ok {value value' : PyJson} (h : hashed value = .ok value') : value' = value := by
  cases value <;> simp [hashed] at h <;> exact h.symm

theorem hashed_of_isOneOf {allowed : List String} {value : PyJson} (h : isOneOf allowed value) :
    hashed value = .ok value := by
  cases value with
  | arr | obj => cases h
  | _ => rfl

/-- A preset that is allowed is no name of an earlier version. -/
theorem legacyPreset_of_allowed {value : PyJson} (h : isOneOf allowedPresets value) :
    legacyPreset value = value := by
  cases value with
  | str s =>
    have hs : s ∈ allowedPresets := by simpa [isOneOf] using h
    simp only [allowedPresets, List.mem_cons, List.not_mem_nil, or_false] at hs
    rcases hs with rfl | rfl | rfl | rfl | rfl | rfl | rfl <;> rfl
  | _ => rfl

theorem checkSide_ok_iff : checkSide name side = .ok (preset, interaction) ↔
    hashed (presetOf side) = .ok (presetOf side) ∧ preset = legacyPreset (presetOf side) ∧
    isOneOf allowedPresets preset ∧
    hashed (interactionOf name side) = .ok (interactionOf name side) ∧
    interaction = interactionOf name side ∧ isOneOf allowedInteractions interaction ∧
    ¬(name = .back ∧ isOneOf ["lenticular"] interaction) ∧
    ["intensity", "speed"].all (entryOk side isUnitNumber) ∧
    entryOk side isParticleCount "particleCount" ∧ entryOk side isColor "color" ∧
    ["lenticularAssetId", "backImageAssetId", "imageAssetId"].all
      (entryOk side isAssetReference) := by
  simp only [checkSide, bind_ok, map_ok, ensure_ok, exists_const, pure_ok, Prod.mk.injEq]
  constructor
  · rintro ⟨_, ⟨value, hvalue, rfl⟩, hpreset, other, hother, hinteraction, hback, hunit, hparticles,
      hcolor, hassets, rfl, rfl⟩
    obtain rfl := hashed_ok hvalue
    obtain rfl := hashed_ok hother
    exact ⟨hvalue, rfl, hpreset, hother, rfl, hinteraction, hback, hunit, hparticles, hcolor,
      hassets⟩
  · rintro ⟨hvalue, rfl, hpreset, hother, rfl, hinteraction, hback, hunit, hparticles, hcolor,
      hassets⟩
    exact ⟨_, ⟨_, hvalue, rfl⟩, hpreset, _, hother, hinteraction, hback, hunit, hparticles, hcolor,
      hassets, rfl, rfl⟩

theorem hashed_of_legacyPreset {allowed : List String} {value : PyJson}
    (h : isOneOf allowed (legacyPreset value)) : hashed value = .ok value := by
  cases value with
  | arr | obj => cases h
  | _ => rfl

/-- A side passes if its preset, interaction, intensity and asset do, and the rest is that of a side
that passes. -/
theorem checkSide_of_passed (h : checkSide name side = .ok (preset, interaction))
    (hpreset : isOneOf allowedPresets (legacyPreset (presetOf side')))
    (hinteraction : isOneOf allowedInteractions (interactionOf name side'))
    (hback : ¬(name = .back ∧ isOneOf ["lenticular"] (interactionOf name side')))
    (hintensity : entryOk side' isUnitNumber "intensity")
    (hasset : entryOk side' isAssetReference "lenticularAssetId")
    (hsame : ∀ key ∈ ["speed", "particleCount", "color", "backImageAssetId", "imageAssetId"],
      side'.lookup key = side.lookup key) :
    ∃ preset' interaction', checkSide name side' = .ok (preset', interaction') := by
  have hentry : ∀ check, ∀ key ∈ ["speed", "particleCount", "color", "backImageAssetId",
      "imageAssetId"], entryOk side' check key = entryOk side check key := by
    intro check key hkey
    rw [entryOk, hsame key hkey, entryOk]
  obtain ⟨-, -, -, -, -, -, -, hunit, hparticles, hcolor, hassets⟩ := checkSide_ok_iff.mp h
  refine ⟨_, _, checkSide_ok_iff.mpr ⟨hashed_of_legacyPreset hpreset, rfl, hpreset,
    hashed_of_isOneOf hinteraction, rfl, hinteraction, hback, ?_, ?_, ?_, ?_⟩⟩
  · simp only [List.all_cons, List.all_nil, Bool.and_true, Bool.and_eq_true] at hunit ⊢
    rw [hentry _ "speed" (by simp)]
    exact ⟨hintensity, hunit.2⟩
  · rw [hentry _ "particleCount" (by simp)]
    exact hparticles
  · rw [hentry _ "color" (by simp)]
    exact hcolor
  · simp only [List.all_cons, List.all_nil, Bool.and_true, Bool.and_eq_true] at hassets ⊢
    rw [hentry _ "backImageAssetId" (by simp), hentry _ "imageAssetId" (by simp)]
    exact ⟨hasset, hassets.2⟩

theorem lookup_filledSide (key : String) : (filledSide side preset interaction).lookup key =
    if key = "interaction" then some ((side.lookup "interaction").getD interaction)
    else if key = "preset" then some ((side.lookup "preset").getD preset)
    else side.lookup key := by
  simp [filledSide]

theorem presetOf_filledSide : presetOf (filledSide side preset interaction) =
    (side.lookup "preset").getD preset := by
  simp [presetOf, lookup_filledSide]

theorem interactionOf_filledSide (h : interaction = interactionOf name side) :
    interactionOf name (filledSide side preset interaction) = interaction := by
  subst h
  simp only [interactionOf, lookup_filledSide, if_true, Option.getD_some]
  cases side.lookup "interaction" <;> rfl

/-- A side that is filled in passes its checks as before. -/
theorem checkSide_filledSide (h : checkSide name side = .ok (preset, interaction)) :
    checkSide name (filledSide side preset interaction) = .ok (preset, interaction) := by
  rw [checkSide_ok_iff] at h ⊢
  obtain ⟨hvalue, hlegacy, hpreset, hother, hsame, hinteraction, hback, hchecks⟩ := h
  have hentry : ∀ (check : PyJson → Bool) key, key ≠ "preset" → key ≠ "interaction" →
      entryOk (filledSide side preset interaction) check key = entryOk side check key := by
    intro check key hkey hkey'
    rw [entryOk, lookup_filledSide, if_neg hkey', if_neg hkey, entryOk]
  rw [presetOf_filledSide, interactionOf_filledSide hsame]
  refine ⟨?_, ?_, hpreset, hsame ▸ hother, rfl, hinteraction, hback, ?_⟩
  · cases hown : side.lookup "preset" with
    | some own =>
      rw [presetOf, hown] at hvalue
      exact hvalue
    | none => exact hashed_of_isOneOf hpreset
  · cases hown : side.lookup "preset" with
    | some own =>
      rw [presetOf, hown] at hlegacy
      exact hlegacy
    | none => exact (legacyPreset_of_allowed hpreset).symm
  · simpa [hentry] using hchecks

/-- A side that is filled in stays as it is. -/
theorem filledSide_filledSide (preset' interaction' : PyJson) :
    filledSide (filledSide side preset interaction) preset' interaction' =
      filledSide side preset interaction := by
  have hpreset : (JsonEntries.setDefault (filledSide side preset interaction) "preset" preset') =
      filledSide side preset interaction :=
    JsonEntries.setDefault_of_isSome (by simp [lookup_filledSide])
  rw [filledSide, hpreset]
  exact JsonEntries.setDefault_of_isSome (by simp [lookup_filledSide])

/-- A configuration whose side is filled in passes the loop body as it is. -/
theorem normalizeSide_filled (hside : config.lookup name.key =
      some (.obj (filledSide side preset interaction)))
    (hcheck : checkSide name side = .ok (preset, interaction)) :
    normalizeSide config config name = .ok config := by
  have hfound : sideOf config name = .ok (filledSide side preset interaction) := by
    rw [sideOf, hside]
  simp only [normalizeSide, hfound, bind_ok, pure_ok]
  refine ⟨_, rfl, _, checkSide_filledSide hcheck, ?_⟩
  rw [filledSide_filledSide]
  exact JsonEntries.set_of_lookup hside

theorem normalizeSide_ok (h : normalizeSide config normalized name = .ok normalized') :
    ∃ side preset interaction, sideOf config name = .ok side ∧
      checkSide name side = .ok (preset, interaction) ∧
      normalized' = normalized.set name.key (.obj (filledSide side preset interaction)) := by
  simp only [normalizeSide, bind_ok, Prod.exists, pure_ok] at h
  obtain ⟨side, hside, preset, interaction, hcheck, rfl⟩ := h
  exact ⟨side, preset, interaction, hside, hcheck, rfl⟩

/-- What an accepted configuration is answered with. -/
theorem validateEffectConfig_ok {result : PyJson}
    (h : validateEffectConfig digits (.obj config) = .ok result) :
    ∃ version, toInt digits ((config.lookup "version").getD (.num (.int 3))) = .ok version ∧
      ∃ front frontPreset frontInteraction, sideOf config .front = .ok front ∧
        checkSide .front front = .ok (frontPreset, frontInteraction) ∧
      ∃ back backPreset backInteraction, sideOf config .back = .ok back ∧
        checkSide .back back = .ok (backPreset, backInteraction) ∧
      result = .obj (((JsonEntries.set config "version" (.num (.int version))).set "front"
        (.obj (filledSide front frontPreset frontInteraction))).set "back"
        (.obj (filledSide back backPreset backInteraction))) := by
  simp only [validateEffectConfig, List.foldlM_cons, List.foldlM_nil, bind_ok, pure_ok] at h
  obtain ⟨version, hversion, _, ⟨_, hfront, _, hback, rfl⟩, rfl⟩ := h
  obtain ⟨front, frontPreset, frontInteraction, hside, hcheck, rfl⟩ := normalizeSide_ok hfront
  obtain ⟨back, backPreset, backInteraction, hside', hcheck', rfl⟩ := normalizeSide_ok hback
  exact ⟨version, hversion, front, frontPreset, frontInteraction, hside, hcheck, back, backPreset,
    backInteraction, hside', hcheck', rfl⟩

theorem validateEffectConfig_accepts {version : Int} {front back : PyEntries}
    {frontPreset frontInteraction backPreset backInteraction : PyJson}
    (hversion : toInt digits ((config.lookup "version").getD (.num (.int 3))) = .ok version)
    (hfront : sideOf config .front = .ok front)
    (hcheck : checkSide .front front = .ok (frontPreset, frontInteraction))
    (hback : sideOf config .back = .ok back)
    (hcheck' : checkSide .back back = .ok (backPreset, backInteraction)) :
    ∃ result, validateEffectConfig digits (.obj config) = .ok result := by
  simp only [validateEffectConfig, normalizeSide, List.foldlM_cons, List.foldlM_nil, bind_ok,
    pure_ok]
  exact ⟨_, version, hversion, _, ⟨_, ⟨front, hfront, _, hcheck, rfl⟩, _, ⟨back, hback, _, hcheck',
    rfl⟩, rfl⟩, rfl⟩

theorem filledSide_normalized (h : checkSide name side = .ok (preset, interaction)) :
    SideNormalized name side (filledSide side preset interaction) := by
  obtain ⟨-, rfl, hpreset, -, rfl, hinteraction, -⟩ := checkSide_ok_iff.mp h
  refine ⟨⟨?_, hinteraction⟩, ?_, ?_⟩
  · rw [lookup_filledSide, if_pos rfl, interactionOf]
    cases side.lookup "interaction" <;> rfl
  · intro hown
    refine ⟨?_, hpreset⟩
    rw [lookup_filledSide, if_neg (by decide), if_pos rfl]
    cases hlookup : side.lookup "preset" with
    | none => rfl
    | some own =>
      rw [presetOf, hlookup, Option.getD_some] at hpreset ⊢
      cases own with
      | str s => simp [legacyPreset, hown s hlookup]
      | _ => rfl
  · intro key hpresetKey hinteractionKey
    rw [lookup_filledSide, if_neg hinteractionKey, if_neg hpresetKey]

/-- The checks of a side whose preset and interaction can be looked up fail with refusals. -/
theorem checkSide_failsIn (hpreset : hashed (presetOf side) = .ok (presetOf side))
    (hinteraction : hashed (interactionOf name side) = .ok (interactionOf name side)) :
    FailsIn (fun e => ∃ message, e = invalidEffectConfig message) (checkSide name side) := by
  have hlegacy : legacyPreset <$> hashed (presetOf side) = .ok (legacyPreset (presetOf side)) :=
    map_ok.mpr ⟨_, hpreset, rfl⟩
  unfold checkSide
  refine FailsIn.bind (.of_ok hlegacy) fun preset => ?_
  refine FailsIn.bind (.ensure ⟨_, rfl⟩) fun _ => ?_
  refine FailsIn.bind (.of_ok hinteraction) fun interaction => ?_
  iterate 6 refine FailsIn.bind (.ensure ⟨_, rfl⟩) fun _ => ?_
  exact FailsIn.pure _

theorem sideOf_failsIn :
    FailsIn (fun e => ∃ message, e = invalidEffectConfig message) (sideOf config name) := by
  unfold sideOf
  split
  · exact FailsIn.ok _
  · exact FailsIn.ok _
  · exact FailsIn.error ⟨_, rfl⟩

theorem normalizeSide_failsIn (h : Readable digits config) :
    FailsIn (fun e => ∃ message, e = invalidEffectConfig message)
      (normalizeSide config normalized name) := by
  unfold normalizeSide
  refine FailsIn.bind_of sideOf_failsIn fun side hside => ?_
  obtain ⟨hpreset, hinteraction⟩ := h.2 name side hside
  refine FailsIn.bind (checkSide_failsIn hpreset hinteraction) fun checked => ?_
  exact FailsIn.pure _

/-- A configuration that can be read is accepted or refused. -/
theorem validateEffectConfig_failsIn (h : Readable digits config) :
    FailsIn (fun e => ∃ message, e = invalidEffectConfig message)
      (validateEffectConfig digits (.obj config)) := by
  obtain ⟨version, hversion⟩ := h.1
  simp only [validateEffectConfig, List.foldlM_cons, List.foldlM_nil]
  refine FailsIn.bind (.of_ok hversion) fun read => ?_
  refine FailsIn.bind ?_ fun _ => FailsIn.pure _
  refine FailsIn.bind (normalizeSide_failsIn h) fun _ => ?_
  refine FailsIn.bind (normalizeSide_failsIn h) fun _ => ?_
  exact FailsIn.pure _

theorem validateEffectConfig_normalized {result : PyJson}
    (h : validateEffectConfig digits (.obj config) = .ok result) :
    ∃ config', result = .obj config' ∧ ConfigNormalized digits config config' := by
  obtain ⟨version, hversion, front, frontPreset, frontInteraction, hfront, hcheck, back,
    backPreset, backInteraction, hback, hcheck', rfl⟩ := validateEffectConfig_ok h
  refine ⟨_, rfl, ⟨version, hversion, by simp⟩, ?_, ?_⟩
  · intro name
    cases name with
    | front =>
      refine ⟨front, _, hfront, ?_, filledSide_normalized hcheck⟩
      simp [CardSide.key]
    | back =>
      refine ⟨back, _, hback, ?_, filledSide_normalized hcheck'⟩
      simp [CardSide.key]
  · intro key hkey hsides
    have hfrontKey : key ≠ "front" := hsides .front
    have hbackKey : key ≠ "back" := hsides .back
    simp [hkey, hfrontKey, hbackKey]

/-- A configuration that is written passes as it is. -/
theorem validateEffectConfig_idem {result : PyJson}
    (h : validateEffectConfig digits (.obj config) = .ok result) :
    validateEffectConfig digits result = .ok result := by
  obtain ⟨version, hversion, front, frontPreset, frontInteraction, hfront, hcheck, back,
    backPreset, backInteraction, hback, hcheck', rfl⟩ := validateEffectConfig_ok h
  generalize hwritten : ((JsonEntries.set config "version" (.num (.int version))).set "front"
    (.obj (filledSide front frontPreset frontInteraction))).set "back"
    (.obj (filledSide back backPreset backInteraction)) = written
  have hversion' : written.lookup "version" = some (.num (.int version)) := by simp [← hwritten]
  have hfront' : written.lookup CardSide.front.key =
      some (.obj (filledSide front frontPreset frontInteraction)) := by
    simp [← hwritten, CardSide.key]
  have hback' : written.lookup CardSide.back.key =
      some (.obj (filledSide back backPreset backInteraction)) := by
    simp [← hwritten, CardSide.key]
  have hsame : JsonEntries.set written "version" (.num (.int version)) = written :=
    JsonEntries.set_of_lookup hversion'
  simp only [validateEffectConfig, hversion', Option.getD_some, toInt, bind_ok, List.foldlM_cons,
    List.foldlM_nil, pure_ok]
  refine ⟨version, rfl, written, ⟨written, ?_, written, normalizeSide_filled hback' hcheck', rfl⟩,
    rfl⟩
  rw [hsame]
  exact normalizeSide_filled hfront' hcheck

end

end Fanfolio
