import Fanfolio.Release.Cards

/-!
# Effect versions

An artist proposes the effects of a card in versions of their own. An approved version becomes the
design of the card.
-/

namespace Fanfolio

open Framework

section

variable {Config : Type}

def effectNotFound : Failure :=
  .app ⟨404, "EFFECT_VERSION_NOT_FOUND", "효과 버전을 찾을 수 없습니다."⟩

def ReleaseDb.modifyEffect (db : ReleaseDb Config) (versionId : EffectVersionId)
    (change : CardEffectVersion Config → CardEffectVersion Config) : ReleaseDb Config :=
  { db with effects := patch (·.id == versionId) change db.effects }

namespace Release

/-- `ensure_card_editable`. -/
def ensureCardEditable (card : ReleaseCard Config) : Except Failure Unit :=
  ensure ((card.status = .draft ∨ card.status = .changesRequested) ∧
      (card.releaseStatus = .draft ∨ card.releaseStatus = .changesRequested))
    (.app ⟨409, "INVALID_CARD_STATUS", "현재 상태에서는 카드를 수정할 수 없습니다."⟩)

/-- `effect_version_or_404`, for a card that was found. -/
def effectVersionOr404 (db : ReleaseDb Config) (cardId : CardId) (versionId : EffectVersionId) :
    Except Failure (CardEffectVersion Config) :=
  orFail ((db.effects.find? (·.id == versionId)).filter (·.cardId = cardId)) effectNotFound

/-- `create_effect_version`. -/
def createEffectVersion (validate : Config → Except Failure Config) (db : ReleaseDb Config)
    (userId : UserId) (cardId : CardId) (designConfig : Config) (assets : Except Failure Unit)
    (versionId : EffectVersionId) : Except Failure (ReleaseDb Config) := do
  let card ← ownedCard db userId cardId
  ensureCardEditable card
  let config ← validate designConfig
  assets
  let latest := ((db.effects.filter (·.cardId == card.id)).map (·.version)).foldl max 0
  ensure (∀ row ∈ db.effects, row.id ≠ versionId) (.integrity "card_effect_versions_pkey")
  return { db with
    effects := db.effects ++
      [{ id := versionId, cardId := card.id, version := latest + 1, designConfig := config,
         status := .draft }] }

/-- `update_effect_version`. -/
def updateEffectVersion (validate : Config → Except Failure Config) (db : ReleaseDb Config)
    (userId : UserId) (cardId : CardId) (versionId : EffectVersionId)
    (designConfig : Option Config) (assets : Except Failure Unit) :
    Except Failure (ReleaseDb Config) := do
  let card ← ownedCard db userId cardId
  ensureCardEditable card
  let version ← effectVersionOr404 db card.id versionId
  ensure (version.status = .draft ∨ version.status = .rejected)
    (.app ⟨409, "EFFECT_VERSION_LOCKED", "검수 중이거나 승인된 효과는 수정할 수 없습니다."⟩)
  match designConfig with
  | some designConfig =>
    let config ← validate designConfig
    assets
    return db.modifyEffect version.id
      ({ · with designConfig := config, status := .draft })
  | none => return db.modifyEffect version.id ({ · with status := .draft })

/-- `submit_effect_version_review`. -/
def submitEffectVersionReview (db : ReleaseDb Config) (userId : UserId) (cardId : CardId)
    (versionId : EffectVersionId) : Except Failure (ReleaseDb Config) := do
  let card ← ownedCard db userId cardId
  ensureCardEditable card
  let version ← effectVersionOr404 db card.id versionId
  ensure (version.status = .draft ∨ version.status = .rejected)
    (.app ⟨409, "EFFECT_VERSION_INVALID_STATUS", "현재 효과 버전은 검수를 요청할 수 없습니다."⟩)
  return db.modifyEffect version.id ({ · with status := .pendingReview })

/-- The decision on an effect version. -/
def decideEffectVersion (validate : Config → Except Failure Config) (db : ReleaseDb Config)
    (cardId : CardId) (versionId : EffectVersionId) (approve : Bool) (message : String) :
    Except Failure (ReleaseDb Config) := do
  let card ← orFail (db.findCard cardId) cardNotFound
  let version ← effectVersionOr404 db card.id versionId
  ensure (version.status = .pendingReview) (.app ⟨409, "EFFECT_VERSION_INVALID_STATUS", message⟩)
  if approve then
    let config ← validate version.designConfig
    return (db.modifyEffect version.id ({ · with status := .approved })).modifyCard
      card.id ({ · with designConfig := some config })
  else return db.modifyEffect version.id ({ · with status := .rejected })

/-- `approve_effect_version`. -/
def approveEffectVersion (validate : Config → Except Failure Config) (db : ReleaseDb Config)
    (cardId : CardId) (versionId : EffectVersionId) : Except Failure (ReleaseDb Config) :=
  decideEffectVersion validate db cardId versionId true "검수 요청된 효과만 승인할 수 있습니다."

/-- `review_effect_version`. -/
def reviewEffectVersion (validate : Config → Except Failure Config) (db : ReleaseDb Config)
    (cardId : CardId) (versionId : EffectVersionId) (approve : Bool) :
    Except Failure (ReleaseDb Config) :=
  decideEffectVersion validate db cardId versionId approve "검수 요청된 효과만 처리할 수 있습니다."

end Release

end

end Fanfolio
