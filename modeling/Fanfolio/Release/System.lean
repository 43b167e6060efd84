import Fanfolio.Framework.Run
import Fanfolio.Release.Drops
import Fanfolio.Release.Effects
import Mathlib.Data.List.Perm.Subperm

/-!
# The release system

One step is one request, with the identifiers it draws and the outcome of its checks on assets; a
failed request is rolled back. What a step does to a card is said once, as a move of the record of
that card.
-/

namespace Fanfolio

open Framework

/-- A request of an operator, a reviewer or an artist. -/
inductive ReleaseAction (Config : Type) where
  | createAdminCard (name : String) (values : CardValues Config) (assets : Except Failure Unit)
      (cardId : CardId)
  | updateAdminCard (cardId : CardId) (values : CardValues Config) (assets : Except Failure Unit)
  | deleteAdminCard (cardId : CardId)
  | createCard (userId : UserId) (name : String) (values : CardValues Config)
      (assets : Except Failure Unit) (cardId : CardId)
  | updateCard (userId : UserId) (cardId : CardId) (values : CardValues Config)
      (assets : Except Failure Unit)
  | submitAdminCardReview (cardId : CardId) (note : Option String) (requestId : ReviewRequestId)
  | submitReview (userId : UserId) (cardId : CardId) (note : Option String)
      (assets : Except Failure Unit) (requestId : ReviewRequestId)
  | reviewCard (cardId : CardId) (decision : CardReviewDecision)
  | approveCard (cardId : CardId)
  | decidePartnerReview (cardId : CardId) (payload : ReleaseDecision) (requestId : ReviewRequestId)
  | decidePlatformReview (cardId : CardId) (payload : ReleaseDecision)
  | publish (cardId : CardId)
  | createDrop (payload : DropCreateRequest) (dropId : DropId)
  | submitDrop (dropId : DropId)
  | linkCardToDrop (dropId : DropId) (cardId : CardId)
  | updateDropStatus (dropId : DropId) (payload : DropStatusUpdate)
  | createCardPack (payload : CardPackCreate) (packId : PackId) (draw : CardId → String)
  | updateCardPack (packId : PackId) (payload : CardPackCreate) (draw : CardId → String)
  | publishCardPack (packId : PackId)
  | createEffectVersion (userId : UserId) (cardId : CardId) (designConfig : Config)
      (assets : Except Failure Unit) (versionId : EffectVersionId)
  | updateEffectVersion (userId : UserId) (cardId : CardId) (versionId : EffectVersionId)
      (designConfig : Option Config) (assets : Except Failure Unit)
  | submitEffectVersionReview (userId : UserId) (cardId : CardId) (versionId : EffectVersionId)
  | approveEffectVersion (cardId : CardId) (versionId : EffectVersionId)
  | reviewEffectVersion (cardId : CardId) (versionId : EffectVersionId) (approve : Bool)

/-- A card with the requests to review it and its effect versions. -/
structure CardRecord (Config : Type) where
  card : ReleaseCard Config
  requests : List (CardReviewRequest Config)
  effects : List (CardEffectVersion Config)
deriving DecidableEq, Repr

section

variable {Config : Type}

def ReleaseDb.record (db : ReleaseDb Config) (cardId : CardId) : Option (CardRecord Config) :=
  (db.findCard cardId).map fun card =>
    ⟨card, db.requests.filter (·.cardId == cardId), db.effects.filter (·.cardId == cardId)⟩

/-- The rows of a new request. -/
def ReleaseCard.request [Inhabited Config] (card : ReleaseCard Config) (stage : ReviewStage)
    (requestId : ReviewRequestId) : CardReviewRequest Config :=
  { id := requestId, cardId := card.id, version := card.reviewVersion, stage := stage,
    status := .pending, snapshot := reviewSnapshot card }

namespace Release

/-- The tables after a request that succeeds. `validate` is `validate_effect_config`. -/
def attempt [Inhabited Config] (validate : Config → Except Failure Config)
    (db : ReleaseDb Config) : ReleaseAction Config → Except Failure (ReleaseDb Config)
  | .createAdminCard name values assets cardId => createAdminCard db name values assets cardId
  | .updateAdminCard cardId values assets => updateAdminCard db cardId values assets
  | .deleteAdminCard cardId => deleteAdminCard db cardId
  | .createCard userId name values assets cardId => createCard db userId name values assets cardId
  | .updateCard userId cardId values assets => updateCard db userId cardId values assets
  | .submitAdminCardReview cardId note requestId => submitAdminCardReview db cardId note requestId
  | .submitReview userId cardId note assets requestId =>
    submitReview db userId cardId note assets requestId
  | .reviewCard cardId decision => reviewCard db cardId decision
  | .approveCard cardId => approveCard db cardId
  | .decidePartnerReview cardId payload requestId => decidePartnerReview db cardId payload requestId
  | .decidePlatformReview cardId payload => decidePlatformReview db cardId payload
  | .publish cardId => publish db cardId
  | .createDrop payload dropId => createDrop db payload dropId
  | .submitDrop dropId => submitDrop db dropId
  | .linkCardToDrop dropId cardId => linkCardToDrop db dropId cardId
  | .updateDropStatus dropId payload => updateDropStatus db dropId payload
  | .createCardPack payload packId draw => createCardPack db payload packId draw
  | .updateCardPack packId payload draw => updateCardPack db packId payload draw
  | .publishCardPack packId => publishCardPack db packId
  | .createEffectVersion userId cardId designConfig assets versionId =>
    createEffectVersion validate db userId cardId designConfig assets versionId
  | .updateEffectVersion userId cardId versionId designConfig assets =>
    updateEffectVersion validate db userId cardId versionId designConfig assets
  | .submitEffectVersionReview userId cardId versionId =>
    submitEffectVersionReview db userId cardId versionId
  | .approveEffectVersion cardId versionId => approveEffectVersion validate db cardId versionId
  | .reviewEffectVersion cardId versionId approve =>
    reviewEffectVersion validate db cardId versionId approve

def step [Inhabited Config] (validate : Config → Except Failure Config) (db : ReleaseDb Config)
    (a : ReleaseAction Config) : ReleaseDb Config :=
  match attempt validate db a with
  | .ok db' => db'
  | .error _ => db

/-- A catalogue without cards, drops and packs. -/
def start (artists : List ArtistId) (members : List Member) : ReleaseDb Config :=
  { artists := artists, members := members, cards := [], requests := [], effects := [],
    drops := [], packs := [], packCards := [] }

/-- Identifiers are unique, and reviews, effect versions and pack entries belong to cards. -/
structure Consistent (db : ReleaseDb Config) : Prop where
  cardIds : (db.cards.map (·.id)).Nodup
  requestIds : (db.requests.map (·.id)).Nodup
  effectIds : (db.effects.map (·.id)).Nodup
  packIds : (db.packs.map (·.id)).Nodup
  requests : ∀ row ∈ db.requests, row.cardId ∈ db.cards.map (·.id)
  effects : ∀ row ∈ db.effects, row.cardId ∈ db.cards.map (·.id)
  links : ∀ row ∈ db.packCards, row.cardId ∈ db.cards.map (·.id)

/-- What a request does to a card that it finds. -/
inductive Moves [Inhabited Config] (validate : Config → Except Failure Config)
    (db : ReleaseDb Config) : ReleaseAction Config → CardRecord Config → CardRecord Config → Prop
  | edited {r : CardRecord Config} {values resolved : CardValues Config}
      (assets : Except Failure Unit) (hstatus : r.card.status ≠ .published)
      (hvalues : resolveValues db r.card.artistId r.card.memberId values = .ok resolved) :
      Moves validate db (.updateAdminCard r.card.id values assets) r
        { r with card := r.card.update resolved }
  | revised {r : CardRecord Config} {userId : UserId} {values resolved : CardValues Config}
      (assets : Except Failure Unit)
      (hstatus : r.card.status = .draft ∨ r.card.status = .changesRequested)
      (hvalues : resolveValues db r.card.artistId r.card.memberId
        { values with ownerArtistId := none } = .ok resolved) :
      Moves validate db (.updateCard userId r.card.id values assets) r
        { r with card := (r.card.update resolved).backToDraft }
  | submitted {a : ReleaseAction Config} {r : CardRecord Config} (note : Option String)
      (requestId : ReviewRequestId)
      (hstatus : r.card.status = .draft ∨ r.card.status = .changesRequested)
      (hrelease : r.card.releaseStatus = .draft ∨ r.card.releaseStatus = .changesRequested) :
      Moves validate db a r
        { r with
          card := { r.card.submitted with reviewNote := note }
          requests := r.requests ++ [r.card.submitted.request .partner requestId] }
  | reviewed {a : ReleaseAction Config} {r : CardRecord Config} {status : CardStatus}
      (hstatus : r.card.status = .pendingReview)
      (hdecision : (a = .reviewCard r.card.id .approve ∨ a = .approveCard r.card.id) ∧
        status = .approved ∨ status = .changesRequested) :
      Moves validate db a r { r with card := { r.card with status := status } }
  | partnerChanges {r : CardRecord Config} {payload : ReleaseDecision}
      {requestId : ReviewRequestId} {request : CardReviewRequest Config}
      (hrelease : r.card.releaseStatus = .pendingPartnerReview)
      (hpayload : checkDecision payload = .ok ()) :
      Moves validate db (.decidePartnerReview r.card.id payload requestId) r
        { r with
          card := r.card.changesRequested payload.note
          requests := patch (·.id == request.id) ({ · with status := .changesRequested })
            r.requests }
  | partnerToPlatform {r : CardRecord Config} {payload : ReleaseDecision}
      {requestId : ReviewRequestId} {request : CardReviewRequest Config}
      (hrelease : r.card.releaseStatus = .pendingPartnerReview)
      (hpayload : checkDecision payload = .ok ())
      (hpolicy : r.card.releasePolicy = .partnerAndPlatform)
      (hrequest : request ∈ r.requests ∧ request.version = r.card.reviewVersion ∧
        request.stage = .partner) :
      Moves validate db (.decidePartnerReview r.card.id payload requestId) r
        { r with
          card := r.card.toPlatform
          requests := patch (·.id == request.id) ({ · with status := .approved }) r.requests ++
            [r.card.toPlatform.request .platform requestId] }
  | partnerApproved {r : CardRecord Config} {payload : ReleaseDecision}
      {requestId : ReviewRequestId} {request : CardReviewRequest Config}
      (hrelease : r.card.releaseStatus = .pendingPartnerReview)
      (hpayload : checkDecision payload = .ok ())
      (hpolicy : r.card.releasePolicy = .partnerOnly)
      (hrequest : request ∈ r.requests ∧ request.version = r.card.reviewVersion ∧
        request.stage = .partner) :
      Moves validate db (.decidePartnerReview r.card.id payload requestId) r
        { r with
          card := r.card.approved
          requests := patch (·.id == request.id) ({ · with status := .approved }) r.requests }
  | platformChanges {r : CardRecord Config} {payload : ReleaseDecision}
      {request : CardReviewRequest Config}
      (hrelease : r.card.releaseStatus = .pendingPlatformReview)
      (hpayload : checkDecision payload = .ok ()) :
      Moves validate db (.decidePlatformReview r.card.id payload) r
        { r with
          card := r.card.changesRequested payload.note
          requests := patch (·.id == request.id) ({ · with status := .changesRequested })
            r.requests }
  | platformApproved {r : CardRecord Config} {payload : ReleaseDecision}
      {request : CardReviewRequest Config}
      (hrelease : r.card.releaseStatus = .pendingPlatformReview)
      (hpayload : checkDecision payload = .ok ())
      (hrequest : request ∈ r.requests ∧ request.version = r.card.reviewVersion ∧
        request.stage = .platform) :
      Moves validate db (.decidePlatformReview r.card.id payload) r
        { r with
          card := r.card.approved
          requests := patch (·.id == request.id) ({ · with status := .approved }) r.requests }
  | published {r : CardRecord Config}
      (howner : r.card.ownerArtistId.isSome → r.card.releaseStatus ≠ .approved)
      (hdraft : r.card.ownerArtistId.isSome → r.card.status ≠ .draft)
      (hpending : r.card.status ≠ .pendingReview) :
      Moves validate db (.publish r.card.id) r
        { r with card := { r.card with status := .published } }
  | linked {r : CardRecord Config} {drop : Drop} (hdrop : db.findDrop drop.id = some drop)
      (hartist : r.card.artistId = drop.artistId) (hrelease : r.card.releaseStatus = .approved) :
      Moves validate db (.linkCardToDrop drop.id r.card.id) r
        { r with card := r.card.linked drop }
  | started {r : CardRecord Config} {a : ReleaseAction Config}
      (hrelease : r.card.releaseStatus = .dropReady) :
      Moves validate db a r { r with card := r.card.started }
  | effectsChanged {r : CardRecord Config} {a : ReleaseAction Config}
      {effects : List (CardEffectVersion Config)}
      (hkept : ∀ row ∈ r.effects, row.status = .approved → row ∈ effects) :
      Moves validate db a r { r with effects := effects }
  | effectApproved {r : CardRecord Config} {a : ReleaseAction Config}
      {effects : List (CardEffectVersion Config)} {version : CardEffectVersion Config}
      {config : Config} (hkept : ∀ row ∈ r.effects, row.status = .approved → row ∈ effects)
      (hversion : version ∈ effects ∧ version.status = .approved)
      (hconfig : validate version.designConfig = .ok config) :
      Moves validate db a r
        { r with card := { r.card with designConfig := some config }, effects := effects }

/-- What a step does to the record of a card. -/
inductive Follows [Inhabited Config] (validate : Config → Except Failure Config)
    (db : ReleaseDb Config) (a : ReleaseAction Config) :
    Option (CardRecord Config) → Option (CardRecord Config) → Prop
  | same (o : Option (CardRecord Config)) : Follows validate db a o o
  | created {card : ReleaseCard Config} (hstatus : card.status = .draft)
      (hrelease : card.releaseStatus = .draft) : Follows validate db a none (some ⟨card, [], []⟩)
  | deleted {r : CardRecord Config} (hstatus : r.card.status = .draft) :
      Follows validate db a (some r) none
  | moves {r r' : CardRecord Config} (h : Moves validate db a r r') :
      Follows validate db a (some r) (some r')

end Release

variable {db db' : ReleaseDb Config} {cardId : CardId} {card : ReleaseCard Config}
  {r : CardRecord Config}

theorem findCard_id (h : db.findCard cardId = some card) : card.id = cardId :=
  (mem_of_find_eq_some (g := fun row : ReleaseCard Config => row.id) h).2

theorem record_card (h : db.record cardId = some r) : db.findCard cardId = some r.card := by
  obtain ⟨card, hcard, rfl⟩ := Option.map_eq_some_iff.mp h
  exact hcard

theorem record_id (h : db.record cardId = some r) : r.card.id = cardId :=
  findCard_id (record_card h)

theorem record_found (h : db.findCard cardId = some card) : db.record cardId =
    some ⟨card, db.requests.filter (·.cardId == cardId), db.effects.filter (·.cardId == cardId)⟩ := by
  rw [ReleaseDb.record, h]
  rfl

theorem record_requests (h : db.record cardId = some r) :
    r.requests = db.requests.filter (·.cardId == cardId) := by
  obtain ⟨card, -, rfl⟩ := Option.map_eq_some_iff.mp h
  rfl

theorem record_effects (h : db.record cardId = some r) :
    r.effects = db.effects.filter (·.cardId == cardId) := by
  obtain ⟨card, -, rfl⟩ := Option.map_eq_some_iff.mp h
  rfl

theorem record_modifyCard {change : ReleaseCard Config → ReleaseCard Config}
    (hid : ∀ row, (change row).id = row.id) (cardId' : CardId) :
    (db.modifyCard cardId change).record cardId' = (db.record cardId').map fun r =>
      { r with card := if r.card.id == cardId then change r.card else r.card } := by
  have hfind := find_patch (p := fun row : ReleaseCard Config => row.id == cardId)
    (q := fun row => row.id == cardId') (f := change) (fun row => by rw [hid]) db.cards
  rw [ReleaseDb.record, ReleaseDb.findCard, ReleaseDb.modifyCard, hfind, Option.map_map,
    ReleaseDb.record, Option.map_map]
  rfl

theorem record_addRequest (request : CardReviewRequest Config) (cardId : CardId) :
    ({ db with requests := db.requests ++ [request] } : ReleaseDb Config).record cardId =
      (db.record cardId).map fun r =>
        { r with requests := r.requests ++ [request].filter (·.cardId == r.card.id) } := by
  rw [ReleaseDb.record, ReleaseDb.record, Option.map_map]
  refine Option.map_congr ?_
  intro card hcard
  rw [Function.comp_apply, findCard_id hcard, List.filter_append]

theorem record_decision (request : CardReviewRequest Config) (decision : ReviewDecision)
    (cardId : CardId) :
    (recordReviewDecision db request decision).record cardId = (db.record cardId).map fun r =>
      { r with
        requests := patch (·.id == request.id) ({ · with status := decision.status })
          r.requests } := by
  rw [ReleaseDb.record, recordReviewDecision, filter_patch (by intro _; rfl), ReleaseDb.record,
    Option.map_map]
  rfl

theorem record_modifyEffect {versionId : EffectVersionId}
    {change : CardEffectVersion Config → CardEffectVersion Config}
    (hcard : ∀ row, (change row).cardId = row.cardId) (cardId : CardId) :
    (db.modifyEffect versionId change).record cardId = (db.record cardId).map fun r =>
      { r with effects := patch (·.id == versionId) change r.effects } := by
  rw [ReleaseDb.record, ReleaseDb.modifyEffect, filter_patch (fun row => by rw [hcard]),
    ReleaseDb.record, Option.map_map]
  rfl

theorem not_published_of_editable
    (h : card.status = .draft ∨ card.status = .changesRequested) : card.status ≠ .published := by
  rcases h with h | h <;> rw [h] <;> decide

namespace Release

variable [Inhabited Config] {validate : Config → Except Failure Config}
  {a : ReleaseAction Config}

/-- A request that changes one card moves its record, and keeps the others. -/
theorem Follows.of_map (change : CardRecord Config → CardRecord Config)
    (hrecord : ∀ cardId, db'.record cardId = (db.record cardId).map change)
    (hcard : db.findCard cardId = some card)
    (hmoves : ∀ r, db.record cardId = some r → r.card = card → Moves validate db a r (change r))
    (hothers : ∀ cardId' r, cardId' ≠ cardId → db.record cardId' = some r → change r = r)
    (cardId' : CardId) : Follows validate db a (db.record cardId') (db'.record cardId') := by
  rw [hrecord]
  by_cases hid : cardId' = cardId
  · subst hid
    have hfound := record_found hcard
    rw [hfound]
    exact .moves (hmoves _ hfound rfl)
  · cases hfound : db.record cardId' with
    | none => exact .same none
    | some r =>
      rw [Option.map_some, hothers cardId' r hid hfound]
      exact .same _

omit [Inhabited Config] in
theorem ownedCard_ok {userId : UserId} (h : ownedCard db userId cardId = .ok card) :
    db.findCard cardId = some card :=
  (Option.filter_eq_some_iff.mp (orFail_ok.mp h)).1

/-- Setting attributes of a card moves its record, and keeps the others. -/
theorem Follows.of_modifyCard {change : ReleaseCard Config → ReleaseCard Config}
    (hid : ∀ row, (change row).id = row.id) (hcard : db.findCard cardId = some card)
    (hmoves : ∀ r : CardRecord Config, r.card = card →
      Moves validate db a r { r with card := change r.card })
    (cardId' : CardId) :
    Follows validate db a (db.record cardId') ((db.modifyCard card.id change).record cardId') := by
  refine Follows.of_map _ (record_modifyCard hid) hcard ?_ ?_ cardId'
  · intro r hr hr'
    have hmove := hmoves r hr'
    rwa [← hr', if_pos (beq_self_eq_true _)]
  · intro cardId'' r hne hr
    rw [if_neg]
    rw [record_id hr, findCard_id hcard]
    simpa using hne

theorem createReviewRequest_ok {stage : ReviewStage} {requestId : ReviewRequestId}
    (h : createReviewRequest db card stage requestId = .ok db') :
    (∀ row ∈ db.requests, row.id ≠ requestId) ∧
      db' = { db with requests := db.requests ++ [card.request stage requestId] } := by
  simp only [createReviewRequest, bind_ok, ensure_ok, exists_const, pure_ok] at h
  exact ⟨h.1, h.2.2.symm⟩

theorem submit_follows {note : Option String} {requestId : ReviewRequestId}
    (hcard : db.findCard cardId = some card)
    (hstatus : card.status = .draft ∨ card.status = .changesRequested)
    (hrelease : card.releaseStatus = .draft ∨ card.releaseStatus = .changesRequested)
    (h : submitCardForReleaseReview (db.modifyCard card.id ({ · with reviewNote := note }))
      { card with reviewNote := note } requestId = .ok db') (cardId' : CardId) :
    Follows validate db a (db.record cardId') (db'.record cardId') := by
  obtain ⟨-, rfl⟩ := createReviewRequest_ok h
  have hid := findCard_id hcard
  refine Follows.of_map (fun r =>
      if r.card.id == card.id then
        { r with
          card := { r.card.submitted with reviewNote := note }
          requests := r.requests ++ [card.submitted.request .partner requestId] }
      else r) ?_ hcard ?_ ?_ cardId'
  · intro cardId''
    rw [record_addRequest, record_modifyCard (by intro _; rfl), record_modifyCard (by intro _; rfl),
      Option.map_map, Option.map_map]
    congr 1
    funext r
    by_cases hr : r.card.id = card.id
    · simp [hr, ReleaseCard.submitted, ReleaseCard.request, reviewSnapshot, requiredReleasePolicy]
    · simp [hr, Ne.symm hr, ReleaseCard.submitted, ReleaseCard.request]
  · rintro r - rfl
    rw [if_pos (beq_self_eq_true _)]
    exact .submitted note requestId hstatus hrelease
  · intro cardId'' r hne hr
    rw [if_neg]
    rw [record_id hr, hid]
    simpa using hne

omit [Inhabited Config] in
/-- A decision on a request for a card moves its record, and keeps the others. -/
theorem record_decided (h : Consistent db) {stage : ReviewStage}
    {request : CardReviewRequest Config} {decision : ReviewDecision}
    {change : ReleaseCard Config → ReleaseCard Config} (hid : ∀ row, (change row).id = row.id)
    (hactive : activeReviewRequest db card stage = some request) (cardId' : CardId) :
    ((recordReviewDecision db request decision).modifyCard card.id change).record cardId' =
      (db.record cardId').map fun r =>
        if r.card.id == card.id then
          { r with
            card := change r.card
            requests := patch (·.id == request.id) ({ · with status := decision.status })
              r.requests }
        else r := by
  have hmem := List.mem_of_find?_eq_some hactive
  have howner : request.cardId = card.id := by
    have := List.find?_some hactive
    simp only [Bool.and_eq_true, beq_iff_eq] at this
    exact this.1.1.1
  rw [record_modifyCard hid, record_decision, Option.map_map]
  refine Option.map_congr ?_
  intro r hr
  by_cases hsame : r.card.id = card.id
  · simp [hsame]
  · have hkeep : patch (·.id == request.id) ({ · with status := decision.status }) r.requests =
        r.requests := by
      refine patch_of_forall_not ?_
      intro row hrow
      rw [record_requests hr, List.mem_filter, beq_iff_eq] at hrow
      refine beq_false_of_ne fun heq => hsame ?_
      rw [record_id hr, ← hrow.2, eq_of_unique h.requestIds hrow.1 hmem heq, howner]
    simp [hsame, hkeep]

omit [Inhabited Config] in
theorem activeReviewRequest_ok {stage : ReviewStage} {request : CardReviewRequest Config}
    (hcard : db.findCard cardId = some card)
    (hactive : activeReviewRequest db card stage = some request)
    (hr : db.record cardId = some r) :
    request ∈ r.requests ∧ request.version = card.reviewVersion ∧ request.stage = stage := by
  have hmem := List.mem_of_find?_eq_some hactive
  have hmatch := List.find?_some hactive
  simp only [Bool.and_eq_true, beq_iff_eq] at hmatch
  obtain ⟨⟨⟨howner, hversion⟩, hstage⟩, -⟩ := hmatch
  rw [record_requests hr]
  exact ⟨List.mem_filter.mpr ⟨hmem, by simp [howner, findCard_id hcard]⟩, hversion, hstage⟩

/-- A decision that only moves its card. -/
theorem decision_follows (h : Consistent db) {stage : ReviewStage}
    {request : CardReviewRequest Config} {decision : ReviewDecision}
    {change : ReleaseCard Config → ReleaseCard Config} (hid : ∀ row, (change row).id = row.id)
    (hcard : db.findCard cardId = some card)
    (hactive : activeReviewRequest db card stage = some request)
    (hmoves : ∀ r : CardRecord Config, r.card = card → (request ∈ r.requests ∧
      request.version = r.card.reviewVersion ∧ request.stage = stage) →
      Moves validate db a r
        { r with
          card := change r.card
          requests := patch (·.id == request.id) ({ · with status := decision.status })
            r.requests })
    (cardId' : CardId) :
    Follows validate db a (db.record cardId')
      (((recordReviewDecision db request decision).modifyCard card.id change).record cardId') := by
  refine Follows.of_map _ (record_decided h hid hactive) hcard ?_ ?_ cardId'
  · rintro r hr rfl
    rw [if_pos (beq_self_eq_true _)]
    exact hmoves r rfl (activeReviewRequest_ok hcard hactive hr)
  · intro cardId'' r hne hr
    rw [if_neg]
    rw [record_id hr, findCard_id hcard]
    simpa using hne

theorem decidePartnerReview_follows (h : Consistent db) {payload : ReleaseDecision}
    {requestId : ReviewRequestId}
    (hok : decidePartnerReview db cardId payload requestId = .ok db') (cardId' : CardId) :
    Follows validate db (.decidePartnerReview cardId payload requestId) (db.record cardId')
      (db'.record cardId') := by
  simp only [decidePartnerReview, bind_ok, orFail_ok, ensure_ok, exists_const] at hok
  obtain ⟨_, hpayload, card, hcard, hrelease, request, hactive, hok⟩ := hok
  obtain rfl := findCard_id hcard
  cases hdecision : payload.decision with
  | changesRequested =>
    simp only [hdecision, pure_ok] at hok
    subst hok
    refine decision_follows h (by intro _; rfl) hcard hactive ?_ cardId'
    rintro r rfl -
    exact .partnerChanges hrelease hpayload
  | approved =>
    simp only [hdecision] at hok
    split at hok
    · rename_i hpolicy
      obtain ⟨-, rfl⟩ := createReviewRequest_ok hok
      refine Follows.of_map (fun r => if r.card.id == card.id then
          { r with
            card := r.card.toPlatform
            requests := patch (·.id == request.id) ({ · with status := .approved }) r.requests ++
              [card.toPlatform.request .platform requestId] }
        else r) ?_ hcard ?_ ?_ cardId'
      · intro cardId''
        rw [record_addRequest, record_decided h (by intro _; rfl) hactive, Option.map_map]
        congr 1
        funext r
        by_cases hr : r.card.id = card.id
        · simp [hr, ReleaseCard.toPlatform, ReleaseCard.request, ReviewDecision.status]
        · simp [hr, Ne.symm hr, ReleaseCard.toPlatform, ReleaseCard.request]
      · rintro r hr rfl
        rw [if_pos (beq_self_eq_true _)]
        exact .partnerToPlatform hrelease hpayload hpolicy (activeReviewRequest_ok hcard hactive hr)
      · intro cardId'' r hne hr
        rw [if_neg]
        rw [record_id hr]
        simpa using hne
    · rename_i hpolicy
      obtain rfl := pure_ok.mp hok
      refine decision_follows h (by intro _; rfl) hcard hactive ?_ cardId'
      rintro r rfl hrequest
      refine .partnerApproved hrelease hpayload ?_ hrequest
      cases hsame : r.card.releasePolicy with
      | partnerOnly => rfl
      | partnerAndPlatform => exact absurd hsame hpolicy

theorem decidePlatformReview_follows (h : Consistent db) {payload : ReleaseDecision}
    (hok : decidePlatformReview db cardId payload = .ok db') (cardId' : CardId) :
    Follows validate db (.decidePlatformReview cardId payload) (db.record cardId')
      (db'.record cardId') := by
  simp only [decidePlatformReview, bind_ok, orFail_ok, ensure_ok, exists_const] at hok
  obtain ⟨_, hpayload, card, hcard, hrelease, request, hactive, hok⟩ := hok
  obtain rfl := findCard_id hcard
  cases hdecision : payload.decision with
  | changesRequested =>
    simp only [hdecision, pure_ok] at hok
    subst hok
    refine decision_follows h (by intro _; rfl) hcard hactive ?_ cardId'
    rintro r rfl -
    exact .platformChanges hrelease hpayload
  | approved =>
    simp only [hdecision, pure_ok] at hok
    subst hok
    refine decision_follows h (by intro _; rfl) hcard hactive ?_ cardId'
    rintro r rfl hrequest
    exact .platformApproved hrelease hpayload hrequest

theorem insertCard_follows (h : Consistent db) (hstatus : card.status = .draft)
    (hrelease : card.releaseStatus = .draft) (hok : db.insertCard card = .ok db')
    (cardId : CardId) : Follows validate db a (db.record cardId) (db'.record cardId) := by
  simp only [ReleaseDb.insertCard, bind_ok, ensure_ok, exists_const, pure_ok] at hok
  obtain ⟨hfresh, rfl⟩ := hok
  have hfind : ({ db with cards := db.cards ++ [card] } : ReleaseDb Config).findCard cardId =
      (db.findCard cardId).or (if card.id == cardId then some card else none) := find_insert
  rw [ReleaseDb.record, ReleaseDb.record, hfind]
  cases hfound : db.findCard cardId with
  | some row => exact .same _
  | none =>
    by_cases hid : card.id = cardId
    · have hnone : cardId ∉ db.cards.map (·.id) := find_eq_none_iff.mp hfound
      have hrequests : db.requests.filter (·.cardId == cardId) = [] := by
        refine List.filter_eq_nil_iff.mpr fun row hrow heq => hnone ?_
        exact beq_iff_eq.mp heq ▸ h.requests row hrow
      have heffects : db.effects.filter (·.cardId == cardId) = [] := by
        refine List.filter_eq_nil_iff.mpr fun row hrow heq => hnone ?_
        exact beq_iff_eq.mp heq ▸ h.effects row hrow
      simp only [hid, beq_self_eq_true, if_true, Option.none_or, Option.map_some, hrequests,
        heffects]
      exact .created hstatus hrelease
    · simp only [beq_eq_false_iff_ne.mpr hid, Bool.false_eq_true, if_false, Option.none_or]
      exact .same _

theorem deleteAdminCard_follows (hok : deleteAdminCard db cardId = .ok db') (cardId' : CardId) :
    Follows validate db a (db.record cardId') (db'.record cardId') := by
  simp only [deleteAdminCard, bind_ok, orFail_ok, ensure_ok, exists_const, pure_ok] at hok
  obtain ⟨card, hcard, ⟨hstatus, -⟩, -, rfl⟩ := hok
  obtain rfl := findCard_id hcard
  by_cases hid : cardId' = card.id
  · subst hid
    rw [record_found hcard]
    have hnone : (db.cards.filter (·.id != card.id)).find? (·.id == card.id) = none := by
      simp [List.find?_eq_none]
    rw [ReleaseDb.record, ReleaseDb.findCard, hnone]
    exact .deleted hstatus
  · have hsame : (db.cards.filter (·.id != card.id)).find? (·.id == cardId') =
        db.cards.find? (·.id == cardId') := by
      rw [List.find?_filter]
      congr 1
      funext row
      by_cases hrow : row.id = cardId' <;> simp [hrow, hid]
    have hrequests : (db.requests.filter (·.cardId != card.id)).filter (·.cardId == cardId') =
        db.requests.filter (·.cardId == cardId') := by
      rw [List.filter_filter]
      congr 1
      funext row
      by_cases hrow : row.cardId = cardId' <;> simp [hrow, hid]
    have heffects : (db.effects.filter (·.cardId != card.id)).filter (·.cardId == cardId') =
        db.effects.filter (·.cardId == cardId') := by
      rw [List.filter_filter]
      congr 1
      funext row
      by_cases hrow : row.cardId = cardId' <;> simp [hrow, hid]
    simp only [ReleaseDb.record, ReleaseDb.findCard, hsame, hrequests, heffects]
    exact .same _

theorem updateDropStatus_follows {dropId : DropId} {payload : DropStatusUpdate}
    (hok : updateDropStatus db dropId payload = .ok db') (cardId : CardId) :
    Follows validate db a (db.record cardId) (db'.record cardId) := by
  simp only [updateDropStatus, bind_ok, orFail_ok] at hok
  obtain ⟨drop, -, hok⟩ := hok
  split at hok
  · obtain rfl := pure_ok.mp hok
    have hfind := find_patch (q := fun row : ReleaseCard Config => row.id == cardId)
      (p := fun row => row.dropId == some drop.id && row.releaseStatus == .dropReady)
      (f := (·.started)) (fun _ => rfl) db.cards
    simp only [ReleaseDb.record, ReleaseDb.findCard, hfind]
    cases hcard : db.cards.find? (·.id == cardId) with
    | none => exact .same _
    | some card =>
      simp only [Option.map_some]
      split
      · rename_i hready
        simp only [Bool.and_eq_true, beq_iff_eq] at hready
        exact .moves (.started hready.2)
      · exact .same _
  · obtain rfl := pure_ok.mp hok
    exact .same _

/-- A change of effect versions that keeps the approved ones moves the records of their cards. -/
theorem effects_follow {effects : List (CardEffectVersion Config)}
    (hkept : ∀ row ∈ db.effects, row.status = .approved → row ∈ effects) (cardId : CardId) :
    Follows validate db a (db.record cardId)
      (({ db with effects := effects } : ReleaseDb Config).record cardId) := by
  cases hr : db.record cardId with
  | none =>
    have hnone := Option.map_eq_none_iff.mp hr
    have hnone' : ({ db with effects := effects } : ReleaseDb Config).record cardId = none :=
      Option.map_eq_none_iff.mpr hnone
    rw [hnone']
    exact .same _
  | some r =>
    have hcard := record_card hr
    have hrecord : ({ db with effects := effects } : ReleaseDb Config).record cardId =
        some { r with effects := effects.filter (·.cardId == cardId) } := by
      have hcard' : ({ db with effects := effects } : ReleaseDb Config).findCard cardId =
          some r.card := hcard
      rw [record_found hcard', record_requests hr]
    rw [hrecord]
    refine .moves (.effectsChanged ?_)
    intro row hrow happroved
    rw [record_effects hr, List.mem_filter] at hrow
    exact List.mem_filter.mpr ⟨hkept row hrow.1 happroved, hrow.2⟩

omit [Inhabited Config] in
theorem effectVersionOr404_ok {versionId : EffectVersionId} {version : CardEffectVersion Config}
    (h : effectVersionOr404 db cardId versionId = .ok version) :
    version ∈ db.effects ∧ version.cardId = cardId := by
  obtain ⟨hfind, howner⟩ := Option.filter_eq_some_iff.mp (orFail_ok.mp h)
  exact ⟨List.mem_of_find?_eq_some hfind, by simpa using howner⟩

omit [Inhabited Config] in
theorem not_approved_of_open {version : CardEffectVersion Config}
    (h : version.status = .draft ∨ version.status = .rejected) : version.status ≠ .approved := by
  rcases h with h | h <;> rw [h] <;> decide

omit [Inhabited Config] in
/-- A version that is not approved is changed without a loss among the approved ones. -/
theorem mem_modifyEffect (h : Consistent db) {version : CardEffectVersion Config}
    {change : CardEffectVersion Config → CardEffectVersion Config} (hmem : version ∈ db.effects)
    (hstatus : version.status ≠ .approved) :
    ∀ row ∈ db.effects, row.status = .approved →
      row ∈ patch (·.id == version.id) change db.effects := by
  intro row hrow happroved
  refine mem_patch_of_not hrow (beq_false_of_ne fun heq => hstatus ?_)
  rw [← eq_of_unique h.effectIds hrow hmem heq]
  exact happroved

theorem createEffectVersion_follows {userId : UserId} {designConfig : Config}
    {assets : Except Failure Unit} {versionId : EffectVersionId}
    (hok : createEffectVersion validate db userId cardId designConfig assets versionId = .ok db')
    (cardId' : CardId) : Follows validate db a (db.record cardId') (db'.record cardId') := by
  simp only [createEffectVersion, bind_ok, ensure_ok, exists_const, pure_ok] at hok
  obtain ⟨card, -, -, -, config, -, -, -, -, rfl⟩ := hok
  exact effects_follow (fun row hrow _ => List.mem_append_left _ hrow) cardId'

theorem updateEffectVersion_follows (h : Consistent db) {userId : UserId}
    {versionId : EffectVersionId} {designConfig : Option Config} {assets : Except Failure Unit}
    (hok : updateEffectVersion validate db userId cardId versionId designConfig assets = .ok db')
    (cardId' : CardId) : Follows validate db a (db.record cardId') (db'.record cardId') := by
  simp only [updateEffectVersion, bind_ok, ensure_ok, exists_const] at hok
  obtain ⟨card, -, -, -, version, hversion, hstatus, hok⟩ := hok
  have hmem := (effectVersionOr404_ok hversion).1
  have hopen := not_approved_of_open hstatus
  cases designConfig with
  | some designConfig =>
    simp only [bind_ok, pure_ok] at hok
    obtain ⟨config, -, -, -, rfl⟩ := hok
    exact effects_follow (mem_modifyEffect h hmem hopen) cardId'
  | none =>
    obtain rfl := pure_ok.mp hok
    exact effects_follow (mem_modifyEffect h hmem hopen) cardId'

theorem submitEffectVersionReview_follows (h : Consistent db) {userId : UserId}
    {versionId : EffectVersionId}
    (hok : submitEffectVersionReview db userId cardId versionId = .ok db') (cardId' : CardId) :
    Follows validate db a (db.record cardId') (db'.record cardId') := by
  simp only [submitEffectVersionReview, bind_ok, ensure_ok, exists_const, pure_ok] at hok
  obtain ⟨card, -, -, -, version, hversion, hstatus, rfl⟩ := hok
  have hopen := not_approved_of_open hstatus
  exact effects_follow (mem_modifyEffect h (effectVersionOr404_ok hversion).1 hopen) cardId'

theorem decideEffectVersion_follows (h : Consistent db) {versionId : EffectVersionId}
    {approve : Bool} {message : String}
    (hok : decideEffectVersion validate db cardId versionId approve message = .ok db')
    (cardId' : CardId) : Follows validate db a (db.record cardId') (db'.record cardId') := by
  simp only [decideEffectVersion, bind_ok, orFail_ok, ensure_ok, exists_const] at hok
  obtain ⟨card, hcard, version, hversion, hstatus, hok⟩ := hok
  obtain ⟨hmem, howner⟩ := effectVersionOr404_ok hversion
  have hopen : version.status ≠ .approved := by
    rw [hstatus]
    decide
  cases approve with
  | false =>
    simp only [Bool.false_eq_true, if_false, pure_ok] at hok
    subst hok
    exact effects_follow (mem_modifyEffect h hmem hopen) cardId'
  | true =>
    simp only [if_true, bind_ok, pure_ok] at hok
    obtain ⟨config, hconfig, rfl⟩ := hok
    have hkept : ∀ row ∈ db.effects, row.status = .approved →
        row ∈ patch (·.id == version.id) ({ · with status := .approved }) db.effects :=
      mem_modifyEffect h hmem hopen
    by_cases hid : cardId' = cardId
    · subst hid
      obtain rfl := findCard_id hcard
      have hrecord := record_found hcard
      rw [record_modifyCard (by intro _; rfl), record_modifyEffect (by intro _; rfl), hrecord]
      simp only [Option.map_some, beq_self_eq_true, if_true]
      have hversion : { version with status := .approved } ∈
          patch (·.id == version.id) ({ · with status := .approved })
            (db.effects.filter (·.cardId == card.id)) := by
        refine mem_patch.mpr ⟨version, ?_, by simp⟩
        exact List.mem_filter.mpr ⟨hmem, by simp [howner]⟩
      refine .moves (.effectApproved ?_ ⟨hversion, rfl⟩ hconfig)
      intro row hrow happroved
      refine mem_patch_of_not hrow (beq_false_of_ne fun heq => hopen ?_)
      rw [← eq_of_unique h.effectIds (List.mem_filter.mp hrow).1 hmem heq]
      exact happroved
    · have hsame : ((db.modifyEffect version.id ({ · with status := .approved })).modifyCard card.id
            ({ · with designConfig := some config })).record cardId' =
          (db.modifyEffect version.id ({ · with status := .approved })).record cardId' := by
        rw [record_modifyCard (by intro _; rfl)]
        cases hr : (db.modifyEffect version.id ({ · with status := .approved })).record cardId' with
        | none => rfl
        | some r =>
          rw [Option.map_some, if_neg]
          rw [record_id hr, findCard_id hcard]
          simpa using hid
      rw [hsame]
      exact effects_follow hkept cardId'

theorem updateAdminCard_follows {values : CardValues Config} {assets : Except Failure Unit}
    (hok : updateAdminCard db cardId values assets = .ok db') (cardId' : CardId) :
    Follows validate db (.updateAdminCard cardId values assets) (db.record cardId')
      (db'.record cardId') := by
  simp only [updateAdminCard, bind_ok, orFail_ok, ensure_ok, exists_const, pure_ok] at hok
  obtain ⟨card, hcard, hstatus, -, -, resolved, hvalues, rfl⟩ := hok
  obtain rfl := findCard_id hcard
  refine Follows.of_modifyCard (by intro _; rfl) hcard ?_ cardId'
  rintro r rfl
  exact .edited assets hstatus hvalues

theorem updateCard_follows {userId : UserId} {values : CardValues Config}
    {assets : Except Failure Unit} (hok : updateCard db userId cardId values assets = .ok db')
    (cardId' : CardId) :
    Follows validate db (.updateCard userId cardId values assets) (db.record cardId')
      (db'.record cardId') := by
  simp only [updateCard, bind_ok, ensure_ok, exists_const, pure_ok] at hok
  obtain ⟨card, howned, hstatus, -, -, resolved, hvalues, rfl⟩ := hok
  have hcard := ownedCard_ok howned
  obtain rfl := findCard_id hcard
  have hid (row : ReleaseCard Config) : ((row.update resolved).backToDraft).id = row.id := by
    unfold ReleaseCard.backToDraft
    split <;> rfl
  refine Follows.of_modifyCard hid hcard ?_ cardId'
  rintro r rfl
  exact .revised assets hstatus hvalues

theorem reviewCard_follows {decision : CardReviewDecision}
    (ha : decision = .approve → a = .reviewCard cardId .approve ∨ a = .approveCard cardId)
    (hok : reviewCard db cardId decision = .ok db') (cardId' : CardId) :
    Follows validate db a (db.record cardId') (db'.record cardId') := by
  simp only [reviewCard, bind_ok, orFail_ok, ensure_ok, exists_const, pure_ok] at hok
  obtain ⟨card, hcard, hstatus, rfl⟩ := hok
  obtain rfl := findCard_id hcard
  refine Follows.of_modifyCard (by intro _; rfl) hcard ?_ cardId'
  rintro r rfl
  refine .reviewed hstatus ?_
  cases decision with
  | approve => exact .inl ⟨ha rfl, rfl⟩
  | requestChanges => exact .inr rfl

theorem publish_follows (hok : publish db cardId = .ok db') (cardId' : CardId) :
    Follows validate db (.publish cardId) (db.record cardId') (db'.record cardId') := by
  simp only [publish, bind_ok, orFail_ok, ensure_ok, exists_const, pure_ok] at hok
  obtain ⟨card, hcard, -, hrelease, hstatus, rfl⟩ := hok
  obtain rfl := findCard_id hcard
  refine Follows.of_modifyCard (by intro _; rfl) hcard ?_ cardId'
  rintro r rfl
  refine .published ?_ ?_ ?_
  · exact fun howner hsame => hrelease ⟨howner, hsame⟩
  · exact fun howner hsame => hstatus (.inr ⟨hsame, howner⟩)
  · exact fun hsame => hstatus (.inl hsame)

theorem linkCardToDrop_follows {dropId : DropId} (hok : linkCardToDrop db dropId cardId = .ok db')
    (cardId' : CardId) :
    Follows validate db (.linkCardToDrop dropId cardId) (db.record cardId')
      (db'.record cardId') := by
  simp only [linkCardToDrop, bind_ok, orFail_ok, ensure_ok, exists_const, pure_ok] at hok
  obtain ⟨drop, hdrop, card, hcard, hartist, hrelease, rfl⟩ := hok
  obtain rfl := findCard_id hcard
  obtain rfl := (mem_of_find_eq_some (g := Drop.id) hdrop).2
  refine Follows.of_modifyCard (by intro _; rfl) hcard ?_ cardId'
  rintro r rfl
  exact .linked hdrop hartist hrelease

theorem createAdminCard_follows (h : Consistent db) {name : String} {values : CardValues Config}
    {assets : Except Failure Unit} (hok : createAdminCard db name values assets cardId = .ok db')
    (cardId' : CardId) : Follows validate db a (db.record cardId') (db'.record cardId') := by
  simp only [createAdminCard, bind_ok] at hok
  obtain ⟨-, -, resolved, -, hok⟩ := hok
  exact insertCard_follows h rfl rfl hok cardId'

theorem createCard_follows (h : Consistent db) {userId : UserId} {name : String}
    {values : CardValues Config} {assets : Except Failure Unit}
    (hok : createCard db userId name values assets cardId = .ok db') (cardId' : CardId) :
    Follows validate db a (db.record cardId') (db'.record cardId') := by
  simp only [createCard, bind_ok] at hok
  obtain ⟨-, -, artistId, -, hok⟩ := hok
  exact insertCard_follows h rfl rfl hok cardId'

theorem submitAdminCardReview_follows {note : Option String} {requestId : ReviewRequestId}
    (hok : submitAdminCardReview db cardId note requestId = .ok db') (cardId' : CardId) :
    Follows validate db a (db.record cardId') (db'.record cardId') := by
  simp only [submitAdminCardReview, bind_ok, orFail_ok, ensure_ok, exists_const] at hok
  obtain ⟨card, hcard, hstatus, hrelease, hok⟩ := hok
  exact submit_follows hcard hstatus hrelease hok cardId'

theorem submitReview_follows {userId : UserId} {note : Option String}
    {assets : Except Failure Unit} {requestId : ReviewRequestId}
    (hok : submitReview db userId cardId note assets requestId = .ok db') (cardId' : CardId) :
    Follows validate db a (db.record cardId') (db'.record cardId') := by
  simp only [submitReview, bind_ok, ensure_ok, exists_const] at hok
  obtain ⟨card, howned, hstatus, hrelease, -, -, hok⟩ := hok
  exact submit_follows (ownedCard_ok howned) (.inl hstatus) hrelease hok cardId'

theorem attempt_follows (h : Consistent db) (hok : attempt validate db a = .ok db')
    (cardId : CardId) : Follows validate db a (db.record cardId) (db'.record cardId) := by
  cases a with
  | createAdminCard name values assets newId => exact createAdminCard_follows h hok cardId
  | updateAdminCard cardId' values assets => exact updateAdminCard_follows hok cardId
  | deleteAdminCard cardId' => exact deleteAdminCard_follows hok cardId
  | createCard userId name values assets newId => exact createCard_follows h hok cardId
  | updateCard userId cardId' values assets => exact updateCard_follows hok cardId
  | submitAdminCardReview cardId' note requestId => exact submitAdminCardReview_follows hok cardId
  | submitReview userId cardId' note assets requestId => exact submitReview_follows hok cardId
  | reviewCard cardId' decision =>
    exact reviewCard_follows (fun happrove => .inl (by rw [happrove])) hok cardId
  | approveCard cardId' =>
    have happrove : reviewCard db cardId' .approve = .ok db' := hok
    exact reviewCard_follows (fun _ => .inr rfl) happrove cardId
  | decidePartnerReview cardId' payload requestId => exact decidePartnerReview_follows h hok cardId
  | decidePlatformReview cardId' payload => exact decidePlatformReview_follows h hok cardId
  | publish cardId' => exact publish_follows hok cardId
  | createDrop payload dropId =>
    simp only [attempt, createDrop, bind_ok, ensure_ok, exists_const, pure_ok] at hok
    obtain ⟨-, -, rfl⟩ := hok
    exact .same _
  | submitDrop dropId =>
    simp only [attempt, submitDrop, bind_ok, orFail_ok, ensure_ok, exists_const, pure_ok] at hok
    obtain ⟨drop, -, -, rfl⟩ := hok
    exact .same _
  | linkCardToDrop dropId cardId' => exact linkCardToDrop_follows hok cardId
  | updateDropStatus dropId payload => exact updateDropStatus_follows hok cardId
  | createCardPack payload packId draw =>
    simp only [attempt, createCardPack, bind_ok, ensure_ok, exists_const, pure_ok] at hok
    obtain ⟨-, -, -, -, -, -, -, rfl⟩ := hok
    exact .same _
  | updateCardPack packId payload draw =>
    simp only [attempt, updateCardPack, bind_ok, orFail_ok, ensure_ok, exists_const, pure_ok] at hok
    obtain ⟨pack, -, -, -, -, -, -, -, -, rfl⟩ := hok
    exact .same _
  | publishCardPack packId =>
    simp only [attempt, publishCardPack, bind_ok, pure_ok] at hok
    obtain ⟨pack, -, -, -, -, -, rfl⟩ := hok
    exact .same _
  | createEffectVersion userId cardId' designConfig assets versionId =>
    exact createEffectVersion_follows hok cardId
  | updateEffectVersion userId cardId' versionId designConfig assets =>
    exact updateEffectVersion_follows h hok cardId
  | submitEffectVersionReview userId cardId' versionId =>
    exact submitEffectVersionReview_follows h hok cardId
  | approveEffectVersion cardId' versionId => exact decideEffectVersion_follows h hok cardId
  | reviewEffectVersion cardId' versionId approve => exact decideEffectVersion_follows h hok cardId

theorem step_follows (h : Consistent db) (cardId : CardId) :
    Follows validate db a (db.record cardId) ((step validate db a).record cardId) := by
  unfold step
  split
  · rename_i hok
    exact attempt_follows h hok cardId
  · exact .same _

section

omit [Inhabited Config]

theorem Consistent.patchCards (h : Consistent db) {p : ReleaseCard Config → Bool}
    {change : ReleaseCard Config → ReleaseCard Config} (hid : ∀ row, (change row).id = row.id) :
    Consistent { db with cards := patch p change db.cards } := by
  have hids : (patch p change db.cards).map (·.id) = db.cards.map (·.id) := map_patch hid _
  constructor
  · exact hids ▸ h.cardIds
  · exact h.requestIds
  · exact h.effectIds
  · exact h.packIds
  · exact hids ▸ h.requests
  · exact hids ▸ h.effects
  · exact hids ▸ h.links

theorem Consistent.recordReviewDecision (h : Consistent db) (request : CardReviewRequest Config)
    (decision : ReviewDecision) : Consistent (recordReviewDecision db request decision) := by
  refine { h with requestIds := ?_, requests := ?_ }
  · rw [Fanfolio.recordReviewDecision, map_patch (by intro _; rfl)]
    exact h.requestIds
  · intro row hrow
    obtain ⟨row', hmem, rfl⟩ := mem_patch.mp hrow
    split
    · exact h.requests row' hmem
    · exact h.requests row' hmem

theorem Consistent.modifyEffect (h : Consistent db) {versionId : EffectVersionId}
    {change : CardEffectVersion Config → CardEffectVersion Config}
    (hid : ∀ row, (change row).id = row.id) (hcard : ∀ row, (change row).cardId = row.cardId) :
    Consistent (db.modifyEffect versionId change) := by
  refine { h with effectIds := ?_, effects := ?_ }
  · rw [ReleaseDb.modifyEffect, map_patch hid]
    exact h.effectIds
  · intro row hrow
    obtain ⟨row', hmem, rfl⟩ := mem_patch.mp hrow
    split
    · rw [hcard]
      exact h.effects row' hmem
    · exact h.effects row' hmem

theorem Consistent.insertCard (h : Consistent db) (hok : db.insertCard card = .ok db') :
    Consistent db' := by
  simp only [ReleaseDb.insertCard, bind_ok, ensure_ok, exists_const, pure_ok] at hok
  obtain ⟨hfresh, rfl⟩ := hok
  have hkept : ∀ id ∈ db.cards.map (·.id), id ∈ (db.cards ++ [card]).map (·.id) := by
    intro id hid
    rw [List.map_append]
    exact List.mem_append_left _ hid
  refine { h with
    cardIds := nodup_insert h.cardIds hfresh, requests := ?_, effects := ?_, links := ?_ }
  · exact fun row hrow => hkept _ (h.requests row hrow)
  · exact fun row hrow => hkept _ (h.effects row hrow)
  · exact fun row hrow => hkept _ (h.links row hrow)

end

theorem Consistent.createReviewRequest (h : Consistent db) {stage : ReviewStage}
    {requestId : ReviewRequestId} (hcard : card.id ∈ db.cards.map (·.id))
    (hok : createReviewRequest db card stage requestId = .ok db') : Consistent db' := by
  obtain ⟨hfresh, rfl⟩ := createReviewRequest_ok hok
  refine { h with requestIds := nodup_insert h.requestIds hfresh, requests := ?_ }
  intro row hrow
  rcases List.mem_append.mp hrow with hrow | hrow
  · exact h.requests row hrow
  · rw [List.mem_singleton.mp hrow]
    exact hcard

theorem Consistent.submitted (h : Consistent db) {note : Option String}
    {requestId : ReviewRequestId} (hcard : db.findCard cardId = some card)
    (hok : submitCardForReleaseReview (db.modifyCard card.id ({ · with reviewNote := note }))
      { card with reviewNote := note } requestId = .ok db') : Consistent db' := by
  have hnoted : Consistent (db.modifyCard card.id ({ · with reviewNote := note })) :=
    h.patchCards (by intro _; rfl)
  refine Consistent.createReviewRequest (hnoted.patchCards (by intro _; rfl)) ?_ hok
  have hmem : card.id ∈ db.cards.map (·.id) :=
    List.mem_map_of_mem (mem_of_find_eq_some (g := fun row : ReleaseCard Config => row.id) hcard).1
  rw [ReleaseDb.modifyCard, map_patch (by intro _; rfl), map_patch (by intro _; rfl)]
  exact hmem

omit [Inhabited Config] in
theorem Consistent.deleteAdminCard (h : Consistent db)
    (hok : deleteAdminCard db cardId = .ok db') : Consistent db' := by
  simp only [Release.deleteAdminCard, bind_ok, orFail_ok, ensure_ok, exists_const, pure_ok] at hok
  obtain ⟨card, -, -, hlinks, rfl⟩ := hok
  have hkept {id : CardId} (hne : id ≠ card.id) (hmem : id ∈ db.cards.map (·.id)) :
      id ∈ (db.cards.filter (·.id != card.id)).map (·.id) := by
    obtain ⟨row, hrow, rfl⟩ := List.mem_map.mp hmem
    exact List.mem_map_of_mem (List.mem_filter.mpr ⟨hrow, by simpa using hne⟩)
  constructor
  · exact nodup_delete _ h.cardIds
  · exact nodup_delete _ h.requestIds
  · exact nodup_delete _ h.effectIds
  · exact h.packIds
  · intro row hrow
    obtain ⟨hmem, hne⟩ := List.mem_filter.mp hrow
    exact hkept (by simpa using hne) (h.requests row hmem)
  · intro row hrow
    obtain ⟨hmem, hne⟩ := List.mem_filter.mp hrow
    exact hkept (by simpa using hne) (h.effects row hmem)
  · intro row hrow
    exact hkept (hlinks row hrow) (h.links row hrow)

omit [Inhabited Config] in
/-- A pack is only made of cards that exist. -/
theorem validateCardPackInput_found (h : Consistent db) {payload : CardPackCreate} {u : Unit}
    (hok : validateCardPackInput db payload = .ok u) {packId : PackId} {draw : CardId → String} :
    ∀ link ∈ payload.links packId draw, link.cardId ∈ db.cards.map (·.id) := by
  simp only [validateCardPackInput, bind_ok, ensure_ok, exists_const] at hok
  obtain ⟨hnodup, -, hlength, -⟩ := hok
  let rows := db.cards.filter fun row => row.id ∈ payload.cards.map (·.cardId)
  have hsubset : rows.map (·.id) ⊆ payload.cards.map (·.cardId) := by
    intro id hid
    obtain ⟨row, hrow, rfl⟩ := List.mem_map.mp hid
    simpa using (List.mem_filter.mp hrow).2
  have hperm : (rows.map (·.id)).Perm (payload.cards.map (·.cardId)) := by
    refine (List.subperm_of_subset (nodup_delete _ h.cardIds) hsubset).perm_of_length_le ?_
    rw [List.length_map, List.length_map]
    exact hlength.ge
  intro link hlink
  obtain ⟨item, hitem, rfl⟩ := List.mem_map.mp hlink
  obtain ⟨row, hrow, hid⟩ := List.mem_map.mp (hperm.mem_iff.mpr (List.mem_map_of_mem hitem))
  rw [← hid]
  exact List.mem_map_of_mem (List.mem_filter.mp hrow).1

omit [Inhabited Config] in
theorem Consistent.createCardPack (h : Consistent db) {payload : CardPackCreate} {packId : PackId}
    {draw : CardId → String} (hok : createCardPack db payload packId draw = .ok db') :
    Consistent db' := by
  simp only [Release.createCardPack, bind_ok, ensure_ok, exists_const, pure_ok] at hok
  obtain ⟨u, hvalid, -, -, -, hfresh, -, rfl⟩ := hok
  refine { h with packIds := nodup_insert h.packIds hfresh, links := ?_ }
  intro link hlink
  rcases List.mem_append.mp hlink with hlink | hlink
  · exact h.links link hlink
  · exact validateCardPackInput_found h hvalid link hlink

omit [Inhabited Config] in
theorem Consistent.updateCardPack (h : Consistent db) {payload : CardPackCreate} {packId : PackId}
    {draw : CardId → String} (hok : updateCardPack db packId payload draw = .ok db') :
    Consistent db' := by
  simp only [Release.updateCardPack, bind_ok, orFail_ok, ensure_ok, exists_const, pure_ok] at hok
  obtain ⟨pack, -, -, u, hvalid, -, -, -, -, rfl⟩ := hok
  refine { h with packIds := ?_, links := ?_ }
  · rw [map_patch (by intro _; rfl)]
    exact h.packIds
  · intro link hlink
    rcases List.mem_append.mp hlink with hlink | hlink
    · exact h.links link (List.mem_filter.mp hlink).1
    · exact validateCardPackInput_found h hvalid link hlink

theorem Consistent.decidePartnerReview (h : Consistent db) {payload : ReleaseDecision}
    {requestId : ReviewRequestId}
    (hok : decidePartnerReview db cardId payload requestId = .ok db') : Consistent db' := by
  simp only [Release.decidePartnerReview, bind_ok, orFail_ok, ensure_ok, exists_const] at hok
  obtain ⟨-, -, card, hcard, -, request, -, hok⟩ := hok
  have hrecorded := h.recordReviewDecision request payload.decision
  split at hok
  · obtain rfl := pure_ok.mp hok
    exact hrecorded.patchCards (by intro _; rfl)
  · split at hok
    · refine Consistent.createReviewRequest (hrecorded.patchCards (by intro _; rfl)) ?_ hok
      have hmem : card.id ∈ db.cards.map (·.id) := List.mem_map_of_mem
        (mem_of_find_eq_some (g := fun row : ReleaseCard Config => row.id) hcard).1
      rw [map_patch (by intro _; rfl)]
      exact hmem
    · obtain rfl := pure_ok.mp hok
      exact hrecorded.patchCards (by intro _; rfl)

omit [Inhabited Config] in
theorem Consistent.decidePlatformReview (h : Consistent db) {payload : ReleaseDecision}
    (hok : decidePlatformReview db cardId payload = .ok db') : Consistent db' := by
  simp only [Release.decidePlatformReview, bind_ok, orFail_ok, ensure_ok, exists_const] at hok
  obtain ⟨-, -, card, -, -, request, -, hok⟩ := hok
  have hrecorded := h.recordReviewDecision request payload.decision
  split at hok
  · obtain rfl := pure_ok.mp hok
    exact hrecorded.patchCards (by intro _; rfl)
  · obtain rfl := pure_ok.mp hok
    exact hrecorded.patchCards (by intro _; rfl)

omit [Inhabited Config] in
theorem Consistent.updateEffectVersion (h : Consistent db) {userId : UserId}
    {versionId : EffectVersionId} {designConfig : Option Config} {assets : Except Failure Unit}
    (hok : updateEffectVersion validate db userId cardId versionId designConfig assets = .ok db') :
    Consistent db' := by
  simp only [Release.updateEffectVersion, bind_ok, ensure_ok, exists_const] at hok
  obtain ⟨card, -, -, -, version, -, -, hok⟩ := hok
  cases designConfig with
  | some designConfig =>
    simp only [bind_ok, pure_ok] at hok
    obtain ⟨config, -, -, -, rfl⟩ := hok
    exact h.modifyEffect (by intro _; rfl) (by intro _; rfl)
  | none =>
    obtain rfl := pure_ok.mp hok
    exact h.modifyEffect (by intro _; rfl) (by intro _; rfl)

omit [Inhabited Config] in
theorem Consistent.createEffectVersion (h : Consistent db) {userId : UserId}
    {designConfig : Config} {assets : Except Failure Unit} {versionId : EffectVersionId}
    (hok : createEffectVersion validate db userId cardId designConfig assets versionId = .ok db') :
    Consistent db' := by
  simp only [Release.createEffectVersion, bind_ok, ensure_ok, exists_const, pure_ok] at hok
  obtain ⟨card, howned, -, -, config, -, -, -, hfresh, rfl⟩ := hok
  refine { h with effectIds := nodup_insert h.effectIds hfresh, effects := ?_ }
  intro row hrow
  rcases List.mem_append.mp hrow with hrow | hrow
  · exact h.effects row hrow
  · rw [List.mem_singleton.mp hrow]
    exact List.mem_map_of_mem
      (mem_of_find_eq_some (g := fun row : ReleaseCard Config => row.id) (ownedCard_ok howned)).1

omit [Inhabited Config] in
theorem Consistent.decideEffectVersion (h : Consistent db) {versionId : EffectVersionId}
    {approve : Bool} {message : String}
    (hok : decideEffectVersion validate db cardId versionId approve message = .ok db') :
    Consistent db' := by
  simp only [Release.decideEffectVersion, bind_ok, orFail_ok, ensure_ok, exists_const] at hok
  obtain ⟨card, -, version, -, -, hok⟩ := hok
  split at hok
  · simp only [bind_ok, pure_ok] at hok
    obtain ⟨config, -, rfl⟩ := hok
    exact (h.modifyEffect (by intro _; rfl) (by intro _; rfl)).patchCards (by intro _; rfl)
  · obtain rfl := pure_ok.mp hok
    exact h.modifyEffect (by intro _; rfl) (by intro _; rfl)

theorem Consistent.attempt (h : Consistent db) (hok : attempt validate db a = .ok db') :
    Consistent db' := by
  cases a with
  | createAdminCard name values assets cardId =>
    simp only [Release.attempt, createAdminCard, bind_ok] at hok
    obtain ⟨-, -, resolved, -, hok⟩ := hok
    exact h.insertCard hok
  | updateAdminCard cardId values assets =>
    simp only [Release.attempt, updateAdminCard, bind_ok, pure_ok] at hok
    obtain ⟨card, -, -, -, -, -, resolved, -, rfl⟩ := hok
    exact h.patchCards (by intro _; rfl)
  | deleteAdminCard cardId => exact h.deleteAdminCard hok
  | createCard userId name values assets cardId =>
    simp only [Release.attempt, createCard, bind_ok] at hok
    obtain ⟨-, -, artistId, -, hok⟩ := hok
    exact h.insertCard hok
  | updateCard userId cardId values assets =>
    simp only [Release.attempt, updateCard, bind_ok, pure_ok] at hok
    obtain ⟨card, -, -, -, -, -, resolved, -, rfl⟩ := hok
    refine h.patchCards fun row => ?_
    unfold ReleaseCard.backToDraft
    split <;> rfl
  | submitAdminCardReview cardId note requestId =>
    simp only [Release.attempt, submitAdminCardReview, bind_ok, orFail_ok] at hok
    obtain ⟨card, hcard, -, -, -, -, hok⟩ := hok
    exact h.submitted hcard hok
  | submitReview userId cardId note assets requestId =>
    simp only [Release.attempt, submitReview, bind_ok] at hok
    obtain ⟨card, howned, -, -, -, -, -, -, hok⟩ := hok
    exact h.submitted (ownedCard_ok howned) hok
  | reviewCard cardId decision =>
    simp only [Release.attempt, reviewCard, bind_ok, pure_ok] at hok
    obtain ⟨card, -, -, -, rfl⟩ := hok
    exact h.patchCards (by intro _; rfl)
  | approveCard cardId =>
    simp only [Release.attempt, approveCard, reviewCard, bind_ok, pure_ok] at hok
    obtain ⟨card, -, -, -, rfl⟩ := hok
    exact h.patchCards (by intro _; rfl)
  | decidePartnerReview cardId payload requestId => exact h.decidePartnerReview hok
  | decidePlatformReview cardId payload => exact h.decidePlatformReview hok
  | publish cardId =>
    simp only [Release.attempt, publish, bind_ok, pure_ok] at hok
    obtain ⟨card, -, -, -, -, -, -, -, rfl⟩ := hok
    exact h.patchCards (by intro _; rfl)
  | createDrop payload dropId =>
    simp only [Release.attempt, createDrop, bind_ok, pure_ok] at hok
    obtain ⟨-, -, -, -, rfl⟩ := hok
    exact { h with }
  | submitDrop dropId =>
    simp only [Release.attempt, submitDrop, bind_ok, pure_ok] at hok
    obtain ⟨drop, -, -, -, rfl⟩ := hok
    exact { h with }
  | linkCardToDrop dropId cardId =>
    simp only [Release.attempt, linkCardToDrop, bind_ok, pure_ok] at hok
    obtain ⟨drop, -, card, -, -, -, -, -, rfl⟩ := hok
    exact h.patchCards (by intro _; rfl)
  | updateDropStatus dropId payload =>
    simp only [Release.attempt, updateDropStatus, bind_ok] at hok
    obtain ⟨drop, -, hok⟩ := hok
    split at hok
    · obtain rfl := pure_ok.mp hok
      have hstarted : Consistent { db with
          cards := patch (fun row => row.dropId == some drop.id && row.releaseStatus == .dropReady)
            (·.started) db.cards } := h.patchCards (by intro _; rfl)
      exact { hstarted with }
    · obtain rfl := pure_ok.mp hok
      exact { h with }
  | createCardPack payload packId draw => exact h.createCardPack hok
  | updateCardPack packId payload draw => exact h.updateCardPack hok
  | publishCardPack packId =>
    simp only [Release.attempt, publishCardPack, bind_ok, pure_ok] at hok
    obtain ⟨pack, -, -, -, -, -, rfl⟩ := hok
    refine { h with packIds := ?_ }
    rw [map_patch (by intro _; rfl)]
    exact h.packIds
  | createEffectVersion userId cardId designConfig assets versionId =>
    exact h.createEffectVersion hok
  | updateEffectVersion userId cardId versionId designConfig assets =>
    exact h.updateEffectVersion hok
  | submitEffectVersionReview userId cardId versionId =>
    simp only [Release.attempt, submitEffectVersionReview, bind_ok, pure_ok] at hok
    obtain ⟨card, -, -, -, version, -, -, -, rfl⟩ := hok
    exact h.modifyEffect (by intro _; rfl) (by intro _; rfl)
  | approveEffectVersion cardId versionId => exact h.decideEffectVersion hok
  | reviewEffectVersion cardId versionId approve => exact h.decideEffectVersion hok

theorem Consistent.step (h : Consistent db) (a : ReleaseAction Config) :
    Consistent (step validate db a) := by
  unfold Release.step
  split
  · rename_i hok
    exact h.attempt hok
  · exact h

omit [Inhabited Config] in
theorem consistent_start (artists : List ArtistId) (members : List Member) :
    Consistent (start artists members : ReleaseDb Config) := by
  constructor <;> simp [start]

end Release

end

end Fanfolio
