import Fanfolio.Cards.CombinationSteps
import Fanfolio.Cards.Notices
import Fanfolio.Cards.PrintedCodes
import Mathlib.Data.List.Dedup

/-!
# The preview of a combination

A fan can ask whether some copies can be combined. The preview compares the copies it finds with
the set of the identifiers it was given, the combination with their list.
-/

namespace Fanfolio

open Framework

/-- An entry of `_odds`. -/
structure PublicOdds where
  cardId : CardId
  name : String
  rarity : Option String
  probability : ℚ
deriving DecidableEq

/-- The answer of `preview_card_combination`. -/
structure CombinationPreview where
  recipeId : RecipeId
  packId : PackId
  requiredQuantity : Nat
  consumableUserCardIds : List UserCardId
  outputRarityPool : List String
  probabilityVersion : String
  publicOdds : List PublicOdds

/-- `_odds`. -/
def odds (recipe : CardCombinationRecipe) (cards : List Card) : List PublicOdds :=
  recipe.probabilitySnapshot.filterMap fun (cardId, probability) =>
    (cards.find? (·.id == cardId)).map fun card =>
      { cardId := cardId, name := card.name, rarity := card.rarity, probability := probability }

def quantityInvalid : Failure :=
  .app ⟨422, "CARD_COMBINATION_QUANTITY_INVALID", "조합 재료 수량이 맞지 않습니다."⟩

def scopeMismatch : Failure :=
  .app ⟨422, "CARD_COMBINATION_SCOPE_MISMATCH", "같은 카드팩의 카드만 조합할 수 있습니다."⟩

def materialUnavailable : Failure :=
  .app ⟨409, "CARD_COMBINATION_MATERIAL_UNAVAILABLE", "이미 사용한 카드가 포함되어 있습니다."⟩

section Previews

variable {Digest : Type}

/-- The copies of the fan among the materials of a request. -/
def CardDb.ownMaterials (db : CardDb Digest) (userId : UserId) (request : CardCombinationRequest) :
    List UserCard :=
  db.userCards.filter fun row => row.id ∈ request.materialUserCardIds ∧ row.userId = userId

/-- `preview_card_combination`. -/
def previewCardCombination (db : CardDb Digest) (userId : UserId)
    (request : CardCombinationRequest) : Except Failure CombinationPreview := do
  let context ← recipeContext db request.recipeId
  ensure (request.materialUserCardIds.length = context.recipe.inputQuantity) quantityInvalid
  ensure ((db.ownMaterials userId request).length = request.materialUserCardIds.dedup.length ∧
      ∀ item ∈ db.ownMaterials userId request, ∃ link ∈ context.links, link.cardId = item.cardId)
    scopeMismatch
  ensure (∀ row ∈ db.materials, row.userCardId ∉ request.materialUserCardIds) materialUnavailable
  return { recipeId := context.recipe.id, packId := context.pack.id
           requiredQuantity := context.recipe.inputQuantity
           consumableUserCardIds := request.materialUserCardIds
           outputRarityPool := context.recipe.outputRarityPool
           probabilityVersion := context.recipe.probabilityVersion
           publicOdds := odds context.recipe context.cards }

def combinationKey (combinationId : CombinationId) : String := "combination:" ++ combinationId

/-- The notifications of a combination: the followers hear of a new copy, the fan in any case. -/
def combinationNotices (db after : CardDb Digest) (notices : NoticeDb) (combination : CardCombination) :
    List NoticeRequest :=
  match combination.resultUserCardId.bind after.findUserCard,
      after.findCard combination.resultCardId with
  | some userCard, some card =>
    (if db.grantedCard combination.userId "card_combination" combination.id = none then
      notices.followerRequests db.blocks userCard card else []) ++
    [{ userId := combination.userId, kind := "card_combined", title := "카드 조합이 완료됐어요"
       body := card.name ++ " 카드를 새로 획득했습니다."
       entityType := "user_card", entityId := userCard.id
       eventKey := combinationKey combination.id }]
  | _, _ => []

variable [RecordHash Digest]

/-- `combine_cards` with the notifications of its transaction. -/
def combineNotified (s : NotifiedDb Digest) (userId : UserId) (request : CardCombinationRequest)
    (idempotencyKey : Option String) (order : List UserCard) (draws : CombineDraws)
    (draw : NoticeRequest → NoticeDraws) (now : Time) :
    Except Failure (NotifiedDb Digest × CardCombination) := do
  let (after, combination) ← combineCards s.1 userId request idempotencyKey order draws now
  let notices ←
    match s.1.findCombination userId idempotencyKey with
    | some _ => Except.ok s.2
    | none => s.2.notifyAll (combinationNotices s.1 after s.2 combination) draw
  return ((after, notices), combination)

/-- Everything that a combination draws is new. -/
structure FreshCombination (s : NotifiedDb Digest) (userId : UserId)
    (request : CardCombinationRequest) (order : List UserCard) (draws : CombineDraws)
    (draw : NoticeRequest → NoticeDraws) (now : Time) : Prop where
  combination : ∀ row ∈ s.1.combinations, row.id ≠ draws.combinationId
  sources : ∀ row ∈ s.1.ledger, row.sourceId ≠ draws.combinationId ∧
    ∀ userCardId ∈ request.materialUserCardIds,
      row.sourceId ≠ draws.combinationId ++ ":" ++ userCardId
  copy : ∀ row ∈ s.1.userCards, row.id ≠ draws.grant.userCardId
  consumed : ∀ row ∈ s.1.ledger, ∀ userCardId ∈ request.materialUserCardIds,
    row.id ≠ draws.consumeLedgerId userCardId
  distinct : ∀ userCardId ∈ request.materialUserCardIds, ∀ userCardId' ∈
    request.materialUserCardIds, draws.consumeLedgerId userCardId = draws.consumeLedgerId userCardId' →
      userCardId = userCardId'
  granted : ∀ row ∈ s.1.ledger, row.id ≠ draws.grant.ledgerId
  grantApart : ∀ userCardId ∈ request.materialUserCardIds,
    draws.consumeLedgerId userCardId ≠ draws.grant.ledgerId
  event : ∀ event ∈ s.1.events, event.id ≠ draws.eventId
  notices : ∀ after combination, combineCards s.1 userId request none order draws now =
    .ok (after, combination) →
      s.2.FreshNotices draw (combinationNotices s.1 after s.2 combination)

/-- Preview and combination accept the same request, and refuse it with the same code. -/
structure CombinePreviewAgrees (s : NotifiedDb Digest) (userId : UserId)
    (request : CardCombinationRequest) (order : List UserCard) (draws : CombineDraws)
    (draw : NoticeRequest → NoticeDraws) (now : Time) : Prop where
  accepts : (∃ preview, previewCardCombination s.1 userId request = .ok preview) ↔
    ∃ result, combineNotified s userId request none order draws draw now = .ok result
  refuses : ∀ e e', previewCardCombination s.1 userId request = .error e →
    combineNotified s userId request none order draws draw now = .error e' → e.code = e'.code

omit [RecordHash Digest] in
/-- Every material is a copy of the fan from the pack, and none was consumed. -/
structure MaterialsUsable (db : CardDb Digest) (userId : UserId) (request : CardCombinationRequest)
    (context : RecipeContext) : Prop where
  own : (db.ownMaterials userId request).length = request.materialUserCardIds.length
  linked : ∀ item ∈ db.ownMaterials userId request, ∃ link ∈ context.links,
    link.cardId = item.cardId
  unused : ∀ row ∈ db.materials, row.userCardId ∉ request.materialUserCardIds

omit [RecordHash Digest] in
/-- The random choice falls on a published card that the pack still holds. -/
def ResultAvailable (db : CardDb Digest) (context : RecipeContext) (target : ℚ) : Prop :=
  ∃ card, weightedChoice context.recipe.probabilitySnapshot target = some card.id ∧
    db.findCard card.id = some card ∧ card.status = .published ∧
    ∃ link ∈ context.links, link.cardId = card.id

omit [RecordHash Digest] in
/-- The fan and the followers of the fan can be notified of the new copy. -/
structure CombinationRecipientsFit (s : NotifiedDb Digest) (userId : UserId)
    (draws : CombineDraws) : Prop where
  fan : s.2.isNotified userId (combinationKey draws.combinationId) = true ∨ s.2.AddressesFit userId
  followers : s.2.FollowersFit s.1.blocks userId draws.grant.userCardId

variable {db db' : CardDb Digest} {s : NotifiedDb Digest} {userId : UserId}
  {request : CardCombinationRequest} {order : List UserCard} {draws : CombineDraws}
  {draw : NoticeRequest → NoticeDraws} {now : Time} {context : RecipeContext}

omit [RecordHash Digest] in
theorem previewCardCombination_ok :
    (∃ preview, previewCardCombination db userId request = .ok preview) ↔
      ∃ context, recipeContext db request.recipeId = .ok context ∧
        request.materialUserCardIds.length = context.recipe.inputQuantity ∧
        ((db.ownMaterials userId request).length = request.materialUserCardIds.dedup.length ∧
          ∀ item ∈ db.ownMaterials userId request, ∃ link ∈ context.links,
            link.cardId = item.cardId) ∧
        ∀ row ∈ db.materials, row.userCardId ∉ request.materialUserCardIds := by
  simp only [previewCardCombination, bind_ok, ensure_ok, exists_const, pure_ok]
  constructor
  · rintro ⟨_, context, hcontext, hquantity, hscope, hunused, -⟩
    exact ⟨context, hcontext, hquantity, hscope, hunused⟩
  · rintro ⟨context, hcontext, hquantity, hscope, hunused⟩
    exact ⟨_, context, hcontext, hquantity, hscope, hunused, rfl⟩

omit [RecordHash Digest] in
/-- The checks of the combination on its materials. -/
theorem combineMaterials_usable {materials : List UserCard} :
    combineMaterials db userId request context order = .ok materials ↔
      request.materialUserCardIds.length = context.recipe.inputQuantity ∧
      request.materialUserCardIds.Nodup ∧ MaterialsUsable db userId request context ∧
      materials = scan order (db.ownMaterials userId request) := by
  have hperm := scan_perm order (db.ownMaterials userId request)
  simp only [combineMaterials, bind_ok, ensure_ok, exists_const, pure_ok]
  constructor
  · rintro ⟨hquantity, hnodup, ⟨hown, hlinked⟩, hunused, rfl⟩
    exact ⟨hquantity, hnodup, ⟨hperm.length_eq.symm.trans hown,
      fun item hitem => hlinked item (hperm.mem_iff.mpr hitem), hunused⟩, rfl⟩
  · rintro ⟨hquantity, hnodup, ⟨hown, hlinked, hunused⟩, rfl⟩
    exact ⟨hquantity, hnodup, ⟨hperm.length_eq.trans hown,
      fun item hitem => hlinked item (hperm.mem_iff.mp hitem)⟩, hunused, rfl⟩

/-- Materials are consumed if their ledger events are new. -/
theorem consumeMaterials_succeeds {combinationId : CombinationId} {recipeId : RecipeId}
    {drawId : UserCardId → LedgerId} {materials : List UserCard}
    (hids : (materials.map (·.id)).Nodup)
    (hdistinct : ∀ a ∈ materials, ∀ b ∈ materials, drawId a.id = drawId b.id → a.id = b.id)
    (hrecords : ∀ row ∈ db.ledger, ∀ material ∈ materials, row.id ≠ drawId material.id)
    (hsources : ∀ row ∈ db.ledger, ∀ material ∈ materials,
      row.sourceId ≠ combinationId ++ ":" ++ material.id) :
    ∃ consumed rows, consumeMaterials combinationId recipeId userId drawId now db materials =
        .ok { db with materials := consumed, ledger := db.ledger ++ rows } ∧
      ∀ row ∈ rows, row.action = "consume" ∧ ∃ material ∈ materials, row.id = drawId material.id := by
  induction materials generalizing db with
  | nil => exact ⟨db.materials, [], by simp [consumeMaterials], by simp⟩
  | cons material materials ih =>
    obtain ⟨hnew, hids⟩ := List.nodup_cons.mp hids
    have hother : ∀ later ∈ materials, later.id ≠ material.id := by
      intro later hlater heq
      exact hnew (List.mem_map.mpr ⟨later, hlater, heq⟩)
    let reserved : CardDb Digest := { db with materials := db.materials ++
      [{ combinationId := combinationId, userCardId := material.id, cardId := material.cardId }] }
    let row := ownershipRow reserved.ledger (consumeEvent combinationId recipeId userId material)
      (drawId material.id) now
    have hevent : ∀ row' ∈ reserved.ledger, row.sameEvent row' = false := by
      intro row' hrow'
      have hsource : row.sourceId ≠ row'.sourceId :=
        (hsources row' hrow' material List.mem_cons_self).symm
      simp [CardOwnershipLedger.sameEvent, hsource]
    have happend : reserved.appendLedger (consumeEvent combinationId recipeId userId material)
        (drawId material.id) now = .ok { reserved with ledger := reserved.ledger ++ [row] } :=
      appendLedger_ok.mpr ⟨fun row' hrow' => hrecords row' hrow' material List.mem_cons_self, hevent,
        rfl⟩
    obtain ⟨consumed, rows, hrest, hrows⟩ :
        ∃ consumed rows, consumeMaterials combinationId recipeId userId drawId now
          { reserved with ledger := reserved.ledger ++ [row] } materials =
            .ok { reserved with
              materials := consumed, ledger := (reserved.ledger ++ [row]) ++ rows } ∧
          ∀ row ∈ rows, row.action = "consume" ∧
            ∃ material ∈ materials, row.id = drawId material.id := by
      refine ih hids (fun a ha b hb =>
        hdistinct a (List.mem_cons_of_mem _ ha) b (List.mem_cons_of_mem _ hb)) ?_ ?_
      · intro row' hrow' later hlater
        rcases List.mem_append.mp hrow' with hold | hlast
        · exact hrecords row' hold later (List.mem_cons_of_mem _ hlater)
        · rw [List.mem_singleton.mp hlast]
          exact fun heq => hother later hlater (hdistinct material List.mem_cons_self later
            (List.mem_cons_of_mem _ hlater) heq).symm
      · intro row' hrow' later hlater
        rcases List.mem_append.mp hrow' with hold | hlast
        · exact hsources row' hold later (List.mem_cons_of_mem _ hlater)
        · rw [List.mem_singleton.mp hlast]
          intro heq
          refine hother later hlater (String.toList_inj.mp ?_)
          have hlist := congrArg String.toList heq
          simpa [row, ownershipRow, consumeEvent] using hlist.symm
    refine ⟨consumed, row :: rows, ?_, List.forall_mem_cons.mpr ⟨⟨rfl, material,
      List.mem_cons_self, rfl⟩, fun row' hrow' => ?_⟩⟩
    · rw [consumeMaterials, bind_ok]
      refine ⟨_, happend, ?_⟩
      rw [hrest, List.append_assoc]
      rfl
    · obtain ⟨haction, later, hlater, hid⟩ := hrows row' hrow'
      exact ⟨haction, later, List.mem_cons_of_mem _ hlater, hid⟩

omit [RecordHash Digest] in
theorem ownMaterials_nodup (h : (db.userCards.map (·.id)).Nodup) :
    ((scan order (db.ownMaterials userId request)).map (·.id)).Nodup :=
  ((scan_perm order _).map _).nodup_iff.mpr (h.sublist (List.filter_sublist.map _))

omit [RecordHash Digest] in
theorem mem_ownMaterials {row : UserCard} (h : row ∈ scan order (db.ownMaterials userId request)) :
    row.id ∈ request.materialUserCardIds := by
  have hmem := (scan_perm order _).mem_iff.mp h
  simp only [CardDb.ownMaterials, List.mem_filter, decide_eq_true_eq] at hmem
  exact hmem.2.1

omit [RecordHash Digest] in
/-- The cards of a context are those that its links name. -/
theorem mem_context_cards {cardId : CardId}
    (h : recipeContext db request.recipeId = .ok context) :
    (∃ card ∈ context.cards, card.id = cardId) ↔
      (∃ card, db.findCard cardId = some card) ∧ ∃ link ∈ context.links, link.cardId = cardId := by
  simp only [recipeContext, bind_ok, orFail_ok, ensure_ok, exists_const, pure_ok] at h
  obtain ⟨recipe, -, -, -, pack, -, -, rfl⟩ := h
  simp only [CardDb.linkedCards, List.mem_filter, List.any_eq_true, beq_iff_eq]
  constructor
  · rintro ⟨card, ⟨hcard, link, hlink, hid⟩, rfl⟩
    refine ⟨?_, link, hlink, hid⟩
    cases hfind : db.findCard card.id with
    | some card' => exact ⟨card', rfl⟩
    | none => exact absurd (List.find?_eq_none.mp hfind card hcard) (by simp)
  · rintro ⟨⟨card, hfind⟩, link, hlink, hid⟩
    obtain ⟨hmem, rfl⟩ := mem_of_find_eq_some hfind
    exact ⟨card, ⟨hmem, link, hlink, hid⟩, rfl⟩

/-- After the consumption the grant of the result goes through. -/
theorem combinationGrant_succeeds (hkept : NotifiedKept s)
    (hfresh : FreshCombination s userId request order draws draw now)
    {combinations : List CardCombination} {consumed : List CardCombinationMaterial}
    {rows : List (CardOwnershipLedger Digest)} {card : Card}
    (hrows : ∀ row ∈ rows, row.action = "consume" ∧
      ∃ material ∈ scan order (s.1.ownMaterials userId request),
        row.id = draws.consumeLedgerId material.id)
    (hcard : s.1.findCard card.id = some card) (hpublished : card.status = .published) :
    let base : CardDb Digest := { s.1 with
      combinations := combinations, materials := consumed, ledger := s.1.ledger ++ rows }
    let grant := combinationGrant userId card.id draws.combinationId context
    ∃ granted, grantUserCard base grant draws.grant now =
        .ok (granted, grant.userCard base draws.grant.userCardId now) ∧
      granted.userCards = base.userCards ++ [grant.userCard base draws.grant.userCardId now] ∧
      granted.events = base.events := by
  intro base grant
  have hnew : ∀ row ∈ base.ledger,
      row.isGrant grant.userId grant.sourceType grant.sourceId = false := by
    intro row hrow
    rw [← Bool.not_eq_true]
    intro hgrant
    simp only [CardOwnershipLedger.isGrant, Bool.and_eq_true, beq_iff_eq] at hgrant
    rcases List.mem_append.mp hrow with hold | hlater
    · exact (hfresh.sources row hold).1 hgrant.2
    · have haction := hgrant.1.1.2
      rw [(hrows row hlater).1] at haction
      exact absurd haction (by decide)
  have hsame : SameSerials s.1 base := by
    refine ⟨rfl, ?_⟩
    have hnone : rows.filter (fun row => row.action == "grant") = [] := by
      rw [List.filter_eq_nil_iff]
      intro row hrow
      rw [(hrows row hrow).1]
      decide
    simp [CardDb.grants, base, hnone]
  have hrecord : ∀ row ∈ base.ledger, row.id ≠ draws.grant.ledgerId := by
    intro row hrow
    rcases List.mem_append.mp hrow with hold | hlater
    · exact hfresh.granted row hold
    · obtain ⟨-, material, hmaterial, hid⟩ := hrows row hlater
      rw [hid]
      exact hfresh.grantApart _ (mem_ownMaterials hmaterial)
  have hcardBase : ∃ card', base.findCard grant.cardId = some card' ∧ card'.status = .published :=
    ⟨card, hcard, hpublished⟩
  have hcode : ∀ row ∈ base.userCards,
      ¬row.sameOwnerAndCode (grant.userCard base draws.grant.userCardId now) := by
    rintro row - ⟨-, hsome, hnone⟩
    rw [hnone] at hsome
    cases hsome
  exact grantUserCard_succeeds (hsame.exact hkept.serials) hnew hcardBase hfresh.copy hcode hrecord

/-- A combination of usable materials succeeds if its result is available. -/
theorem combineCards_succeeds (hkept : NotifiedKept s)
    (hfresh : FreshCombination s userId request order draws draw now)
    (hcontext : recipeContext s.1 request.recipeId = .ok context)
    (hquantity : request.materialUserCardIds.length = context.recipe.inputQuantity)
    (hnodup : request.materialUserCardIds.Nodup)
    (husable : MaterialsUsable s.1 userId request context)
    (hresult : ResultAvailable s.1 context draws.target) :
    ∃ after combination userCard card,
      combineCards s.1 userId request none order draws now = .ok (after, combination) ∧
      combination.userId = userId ∧ combination.id = draws.combinationId ∧
      combination.resultUserCardId.bind after.findUserCard = some userCard ∧
      userCard.userId = userId ∧ userCard.id = draws.grant.userCardId ∧
      after.findCard combination.resultCardId = some card := by
  obtain ⟨card, hchoice, hcard, hpublished, link, hlink, hlinked⟩ := hresult
  let materials := scan order (s.1.ownMaterials userId request)
  have hmaterials : combineMaterials s.1 userId request context order = .ok materials :=
    combineMaterials_usable.mpr ⟨hquantity, hnodup, husable, rfl⟩
  let combination : CardCombination :=
    { id := draws.combinationId, userId := userId, recipeId := context.recipe.id
      resultCardId := card.id, resultUserCardId := none
      materialUserCardIds := request.materialUserCardIds
      probabilityVersion := context.recipe.probabilityVersion, idempotencyKey := none }
  let inserted : CardDb Digest := { s.1 with combinations := s.1.combinations ++ [combination] }
  have hinsert : s.1.insertCombination combination = .ok inserted :=
    insertCombination_ok.mpr
      ⟨hfresh.combination, fun _ _ h => absurd h.2.1 Bool.false_ne_true, rfl⟩
  obtain ⟨consumed, rows, hconsume, hrows⟩ :
      ∃ consumed rows, consumeMaterials combination.id context.recipe.id userId
          draws.consumeLedgerId now inserted materials =
            .ok { inserted with materials := consumed, ledger := inserted.ledger ++ rows } ∧
        ∀ row ∈ rows, row.action = "consume" ∧
          ∃ material ∈ materials, row.id = draws.consumeLedgerId material.id :=
    consumeMaterials_succeeds (ownMaterials_nodup hkept.copies.ids)
      (fun a ha b hb => hfresh.distinct _ (mem_ownMaterials ha) _ (mem_ownMaterials hb))
      (fun row hrow material hmaterial => hfresh.consumed row hrow _ (mem_ownMaterials hmaterial))
      (fun row hrow material hmaterial =>
        (hfresh.sources row hrow).2 _ (mem_ownMaterials hmaterial))
  let base : CardDb Digest :=
    { inserted with materials := consumed, ledger := inserted.ledger ++ rows }
  let grant := combinationGrant userId card.id combination.id context
  obtain ⟨granted, hgrant, hcards, hevents⟩ :=
    combinationGrant_succeeds hkept hfresh hrows hcard hpublished
  obtain ⟨userCards, records, -, -, hframe⟩ := grantUserCard_frame hgrant
  let result := grant.userCard base draws.grant.userCardId now
  obtain ⟨events, event, hevent, -⟩ := recordEngagementEvent_fresh hfresh.event userId
    "card_combined" "card_combination" combination.id
    [("combinationId", .str combination.id), ("recipeId", .str context.recipe.id),
      ("packId", .str context.pack.id), ("cardId", .str card.id),
      ("artistId", .str context.pack.artistId)]
  have hlinkedCard : ∃ card' ∈ context.cards, card'.id = card.id :=
    mem_context_cards hcontext |>.mpr ⟨⟨card, hcard⟩, link, hlink, hlinked⟩
  let after : CardDb Digest := { granted with
    combinations := patch (·.id == combination.id)
      ({ · with resultUserCardId := some result.id }) granted.combinations
    events := events }
  refine ⟨after, { combination with resultUserCardId := some result.id }, result, card, ?_, rfl, rfl,
    ?_, rfl, rfl, ?_⟩
  · show (do
      let context ← recipeContext s.1 request.recipeId
      let materials ← combineMaterials s.1 userId request context order
      completeCombination s.1 ⟨userId, request, none⟩ context materials draws now) = _
    simp only [hcontext, hmaterials, bind_ok, completeCombination, orFail_ok, ensure_ok,
      exists_const, pure_ok, Prod.exists, Prod.mk.injEq, Except.ok.injEq, exists_eq_left']
    exact ⟨card.id, hchoice, inserted, hinsert, base, hconsume, granted, result, hgrant, events, event,
      by rw [hevents]; exact hevent, hlinkedCard, rfl, rfl⟩
  · have hmissing : base.userCards.find? (fun row => row.id == draws.grant.userCardId) = none := by
      rw [List.find?_eq_none]
      intro row hrow heq
      exact hfresh.copy row hrow (eq_of_beq heq)
    show granted.userCards.find? (fun row => row.id == draws.grant.userCardId) = some result
    rw [hcards, find_insert, hmissing, Option.none_or]
    exact if_pos (beq_self_eq_true _)
  · show granted.cards.find? _ = _
    rw [hframe]
    exact hcard

/-- What a combination without a key finds when it succeeds. -/
theorem combineCards_finds {after : CardDb Digest} {combination : CardCombination}
    (hfresh : FreshCombination s userId request order draws draw now)
    (h : combineCards s.1 userId request none order draws now = .ok (after, combination)) :
    ∃ context, recipeContext s.1 request.recipeId = .ok context ∧
      request.materialUserCardIds.length = context.recipe.inputQuantity ∧
      request.materialUserCardIds.Nodup ∧ MaterialsUsable s.1 userId request context ∧
      ResultAvailable s.1 context draws.target := by
  have hnoKey : s.1.findCombination userId none = none := rfl
  simp only [combineCards, hnoKey, bind_ok, orFail_ok, ensure_ok, exists_const, pure_ok,
    Prod.exists, Prod.mk.injEq, insertCombination_ok] at h
  obtain ⟨context, hcontext, materials, hmaterials, resultCardId, hchoice, inserted, ⟨-, -, rfl⟩,
    consumed, hconsume, granted, result, hgrant, events, event, -, hlinked, -⟩ := h
  obtain ⟨hquantity, hnodup, husable, -⟩ := combineMaterials_usable.mp hmaterials
  obtain ⟨rows, hrows, rfl⟩ := consumeMaterials_ok hconsume
  obtain ⟨⟨card, hcard⟩, hlink⟩ := (mem_context_cards hcontext).mp hlinked
  have hid : card.id = resultCardId := (mem_of_find_eq_some hcard).2
  subst hid
  refine ⟨context, hcontext, hquantity, hnodup, husable, card, hchoice, hcard, ?_, hlink⟩
  rcases grantUserCard_ok hgrant with ⟨-, hexisting⟩ | hissued
  · -- The ledger has no grant from an identifier that is new.
    obtain ⟨row, hfound, -⟩ := Option.bind_eq_some_iff.mp hexisting
    have hisGrant := List.find?_some hfound
    simp only [CardOwnershipLedger.isGrant, Bool.and_eq_true, beq_iff_eq] at hisGrant
    rcases List.mem_append.mp (List.mem_of_find?_eq_some hfound) with hold | hlater
    · exact absurd hisGrant.2 (hfresh.sources row hold).1
    · have haction := hisGrant.1.1.2
      rw [hrows row hlater] at haction
      exact absurd haction (by decide)
  · obtain ⟨card', hcard', hpublished⟩ := hissued.published
    obtain rfl := Option.some.inj (hcard.symm.trans hcard')
    exact hpublished

/-- A combination of usable materials with its notifications succeeds exactly if its recipients
fit. -/
theorem combineNotified_succeeds (hkept : NotifiedKept s)
    (hfresh : FreshCombination s userId request order draws draw now)
    (hcontext : recipeContext s.1 request.recipeId = .ok context)
    (hquantity : request.materialUserCardIds.length = context.recipe.inputQuantity)
    (hnodup : request.materialUserCardIds.Nodup)
    (husable : MaterialsUsable s.1 userId request context) :
    (∃ result, combineNotified s userId request none order draws draw now = .ok result) ↔
      ResultAvailable s.1 context draws.target ∧ CombinationRecipientsFit s userId draws := by
  have hnoKey : s.1.findCombination userId none = none := rfl
  have hsplit : (∃ result, combineNotified s userId request none order draws draw now =
      .ok result) ↔ ∃ after combination,
        combineCards s.1 userId request none order draws now = .ok (after, combination) ∧
        ∃ notices, s.2.notifyAll (combinationNotices s.1 after s.2 combination) draw =
          .ok notices := by
    simp only [combineNotified, hnoKey, bind_ok, pure_ok, Prod.exists, Prod.mk.injEq]
    constructor
    · rintro ⟨_, _, _, after, combination, hcombine, notices, hok, -⟩
      exact ⟨after, combination, hcombine, notices, hok⟩
    · rintro ⟨after, combination, hcombine, notices, hok⟩
      exact ⟨_, _, _, after, combination, hcombine, notices, hok, ⟨rfl, rfl⟩, rfl⟩
  have hnotify : ResultAvailable s.1 context draws.target → ∀ after combination,
      combineCards s.1 userId request none order draws now = .ok (after, combination) →
        ((∃ notices, s.2.notifyAll (combinationNotices s.1 after s.2 combination) draw =
          .ok notices) ↔ CombinationRecipientsFit s userId draws) := by
    intro hresult after combination hcombine
    obtain ⟨after', combination', userCard, card, hcombine', huserId, hid, hcopy, hcopyUser, hcopyId,
      hcard⟩ := combineCards_succeeds hkept hfresh hcontext hquantity hnodup husable hresult
    obtain ⟨rfl, rfl⟩ := Prod.mk.inj (Except.ok.inj (hcombine.symm.trans hcombine'))
    have hnone : s.1.grantedCard userId "card_combination" draws.combinationId = none := by
      rw [CardDb.grantedCard, List.find?_eq_none.mpr, Option.bind_none]
      intro row hrow hgrant
      simp only [CardOwnershipLedger.isGrant, Bool.and_eq_true, beq_iff_eq] at hgrant
      exact (hfresh.sources row hrow).1 hgrant.2
    rw [NoticeDb.notifyAll_succeeds hkept.notices (hfresh.notices after combination hcombine)]
    simp only [combinationNotices, hcopy, hcard, huserId, hid, hnone, if_true,
      List.forall_mem_append, List.forall_mem_singleton, NoticeDb.followerRequests_notifiable,
      hcopyUser, hcopyId]
    exact ⟨fun h => ⟨h.2, h.1⟩, fun h => ⟨h.followers, h.fan⟩⟩
  rw [hsplit]
  constructor
  · rintro ⟨after, combination, hcombine, hnotices⟩
    obtain ⟨context', hcontext', -, -, -, hresult⟩ := combineCards_finds hfresh hcombine
    obtain rfl := Except.ok.inj (hcontext.symm.trans hcontext')
    exact ⟨hresult, (hnotify hresult after combination hcombine).mp hnotices⟩
  · rintro ⟨hresult, hfit⟩
    obtain ⟨after, combination, _, _, hcombine, -⟩ :=
      combineCards_succeeds hkept hfresh hcontext hquantity hnodup husable hresult
    exact ⟨after, combination, hcombine, (hnotify hresult after combination hcombine).mpr hfit⟩

/-- What the checks on the materials refuse, the combination refuses. -/
theorem combineNotified_refused {e : Failure}
    (hcontext : recipeContext s.1 request.recipeId = .ok context)
    (h : combineMaterials s.1 userId request context order = .error e) :
    combineNotified s userId request none order draws draw now = .error e := by
  have hcombine : combineCards s.1 userId request none order draws now = .error e :=
    bind_error.mpr (.inr ⟨context, hcontext, bind_error.mpr (.inl h)⟩)
  exact bind_error.mpr (.inl hcombine)

/-- Where the materials are told apart, what the preview refuses, the combination refuses alike. -/
theorem previewCardCombination_refuses
    (hnodup : ∀ context, recipeContext s.1 request.recipeId = .ok context →
      request.materialUserCardIds.length = context.recipe.inputQuantity →
        request.materialUserCardIds.Nodup) :
    RefusesAlike (fun e e' => e.code = e'.code) (previewCardCombination s.1 userId request)
      (combineNotified s userId request none order draws draw now) := by
  intro e he
  refine ⟨e, ?_, rfl⟩
  rcases bind_error.mp he with hmissing | ⟨context, hcontext, he⟩
  · have hcombine : combineCards s.1 userId request none order draws now = .error e :=
      bind_error.mpr (.inl hmissing)
    exact bind_error.mpr (.inl hcombine)
  refine combineNotified_refused hcontext ?_
  have hperm := scan_perm order (s.1.ownMaterials userId request)
  rcases bind_error.mp he with hquantity | ⟨_, hquantity, he⟩
  · exact bind_error.mpr (.inl hquantity)
  refine bind_error.mpr (.inr ⟨(), ensure_ok.mpr (ensure_ok.mp hquantity), ?_⟩)
  have hdistinct := hnodup context hcontext (ensure_ok.mp hquantity)
  refine bind_error.mpr (.inr ⟨(), ensure_ok.mpr hdistinct, ?_⟩)
  rw [hdistinct.dedup] at he
  rcases bind_error.mp he with hscope | ⟨_, hscope, he⟩
  · refine bind_error.mpr (.inl ?_)
    obtain ⟨hnot, rfl⟩ := ensure_error.mp hscope
    refine ensure_error.mpr ⟨fun hscope' => hnot ⟨hperm.length_eq.symm.trans hscope'.1, ?_⟩, rfl⟩
    exact fun item hitem => hscope'.2 item (hperm.mem_iff.mpr hitem)
  · obtain ⟨hown, hlinked⟩ := ensure_ok.mp hscope
    refine bind_error.mpr (.inr ⟨(), ensure_ok.mpr ⟨hperm.length_eq.trans hown,
      fun item hitem => hlinked item (hperm.mem_iff.mp hitem)⟩, ?_⟩)
    rcases bind_error.mp he with hreserved | ⟨_, -, he⟩
    · exact bind_error.mpr (.inl hreserved)
    · cases he

/-- A repeated material is refused under a code that the preview does not know. -/
theorem not_combinePreviewAgrees (hcontext : recipeContext s.1 request.recipeId = .ok context)
    (hquantity : request.materialUserCardIds.length = context.recipe.inputQuantity)
    (hrepeated : ¬request.materialUserCardIds.Nodup) :
    ¬CombinePreviewAgrees s userId request order draws draw now := by
  rintro ⟨haccepts, hrefuses⟩
  have hcombine : combineNotified s userId request none order draws draw now =
      .error (.app ⟨422, "CARD_COMBINATION_DUPLICATE_MATERIAL",
        "같은 카드를 재료로 중복 선택할 수 없습니다."⟩) := by
    refine combineNotified_refused hcontext ?_
    refine bind_error.mpr (.inr ⟨(), ensure_ok.mpr hquantity, bind_error.mpr (.inl ?_)⟩)
    exact ensure_error.mpr ⟨hrepeated, rfl⟩
  cases hpreview : previewCardCombination s.1 userId request with
  | ok preview =>
    obtain ⟨result, hok⟩ := haccepts.mp ⟨preview, hpreview⟩
    rw [hcombine] at hok
    cases hok
  | error e =>
    have hcode := hrefuses e _ hpreview hcombine
    rcases bind_error.mp hpreview with hmissing | ⟨context', hcontext', he⟩
    · rw [hcontext] at hmissing
      cases hmissing
    obtain rfl := Except.ok.inj (hcontext.symm.trans hcontext')
    rcases bind_error.mp he with hother | ⟨_, -, he⟩
    · exact (ensure_error.mp hother).1 hquantity
    rcases bind_error.mp he with hscope | ⟨_, -, he⟩
    · rw [← (ensure_error.mp hscope).2] at hcode
      exact absurd hcode (by decide)
    rcases bind_error.mp he with hreserved | ⟨_, -, he⟩
    · rw [← (ensure_error.mp hreserved).2] at hcode
      exact absurd hcode (by decide)
    · cases he

/-- The preview agrees as long as the recipe or the quantity refuses the request, or the materials
are told apart and, if they are usable, the result is available and the recipients fit. -/
def PreviewReliable (s : NotifiedDb Digest) (userId : UserId) (request : CardCombinationRequest)
    (draws : CombineDraws) : Prop :=
  ∀ context, recipeContext s.1 request.recipeId = .ok context →
    request.materialUserCardIds.length = context.recipe.inputQuantity →
      request.materialUserCardIds.Nodup ∧ (MaterialsUsable s.1 userId request context →
        ResultAvailable s.1 context draws.target ∧ CombinationRecipientsFit s userId draws)

theorem NotifiedKept.agrees_iff_reliable (hkept : NotifiedKept s)
    (hfresh : FreshCombination s userId request order draws draw now) :
    CombinePreviewAgrees s userId request order draws draw now ↔
      PreviewReliable s userId request draws := by
  constructor
  · intro hagrees context hcontext hquantity
    have hnodup : request.materialUserCardIds.Nodup := by
      by_contra hrepeated
      exact not_combinePreviewAgrees hcontext hquantity hrepeated hagrees
    refine ⟨hnodup, fun husable => ?_⟩
    refine (combineNotified_succeeds hkept hfresh hcontext hquantity hnodup husable).mp
      (hagrees.accepts.mp (previewCardCombination_ok.mpr ⟨context, hcontext, hquantity, ?_, ?_⟩))
    · rw [hnodup.dedup]
      exact ⟨husable.own, husable.linked⟩
    · exact husable.unused
  · intro hreliable
    refine ⟨?_, ?_⟩
    · rw [previewCardCombination_ok]
      constructor
      · rintro ⟨context, hcontext, hquantity, ⟨hown, hlinked⟩, hunused⟩
        obtain ⟨hnodup, hrest⟩ := hreliable context hcontext hquantity
        rw [hnodup.dedup] at hown
        have husable : MaterialsUsable s.1 userId request context := ⟨hown, hlinked, hunused⟩
        exact (combineNotified_succeeds hkept hfresh hcontext hquantity hnodup husable).mpr
          (hrest husable)
      · rintro ⟨result, hok⟩
        simp only [combineNotified, bind_ok, Prod.exists] at hok
        obtain ⟨after, combination, hcombine, -⟩ := hok
        obtain ⟨context, hcontext, hquantity, hnodup, husable, -⟩ :=
          combineCards_finds hfresh hcombine
        refine ⟨context, hcontext, hquantity, ?_, husable.unused⟩
        rw [hnodup.dedup]
        exact ⟨husable.own, husable.linked⟩
    · intro e e' hpreview hcombine
      obtain ⟨e'', hcombine', hcode⟩ := previewCardCombination_refuses
        (fun context hcontext hquantity => (hreliable context hcontext hquantity).1) e hpreview
      obtain rfl := Except.error.inj (hcombine.symm.trans hcombine')
      exact hcode

/-- In every state that requests reach, the preview of a combination agrees with the combination
exactly if it is reliable. -/
theorem combinePreviewAgrees_iff {s₀ : NotifiedDb Digest} (h : NotifiedGenesis s₀)
    (acts : List NotifiedAction)
    (hfresh : FreshCombination (notifiedAfter s₀ acts) userId request order draws draw now) :
    CombinePreviewAgrees (notifiedAfter s₀ acts) userId request order draws draw now ↔
      PreviewReliable (notifiedAfter s₀ acts) userId request draws :=
  (h.reached acts).agrees_iff_reliable hfresh

omit [RecordHash Digest] in
/-- Without followers, a combination notifies its fan alone. -/
theorem combinationNotices_fresh {after : CardDb Digest} {combination : CardCombination}
    (hfollows : s.2.follows = []) (hfresh : ∀ request : NoticeRequest,
      s.2.FreshNotice combination.userId (draw request)) :
    s.2.FreshNotices draw (combinationNotices s.1 after s.2 combination) := by
  unfold combinationNotices
  split
  · rename_i userCard card _ _
    rw [NoticeDb.followerRequests_of_noFollows hfollows, ite_self, List.nil_append]
    exact ⟨fun _ => hfresh _, fun _ _ => trivial⟩
  · trivial

end Previews

namespace CombinePreviewExample

open NoticeExample

/-- A fan redeems two codes for two copies of a card. -/
def acts : List NotifiedAction :=
  [.card (.redeem "fan_a" "CODE" "manual" ⟨⟨"uc_1", "ledger_1"⟩, "evt_1"⟩ 0),
   .card (.redeem "fan_a" "CODE_2" "manual" ⟨⟨"uc_2", "ledger_2"⟩, "evt_2"⟩ 0)]

def state : NotifiedDb SymbolicDigest := notifiedAfter (smallCatalogue, start) acts

def combineDraws : CombineDraws :=
  { combinationId := "combination_1", target := 50
    consumeLedgerId := fun userCardId => "ledger_" ++ userCardId
    grant := ⟨"uc_3", "ledger_3"⟩, eventId := "evt_3" }

def copyPair : CardCombinationRequest := ⟨"recipe", ["uc_1", "uc_2"]⟩

/-- The same copy twice. -/
def oneCopyTwice : CardCombinationRequest := ⟨"recipe", ["uc_1", "uc_1"]⟩

theorem genesis : NotifiedGenesis (smallCatalogue, start) := ⟨genesis_smallCatalogue, start_blank⟩

def smallCard : Card := { id := "card", name := "Card", dropId := some "drop" }

def smallContext : RecipeContext where
  recipe := smallCatalogue.recipes.head (by decide)
  pack := { id := "pack", artistId := "artist" }
  links := smallCatalogue.packCards
  cards := [smallCard]

theorem state_context : recipeContext state.1 "recipe" = .ok smallContext := rfl

theorem start_fresh (userId : UserId) : start.FreshNotice userId draws := by
  have htargets : (start.deliveryTargets userId).length = 0 := by
    unfold NoticeDb.deliveryTargets
    cases hfound : start.findAccount userId with
    | none => rfl
    | some recipient =>
      obtain rfl := List.mem_singleton.mp (List.mem_of_find?_eq_some hfound)
      rfl
  exact ⟨by simp [start], by simp [start], by simp [htargets]⟩

theorem copyPair_fresh :
    FreshCombination state "fan_a" copyPair [] combineDraws (fun _ => draws) 0 :=
  ⟨by decide, by decide, by decide, by decide, by decide, by decide, by decide, by decide,
    fun _ _ _ => combinationNotices_fresh rfl fun _ => start_fresh _⟩

theorem oneCopyTwice_fresh :
    FreshCombination state "fan_a" oneCopyTwice [] combineDraws (fun _ => draws) 0 :=
  ⟨by decide, by decide, by decide, by decide, by decide, by decide, by decide, by decide,
    fun _ _ _ => combinationNotices_fresh rfl fun _ => start_fresh _⟩

end CombinePreviewExample

open NoticeExample CombinePreviewExample in
theorem combinePreviewAgrees_iff_bothCopies :
    CombinePreviewAgrees state "fan_a" copyPair [] combineDraws (fun _ => draws) 0 := by
  refine (combinePreviewAgrees_iff CombinePreviewExample.genesis acts copyPair_fresh).mpr ?_
  intro context hcontext _
  obtain rfl := Except.ok.inj (state_context.symm.trans hcontext)
  refine ⟨by decide, fun _ => ⟨?_, .inr ⟨by decide, by decide⟩, ?_⟩⟩
  · exact ⟨smallCard, by decide +kernel, rfl, rfl, _, List.mem_singleton.mpr rfl, rfl⟩
  · intro _ followerId hfollower
    cases hfollower

open NoticeExample CombinePreviewExample in
/-- The preview takes one copy for two, and the combination refuses it. -/
theorem combinePreviewAgrees_fails : NotifiedGenesis (smallCatalogue, start) ∧
    FreshCombination state "fan_a" oneCopyTwice [] combineDraws (fun _ => draws) 0 ∧
    ¬CombinePreviewAgrees state "fan_a" oneCopyTwice [] combineDraws (fun _ => draws) 0 :=
  ⟨CombinePreviewExample.genesis, oneCopyTwice_fresh,
    not_combinePreviewAgrees state_context rfl (by decide)⟩

end Fanfolio
