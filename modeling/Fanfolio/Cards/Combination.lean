import Fanfolio.Cards.Grant
import Mathlib.Data.List.Perm.Subperm
import Mathlib.Algebra.Order.Ring.Rat
import Mathlib.Algebra.Order.Group.Unbundled.Abs

/-!
# Combining cards

A recipe of a pack turns copies of its cards into one random card. A combination records the
copies it consumed, and no copy may be recorded twice.
-/

namespace Fanfolio

open Framework

/-- `CardCombinationRecipeCreate`. -/
structure CardCombinationRecipeCreate where
  scopeType : String
  scopeId : PackId
  inputQuantity : Nat
  outputRarityPool : List String
  probabilitySnapshot : List (CardId × ℚ)
  quantity_bounds : 2 ≤ inputQuantity ∧ inputQuantity ≤ 100
  keys_nodup : (probabilitySnapshot.map Prod.fst).Nodup

/-- `CardCombinationRequest`. -/
structure CardCombinationRequest where
  recipeId : RecipeId
  materialUserCardIds : List UserCardId
deriving DecidableEq, Repr

/-- What a combination draws: identifiers, and the random point of the choice. -/
structure CombineDraws where
  combinationId : CombinationId
  target : ℚ
  consumeLedgerId : UserCardId → LedgerId
  grant : GrantDraws
  eventId : EventId

/-- The first entry at which the running sum of the probabilities reaches the target. -/
def pickByCursor {α : Type} (target : ℚ) : ℚ → List (α × ℚ) → Option α
  | _, [] => none
  | cursor, (a, probability) :: rest =>
    if target ≤ cursor + probability then some a
    else pickByCursor target (cursor + probability) rest

/-- The entry picked, or the last one if the target lies beyond the sum. -/
def pickOrLast {α : Type} (target : ℚ) (entries : List (α × ℚ)) : Option α :=
  (pickByCursor target 0 entries).or (entries.getLast?.map Prod.fst)

/-- `_weighted_choice` on the point it drew. -/
def weightedChoice (probabilities : List (CardId × ℚ)) (target : ℚ) : Option CardId :=
  pickOrLast target probabilities

theorem pickByCursor_mem {α : Type} {target cursor : ℚ} {entries : List (α × ℚ)} {a : α}
    (h : pickByCursor target cursor entries = some a) : a ∈ entries.map Prod.fst := by
  induction entries generalizing cursor with
  | nil => simp [pickByCursor] at h
  | cons entry entries ih =>
    rw [pickByCursor] at h
    split at h
    · simp [Option.some.inj h]
    · exact List.mem_cons_of_mem _ (ih h)

theorem pickOrLast_mem {α : Type} {target : ℚ} {entries : List (α × ℚ)} {a : α}
    (h : pickOrLast target entries = some a) : a ∈ entries.map Prod.fst := by
  rcases Option.or_eq_some_iff.mp h with hpick | ⟨-, hlast⟩
  · exact pickByCursor_mem hpick
  · obtain ⟨entry, hentry, rfl⟩ := Option.map_eq_some_iff.mp hlast
    exact List.mem_map_of_mem (List.mem_of_getLast? hentry)

section

variable {Digest : Type}

/-- The enabled entries of a pack. -/
def CardDb.enabledLinks (db : CardDb Digest) (packId : PackId) : List CardPackCard :=
  db.packCards.filter (fun row => row.packId == packId && row.enabled)

/-- The cards of a list of pack entries. -/
def CardDb.linkedCards (db : CardDb Digest) (links : List CardPackCard) : List Card :=
  db.cards.filter (fun row => links.any (·.cardId == row.id))

/-- `create_combination_recipe`; `recipeId` is the identifier it draws. -/
def createCombinationRecipe (db : CardDb Digest) (payload : CardCombinationRecipeCreate)
    (recipeId : RecipeId) : Except Failure (CardDb Digest × RecipeId) := do
  let pack ← orFail (db.packs.find? (fun row => row.id == payload.scopeId))
    (.app ⟨404, "CARD_PACK_NOT_FOUND", "카드팩을 찾을 수 없습니다."⟩)
  let eligible := (db.linkedCards (db.enabledLinks pack.id)).filter fun card =>
    card.status == .published && card.issueLimit == none &&
      card.rarity.any (payload.outputRarityPool.contains ·)
  ensure (∀ entry ∈ payload.probabilitySnapshot, ∃ card ∈ eligible, card.id = entry.1)
    (.app ⟨422, "CARD_COMBINATION_RESULT_NOT_ELIGIBLE",
      "조합 결과에는 공개된 무제한 카드만 포함할 수 있습니다."⟩)
  ensure (|(payload.probabilitySnapshot.map Prod.snd).sum - 100| ≤ 1 / 1000 ∧
      ∀ entry ∈ payload.probabilitySnapshot, 0 < entry.2)
    (.app ⟨422, "INVALID_COMBINATION_ODDS", "조합 확률의 합계는 100%여야 합니다."⟩)
  ensure (∀ row ∈ db.recipes,
      ¬(row.scopeType = payload.scopeType ∧ row.scopeId = payload.scopeId))
    (.app ⟨409, "CARD_COMBINATION_RECIPE_EXISTS", "카드팩에 이미 조합 정책이 있습니다."⟩)
  ensure (∀ row ∈ db.recipes, row.id ≠ recipeId) (.integrity "card_combination_recipes_pkey")
  return ({ db with
      recipes := db.recipes ++
        [{ id := recipeId, scopeType := payload.scopeType, scopeId := payload.scopeId,
           inputQuantity := payload.inputQuantity, outputRarityPool := payload.outputRarityPool,
           probabilitySnapshot := payload.probabilitySnapshot,
           probabilityVersion := pack.version ++ ":combination-1", status := .published }] },
    recipeId)

/-- What `_recipe_context` loads. -/
structure RecipeContext where
  recipe : CardCombinationRecipe
  pack : CardPack
  links : List CardPackCard
  cards : List Card

/-- `_recipe_context`. -/
def recipeContext (db : CardDb Digest) (recipeId : RecipeId) : Except Failure RecipeContext := do
  let notFound : Failure :=
    .app ⟨404, "CARD_COMBINATION_RECIPE_NOT_FOUND", "조합 정책을 찾을 수 없습니다."⟩
  let packUnavailable : Failure :=
    .app ⟨409, "CARD_COMBINATION_PACK_UNAVAILABLE", "공개된 카드팩에서만 조합할 수 있습니다."⟩
  let recipe ← orFail (db.recipes.find? (fun row => row.id == recipeId)) notFound
  ensure (recipe.status = .published) notFound
  ensure (recipe.scopeType = "card_pack")
    (.app ⟨422, "CARD_COMBINATION_SCOPE_UNSUPPORTED", "지원하지 않는 조합 범위입니다."⟩)
  let pack ← orFail (db.packs.find? (fun row => row.id == recipe.scopeId)) packUnavailable
  ensure (pack.status = .published) packUnavailable
  let links := db.enabledLinks pack.id
  return { recipe := recipe, pack := pack, links := links, cards := db.linkedCards links }

/-- The materials of `combine_cards`, after all of its checks on them; `order` is the order in
which the database returns them. -/
def combineMaterials (db : CardDb Digest) (userId : UserId) (request : CardCombinationRequest)
    (context : RecipeContext) (order : List UserCard) : Except Failure (List UserCard) := do
  ensure (request.materialUserCardIds.length = context.recipe.inputQuantity)
    (.app ⟨422, "CARD_COMBINATION_QUANTITY_INVALID", "조합 재료 수량이 맞지 않습니다."⟩)
  ensure request.materialUserCardIds.Nodup
    (.app ⟨422, "CARD_COMBINATION_DUPLICATE_MATERIAL",
      "같은 카드를 재료로 중복 선택할 수 없습니다."⟩)
  let materials := scan order
    (db.userCards.filter fun row => row.id ∈ request.materialUserCardIds ∧ row.userId = userId)
  ensure (materials.length = request.materialUserCardIds.length ∧
      ∀ item ∈ materials, ∃ link ∈ context.links, link.cardId = item.cardId)
    (.app ⟨422, "CARD_COMBINATION_SCOPE_MISMATCH", "같은 카드팩의 카드만 조합할 수 있습니다."⟩)
  ensure (∀ row ∈ db.materials, row.userCardId ∉ request.materialUserCardIds)
    (.app ⟨409, "CARD_COMBINATION_MATERIAL_UNAVAILABLE", "이미 사용한 카드가 포함되어 있습니다."⟩)
  return materials

/-- The combination of an earlier request with the same idempotency key. -/
def CardDb.findCombination (db : CardDb Digest) (userId : UserId)
    (idempotencyKey : Option String) : Option CardCombination :=
  (idempotencyKey.filter (· ≠ "")).bind fun key =>
    db.combinations.find? fun row => row.userId == userId && row.idempotencyKey == some key

def CardDb.insertCombination (db : CardDb Digest) (row : CardCombination) :
    Except Failure (CardDb Digest) := do
  ensure (∀ row' ∈ db.combinations, row'.id ≠ row.id) (.integrity "card_combinations_pkey")
  ensure (∀ row' ∈ db.combinations, ¬(row'.userId = row.userId ∧ row.idempotencyKey.isSome ∧
      row'.idempotencyKey = row.idempotencyKey))
    (.integrity "uq_card_combinations_user_key")
  return { db with combinations := db.combinations ++ [row] }

/-- The ownership event of a consumed card. -/
def consumeEvent (combinationId : CombinationId) (recipeId : RecipeId) (userId : UserId)
    (material : UserCard) : OwnershipEvent :=
  { userCardId := material.id, userId := userId, cardId := material.cardId, action := "consume",
    sourceType := "card_combination", sourceId := combinationId ++ ":" ++ material.id,
    metadata := some [("recipeId", .str recipeId)] }

variable [RecordHash Digest]

/-- The loop of `combine_cards` over its materials. -/
def consumeMaterials (combinationId : CombinationId) (recipeId : RecipeId) (userId : UserId)
    (draw : UserCardId → LedgerId) (now : Time) :
    CardDb Digest → List UserCard → Except Failure (CardDb Digest)
  | db, [] => .ok db
  | db, material :: materials => do
    let reserved : CardDb Digest := { db with
      materials := db.materials ++
        [{ combinationId := combinationId, userCardId := material.id, cardId := material.cardId }] }
    let recorded ← reserved.appendLedger (consumeEvent combinationId recipeId userId material)
      (draw material.id) now
    consumeMaterials combinationId recipeId userId draw now recorded materials

/-- The grant of a combination's result. -/
def combinationGrant (userId : UserId) (resultCardId : CardId) (combinationId : CombinationId)
    (context : RecipeContext) : GrantRequest :=
  { userId := userId, cardId := resultCardId, sourceType := "card_combination",
    sourceId := combinationId, acquisitionSource := "combination",
    metadata := some [("recipeId", .str context.recipe.id), ("packId", .str context.pack.id),
      ("probabilityVersion", .str context.recipe.probabilityVersion)] }

/-- `combine_cards`. -/
def combineCards (db : CardDb Digest) (userId : UserId) (request : CardCombinationRequest)
    (idempotencyKey : Option String) (order : List UserCard) (draws : CombineDraws) (now : Time) :
    Except Failure (CardDb Digest × CardCombination) :=
  match db.findCombination userId idempotencyKey with
  | some existing => .ok (db, existing)
  | none => do
    let context ← recipeContext db request.recipeId
    let materials ← combineMaterials db userId request context order
    let resultCardId ← orFail (weightedChoice context.recipe.probabilitySnapshot draws.target)
      (.unhandled "StopIteration")
    let combination : CardCombination :=
      { id := draws.combinationId, userId := userId, recipeId := context.recipe.id,
        resultCardId := resultCardId, resultUserCardId := none,
        materialUserCardIds := request.materialUserCardIds,
        probabilityVersion := context.recipe.probabilityVersion, idempotencyKey := idempotencyKey }
    let inserted ← db.insertCombination combination
    let consumed ← consumeMaterials combination.id context.recipe.id userId draws.consumeLedgerId
      now inserted materials
    let (granted, result) ←
      grantUserCard consumed (combinationGrant userId resultCardId combination.id context)
        draws.grant now
    let (events, _) ← recordEngagementEvent granted.events userId "card_combined"
      "card_combination" combination.id
      [("combinationId", .str combination.id), ("recipeId", .str context.recipe.id),
        ("packId", .str context.pack.id), ("cardId", .str resultCardId),
        ("artistId", .str context.pack.artistId)] draws.eventId
    ensure (∃ card ∈ context.cards, card.id = resultCardId) (.unhandled "KeyError")
    return ({ granted with
        combinations := patch (·.id == combination.id)
          ({ · with resultUserCardId := some result.id }) granted.combinations
        events := events }, { combination with resultUserCardId := some result.id })

variable {db db' : CardDb Digest}

omit [RecordHash Digest] in
theorem createCombinationRecipe_ok {payload : CardCombinationRecipeCreate} {recipeId id : RecipeId}
    (h : createCombinationRecipe db payload recipeId = .ok (db', id)) :
    ∃ recipes, db' = { db with recipes := recipes } := by
  simp only [createCombinationRecipe, bind_ok, orFail_ok, ensure_ok, exists_const, pure_ok,
    Prod.mk.injEq] at h
  obtain ⟨pack, -, -, -, -, -, rfl, -⟩ := h
  exact ⟨_, rfl⟩

/-- Consumption records every material, and appends ledger events of consumption. -/
theorem consumeMaterials_ok {combinationId : CombinationId} {recipeId : RecipeId}
    {userId : UserId} {draw : UserCardId → LedgerId} {now : Time} {materials : List UserCard}
    (h : consumeMaterials combinationId recipeId userId draw now db materials = .ok db') :
    ∃ rows, (∀ row ∈ rows, row.action = "consume") ∧
      db' = { db with
        materials := db.materials ++ materials.map fun row => ⟨combinationId, row.id, row.cardId⟩
        ledger := db.ledger ++ rows } := by
  induction materials generalizing db with
  | nil =>
    obtain rfl := Except.ok.inj h
    exact ⟨[], by simp, by simp⟩
  | cons material materials ih =>
    simp only [consumeMaterials, bind_ok, appendLedger_ok] at h
    obtain ⟨recorded, ⟨-, -, rfl⟩, hrest⟩ := h
    obtain ⟨rows, hrows, rfl⟩ := ih hrest
    refine ⟨ownershipRow db.ledger (consumeEvent combinationId recipeId userId material)
      (draw material.id) now :: rows, List.forall_mem_cons.mpr ⟨rfl, hrows⟩, ?_⟩
    simp only [List.map_cons, List.append_assoc, List.cons_append, List.nil_append]

/-- What a combination that was not answered from an earlier one found and did. -/
structure Combined (db db' : CardDb Digest) (userId : UserId) (request : CardCombinationRequest)
    (order : List UserCard) (draws : CombineDraws) (now : Time) (context : RecipeContext)
    (materials : List UserCard) (resultCardId : CardId) (rows : List (CardOwnershipLedger Digest))
    (granted : CardDb Digest) (result : UserCard) : Prop where
  contextLoaded : recipeContext db request.recipeId = .ok context
  materialsLoaded : combineMaterials db userId request context order = .ok materials
  choice : weightedChoice context.recipe.probabilitySnapshot draws.target = some resultCardId
  consumed : ∀ row ∈ rows, row.action = "consume"
  grant : ∃ combinations, grantUserCard { db with
      combinations := combinations
      materials := db.materials ++ materials.map fun row => ⟨draws.combinationId, row.id, row.cardId⟩
      ledger := db.ledger ++ rows }
    (combinationGrant userId resultCardId draws.combinationId context) draws.grant now =
      .ok (granted, result)
  after : ∃ combinations events,
    db' = { granted with combinations := combinations, events := events }

/-- A combination is answered from an earlier one, or consumes its materials and grants a card. -/
theorem combineCards_ok {userId : UserId} {request : CardCombinationRequest}
    {idempotencyKey : Option String} {order : List UserCard} {draws : CombineDraws} {now : Time}
    {combination : CardCombination}
    (h : combineCards db userId request idempotencyKey order draws now = .ok (db', combination)) :
    (db' = db ∧ db.findCombination userId idempotencyKey = some combination) ∨
      db.findCombination userId idempotencyKey = none ∧
      ∃ context materials resultCardId rows granted result,
        Combined db db' userId request order draws now context materials resultCardId rows granted
          result := by
  unfold combineCards at h
  split at h
  · rename_i existing hfind
    obtain ⟨rfl, rfl⟩ := Prod.mk.inj (Except.ok.inj h)
    exact .inl ⟨rfl, hfind⟩
  · rename_i hfind
    simp only [bind_ok, orFail_ok, ensure_ok, exists_const, pure_ok, Prod.exists,
      Prod.mk.injEq, CardDb.insertCombination] at h
    obtain ⟨context, hcontext, materials, hmaterials, resultCardId, hchoice, inserted,
      ⟨-, -, rfl⟩, consumed, hconsumed, granted, result, hgrant, events, event, -, -, rfl, -⟩ := h
    obtain ⟨rows, hrows, rfl⟩ := consumeMaterials_ok hconsumed
    exact .inr ⟨hfind, context, materials, resultCardId, rows, granted, result, hcontext,
      hmaterials, hchoice, hrows, ⟨_, hgrant⟩, ⟨_, _, rfl⟩⟩

theorem combineCards_frame {userId : UserId} {request : CardCombinationRequest}
    {idempotencyKey : Option String} {order : List UserCard} {draws : CombineDraws} {now : Time}
    {combination : CardCombination}
    (h : combineCards db userId request idempotencyKey order draws now = .ok (db', combination)) :
    ∃ combinations materials userCards ledger events, AddsCopy db.userCards userCards ∧
      db' = { db with
        combinations := combinations, materials := materials, userCards := userCards
        ledger := ledger, events := events } := by
  rcases combineCards_ok h with ⟨rfl, -⟩ | ⟨-, _, _, _, _, _, _, hcombined⟩
  · exact ⟨_, _, _, _, _, .inl rfl, rfl⟩
  · obtain ⟨combinations, hgrant⟩ := hcombined.grant
    obtain ⟨userCards, grants, hadds, -, rfl⟩ := grantUserCard_frame hgrant
    obtain ⟨combinations', events, rfl⟩ := hcombined.after
    exact ⟨_, _, _, _, _, hadds, rfl⟩

omit [RecordHash Digest] in
theorem combineMaterials_ok {userId : UserId} {request : CardCombinationRequest}
    {context : RecipeContext} {order materials : List UserCard}
    (h : combineMaterials db userId request context order = .ok materials) :
    (∀ row ∈ materials, row ∈ db.userCards ∧ row.id ∈ request.materialUserCardIds ∧
      row.userId = userId) ∧
    materials.length = request.materialUserCardIds.length := by
  simp only [combineMaterials, bind_ok, ensure_ok, exists_const, pure_ok] at h
  obtain ⟨-, -, ⟨hlength, -⟩, -, rfl⟩ := h
  refine ⟨?_, hlength⟩
  intro row hrow
  simpa [and_assoc] using (scan_perm _ _).mem_iff.mp hrow

omit [RecordHash Digest] in
/-- With unique copies, every requested material is found. -/
theorem combineMaterials_complete {userId : UserId} {request : CardCombinationRequest}
    {context : RecipeContext} {order materials : List UserCard}
    (hids : (db.userCards.map (·.id)).Nodup)
    (h : combineMaterials db userId request context order = .ok materials) {id : UserCardId}
    (hid : id ∈ request.materialUserCardIds) : ∃ row ∈ materials, row.id = id := by
  obtain ⟨hfound, hlength⟩ := combineMaterials_ok h
  have hnodup : (materials.map (·.id)).Nodup := by
    simp only [combineMaterials, bind_ok, ensure_ok, exists_const, pure_ok] at h
    obtain ⟨-, -, -, -, rfl⟩ := h
    exact ((scan_perm order _).map _).nodup_iff.mpr (nodup_delete _ hids)
  have hsubset : materials.map (·.id) ⊆ request.materialUserCardIds := by
    intro id' hid'
    obtain ⟨row, hrow, rfl⟩ := List.mem_map.mp hid'
    exact (hfound row hrow).2.1
  have hperm : (materials.map (·.id)).Perm request.materialUserCardIds :=
    (List.subperm_of_subset hnodup hsubset).perm_of_length_le (by simp [hlength])
  obtain ⟨row, hrow, heq⟩ := List.mem_map.mp (hperm.mem_iff.mpr hid)
  exact ⟨row, hrow, heq⟩

end

end Fanfolio
