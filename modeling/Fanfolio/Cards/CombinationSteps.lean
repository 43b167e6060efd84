import Fanfolio.Cards.Combination
import Fanfolio.Framework.RowLocks

/-!
# The steps of a combination

`combine_cards` reads and locks its recipe, its materials and the card that it drew, one after
the other. What it writes is seen by other requests once it is committed; after that the event
of the combination is queued, and the request is answered.
-/

namespace Fanfolio

open Framework

/-- A request to combine cards. -/
structure CombineCall where
  userId : UserId
  request : CardCombinationRequest
  idempotencyKey : Option String
deriving DecidableEq, Repr

/-- The row of a combination, before its card is granted. -/
def CombineCall.combination (call : CombineCall) (context : RecipeContext)
    (combinationId : CombinationId) (resultCardId : CardId) : CardCombination :=
  { id := combinationId, userId := call.userId, recipeId := context.recipe.id,
    resultCardId := resultCardId, resultUserCardId := none,
    materialUserCardIds := call.request.materialUserCardIds,
    probabilityVersion := context.recipe.probabilityVersion,
    idempotencyKey := call.idempotencyKey }

/-- The rows that a combination inserts. -/
structure CombineWrites (Digest : Type) where
  combination : CardCombination
  materials : List CardCombinationMaterial
  userCards : List UserCard
  ledger : List (CardOwnershipLedger Digest)
  events : List EngagementEvent
deriving DecidableEq, Repr

/-- How far a request to combine cards has come. -/
inductive CombinePhase (Digest : Type) where
  | idle
  /-- No earlier combination has the key of the request. -/
  | opened (call : CombineCall)
  | loaded (call : CombineCall) (context : RecipeContext)
  | recipeLocked (call : CombineCall) (context : RecipeContext)
  /-- The rows of the materials are selected, and some of them are `locked`. -/
  | locking (call : CombineCall) (context : RecipeContext) (locked waiting : List UserCard)
  | checked (call : CombineCall) (context : RecipeContext) (materials : List UserCard)
  /-- Everything is written, and not committed. -/
  | written (call : CombineCall) (context : RecipeContext) (materials : List UserCard)
      (writes : CombineWrites Digest)
  /-- Everything is committed, and the event is not queued. -/
  | committed (call : CombineCall) (combination : CardCombination)

/-- The rows that a combination locks. -/
inductive CombineRow where
  | recipe (recipeId : RecipeId)
  | userCard (userCardId : UserCardId)
  | card (cardId : CardId)
deriving DecidableEq, Repr

/-- A step of a worker on its request. -/
inductive CombineAction where
  | open (worker : Nat) (call : CombineCall)
  | loadRecipe (worker : Nat)
  | lockRecipe (worker : Nat)
  /-- `order` is the order in which the database returns the materials. -/
  | selectMaterials (worker : Nat) (order : List UserCard)
  | lockMaterial (worker : Nat)
  | checkMaterials (worker : Nat)
  | write (worker : Nat) (draws : CombineDraws) (now : Time)
  /-- The text of a violated constraint may name its columns. -/
  | commit (worker : Nat) (namesColumns : Bool)
  /-- `enqueue_engagement_event`, with the answer of the queue. -/
  | enqueue (worker : Nat) (outcome : Except Failure Unit)
  /-- The request fails for a reason outside of the tables before its commit. -/
  | abort (worker : Nat) (exception : Failure)

/-- The committed tables, the locks on their rows and the requests under way. -/
abbrev CombinationRace (Digest : Type) :=
  RowLocks Nat CombineRow (CardDb Digest) (CombinePhase Digest)

/-- The checks of `combine_cards` on the request alone. -/
def checkQuantity (request : CardCombinationRequest) (context : RecipeContext) :
    Except Failure Unit := do
  ensure (request.materialUserCardIds.length = context.recipe.inputQuantity)
    (.app ⟨422, "CARD_COMBINATION_QUANTITY_INVALID", "조합 재료 수량이 맞지 않습니다."⟩)
  ensure request.materialUserCardIds.Nodup
    (.app ⟨422, "CARD_COMBINATION_DUPLICATE_MATERIAL",
      "같은 카드를 재료로 중복 선택할 수 없습니다."⟩)

section

variable {Digest : Type}

/-- The rows that `combine_cards` selects for update. -/
def CardDb.selectedMaterials (db : CardDb Digest) (call : CombineCall) (order : List UserCard) :
    List UserCard :=
  scan order (db.userCards.filter fun row =>
    row.id ∈ call.request.materialUserCardIds ∧ row.userId = call.userId)

/-- The checks of `combine_cards` on the locked materials. -/
def checkMaterials (db : CardDb Digest) (call : CombineCall) (context : RecipeContext)
    (materials : List UserCard) : Except Failure Unit := do
  ensure (materials.length = call.request.materialUserCardIds.length ∧
      ∀ item ∈ materials, ∃ link ∈ context.links, link.cardId = item.cardId)
    (.app ⟨422, "CARD_COMBINATION_SCOPE_MISMATCH", "같은 카드팩의 카드만 조합할 수 있습니다."⟩)
  ensure (∀ row ∈ db.materials, row.userCardId ∉ call.request.materialUserCardIds)
    (.app ⟨409, "CARD_COMBINATION_MATERIAL_UNAVAILABLE", "이미 사용한 카드가 포함되어 있습니다."⟩)

/-- The rows that tell the second tables from the first, which they extend. -/
def CombineWrites.between (db db' : CardDb Digest) (combination : CardCombination) :
    CombineWrites Digest :=
  { combination := combination
    materials := db'.materials.drop db.materials.length
    userCards := db'.userCards.drop db.userCards.length
    ledger := db'.ledger.drop db.ledger.length
    events := db'.events.drop db.events.length }

/-- The tables with the rows inserted. -/
def CombineWrites.insertInto (writes : CombineWrites Digest) (db : CardDb Digest) :
    CardDb Digest :=
  { db with
    combinations := db.combinations ++ [writes.combination]
    materials := db.materials ++ writes.materials
    userCards := db.userCards ++ writes.userCards
    ledger := db.ledger ++ writes.ledger
    events := db.events ++ writes.events }

theorem CombineWrites.between_insertInto (writes : CombineWrites Digest) (db : CardDb Digest) :
    CombineWrites.between db (writes.insertInto db) writes.combination = writes := by
  simp only [between, insertInto, List.drop_left]

/-- No unique column of the tables has a value of the rows. -/
structure CombineWrites.Fits (writes : CombineWrites Digest) (db : CardDb Digest) : Prop where
  userCards : ∀ row ∈ writes.userCards, ∀ row' ∈ db.userCards, row'.id ≠ row.id ∧
    ¬(row'.cardId = row.cardId ∧ row'.serialNumber = row.serialNumber) ∧
    ¬row'.sameOwnerAndCode row
  ledger : ∀ row ∈ writes.ledger, ∀ row' ∈ db.ledger, row'.id ≠ row.id ∧
    row.sameEvent row' = false
  events : ∀ row ∈ writes.events, ∀ row' ∈ db.events, row'.id ≠ row.id ∧
    row'.hasSource row.userId row.kind row.sourceType row.sourceId = false

instance (writes : CombineWrites Digest) (db : CardDb Digest) : Decidable (writes.Fits db) :=
  decidable_of_iff (_ ∧ _ ∧ _) ⟨fun h => ⟨h.1, h.2.1, h.2.2⟩, fun h => ⟨h.1, h.2, h.3⟩⟩

/-- The commit of what a combination has written: a duplicate key is refused. -/
def CardDb.commitCombination (db : CardDb Digest) (writes : CombineWrites Digest) :
    Except Failure (CardDb Digest) := do
  let _ ← db.insertCombination writes.combination
  ensure (∀ row ∈ writes.materials, ∀ row' ∈ db.materials, row'.userCardId ≠ row.userCardId)
    (.integrity "uq_card_combination_material_user_card")
  ensure (writes.Fits db) (.integrity "unique")
  return writes.insertInto db

/-- What `combine_cards` makes of an exception of its commit. -/
def CardDb.commitRefused (db : CardDb Digest) (call : CombineCall) (namesColumns : Bool)
    (exception : Failure) : Except Failure CardCombination :=
  match exception with
  | .integrity constraint =>
    match if namesColumns ∧ constraint = "uq_card_combinations_user_key" then
        db.findCombination call.userId call.idempotencyKey else none with
    | some existing => .ok existing
    | none =>
      if constraint = "uq_card_combination_material_user_card" then
        .error (.app ⟨409, "CARD_COMBINATION_MATERIAL_UNAVAILABLE",
          "이미 사용한 카드가 포함되어 있습니다."⟩)
      else .error exception
  | _ => .error exception

variable [RecordHash Digest]

/-- What is left of `combine_cards` once its materials are checked, up to its commit. -/
def completeCombination (db : CardDb Digest) (call : CombineCall) (context : RecipeContext)
    (materials : List UserCard) (draws : CombineDraws) (now : Time) :
    Except Failure (CardDb Digest × CardCombination) := do
  let resultCardId ← orFail (weightedChoice context.recipe.probabilitySnapshot draws.target)
    (.unhandled "StopIteration")
  let combination := call.combination context draws.combinationId resultCardId
  let inserted ← db.insertCombination combination
  let consumed ← consumeMaterials combination.id context.recipe.id call.userId
    draws.consumeLedgerId now inserted materials
  let (granted, result) ←
    grantUserCard consumed (combinationGrant call.userId resultCardId combination.id context)
      draws.grant now
  let (events, _) ← recordEngagementEvent granted.events call.userId "card_combined"
    "card_combination" combination.id
    [("combinationId", .str combination.id), ("recipeId", .str context.recipe.id),
      ("packId", .str context.pack.id), ("cardId", .str resultCardId),
      ("artistId", .str context.pack.artistId)] draws.eventId
  ensure (∃ card ∈ context.cards, card.id = resultCardId) (.unhandled "KeyError")
  return ({ granted with
      combinations := patch (·.id == combination.id)
        ({ · with resultUserCardId := some result.id }) granted.combinations
      events := events }, { combination with resultUserCardId := some result.id })

namespace CombinationRace

/-- The request fails, and its transaction is rolled back. -/
def fail (s : CombinationRace Digest) (worker : Nat) (exception : Failure) :
    CombinationRace Digest × Option (Except Failure CardCombination) :=
  (s.release worker s.committed .idle, some (.error exception))

/-- One step, and the answer of the request if the step ends it. A step that waits for a lock
leaves the state as it is. -/
def perform (s : CombinationRace Digest) :
    CombineAction → CombinationRace Digest × Option (Except Failure CardCombination)
  | .open worker call =>
    match s.phase worker with
    | .idle =>
      match s.committed.findCombination call.userId call.idempotencyKey with
      | some existing => (s, some (.ok existing))
      | none => (s.move worker (.opened call), none)
    | _ => (s, none)
  | .loadRecipe worker =>
    match s.phase worker with
    | .opened call =>
      match recipeContext s.committed call.request.recipeId with
      | .ok context => (s.move worker (.loaded call context), none)
      | .error exception => s.fail worker exception
    | _ => (s, none)
  | .lockRecipe worker =>
    match s.phase worker with
    | .loaded call context =>
      if s.owner (.recipe context.recipe.id) = none then
        match s.committed.recipes.find? (fun row => row.id == context.recipe.id) with
        | some recipe =>
          (s.acquire worker (.recipe recipe.id)
            (.recipeLocked call { context with recipe := recipe }), none)
        | none => s.fail worker (.unhandled "AttributeError")
      else (s, none)
    | _ => (s, none)
  | .selectMaterials worker order =>
    match s.phase worker with
    | .recipeLocked call context =>
      match checkQuantity call.request context with
      | .ok _ =>
        (s.move worker (.locking call context [] (s.committed.selectedMaterials call order)), none)
      | .error exception => s.fail worker exception
    | _ => (s, none)
  | .lockMaterial worker =>
    match s.phase worker with
    | .locking call context locked (material :: waiting) =>
      if s.owner (.userCard material.id) = none then
        (s.acquire worker (.userCard material.id)
          (.locking call context (locked ++ [material]) waiting), none)
      else (s, none)
    | _ => (s, none)
  | .checkMaterials worker =>
    match s.phase worker with
    | .locking call context materials [] =>
      match checkMaterials s.committed call context materials with
      | .ok _ => (s.move worker (.checked call context materials), none)
      | .error exception => s.fail worker exception
    | _ => (s, none)
  | .write worker draws now =>
    match s.phase worker with
    | .checked call context materials =>
      match completeCombination s.committed call context materials draws now with
      | .ok (db, combination) =>
        if s.owner (.card combination.resultCardId) = none then
          (s.acquire worker (.card combination.resultCardId)
            (.written call context materials (.between s.committed db combination)), none)
        else (s, none)
      | .error exception => s.fail worker exception
    | _ => (s, none)
  | .commit worker namesColumns =>
    match s.phase worker with
    | .written call _ _ writes =>
      match s.committed.commitCombination writes with
      | .ok db => (s.release worker db (.committed call writes.combination), none)
      | .error exception =>
        (s.release worker s.committed .idle,
          some (s.committed.commitRefused call namesColumns exception))
    | _ => (s, none)
  | .enqueue worker outcome =>
    match s.phase worker with
    | .committed _ combination =>
      (s.move worker .idle, some (outcome.map fun _ => combination))
    | _ => (s, none)
  | .abort worker exception =>
    match s.phase worker with
    | .idle => (s, none)
    | .committed _ _ => (s, none)
    | _ => s.fail worker exception

def step (s : CombinationRace Digest) (a : CombineAction) : CombinationRace Digest :=
  (s.perform a).1

/-- The answer of a request that the step ends. -/
def answer (s : CombinationRace Digest) (a : CombineAction) :
    Option (Except Failure CardCombination) := (s.perform a).2

/-- No request is under way. -/
def idle (db : CardDb Digest) : CombinationRace Digest := ⟨db, fun _ => none, fun _ => .idle⟩

end CombinationRace

variable {db db' : CardDb Digest} {call : CombineCall} {context : RecipeContext}
  {materials : List UserCard} {draws : CombineDraws} {now : Time} {combination : CardCombination}

omit [RecordHash Digest] in
theorem combineMaterials_iff {order : List UserCard} :
    combineMaterials db call.userId call.request context order = .ok materials ↔
      checkQuantity call.request context = .ok () ∧ db.selectedMaterials call order = materials ∧
      checkMaterials db call context materials = .ok () := by
  simp only [combineMaterials, checkQuantity, checkMaterials, bind_ok, ensure_ok, exists_const,
    pure_ok, CardDb.selectedMaterials]
  constructor
  · rintro ⟨hquantity, hnodup, hscope, hreserved, rfl⟩
    exact ⟨⟨hquantity, hnodup⟩, rfl, hscope, hreserved⟩
  · rintro ⟨⟨hquantity, hnodup⟩, rfl, hscope, hreserved⟩
    exact ⟨hquantity, hnodup, hscope, hreserved, rfl⟩

/-- The steps put together are `combine_cards`. -/
theorem combineCards_eq (db : CardDb Digest) (call : CombineCall) (order : List UserCard)
    (draws : CombineDraws) (now : Time) :
    combineCards db call.userId call.request call.idempotencyKey order draws now =
      match db.findCombination call.userId call.idempotencyKey with
      | some existing => .ok (db, existing)
      | none =>
        (do
          let context ← recipeContext db call.request.recipeId
          let materials ← combineMaterials db call.userId call.request context order
          completeCombination db call context materials draws now) := rfl

omit [RecordHash Digest] in
theorem insertCombination_ok : db.insertCombination combination = .ok db' ↔
    (∀ row ∈ db.combinations, row.id ≠ combination.id) ∧
    (∀ row ∈ db.combinations, ¬(row.userId = combination.userId ∧
      combination.idempotencyKey.isSome ∧ row.idempotencyKey = combination.idempotencyKey)) ∧
    { db with combinations := db.combinations ++ [combination] } = db' := by
  simp only [CardDb.insertCombination, bind_ok, ensure_ok, exists_const, pure_ok]

/-- Consumption appends one ledger event for each material, under keys that are new. -/
theorem consumeMaterials_rows {combinationId : CombinationId} {recipeId : RecipeId}
    {userId : UserId} {draw : UserCardId → LedgerId}
    (h : consumeMaterials combinationId recipeId userId draw now db materials = .ok db') :
    ∃ rows, rows.map (fun row => (row.userCardId, row.action)) =
        materials.map (fun material => (material.id, "consume")) ∧
      (∀ row ∈ rows, ∀ row' ∈ db.ledger, row'.id ≠ row.id ∧ row.sameEvent row' = false) ∧
      db' = { db with
        materials := db.materials ++ materials.map fun row => ⟨combinationId, row.id, row.cardId⟩
        ledger := db.ledger ++ rows } := by
  induction materials generalizing db with
  | nil =>
    obtain rfl := Except.ok.inj h
    exact ⟨[], by simp, by simp, by simp⟩
  | cons material materials ih =>
    simp only [consumeMaterials, bind_ok, appendLedger_ok] at h
    obtain ⟨recorded, ⟨hid, hevent, rfl⟩, hrest⟩ := h
    obtain ⟨rows, hrows, hfresh, rfl⟩ := ih hrest
    refine ⟨ownershipRow db.ledger (consumeEvent combinationId recipeId userId material)
      (draw material.id) now :: rows, ?_, ?_, ?_⟩
    · rw [List.map_cons, List.map_cons, hrows]
      rfl
    · rw [List.forall_mem_cons]
      refine ⟨fun row' hrow' => ⟨hid row' hrow', hevent row' hrow'⟩, ?_⟩
      intro row hrow row' hrow'
      exact hfresh row hrow row' (List.mem_append_left _ hrow')
    · simp only [List.map_cons, List.append_assoc, List.cons_append, List.nil_append]

omit [RecordHash Digest] in
/-- An event is found, or appended under a new identifier and a new source. -/
theorem recordEngagementEvent_rows {events events' : List EngagementEvent}
    {event : EngagementEvent} {userId : UserId} {kind sourceType sourceId : String}
    {payload : JsonObject} {eventId : EventId}
    (h : recordEngagementEvent events userId kind sourceType sourceId payload eventId =
      .ok (events', event)) :
    ∃ added, events' = events ++ added ∧ ∀ row ∈ added, ∀ row' ∈ events, row'.id ≠ row.id ∧
      row'.hasSource row.userId row.kind row.sourceType row.sourceId = false := by
  rcases recordEngagementEvent_cases h with ⟨-, rfl⟩ | ⟨hnone, hfresh, rfl, rfl⟩
  · exact ⟨[], by simp, by simp⟩
  · refine ⟨_, rfl, ?_⟩
    intro row hrow row' hrow'
    obtain rfl := List.mem_singleton.mp hrow
    refine ⟨hfresh row' hrow', ?_⟩
    have hother := List.find?_eq_none.mp hnone row' hrow'
    rwa [Bool.not_eq_true] at hother

/-- The cards are told apart, and every grant of a combination is of one that is recorded. -/
structure CombinationsSound (db : CardDb Digest) : Prop where
  userCards : (db.userCards.map (·.id)).Nodup
  materials : (db.materials.map (·.userCardId)).Nodup
  grants : ∀ row ∈ db.ledger, row.action = "grant" → row.sourceType = "card_combination" →
    ∃ combination ∈ db.combinations, combination.id = row.sourceId

omit [RecordHash Digest] in
/-- Nothing was granted for a combination that is not recorded. -/
theorem CombinationsSound.notGranted (h : CombinationsSound db) {combinationId : CombinationId}
    (hfresh : ∀ row ∈ db.combinations, row.id ≠ combinationId)
    {rows : List (CardOwnershipLedger Digest)} (hrows : ∀ row ∈ rows, row.action = "consume")
    (hledger : db'.ledger = db.ledger ++ rows) (userId : UserId) :
    db'.grantedCard userId "card_combination" combinationId = none := by
  rw [CardDb.grantedCard, Option.bind_eq_none_iff]
  intro row hfind
  exfalso
  have hgrant := List.find?_some hfind
  have hmem := List.mem_of_find?_eq_some hfind
  simp only [CardOwnershipLedger.isGrant, Bool.and_eq_true, beq_iff_eq] at hgrant
  rw [hledger, List.mem_append] at hmem
  rcases hmem with hold | hnew
  · obtain ⟨combination, hcombination, hid⟩ := h.grants row hold hgrant.1.1.2 hgrant.1.2
    exact hfresh combination hcombination (hid.trans hgrant.2)
  · have haction := hgrant.1.1.2
    rw [hrows row hnew] at haction
    exact absurd haction (by decide)

/-- What a combination writes: its own row, one row for each material, and one new card. -/
structure CombinationWritten (call : CombineCall) (context : RecipeContext)
    (materials : List UserCard) (writes : CombineWrites Digest) : Prop where
  user : writes.combination.userId = call.userId
  key : writes.combination.idempotencyKey = call.idempotencyKey
  chosen : writes.combination.resultCardId ∈ context.recipe.probabilitySnapshot.map Prod.fst
  consumed : writes.materials =
    materials.map fun row => ⟨writes.combination.id, row.id, row.cardId⟩
  granted : ∃ userCard, writes.userCards = [userCard] ∧ userCard.userId = call.userId ∧
    userCard.cardId = writes.combination.resultCardId ∧
    writes.combination.resultUserCardId = some userCard.id
  recorded : ∃ rows record, writes.ledger = rows ++ [record] ∧
    rows.map (fun row => (row.userCardId, row.action)) =
      materials.map (fun material => (material.id, "consume")) ∧
    record.action = "grant" ∧ record.sourceId = writes.combination.id

/-- A grant whose source has none yet inserts a card and its ledger event under new keys. -/
theorem grantUserCard_anew {request : GrantRequest} {draws : GrantDraws} {userCard : UserCard}
    (hnone : db.grantedCard request.userId request.sourceType request.sourceId = none)
    (h : grantUserCard db request draws now = .ok (db', userCard)) :
    ∃ record, userCard.userId = request.userId ∧ userCard.cardId = request.cardId ∧
      record.action = "grant" ∧ record.sourceId = request.sourceId ∧
      (∀ row ∈ db.userCards, row.id ≠ userCard.id ∧
        ¬(row.cardId = userCard.cardId ∧ row.serialNumber = userCard.serialNumber) ∧
        ¬row.sameOwnerAndCode userCard) ∧
      (∀ row ∈ db.ledger, row.id ≠ record.id ∧ record.sameEvent row = false) ∧
      db' = { db with
        userCards := db.userCards ++ [userCard]
        ledger := db.ledger ++ [record] } := by
  simp only [grantUserCard, hnone, bind_ok, orFail_ok, ensure_ok, exists_const, pure_ok,
    Prod.mk.injEq, insertUserCard_ok, appendLedger_ok] at h
  obtain ⟨card, -, -, _, ⟨hid, hserial, hcode, rfl⟩, _, ⟨hledgerId, hevent, rfl⟩, rfl, rfl⟩ := h
  refine ⟨_, rfl, rfl, rfl, rfl, ?_, ?_, rfl⟩
  · intro row hrow
    exact ⟨hid row hrow, hserial row hrow, hcode row hrow⟩
  · intro row hrow
    exact ⟨hledgerId row hrow, hevent row hrow⟩

/-- What is written is the rows of one combination, and a commit without other requests leaves
exactly what `combine_cards` does. -/
theorem completeCombination_written (hsound : CombinationsSound db)
    (hfree : ∀ material ∈ materials, ∀ row ∈ db.materials, row.userCardId ≠ material.id)
    (h : completeCombination db call context materials draws now = .ok (db', combination)) :
    ∃ writes, CombineWrites.between db db' combination = writes ∧
      writes.combination = combination ∧ CombinationWritten call context materials writes ∧
      db.commitCombination writes = .ok db' := by
  simp only [completeCombination, bind_ok, orFail_ok, ensure_ok, exists_const, pure_ok,
    Prod.exists, Prod.mk.injEq, insertCombination_ok] at h
  obtain ⟨resultCardId, hchoice, inserted, ⟨hfresh, hunused, hinserted⟩, consumed, hconsumed,
    granted, result, hgrant, events, event, hevents, -, hafter, hcombination⟩ := h
  obtain ⟨rows, hrows, hnewRows, rfl⟩ := consumeMaterials_rows hconsumed
  have hactions : ∀ row ∈ rows, row.action = "consume" := by
    intro row hrow
    have hmem := List.mem_map_of_mem (f := fun row : CardOwnershipLedger Digest =>
      (row.userCardId, row.action)) hrow
    rw [hrows] at hmem
    obtain ⟨material, -, heq⟩ := List.mem_map.mp hmem
    exact (Prod.mk.inj heq).2.symm
  obtain ⟨record, huser, hcard, hgranted, hsource, hnewCard, hnewRecord, rfl⟩ :=
    grantUserCard_anew (hsound.notGranted hfresh hactions (by rw [← hinserted]) _) hgrant
  subst hinserted
  obtain ⟨added, rfl, hadded⟩ := recordEngagementEvent_rows hevents
  have hpatch : patch (·.id == draws.combinationId)
      (fun row : CardCombination => { row with resultUserCardId := some result.id })
      (db.combinations ++ [call.combination context draws.combinationId resultCardId]) =
        db.combinations ++ [{ call.combination context draws.combinationId resultCardId with
          resultUserCardId := some result.id }] :=
    patch_insert (fun row hrow => beq_false_of_ne (hfresh row hrow)) (beq_self_eq_true _)
  let writes : CombineWrites Digest :=
    { combination := combination
      materials := materials.map fun row => ⟨draws.combinationId, row.id, row.cardId⟩
      userCards := [result]
      ledger := rows ++ [record]
      events := added }
  have hinto : db' = writes.insertInto db := by
    rw [← hafter]
    simp only [writes, CombineWrites.insertInto, ← hcombination, ← hpatch, List.append_assoc]
    rfl
  refine ⟨writes, ?_, rfl, ?_, ?_⟩
  · rw [hinto]
    exact writes.between_insertInto db
  · subst hcombination
    exact ⟨rfl, rfl, pickOrLast_mem hchoice, rfl, ⟨result, rfl, huser, hcard, rfl⟩,
      rows, record, rfl, hrows, hgranted, hsource⟩
  · simp only [CardDb.commitCombination, bind_ok, insertCombination_ok, ensure_ok, exists_const,
      pure_ok]
    subst hcombination
    refine ⟨_, ⟨hfresh, hunused, rfl⟩, ?_, ?_, hinto.symm⟩
    · intro row hrow
      obtain ⟨material, hmaterial, rfl⟩ := List.mem_map.mp hrow
      exact hfree material hmaterial
    · refine ⟨?_, ?_, hadded⟩
      · intro row hrow
        obtain rfl := List.mem_singleton.mp hrow
        exact hnewCard
      · intro row hrow
        rcases List.mem_append.mp hrow with hconsume | hlast
        · exact hnewRows row hconsume
        · obtain rfl := List.mem_singleton.mp hlast
          intro row' hrow'
          exact hnewRecord row' (List.mem_append_left _ hrow')

end

end Fanfolio
