import Fanfolio.Cards.CombinationSteps
import Fanfolio.Cards.System

/-!
# Combinations that race

Requests to combine cards run at the same time. A request holds the rows of its materials from
before it checks them until its commit, so that no two of them consume the same card.
-/

namespace Fanfolio

open Framework

section

variable {Digest : Type}

/-- Rows of the caller that the request names, each once. -/
structure OwnRows (db : CardDb Digest) (call : CombineCall) (rows : List UserCard) : Prop where
  owned : ∀ row ∈ rows, row ∈ db.userCards ∧ row.userId = call.userId
  requested : ∀ row ∈ rows, row.id ∈ call.request.materialUserCardIds
  distinct : (rows.map (·.id)).Nodup

/-- Materials that a combination may consume. -/
structure UsableMaterials (db : CardDb Digest) (call : CombineCall) (context : RecipeContext)
    (materials : List UserCard) : Prop where
  loaded : recipeContext db call.request.recipeId = .ok context
  quantity : materials.length = context.recipe.inputQuantity
  own : OwnRows db call materials
  inPack : ∀ material ∈ materials, ∃ link ∈ context.links, link.cardId = material.cardId
  unconsumed : ∀ material ∈ materials, ∀ row ∈ db.materials, row.userCardId ≠ material.id

namespace CombinePhase

/-- The rows that a request holds. -/
def holds : CombinePhase Digest → CombineRow → Prop
  | .recipeLocked _ context, row => row = .recipe context.recipe.id
  | .locking _ context locked _, row =>
    row = .recipe context.recipe.id ∨ ∃ material ∈ locked, row = .userCard material.id
  | .checked _ context materials, row =>
    row = .recipe context.recipe.id ∨ ∃ material ∈ materials, row = .userCard material.id
  | .written _ context materials writes, row =>
    row = .card writes.combination.resultCardId ∨
      row = .recipe context.recipe.id ∨ ∃ material ∈ materials, row = .userCard material.id
  | _, _ => False

/-- What a request knows of the committed tables. -/
def knows : CombinePhase Digest → CardDb Digest → Prop
  | .loaded call context, db => recipeContext db call.request.recipeId = .ok context
  | .recipeLocked call context, db => recipeContext db call.request.recipeId = .ok context
  | .locking call context locked waiting, db =>
    recipeContext db call.request.recipeId = .ok context ∧
      checkQuantity call.request context = .ok () ∧ OwnRows db call (locked ++ waiting)
  | .checked call context materials, db => UsableMaterials db call context materials
  | .written call context materials writes, db =>
    UsableMaterials db call context materials ∧ CombinationWritten call context materials writes
  | _, _ => True

end CombinePhase

variable {db db' : CardDb Digest} {call : CombineCall} {context : RecipeContext}
  {materials : List UserCard} {writes : CombineWrites Digest}

theorem recipeContext_ok {recipeId : RecipeId} (h : recipeContext db recipeId = .ok context) :
    db.recipes.find? (fun row => row.id == recipeId) = some context.recipe ∧
      context.links = db.enabledLinks context.recipe.scopeId := by
  simp only [recipeContext, bind_ok, orFail_ok, ensure_ok, exists_const, pure_ok] at h
  obtain ⟨recipe, hrecipe, -, -, pack, hpack, -, rfl⟩ := h
  refine ⟨hrecipe, ?_⟩
  rw [(mem_of_find_eq_some hpack).2]

theorem OwnRows.insertInto (h : OwnRows db call materials) (writes : CombineWrites Digest) :
    OwnRows (writes.insertInto db) call materials := by
  refine ⟨?_, h.requested, h.distinct⟩
  intro row hrow
  obtain ⟨hmem, huser⟩ := h.owned row hrow
  exact ⟨List.mem_append_left _ hmem, huser⟩

theorem commitCombination_ok (h : db.commitCombination writes = .ok db') :
    db' = writes.insertInto db ∧
    (∀ row ∈ db.combinations, ¬(row.userId = writes.combination.userId ∧
      writes.combination.idempotencyKey.isSome ∧
      row.idempotencyKey = writes.combination.idempotencyKey)) ∧
    (∀ row ∈ writes.materials, ∀ row' ∈ db.materials, row'.userCardId ≠ row.userCardId) ∧
    writes.Fits db := by
  simp only [CardDb.commitCombination, bind_ok, insertCombination_ok, ensure_ok, exists_const,
    pure_ok] at h
  obtain ⟨_, ⟨-, hunused, -⟩, hmaterials, hfits, rfl⟩ := h
  exact ⟨rfl, hunused, hmaterials, hfits⟩

/-- What another request knows stays so when a request with other rows commits. -/
theorem knows_insertInto {phase : CombinePhase Digest}
    (hwritten : CombinationWritten call context materials writes)
    (hother : ∀ row, phase.holds row →
      ¬(CombinePhase.written call context materials writes).holds row)
    (h : phase.knows db) : phase.knows (writes.insertInto db) := by
  have husable : ∀ {call' context' materials'},
      (∀ material ∈ materials', ∀ material' ∈ materials, material.id ≠ material'.id) →
      UsableMaterials db call' context' materials' →
      UsableMaterials (writes.insertInto db) call' context' materials' := by
    intro call' context' materials' hdisjoint husable
    refine ⟨husable.loaded, husable.quantity, husable.own.insertInto writes, husable.inPack, ?_⟩
    intro material hmaterial row hrow
    rcases List.mem_append.mp hrow with hold | hnew
    · exact husable.unconsumed material hmaterial row hold
    · rw [hwritten.consumed] at hnew
      obtain ⟨material', hmaterial', rfl⟩ := List.mem_map.mp hnew
      exact (hdisjoint material hmaterial material' hmaterial').symm
  have hdisjoint : ∀ {materials' : List UserCard},
      (∀ material ∈ materials', phase.holds (.userCard material.id)) →
      ∀ material ∈ materials', ∀ material' ∈ materials, material.id ≠ material'.id := by
    intro materials' hholds material hmaterial material' hmaterial' heq
    exact hother _ (hholds material hmaterial) (.inr (.inr ⟨material', hmaterial', by rw [heq]⟩))
  cases phase with
  | idle | opened | committed => trivial
  | loaded | recipeLocked => exact h
  | locking call' context' locked waiting =>
    exact ⟨h.1, h.2.1, h.2.2.insertInto writes⟩
  | checked call' context' materials' =>
    exact husable (hdisjoint fun material hmem => .inr ⟨material, hmem, rfl⟩) h
  | written call' context' materials' writes' =>
    exact ⟨husable (hdisjoint fun material hmem => .inr (.inr ⟨material, hmem, rfl⟩)) h.1, h.2⟩

/-- A commit leaves the cards told apart, and its own grant recorded. -/
theorem CombinationsSound.insertInto (h : CombinationsSound db)
    (husable : UsableMaterials db call context materials)
    (hwritten : CombinationWritten call context materials writes) (hfits : writes.Fits db) :
    CombinationsSound (writes.insertInto db) := by
  obtain ⟨userCard, hcards, -, -, -⟩ := hwritten.granted
  obtain ⟨rows, record, hledger, hrows, -, hsource⟩ := hwritten.recorded
  refine ⟨?_, ?_, ?_⟩
  · rw [CombineWrites.insertInto, hcards]
    refine nodup_insert h.userCards fun row hrow => ?_
    exact (hfits.userCards userCard (by simp [hcards]) row hrow).1
  · rw [CombineWrites.insertInto, hwritten.consumed, List.map_append, List.map_map]
    refine List.nodup_append.mpr ⟨h.materials, husable.own.distinct, ?_⟩
    intro id hid id' hid' heq
    obtain ⟨row, hrow, rfl⟩ := List.mem_map.mp hid
    obtain ⟨material, hmaterial, rfl⟩ := List.mem_map.mp hid'
    exact husable.unconsumed material hmaterial row hrow heq
  · intro row hrow haction hcombination
    rw [CombineWrites.insertInto, List.mem_append, hledger, List.mem_append] at hrow
    rcases hrow with hold | hconsume | hlast
    · obtain ⟨combination, hmem, hid⟩ := h.grants row hold haction hcombination
      exact ⟨combination, List.mem_append_left _ hmem, hid⟩
    · have hmem := List.mem_map_of_mem (f := fun row : CardOwnershipLedger Digest =>
        (row.userCardId, row.action)) hconsume
      rw [hrows] at hmem
      obtain ⟨material, -, heq⟩ := List.mem_map.mp hmem
      rw [← (Prod.mk.inj heq).2] at haction
      exact absurd haction (by decide)
    · rw [List.mem_singleton.mp hlast]
      exact ⟨writes.combination, List.mem_append_right _ (List.mem_singleton.mpr rfl),
        hsource.symm⟩

/-- The cards are told apart, and what each request knows is so. -/
structure CombinationRace.Sound (s : CombinationRace Digest) : Prop where
  tables : CombinationsSound s.committed
  knows : s.Knows CombinePhase.holds CombinePhase.knows

/-- What one combination took and gave. -/
structure Consumes (db db' : CardDb Digest) (call : CombineCall) (combination : CardCombination)
    (recipe : CardCombinationRecipe) (materials : List UserCard) (userCard : UserCard) :
    Prop where
  recipe_mem : recipe ∈ db.recipes ∧ recipe.id = call.request.recipeId
  quantity : materials.length = recipe.inputQuantity
  distinct : (materials.map (·.id)).Nodup
  owned : ∀ material ∈ materials, material ∈ db.userCards ∧ material.userId = call.userId
  inPack : ∀ material ∈ materials, ∃ link ∈ db.enabledLinks recipe.scopeId,
    link.cardId = material.cardId
  unconsumed : ∀ material ∈ materials, ∀ row ∈ db.materials, row.userCardId ≠ material.id
  unusedKey : ∀ row ∈ db.combinations, ¬(row.userId = call.userId ∧
    call.idempotencyKey.isSome ∧ row.idempotencyKey = call.idempotencyKey)
  combinations : db'.combinations = db.combinations ++ [combination]
  recorded : combination.userId = call.userId ∧
    combination.idempotencyKey = call.idempotencyKey ∧
    combination.resultUserCardId = some userCard.id
  materials_eq : db'.materials = db.materials ++
    materials.map fun row => ⟨combination.id, row.id, row.cardId⟩
  userCards_eq : db'.userCards = db.userCards ++ [userCard]
  granted : userCard.userId = call.userId ∧
    userCard.cardId ∈ recipe.probabilitySnapshot.map Prod.fst
  ledger : ∃ rows record, db'.ledger = db.ledger ++ (rows ++ [record]) ∧
    rows.map (fun row => (row.userCardId, row.action)) =
      materials.map (fun material => (material.id, "consume")) ∧ record.action = "grant"

/-- A commit takes and gives what the recipe says. -/
theorem consumes_insertInto (husable : UsableMaterials db call context materials)
    (hwritten : CombinationWritten call context materials writes)
    (hunused : ∀ row ∈ db.combinations, ¬(row.userId = writes.combination.userId ∧
      writes.combination.idempotencyKey.isSome ∧
      row.idempotencyKey = writes.combination.idempotencyKey)) :
    ∃ userCard, Consumes db (writes.insertInto db) call writes.combination context.recipe materials
      userCard := by
  obtain ⟨hrecipe, hlinks⟩ := recipeContext_ok husable.loaded
  obtain ⟨userCard, hcards, huser, hcard, hresult⟩ := hwritten.granted
  obtain ⟨rows, record, hledger, hrows, haction, -⟩ := hwritten.recorded
  rw [hwritten.user, hwritten.key] at hunused
  refine ⟨userCard, mem_of_find_eq_some hrecipe, husable.quantity, husable.own.distinct,
    husable.own.owned, hlinks ▸ husable.inPack, husable.unconsumed, hunused, rfl,
    ⟨hwritten.user, hwritten.key, hresult⟩, ?_, ?_, ⟨huser, hcard ▸ hwritten.chosen⟩,
    rows, record, ?_, hrows, haction⟩
  · rw [CombineWrites.insertInto, hwritten.consumed]
  · rw [CombineWrites.insertInto, hcards]
  · rw [CombineWrites.insertInto, hledger]

/-- The worker of a step. -/
def CombineAction.worker : CombineAction → Nat
  | .open worker _ | .loadRecipe worker | .lockRecipe worker | .selectMaterials worker _
  | .lockMaterial worker | .checkMaterials worker | .write worker _ _ | .commit worker _
  | .enqueue worker _ | .abort worker _ => worker

/-- The tables are as they were, and no request has come past its commit. -/
structure CombinationRace.Quiet (s s' : CombinationRace Digest) : Prop where
  sound : s'.Sound
  tables : s'.committed = s.committed
  kept : ∀ worker call combination, s'.phase worker = .committed call combination →
    s.phase worker = .committed call combination

/-- What one step does, with the answer that it gives. -/
inductive CombineEffect (s : CombinationRace Digest) (a : CombineAction) :
    CombinationRace Digest × Option (Except Failure CardCombination) → Prop where
  | quiet {s'} (h : s.Quiet s') : CombineEffect s a (s', none)
  | failed {s'} (h : s.Quiet s') (e : Failure)
      (hopen : ∀ call combination, s.phase a.worker ≠ .committed call combination) :
      CombineEffect s a (s', some (.error e))
  | replayed {s'} (h : s.Quiet s') {combination : CardCombination}
      (hmem : combination ∈ s.committed.combinations) :
      CombineEffect s a (s', some (.ok combination))
  | consumed {s'} (h : s'.Sound) (call : CombineCall) (combination : CardCombination)
      (hphase : s'.phase a.worker = .committed call combination)
      (hothers : ∀ worker, worker ≠ a.worker → s'.phase worker = s.phase worker)
      (hconsumes : ∃ recipe materials userCard,
        Consumes s.committed s'.committed call combination recipe materials userCard) :
      CombineEffect s a (s', none)
  | queued {s'} (h : s.Quiet s') (call : CombineCall) (combination : CardCombination)
      (hphase : s.phase a.worker = .committed call combination) (outcome : Except Failure Unit)
      (haction : a = .enqueue a.worker outcome) :
      CombineEffect s a (s', some (outcome.map fun _ => combination))

namespace CombinationRace.Sound

variable {s : CombinationRace Digest} {worker : Nat} {phase : CombinePhase Digest}

theorem quiet (h : s.Sound) : s.Quiet s := ⟨h, rfl, fun _ _ _ hphase => hphase⟩

/-- A phase that is written is not one after a commit. -/
theorem kept_update {s' : CombinationRace Digest}
    (hphase : s'.phase = Function.update s.phase worker phase)
    (hopen : ∀ call combination, phase ≠ .committed call combination) :
    ∀ worker' call combination, s'.phase worker' = .committed call combination →
      s.phase worker' = .committed call combination := by
  intro worker' call combination hcommitted
  rw [hphase] at hcommitted
  by_cases hw : worker' = worker
  · subst hw
    rw [Function.update_self] at hcommitted
    exact absurd hcommitted (hopen call combination)
  · rwa [Function.update_of_ne hw] at hcommitted

theorem move (h : s.Sound) (hrows : ∀ row, phase.holds row → (s.phase worker).holds row)
    (hknows : phase.knows s.committed)
    (hopen : ∀ call combination, phase ≠ .committed call combination) :
    s.Quiet (RowLocks.move s worker phase) :=
  ⟨⟨h.tables, h.knows.move hrows hknows⟩, rfl, kept_update rfl hopen⟩

theorem acquire (h : s.Sound) {row : CombineRow} (hfree : s.owner row = none)
    (hrows : ∀ row', phase.holds row' → row' = row ∨ (s.phase worker).holds row')
    (hknows : phase.knows s.committed)
    (hopen : ∀ call combination, phase ≠ .committed call combination) :
    s.Quiet (RowLocks.acquire s worker row phase) :=
  ⟨⟨h.tables, h.knows.acquire hfree hrows hknows⟩, rfl, kept_update rfl hopen⟩

theorem rollback (h : s.Sound) (worker : Nat) :
    s.Quiet (RowLocks.release s worker s.committed .idle) :=
  ⟨⟨h.tables, h.knows.release (fun _ hholds => hholds) trivial fun _ _ hknows => hknows⟩, rfl,
    kept_update rfl fun _ _ hphase => by cases hphase⟩

theorem fail (h : s.Sound) {a : CombineAction} (e : Failure)
    (hopen : ∀ call combination, s.phase a.worker ≠ .committed call combination) :
    CombineEffect s a (s.fail a.worker e) :=
  .failed (h.rollback a.worker) e hopen

/-- A request fails in a phase before its commit. -/
theorem failIn (h : s.Sound) {a : CombineAction} {phase : CombinePhase Digest} (e : Failure)
    (hphase : s.phase a.worker = phase)
    (hopen : ∀ call combination, phase ≠ .committed call combination) :
    CombineEffect s a (s.fail a.worker e) :=
  h.fail e (hphase ▸ hopen)

end CombinationRace.Sound

theorem checkQuantity_ok {request : CardCombinationRequest} {u : Unit} :
    checkQuantity request context = .ok u ↔
      request.materialUserCardIds.length = context.recipe.inputQuantity ∧
        request.materialUserCardIds.Nodup := by
  simp [checkQuantity]

theorem OwnRows.selected (hids : (db.userCards.map (·.id)).Nodup) (call : CombineCall)
    (order : List UserCard) : OwnRows db call (db.selectedMaterials call order) := by
  have hselected : ∀ row ∈ db.selectedMaterials call order, row ∈ db.userCards ∧
      row.id ∈ call.request.materialUserCardIds ∧ row.userId = call.userId := by
    intro row hrow
    rw [CardDb.selectedMaterials, (scan_perm _ _).mem_iff, List.mem_filter] at hrow
    exact ⟨hrow.1, of_decide_eq_true hrow.2⟩
  refine ⟨?_, ?_, ?_⟩
  · intro row hrow
    exact ⟨(hselected row hrow).1, (hselected row hrow).2.2⟩
  · intro row hrow
    exact (hselected row hrow).2.1
  · exact ((scan_perm order _).map _).nodup_iff.mpr (nodup_delete _ hids)

/-- The checks on the locked rows find materials that may be consumed. -/
theorem UsableMaterials.of_checks {u : Unit}
    (hloaded : recipeContext db call.request.recipeId = .ok context)
    (hquantity : checkQuantity call.request context = .ok ())
    (hown : OwnRows db call materials)
    (hchecks : checkMaterials db call context materials = .ok u) :
    UsableMaterials db call context materials := by
  simp only [checkMaterials, bind_ok, ensure_ok, exists_const] at hchecks
  obtain ⟨⟨hlength, hlinks⟩, hreserved⟩ := hchecks
  refine ⟨hloaded, hlength.trans (checkQuantity_ok.mp hquantity).1, hown, hlinks, ?_⟩
  intro material hmaterial row hrow heq
  exact hreserved row hrow (heq ▸ hown.requested material hmaterial)

theorem findCombination_mem {userId : UserId} {idempotencyKey : Option String}
    {combination : CardCombination}
    (h : db.findCombination userId idempotencyKey = some combination) :
    combination ∈ db.combinations := by
  obtain ⟨key, -, hfind⟩ := Option.bind_eq_some_iff.mp h
  exact List.mem_of_find?_eq_some hfind

variable [RecordHash Digest]

namespace CombinationRace.Sound

variable {s : CombinationRace Digest} {worker : Nat}

theorem lockMaterial (h : s.Sound) (worker : Nat) :
    CombineEffect s (.lockMaterial worker) (s.perform (.lockMaterial worker)) := by
  simp only [CombinationRace.perform]
  split
  · rename_i call context locked material waiting hphase
    have hknown := h.knows.facts worker
    rw [hphase] at hknown
    split
    · rename_i hfree
      refine .quiet (h.acquire hfree ?_ ?_ fun _ _ heq => by cases heq)
      · intro row hrow
        rw [hphase]
        rcases hrow with hrecipe | ⟨material', hmem, hrow⟩
        · exact .inr (.inl hrecipe)
        · rcases List.mem_append.mp hmem with hold | hnew
          · exact .inr (.inr ⟨material', hold, hrow⟩)
          · rw [List.mem_singleton.mp hnew] at hrow
            exact .inl hrow
      · refine ⟨hknown.1, hknown.2.1, ?_⟩
        rw [List.append_assoc]
        exact hknown.2.2
    · exact .quiet h.quiet
  · exact .quiet h.quiet

theorem checkMaterials (h : s.Sound) (worker : Nat) :
    CombineEffect s (.checkMaterials worker) (s.perform (.checkMaterials worker)) := by
  simp only [CombinationRace.perform]
  split
  · rename_i call context materials hphase
    have hknown := h.knows.facts worker
    rw [hphase] at hknown
    obtain ⟨hloaded, hquantity, hown⟩ := hknown
    rw [List.append_nil] at hown
    split
    · rename_i hchecks
      refine .quiet (h.move ?_ (.of_checks hloaded hquantity hown hchecks)
        fun _ _ heq => by cases heq)
      intro row hrow
      rw [hphase]
      exact hrow
    · exact h.failIn (a := .checkMaterials worker) _ hphase fun _ _ heq => by cases heq
  · exact .quiet h.quiet

theorem write (h : s.Sound) (worker : Nat) (draws : CombineDraws) (now : Time) :
    CombineEffect s (.write worker draws now) (s.perform (.write worker draws now)) := by
  simp only [CombinationRace.perform]
  split
  · rename_i call context materials hphase
    have hknown := h.knows.facts worker
    rw [hphase] at hknown
    split
    · rename_i db combination hcomplete
      obtain ⟨writes, hwrites, rfl, hwritten, -⟩ :=
        completeCombination_written h.tables hknown.unconsumed hcomplete
      split
      · rename_i hfree
        rw [hwrites]
        refine .quiet (h.acquire hfree ?_ ⟨hknown, hwritten⟩ fun _ _ heq => by cases heq)
        intro row hrow
        rw [hphase]
        exact hrow
      · exact .quiet h.quiet
    · exact h.failIn (a := .write worker draws now) _ hphase fun _ _ heq => by cases heq
  · exact .quiet h.quiet

theorem commit (h : s.Sound) (worker : Nat) (namesColumns : Bool) :
    CombineEffect s (.commit worker namesColumns) (s.perform (.commit worker namesColumns)) := by
  simp only [CombinationRace.perform]
  split
  · rename_i call context materials writes hphase
    have hknown := h.knows.facts worker
    rw [hphase] at hknown
    obtain ⟨husable, hwritten⟩ := hknown
    have hopen : ∀ call combination,
        s.phase (CombineAction.commit worker namesColumns).worker ≠ .committed call combination := by
      intro _ _ heq
      rw [CombineAction.worker, hphase] at heq
      cases heq
    split
    · rename_i db hcommit
      obtain ⟨rfl, hunused, -, hfits⟩ := commitCombination_ok hcommit
      refine .consumed ⟨h.tables.insertInto husable hwritten hfits, ?_⟩ call writes.combination ?_
        ?_ ?_
      · refine h.knows.release (fun _ hholds => hholds) trivial ?_
        intro phase hother hknows
        rw [hphase] at hother
        exact knows_insertInto hwritten hother hknows
      · exact Function.update_self _ _ _
      · exact fun _ hother => Function.update_of_ne hother _ _
      · obtain ⟨userCard, hconsumes⟩ := consumes_insertInto husable hwritten hunused
        exact ⟨_, _, userCard, hconsumes⟩
    · have hquiet := h.rollback worker
      unfold CardDb.commitRefused
      split
      · split
        · rename_i existing hfound
          refine .replayed hquiet ?_
          split at hfound
          · exact findCombination_mem hfound
          · cases hfound
        · split
          · exact .failed hquiet _ hopen
          · exact .failed hquiet _ hopen
      · exact .failed hquiet _ hopen
  · exact .quiet h.quiet

/-- What each step of each request does. -/
theorem perform (h : s.Sound) (a : CombineAction) : CombineEffect s a (s.perform a) := by
  cases a with
  | «open» worker call =>
    simp only [CombinationRace.perform]
    split
    · split
      · rename_i existing hfound
        exact .replayed h.quiet (findCombination_mem hfound)
      · exact .quiet (h.move (fun _ hholds => by cases hholds) trivial fun _ _ heq => by cases heq)
    · exact .quiet h.quiet
  | loadRecipe worker =>
    simp only [CombinationRace.perform]
    split
    · rename_i call hphase
      split
      · rename_i context hloaded
        exact .quiet (h.move (fun _ hholds => by cases hholds) hloaded
          fun _ _ heq => by cases heq)
      · exact h.failIn (a := .loadRecipe worker) _ hphase fun _ _ heq => by cases heq
    · exact .quiet h.quiet
  | lockRecipe worker =>
    simp only [CombinationRace.perform]
    split
    · rename_i call context hphase
      have hloaded := h.knows.facts worker
      rw [hphase] at hloaded
      split
      · rename_i hfree
        split
        · rename_i recipe hfound
          have hrecipe : recipe = context.recipe := by
            have hid := (mem_of_find_eq_some (recipeContext_ok hloaded).1).2
            rw [hid, (recipeContext_ok hloaded).1] at hfound
            exact (Option.some.inj hfound).symm
          subst hrecipe
          exact .quiet (h.acquire hfree (fun _ hholds => .inl hholds) hloaded
            fun _ _ heq => by cases heq)
        · exact h.failIn (a := .lockRecipe worker) _ hphase fun _ _ heq => by cases heq
      · exact .quiet h.quiet
    · exact .quiet h.quiet
  | selectMaterials worker order =>
    simp only [CombinationRace.perform]
    split
    · rename_i call context hphase
      have hloaded := h.knows.facts worker
      rw [hphase] at hloaded
      split
      · rename_i hquantity
        refine .quiet (h.move ?_ ⟨hloaded, hquantity, .selected h.tables.userCards call order⟩
          fun _ _ heq => by cases heq)
        rintro row (hrecipe | ⟨material, hmem, -⟩)
        · rw [hphase]
          exact hrecipe
        · exact absurd hmem List.not_mem_nil
      · exact h.failIn (a := .selectMaterials worker order) _ hphase fun _ _ heq => by cases heq
    · exact .quiet h.quiet
  | lockMaterial worker => exact h.lockMaterial worker
  | checkMaterials worker => exact h.checkMaterials worker
  | write worker draws now => exact h.write worker draws now
  | commit worker namesColumns => exact h.commit worker namesColumns
  | enqueue worker outcome =>
    simp only [CombinationRace.perform]
    split
    · rename_i call combination hphase
      have hdone : s.Quiet (RowLocks.move s worker .idle) :=
        h.move (fun _ hholds => by cases hholds) trivial fun _ _ heq => by cases heq
      exact .queued (a := .enqueue worker outcome) hdone call combination hphase outcome rfl
    · exact .quiet h.quiet
  | abort worker exception =>
    simp only [CombinationRace.perform]
    split
    · exact .quiet h.quiet
    · exact .quiet h.quiet
    · rename_i hopen
      exact h.fail (a := .abort worker exception) _ fun call combination heq =>
        hopen call combination heq

end CombinationRace.Sound

omit [RecordHash Digest] in
theorem CombinationRace.sound_idle (h : CombinationsSound db) :
    (CombinationRace.idle db).Sound := by
  refine ⟨h, ?_, fun _ => trivial⟩
  intro worker row hholds
  cases hholds

/-- The tables change by combinations only, a success answers what was committed or found, and a
failure leaves nothing behind. -/
structure CombineLawful (s : CombinationRace Digest) (a : CombineAction) : Prop where
  commits :
    ((s.step a).committed = s.committed ∧ ∀ worker call combination,
      (s.step a).phase worker = .committed call combination →
      s.phase worker = .committed call combination) ∨
    ∃ call combination, (s.step a).phase a.worker = .committed call combination ∧
      (∀ worker, worker ≠ a.worker → (s.step a).phase worker = s.phase worker) ∧
      ∃ recipe materials userCard,
        Consumes s.committed (s.step a).committed call combination recipe materials userCard
  success : ∀ combination, s.answer a = some (.ok combination) →
    (s.step a).committed = s.committed ∧
    ((∃ call, s.phase a.worker = .committed call combination) ∨
      combination ∈ s.committed.combinations)
  failure : ∀ e, s.answer a = some (.error e) → (s.step a).committed = s.committed ∧
    ∀ call combination, s.phase a.worker ≠ .committed call combination

/-- The event of a combination that is committed is queued. -/
def EventQueued (s : CombinationRace Digest) : CombineAction → Prop
  | .enqueue worker outcome =>
    ∀ call combination, s.phase worker = .committed call combination → outcome.isOk
  | _ => True

theorem combineLawful_iff {s : CombinationRace Digest} (h : s.Sound) (a : CombineAction) :
    CombineLawful s a ↔ EventQueued s a := by
  have heffect := h.perform a
  constructor
  · intro hlawful
    cases a with
    | enqueue worker outcome =>
      intro call combination hphase
      cases outcome with
      | ok u => rfl
      | error e =>
        have hanswer : s.answer (.enqueue worker (.error e)) = some (.error e) := by
          simp only [CombinationRace.answer, CombinationRace.perform, hphase]
          rfl
        exact absurd hphase ((hlawful.failure e hanswer).2 call combination)
    | _ => trivial
  · intro hqueued
    generalize hresult : s.perform a = result at heffect
    have hstep : s.step a = result.1 := by rw [CombinationRace.step, hresult]
    have hanswer : s.answer a = result.2 := by rw [CombinationRace.answer, hresult]
    cases heffect with
    | quiet hquiet =>
      refine ⟨.inl (hstep ▸ ⟨hquiet.tables, hquiet.kept⟩), ?_, ?_⟩
      · intro combination heq
        rw [hanswer] at heq
        cases heq
      · intro e heq
        rw [hanswer] at heq
        cases heq
    | failed hquiet e hopen =>
      refine ⟨.inl (hstep ▸ ⟨hquiet.tables, hquiet.kept⟩), ?_, ?_⟩
      · intro combination heq
        rw [hanswer] at heq
        cases heq
      · intro e' _
        exact ⟨hstep ▸ hquiet.tables, hopen⟩
    | replayed hquiet hmem =>
      refine ⟨.inl (hstep ▸ ⟨hquiet.tables, hquiet.kept⟩), ?_, ?_⟩
      · intro combination heq
        rw [hanswer] at heq
        obtain rfl := Except.ok.inj (Option.some.inj heq)
        exact ⟨hstep ▸ hquiet.tables, .inr hmem⟩
      · intro e heq
        rw [hanswer] at heq
        cases heq
    | consumed hsound call combination hphase hothers hconsumes =>
      refine ⟨.inr ⟨call, combination, hstep ▸ hphase, hstep ▸ hothers, hstep ▸ hconsumes⟩, ?_, ?_⟩
      · intro combination heq
        rw [hanswer] at heq
        cases heq
      · intro e heq
        rw [hanswer] at heq
        cases heq
    | queued hquiet call combination hphase outcome haction =>
      have hok : outcome.isOk := by
        rw [haction] at hqueued
        exact hqueued call combination hphase
      cases outcome with
      | error e => cases hok
      | ok u =>
        refine ⟨.inl (hstep ▸ ⟨hquiet.tables, hquiet.kept⟩), ?_, ?_⟩
        · intro combination' heq
          rw [hanswer] at heq
          obtain rfl : combination = combination' := Except.ok.inj (Option.some.inj heq)
          exact ⟨hstep ▸ hquiet.tables, .inl ⟨call, hphase⟩⟩
        · intro e heq
          rw [hanswer] at heq
          cases heq

theorem CombinationRace.Sound.step {s : CombinationRace Digest} (h : s.Sound) (a : CombineAction) :
    (s.step a).Sound := by
  have heffect := h.perform a
  rw [CombinationRace.step]
  generalize s.perform a = result at heffect
  cases heffect with
  | quiet hquiet | failed hquiet | replayed hquiet | queued hquiet => exact hquiet.sound
  | consumed hsound => exact hsound

/-- No card is consumed twice, and whatever requests run at the same time all steps are lawful
exactly if the event of every combination is queued. -/
theorem combinations_lawful_iff (h : CombinationsSound db) (acts : List CombineAction) :
    Throughout CombinationRace.step
        (fun s => (s.committed.materials.map (·.userCardId)).Nodup) (CombinationRace.idle db) acts ∧
      Always CombinationRace.step CombineLawful (CombinationRace.idle db) acts ↔
    Always CombinationRace.step EventQueued (CombinationRace.idle db) acts := by
  have hlawful : Always CombinationRace.step CombineLawful (CombinationRace.idle db) acts ↔
      Always CombinationRace.step EventQueued (CombinationRace.idle db) acts :=
    always_congr_of_invariant (CombinationRace.sound_idle h)
      (fun s a hs => combineLawful_iff hs a) fun s a hs _ => hs.step a
  have hsound : Throughout CombinationRace.step CombinationRace.Sound (CombinationRace.idle db)
      acts := throughout_of_step (CombinationRace.sound_idle h) fun s a hs => hs.step a
  have honce := hsound.imp fun s hs => hs.tables.materials
  exact ⟨fun hall => hlawful.mp hall.2, fun hqueued => ⟨honce, hlawful.mpr hqueued⟩⟩

end

end Fanfolio
