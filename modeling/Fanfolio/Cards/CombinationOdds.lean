import Fanfolio.Cards.CombinationRace
import Fanfolio.Cards.CombinePreview
import Fanfolio.Cards.Odds

/-!
# The odds of a combination

A combination draws a point between zero and the sum of the weights of its recipe. Each card owns
the points of an interval that is as long as its weight, and each point belongs to a card.
-/

namespace Fanfolio

open Framework

/-- A table of weights: a `dict` that is not empty, with positive values. -/
structure WeightTable where
  entries : List (CardId × ℚ)
  nonempty : entries ≠ []
  keys_nodup : (entries.map Prod.fst).Nodup
  positive : PositiveOdds entries

/-- The points are an interval of the given length, with its upper end and perhaps its lower. -/
def IsIntervalOf (length : ℚ) (points : Set ℚ) : Prop :=
  ∃ low, points = Set.Ioc low (low + length) ∨ points = Set.Icc low (low + length)

namespace WeightTable

variable (table : WeightTable)

/-- `sum(probabilities.values())`. -/
def total : ℚ := totalOdds table.entries

/-- `uniform(0, total)`, of a number from zero up to, but without, one. -/
def target (random : ℚ) : ℚ := 0 + (table.total - 0) * random

/-- The points that select a card. -/
def selecting (cardId : CardId) : Set ℚ :=
  {target | 0 ≤ target ∧ target ≤ table.total ∧
    weightedChoice table.entries target = some cardId}

variable {table} {target : ℚ} {cardId : CardId} {weight : ℚ}

theorem target_mem {random : ℚ} (h : 0 ≤ random ∧ random < 1) :
    0 ≤ table.target random ∧ table.target random < table.total := by
  have htotal : 0 < table.total := by
    obtain ⟨entry, rest, hentries⟩ := List.exists_cons_of_ne_nil table.nonempty
    have hpos : PositiveOdds (entry :: rest) := hentries ▸ table.positive
    rw [total, hentries, totalOdds_cons]
    exact add_pos_of_pos_of_nonneg (hpos entry List.mem_cons_self) hpos.tail.totalOdds_nonneg
  rw [WeightTable.target, zero_add, sub_zero]
  exact ⟨mul_nonneg htotal.le h.1, mul_lt_of_lt_one_right htotal h.2⟩

/-- The loop finds a card for every point up to the sum. -/
theorem exists_pickByCursor (h : target ≤ table.total) :
    ∃ cardId ∈ table.entries.map Prod.fst, pickByCursor target 0 table.entries = some cardId := by
  cases hpick : pickByCursor target 0 table.entries with
  | none =>
    rcases (pickByCursor_none_iff table.positive).mp hpick with hempty | hbeyond
    · exact absurd hempty table.nonempty
    · rw [zero_add] at hbeyond
      exact absurd h (not_le.mpr hbeyond)
  | some cardId => exact ⟨cardId, pickByCursor_mem hpick, rfl⟩

/-- The fallback is not reached. -/
theorem weightedChoice_eq (h : target ≤ table.total) :
    weightedChoice table.entries target = pickByCursor target 0 table.entries := by
  obtain ⟨cardId, -, hpick⟩ := exists_pickByCursor h
  rw [weightedChoice, pickOrLast, hpick, Option.some_or]

/-- A card owns the points beyond the weights before it, up to the end of its own; the first card
owns zero as well. -/
theorem selecting_eq {before after : List (CardId × ℚ)}
    (h : table.entries = before ++ (cardId, weight) :: after) :
    table.selecting cardId = if before = [] then Set.Icc 0 weight
      else Set.Ioc (totalOdds before) (totalOdds before + weight) := by
  have hpos : PositiveOdds (before ++ (cardId, weight) :: after) := h ▸ table.positive
  have hkeys : ((before ++ (cardId, weight) :: after).map Prod.fst).Nodup := h ▸ table.keys_nodup
  have hbefore : 0 ≤ totalOdds before :=
    PositiveOdds.totalOdds_nonneg fun entry hentry => hpos entry (by simp [hentry])
  have hafter : 0 ≤ totalOdds after :=
    PositiveOdds.totalOdds_nonneg fun entry hentry => hpos entry (by simp [hentry])
  have htotal : table.total = totalOdds before + (weight + totalOdds after) := by
    rw [total, h, totalOdds_append, totalOdds_cons]
  ext target
  have hpick : target ≤ table.total → (weightedChoice table.entries target = some cardId ↔
      (before = [] ∨ totalOdds before < target) ∧ target ≤ totalOdds before + weight) := by
    intro hle
    rw [weightedChoice_eq hle, h, pickByCursor_iff hpos hkeys, zero_add]
  rw [selecting, Set.mem_ofPred_eq]
  constructor
  · rintro ⟨hnonneg, hle, hchoice⟩
    obtain ⟨hlow, hhigh⟩ := (hpick hle).mp hchoice
    split
    · rename_i hempty
      rw [hempty, totalOdds_nil, zero_add] at hhigh
      exact ⟨hnonneg, hhigh⟩
    · rename_i hne
      exact ⟨hlow.resolve_left hne, hhigh⟩
  · intro hmem
    split at hmem
    · rename_i hempty
      have hhigh : target ≤ totalOdds before + weight := by
        rw [hempty, totalOdds_nil, zero_add]
        exact hmem.2
      have hle : target ≤ table.total := by linarith
      exact ⟨hmem.1, hle, (hpick hle).mpr ⟨.inl hempty, hhigh⟩⟩
    · have hle : target ≤ table.total := by linarith [hmem.2]
      exact ⟨hbefore.trans hmem.1.le, hle, (hpick hle).mpr ⟨.inr hmem.1, hmem.2⟩⟩

theorem selecting_isInterval (h : (cardId, weight) ∈ table.entries) :
    IsIntervalOf weight (table.selecting cardId) := by
  obtain ⟨before, after, hentries⟩ := List.append_of_mem h
  rw [selecting_eq hentries]
  split
  · exact ⟨0, .inr (by rw [zero_add])⟩
  · exact ⟨totalOdds before, .inl rfl⟩

end WeightTable

/-- Every point up to the sum selects a card of the table in the loop, and each card owns an
interval that is as long as its weight. -/
theorem weightedChoice_fair (table : WeightTable) :
    (∀ random, 0 ≤ random ∧ random < 1 →
      0 ≤ table.target random ∧ table.target random < table.total) ∧
    (∀ target, 0 ≤ target → target ≤ table.total →
      ∃ cardId ∈ table.entries.map Prod.fst,
        pickByCursor target 0 table.entries = some cardId ∧
        weightedChoice table.entries target = some cardId) ∧
    ∀ cardId weight, (cardId, weight) ∈ table.entries →
      IsIntervalOf weight (table.selecting cardId) := by
  refine ⟨fun random => WeightTable.target_mem, ?_, fun _ _ => WeightTable.selecting_isInterval⟩
  intro target _ hle
  obtain ⟨cardId, hmem, hpick⟩ := WeightTable.exists_pickByCursor hle
  exact ⟨cardId, hmem, hpick, (WeightTable.weightedChoice_eq hle).trans hpick⟩

def twoWeights : WeightTable where
  entries := [("card", 25), ("rare", 75)]
  nonempty := by decide
  keys_nodup := by decide
  positive := by simp [PositiveOdds]

theorem weightedChoice_twoWeights :
    IsIntervalOf 75 (twoWeights.selecting "rare") :=
  (weightedChoice_fair twoWeights).2.2 "rare" 75 (by simp [twoWeights])

section

variable {Digest : Type} {db db' : CardDb Digest}

/-- Each recipe holds a table of weights. -/
def RecipesWeighed (db : CardDb Digest) : Prop :=
  ∀ recipe ∈ db.recipes, ∃ table : WeightTable, table.entries = recipe.probabilitySnapshot

/-- The recipes are left alone, or one is added that holds a table of weights. -/
def AddsRecipe (db db' : CardDb Digest) : Prop :=
  db'.recipes = db.recipes ∨
    ∃ recipe, db'.recipes = db.recipes ++ [recipe] ∧
      ∃ table : WeightTable, table.entries = recipe.probabilitySnapshot

/-- A recipe is created with a table of weights, whose sum is near one hundred. -/
theorem createCombinationRecipe_weighed {payload : CardCombinationRecipeCreate}
    {recipeId id : RecipeId} (h : createCombinationRecipe db payload recipeId = .ok (db', id)) :
    ∃ recipe, db'.recipes = db.recipes ++ [recipe] ∧
      ∃ table : WeightTable, table.entries = recipe.probabilitySnapshot ∧
        |table.total - 100| ≤ 1 / 1000 := by
  simp only [createCombinationRecipe, bind_ok, orFail_ok, ensure_ok, exists_const, pure_ok,
    Prod.mk.injEq] at h
  obtain ⟨pack, -, -, ⟨htotal, hpositive⟩, -, -, rfl, -⟩ := h
  have hnonempty : payload.probabilitySnapshot ≠ [] := by
    intro hempty
    rw [hempty, List.map_nil, List.sum_nil] at htotal
    norm_num at htotal
  exact ⟨_, rfl, ⟨_, hnonempty, payload.keys_nodup, hpositive⟩, rfl, htotal⟩

theorem Swept.recipes_eq (h : Swept db db') : db'.recipes = db.recipes :=
  h.keeps (P := fun swept => swept.recipes = db.recipes) rfl fun _ _ _ _ _ hrecipes => hrecipes

variable [RecordHash Digest]

theorem cardStep_addsRecipe (db : CardDb Digest) (a : CardAction) :
    AddsRecipe db (cardStep db a) := by
  have hsame : AddsRecipe db db := .inl rfl
  cases a with
  | createCombinationRecipe =>
    refine commitOr_keeps hsame fun _ _ hok => .inr ?_
    obtain ⟨recipe, hrecipes, table, hentries, -⟩ := createCombinationRecipe_weighed hok
    exact ⟨recipe, hrecipes, table, hentries⟩
  | redeem =>
    refine commitOr_keeps hsame fun _ _ hok => .inl ?_
    obtain ⟨_, _, _, _, -, -, rfl⟩ := redeem_frame hok
    rfl
  | codeBatch =>
    refine commitOr_keeps hsame fun _ _ hok => .inl ?_
    obtain ⟨_, -, rfl⟩ := codeBatch_ok hok
    rfl
  | updateRedeemCode =>
    refine commitOr_keeps hsame fun _ _ hok => .inl ?_
    obtain ⟨_, rfl⟩ := updateRedeemCode_ok hok
    rfl
  | createTrade =>
    refine commitOr_keeps hsame fun _ _ hok => .inl ?_
    obtain ⟨_, -, hnew⟩ := createTrade_ok hok
    rw [hnew.after]
  | holdTrade =>
    refine commitOr_keeps hsame fun _ _ hok => .inl ?_
    obtain ⟨_, rfl⟩ := holdTrade_ok hok
    rfl
  | releaseTrade =>
    refine commitOr_keeps hsame fun _ _ hok => .inl ?_
    obtain ⟨_, rfl⟩ := releaseTrade_ok hok
    rfl
  | combineCards =>
    refine commitOr_keeps hsame fun _ _ hok => .inl ?_
    obtain ⟨_, _, _, _, _, -, rfl⟩ := combineCards_frame hok
    rfl
  | openCardPack =>
    refine commitOr_keeps hsame fun _ _ hok => .inl ?_
    obtain ⟨_, _, _, _, _, _, -, -, rfl⟩ := openCardPack_frame hok
    rfl
  | updateAdminCard =>
    refine commitOr_keeps hsame fun _ _ hok => .inl ?_
    obtain ⟨_, -, -, rfl⟩ := updateAdminCard_ok hok
    rfl
  | acceptTrade proposalId userId order draws now =>
    rcases acceptTrade_cases db proposalId userId order draws now with
      ⟨heq, -⟩ | ⟨heq, -⟩ | ⟨_, _, -, -, hok⟩
    · rw [cardStep, heq]
      exact hsame
    · rw [cardStep, heq]
      exact hsame
    · obtain ⟨_, _, _, hafter⟩ := acceptTradeOnce_frame hok
      rw [cardStep, hafter]
      exact hsame
  | rejectTrade proposalId userId now =>
    exact .inl (Swept.recipes_eq (swept_rejectOrCancel db proposalId userId _ (by decide) now))
  | cancelTrade proposalId userId now =>
    exact .inl (Swept.recipes_eq (swept_rejectOrCancel db proposalId userId _ (by decide) now))
  | tradeInbox userId box tradeStatus now => exact .inl (swept_expireAll db now _).recipes_eq
  | tradeDetail userId proposalId now =>
    exact .inl (swept_tradeDetail db userId proposalId now).recipes_eq

/-- In every run of requests from recipes that hold tables, all recipes hold one. -/
theorem cardsAfter_recipesWeighed (h : RecipesWeighed db) (acts : List CardAction) :
    RecipesWeighed (cardsAfter db acts) := by
  refine run_of_step h fun db a hdb recipe hrecipe => ?_
  rcases cardStep_addsRecipe db a with heq | ⟨created, heq, hcreated⟩
  · exact hdb recipe (heq ▸ hrecipe)
  · rw [heq, List.mem_append, List.mem_singleton] at hrecipe
    rcases hrecipe with hold | rfl
    · exact hdb recipe hold
    · exact hcreated

omit [RecordHash Digest] in
/-- The probability that a fan is shown for a card is the length of the interval of that card. -/
theorem odds_isInterval (h : RecipesWeighed db) {recipeId : RecipeId} {context : RecipeContext}
    (hcontext : recipeContext db recipeId = .ok context) :
    ∃ table : WeightTable, table.entries = context.recipe.probabilitySnapshot ∧
      ∀ entry ∈ odds context.recipe context.cards,
        IsIntervalOf entry.probability (table.selecting entry.cardId) := by
  obtain ⟨table, hentries⟩ := h _ (mem_of_find_eq_some (recipeContext_ok hcontext).1).1
  refine ⟨table, hentries, fun entry hentry => ?_⟩
  obtain ⟨⟨cardId, probability⟩, hmem, hshown⟩ := List.mem_filterMap.mp hentry
  obtain ⟨card, -, rfl⟩ := Option.map_eq_some_iff.mp hshown
  exact WeightTable.selecting_isInterval (hentries ▸ hmem)

end

end Fanfolio
