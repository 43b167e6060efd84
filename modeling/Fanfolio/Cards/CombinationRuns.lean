import Fanfolio.Cards.CombinationRace
import Fanfolio.Cards.Issue

/-!
# Combinations after any history

Whatever requests came before, the tables are such that combinations may race on them.
-/

namespace Fanfolio

open Framework

section

variable {Digest : Type} [RecordHash Digest] {db db' : CardDb Digest}

/-- Nothing of the combinations tells the tables apart. -/
structure SameCombinations (db db' : CardDb Digest) : Prop where
  combinations : db'.combinations = db.combinations
  materials : db'.materials = db.materials

omit [RecordHash Digest] in
theorem SameCombinations.refl (db : CardDb Digest) : SameCombinations db db := ⟨rfl, rfl⟩

def CardAction.combines : CardAction → Bool
  | .combineCards .. => true
  | _ => false

/-- Only a combination writes one. -/
theorem cardStep_sameCombinations (htrades : db.TradesConsistent) {a : CardAction}
    (ha : a.combines = false) : SameCombinations db (cardStep db a) := by
  have hstepped := cardStep_cases db a
  generalize cardStep db a = db' at hstepped ⊢
  cases hstepped with
  | swept h =>
    exact h.keeps (.refl db) fun _ _ _ _ _ hsame => ⟨hsame.combinations, hsame.materials⟩
  | edited | limited => exact ⟨rfl, rfl⟩
  | redeemed hok =>
    obtain ⟨_, _, _, _, -, -, rfl⟩ := redeem_frame hok
    exact ⟨rfl, rfl⟩
  | opened hok =>
    obtain ⟨_, _, _, _, _, _, -, -, rfl⟩ := openCardPack_frame hok
    exact ⟨rfl, rfl⟩
  | proposed hok =>
    obtain ⟨_, -, hnew⟩ := createTrade_ok hok
    rw [hnew.after]
    exact ⟨rfl, rfl⟩
  | accepted _ _ hok =>
    obtain ⟨items, rows, -, hacc⟩ := acceptTradeOnce_ok (htrades.itemCards _) hok
    obtain ⟨events, rfl⟩ := hacc.after
    exact ⟨rfl, rfl⟩
  | combined => cases ha

/-- No other request grants in the name of a combination. -/
theorem issuedBy_sourceType {a : CardAction} (ha : a.combines = false) {request : GrantRequest}
    (h : request ∈ issuedBy db a) : request.sourceType ≠ "card_combination" := by
  cases issuedFor_of_issuedBy h with
  | combined => cases ha
  | redeemed => simp [redeemGrant]
  | opened => simp [openingGrant]

/-- A combination alone keeps the tables fit for others to race on. -/
theorem combineCards_sound {userId : UserId} {request : CardCombinationRequest}
    {idempotencyKey : Option String} {order : List UserCard} {draws : CombineDraws} {now : Time}
    {combination : CardCombination} (h : CombinationsSound db)
    (hok : combineCards db userId request idempotencyKey order draws now =
      .ok (db', combination)) : CombinationsSound db' := by
  let call : CombineCall := ⟨userId, request, idempotencyKey⟩
  have hcall := combineCards_eq db call order draws now
  rw [hcall] at hok
  split at hok
  · obtain ⟨rfl, -⟩ := Prod.mk.inj (Except.ok.inj hok)
    exact h
  · simp only [bind_ok] at hok
    obtain ⟨context, hloaded, materials, hmaterials, hcomplete⟩ := hok
    have hmaterials' : combineMaterials db call.userId call.request context order =
        .ok materials := hmaterials
    obtain ⟨hquantity, hselected, hchecks⟩ := combineMaterials_iff.mp hmaterials'
    have husable : UsableMaterials db call context materials :=
      .of_checks hloaded hquantity (hselected ▸ .selected h.userCards _ order) hchecks
    obtain ⟨writes, -, -, hwritten, hcommit⟩ :=
      completeCombination_written h husable.unconsumed hcomplete
    obtain ⟨rfl, -, -, hfits⟩ := commitCombination_ok hcommit
    exact h.insertInto husable hwritten hfits

theorem CombinationRace.enqueue_committed {s : CombinationRace Digest}
    {worker : Nat} {outcome : Except Failure Unit} (h : s.answer (.enqueue worker outcome) ≠ none) :
    ∃ call combination, s.phase worker = .committed call combination := by
  simp only [CombinationRace.answer, CombinationRace.perform] at h
  split at h
  · rename_i call combination hphase
    exact ⟨call, combination, hphase⟩
  · exact absurd rfl h

theorem CardAction.combines_true {a : CardAction} (h : a.combines = true) :
    ∃ userId request idempotencyKey order draws now,
      a = .combineCards userId request idempotencyKey order draws now := by
  cases a with
  | combineCards userId request idempotencyKey order draws now =>
    exact ⟨userId, request, idempotencyKey, order, draws, now, rfl⟩
  | _ => cases h

/-- The grants of combinations are as they were after any other request. -/
theorem cardStep_combinationGrants (htrades : db.TradesConsistent) {a : CardAction}
    (ha : a.combines = false) {row : CardOwnershipLedger Digest}
    (hrow : row ∈ (cardStep db a).grants) (hsource : row.sourceType = "card_combination") :
    row ∈ db.grants := by
  have hcopying := (cardStep_effect htrades a).copying
  generalize hissued : issuedBy db a = issued at hcopying
  cases hcopying with
  | quiet hquiet => exact hquiet.grants ▸ hrow
  | made hmade =>
    obtain ⟨_, record, -, hgrants, -, hgrant⟩ := hmade.made
    rw [hgrants, List.mem_append, List.mem_singleton] at hrow
    rcases hrow with hold | rfl
    · exact hold
    · simp only [CardOwnershipLedger.isGrant, Bool.and_eq_true, beq_iff_eq] at hgrant
      exact absurd (hgrant.1.2.symm.trans hsource)
        (issuedBy_sourceType ha (Option.mem_def.mpr hissued))

theorem CombinationsSound.step (h : CombinationsSound db) (htrades : db.TradesConsistent)
    (hcopies : CopiesUnique db.userCards) (a : CardAction) :
    CombinationsSound (cardStep db a) := by
  cases ha : a.combines with
  | true =>
    obtain ⟨userId, request, idempotencyKey, order, draws, now, rfl⟩ := a.combines_true ha
    exact commitOr_keeps h fun _ _ hok => combineCards_sound h hok
  | false =>
    have hsame := cardStep_sameCombinations htrades ha
    refine ⟨(hcopies.step a).ids, hsame.materials ▸ h.materials, ?_⟩
    intro row hrow haction hsource
    have hgrant : row ∈ (cardStep db a).grants := List.mem_filter.mpr ⟨hrow, by simp [haction]⟩
    have hold := cardStep_combinationGrants htrades ha hgrant hsource
    rw [hsame.combinations]
    exact h.grants row (List.mem_filter.mp hold).1 haction hsource

omit [RecordHash Digest] in
theorem Genesis.combinationsSound (h : Genesis db) : CombinationsSound db := by
  refine ⟨?_, ?_, ?_⟩
  · simp [h.userCards]
  · simp [h.materials]
  · simp [h.ledger]

theorem cardsAfter_combinationsSound (h : Genesis db) (acts : List CardAction) :
    CombinationsSound (cardsAfter db acts) := by
  have hinv : (cardsAfter db acts).TradesConsistent ∧ CopiesUnique (cardsAfter db acts).userCards ∧
      CombinationsSound (cardsAfter db acts) := by
    refine run_of_step (I := fun db : CardDb Digest => db.TradesConsistent ∧
      CopiesUnique db.userCards ∧ CombinationsSound db)
      ⟨h.tradesConsistent, cardsAfter_copiesUnique h [], h.combinationsSound⟩ ?_
    intro db a hdb
    exact ⟨hdb.1.step a, hdb.2.1.step a, hdb.2.2.step hdb.1 hdb.2.1 a⟩
  exact hinv.2.2

/-- After any history, no card is consumed twice by the combinations that race, and all of their
steps are lawful exactly if the event of every combination is queued. -/
theorem combinationsAfter_lawful_iff (h : Genesis db) (history : List CardAction)
    (acts : List CombineAction) :
    Throughout CombinationRace.step
        (fun s => (s.committed.materials.map (·.userCardId)).Nodup)
        (CombinationRace.idle (cardsAfter db history)) acts ∧
      Always CombinationRace.step CombineLawful
        (CombinationRace.idle (cardsAfter db history)) acts ↔
    Always CombinationRace.step EventQueued
      (CombinationRace.idle (cardsAfter db history)) acts :=
  combinations_lawful_iff (cardsAfter_combinationsSound h history) acts

end

/-- The requests by which a fan gets two copies. -/
def twoCopies : List CardAction :=
  [.redeem "fan_a" "CODE" "redeem_code" ⟨⟨"uc_a", "ledger_a"⟩, "evt_a"⟩ 1,
   .redeem "fan_a" "CODE_2" "redeem_code" ⟨⟨"uc_b", "ledger_b"⟩, "evt_b"⟩ 2]

def bothCopies : CombineCall := ⟨"fan_a", ⟨"recipe", ["uc_a", "uc_b"]⟩, some "key"⟩

/-- A worker combines both copies while another waits for its locks and finds them consumed. -/
def combinedTwice (outcome : Except Failure Unit) : List CombineAction :=
  [.open 0 bothCopies, .open 1 { bothCopies with idempotencyKey := none },
   .loadRecipe 0, .loadRecipe 1, .lockRecipe 0, .selectMaterials 0 [], .lockRecipe 1,
   .lockMaterial 0, .lockMaterial 0, .checkMaterials 0,
   .write 0 ⟨"combination", 50, fun id => "consume_" ++ id, ⟨"uc_c", "ledger_c"⟩, "evt_c"⟩ 3,
   .commit 0 true, .lockRecipe 1, .enqueue 0 outcome, .selectMaterials 1 [], .lockMaterial 1,
   .lockMaterial 1, .checkMaterials 1, .open 0 bothCopies]

theorem combinationsAfter_lawful_combinedTwice :
    Genesis smallCatalogue ∧
    (Throughout CombinationRace.step
        (fun s => (s.committed.materials.map (·.userCardId)).Nodup)
        (CombinationRace.idle (cardsAfter smallCatalogue twoCopies)) (combinedTwice (.ok ())) ∧
      Always CombinationRace.step CombineLawful
        (CombinationRace.idle (cardsAfter smallCatalogue twoCopies)) (combinedTwice (.ok ()))) ∧
    ((run CombinationRace.step (CombinationRace.idle (cardsAfter smallCatalogue twoCopies))
      (combinedTwice (.ok ()))).committed.userCards.map (·.id) = ["uc_a", "uc_b", "uc_c"]) ∧
    ((run CombinationRace.step (CombinationRace.idle (cardsAfter smallCatalogue twoCopies))
      (combinedTwice (.ok ()))).committed.materials.map (·.userCardId) = ["uc_a", "uc_b"]) := by
  refine ⟨genesis_smallCatalogue, ?_, by decide +kernel, by decide +kernel⟩
  refine (combinationsAfter_lawful_iff genesis_smallCatalogue twoCopies _).mpr ?_
  exact ⟨trivial, trivial, trivial, trivial, trivial, trivial, trivial, trivial, trivial, trivial,
    trivial, trivial, trivial, fun _ _ _ => rfl, trivial, trivial, trivial, trivial, trivial,
    trivial⟩

/-- Both copies are consumed, and the request is answered with the failure of the queue. -/
theorem combinationsAfter_fails_queueLost :
    Genesis smallCatalogue ∧
    ((run CombinationRace.step (CombinationRace.idle (cardsAfter smallCatalogue twoCopies))
        ((combinedTwice (.error (.unhandled "OperationalError"))).take 13)).answer
      (.enqueue 0 (.error (.unhandled "OperationalError"))) =
      some (.error (.unhandled "OperationalError"))) ∧
    ((run CombinationRace.step (CombinationRace.idle (cardsAfter smallCatalogue twoCopies))
        ((combinedTwice (.error (.unhandled "OperationalError"))).take 14)).committed.materials.map
      (·.userCardId) = ["uc_a", "uc_b"]) ∧
    ¬(Throughout CombinationRace.step
        (fun s => (s.committed.materials.map (·.userCardId)).Nodup)
        (CombinationRace.idle (cardsAfter smallCatalogue twoCopies))
        (combinedTwice (.error (.unhandled "OperationalError"))) ∧
      Always CombinationRace.step CombineLawful
        (CombinationRace.idle (cardsAfter smallCatalogue twoCopies))
        (combinedTwice (.error (.unhandled "OperationalError")))) := by
  have hanswer : (run CombinationRace.step
      (CombinationRace.idle (cardsAfter smallCatalogue twoCopies))
        ((combinedTwice (.error (.unhandled "OperationalError"))).take 13)).answer
      (.enqueue 0 (.error (.unhandled "OperationalError"))) =
      some (.error (.unhandled "OperationalError")) := by decide +kernel
  refine ⟨genesis_smallCatalogue, hanswer, by decide +kernel, ?_⟩
  rintro ⟨-, hlawful⟩
  have hat := (always_iff_split.mp hlawful) _ _ _
    (List.take_append_drop 13 (combinedTwice (.error (.unhandled "OperationalError")))).symm
  obtain ⟨call, combination, hphase⟩ := CombinationRace.enqueue_committed (by rw [hanswer]; simp)
  exact (hat.failure _ hanswer).2 call combination hphase

end Fanfolio
