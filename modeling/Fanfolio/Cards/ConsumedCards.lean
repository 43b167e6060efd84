import Fanfolio.Cards.TradeLocks

/-!
# Consumed cards and trades

A new proposal refuses consumed cards, but a combination does not look at trade locks. The
two stay apart exactly as long as no combination consumes a locked card.
-/

namespace Fanfolio

open Framework

section

variable {Digest : Type} {db db' : CardDb Digest}

/-- No consumed card is an item of a pending proposal. -/
def ConsumedNotInTrade (db : CardDb Digest) : Prop :=
  ∀ material ∈ db.materials, ∀ item ∈ db.items,
    item.userCardId = material.userCardId → ¬IsPending db.proposals item.proposalId

instance : Decidable (ConsumedNotInTrade db) :=
  inferInstanceAs (Decidable (∀ material ∈ db.materials, _))

/-- No consumed card is locked. -/
def ConsumedUnlocked (db : CardDb Digest) : Prop :=
  ∀ material ∈ db.materials, db.isLocked material.userCardId = false

theorem isLocked_iff {userCardId : UserCardId} :
    db.isLocked userCardId = true ↔ ∃ lock ∈ db.locks, lock.userCardId = userCardId := by
  simp [CardDb.isLocked]

theorem isMaterial_iff {userCardId : UserCardId} :
    db.isMaterial userCardId = true ↔ ∃ row ∈ db.materials, row.userCardId = userCardId := by
  simp [CardDb.isMaterial]

/-- The cards of pending proposals are the locked ones. -/
theorem TradesConsistent.isLocked (h : db.TradesConsistent) {userCardId : UserCardId} :
    db.isLocked userCardId = true ↔
      ∃ item ∈ db.items, item.userCardId = userCardId ∧ IsPending db.proposals item.proposalId := by
  rw [isLocked_iff]
  constructor
  · rintro ⟨lock, hlock, rfl⟩
    obtain ⟨item, hitem, rfl, hpending⟩ := (h.locked_iff lock).mp hlock
    exact ⟨item, hitem, rfl, hpending⟩
  · rintro ⟨item, hitem, rfl, hpending⟩
    exact ⟨item.lock, (h.locked_iff _).mpr ⟨item, hitem, rfl, hpending⟩, rfl⟩

theorem TradesConsistent.consumed_iff (h : db.TradesConsistent) :
    ConsumedNotInTrade db ↔ ConsumedUnlocked db := by
  constructor
  · intro hnot material hmaterial
    rw [Bool.eq_false_iff]
    intro hlocked
    obtain ⟨item, hitem, hcard, hpending⟩ := h.isLocked.mp hlocked
    exact hnot material hmaterial item hitem hcard hpending
  · intro hunlocked material hmaterial item hitem hcard hpending
    have hlocked := h.isLocked.mpr ⟨item, hitem, hcard, hpending⟩
    rw [hunlocked material hmaterial] at hlocked
    cases hlocked

theorem ConsumedUnlocked.shrink (h : ConsumedUnlocked db)
    (hlocks : ∀ lock ∈ db'.locks, lock ∈ db.locks) (hmaterials : db'.materials = db.materials) :
    ConsumedUnlocked db' := by
  intro material hmaterial
  rw [Bool.eq_false_iff]
  intro hlocked
  obtain ⟨lock, hlock, hcard⟩ := isLocked_iff.mp hlocked
  rw [hmaterials] at hmaterial
  have hfree := h material hmaterial
  rw [isLocked_iff.mpr ⟨lock, hlocks lock hlock, hcard⟩] at hfree
  cases hfree

theorem ConsumedUnlocked.effect (h : ConsumedUnlocked db) (heffect : CardEffect db db') :
    ConsumedUnlocked db' := by
  cases heffect with
  | copied hcopy => exact h.shrink (by simp [hcopy.locks]) hcopy.materials
  | closed => exact h.shrink (fun _ => List.mem_of_mem_filter) rfl
  | @proposed _ userId payload proposal items hnew =>
    intro material hmaterial
    rw [Bool.eq_false_iff]
    intro hlocked
    obtain ⟨lock, hlock, hcard⟩ := isLocked_iff.mp hlocked
    rw [hnew.after] at hmaterial hlock
    rcases List.mem_append.mp hlock with hlock | hlock
    · have hfree := h material hmaterial
      rw [isLocked_iff.mpr ⟨lock, hlock, hcard⟩] at hfree
      cases hfree
    · obtain ⟨item, hitem, rfl⟩ := List.mem_map.mp hlock
      have hconsumed : db.isMaterial item.userCardId = true :=
        isMaterial_iff.mpr ⟨material, hmaterial, hcard.symm⟩
      rw [hnew.free item hitem] at hconsumed
      cases hconsumed

variable [RecordHash Digest]

/-- The request consumes no locked card. -/
def ConsumesUnlocked (db : CardDb Digest) (a : CardAction) : Prop :=
  ∀ userCardId ∈ consumedBy db a, db.isLocked userCardId = false

/-- The request accepts no trade of a consumed card. -/
def AcceptsUnconsumed (db : CardDb Digest) (a : CardAction) : Prop :=
  ∀ proposal ∈ acceptedProposal db a, ∀ item ∈ db.items, item.proposalId = proposal.id →
    db.isMaterial item.userCardId = false

instance (a : CardAction) : Decidable (ConsumesUnlocked db a) :=
  inferInstanceAs (Decidable (∀ _ ∈ _, _))

theorem ConsumedUnlocked.step (h : ConsumedUnlocked db) (htrades : db.TradesConsistent)
    {a : CardAction} (ha : ConsumesUnlocked db a) : ConsumedUnlocked (cardStep db a) := by
  refine cardStep_keeps h (fun _ _ => .effect) a ?_ ?_
  · intro combinations materials rows hconsumed _ material hmaterial
    rcases List.mem_append.mp hmaterial with hold | hnew
    · exact h material hold
    · exact ha material.userCardId (hconsumed material hnew)
  · intro proposal order draws now status _ _ _ hok
    obtain ⟨_, _, -, hacc⟩ := acceptTradeOnce_ok (htrades.itemCards proposal.id) hok
    obtain ⟨events, heq⟩ := hacc.after
    rw [heq]
    exact h.shrink (fun _ => List.mem_of_mem_filter) rfl

/-- An accepted proposal was pending, so none of its cards was consumed. -/
theorem ConsumedNotInTrade.accepts (h : ConsumedNotInTrade db) (a : CardAction) :
    AcceptsUnconsumed db a := by
  intro proposal hproposal item hitem hid
  rw [Bool.eq_false_iff]
  intro hmaterial
  obtain ⟨material, hmem, hcard⟩ := isMaterial_iff.mp hmaterial
  cases a with
  | acceptTrade proposalId userId order draws now =>
    rw [Option.mem_def, acceptedProposal] at hproposal
    rcases acceptTrade_cases db proposalId userId order draws now with
      ⟨-, e, he⟩ | ⟨-, he⟩ | ⟨proposal', status, hfind, hstatus, -⟩
    · rw [he] at hproposal
      cases hproposal
    · rw [he] at hproposal
      cases hproposal
    · rw [hstatus] at hproposal
      obtain ⟨hfound, -, hpending, -⟩ := findPendingProposal_ok.mp hfind
      obtain rfl := Option.some.inj (hproposal.symm.trans hfound)
      exact h material hmem item hitem hcard.symm
        ⟨proposal, (findProposal_some hfound).1, hid.symm, hpending⟩
  | _ => cases hproposal

/-- What a request consumes is recorded, and the trades stay as they are. -/
theorem consumedBy_recorded (hcopies : CopiesUnique db.userCards) {a : CardAction}
    {userCardId : UserCardId} (hid : userCardId ∈ consumedBy db a) :
    (∃ row ∈ (cardStep db a).materials, row.userCardId = userCardId) ∧
      (cardStep db a).items = db.items ∧ (cardStep db a).proposals = db.proposals := by
  cases a with
  | combineCards userId request idempotencyKey order draws now =>
    rw [consumedBy] at hid
    split at hid
    · rename_i result hnone hok
      rw [cardStep, hok]
      rcases combineCards_ok hok with ⟨-, hsome⟩ |
        ⟨-, context, materials, resultCardId, rows, granted, copy, hcombined⟩
      · rw [hnone] at hsome
        cases hsome
      · obtain ⟨combinations, hgrant⟩ := hcombined.grant
        obtain ⟨userCards, grants, -, -, rfl⟩ := grantUserCard_frame hgrant
        obtain ⟨combinations', events, heq⟩ := hcombined.after
        obtain ⟨row, hrow, rfl⟩ :=
          combineMaterials_complete hcopies.ids hcombined.materialsLoaded hid
        refine ⟨⟨⟨draws.combinationId, row.id, row.cardId⟩, ?_, rfl⟩, ?_⟩
        · show _ ∈ result.1.materials
          rw [heq]
          exact List.mem_append_right _ (List.mem_map.mpr ⟨row, hrow, rfl⟩)
        · show result.1.items = _ ∧ result.1.proposals = _
          rw [heq]
          exact ⟨rfl, rfl⟩
    · cases hid
  | _ => cases hid

/-- A run keeps consumed cards out of pending proposals and out of acceptances exactly when no
request of it consumes a locked card. -/
theorem consumedNotInTrade_iff (h : Genesis db) (acts : List CardAction) :
    (Throughout cardStep ConsumedNotInTrade db acts ∧ Always cardStep AcceptsUnconsumed db acts) ↔
      Always cardStep ConsumesUnlocked db acts := by
  constructor
  · rintro ⟨hthrough, -⟩
    rw [throughout_iff_reached] at hthrough
    rw [always_iff_split]
    intro pre a post heq userCardId hid
    have htrades := cardsAfter_tradesConsistent h pre
    have hcopies := cardsAfter_copiesUnique h pre
    obtain ⟨⟨row, hrow, hcard⟩, hitems, hproposals⟩ := consumedBy_recorded hcopies hid
    rw [Bool.eq_false_iff]
    intro hlocked
    obtain ⟨item, hitem, hcard', hpending⟩ := htrades.isLocked.mp hlocked
    have hnext := hthrough (pre ++ [a]) ⟨post, by simp [heq]⟩
    rw [run_append] at hnext
    refine hnext row hrow item ?_ (hcard'.trans hcard.symm) ?_
    · show item ∈ (cardStep (cardsAfter db pre) a).items
      rw [hitems]
      exact hitem
    · show IsPending (cardStep (cardsAfter db pre) a).proposals _
      rw [hproposals]
      exact hpending
  · intro hguard
    have hunlocked : Throughout cardStep (fun db : CardDb Digest =>
        db.TradesConsistent ∧ ConsumedUnlocked db) db acts := by
      refine hguard.throughout ⟨h.tradesConsistent, by simp [ConsumedUnlocked, h.materials]⟩ ?_
      intro db a hdb ha
      exact ⟨hdb.1.step a, hdb.2.step hdb.1 ha⟩
    have hthrough : Throughout cardStep ConsumedNotInTrade db acts :=
      hunlocked.imp fun db hdb => hdb.1.consumed_iff.mpr hdb.2
    refine ⟨hthrough, ?_⟩
    rw [always_iff_split]
    intro pre a post heq
    exact ConsumedNotInTrade.accepts
      (throughout_iff_reached.mp hthrough pre ⟨a :: post, heq.symm⟩) a

end

/-- A fan offers one of two copies and then combines both. -/
def combinedAfterOffer : List CardAction :=
  [.redeem "fan_a" "CODE" "redeem_code" ⟨⟨"uc_a", "ledger_a"⟩, "evt_a"⟩ 1,
   .redeem "fan_a" "CODE_2" "redeem_code" ⟨⟨"uc_b", "ledger_b"⟩, "evt_b"⟩ 2,
   .createTrade "fan_a" oneCardOffer tradeId 3,
   .combineCards "fan_a" ⟨"recipe", ["uc_a", "uc_b"]⟩ none []
     ⟨"combination", 50, fun id => "consume_" ++ id, ⟨"uc_c", "ledger_c"⟩, "evt_c"⟩ 4]

theorem consumedNotInTrade_offeredCard :
    Throughout cardStep ConsumedNotInTrade smallCatalogue offeredCard ∧
      Always cardStep AcceptsUnconsumed smallCatalogue offeredCard :=
  (consumedNotInTrade_iff genesis_smallCatalogue offeredCard).mpr (by decide)

/-- The combination consumes the offered card while the offer is pending, and the recipient
still gets the card by accepting. -/
theorem consumedNotInTrade_fails_combinedAfterOffer :
    Genesis smallCatalogue ∧
    ¬ConsumedNotInTrade (cardsAfter smallCatalogue combinedAfterOffer) ∧
    (cardsAfter smallCatalogue combinedAfterOffer).isMaterial "uc_a" ∧
    (cardStep (cardsAfter smallCatalogue combinedAfterOffer)
      (.acceptTrade ⟨"trade", by decide⟩ "fan_b" []
        ⟨fun id => "transfer_" ++ id, "evt_d", "evt_e"⟩ 5)).ownerOf "uc_a" = some "fan_b" :=
  ⟨genesis_smallCatalogue, by decide +kernel, by decide +kernel, by decide +kernel⟩

end Fanfolio
