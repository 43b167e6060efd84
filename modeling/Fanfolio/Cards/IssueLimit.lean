import Fanfolio.Cards.Issue

/-!
# Issue limits

A card may carry a limit on its copies. The grant that every request goes through does not
look at it, so the limit holds exactly as long as no request issues a copy beyond it.
-/

namespace Fanfolio

open Framework

section

variable {Digest : Type} {db db' : CardDb Digest} {request : GrantRequest}

/-- No card has more copies than its limit allows. -/
def LimitsKept (db : CardDb Digest) : Prop :=
  ∀ card ∈ db.cards, ∀ limit ∈ card.issueLimit, db.copies card.id ≤ limit

instance : Decidable (LimitsKept db) := inferInstanceAs (Decidable (∀ card ∈ db.cards, _))

/-- Every copy is of a published card. -/
def CopiesPublished (db : CardDb Digest) : Prop :=
  ∀ origin ∈ db.origins, ∃ card, db.findCard origin.2.1 = some card ∧ card.status = .published

theorem copies_eq (db : CardDb Digest) (cardId : CardId) :
    db.copies cardId = db.origins.countP (fun origin => origin.2.1 == cardId) := by
  rw [CardDb.origins, List.countP_map]
  rfl

theorem NoCopy.copies (h : NoCopy db db') (cardId : CardId) :
    db'.copies cardId = db.copies cardId := by
  rw [copies_eq, copies_eq, h.origins]

theorem CopyMade.copies (h : CopyMade db db' request) (cardId : CardId) :
    db'.copies cardId = db.copies cardId + if request.cardId = cardId then 1 else 0 := by
  obtain ⟨userCardId, row, horigins, -⟩ := h.made
  rw [copies_eq, copies_eq, horigins, List.countP_append, List.countP_singleton]
  simp

theorem CopiesPublished.unpublished (h : CopiesPublished db) {card : Card} {cardId : CardId}
    (hfind : db.findCard cardId = some card) (hstatus : card.status ≠ .published) :
    db.copies cardId = 0 := by
  rw [copies_eq, List.countP_eq_zero]
  intro origin horigin heq
  obtain ⟨card', hfind', hstatus'⟩ := h origin horigin
  rw [beq_iff_eq.mp heq] at hfind'
  obtain rfl := Option.some.inj (hfind.symm.trans hfind')
  exact hstatus hstatus'

theorem findCard_some {cardId : CardId} {card : Card} (h : db.findCard cardId = some card) :
    card ∈ db.cards ∧ card.id = cardId :=
  ⟨List.mem_of_find?_eq_some h, by simpa using List.find?_some h⟩

variable [RecordHash Digest] {a : CardAction}

/-- A request leaves the status of every card as it is. -/
theorem StepEffect.published (h : StepEffect db a db') {cardId : CardId}
    (hpublished : ∃ card, db.findCard cardId = some card ∧ card.status = .published) :
    ∃ card, db'.findCard cardId = some card ∧ card.status = .published := by
  obtain ⟨card, hfind, hstatus⟩ := hpublished
  rw [CardDb.findCard]
  generalize hcards : db'.cards = cards
  have hstep := h.cards
  rw [hcards] at hstep
  cases hstep with
  | same => exact ⟨card, hfind, hstatus⟩
  | limited =>
    rw [find_patch (by intro _; rfl)]
    rw [CardDb.findCard] at hfind
    rw [hfind]
    refine ⟨_, rfl, ?_⟩
    dsimp only
    split <;> exact hstatus

theorem CopiesPublished.step (h : CopiesPublished db) (htrades : db.TradesConsistent) :
    CopiesPublished (cardStep db a) := by
  have heffect := cardStep_effect htrades a
  have hcopying := heffect.copying
  generalize issuedBy db a = issued at hcopying
  intro origin horigin
  apply heffect.published
  cases hcopying with
  | quiet hquiet =>
    rw [hquiet.origins] at horigin
    exact h origin horigin
  | made hmade =>
    obtain ⟨userCardId, row, horigins, -⟩ := hmade.made
    rw [horigins] at horigin
    rcases List.mem_append.mp horigin with hold | hnew
    · exact h origin hold
    · rw [List.mem_singleton.mp hnew]
      exact hmade.published

/-- The copy that a request creates, if any, stays within the limit of its card. -/
def IssuesWithinLimit (db : CardDb Digest) (a : CardAction) : Prop :=
  ∀ request ∈ issuedBy db a, ∀ card ∈ db.cards, card.id = request.cardId →
    ∀ limit ∈ card.issueLimit, db.copies card.id < limit

instance (db : CardDb Digest) (a : CardAction) : Decidable (IssuesWithinLimit db a) :=
  inferInstanceAs (Decidable (∀ request ∈ issuedBy db a, _))

/-- A request keeps the limits exactly when the copy it creates stays within its own. -/
theorem LimitsKept.step_iff (h : LimitsKept db) (htrades : db.TradesConsistent)
    (hpublished : CopiesPublished db) :
    LimitsKept (cardStep db a) ↔ IssuesWithinLimit db a := by
  have heffect := cardStep_effect htrades a
  have hcopying := heffect.copying
  have hcards := heffect.cards
  unfold LimitsKept IssuesWithinLimit
  cases hissued : issuedBy db a with
  | none =>
    rw [hissued] at hcopying
    cases hcopying with
    | quiet hquiet =>
      refine iff_of_true ?_ (by simp)
      generalize (cardStep db a).cards = cards at hcards
      intro card hcard limit hlimit
      rw [hquiet.copies]
      cases hcards with
      | same => exact h card hcard limit hlimit
      | @limited cardId _ unpublished hfind hstatus =>
        obtain ⟨card', hcard', rfl⟩ := mem_patch.mp hcard
        by_cases hid : card'.id = unpublished.id
        · have hnone := hpublished.unpublished hfind hstatus
          simp [hid, (findCard_some hfind).2, hnone]
        · simp only [hid, beq_iff_eq, if_false] at hlimit ⊢
          exact h card' hcard' limit hlimit
  | some request =>
    rw [hissued] at hcopying
    cases hcopying with
    | made hmade =>
      have hsame : (cardStep db a).cards = db.cards := by
        generalize (cardStep db a).cards = cards at hcards
        cases hcards with
        | same => rfl
        | limited => cases hissued
      simp only [hsame, hmade.copies, Option.mem_some, forall_eq']
      constructor
      · intro hkept card hcard hid limit hlimit
        have hle := hkept card hcard limit hlimit
        rw [if_pos hid.symm] at hle
        exact hle
      · intro hwithin card hcard limit hlimit
        split
        · rename_i hid
          exact hwithin card hcard hid.symm limit hlimit
        · exact h card hcard limit hlimit

/-- A run keeps all issue limits exactly when every copy it creates stays within the limit of
its card. -/
theorem issueLimits_kept_iff (h : Genesis db) (acts : List CardAction) :
    Throughout cardStep LimitsKept db acts ↔ Always cardStep IssuesWithinLimit db acts := by
  refine throughout_iff_always
    (I := fun db : CardDb Digest => db.TradesConsistent ∧ CopiesPublished db)
    ⟨h.tradesConsistent, ?_⟩ ?_ ?_ ?_
  · simp [CopiesPublished, CardDb.origins, h.userCards]
  · simp [LimitsKept, CardDb.copies, h.userCards]
  · intro db a hdb _ _
    exact ⟨hdb.1.step a, hdb.2.step hdb.1⟩
  · intro db a hdb hkept
    exact hkept.step_iff hdb.1 hdb.2

end

/-- Two fans redeem the two uses of a code for a card limited to one copy. -/
def redeemedRareTwice : List CardAction :=
  [.redeem "fan_a" "RARE" "redeem_code" ⟨⟨"uc_a", "ledger_a"⟩, "evt_a"⟩ 1,
   .redeem "fan_b" "RARE" "redeem_code" ⟨⟨"uc_b", "ledger_b"⟩, "evt_b"⟩ 2]

theorem issueLimits_kept_redeemedRareOnce :
    Throughout cardStep LimitsKept smallCatalogue (redeemedRareTwice.take 1) :=
  (issueLimits_kept_iff genesis_smallCatalogue (redeemedRareTwice.take 1)).mpr (by decide)

theorem issueLimits_broken_redeemedRareTwice : Genesis smallCatalogue ∧
    ¬LimitsKept (cardsAfter smallCatalogue redeemedRareTwice) ∧
    (cardsAfter smallCatalogue redeemedRareTwice).copies "rare" = 2 :=
  ⟨genesis_smallCatalogue, by decide, by decide⟩

end Fanfolio
