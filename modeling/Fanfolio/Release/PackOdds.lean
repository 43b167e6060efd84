import Fanfolio.Cards.Odds
import Fanfolio.Cards.System
import Fanfolio.Release.Openable

/-!
# The odds of a pack

The probabilities of a published pack sum to 100 up to a thousandth. Its cards share the draws
between 0 and 100 by their probabilities, up to this thousandth: a sum that runs over takes it from
the cards at the end, to which nothing may be left.
-/

namespace Fanfolio

open Framework

section

variable {Digest : Type}

/-- The entry that `open_card_pack` selects on a draw. -/
def CardDb.drawnLink (db : CardDb Digest) (packId : PackId) (draw : ℚ) : Option CardPackCard :=
  (pickOrLast draw ((db.packRows packId).map fun row => (row, row.1.probability))).map (·.1)

/-- The probabilities of the entries that come before an entry. -/
def CardDb.oddsBefore (db : CardDb Digest) (packId : PackId) (link : CardPackCard) : ℚ :=
  ((((db.packRows packId).map (·.1)).takeWhile (· ≠ link)).map (·.probability)).sum

/-- An opening that is not a retry grants the card of the entry that is selected. -/
theorem Opened.drawnLink [RecordHash Digest] {db db' entitled granted : CardDb Digest}
    {userId : UserId} {packId : PackId} {idempotencyKey : Option String} {draws : OpenDraws}
    {now : Time} {pack : CardPack} {link : CardPackCard} {card : Card} {userCard : UserCard}
    (h : Opened db db' userId packId idempotencyKey draws now entitled pack link card granted
      userCard) : db.drawnLink pack.id draws.draw = some link := by
  obtain ⟨selected, hchoice, -⟩ := h.choice
  obtain ⟨shop, reward, heq⟩ := useEntitlement_eq db userId pack.id now
  have hrows : entitled.packRows pack.id = db.packRows pack.id := by
    rw [h.rightUsed, heq]
    rfl
  rw [CardDb.drawnLink, ← hrows, hchoice, Option.map_some]

end

namespace Release

variable {Config Digest : Type} {db : ReleaseDb Config} {fans : CardDb Digest} {packId : PackId}
  {link : CardPackCard}

/-- The entries of a pack in the order in which the cursor runs over them. -/
def packEntries (fans : CardDb Digest) (packId : PackId) : List (CardPackCard × ℚ) :=
  ((fans.packRows packId).map (·.1)).map fun link => (link, link.probability)

theorem drawnLink_eq (draw : ℚ) : fans.drawnLink packId draw =
    pickOrLast draw (packEntries fans packId) := by
  rw [CardDb.drawnLink, packEntries, List.map_map]
  have hmap := pickOrLast_map (fun row : CardPackCard × Card => row.1) draw
    ((fans.packRows packId).map fun row => (row, row.1.probability))
  rw [← hmap, List.map_map]
  rfl

/-- A published pack that passes its check, with positive probabilities. -/
structure FairPack (db : ReleaseDb Config) (packId : PackId) : Prop where
  opens : PackOpens db packId
  linkIds : (db.packCards.map (·.id)).Nodup
  positive : ∀ link ∈ db.enabledLinks packId, 0 < link.probability

theorem FairPack.positiveOdds (h : FairPack db packId) (hsame : SharesCatalogue db fans) :
    PositiveOdds (packEntries fans packId) := by
  intro entry hentry
  obtain ⟨link, hlink, rfl⟩ := List.mem_map.mp hentry
  exact h.positive link ((packRows_links hsame h.opens).mem_iff.mp hlink)

theorem FairPack.nodup (h : FairPack db packId) (hsame : SharesCatalogue db fans) :
    ((packEntries fans packId).map Prod.fst).Nodup := by
  have hlinks : (packEntries fans packId).map Prod.fst = (fans.packRows packId).map (·.1) := by
    simp [packEntries, Function.comp_def]
  rw [hlinks, (packRows_links hsame h.opens).nodup_iff]
  exact (List.Nodup.of_map _ h.linkIds).filter _

theorem FairPack.totalOdds (h : FairPack db packId) (hsame : SharesCatalogue db fans) :
    |totalOdds (packEntries fans packId) - 100| ≤ 1 / 1000 := by
  have htotal : Fanfolio.totalOdds (packEntries fans packId) =
      ((db.enabledLinks packId).map (·.probability)).sum := by
    rw [← packRows_sum hsame h.opens, Fanfolio.totalOdds, packEntries]
    simp only [List.map_map]
    rfl
  rw [htotal]
  exact h.opens.odds

/-- The entries before and after an entry of the pack. -/
theorem FairPack.split (h : FairPack db packId) (hsame : SharesCatalogue db fans)
    (hlink : link ∈ db.enabledLinks packId) : ∃ before after,
      packEntries fans packId = before ++ (link, link.probability) :: after ∧
        fans.oddsBefore packId link = Fanfolio.totalOdds before := by
  have hmem := (packRows_links hsame h.opens).mem_iff.mpr hlink
  have hnd : ((fans.packRows packId).map (·.1)).Nodup :=
    (packRows_links hsame h.opens).nodup_iff.mpr ((List.Nodup.of_map _ h.linkIds).filter _)
  obtain ⟨before, after, hsplit⟩ := List.append_of_mem hmem
  rw [hsplit] at hnd
  have hne : ∀ other ∈ before, decide (other ≠ link) = true := by
    intro other hother
    refine decide_eq_true fun heq => ?_
    exact (List.nodup_append.mp hnd).2.2 other hother link List.mem_cons_self heq
  refine ⟨before.map fun link => (link, link.probability),
    after.map fun link => (link, link.probability), ?_, ?_⟩
  · rw [packEntries, hsplit, List.map_append, List.map_cons]
  · rw [CardDb.oddsBefore, hsplit, List.takeWhile_append_of_pos hne,
      List.takeWhile_cons_of_neg (by simp), List.append_nil, Fanfolio.totalOdds, List.map_map]
    rfl

/-- The draws that select an entry are an interval as long as its probability, but for what the sum
of all probabilities lacks or exceeds. -/
theorem FairPack.measure (h : FairPack db packId) (hsame : SharesCatalogue db fans)
    (hlink : link ∈ db.enabledLinks packId) : ∃ lo hi,
      Spans {draw | 0 ≤ draw ∧ draw ≤ 100 ∧ fans.drawnLink packId draw = some link} lo hi ∧
        |hi - lo - link.probability| ≤ 1 / 1000 ∧
        (0 < hi - lo ↔ fans.oddsBefore packId link < 100) := by
  obtain ⟨before, after, hsplit, hbefore⟩ := h.split hsame hlink
  have hpos := h.positiveOdds hsame
  have hnd := h.nodup hsame
  have htotal := h.totalOdds hsame
  simp only [drawnLink_eq]
  rw [hsplit] at hpos hnd htotal ⊢
  rw [totalOdds_append, totalOdds_cons] at htotal
  have hp : 0 < link.probability := h.positive link hlink
  have hafter : 0 ≤ Fanfolio.totalOdds after :=
    PositiveOdds.totalOdds_nonneg fun entry hentry => hpos entry (by simp [hentry])
  rw [abs_le] at htotal
  refine ⟨_, _, pickOrLast_spans hpos hnd, ?_, ?_⟩
  · rw [abs_le]
    split
    · rename_i hlast
      rw [hlast, totalOdds_nil] at htotal
      rcases le_total 100 (Fanfolio.totalOdds before) with hover | hunder
      · rw [min_eq_left hover]
        constructor <;> linarith
      · rw [min_eq_right hunder]
        constructor <;> linarith
    · rcases le_total 100 (Fanfolio.totalOdds before) with hover | hunder
      · rw [min_eq_left hover, min_eq_left (by linarith)]
        constructor <;> linarith
      · rw [min_eq_right hunder]
        rcases le_total 100 (Fanfolio.totalOdds before + link.probability) with hreach | hreach
        · rw [min_eq_left hreach]
          constructor <;> linarith
        · rw [min_eq_right hreach]
          constructor <;> linarith
  · rw [sub_pos, hbefore]
    split
    · simp
    · rw [lt_min_iff, min_lt_iff, min_lt_iff]
      constructor
      · rintro ⟨hlt, -⟩
        exact hlt.resolve_left (lt_irrefl _)
      · intro hlt
        exact ⟨.inr hlt, .inr (by linarith)⟩

theorem FairPack.drawnLink_unique (h : FairPack db packId) (hsame : SharesCatalogue db fans)
    (draw : ℚ) : ∃! link, link ∈ db.enabledLinks packId ∧
      fans.drawnLink packId draw = some link := by
  have hsome : (pickOrLast draw (packEntries fans packId)).isSome := by
    refine pickOrLast_isSome ?_
    intro hnil
    have htotal := h.totalOdds hsame
    rw [hnil] at htotal
    norm_num at htotal
  obtain ⟨link, hpick⟩ := Option.isSome_iff_exists.mp hsome
  refine ⟨link, ⟨?_, by rw [drawnLink_eq, hpick]⟩, ?_⟩
  · obtain ⟨entry, hentry, rfl⟩ := List.mem_map.mp (pickOrLast_mem hpick)
    obtain ⟨link, hlink, rfl⟩ := List.mem_map.mp hentry
    exact (packRows_links hsame h.opens).mem_iff.mp hlink
  · rintro other ⟨-, hother⟩
    rw [drawnLink_eq, hpick] at hother
    exact (Option.some.inj hother).symm

/-- A pack whose publication is accepted is fair if its probabilities are positive. -/
theorem publishCardPack_fair {db' : ReleaseDb Config} (h : Consistent db)
    (hlinkIds : (db.packCards.map (·.id)).Nodup)
    (hpositive : ∀ link ∈ db.enabledLinks packId, 0 < link.probability)
    (hok : publishCardPack db packId = .ok db') : FairPack db' packId := by
  obtain ⟨hopens, rfl⟩ := publishCardPack_opens h hok
  exact ⟨⟨hopens.odds, hopens.cards⟩, hlinkIds, hpositive⟩

/-- The cards of a fair pack divide the draws between 0 and 100 up to a thousandth as published. A
card has a share exactly if the cards before it leave something of the 100. -/
theorem openCardPack_odds (h : FairPack db packId) (hsame : SharesCatalogue db fans) :
    (∀ draw, 0 ≤ draw → draw ≤ 100 → ∃! link, link ∈ db.enabledLinks packId ∧
      fans.drawnLink packId draw = some link) ∧
    ∀ link ∈ db.enabledLinks packId, ∃ lo hi,
      Spans {draw | 0 ≤ draw ∧ draw ≤ 100 ∧ fans.drawnLink packId draw = some link} lo hi ∧
        |hi - lo - link.probability| ≤ 1 / 1000 ∧
        (0 < hi - lo ↔ fans.oddsBefore packId link < 100) :=
  ⟨fun draw _ _ => h.drawnLink_unique hsame draw, fun _ hlink => h.measure hsame hlink⟩

namespace Overfull

/-- Two published cards, and a pack in which their probabilities run over 100. -/
def acts : List (ReleaseAction Unit) :=
  [.createAdminCard "Stage" { artistId := some (some "artist") } (.ok ()) "card_a",
   .submitAdminCardReview "card_a" none "request_a",
   .decidePartnerReview "card_a" ⟨.approved, none⟩ "unused", .publish "card_a",
   .createAdminCard "Encore" { artistId := some (some "artist") } (.ok ()) "card_b",
   .submitAdminCardReview "card_b" none "request_b",
   .decidePartnerReview "card_b" ⟨.approved, none⟩ "unused", .publish "card_b",
   .createCardPack
     { artistId := "artist"
       cards := [{ cardId := "card_a", probability := 100 },
                 { cardId := "card_b", position := 1, probability := 1 / 2000 }] }
     "pack" ("link_" ++ ·)]

/-- The catalogue before the pack is published, and after it. -/
def unpublished : ReleaseDb Unit := run (step .ok) (start ["artist"] []) acts

def published : ReleaseDb Unit := step .ok unpublished (.publishCardPack "pack")

/-- What fans see of a catalogue. -/
def shown (db : ReleaseDb Unit) : CardDb SymbolicDigest :=
  { smallCatalogue with cards := db.cards.map (·.toCard), packs := db.packs,
                        packCards := db.packCards }

theorem shown_shares (db : ReleaseDb Unit) : SharesCatalogue db (shown db) := ⟨rfl, rfl, rfl⟩

theorem published_accepted : publishCardPack unpublished "pack" = .ok published := by
  have hok : (publishCardPack unpublished "pack").isOk = true := by decide +kernel
  rw [published, step, attempt]
  cases h : publishCardPack unpublished "pack" with
  | ok db => rfl
  | error e => simp [h, Except.isOk, Except.toBool] at hok

theorem published_fair : FairPack published "pack" := by
  refine publishCardPack_fair ?_ (by decide +kernel) (by decide +kernel) published_accepted
  exact run_of_step (consistent_start ["artist"] []) fun _ a h => h.step a

theorem published_entries : packEntries (shown published) "pack" =
    [({ id := "link_card_a", packId := "pack", cardId := "card_a", probability := 100 }, 100),
     ({ id := "link_card_b", packId := "pack", cardId := "card_b", position := 1
        probability := 1 / 2000 }, 1 / 2000)] := by
  decide +kernel

end Overfull

open Overfull in
theorem openCardPack_odds_overfull : ∃! link, link ∈ published.enabledLinks "pack" ∧
    (shown published).drawnLink "pack" 50 = some link :=
  (openCardPack_odds published_fair (shown_shares published)).1 50 (by norm_num) (by norm_num)

open Overfull in
/-- The publication of the pack is accepted, and no draw selects its second card. -/
theorem openCardPack_odds_tail : publishCardPack unpublished "pack" = .ok published ∧
    FairPack published "pack" ∧
    ∃ link ∈ published.enabledLinks "pack", ∀ draw, 0 ≤ draw → draw ≤ 100 →
      (shown published).drawnLink "pack" draw ≠ some link := by
  refine ⟨published_accepted, published_fair, ?_⟩
  refine ⟨{ id := "link_card_b", packId := "pack", cardId := "card_b", position := 1
            probability := 1 / 2000 }, by decide +kernel, ?_⟩
  intro draw _ hhi hdrawn
  rw [drawnLink_eq, published_entries, pickOrLast, pickByCursor, zero_add, if_pos hhi] at hdrawn
  exact absurd hdrawn (by simp)

end Release

end Fanfolio
