import Fanfolio.Release.System
import Mathlib.Data.List.Induction

/-!
# What was reviewed

A request stores a snapshot of its card. Nothing compares the snapshot with the card that is
released later, so a release shows what was approved as long as no edit comes in between. Next to
the reviews of the release there is the older review, which allows a root administrator to publish
a card that no company has seen.
-/

namespace Fanfolio

open Framework

section

variable {Config : Type}

/-- The requests of the current version of a card. -/
def CardRecord.current (r : CardRecord Config) : List (CardReviewRequest Config) :=
  r.requests.filter (·.version == r.card.reviewVersion)

def CardRecord.lastApproved (r : CardRecord Config) : Option (CardReviewRequest Config) :=
  (r.current.filter (·.status == .approved)).getLast?

namespace Release

variable [Inhabited Config] {validate : Config → Except Failure Config}
  {db db' : ReleaseDb Config} {r r' : CardRecord Config} {a : ReleaseAction Config}
  {snapshot : ReviewSnapshot Config} {status : ReleaseStatus}

/-- The card is as in the snapshot, with the design of the snapshot or of an approved version. -/
structure Matches (validate : Config → Except Failure Config) (r : CardRecord Config)
    (snapshot : ReviewSnapshot Config) : Prop where
  card : { snapshot with designConfig := (reviewSnapshot r.card).designConfig } =
    reviewSnapshot r.card
  design : snapshot.designConfig = (reviewSnapshot r.card).designConfig ∨
    ∃ version ∈ r.effects, version.status = .approved ∧
      validate version.designConfig = .ok (reviewSnapshot r.card).designConfig

/-- A released card is as its last approved request shows it, under the policy of its rarity. -/
structure AsReviewed (validate : Config → Except Failure Config) (r : CardRecord Config) :
    Prop where
  policy : r.card.releasePolicy = requiredReleasePolicy r.card
  snapshot : ∃ request, r.lastApproved = some request ∧ Matches validate r request.snapshot

/-- The requests of a card that has all of its reviews. -/
inductive Cleared (validate : Config → Except Failure Config) (r : CardRecord Config) : Prop
  | partner {request : CardReviewRequest Config} (hcurrent : r.current = [request])
      (hstage : request.stage = .partner) (hstatus : request.status = .approved)
      (hmatches : Matches validate r request.snapshot)
      (hpolicy : r.card.releasePolicy = .partnerOnly)
  | platform {first second : CardReviewRequest Config} (hcurrent : r.current = [first, second])
      (hstage : first.stage = .partner) (hstatus : first.status = .approved)
      (hstage' : second.stage = .platform) (hstatus' : second.status = .approved)
      (hmatches : Matches validate r second.snapshot)

/-- The requests that go with a status of the release. -/
def Reviews (validate : Config → Except Failure Config) (r : CardRecord Config) :
    ReleaseStatus → Prop
  | .draft | .changesRequested => True
  | .pendingPartnerReview => r.card.releasePolicy = requiredReleasePolicy r.card ∧
    ∃ request, r.current = [request] ∧ request.stage = .partner ∧
      Matches validate r request.snapshot
  | .pendingPlatformReview => r.card.releasePolicy = requiredReleasePolicy r.card ∧
    ∃ first second, r.current = [first, second] ∧ first.stage = .partner ∧
      first.status = .approved ∧ second.stage = .platform ∧ Matches validate r second.snapshot
  | .approved | .dropReady | .published => r.card.releasePolicy = requiredReleasePolicy r.card ∧
    Cleared validate r

/-- What holds of every card as long as edits leave reviewed cards alone. -/
structure Vetted (validate : Config → Except Failure Config) (r : CardRecord Config) : Prop where
  versions : ∀ request ∈ r.requests, request.version ≤ r.card.reviewVersion
  live : r.card.releaseStatus = .published → r.card.status = .published
  reviews : Reviews validate r r.card.releaseStatus

/-- A card between its submission and its release. -/
def UnderReview (card : ReleaseCard Config) : Prop :=
  card.releaseStatus = .pendingPartnerReview ∨ card.releaseStatus = .pendingPlatformReview ∨
    card.releaseStatus = .approved ∨ card.releaseStatus = .dropReady

/-- An edit of a card under review leaves what the reviewers see as it is. -/
def Careful (db : ReleaseDb Config) : ReleaseAction Config → Prop
  | .updateAdminCard cardId values _ => ∀ card, db.findCard cardId = some card →
    card.status ≠ .published → UnderReview card → ∀ resolved,
    resolveValues db card.artistId card.memberId values = .ok resolved →
      reviewSnapshot (card.update resolved) = reviewSnapshot card
  | .updateCard _ cardId values _ => ∀ card, db.findCard cardId = some card →
    card.status = .draft ∨ card.status = .changesRequested → UnderReview card → ∀ resolved,
    resolveValues db card.artistId card.memberId { values with ownerArtistId := none } =
        .ok resolved →
      reviewSnapshot (card.update resolved) = reviewSnapshot card
  | _ => True

theorem Matches.transfer (h : Matches validate r snapshot)
    (hcard : reviewSnapshot r'.card = reviewSnapshot r.card)
    (hkept : ∀ row ∈ r.effects, row.status = .approved → row ∈ r'.effects) :
    Matches validate r' snapshot := by
  refine ⟨by rw [hcard]; exact h.card, ?_⟩
  rw [hcard]
  refine h.design.imp id ?_
  rintro ⟨version, hversion, hstatus, hconfig⟩
  exact ⟨version, hkept version hversion hstatus, hstatus, hconfig⟩

theorem requiredReleasePolicy_eq {card card' : ReleaseCard Config}
    (h : reviewSnapshot card' = reviewSnapshot card) :
    requiredReleasePolicy card' = requiredReleasePolicy card := by
  have hrarity : card'.rarity = card.rarity := congrArg ReviewSnapshot.rarity h
  rw [requiredReleasePolicy, requiredReleasePolicy, hrarity]

theorem Reviews.transfer (h : Reviews validate r status) (hcurrent : r'.current = r.current)
    (hmatches : ∀ snapshot, Matches validate r snapshot → Matches validate r' snapshot)
    (hpolicy : r'.card.releasePolicy = r.card.releasePolicy)
    (hrarity : requiredReleasePolicy r'.card = requiredReleasePolicy r.card) :
    Reviews validate r' status := by
  have hcleared (h : Cleared validate r) : Cleared validate r' := by
    cases h with
    | partner hrequests hstage hstatus hmatch honly =>
      exact .partner (hcurrent.trans hrequests) hstage hstatus (hmatches _ hmatch)
        (hpolicy.trans honly)
    | platform hrequests hstage hstatus hstage' hstatus' hmatch =>
      exact .platform (hcurrent.trans hrequests) hstage hstatus hstage' hstatus' (hmatches _ hmatch)
  have hrequired (h : r.card.releasePolicy = requiredReleasePolicy r.card) :
      r'.card.releasePolicy = requiredReleasePolicy r'.card := by
    rw [hpolicy, hrarity, h]
  cases status with
  | draft => trivial
  | changesRequested => trivial
  | pendingPartnerReview =>
    obtain ⟨hpol, request, hrequests, hstage, hmatch⟩ := h
    exact ⟨hrequired hpol, request, hcurrent.trans hrequests, hstage, hmatches _ hmatch⟩
  | pendingPlatformReview =>
    obtain ⟨hpol, first, second, hrequests, hstage, hstatus, hstage', hmatch⟩ := h
    exact ⟨hrequired hpol, first, second, hcurrent.trans hrequests, hstage, hstatus, hstage',
      hmatches _ hmatch⟩
  | approved => exact ⟨hrequired h.1, hcleared h.2⟩
  | dropReady => exact ⟨hrequired h.1, hcleared h.2⟩
  | published => exact ⟨hrequired h.1, hcleared h.2⟩

/-- The reviews of a card follow it as long as its snapshot stays the same. -/
theorem Reviews.of_snapshot (h : Reviews validate r status) (hcurrent : r'.current = r.current)
    (hcard : reviewSnapshot r'.card = reviewSnapshot r.card)
    (hpolicy : r'.card.releasePolicy = r.card.releasePolicy)
    (hkept : ∀ row ∈ r.effects, row.status = .approved → row ∈ r'.effects) :
    Reviews validate r' status :=
  h.transfer hcurrent (fun _ hmatch => hmatch.transfer hcard hkept) hpolicy
    (requiredReleasePolicy_eq hcard)

omit [Inhabited Config] in
theorem underReview_of_status (hdraft : r.card.releaseStatus ≠ .draft)
    (hchanges : r.card.releaseStatus ≠ .changesRequested)
    (hlive : r.card.releaseStatus ≠ .published) : UnderReview r.card := by
  unfold UnderReview
  cases hstatus : r.card.releaseStatus <;> simp_all

/-- An edit of a card that is not released keeps its reviews, if it is a careful one. -/
theorem Reviews.edited (h : Vetted validate r) {resolved : CardValues Config}
    (hlive : r.card.status ≠ .published)
    (hcareful : UnderReview r.card →
      reviewSnapshot (r.card.update resolved) = reviewSnapshot r.card) :
    Reviews validate { r with card := r.card.update resolved } r.card.releaseStatus := by
  have hreviews := h.reviews
  cases hstatus : r.card.releaseStatus with
  | draft => trivial
  | changesRequested => trivial
  | published => exact absurd (h.live hstatus) hlive
  | _ =>
    rw [hstatus] at hreviews
    have hsame := hcareful (underReview_of_status (by simp [hstatus]) (by simp [hstatus])
      (by simp [hstatus]))
    exact hreviews.of_snapshot rfl hsame rfl fun _ hrow _ => hrow

theorem Vetted.edited (h : Vetted validate r) {resolved : CardValues Config}
    (hlive : r.card.status ≠ .published)
    (hcareful : UnderReview r.card →
      reviewSnapshot (r.card.update resolved) = reviewSnapshot r.card) :
    Vetted validate { r with card := r.card.update resolved } :=
  ⟨h.versions, h.live, Reviews.edited h hlive hcareful⟩

theorem Vetted.backToDraft (h : Vetted validate r) :
    Vetted validate { r with card := r.card.backToDraft } := by
  unfold ReleaseCard.backToDraft
  split
  · exact ⟨h.versions, by simp, trivial⟩
  · exact h

theorem Vetted.submitted (h : Vetted validate r) (note : Option String)
    (requestId : ReviewRequestId) :
    Vetted validate { r with
      card := { r.card.submitted with reviewNote := note }
      requests := r.requests ++ [r.card.submitted.request .partner requestId] } := by
  have hcurrent : (r.requests ++ [r.card.submitted.request .partner requestId]).filter
      (·.version == r.card.reviewVersion + 1) = [r.card.submitted.request .partner requestId] := by
    have hold : r.requests.filter (·.version == r.card.reviewVersion + 1) = [] := by
      refine List.filter_eq_nil_iff.mpr fun row hrow heq => ?_
      have hle := h.versions row hrow
      have heq' := beq_iff_eq.mp heq
      omega
    rw [List.filter_append, hold]
    simp [ReleaseCard.request, ReleaseCard.submitted]
  refine ⟨?_, by simp [ReleaseCard.submitted], rfl, _, hcurrent, rfl, rfl, .inl rfl⟩
  intro row hrow
  rcases List.mem_append.mp hrow with hrow | hrow
  · exact Nat.le_succ_of_le (h.versions row hrow)
  · rw [List.mem_singleton.mp hrow]
    exact le_rfl

omit [Inhabited Config] in
theorem versions_patch {version : Nat} {requestId : ReviewRequestId} {decided : RequestStatus}
    (h : ∀ request ∈ r.requests, request.version ≤ version) :
    ∀ request ∈ patch (·.id == requestId) ({ · with status := decided }) r.requests,
      request.version ≤ version := by
  intro request hrequest
  obtain ⟨row, hrow, rfl⟩ := mem_patch.mp hrequest
  split
  · exact h row hrow
  · exact h row hrow

omit [Inhabited Config] in
theorem current_patch (requestId : ReviewRequestId) (decided : RequestStatus) :
    (patch (·.id == requestId) ({ · with status := decided }) r.requests).filter
      (·.version == r.card.reviewVersion) =
      patch (·.id == requestId) ({ · with status := decided }) r.current :=
  filter_patch (by intro _; rfl) _

omit [Inhabited Config] in
theorem mem_current {request : CardReviewRequest Config} (hmem : request ∈ r.requests)
    (hversion : request.version = r.card.reviewVersion) : request ∈ r.current :=
  List.mem_filter.mpr ⟨hmem, by simp [hversion]⟩

/-- The request that a company decides is the only one of its version. -/
theorem Vetted.partnerRequest (h : Vetted validate r) {request : CardReviewRequest Config}
    (hrelease : r.card.releaseStatus = .pendingPartnerReview)
    (hrequest : request ∈ r.requests ∧ request.version = r.card.reviewVersion) :
    r.card.releasePolicy = requiredReleasePolicy r.card ∧ r.current = [request] ∧
      request.stage = .partner ∧ Matches validate r request.snapshot := by
  have hreviews := h.reviews
  rw [hrelease] at hreviews
  obtain ⟨hpolicy, first, hcurrent, hstage, hmatches⟩ := hreviews
  have hmem := mem_current hrequest.1 hrequest.2
  rw [hcurrent] at hmem
  obtain rfl := List.mem_singleton.mp hmem
  exact ⟨hpolicy, hcurrent, hstage, hmatches⟩

theorem Vetted.partnerToPlatform (h : Vetted validate r) {request : CardReviewRequest Config}
    (requestId : ReviewRequestId) (hrelease : r.card.releaseStatus = .pendingPartnerReview)
    (hrequest : request ∈ r.requests ∧ request.version = r.card.reviewVersion) :
    Vetted validate { r with
      card := r.card.toPlatform
      requests := patch (·.id == request.id) ({ · with status := .approved }) r.requests ++
        [r.card.toPlatform.request .platform requestId] } := by
  obtain ⟨hpolicy, hcurrent, hstage, hmatches⟩ := h.partnerRequest hrelease hrequest
  refine ⟨?_, by simp [ReleaseCard.toPlatform], hpolicy, { request with status := .approved },
    r.card.toPlatform.request .platform requestId, ?_, hstage, rfl, rfl, rfl, .inl rfl⟩
  · intro row hrow
    rcases List.mem_append.mp hrow with hrow | hrow
    · exact versions_patch h.versions row hrow
    · rw [List.mem_singleton.mp hrow]
      exact le_rfl
  · have hold := current_patch (r := r) request.id .approved
    rw [hcurrent] at hold
    refine (List.filter_append _ _).trans ((congrArg (· ++ _) hold).trans ?_)
    simp [patch, ReleaseCard.request, ReleaseCard.toPlatform]

theorem Vetted.partnerApproved (h : Vetted validate r) {request : CardReviewRequest Config}
    (hrelease : r.card.releaseStatus = .pendingPartnerReview)
    (honly : r.card.releasePolicy = .partnerOnly)
    (hrequest : request ∈ r.requests ∧ request.version = r.card.reviewVersion) :
    Vetted validate { r with
      card := r.card.approved
      requests := patch (·.id == request.id) ({ · with status := .approved }) r.requests } := by
  obtain ⟨hpolicy, hcurrent, hstage, hmatches⟩ := h.partnerRequest hrelease hrequest
  refine ⟨versions_patch h.versions, by simp [ReleaseCard.approved], hpolicy, ?_⟩
  have hold := current_patch (r := r) request.id .approved
  rw [hcurrent] at hold
  have hnew : patch (·.id == request.id) ({ · with status := .approved }) [request] =
      [{ request with status := .approved }] := by
    simp [patch]
  exact .partner (hold.trans hnew) hstage rfl (hmatches.transfer rfl fun _ hrow _ => hrow) honly

theorem Vetted.platformApproved (h : Vetted validate r) {request : CardReviewRequest Config}
    (hrelease : r.card.releaseStatus = .pendingPlatformReview)
    (hrequest : request ∈ r.requests ∧ request.version = r.card.reviewVersion ∧
      request.stage = .platform) :
    Vetted validate { r with
      card := r.card.approved
      requests := patch (·.id == request.id) ({ · with status := .approved }) r.requests } := by
  have hreviews := h.reviews
  rw [hrelease] at hreviews
  obtain ⟨hpolicy, first, second, hcurrent, hstage, hstatus, hstage', hmatches⟩ := hreviews
  obtain rfl : request = second := by
    have hmem := mem_current hrequest.1 hrequest.2.1
    rw [hcurrent] at hmem
    rcases List.mem_cons.mp hmem with rfl | hmem
    · rw [hstage] at hrequest
      exact absurd hrequest.2.2 (by decide)
    · exact List.mem_singleton.mp hmem
  refine ⟨versions_patch h.versions, by simp [ReleaseCard.approved], hpolicy, ?_⟩
  have hold := current_patch (r := r) request.id .approved
  rw [hcurrent] at hold
  have hfirst : (if first.id == request.id then { first with status := .approved } else first) =
      first := by
    split
    · rw [← hstatus]
    · rfl
  have hnew : patch (·.id == request.id) ({ · with status := .approved }) [first, request] =
      [first, { request with status := .approved }] := by
    simp only [patch, List.map_cons, List.map_nil, hfirst, beq_self_eq_true, if_true]
  exact .platform (hold.trans hnew) hstage hstatus hstage' rfl
    (hmatches.transfer rfl fun _ hrow _ => hrow)

theorem Vetted.linked (h : Vetted validate r) (drop : Drop)
    (hrelease : r.card.releaseStatus = .approved) :
    Vetted validate { r with card := r.card.linked drop } := by
  have hreviews := h.reviews
  rw [hrelease] at hreviews
  have hkept : Reviews validate { r with card := r.card.linked drop } .approved :=
    hreviews.of_snapshot rfl rfl rfl fun _ hrow _ => hrow
  by_cases hdrop : drop.status = .live
  · have hstatus : (r.card.linked drop).releaseStatus = .published := if_pos hdrop
    exact ⟨h.versions, fun _ => if_pos hdrop, hstatus ▸ hkept⟩
  · have hstatus : (r.card.linked drop).releaseStatus = .dropReady := if_neg hdrop
    refine ⟨h.versions, fun hlive => ?_, hstatus ▸ hkept⟩
    exact absurd (hstatus.symm.trans hlive) (by decide)

/-- A careful request keeps a vetted card vetted. -/
theorem Vetted.moves (h : Vetted validate r) (hfound : db.findCard r.card.id = some r.card)
    (hcareful : Careful db a) (hmoves : Moves validate db a r r') : Vetted validate r' := by
  cases hmoves with
  | edited assets hstatus hvalues =>
    exact h.edited hstatus fun hreview => hcareful _ hfound hstatus hreview _ hvalues
  | revised assets hstatus hvalues =>
    have hlive := not_published_of_editable hstatus
    exact (h.edited hlive fun hreview => hcareful _ hfound hstatus hreview _ hvalues).backToDraft
  | submitted note requestId hstatus hrelease => exact h.submitted note requestId
  | reviewed hstatus hdecision =>
    refine ⟨h.versions, fun hlive => ?_, h.reviews.of_snapshot rfl rfl rfl fun _ hrow _ => hrow⟩
    exact absurd (hstatus.symm.trans (h.live hlive)) (by decide)
  | partnerChanges hrelease hpayload =>
    exact ⟨versions_patch h.versions, by simp [ReleaseCard.changesRequested], trivial⟩
  | partnerToPlatform hrelease hpayload hpolicy hrequest =>
    exact h.partnerToPlatform _ hrelease ⟨hrequest.1, hrequest.2.1⟩
  | partnerApproved hrelease hpayload hpolicy hrequest =>
    exact h.partnerApproved hrelease hpolicy ⟨hrequest.1, hrequest.2.1⟩
  | platformChanges hrelease hpayload =>
    exact ⟨versions_patch h.versions, by simp [ReleaseCard.changesRequested], trivial⟩
  | platformApproved hrelease hpayload hrequest => exact h.platformApproved hrelease hrequest
  | published howner hdraft hpending =>
    exact ⟨h.versions, fun _ => rfl, h.reviews.of_snapshot rfl rfl rfl fun _ hrow _ => hrow⟩
  | linked hdrop hartist hrelease =>
    exact h.linked _ hrelease
  | started hrelease =>
    have hreviews := h.reviews
    rw [hrelease] at hreviews
    exact ⟨h.versions, fun _ => rfl, hreviews.of_snapshot rfl rfl rfl fun _ hrow _ => hrow⟩
  | effectsChanged hkept => exact ⟨h.versions, h.live, h.reviews.of_snapshot rfl rfl rfl hkept⟩
  | effectApproved hkept hversion hconfig =>
    refine ⟨h.versions, h.live, h.reviews.transfer rfl ?_ rfl rfl⟩
    rintro snapshot hmatch
    refine ⟨?_, .inr ⟨_, hversion.1, hversion.2, hconfig⟩⟩
    have hcard := hmatch.card
    simp only [reviewSnapshot, ReviewSnapshot.mk.injEq] at hcard ⊢
    exact ⟨hcard.1, hcard.2.1, hcard.2.2.1, hcard.2.2.2.1, hcard.2.2.2.2.1, hcard.2.2.2.2.2.1,
      hcard.2.2.2.2.2.2.1, hcard.2.2.2.2.2.2.2.1, trivial, hcard.2.2.2.2.2.2.2.2.2⟩

/-- What careful requests keep. -/
structure CardsVetted (validate : Config → Except Failure Config) (db : ReleaseDb Config) :
    Prop where
  consistent : Consistent db
  vetted : ∀ cardId r, db.record cardId = some r → Vetted validate r

theorem CardsVetted.step (h : CardsVetted validate db) (hcareful : Careful db a) :
    CardsVetted validate (Release.step validate db a) := by
  refine ⟨h.consistent.step a, ?_⟩
  intro cardId r' hr'
  have hfollows : Follows validate db a (db.record cardId)
      ((Release.step validate db a).record cardId) := step_follows h.consistent cardId
  rw [hr'] at hfollows
  generalize hr : db.record cardId = o at hfollows
  cases hfollows with
  | same => exact h.vetted cardId r' hr
  | created hstatus hrelease =>
    refine ⟨fun _ hmem => absurd hmem List.not_mem_nil, ?_, ?_⟩
    · exact fun hlive => absurd (hrelease.symm.trans hlive) (by decide)
    · rw [hrelease]
      trivial
  | moves hmoves =>
    refine (h.vetted cardId _ hr).moves ?_ hcareful hmoves
    rw [record_id hr]
    exact record_card hr

theorem cardsVetted_start (artists : List ArtistId) (members : List Member) :
    CardsVetted validate (start artists members : ReleaseDb Config) := by
  refine ⟨consistent_start artists members, ?_⟩
  intro cardId r hr
  exact nomatch hr

theorem Cleared.lastApproved (h : Cleared validate r) :
    ∃ request, r.lastApproved = some request ∧ Matches validate r request.snapshot := by
  cases h with
  | partner hcurrent hstage hstatus hmatches hpolicy =>
    exact ⟨_, by simp [CardRecord.lastApproved, hcurrent, hstatus], hmatches⟩
  | platform hcurrent hstage hstatus hstage' hstatus' hmatches =>
    exact ⟨_, by simp [CardRecord.lastApproved, hcurrent, hstatus, hstatus'], hmatches⟩

theorem Vetted.cleared (h : Vetted validate r) (hrelease : r.card.releaseStatus = .approved ∨
    r.card.releaseStatus = .dropReady ∨ r.card.releaseStatus = .published) :
    r.card.releasePolicy = requiredReleasePolicy r.card ∧ Cleared validate r := by
  have hreviews := h.reviews
  rcases hrelease with hrelease | hrelease | hrelease <;> rw [hrelease] at hreviews <;>
    exact hreviews

/-- Every card that a drop has released is as its last approved request shows it. -/
def ReleasesAsReviewed (validate : Config → Except Failure Config) (db : ReleaseDb Config) : Prop :=
  ∀ cardId r, db.record cardId = some r → r.card.releaseStatus = .published → AsReviewed validate r

theorem releasesAsReviewed_of_careful (artists : List ArtistId) (members : List Member)
    {acts : List (ReleaseAction Config)}
    (hguard : Always (step validate) Careful (start artists members) acts) :
    Throughout (step validate) (ReleasesAsReviewed validate) (start artists members) acts := by
  have hvetted : Throughout (step validate) (CardsVetted validate) (start artists members) acts :=
    hguard.throughout (cardsVetted_start artists members) fun _ _ h hcareful => h.step hcareful
  refine hvetted.imp ?_
  intro db h cardId r hr hrelease
  have hcleared := (h.vetted cardId r hr).cleared (.inr (.inr hrelease))
  exact ⟨hcleared.1, hcleared.2.lastApproved⟩

section

/-- A card that the company approves, and its drop. -/
def approvedInDrop : List (ReleaseAction Unit) :=
  [.createAdminCard "Stage" { artistId := some (some "artist") } (.ok ()) "card",
   .submitAdminCardReview "card" none "request",
   .decidePartnerReview "card" ⟨.approved, none⟩ "unused",
   .createDrop ⟨some "artist", none, none⟩ "drop"]

theorem releasesAsReviewed_approvedInDrop :
    Throughout (step .ok) (ReleasesAsReviewed .ok) (start ["artist"] [])
      (approvedInDrop ++ [.linkCardToDrop "drop" "card", .updateDropStatus "drop" .live]) :=
  releasesAsReviewed_of_careful ["artist"] []
    ⟨trivial, trivial, trivial, trivial, trivial, trivial, trivial⟩

/-- An operator renames the approved card, and the new name is released. -/
theorem released_unlike_reviewed :
    ¬Throughout (step .ok) (ReleasesAsReviewed .ok) (start ["artist"] [])
      (approvedInDrop ++ [.updateAdminCard "card" { name := some "Encore" } (.ok ()),
        .linkCardToDrop "drop" "card", .updateDropStatus "drop" .live]) := by
  intro h
  have hlast := h.last
  have hrenamed : ∃ r ∈ (run (step .ok) (start ["artist"] []) (approvedInDrop ++
      [.updateAdminCard "card" { name := some "Encore" } (.ok ()), .linkCardToDrop "drop" "card",
        .updateDropStatus "drop" .live])).record "card",
      r.card.releaseStatus = .published ∧
        ∀ request ∈ r.lastApproved, request.snapshot.name ≠ r.card.name := by
    decide
  obtain ⟨r, hr, hrelease, hname⟩ := hrenamed
  obtain ⟨request, hrequest, hmatches⟩ := (hlast "card" r hr hrelease).snapshot
  exact hname request hrequest (congrArg ReviewSnapshot.name hmatches.card)

end

/-- The company approved the current version of the card, and the platform too if its rarity
requires so. -/
def Approved (db : ReleaseDb Config) (card : ReleaseCard Config) : Prop :=
  (∃ request ∈ db.requests, request.cardId = card.id ∧ request.version = card.reviewVersion ∧
    request.stage = .partner ∧ request.status = .approved) ∧
  (requiredReleasePolicy card = .partnerAndPlatform →
    ∃ request ∈ db.requests, request.cardId = card.id ∧ request.version = card.reviewVersion ∧
      request.stage = .platform ∧ request.status = .approved)

/-- The older review approves a version of a card. -/
def ApprovesOld (db : ReleaseDb Config) (a : ReleaseAction Config) (cardId : CardId)
    (version : Nat) : Prop :=
  (a = .reviewCard cardId .approve ∨ a = .approveCard cardId) ∧
    ∃ card, db.findCard cardId = some card ∧ card.status = .pendingReview ∧
      card.reviewVersion = version

def ApprovedOld (validate : Config → Except Failure Config) (db : ReleaseDb Config)
    (acts : List (ReleaseAction Config)) (cardId : CardId) (version : Nat) : Prop :=
  ∃ pre a post, acts = pre ++ a :: post ∧
    ApprovesOld (run (step validate) db pre) a cardId version

/-- Root administrators do not publish an owned card whose changes were requested. -/
def PublishesReviewed (db : ReleaseDb Config) : ReleaseAction Config → Prop
  | .publish cardId => ∀ card, db.findCard cardId = some card → card.ownerArtistId.isSome →
    card.status ≠ .changesRequested
  | _ => True

/-- Where a card got its status from; `old` are the versions that the older review approved. -/
structure Backed (old : Nat → Prop) (card : ReleaseCard Config) : Prop where
  approved : card.status = .approved → old card.reviewVersion ∨ card.releaseStatus = .approved ∨
    card.releaseStatus = .dropReady
  published : card.status = .published → card.ownerArtistId.isSome → old card.reviewVersion ∨
    card.releaseStatus = .approved ∨ card.releaseStatus = .dropReady ∨
      card.releaseStatus = .published

omit [Inhabited Config] in
theorem Backed.mono {old old' : Nat → Prop} {card : ReleaseCard Config} (h : Backed old card)
    (hold : ∀ version, old version → old' version) : Backed old' card :=
  ⟨fun hstatus => (h.approved hstatus).imp_left (hold _),
    fun hstatus howner => (h.published hstatus howner).imp_left (hold _)⟩

omit [Inhabited Config] in
/-- A card that is neither approved nor published. -/
theorem Backed.of_status {old : Nat → Prop} {card : ReleaseCard Config}
    (happroved : card.status ≠ .approved) (hlive : card.status ≠ .published) : Backed old card :=
  ⟨fun hstatus => absurd hstatus happroved, fun hstatus => absurd hstatus hlive⟩

omit [Inhabited Config] in
theorem Backed.edited {old : Nat → Prop} {card : ReleaseCard Config} (h : Backed old card)
    (hlive : card.status ≠ .published) (resolved : CardValues Config) :
    Backed old (card.update resolved) :=
  ⟨h.approved, fun hstatus => absurd hstatus hlive⟩

omit [Inhabited Config] in
theorem Backed.linked {old : Nat → Prop} {card : ReleaseCard Config} (drop : Drop) :
    Backed old (card.linked drop) := by
  by_cases hdrop : drop.status = .live
  · have hstatus : (card.linked drop).status = .published := if_pos hdrop
    have hrelease : (card.linked drop).releaseStatus = .published := if_pos hdrop
    refine ⟨fun happroved => ?_, fun _ _ => .inr (.inr (.inr hrelease))⟩
    exact absurd (hstatus.symm.trans happroved) (by decide)
  · have hstatus : (card.linked drop).status = .approved := if_neg hdrop
    have hrelease : (card.linked drop).releaseStatus = .dropReady := if_neg hdrop
    refine ⟨fun _ => .inr (.inr hrelease), fun hlive => ?_⟩
    exact absurd (hstatus.symm.trans hlive) (by decide)

theorem Backed.moves {old : Nat → Prop} (h : Backed old r.card)
    (hold : ∀ version, ApprovesOld db a r.card.id version → old version)
    (hfound : db.findCard r.card.id = some r.card) (hguard : PublishesReviewed db a)
    (hmoves : Moves validate db a r r') : Backed old r'.card := by
  cases hmoves with
  | edited assets hstatus hvalues => exact h.edited hstatus _
  | revised assets hstatus hvalues =>
    have hlive := not_published_of_editable hstatus
    have hedited := h.edited hlive
    unfold ReleaseCard.backToDraft
    split
    · exact .of_status (by simp) (by simp)
    · exact hedited _
  | submitted note requestId hstatus hrelease =>
    exact .of_status (by simp [ReleaseCard.submitted]) (by simp [ReleaseCard.submitted])
  | reviewed hstatus hdecision =>
    rcases hdecision with ⟨ha, rfl⟩ | rfl
    · exact ⟨fun _ => .inl (hold _ ⟨ha, r.card, hfound, hstatus, rfl⟩), by simp⟩
    · exact .of_status (by simp) (by simp)
  | partnerChanges hrelease hpayload =>
    exact .of_status (by simp [ReleaseCard.changesRequested])
      (by simp [ReleaseCard.changesRequested])
  | partnerToPlatform hrelease hpayload hpolicy hrequest =>
    exact .of_status (by simp [ReleaseCard.toPlatform]) (by simp [ReleaseCard.toPlatform])
  | partnerApproved hrelease hpayload hpolicy hrequest =>
    exact ⟨fun _ => .inr (.inl rfl), by simp [ReleaseCard.approved]⟩
  | platformChanges hrelease hpayload =>
    exact .of_status (by simp [ReleaseCard.changesRequested])
      (by simp [ReleaseCard.changesRequested])
  | platformApproved hrelease hpayload hrequest =>
    exact ⟨fun _ => .inr (.inl rfl), by simp [ReleaseCard.approved]⟩
  | published howner hdraft hpending =>
    refine ⟨by simp, fun _ hsome => ?_⟩
    cases hstatus : r.card.status with
    | draft => exact absurd hstatus (hdraft hsome)
    | pendingReview => exact absurd hstatus hpending
    | changesRequested => exact absurd hstatus (hguard r.card hfound hsome)
    | approved => exact (h.approved hstatus).imp_right (·.imp_right .inl)
    | published => exact h.published hstatus hsome
  | linked hdrop hartist hrelease => exact .linked _
  | started hrelease =>
    exact ⟨by simp [ReleaseCard.started], fun _ _ => .inr (.inr (.inr rfl))⟩
  | effectsChanged hkept => exact h
  | effectApproved hkept hversion hconfig => exact ⟨h.approved, h.published⟩

theorem Cleared.approved {cardId : CardId} (h : Cleared validate r) (hr : db.record cardId = some r)
    (hpolicy : r.card.releasePolicy = requiredReleasePolicy r.card) : Approved db r.card := by
  have hmem (request : CardReviewRequest Config) (hcurrent : request ∈ r.current) :
      request ∈ db.requests ∧ request.cardId = r.card.id ∧
        request.version = r.card.reviewVersion := by
    obtain ⟨hrequest, hversion⟩ := List.mem_filter.mp hcurrent
    rw [record_requests hr] at hrequest
    obtain ⟨hrequest, howner⟩ := List.mem_filter.mp hrequest
    rw [record_id hr]
    exact ⟨hrequest, by simpa using howner, by simpa using hversion⟩
  cases h with
  | @partner request hcurrent hstage hstatus hmatches honly =>
    obtain ⟨hrequest, howner, hversion⟩ := hmem request (by simp [hcurrent])
    refine ⟨⟨request, hrequest, howner, hversion, hstage, hstatus⟩, fun hboth => ?_⟩
    exact absurd (honly.symm.trans (hpolicy.trans hboth)) (by decide)
  | @platform first second hcurrent hstage hstatus hstage' hstatus' hmatches =>
    obtain ⟨hrequest, howner, hversion⟩ := hmem first (by simp [hcurrent])
    obtain ⟨hrequest', howner', hversion'⟩ := hmem second (by simp [hcurrent])
    exact ⟨⟨first, hrequest, howner, hversion, hstage, hstatus⟩,
      fun _ => ⟨second, hrequest', howner', hversion', hstage', hstatus'⟩⟩

theorem ApprovedOld.mono {acts : List (ReleaseAction Config)} {cardId : CardId} {version : Nat}
    (h : ApprovedOld validate db acts cardId version) (a : ReleaseAction Config) :
    ApprovedOld validate db (acts ++ [a]) cardId version := by
  obtain ⟨pre, b, post, rfl, hb⟩ := h
  exact ⟨pre, b, post ++ [a], by simp, hb⟩

/-- Every card got its status from the reviews of the run so far. -/
theorem backed_run (artists : List ArtistId) (members : List Member)
    {acts : List (ReleaseAction Config)}
    (hguard : Always (step validate) (fun db a => Careful db a ∧ PublishesReviewed db a)
      (start artists members) acts) :
    CardsVetted validate (run (step validate) (start artists members) acts) ∧
      ∀ cardId r, (run (step validate) (start artists members) acts).record cardId = some r →
        Backed (ApprovedOld validate (start artists members) acts cardId) r.card := by
  induction acts using List.reverseRecOn with
  | nil => exact ⟨cardsVetted_start artists members, fun cardId r hr => nomatch hr⟩
  | append_singleton pre a ih =>
    obtain ⟨hpre, hcareful, hpublishes⟩ := always_append.mp hguard
    obtain ⟨hvetted, hbacked⟩ := ih hpre
    rw [run_append]
    refine ⟨hvetted.step hcareful.1, ?_⟩
    intro cardId r' hr'
    generalize hdb : run (step validate) (start artists members) pre = db at *
    have hfollows : Follows validate db a (db.record cardId) ((step validate db a).record cardId) :=
      step_follows hvetted.consistent cardId
    rw [run_cons, run_nil] at hr'
    rw [hr'] at hfollows
    generalize hr : db.record cardId = o at hfollows
    have hkept {r : CardRecord Config} (hfound : db.record cardId = some r) :=
      (hbacked cardId r hfound).mono fun version hold => hold.mono a
    cases hfollows with
    | same => exact hkept hr
    | created hstatus hrelease => exact .of_status (by simp [hstatus]) (by simp [hstatus])
    | moves hmoves =>
      have hid := record_id hr
      refine (hkept hr).moves ?_ (hid ▸ record_card hr) hcareful.2 hmoves
      intro version hold
      exact ⟨pre, a, [], rfl, hdb ▸ hid ▸ hold⟩

/-- A published card of an artist was approved in its current version. -/
theorem approved_of_published (artists : List ArtistId) (members : List Member)
    {acts : List (ReleaseAction Config)}
    (hguard : Always (step validate) (fun db a => Careful db a ∧ PublishesReviewed db a)
      (start artists members) acts) {cardId : CardId} {card : ReleaseCard Config}
    (hcard : (run (step validate) (start artists members) acts).findCard cardId = some card)
    (howner : card.ownerArtistId.isSome) (hstatus : card.status = .published) :
    Approved (run (step validate) (start artists members) acts) card ∨
      ApprovedOld validate (start artists members) acts cardId card.reviewVersion := by
  obtain ⟨hvetted, hbacked⟩ := backed_run artists members hguard
  have hr := record_found hcard
  rcases (hbacked cardId _ hr).published hstatus howner with hold | hrelease
  · exact .inr hold
  · obtain ⟨hpolicy, hcleared⟩ := (hvetted.vetted cardId _ hr).cleared hrelease
    exact .inl (hcleared.approved hr hpolicy)

section

/-- An artist submits a special card. -/
def submittedSpecial : List (ReleaseAction Unit) :=
  [.createCard "owner" "Stage" { artistId := some (some "artist"), rarity := some (some "Special") }
    (.ok ()) "card",
   .submitReview "owner" "card" none (.ok ()) "request"]

/-- The company and the platform approve it, and a drop releases it. -/
def releasedSpecial : List (ReleaseAction Unit) :=
  submittedSpecial ++
    [.decidePartnerReview "card" ⟨.approved, none⟩ "second",
     .decidePlatformReview "card" ⟨.approved, none⟩, .createDrop ⟨some "artist", none, none⟩ "drop",
     .linkCardToDrop "drop" "card", .updateDropStatus "drop" .live]

theorem approved_of_published_releasedSpecial :
    ∃ card ∈ (run (step .ok) (start ["artist"] []) releasedSpecial).findCard "card",
      Approved (run (step .ok) (start ["artist"] []) releasedSpecial) card ∨
        ApprovedOld .ok (start ["artist"] []) releasedSpecial "card" card.reviewVersion := by
  have hreleased : ∃ card ∈ (run (step .ok) (start ["artist"] []) releasedSpecial).findCard "card",
      card.ownerArtistId.isSome ∧ card.status = .published := by
    decide
  obtain ⟨card, hcard, howner, hstatus⟩ := hreleased
  refine ⟨card, hcard, approved_of_published ["artist"] [] ?_ hcard howner hstatus⟩
  exact ⟨⟨trivial, trivial⟩, ⟨trivial, trivial⟩, ⟨trivial, trivial⟩, ⟨trivial, trivial⟩,
    ⟨trivial, trivial⟩, ⟨trivial, trivial⟩, ⟨trivial, trivial⟩, trivial⟩

/-- The older review and a root administrator publish it without the company and the platform. -/
theorem published_without_approval :
    ¬∀ (acts : List (ReleaseAction Unit)) (cardId : CardId) (card : ReleaseCard Unit),
      (run (step .ok) (start ["artist"] []) acts).findCard cardId = some card →
        card.ownerArtistId.isSome → card.status = .published →
          Approved (run (step .ok) (start ["artist"] []) acts) card := by
  intro h
  have hpublished : ∃ card ∈ (run (step .ok) (start ["artist"] []) (submittedSpecial ++
      [.reviewCard "card" .approve, .publish "card"])).findCard "card",
      card.ownerArtistId.isSome ∧ card.status = .published := by
    decide
  have hpending : ∀ request ∈ (run (step .ok) (start ["artist"] []) (submittedSpecial ++
      [.reviewCard "card" .approve, .publish "card"])).requests, request.status ≠ .approved := by
    decide
  obtain ⟨card, hcard, howner, hstatus⟩ := hpublished
  obtain ⟨⟨request, hrequest, -, -, -, happroved⟩, -⟩ := h _ _ card hcard howner hstatus
  exact hpending request hrequest happroved

end

end Release

end

end Fanfolio
