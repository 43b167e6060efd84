import Fanfolio.FanEvents.Links
import Fanfolio.Framework.UnitOfWork

/-!
# The related cards of an event

An edit deletes the old rows and adds the new ones, and leaves both to one flush. The new rows are
inserted while the old ones are still stored.
-/

namespace Fanfolio

open Framework

/-- The rows for a list of cards, in order. -/
def relatedRows (eventId : EventId) (cardIds : List CardId) : List EventRelatedCard :=
  cardIds.mapIdx fun position cardId => EventRelatedCard.mk eventId cardId position

/-- The unique constraint of `event_related_cards` that a row violates next to a stored one. -/
def EventRelatedCard.violated (old row : EventRelatedCard) : Option Failure :=
  if old.eventId ≠ row.eventId then none
  else if old.cardId = row.cardId then some (.integrity "uq_event_related_cards_event_card")
  else if old.position = row.position then
    some (.integrity "uq_event_related_cards_event_position")
  else none

namespace EventDb

def relatedTo (db : EventDb) (eventId : EventId) : List EventRelatedCard :=
  db.relatedCards.filter (·.eventId == eventId)

/-- `_replace_related_cards`, with the flush that follows it. -/
def flushRelatedCards (db : EventDb) (eventId : EventId) (cardIds : List CardId) :
    Except Failure EventDb := do
  let relatedCards ← flush EventRelatedCard.violated db.relatedCards (relatedRows eventId cardIds)
    (db.relatedTo eventId)
  pure { db with relatedCards := relatedCards }

/-- What `admin_update_event` checks besides the rows of the related cards. -/
structure AdmitsUpdate (db : EventDb) (context : AdminContext) (eventId : EventId)
    (payload : EventPayload) : Prop where
  fields : payload.validateEventFields = .ok ()
  action : context.requireAction "events:write" = .ok ()
  editable : ∃ event, loadEventInScope db.events context eventId = .ok event ∧
    event.workflowStatus ≠ .ended
  cards : db.validateRelatedCards context payload.relatedCardIds = .ok ()
  asset : db.validateEventAsset payload.heroAssetId = .ok ()
  links : db.checkLinkKeys payload.toEventContent = .ok ()

end EventDb

section

variable {eventId : EventId} {cardIds old : List CardId} {row : EventRelatedCard}

theorem mem_relatedRows : row ∈ relatedRows eventId cardIds ↔
    row.eventId = eventId ∧ cardIds[row.position]? = some row.cardId := by
  obtain ⟨eventId', cardId, position⟩ := row
  simp only [relatedRows, List.mem_mapIdx, EventRelatedCard.mk.injEq]
  constructor
  · rintro ⟨i, hi, rfl, rfl, rfl⟩
    exact ⟨rfl, List.getElem?_eq_getElem hi⟩
  · rintro ⟨rfl, hcard⟩
    obtain ⟨hi, heq⟩ := List.getElem?_eq_some_iff.mp hcard
    exact ⟨position, hi, rfl, heq, rfl⟩

theorem violated_eq_none {old row : EventRelatedCard} : old.violated row = none ↔
    (old.eventId = row.eventId → old.cardId ≠ row.cardId ∧ old.position ≠ row.position) := by
  unfold EventRelatedCard.violated
  split
  · simp_all
  · split
    · simp_all
    · split <;> simp_all

/-- The rows for distinct cards violate no constraint among themselves. -/
theorem relatedRows_pairwise (h : cardIds.Nodup) :
    (relatedRows eventId cardIds).Pairwise (·.violated · = none) := by
  rw [List.pairwise_iff_getElem]
  intro i j hi hj hij
  simp only [relatedRows, List.length_mapIdx] at hi hj
  rw [violated_eq_none]
  intro _
  simp only [relatedRows, List.getElem_mapIdx]
  exact ⟨fun heq => absurd ((h.getElem_inj_iff).mp heq) (by omega), by omega⟩

/-- Rows for two lists of cards clash at position 0, unless one of the lists is empty. -/
theorem relatedRows_clash : (∀ row ∈ relatedRows eventId old, ∀ row' ∈ relatedRows eventId cardIds,
    row.cardId ≠ row'.cardId ∧ row.position ≠ row'.position) ↔ old = [] ∨ cardIds = [] := by
  constructor
  · intro h
    cases old with
    | nil => exact .inl rfl
    | cons first old =>
      cases cardIds with
      | nil => exact .inr rfl
      | cons first' cardIds =>
        have hrow : ⟨eventId, first, 0⟩ ∈ relatedRows eventId (first :: old) :=
          mem_relatedRows.mpr ⟨rfl, rfl⟩
        have hrow' : ⟨eventId, first', 0⟩ ∈ relatedRows eventId (first' :: cardIds) :=
          mem_relatedRows.mpr ⟨rfl, rfl⟩
        exact absurd rfl (h _ hrow _ hrow').2
  · rintro (rfl | rfl) <;> simp [relatedRows]

namespace EventDb

variable {db db' : EventDb} {context : AdminContext} {payload : EventPayload}

theorem mem_relatedTo : row ∈ db.relatedTo eventId ↔
    row ∈ db.relatedCards ∧ row.eventId = eventId := by
  rw [relatedTo, List.mem_filter, beq_iff_eq]

theorem replaceRelatedCards_iff : db.replaceRelatedCards eventId cardIds = .ok db' ↔
    (∀ old ∈ db.relatedTo eventId, ∀ row ∈ relatedRows eventId cardIds,
      old.cardId ≠ row.cardId ∧ old.position ≠ row.position) ∧
    { db with relatedCards :=
        db.relatedCards.filter (·.eventId != eventId) ++ relatedRows eventId cardIds } = db' := by
  simp only [replaceRelatedCards, bind_ok, ensure_ok, pure_ok, exists_const]
  refine and_congr ?_ Iff.rfl
  constructor
  · intro h old hold row hrow
    obtain ⟨hmem, hid⟩ := mem_relatedTo.mp hold
    exact h row hrow old hmem hid
  · intro h row hrow old hmem hid
    exact h old (mem_relatedTo.mpr ⟨hmem, hid⟩) row hrow

/-- What a flush leaves, if no new row clashes with an old one. -/
theorem filter_relatedTo (h : ∀ old ∈ db.relatedTo eventId, ∀ row ∈ relatedRows eventId cardIds,
      old.cardId ≠ row.cardId ∧ old.position ≠ row.position) :
    (db.relatedCards ++ relatedRows eventId cardIds).filter (· ∉ db.relatedTo eventId) =
      db.relatedCards.filter (·.eventId != eventId) ++ relatedRows eventId cardIds := by
  have hold : db.relatedCards.filter (· ∉ db.relatedTo eventId) =
      db.relatedCards.filter (·.eventId != eventId) := by
    apply List.filter_congr
    intro old hold
    simp [mem_relatedTo, hold, bne, beq_eq_decide]
  have hnew : (relatedRows eventId cardIds).filter (· ∉ db.relatedTo eventId) =
      relatedRows eventId cardIds := by
    rw [List.filter_eq_self]
    intro row hrow
    rw [decide_eq_true_iff]
    exact fun hmem => (h row hmem row hrow).1 rfl
  rw [List.filter_append, hold, hnew]

/-- The write of the related cards is what the statements of the flush do. -/
theorem replaceRelatedCards_eq_flush (hcards : cardIds.Nodup) :
    db.replaceRelatedCards eventId cardIds = .ok db' ↔
      db.flushRelatedCards eventId cardIds = .ok db' := by
  have hstored : (∀ old ∈ db.relatedTo eventId, ∀ row ∈ relatedRows eventId cardIds,
      old.cardId ≠ row.cardId ∧ old.position ≠ row.position) ↔
      ∀ old ∈ db.relatedCards, ∀ row ∈ relatedRows eventId cardIds, old.violated row = none := by
    constructor
    · intro h old hold row hrow
      rw [violated_eq_none, (mem_relatedRows.mp hrow).1]
      exact fun hid => h old (mem_relatedTo.mpr ⟨hold, hid⟩) row hrow
    · intro h old hold row hrow
      obtain ⟨hmem, hid⟩ := mem_relatedTo.mp hold
      exact violated_eq_none.mp (h old hmem row hrow) (by rw [hid, (mem_relatedRows.mp hrow).1])
  simp only [flushRelatedCards, bind_ok, flush_ok, pure_ok, replaceRelatedCards_iff, ← hstored]
  constructor
  · rintro ⟨hclash, rfl⟩
    exact ⟨_, ⟨hclash, relatedRows_pairwise hcards, rfl⟩, by rw [filter_relatedTo hclash]⟩
  · rintro ⟨_, ⟨hclash, -, rfl⟩, rfl⟩
    exact ⟨hclash, by rw [filter_relatedTo hclash]⟩

theorem replaceRelatedCards_relatedTo (h : db.replaceRelatedCards eventId cardIds = .ok db') :
    db'.relatedTo eventId = relatedRows eventId cardIds ∧
      ∀ other, other ≠ eventId → db'.relatedTo other = db.relatedTo other := by
  obtain ⟨-, rfl⟩ := replaceRelatedCards_iff.mp h
  constructor
  · have hold : (db.relatedCards.filter (·.eventId != eventId)).filter (·.eventId == eventId) =
        [] := by
      simp [List.filter_filter, List.filter_eq_nil_iff]
    rw [relatedTo, List.filter_append, hold, List.nil_append, List.filter_eq_self]
    intro row hrow
    rw [(mem_relatedRows.mp hrow).1, beq_self_eq_true]
  · intro other hne
    have hnew : (relatedRows eventId cardIds).filter (·.eventId == other) = [] := by
      rw [List.filter_eq_nil_iff]
      intro row hrow
      rw [(mem_relatedRows.mp hrow).1, beq_iff_eq]
      exact hne.symm
    rw [relatedTo, List.filter_append, hnew, List.append_nil, List.filter_filter]
    apply List.filter_congr
    intro row _
    by_cases hid : row.eventId = other <;> simp [hid, hne]

/-- An edit goes through exactly if it is admitted and the rows of its cards do not clash. -/
theorem updateEvent_relatedTo : (∃ db', db.updateEvent context eventId payload = .ok db' ∧
      db'.relatedTo eventId = relatedRows eventId payload.relatedCardIds) ↔
    db.AdmitsUpdate context eventId payload ∧
      ∀ old ∈ db.relatedTo eventId, ∀ row ∈ relatedRows eventId payload.relatedCardIds,
        old.cardId ≠ row.cardId ∧ old.position ≠ row.position := by
  constructor
  · rintro ⟨db', hok, -⟩
    simp only [updateEvent, bind_ok, pure_ok, ensure_ok] at hok
    obtain ⟨_, hfields, _, haction, event, hload, _, hopen, _, hcards, replaced, hreplace, _,
      hasset, _, hlinks, rfl⟩ := hok
    obtain ⟨hclash, rfl⟩ := replaceRelatedCards_iff.mp hreplace
    exact ⟨⟨hfields, haction, ⟨event, hload, hopen⟩, hcards, hasset, hlinks⟩, hclash⟩
  · rintro ⟨⟨hfields, haction, ⟨event, hload, hopen⟩, hcards, hasset, hlinks⟩, hclash⟩
    let edited : Event :=
      { event with
        toEventContent := payload.toEventContent
        priority := if context.isRoot then payload.priority else event.priority }
    have hreplace : (db.setEvent edited).replaceRelatedCards eventId payload.relatedCardIds =
        .ok _ := replaceRelatedCards_iff.mpr ⟨hclash, rfl⟩
    refine ⟨_, ?_, (replaceRelatedCards_relatedTo hreplace).1⟩
    simp only [updateEvent, bind_ok, pure_ok, ensure_ok]
    exact ⟨(), hfields, (), haction, event, hload, (), hopen, (), hcards, _, hreplace, (), hasset,
      (), hlinks, rfl⟩

/-- The cards of an edited event are the new ones in order exactly if the edit is admitted and the
event had no cards or gets none. -/
theorem relatedCards_replaced_iff (hold : db.relatedTo eventId = relatedRows eventId old) :
    (∃ db', db.updateEvent context eventId payload = .ok db' ∧
      db'.relatedTo eventId = relatedRows eventId payload.relatedCardIds) ↔
    db.AdmitsUpdate context eventId payload ∧ (old = [] ∨ payload.relatedCardIds = []) := by
  rw [updateEvent_relatedTo, hold, relatedRows_clash]

/-- The rows of every event are those of a list of distinct cards, in order. -/
def RelatedInOrder (db : EventDb) : Prop :=
  ∀ eventId, ∃ cardIds, cardIds.Nodup ∧ db.relatedTo eventId = relatedRows eventId cardIds

theorem RelatedInOrder.replace (h : db.RelatedInOrder) (hcards : cardIds.Nodup)
    (hok : db.replaceRelatedCards eventId cardIds = .ok db') : db'.RelatedInOrder := by
  obtain ⟨hrows, hothers⟩ := replaceRelatedCards_relatedTo hok
  intro other
  by_cases hother : other = eventId
  · rw [hother]
    exact ⟨cardIds, hcards, hrows⟩
  · rw [hothers other hother]
    exact h other

theorem validateEventFields_nodup (h : payload.validateEventFields = .ok ()) :
    payload.relatedCardIds.Nodup := by
  simp only [EventPayload.validateEventFields, ensure_ok] at h
  exact h.2.1

theorem RelatedInOrder.step {urlScheme : String → Option String} (h : db.RelatedInOrder)
    (request : AdminContext × EventRequest) : (db.step urlScheme request).RelatedInOrder := by
  unfold EventDb.step
  split
  · rename_i db' hok
    obtain ⟨context, request⟩ := request
    cases request with
    | create payload eventId =>
      simp only [perform, createEvent, bind_ok] at hok
      obtain ⟨_, hfields, _, -, _, -, _, -, _, -, _, -, _, -, _, -, _, -, hreplace⟩ := hok
      have hcards := validateEventFields_nodup hfields
      refine RelatedInOrder.replace ?_ hcards hreplace
      exact h
    | update eventId payload =>
      simp only [perform, updateEvent, bind_ok, pure_ok] at hok
      obtain ⟨_, hfields, _, -, event, -, _, -, _, -, _, hreplace, _, -, _, -, rfl⟩ := hok
      have hcards := validateEventFields_nodup hfields
      refine RelatedInOrder.replace ?_ hcards hreplace
      exact h
    | submit eventId =>
      simp only [perform, submitEvent, bind_ok, pure_ok] at hok
      obtain ⟨_, -, _, -, _, -, _, -, _, -, rfl⟩ := hok
      exact h
    | review eventId decision note =>
      simp only [perform, reviewEvent, bind_ok, pure_ok] at hok
      obtain ⟨_, -, _, -, _, -, _, -, rfl⟩ := hok
      exact h
    | publish eventId now =>
      simp only [perform, publishEvent, bind_ok, pure_ok] at hok
      obtain ⟨_, -, _, -, _, -, rfl⟩ := hok
      exact h
    | finish eventId =>
      simp only [perform, endEvent, bind_ok, pure_ok] at hok
      obtain ⟨_, -, _, -, _, -, rfl⟩ := hok
      exact h
  · exact h

/-- In every state reached from tables without related cards, the rows are in order. -/
theorem relatedInOrder_run {urlScheme : String → Option String} (h : db.relatedCards = [])
    (requests : List (AdminContext × EventRequest)) :
    (run (step urlScheme) db requests).RelatedInOrder := by
  have hstart : db.RelatedInOrder := fun eventId => ⟨[], List.nodup_nil, by simp [relatedTo, h,
    relatedRows]⟩
  exact run_of_step hstart fun _ request h' => h'.step request

/-- An event about a card, shown with the given cards. -/
def relatedPayload (cardIds : List CardId) : EventPayload :=
  { cardPayload "c1" with relatedCardIds := cardIds }

/-- The event is created with one related card. -/
def relatedEvent : EventDb :=
  cardEvents.step httpsScheme (rootContext, .create (relatedPayload ["c1"]) "e1")

theorem relatedEvent_admits (cardIds : List CardId)
    (h : cardIds = [] ∨ cardIds = ["c2"]) :
    relatedEvent.AdmitsUpdate rootContext "e1" (relatedPayload cardIds) := by
  rcases h with rfl | rfl <;>
    exact ⟨by decide, by decide, ⟨_, rfl, by decide⟩, by decide, by decide, by decide⟩

/-- Another card cannot take the place of the one that is there. -/
theorem relatedCards_replaced_fails :
    relatedEvent.relatedTo "e1" = relatedRows "e1" ["c1"] ∧
    relatedEvent.AdmitsUpdate rootContext "e1" (relatedPayload ["c2"]) ∧
    ¬∃ db', relatedEvent.updateEvent rootContext "e1" (relatedPayload ["c2"]) = .ok db' ∧
      db'.relatedTo "e1" = relatedRows "e1" ["c2"] := by
  refine ⟨by decide, relatedEvent_admits ["c2"] (.inr rfl), ?_⟩
  rintro ⟨db', hok, -⟩
  have hfails : relatedEvent.updateEvent rootContext "e1" (relatedPayload ["c2"]) =
      .error (.integrity "uq_event_related_cards_event_position") := rfl
  rw [hfails] at hok
  cases hok

theorem relatedCards_replaced_removed :
    relatedEvent.relatedTo "e1" = relatedRows "e1" ["c1"] ∧
    ∃ db', relatedEvent.updateEvent rootContext "e1" (relatedPayload []) = .ok db' ∧
      db'.relatedTo "e1" = relatedRows "e1" [] := by
  have hold : relatedEvent.relatedTo "e1" = relatedRows "e1" ["c1"] := by decide
  exact ⟨hold, (relatedCards_replaced_iff hold).mpr ⟨relatedEvent_admits [] (.inl rfl), .inr rfl⟩⟩

end EventDb

end

end Fanfolio
