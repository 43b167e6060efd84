import Fanfolio.Framework.Paging
import Fanfolio.FanEvents.Schema
import Mathlib.Data.Prod.Lex

/-!
# The list of events

Fans list the events that are active, upcoming or ended, page by page. The list agrees with the
status that is shown. The pages are sorted by priority and start only, so that events that tie can
be shown twice or not at all.
-/

namespace Fanfolio

open Framework

/-- The `status` parameter of `list_events`. -/
inductive ListedStatus where
  | all
  | of (status : PublicEventStatus)
deriving DecidableEq, Repr

/-- `_public_filter`. -/
def publicFilter (status : PublicEventStatus) (now : Time) (event : Event) : Bool :=
  match status with
  | .active => event.startsAt ≤ now && event.endsAt.all (now < ·)
  | .upcoming => now < event.startsAt
  | .ended => event.endsAt.any (· ≤ now)

/-- The filters of `list_events`. -/
def listFilter (statusValue : ListedStatus) (artistId : Option ArtistId) (now : Time)
    (event : Event) : Bool :=
  (event.workflowStatus == .scheduled || event.workflowStatus == .published) &&
    (match statusValue with
      | .all => true
      | .of status => publicFilter status now event &&
        (status != .ended || event.endsAt.any (now - days 90 ≤ ·))) &&
    (artistId.filter (· ≠ "")).all (event.artistId == some ·)

/-- `desc(Event.priority), Event.starts_at`. -/
def listOrder (event : Event) : Natᵒᵈ ×ₗ Time :=
  toLex (OrderDual.toDual event.priority, event.startsAt)

/-- The answer of `list_events`, with the events themselves and the status that is shown. -/
structure EventList where
  items : List (Event × Option PublicEventStatus)
  page : Nat
  pageSize : Nat
  total : Nat
  totalPages : Nat
deriving DecidableEq

section

variable (events : List Event) (statusValue : ListedStatus) (artistId : Option ArtistId)

/-- `list_events`; `order` is the one in which the database gives rows that tie. -/
def listEvents (page pageSize : Nat) (order : List Event) (now : Time) : EventList :=
  let rows := events.filter (listFilter statusValue artistId now)
  { items := (pageOf pageSize page (orderedScan listOrder order rows)).map fun event =>
      (event, publicEventStatus event.workflowStatus event.startsAt event.endsAt now)
    page := page
    pageSize := pageSize
    total := rows.length
    totalPages := pageCount pageSize rows.length }

/-- The events of all pages, each of which is a query of its own. -/
def eventsOfPages (pageSize : Nat) (orders : Nat → List Event) (now : Time) : List Event :=
  let totalPages := (listEvents events statusValue artistId 1 pageSize (orders 1) now).totalPages
  (List.range totalPages).flatMap fun i =>
    (listEvents events statusValue artistId (i + 1) pageSize (orders (i + 1)) now).items.map Prod.fst

theorem eventsOfPages_eq (pageSize : Nat) (orders : Nat → List Event) (now : Time) :
    eventsOfPages events statusValue artistId pageSize orders now =
      rowsOfPages pageSize
        (pageCount pageSize (events.filter (listFilter statusValue artistId now)).length)
        fun page => orderedScan listOrder (orders page)
          (events.filter (listFilter statusValue artistId now)) := by
  simp [eventsOfPages, listEvents, rowsOfPages, Function.comp_def]

end

variable {events : List Event} {event : Event} {status : PublicEventStatus}
  {artistId : Option ArtistId} {now : Time}

/-- The filter of a status picks the events that are shown with this status. -/
theorem publicFilter_iff (hends : ∀ endsAt ∈ event.endsAt, event.startsAt < endsAt)
    (hworkflow : event.workflowStatus = .scheduled ∨ event.workflowStatus = .published) :
    publicFilter status now event = true ↔
      publicEventStatus event.workflowStatus event.startsAt event.endsAt now = some status := by
  have hended : event.workflowStatus ≠ .ended := by
    rcases hworkflow with h | h <;> simp [h]
  have hopen : event.endsAt.all (now < ·) = !event.endsAt.any (· ≤ now) := by
    cases event.endsAt with
    | none => rfl
    | some endsAt =>
      rw [Option.all_some, Option.any_some, Bool.eq_iff_iff]
      simp
  simp only [publicEventStatus, hended, false_or, hworkflow, if_true]
  cases hover : event.endsAt.any (· ≤ now) with
  | true =>
    obtain ⟨endsAt, hend, hle⟩ := (Option.any_eq_true _ _).mp hover
    have hstarted : event.startsAt ≤ now :=
      (hends endsAt hend).le.trans (of_decide_eq_true hle)
    cases status <;> simp [publicFilter, hopen, hover, hstarted]
  | false =>
    by_cases hstarted : event.startsAt ≤ now
    · cases status <;> simp [publicFilter, hopen, hover, hstarted]
    · cases status <;> simp [publicFilter, hover, hstarted, Nat.lt_of_not_le hstarted]

/-- An event that is not over for longer than 90 days is listed under the status that is shown. -/
theorem listFilter_iff (hends : ∀ endsAt ∈ event.endsAt, event.startsAt < endsAt)
    (hworkflow : event.workflowStatus = .scheduled ∨ event.workflowStatus = .published)
    (hrecent : ∀ endsAt ∈ event.endsAt, now ≤ endsAt + days 90)
    (hartist : ∀ artist ∈ artistId, artist ≠ "" → event.artistId = some artist) :
    listFilter (.of status) artistId now event = true ↔
      publicEventStatus event.workflowStatus event.startsAt event.endsAt now = some status := by
  rw [← publicFilter_iff hends hworkflow]
  have hlisted :
      (event.workflowStatus == .scheduled || event.workflowStatus == .published) = true := by
    simpa using hworkflow
  have hof : (artistId.filter (· ≠ "")).all (event.artistId == some ·) = true := by
    refine (Option.all_eq_true _ _).mpr fun artist hmem => ?_
    obtain ⟨hmem, hne⟩ := Option.filter_eq_some_iff.mp hmem
    exact beq_iff_eq.mpr (hartist artist hmem (of_decide_eq_true hne))
  rw [listFilter, hlisted, hof, Bool.true_and, Bool.and_true, Bool.and_eq_true,
    and_iff_left_iff_imp]
  intro hfilter
  cases status with
  | active => rfl
  | upcoming => rfl
  | ended =>
    obtain ⟨endsAt, hend, -⟩ := (Option.any_eq_true _ _).mp hfilter
    simpa [hend] using hrecent endsAt hend

/-- Each event of the last 90 days is listed under exactly the status that is shown; the pages of a
list hold each event exactly once, however the database orders ties, if and only if no page ends
between events that tie. -/
theorem listEvents_pages (hids : (events.map (·.id)).Nodup)
    (hends : ∀ event ∈ events, ∀ endsAt ∈ event.endsAt, event.startsAt < endsAt) (now : Time) :
    (∀ event ∈ events, event.workflowStatus = .scheduled ∨ event.workflowStatus = .published →
      (∀ endsAt ∈ event.endsAt, now ≤ endsAt + days 90) →
      ∀ artistId : Option ArtistId,
        (∀ artist ∈ artistId, artist ≠ "" → event.artistId = some artist) →
        ∃ shown, publicEventStatus event.workflowStatus event.startsAt event.endsAt now =
            some shown ∧
          ∀ status, event ∈ events.filter (listFilter (.of status) artistId now) ↔
            status = shown) ∧
    ∀ (statusValue : ListedStatus) (artistId : Option ArtistId) (pageSize : Nat), 1 ≤ pageSize →
      ((∀ orders, (eventsOfPages events statusValue artistId pageSize orders now).Perm
          (events.filter (listFilter statusValue artistId now))) ↔
        PagesSplitNoTie listOrder pageSize
          (events.filter (listFilter statusValue artistId now))) := by
  refine ⟨?_, ?_⟩
  · intro event hevent hworkflow hrecent artistId hartist
    obtain ⟨shown, hshown⟩ : ∃ shown, publicEventStatus event.workflowStatus event.startsAt
        event.endsAt now = some shown := by
      unfold publicEventStatus
      split
      · exact ⟨_, rfl⟩
      · split
        · exact ⟨_, rfl⟩
        · exact ⟨_, rfl⟩
    refine ⟨shown, hshown, ?_⟩
    intro status
    rw [List.mem_filter, and_iff_right hevent,
      listFilter_iff (hends event hevent) hworkflow hrecent hartist, hshown, Option.some.injEq,
      eq_comm]
  · intro statusValue artistId pageSize hsize
    simp only [eventsOfPages_eq]
    exact rowsOfPages_perm_iff hsize ((List.Nodup.of_map _ hids).filter _)

/-- Two events that begin at the same time. -/
def twoAtOnce : List Event :=
  [{ id := "e1", title := "Meet", heroAssetId := "banner", startsAt := 1,
     workflowStatus := .published, createdBy := "root" },
   { id := "e2", title := "Greet", heroAssetId := "banner", startsAt := 1,
     workflowStatus := .published, createdBy := "root" }]

theorem listEvents_pages_twoAtOnce :
    (∀ orders, (eventsOfPages twoAtOnce .all none 2 orders 2).Perm
        (twoAtOnce.filter (listFilter .all none 2))) ↔
      PagesSplitNoTie listOrder 2 (twoAtOnce.filter (listFilter .all none 2)) :=
  (listEvents_pages (by decide) (by decide) 2).2 .all none 2 (by decide)

/-- The query for the second page gives the events in the other order: the second event is on
neither page. -/
theorem listEvents_loses : ¬∀ orders, (eventsOfPages twoAtOnce .all none 1 orders 2).Perm
    (twoAtOnce.filter (listFilter .all none 2)) := by
  intro h
  have hpages := h fun page => if page = 1 then twoAtOnce else twoAtOnce.reverse
  revert hpages
  decide

end Fanfolio
