import Fanfolio.Framework.Run
import Fanfolio.Partners.Members
import Mathlib.Order.CompletePartialOrder
import Mathlib.Order.Interval.Set.Disjoint

/-!
# The content calendar

Admins plan windows in which a card, an event or a product is published. A create and an update
look for an entry of the same content that is not cancelled and overlaps, an update of all entries
but its own. No two windows of the same content overlap, whatever is moved, cancelled and revived.
-/

namespace Fanfolio

open Framework

inductive CalendarContent where
  | card | event | product
deriving DecidableEq, Repr

inductive CalendarStatus where
  | scheduled | published | cancelled
deriving DecidableEq, Repr

structure ContentCalendarEntry where
  id : String
  contentType : CalendarContent
  contentId : String
  title : String
  startsAt : Time
  endsAt : Time
  status : CalendarStatus := .scheduled
  notes : Option String
  createdBy : UserId
deriving DecidableEq, Repr

/-- `ContentCalendarCreate`, with what its validators check. -/
structure ContentCalendarCreate where
  contentType : CalendarContent
  contentId : String
  title : String
  startsAt : Time
  endsAt : Time
  notes : Option String := none
  contentId_length : 1 ≤ contentId.length ∧ contentId.length ≤ 160
  title_length : 1 ≤ title.length ∧ title.length ≤ 160
  notes_length : ∀ text ∈ notes, text.length ≤ 2000
  window : startsAt < endsAt

/-- `ContentCalendarUpdate`: a field is unset, null, or has a value. -/
structure ContentCalendarUpdate where
  title : Option (Option String) := none
  startsAt : Option (Option Time) := none
  endsAt : Option (Option Time) := none
  status : Option (Option CalendarStatus) := none
  notes : Option (Option String) := none
  title_length : ∀ text ∈ title.join, 1 ≤ text.length ∧ text.length ≤ 160
  notes_length : ∀ text ∈ notes.join, text.length ≤ 2000

/-- `CALENDAR_ENTRY_CONFLICT`. -/
def calendarEntryConflict : Failure :=
  .app ⟨409, "CALENDAR_ENTRY_CONFLICT", "같은 콘텐츠에 겹치는 일정이 있습니다."⟩

abbrev Calendar := List ContentCalendarEntry

namespace Calendar

variable (calendar : Calendar) (context : AdminContext)

/-- `_calendar_conflict`. -/
def calendarConflict (contentType : CalendarContent) (contentId : String) (startsAt endsAt : Time)
    (excludeId : Option String) : Bool :=
  calendar.any fun entry =>
    decide (entry.contentType = contentType ∧ entry.contentId = contentId ∧
      entry.status ≠ .cancelled ∧ entry.startsAt < endsAt ∧ startsAt < entry.endsAt ∧
      ∀ id ∈ excludeId, id ≠ "" → entry.id ≠ id)

/-- `create_content_calendar`; `hex` is what it draws for the identifier. -/
def createContentCalendar (payload : ContentCalendarCreate) (hex : String) :
    Except Failure (Calendar × ContentCalendarEntry) := do
  context.requireAction "cards:write"
  ensure (calendar.calendarConflict payload.contentType payload.contentId payload.startsAt
    payload.endsAt none = false) calendarEntryConflict
  let entry : ContentCalendarEntry :=
    { id := "calendar_" ++ hex
      contentType := payload.contentType
      contentId := payload.contentId
      title := payload.title
      startsAt := payload.startsAt
      endsAt := payload.endsAt
      notes := payload.notes
      createdBy := context.user.id }
  ensure (entry.id ∉ calendar.map (·.id)) (.integrity "content_calendar_entries_pkey")
  pure (calendar ++ [entry], entry)

/-- A time that is compared: an unset field keeps the old one, a null cannot be compared. -/
def comparedTime (field : Option (Option Time)) (old : Time) : Except Failure Time :=
  orFail (field.getD (some old)) (.unhandled "TypeError")

/-- `update_content_calendar`. -/
def updateContentCalendar (entryId : String) (payload : ContentCalendarUpdate) :
    Except Failure (Calendar × ContentCalendarEntry) := do
  context.requireAction "cards:write"
  let entry ← orFail (calendar.find? (·.id == entryId))
    (.app ⟨404, "CALENDAR_ENTRY_NOT_FOUND", "일정을 찾을 수 없습니다."⟩)
  let startsAt ← comparedTime payload.startsAt entry.startsAt
  let endsAt ← comparedTime payload.endsAt entry.endsAt
  ensure (startsAt < endsAt)
    (.app ⟨422, "INVALID_CALENDAR_WINDOW", "종료 시각은 시작 시각보다 뒤여야 합니다."⟩)
  ensure (calendar.calendarConflict entry.contentType entry.contentId startsAt endsAt
    (some entry.id) = false) calendarEntryConflict
  let title ← setRequired "title" payload.title entry.title
  let status ← setRequired "status" payload.status entry.status
  let updated : ContentCalendarEntry :=
    { entry with
      title := title, startsAt := startsAt, endsAt := endsAt, status := status
      notes := payload.notes.getD entry.notes }
  pure (patch (·.id == entry.id) (fun _ => updated) calendar, updated)

end Calendar

/-- A request of an admin. -/
inductive CalendarRequest where
  | create (context : AdminContext) (payload : ContentCalendarCreate) (hex : String)
  | update (context : AdminContext) (entryId : String) (payload : ContentCalendarUpdate)

/-- A request that fails leaves the calendar as it is. -/
def calendarStep (calendar : Calendar) : CalendarRequest → Calendar
  | .create context payload hex =>
    commitOr calendar (calendar.createContentCalendar context payload hex)
  | .update context entryId payload =>
    commitOr calendar (calendar.updateContentCalendar context entryId payload)

namespace ContentCalendarEntry

/-- The half-open window of an entry. -/
def window (entry : ContentCalendarEntry) : Set Time := Set.Ico entry.startsAt entry.endsAt

/-- Entries of the same content have no instant in common, unless one of them is cancelled. -/
def Apart (entry other : ContentCalendarEntry) : Prop :=
  entry.contentType = other.contentType → entry.contentId = other.contentId →
    entry.status ≠ .cancelled → other.status ≠ .cancelled → Disjoint entry.window other.window

theorem disjoint_window {startsAt endsAt : Time} {entry : ContentCalendarEntry}
    (h : ¬(entry.startsAt < endsAt ∧ startsAt < entry.endsAt)) :
    Disjoint entry.window (Set.Ico startsAt endsAt) := by
  rw [window, Set.Ico_disjoint_Ico, min_le_iff, le_max_iff, le_max_iff]
  rcases not_and_or.mp h with hafter | hbefore
  · exact .inr (.inl (not_lt.mp hafter))
  · exact .inl (.inr (not_lt.mp hbefore))

theorem Apart.symm {entry other : ContentCalendarEntry} (h : entry.Apart other) :
    other.Apart entry := by
  intro htype hid hstatus hother
  exact (h htype.symm hid.symm hother hstatus).symm

end ContentCalendarEntry

namespace Calendar

variable {calendar calendar' : Calendar} {context : AdminContext} {entry : ContentCalendarEntry}

/-- A window that has no conflict is disjoint from those of the content that are not cancelled. -/
theorem calendarConflict_disjoint {contentType : CalendarContent} {contentId : String}
    {startsAt endsAt : Time} {excludeId : Option String}
    (h : calendar.calendarConflict contentType contentId startsAt endsAt excludeId = false)
    (hmem : entry ∈ calendar) (htype : entry.contentType = contentType)
    (hid : entry.contentId = contentId) (hstatus : entry.status ≠ .cancelled)
    (hexclude : ∀ id ∈ excludeId, entry.id ≠ id) :
    Disjoint entry.window (Set.Ico startsAt endsAt) := by
  refine ContentCalendarEntry.disjoint_window ?_
  intro hoverlap
  have hfree := List.any_eq_false.mp h entry hmem
  rw [decide_eq_true_eq] at hfree
  exact hfree ⟨htype, hid, hstatus, hoverlap.1, hoverlap.2, fun id hid _ => hexclude id hid⟩

/-- What every request keeps. -/
structure Sound (calendar : Calendar) : Prop where
  ids : (calendar.map (·.id)).Nodup
  windows : ∀ entry ∈ calendar, entry.startsAt < entry.endsAt
  apart : calendar.Pairwise ContentCalendarEntry.Apart

theorem Sound.nil : Sound [] := ⟨.nil, by simp, .nil⟩

/-- What a create that succeeds has checked, and the entry that it inserts. -/
theorem createContentCalendar_ok {payload : ContentCalendarCreate} {hex : String}
    (h : calendar.createContentCalendar context payload hex = .ok (calendar', entry)) :
    calendar' = calendar ++ [entry] ∧ entry.id ∉ calendar.map (·.id) ∧
      entry.startsAt < entry.endsAt ∧
      calendar.calendarConflict entry.contentType entry.contentId entry.startsAt entry.endsAt
        none = false := by
  simp only [createContentCalendar, bind_ok, ensure_ok, pure_ok, Prod.mk.injEq] at h
  obtain ⟨-, -, -, hfree, -, hnew, rfl, rfl⟩ := h
  exact ⟨rfl, hnew, payload.window, hfree⟩

/-- What an update that succeeds has checked, and the row that it writes. -/
theorem updateContentCalendar_ok {entryId : String} {payload : ContentCalendarUpdate}
    (h : calendar.updateContentCalendar context entryId payload = .ok (calendar', entry)) :
    ∃ old ∈ calendar, calendar' = patch (·.id == old.id) (fun _ => entry) calendar ∧
      entry.id = old.id ∧ entry.startsAt < entry.endsAt ∧
      calendar.calendarConflict entry.contentType entry.contentId entry.startsAt entry.endsAt
        (some old.id) = false := by
  simp only [updateContentCalendar, bind_ok, ensure_ok, orFail_ok, pure_ok, Prod.mk.injEq] at h
  obtain ⟨-, -, old, hfound, startsAt, -, endsAt, -, -, hwindow, -, hfree, title, -, status, -, rfl,
    rfl⟩ := h
  exact ⟨old, (mem_of_find_eq_some hfound).1, rfl, rfl, hwindow, hfree⟩

theorem Sound.create {payload : ContentCalendarCreate} {hex : String} (hs : calendar.Sound)
    (h : calendar.createContentCalendar context payload hex = .ok (calendar', entry)) :
    Sound calendar' := by
  obtain ⟨rfl, hnew, hwindow, hfree⟩ := createContentCalendar_ok h
  refine ⟨nodup_insert hs.ids ?_, ?_, pairwise_insert hs.apart ?_⟩
  · intro row hrow heq
    exact hnew (heq ▸ List.mem_map_of_mem hrow)
  · intro row hrow
    rcases List.mem_append.mp hrow with hold | hlast
    · exact hs.windows row hold
    · rwa [List.mem_singleton.mp hlast]
  · intro row hrow htype hid hstatus _
    exact calendarConflict_disjoint hfree hrow htype hid hstatus (by simp)

/-- Also where an update revives an entry, its window has been compared with all others. -/
theorem Sound.update {entryId : String} {payload : ContentCalendarUpdate} (hs : calendar.Sound)
    (h : calendar.updateContentCalendar context entryId payload = .ok (calendar', entry)) :
    Sound calendar' := by
  obtain ⟨old, hold, rfl, hid, hwindow, hfree⟩ := updateContentCalendar_ok h
  refine ⟨?_, ?_, ?_⟩
  · rw [map_patch_key fun _ _ => hid]
    exact hs.ids
  · intro row hrow
    obtain ⟨row', hrow', rfl⟩ := mem_patch.mp hrow
    split
    · exact hwindow
    · exact hs.windows row' hrow'
  · refine pairwise_patch_key (fun _ _ => ContentCalendarEntry.Apart.symm) hs.ids hs.apart ?_
    intro row _ other hother _ hne htype hid' _ hstatus
    refine (calendarConflict_disjoint hfree hother htype.symm hid'.symm hstatus ?_).symm
    rintro _ ⟨⟩
    exact hne

end Calendar

theorem calendarStep_sound {calendar : Calendar} (hs : calendar.Sound)
    (request : CalendarRequest) : (calendarStep calendar request).Sound := by
  cases request with
  | create context payload hex => exact commitOr_keeps hs fun _ _ h => hs.create h
  | update context entryId payload => exact commitOr_keeps hs fun _ _ h => hs.update h

/-- Of any sequence of requests, the windows of a content that are not cancelled are disjoint. -/
theorem calendar_windows_disjoint (requests : List CalendarRequest) :
    (∀ entry ∈ run calendarStep [] requests, entry.startsAt < entry.endsAt) ∧
      (run calendarStep [] requests).Pairwise ContentCalendarEntry.Apart := by
  have hs : (run calendarStep [] requests).Sound :=
    run_of_step Calendar.Sound.nil fun _ request hs => calendarStep_sound hs request
  exact ⟨hs.windows, hs.apart⟩

end Fanfolio
