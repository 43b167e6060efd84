import Fanfolio.Framework.JsCoercion
import Fanfolio.Framework.JsonObject
import Fanfolio.Framework.Paging
import Fanfolio.Framework.Utf8
import Mathlib.Data.Prod.Lex
import Mathlib.Data.String.Basic

/-!
# The notification stream

The server polls the unread notifications and sends those that the stream has not sent; the fan's
app cuts what arrives into lines. The network may cut the bytes anywhere, and may lose the end.
-/

namespace Fanfolio.NotificationStream

open Framework
open Framework.JsonObject (Field)

structure Notification where
  id : String
  userId : String
  kind : String := "system"
  title : String := "Fanfolio 알림"
  body : Option String := none
  entityType : Option String := none
  entityId : Option String := none
  eventKey : Option String := none
  isRead : Bool := false
  readAt : Option Int := none
  createdAt : Int
deriving DecidableEq, Repr

/-- What the stream reads; each kind of entity has the artist it belongs to. -/
structure Tables where
  notifications : List Notification := []
  events : List (String × Option String) := []
  passSeasons : List (String × Option String) := []
  passTiers : List (String × String) := []
  rewardGrants : List (String × String) := []
  rewards : List (String × Option String) := []
  cards : List (String × Option String) := []
  drops : List (String × Option String) := []
  artists : List (String × String) := []
deriving DecidableEq, Repr

/-- Ids are a primary key. -/
structure Db where
  tables : Tables
  ids : (tables.notifications.map Notification.id).Nodup

/-- A text that counts as true. -/
def nonEmpty (s : Option String) : Option String := s.filter (· ≠ "")

/-- `_notification_artist_ids`, of one notification. -/
def notificationArtistId (db : Tables) (n : Notification) : Option String :=
  match nonEmpty n.entityId with
  | none => none
  | some entityId => nonEmpty <|
    match n.entityType with
    | some "event" => (db.events.lookup entityId).join
    | some "pass_season" => (db.passSeasons.lookup entityId).join
    | some "pass_tier" =>
      (db.passTiers.lookup entityId).bind fun seasonId => (db.passSeasons.lookup seasonId).join
    | some "reward_grant" =>
      (db.rewardGrants.lookup entityId).bind fun rewardId => (db.rewards.lookup rewardId).join
    | some "card" => (db.cards.lookup entityId).join
    | some "drop" => (db.drops.lookup entityId).join
    | _ => none

/-- The item that is sent for a notification; `isoformat` is the text of a time. -/
def payload (isoformat : Int → String) (db : Tables) (n : Notification) : List (String × Field) :=
  let artistId := notificationArtistId db n
  [("id", .str n.id), ("kind", .str n.kind), ("title", .str n.title), ("body", .ofOption n.body),
    ("entityType", .ofOption n.entityType), ("entityId", .ofOption n.entityId),
    ("eventKey", .ofOption n.eventKey), ("artistId", .ofOption artistId),
    ("artistName", .ofOption (artistId.bind fun id => db.artists.lookup id)), ("isRead", .bool n.isRead),
    ("readAt", .ofOption (n.readAt.map isoformat)), ("createdAt", .str (isoformat n.createdAt))]

/-- The order of the unread notifications. -/
def queueKey (n : Notification) : Int ×ₗ String := toLex (n.createdAt, n.id)

def unread (userId : String) (db : Tables) : List Notification :=
  sortedBy queueKey (db.notifications.filter fun n => n.userId == userId && !n.isRead)

/-- What one poll sends, of the notifications that were not seen. -/
def fresh (userId : String) (seenIds : List String) (db : Tables) : List Notification :=
  (unread userId db).filter fun n => n.id ∉ seenIds

/-- What a stream sends, poll by poll; `dbs` is what each of them finds. -/
def sent (userId : String) : List String → List Db → List (Tables × List Notification)
  | _, [] => []
  | seenIds, db :: dbs =>
    let items := fresh userId seenIds db.tables
    (db.tables, items) :: sent userId (seenIds ++ items.map Notification.id) dbs

def eventField : List Char := ['e', 'v', 'e', 'n', 't', ':']

def dataField : List Char := ['d', 'a', 't', 'a', ':']

def notificationEvent : List Char := ['n', 'o', 't', 'i', 'f', 'i', 'c', 'a', 't', 'i', 'o', 'n']

/-- One item of the stream. -/
def frame (item : List (String × Field)) : List Char :=
  eventField ++ ' ' :: notificationEvent ++ '\n' ::
    (dataField ++ ' ' :: JsonObject.dumps item ++ ['\n', '\n'])

def keepAlive : List Char :=
  [':', ' ', 'k', 'e', 'e', 'p', '-', 'a', 'l', 'i', 'v', 'e', '\n', '\n']

/-- What one poll yields. -/
def pollText (items : List (List (String × Field))) : List Char :=
  if items = [] then keepAlive else items.flatMap frame

/-- The items of each poll. -/
def streamItems (isoformat : Int → String) (userId : String) (dbs : List Db) :
    List (List (List (String × Field))) :=
  (sent userId [] dbs).map fun poll => poll.2.map (payload isoformat poll.1)

/-- `notification_stream`, from its start. -/
def streamText (isoformat : Int → String) (userId : String) (dbs : List Db) : List Char :=
  (streamItems isoformat userId dbs).flatMap pollText

section

variable {α : Type}

/-- A line of the stream; `parse` is `JSON.parse`, and its errors are caught. -/
def readLine (parse : List Char → Option α) (eventName line : List Char) : List Char × List α :=
  let eventName :=
    if eventField.isPrefixOf line then jsTrim (line.drop 6) else eventName
  let out :=
    if dataField.isPrefixOf line ∧ eventName = notificationEvent then
      (parse (jsTrim (line.drop 5))).toList
    else []
  (if jsTrim line = [] then [] else eventName, out)

/-- `connectNotificationStream`: the decoder, the buffer and the name of the event. -/
def listener (parse : List Char → Option α) :
    Transducer ((Utf8.State × Bool) × OpenLine × List Char) UInt8 α :=
  Utf8.textDecoder.comp (lineCutter.comp (.ofSymbol (readLine parse)))

def listener.start : (Utf8.State × Bool) × OpenLine × List Char :=
  (Utf8.textDecoder.start, .empty, [])

/-- The machine behind the decoder. -/
def lineReader (parse : List Char → Option α) : Transducer (OpenLine × List Char) Char α :=
  lineCutter.comp (.ofSymbol (readLine parse))

variable (parse : List Char → Option α)

theorem readLine_event (eventName : List Char) :
    readLine parse eventName (eventField ++ ' ' :: notificationEvent) =
      (notificationEvent, []) := by
  rfl

theorem readLine_blank (eventName : List Char) : readLine parse eventName [] = ([], []) := by
  rfl

theorem readLine_comment (eventName : List Char) :
    readLine parse eventName [':', ' ', 'k', 'e', 'e', 'p', '-', 'a', 'l', 'i', 'v', 'e'] =
      (eventName, []) := by
  rfl

/-- An object is not trimmed further. -/
theorem jsTrim_dumps (item : List (String × Field)) :
    jsTrim (' ' :: JsonObject.dumps item) = JsonObject.dumps item := by
  obtain ⟨front, hfront⟩ := JsonObject.dumps_last item
  have hleft : (' ' :: JsonObject.dumps item).dropWhile isJsSpace = JsonObject.dumps item := by
    rfl
  rw [jsTrim, hleft, hfront, List.rdropWhile_concat_neg]
  decide

theorem readLine_data (item : List (String × Field)) :
    readLine parse notificationEvent (dataField ++ ' ' :: JsonObject.dumps item) =
      (notificationEvent, (parse (JsonObject.dumps item)).toList) := by
  have hevent :
      eventField.isPrefixOf (dataField ++ ' ' :: JsonObject.dumps item) = false := rfl
  have hdata : dataField.isPrefixOf (dataField ++ ' ' :: JsonObject.dumps item) = true := by simp
  have hline : jsTrim (dataField ++ ' ' :: JsonObject.dumps item) ≠ [] := by
    obtain ⟨front, hfront⟩ := JsonObject.dumps_last item
    have hleft : (dataField ++ ' ' :: JsonObject.dumps item).dropWhile isJsSpace =
        dataField ++ ' ' :: JsonObject.dumps item := by
      rfl
    rw [jsTrim, hleft, hfront, ← List.cons_append, ← List.append_assoc, List.rdropWhile_concat_neg]
    · simp
    · decide
  have hdrop : (dataField ++ ' ' :: JsonObject.dumps item).drop 5 =
      ' ' :: JsonObject.dumps item := rfl
  simp only [readLine, hevent, Bool.false_eq_true, if_false, hdata, and_self, if_true, hline,
    hdrop, jsTrim_dumps]

/-- An item is handed on when its line ends. -/
theorem lineReader_frame (item : List (String × Field)) :
    (lineReader parse).step (.empty, []) (frame item) =
      ((.empty, []), (parse (JsonObject.dumps item)).toList) := by
  have hframe : frame item = (eventField ++ ' ' :: notificationEvent ++ ['\n']) ++
      (((dataField ++ ' ' :: JsonObject.dumps item) ++ ['\n']) ++ ([] ++ ['\n'])) := by
    simp [frame]
  have hcontrol : ∀ c : Char, c.toNat < 32 → c ∉ dataField ++ ' ' :: JsonObject.dumps item := by
    intro c hc hmem
    rw [List.append_cons] at hmem
    rcases List.mem_append.mp hmem with hmem | hmem
    · have hfield : ∀ d ∈ dataField ++ [' '], 32 ≤ d.toNat := JsonObject.printable_of_all rfl
      exact absurd (hfield c hmem) (by omega)
    · exact absurd (JsonObject.dumps_printable hmem) (by omega)
  rw [hframe, Transducer.step_append, Transducer.step_append, lineReader,
    Transducer.step_line _ _ (by decide) (by decide), readLine_event,
    Transducer.step_line _ _ (hcontrol '\n' (by decide)) (hcontrol '\r' (by decide)),
    readLine_data, Transducer.step_line _ _ (by decide) (by decide), readLine_blank]
  simp

theorem lineReader_keepAlive :
    (lineReader parse).step (.empty, []) keepAlive = ((.empty, []), []) := by
  have hsplit : keepAlive =
      ([':', ' ', 'k', 'e', 'e', 'p', '-', 'a', 'l', 'i', 'v', 'e'] ++ ['\n']) ++
        ([] ++ ['\n']) := rfl
  rw [hsplit, Transducer.step_append, lineReader,
    Transducer.step_line _ _ (by decide) (by decide), readLine_comment,
    Transducer.step_line _ _ (by decide) (by decide), readLine_blank]
  rfl

/-- A poll leaves the machine where it was. -/
theorem lineReader_pollText (items : List (List (String × Field))) :
    (lineReader parse).step (.empty, []) (pollText items) =
      ((.empty, []), items.filterMap fun item => parse (JsonObject.dumps item)) := by
  have hframes : (lineReader parse).step (.empty, []) (items.flatMap frame) =
      ((.empty, []), items.filterMap fun item => parse (JsonObject.dumps item)) := by
    induction items with
    | nil => exact Transducer.step_nil _ _
    | cons item items ih =>
      rw [List.flatMap_cons, Transducer.step_append, lineReader_frame, ih, List.filterMap_cons]
      cases parse (JsonObject.dumps item) <;> rfl
  rw [pollText]
  split
  · rename_i hnone
    rw [hnone]
    exact lineReader_keepAlive parse
  · exact hframes

theorem lineReader_polls (polls : List (List (List (String × Field)))) :
    (lineReader parse).step (.empty, []) (polls.flatMap pollText) =
      ((.empty, []), polls.flatten.filterMap fun item => parse (JsonObject.dumps item)) := by
  induction polls with
  | nil => exact Transducer.step_nil _ _
  | cons items polls ih =>
    rw [List.flatMap_cons, Transducer.step_append, lineReader_pollText, ih, List.flatten_cons,
      List.filterMap_append]

/-- A stream does not begin with a byte order mark. -/
theorem polls_head (polls : List (List (List (String × Field)))) :
    polls.flatMap pollText = [] ∨
      ∃ c text, polls.flatMap pollText = c :: text ∧ c ≠ Utf8.byteOrderMark := by
  cases polls with
  | nil => exact .inl rfl
  | cons items polls =>
    cases items with
    | nil => exact .inr ⟨':', _, rfl, by decide⟩
    | cons item items => exact .inr ⟨'e', _, rfl, by decide⟩

/-- The whole of a stream that arrives in one piece. -/
theorem listener_polls (polls : List (List (List (String × Field)))) :
    ((listener parse).step listener.start (Utf8.encode (polls.flatMap pollText))).2 =
      polls.flatten.filterMap fun item => parse (JsonObject.dumps item) := by
  have hdecoded : (Utf8.textDecoder.step Utf8.textDecoder.start
      (Utf8.encode (polls.flatMap pollText))).2 = polls.flatMap pollText := by
    rcases polls_head polls with hnil | ⟨c, text, htext, hc⟩
    · rw [hnil]
      exact congrArg Prod.snd (Transducer.step_nil _ _)
    · rw [htext, Utf8.textDecoder_encode hc]
  rw [listener, listener.start, Transducer.comp_out, hdecoded]
  exact congrArg Prod.snd (lineReader_polls parse polls)

end

/-- The document that an item is. -/
def document {ν : Type} (item : List (String × Field)) : JsonValue ν :=
  .obj (item.map fun member => (member.1, member.2.value))

section

variable {ν : Type} {numbers : JsonText.NumberReader ν}

theorem loads_payload (isoformat : Int → String) (db : Tables) (n : Notification) :
    JsonText.loads numbers (JsonObject.dumps (payload isoformat db n)) =
      some (document (payload isoformat db n)) := by
  rw [JsonObject.loads_dumps]
  rfl

variable {isoformat : Int → String} {userId : String} {dbs : List Db}

theorem loads_streamItems {item : List (String × Field)}
    (h : item ∈ (streamItems isoformat userId dbs).flatten) :
    JsonText.loads numbers (JsonObject.dumps item) = some (document item) := by
  obtain ⟨items, hitems, hitem⟩ := List.mem_flatten.mp h
  obtain ⟨poll, -, rfl⟩ := List.mem_map.mp hitems
  obtain ⟨n, -, rfl⟩ := List.mem_map.mp hitem
  exact loads_payload isoformat poll.1 n

/-- The whole text, read in one piece. -/
theorem listener_whole : ((listener (JsonText.loads numbers)).step listener.start
    (Utf8.encode (streamText isoformat userId dbs))).2 =
      (streamItems isoformat userId dbs).flatten.map document := by
  rw [streamText, listener_polls, ← List.filterMap_eq_map]
  exact List.filterMap_congr fun item hitem => loads_streamItems hitem

/-- However the bytes arrive, the app is handed what was sent, in order and in full, up to where
the stream was cut off. -/
theorem listener_streamText {chunks : List (List UInt8)} {rest : List UInt8}
    (h : chunks.flatten ++ rest = Utf8.encode (streamText isoformat userId dbs)) :
    ((listener (JsonText.loads numbers)).run listener.start chunks).2 <+:
        (streamItems isoformat userId dbs).flatten.map document ∧
      (rest = [] → ((listener (JsonText.loads numbers)).run listener.start chunks).2 =
        (streamItems isoformat userId dbs).flatten.map document) := by
  rw [← listener_whole]
  exact Transducer.run_prefix _ _ h

/-- One notification, whose body is no ASCII. -/
def cutDb : Db :=
  ⟨{ notifications := [{ id := "n1", userId := "u1", body := some "새 카드", createdAt := 0 }] },
    by decide⟩

def cutBytes : List UInt8 := Utf8.encode (streamText (fun _ => "t") "u1" [cutDb, cutDb])

def noNumbers : JsonText.NumberReader Unit := ⟨fun _ => none, fun _ => (), (), fun _ => ()⟩

/-- The bytes are cut within a line, and the last ones do not arrive. -/
theorem listener_streamText_cut :
    ((listener (JsonText.loads noNumbers)).run listener.start
        [cutBytes.take 40, (cutBytes.drop 40).take 90]).2 <+:
          (streamItems (fun _ => "t") "u1" [cutDb, cutDb]).flatten.map document ∧
      ((cutBytes.drop 40).drop 90 = [] → ((listener (JsonText.loads noNumbers)).run listener.start
        [cutBytes.take 40, (cutBytes.drop 40).take 90]).2 =
          (streamItems (fun _ => "t") "u1" [cutDb, cutDb]).flatten.map document) := by
  refine listener_streamText ?_
  rw [List.flatten_cons, List.flatten_singleton, List.append_assoc, List.take_append_drop,
    List.take_append_drop]
  rfl

end

/-- The ids that a stream sends, in order. -/
def sentIds (userId : String) (seenIds : List String) (dbs : List Db) : List String :=
  (sent userId seenIds dbs).flatMap fun poll => poll.2.map Notification.id

def IsUnread (userId : String) (db : Tables) (id : String) : Prop :=
  ∃ n ∈ db.notifications, n.userId = userId ∧ n.isRead = false ∧ n.id = id

/-- A poll found the notification unread. -/
def WasUnread (userId : String) (dbs : List Db) (id : String) : Prop :=
  ∃ db ∈ dbs, IsUnread userId db.tables id

section

variable {userId : String}

theorem mem_unread {db : Tables} {n : Notification} :
    n ∈ unread userId db ↔ n ∈ db.notifications ∧ n.userId = userId ∧ n.isRead = false := by
  rw [unread, (sortedBy_perm queueKey _).mem_iff, List.mem_filter, Bool.and_eq_true, beq_iff_eq,
    Bool.not_eq_true']

theorem fresh_ids_nodup (seenIds : List String) (db : Db) :
    ((fresh userId seenIds db.tables).map Notification.id).Nodup := by
  have hunread : ((unread userId db.tables).map Notification.id).Nodup :=
    ((sortedBy_perm queueKey _).map _).nodup_iff.mpr (db.ids.sublist (List.filter_sublist.map _))
  exact hunread.sublist (List.filter_sublist.map _)

theorem mem_fresh_ids {seenIds : List String} {db : Tables} {id : String} :
    id ∈ (fresh userId seenIds db).map Notification.id ↔
      id ∉ seenIds ∧ IsUnread userId db id := by
  simp only [fresh, IsUnread, List.mem_map, List.mem_filter, mem_unread, decide_eq_true_eq]
  constructor
  · rintro ⟨n, ⟨⟨hmem, huser, hread⟩, hseen⟩, rfl⟩
    exact ⟨hseen, n, hmem, huser, hread, rfl⟩
  · rintro ⟨hseen, n, hmem, huser, hread, rfl⟩
    exact ⟨n, ⟨⟨hmem, huser, hread⟩, hseen⟩, rfl⟩

/-- A stream sends what some poll finds unread. -/
theorem mem_sentIds {seenIds : List String} {dbs : List Db} {id : String} :
    id ∈ sentIds userId seenIds dbs ↔ id ∉ seenIds ∧ WasUnread userId dbs id := by
  induction dbs generalizing seenIds with
  | nil => simp [sentIds, sent, WasUnread]
  | cons db dbs ih =>
    have hlater : id ∈ (sent userId (seenIds ++ (fresh userId seenIds db.tables).map
        Notification.id) dbs).flatMap (fun poll => poll.2.map Notification.id) ↔
          id ∉ seenIds ++ (fresh userId seenIds db.tables).map Notification.id ∧
            WasUnread userId dbs id := ih
    simp only [sentIds, sent, List.flatMap_cons, List.mem_append, hlater, mem_fresh_ids, WasUnread,
      List.mem_cons, exists_eq_or_imp]
    tauto

/-- A stream sends nothing twice. -/
theorem sentIds_nodup (seenIds : List String) (dbs : List Db) :
    (sentIds userId seenIds dbs).Nodup := by
  induction dbs generalizing seenIds with
  | nil => exact List.nodup_nil
  | cons db dbs ih =>
    simp only [sentIds, sent, List.flatMap_cons]
    refine (fresh_ids_nodup seenIds db).append (ih _) ?_
    intro id hfresh hlater
    exact (mem_sentIds.mp hlater).1 (List.mem_append_right seenIds hfresh)

end

/-- The id of an item, as the app reads it. -/
def documentId {ν : Type} : JsonValue ν → Option String
  | .obj entries =>
    match entries.lookup "id" with
    | some (.str id) => some id
    | _ => none
  | _ => none

section

variable {ν : Type} {numbers : JsonText.NumberReader ν} {isoformat : Int → String}
  {userId : String} {dbs : List Db}

theorem streamItems_ids :
    ((streamItems isoformat userId dbs).flatten.map (document (ν := ν))).filterMap documentId =
      sentIds userId [] dbs := by
  have hpolls (polls : List (Tables × List Notification)) :
      ((polls.map fun poll => poll.2.map (payload isoformat poll.1)).flatten.map
        (document (ν := ν))).filterMap documentId =
          polls.flatMap fun poll => poll.2.map Notification.id := by
    induction polls with
    | nil => rfl
    | cons poll polls ih =>
      have hpoll : ((poll.2.map (payload isoformat poll.1)).map (document (ν := ν))).filterMap
          documentId = poll.2.map Notification.id := by
        rw [List.map_map, List.filterMap_map, ← List.filterMap_eq_map]
        rfl
      rw [List.map_cons, List.flatten_cons, List.map_append, List.filterMap_append, hpoll, ih,
        List.flatMap_cons]
  exact hpolls _

/-- Over a whole stream the app is handed a notification at most once, and only one that was
unread; if the stream arrives in full, every one that a poll found unread. -/
theorem listener_ids {chunks : List (List UInt8)} {rest : List UInt8}
    (h : chunks.flatten ++ rest = Utf8.encode (streamText isoformat userId dbs)) :
    let ids :=
      ((listener (JsonText.loads numbers)).run listener.start chunks).2.filterMap documentId
    ids.Nodup ∧ (∀ id ∈ ids, WasUnread userId dbs id) ∧
      (rest = [] → ∀ id, WasUnread userId dbs id → id ∈ ids) := by
  obtain ⟨hbegin, hall⟩ :=
    Transducer.run_prefix (listener (JsonText.loads numbers)) listener.start h
  rw [listener_whole] at hbegin hall
  have hids := hbegin.sublist.filterMap documentId
  rw [streamItems_ids] at hids
  refine ⟨(sentIds_nodup [] dbs).sublist hids, ?_, ?_⟩
  · intro id hid
    exact (mem_sentIds.mp (hids.subset hid)).2
  · intro hrest id hid
    rw [hall hrest, streamItems_ids]
    exact mem_sentIds.mpr ⟨List.not_mem_nil, hid⟩

/-- The notification was unread at two polls; the app has it once. -/
theorem listener_ids_cut :
    let ids := ((listener (JsonText.loads noNumbers)).run listener.start
      [cutBytes.take 40, cutBytes.drop 40]).2.filterMap documentId
    ids.Nodup ∧ (∀ id ∈ ids, WasUnread "u1" [cutDb, cutDb] id) ∧
      (([] : List UInt8) = [] → ∀ id, WasUnread "u1" [cutDb, cutDb] id → id ∈ ids) := by
  have hbytes : [cutBytes.take 40, cutBytes.drop 40].flatten ++ [] =
      Utf8.encode (streamText (fun _ => "t") "u1" [cutDb, cutDb]) := by
    rw [List.flatten_cons, List.flatten_singleton, List.append_nil, List.take_append_drop]
    rfl
  exact listener_ids hbytes

end

end Fanfolio.NotificationStream
