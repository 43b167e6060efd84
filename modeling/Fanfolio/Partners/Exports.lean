import Fanfolio.Framework.Csv
import Fanfolio.Framework.JsonValue
import Fanfolio.Framework.Paging
import Fanfolio.Framework.Table
import Fanfolio.Framework.Utf8
import Fanfolio.Partners.Access
import Mathlib.Data.Prod.Lex
import Mathlib.Data.String.Basic

/-!
# Exported tables

The console hands out the catalogue of cards, the codes of a batch and the audit log as files of
comma-separated values. What an admin reads from such a file are the rows of its own scope.
-/

namespace Fanfolio.Exports

open Framework

/-- A row of `cards`, with its organization and what only its export shows. -/
structure ScopedCard extends Card where
  organizationId : Option OrganizationId := none
  seasonName : Option String := none
deriving DecidableEq, Repr

structure ScopedDrop extends Drop where
  organizationId : Option OrganizationId := none
deriving DecidableEq, Repr

structure RedeemCodeBatch where
  id : String
  dropId : DropId
  expiresAt : String
deriving DecidableEq, Repr

structure BatchCode extends RedeemCode where
  batchId : Option String := none
deriving DecidableEq, Repr

structure AuditLog (ν : Type) where
  id : String
  actorUserId : Option UserId := none
  action : String
  entityType : String
  entityId : String
  organizationId : Option OrganizationId := none
  artistId : Option ArtistId := none
  details : JsonEntries ν := []
  createdAt : Time

structure ExportDb (ν : Type) where
  cards : List ScopedCard := []
  drops : List ScopedDrop := []
  batches : List RedeemCodeBatch := []
  codes : List BatchCode := []
  logs : List (AuditLog ν) := []
  organizationArtists : List OrganizationArtist := []
  dropKeys : (drops.map (·.id)).Nodup
  batchKeys : (batches.map (·.id)).Nodup

/-- How the database compares texts and how the runtime writes times and JSON. -/
structure ExportEnv (ν : Type) where
  ilike : String → String → Bool
  collate : String → String
  isoformat : Time → String
  dumps : JsonEntries ν → String

/-- A value in a row of a file. -/
inductive Cell where
  | text (s : String)
  | number (n : Nat)
  | none
deriving DecidableEq, Repr

def Cell.ofText (s : Option String) : Cell := s.elim .none .text

def Cell.ofNumber (n : Option Nat) : Cell := n.elim .none .number

/-- What the `csv` module writes for a value. -/
def Cell.field : Cell → List Char
  | .text s => s.toList
  | .number n => Nat.toDigits 10 n
  | .none => []

structure CsvFile where
  filename : String
  payload : List UInt8
deriving DecidableEq, Repr

def csvTable (headers : List String) (rows : List (List Cell)) : List Csv.Row :=
  headers.map String.toList :: rows.map (·.map Cell.field)

/-- `_csv_download`. -/
def csvDownload (filename : String) (headers : List String) (rows : List (List Cell))
    (includeBom : Bool := false) : CsvFile :=
  let mark := if includeBom then [Utf8.byteOrderMark] else []
  ⟨filename, Utf8.encode (mark ++ Csv.write (csvTable headers rows))⟩

/-- `_require_scoped_action`. -/
def requireScopedAction (context : AdminContext) (action : String) : Except Failure Unit :=
  if context.isRoot then pure () else context.requireAction action

def resourceNotFound : Failure := .app ⟨404, "RESOURCE_NOT_FOUND", "항목을 찾을 수 없습니다."⟩

/-- `Card.name.ilike(f"%{q}%")` and the like. -/
def contains {ν : Type} (env : ExportEnv ν) (text q : String) : Bool :=
  env.ilike text ("%" ++ q ++ "%")

/-- A filter that is only set when the request gives it a text. -/
def given (value : Option String) (p : String → Bool) : Bool :=
  ((value.filter (· != "")).map p).getD true

/-- The bounds of a `limit`. -/
abbrev Limit := {n : Nat // 1 ≤ n ∧ n ≤ 10000}

/-- `_card_scope_filters`. -/
def cardInScope (context : AdminContext) (card : ScopedCard) : Bool :=
  context.isRoot ||
    (card.artistId.any (context.assignedArtistIds.contains ·) &&
      (card.organizationId == context.membership.organizationId || card.organizationId.isNone))

def cardStatusText : CardStatus → String
  | .draft => "draft"
  | .changesRequested => "changes_requested"
  | .pendingReview => "pending_review"
  | .approved => "approved"
  | .published => "published"

section

variable {ν : Type} (env : ExportEnv ν) (db : ExportDb ν) (context : AdminContext)

def ExportDb.findDrop (dropId : DropId) : Option ScopedDrop :=
  db.drops.find? (·.id == dropId)

def ExportDb.findBatch (batchId : String) : Option RedeemCodeBatch :=
  db.batches.find? (·.id == batchId)

def cardHeaders : List String :=
  ["card_id", "name", "artist_id", "member_id", "rarity", "status", "issue_limit", "season_name"]

/-- The rows of `export_cards`. -/
def cardRows (q cardStatus : Option String) (limit : Limit) : List (List Cell) :=
  let cards := db.cards.filter fun card => cardInScope context card &&
    given q (contains env card.name) && given cardStatus (cardStatusText card.status == ·)
  ((sortedBy (fun card => env.collate card.id) cards).take limit).map fun card =>
    [.text card.id, .text card.name, .ofText card.artistId, .ofText card.memberId,
      .ofText card.rarity, .text (cardStatusText card.status), .ofNumber card.issueLimit,
      .ofText card.seasonName]

def exportCards (q cardStatus : Option String) (limit : Limit) : Except Failure CsvFile := do
  requireScopedAction context "cards:read"
  return csvDownload "fanfolio-cards.csv" cardHeaders (cardRows env db context q cardStatus limit)
    true

/-- `_organization_artist_or_404`. -/
def organizationArtistOr404 (organizationId : OrganizationId) (artistId : ArtistId) :
    Except Failure Unit := do
  ensure (⟨organizationId, artistId⟩ ∈ db.organizationArtists) resourceNotFound
  ensure (context.isRoot ∨ context.membership.accessLevel = .partner .companyAdmin ∨
    artistId ∈ context.assignedArtistIds) resourceNotFound

/-- `scoped_drop_or_404`. -/
def scopedDropOr404 (dropId : DropId) : Except Failure ScopedDrop := do
  let drop ← orFail (db.findDrop dropId) (.app ⟨404, "DROP_NOT_FOUND", "드롭을 찾을 수 없습니다."⟩)
  if context.isRoot then return drop
  let organization ← orFail context.organization resourceNotFound
  ensure (drop.organizationId = some organization.id) resourceNotFound
  let artistId ← orFail drop.artistId resourceNotFound
  organizationArtistOr404 db context organization.id artistId
  return drop

/-- `scoped_code_batch_or_404`. -/
def scopedCodeBatchOr404 (batchId : String) : Except Failure RedeemCodeBatch := do
  let batch ← orFail (db.findBatch batchId)
    (.app ⟨404, "BATCH_NOT_FOUND", "코드 배치를 찾을 수 없습니다."⟩)
  let _ ← scopedDropOr404 db context batch.dropId
  return batch

def codeHeaders : List String :=
  ["code", "card_id", "drop_id", "expires_at", "used_count", "max_uses", "qr_image_url"]

/-- The rows of `export_code_batch`. -/
def codeRows (batch : RedeemCodeBatch) : List (List Cell) :=
  let codes := db.codes.filter (·.batchId == some batch.id)
  (sortedBy (fun code => env.collate code.code) codes).map fun code =>
    [.text code.code, .text code.cardId, .text code.dropId, .text batch.expiresAt,
      .number code.usedCount, .number code.maxUses,
      .text ("/api/admin/redeem-codes/" ++ code.code ++ "/qr")]

def exportCodeBatch (batchId : String) : Except Failure CsvFile := do
  requireScopedAction context "codes:read"
  let batch ← scopedCodeBatchOr404 db context batchId
  return csvDownload (batchId ++ ".csv") codeHeaders (codeRows env db batch)

def logInScope (log : AuditLog ν) : Bool :=
  context.isRoot ||
    (log.organizationId == context.membership.organizationId &&
      log.artistId.all (context.assignedArtistIds.contains ·))

def logHeaders : List String :=
  ["id", "actor_id", "action", "entity_type", "entity_id", "organization_id", "artist_id",
    "created_at", "metadata"]

/-- The rows of `export_audit_logs`, the latest first. -/
def logRows (action q : Option String) (limit : Limit) : List (List Cell) :=
  let logs := db.logs.filter fun log => logInScope context log &&
    given action (log.action == ·) &&
    given q fun q => log.actorUserId.any (contains env · q) || contains env log.action q ||
      contains env log.entityType q || contains env log.entityId q
  let latest (log : AuditLog ν) : ℤ ×ₗ Stringᵒᵈ :=
    toLex (-(log.createdAt : ℤ), OrderDual.toDual (env.collate log.id))
  ((sortedBy latest logs).take limit).map fun log =>
    [.text log.id, .ofText log.actorUserId, .text log.action, .text log.entityType,
      .text log.entityId, .ofText log.organizationId, .ofText log.artistId,
      .text (env.isoformat log.createdAt), .text (env.dumps log.details)]

def exportAuditLogs (action q : Option String) (limit : Limit) : Except Failure CsvFile := do
  requireScopedAction context "audit:read"
  return csvDownload "fanfolio-audit-logs.csv" logHeaders (logRows env db context action q limit)
    true

/-- A request to export a table. -/
inductive ExportRequest where
  | cards (q cardStatus : Option String) (limit : Limit)
  | codeBatch (batchId : String)
  | auditLogs (action q : Option String) (limit : Limit)

def exportFile : ExportRequest → Except Failure CsvFile
  | .cards q cardStatus limit => exportCards env db context q cardStatus limit
  | .codeBatch batchId => exportCodeBatch env db context batchId
  | .auditLogs action q limit => exportAuditLogs env db context action q limit

/-- The table that a file is made of. -/
def exportTable : ExportRequest → List Csv.Row
  | .cards q cardStatus limit => csvTable cardHeaders (cardRows env db context q cardStatus limit)
  | .codeBatch batchId => csvTable codeHeaders ((db.findBatch batchId).elim [] (codeRows env db))
  | .auditLogs action q limit => csvTable logHeaders (logRows env db context action q limit)

end

/-- A program that reads a file: it decodes the text and cuts it into rows and fields. -/
def tableReader : Transducer ((Utf8.State × Bool) × Csv.State) UInt8 Csv.Row :=
  Utf8.textDecoder.comp Csv.reader

def tableReader.start : (Utf8.State × Bool) × Csv.State := (Utf8.textDecoder.start, {})

section

variable {ν : Type} {env : ExportEnv ν} {db : ExportDb ν} {context : AdminContext}

theorem csvDownload_mark (filename : String) (headers : List String) (rows : List (List Cell)) :
    (tableReader.step tableReader.start (csvDownload filename headers rows true).payload).2 =
      csvTable headers rows := by
  have hpayload : (csvDownload filename headers rows true).payload =
      Utf8.encode (Utf8.byteOrderMark :: Csv.write (csvTable headers rows)) := rfl
  rw [tableReader, tableReader.start, Transducer.comp_out, hpayload, Utf8.textDecoder_mark,
    Csv.read_write]

/-- Without a mark, the first character of the headers must not be taken for one. -/
theorem csvDownload_plain (filename : String) {headers : List String} {rows : List (List Cell)}
    {c : Char} {text : List Char} (hwrite : Csv.write (csvTable headers rows) = c :: text)
    (hc : c ≠ Utf8.byteOrderMark) :
    (tableReader.step tableReader.start (csvDownload filename headers rows).payload).2 =
      csvTable headers rows := by
  have hpayload : (csvDownload filename headers rows).payload = Utf8.encode (c :: text) := by
    rw [← hwrite]
    rfl
  rw [tableReader, tableReader.start, Transducer.comp_out, hpayload, Utf8.textDecoder_encode hc,
    ← hwrite, Csv.read_write]

theorem exportFile_step {request : ExportRequest} {file : CsvFile}
    (hfile : exportFile env db context request = .ok file) :
    (tableReader.step tableReader.start file.payload).2 = exportTable env db context request := by
  cases request with
  | cards q cardStatus limit =>
    simp only [exportFile, exportCards, bind_ok, pure_ok] at hfile
    obtain ⟨_, -, rfl⟩ := hfile
    exact csvDownload_mark _ _ _
  | codeBatch batchId =>
    simp only [exportFile, exportCodeBatch, scopedCodeBatchOr404, bind_ok, orFail_ok, pure_ok]
      at hfile
    obtain ⟨_, -, _, ⟨batch, hfind, _, -, rfl⟩, rfl⟩ := hfile
    have htable : exportTable env db context (.codeBatch batchId) =
        csvTable codeHeaders (codeRows env db batch) := by
      rw [exportTable, hfind, Option.elim_some]
    rw [htable]
    exact csvDownload_plain _ rfl (by decide)
  | auditLogs action q limit =>
    simp only [exportFile, exportAuditLogs, bind_ok, pure_ok] at hfile
    obtain ⟨_, -, rfl⟩ := hfile
    exact csvDownload_mark _ _ _

/-- However the bytes of a file arrive, what is read of them are the rows of the table, text for
text, up to where the download broke off. -/
theorem exportFile_read {request : ExportRequest} {file : CsvFile} {chunks : List (List UInt8)}
    {rest : List UInt8} (hfile : exportFile env db context request = .ok file)
    (h : chunks.flatten ++ rest = file.payload) :
    (tableReader.run tableReader.start chunks).2 <+: exportTable env db context request ∧
      (rest = [] →
        (tableReader.run tableReader.start chunks).2 = exportTable env db context request) := by
  rw [← exportFile_step hfile]
  exact Transducer.run_prefix _ _ h

end

/-- A card whose name needs quotes, and is no ASCII. -/
def quotedDb : ExportDb Unit :=
  ⟨[{ id := "c1", name := "새 카드, \"한정\"" }], [], [], [], [], [], by decide, by decide⟩

def plainEnv : ExportEnv Unit := ⟨fun _ _ => true, id, fun _ => "t", fun _ => "\x7b\x7d"⟩

def quotedFile : CsvFile :=
  csvDownload "fanfolio-cards.csv" cardHeaders
    (cardRows plainEnv quotedDb rootContext none none ⟨10, by decide⟩) true

/-- The download breaks off within the name. -/
theorem exportFile_read_cut :
    (tableReader.run tableReader.start [quotedFile.payload.take 5,
        (quotedFile.payload.drop 5).take 70]).2 <+:
          exportTable plainEnv quotedDb rootContext (.cards none none ⟨10, by decide⟩) ∧
      ((quotedFile.payload.drop 5).drop 70 = [] → (tableReader.run tableReader.start
        [quotedFile.payload.take 5, (quotedFile.payload.drop 5).take 70]).2 =
          exportTable plainEnv quotedDb rootContext (.cards none none ⟨10, by decide⟩)) := by
  have hfile : exportFile plainEnv quotedDb rootContext (.cards none none ⟨10, by decide⟩) =
      .ok quotedFile := rfl
  refine exportFile_read hfile ?_
  rw [List.flatten_cons, List.flatten_singleton, List.append_assoc, List.take_append_drop,
    List.take_append_drop]

section

variable {ν : Type} {env : ExportEnv ν} {db : ExportDb ν} {context : AdminContext}

/-- The drops of the organization of an admin, for the artists that it looks after. -/
def dropInScope (db : ExportDb ν) (context : AdminContext) (drop : ScopedDrop) : Bool :=
  context.isRoot || context.organization.any fun organization =>
    drop.organizationId == some organization.id && drop.artistId.any fun artistId =>
      db.organizationArtists.contains ⟨organization.id, artistId⟩ &&
        (context.membership.accessLevel == .partner .companyAdmin ||
          context.assignedArtistIds.contains artistId)

def batchInScope (db : ExportDb ν) (context : AdminContext) (batch : RedeemCodeBatch) : Bool :=
  (db.findDrop batch.dropId).any (dropInScope db context)

def codeInScope (db : ExportDb ν) (context : AdminContext) (code : BatchCode) : Bool :=
  code.batchId.any fun batchId => (db.findBatch batchId).any (batchInScope db context)

def artistInScope (context : AdminContext) (row : OrganizationArtist) : Bool :=
  context.isRoot || context.organization.any (·.id == row.organizationId)

/-- The tables without the rows that are out of the scope of an admin. -/
def ExportDb.scoped (db : ExportDb ν) (context : AdminContext) : ExportDb ν where
  cards := db.cards.filter (cardInScope context)
  drops := db.drops.filter (dropInScope db context)
  batches := db.batches.filter (batchInScope db context)
  codes := db.codes.filter (codeInScope db context)
  logs := db.logs.filter (logInScope context)
  organizationArtists := db.organizationArtists.filter (artistInScope context)
  dropKeys := nodup_delete _ db.dropKeys
  batchKeys := nodup_delete _ db.batchKeys

/-- The same answer, or nothing found in both cases. -/
def SameOrHidden (answer answer' : Except Failure CsvFile) : Prop :=
  answer = answer' ∨ ∃ e e', answer = .error (.app e) ∧ answer' = .error (.app e') ∧
    e.statusCode = 404 ∧ e'.statusCode = 404

theorem cardRows_scoped (q cardStatus : Option String) (limit : Limit) :
    cardRows env (db.scoped context) context q cardStatus limit =
      cardRows env db context q cardStatus limit := by
  have hcards : ∀ p : ScopedCard → Bool,
      (db.scoped context).cards.filter (fun card => cardInScope context card && p card) =
        db.cards.filter fun card => cardInScope context card && p card := by
    intro p
    rw [ExportDb.scoped, List.filter_filter]
    apply List.filter_congr
    intro card _
    cases cardInScope context card <;> simp
  simp only [cardRows, Bool.and_assoc, hcards]

theorem logRows_scoped (action q : Option String) (limit : Limit) :
    logRows env (db.scoped context) context action q limit =
      logRows env db context action q limit := by
  have hlogs : ∀ p : AuditLog ν → Bool,
      (db.scoped context).logs.filter (fun log => logInScope context log && p log) =
        db.logs.filter fun log => logInScope context log && p log := by
    intro p
    rw [ExportDb.scoped, List.filter_filter]
    apply List.filter_congr
    intro log _
    cases logInScope context log <;> simp
  simp only [logRows, Bool.and_assoc, hlogs]

theorem organizationArtistOr404_ok {organizationId : OrganizationId} {artistId : ArtistId}
    {u : Unit} : organizationArtistOr404 db context organizationId artistId = .ok u ↔
      ⟨organizationId, artistId⟩ ∈ db.organizationArtists ∧ (context.isRoot ∨
        context.membership.accessLevel = .partner .companyAdmin ∨
          artistId ∈ context.assignedArtistIds) := by
  simp only [organizationArtistOr404, bind_ok, ensure_ok, exists_const]

theorem scopedDropOr404_ok {dropId : DropId} {drop : ScopedDrop} :
    scopedDropOr404 db context dropId = .ok drop ↔
      db.findDrop dropId = some drop ∧ dropInScope db context drop := by
  simp only [scopedDropOr404, bind_ok, orFail_ok]
  cases hroot : context.isRoot with
  | true => simp [dropInScope, hroot]
  | false =>
    simp only [Bool.false_eq_true, if_false, bind_ok, orFail_ok, ensure_ok, pure_ok, hroot,
      organizationArtistOr404_ok, dropInScope, Bool.false_or, false_or, exists_const,
      Option.any_eq_true, Bool.and_eq_true, Bool.or_eq_true, beq_iff_eq, List.contains_iff_mem]
    constructor
    · rintro ⟨drop, hfind, organization, hmember, hown, artistId, hartist, hlinked, rfl⟩
      exact ⟨hfind, organization, hmember, hown, artistId, hartist, hlinked⟩
    · rintro ⟨hfind, organization, hmember, hown, artistId, hartist, hlinked⟩
      exact ⟨drop, hfind, organization, hmember, hown, artistId, hartist, hlinked, rfl⟩

theorem scopedDropOr404_error {dropId : DropId} {e : Failure}
    (h : scopedDropOr404 db context dropId = .error e) :
    ∃ e', e = .app e' ∧ e'.statusCode = 404 := by
  simp only [scopedDropOr404, bind_error, orFail_error] at h
  rcases h with ⟨-, rfl⟩ | ⟨drop, -, h⟩
  · exact ⟨_, rfl, rfl⟩
  split at h
  · cases h
  simp only [organizationArtistOr404, resourceNotFound, bind_error, orFail_error, ensure_error,
    pure_error, and_false, exists_false, or_false] at h
  rcases h with ⟨-, rfl⟩ | ⟨_, -, ⟨-, rfl⟩ | ⟨_, -, ⟨-, rfl⟩ | ⟨_, -, ⟨-, rfl⟩ | ⟨_, -, -, rfl⟩⟩⟩⟩
  all_goals exact ⟨_, rfl, rfl⟩

theorem scopedCodeBatchOr404_ok {batchId : String} {batch : RedeemCodeBatch} :
    scopedCodeBatchOr404 db context batchId = .ok batch ↔
      db.findBatch batchId = some batch ∧ batchInScope db context batch := by
  simp only [scopedCodeBatchOr404, bind_ok, orFail_ok, pure_ok, scopedDropOr404_ok, batchInScope,
    Option.any_eq_true]
  constructor
  · rintro ⟨batch, hfind, drop, hdrop, rfl⟩
    exact ⟨hfind, drop, hdrop⟩
  · rintro ⟨hfind, drop, hdrop⟩
    exact ⟨batch, hfind, drop, hdrop, rfl⟩

theorem scopedCodeBatchOr404_error {batchId : String} {e : Failure}
    (h : scopedCodeBatchOr404 db context batchId = .error e) :
    ∃ e', e = .app e' ∧ e'.statusCode = 404 := by
  simp only [scopedCodeBatchOr404, bind_error, orFail_error, pure_error, and_false, exists_false,
    or_false] at h
  rcases h with ⟨-, rfl⟩ | ⟨_, -, h⟩
  · exact ⟨_, rfl, rfl⟩
  · exact scopedDropOr404_error h

theorem findDrop_scoped (dropId : DropId) :
    (db.scoped context).findDrop dropId = (db.findDrop dropId).filter (dropInScope db context) :=
  find_filter_key db.dropKeys _ dropId

theorem findBatch_scoped (batchId : String) :
    (db.scoped context).findBatch batchId =
      (db.findBatch batchId).filter (batchInScope db context) :=
  find_filter_key db.batchKeys _ batchId

theorem dropInScope_scoped (drop : ScopedDrop) :
    dropInScope (db.scoped context) context drop = dropInScope db context drop := by
  unfold dropInScope
  cases horganization : context.organization with
  | none => rfl
  | some organization =>
    have hlinks (artistId : ArtistId) :
        (db.scoped context).organizationArtists.contains ⟨organization.id, artistId⟩ =
          db.organizationArtists.contains ⟨organization.id, artistId⟩ := by
      rw [Bool.eq_iff_iff, List.contains_iff_mem, List.contains_iff_mem, ExportDb.scoped,
        List.mem_filter]
      simp [artistInScope, horganization]
    simp only [Option.any_some, hlinks]

theorem batchInScope_scoped (batch : RedeemCodeBatch) :
    batchInScope (db.scoped context) context batch = batchInScope db context batch := by
  unfold batchInScope
  rw [findDrop_scoped]
  cases db.findDrop batch.dropId with
  | none => rfl
  | some drop =>
    by_cases hdrop : dropInScope db context drop = true
    · simp [Option.filter, hdrop, dropInScope_scoped]
    · simp [Option.filter, hdrop]

/-- The codes of a batch in scope are all in scope. -/
theorem codeRows_scoped {batchId : String} {batch : RedeemCodeBatch}
    (hfind : db.findBatch batchId = some batch) (h : batchInScope db context batch) :
    codeRows env (db.scoped context) batch = codeRows env db batch := by
  obtain ⟨-, hid⟩ := mem_of_find_eq_some hfind
  have hcodes : (db.scoped context).codes.filter (fun code => code.batchId == some batch.id) =
      db.codes.filter fun code => code.batchId == some batch.id := by
    rw [ExportDb.scoped, List.filter_filter]
    apply List.filter_congr
    intro code _
    by_cases hbatch : code.batchId = some batch.id
    · simp [codeInScope, hbatch, hid, hfind, h]
    · simp [hbatch]
  simp only [codeRows, hcodes]

/-- What is out of the scope of an admin changes nothing in the files that it exports; at most
another text says that nothing was found. -/
theorem exportFile_scoped (env : ExportEnv ν) (db : ExportDb ν) (context : AdminContext)
    (request : ExportRequest) : SameOrHidden (exportFile env db context request)
      (exportFile env (db.scoped context) context request) := by
  cases request with
  | cards q cardStatus limit =>
    left
    simp only [exportFile, exportCards, cardRows_scoped]
  | auditLogs action q limit =>
    left
    simp only [exportFile, exportAuditLogs, logRows_scoped]
  | codeBatch batchId =>
    simp only [exportFile, exportCodeBatch]
    cases requireScopedAction context "codes:read" with
    | error e => exact .inl rfl
    | ok _ =>
      cases hbatch : scopedCodeBatchOr404 db context batchId with
      | ok batch =>
        left
        obtain ⟨hfind, hscope⟩ := scopedCodeBatchOr404_ok.mp hbatch
        have hbatch' : scopedCodeBatchOr404 (db.scoped context) context batchId = .ok batch := by
          rw [scopedCodeBatchOr404_ok, findBatch_scoped, batchInScope_scoped, hfind]
          exact ⟨Option.filter_some_pos hscope, hscope⟩
        have hrows : codeRows env (db.scoped context) batch = codeRows env db batch :=
          codeRows_scoped hfind hscope
        rw [hbatch']
        simp only [bind, Except.bind, hrows]
      | error e =>
        right
        obtain ⟨e, rfl, hstatus⟩ := scopedCodeBatchOr404_error hbatch
        cases hbatch' : scopedCodeBatchOr404 (db.scoped context) context batchId with
        | ok batch =>
          rw [scopedCodeBatchOr404_ok, findBatch_scoped, batchInScope_scoped,
            Option.filter_eq_some_iff] at hbatch'
          have hok := scopedCodeBatchOr404_ok.mpr ⟨hbatch'.1.1, hbatch'.2⟩
          rw [hbatch] at hok
          cases hok
        | error e' =>
          obtain ⟨e', rfl, hstatus'⟩ := scopedCodeBatchOr404_error hbatch'
          exact ⟨e, e', rfl, rfl, hstatus, hstatus'⟩

end

end Fanfolio.Exports
