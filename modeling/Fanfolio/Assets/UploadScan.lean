import Fanfolio.Assets.Completion
import Fanfolio.Framework.Frames
import Mathlib.Data.List.Infix

/-!
# Scans of uploads

An upload is sent to ClamAV in frames, and two words are looked for in the answer. ClamAV is a
parameter: which malware it finds in a file, and of which errors it may tell.
-/

namespace Fanfolio

open Framework

namespace UploadScan

def ascii (text : String) : Content := text.toList.map fun c => .ofNat c.toNat

/-- `bytes.lower`. -/
def lower (text : Content) : Content := text.map fun b => if 65 ≤ b ∧ b ≤ 90 then b + 32 else b

/-- `bytes.lstrip`. -/
def lstrip (text : Content) : Content := text.dropWhile fun b => b = 32 ∨ 9 ≤ b ∧ b ≤ 13

def executableSignatures : List Content :=
  [ascii "MZ", 0x7F :: ascii "ELF", ascii "#!", ascii "<?php", ascii "<script"]

def executableUpload : AppError := ⟨422, "UNSAFE_UPLOAD", "안전하지 않은 파일 형식입니다."⟩

def malwareDetected : AppError :=
  ⟨422, "MALWARE_DETECTED", "안전하지 않은 파일이 감지되었습니다."⟩

def scanUnavailable : AppError :=
  ⟨503, "UPLOAD_SCAN_UNAVAILABLE", "파일 안전성 검사 서비스를 사용할 수 없습니다."⟩

def scanUnclear : AppError :=
  ⟨503, "UPLOAD_SCAN_UNAVAILABLE", "파일 안전성 검사 결과를 확인할 수 없습니다."⟩

def unreadableImage : AppError := ⟨422, "INVALID_IMAGE", "이미지 파일을 읽을 수 없습니다."⟩

def smallBanner : AppError :=
  ⟨422, "INVALID_IMAGE", "이벤트 배너는 가로 320px, 세로 160px 이상이어야 합니다."⟩

def smallRewardImage : AppError :=
  ⟨422, "INVALID_IMAGE", "보상 이미지는 가로와 세로가 각각 128px 이상이어야 합니다."⟩

def rejectObviousExecutable (content : Content) : Except AppError Unit :=
  let normalizedHead := lower (lstrip (content.take 512))
  ensure (∀ signature ∈ executableSignatures,
    ¬(signature <+: content ∨ lower signature <+: normalizedHead)) executableUpload

/-- What `_scan_with_clamav` writes. -/
def request (content : Content) : Content :=
  ascii "zINSTREAM" ++ 0 :: Frames.write (Frames.chunks (1024 * 1024) content)

/-- The response to a request is none if the scanner cannot be reached or takes too long. -/
def scanWithClamav (response : Content → Option Content) (content : Content) :
    Except AppError Unit := do
  let response ← orFail (response (request content)) scanUnavailable
  let normalizedResponse := lower response
  ensure (¬ascii "found" <:+: normalizedResponse) malwareDetected
  ensure (ascii "ok" <:+: normalizedResponse) scanUnclear

/-- Pillow raises `UnidentifiedImageError` or `OSError`, or something else. -/
inductive PillowError where
  | unreadable
  | other
deriving DecidableEq, Repr

structure OpenedImage where
  width : ℕ
  height : ℕ
  verified : Except PillowError Unit

inductive ScanFailure where
  | refused (error : AppError)
  | raised
deriving DecidableEq, Repr

structure ScanEnv where
  assetScanMode : String
  openImage : Content → Except PillowError OpenedImage

def PillowError.failure : PillowError → ScanFailure
  | .unreadable => .refused unreadableImage
  | .other => .raised

def checkImage (env : ScanEnv) (purpose : String) (content : Content) :
    Except ScanFailure Unit := do
  let image ← (env.openImage content).mapError PillowError.failure
  ensure (¬(purpose = "event_banner" ∧ (image.width < 320 ∨ image.height < 160)))
    (.refused smallBanner)
  ensure (¬(purpose = "reward_image" ∧ (image.width < 128 ∨ image.height < 128)))
    (.refused smallRewardImage)
  image.verified.mapError PillowError.failure

def scanUploadedContent (env : ScanEnv) (response : Content → Option Content)
    (contentType purpose : String) (content : Content) : Except ScanFailure Unit :=
  if env.assetScanMode = "disabled" then pure ()
  else do
    if purpose ∈ ["event_banner", "reward_image"] ∧
        contentType ∈ ["image/png", "image/jpeg", "image/webp"] then
      checkImage env purpose content
    (rejectObviousExecutable content).mapError .refused
    if env.assetScanMode = "clamav" then
      (scanWithClamav response content).mapError .refused

/-- What ClamAV finds in a file, if anything, and the errors that it may answer with instead. -/
structure Clamd where
  malware : Content → Option Content
  errors : List Content

/-- A command is read, its frames are, or the command is none that has frames. -/
inductive ClamdState where
  | command (read : Content)
  | stream (s : Frames.State)
  | unknown
deriving DecidableEq, Repr

namespace Clamd

def readByte : ClamdState → UInt8 → ClamdState × List Frames.Item
  | .command read, b =>
    if b = 0 then (if read = ascii "zINSTREAM" then .stream .start else .unknown, [])
    else (.command (read ++ [b]), [])
  | .stream s, b =>
    let (s', items) := Frames.readByte s b
    (.stream s', items)
  | .unknown, _ => (.unknown, [])

def reader : Transducer ClamdState UInt8 Frames.Item := .ofSymbol readByte

def start : ClamdState := .command []

def foundReply (name : Content) : Content := ascii "stream: " ++ name ++ (ascii " FOUND" ++ [0])

def errorReply (text : Content) : Content := text ++ (ascii " ERROR" ++ [0])

def reply (clamd : Clamd) (content : Content) : Content :=
  match clamd.malware content with
  | none => ascii "stream: OK" ++ [0]
  | some name => foundReply name

/-- What `reader.read(1024)` may give: the beginning of an error or, once ClamAV has read the end,
of what it says of the bytes before it. A closed connection gives nothing. -/
inductive Answers (clamd : Clamd) (request : Content) : Option Content → Prop
  | unavailable : Answers clamd request none
  | error {text response : Content} (herror : text ∈ clamd.errors)
      (hresponse : response <+: errorReply text) (hlength : response.length ≤ 1024) :
      Answers clamd request (some response)
  | closed : Answers clamd request (some [])
  | scanned {pieces : List Content} {rest content response : Content}
      (hrequest : pieces.flatten ++ rest = request)
      (hread : (reader.run start pieces).2 = content.map .byte ++ [.over])
      (hresponse : response <+: clamd.reply content) (hlength : response.length ≤ 1024) :
      Answers clamd request (some response)

section

open Transducer

theorem ascii_command : ascii "zINSTREAM" = [122, 73, 78, 83, 84, 82, 69, 65, 77] := rfl

theorem readSymbols_command :
    readSymbols readByte start (ascii "zINSTREAM" ++ [0]) = (.stream .start, []) := by
  simp [ascii_command, start, readSymbols, readByte]

theorem readSymbols_stream (s : Frames.State) (bytes : Content) :
    readSymbols readByte (.stream s) bytes =
      (.stream (readSymbols Frames.readByte s bytes).1,
        (readSymbols Frames.readByte s bytes).2) := by
  induction bytes generalizing s with
  | nil => rfl
  | cons b bytes ih => simp only [readSymbols, readByte, ih]

theorem chunks_fit (content : Content) : ∀ chunk ∈ Frames.chunks (1024 * 1024) content,
    chunk ≠ [] ∧ chunk.length < 0x100000000 := by
  intro chunk hchunk
  obtain ⟨hne, hlength⟩ := Frames.mem_chunks content (by decide) chunk hchunk
  exact ⟨hne, by omega⟩

theorem flatten_chunks (content : Content) :
    (Frames.chunks (1024 * 1024) content).flatten = content :=
  Frames.flatten_chunks content (by decide)

theorem request_eq (content : Content) : request content =
    ascii "zINSTREAM" ++ [0] ++ Frames.write (Frames.chunks (1024 * 1024) content) := by
  rw [request, List.append_assoc, List.singleton_append]

theorem read_request (content : Content) : readSymbols readByte start (request content) =
    (.stream .over, content.map .byte ++ [.over]) := by
  rw [request_eq, readSymbols_append, readSymbols_command, readSymbols_stream,
    Frames.read_write (chunks_fit content), flatten_chunks]
  rfl

/-- The end of a request is its last byte. -/
theorem read_request_cut {content bytes rest : Content} (h : bytes ++ rest = request content)
    (hrest : rest ≠ []) : (readSymbols readByte start bytes).2 <+: content.map .byte := by
  have hne : Frames.write (Frames.chunks (1024 * 1024) content) ≠ [] := by
    rw [Frames.write]
    exact List.append_ne_nil_of_right_ne_nil _ (List.cons_ne_nil _ _)
  have hbytes : bytes ++ rest.dropLast = ascii "zINSTREAM" ++ [0] ++
      (Frames.write (Frames.chunks (1024 * 1024) content)).dropLast := by
    rw [← List.dropLast_append_of_ne_nil hrest, h, request_eq,
      List.dropLast_append_of_ne_nil hne]
  have hread : readSymbols readByte start (bytes ++ rest.dropLast) =
      (.stream (.length 3 0), content.map .byte) := by
    rw [hbytes, readSymbols_append, readSymbols_command, readSymbols_stream,
      Frames.read_dropLast (chunks_fit content), flatten_chunks]
    rfl
  rw [readSymbols_append] at hread
  rw [← (Prod.mk.inj hread).2]
  exact List.prefix_append _ _

/-- However a request is cut, ClamAV reads a beginning of the upload, and the end of the frames
only behind all of it. -/
theorem reader_request {content : Content} {pieces : List Content} {rest : Content}
    (h : pieces.flatten ++ rest = request content) :
    (rest = [] → (reader.run start pieces).2 = content.map .byte ++ [.over]) ∧
      (rest ≠ [] → (reader.run start pieces).2 <+: content.map .byte) := by
  rw [run_eq_step]
  refine ⟨?_, read_request_cut h⟩
  rintro rfl
  rw [List.append_nil] at h
  rw [h]
  exact congrArg Prod.snd (read_request content)

theorem request_seven : request [7] =
    [122, 73, 78, 83, 84, 82, 69, 65, 77, 0, 0, 0, 0, 1, 7, 0, 0, 0, 0] := by
  have hchunks : Frames.chunks (1024 * 1024) [7] = [[7]] := by decide +kernel
  rw [request_eq, ascii_command, hchunks]
  decide +kernel

/-- The connection breaks off before the end of the frames. -/
theorem reader_request_cut :
    (reader.run start [[122, 73, 78, 83, 84], [82, 69, 65, 77, 0, 0, 0, 0], [1, 7, 0, 0]]).2 <+:
      [Frames.Item.byte 7] := by
  have hrequest : [[122, 73, 78, 83, 84], [82, 69, 65, 77, 0, 0, 0, 0], [1, 7, 0, 0]].flatten ++
      [0, 0] = request [7] := by
    rw [request_seven]
    rfl
  exact (reader_request hrequest).2 (List.cons_ne_nil _ _)

end

end Clamd

section

variable {α : Type*} {word front text back : List α} {b : α}

theorem infix_of_front (hne : word ≠ []) (hfront : ∀ c ∈ front, c ∉ word)
    (h : word <:+: front ++ text) : word <:+: text := by
  rcases List.infix_append_iff_ne_nil.mp h with hin | hin | ⟨left, right, hleft, -, rfl, hsuffix, -⟩
  · obtain ⟨c, rest, rfl⟩ := List.exists_cons_of_ne_nil hne
    exact absurd List.mem_cons_self (hfront c (hin.subset List.mem_cons_self))
  · exact hin
  · obtain ⟨c, rest, rfl⟩ := List.exists_cons_of_ne_nil hleft
    exact absurd List.mem_cons_self (hfront c (hsuffix.subset List.mem_cons_self))

theorem infix_of_back (hb : b ∉ word) (hback : ¬word <:+: b :: back) {tail : List α}
    (htail : tail <+: b :: back) (h : word <:+: text ++ tail) : word <:+: text := by
  rcases List.infix_append_iff_ne_nil.mp h with
    hin | hin | ⟨left, right, -, hright, rfl, -, hbegins⟩
  · exact hin
  · exact absurd (hin.trans htail.isInfix) hback
  · obtain ⟨c, rest, rfl⟩ := List.exists_cons_of_ne_nil hright
    obtain ⟨rfl, -⟩ := List.cons_prefix_cons.mp (hbegins.trans htail)
    exact absurd (List.mem_append_right _ List.mem_cons_self) hb

end

theorem lower_append (a b : Content) : lower (a ++ b) = lower a ++ lower b := List.map_append

/-- The response says ok, and does not say found. -/
def Accepted (response : Content) : Prop :=
  ¬ascii "found" <:+: lower response ∧ ascii "ok" <:+: lower response

theorem ascii_ok : ascii "ok" = [111, 107] := rfl

theorem ascii_found : ascii "found" = [102, 111, 117, 110, 100] := rfl

theorem accepted_clean : Accepted (ascii "stream: OK" ++ [0]) := by
  have hlower : lower (ascii "stream: OK" ++ [0]) =
      [115, 116, 114, 101, 97, 109, 58, 32, 111, 107, 0] := rfl
  rw [Accepted, hlower, ascii_ok, ascii_found]
  decide

/-- Within so many bytes of the text there is an ok before any found. -/
def OkFirst (limit : ℕ) (text : Content) : Prop := ∃ k ≤ limit, Accepted (text.take k)

theorem scanWithClamav_ok {response : Content → Option Content} {content : Content} :
    scanWithClamav response content = .ok () ↔
      ∃ text, response (request content) = some text ∧ Accepted text := by
  cases hresponse : response (request content) with
  | none =>
    rw [scanWithClamav, hresponse]
    exact iff_of_false (by simp [orFail]) (by simp)
  | some text =>
    rw [scanWithClamav, hresponse]
    simp [orFail, Accepted]

/-- A text in an answer is accepted if the part of it that arrives is. -/
theorem accepted_iff_okFirst {front text back : Content} {b : UInt8} (hlength : front.length ≤ 1024)
    (hfound : ∀ c ∈ lower front, c ∉ ascii "found") (hok : ∀ c ∈ lower front, c ∉ ascii "ok")
    (hb : b ∉ ascii "ok") (hback : ¬ascii "ok" <:+: b :: lower back) (hlower : lower [b] = [b]) :
    (∃ response, response <+: front ++ (text ++ b :: back) ∧ response.length ≤ 1024 ∧
      Accepted response) ↔ OkFirst (1024 - front.length) text := by
  constructor
  · rintro ⟨response, hresponse, hshort, hnotfound, hsaysok⟩
    have hparts : response = front.take response.length ++
        (text.take (response.length - front.length) ++
          (b :: back).take (response.length - front.length - text.length)) := by
      rw [← List.take_append, ← List.take_append]
      exact List.prefix_iff_eq_take.mp hresponse
    have htail : lower ((b :: back).take (response.length - front.length - text.length)) <+:
        b :: lower back := by
      have hcons : lower (b :: back) = lower [b] ++ lower back := lower_append [b] back
      rw [hlower, List.singleton_append] at hcons
      rw [← hcons]
      exact (List.take_prefix _ _).map _
    refine ⟨response.length - front.length, by omega, fun h => hnotfound ?_, ?_⟩
    · rw [hparts, lower_append, lower_append]
      exact h.trans (List.infix_append' _ _ _)
    · rw [hparts, lower_append, lower_append] at hsaysok
      refine infix_of_back hb hback htail (infix_of_front ?_ (fun c hc => hok c ?_) hsaysok)
      · rw [ascii_ok]
        exact List.cons_ne_nil _ _
      exact ((List.take_prefix _ _).map _).subset hc
  · rintro ⟨k, hk, hnotfound, hsaysok⟩
    refine ⟨front ++ text.take k, ?_, ?_, fun h => hnotfound ?_, ?_⟩
    · rw [List.prefix_append_right_inj]
      exact (List.take_prefix _ _).trans (List.prefix_append _ _)
    · rw [List.length_append, List.length_take]
      omega
    · rw [lower_append] at h
      exact infix_of_front (by rw [ascii_found]; exact List.cons_ne_nil _ _) hfound h
    · rw [lower_append]
      exact List.infix_append_of_infix_right hsaysok

namespace Clamd

theorem foundReply_accepted {name : Content} :
    (∃ response, response <+: foundReply name ∧ response.length ≤ 1024 ∧ Accepted response) ↔
      OkFirst 1016 name := by
  have hreply : foundReply name = [115, 116, 114, 101, 97, 109, 58, 32] ++
      (name ++ 32 :: [70, 79, 85, 78, 68, 0]) := by
    rw [foundReply, List.append_assoc]
    rfl
  rw [hreply]
  refine accepted_iff_okFirst (by decide) ?_ ?_ ?_ ?_ rfl
  · simp [lower, ascii_found]
  · simp [lower, ascii_ok]
  · rw [ascii_ok]
    decide
  · rw [ascii_ok]
    decide

theorem errorReply_accepted {text : Content} :
    (∃ response, response <+: errorReply text ∧ response.length ≤ 1024 ∧ Accepted response) ↔
      OkFirst 1024 text := by
  have hreply : errorReply text = [] ++ (text ++ 32 :: [69, 82, 82, 79, 82, 0]) := rfl
  rw [hreply]
  refine accepted_iff_okFirst (by decide) nofun nofun ?_ ?_ rfl
  · rw [ascii_ok]
    decide
  · rw [ascii_ok]
    decide

/-- ClamAV finds nothing in a file, or a text that it may answer with has an ok before any found. -/
def Passable (clamd : Clamd) (content : Content) : Prop :=
  clamd.malware content = none ∨ (∃ name, clamd.malware content = some name ∧ OkFirst 1016 name) ∨
    ∃ text ∈ clamd.errors, OkFirst 1024 text

variable {clamd : Clamd} {content : Content}

theorem Answers.passable {text : Content} (h : clamd.Answers (request content) (some text))
    (haccepted : Accepted text) : clamd.Passable content := by
  cases h with
  | error herror hresponse hlength =>
    exact .inr (.inr ⟨_, herror, errorReply_accepted.mp ⟨_, hresponse, hlength, haccepted⟩⟩)
  | closed =>
    have hok := haccepted.2
    rw [ascii_ok] at hok
    exact absurd hok (by decide)
  | @scanned pieces rest content' _ hrequest hread hresponse hlength =>
    obtain ⟨hall, hcut⟩ := reader_request hrequest
    by_cases hrest : rest = []
    · have hitems := hread.symm.trans (hall hrest)
      rw [List.append_left_inj] at hitems
      obtain rfl : content' = content :=
        List.map_injective_iff.mpr (fun _ _ => Frames.Item.byte.inj) hitems
      rw [reply] at hresponse
      cases hmalware : clamd.malware content' with
      | none => exact .inl hmalware
      | some name =>
        rw [hmalware] at hresponse
        exact .inr (.inl ⟨name, hmalware, foundReply_accepted.mp ⟨_, hresponse, hlength, haccepted⟩⟩)
    · have hover : Frames.Item.over ∈ content.map Frames.Item.byte :=
        (hcut hrest).subset (hread ▸ List.mem_append_right _ (List.mem_singleton_self _))
      obtain ⟨_, -, hbyte⟩ := List.mem_map.mp hover
      cases hbyte

theorem answers_of_reply {text : Content} (h : text <+: clamd.reply content)
    (hlength : text.length ≤ 1024) : clamd.Answers (request content) (some text) := by
  have hwhole : [request content].flatten ++ [] = request content := by
    rw [List.flatten_singleton, List.append_nil]
  exact .scanned hwhole ((reader_request hwhole).1 rfl) h hlength

/-- The uploads that some answer of ClamAV lets through. -/
theorem scanWithClamav_passes_iff (clamd : Clamd) (content : Content) :
    (∃ answer, clamd.Answers (request content) answer ∧
      scanWithClamav (fun _ => answer) content = .ok ()) ↔ clamd.Passable content := by
  constructor
  · rintro ⟨answer, hanswer, hpass⟩
    obtain ⟨text, rfl, haccepted⟩ := scanWithClamav_ok.mp hpass
    exact hanswer.passable haccepted
  · have hpass : ∀ text, clamd.Answers (request content) (some text) → Accepted text →
        ∃ answer, clamd.Answers (request content) answer ∧
          scanWithClamav (fun _ => answer) content = .ok () :=
      fun text hanswer haccepted => ⟨_, hanswer, scanWithClamav_ok.mpr ⟨text, rfl, haccepted⟩⟩
    rintro (hclean | ⟨name, hfound, hfirst⟩ | ⟨text, herror, hfirst⟩)
    · have hreply : clamd.reply content = ascii "stream: OK" ++ [0] := by
        rw [reply, hclean]
      exact hpass (clamd.reply content)
        (answers_of_reply (List.prefix_refl _) (by rw [hreply]; decide)) (hreply ▸ accepted_clean)
    · obtain ⟨response, hresponse, hlength, haccepted⟩ := foundReply_accepted.mpr hfirst
      refine hpass response (answers_of_reply ?_ hlength) haccepted
      rw [reply, hfound]
      exact hresponse
    · obtain ⟨response, hresponse, hlength, haccepted⟩ := errorReply_accepted.mpr hfirst
      exact hpass response (.error herror hresponse hlength) haccepted

end Clamd

theorem scanUploadedContent_ok {env : ScanEnv} (hmode : env.assetScanMode = "clamav")
    {response : Content → Option Content} {contentType purpose : String} {content : Content}
    (h : scanUploadedContent env response contentType purpose content = .ok ()) :
    rejectObviousExecutable content = .ok () ∧ scanWithClamav response content = .ok () := by
  have hdisabled : env.assetScanMode ≠ "disabled" := by
    rw [hmode]
    decide
  have hrefused : ∀ check : Except AppError Unit,
      check.mapError ScanFailure.refused = .ok () → check = .ok () := by
    rintro (error | ⟨⟩) hcheck
    · cases hcheck
    · rfl
  simp only [scanUploadedContent, if_neg hdisabled, if_pos hmode] at h
  split at h
  · obtain ⟨_, -, h⟩ := bind_ok.mp h
    obtain ⟨_, hhead, hscan⟩ := bind_ok.mp h
    exact ⟨hrefused _ hhead, hrefused _ hscan⟩
  · obtain ⟨_, hhead, hscan⟩ := bind_ok.mp h
    exact ⟨hrefused _ hhead, hrefused _ hscan⟩

/-- What a scan lets through. -/
def Trusted (clamd : Clamd) (content : Content) : Prop :=
  rejectObviousExecutable content = .ok () ∧ clamd.Passable content

end UploadScan

namespace Upload

open UploadScan

variable (env : UploadEnv) (scanEnv : ScanEnv) (clamd : Clamd) (contentType : String)

/-- A scan that ends without an unexpected exception ends like `scan_uploaded_content`. -/
def Scans (s : Upload) : UploadAction → Prop
  | .scan w refusal => ∀ path content, s.phase w = .scanning path content →
      ∃ answer, clamd.Answers (request content) answer ∧
        scanUploadedContent scanEnv (fun _ => answer) contentType s.asset.purpose content =
          match refusal with
          | none => .ok ()
          | some refusal => .error (.refused refusal)
  | _ => True

/-- A completed asset has its canonical path or none, and only trusted files are saved there. -/
structure Kept (s : Upload) : Prop where
  settled : s.asset.uploadCompletedAt.isSome → ∀ path, s.asset.storagePath = some path →
    path = env.storage.canonicalPath s.asset.id
  stored : ∀ content, s.objects (env.storage.canonicalPath s.asset.id) = some content →
    Trusted clamd content
  passed : ∀ w path content, s.phase w = .passed path content → Trusted clamd content

variable {env scanEnv clamd contentType} {s : Upload}

theorem Kept.goOn (h : Kept env clamd s) {w : Nat} {p : UploadPhase}
    (hp : ∀ path content, p = .passed path content → Trusted clamd content) :
    Kept env clamd (s.goOn w p) := by
  refine ⟨h.settled, h.stored, fun w' path content hphase => ?_⟩
  simp only [Upload.goOn, Function.update_apply] at hphase
  split at hphase
  · exact hp path content hphase
  · exact h.passed w' path content hphase

/-- A step into a phase in which no scan has just passed. -/
theorem Kept.goOn_other (h : Kept env clamd s) {w : Nat} {p : UploadPhase}
    (hp : ∀ path content, p ≠ .passed path content) : Kept env clamd (s.goOn w p) :=
  h.goOn fun path content heq => absurd heq (hp path content)

theorem Kept.answer (h : Kept env clamd s) {user : UserId} {afterCompletion : Bool}
    {refusal : Option AppError} : Kept env clamd (s.answer user afterCompletion refusal) :=
  ⟨h.settled, h.stored, h.passed⟩

theorem Kept.deleteObject (h : Kept env clamd s) (path : String) :
    Kept env clamd (s.deleteObject path) := by
  refine ⟨h.settled, fun content hcontent => ?_, h.passed⟩
  simp only [Upload.deleteObject, Function.update_apply] at hcontent
  split at hcontent
  · cases hcontent
  · exact h.stored content hcontent

theorem Kept.putStaging (h : Kept env clamd s) (content : Content) :
    Kept env clamd (s.putObject (env.storage.stagingPath s.asset.id) content) := by
  refine ⟨h.settled, fun content' hcontent => h.stored content' ?_, h.passed⟩
  rw [← hcontent]
  exact (Function.update_of_ne (env.storage.staging_ne_canonical _).symm _ _).symm

theorem Kept.save (h : Kept env clamd s) {content : Content} (hcontent : Trusted clamd content) :
    Kept env clamd (s.putObject (env.storage.canonicalPath s.asset.id) content) := by
  refine ⟨h.settled, fun content' hstored => ?_, h.passed⟩
  obtain rfl : content = content' :=
    Option.some.inj ((putObject_self s _ content).symm.trans hstored)
  exact hcontent

theorem Kept.clear (h : Kept env clamd s) :
    Kept env clamd { s with asset := { s.asset with storagePath := none } } :=
  ⟨fun _ _ hpath => (nomatch hpath), h.stored, h.passed⟩

theorem Kept.complete (h : Kept env clamd s) (content : Content) (now : Time) :
    Kept env clamd { s with asset := s.asset.completed env content now } := by
  refine ⟨fun _ path hpath => ?_, h.stored, h.passed⟩
  cases hpath
  rfl

theorem proceed_kept (h : Kept env clamd s) (w : Nat) (now : Time) :
    Kept env clamd (proceed env s w now) := by
  cases hphase : s.phase w with
  | passed path content =>
    simp only [proceed, hphase]
    exact (h.save (h.passed w path content hphase)).goOn_other (by rintro _ _ ⟨⟩)
  | saved path content =>
    simp only [proceed, hphase]
    exact (h.complete content now).goOn_other (by rintro _ _ ⟨⟩)
  | clearing refusal =>
    simp only [proceed, hphase]
    cases refusal with
    | none => exact h.clear.goOn_other (by rintro _ _ ⟨⟩)
    | some refusal => exact h.clear.answer.goOn_other (by rintro _ _ ⟨⟩)
  | discarding path refusal =>
    simp only [proceed, hphase]
    exact (h.deleteObject path).goOn_other (by rintro _ _ ⟨⟩)
  | sweeping path =>
    simp only [proceed, hphase]
    exact (h.deleteObject path).goOn_other (by rintro _ _ ⟨⟩)
  | finishing path =>
    simp only [proceed, hphase]
    split
    · exact (h.answer.deleteObject path).goOn_other (by rintro _ _ ⟨⟩)
    · exact h.answer.goOn_other (by rintro _ _ ⟨⟩)
  | loaded path =>
    simp only [proceed, hphase]
    split
    · exact h.goOn_other (by rintro _ _ ⟨⟩)
    · exact h.answer.goOn_other (by rintro _ _ ⟨⟩)
  | present path =>
    simp only [proceed, hphase]
    split
    · exact h.goOn_other (by rintro _ _ ⟨⟩)
    · split
      · exact h.goOn_other (by rintro _ _ ⟨⟩)
      · exact h.goOn_other (by rintro _ _ ⟨⟩)
  | fitting path =>
    simp only [proceed, hphase]
    split
    · exact h.goOn_other (by rintro _ _ ⟨⟩)
    · exact h.goOn_other (by rintro _ _ ⟨⟩)
  | idle =>
    simp only [proceed, hphase]
    exact h
  | scanning path content =>
    simp only [proceed, hphase]
    exact h

theorem Scans.trusted (hmode : scanEnv.assetScanMode = "clamav") {w : Nat}
    (h : Scans scanEnv clamd contentType s (.scan w none)) {path : String} {content : Content}
    (hphase : s.phase w = .scanning path content) : Trusted clamd content := by
  obtain ⟨answer, hanswer, hscan⟩ := h path content hphase
  obtain ⟨hhead, hpass⟩ := scanUploadedContent_ok hmode hscan
  exact ⟨hhead, (Clamd.scanWithClamav_passes_iff clamd content).mp ⟨answer, hanswer, hpass⟩⟩

theorem step_kept (hmode : scanEnv.assetScanMode = "clamav") (h : Kept env clamd s)
    {a : UploadAction} (hscans : Scans scanEnv clamd contentType s a) :
    Kept env clamd (step env s a) := by
  cases a with
  | put content => exact h.putStaging content
  | complete w user now =>
    simp only [step]
    split
    · split
      · exact h.answer
      · exact h.answer
      · exact h.goOn_other (by rintro _ _ ⟨⟩)
    · exact h
  | cleanup w now =>
    simp only [step]
    split
    · exact h.goOn_other (by rintro _ _ ⟨⟩)
    · exact h
  | scan w refusal =>
    cases hphase : s.phase w with
    | scanning path content =>
      simp only [step, hphase]
      cases refusal with
      | none =>
        have hlisted : Kept env clamd { s with scanned := content :: s.scanned } :=
          ⟨h.settled, h.stored, h.passed⟩
        refine hlisted.goOn fun path' content' heq => ?_
        cases heq
        exact hscans.trusted hmode hphase
      | some refusal => exact h.goOn_other (by rintro _ _ ⟨⟩)
    | _ =>
      simp only [step, hphase]
      exact h
  | proceed w now => exact proceed_kept h w now
  | fail w =>
    simp only [step]
    split
    · exact h.answer.goOn_other (by rintro _ _ ⟨⟩)
    · exact h.goOn_other (by rintro _ _ ⟨⟩)

/-- Malware whose name says ok. -/
def smokeClamd : Clamd := ⟨fun _ => some (ascii "Win.Smoke"), []⟩

def clamavScans : ScanEnv := ⟨"clamav", fun _ => .error .unreadable⟩

theorem smoke_passes : ∃ answer, smokeClamd.Answers (request [1]) answer ∧
    scanUploadedContent clamavScans (fun _ => answer) "image/png" "card_image" [1] = .ok () := by
  have hfirst : OkFirst 1016 (ascii "Win.Smoke") := by
    have hlower : lower ((ascii "Win.Smoke").take 9) =
        [119, 105, 110, 46, 115, 109, 111, 107, 101] := rfl
    refine ⟨9, by decide, ?_⟩
    rw [Accepted, hlower, ascii_ok, ascii_found]
    decide
  obtain ⟨answer, hanswer, hpass⟩ := (Clamd.scanWithClamav_passes_iff smokeClamd [1]).mpr
    (.inr (.inl ⟨_, rfl, hfirst⟩))
  have hhead : rejectObviousExecutable [1] = .ok () := by decide +kernel
  refine ⟨answer, hanswer, ?_⟩
  rw [scanUploadedContent, if_neg (by decide), if_neg (by decide), if_pos (by decide), hhead, hpass]
  rfl

end Upload

end Fanfolio
