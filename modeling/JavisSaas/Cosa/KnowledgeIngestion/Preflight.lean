import Mathlib.Algebra.Ring.Nat
import JavisSaas.Lib.Fallible
import JavisSaas.Agent.Governance.Policy

/-!
# Checks of an untrusted document before its conversion

`apps/cosa/knowledge_ingestion/preflight.py`, and how the handler reads the failure code off the
error (handler.py:244-276).
-/

namespace JavisSaas.Cosa.KnowledgeIngestion

open JavisSaas.Lib

abbrev Bytes := List UInt8

/-! ## Contracts -/

inductive FailureCode
  | unsupportedMediaType
  | mimeMismatch
  | fileTooLarge
  | archiveLimitExceeded
  | malwareDetected
  | scannerUnavailable
  | checksumMismatch
  | conversionTimeout
  | conversionOutputTooLarge
  | conversionParserError

namespace FailureCode

def text : FailureCode → String
  | unsupportedMediaType => "unsupported_media_type"
  | mimeMismatch => "mime_mismatch"
  | fileTooLarge => "file_too_large"
  | archiveLimitExceeded => "archive_limit_exceeded"
  | malwareDetected => "malware_detected"
  | scannerUnavailable => "scanner_unavailable"
  | checksumMismatch => "checksum_mismatch"
  | conversionTimeout => "conversion_timeout"
  | conversionOutputTooLarge => "conversion_output_too_large"
  | conversionParserError => "conversion_parser_error"

def ofText? (s : String) : Option FailureCode :=
  [unsupportedMediaType, mimeMismatch, fileTooLarge, archiveLimitExceeded, malwareDetected,
    scannerUnavailable, checksumMismatch, conversionTimeout, conversionOutputTooLarge,
    conversionParserError].find? (·.text = s)

end FailureCode

def pdf : String := "application/pdf"
def docx : String := "application/vnd.openxmlformats-officedocument.wordprocessingml.document"
def xlsx : String := "application/vnd.openxmlformats-officedocument.spreadsheetml.sheet"
def pptx : String := "application/vnd.openxmlformats-officedocument.presentationml.presentation"

def mib (n : ℕ) : ℕ := n * 1024 * 1024

def mimeTypeLimits : List (String × ℕ) :=
  [("text/plain", mib 10), ("text/csv", mib 10), ("text/html", mib 10), (pdf, mib 25),
    (docx, mib 25), (xlsx, mib 25), (pptx, mib 25)]

def officeMimeTypes : List String := [docx, xlsx, pptx]

structure QuarantinedObject where
  objectKey : String
  sizeBytes : ℕ
  sourceSha256 : String
  detectedMediaType : String

structure ValidatedDocument where
  objectKey : String
  detectedMediaType : String
  sourceSha256 : String
  sizeBytes : ℕ

/-! ## What the checks call -/

structure ZipInfo where
  filename : String
  fileSize : ℕ
  compressSize : ℕ

/-- `hashlib`, `zipfile` and the formatting of a float. -/
structure Platform where
  /-- `hashlib.sha256(data).hexdigest()` -/
  sha256 : Bytes → String
  /-- `sha256` of the UTF-8 bytes of a token, `_hash_token`. -/
  hashToken : String → String
  /-- `ZipFile(stream).infolist()`, or the text of the `BadZipFile`. -/
  infolist : Bytes → Except String (List ZipInfo)
  /-- `f"{total_uncompressed / total_compressed:.1f}"` -/
  ratio : ℕ → ℕ → String

/-- A `ValueError` of the checks, which names its failure code. -/
structure PreflightError where
  code : FailureCode
  detail : String

def PreflightError.text (e : PreflightError) : String := e.code.text ++ ": " ++ e.detail

/-! ## The checks -/

/-- `data.startswith(magic)` -/
def startsWith (data magic : Bytes) : Bool := magic.isPrefixOf data

/-- `b"%PDF-"` -/
def pdfMagic : Bytes := [0x25, 0x50, 0x44, 0x46, 0x2d]

/-- `b"PK\x03\x04"` -/
def zipMagic : Bytes := [0x50, 0x4b, 0x03, 0x04]

def checkMimeMagicMatch (mimeType : String) (magicBytes : Bytes) : Bool :=
  if mimeType = pdf then startsWith magicBytes pdfMagic
  else if mimeType ∈ officeMimeTypes then startsWith magicBytes zipMagic
  else if mimeType ∈ ["text/plain", "text/csv", "text/html"] then
    !(startsWith magicBytes zipMagic || startsWith magicBytes pdfMagic)
  else true

def preflightOfficeArchive (p : Platform) (content : Bytes) : Except PreflightError Unit :=
  match p.infolist content with
  | .error e => .error ⟨.mimeMismatch, "not a valid ZIP archive: " ++ e⟩
  | .ok infos => do
    for info in infos do
      require (info.fileSize ≤ mib 50) ⟨.archiveLimitExceeded, "member " ++ info.filename ++
        " uncompressed size " ++ toString info.fileSize ++ " exceeds 50 MiB"⟩
    require (infos.length ≤ 1000)
      ⟨.archiveLimitExceeded, toString infos.length ++ " members exceeds 1,000"⟩
    let totalUncompressed := (infos.map (·.fileSize)).sum
    let totalCompressed := (infos.map (·.compressSize)).sum
    require (totalUncompressed ≤ mib 100) ⟨.archiveLimitExceeded,
      "total uncompressed " ++ toString totalUncompressed ++ " exceeds 100 MiB"⟩
    -- The quotient of numbers of this size is compared exactly.
    require (totalCompressed = 0 ∨ totalUncompressed ≤ 20 * totalCompressed)
      ⟨.archiveLimitExceeded,
        "compression ratio " ++ p.ratio totalUncompressed totalCompressed ++ ":1 exceeds 20:1"⟩

def validateQuarantinedObject (p : Platform) (obj : QuarantinedObject) (content : Bytes) :
    Except PreflightError ValidatedDocument := do
  let mime := obj.detectedMediaType
  match mimeTypeLimits.lookup mime with
  | none => .error ⟨.unsupportedMediaType, mime⟩
  | some sizeLimit =>
    require (checkMimeMagicMatch mime (content.take 16))
      ⟨.mimeMismatch, "magic bytes don't match " ++ mime⟩
    -- The number of bytes in the text is the initial one: the read has not returned.
    require (content.length ≤ sizeLimit) ⟨.fileTooLarge, "0 exceeds " ++ toString sizeLimit⟩
    require (p.sha256 content = obj.sourceSha256) ⟨.checksumMismatch,
      "computed " ++ p.sha256 content ++ ", expected " ++ obj.sourceSha256⟩
    if mime ∈ officeMimeTypes then preflightOfficeArchive p content
    return ⟨obj.objectKey, mime, p.sha256 content, content.length⟩

/-! ## The failure code -/

/-- What the handler reads off the text of a `ValueError`. -/
def failureCodeOf (error : String) : FailureCode :=
  if ':' ∈ error.toList then
    (FailureCode.ofText? (Agent.Governance.strip
      (String.ofList (error.toList.takeWhile (· ≠ ':'))))).getD .conversionParserError
  else .conversionParserError

/-- Steps 3 and 3b of the handler: the document, or the failure code of its rejection. -/
def preflight (p : Platform) (obj : QuarantinedObject) (content : Bytes) :
    Except FailureCode ValidatedDocument :=
  match validateQuarantinedObject p obj content with
  | .error e => .error (failureCodeOf e.text)
  | .ok document =>
    if document.detectedMediaType ∈ officeMimeTypes ∧
        (preflightOfficeArchive p content).toOption = none then .error .archiveLimitExceeded
    else .ok document

end JavisSaas.Cosa.KnowledgeIngestion
