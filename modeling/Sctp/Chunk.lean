import Sctp.Chunk.Area
import Sctp.Chunk.Fields
import Sctp.Chunk.Announced

/-! Decoded chunks. The fixed fields of a chunk are read with the packet; parameters and error causes
are read when asked for, and until then the chunk shows none. `Content.parse` reads them, once. -/
namespace Sctp

inductive ChunkKind
  | data
  | init
  | initAck
  | sack
  | heartbeat
  | heartbeatAck
  | abort
  | shutdown
  | shutdownAck
  | error
  | cookieEcho
  | cookieAck
  | shutdownComplete
  | generic
  deriving DecidableEq, Repr

namespace ChunkKind

def all : List ChunkKind :=
  [data, init, initAck, sack, heartbeat, heartbeatAck, abort, shutdown, shutdownAck, error, cookieEcho,
    cookieAck, shutdownComplete, generic]

theorem mem_all (kind : ChunkKind) : kind ∈ all := by cases kind <;> decide

end ChunkKind

/-- What a chunk holds besides its raw form. An `Option` around parameters or causes is `none` until
they have been read. -/
inductive Content
  | data (fields : DataFields)
  | init (fields : InitFields) (found : Option InitParams)
  | initAck (fields : InitFields) (found : Option InitAckParams)
  | sack (fields : SackFields)
  | heartbeat (info : Option (Option Bytes))
  | heartbeatAck (info : Option (Option Bytes))
  | abort (causes : Option (List Param))
  | shutdown (cumulativeTsn : UInt32)
  | shutdownAck
  | error (causes : Option (List Param))
  | cookieEcho
  | cookieAck
  | shutdownComplete
  | generic
  deriving DecidableEq

namespace Content

def kind : Content → ChunkKind
  | data _ => .data
  | init _ _ => .init
  | initAck _ _ => .initAck
  | sack _ => .sack
  | heartbeat _ => .heartbeat
  | heartbeatAck _ => .heartbeatAck
  | abort _ => .abort
  | shutdown _ => .shutdown
  | shutdownAck => .shutdownAck
  | error _ => .error
  | cookieEcho => .cookieEcho
  | cookieAck => .cookieAck
  | shutdownComplete => .shutdownComplete
  | generic => .generic

/-- The content of a chunk before anything optional is read. Types without a meaning here are generic,
and so are chunks that are too short for their fixed fields. -/
def ofRaw (raw : RawChunk) : Content :=
  match raw.typeCode with
  | 0 => (DataFields.ofBody? raw.body).elim generic data
  | 1 => (InitFields.ofBody? raw.body).elim generic (init · none)
  | 2 => (InitFields.ofBody? raw.body).elim generic (initAck · none)
  | 3 => (SackFields.ofBody? raw.body).elim generic sack
  | 4 => heartbeat none
  | 5 => heartbeatAck none
  | 6 => abort none
  | 7 => (shutdownTsn? raw.body).elim generic shutdown
  | 8 => shutdownAck
  | 9 => error none
  | 10 => cookieEcho
  | 11 => cookieAck
  | 14 => shutdownComplete
  | _ => generic

def paramArea? (body : Bytes) : Content → Option Bytes
  | init fields _ => some fields.params
  | initAck fields _ => some fields.params
  | heartbeat _ => some body
  | heartbeatAck _ => some body
  | abort _ => some body
  | error _ => some body
  | _ => none

/-- Reads what is still unread; what has been read stays as it is. -/
def parse (body : Bytes) : Content → Content
  | init fields none => init fields (some (.ofParams (Param.walk fields.params)))
  | initAck fields none => initAck fields (some (.ofParams (Param.walk fields.params)))
  | heartbeat none => heartbeat (some (heartbeatInfo (Param.walk body)))
  | heartbeatAck none => heartbeatAck (some (heartbeatInfo (Param.walk body)))
  | abort none => abort (some (Param.walk body))
  | error none => error (some (Param.walk body))
  | content => content

def isParsed : Content → Bool
  | init _ found => found.isSome
  | initAck _ found => found.isSome
  | heartbeat info => info.isSome
  | heartbeatAck info => info.isSome
  | abort causes => causes.isSome
  | error causes => causes.isSome
  | _ => true

theorem isParsed_parse (body : Bytes) (content : Content) : (content.parse body).isParsed = true := by
  cases content with
  | init _ found | initAck _ found | heartbeat found | heartbeatAck found | abort found | error found =>
    cases found <;> rfl
  | _ => rfl

theorem parse_of_isParsed (body : Bytes) (content : Content) (parsed : content.isParsed = true) :
    content.parse body = content := by
  cases content with
  | init _ found | initAck _ found | heartbeat found | heartbeatAck found | abort found | error found =>
    cases found with
    | none => cases parsed
    | some _ => rfl
  | _ => rfl

end Content

structure Chunk where
  raw : RawChunk
  content : Content
  deriving DecidableEq

namespace Chunk

def ofRaw (raw : RawChunk) : Chunk := ⟨raw, .ofRaw raw⟩

def kind (chunk : Chunk) : ChunkKind := chunk.content.kind

def parse (chunk : Chunk) : Chunk := { chunk with content := chunk.content.parse chunk.raw.body }

def isParsed (chunk : Chunk) : Bool := chunk.content.isParsed

/-- The parameters or causes of the chunk, whether they have been read before or not; `none` for a kind
that has neither. -/
def params? (chunk : Chunk) : Option (List Param) :=
  (chunk.content.paramArea? chunk.raw.body).map Param.walk

theorem parse_parse (chunk : Chunk) : chunk.parse.parse = chunk.parse := by
  unfold parse
  rw [Content.parse_of_isParsed _ _ (Content.isParsed_parse _ _)]

/-- Octets that the body of this type needs at least for its fixed fields. -/
def fixedLength (typeCode : UInt8) : Nat :=
  match typeCode with
  | 0 | 3 => 12
  | 1 | 2 => 16
  | 7 => 4
  | _ => 0

def isStunted (chunk : Chunk) : Bool := chunk.raw.body.length < fixedLength chunk.raw.typeCode

def reflectedText (raw : RawChunk) : String := if raw.hasReflectedTag then " T" else ""

def causesText : Option (List Param) → String
  | none | some [] => ""
  | some causes => " causes=" ++ ",".intercalate (causes.map Param.causeText)

def lengthText (label : String) : Option Bytes → String
  | none => ""
  | some octets => s!" {label}={octets.length}"

def text (chunk : Chunk) : String :=
  match chunk.content with
  | .data fields => fields.text chunk.raw
  | .init fields _ => "init " ++ fields.text
  | .initAck fields found => "init-ack " ++ fields.text ++ lengthText "cookie" (found.bind (·.stateCookie))
  | .sack fields => fields.text
  | .heartbeat info => chunk.raw.headline ++ lengthText "info" info.join
  | .heartbeatAck info => chunk.raw.headline ++ lengthText "info" info.join
  | .abort causes => chunk.raw.headline ++ reflectedText chunk.raw ++ causesText causes
  | .error causes => chunk.raw.headline ++ reflectedText chunk.raw ++ causesText causes
  | .shutdown tsn => s!"shutdown cum_tsn={tsn.toNat}"
  | .cookieEcho => s!"cookie-echo cookie={chunk.raw.body.length}"
  | .shutdownComplete => "shutdown-complete" ++ reflectedText chunk.raw
  | .shutdownAck | .cookieAck | .generic => chunk.raw.text

end Chunk

end Sctp
