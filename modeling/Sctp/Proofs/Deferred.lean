import Sctp.Packet

/-! Reading parameters late changes nothing else. Whatever is done to a decoded packet, in whatever order
and however often, each chunk is either as decoded or parsed once, and which of the two depends only on
whether some operation parsed it. The main statement is `settles`. -/
namespace Sctp

/-- The kinds of chunk whose parameters or causes wait until they are asked for. -/
def ChunkKind.isDeferred : ChunkKind → Bool
  | init | initAck | heartbeat | heartbeatAck | abort | error => true
  | _ => false

namespace Content

theorem kind_parse (body : Bytes) (content : Content) : (content.parse body).kind = content.kind := by
  cases content with
  | init _ found | initAck _ found | heartbeat found | heartbeatAck found | abort found | error found =>
    cases found <;> rfl
  | _ => rfl

theorem paramArea?_parse (body : Bytes) (content : Content) :
    (content.parse body).paramArea? body = content.paramArea? body := by
  cases content with
  | init _ found | initAck _ found | heartbeat found | heartbeatAck found | abort found | error found =>
    cases found <;> rfl
  | _ => rfl

theorem isParsed_ofRaw (raw : RawChunk) : (ofRaw raw).isParsed = !(ofRaw raw).kind.isDeferred := by
  unfold ofRaw
  split
  case h_1 => cases DataFields.ofBody? raw.body <;> rfl
  case h_2 | h_3 => cases InitFields.ofBody? raw.body <;> rfl
  case h_4 => cases SackFields.ofBody? raw.body <;> rfl
  case h_8 => cases shutdownTsn? raw.body <;> rfl
  all_goals rfl

end Content

namespace Chunk

theorem kind_parse (chunk : Chunk) : chunk.parse.kind = chunk.kind := Content.kind_parse _ _

theorem params?_parse (chunk : Chunk) : chunk.parse.params? = chunk.params? :=
  congrArg (Option.map Param.walk) (Content.paramArea?_parse _ _)

theorem isParsed_parse (chunk : Chunk) : chunk.parse.isParsed = true := Content.isParsed_parse _ _

theorem isParsed_ofRaw (raw : RawChunk) : (ofRaw raw).isParsed = !(ofRaw raw).kind.isDeferred :=
  Content.isParsed_ofRaw raw

end Chunk

namespace Packet

/-- What can be done to a decoded packet. -/
inductive Operation
  | parseChunk (i : Nat)
  | parse
  | render
  /-- Something is read off the packet: its header or status, a text, a chunk or its parameters. -/
  | look

def Operation.parses (i : Nat) : Operation → Bool
  | parseChunk j => i == j
  | parse | render => true
  | look => false

def step (packet : Packet) : Operation → Packet
  | .parseChunk i => packet.parseChunk i
  | .parse => packet.parse
  | .render => packet.render.2
  | .look => packet

def run (packet : Packet) (operations : List Operation) : Packet := operations.foldl step packet

def parsedAt (packet : Packet) (chosen : Nat → Bool) : Packet :=
  { packet with chunks := packet.chunks.mapIdx fun i chunk => if chosen i then chunk.parse else chunk }

theorem parsedAt_none (packet : Packet) : packet.parsedAt (fun _ => false) = packet := by
  have same : packet.chunks.mapIdx (fun _ chunk => chunk) = packet.chunks := by
    rw [List.mapIdx_eq_iff]
    intro i
    rw [Option.map_id']
  simp only [parsedAt,Bool.false_eq_true,if_false,same]

theorem getElem?_parsedAt (packet : Packet) (chosen : Nat → Bool) (i : Nat) :
    (packet.parsedAt chosen).chunks[i]? =
      packet.chunks[i]?.map fun chunk => if chosen i then chunk.parse else chunk := by
  simp only [parsedAt,List.getElem?_mapIdx]

theorem parsedAt_congr {packet : Packet} {chosen other : Nat → Bool}
    (same : ∀ i, i < packet.chunks.length → chosen i = other i) :
    packet.parsedAt chosen = packet.parsedAt other := by
  have chunks : (packet.parsedAt chosen).chunks = (packet.parsedAt other).chunks := by
    apply List.ext_getElem?
    intro i
    rw [getElem?_parsedAt,getElem?_parsedAt]
    by_cases inside : i < packet.chunks.length
    · rw [same i inside]
    · rw [List.getElem?_eq_none (Nat.not_lt.mp inside)]
      rfl
  exact congrArg (fun chunks => { packet with chunks := chunks }) chunks

/-- One operation parses the chunks it is about, those that were parsed before stay so, and nothing else
changes. -/
theorem step_parsedAt (packet : Packet) (chosen : Nat → Bool) (operation : Operation) :
    (packet.parsedAt chosen).step operation =
      packet.parsedAt fun i => chosen i || operation.parses i := by
  have again : ∀ (chosen : Bool) (chunk : Chunk),
      (if chosen then chunk.parse else chunk).parse = chunk.parse := by
    intro chosen chunk
    cases chosen with
    | true => exact chunk.parse_parse
    | false => rfl
  have chunks : ((packet.parsedAt chosen).step operation).chunks =
      (packet.parsedAt fun i => chosen i || operation.parses i).chunks := by
    apply List.ext_getElem?
    intro i
    rw [getElem?_parsedAt]
    cases operation with
    | parseChunk j =>
      simp only [step,parseChunk,List.getElem?_modify,getElem?_parsedAt,Operation.parses]
      cases packet.chunks[i]? with
      | none => rfl
      | some chunk =>
        by_cases same : j = i
        · simp [same,again]
        · simp [same,Ne.symm same]
    | parse | render =>
      simp only [step,parse,render,List.getElem?_map,getElem?_parsedAt,Operation.parses,Bool.or_true]
      cases packet.chunks[i]? with
      | none => rfl
      | some chunk => exact congrArg some (again (chosen i) chunk)
    | look => simp only [step,getElem?_parsedAt,Operation.parses,Bool.or_false]
  cases operation <;> exact congrArg (fun chunks => { packet with chunks := chunks }) chunks

theorem run_parsedAt (packet : Packet) (chosen : Nat → Bool) (operations : List Operation) :
    (packet.parsedAt chosen).run operations =
      packet.parsedAt fun i => chosen i || operations.any (·.parses i) := by
  induction operations generalizing chosen with
  | nil => simp only [run,List.foldl_nil,List.any_nil,Bool.or_false]
  | cons operation rest ih =>
    have later := ih fun i => chosen i || operation.parses i
    rw [← step_parsedAt] at later
    simpa only [run,List.foldl_cons,List.any_cons,Bool.or_assoc] using later

theorem run_eq_parsedAt (packet : Packet) (operations : List Operation) :
    packet.run operations = packet.parsedAt fun i => operations.any (·.parses i) := by
  have run := run_parsedAt packet (fun _ => false) operations
  simpa only [parsedAt_none,Bool.false_or] using run

structure Alike (packet other : Packet) : Prop where
  header : other.header = packet.header
  area : other.area = packet.area
  status : other.status = packet.status
  count : other.chunks.length = packet.chunks.length
  raws : other.chunks.map Chunk.raw = packet.chunks.map Chunk.raw
  kinds : other.chunks.map Chunk.kind = packet.chunks.map Chunk.kind
  params : other.chunks.map Chunk.params? = packet.chunks.map Chunk.params?
  verifies : other.verifies = packet.verifies
  text : other.text = packet.text
  rendered : other.render.1 = packet.text

theorem map_parsedAt {Field : Type} (field : Chunk → Field) (kept : ∀ chunk, field chunk.parse = field chunk)
    (packet : Packet) (chosen : Nat → Bool) :
    (packet.parsedAt chosen).chunks.map field = packet.chunks.map field := by
  apply List.ext_getElem?
  intro i
  rw [List.getElem?_map,getElem?_parsedAt,List.getElem?_map,Option.map_map]
  congr 1
  funext chunk
  cases chosen i with
  | true => simp only [Function.comp_apply,if_true,kept]
  | false => simp only [Function.comp_apply,Bool.false_eq_true,if_false]

theorem text_parsedAt (packet : Packet) (chosen : Nat → Bool) :
    (packet.parsedAt chosen).text = packet.text := by
  have summaries := map_parsedAt chunkSummary (fun _ => rfl) packet chosen
  unfold text
  rw [summaries]
  rfl

theorem parse_eq_parsedAt (packet : Packet) : packet.parse = packet.parsedAt fun _ => true := by
  have run := run_eq_parsedAt packet [.parse]
  exact run

theorem alike_parsedAt (packet : Packet) (chosen : Nat → Bool) : Alike packet (packet.parsedAt chosen) where
  header := rfl
  area := rfl
  status := rfl
  count := by simp only [parsedAt,List.length_mapIdx]
  raws := map_parsedAt _ (fun _ => rfl) packet chosen
  kinds := map_parsedAt _ Chunk.kind_parse packet chosen
  params := map_parsedAt _ Chunk.params?_parse packet chosen
  verifies := rfl
  text := text_parsedAt packet chosen
  rendered := by
    rw [render,parse_eq_parsedAt,text_parsedAt,text_parsedAt]

/-- Where a run has taken a packet: some operation of the run parses a chunk, or none does; all the rest
is as it was, and other runs that parse the same chunks lead to the same packet. -/
structure Settles (packet : Packet) (operations : List Operation) : Prop where
  chunk : ∀ i, (packet.run operations).chunks[i]? =
    packet.chunks[i]?.map fun chunk => if operations.any (·.parses i) then chunk.parse else chunk
  parsed : ∀ i chunk, (packet.run operations).chunks[i]? = some chunk →
    (chunk.isParsed = true ↔ chunk.kind.isDeferred = false ∨ ∃ operation ∈ operations, operation.parses i = true)
  alike : Alike packet (packet.run operations)
  confluent : ∀ others : List Operation,
    (∀ i, i < packet.chunks.length → others.any (·.parses i) = operations.any (·.parses i)) →
      packet.run others = packet.run operations

theorem decode_of_size_le (octets : Bytes) (whole : Header.size ≤ octets.length) :
    ∃ header area, decode octets = .ok (ofParts header area) := by
  unfold decode
  match octets, whole with
  | _ :: _ :: _ :: _ :: _ :: _ :: _ :: _ :: _ :: _ :: _ :: _ :: area, _ => exact ⟨_,area,rfl⟩
  | [], whole | [_], whole | [_,_], whole | [_,_,_], whole | [_,_,_,_], whole | [_,_,_,_,_], whole
  | [_,_,_,_,_,_], whole | [_,_,_,_,_,_,_], whole | [_,_,_,_,_,_,_,_], whole
  | [_,_,_,_,_,_,_,_,_], whole | [_,_,_,_,_,_,_,_,_,_], whole
  | [_,_,_,_,_,_,_,_,_,_,_], whole => exact absurd whole (by simp [Header.size])

theorem settles (octets : Bytes) (whole : Header.size ≤ octets.length) :
    ∃ packet, decode octets = .ok packet ∧ ∀ operations, Settles packet operations := by
  obtain ⟨header,area,decoded⟩ := decode_of_size_le octets whole
  refine ⟨ofParts header area,decoded,?_⟩
  intro operations
  have reached := run_eq_parsedAt (ofParts header area) operations
  refine ⟨?_,?_,?_,?_⟩
  · intro i
    rw [reached,getElem?_parsedAt]
  · intro i chunk found
    rw [reached,getElem?_parsedAt,Option.map_eq_some_iff] at found
    obtain ⟨fresh,there,rfl⟩ := found
    obtain ⟨raw,-,rfl⟩ : ∃ raw ∈ (Area.walk area).1, Chunk.ofRaw raw = fresh :=
      List.mem_map.mp (List.mem_of_getElem? there)
    rw [← List.any_eq_true]
    split
    · rename_i parsed
      exact ⟨fun _ => Or.inr parsed,fun _ => Chunk.isParsed_parse _⟩
    · rename_i unparsed
      rw [Chunk.isParsed_ofRaw]
      simp only [unparsed,Bool.false_eq_true,or_false,Bool.not_eq_true']
  · rw [reached]
    exact alike_parsedAt _ _
  · intro others same
    rw [reached,run_eq_parsedAt]
    exact parsedAt_congr same

def initThenCookieAck : Bytes :=
  [0x0B, 0x59, 0x0B, 0x5A, 0, 0, 0, 0, 0x31, 0xB4, 0x5C, 0x1E,
    1, 0, 0, 28, 0, 0, 0, 7, 0, 1, 0, 0, 0, 10, 0, 10, 0, 0, 0, 3, 0, 5, 0, 8, 10, 0, 0, 1,
    11, 0, 0, 4]

theorem settles_initThenCookieAck :
    Header.size ≤ initThenCookieAck.length ∧
      ∃ packet, decode initThenCookieAck = .ok packet ∧ ∀ operations, Settles packet operations :=
  ⟨by decide,settles initThenCookieAck (by decide)⟩

end Packet

end Sctp
