import Sctp.Proofs.Isolation

/-! Where the heads of chunks and of stored records stand in a packet. Every chunk has a head of four octets at its own
place, and every error cause and every unrecognized parameter that has been read has one inside the body of its chunk,
at whatever length the records around it declare. All these heads stand one behind the other (`Row`), so a packet never
holds more chunks and records than a quarter of its octets. The main statement is `Packet.heads_apart`. -/
namespace Sctp

/-- The four octets that a chunk or a record starts with, and their place. -/
structure Head where
  place : Nat
  octets : Bytes

/-- Heads that stand one behind the other in some octets, from the first of two places up to the second. -/
inductive Row (octets : Bytes) : Nat → Nat → List Head → Prop
  | nothing (low high : Nat) : Row octets low high []
  | head (low high : Nat) (head : Head) (later : List Head) (behind : low ≤ head.place)
    (inside : head.place + 4 ≤ high) (shows : slice octets head.place (head.place + 4) = head.octets)
    (others : Row octets (head.place + 4) high later) : Row octets low high (head :: later)

namespace Row
variable {octets : Bytes} {low high : Nat} {heads : List Head}

theorem mono {low' high' : Nat} (row : Row octets low high heads) (below : low' ≤ low) (above : high ≤ high') :
    Row octets low' high' heads := by
  induction row generalizing low' with
  | nothing => exact .nothing low' high'
  | head low high head later behind inside shows others ih =>
    exact .head low' high' head later (Nat.le_trans below behind) (Nat.le_trans inside above) shows
      (ih (Nat.le_refl _) above)

theorem append {middle next : Nat} {later : List Head} (row : Row octets low middle heads)
    (row' : Row octets next high later) (start : low ≤ next) (apart : middle ≤ next) (inside : middle ≤ high) :
    Row octets low high (heads ++ later) := by
  induction row with
  | nothing low middle => exact row'.mono start (Nat.le_refl _)
  | head low middle head rest behind within shows others ih =>
    exact .head low high head (rest ++ later) behind (Nat.le_trans within inside) shows
      (ih (Nat.le_trans within apart) apart inside)

theorem length_le (row : Row octets low high heads) : 4 * heads.length ≤ high - low := by
  induction row with
  | nothing => exact Nat.zero_le _
  | head low high head later behind inside shows others ih =>
    rw [List.length_cons]
    omega

theorem within (row : Row octets low high heads) (head : Head) (member : head ∈ heads) :
    low ≤ head.place ∧ head.place + 4 ≤ high ∧ slice octets head.place (head.place + 4) = head.octets := by
  induction row with
  | nothing => cases member
  | head low high first later behind inside shows others ih =>
    rcases List.mem_cons.mp member with rfl | rest
    · exact ⟨behind,inside,shows⟩
    · obtain ⟨there,still,shown⟩ := ih rest
      exact ⟨by omega,still,shown⟩

theorem pairwise (row : Row octets low high heads) :
    heads.Pairwise fun first second => first.place + 4 ≤ second.place := by
  induction row with
  | nothing => exact .nil
  | head low high first later behind inside shows others ih =>
    exact .cons (fun second member => (others.within second member).1) ih

end Row

namespace Param

def head (param : Param) : Bytes := octets16 param.code ++ octets16 param.declared

/-- The heads of records one behind the other, the first of them at the place. -/
def heads (place : Nat) : List Param → List Head
  | [] => []
  | param :: later => ⟨place,param.head⟩ :: heads (place + param.wireLength) later

/-- The heads of the records in those that wrap unrecognized parameters. -/
def wrappedHeads (place : Nat) : List Param → List Head
  | [] => []
  | param :: later => heads (place + 4) param.wrapped ++ wrappedHeads (place + param.wireLength) later

theorem map_heads (place : Nat) (params : List Param) : (heads place params).map Head.octets = params.map head := by
  induction params generalizing place with
  | nil => rfl
  | cons param later ih => rw [heads,List.map_cons,List.map_cons,ih]

theorem map_wrappedHeads (place : Nat) (params : List Param) :
    (wrappedHeads place params).map Head.octets = (params.flatMap wrapped).map head := by
  induction params generalizing place with
  | nil => rfl
  | cons param later ih =>
    rw [wrappedHeads,List.map_append,map_heads,ih,List.flatMap_cons,List.map_append]

theorem ReadAt.shows {area : Bytes} {param : Param} (read : ReadAt area 0 param) : slice area 0 4 = param.head := by
  rw [head,← read.code,← read.declared]
  simp only [slice,List.drop_zero,Nat.zero_add]
  exact (List.take_append_drop 2 (area.take 4)).symm.trans (by rw [List.take_take]; rfl)

section Areas
variable {octets area : Bytes} {start stop : Nat}

theorem ReadAt.head_part {param : Param} (read : ReadAt area 0 param) (part : slice octets start stop = area)
    (held : stop ≤ octets.length) : start + 4 ≤ stop ∧ slice octets start (start + 4) = param.head := by
  have inside := read.inside
  rw [← part,length_slice] at inside
  have room : start + 4 ≤ stop := by omega
  refine ⟨room,?_⟩
  rw [← read.shows,← part,slice_slice room]
  rfl

theorem Walked.row {params : List Param} (walk : Walked area params) (part : slice octets start stop = area)
    (held : stop ≤ octets.length) : Row octets start stop (heads start params) := by
  induction walk generalizing start with
  | few => exact .nothing start stop
  | malformed area param read short =>
    obtain ⟨room,shows⟩ := read.head_part part held
    exact .head start stop _ [] (Nat.le_refl _) room shows (.nothing _ _)
  | record area param later read covers rest ih =>
    obtain ⟨room,shows⟩ := read.head_part part held
    have padded : param.length ≤ param.wireLength := le_align4 _
    have behind : start + 4 ≤ start + param.wireLength := by omega
    have left : slice octets (start + param.wireLength) stop = area.drop param.wireLength := by
      rw [← part,drop_slice]
    have others := ih left
    exact .head start stop _ _ (Nat.le_refl _) room shows (others.mono behind (Nat.le_refl _))

/-- What a record wraps lies behind its head, as far as the record goes and the area holds it. -/
theorem ReadAt.wrapped_row {param : Param} (read : ReadAt area 0 param) (part : slice octets start stop = area)
    (held : stop ≤ octets.length) :
    Row octets (start + 4) (start + min param.length (stop - start)) (heads (start + 4) param.wrapped) := by
  rw [wrapped]
  split
  · have inside := read.inside
    have value := read.value
    have size : area.length = stop - start := by
      rw [← part,length_slice,Nat.min_eq_left held]
    rw [size] at inside value
    apply (walked param.value).row
    · rw [← value,← part,slice_slice (by omega),Nat.zero_add,Nat.zero_add]
    · omega
  · exact .nothing _ _

theorem Walked.wrapped_row {params : List Param} (walk : Walked area params)
    (part : slice octets start stop = area) (held : stop ≤ octets.length) :
    Row octets start stop (wrappedHeads start params) := by
  induction walk generalizing start with
  | few => exact .nothing start stop
  | malformed area param read short =>
    obtain ⟨room,-⟩ := read.head_part part held
    rw [wrappedHeads,wrappedHeads,List.append_nil]
    exact (read.wrapped_row part held).mono (by omega) (by omega)
  | record area param later read covers rest ih =>
    obtain ⟨room,-⟩ := read.head_part part held
    have padded : param.length ≤ param.wireLength := le_align4 _
    have left : slice octets (start + param.wireLength) stop = area.drop param.wireLength := by
      rw [← part,drop_slice]
    have others := ih left
    have wrapped := (read.wrapped_row part held).mono (Nat.le_add_right start 4) (Nat.le_refl _)
    exact wrapped.append others (by omega) (by omega) (by omega)

end Areas

end Param

namespace Content

/-- The causes, or the unrecognized parameters, that have been read. -/
def stored : Content → List Param
  | initAck _ (some found) => found.unrecognized
  | abort (some causes) | error (some causes) => causes
  | _ => []

/-- The heads of the stored records of a chunk whose body starts at the place. -/
def heads (place : Nat) : Content → List Head
  | initAck fields (some _) => Param.wrappedHeads (place + 16) (Param.walk fields.params)
  | abort (some causes) | error (some causes) => Param.heads place causes
  | _ => []

/-- What a chunk with this body holds once its parameters are read: stored records only if they are read off the body
itself, from its start or from behind the fixed fields. -/
inductive Stores (body : Bytes) : Content → Prop
  | unrecognized (fields : InitFields) (area : fields.params = body.drop 16) :
    Stores body (initAck fields (some (.ofParams (Param.walk fields.params))))
  | abort : Stores body (abort (some (Param.walk body)))
  | error : Stores body (error (some (Param.walk body)))
  | nothing (content : Content) (nothing : content.stored = []) (headless : ∀ place, content.heads place = []) :
    Stores body content

theorem stores_initAck (body : Bytes) :
    Stores body (((InitFields.ofBody? body).elim generic (initAck · none)).parse body) := by
  unfold InitFields.ofBody?
  split
  · exact .unrecognized _ rfl
  · exact .nothing generic rfl fun _ => rfl

theorem stores_parse (raw : RawChunk) : Stores raw.body ((ofRaw raw).parse raw.body) := by
  -- one case for each type that has a meaning, in their order; only INIT ACK, ABORT and ERROR store records
  unfold ofRaw
  split
  case h_1 => cases DataFields.ofBody? raw.body <;> exact .nothing _ rfl fun _ => rfl
  case h_2 => cases InitFields.ofBody? raw.body <;> exact .nothing _ rfl fun _ => rfl
  case h_3 => exact stores_initAck raw.body
  case h_4 => cases SackFields.ofBody? raw.body <;> exact .nothing _ rfl fun _ => rfl
  case h_7 => exact .abort
  case h_8 => cases shutdownTsn? raw.body <;> exact .nothing _ rfl fun _ => rfl
  case h_10 => exact .error
  all_goals exact .nothing _ rfl fun _ => rfl

theorem Stores.map_heads {body : Bytes} {content : Content} (stores : Stores body content) (place : Nat) :
    (content.heads place).map Head.octets = content.stored.map Param.head := by
  cases stores with
  | unrecognized fields area =>
    rw [heads,stored,Param.map_wrappedHeads,InitAckParams.ofParams_eq]
  | abort | error => exact Param.map_heads place _
  | nothing content nothing headless => rw [nothing,headless,List.map_nil,List.map_nil]

theorem Stores.row {octets body : Bytes} {content : Content} {start stop : Nat} (stores : Stores body content)
    (part : slice octets start stop = body) (held : stop ≤ octets.length) :
    Row octets start stop (content.heads start) := by
  cases stores with
  | unrecognized fields area =>
    have params : slice octets (start + 16) stop = fields.params := by rw [area,← part,drop_slice]
    exact ((Param.walked fields.params).wrapped_row params held).mono (Nat.le_add_right start 16) (Nat.le_refl stop)
  | abort | error => exact (Param.walked body).row part held
  | nothing content nothing headless =>
    rw [headless]
    exact .nothing start stop

end Content

namespace Chunk

/-- The head of a chunk at the place, and those of its stored records. -/
def heads (place : Nat) (chunk : Chunk) : List Head :=
  ⟨place,chunk.raw.head⟩ :: chunk.content.heads (place + 4)

/-- The chunk stands at the place, and the heads of its stored records within its body. -/
structure StandsAt (octets : Bytes) (place : Nat) (chunk : Chunk) : Prop where
  head : slice octets place (place + 4) = chunk.raw.head
  body : slice octets (place + 4) (place + 4 + chunk.raw.body.length) = chunk.raw.body
  held : place + 4 + chunk.raw.body.length ≤ octets.length
  declared : 4 + chunk.raw.body.length ≤ chunk.raw.length
  row : Row octets (place + 4) (place + 4 + chunk.raw.body.length) (chunk.content.heads (place + 4))
  stored : (chunk.content.heads (place + 4)).map Head.octets = chunk.content.stored.map Param.head

theorem StandsAt.row_heads {octets : Bytes} {place : Nat} {chunk : Chunk} (stands : StandsAt octets place chunk) :
    Row octets place (place + 4 + chunk.raw.body.length) (chunk.heads place) :=
  .head place _ ⟨place,chunk.raw.head⟩ _ (Nat.le_refl place) (Nat.le_add_right _ _) stands.head stands.row

theorem StandsAt.length_heads {octets : Bytes} {place : Nat} {chunk : Chunk} (stands : StandsAt octets place chunk) :
    (chunk.heads place).length = 1 + chunk.content.stored.length := by
  have same := congrArg List.length stands.stored
  rw [List.length_map,List.length_map] at same
  rw [heads,List.length_cons,same,Nat.add_comm]

end Chunk

theorem Area.ReadAt.standsAt {octets area : Bytes} {start place : Nat} {raw : RawChunk}
    (read : Area.ReadAt area place raw) (part : slice octets start octets.length = area) :
    Chunk.StandsAt octets (start + place) (Chunk.ofRaw raw).parse := by
  have inside := read.inside
  have size : area.length = octets.length - start := by
    rw [← part,length_slice,Nat.min_self]
  have covers := read.covers
  have lengths := congrArg List.length read.body
  rw [length_slice,Nat.min_eq_left (Nat.min_le_right _ _)] at lengths
  have stop : min (place + raw.length) area.length = place + 4 + raw.body.length := by omega
  have held : start + place + 4 + raw.body.length ≤ octets.length := by omega
  have head : slice octets (start + place) (start + place + 4) = raw.head := by
    rw [← read.head,← part,slice_slice (by omega),Nat.add_assoc]
  have body : slice octets (start + place + 4) (start + place + 4 + raw.body.length) = raw.body := by
    conv_rhs => rw [← read.body,stop,← part,slice_slice (by omega)]
    simp only [Nat.add_assoc]
  have declared : 4 + raw.body.length ≤ raw.length := by omega
  exact ⟨head,body,held,declared,(Content.stores_parse raw).row body held,(Content.stores_parse raw).map_heads _⟩

namespace Chunk

/-- The heads of chunks one behind the other, the first of them at the place, and of their stored records. -/
def headsFrom (place : Nat) (chunks : List Chunk) : List Head :=
  (chunks.mapIdx fun i chunk => chunk.heads (place + Area.chunkOffset (chunks.map raw) i)).flatten

theorem headsFrom_cons (place : Nat) (chunk : Chunk) (later : List Chunk) :
    headsFrom place (chunk :: later) = chunk.heads place ++ headsFrom (place + chunk.raw.wireLength) later := by
  simp [headsFrom,List.mapIdx_cons,Area.chunkOffset_zero,Area.chunkOffset_cons,Nat.add_assoc]

/-- Every chunk stands where those before it end, the first of them at the place. -/
def AllStand (octets : Bytes) (place : Nat) (chunks : List Chunk) : Prop :=
  ∀ i (inside : i < chunks.length), StandsAt octets (place + Area.chunkOffset (chunks.map raw) i) chunks[i]

section Chunks
variable {octets : Bytes} {place : Nat}

theorem AllStand.of_cons {chunk : Chunk} {later : List Chunk} (stand : AllStand octets place (chunk :: later)) :
    AllStand octets (place + chunk.raw.wireLength) later := by
  intro i inside
  have stands := stand (i + 1) (by simpa using inside)
  rwa [List.map_cons,Area.chunkOffset_cons,← Nat.add_assoc] at stands

theorem AllStand.row {chunks : List Chunk} (stand : AllStand octets place chunks) :
    Row octets place octets.length (headsFrom place chunks) := by
  induction chunks generalizing place with
  | nil => exact .nothing place octets.length
  | cons chunk later ih =>
    have first : StandsAt octets place chunk := stand 0 (Nat.succ_pos _)
    have declared := first.declared
    have padded : chunk.raw.length ≤ chunk.raw.wireLength := le_align4 _
    rw [headsFrom_cons]
    exact first.row_heads.append (ih stand.of_cons) (Nat.le_add_right _ _) (by omega) first.held

theorem AllStand.length_headsFrom {chunks : List Chunk} (stand : AllStand octets place chunks) :
    (headsFrom place chunks).length = chunks.length + (chunks.map (·.content.stored.length)).sum := by
  induction chunks generalizing place with
  | nil => rfl
  | cons chunk later ih =>
    have first : StandsAt octets place chunk := stand 0 (Nat.succ_pos _)
    rw [headsFrom_cons,List.length_append,first.length_heads,ih stand.of_cons]
    simp only [List.length_cons,List.map_cons,List.sum_cons]
    omega

theorem AllStand.count {chunks : List Chunk} (stand : AllStand octets place chunks) :
    chunks.length + (chunks.map (·.content.stored.length)).sum ≤ (octets.length - place) / 4 := by
  have few := stand.row.length_le
  rw [stand.length_headsFrom] at few
  omega

end Chunks

end Chunk

namespace Area

/-- The chunks of an area once their parameters are read. -/
def parsedChunks (area : Bytes) : List Chunk := (walk area).1.map fun raw => (Chunk.ofRaw raw).parse

theorem allStand_parsedChunks {octets area : Bytes} {start : Nat} (part : slice octets start octets.length = area) :
    Chunk.AllStand octets start (parsedChunks area) := by
  have raws : (parsedChunks area).map Chunk.raw = (walk area).1 := by
    simp [parsedChunks,Function.comp_def,Chunk.parse,Chunk.ofRaw]
  intro i inside
  have found : i < (walk area).1.length := by simpa [parsedChunks] using inside
  have read : ReadAt area (chunkOffset (walk area).1 i) (walk area).1[i] := ((walked 0 0 area).readAt i found).2
  rw [raws]
  simpa [parsedChunks] using read.standsAt part

theorem length_walk_le (area : Bytes) : (walk area).1.length ≤ area.length / 4 := by
  have count := (allStand_parsedChunks (slice_whole area)).count
  rw [parsedChunks,List.length_map,Nat.sub_zero] at count
  exact Nat.le_trans (Nat.le_add_right _ _) count

end Area

theorem Param.length_walk_le (area : Bytes) : (walk area).length ≤ area.length / 4 := by
  have few := ((walked area).row (slice_whole area) (Nat.le_refl _)).length_le
  have same := congrArg List.length (map_heads 0 (walk area))
  rw [List.length_map,List.length_map] at same
  omega

/-- A walk that yields this many items, one at each call, and then nothing more. -/
def Yields {Item : Type} (call : Nat → Option Item) (items : Nat) : Prop :=
  ∀ calls, (call calls).isSome = true ↔ calls < items

theorem yields_of_getElem? {Item : Type} {call : Nat → Option Item} {items : List Item}
    (same : ∀ calls, call calls = items[calls]?) : Yields call items.length := by
  intro calls
  simp [same]

namespace Packet

/-- The heads of the chunks and of all stored records of a packet. -/
def heads (packet : Packet) : List Head := Chunk.headsFrom Header.size packet.chunks

/-- Every chunk and every stored record of a packet has four octets of its own for a head, and so there are no more
of them than there is room behind the header. -/
structure Apart (octets : Bytes) (packet : Packet) : Prop where
  stand : Chunk.AllStand octets Header.size packet.chunks
  shown : ∀ head ∈ packet.heads, slice octets head.place (head.place + 4) = head.octets
  inside : ∀ head ∈ packet.heads, Header.size ≤ head.place ∧ head.place + 4 ≤ octets.length
  disjoint : packet.heads.Pairwise fun first second => first.place + 4 ≤ second.place
  count : packet.chunks.length + (packet.chunks.map (·.content.stored.length)).sum ≤
    (octets.length - Header.size) / 4

theorem apart_of_allStand {octets : Bytes} {packet : Packet}
    (stand : Chunk.AllStand octets Header.size packet.chunks) : Apart octets packet where
  stand := stand
  shown head member := (stand.row.within head member).2.2
  inside head member := ⟨(stand.row.within head member).1,(stand.row.within head member).2.1⟩
  disjoint := stand.row.pairwise
  count := stand.count

theorem apart_parse (header : Header) (area : Bytes) :
    Apart (header.octets ++ area) (ofParts header area).parse := by
  have chunks : (ofParts header area).parse.chunks = Area.parsedChunks area := by
    simp [parse,ofParts,Area.parsedChunks]
  apply apart_of_allStand
  rw [chunks]
  apply Area.allStand_parsedChunks
  rw [slice,List.take_length]
  rfl

theorem heads_apart :
    (∀ octets : Bytes, Header.size ≤ octets.length →
      ∃ packet, decode octets = .ok packet ∧ Apart octets packet.parse) ∧
    ∀ area : Bytes,
      (∃ chunks ≤ area.length / 4, Yields (fun calls => (Area.Cursor.after calls (.start area)).next.1) chunks) ∧
      ∃ params ≤ area.length / 4, Yields (fun calls => (Param.Cursor.after calls (.start area)).next.1) params := by
  refine ⟨?_,?_⟩
  · intro octets whole
    obtain ⟨header,area,rfl,decoded⟩ := exists_parts whole
    exact ⟨_,decoded,apart_parse header area⟩
  · intro area
    refine ⟨⟨_,Area.length_walk_le area,?_⟩,⟨_,Param.length_walk_le area,?_⟩⟩
    · exact yields_of_getElem? fun calls => (Area.Cursor.next_after rfl rfl calls).1
    · exact yields_of_getElem? fun calls => (Param.Cursor.next_after area calls).1

/-- An INIT ACK chunk that wraps three parameters, the last of them with a length below its own head, and an ABORT
chunk of which a cause runs past the end of the packet. -/
def wrapperAndCause : Bytes :=
  [0x0B, 0x59, 0x0B, 0x5A, 0, 0, 0, 7, 0, 0, 0, 0,
    2, 0, 0, 36, 0, 0, 0, 1, 0, 0, 0x80, 0, 0, 1, 0, 1, 0, 0, 0, 1,
    0, 8, 0, 16, 0xC0, 0, 0, 4, 0x80, 8, 0, 4, 0xC0, 1, 0, 3,
    6, 0, 0, 16, 0, 12, 0, 4, 0, 13, 0xFF, 0xFF, 1, 2]

theorem heads_apart_wrapperAndCause : Header.size ≤ wrapperAndCause.length ∧
    ∃ packet, decode wrapperAndCause = .ok packet ∧ Apart wrapperAndCause packet.parse ∧
      packet.parse.heads.map Head.place = [12,36,40,44,48,52,56] := by
  obtain ⟨packet,decoded,apart⟩ := heads_apart.1 wrapperAndCause (by decide)
  have places : (decode wrapperAndCause).toOption.map (fun packet => packet.parse.heads.map Head.place) =
      some [12,36,40,44,48,52,56] := by
    decide +kernel
  rw [decoded] at places
  exact ⟨by decide,packet,decoded,apart,Option.some.inj places⟩

end Packet

end Sctp
