import Sctp.Proofs.BitwiseSum
import Sctp.Proofs.PadOctets

/-! A chunk shows its own octets and no others. Whatever else two packets hold, a chunk that stands in both at
the same place with the same octets is the same chunk but for its index, before and after its parameters are read;
and no octet of a pad shows anywhere, be the pad behind a chunk, behind a parameter or cause, or within a wrapper.
The main statement is `reads_own_octets`. -/
namespace Sctp

namespace Area

theorem ReadAt.slice_eq {area : Bytes} {place : Nat} {raw : RawChunk} (read : ReadAt area place raw) :
    slice area place (place + raw.length) = raw.head ++ raw.body := by
  rw [← read.head,← read.body,slice_min,← take_slice _ _ read.covers,← drop_slice]
  exact (List.take_append_drop 4 _).symm

theorem ReadAt.eq_of_slice {area other : Bytes} {place : Nat} {raw raw' : RawChunk} (read : ReadAt area place raw)
    (read' : ReadAt other place raw')
    (same : slice other place (place + raw.length) = slice area place (place + raw.length)) :
    raw' = { raw with index := raw'.index } := by
  rw [read.slice_eq] at same
  have head : raw'.head = raw.head := by
    rw [← read'.head,← take_slice _ _ read.covers,same]
    rfl
  obtain ⟨lead,flags,declared⟩ : raw'.lead = raw.lead ∧ raw'.flags = raw.flags ∧
      octets16 raw'.declared = octets16 raw.declared := by simpa only [RawChunk.head,List.cons.injEq] using head
  have declared := octets16_injective declared
  have length : raw'.length = raw.length := congrArg UInt16.toNat declared
  have body : raw'.body = raw.body := by
    have shown := read'.slice_eq
    rw [length,same,head] at shown
    exact (List.append_cancel_left shown).symm
  obtain ⟨lead',flags',declared',body',index'⟩ := raw'
  subst lead flags declared body
  rfl

end Area

namespace Chunk

/-- Both show the same, before and after their parameters are read, and only their indices may differ. -/
structure SameButIndex (chunk other : Chunk) : Prop where
  raw : other.raw = { chunk.raw with index := other.raw.index }
  content : other.content = chunk.content
  parsed : other.parse.content = chunk.parse.content
  params : other.params? = chunk.params?
  text : other.text = chunk.text
  parsedText : other.parse.text = chunk.parse.text

theorem text_of_head {raw other : RawChunk} (lead : other.lead = raw.lead) (flags : other.flags = raw.flags)
    (declared : other.declared = raw.declared) (size : other.body.length = raw.body.length) (content : Content) :
    text ⟨other,content⟩ = text ⟨raw,content⟩ := by
  obtain ⟨lead',flags',declared',body',index'⟩ := other
  subst lead flags declared
  cases content with
  | cookieEcho => simp only [text,size]
  | _ => rfl

theorem sameButIndex_ofRaw {raw other : RawChunk} (same : other = { raw with index := other.index }) :
    SameButIndex (ofRaw raw) (ofRaw other) := by
  rw [same]
  exact ⟨rfl,rfl,rfl,rfl,text_of_head rfl rfl rfl rfl _,text_of_head rfl rfl rfl rfl _⟩

end Chunk

theorem InitAckParams.absorb_of_alike {wraps : Param → Prop} (wrappers : ∀ param, wraps param → param.code = 8)
    (found : InitAckParams) {param other : Param} (alike : Param.Alike wraps param other) :
    found.absorb param = found.absorb other := by
  by_cases wrapper : wraps param
  · have code := wrappers param wrapper
    have inner : Param.walk other.value = Param.walk param.value :=
      Param.walk_eq_of_agree (alike.value.mono fun _ there => there.2)
    -- a wrapper counts for no field but this one, and only by the records within
    simp [absorb,Addresses.absorb?,alike.code,code,inner]
  · rw [alike.eq wrapper]

theorem InitAckParams.ofParams_of_alike {wraps : Param → Prop} (wrappers : ∀ param, wraps param → param.code = 8)
    {params others : List Param} (alike : List.Forall₂ (Param.Alike wraps) params others) :
    ofParams others = ofParams params := by
  have same : ofParams params = ofParams others := by
    refine List.rel_foldl ?_ rfl alike
    rintro found _ rfl param other same
    exact absorb_of_alike wrappers found same
  exact same.symm

theorem InitFields.ofBody?_of_front {body other : Bytes} (front : other.take 16 = body.take 16) :
    other = body ∨ ∃ fields : InitFields, ofBody? body = some { fields with params := body.drop 16 } ∧
      ofBody? other = some { fields with params := other.drop 16 } := by
  by_cases whole : 16 ≤ body.length
  · right
    obtain ⟨fields,read⟩ := ofBody?_front body whole
    refine ⟨fields,?_,?_⟩
    · rw [← read,List.take_append_drop]
    · rw [← read,← front,List.take_append_drop]
  · left
    rw [List.take_of_length_le (Nat.le_of_not_le whole)] at front
    have few := congrArg List.length front
    rw [List.length_take] at few
    rwa [List.take_of_length_le (by omega)] at front

/-- No parameter or cause is read from this place of the body. -/
def Chunk.Idle (raw : RawChunk) : Nat → Prop :=
  Behind (fixedLength raw.typeCode)
    (Param.Idle (fun param => raw.typeCode = 2 ∧ param.code = 8)
      (Param.walk (raw.body.drop (fixedLength raw.typeCode))))

namespace Content

/-- The content without the octets that its parameters are read from. -/
def bare : Content → Content
  | init fields found => init { fields with params := [] } found
  | initAck fields found => initAck { fields with params := [] } found
  | content => content

theorem kind_bare (content : Content) : content.bare.kind = content.kind := by
  cases content <;> rfl

/-- Both hold the same, before their parameters are read and then, up to the octets of these. -/
def BareAlike (raw other : RawChunk) : Prop :=
  (ofRaw other).bare = (ofRaw raw).bare ∧
    ((ofRaw other).parse other.body).bare = ((ofRaw raw).parse raw.body).bare

theorem bareAlike_of_agree {raw other : RawChunk} (lead : other.lead = raw.lead)
    (lists : raw.typeCode ∈ [1,2,4,5,6,9]) (agree : AgreeOff (Chunk.Idle raw) raw.body other.body) :
    BareAlike raw other := by
  obtain ⟨front,behind⟩ := agree.behind
  have alike := Param.walk_of_agree _ _ behind
  have same_type : other.typeCode = raw.typeCode := congrArg (· % 64) lead
  have plain : raw.typeCode ≠ 2 → Param.walk (other.body.drop (Chunk.fixedLength raw.typeCode)) =
      Param.walk (raw.body.drop (Chunk.fixedLength raw.typeCode)) :=
    fun type => Param.Alike.eq_of_plain alike fun _ wrapper => type wrapper.1
  rw [BareAlike,ofRaw,ofRaw,same_type]
  simp only [List.mem_cons,List.not_mem_nil,or_false] at lists
  rcases lists with type | type | type | type | type | type
  all_goals
    rw [type] at front plain alike ⊢
  -- INIT and INIT ACK have fixed fields in front, or are too short for them and then the same
  · have params : Param.walk (other.body.drop 16) = Param.walk (raw.body.drop 16) := plain (by decide)
    rcases InitFields.ofBody?_of_front front with same | ⟨fields,read,read'⟩
    · rw [same]
      exact ⟨rfl,rfl⟩
    · simp [read,read',parse,bare,params]
  · have found : InitAckParams.ofParams (Param.walk (other.body.drop 16)) =
        InitAckParams.ofParams (Param.walk (raw.body.drop 16)) :=
      InitAckParams.ofParams_of_alike (fun _ wrapper => wrapper.2) alike
    rcases InitFields.ofBody?_of_front front with same | ⟨fields,read,read'⟩
    · rw [same]
      exact ⟨rfl,rfl⟩
    · simp [read,read',parse,bare,found]
  -- the other bodies are lists from their start on
  all_goals
    have params : Param.walk other.body = Param.walk raw.body := plain (by decide)
    simp [parse,bare,params]

end Content

namespace Chunk

/-- Both show the same but for the octets of pads. -/
structure ShownAlike (chunk other : Chunk) : Prop where
  kind : other.kind = chunk.kind
  content : other.content.bare = chunk.content.bare
  parsed : other.parse.content.bare = chunk.parse.content.bare
  text : other.text = chunk.text
  parsedText : other.parse.text = chunk.parse.text

theorem text_bare (raw : RawChunk) (content : Content) : text ⟨raw,content.bare⟩ = text ⟨raw,content⟩ := by
  cases content <;> rfl

theorem shownAlike_ofRaw {raw other : RawChunk} (lead : other.lead = raw.lead) (flags : other.flags = raw.flags)
    (declared : other.declared = raw.declared) (size : other.body.length = raw.body.length)
    (alike : Content.BareAlike raw other) : ShownAlike (ofRaw raw) (ofRaw other) := by
  have texts : ∀ content content' : Content, content'.bare = content.bare →
      text ⟨other,content'⟩ = text ⟨raw,content⟩ := by
    intro content content' same
    rw [← text_bare,same,text_of_head lead flags declared size,text_bare]
  have kinds := congrArg Content.kind alike.1
  rw [Content.kind_bare,Content.kind_bare] at kinds
  exact ⟨kinds,alike.1,alike.2,texts _ _ alike.1,texts _ _ alike.2⟩

end Chunk

namespace Packet

def chunkPlace (packet : Packet) (i : Nat) : Nat := Header.size + Area.chunkOffset (packet.chunks.map Chunk.raw) i

/-- Both packets show the same but for the octets of their chunk areas. -/
structure ReadAlike (packet other : Packet) : Prop where
  header : other.header = packet.header
  chunks : other.chunks = packet.chunks
  status : other.status = packet.status
  text : other.text = packet.text
  rendered : other.render.1 = packet.render.1

theorem readAlike_ofParts (header : Header) {area other : Bytes} (same : Area.walk other = Area.walk area) :
    ReadAlike (ofParts header area) (ofParts header other) := by
  have parts : ofParts header other = { ofParts header area with area := other } := by simp [ofParts,same]
  rw [parts]
  exact ⟨rfl,rfl,rfl,rfl,rfl⟩

theorem exists_parts {octets : Bytes} (whole : Header.size ≤ octets.length) :
    ∃ header area, octets = header.octets ++ area ∧ decode octets = .ok (ofParts header area) := by
  obtain ⟨header,area,decoded⟩ := decode_of_size_le octets whole
  exact ⟨header,area,(octets_of_decode decoded).symm,decoded⟩

section Parts
variable (header : Header) (area : Bytes)

theorem slice_parts (start stop : Nat) :
    slice (header.octets ++ area) (Header.size + start) (Header.size + stop) = slice area start stop :=
  slice_append header.octets area start stop

theorem raws_ofParts : (ofParts header area).chunks.map Chunk.raw = (Area.walk area).1 := by
  simp [ofParts,Function.comp_def,Chunk.ofRaw]

theorem readAt_ofParts (i : Nat) (inside : i < (ofParts header area).chunks.length) :
    ∃ raw, (ofParts header area).chunks[i] = Chunk.ofRaw raw ∧
      Area.ReadAt area (Area.chunkOffset ((ofParts header area).chunks.map Chunk.raw) i) raw := by
  have walked : i < (Area.walk area).1.length := by simpa [ofParts] using inside
  refine ⟨(Area.walk area).1[i],by simp [ofParts],?_⟩
  rw [raws_ofParts]
  exact ((Area.walked 0 0 area).readAt i walked).2

theorem slice_chunk (i : Nat) (inside : i < (ofParts header area).chunks.length) :
    slice (header.octets ++ area) ((ofParts header area).chunkPlace i)
        ((ofParts header area).chunkPlace i + (ofParts header area).chunks[i].raw.length) =
      (ofParts header area).chunks[i].raw.head ++ (ofParts header area).chunks[i].raw.body := by
  obtain ⟨raw,chunk,read⟩ := readAt_ofParts header area i inside
  rw [chunkPlace,Nat.add_assoc,slice_parts,chunk]
  exact read.slice_eq

end Parts

theorem sameButIndex_ofParts {header header' : Header} {area area' : Bytes} {i j : Nat}
    (inside : i < (ofParts header area).chunks.length) (inside' : j < (ofParts header' area').chunks.length)
    (there : chunkPlace (ofParts header' area') j = chunkPlace (ofParts header area) i)
    (same : slice (header'.octets ++ area') ((ofParts header area).chunkPlace i)
        ((ofParts header area).chunkPlace i + (ofParts header area).chunks[i].raw.length) =
      slice (header.octets ++ area) ((ofParts header area).chunkPlace i)
        ((ofParts header area).chunkPlace i + (ofParts header area).chunks[i].raw.length)) :
    Chunk.SameButIndex (ofParts header area).chunks[i] (ofParts header' area').chunks[j] := by
  obtain ⟨raw,chunk,read⟩ := readAt_ofParts header area i inside
  obtain ⟨raw',chunk',read'⟩ := readAt_ofParts header' area' j inside'
  rw [Nat.add_left_cancel there] at read'
  rw [chunkPlace,Nat.add_assoc,slice_parts,slice_parts,chunk] at same
  rw [chunk,chunk']
  exact Chunk.sameButIndex_ofRaw (read.eq_of_slice read' same)

theorem readAlike_of_agree (header : Header) {area other : Bytes}
    (agree : AgreeOff (Behind Header.size (InPad ((ofParts header area).chunks.map (·.raw.length))))
      (header.octets ++ area) other) :
    ∃ packet, decode other = .ok packet ∧ ReadAlike (ofParts header area) packet := by
  obtain ⟨front,behind⟩ := agree.behind
  have lengths : (ofParts header area).chunks.map (·.raw.length) = (Area.walk area).1.map RawChunk.length := by
    rw [← raws_ofParts header area,List.map_map]
    rfl
  have size : header.octets.length = Header.size := rfl
  rw [List.take_left' size] at front
  rw [lengths,List.drop_left' size] at behind
  have whole : header.octets ++ other.drop Header.size = other := by rw [← front,List.take_append_drop]
  refine ⟨ofParts header (other.drop Header.size),?_,readAlike_ofParts header (Area.walkFrom_of_agree 0 0 _ _ behind)⟩
  rw [← whole,decode,Header.read?_octets,whole]

theorem reads_own_octets :
    (∀ octets other : Bytes, Header.size ≤ octets.length → Header.size ≤ other.length →
        ∃ packet packet', decode octets = .ok packet ∧ decode other = .ok packet' ∧
          ∀ (i j : Nat) (inside : i < packet.chunks.length) (inside' : j < packet'.chunks.length),
            packet'.chunkPlace j = packet.chunkPlace i →
              slice other (packet.chunkPlace i) (packet.chunkPlace i + packet.chunks[i].raw.length) =
                slice octets (packet.chunkPlace i) (packet.chunkPlace i + packet.chunks[i].raw.length) →
                Chunk.SameButIndex packet.chunks[i] packet'.chunks[j]) ∧
      (∀ octets : Bytes, Header.size ≤ octets.length →
        ∃ packet, decode octets = .ok packet ∧
          (∀ (i : Nat) (inside : i < packet.chunks.length),
            slice octets (packet.chunkPlace i) (packet.chunkPlace i + packet.chunks[i].raw.length) =
              packet.chunks[i].raw.head ++ packet.chunks[i].raw.body) ∧
          ∀ other, AgreeOff (Behind Header.size (InPad (packet.chunks.map (·.raw.length)))) octets other →
            ∃ packet', decode other = .ok packet' ∧ ReadAlike packet packet') ∧
      (∀ area other, AgreeOff (InPad ((Param.walk area).map Param.length)) area other →
        Param.walk other = Param.walk area) ∧
      ∀ raw other : RawChunk, other.lead = raw.lead → other.flags = raw.flags → other.declared = raw.declared →
        raw.typeCode ∈ [1,2,4,5,6,9] → AgreeOff (Chunk.Idle raw) raw.body other.body →
          Chunk.ShownAlike (.ofRaw raw) (.ofRaw other) := by
  refine ⟨?_,?_,?_,?_⟩
  · intro octets other whole whole'
    obtain ⟨header,area,rfl,decoded⟩ := exists_parts whole
    obtain ⟨header',area',rfl,decoded'⟩ := exists_parts whole'
    exact ⟨_,_,decoded,decoded',fun i j inside inside' => sameButIndex_ofParts inside inside'⟩
  · intro octets whole
    obtain ⟨header,area,rfl,decoded⟩ := exists_parts whole
    exact ⟨_,decoded,slice_chunk header area,fun other => readAlike_of_agree header⟩
  · intro area other
    exact Param.walk_eq_of_agree
  · intro raw other lead flags declared lists agree
    exact Chunk.shownAlike_ofRaw lead flags declared agree.length (Content.bareAlike_of_agree lead lists agree)

/-- A COOKIE ECHO chunk of six octets and its pad, behind another of eight. -/
def twoEchoes : Bytes :=
  [0x0B, 0x59, 0x0B, 0x5A, 0, 0, 0, 7, 0, 0, 0, 0, 10, 0, 0, 8, 1, 2, 3, 4, 10, 0, 0, 6, 0xAA, 0xBB, 0, 0]

/-- The same chunk of six octets behind two chunks of four, as the last and without its pad. -/
def acksThenEcho : Bytes :=
  [0x0B, 0x5A, 0x0B, 0x59, 0, 0, 0, 9, 0, 0, 0, 0, 11, 0, 0, 4, 8, 0, 0, 4, 10, 0, 0, 6, 0xAA, 0xBB]

theorem reads_own_octets_echo :
    (∃ packet packet', decode twoEchoes = .ok packet ∧ decode acksThenEcho = .ok packet' ∧
        ∃ (inside : 1 < packet.chunks.length) (inside' : 2 < packet'.chunks.length),
          Chunk.SameButIndex packet.chunks[1] packet'.chunks[2]) ∧
      (∃ packet packet', decode twoEchoes = .ok packet ∧ decode (twoEchoes.set 26 7) = .ok packet' ∧
        ReadAlike packet packet') ∧
      Param.walk ([0, 5, 0, 6, 10, 0, 0, 0].set 6 9) = Param.walk [0, 5, 0, 6, 10, 0, 0, 0] ∧
      Chunk.ShownAlike (.ofRaw Param.wrappingInitAck)
        (.ofRaw { Param.wrappingInitAck with body := Param.wrappingInitAck.body.set 38 9 }) := by
  have echoes : decode twoEchoes = .ok
      { header := ⟨2905,2906,7,0⟩, area := twoEchoes.drop 12, status := .complete
        chunks := [.ofRaw ⟨10,0,8,[1,2,3,4],0⟩,.ofRaw ⟨10,0,6,[0xAA,0xBB],1⟩] } := by
    simp [decode,twoEchoes,Header.read?,ofParts,Area.walk,Area.walkFrom,word16,word32,align4]
  have acks : decode acksThenEcho = .ok
      { header := ⟨2906,2905,9,0⟩, area := acksThenEcho.drop 12, status := .complete
        chunks := [.ofRaw ⟨11,0,4,[],0⟩,.ofRaw ⟨8,0,4,[],1⟩,.ofRaw ⟨10,0,6,[0xAA,0xBB],2⟩] } := by
    simp [decode,acksThenEcho,Header.read?,ofParts,Area.walk,Area.walkFrom,word16,word32,align4]
  have short : Param.walk [0, 5, 0, 6, 10, 0, 0, 0] = [⟨5,6,[10,0]⟩] := by simp [Param.walk,word16,align4]
  have inner : Param.walk [0xC0, 0, 0, 4, 0x80, 8, 0, 6, 1, 2, 0, 0] = [⟨0xC000,4,[]⟩,⟨0x8008,6,[1,2]⟩] := by
    simp [Param.walk,word16,align4]
  have wrapping : Param.walk (Param.wrappingInitAck.body.drop 16) =
      [⟨5,8,[10,0,0,1]⟩,⟨8,16,[0xC0, 0, 0, 4, 0x80, 8, 0, 6, 1, 2, 0, 0]⟩] := by
    simp [Param.wrappingInitAck,Param.walk,word16,align4]
  refine ⟨?_,?_,?_,?_⟩
  · obtain ⟨packet,packet',decoded,decoded',alike⟩ :=
      reads_own_octets.1 twoEchoes acksThenEcho (by decide) (by decide)
    obtain rfl := Except.ok.inj (echoes.symm.trans decoded)
    obtain rfl := Except.ok.inj (acks.symm.trans decoded')
    exact ⟨_,_,decoded,decoded',by decide,by decide,alike 1 2 (by decide) (by decide) (by decide) (by decide)⟩
  · obtain ⟨packet,decoded,-,alike⟩ := reads_own_octets.2.1 twoEchoes (by decide)
    obtain rfl := Except.ok.inj (echoes.symm.trans decoded)
    obtain ⟨packet',decoded',same⟩ := alike _ (.set ⟨14,rfl,by decide⟩ _ 7)
    exact ⟨_,packet',decoded,decoded',same⟩
  · apply reads_own_octets.2.2.1
    rw [short]
    exact .set (by decide) _ 9
  · refine reads_own_octets.2.2.2 Param.wrappingInitAck
      { Param.wrappingInitAck with body := Param.wrappingInitAck.body.set 38 9 } rfl rfl rfl (by decide)
      (.set ⟨22,rfl,?_⟩ _ 9)
    change Param.Idle _ (Param.walk (Param.wrappingInitAck.body.drop 16)) 22
    rw [wrapping]
    refine .within 1 (by decide) ⟨rfl,rfl⟩ 10 (by decide) (by decide) ?_
    change InPad ((Param.walk [0xC0, 0, 0, 4, 0x80, 8, 0, 6, 1, 2, 0, 0]).map Param.length) 10
    rw [inner]
    decide

end Packet

end Sctp
