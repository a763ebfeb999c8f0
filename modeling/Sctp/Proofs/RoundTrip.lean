import Sctp.Proofs.Projection
import Sctp.Proofs.Sent
import Mathlib.Data.List.Basic
import Mathlib.Data.List.TakeWhile

/-! A packet is decoded to what its sender meant. One record or chunk at the head of its area is one step of
the walk over the area, so a list of them is walked to the end; the parameters found in that way then come
to the values they were written from. The main statement is `decode_octets`. -/
namespace Sctp.Sent

theorem toNat_length (length : Nat) (fits : length < 65536) : (UInt16.ofNat length).toNat = length := by
  rw [UInt16.toNat_ofNat']
  exact Nat.mod_eq_of_lt fits

section Pads
variable {Item : Type} {octets : Item → Bytes}

theorem lay_cons (entry : Item × Bytes) (later : List (Item × Bytes)) :
    lay octets (entry :: later) = octets entry.1 ++ (entry.2 ++ lay octets later) := by
  rw [lay,List.flatMap_cons,List.append_assoc]
  rfl

theorem length_le_lay {entries : List (Item × Bytes)} {entry : Item × Bytes} (there : entry ∈ entries) :
    (octets entry.1).length ≤ (lay octets entries).length := by
  induction there with
  | head later =>
    rw [lay_cons,List.length_append]
    exact Nat.le_add_right _ _
  | tail other later ih =>
    rw [lay_cons,List.length_append,List.length_append]
    omega

/-- A pad reaches up to what follows it, unless nothing does. -/
def Reaches (length : Nat) (pad rest : Bytes) : Prop :=
  pad.length = gap length ∨ pad.length ≤ gap length ∧ rest = []

theorem drop_pad (value pad rest : Bytes) (reaches : Reaches (value.length + 4) pad rest) :
    (value ++ (pad ++ rest)).drop (align4 (value.length + 4) - 4) = rest := by
  have aligned := le_align4 (value.length + 4)
  have up : align4 (value.length + 4) - 4 = value.length + gap (value.length + 4) := by
    unfold gap
    omega
  rw [up,← List.append_assoc]
  rcases reaches with whole | ⟨short,rfl⟩
  · rw [List.drop_left' (by rw [List.length_append,whole])]
  · rw [List.append_nil]
    exact List.drop_eq_nil_of_le (by rw [List.length_append]; omega)

/-- The octets behind the last item: none, or any if its pad is whole. -/
def Closes (octets : Item → Bytes) (entries : List (Item × Bytes)) (tail : Bytes) : Prop :=
  PadsFit octets entries ∧
    (tail = [] ∨ ∀ entry ∈ entries, entry.2.length = gap (octets entry.1).length)

theorem Closes.cons {entry : Item × Bytes} {later : List (Item × Bytes)} {tail : Bytes}
    (closes : Closes octets (entry :: later) tail) :
    Reaches (octets entry.1).length entry.2 (lay octets later ++ tail) ∧ Closes octets later tail := by
  obtain ⟨⟨pad,fit⟩,behind⟩ := closes
  refine ⟨?_,fit,behind.imp_right fun whole entry there => whole entry (List.mem_cons_of_mem _ there)⟩
  rcases behind with rfl | whole
  · rcases pad with whole | ⟨short,rfl⟩
    · exact .inl whole
    · exact .inr ⟨short,rfl⟩
  · exact .inl (whole entry List.mem_cons_self)

end Pads

namespace Record

theorem length_octets (record : Record) : record.octets.length = record.value.length + 4 := by
  simp only [octets,octets16,List.length_append,List.length_cons,List.length_nil]
  omega

theorem walk_octets (record : Record) (pad rest : Bytes) (fits : record.value.length + 4 < 65536)
    (reaches : Reaches record.octets.length pad rest) :
    Param.walk (record.octets ++ (pad ++ rest)) = record.param :: Param.walk rest := by
  rw [length_octets] at reaches
  have declared : record.declared.toNat = record.value.length + 4 := toNat_length _ fits
  have long : ¬ record.value.length + 4 < 4 := by omega
  simp only [octets,octets16,List.cons_append,List.nil_append]
  rw [Param.walk]
  simp only [word16_octets16]
  simp only [declared,if_neg long,Nat.add_sub_cancel,List.take_left,drop_pad _ _ _ reaches]
  rfl

theorem walk_lay {Item : Type} (record : Item → Record) (entries : List (Item × Bytes))
    (closes : Closes (fun item => (record item).octets) entries [])
    (short : (lay (fun item => (record item).octets) entries).length < 65536) :
    Param.walk (lay (fun item => (record item).octets) entries) =
      entries.map fun entry => (record entry.1).param := by
  induction entries with
  | nil =>
    rw [lay,List.flatMap_nil,Param.walk,List.map_nil]
    simp
  | cons entry later ih =>
    obtain ⟨reaches,closes⟩ := closes.cons
    rw [List.append_nil] at reaches
    rw [lay_cons,List.length_append,List.length_append,length_octets] at short
    rw [lay_cons,walk_octets _ _ _ (by omega) reaches,ih closes (by omega),List.map_cons]

/-- An area that is laid out of records lists these records. -/
theorem walk_area {Item : Type} (record : Item → Record) (laid : Laid fun item => (record item).octets)
    (short : laid.area.length < 65536) :
    Param.walk laid.area = laid.items.map fun item => (record item).param := by
  rw [Laid.items,List.map_map]
  exact walk_lay record laid.entries ⟨laid.fit,.inl rfl⟩ short

end Record

def Chunk.raw (chunk : Chunk) (index : Nat) : RawChunk :=
  ⟨chunk.action * 64 + chunk.body.typeCode,chunk.flags,chunk.declared,chunk.body.octets,index⟩

namespace Chunk

theorem length_octets (chunk : Chunk) : chunk.octets.length = chunk.body.octets.length + 4 := by
  simp only [octets,octets16,List.length_append,List.length_cons,List.length_nil]
  omega

theorem walkFrom_octets (chunk : Chunk) (offset index : Nat) (pad rest : Bytes)
    (reaches : Reaches chunk.octets.length pad rest) :
    Area.walkFrom offset index (chunk.octets ++ (pad ++ rest)) =
      (chunk.raw index :: (Area.walkFrom (offset + align4 chunk.octets.length) (index + 1) rest).1,
        (Area.walkFrom (offset + align4 chunk.octets.length) (index + 1) rest).2) := by
  rw [length_octets] at reaches ⊢
  have declared : chunk.declared.toNat = chunk.body.octets.length + 4 := toNat_length _ chunk.fits
  have long : ¬ chunk.body.octets.length + 4 < 4 := by omega
  simp only [octets,octets16,List.cons_append,List.nil_append]
  rw [Area.walkFrom]
  simp only [word16_octets16]
  simp only [declared,if_neg long,Nat.add_sub_cancel,List.take_left,Nat.lt_irrefl,if_false,
    drop_pad _ _ _ reaches]
  rfl

theorem walkFrom_lay (entries : List (Chunk × Bytes)) (tail : Bytes) (offset index : Nat)
    (closes : Closes octets entries tail) :
    Area.walkFrom offset index (lay octets entries ++ tail) =
      (entries.mapIdx (fun i entry => entry.1.raw (index + i)) ++
          (Area.walkFrom (offset + (lay octets entries).length) (index + entries.length) tail).1,
        (Area.walkFrom (offset + (lay octets entries).length) (index + entries.length) tail).2) := by
  induction entries generalizing offset index with
  | nil => rfl
  | cons entry later ih =>
    obtain ⟨reaches,closes⟩ := closes.cons
    have places : ∀ i, index + 1 + i = index + (i + 1) := by omega
    have behind :
        Area.walkFrom (offset + align4 entry.1.octets.length + (lay octets later).length)
            (index + 1 + later.length) tail =
          Area.walkFrom (offset + (lay octets (entry :: later)).length) (index + (entry :: later).length) tail := by
      rw [lay_cons,List.length_append,List.length_append,List.length_cons,places]
      rcases reaches with whole | ⟨-,empty⟩
      · have up : align4 entry.1.octets.length = entry.1.octets.length + entry.2.length := by
          have aligned := le_align4 entry.1.octets.length
          unfold gap at whole
          omega
        rw [up,Nat.add_assoc,Nat.add_assoc]
      -- Behind a pad that ends early there is nothing, and no offset matters to the walk over nothing.
      · rw [(List.append_eq_nil_iff.mp empty).2,Area.walkFrom,Area.walkFrom]
    have front : lay octets (entry :: later) ++ tail =
        entry.1.octets ++ (entry.2 ++ (lay octets later ++ tail)) := by
      rw [lay_cons,List.append_assoc,List.append_assoc]
    rw [front,walkFrom_octets _ _ _ _ _ reaches,ih _ _ closes,behind]
    simp only [List.mapIdx_cons,places,Nat.add_zero,List.cons_append]

end Chunk

theorem words16_octets (words : List UInt16) : words16 (words.flatMap octets16) = words := by
  induction words with
  | nil => rfl
  | cons word words ih =>
    rw [List.flatMap_cons]
    simp only [octets16,List.cons_append,List.nil_append,words16,word16_octets16]
    rw [ih]

theorem words32_octets (words : List UInt32) : words32 (words.flatMap octets32) = words := by
  induction words with
  | nil => rfl
  | cons word words ih =>
    rw [List.flatMap_cons]
    simp only [octets32,List.cons_append,List.nil_append,words32,word32_octets32]
    rw [ih]

theorem gapBlocks_octets (gaps : List GapBlock) (rest : Bytes) :
    gapBlocks (gaps.flatMap gapOctets ++ rest) = gaps ++ gapBlocks rest := by
  induction gaps with
  | nil => rfl
  | cons gap gaps ih =>
    rw [List.flatMap_cons]
    simp only [gapOctets,octets16,List.cons_append,List.nil_append,gapBlocks,word16_octets16]
    rw [ih]

theorem length_of_four {Item : Type} (octets : Item → Bytes) (four : ∀ item, (octets item).length = 4)
    (items : List Item) : (items.flatMap octets).length = 4 * items.length := by
  induction items with
  | nil => rfl
  | cons item items ih =>
    rw [List.flatMap_cons,List.length_append,four,ih,List.length_cons]
    omega

namespace Parameter

/-- A parameter that was read holds for each field what was written into it. -/
structure Means (parameter : Parameter) (param : Param) : Prop where
  ipv4 : param.ipv4? = parameter.ipv4?
  ipv6 : param.ipv6? = parameter.ipv6?
  hostName : param.hostName? = parameter.hostName?
  cookieLife : param.cookieLife? = parameter.cookieLife?
  supported : param.supported = parameter.supportedTypes
  stateCookie : param.stateCookie? = parameter.stateCookie?
  wrapped : param.wrapped = parameter.wrapped.map Record.param

theorem means (parameter : Parameter) (short : parameter.octets.length < 65536) :
    Means parameter parameter.record.param := by
  cases parameter with
  | ipv4 address =>
    refine ⟨?_,rfl,rfl,rfl,rfl,rfl,rfl⟩
    change Ipv4.ofPrefix? address.octets = some address
    simp only [Ipv4.ofPrefix?,address.size,Nat.le_refl,dif_pos,List.take_of_length_le (Nat.le_of_eq address.size)]
  | ipv6 address =>
    refine ⟨rfl,?_,rfl,rfl,rfl,rfl,rfl⟩
    change Ipv6.ofPrefix? address.octets = some address
    simp only [Ipv6.ofPrefix?,address.size,Nat.le_refl,dif_pos,List.take_of_length_le (Nat.le_of_eq address.size)]
  | hostName name free =>
    refine ⟨rfl,rfl,?_,rfl,rfl,rfl,rfl⟩
    have whole : (Text.Utf8.encode name).takeWhile (· != 0) = Text.Utf8.encode name := by
      rw [List.takeWhile_eq_self_iff]
      intro octet there
      rw [bne_iff_ne]
      rintro rfl
      exact Text.Utf8.zero_notMem_encode name free there
    change some (Text.Utf8.decode ((Text.Utf8.encode name).takeWhile (· != 0))) = some name
    rw [whole,Text.Utf8.decode_encode]
  | cookieLife increment =>
    refine ⟨rfl,rfl,rfl,?_,rfl,rfl,rfl⟩
    exact congrArg some (word32_octets32 increment)
  | supported types => exact ⟨rfl,rfl,rfl,rfl,words16_octets types,rfl,rfl⟩
  | stateCookie cookie => exact ⟨rfl,rfl,rfl,rfl,rfl,rfl,rfl⟩
  | unrecognized params =>
    refine ⟨rfl,rfl,rfl,rfl,rfl,rfl,?_⟩
    rw [octets,Record.length_octets] at short
    exact Record.walk_area id params (Nat.lt_of_le_of_lt (Nat.le_add_right _ _) short)
  | other code value unknown =>
    simp only [List.mem_cons,List.not_mem_nil,or_false,not_or] at unknown
    obtain ⟨five,six,seven,eight,nine,eleven,twelve⟩ := unknown
    exact ⟨if_neg five,if_neg six,if_neg eleven,if_neg nine,if_neg twelve,if_neg seven,if_neg eight⟩

end Parameter

namespace Opening

theorem walk_params (opening : Opening) (short : opening.params.area.length < 65536) :
    Param.walk opening.params.area = opening.params.items.map fun parameter => parameter.record.param :=
  Record.walk_area Parameter.record opening.params short

theorem length_area_lt (opening : Opening) (fits : opening.octets.length < 65536) :
    opening.params.area.length < 65536 := by
  simp only [octets,List.length_append] at fits
  omega

theorem ofBody?_octets (opening : Opening) : InitFields.ofBody? opening.octets = some opening.fields := by
  simp only [octets,octets32,octets16,List.cons_append,List.nil_append,InitFields.ofBody?,word32_octets32,
    word16_octets16]
  rfl

section Values
variable (opening : Opening) (short : opening.params.area.length < 65536)
include short

theorem means_of_mem {parameter : Parameter} (there : parameter ∈ opening.params.items) :
    parameter.Means parameter.record.param := by
  obtain ⟨entry,inside,rfl⟩ := List.mem_map.mp there
  have fits : entry.1.octets.length ≤ opening.params.area.length := length_le_lay inside
  exact entry.1.means (Nat.lt_of_le_of_lt fits short)

/-- A field that every parameter gives back is given back by the list of them. -/
theorem filterMap_params {Field : Type} (field? : Param → Option Field) (meant? : Parameter → Option Field)
    (same : ∀ parameter, parameter.Means parameter.record.param →
      field? parameter.record.param = meant? parameter) :
    (Param.walk opening.params.area).filterMap field? = opening.params.items.filterMap meant? := by
  rw [walk_params opening short,List.filterMap_map]
  apply List.filterMap_congr
  intro parameter there
  exact same parameter (opening.means_of_mem short there)

theorem flatMap_params {Field : Type} (fields : Param → List Field) (meant : Parameter → List Field)
    (same : ∀ parameter, parameter.Means parameter.record.param →
      fields parameter.record.param = meant parameter) :
    (Param.walk opening.params.area).flatMap fields = opening.params.items.flatMap meant := by
  rw [walk_params opening short,List.flatMap_map]
  apply List.flatMap_congr
  intro parameter there
  exact same parameter (opening.means_of_mem short there)

theorem addresses_params : Addresses.ofParams (Param.walk opening.params.area) = opening.addresses := by
  rw [Addresses.ofParams,opening.filterMap_params short _ _ fun _ means => means.ipv4,
    opening.filterMap_params short _ _ fun _ means => means.ipv6,
    opening.filterMap_params short _ _ fun _ means => means.hostName]
  rfl

theorem initParams_params : InitParams.ofParams (Param.walk opening.params.area) = opening.initParams := by
  rw [InitParams.ofParams_eq,opening.addresses_params short,
    opening.filterMap_params short _ _ fun _ means => means.cookieLife,
    opening.flatMap_params short _ _ fun _ means => means.supported]
  rfl

theorem initAckParams_params :
    InitAckParams.ofParams (Param.walk opening.params.area) = opening.initAckParams := by
  rw [InitAckParams.ofParams_eq,opening.addresses_params short,
    opening.filterMap_params short _ _ fun _ means => means.stateCookie,
    opening.flatMap_params short _ _ fun _ means => means.wrapped,initAckParams,List.map_flatMap]

end Values

end Opening

theorem heartbeatInfo_walk (records : Laid Record.octets) (short : records.area.length < 65536) :
    heartbeatInfo (Param.walk records.area) = (records.items.filterMap Record.info?).getLast? := by
  rw [heartbeatInfo_eq,Record.walk_area id records short,List.filterMap_map]
  rfl

theorem dataFields_octets (fields : DataFields) : DataFields.ofBody? (dataOctets fields) = some fields := by
  simp only [dataOctets,octets32,octets16,List.cons_append,List.nil_append,DataFields.ofBody?,word32_octets32,
    word16_octets16]

namespace Body

theorem sackFields_octets (cumulativeTsn window : UInt32) (gaps : List GapBlock) (dups : List UInt32)
    (fits : (octets (.sack cumulativeTsn window gaps dups)).length < 65536) :
    SackFields.ofBody? (octets (.sack cumulativeTsn window gaps dups)) =
      some ⟨cumulativeTsn,window,UInt16.ofNat gaps.length,UInt16.ofNat dups.length,gaps,dups⟩ := by
  have gaps_length := length_of_four gapOctets (fun _ => rfl) gaps
  have dups_length := length_of_four octets32 (fun _ => rfl) dups
  simp only [octets,List.length_append,gaps_length,dups_length] at fits
  simp only [octets,octets32,octets16,List.cons_append,List.nil_append,SackFields.ofBody?,word32_octets32,
    word16_octets16]
  change some (SackFields.mk _ _ _ _ _ ((words32 ((gaps.flatMap gapOctets ++ dups.flatMap octets32).drop _)).take _)) = _
  rw [toNat_length gaps.length (by omega),toNat_length dups.length (by omega),gapBlocks_octets,List.take_left,
    ← gaps_length,List.drop_left,words32_octets,List.take_length]

theorem ofRaw_of_free (raw : RawChunk)
    (free : raw.typeCode = 12 ∨ raw.typeCode = 13 ∨ 15 ≤ raw.typeCode ∧ raw.typeCode ≤ 63) :
    Content.ofRaw raw = .generic := by
  unfold Content.ofRaw
  generalize raw.typeCode = typeCode at free
  split
  case h_14 => rfl
  all_goals exact absurd free (by decide)

theorem content_ofRaw (raw : RawChunk) (body : Body) (typed : raw.typeCode = body.typeCode)
    (held : raw.body = body.octets) (fits : body.octets.length < 65536) :
    (Content.ofRaw raw).parse raw.body = body.content := by
  rw [Content.ofRaw,typed,held]
  cases body with
  | data fields =>
    change ((DataFields.ofBody? (dataOctets fields)).elim Content.generic Content.data).parse _ = _
    rw [dataFields_octets]
    rfl
  | init opening =>
    change ((InitFields.ofBody? opening.octets).elim Content.generic (Content.init · none)).parse _ = _
    rw [opening.ofBody?_octets]
    exact congrArg (fun found => Content.init opening.fields (some found)) (opening.initParams_params
      (opening.length_area_lt fits))
  | initAck opening =>
    change ((InitFields.ofBody? opening.octets).elim Content.generic (Content.initAck · none)).parse _ = _
    rw [opening.ofBody?_octets]
    exact congrArg (fun found => Content.initAck opening.fields (some found)) (opening.initAckParams_params
      (opening.length_area_lt fits))
  | sack cumulativeTsn window gaps dups =>
    change ((SackFields.ofBody? (octets (.sack cumulativeTsn window gaps dups))).elim Content.generic
      Content.sack).parse _ = _
    rw [sackFields_octets _ _ _ _ fits]
    rfl
  | heartbeat params => exact congrArg (fun info => Content.heartbeat (some info)) (heartbeatInfo_walk params fits)
  | heartbeatAck params =>
    exact congrArg (fun info => Content.heartbeatAck (some info)) (heartbeatInfo_walk params fits)
  | abort causes => exact congrArg (fun listed => Content.abort (some listed)) (Record.walk_area id causes fits)
  | shutdown cumulativeTsn =>
    exact congrArg Content.shutdown (word32_octets32 cumulativeTsn)
  | error causes => exact congrArg (fun listed => Content.error (some listed)) (Record.walk_area id causes fits)
  | shutdownAck | cookieEcho | cookieAck | shutdownComplete => rfl
  | generic typeCode octets free =>
    have unread := ofRaw_of_free raw (typed ▸ free)
    rw [Content.ofRaw,typed,held] at unread
    exact congrArg (Content.parse octets) unread

theorem kind_content (body : Body) : body.content.kind = body.kind := by
  cases body <;> rfl

theorem params_content (body : Body) (fits : body.octets.length < 65536) :
    (body.content.paramArea? body.octets).map Param.walk = body.records?.map (·.map Record.param) := by
  cases body with
  | init opening | initAck opening =>
    have listed := opening.walk_params (opening.length_area_lt fits)
    change some (Param.walk opening.params.area) = some ((opening.params.items.map Parameter.record).map Record.param)
    rw [listed,List.map_map]
    rfl
  | heartbeat records | heartbeatAck records | abort records | error records =>
    exact congrArg some (Record.walk_area id records fits)
  | _ => rfl

theorem typeCode_lt (body : Body) : body.typeCode.toNat < 64 := by
  cases body with
  | generic typeCode octets free =>
    change typeCode.toNat < 64
    rcases free with rfl | rfl | ⟨-,below⟩
    · decide
    · decide
    · exact Nat.lt_succ_of_le (UInt8.le_iff_toNat_le.mp below)
  | _ => exact Nat.le_of_ble_eq_true rfl

end Body

namespace Chunk

theorem toNat_lead (chunk : Chunk) (index : Nat) :
    (chunk.raw index).lead.toNat = chunk.action.toNat * 64 + chunk.body.typeCode.toNat := by
  have below := chunk.body.typeCode_lt
  have two_bits := UInt8.lt_iff_toNat_lt.mp chunk.two_bits
  change chunk.action.toNat < 4 at two_bits
  change (chunk.action * 64 + chunk.body.typeCode).toNat = _
  rw [UInt8.toNat_add,UInt8.toNat_mul]
  change (chunk.action.toNat * 64 % 256 + chunk.body.typeCode.toNat) % 256 = _
  omega

theorem typeCode_raw (chunk : Chunk) (index : Nat) : (chunk.raw index).typeCode = chunk.body.typeCode := by
  have below := chunk.body.typeCode_lt
  apply UInt8.toNat_inj.mp
  rw [RawChunk.typeCode,UInt8.toNat_mod,toNat_lead]
  change _ % 64 = _
  omega

theorem action_raw (chunk : Chunk) (index : Nat) : (chunk.raw index).action = chunk.action := by
  have below := chunk.body.typeCode_lt
  apply UInt8.toNat_inj.mp
  rw [RawChunk.action,UInt8.toNat_div,toNat_lead]
  change _ / 64 = _
  omega

theorem isShown_raw (chunk : Chunk) (place : Nat) :
    chunk.IsShown place (Sctp.Chunk.ofRaw (chunk.raw place)).parse := by
  have fits : chunk.body.octets.length < 65536 := Nat.lt_of_succ_lt (Nat.lt_of_le_of_lt (by omega) chunk.fits)
  have content : (Sctp.Chunk.ofRaw (chunk.raw place)).parse.content = chunk.body.content :=
    Body.content_ofRaw (chunk.raw place) chunk.body (chunk.typeCode_raw place) rfl fits
  constructor
  case index => rfl
  case kind =>
    rw [Sctp.Chunk.kind,content]
    exact chunk.body.kind_content
  case typeCode => exact chunk.typeCode_raw place
  case action => exact chunk.action_raw place
  case flags => rfl
  case length => exact toNat_length _ chunk.fits
  case body => rfl
  case params =>
    rw [Sctp.Chunk.params?,content]
    exact chunk.body.params_content fits
  case content => exact content

end Chunk

namespace Packet

/-- What a decoder has to give back of a packet: its header, and chunk by chunk what was sent. -/
structure IsShown (sent : Packet) (packet : Sctp.Packet) : Prop where
  header : packet.header = sent.header
  status : packet.status = .complete
  count : packet.chunks.length = sent.chunks.items.length
  chunks : ∀ i (inside : i < sent.chunks.items.length),
    ∃ chunk, packet.chunks[i]? = some chunk ∧ sent.chunks.items[i].IsShown i chunk

/-- What becomes of a packet if octets are put behind it: the chunks it had stay as they are, and the walk
goes on from its end. -/
structure Extends (packet : Sctp.Packet) (tail : Bytes) (longer : Sctp.Packet) : Prop where
  header : longer.header = packet.header
  chunks : longer.chunks = packet.chunks ++
    (Area.walkFrom packet.area.length packet.chunks.length tail).1.map Sctp.Chunk.ofRaw
  status : longer.status = (Area.walkFrom packet.area.length packet.chunks.length tail).2

theorem decode_append (header : Header) (area : Bytes) :
    Sctp.Packet.decode (header.octets ++ area) = .ok (.ofParts header area) := by
  rw [Sctp.Packet.decode,Header.read?_octets]

def raws (sent : Packet) : List RawChunk := sent.chunks.entries.mapIdx fun i entry => entry.1.raw i

theorem length_raws (sent : Packet) : sent.raws.length = sent.chunks.items.length := by
  rw [raws,List.length_mapIdx,Laid.items,List.length_map]

theorem getElem?_raws (sent : Packet) (i : Nat) (inside : i < sent.chunks.items.length) :
    sent.raws[i]? = some (sent.chunks.items[i].raw i) := by
  have there : i < sent.chunks.entries.length := by rwa [Laid.items,List.length_map] at inside
  simp only [raws,Laid.items,List.getElem?_mapIdx,List.getElem?_eq_getElem there,Option.map_some,
    List.getElem_map]

theorem walk_area (sent : Packet) (tail : Bytes) (behind : tail = [] ∨ sent.chunks.IsFull) :
    Area.walk (sent.chunks.area ++ tail) =
      (sent.raws ++ (Area.walkFrom sent.chunks.area.length sent.raws.length tail).1,
        (Area.walkFrom sent.chunks.area.length sent.raws.length tail).2) := by
  have walk := Chunk.walkFrom_lay sent.chunks.entries tail 0 0 ⟨sent.chunks.fit,behind⟩
  simp only [Nat.zero_add] at walk
  rw [raws,List.length_mapIdx]
  exact walk

/-- A packet is decoded to what was sent. Octets behind a packet whose pads are all there are read on their
own, whatever they are, and cost it nothing. -/
theorem decode_octets (sent : Packet) :
    ∃ packet, Sctp.Packet.decode sent.octets = .ok packet ∧ sent.IsShown packet.parse ∧
      (sent.chunks.IsFull → ∀ tail, ∃ longer,
        Sctp.Packet.decode (sent.octets ++ tail) = .ok longer ∧ Extends packet tail longer) := by
  have alone : Area.walk sent.chunks.area = (sent.raws,.complete) := by
    have walk := sent.walk_area [] (.inl rfl)
    have ends : ∀ offset index, Area.walkFrom offset index [] = ([],.complete) := by
      intro offset index
      rw [Area.walkFrom]
    rwa [List.append_nil,ends,List.append_nil] at walk
  have chunks : (Sctp.Packet.ofParts sent.header sent.chunks.area).chunks = sent.raws.map Sctp.Chunk.ofRaw := by
    rw [Sctp.Packet.ofParts,alone]
  refine ⟨_,decode_append sent.header sent.chunks.area,?_,?_⟩
  · constructor
    case header => rfl
    case status => simp only [Sctp.Packet.parse,Sctp.Packet.ofParts,alone]
    case count => simp only [Sctp.Packet.parse,chunks,List.length_map,length_raws]
    case chunks =>
      intro i inside
      refine ⟨_,?_,sent.chunks.items[i].isShown_raw i⟩
      simp only [Sctp.Packet.parse,chunks,List.getElem?_map,sent.getElem?_raws i inside,Option.map_some]
  · intro full tail
    have walk := sent.walk_area tail (.inr full)
    refine ⟨.ofParts sent.header (sent.chunks.area ++ tail),?_,?_⟩
    · rw [octets,List.append_assoc]
      exact decode_append sent.header (sent.chunks.area ++ tail)
    · constructor
      case header => rfl
      case chunks =>
        rw [chunks,List.length_map]
        simp only [Sctp.Packet.ofParts,walk,List.map_append]
      case status =>
        rw [chunks,List.length_map]
        simp only [Sctp.Packet.ofParts,walk]

/-- An INIT chunk that offers one address, and a DATA chunk whose payload needs a pad. -/
def initAndData : Packet where
  header := ⟨2905,2906,0,0⟩
  chunks :=
    ⟨[(⟨0,0,.init ⟨7,65536,10,10,3,⟨[(.ipv4 ⟨[10,0,0,1],rfl⟩,[])],.inl rfl,trivial⟩⟩,by decide,by decide⟩,[]),
      (⟨0,3,.data ⟨3,0,0,0,[0x68,0x69]⟩,by decide,by decide⟩,[0xAA,0xBB])],
      .inl rfl,.inl rfl,trivial⟩

theorem decode_octets_initAndData :
    ∃ packet, Sctp.Packet.decode initAndData.octets = .ok packet ∧ initAndData.IsShown packet.parse ∧
      ∃ longer, Sctp.Packet.decode (initAndData.octets ++ [1,0,0]) = .ok longer ∧
        Extends packet [1,0,0] longer := by
  obtain ⟨packet,decoded,shown,goes_on⟩ := initAndData.decode_octets
  have full : initAndData.chunks.IsFull := by
    unfold Laid.IsFull
    decide
  exact ⟨packet,decoded,shown,goes_on full [1,0,0]⟩

end Packet

end Sctp.Sent
