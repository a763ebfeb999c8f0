import Sctp.Proofs.Switches

/-! What a dump can hold. Every text that is made of a packet is made of fixed words and of numbers, and so is
printable ASCII on one line whatever octets the packet holds (`Text.Plain`). A dump therefore has just the lines it is
made of, one for each chunk among them, and nothing in a packet can add a line or pass for another one. The main
statement is `Report.Ledger.dump_printed`. -/
namespace Sctp

namespace Text

def Plain (text : List Char) : Prop := ∀ c ∈ text, ' ' ≤ c ∧ c ≤ '~'

@[simp] theorem plain_nil : Plain [] := nofun

@[simp] theorem plain_cons (c : Char) (text : List Char) :
    Plain (c :: text) ↔ (' ' ≤ c ∧ c ≤ '~') ∧ Plain text :=
  List.forall_mem_cons

@[simp] theorem plain_append (front back : List Char) : Plain (front ++ back) ↔ Plain front ∧ Plain back :=
  List.forall_mem_append

@[simp] theorem plain_flatMap {Part : Type} (parts : List Part) (text : Part → List Char) :
    Plain (parts.flatMap text) ↔ ∀ part ∈ parts, Plain (text part) := by
  constructor
  · intro plain part listed c member
    exact plain c (List.mem_flatMap.mpr ⟨part,listed,member⟩)
  · intro plain c member
    obtain ⟨part,listed,there⟩ := List.mem_flatMap.mp member
    exact plain part listed c there

@[simp] theorem plain_intercalate {mark : List Char} {parts : List (List Char)} (plain_mark : Plain mark)
    (plain : ∀ part ∈ parts, Plain part) : Plain (mark.intercalate parts) := by
  induction parts with
  | nil => exact plain_nil
  | cons part later ih =>
    obtain ⟨first,others⟩ := List.forall_mem_cons.mp plain
    cases later with
    | nil => rwa [List.intercalate_singleton]
    | cons next later =>
      rw [List.intercalate_cons_cons,plain_append,plain_append]
      exact ⟨⟨first,plain_mark⟩,ih others⟩

@[simp] theorem plain_ite (condition : Prop) [Decidable condition] (text other : String) :
    Plain (if condition then text else other).toList ↔
      (condition → Plain text.toList) ∧ (¬ condition → Plain other.toList) := by
  split <;> simp_all

@[simp] theorem toString_text (text : String) : toString text = text := rfl

theorem exists_of_mem_toDigits {base : Nat} (two : 1 < base) {n : Nat} {c : Char} (member : c ∈ Nat.toDigits base n) :
    ∃ digit < base, c = digit.digitChar := by
  induction n using Nat.strongRecOn with
  | ind n ih =>
    rw [Nat.toDigits_eq_if two] at member
    split at member
    · rename_i small
      exact ⟨n,small,List.mem_singleton.mp member⟩
    · rename_i large
      rcases List.mem_append.mp member with front | last
      · exact ih (n / base) (Nat.div_lt_self (by omega) two) front
      · exact ⟨n % base,Nat.mod_lt n (by omega),List.mem_singleton.mp last⟩

theorem plain_toDigits {base : Nat} (two : 1 < base) (upto : base ≤ 16) (n : Nat) : Plain (Nat.toDigits base n) := by
  have digits : ∀ digit < 16, ' ' ≤ digit.digitChar ∧ digit.digitChar ≤ '~' := by decide
  intro c member
  obtain ⟨digit,small,rfl⟩ := exists_of_mem_toDigits two member
  exact digits digit (Nat.lt_of_lt_of_le small upto)

@[simp] theorem plain_decimal (n : Nat) : Plain (Nat.toDigits 10 n) := plain_toDigits (by decide) (by decide) n

@[simp] theorem plain_hex (n : Nat) : Plain (hex n).toList := by
  simp [hex,plain_toDigits]

theorem plain_padLeft {fill : Char} {text : String} (width : Nat) (plain_fill : ' ' ≤ fill ∧ fill ≤ '~')
    (plain : Plain text.toList) : Plain (padLeft fill width text).toList := by
  have pad : Plain (List.replicate (width - text.toList.length) fill) := by
    intro c member
    rw [List.eq_of_mem_replicate member]
    exact plain_fill
  simpa [padLeft,List.leftpad,plain] using pad

@[simp] theorem plain_hexWide (width n : Nat) : Plain (hexWide width n).toList :=
  plain_padLeft width (by decide) (plain_hex n)

@[simp] theorem plain_decimalWide (width n : Nat) : Plain (decimalWide width n).toList :=
  plain_padLeft width (by decide) (by simp)

theorem plain_render (nanoseconds : Nat) : Plain (Utc.render nanoseconds).toList := by
  unfold Utc.render
  simp

end Text

open Text

theorem CodeTable.plain_text {table : CodeTable} (listed : table ∈ registries) (code : Nat) :
    Plain (table.text code).toList := by
  have names : ∀ table ∈ registries, ∀ entry ∈ table.entries, Plain entry.2.toList := by
    simp only [registries,chunkTypes,paramTypes,errorCauses,etherTypes,List.forall_mem_cons]
    simp
  unfold text
  split
  · rename_i name found
    obtain ⟨entry,there,rfl⟩ := Option.map_eq_some_iff.mp found
    exact names table listed entry (List.mem_of_find?_eq_some there)
  · simp

theorem DataFields.plain_text (fields : DataFields) (raw : RawChunk) : Plain (fields.text raw).toList := by
  have fragment : Plain raw.fragment.text.toList := by cases raw.fragment <;> simp [Fragment.text]
  unfold DataFields.text
  simp [fragment]

theorem InitFields.plain_text (fields : InitFields) : Plain fields.text.toList := by
  unfold InitFields.text
  simp

theorem SackFields.plain_text (fields : SackFields) : Plain fields.text.toList := by
  unfold SackFields.text SackFields.gapsText SackFields.dupsText
  simp

theorem AreaStatus.plain_text (status : AreaStatus) : Plain status.text.toList := by
  unfold AreaStatus.text
  split <;> simp

namespace RawChunk

theorem plain_headline (raw : RawChunk) : Plain raw.headline.toList := by
  have name : Plain raw.typeText.toList := CodeTable.plain_text (List.mem_cons_self ..) _
  unfold headline
  simp [name]

theorem plain_text (raw : RawChunk) : Plain raw.text.toList := by
  unfold RawChunk.text
  split
  · exact raw.plain_headline
  · simp [raw.plain_headline]

end RawChunk

theorem Param.plain_causeText (param : Param) : Plain param.causeText.toList :=
  CodeTable.plain_text (by simp [registries]) _

namespace Chunk

theorem plain_lengthText {label : String} (plain : Plain label.toList) (octets : Option Bytes) :
    Plain (lengthText label octets).toList := by
  cases octets <;> simp [lengthText,plain]

theorem plain_reflectedText (raw : RawChunk) : Plain (reflectedText raw).toList := by
  simp [reflectedText]

theorem plain_causesText (causes : Option (List Param)) : Plain (causesText causes).toList := by
  unfold causesText
  split <;> simp [Param.plain_causeText]

theorem plain_text (chunk : Chunk) : Plain chunk.text.toList := by
  have cookie : ∀ octets, Plain (lengthText "cookie" octets).toList := plain_lengthText (by simp)
  have info : ∀ octets, Plain (lengthText "info" octets).toList := plain_lengthText (by simp)
  unfold text
  cases chunk.content with
  | data fields => exact fields.plain_text chunk.raw
  | sack fields => exact fields.plain_text
  | init fields => simp [fields.plain_text]
  | initAck fields => simp [fields.plain_text,cookie]
  | heartbeat | heartbeatAck => simp [chunk.raw.plain_headline,info]
  | abort causes | error causes =>
    simp [chunk.raw.plain_headline,plain_reflectedText,plain_causesText]
  | shutdown | cookieEcho => simp
  | shutdownComplete => simp [plain_reflectedText]
  | shutdownAck | cookieAck | generic => exact chunk.raw.plain_text

end Chunk

theorem Packet.plain_text (packet : Packet) : Plain packet.text.toList := by
  unfold Packet.text
  simp [chunkSummary]

theorem Ipv4.plain_dotted (octets : Bytes) : Plain (Ipv4.dotted octets).toList := by
  simp [Ipv4.dotted]

theorem Ipv6.plain_text (address : Ipv6) : Plain address.text.toList := by
  have colons : ∀ groups : List UInt16, Plain (colons groups).toList := by
    simp [colons]
  simp [text,Ipv4.plain_dotted,colons]

theorem IpAddress.plain_text (address : IpAddress) : Plain address.text.toList := by
  cases address with
  | v4 address => exact Ipv4.plain_dotted address.octets
  | v6 address => exact address.plain_text

namespace Text

theorem Plain.newline_not_mem {text : List Char} (plain : Plain text) : '\n' ∉ text := by
  intro member
  exact absurd (plain '\n' member).1 (by decide)

/-- Lines are found again in their text if none of them holds a newline. -/
theorem splitOn_unlines {lines : List String} (single : ∀ line ∈ lines, '\n' ∉ line.toList) :
    (unlines lines).toList.splitOn '\n' = lines.map String.toList ++ [[]] := by
  induction lines with
  | nil => rfl
  | cons line later ih =>
    obtain ⟨first,others⟩ := List.forall_mem_cons.mp single
    have text : (unlines (line :: later)).toList = line.toList ++ '\n' :: (unlines later).toList := by
      simp [unlines]
    rw [text,List.splitOn_append_cons_self_of_not_mem first,ih others]
    rfl

theorem bracket_not_mem_toDigits (n : Nat) : '[' ∉ Nat.toDigits 10 n := by
  have digits : ∀ digit < 10, '[' ≠ digit.digitChar := by decide
  intro member
  obtain ⟨digit,small,same⟩ := exists_of_mem_toDigits (by decide) member
  exact digits digit small same

end Text

namespace Packet

theorem count_bracket_chunkSummary (chunk : Chunk) : (chunkSummary chunk).toList.count '[' = 1 := by
  have digits : ∀ n, (Nat.toDigits 10 n).count '[' = 0 := by
    intro n
    exact List.count_eq_zero_of_not_mem (bracket_not_mem_toDigits n)
  unfold chunkSummary
  simp [digits]

theorem count_bracket_summaries (chunks : List Chunk) :
    (String.join (chunks.map chunkSummary)).toList.count '[' = chunks.length := by
  induction chunks with
  | nil => rfl
  | cons chunk later ih =>
    rw [List.map_cons,String.join_cons,String.toList_append,List.count_append,ih,count_bracket_chunkSummary,
      List.length_cons,Nat.add_comm]

theorem exists_summaries (packet : Packet) :
    ∃ front, packet.text = front ++ String.join (packet.chunks.map chunkSummary) ∧ '[' ∉ front.toList := by
  refine ⟨_,rfl,?_⟩
  simp [bracket_not_mem_toDigits]

end Packet

namespace Report

namespace Verdict

theorem plain_frontLine (number : Nat) (block : Capture.PacketBlock) (found : Found) :
    Plain (frontLine number block found).toList := by
  have place : Plain (padLeft ' ' 5 number.repr).toList := plain_padLeft 5 (by decide) (by simp)
  have time : Plain block.time.text.toList := plain_render _
  unfold frontLine
  simp [place,time,IpAddress.plain_text]

theorem plain_packetLines (number : Nat) (block : Capture.PacketBlock) (found : Found) (packet : Packet) :
    ∀ line ∈ packetLines number block found packet, Plain line.toList := by
  rw [packetLines_eq,listing]
  simp only [List.forall_mem_cons,List.forall_mem_append,List.forall_mem_map]
  refine ⟨plain_frontLine number block found,?_,?_,?_⟩
  · simp [packet.plain_text]
  · intro chunk _
    simp [chunkLine,chunk.plain_text]
  · split <;> simp [AreaStatus.plain_text]

/-- The chunk as a dump shows it. -/
def shownChunk (options : Options) (chunk : Chunk) : Chunk := if options.lazy then chunk else chunk.parse

/-- The text is that of a dump of the packet: so many lines, all of them plain, with a group in the second for every
chunk, and with a line for every chunk behind it. -/
structure Printed (options : Options) (packet : Packet) (text : String) (lines : List String) : Prop where
  text_eq : text = unlines lines
  split : text.toList.splitOn '\n' = lines.map String.toList ++ [[]]
  plain : ∀ line ∈ lines, Plain line.toList
  count : lines.length = 2 + packet.chunks.length + if packet.status = .complete then 0 else 1
  summary : ∃ front, lines[1]? = some (front ++ String.join (packet.chunks.map Packet.chunkSummary)) ∧
    (front ++ String.join (packet.chunks.map Packet.chunkSummary)).toList.count '[' = packet.chunks.length
  chunk : ∀ (i : Nat) (chunk : Chunk), packet.chunks[i]? = some chunk →
    lines[2 + i]? = some ("          " ++ (shownChunk options chunk).text)

theorem packetLines_shown (options : Options) (number : Nat) (block : Capture.PacketBlock) (found : Found)
    (packet : Packet) :
    packetLines number block found (if options.lazy then packet else packet.parse) =
      listing number block found packet (packet.chunks.map fun chunk => chunkLine (shownChunk options chunk)) := by
  unfold shownChunk
  cases options.lazy with
  | true => exact packetLines_eq number block found packet
  | false => exact packetLines_parse number block found packet

theorem printed_of_plain {options : Options} {number : Nat} {block : Capture.PacketBlock} {found : Found}
    {packet : Packet} {lines : List String} (plain : ∀ line ∈ lines, Plain line.toList)
    (shown : lines =
      listing number block found packet (packet.chunks.map fun chunk => chunkLine (shownChunk options chunk))) :
    Printed options packet (unlines lines) lines := by
  refine ⟨rfl,splitOn_unlines fun line member => (plain line member).newline_not_mem,plain,?_,?_,?_⟩
  all_goals rw [shown,listing]
  · have ends : packet.status.isComplete = true ↔ packet.status = .complete := by
      cases packet.status <;> simp [AreaStatus.isComplete]
    simp only [List.length_cons,List.length_append,List.length_map,ends]
    split <;> simp <;> omega
  · obtain ⟨front,text,clear⟩ := packet.exists_summaries
    refine ⟨"        " ++ front,?_,?_⟩
    · rw [List.getElem?_cons_succ,List.getElem?_cons_zero,text,String.append_assoc]
    · rw [String.toList_append,String.toList_append,List.count_append,List.count_append,
        Packet.count_bracket_summaries,List.count_eq_zero_of_not_mem clear]
      simp
  · intro i chunk there
    have inside : i < packet.chunks.length := (List.getElem?_eq_some_iff.mp there).1
    rw [Nat.add_comm,List.getElem?_cons_succ,List.getElem?_cons_succ,
      List.getElem?_append_left (by simpa using inside),List.getElem?_map,there]
    rfl

theorem decode_of_ofFrame {port : Option UInt16} {link : LinkType} {frame : Bytes} {found : Found} {packet : Packet}
    (verdict : ofFrame port link frame = .sctp found packet) :
    Frame.find? link frame = .ok (some found) ∧ Packet.decode found.payload = .ok packet := by
  unfold ofFrame at verdict
  split at verdict
  case h_3 there =>
    split at verdict
    case h_2 decoded =>
      split at verdict
      · cases verdict
        exact ⟨there,decoded⟩
      · cases verdict
    all_goals cases verdict
  all_goals cases verdict

end Verdict

namespace Ledger

theorem dump_printed (options : Options) (ledger : Ledger) (number : Nat) (block : Capture.PacketBlock) (text : String)
    (dumped : (ledger.verdict options block).dump? options number block = some text) :
    ∃ found packet lines, Frame.find? (ledger.linkFor block) block.data = .ok (some found) ∧
      Packet.decode found.payload = .ok packet ∧ Verdict.Printed options packet text lines := by
  obtain ⟨found,packet,verdict,rfl⟩ := Verdict.exists_of_dump? dumped
  obtain ⟨there,decoded⟩ := Verdict.decode_of_ofFrame verdict
  have plain := Verdict.plain_packetLines number block found (if options.lazy then packet else packet.parse)
  have shown := Verdict.packetLines_shown options number block found packet
  exact ⟨found,packet,_,there,decoded,Verdict.printed_of_plain plain shown⟩

/-- A heartbeat whose information would go on in a new line and open a group, and an ERROR chunk with a cause of the
code that two newlines make, in front of two octets more. -/
def forgedHeartbeat : Capture.PacketBlock :=
  .enhanced 0 1700000000 58 58
    [0x45, 0, 0, 58, 0, 1, 0x40, 0, 64, 132, 0, 0, 10, 0, 0, 1, 10, 0, 0, 2,
      0x0B, 0x59, 0x0B, 0x5A, 0, 0, 0, 1, 0, 0, 0, 0,
      4, 0, 0, 16, 0, 1, 0, 12, 0x0A, 0x5B, 0x20, 0x0A, 0x31, 0x20, 0x20, 0xFF, 9, 0, 0, 8, 0x0A, 0x0A, 0, 4, 0, 0]

def forgedHeartbeatDump : String :=
  unlines ["    1   1970-01-01 00:28:20.000000 UTC 10.0.0.1 -> 10.0.0.2 (58 bytes)",
    "        SCTP Layer, Src port: 2905, Dst port: 2906, Verification Tag: 1, Chunks:  [ 4 , 16 , 16 ]  [ 9 , 8 , 8 ] ",
    "          heartbeat len=16 info=8", "          error len=8 causes=0xa0a", "          (2 trailing bytes at 24)"]

theorem dump_printed_forgedHeartbeat :
    (fresh.verdict { dump := true } forgedHeartbeat).dump? { dump := true } 1 forgedHeartbeat =
        some forgedHeartbeatDump ∧
      ∃ found packet lines,
        Frame.find? (fresh.linkFor forgedHeartbeat) forgedHeartbeat.data = .ok (some found) ∧
          Packet.decode found.payload = .ok packet ∧
            Verdict.Printed { dump := true } packet forgedHeartbeatDump lines := by
  have dumped : (fresh.verdict { dump := true } forgedHeartbeat).dump? { dump := true } 1 forgedHeartbeat =
      some forgedHeartbeatDump := by
    decide +kernel
  exact ⟨dumped,dump_printed { dump := true } fresh 1 forgedHeartbeat forgedHeartbeatDump dumped⟩

end Ledger

end Report

end Sctp
