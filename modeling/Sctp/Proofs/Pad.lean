import Sctp.Proofs.CutFrame
import Sctp.Proofs.Runs

/-! Blocks whose data goes on behind the captured octets, as it does where the data is filled up to a
multiple of four. The count of octets leaves the pad out, but a frame is read with its pad: where a
length that is stated in the frame reaches into it, the pad is taken for SCTP (`payload_reaches_pad`,
`enter_snappedCookieEcho`). The main statement is `enter_trimmed`: where no length reaches into the pad,
a block comes to what its captured octets come to, and its dump differs in the size of the frame alone. -/
namespace Sctp

namespace Capture.PacketBlock

/-- The block with the captured octets alone. -/
def trimmed : PacketBlock → PacketBlock
  | record seconds fraction captured wire data =>
    record seconds fraction captured wire (data.take captured.toNat)
  | enhanced high low captured wire data => enhanced high low captured wire (data.take captured.toNat)
  | simple wire data => simple wire (data.take (min wire (.ofNat data.length)).toNat)

/-- The data is the captured octets and a pad. -/
def IsPadded (block : PacketBlock) : Prop :=
  block.capturedLength ≤ block.data.length ∧ block.data.length ≤ block.capturedLength + 3

theorem data_trimmed (block : PacketBlock) : block.trimmed.data = block.data.take block.capturedLength := by
  cases block <;> rfl

theorem time_trimmed (block : PacketBlock) : block.trimmed.time = block.time := by
  cases block <;> rfl

theorem capturedLength_trimmed (block : PacketBlock) : block.trimmed.capturedLength = block.capturedLength := by
  cases block with
  | record seconds fraction captured wire data => rfl
  | enhanced high low captured wire data => rfl
  | simple wire data =>
    simp only [trimmed,capturedLength,UInt32.toNat_min,UInt32.toNat_ofNat',List.length_take]
    omega

end Capture.PacketBlock

namespace Frame

/-- A payload that reaches behind the captured octets is made of what was captured of it and of octets of
the pad. -/
theorem payload_reaches_pad {link : LinkType} {block : Capture.PacketBlock} {found : Found} {headers : Bytes}
    (behind : StartsBehind link block.data found headers) (whole : headers.length ≤ block.capturedLength)
    (reaches : block.capturedLength < headers.length + found.payload.length) :
    ∃ part pad, found.payload = part ++ pad ∧ pad ≠ [] ∧
      find? link block.trimmed.data = .ok (some { found with payload := part }) := by
  have part := behind.enough _ whole
  rw [Nat.min_eq_right (by omega),← Capture.PacketBlock.data_trimmed] at part
  refine ⟨_,_,(List.take_append_drop _ _).symm,?_,part⟩
  intro empty
  have size := congrArg List.length empty
  rw [List.length_drop,List.length_nil] at size
  omega

end Frame

namespace Report

open Sctp.Frame Sctp.Capture

/-- The same lines, but for the size of the frame at the end of the first one. -/
inductive SameButSize (size other : Nat) : Option (List String) → Option (List String) → Prop
  | nothing : SameButSize size other none none
  | lines (start : String) (rest : List String) :
    SameButSize size other (some (s!"{start} ({size} bytes)" :: rest)) (some (s!"{start} ({other} bytes)" :: rest))

/-- Nothing is read from the pad of the block: it completes no header, and the payload ends before it. -/
structure PadUnread (link : LinkType) (block : PacketBlock) : Prop where
  headers : IsTooShort (find? link block.trimmed.data) → IsTooShort (find? link block.data)
  payload : ∀ found headers, StartsBehind link block.data found headers →
    headers.length + found.payload.length ≤ block.capturedLength

section Frames
variable {link : LinkType} {block : PacketBlock}

/-- It is enough that the lengths end the payload before the pad. -/
theorem PadUnread.of_find? {found part : Found} {place : Nat} (whole : find? link block.data = .ok (some found))
    (reached : find? link (block.data.take place) = .ok (some part))
    (ends : place + found.payload.length ≤ block.capturedLength) : PadUnread link block := by
  have within : ∀ found' headers, StartsBehind link block.data found' headers →
      headers.length + found'.payload.length ≤ block.capturedLength := by
    intro found' headers behind
    obtain rfl : found' = found := Option.some.inj (Except.ok.inj (behind.reached.symm.trans whole))
    have first : headers.length ≤ place := by
      by_contra short
      obtain ⟨header,refused⟩ := (behind.short place).mpr (Nat.not_le.mp short)
      cases refused.symm.trans reached
    omega
  refine ⟨?_,within⟩
  obtain ⟨headers,behind⟩ := startsBehind_find? link block.data found whole
  rw [PacketBlock.data_trimmed,behind.short]
  intro less
  have ends' := within found headers behind
  omega

/-- The captured octets lead to the same place, or both are too short. -/
theorem PadUnread.find?_trimmed (unread : PadUnread link block) :
    find? link block.trimmed.data = find? link block.data ∨
      IsTooShort (find? link block.trimmed.data) ∧ IsTooShort (find? link block.data) := by
  have cut := cutOf_find? link block.data block.capturedLength
  rw [← PacketBlock.data_trimmed] at cut
  generalize part : find? link block.trimmed.data = reached at cut
  generalize full : find? link block.data = whole at cut
  cases cut with
  | tooShort header whole => exact .inr ⟨⟨header,rfl⟩,full ▸ unread.headers ⟨header,part⟩⟩
  | fault fault => exact .inl rfl
  | nothing => exact .inl rfl
  | found src dst part payload front =>
    obtain ⟨headers,behind⟩ := startsBehind_find? _ _ _ full
    have ends := unread.payload _ _ behind
    have same := behind.enough block.capturedLength (by omega)
    rw [← PacketBlock.data_trimmed,part,Nat.min_eq_left (by omega),List.take_length] at same
    exact .inl same

end Frames

namespace Verdict

/-- The same verdict, or two headers that are not there as a whole. -/
inductive Alike : Verdict → Verdict → Prop
  | same (verdict : Verdict) : Alike verdict verdict
  | tooShort (header other : HeaderName) : Alike (unreadable (.tooShort header)) (unreadable (.tooShort other))

theorem Alike.charges {verdict other : Verdict} (alike : Alike verdict other) (options : Options) :
    verdict.charges options = other.charges options := by
  cases alike <;> rfl

theorem alike_trimmed {link : LinkType} {block : PacketBlock} (unread : PadUnread link block)
    (port : Option UInt16) : Alike (ofFrame port link block.trimmed.data) (ofFrame port link block.data) := by
  obtain same | ⟨⟨header,short⟩,⟨other,short'⟩⟩ := unread.find?_trimmed
  · rw [ofFrame,same]
    exact .same _
  · rw [ofFrame,ofFrame,short,short']
    exact .tooShort header other

theorem sameButSize_packetLines (number : Nat) (block : PacketBlock) (found : Found) (packet : Packet) :
    SameButSize block.data.length block.trimmed.data.length (some (packetLines number block found packet))
      (some (packetLines number block.trimmed found packet)) := by
  rw [packetLines,packetLines,PacketBlock.time_trimmed]
  exact .lines _ _

theorem Alike.sameButSize {verdict other : Verdict} (alike : Alike other verdict) (options : Options)
    (number : Nat) (block : PacketBlock) :
    SameButSize block.data.length block.trimmed.data.length (verdict.dumpLines? options number block)
      (other.dumpLines? options number block.trimmed) := by
  cases alike with
  | tooShort header other => exact .nothing
  | same =>
    cases verdict with
    | sctp found packet =>
      rw [dumpLines?,dumpLines?]
      by_cases dump : options.dump
      · rw [if_pos dump,if_pos dump]
        exact sameButSize_packetLines _ _ _ _
      · rw [if_neg dump,if_neg dump]
        exact .nothing
    | unreadable _ | otherTraffic | tooShort _ | filtered _ => exact .nothing

end Verdict

namespace Ledger

theorem count_trimmed (options : Options) (block : PacketBlock) (verdict : Verdict) (tally : Tally) :
    count options block.trimmed verdict tally = count options block verdict tally := by
  rw [count,count,PacketBlock.capturedLength_trimmed]

theorem enter_trimmed (options : Options) (ledger : Ledger) (number : Nat) (block : PacketBlock) :
    (∀ counter, counter = .packets ∨ counter = .octets →
      (ledger.enter options block.trimmed).total.get counter = (ledger.enter options block).total.get counter) ∧
    (ledger.linkFor block.trimmed = ledger.linkFor block → PadUnread (ledger.linkFor block) block →
      ledger.enter options block.trimmed = ledger.enter options block ∧
        SameButSize block.data.length block.trimmed.data.length
          ((ledger.verdict options block).dumpLines? options number block)
          ((ledger.verdict options block.trimmed).dumpLines? options number block.trimmed)) := by
  constructor
  · intro counter general
    rw [get_total_enter,get_total_enter]
    obtain rfl | rfl := general
    · rfl
    · exact congrArg _ (PacketBlock.capturedLength_trimmed block)
  intro looks unread
  have alike : Verdict.Alike (ledger.verdict options block.trimmed) (ledger.verdict options block) := by
    rw [verdict,looks]
    exact Verdict.alike_trimmed unread options.port
  refine ⟨?_,alike.sameButSize options number block⟩
  rw [enter,enter,looks,count_trimmed,count,alike.charges]
  rfl

/-- A tagged COOKIE ACK in a block with a pad. -/
def paddedCookieAck : PacketBlock := .enhanced 0 1700000000 54 54 taggedCookieAck

theorem enter_paddedCookieAck :
    fresh.linkFor paddedCookieAck.trimmed = fresh.linkFor paddedCookieAck ∧
      PadUnread (fresh.linkFor paddedCookieAck) paddedCookieAck ∧
        fresh.enter {} paddedCookieAck.trimmed = fresh.enter {} paddedCookieAck := by
  have looks : fresh.linkFor paddedCookieAck.trimmed = fresh.linkFor paddedCookieAck := by decide +kernel
  have unread : PadUnread (fresh.linkFor paddedCookieAck) paddedCookieAck := by
    have whole : find? (fresh.linkFor paddedCookieAck) paddedCookieAck.data =
        .ok (some ⟨.v4 ⟨[10,0,0,1],rfl⟩,.v4 ⟨[10,0,0,2],rfl⟩,(taggedCookieAck.drop 38).take 16⟩) := by
      decide +kernel
    have reached : find? (fresh.linkFor paddedCookieAck) (paddedCookieAck.data.take 38) =
        .ok (some ⟨.v4 ⟨[10,0,0,1],rfl⟩,.v4 ⟨[10,0,0,2],rfl⟩,[]⟩) := by
      decide +kernel
    exact .of_find? whole reached (by decide)
  exact ⟨looks,unread,((enter_trimmed {} fresh 1 paddedCookieAck).2 looks unread).1⟩

/-- A COOKIE ECHO over IPv4 that says it has four octets of a cookie, of which two were captured. -/
def snappedCookieEcho : PacketBlock :=
  .enhanced 0 1700000000 38 40
    [0x45, 0, 0, 40, 0, 1, 0x40, 0, 64, 132, 0, 0, 10, 0, 0, 1, 10, 0, 0, 2,
      0x0B, 0x59, 0x0B, 0x5A, 0, 0, 0, 1, 0, 0, 0, 0, 10, 0, 0, 8, 0xAA, 0xBB, 0, 0]

/-- The pad is read as the rest of the cookie. -/
theorem enter_snappedCookieEcho :
    snappedCookieEcho.IsPadded ∧
      (fresh.enter {} snappedCookieEcho).total.get .truncated = 0 ∧
      (fresh.enter {} snappedCookieEcho.trimmed).total.get .truncated = 1 ∧
      (fresh.verdict { dump := true } snappedCookieEcho).dump? { dump := true } 1 snappedCookieEcho ≠
        (fresh.verdict { dump := true } snappedCookieEcho.trimmed).dump? { dump := true } 1
          snappedCookieEcho.trimmed :=
  ⟨⟨by decide,by decide⟩,by decide +kernel,by decide +kernel,by decide +kernel⟩

end Ledger

end Report

end Sctp
