import Sctp.Bytes

/-! The CRC32c of SCTP. The register takes in octets least significant bit first, by the reflected
Castagnoli polynomial; a table of what eight single-bit steps do to each octet makes one step of them.
The result goes out with its least significant octet first, and the checksum field counts as zero. -/
namespace Sctp.Checksum

/-- One bit: shift out the lowest, and add the polynomial if it was set. -/
def shift (register : UInt32) : UInt32 :=
  if register &&& 1 = 1 then (register >>> 1) ^^^ 0x82F63B78 else register >>> 1

def shifts : Nat → UInt32 → UInt32
  | 0, register => register
  | count + 1, register => shifts count (shift register)

def entry (octet : UInt8) : UInt32 := shifts 8 octet.toUInt32

def table : Vector UInt32 256 := Vector.ofFn fun i => entry (UInt8.ofNat i.val)

theorem table_get (octet : UInt8) : table[octet.toFin] = entry octet := by
  have same : UInt8.ofNat octet.toFin.val = octet := UInt8.toNat_inj.mp (by simp)
  rw [Fin.getElem_fin, table, Vector.getElem_ofFn, same]

def step (register : UInt32) (octet : UInt8) : UInt32 :=
  table[(register ^^^ octet.toUInt32).toUInt8.toFin] ^^^ (register >>> 8)

def update (register : UInt32) (octets : Bytes) : UInt32 := octets.foldl step register

theorem update_append (register : UInt32) (front back : Bytes) :
    update register (front ++ back) = update (update register front) back := by
  simp only [update, List.foldl_append]

def initial : UInt32 := 0xFFFFFFFF

def reversed (word : UInt32) : UInt32 :=
  word32 (UInt8.ofNat word.toNat) (UInt8.ofNat (word.toNat / 256))
    (UInt8.ofNat (word.toNat / 65536)) (UInt8.ofNat (word.toNat / 16777216))

/-- The checksum field that a final register asks for. -/
def finish (register : UInt32) : UInt32 := reversed (~~~register)

/-- The checksum of a packet: octets 8 to 11, its field, are taken as zero. A packet that is shorter
than the common header is taken as it is. -/
def ofPacket (packet : Bytes) : UInt32 :=
  if (packet.take 12).length < 12 then finish (update initial packet)
  else finish (update (update (update initial (packet.take 8)) [0, 0, 0, 0]) (packet.drop 12))

end Sctp.Checksum
