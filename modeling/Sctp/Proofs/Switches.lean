import Sctp.Proofs.Deferred
import Sctp.Proofs.Overflow

/-! What the switches of a report leave alone. Whether packets are dumped and whether their parameters are read
moves no counter, and whether checksums are looked at moves one counter and no dump; this holds of both tallies
at every place of a run. Only a build that checks its arithmetic may give a run up over a dump, where the time of the
packet overflows. Of the two dumps that a packet can have only the lines of some chunks differ (`Relisted`). The main
statement is `indifferent`. -/
namespace Sctp

/-- The kinds of chunk whose text tells more once their parameters have been read. -/
def ChunkKind.isReworded : ChunkKind → Bool
  | initAck | heartbeat | heartbeatAck | abort | error => true
  | _ => false

theorem Chunk.text_parse_of_kept {chunk : Chunk} (kept : chunk.kind.isReworded = false) :
    chunk.parse.text = chunk.text := by
  obtain ⟨raw,content⟩ := chunk
  cases content with
  | initAck _ _ | heartbeat _ | heartbeatAck _ | abort _ | error _ => cases kept
  | init fields found => cases found <;> rfl
  | _ => rfl

theorem Packet.text_parse (packet : Packet) : packet.parse.text = packet.text := by
  rw [parse_eq_parsedAt,text_parsedAt]

namespace Report

namespace Verdict

/-- The first line of a dump: the number of the packet, its time, its addresses and the size of its frame. -/
def frontLine (number : Nat) (block : Capture.PacketBlock) (found : Found) : String :=
  let place := Text.padLeft ' ' 5 (toString number)
  s!"{place}   {block.time.text} {found.src.text} -> {found.dst.text} ({block.data.length} bytes)"

def chunkLine (chunk : Chunk) : String := "          " ++ chunk.text

/-- A dump of the packet that has the given lines for its chunks. -/
def listing (number : Nat) (block : Capture.PacketBlock) (found : Found) (packet : Packet)
    (chunkLines : List String) : List String :=
  frontLine number block found :: ("        " ++ packet.text) ::
    (chunkLines ++ if packet.status.isComplete then [] else ["          (" ++ packet.status.text ++ ")"])

theorem packetLines_eq (number : Nat) (block : Capture.PacketBlock) (found : Found) (packet : Packet) :
    packetLines number block found packet = listing number block found packet (packet.chunks.map chunkLine) := rfl

theorem packetLines_parse (number : Nat) (block : Capture.PacketBlock) (found : Found) (packet : Packet) :
    packetLines number block found packet.parse =
      listing number block found packet (packet.chunks.map fun chunk => chunkLine chunk.parse) := by
  rw [packetLines_eq,listing,listing,packet.text_parse,Packet.parse,List.map_map]
  rfl

/-- Two dumps of a packet under one number. Each has a line for every chunk, the line is the same in both but for
some kinds of chunk, and all other lines are the same. -/
inductive Relisted (number : Nat) (block : Capture.PacketBlock) (found : Found) (packet : Packet) :
    List String → List String → Prop
  | listings (left right : List String) (left_lines : left.length = packet.chunks.length)
    (right_lines : right.length = packet.chunks.length)
    (same : ∀ (i : Nat) (chunk : Chunk),
      packet.chunks[i]? = some chunk → chunk.kind.isReworded = false → left[i]? = right[i]?) :
    Relisted number block found packet (listing number block found packet left)
      (listing number block found packet right)

theorem relisted_parse (number : Nat) (block : Capture.PacketBlock) (found : Found) (packet : Packet) :
    Relisted number block found packet (packetLines number block found packet)
      (packetLines number block found packet.parse) := by
  rw [packetLines_eq,packetLines_parse]
  refine .listings _ _ (List.length_map _) (List.length_map _) ?_
  intro i chunk there kept
  rw [List.getElem?_map,List.getElem?_map,there,Option.map_some,Option.map_some,chunkLine,chunkLine,
    Chunk.text_parse_of_kept kept]

/-- The dump of a packet without its parameters and that with them: there is neither, or there are both. -/
inductive Redumped (number : Nat) (block : Capture.PacketBlock) : Verdict → Option String → Option String → Prop
  | neither (verdict : Verdict) (other : verdict.packet? = none) : Redumped number block verdict none none
  | both (found : Found) (packet : Packet) (left right : List String)
    (relisted : Relisted number block found packet left right) :
    Redumped number block (.sctp found packet) (some (Text.unlines left)) (some (Text.unlines right))

theorem redumped (options : Options) (number : Nat) (block : Capture.PacketBlock) (verdict : Verdict) :
    Redumped number block verdict
      (verdict.dump? { options with dump := true, lazy := true } number block)
      (verdict.dump? { options with dump := true, lazy := false } number block) := by
  cases verdict with
  | sctp found packet => exact .both found packet _ _ (relisted_parse number block found packet)
  | _ => exact .neither _ rfl

theorem isSome_dump? (options : Options) (number : Nat) (block : Capture.PacketBlock) (verdict : Verdict) :
    (verdict.dump? options number block).isSome = (options.dump && verdict.packet?.isSome) := by
  obtain ⟨dump,lazy,port,checksum⟩ := options
  cases verdict with
  | sctp found packet => cases dump <;> rfl
  | _ => cases dump <;> rfl

theorem charge_checksum (options : Options) (checksum : Bool) (block : Capture.PacketBlock) (verdict : Verdict)
    {counter : Counter} (other : counter ≠ .badChecksum) :
    verdict.charge { options with checksum := checksum } block counter = verdict.charge options block counter := by
  have mismatch : ∀ wrong : Bool, (if wrong then [Counter.badChecksum] else []).count counter = 0 := by
    intro wrong
    cases wrong with
    | true => exact List.count_singleton.trans (if_neg (by simpa using Ne.symm other))
    | false => rfl
  have same : (verdict.charges { options with checksum := checksum }).count counter =
      (verdict.charges options).count counter := by
    cases verdict with
    | sctp found packet =>
      simp only [charges,List.count_cons,List.count_append,mismatch]
    | _ => rfl
  cases counter with
  | packets | octets => rfl
  | _ => exact same

end Verdict

namespace Ledger

/-- The ledgers differ at most in how many wrong checksums they count. -/
structure AgreeOnSound (left right : Ledger) : Prop where
  link : left.link = right.link
  current : ∀ counter, counter ≠ .badChecksum → left.current.get counter = right.current.get counter
  settled : ∀ counter, counter ≠ .badChecksum → left.settled.get counter = right.settled.get counter

namespace AgreeOnSound
variable {left right : Ledger} (agree : AgreeOnSound left right)
include agree

theorem flush : AgreeOnSound left.flush right.flush := by
  refine ⟨agree.link,fun _ _ => rfl,?_⟩
  intro counter other
  simp only [Ledger.flush,Tally.get_add,agree.settled counter other,agree.current counter other]

theorem settleIfDue : AgreeOnSound left.settleIfDue right.settleIfDue := by
  have due : isDue left.current = isDue right.current := by
    rw [isDue,agree.current .packets nofun,isDue]
  rw [Ledger.settleIfDue,Ledger.settleIfDue,due]
  split
  · exact agree.flush
  · exact agree

theorem enter (options : Options) (checksum : Bool) (block : Capture.PacketBlock) :
    AgreeOnSound (left.enter { options with checksum := checksum } block) (right.enter options block) := by
  have same : left.linkFor block = right.linkFor block := by rw [linkFor,agree.link,linkFor]
  apply settleIfDue
  refine ⟨congrArg some same,?_,agree.settled⟩
  intro counter other
  rw [get_count,get_count,agree.current counter other,Verdict.charge_checksum _ _ _ _ other,verdict,verdict,same]

theorem step (options : Options) (checksum : Bool) (next : Step) :
    AgreeOnSound (left.step { options with checksum := checksum } next) (right.step options next) := by
  cases next with
  | packet number block => exact agree.enter options checksum block
  | link link => exact ⟨rfl,agree.current,agree.settled⟩
  | flush => exact agree.flush

theorem run (options : Options) (checksum : Bool) (steps : List Step) :
    AgreeOnSound (left.run { options with checksum := checksum } steps) (right.run options steps) := by
  induction steps generalizing left right with
  | nil => exact agree
  | cons next rest ih => exact ih (agree.step options checksum next)

end AgreeOnSound

theorem step_dump_lazy (options : Options) (dump lazy : Bool) (ledger : Ledger) (next : Step) :
    ledger.step { options with dump := dump, lazy := lazy } next = ledger.step options next := by
  cases next with
  | packet number block =>
    have charges : ∀ verdict : Verdict,
        verdict.charges { options with dump := dump, lazy := lazy } = verdict.charges options := by
      intro verdict
      cases verdict <;> rfl
    simp only [step,enter,count,verdict,charges]
  | link link => rfl
  | flush => rfl

theorem run_dump_lazy (options : Options) (dump lazy : Bool) (ledger : Ledger) (steps : List Step) :
    ledger.run { options with dump := dump, lazy := lazy } steps = ledger.run options steps := by
  induction steps generalizing ledger with
  | nil => rfl
  | cons next rest ih =>
    rw [run,run,List.foldl_cons,List.foldl_cons,step_dump_lazy]
    exact ih _

theorem printed_checksum (arithmetic : Capture.Arithmetic) (options : Options) (checksum : Bool) (ledger : Ledger)
    (steps : List Step) :
    ledger.printed arithmetic { options with checksum := checksum } steps =
      ledger.printed arithmetic options steps := by
  have dump : Call.dump? { options with checksum := checksum } = Call.dump? options := by
    funext call
    rw [Call.dump?,Call.dump?]
    cases Verdict.ofFrame options.port call.link call.block.data <;> rfl
  have aborts : Call.aborts arithmetic { options with checksum := checksum } = Call.aborts arithmetic options := by
    funext call
    rw [Call.aborts,Call.aborts,Call.verdict,Call.verdict]
    cases Verdict.ofFrame options.port call.link call.block.data <;> rfl
  rw [printed_eq,printed_eq,dump,aborts]

theorem run?_checksum (arithmetic : Capture.Arithmetic) (options : Options) (checksum : Bool) (start : Ledger)
    (steps : List Step) :
    Option.Rel AgreeOnSound (start.run? arithmetic { options with checksum := checksum } steps)
      (start.run? arithmetic options steps) := by
  have same := run?_eq_none_iff arithmetic { options with checksum := checksum } start steps
  cases ended : start.run? arithmetic options steps with
  | none =>
    rw [same.mpr ((run?_eq_none_iff arithmetic options start steps).mp ended)]
    exact .none
  | some ledger =>
    cases ended' : start.run? arithmetic { options with checksum := checksum } steps with
    | none =>
      rw [(run?_eq_none_iff arithmetic options start steps).mpr (same.mp ended')] at ended
      cases ended
    | some ledger' =>
      rw [eq_run_of_run? _ _ _ ended,eq_run_of_run? _ _ _ ended']
      exact .some (AgreeOnSound.run ⟨rfl,fun _ _ => rfl,fun _ _ => rfl⟩ options checksum steps)

/-- What the switches leave alone in a run. Both tallies and the link type are the same whatever is dumped, where
arithmetic wraps without exception, and where it is checked unless a time overflows, over which the run with dumps is
given up; what is looked at of checksums shows in one counter; a packet that comes next is dumped if dumps are asked
for and it is counted as SCTP, and its two dumps differ as little as can be. -/
structure Indifferent (arithmetic : Capture.Arithmetic) (options : Options) (start : Ledger) (steps : List Step) :
    Prop where
  written : ∀ dump lazy, (arithmetic = .checked → dump = true → ¬ Overflows options start.link steps) →
    start.run? arithmetic { options with dump := dump, lazy := lazy } steps = some (start.run options steps)
  given_up : ∀ lazy, arithmetic = .checked → Overflows options start.link steps →
    start.run? arithmetic { options with dump := true, lazy := lazy } steps = none
  checked : ∀ checksum, Option.Rel AgreeOnSound
    (start.run? arithmetic { options with checksum := checksum } steps) (start.run? arithmetic options steps)
  dumps : ∀ checksum,
    start.printed arithmetic { options with checksum := checksum } steps = start.printed arithmetic options steps
  dumped : ∀ number block later dump,
    (start.run options steps).process? arithmetic options number block = some (later,dump) →
      (dump.isSome = true ↔ options.dump = true ∧
        later.total.get .sctp = (start.run options steps).total.get .sctp + 1)
  redumped : ∀ number block,
    Verdict.Redumped number block ((start.run options steps).verdict options block)
      (((start.run options steps).verdict options block).dump?
        { options with dump := true, lazy := true } number block)
      (((start.run options steps).verdict options block).dump?
        { options with dump := true, lazy := false } number block)

theorem indifferent (arithmetic : Capture.Arithmetic) (options : Options) (start : Ledger) (steps : List Step) :
    Indifferent arithmetic options start steps where
  written dump lazy fits := by
    rw [run?_eq_run arithmetic { options with dump := dump, lazy := lazy } start fits]
    exact congrArg some (run_dump_lazy options dump lazy start steps)
  given_up lazy checked overflows := by
    rw [run?_eq_none_iff]
    exact ⟨checked,rfl,overflows⟩
  checked checksum := run?_checksum arithmetic options checksum start steps
  dumps checksum := printed_checksum arithmetic options checksum start steps
  dumped number block later dump processed := by
    rw [process?,Option.ite_none_left_eq_some] at processed
    obtain ⟨-,same⟩ := processed
    obtain ⟨rfl,rfl⟩ := Prod.mk.inj (Option.some.inj same)
    rw [Verdict.isSome_dump?,get_total_enter,contribution,← verdict,charge_sctp,Bool.and_eq_true]
    cases ((start.run options steps).verdict options block).packet? <;> simp
  redumped number block := Verdict.redumped options number block _

end Ledger

end Report

end Sctp
