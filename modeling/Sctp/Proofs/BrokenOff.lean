import Sctp.Proofs.Streaming

/-! Captures that are cut. Of the blocks those are read that are there as a whole, and a front of one more ends
the reading with an error, wherever the cut is and wherever the buffer ends (`Reader.read_of_brokenOff`). A
capture of the older format is cut between two records or within one (`Recording.ofFile_take`). -/
namespace Sctp.Capture

/-- Blocks that are found one behind another, and behind them a front of one more, but not all of it. -/
inductive BrokenOff (grammar : Grammar) : grammar.Form → Bytes → List Block → Prop
  | part (form later : grammar.Form) (piece : Bytes) (value : Block) (n : Nat)
    (found : grammar.block form piece = .found (value,later,[])) (fits : piece.length < capacity)
    (some_octet : 0 < n) (cut : n < piece.length) : BrokenOff grammar form (piece.take n) []
  | block (form later : grammar.Form) (piece rest : Bytes) (value : Block) (values : List Block)
    (found : grammar.block form piece = .found (value,later,[])) (fits : piece.length < capacity)
    (others : BrokenOff grammar later rest values) : BrokenOff grammar form (piece ++ rest) (value :: values)

namespace Reader
variable {reader : Reader}

theorem step_of_front {state : reader.State} {later : reader.Form} {piece : Bytes} {value : Block} {n : Nat}
    (found : reader.block (reader.form state) piece = .found (value,later,[])) (fits : piece.length < capacity)
    (some_octet : 0 < n) (cut : n < piece.length) (holds : (reader.window state).Holds (piece.take n)) :
    reader.step state = .stop (.error .unexpectedEof) ∨ reader.step state = .refill (reader.refill state) := by
  have all := congrArg List.length holds.there
  rw [Window.toList,List.length_append,List.length_take_of_le (Nat.le_of_lt cut)] at all
  have buffered : (reader.window state).buffered = piece.take (reader.window state).buffered.length := by
    have first := congrArg (List.take (reader.window state).buffered.length) holds.there
    rw [Window.toList,List.take_left,List.take_take,Nat.min_eq_left (by omega)] at first
    exact first
  obtain ⟨count,missing,few⟩ := (Grammar.delimits_piece found).part (reader.window state).buffered.length (by omega)
  rw [← buffered] at missing
  cases ended : (reader.window state).ended with
  | true =>
    rw [holds.seen ended,List.length_nil] at all
    refine .inl (step_of_cut missing ?_ ended)
    rw [List.ne_nil_iff_length_pos]
    omega
  | false => exact .inr (step_of_incomplete missing ended (by omega))

/-- The buffer is filled up as long as no other step is possible, which comes to an end. -/
theorem exists_filled {form : reader.Form} {octets : Bytes} (settled : Step reader.State → Prop)
    (next : ∀ state, reader.form state = form → (reader.window state).Holds octets →
      settled (reader.step state) ∨ reader.step state = .refill (reader.refill state))
    (state : reader.State) (formed : reader.form state = form) (holds : (reader.window state).Holds octets) :
    ∃ filled, settled (reader.step filled) ∧ reader.read state = reader.read filled := by
  -- a step that gives a block or stops is no fill-up, so only the second case goes on
  induction state using Reader.read.induct with
  | case1 state block later stepped ih =>
    obtain done | refills := next state formed holds
    · exact ⟨state,done,rfl⟩
    · cases stepped.symm.trans refills
  | case2 state later stepped ih =>
    obtain done | refills := next state formed holds
    · exact ⟨state,done,rfl⟩
    · obtain ⟨same,fills⟩ := fills_of_refill stepped
      obtain ⟨filled,done,read⟩ := ih (same.trans formed) (holds.fills fills)
      refine ⟨filled,done,?_⟩
      rw [← read,Reader.read,stepped]
  | case3 state ending stepped =>
    obtain done | refills := next state formed holds
    · exact ⟨state,done,rfl⟩
    · cases stepped.symm.trans refills

theorem read_block (state : reader.State) {later : reader.Form} {piece rest : Bytes} {value : Block}
    (found : reader.block (reader.form state) piece = .found (value,later,[])) (fits : piece.length < capacity)
    (holds : (reader.window state).Holds (piece ++ rest)) :
    ∃ after, reader.form after = later ∧ (reader.window after).Holds rest ∧
      reader.read state = (value :: (reader.read after).1,(reader.read after).2) := by
  obtain ⟨filled,⟨after,yields,form,holds'⟩,read⟩ :=
    exists_filled
      (fun step => ∃ after, step = .yield value after ∧ reader.form after = later ∧
        (reader.window after).Holds rest)
      (fun _ formed holds => step_of_block (formed ▸ found) holds fits) state rfl holds
  refine ⟨after,form,holds',?_⟩
  rw [read,Reader.read,yields]

theorem read_front (state : reader.State) {later : reader.Form} {piece : Bytes} {value : Block} {n : Nat}
    (found : reader.block (reader.form state) piece = .found (value,later,[])) (fits : piece.length < capacity)
    (some_octet : 0 < n) (cut : n < piece.length) (holds : (reader.window state).Holds (piece.take n)) :
    reader.read state = ([],.error .unexpectedEof) := by
  obtain ⟨filled,stops,read⟩ :=
    exists_filled (· = .stop (.error .unexpectedEof))
      (fun _ formed holds => step_of_front (formed ▸ found) fits some_octet cut holds) state rfl holds
  rw [read,Reader.read,stops]

theorem read_of_brokenOff (state : reader.State) {octets : Bytes} {values : List Block}
    (broken : BrokenOff reader.toGrammar (reader.form state) octets values)
    (holds : (reader.window state).Holds octets) : reader.read state = (values,.error .unexpectedEof) := by
  generalize formed : reader.form state = form at broken
  induction broken generalizing state with
  | part form later piece value n found fits some_octet cut =>
    exact read_front state (formed ▸ found) fits some_octet cut holds
  | block form later piece rest value values found fits others ih =>
    obtain ⟨after,form,holds',read⟩ := read_block state (formed ▸ found) fits holds
    rw [read,ih after holds' form]

end Reader

namespace Pcap

/-- A record in a file of the layout, whose head may be longer than the usual one. -/
structure Entry (layout : Layout) extends Record where
  surplus : Bytes
  surplus_size : surplus.length = layout.surplus
  fits_surplus : 16 + layout.surplus + data.length < capacity

namespace Entry
variable {layout : Layout}

def octets (entry : Entry layout) : Bytes := entry.head layout.order ++ (entry.surplus ++ entry.data)

theorem length_octets (entry : Entry layout) :
    entry.octets.length = 16 + layout.surplus + entry.data.length := by
  rw [octets,List.length_append,List.length_append,Record.length_head,entry.surplus_size,Nat.add_assoc]

theorem block_octets (grammar : Grammar) (entry : Entry layout) :
    grammar.block (grammar.records layout) entry.octets =
      .found (.packet entry.block,grammar.records layout,[]) := by
  rw [grammar.block_records,octets,Record.record_head layout entry.toRecord entry.surplus entry.surplus_size]
  rfl

theorem octets_fits (entry : Entry layout) : entry.octets.length < capacity := by
  rw [length_octets]
  exact entry.fits_surplus

/-- Where a record ends, counted from the end of the file header: behind all records up to it. -/
def stop (entries : List (Entry layout)) (k : Nat) : Nat := ((entries.take k).flatMap octets).length

theorem stop_cons_succ (entry : Entry layout) (rest : List (Entry layout)) (k : Nat) :
    stop (entry :: rest) (k + 1) = entry.octets.length + stop rest k := List.length_append

theorem stop_mono (entries : List (Entry layout)) {i k : Nat} (upto : i ≤ k) : stop entries i ≤ stop entries k := by
  obtain ⟨more,rfl⟩ := Nat.exists_eq_add_of_le upto
  rw [stop,stop,List.take_add,List.flatMap_append,List.length_append]
  exact Nat.le_add_right _ _

/-- The first octets of some records hold so many of them as a whole, and no more. -/
structure CutAt (entries : List (Entry layout)) (n k : Nat) : Prop where
  count : k ≤ entries.length
  whole : stop entries k ≤ n
  beyond : ∀ i, k < i → i ≤ entries.length → n < stop entries i

namespace CutAt

theorem cons {entry : Entry layout} {rest : List (Entry layout)} {n k : Nat} (cut : CutAt rest n k) :
    CutAt (entry :: rest) (entry.octets.length + n) (k + 1) where
  count := Nat.succ_le_succ cut.count
  whole := by
    rw [stop_cons_succ]
    exact Nat.add_le_add_left cut.whole _
  beyond i later inside := by
    obtain ⟨i,rfl⟩ := Nat.exists_eq_add_of_lt (Nat.zero_lt_of_lt later)
    rw [Nat.zero_add,stop_cons_succ]
    exact Nat.add_lt_add_left (cut.beyond i (by omega) (by simpa using inside)) _

theorem within {entry : Entry layout} {rest : List (Entry layout)} {n : Nat} (few : n < entry.octets.length) :
    CutAt (entry :: rest) n 0 where
  count := Nat.zero_le _
  whole := Nat.zero_le _
  beyond i later _ := by
    obtain ⟨i,rfl⟩ := Nat.exists_eq_add_of_lt later
    rw [Nat.zero_add,stop_cons_succ]
    omega

end CutAt

/-- Wherever records are cut, some of them are there as a whole, and if the cut is not between two records a part
of one more is. -/
theorem exists_cutAt (grammar : Grammar) (usual : 16 + layout.surplus < capacity) (entries : List (Entry layout))
    {n : Nat} (inside : n ≤ (entries.flatMap octets).length) :
    ∃ k, CutAt entries n k ∧
      (n = stop entries k ∧ Accepts grammar (grammar.records layout) ((entries.flatMap octets).take n)
          ((entries.take k).map (.packet ·.block)) ∨
        stop entries k < n ∧ BrokenOff grammar (grammar.records layout) ((entries.flatMap octets).take n)
          ((entries.take k).map (.packet ·.block))) := by
  have nothing : Accepts grammar (grammar.records layout) [] [] := by
    refine .nothing _ ?_
    rw [Grammar.least_records]
    exact usual
  induction entries generalizing n with
  | nil =>
    obtain rfl : n = 0 := Nat.le_zero.mp inside
    have beyond : ∀ i, 0 < i → i ≤ ([] : List (Entry layout)).length → 0 < stop ([] : List (Entry layout)) i :=
      fun _ later inside => (Nat.not_le.mpr later inside).elim
    exact ⟨0,⟨Nat.le_refl _,Nat.le_refl _,beyond⟩,.inl ⟨rfl,nothing⟩⟩
  | cons entry rest ih =>
    have found := entry.block_octets grammar
    rw [List.flatMap_cons,List.length_append] at inside
    rw [List.flatMap_cons]
    by_cases few : n < entry.octets.length
    · refine ⟨0,.within few,?_⟩
      rw [List.take_append_of_le_length (Nat.le_of_lt few)]
      cases n with
      | zero => exact .inl ⟨rfl,nothing⟩
      | succ n => exact .inr ⟨Nat.succ_pos n,.part _ _ _ _ _ found entry.octets_fits (Nat.succ_pos n) few⟩
    · obtain ⟨m,rfl⟩ := Nat.exists_eq_add_of_le (Nat.not_lt.mp few)
      obtain ⟨k,cut,there⟩ := ih (n := m) (by omega)
      refine ⟨k + 1,cut.cons,?_⟩
      rw [List.take_length_add_append,List.take_succ_cons,List.map_cons,stop_cons_succ]
      rcases there with ⟨same,accepts⟩ | ⟨more,broken⟩
      · exact .inl ⟨by omega,.block _ _ _ _ _ _ found entry.octets_fits accepts⟩
      · exact .inr ⟨by omega,.block _ _ _ _ _ _ found entry.octets_fits broken⟩

end Entry

/-- A file header and records, in one of the layouts that its first word can tell. -/
structure Savefile where
  layout : Layout
  magic : UInt32
  known : layout.surplus = 0 ∧ (magic = 0xA1B2C3D4 ∨ magic = 0xA1B23C4D) ∨
    layout = ⟨.little,8⟩ ∧ magic = 0xA1B2CD34
  /-- The version of the format, the time zone and the greatest length of a packet. -/
  details : Bytes
  sixteen : details.length = 16
  network : UInt32
  entries : List (Entry layout)

namespace Savefile

def front (capture : Savefile) : Bytes :=
  capture.layout.order.octets32 capture.magic ++
    (capture.details ++ capture.layout.order.octets32 capture.network)

def octets (capture : Savefile) : Bytes := capture.front ++ capture.entries.flatMap Entry.octets

def blocks (capture : Savefile) (k : Nat) : List Block :=
  .linkType (signed32 capture.network) :: (capture.entries.take k).map (.packet ·.block)

theorem exists_magic (capture : Savefile) :
    ∃ a b c d, capture.layout.order.octets32 capture.magic = [a,b,c,d] ∧ layout? a b c d = some capture.layout := by
  obtain ⟨⟨order,surplus⟩,magic,known,details,sixteen,network,entries⟩ := capture
  dsimp only at known ⊢
  rcases known with ⟨rfl,known⟩ | ⟨same,rfl⟩
  · exact exists_layout order known
  · obtain ⟨rfl,rfl⟩ := Layout.mk.inj same
    exact ⟨_,_,_,_,rfl,by decide⟩

theorem usual (capture : Savefile) : 16 + capture.layout.surplus < capacity := by
  have surplus : capture.layout.surplus ≤ 8 := by
    rcases capture.known with ⟨none_more,-⟩ | ⟨longer,-⟩
    · omega
    · exact Nat.le_of_eq (congrArg Layout.surplus longer)
  exact Nat.lt_of_le_of_lt (Nat.add_le_add_left surplus 16) (by decide)

theorem length_front (capture : Savefile) : capture.front.length = 24 :=
  length_words capture.layout.order capture.magic capture.network capture.sixteen

theorem header_front (capture : Savefile) (rest : Bytes) :
    header (capture.front ++ rest) = .ok (capture.layout,signed32 capture.network,rest) :=
  header_words capture.layout capture.network capture.exists_magic capture.sixteen rest

def stop (capture : Savefile) (k : Nat) : Nat := 24 + Entry.stop capture.entries k

/-- The first octets of the file hold its header and so many records as a whole, and no more of them. -/
structure CutAt (capture : Savefile) (n k : Nat) : Prop where
  count : k ≤ capture.entries.length
  whole : capture.stop k ≤ n
  beyond : ∀ i, k < i → i ≤ capture.entries.length → n < capture.stop i

/-- A cut at the end of a record is at the end of the last one that is there. -/
theorem CutAt.boundary {capture : Savefile} {n k : Nat} (cut : capture.CutAt n k) :
    n = capture.stop k ↔ ∃ i ≤ capture.entries.length, n = capture.stop i := by
  constructor
  · intro same
    exact ⟨k,cut.count,same⟩
  · rintro ⟨i,inside,rfl⟩
    have upto : i ≤ k := Nat.not_lt.mp fun later => Nat.lt_irrefl _ (cut.beyond i later inside)
    exact Nat.le_antisymm (Nat.add_le_add_left (Entry.stop_mono _ upto) 24) cut.whole

theorem length_octets (capture : Savefile) : capture.octets.length = capture.stop capture.entries.length := by
  rw [octets,List.length_append,length_front,stop,Entry.stop,List.take_length]

theorem CutAt.all {capture : Savefile} {k : Nat} (cut : capture.CutAt capture.octets.length k) :
    k = capture.entries.length := by
  refine Nat.le_antisymm cut.count (Nat.not_lt.mp fun fewer => ?_)
  have beyond := cut.beyond capture.entries.length fewer (Nat.le_refl _)
  rw [length_octets] at beyond
  exact Nat.lt_irrefl _ beyond

end Savefile

end Pcap

/-- A cut behind the file header leaves the blocks that are there as a whole; the reading ends well between two
records, and fails within one. -/
theorem Recording.ofFile_take (reader : Reader) (capture : Pcap.Savefile) {n : Nat} (header : 24 ≤ n)
    (inside : n ≤ capture.octets.length) :
    ∃ k, capture.CutAt n k ∧
      ofFile reader (capture.octets.take n) =
        .ok ⟨false,capture.blocks k,if n = capture.stop k then .ok () else .error .unexpectedEof⟩ := by
  have size := capture.length_front
  obtain ⟨m,rfl⟩ := Nat.exists_eq_add_of_le header
  rw [Pcap.Savefile.octets,List.length_append,size] at inside
  obtain ⟨k,cut,there⟩ := Pcap.Entry.exists_cutAt reader.toGrammar capture.usual capture.entries (n := m) (by omega)
  refine ⟨k,⟨cut.count,Nat.add_le_add_left cut.whole 24,?_⟩,?_⟩
  · intro i later within
    exact Nat.add_lt_add_left (cut.beyond i later within) 24
  obtain ⟨start,form,holds,read⟩ := exists_read_header reader size capture.header_front
    ((capture.entries.flatMap Pcap.Entry.octets).take m)
  rw [← form] at there
  rw [Pcap.Savefile.octets,← size,List.take_length_add_append,read,size]
  rcases there with ⟨same,accepts⟩ | ⟨more,broken⟩
  · have between : 24 + m = capture.stop k := congrArg (24 + ·) same
    rw [Reader.read_of_accepts start accepts holds,if_pos between]
    rfl
  · have within : 24 + m ≠ capture.stop k := Nat.ne_of_gt (Nat.add_lt_add_left more 24)
    rw [Reader.read_of_brokenOff start broken holds,if_neg within]
    rfl

end Sctp.Capture
