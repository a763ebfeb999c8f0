import Sctp.Capture.Delimits
import Sctp.Capture.Pcap
import Sctp.Capture.Window

/-! The reader of captures that a run goes by, as the laws it keeps, and the loop over its answers. How blocks
stand in octets is a `Grammar`; a `Reader` finds them through a buffer that it fills up from the file. What a turn of
the loop can do is in `Reader.reaches`; every turn makes the window less, so that the reading of every file ends. -/
namespace Sctp.Capture

/-- How the blocks of a capture stand in its octets. -/
structure Grammar where
  /-- What the form of the next block depends on. -/
  Form : Type
  /-- The form of records of the layout. -/
  records : Pcap.Layout → Form
  /-- The form of the blocks at the start of a file of sections. -/
  sections : Form
  /-- The block that stands at the front, the form of the next one, and the octets behind. -/
  block : Form → Bytes → Scan (Block × Form × Bytes)
  /-- The octets that are asked for where none are there. -/
  least : Form → Nat
  block_records : ∀ layout octets, block (records layout) octets =
    (Pcap.record layout octets).andThen fun (packet, rest) => .found (.packet packet, records layout, rest)
  block_nil : ∀ form, block form [] = .missing (least form)
  delimits : ∀ {form later : Form} {octets after : Bytes} {value : Block},
    block form octets = .found (value, later, after) →
      ∃ piece, 12 ≤ piece.length ∧ octets = piece ++ after ∧
        Delimits (block form) piece fun more => (value, later, more)

/-- Whether a file is one of sections: its first section header has to be there as a whole. -/
def Grammar.startsSection (grammar : Grammar) (octets : Bytes) : Bool :=
  octets.take 4 == [0x0A, 0x0D, 0x0D, 0x0A] && (grammar.block grammar.sections octets).isFound

/-- The answer of a reader that is asked for the next block. The size of a block is what has to be consumed of it. -/
inductive Next (State : Type)
  | block (size : Nat) (value : Block) (read : State)
  | eof
  | incomplete
  | failed (fault : ReadError)

/-- A reader of captures. It is asked for the next block; a block is then consumed, and after an answer that it
is incomplete the buffer is to be filled up. -/
structure Reader extends Grammar where
  State : Type
  form : State → Form
  window : State → Window
  start : Form → Window → State
  next : State → Next State
  consume : Nat → State → State
  refill : State → State
  form_start : ∀ first octets, form (start first octets) = first
  window_start : ∀ first octets, window (start first octets) = octets
  /-- The file ends where nothing is buffered and a read has come back empty. -/
  eof : ∀ {state}, (window state).buffered = [] → (window state).ended = true → next state = .eof
  /-- A block that is all in the buffer is handed over, and to consume it leaves what stands behind it. -/
  found : ∀ {state value later rest},
    block (form state) (window state).buffered = .found (value, later, rest) →
      ∃ size read, next state = .block size value read ∧ form (consume size read) = later ∧
        window (consume size read) = { window state with buffered := rest }
  refused : ∀ {state fault}, block (form state) (window state).buffered = .refused fault →
    next state = .failed (.refused fault)
  /-- The file ends within a block. -/
  unexpectedEof : ∀ {state count}, (window state).buffered ≠ [] → (window state).ended = true →
    block (form state) (window state).buffered = .missing count → next state = .failed .unexpectedEof
  /-- There is no room for what is missing of a block. -/
  bufferTooSmall : ∀ {state count}, (window state).ended = false →
    block (form state) (window state).buffered = .missing count →
      capacity ≤ (window state).buffered.length + count → next state = .failed .bufferTooSmall
  incomplete : ∀ {state count}, (window state).ended = false →
    block (form state) (window state).buffered = .missing count →
      (window state).buffered.length + count < capacity → next state = .incomplete
  form_refill : ∀ state, form (refill state) = form state
  fills : ∀ {state}, (window state).ended = false → (window state).buffered.length < capacity →
    (window state).Fills (window (refill state))

/-- What a turn of the loop comes to: a block is taken, the buffer is filled up, or the loop stops. -/
inductive Step (State : Type)
  | yield (block : Block) (later : State)
  | refill (later : State)
  | stop (ending : Except ReadError Unit)

namespace Reader
variable (reader : Reader)

def step (state : reader.State) : Step reader.State :=
  match reader.next state with
  | .block size value read => .yield value (reader.consume size read)
  | .eof => .stop (.ok ())
  | .incomplete => .refill (reader.refill state)
  | .failed fault => .stop (.error fault)

section Laws
variable {reader} {state : reader.State}

theorem step_of_found {value : Block} {later : reader.Form} {rest : Bytes}
    (found : reader.block (reader.form state) (reader.window state).buffered = .found (value, later, rest)) :
    ∃ after, reader.step state = .yield value after ∧ reader.form after = later ∧
      reader.window after = { reader.window state with buffered := rest } := by
  obtain ⟨size,read,answer,form,window⟩ := reader.found found
  refine ⟨_,?_,form,window⟩
  rw [step,answer]

theorem step_of_eof (nothing : (reader.window state).buffered = []) (ended : (reader.window state).ended = true) :
    reader.step state = .stop (.ok ()) := by
  rw [step,reader.eof nothing ended]

theorem step_of_refused {fault : BlockFault}
    (refused : reader.block (reader.form state) (reader.window state).buffered = .refused fault) :
    reader.step state = .stop (.error (.refused fault)) := by
  rw [step,reader.refused refused]

section Missing
variable {count : Nat} (missing : reader.block (reader.form state) (reader.window state).buffered = .missing count)
include missing

theorem step_of_cut (some_octet : (reader.window state).buffered ≠ []) (ended : (reader.window state).ended = true) :
    reader.step state = .stop (.error .unexpectedEof) := by
  rw [step,reader.unexpectedEof some_octet ended missing]

theorem step_of_large (going : (reader.window state).ended = false)
    (large : capacity ≤ (reader.window state).buffered.length + count) :
    reader.step state = .stop (.error .bufferTooSmall) := by
  rw [step,reader.bufferTooSmall going missing large]

theorem step_of_incomplete (going : (reader.window state).ended = false)
    (room : (reader.window state).buffered.length + count < capacity) :
    reader.step state = .refill (reader.refill state) := by
  rw [step,reader.incomplete going missing room]

end Missing

end Laws

/-- All that a turn can do, and when it does it. -/
inductive Reaches (state : reader.State) : Step reader.State → Prop
  | yield (value : Block) (later : reader.State) (piece rest : Bytes)
    (buffered : (reader.window state).buffered = piece ++ rest) (size : 12 ≤ piece.length)
    (found : reader.block (reader.form state) (piece ++ rest) = .found (value, reader.form later, rest))
    (left : reader.window later = { reader.window state with buffered := rest }) :
    Reaches state (.yield value later)
  | refill (count : Nat) (missing : reader.block (reader.form state) (reader.window state).buffered = .missing count)
    (going : (reader.window state).ended = false) (room : (reader.window state).buffered.length + count < capacity)
    (fills : (reader.window state).Fills (reader.window (reader.refill state))) :
    Reaches state (.refill (reader.refill state))
  | done (nothing : (reader.window state).buffered = []) (ended : (reader.window state).ended = true) :
    Reaches state (.stop (.ok ()))
  | failed (fault : ReadError) : Reaches state (.stop (.error fault))

theorem reaches (state : reader.State) : reader.Reaches state (reader.step state) := by
  cases scanned : reader.block (reader.form state) (reader.window state).buffered with
  | found result =>
    obtain ⟨value,later,rest⟩ := result
    obtain ⟨after,stepped,rfl,left⟩ := step_of_found scanned
    obtain ⟨piece,size,buffered,-⟩ := reader.delimits scanned
    rw [buffered] at scanned
    rw [stepped]
    exact .yield _ _ _ _ buffered size scanned left
  | refused fault =>
    rw [step_of_refused scanned]
    exact .failed _
  | missing count =>
    cases ended : (reader.window state).ended with
    | true =>
      by_cases nothing : (reader.window state).buffered = []
      · rw [step_of_eof nothing ended]
        exact .done nothing ended
      · rw [step_of_cut scanned nothing ended]
        exact .failed _
    | false =>
      by_cases large : capacity ≤ (reader.window state).buffered.length + count
      · rw [step_of_large scanned ended large]
        exact .failed _
      · have room := Nat.not_le.mp large
        rw [step_of_incomplete scanned ended room]
        exact .refill _ scanned ended room (reader.fills ended (Nat.lt_of_le_of_lt (Nat.le_add_right _ _) room))

section Weight
variable {reader} {state later : reader.State}

theorem weight_of_yield {value : Block} (stepped : reader.step state = .yield value later) :
    (reader.window later).weight < (reader.window state).weight := by
  have reached := reader.reaches state
  rw [stepped] at reached
  cases reached with
  | yield _ _ piece rest buffered size found left =>
    rw [left]
    simp only [Window.weight,buffered,List.length_append]
    omega

theorem weight_of_refill (stepped : reader.step state = .refill later) :
    (reader.window later).weight < (reader.window state).weight := by
  have reached := reader.reaches state
  rw [stepped] at reached
  cases reached with
  | refill count missing going room fills => exact fills.weight_lt

end Weight

/-- The blocks of a capture from the state on, as far as they can be read, and how that ends. -/
def read (state : reader.State) : List Block × Except ReadError Unit :=
  match _ : reader.step state with
  | .yield block later =>
    let rest := read later
    (block :: rest.1, rest.2)
  | .refill later => read later
  | .stop ending => ([], ending)
  termination_by (reader.window state).weight
  decreasing_by
    · exact weight_of_yield (by assumption)
    · exact weight_of_refill (by assumption)

end Reader

end Sctp.Capture
