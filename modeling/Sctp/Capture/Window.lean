import Sctp.Bytes

/-! The octets of a file as a reader has them: some are in the buffer, and the others are still to be read. A read
moves octets into the buffer or, when there are none left, shows the end of the file (`Window.Fills`). -/
namespace Sctp.Capture

def capacity : Nat := 65536

/-- The octets of a file that are in the buffer and those still to be read, and whether a read has come
back empty. -/
structure Window where
  buffered : Bytes
  unread : Bytes
  ended : Bool
  deriving DecidableEq

namespace Window

def ofFile (file : Bytes) : Window := ⟨file.take capacity, file.drop capacity, file.isEmpty⟩

def toList (window : Window) : Bytes := window.buffered ++ window.unread

/-- A read gives some of the octets that are left, no more than there is room for, or it gives none and so
shows the end of the file. -/
inductive Fills : Window → Window → Prop
  | portion (buffered portion rest : Bytes) (some_octet : portion ≠ [])
    (room : buffered.length + portion.length ≤ capacity) :
    Fills ⟨buffered,portion ++ rest,false⟩ ⟨buffered ++ portion,rest,false⟩
  | nothing (buffered : Bytes) : Fills ⟨buffered,[],false⟩ ⟨buffered,[],true⟩

/-- Goes down as octets are read or taken, and once more when the end of the file shows. -/
def weight (window : Window) : Nat :=
  2 * window.buffered.length + 3 * window.unread.length + if window.ended then 0 else 1

theorem Fills.weight_lt {window later : Window} (fills : window.Fills later) : later.weight < window.weight := by
  cases fills with
  | portion buffered portion rest some_octet room =>
    have octets := List.length_pos_iff.mpr some_octet
    simp only [weight,List.length_append]
    omega
  | nothing buffered =>
    simp only [weight,Bool.false_eq_true,if_false,if_true]
    omega

/-- What the window still holds of a file; at the end of the file nothing is left to read. -/
structure Holds (window : Window) (octets : Bytes) : Prop where
  there : window.toList = octets
  seen : window.ended = true → window.unread = []

namespace Holds

theorem ofFile (file : Bytes) : (ofFile file).Holds file := by
  refine ⟨List.take_append_drop _ _,?_⟩
  intro ended
  change file.drop capacity = []
  rw [List.isEmpty_iff.mp ended,List.drop_nil]

theorem fills {window later : Window} {octets : Bytes} (holds : window.Holds octets) (fills : window.Fills later) :
    later.Holds octets := by
  cases fills with
  | portion buffered portion rest some_octet room =>
    refine ⟨?_,nofun⟩
    rw [← holds.there,toList,toList,List.append_assoc]
  | nothing buffered => exact ⟨holds.there,fun _ => rfl⟩

theorem all_of_ended {window : Window} {octets : Bytes} (holds : window.Holds octets)
    (ended : window.ended = true) : window.buffered = octets := by
  rw [← holds.there,toList,holds.seen ended,List.append_nil]

/-- A front that has been taken out of the buffer leaves the octets behind it. -/
theorem behind {window : Window} {piece more rest : Bytes} (holds : window.Holds (piece ++ rest))
    (front : window.buffered = piece ++ more) : Holds { window with buffered := more } rest := by
  refine ⟨?_,holds.seen⟩
  have there := holds.there
  rw [toList,front,List.append_assoc] at there
  exact List.append_cancel_left there

end Holds

end Window

end Sctp.Capture
