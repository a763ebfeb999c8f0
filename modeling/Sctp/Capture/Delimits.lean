import Sctp.Capture.Block

/-! What it is to be a block among other octets. Whatever stands behind a block, the block is found and what is
behind it is left; and of a block that is cut, octets are missing, though never more than belong to it
(`Delimits`). A block that is read part by part is taken apart in the same way. -/
namespace Sctp.Capture

/-- A front of the octets that is shorter than a first piece of them is a front of that piece. -/
theorem exists_inner {front rest piece after : Bytes} (same : front ++ rest = piece ++ after)
    (longer : front.length ≤ piece.length) : ∃ inner, piece = front ++ inner := by
  obtain ⟨inner,whole⟩ := List.prefix_of_prefix_length_le (same ▸ List.prefix_append front rest)
    (List.prefix_append piece after) longer
  exact ⟨inner,whole.symm⟩

/-- The piece is a block of its own to the reader, with a result that leaves what is behind. -/
structure Delimits {α : Type} (read : Bytes → Scan α) (piece : Bytes) (result : Bytes → α) : Prop where
  whole : ∀ more, read (piece ++ more) = .found (result more)
  part : ∀ n < piece.length, ∃ count, read (piece.take n) = .missing count ∧ n + count ≤ piece.length

namespace Delimits

variable {α β : Type} {read : Bytes → Scan α} {piece : Bytes} {result : Bytes → α}

theorem nil (result : Bytes → α) : Delimits (fun more => .found (result more)) [] result :=
  ⟨fun _ => rfl,nofun⟩

/-- A second look at the result, without regard to what is behind. -/
theorem andThen (delimits : Delimits read piece result) {next : α → Scan β} {later : Bytes → β}
    (goes_on : ∀ more, next (result more) = .found (later more)) :
    Delimits (fun octets => (read octets).andThen next) piece later := by
  constructor
  · intro more
    rw [delimits.whole]
    exact goes_on more
  · intro n less
    obtain ⟨count,cut,few⟩ := delimits.part n less
    refine ⟨count,?_,few⟩
    rw [cut]
    rfl

/-- A front that is asked for before the reader goes on. -/
theorem of_front {next : Bytes → Scan α} {front inner : Bytes} (inside : Delimits next inner result)
    (passes : ∀ other, read (front ++ other) = next other)
    (short : ∀ n < front.length, ∃ count, read (front.take n) = .missing count ∧
      n + count ≤ front.length + inner.length) : Delimits read (front ++ inner) result := by
  constructor
  · intro more
    rw [List.append_assoc,passes,inside.whole]
  · intro n less
    rw [List.length_append] at less ⊢
    by_cases within : n < front.length
    · rw [List.take_append_of_le_length (Nat.le_of_lt within)]
      exact short n within
    · obtain ⟨count,cut,few⟩ := inside.part (n - front.length) (by omega)
      refine ⟨count,?_,by omega⟩
      rw [List.take_append,List.take_of_length_le (Nat.not_lt.mp within),passes,cut]

/-- The reader behind a front of the piece. -/
theorem behind {front inner : Bytes} (delimits : Delimits read (front ++ inner) result) :
    Delimits (fun other => read (front ++ other)) inner result := by
  constructor
  · intro more
    rw [← List.append_assoc,delimits.whole]
  · intro n less
    obtain ⟨count,cut,few⟩ := delimits.part (front.length + n) (by rw [List.length_append]; omega)
    rw [List.length_append] at few
    rw [List.take_length_add_append] at cut
    exact ⟨count,cut,by omega⟩

theorem of_split {next : Bytes × Bytes → Scan α} {front inner : Bytes} {size : Nat} (whole : front.length = size)
    (inside : Delimits (fun rest => next (front,rest)) inner result) :
    Delimits (fun octets => (Scan.split size octets).andThen next) (front ++ inner) result := by
  subst whole
  refine inside.of_front ?_ ?_
  · intro other
    rw [Scan.split_of_le _ _ (by rw [List.length_append]; omega),List.take_left,List.drop_left]
    rfl
  · intro n less
    have size : (front.take n).length = n := List.length_take_of_le (Nat.le_of_lt less)
    refine ⟨front.length - n,?_,by omega⟩
    rw [Scan.split_of_lt _ _ (by rw [size]; exact less),size]
    rfl

/-- A least number of octets that has to be there before the first of them are looked at. -/
theorem of_least {opened next : Bytes → Scan α} {front inner : Bytes} {least : Nat}
    (enough : least ≤ (front ++ inner).length) (fixed : front.length ≤ least)
    (passes : ∀ other, opened (front ++ other) = next other) (inside : Delimits next inner result) :
    Delimits (fun octets => (Scan.split least octets).andThen fun _ => opened octets) (front ++ inner) result := by
  constructor
  · intro more
    rw [Scan.split_of_le _ _ (by rw [List.length_append]; omega),List.append_assoc]
    exact (passes _).trans (inside.whole more)
  · intro n less
    have size : ((front ++ inner).take n).length = n := List.length_take_of_le (Nat.le_of_lt less)
    by_cases few : n < least
    · refine ⟨least - n,?_,by omega⟩
      rw [Scan.split_of_lt _ _ (by rw [size]; exact few),size]
      rfl
    · rw [List.length_append] at less
      obtain ⟨count,cut,bound⟩ := inside.part (n - front.length) (by omega)
      refine ⟨count,?_,by rw [List.length_append]; omega⟩
      rw [Scan.split_of_le _ _ (by rw [size]; omega)]
      change opened ((front ++ inner).take n) = _
      rw [List.take_append,List.take_of_length_le (by omega),passes,cut]

end Delimits

end Sctp.Capture
