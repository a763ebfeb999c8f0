import Sctp.Capture.PacketBlock

/-! Instants in the blocks that carry them. A record tells a second and its microseconds apart; an enhanced block has
one count, of microseconds or of nanoseconds, and does not say of which. On the seconds that each form is used for, the
counts of the two lie apart (`Instant.unique`) and no result is beyond 64 bits (`Instant.fits_of_carriedBy`), so every
block is read as the instant that it carries, whatever its form. The main statement is `Instant.exists_timed`. -/
namespace Sctp.Capture

/-- The forms in which a block tells an instant: a second and its microseconds apart, or one count of micro- or of
nanoseconds. -/
inductive Form
  | apart
  | micros
  | nanos
  deriving DecidableEq

namespace Form

/-- The parts of a second. -/
def parts : Form → Nat
  | apart | micros => 1000000
  | nanos => 1000000000

/-- The nanoseconds in a part. -/
def unit : Form → Nat
  | apart | micros => 1000
  | nanos => 1

/-- The first and the last second that the form is used for. -/
def seconds : Form → Nat × Nat
  | apart | micros => (0,4294967295)
  | nanos => (100000000,4000000000)

theorem parts_unit (form : Form) : form.parts * form.unit = 1000000000 := by
  cases form <;> rfl

end Form

@[ext]
structure Instant where
  form : Form
  second : Nat
  part : Nat
  early : form.seconds.1 ≤ second
  late : second ≤ form.seconds.2
  proper : part < form.parts

namespace Instant

def nanoseconds (instant : Instant) : Nat := instant.second * 1000000000 + instant.part * instant.form.unit

/-- The parts of seconds since the start. -/
def count (instant : Instant) : Nat := instant.second * instant.form.parts + instant.part

/-- The microsecond of its second that the instant falls in. -/
def micro (instant : Instant) : Nat := instant.part * instant.form.unit / 1000

/-- The instant comes before the other by its second, or within one second by its part. -/
def Before (instant other : Instant) : Prop :=
  instant.second < other.second ∨ instant.second = other.second ∧ instant.part < other.part

inductive CarriedBy (instant : Instant) : PacketBlock → Prop
  | record (seconds fraction captured wire : UInt32) (data : Bytes) (form : instant.form = .apart)
    (second : seconds.toNat = instant.second) (part : fraction.toNat = instant.part) :
    CarriedBy instant (.record seconds fraction captured wire data)
  | enhanced (high low captured wire : UInt32) (data : Bytes) (form : instant.form ≠ .apart)
    (whole : high.toNat * 4294967296 + low.toNat = instant.count) :
    CarriedBy instant (.enhanced high low captured wire data)

theorem count_unit (instant : Instant) : instant.count * instant.form.unit = instant.nanoseconds := by
  rw [count,Nat.add_mul,Nat.mul_assoc,instant.form.parts_unit,nanoseconds]

section Forms
variable {instant : Instant}

theorem of_apart (form : instant.form = .apart) : instant.second < 4294967296 ∧ instant.part < 1000000 ∧
    instant.nanoseconds = instant.second * 1000000000 + instant.part * 1000 := by
  have late := instant.late
  have proper := instant.proper
  rw [form] at late proper
  rw [nanoseconds,form]
  exact ⟨Nat.lt_succ_of_le late,proper,rfl⟩

theorem of_micros (form : instant.form = .micros) : instant.second < 4294967296 ∧ instant.part < 1000000 ∧
    instant.count = instant.second * 1000000 + instant.part ∧
    instant.nanoseconds = instant.second * 1000000000 + instant.part * 1000 := by
  have late := instant.late
  have proper := instant.proper
  rw [form] at late proper
  rw [nanoseconds,count,form]
  exact ⟨Nat.lt_succ_of_le late,proper,rfl,rfl⟩

theorem of_nanos (form : instant.form = .nanos) : 100000000 ≤ instant.second ∧ instant.second ≤ 4000000000 ∧
    instant.part < 1000000000 ∧ instant.count = instant.second * 1000000000 + instant.part ∧
    instant.nanoseconds = instant.count := by
  have early := instant.early
  have late := instant.late
  have proper := instant.proper
  rw [form] at early late proper
  rw [nanoseconds,count,form]
  exact ⟨early,late,proper,rfl,congrArg _ (Nat.mul_one _)⟩

end Forms

theorem nanoseconds_lt (instant : Instant) : instant.nanoseconds < 18446744073709551616 := by
  cases form : instant.form with
  | apart =>
    obtain ⟨late,proper,nanoseconds⟩ := of_apart form
    omega
  | micros =>
    obtain ⟨late,proper,-,nanoseconds⟩ := of_micros form
    omega
  | nanos =>
    obtain ⟨-,late,proper,count,nanoseconds⟩ := of_nanos form
    omega

theorem count_le (instant : Instant) : instant.count ≤ instant.nanoseconds := by
  have positive : 0 < instant.form.unit := by cases instant.form <;> decide
  rw [← instant.count_unit]
  exact Nat.le_mul_of_pos_right _ positive

theorem exists_carriedBy (instant : Instant) : ∃ block, instant.CarriedBy block := by
  by_cases form : instant.form = .apart
  · obtain ⟨late,proper,-⟩ := of_apart form
    refine ⟨_,.record (.ofNat instant.second) (.ofNat instant.part) 0 0 [] form ?_ ?_⟩
    · rw [UInt32.toNat_ofNat',Nat.mod_eq_of_lt late]
    · rw [UInt32.toNat_ofNat']
      omega
  · have below := Nat.lt_of_le_of_lt instant.count_le instant.nanoseconds_lt
    refine ⟨_,.enhanced (.ofNat (instant.count / 4294967296)) (.ofNat instant.count) 0 0 [] form ?_⟩
    rw [UInt32.toNat_ofNat',UInt32.toNat_ofNat']
    omega

theorem isNanos_iff {instant : Instant} (counted : instant.form ≠ .apart) {count : UInt64}
    (whole : count.toNat = instant.count) : Timestamp.isNanos count = true ↔ instant.form = .nanos := by
  rw [Timestamp.isNanos_iff,whole]
  cases form : instant.form with
  | apart => exact absurd form counted
  | micros =>
    obtain ⟨late,proper,count,-⟩ := of_micros form
    refine iff_of_false ?_ nofun
    omega
  | nanos =>
    obtain ⟨early,late,proper,count,-⟩ := of_nanos form
    refine iff_of_true ?_ rfl
    omega

/-- The unit of a count is recognized. -/
theorem nanoseconds_enhanced {instant : Instant} (counted : instant.form ≠ .apart) {high low : UInt32}
    (whole : (Timestamp.count high low).toNat = instant.count) (captured wire : UInt32) (data : Bytes) :
    (PacketBlock.enhanced high low captured wire data).nanoseconds = instant.nanoseconds := by
  rw [PacketBlock.nanoseconds]
  cases form : instant.form with
  | apart => exact absurd form counted
  | micros =>
    obtain ⟨-,-,count,nanoseconds⟩ := of_micros form
    have other : ¬ Timestamp.isNanos (Timestamp.count high low) = true := by
      rw [isNanos_iff counted whole,form]
      exact Form.noConfusion
    rw [if_neg other,whole,count,nanoseconds]
    omega
  | nanos =>
    rw [if_pos ((isNanos_iff counted whole).mpr form),whole,(of_nanos form).2.2.2.2]

theorem nanoseconds_of_carriedBy {instant : Instant} {block : PacketBlock} (carried : instant.CarriedBy block) :
    block.nanoseconds = instant.nanoseconds := by
  cases carried with
  | record seconds fraction captured wire data form second part =>
    rw [PacketBlock.nanoseconds,second,part,(of_apart form).2.2]
  | enhanced high low captured wire data form whole =>
    exact nanoseconds_enhanced form ((Timestamp.toNat_count high low).trans whole) captured wire data

/-- No instant leads beyond 64 bits. -/
theorem fits_of_carriedBy {instant : Instant} {block : PacketBlock} (carried : instant.CarriedBy block) :
    block.overflows = false := by
  rw [Bool.eq_false_iff,ne_eq,PacketBlock.overflows_iff,nanoseconds_of_carriedBy carried]
  exact Nat.not_le.mpr instant.nanoseconds_lt

theorem time_of_carriedBy {instant : Instant} {block : PacketBlock} (carried : instant.CarriedBy block) :
    block.time.nanoseconds.toNat = instant.nanoseconds := by
  rw [PacketBlock.toNat_time_of_fits (fits_of_carriedBy carried),nanoseconds_of_carriedBy carried]

/-- Counts of microseconds and of nanoseconds are never the same, and no two instants of a form have the same count. -/
theorem eq_of_count {instant other : Instant} (counted : instant.form ≠ .apart) (counted' : other.form ≠ .apart)
    (same : instant.count = other.count) : instant = other := by
  cases form : instant.form <;> cases form' : other.form
  case apart.apart | apart.micros | apart.nanos => exact absurd form counted
  case micros.apart | nanos.apart => exact absurd form' counted'
  case micros.micros =>
    obtain ⟨-,proper,count,-⟩ := of_micros form
    obtain ⟨-,proper',count',-⟩ := of_micros form'
    ext
    · rw [form,form']
    all_goals omega
  case nanos.nanos =>
    obtain ⟨-,-,proper,count,-⟩ := of_nanos form
    obtain ⟨-,-,proper',count',-⟩ := of_nanos form'
    ext
    · rw [form,form']
    all_goals omega
  case micros.nanos =>
    obtain ⟨late,proper,count,-⟩ := of_micros form
    obtain ⟨early,-,-,count',-⟩ := of_nanos form'
    omega
  case nanos.micros =>
    obtain ⟨early,-,-,count,-⟩ := of_nanos form
    obtain ⟨late,proper,count',-⟩ := of_micros form'
    omega

theorem unique {instant other : Instant} {block : PacketBlock} (carried : instant.CarriedBy block)
    (carried' : other.CarriedBy block) : instant = other := by
  cases carried with
  | record seconds fraction captured wire data form second part =>
    obtain ⟨_,_,_,_,_,form',second',part'⟩ := carried'
    ext
    · rw [form,form']
    · rw [← second,second']
    · rw [← part,part']
  | enhanced high low captured wire data form whole =>
    cases carried' with
    | enhanced _ _ _ _ _ form' whole' => exact eq_of_count form form' (whole.symm.trans whole')

theorem nanoseconds_lt_iff {instant other : Instant} (same : instant.form = other.form) :
    instant.nanoseconds < other.nanoseconds ↔ instant.Before other := by
  rw [Before]
  cases form : instant.form with
  | apart =>
    obtain ⟨-,proper,nanoseconds⟩ := of_apart form
    obtain ⟨-,proper',nanoseconds'⟩ := of_apart (same.symm.trans form)
    omega
  | micros =>
    obtain ⟨-,proper,-,nanoseconds⟩ := of_micros form
    obtain ⟨-,proper',-,nanoseconds'⟩ := of_micros (same.symm.trans form)
    omega
  | nanos =>
    obtain ⟨-,-,proper,count,nanoseconds⟩ := of_nanos form
    obtain ⟨-,-,proper',count',nanoseconds'⟩ := of_nanos (same.symm.trans form)
    omega

theorem nanoseconds_div (instant : Instant) :
    instant.nanoseconds / 1000 = instant.second * 1000000 + instant.micro := by
  rw [nanoseconds,micro]
  omega

theorem nanoseconds_eq_of_micro {instant other : Instant} (coarse : instant.form ≠ .nanos)
    (coarse' : other.form ≠ .nanos) (second : other.second = instant.second) (micro : other.micro = instant.micro) :
    other.nanoseconds = instant.nanoseconds := by
  have whole : ∀ form : Form, form ≠ .nanos → form.unit = 1000 := by
    intro form coarse
    cases form <;> first | rfl | exact absurd rfl coarse
  simp only [Instant.micro,whole _ coarse,whole _ coarse',Nat.mul_div_cancel _ (Nat.succ_pos 999)] at micro
  rw [nanoseconds,nanoseconds,whole _ coarse,whole _ coarse',second,micro]

/-- How a block that carries an instant is timed. Its time is the instant, nothing on the way to it is beyond 64 bits,
and it carries no other. Blocks that carry instants of one microsecond agree but for what is below it, and blocks of
one form are in the order of their instants. -/
structure Timed (instant : Instant) (block : PacketBlock) : Prop where
  time : block.time.nanoseconds.toNat = instant.second * 1000000000 + instant.part * instant.form.unit
  fits : block.overflows = false
  only : ∀ other : Instant, other.CarriedBy block → other = instant
  agrees : ∀ (other : Instant) (block' : PacketBlock), other.CarriedBy block' → other.second = instant.second →
    other.micro = instant.micro → block'.time.nanoseconds / 1000 = block.time.nanoseconds / 1000 ∧
      (instant.form ≠ .nanos → other.form ≠ .nanos → block'.time = block.time)
  ordered : ∀ (other : Instant) (block' : PacketBlock), other.CarriedBy block' → instant.form = other.form →
    (block.time.nanoseconds < block'.time.nanoseconds ↔ instant.Before other)

theorem timed_of_carriedBy {instant : Instant} {block : PacketBlock} (carried : instant.CarriedBy block) :
    Timed instant block where
  time := time_of_carriedBy carried
  fits := fits_of_carriedBy carried
  only other carried' := unique carried' carried
  agrees other block' carried' second micro := by
    have upto : other.nanoseconds / 1000 = instant.nanoseconds / 1000 := by
      rw [nanoseconds_div,nanoseconds_div,second,micro]
    refine ⟨?_,fun coarse coarse' => ?_⟩
    · rw [← UInt64.toNat_inj,UInt64.toNat_div,UInt64.toNat_div,time_of_carriedBy carried,time_of_carriedBy carried']
      exact upto
    · have same : block'.time.nanoseconds = block.time.nanoseconds := by
        rw [← UInt64.toNat_inj,time_of_carriedBy carried,time_of_carriedBy carried',
          nanoseconds_eq_of_micro coarse coarse' second micro]
      exact congrArg Timestamp.mk same
  ordered other block' carried' form := by
    rw [UInt64.lt_iff_toNat_lt,time_of_carriedBy carried,time_of_carriedBy carried']
    exact nanoseconds_lt_iff form

/-- Every instant is carried by a block, and each block that carries it has its time. -/
theorem exists_timed (instant : Instant) :
    (∃ block, instant.CarriedBy block) ∧ ∀ block, instant.CarriedBy block → Timed instant block :=
  ⟨instant.exists_carriedBy,fun _ => timed_of_carriedBy⟩

/-- One microsecond in its three forms, the last with some nanoseconds more. -/
theorem exists_timed_threeForms :
    Timed ⟨.apart,1700000000,123456,by decide,by decide,by decide⟩ (.record 1700000000 123456 36 36 []) ∧
      Timed ⟨.micros,1700000000,123456,by decide,by decide,by decide⟩ (.enhanced 395812 404759104 36 36 []) ∧
      Timed ⟨.nanos,1700000000,123456789,by decide,by decide,by decide⟩ (.enhanced 395812094 1032178965 36 36 []) := by
  refine ⟨(exists_timed _).2 _ ?_,(exists_timed _).2 _ ?_,(exists_timed _).2 _ ?_⟩
  · exact .record _ _ _ _ _ rfl rfl rfl
  · exact .enhanced _ _ _ _ _ (by decide) rfl
  · exact .enhanced _ _ _ _ _ (by decide) rfl

end Instant

end Sctp.Capture
