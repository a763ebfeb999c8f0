import Sctp.Proofs.Runs

/-! When a ledger settles its current tally. The tally counts the packets since it was settled last, whether by a
flush or because it was due, and it is due with the last packet of an interval; so it never holds a whole interval, and
where it counts no packet it counts nothing at all (`Paced`). A step keeps this (`Paced.step`), and a run from nothing
has it at every place. The main statement is `run_regular`. -/
namespace Sctp.Report.Ledger

/-- The step settles the current tally: a flush always does, and a packet does if the tally is due behind it. -/
def isSettling (options : Options) (ledger : Ledger) : Step → Bool
  | .packet _ block => isDue (count options block (ledger.verdict options block) ledger.current)
  | .link _ => false
  | .flush => true

/-- The steps of a run, each with whether it settles. -/
def trace (options : Options) (ledger : Ledger) : List Step → List (Step × Bool)
  | [] => []
  | next :: rest => (next,ledger.isSettling options next) :: trace options (ledger.step options next) rest

/-- The number of packets behind the last step that settles. -/
def unsettled (trace : List (Step × Bool)) : Nat :=
  (trace.reverse.takeWhile fun entry => !entry.2).countP fun entry => entry.1.block?.isSome

theorem trace_concat (options : Options) (ledger : Ledger) (front : List Step) (last : Step) :
    trace options ledger (front ++ [last]) =
      trace options ledger front ++ [(last,(ledger.run options front).isSettling options last)] := by
  induction front generalizing ledger with
  | nil => rfl
  | cons next rest ih => exact congrArg _ (ih (ledger.step options next))

theorem unsettled_concat (trace : List (Step × Bool)) (last : Step) (settling : Bool) :
    unsettled (trace ++ [(last,settling)]) =
      if settling then 0 else unsettled trace + if last.block?.isSome then 1 else 0 := by
  rw [unsettled,List.reverse_concat,List.takeWhile_cons]
  cases settling with
  | true => simp
  | false => simp [unsettled,List.countP_cons]

theorem isDue_iff (tally : Tally) : isDue tally = true ↔ tally.get .packets % interval = 0 := by
  simp [isDue]

theorem enter_of_settling {options : Options} {ledger : Ledger} {number : Nat} {block : Capture.PacketBlock}
    (settling : ledger.isSettling options (.packet number block) = true) :
    (ledger.enter options block).current = .zero ∧ (ledger.enter options block).settled =
      ledger.settled.add (count options block (ledger.verdict options block) ledger.current) := by
  rw [isSettling] at settling
  rw [enter,settleIfDue,if_pos settling]
  exact ⟨rfl,rfl⟩

theorem enter_of_early {options : Options} {ledger : Ledger} {number : Nat} {block : Capture.PacketBlock}
    (early : ledger.isSettling options (.packet number block) = false) :
    (ledger.enter options block).current = count options block (ledger.verdict options block) ledger.current ∧
      (ledger.enter options block).settled = ledger.settled := by
  rw [isSettling] at early
  rw [enter,settleIfDue,if_neg (Bool.eq_false_iff.mp early)]
  exact ⟨rfl,rfl⟩

/-- A tally that counts these packets since it was settled. -/
structure Paced (pending : Nat) (tally : Tally) : Prop where
  packets : tally.get .packets = pending
  below : pending < interval
  empty : pending = 0 → tally = .zero

namespace Paced

theorem zero : Paced 0 .zero := ⟨Tally.get_zero _,Nat.succ_pos _,fun _ => rfl⟩

section Steps
variable {pending : Nat} {ledger : Ledger} (paced : Paced pending ledger.current)
include paced

theorem packets_count (options : Options) (block : Capture.PacketBlock) :
    (count options block (ledger.verdict options block) ledger.current).get .packets = pending + 1 := by
  rw [get_count,paced.packets]
  rfl

theorem isSettling_packet (options : Options) (number : Nat) (block : Capture.PacketBlock) :
    ledger.isSettling options (.packet number block) = true ↔ pending + 1 = interval := by
  have below := paced.below
  rw [isSettling,isDue_iff,paced.packets_count options block]
  constructor
  · intro due
    have reached := Nat.le_of_dvd (Nat.succ_pos pending) (Nat.dvd_of_mod_eq_zero due)
    exact Nat.le_antisymm below reached
  · intro reached
    rw [reached,Nat.mod_self]

theorem isDue_current : isDue ledger.current = true ↔ ∀ counter, ledger.current.get counter = 0 := by
  rw [isDue_iff,paced.packets,Nat.mod_eq_of_lt paced.below]
  constructor
  · intro none counter
    rw [paced.empty none,Tally.get_zero]
  · intro nothing
    rw [← paced.packets,nothing .packets]

theorem step (options : Options) (next : Step) :
    Paced (if ledger.isSettling options next then 0 else pending + if next.block?.isSome then 1 else 0)
      (ledger.step options next).current := by
  cases next with
  | link link => exact paced
  | flush => exact zero
  | packet number block =>
    have settling := paced.isSettling_packet options number block
    by_cases due : ledger.isSettling options (.packet number block) = true
    · rw [if_pos due,Ledger.step,(enter_of_settling due).1]
      exact zero
    · have more : pending + 1 < interval := Nat.lt_of_le_of_ne paced.below (mt settling.mpr due)
      rw [if_neg due,Ledger.step,(enter_of_early (Bool.eq_false_iff.mpr due)).1]
      exact ⟨paced.packets_count options block,more,fun none => (Nat.succ_ne_zero pending none).elim⟩

end Steps

end Paced

theorem isDue_eq_mask (tally : Tally) : isDue tally = (tally.get .packets &&& (interval - 1) == 0) := by
  have mask : tally.get .packets &&& (interval - 1) = tally.get .packets % interval :=
    Nat.and_two_pow_sub_one_eq_mod _ 10
  rw [isDue,mask]

theorem paced_run (options : Options) (link : Option LinkType) (steps : List Step) :
    Paced (unsettled (trace options ⟨link,.zero,.zero⟩ steps)) (run options ⟨link,.zero,.zero⟩ steps).current := by
  induction steps using List.reverseRecOn with
  | nil => exact .zero
  | append_singleton front last ih =>
    rw [run_concat,trace_concat,unsettled_concat]
    exact ih.step options last

theorem interval_dvd_settled (options : Options) (link : Option LinkType) (steps : List Step)
    (unflushed : ∀ step ∈ steps, step.isFlush = false) :
    interval ∣ (run options ⟨link,.zero,.zero⟩ steps).settled.get .packets := by
  induction steps using List.reverseRecOn with
  | nil => exact Nat.dvd_zero _
  | append_singleton front last ih =>
    have before := ih fun step member => unflushed step (List.mem_append_left _ member)
    have paced := paced_run options link front
    rw [run_concat]
    cases last with
    | link link => exact before
    | flush => cases unflushed .flush (by simp)
    | packet number block =>
      rw [step]
      cases settling : (run options ⟨link,.zero,.zero⟩ front).isSettling options (.packet number block) with
      | true =>
        have reached := (paced.isSettling_packet options number block).mp settling
        rw [(enter_of_settling settling).2,Tally.get_add,paced.packets_count options block,reached]
        exact Nat.dvd_add before (Nat.dvd_refl _)
      | false =>
        rw [(enter_of_early settling).2]
        exact before

/-- A ledger that a run from nothing has led to. Its current tally counts the packets since it was settled last, fewer
than an interval; the next packet settles it if it completes the interval, and leaves nothing in it then; and between
the steps it is due only where it is empty. -/
structure Regular (options : Options) (link : Option LinkType) (steps : List Step) (ledger : Ledger) : Prop where
  pending : ledger.current.get .packets = unsettled (trace options ⟨link,.zero,.zero⟩ steps)
  below : ledger.current.get .packets < 1024
  settling : ∀ number block, ledger.isSettling options (.packet number block) = true ↔
    unsettled (trace options ⟨link,.zero,.zero⟩ steps) + 1 = 1024
  emptied : ∀ number block, ledger.isSettling options (.packet number block) = true →
    (ledger.enter options block).current = .zero ∧ (ledger.enter options block).settled =
      ledger.settled.add (count options block (ledger.verdict options block) ledger.current)
  carried : ∀ number block, ledger.isSettling options (.packet number block) = false →
    (ledger.enter options block).current = count options block (ledger.verdict options block) ledger.current ∧
      (ledger.enter options block).settled = ledger.settled
  mask : isDue ledger.current = (ledger.current.get .packets &&& (1024 - 1) == 0)
  due : isDue ledger.current = true ↔ ∀ counter, ledger.current.get counter = 0
  multiple : (∀ step ∈ steps, step.isFlush = false) → 1024 ∣ ledger.settled.get .packets

theorem run_regular (options : Options) (link : Option LinkType) (steps : List Step) :
    Regular options link steps (run options ⟨link,.zero,.zero⟩ steps) := by
  have paced := paced_run options link steps
  refine ⟨paced.packets,?_,paced.isSettling_packet options,?_,?_,isDue_eq_mask _,paced.isDue_current,
    interval_dvd_settled options link steps⟩
  · rw [paced.packets]
    exact paced.below
  · intro number block
    exact enter_of_settling
  · intro number block
    exact enter_of_early

end Sctp.Report.Ledger
