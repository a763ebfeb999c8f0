import Sctp.Proofs.Runs
import Mathlib.Algebra.BigOperators.Group.List.Lemmas

/-! Counting in batches is plain counting: wherever a run is flushed, both tallies together hold a sum
over its packets, each with the link type that it is read by, and the dumps follow from the same. Two
ledgers that agree up to a flush stay so (`Agree.step`). The main statement is `batched`. -/
namespace Sctp.Report

namespace Ledger

/-- The ledgers differ at most in what has been settled already. -/
structure Agree (left right : Ledger) : Prop where
  link : left.link = right.link
  total : left.total = right.total

namespace Agree
variable {left right : Ledger} (agree : Agree left right)
include agree

theorem flush : Agree left.flush right := ⟨agree.link, (total_flush left).trans agree.total⟩

theorem enter (options : Options) (block : Capture.PacketBlock) :
    Agree (left.enter options block) (right.enter options block) := by
  have same : left.linkFor block = right.linkFor block := by rw [linkFor,agree.link,linkFor]
  refine ⟨by rw [link_enter,link_enter,same],?_⟩
  apply Tally.ext_get
  intro counter
  rw [get_total_enter,get_total_enter,agree.total,same]

theorem step (options : Options) (next : Step) : Agree (left.step options next) (right.step options next) := by
  cases next with
  | packet number block => exact agree.enter options block
  | link link => exact ⟨rfl,agree.total⟩
  | flush => exact ⟨agree.link,by rw [Ledger.step,Ledger.step,total_flush,total_flush,agree.total]⟩

theorem run_unflushed (options : Options) (steps : List Step) :
    Agree (left.run options steps) (right.run options (steps.filter fun step => !step.isFlush)) := by
  induction steps generalizing left right with
  | nil => exact agree
  | cons next rest ih =>
    cases next with
    | packet number block => exact ih (agree.step options _)
    | link link => exact ih (agree.step options _)
    | flush => exact ih agree.flush

end Agree

theorem inForce_of_unset {link : LinkType} {before : List Step} (unset : ∀ step ∈ before, step.link? = none)
    (block : Capture.PacketBlock) : inForce (some link) before block = link := by
  have none_set : before.filterMap Step.link? = [] := List.filterMap_eq_nil_iff.mpr unset
  rw [inForce,lastSet,none_set]
  rfl

theorem contributions_of_unset (options : Options) (counter : Counter) {link : LinkType} {before rest : List Step}
    (unset : ∀ step ∈ before ++ rest, step.link? = none) :
    ((callsFrom (some link) before rest).map fun call => contribution options call.link call.block counter) =
      (rest.filterMap Step.block?).map fun block => contribution options link block counter := by
  induction rest generalizing before with
  | nil => rfl
  | cons next rest ih =>
    rw [List.append_cons] at unset
    have later := ih unset
    cases next with
    | packet number block =>
      have linked : inForce (some link) before block = link := by
        apply inForce_of_unset
        intro step member
        exact unset step (List.mem_append_left _ (List.mem_append_left _ member))
      rw [callsFrom,List.map_cons,linked,later]
      rfl
    | link link => exact later
    | flush => exact later

structure Batched (options : Options) (start : Ledger) (steps : List Step) : Prop where
  total : ∀ counter, (start.run options steps).total.get counter =
    start.total.get counter +
      ((calls start.link steps).map fun call => contribution options call.link call.block counter).sum
  flush : ∀ ledger : Ledger, ledger.flush.total = ledger.total ∧ ledger.settleIfDue.total = ledger.total
  unflushed : (start.run options (steps.filter fun step => !step.isFlush)).total = (start.run options steps).total
  link : ∀ before number block after, steps = before ++ .packet number block :: after →
    (start.run options before).linkFor block = inForce start.link before block
  dumps : dumps options start steps = (calls start.link steps).map (Call.dump? options)
  permuted : ∀ link others, start.link = some link → (∀ step ∈ steps ++ others, step.link? = none) →
    (steps.filterMap Step.block?).Perm (others.filterMap Step.block?) →
      (start.run options steps).total = (start.run options others).total

theorem batched (options : Options) (start : Ledger) (steps : List Step) : Batched options start steps where
  total := get_total_run options start steps
  flush ledger := ⟨total_flush ledger, total_settleIfDue ledger⟩
  unflushed := (Agree.run_unflushed ⟨rfl, rfl⟩ options steps).total.symm
  link before _ block _ _ := linkFor_run options start before block
  dumps := dumps_run_from options start [] steps
  permuted := by
    intro link others linked unset permuted
    apply Tally.ext_get
    intro counter
    have unset_steps : ∀ step ∈ [] ++ steps, step.link? = none := fun step member =>
      unset step (List.mem_append_left _ member)
    have unset_others : ∀ step ∈ [] ++ others, step.link? = none := fun step member =>
      unset step (List.mem_append_right _ member)
    rw [get_total_run,get_total_run,linked,calls,calls,contributions_of_unset options counter unset_steps,
      contributions_of_unset options counter unset_others]
    exact congrArg _ (permuted.map _).sum_eq

end Ledger

end Sctp.Report
