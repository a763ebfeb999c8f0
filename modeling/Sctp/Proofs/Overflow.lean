import Sctp.Proofs.Accounting
import Mathlib.Data.List.TakeWhile

/-! Runs in a build that checks its arithmetic. A packet is without a result where its dump is asked for and its time
overflows, and the run ends there; up to that packet nothing is different (`run?_from`, `printed_from`). So a run
comes to its end exactly if no such packet is in it (`run?_eq_none_iff`), and then to the ledger and the dumps that it
has in any build. -/
namespace Sctp.Report

open Capture (Arithmetic PacketBlock)

theorem Verdict.aborts_iff (arithmetic : Arithmetic) (options : Options) (block : PacketBlock) (verdict : Verdict) :
    verdict.aborts arithmetic options block = true ↔
      arithmetic = .checked ∧ options.dump = true ∧ verdict.packet?.isSome = true ∧ block.overflows = true := by
  cases verdict with
  | sctp found packet =>
    simp only [aborts,packet?,Option.isSome_some,Bool.and_eq_true,beq_iff_eq,and_assoc,true_and]
  | _ => simp [aborts,packet?]

namespace Ledger

def step? (arithmetic : Arithmetic) (options : Options) (ledger : Ledger) : Step → Option Ledger
  | .packet number block => (ledger.process? arithmetic options number block).map Prod.fst
  | .link link => some (ledger.setLink link)
  | .flush => some ledger.flush

/-- The ledger at the end of a run, unless the run is given up. -/
def run? (arithmetic : Arithmetic) (options : Options) (ledger : Ledger) : List Step → Option Ledger
  | [] => some ledger
  | step :: rest => (ledger.step? arithmetic options step).bind fun later => later.run? arithmetic options rest

/-- The dumps that are written until a run ends or is given up. -/
def printed (arithmetic : Arithmetic) (options : Options) (ledger : Ledger) : List Step → List (Option String)
  | [] => []
  | .packet number block :: rest =>
    match ledger.process? arithmetic options number block with
    | none => []
    | some (later, dump) => dump :: later.printed arithmetic options rest
  | step :: rest => printed arithmetic options (ledger.step options step) rest

def Call.verdict (options : Options) (call : Call) : Verdict :=
  .ofFrame options.port call.link call.block.data

def Call.aborts (arithmetic : Arithmetic) (options : Options) (call : Call) : Bool :=
  (call.verdict options).aborts arithmetic options call.block

/-- Some packet of the run carries SCTP and tells a time that has no place in 64 bits. -/
def Overflows (options : Options) (start : Option LinkType) (steps : List Step) : Prop :=
  ∃ call ∈ calls start steps, (call.verdict options).packet?.isSome = true ∧ call.block.overflows = true

section Run
variable (arithmetic : Arithmetic) (options : Options) (ledger : Ledger)

theorem process?_run (before : List Step) (number : Nat) (block : PacketBlock) :
    (ledger.run options before).process? arithmetic options number block =
      if Call.aborts arithmetic options ⟨number,block,inForce ledger.link before block⟩ then none
      else some ((ledger.run options before).enter options block,
        Call.dump? options ⟨number,block,inForce ledger.link before block⟩) := by
  rw [process?,verdict,linkFor_run]
  rfl

theorem run?_from (before rest : List Step) :
    (ledger.run options before).run? arithmetic options rest =
      if (callsFrom ledger.link before rest).any (Call.aborts arithmetic options) then none
      else some (ledger.run options (before ++ rest)) := by
  induction rest generalizing before with
  | nil =>
    rw [List.append_nil]
    rfl
  | cons next rest ih =>
    have later := ih (before ++ [next])
    rw [run_concat] at later
    rw [List.append_cons,run?]
    cases next with
    | packet number block =>
      rw [step?,process?_run,callsFrom,List.any_cons]
      cases Call.aborts arithmetic options ⟨number,block,inForce ledger.link before block⟩ with
      | true => rfl
      | false => exact later
    | link link => exact later
    | flush => exact later

theorem printed_from (before rest : List Step) :
    (ledger.run options before).printed arithmetic options rest =
      ((callsFrom ledger.link before rest).takeWhile fun call => !call.aborts arithmetic options).map
        (Call.dump? options) := by
  induction rest generalizing before with
  | nil => rfl
  | cons next rest ih =>
    have later := ih (before ++ [next])
    rw [run_concat] at later
    cases next with
    | packet number block =>
      rw [printed,process?_run,callsFrom,List.takeWhile_cons]
      cases Call.aborts arithmetic options ⟨number,block,inForce ledger.link before block⟩ with
      | true => rfl
      | false => exact congrArg _ later
    | link link => exact later
    | flush => exact later

theorem run?_eq (steps : List Step) :
    ledger.run? arithmetic options steps =
      if (calls ledger.link steps).any (Call.aborts arithmetic options) then none
      else some (ledger.run options steps) :=
  run?_from arithmetic options ledger [] steps

theorem printed_eq (steps : List Step) :
    ledger.printed arithmetic options steps =
      ((calls ledger.link steps).takeWhile fun call => !call.aborts arithmetic options).map (Call.dump? options) :=
  printed_from arithmetic options ledger [] steps

theorem any_aborts_iff (steps : List Step) :
    (calls ledger.link steps).any (Call.aborts arithmetic options) = true ↔
      arithmetic = .checked ∧ options.dump = true ∧ Overflows options ledger.link steps := by
  simp only [List.any_eq_true,Call.aborts,Verdict.aborts_iff,Overflows]
  constructor
  · rintro ⟨call,there,checked,dump,carried,overflows⟩
    exact ⟨checked,dump,call,there,carried,overflows⟩
  · rintro ⟨checked,dump,call,there,carried,overflows⟩
    exact ⟨call,there,checked,dump,carried,overflows⟩

theorem run?_eq_none_iff (steps : List Step) :
    ledger.run? arithmetic options steps = none ↔
      arithmetic = .checked ∧ options.dump = true ∧ Overflows options ledger.link steps := by
  rw [← any_aborts_iff,run?_eq]
  exact ite_eq_left_iff.trans (by simp)

theorem packet_mem_of_calls {start : Option LinkType} {before rest : List Step} {call : Call}
    (there : call ∈ callsFrom start before rest) : .packet call.number call.block ∈ rest := by
  induction rest generalizing before with
  | nil => cases there
  | cons next rest ih =>
    cases next with
    | packet number block =>
      obtain rfl | later := List.mem_cons.mp there
      · exact List.mem_cons_self
      · exact List.mem_cons_of_mem _ (ih later)
    | link link => exact List.mem_cons_of_mem _ (ih there)
    | flush => exact List.mem_cons_of_mem _ (ih there)

theorem not_overflows_of_packets {steps : List Step}
    (fits : ∀ number block, .packet number block ∈ steps → block.overflows = false) (start : Option LinkType) :
    ¬ Overflows options start steps := by
  rintro ⟨call,there,-,overflows⟩
  rw [fits _ _ (packet_mem_of_calls there)] at overflows
  cases overflows

/-- A run that comes to its end comes to the ledger that it has in any build. -/
theorem eq_run_of_run? {steps : List Step} {later : Ledger}
    (ended : ledger.run? arithmetic options steps = some later) : later = ledger.run options steps := by
  rw [run?_eq] at ended
  split at ended
  · cases ended
  · exact (Option.some.inj ended).symm

theorem run?_eq_run {steps : List Step}
    (fits : arithmetic = .checked → options.dump = true → ¬ Overflows options ledger.link steps) :
    ledger.run? arithmetic options steps = some (ledger.run options steps) := by
  cases ended : ledger.run? arithmetic options steps with
  | none =>
    obtain ⟨checked,dump,overflows⟩ := (run?_eq_none_iff arithmetic options ledger steps).mp ended
    exact absurd overflows (fits checked dump)
  | some later => rw [eq_run_of_run? arithmetic options ledger ended]

/-- A run that comes to its end has written the dumps of all its packets. -/
theorem printed_of_run? {steps : List Step} {later : Ledger}
    (ended : ledger.run? arithmetic options steps = some later) :
    ledger.printed arithmetic options steps = ledger.dumps options steps := by
  have fits : ¬ (calls ledger.link steps).any (Call.aborts arithmetic options) = true := by
    rw [any_aborts_iff,← run?_eq_none_iff,ended]
    nofun
  have whole : (calls ledger.link steps).takeWhile (fun call => !call.aborts arithmetic options) =
      calls ledger.link steps := by
    rw [List.takeWhile_eq_self_iff]
    intro call there
    rw [Bool.not_eq_true']
    exact Bool.eq_false_iff.mpr fun aborts => fits (List.any_eq_true.mpr ⟨call,there,aborts⟩)
  rw [printed_eq,whole]
  exact (dumps_run_from options ledger [] steps).symm

end Run

end Ledger

end Sctp.Report
