import Mathlib.Data.List.Basic

/-! A log of messages under keys, and the copy that the reader of one key keeps of something by
reading them in order. A message either opens the copy anew or changes the one there is; a
reader that no message has opened a copy for has none. -/
namespace CsoMaster

structure Replica (μ ν : Type) where
  opens : μ → Option ν
  change : ν → μ → ν

namespace Replica
variable {κ μ ν : Type} [DecidableEq κ] (R : Replica μ ν)

def absorb (held : Option ν) (m : μ) : Option ν :=
  match R.opens m with
  | some opened => some opened
  | none => held.map (R.change · m)

def copy (log : List (κ × μ)) (k : κ) : Option ν :=
  log.foldl (fun held entry => if entry.1 = k then R.absorb held entry.2 else held) none

def Ignores (m : μ) : Prop := ∀ held, R.absorb held m = held

-- What is known of a copy is still known once the message is read.
def Respects (P : Option ν → Prop) (m : μ) : Prop := ∀ held, P held → P (R.absorb held m)

-- Read twice it is as if read once.
def Settles (m : μ) : Prop := ∀ held, R.absorb (R.absorb held m) m = R.absorb held m

variable {R}
variable {log more : List (κ × μ)} {k : κ} {m : μ}

theorem absorbOpening {opened : ν} (opens : R.opens m = some opened) (held : Option ν) :
    R.absorb held m = some opened := by
  simp [absorb,opens]

theorem absorbChange (opens : R.opens m = none) (held : ν) : R.absorb (some held) m = some (R.change held m) := by
  simp [absorb,opens]

theorem ignoresOf (opens : R.opens m = none) (same : ∀ held, R.change held m = held) : R.Ignores m := by
  intro held
  cases held with
  | none => simp [absorb,opens]
  | some held => rw [absorbChange opens,same]

theorem settlesOf (opens : R.opens m = none) (twice : ∀ held, R.change (R.change held m) m = R.change held m) :
    R.Settles m := by
  intro held
  cases held with
  | none => simp [absorb,opens]
  | some held => rw [absorbChange opens,absorbChange opens,twice]

theorem copySnoc (entry : κ × μ) :
    R.copy (log ++ [entry]) k = if entry.1 = k then R.absorb (R.copy log k) entry.2 else R.copy log k := by
  rw [copy,List.foldl_append]
  rfl

theorem Ignores.respects (ignores : R.Ignores m) (P : Option ν → Prop) : R.Respects P m :=
  fun held known => (ignores held).symm ▸ known

theorem copyRespected {P : Option ν → Prop} (respected : ∀ entry ∈ more, entry.1 = k → R.Respects P entry.2)
    (known : P (R.copy log k)) : P (R.copy (log ++ more) k) := by
  induction more generalizing log with
  | nil => rwa [List.append_nil]
  | cons entry more ih =>
    rw [List.append_cons]
    refine ih (fun other mem => respected other (List.mem_cons_of_mem _ mem)) ?_
    rw [copySnoc]
    split
    · rename_i own
      exact respected entry List.mem_cons_self own _ known
    · exact known

-- What is under one key, in order.
def mail (log : List (κ × μ)) (k : κ) : List μ := log.filterMap fun entry => if entry.1 = k then some entry.2 else none

theorem mailAppend (log more : List (κ × μ)) (k : κ) : mail (log ++ more) k = mail log k ++ mail more k :=
  List.filterMap_append

theorem copyMail (log : List (κ × μ)) (k : κ) : R.copy log k = (mail log k).foldl R.absorb none := by
  rw [mail,List.foldl_filterMap]
  unfold copy
  congr
  funext held entry
  by_cases own : entry.1 = k <;> simp [own]

-- One message under many keys, under some of them more than once.
theorem copyBroadcast (settles : R.Settles m) (keys : List κ) :
    R.copy (log ++ keys.map (·,m)) k = if k ∈ keys then R.absorb (R.copy log k) m else R.copy log k := by
  induction keys generalizing log with
  | nil => simp
  | cons key keys ih =>
    rw [List.map_cons,List.append_cons,ih,copySnoc]
    by_cases own : key = k
    · subst own
      simp [settles _]
    · simp [own,Ne.symm own]

end Replica
end CsoMaster
