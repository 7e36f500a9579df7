import CsoMaster.Runs
import Mathlib.Data.Multiset.Filter
import Mathlib.Data.Set.Insert

/-! Who is in, and who is on the books. Whoever is admitted is entered there first; whoever leaves
is struck off, or the entry stays behind and keeps its place taken. -/
namespace CsoMaster

structure Register (κ : Type) where
  accounts : Multiset κ
  rows : Set κ

namespace Register
open Runs
variable {κ : Type}

inductive Move (κ : Type) where
  | enter (k : κ)
  | release (k : κ)
  | strand (k : κ)

def apply [DecidableEq κ] (r : Register κ) : Move κ → Register κ
  | .enter k => ⟨k ::ₘ r.accounts,insert k r.rows⟩
  | .release k => ⟨r.accounts.erase k,r.rows \ {k}⟩
  | .strand k => ⟨r.accounts.erase k,r.rows⟩

-- While all is clear no entry stays behind.
def Allowed (clear : Prop) (r : Register κ) : Move κ → Prop
  | .enter k => k ∉ r.rows
  | .release k => k ∈ r.accounts
  | .strand k => k ∈ r.accounts ∧ ¬ clear

structure Held (r : Register κ) : Prop where
  once : r.accounts.Nodup
  booked : ∀ k ∈ r.accounts, k ∈ r.rows

def stranded (r : Register κ) : Set κ := {k | k ∈ r.rows ∧ k ∉ r.accounts}

variable {r : Register κ}

-- Nobody is on the books that is not in.
theorem Held.exact (held : r.Held) (none : r.stranded = ∅) : r.rows = {k | k ∈ r.accounts} := by
  refine Set.Subset.antisymm (fun k row => ?_) held.booked
  by_contra out
  have left : k ∈ r.stranded := ⟨row,out⟩
  rw [none] at left
  exact left

variable [DecidableEq κ] {clear : Prop} {t : Register κ} {m : Move κ}

theorem applyHeld (held : r.Held) (allowed : r.Allowed clear m) : (r.apply m).Held := by
  have fewer (k : κ) : (r.accounts.erase k).Nodup ∧ ∀ j ∈ r.accounts.erase k, j ≠ k ∧ j ∈ r.rows := by
    refine ⟨held.once.erase k,fun j mem => ?_⟩
    obtain ⟨other,before⟩ := held.once.mem_erase_iff.mp mem
    exact ⟨other,held.booked j before⟩
  cases m with
  | enter k =>
    refine ⟨Multiset.nodup_cons.mpr ⟨fun mem => allowed (held.booked k mem),held.once⟩,fun j mem => ?_⟩
    exact (Multiset.mem_cons.mp mem).imp id (held.booked j)
  | release k => exact ⟨(fewer k).1,fun j mem => ⟨((fewer k).2 j mem).2,((fewer k).2 j mem).1⟩⟩
  | strand k => exact ⟨(fewer k).1,fun j mem => ((fewer k).2 j mem).2⟩

-- Nothing a move does takes a stranded entry away, and while all is clear none is added.
theorem applyStranded (held : r.Held) (allowed : r.Allowed clear m) :
    r.stranded ⊆ (r.apply m).stranded ∧ (clear → (r.apply m).stranded = r.stranded) := by
  cases m with
  | enter k =>
    have same : (r.apply (.enter k)).stranded = r.stranded := by
      ext j
      simp only [stranded,apply,Set.mem_ofPred_eq,Set.mem_insert_iff,Multiset.mem_cons]
      constructor
      · rintro ⟨own | row,out⟩
        · exact absurd (.inl own) out
        · exact ⟨row,fun mem => out (.inr mem)⟩
      · rintro ⟨row,out⟩
        refine ⟨.inr row,fun mem => ?_⟩
        rcases mem with rfl | mem
        · exact allowed row
        · exact out mem
    exact ⟨same.ge,fun _ => same⟩
  | release k =>
    have same : (r.apply (.release k)).stranded = r.stranded := by
      ext j
      simp only [stranded,apply,Set.mem_ofPred_eq,Set.mem_sdiff,Set.mem_singleton_iff,held.once.mem_erase_iff]
      constructor
      · rintro ⟨⟨row,other⟩,out⟩
        exact ⟨row,fun mem => out ⟨other,mem⟩⟩
      · rintro ⟨row,out⟩
        refine ⟨⟨row,?_⟩,fun mem => out mem.2⟩
        rintro rfl
        exact out allowed
    exact ⟨same.ge,fun _ => same⟩
  | strand k =>
    refine ⟨fun j ⟨row,out⟩ => ⟨row,fun mem => out (Multiset.mem_of_mem_erase mem)⟩,fun calm => absurd calm allowed.2⟩

theorem reachesStranded (held : r.Held) (reaches : Reaches apply (Allowed clear) r t) :
    t.Held ∧ r.stranded ⊆ t.stranded ∧ (clear → t.stranded = r.stranded) := by
  refine Reaches.invariant
    (fun (q : Register κ) m (before : q.Held ∧ r.stranded ⊆ q.stranded ∧ (clear → q.stranded = r.stranded)) allowed => ?_)
    reaches ⟨held,subset_rfl,fun _ => rfl⟩
  obtain ⟨more,same⟩ := applyStranded before.1 allowed
  exact ⟨applyHeld before.1 allowed,before.2.1.trans more,fun calm => (same calm).trans (before.2.2 calm)⟩

end Register
end CsoMaster
