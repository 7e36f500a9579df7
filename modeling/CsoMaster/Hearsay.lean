import CsoMaster.Runs
import Mathlib.Data.List.Induction
import Mathlib.Data.Set.Basic
import Mathlib.Logic.Function.Basic

/-! Parties that tell each other facts about themselves over a network that may lose, repeat, reorder
and misroute what they say, and to which anybody may write whose words tell nothing. What a party
holds about another it has been told, and what it was told was so. Nothing here depends on what
the parties, the messages and the facts are. -/
namespace CsoMaster.Hearsay
open Runs

-- A party's state after an event of its own or a message, and what it says then.
structure Protocol (σ ε μ : Type) where
  act : σ → ε → σ × List μ
  receive : σ → μ → σ × List μ

-- All parties, and all that has ever been said.
structure Network (ι σ μ : Type) where
  party : ι → σ
  said : List μ

inductive Event (ι ε μ : Type) where
  | act (i : ι) (e : ε)
  | deliver (i : ι) (m : μ)

section Protocol
variable {ι σ ε μ κ : Type} [DecidableEq ι] (p : Protocol σ ε μ)

def Network.perform (n : Network ι σ μ) (i : ι) (result : σ × List μ) : Network ι σ μ :=
  ⟨Function.update n.party i result.1,n.said ++ result.2⟩

def step (n : Network ι σ μ) : Event ι ε μ → Network ι σ μ
  | .act i e => n.perform i (p.act (n.party i) e)
  | .deliver i m => n.perform i (p.receive (n.party i) m)

-- What is so of a party, what a message tells, what a party holds of others, who takes part, and
-- what else is known of those.
structure Facts (ι σ μ κ : Type) where
  now : σ → Set κ
  tells : μ → Set (ι × κ)
  holds : σ → Set (ι × κ)
  member : ι → Prop
  sound : ι → σ → Prop

variable (f : Facts ι σ μ κ)

-- Something is delivered that has been said, or that tells nothing.
def Admissible (n : Network ι σ μ) : Event ι ε μ → Prop
  | .act i _ => f.member i
  | .deliver i m => f.member i ∧ (m ∈ n.said ∨ f.tells m = ∅)

-- What one step of one party does: it says what is so of itself or what it holds, and holds no
-- more than it held and has been told.
structure Honest (i : ι) (s : σ) (told : Set (ι × κ)) (result : σ × List μ) : Prop where
  utters : ∀ m ∈ result.2, ∀ fact ∈ f.tells m,
    (fact.1 = i ∧ (fact.2 ∈ f.now s ∨ fact.2 ∈ f.now result.1)) ∨ fact ∈ f.holds s ∪ told
  holds : f.holds result.1 ⊆ f.holds s ∪ told
  sound : f.sound i result.1

structure Rules : Prop where
  act : ∀ i s e, f.member i → f.sound i s → Honest f i s ∅ (p.act s e)
  receive : ∀ i s m, f.member i → f.sound i s → Honest f i s (f.tells m) (p.receive s m)

-- At some moment of the run it was so.
def Been (n : Network ι σ μ) (events : List (Event ι ε μ)) (fact : ι × κ) : Prop :=
  ∃ before, before <+: events ∧ fact.2 ∈ f.now ((run (step p) n before).party fact.1)

structure Borne (n : Network ι σ μ) (events : List (Event ι ε μ)) : Prop where
  sound : ∀ i, f.member i → f.sound i ((run (step p) n events).party i)
  holds : ∀ i, ∀ fact ∈ f.holds ((run (step p) n events).party i), Been p f n events fact
  said : ∀ m ∈ (run (step p) n events).said, ∀ fact ∈ f.tells m, Been p f n events fact

variable {p} {f} {n : Network ι σ μ} {events : List (Event ι ε μ)}

theorem Been.later {fact : ι × κ} (been : Been p f n events fact) (more : List (Event ι ε μ)) : Been p f n (events ++ more) fact := by
  obtain ⟨before,early,so⟩ := been
  exact ⟨before,early.trans (List.prefix_append events more),so⟩

theorem performBorne (borne : Borne p f n events) {e : Event ι ε μ} {i : ι} {told : Set (ι × κ)} {result : σ × List μ}
    (performs : step p (run (step p) n events) e = (run (step p) n events).perform i result)
    (honest : Honest f i ((run (step p) n events).party i) told result) (so : ∀ fact ∈ told, Been p f n events fact) :
    Borne p f n (events ++ [e]) := by
  have after : run (step p) n (events ++ [e]) = (run (step p) n events).perform i result := by
    rw [runAppend,runCons,runNil,performs]
  have own : (run (step p) n (events ++ [e])).party i = result.1 := by simp [after,Network.perform]
  have others {j : ι} (other : j ≠ i) : (run (step p) n (events ++ [e])).party j = (run (step p) n events).party j := by
    simp [after,Network.perform,other]
  have known {fact : ι × κ} (mem : fact ∈ f.holds ((run (step p) n events).party i) ∪ told) : Been p f n (events ++ [e]) fact :=
    (mem.elim (borne.holds i fact) (so fact)).later [e]
  refine ⟨fun j member => ?_,fun j fact mem => ?_,fun m mem fact told => ?_⟩
  · by_cases same : j = i
    · subst same
      exact own.symm ▸ honest.sound
    · exact (others same).symm ▸ borne.sound j member
  · by_cases same : j = i
    · subst same
      exact known (honest.holds (own ▸ mem))
    · exact (borne.holds j fact (others same ▸ mem)).later [e]
  · rw [after] at mem
    rcases List.mem_append.mp mem with before | new
    · exact (borne.said m before fact told).later [e]
    · rcases honest.utters m new fact told with ⟨self,so⟩ | held
      · rcases so with was | is
        · exact ⟨events,List.prefix_append events [e],self.symm ▸ was⟩
        · exact ⟨events ++ [e],List.prefix_refl _,by rw [self,own]; exact is⟩
      · exact known held

theorem stepBorne (rules : Rules p f) (borne : Borne p f n events) {e : Event ι ε μ}
    (admissible : Admissible f (run (step p) n events) e) : Borne p f n (events ++ [e]) := by
  cases e with
  | act i e => exact performBorne borne rfl (rules.act i _ e admissible (borne.sound i admissible)) fun _ mem => mem.elim
  | deliver i m =>
    obtain ⟨member,given⟩ := admissible
    refine performBorne borne rfl (rules.receive i _ m member (borne.sound i member)) fun fact mem => ?_
    rcases given with said | nothing
    · exact borne.said m said fact mem
    · rw [nothing] at mem
      exact mem.elim

-- Whatever happens to the messages, nobody holds what has never been so.
theorem runBorne (rules : Rules p f) (start : Borne p f n []) (admissible : Each (step p) (Admissible f) n events) :
    Borne p f n events := by
  induction events using List.reverseRecOn with
  | nil => exact start
  | append_singleton events e ih =>
    obtain ⟨before,last⟩ := eachSplit admissible
    exact stepBorne rules (ih before) last.1

end Protocol
end CsoMaster.Hearsay
