import Mathlib.Data.List.Basic

/-! Finite runs of a labelled system and the induction that carries an invariant
along one. Nothing here depends on what the states and the labels are. -/
namespace CsoMaster.Runs

section Relation
variable {σ α : Type} (step : σ → α → σ → Prop)

-- `Trace step s as t`: the labels `as`, in this order, can lead from `s` to `t`.
inductive Trace : σ → List α → σ → Prop where
  | nil (s) : Trace s [] s
  | cons {s a m as t} (first : step s a m) (rest : Trace m as t) : Trace s (a :: as) t

variable {step}

theorem traceInvariant {inv : σ → Prop} (keeps : ∀ s a t, inv s → step s a t → inv t)
    {s as t} (trace : Trace step s as t) (start : inv s) : inv t := by
  induction trace with
  | nil => exact start
  | cons first rest ih => exact ih (keeps _ _ _ start first)

end Relation

section Function
variable {σ α : Type} (step : σ → α → σ)

def run (s : σ) (as : List α) : σ := as.foldl step s

-- `P` holds in every state of the run, the first and the last included.
def Always (P : σ → Prop) (s : σ) : List α → Prop
  | [] => P s
  | a :: as => P s ∧ Always P (step s a) as

-- Every step of the run meets `ok` in the state it is taken from.
def Each (ok : σ → α → Prop) (s : σ) : List α → Prop
  | [] => True
  | a :: as => ok s a ∧ Each ok (step s a) as

-- Some run whose steps all meet `ok` leads from `s` to `t`.
def Reaches (ok : σ → α → Prop) (s t : σ) : Prop := ∃ as, Each step ok s as ∧ run step s as = t

variable {step}

@[simp] theorem runNil (s : σ) : run step s [] = s := rfl

@[simp] theorem runCons (s : σ) (a as) : run step s (a :: as) = run step (step s a) as := rfl

theorem runAppend (s : σ) (as bs) : run step s (as ++ bs) = run step (run step s as) bs := by
  simp [run]

theorem eachTrue (s : σ) (as : List α) : Each step (fun _ _ => True) s as := by
  induction as generalizing s with
  | nil => trivial
  | cons a as ih => exact ⟨trivial,ih _⟩

theorem alwaysHead {P : σ → Prop} {s as} (always : Always step P s as) : P s := by
  cases as with
  | nil => exact always
  | cons a as => exact always.1

theorem alwaysLast {P : σ → Prop} {s as} (always : Always step P s as) : P (run step s as) := by
  induction as generalizing s with
  | nil => exact always
  | cons a as ih => exact ih always.2

theorem alwaysSnoc {P : σ → Prop} {s as a} (before : Always step P s as)
    (last : P (run step s (as ++ [a]))) : Always step P s (as ++ [a]) := by
  induction as generalizing s with
  | nil => exact ⟨before,last⟩
  | cons b as ih => exact ⟨before.1,ih before.2 last⟩

theorem alwaysMono {P Q : σ → Prop} (weaker : ∀ s, P s → Q s) {s as} (always : Always step P s as) :
    Always step Q s as := by
  induction as generalizing s with
  | nil => exact weaker s always
  | cons a as ih => exact ⟨weaker s always.1,ih always.2⟩

theorem alwaysCongr {inv P Q : σ → Prop} (same : ∀ s, inv s → (P s ↔ Q s)) {s as} (always : Always step inv s as) :
    Always step P s as ↔ Always step Q s as := by
  induction as generalizing s with
  | nil => exact same s always
  | cons a as ih => exact and_congr (same s always.1) (ih always.2)

-- The invariant rule: steps that meet `ok` keep `inv`.
theorem alwaysOfEach {inv : σ → Prop} {ok : σ → α → Prop}
    (keeps : ∀ s a, inv s → ok s a → inv (step s a)) {s as} (start : inv s)
    (each : Each step ok s as) : Always step inv s as := by
  induction as generalizing s with
  | nil => exact start
  | cons a as ih => exact ⟨start,ih (keeps s a start each.1) each.2⟩

theorem runInvariant {inv : σ → Prop} {ok : σ → α → Prop}
    (keeps : ∀ s a, inv s → ok s a → inv (step s a)) {s as} (start : inv s)
    (each : Each step ok s as) : inv (run step s as) :=
  alwaysLast (alwaysOfEach keeps start each)

theorem eachAppend {ok : σ → α → Prop} {s as bs} (left : Each step ok s as)
    (right : Each step ok (run step s as) bs) : Each step ok s (as ++ bs) := by
  induction as generalizing s with
  | nil => exact right
  | cons a as ih => exact ⟨left.1,ih left.2 right⟩

theorem eachSplit {ok : σ → α → Prop} {s as bs} (each : Each step ok s (as ++ bs)) :
    Each step ok s as ∧ Each step ok (run step s as) bs := by
  induction as generalizing s with
  | nil => exact ⟨trivial,each⟩
  | cons a as ih => exact ⟨⟨each.1,(ih each.2).1⟩,(ih each.2).2⟩

theorem eachAnd {ok also : σ → α → Prop} {s as} (left : Each step ok s as) (right : Each step also s as) :
    Each step (fun s a => ok s a ∧ also s a) s as := by
  induction as generalizing s with
  | nil => trivial
  | cons a as ih => exact ⟨⟨left.1,right.1⟩,ih left.2 right.2⟩

instance eachDecidable {ok : σ → α → Prop} [∀ s a, Decidable (ok s a)] : (s : σ) → (as : List α) → Decidable (Each step ok s as)
  | _,[] => isTrue trivial
  | s,a :: as => @instDecidableAnd _ _ _ (eachDecidable (step s a) as)

theorem eachAlso {ok : σ → α → Prop} {p : α → Prop} {s as} (each : Each step ok s as) (all : ∀ a ∈ as, p a) :
    Each step (fun s a => ok s a ∧ p a) s as := by
  induction as generalizing s with
  | nil => trivial
  | cons a as ih =>
    exact ⟨⟨each.1,all a List.mem_cons_self⟩,ih each.2 fun b mem => all b (List.mem_cons_of_mem a mem)⟩

theorem reachesRefl {ok : σ → α → Prop} (s : σ) : Reaches step ok s s := ⟨[],trivial,rfl⟩

theorem reachesStep {ok : σ → α → Prop} {s : σ} {a : α} (meets : ok s a) : Reaches step ok s (step s a) :=
  ⟨[a],⟨meets,trivial⟩,rfl⟩

theorem Reaches.trans {ok : σ → α → Prop} {s m t : σ} (left : Reaches step ok s m) (right : Reaches step ok m t) :
    Reaches step ok s t := by
  obtain ⟨as,each,rfl⟩ := left
  obtain ⟨bs,also,rfl⟩ := right
  exact ⟨as ++ bs,eachAppend each also,runAppend s as bs⟩

theorem eachMono {ok also : σ → α → Prop} (weaker : ∀ s a, ok s a → also s a) {s as} (each : Each step ok s as) :
    Each step also s as := by
  induction as generalizing s with
  | nil => trivial
  | cons a as ih => exact ⟨weaker s a each.1,ih each.2⟩

theorem Reaches.mono {ok also : σ → α → Prop} {s t : σ} (reaches : Reaches step ok s t)
    (weaker : ∀ s a, ok s a → also s a) : Reaches step also s t := by
  obtain ⟨as,each,rfl⟩ := reaches
  exact ⟨as,eachMono weaker each,rfl⟩

theorem Reaches.invariant {inv : σ → Prop} {ok : σ → α → Prop}
    (keeps : ∀ s a, inv s → ok s a → inv (step s a)) {s t} (reaches : Reaches step ok s t) (start : inv s) : inv t := by
  obtain ⟨as,each,rfl⟩ := reaches
  exact runInvariant keeps start each

-- Where a step that misses `ok` always breaks `P`, the runs that keep `P` throughout are
-- exactly those whose steps all meet `ok`.
theorem alwaysIffEach {inv P : σ → Prop} {ok : σ → α → Prop}
    (keeps : ∀ s a, inv s → ok s a → inv (step s a)) (gives : ∀ s, inv s → P s)
    (breaks : ∀ s a, inv s → ¬ ok s a → ¬ P (step s a)) {s as} (start : inv s) :
    Always step P s as ↔ Each step ok s as := by
  induction as generalizing s with
  | nil => exact ⟨fun _ => trivial,fun _ => gives s start⟩
  | cons a as ih =>
    constructor
    · intro always
      have meets : ok s a := by
        by_contra misses
        exact breaks s a start misses (alwaysHead always.2)
      exact ⟨meets,(ih (keeps s a start meets)).mp always.2⟩
    · intro each
      exact ⟨gives s start,(ih (keeps s a start each.1)).mpr each.2⟩

-- What every step meets that is taken from `inv`.
theorem eachOfEach {inv : σ → Prop} {P ok : σ → α → Prop} (keeps : ∀ s a, inv s → ok s a → inv (step s a))
    (gives : ∀ s a, inv s → ok s a → P s a) {s as} (start : inv s) (each : Each step ok s as) : Each step P s as := by
  induction as generalizing s with
  | nil => trivial
  | cons a as ih => exact ⟨gives s a start each.1,ih (keeps s a start each.1) each.2⟩

-- Where steps that meet `ok` are exactly those that have `P`, so are the runs of such steps.
theorem eachIffEach {inv : σ → Prop} {P ok : σ → α → Prop} (keeps : ∀ s a, inv s → ok s a → inv (step s a))
    (same : ∀ s a, inv s → (P s a ↔ ok s a)) {s as} (start : inv s) : Each step P s as ↔ Each step ok s as := by
  induction as generalizing s with
  | nil => exact Iff.rfl
  | cons a as ih =>
    constructor
    · intro each
      have meets := (same s a start).mp each.1
      exact ⟨meets,(ih (keeps s a start meets)).mp each.2⟩
    · intro each
      exact ⟨(same s a start).mpr each.1,(ih (keeps s a start each.1)).mpr each.2⟩

end Function
end CsoMaster.Runs
