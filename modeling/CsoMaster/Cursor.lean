import Mathlib.Data.List.Basic

/-! Readers that move over a row of letters, and what they make of a text. A cursor knows what
is left to read and can be moved on; a reader takes a text for a value if, with that text ahead,
it answers with the value and stands behind the text, whatever follows. A text of several words
is read word by word. -/
namespace CsoMaster

class Cursor (σ : Type) (β : outParam Type) where
  rest : σ → List β
  advance : σ → Nat → σ
  advanceZero : ∀ p, advance p 0 = p
  advanceAdd : ∀ p m n, advance (advance p m) n = advance p (m + n)
  restAdvance : ∀ p n, rest (advance p n) = (rest p).drop n

namespace Cursor

section Read
variable {σ β : Type} [Cursor σ β] {α γ : Type}

def Reads (read : StateM σ α) (text : List β) (a : α) : Prop :=
  ∀ p tail, rest p = text ++ tail → read p = (a,advance p text.length)

theorem Reads.pure (a : α) : Reads (Pure.pure a : StateM σ α) [] a :=
  fun p _ _ => congrArg (Prod.mk a) (advanceZero p).symm

theorem Reads.bind {read : StateM σ α} {next : α → StateM σ γ} {first second : List β} {a : α} {c : γ}
    (reads : Reads read first a) (continues : Reads (next a) second c) : Reads (read >>= next) (first ++ second) c := by
  intro p tail ahead
  have here : read p = (a,advance p first.length) := reads p (second ++ tail) (by rw [ahead,List.append_assoc])
  have behind : rest (advance p first.length) = second ++ tail := by
    rw [restAdvance,ahead,List.append_assoc,List.drop_left]
  have there := continues _ _ behind
  rw [advanceAdd,← List.length_append] at there
  change next (read p).1 (read p).2 = _
  rw [here]
  exact there

theorem Reads.cast {read : StateM σ α} {text text' : List β} {a : α} (reads : Reads read text a) (same : text = text') :
    Reads read text' a :=
  same ▸ reads

theorem Reads.map {read : StateM σ α} {text : List β} {a : α} (reads : Reads read text a) (f : α → γ) :
    Reads (f <$> read) text (f a) := by
  intro p tail ahead
  change (f (read p).1,(read p).2) = _
  rw [reads p tail ahead]

-- Whatever is left to read, the answer is in `P`.
def Yields (read : StateM σ α) (P : α → Prop) : Prop := ∀ p, P (read p).1

theorem Yields.pure {P : α → Prop} {a : α} (holds : P a) : Yields (Pure.pure a : StateM σ α) P := fun _ => holds

theorem Yields.bind {read : StateM σ α} {next : α → StateM σ γ} {P : α → Prop} {Q : γ → Prop} (yields : Yields read P)
    (continues : ∀ a, P a → Yields (next a) Q) : Yields (read >>= next) Q :=
  fun p => continues (read p).1 (yields p) (read p).2

theorem Yields.skip {read : StateM σ α} {next : α → StateM σ γ} {Q : γ → Prop} (continues : ∀ a, Yields (next a) Q) :
    Yields (read >>= next) Q :=
  fun p => continues (read p).1 (read p).2

end Read

section End
variable {σ β : Type} [Cursor σ β] {α γ : Type}

-- What is made of a text that nothing follows: it is read to its last letter.
def ReadsAll (read : StateM σ α) (text : List β) (a : α) : Prop := ∀ p, rest p = text → read p = (a,advance p text.length)

theorem Reads.all {read : StateM σ α} {text : List β} {a : α} (reads : Reads read text a) : ReadsAll read text a :=
  fun p ahead => reads p [] (by rw [ahead,List.append_nil])

theorem Reads.before {read : StateM σ α} {next : α → StateM σ γ} {first second : List β} {a : α} {c : γ}
    (reads : Reads read first a) (ends : ReadsAll (next a) second c) : ReadsAll (read >>= next) (first ++ second) c := by
  intro p ahead
  have behind : rest (advance p first.length) = second := by rw [restAdvance,ahead,List.drop_left]
  have there := ends _ behind
  rw [advanceAdd,← List.length_append] at there
  change next (read p).1 (read p).2 = _
  rw [reads p second ahead]
  exact there

theorem ReadsAll.map {read : StateM σ α} {text : List β} {a : α} (ends : ReadsAll read text a) (f : α → γ) :
    ReadsAll (f <$> read) text (f a) := by
  intro p ahead
  change (f (read p).1,(read p).2) = _
  rw [ends p ahead]

theorem ReadsAll.nothingLeft {read : StateM σ α} {p : σ} {a : α} (ends : ReadsAll read (rest p) a) : rest (read p).2 = [] := by
  rw [ends p rfl,restAdvance,List.drop_length]

theorem ReadsAll.cast {read : StateM σ α} {text text' : List β} {a : α} (ends : ReadsAll read text a) (same : text = text') :
    ReadsAll read text' a :=
  same ▸ ends

-- One reading after the other until nothing is left, with the number of rounds.
def readUntilEnd (one : StateM σ α) : Nat → StateM σ (List α)
  | 0 => return []
  | rounds + 1 => do
    if (rest (← get)).isEmpty then return []
    let a ← one
    return a :: (← readUntilEnd one rounds)

def readToEnd (one : StateM σ α) : StateM σ (List α) := do readUntilEnd one (rest (← get)).length

theorem readUntilEndNone (one : StateM σ α) (rounds : Nat) : ReadsAll (readUntilEnd one rounds) [] [] := by
  intro p ahead
  cases rounds with
  | zero => exact Reads.all (.pure []) p ahead
  | succ rounds =>
    have done : (rest p).isEmpty = true := by rw [ahead]; rfl
    change (if (rest p).isEmpty then pure [] else _ : StateM σ (List α)) p = _
    rw [if_pos done]
    exact Reads.all (.pure []) p ahead

theorem readUntilEndNext {one : StateM σ α} {first second : List β} {a : α} {as : List α} {rounds : Nat} (some : first ≠ [])
    (reads : Reads one first a) (ends : ReadsAll (readUntilEnd one rounds) second as) :
    ReadsAll (readUntilEnd one (rounds + 1)) (first ++ second) (a :: as) := by
  intro p ahead
  have more : ¬ (rest p).isEmpty = true := by simp [ahead,some]
  change (if (rest p).isEmpty then pure [] else do return (← one) :: (← readUntilEnd one rounds) : StateM σ (List α)) p = _
  rw [if_neg more]
  exact reads.before (ends.map (a :: ·)) p ahead

theorem readToEndReads {one : StateM σ γ} {text : α → List β} {value : α → γ} {as : List α}
    (each : ∀ a ∈ as, text a ≠ [] ∧ Reads one (text a) (value a)) : ReadsAll (readToEnd one) (as.flatMap text) (as.map value) := by
  have run (rounds : Nat) (enough : (as.flatMap text).length ≤ rounds) :
      ReadsAll (readUntilEnd one rounds) (as.flatMap text) (as.map value) := by
    induction as generalizing rounds with
    | nil => exact readUntilEndNone one rounds
    | cons a as ih =>
      obtain ⟨some,reads⟩ := each a List.mem_cons_self
      have letters := List.length_pos_of_ne_nil some
      rw [List.flatMap_cons,List.length_append] at enough
      cases rounds with
      | zero => omega
      | succ rounds =>
        exact readUntilEndNext some reads (ih (fun b mem => each b (List.mem_cons_of_mem _ mem)) rounds (by omega))
  intro p ahead
  exact run _ (Nat.le_of_eq (congrArg List.length ahead).symm) p ahead

end End

section Grammar
variable {τ β : Type} (Spells : τ → List β → Prop)

-- A text that has a word for each letter type, in their order.
inductive Spelled : List τ → List β → Prop where
  | nil : Spelled [] []
  | cons {t word ts text} (first : Spells t word) (tail : Spelled ts text) : Spelled (t :: ts) (word ++ text)

variable {Spells} {t : τ} {ts us : List τ} {text : List β}

theorem Spelled.split (spelled : Spelled Spells (ts ++ us) text) :
    ∃ left right, text = left ++ right ∧ Spelled Spells ts left ∧ Spelled Spells us right := by
  induction ts generalizing text with
  | nil => exact ⟨[],text,rfl,.nil,spelled⟩
  | cons t ts ih =>
    cases spelled with
    | @cons _ word _ text first tail =>
      obtain ⟨left,right,rfl,before,after⟩ := ih tail
      exact ⟨word ++ left,right,(List.append_assoc _ _ _).symm,.cons first before,after⟩

theorem Spelled.single (spelled : Spelled Spells [t] text) : Spells t text := by
  cases spelled with
  | cons first tail =>
    cases tail
    rwa [List.append_nil]

end Grammar
end Cursor
end CsoMaster
