import Mathlib.Data.List.Basic
import Mathlib.Logic.Function.Iterate

/-! Ciphers that mask a text symbol by symbol with a state that moves on with each of them.
Masking twice is no masking, so one function enciphers and deciphers. Nothing here depends on
what the states and the symbols are. -/
namespace CsoMaster.StreamCipher

structure Keystream (σ α : Type) where
  next : σ → σ
  mask : σ → α → α
  involutive : ∀ s, Function.Involutive (mask s)

section Text
variable {σ α : Type} (k : Keystream σ α)

def crypt : σ → List α → List α
  | _, [] => []
  | s, a :: as => k.mask s a :: crypt (k.next s) as

-- The state once `length` symbols are through.
def advance (s : σ) (length : Nat) : σ := k.next^[length] s

variable {k}

@[simp] theorem cryptNil (s : σ) : crypt k s [] = [] := rfl

@[simp] theorem advanceZero (s : σ) : advance k s 0 = s := rfl

@[simp] theorem advanceSucc (s : σ) (length : Nat) : advance k s (length + 1) = advance k (k.next s) length := rfl

@[simp] theorem cryptLength (s : σ) (as : List α) : (crypt k s as).length = as.length := by
  induction as generalizing s with
  | nil => rfl
  | cons a as ih => simp [crypt,ih]

theorem advanceNext (s : σ) (length : Nat) : advance k (k.next s) length = k.next (advance k s length) :=
  Function.iterate_succ_apply' k.next length s

theorem advanceAdd (s : σ) (m n : Nat) : advance k s (m + n) = advance k (advance k s m) n := by
  simp only [advance,Nat.add_comm m n,Function.iterate_add_apply]

-- What is enciphered in two pieces is enciphered as one.
theorem cryptAppend (s : σ) (as bs : List α) :
    crypt k s (as ++ bs) = crypt k s as ++ crypt k (advance k s as.length) bs := by
  induction as generalizing s with
  | nil => rfl
  | cons a as ih => simp [crypt,ih]

theorem cryptTwice (s : σ) (as : List α) : crypt k s (crypt k s as) = as := by
  induction as generalizing s with
  | nil => rfl
  | cons a as ih => simp [crypt,ih,k.involutive s a]

end Text

end CsoMaster.StreamCipher
