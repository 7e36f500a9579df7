import CsoMaster.PacketFields

/-! Reads that come to the guard of `ReadBytes`. A number that does not fit leaves what is left
of the buffer where it is, for any later call that is narrow enough; strings and arrays use it
up. -/
namespace CsoMaster
open ByteOrder Cursor
open Packet (Write scanString)

namespace Kind

-- The bytes a call takes where it finds as many, all of them zero.
def size : Kind → Nat
  | bool | int8 | uint8 | string => 1
  | int16 _ | uint16 _ => 2
  | int32 _ | uint32 _ | float _ => 4
  | int64 _ | uint64 _ | double _ => 8
  | arrayInt8 len | arrayUInt8 len => len

-- A number is taken whole or not at all.
def whole : Kind → Bool
  | string | arrayInt8 _ | arrayUInt8 _ => false
  | _ => true

-- With these bytes left the call comes to the guard.
def Short : Kind → Bytes → Prop
  | string, left => 0 ∉ left
  | kind, left => left.length < kind.size

def leftover (kind : Kind) (left : Bytes) : Bytes := if kind.whole then left else []

def taken (kind : Kind) (left : Nat) : Nat := if kind.size ≤ left then kind.size else if kind.whole then 0 else left

-- What a row of calls takes of so many bytes, as long as these are zero.
def takenAll : List Kind → Nat → Nat
  | [], _ => 0
  | kind :: kinds, left => kind.taken left + takenAll kinds (left - kind.taken left)

instance : (kind : Kind) → (left : Bytes) → Decidable (kind.Short left)
  | string, left => inferInstanceAs (Decidable (0 ∉ left))
  | bool, left | int8, left | uint8, left | int16 _, left | uint16 _, left | int32 _, left | uint32 _, left | int64 _, left
  | uint64 _, left | float _, left | double _, left | arrayInt8 _, left | arrayUInt8 _, left =>
    inferInstanceAs (Decidable (left.length < _))

end Kind

namespace FieldBuffer
variable {σ : Type} [FieldBuffer σ] {α β γ : Type}

theorem decodeZero (order : Order) (bytes : Bytes) : decode order bytes = 0 ↔ ∀ b ∈ bytes, b = 0 := by
  have little (bytes : Bytes) : Nat.ofDigits 256 (bytes.map UInt8.toNat) = 0 ↔ ∀ b ∈ bytes, b = 0 := by
    induction bytes with
    | nil => simp
    | cons b bytes ih =>
      have zero : b.toNat = 0 ↔ b = 0 := ⟨fun same => UInt8.toNat_inj.mp same,fun same => by rw [same]; rfl⟩
      rw [List.map_cons,Nat.ofDigits_cons,List.forall_mem_cons,← ih,← zero]
      omega
  cases order with
  | little => exact little bytes
  | big => simpa [decode,Order.arrange] using little bytes.reverse

-- The read answers with nothing exactly where it takes only zeros, and how many it then takes.
structure Clears (read : StateM σ α) (zero : α) (taken : Nat → Nat) : Prop where
  answer : ∀ p, (read p).1 = zero ↔ ∀ b ∈ (rest p).take (taken (rest p).length), b = 0
  moves : ∀ p, (read p).1 = zero → (read p).2 = advance p (taken (rest p).length)

section Clears
variable {zero : α} {taken : Nat → Nat}

theorem Clears.nothing (a : α) : Clears (σ := σ) (pure a) a fun _ => 0 where
  answer p := by
    have answered : ((pure a : StateM σ α) p).1 = a := rfl
    simp [answered]
  moves p _ := (advanceZero p).symm

theorem Clears.map {read : StateM σ α} (clears : Clears read zero taken) {f : α → β}
    (apart : ∀ p, f (read p).1 = f zero → (read p).1 = zero) : Clears (f <$> read) (f zero) taken where
  answer p := by
    rw [← clears.answer p]
    exact ⟨apart p,congrArg f⟩
  moves p none := clears.moves p (apart p none)

theorem Clears.both {first : StateM σ α} {second : StateM σ β} {zero' : β} {taken' : Nat → Nat} {pair : α → β → γ}
    (clears : Clears first zero taken) (later : Clears second zero' taken')
    (apart : ∀ a b, pair a b = pair zero zero' → a = zero ∧ b = zero') :
    Clears (do return pair (← first) (← second)) (pair zero zero') fun left => taken left + taken' (left - taken left) := by
  have split (p : σ) : pair (first p).1 (second (first p).2).1 = pair zero zero' ↔
      (first p).1 = zero ∧ (second (first p).2).1 = zero' :=
    ⟨apart _ _,fun both => by rw [both.1,both.2]⟩
  have after (p : σ) (none : (first p).1 = zero) : rest (first p).2 = (rest p).drop (taken (rest p).length) := by
    rw [clears.moves p none,restAdvance]
  constructor
  · intro p
    refine (split p).trans ?_
    rw [List.take_add,List.forall_mem_append,← clears.answer p]
    refine and_congr_right fun none => ?_
    rw [later.answer,after p none,List.length_drop]
  · intro p none
    obtain ⟨here,there⟩ := (split p).mp none
    refine (later.moves (first p).2 there).trans ?_
    rw [after p here,clears.moves p here,advanceAdd,List.length_drop]

theorem readBytesClears {size : Nat} (some : 0 < size) (order : Order) :
    Clears (σ := σ) (ByteReader.readBytes size order) 0 fun left => if size ≤ left then size else 0 := by
  have cases' (p : σ) : (size ≤ (rest p).length ∧ readBytes size order p =
      (decode order ((rest p).take size),advance p size)) ∨ ¬ size ≤ (rest p).length ∧ readBytes size order p = (0,p) := by
    have left := restLength p
    by_cases past : readOffset p + size > (buffer p).length
    · exact .inr ⟨by omega,if_pos past⟩
    · exact .inl ⟨by omega,by rw [readBytes,if_neg past,← restEq,advanceEq]⟩
  constructor
  · intro p
    change (readBytes size order p).1 = 0 ↔ _
    rcases cases' p with ⟨fits,read⟩ | ⟨short,read⟩
    · rw [read,if_pos fits]
      exact decodeZero order _
    · rw [read,if_neg short]
      simp
  · intro p _
    change (readBytes size order p).2 = _
    rcases cases' p with ⟨fits,read⟩ | ⟨short,read⟩
    · rw [read,if_pos fits]
    · rw [read,if_neg short]
      exact (advanceZero p).symm

theorem readBytesFits (p : σ) (size : Nat) (order : Order) : (readBytes size order p).1 < 256 ^ size := by
  unfold readBytes
  split
  · exact Nat.pow_pos (by decide)
  · have fits := WireType.decodeFits (order.arrange (((buffer p).drop (readOffset p)).take size))
    rw [arrangeLength] at fits
    exact Nat.lt_of_lt_of_le fits (Nat.pow_le_pow_right (by decide) (List.length_take_le _ _))

theorem numberClears {size : Nat} (some : 0 < size) (order : Order) {ofNat : Nat → α}
    (apart : ∀ n < 256 ^ size, ofNat n = ofNat 0 → n = 0) :
    Clears (σ := σ) (ofNat <$> ByteReader.readBytes size order) (ofNat 0) fun left => if size ≤ left then size else 0 :=
  (readBytesClears some order).map fun p => apart _ (readBytesFits p size order)

theorem Clears.cast {read : StateM σ α} (clears : Clears read zero taken) {taken' : Nat → Nat}
    (same : ∀ left, taken left = taken' left) : Clears read zero taken' :=
  funext same ▸ clears

theorem uint8Clears : Clears (σ := σ) readUInt8 0 fun left => if 1 ≤ left then 1 else 0 := by
  refine numberClears (by decide) .little fun n fits same => ?_
  have number := congrArg UInt8.toNat same
  rw [UInt8.toNat_ofNat',UInt8.toNat_ofNat'] at number
  omega

theorem uint16Clears (order : Order) : Clears (σ := σ) (readUInt16 order) 0 fun left => if 2 ≤ left then 2 else 0 := by
  refine numberClears (by decide) order fun n fits same => ?_
  have number := congrArg UInt16.toNat same
  rw [UInt16.toNat_ofNat',UInt16.toNat_ofNat'] at number
  omega

theorem uint32Clears (order : Order) : Clears (σ := σ) (readUInt32 order) 0 fun left => if 4 ≤ left then 4 else 0 := by
  refine numberClears (by decide) order fun n fits same => ?_
  have number := congrArg UInt32.toNat same
  rw [UInt32.toNat_ofNat',UInt32.toNat_ofNat'] at number
  omega

theorem uint64Clears (order : Order) : Clears (σ := σ) (readUInt64 order) 0 fun left => if 8 ≤ left then 8 else 0 := by
  refine numberClears (by decide) order fun n fits same => ?_
  have number := congrArg UInt64.toNat same
  rw [UInt64.toNat_ofNat',UInt64.toNat_ofNat'] at number
  omega

theorem int8Clears : Clears (σ := σ) readInt8 0 fun left => if 1 ≤ left then 1 else 0 :=
  uint8Clears.map fun _ same => (UInt8.toUInt8_toInt8 _).symm.trans (congrArg Int8.toUInt8 same)

theorem stringClears : Clears (σ := σ) readString [] fun left => if 1 ≤ left then 1 else 0 := by
  have cases' (p : σ) : (rest p = [] ∧ (readString : StateM σ Bytes) p = ([],p)) ∨
      ∃ b tail, rest p = b :: tail ∧ ((readString : StateM σ Bytes) p).1 = (if b = 0 then [] else b :: (scanString tail).1) ∧
        (b = 0 → ((readString : StateM σ Bytes) p).2 = advance p 1) := by
    rw [readStringScan]
    cases rest p with
    | nil => exact .inl ⟨rfl,congrArg (Prod.mk []) (advanceZero p)⟩
    | cons b tail =>
      refine .inr ⟨b,tail,rfl,?_,fun zero => by rw [scanString,if_pos zero]⟩
      rw [scanString]
      split <;> rfl
  constructor
  · intro p
    rcases cases' p with ⟨done,read⟩ | ⟨b,tail,ahead,read,-⟩
    · rw [read,done]
      simp
    · rw [read,ahead]
      by_cases zero : b = 0 <;> simp [zero]
  · intro p none
    rcases cases' p with ⟨done,read⟩ | ⟨b,tail,ahead,read,moved⟩
    · rw [read,done]
      exact (advanceZero p).symm
    · rw [read] at none
      rw [moved (by by_contra other; rw [if_neg other] at none; cases none),ahead]
      simp

theorem arrayClears {one : StateM σ α} (clears : Clears one zero fun left => if 1 ≤ left then 1 else 0) (len : Nat) :
    Clears (readArray one len) (List.replicate len zero) fun left => if len ≤ left then len else left := by
  induction len with
  | zero => exact (Clears.nothing []).cast fun left => by simp
  | succ len ih =>
    have head : Clears (do return List.cons (← one) (← readArray one len)) (List.cons zero (List.replicate len zero)) _ :=
      clears.both ih fun _ _ same => List.cons.inj same
    refine head.cast fun left => ?_
    split <;> split <;> split <;> omega

end Clears

section Truncation

theorem readClears (kind : Kind) : Clears (σ := σ) kind.read kind.zero kind.taken := by
  cases kind with
  | bool =>
    have clears : Clears (σ := σ) readBool false _ := numberClears (by decide) .little fun n _ same => by simpa using same
    exact (clears.map fun _ => Write.bool.inj).cast fun _ => rfl
  | int8 => exact (int8Clears.map fun _ => Write.int8.inj).cast fun _ => rfl
  | uint8 => exact (uint8Clears.map fun _ => Write.uint8.inj).cast fun _ => rfl
  | int16 order =>
    have clears : Clears (σ := σ) (readInt16 order) 0 _ := (uint16Clears order).map fun _ same =>
      (UInt16.toUInt16_toInt16 _).symm.trans (congrArg Int16.toUInt16 same)
    exact (clears.map fun _ same => (Write.int16.inj same).2).cast fun _ => rfl
  | uint16 order => exact ((uint16Clears order).map fun _ same => (Write.uint16.inj same).2).cast fun _ => rfl
  | int32 order =>
    have clears : Clears (σ := σ) (readInt32 order) 0 _ := (uint32Clears order).map fun _ same =>
      (UInt32.toUInt32_toInt32 _).symm.trans (congrArg Int32.toUInt32 same)
    exact (clears.map fun _ same => (Write.int32.inj same).2).cast fun _ => rfl
  | uint32 order => exact ((uint32Clears order).map fun _ same => (Write.uint32.inj same).2).cast fun _ => rfl
  | int64 order =>
    have clears : Clears (σ := σ) (readInt64 order) 0 _ := (uint64Clears order).map fun _ same =>
      (UInt64.toUInt64_toInt64 _).symm.trans (congrArg Int64.toUInt64 same)
    exact (clears.map fun _ same => (Write.int64.inj same).2).cast fun _ => rfl
  | uint64 order => exact ((uint64Clears order).map fun _ same => (Write.uint64.inj same).2).cast fun _ => rfl
  | float order => exact ((uint32Clears order).map fun _ same => (Write.float.inj same).2).cast fun _ => rfl
  | double order => exact ((uint64Clears order).map fun _ same => (Write.double.inj same).2).cast fun _ => rfl
  | string =>
    refine (stringClears.map fun _ => Write.string.inj).cast fun left => ?_
    by_cases some : 1 ≤ left
    · rw [if_pos some]
      exact (if_pos some).symm
    · rw [if_neg some]
      have none : left = 0 := by omega
      rw [none]
      rfl
  | arrayInt8 len => exact ((arrayClears int8Clears len).map fun _ => Write.arrayInt8.inj).cast fun _ => rfl
  | arrayUInt8 len => exact ((arrayClears uint8Clears len).map fun _ => Write.arrayUInt8.inj).cast fun _ => rfl

theorem readFieldsClears (kinds : List Kind) :
    Clears (σ := σ) (Kind.readFields kinds) (kinds.map Kind.zero) (Kind.takenAll kinds) := by
  induction kinds with
  | nil => exact .nothing []
  | cons kind kinds ih =>
    have head : Clears (σ := σ) (do return List.cons (← kind.read) (← Kind.readFields kinds))
        (List.cons kind.zero (kinds.map Kind.zero)) _ :=
      (readClears kind).both ih fun _ _ same => List.cons.inj same
    exact head.cast fun _ => rfl

theorem readBytesShort {p : σ} {size : Nat} (short : (rest p).length < size) (order : Order) :
    (readBytes size order p).2 = p := by
  have left := restLength p
  rw [readBytes,if_pos (by omega)]

theorem byteMoves (p : σ) : rest ((readUInt8 : StateM σ UInt8) p).2 = (rest p).drop 1 := by
  cases ahead : rest p with
  | nil => rw [byteEnd ahead,ahead]; rfl
  | cons b tail => rw [byteReads b p tail ahead,restAdvance,ahead]; rfl

theorem arrayMoves {one : StateM σ α} (each : ∀ p, rest (one p).2 = (rest p).drop 1) (p : σ) (len : Nat) :
    rest (readArray one len p).2 = (rest p).drop len := by
  induction len generalizing p with
  | zero => rfl
  | succ len ih =>
    change rest (readArray one len (one p).2).2 = _
    rw [ih,each,List.drop_drop,Nat.add_comm]

theorem scanStringOpen {bytes : Bytes} (endless : 0 ∉ bytes) : (scanString bytes).2 = bytes.length := by
  induction bytes with
  | nil => rfl
  | cons b bytes ih =>
    obtain ⟨head,tail⟩ := not_or.mp (fun mem => endless (List.mem_cons.mpr mem))
    rw [scanString,if_neg (Ne.symm head),List.length_cons]
    exact congrArg (· + 1) (ih tail)

theorem restShort {p : σ} {kind : Kind} (short : kind.Short (rest p)) :
    rest ((kind.read : StateM σ Write) p).2 = kind.leftover (rest p) := by
  cases kind with
  | string =>
    change rest ((readString : StateM σ Bytes) p).2 = []
    rw [readStringScan,restAdvance,scanStringOpen short,List.drop_length]
  | arrayInt8 len =>
    have each (p : σ) : rest ((readInt8 : StateM σ Int8) p).2 = (rest p).drop 1 := byteMoves p
    exact (arrayMoves each p len).trans (List.drop_eq_nil_of_le (Nat.le_of_lt short))
  | arrayUInt8 len => exact (arrayMoves byteMoves p len).trans (List.drop_eq_nil_of_le (Nat.le_of_lt short))
  | _ => exact congrArg rest (readBytesShort short _)

-- Later calls find nothing exactly where those that are narrow enough take zeros only.
theorem truncatedReads (p : σ) (before later : List Kind) (kind : Kind)
    (short : kind.Short (rest ((Kind.readFields before : StateM σ (List Write)) p).2)) :
    let q := ((Kind.readFields before : StateM σ (List Write)) p).2
    let left := kind.leftover (rest q)
    ((Kind.readFields later : StateM σ (List Write)) ((kind.read : StateM σ Write) q).2).1 = later.map Kind.zero ↔
      ∀ b ∈ left.take (Kind.takenAll later left.length), b = 0 := by
  intro q left
  have clears := (readFieldsClears (σ := σ) later).answer ((kind.read : StateM σ Write) q).2
  rwa [restShort short] at clears

-- CreateRoom's fields as far as the round time; nothing is left behind the kill limit's first byte.
def createRoomKinds : List Kind := [.string,.uint8,.uint8,.uint8,.uint8,.uint8]

theorem truncatedReadsZero :
    ((Kind.readFields [.uint8,.uint8] : StateM Packet (List Write))
      (((Kind.uint16 .little).read : StateM Packet Write)
        ((Kind.readFields createRoomKinds : StateM Packet (List Write))
          (Packet.createServer [114,0,0,16,1,1,10,0])).2).2).1 = [.uint8 0,.uint8 0] :=
  (truncatedReads (Packet.createServer [114,0,0,16,1,1,10,0]) createRoomKinds [.uint8,.uint8] (.uint16 .little)
    (by decide +kernel)).mpr (by decide +kernel)

-- The first byte of the kill limit is taken for the time limit.
theorem truncatedShifts :
    ¬ ∀ (p : Packet) (before later : List Kind) (kind : Kind),
      kind.Short (rest ((Kind.readFields before : StateM Packet (List Write)) p).2) →
        ((Kind.readFields later : StateM Packet (List Write)) ((kind.read : StateM Packet Write)
          ((Kind.readFields before : StateM Packet (List Write)) p).2).2).1 = later.map Kind.zero := by
  intro blocks
  have read := blocks (Packet.createServer [114,0,0,16,1,1,10,7]) createRoomKinds [.uint8,.uint8] (.uint16 .little)
    (by decide +kernel)
  exact absurd read (by decide +kernel)

end Truncation
end FieldBuffer
end CsoMaster
