import Mathlib.Data.Nat.Digits.Defs
import Mathlib.Data.Nat.Digits.Lemmas

/-! Fixed-width integers as byte strings, in either byte order, and insertion of a
byte string at an offset. Values wider than the field are truncated to it. -/
namespace CsoMaster

abbrev Bytes := List UInt8

namespace ByteOrder

inductive Order where
  | little
  | big
  deriving DecidableEq, Repr

-- The `size` low bytes of `value`, least significant first.
def littleEndian (size value : Nat) : Bytes :=
  (List.range size).map (fun i => UInt8.ofNat (value >>> (8 * i)))

def Order.arrange : Order → Bytes → Bytes
  | .little, bytes => bytes
  | .big, bytes => bytes.reverse

def encode (order : Order) (size value : Nat) : Bytes := order.arrange (littleEndian size value)

def decode (order : Order) (bytes : Bytes) : Nat :=
  Nat.ofDigits 256 ((order.arrange bytes).map UInt8.toNat)

@[simp] theorem arrangeLength (order : Order) (bytes) : (order.arrange bytes).length = bytes.length := by
  cases order <;> simp [Order.arrange]

@[simp] theorem arrangeArrange (order : Order) (bytes) : order.arrange (order.arrange bytes) = bytes := by
  cases order <;> simp [Order.arrange]

@[simp] theorem encodeLength (order : Order) (size value) : (encode order size value).length = size := by
  simp [encode,littleEndian]

theorem littleEndianSucc (size value : Nat) :
    littleEndian (size + 1) value = UInt8.ofNat value :: littleEndian size (value / 256) := by
  simp only [littleEndian,List.range_succ_eq_map,List.map_cons,List.map_map]
  refine congrArg₂ List.cons (by simp) (List.map_congr_left fun i _ => ?_)
  have wider : value >>> (8 * (i + 1)) = (value / 256) >>> (8 * i) := by
    rw [Nat.mul_add,Nat.add_comm,Nat.shiftRight_add,Nat.shiftRight_eq_div_pow value]
  simp [wider]

theorem decodeLittleEndian {size value : Nat} (fits : value < 256 ^ size) :
    Nat.ofDigits 256 ((littleEndian size value).map UInt8.toNat) = value := by
  induction size generalizing value with
  | zero =>
    have zero : value = 0 := by simpa using fits
    simp [littleEndian,zero]
  | succ size ih =>
    have below : value / 256 < 256 ^ size := by
      rw [Nat.div_lt_iff_lt_mul (by decide)]
      simpa [Nat.pow_succ] using fits
    simp only [littleEndianSucc,List.map_cons,Nat.ofDigits_cons,ih below,UInt8.toNat_ofNat']
    omega

theorem decodeEncode (order : Order) {size value : Nat} (fits : value < 256 ^ size) :
    decode order (encode order size value) = value := by
  simp only [decode,encode,arrangeArrange,decodeLittleEndian fits]

-- Two bytes, least significant first: the field a frame length travels in.
theorem decodePair (low high : UInt8) : decode .little [low,high] = low.toNat + 256 * high.toNat := by
  simp [decode,Order.arrange,Nat.ofDigits_cons]

-- Bytes put one by one at `offset`, each after the one before.
def insertBytes (buffer : Bytes) (offset : Nat) : Bytes → Bytes
  | [] => buffer
  | b :: rest => insertBytes (buffer.insertIdx offset b) (offset + 1) rest

theorem insertBytesEnd (buffer bytes : Bytes) :
    insertBytes buffer buffer.length bytes = buffer ++ bytes := by
  induction bytes generalizing buffer with
  | nil => simp [insertBytes]
  | cons b rest ih =>
    have step := ih (buffer ++ [b])
    simp only [List.length_append,List.length_singleton,List.append_assoc,List.singleton_append] at step
    simpa only [insertBytes,List.insertIdx_length_self] using step

end ByteOrder

theorem orAnd (left right mask : UInt8) : (left ||| right) &&& mask = left &&& mask ||| right &&& mask := by
  refine UInt8.toNat_inj.mp ?_
  simp only [UInt8.toNat_and,UInt8.toNat_or,Nat.and_or_distrib_right]

end CsoMaster
