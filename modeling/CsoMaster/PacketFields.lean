import CsoMaster.PacketBytes
import Mathlib.Data.List.TakeDrop

/-! Typed fields in packets. `TCPConnection::Packet` and `UDPPacket` have the same templates
`WriteBytes` and `ReadBytes` and the same calls over them; what is written by any row of calls
is read back by the matching row, and no row of reads leaves the buffer. -/
namespace CsoMaster
open ByteOrder Cursor
open Packet (Write scanString foldlBytes)

structure Endpoint where
  ipAddress : UInt32
  port : UInt16
  deriving DecidableEq, Repr

structure UDPPacket where
  endpoint : Endpoint
  buffer : Bytes
  signature : UInt8
  readOffset : Nat
  writeOffset : Nat
  deriving DecidableEq, Repr

instance : Cursor UDPPacket UInt8 where
  rest p := p.buffer.drop p.readOffset
  advance p n := { p with readOffset := p.readOffset + n }
  advanceZero p := rfl
  advanceAdd p m n := by rw [Nat.add_assoc]
  restAdvance p n := by rw [List.drop_drop]

namespace UDPPacket

def create (endpoint : Endpoint) (buffer : Bytes) : UDPPacket := ⟨endpoint,buffer,buffer.headD 0,0,buffer.length⟩

-- No length is counted here.
def writeBytes (p : UDPPacket) (bytes : Bytes) : UDPPacket :=
  { p with buffer := insertBytes p.buffer p.writeOffset bytes, writeOffset := p.writeOffset + bytes.length }

def writeArrayUInt8 (p : UDPPacket) (vec : List UInt8) : UDPPacket := vec.foldl (fun p v => p.writeBytes [v]) p

def writeArrayInt8 (p : UDPPacket) (vec : List Int8) : UDPPacket := vec.foldl (fun p v => p.writeBytes [v.toUInt8]) p

def write (p : UDPPacket) : Write → UDPPacket
  | .bool val => p.writeBytes [if val then 1 else 0]
  | .int8 val => p.writeBytes [val.toUInt8]
  | .uint8 val => p.writeBytes [val]
  | .int16 order val => p.writeBytes (encode order 2 val.toUInt16.toNat)
  | .uint16 order val => p.writeBytes (encode order 2 val.toNat)
  | .int32 order val => p.writeBytes (encode order 4 val.toUInt32.toNat)
  | .uint32 order val => p.writeBytes (encode order 4 val.toNat)
  | .int64 order val => p.writeBytes (encode order 8 val.toUInt64.toNat)
  | .uint64 order val => p.writeBytes (encode order 8 val.toNat)
  | .float order bits => p.writeBytes (encode order 4 bits.toNat)
  | .double order bits => p.writeBytes (encode order 8 bits.toNat)
  | .string str => (p.writeArrayUInt8 str).writeBytes [0]
  | .arrayInt8 vec => p.writeArrayInt8 vec
  | .arrayUInt8 vec => p.writeArrayUInt8 vec

def AtEnd (p : UDPPacket) : Prop := p.writeOffset = p.buffer.length

theorem writeBytesEnd (p : UDPPacket) (bytes : Bytes) (h : p.AtEnd) :
    (p.writeBytes bytes).AtEnd ∧ (p.writeBytes bytes).buffer = p.buffer ++ bytes := by
  have whole : (p.writeBytes bytes).buffer = p.buffer ++ bytes := by
    simp only [writeBytes,show p.writeOffset = p.buffer.length from h,insertBytesEnd]
  refine ⟨?_,whole⟩
  rw [AtEnd,whole,List.length_append,← show p.writeOffset = p.buffer.length from h]
  rfl

theorem writeEnd (p : UDPPacket) (call : Write) (h : p.AtEnd) :
    (p.write call).AtEnd ∧ (p.write call).buffer = p.buffer ++ call.bytes := by
  have array (vec : List UInt8) : (p.writeArrayUInt8 vec).AtEnd ∧ (p.writeArrayUInt8 vec).buffer = p.buffer ++ vec := by
    have written := foldlBytes (fun p v => writeBytesEnd p [v]) h vec
    rwa [List.flatMap_singleton'] at written
  cases call with
  | string str =>
    obtain ⟨atEnd,chars⟩ := array str
    have terminated := writeBytesEnd (p.writeArrayUInt8 str) [0] atEnd
    rw [chars,List.append_assoc] at terminated
    exact terminated
  | arrayInt8 vec =>
    have written := foldlBytes (fun (p : UDPPacket) (v : Int8) => writeBytesEnd p [v.toUInt8]) h vec
    rw [← List.map_eq_flatMap] at written
    exact written
  | arrayUInt8 vec => exact array vec
  | _ => exact writeBytesEnd p _ h

end UDPPacket

/-! What the two have in common: a buffer with the offset of the next read, and calls that write
at the end of it. -/

class FieldBuffer (σ : Type) extends Cursor σ UInt8 where
  buffer : σ → Bytes
  readOffset : σ → Nat
  setReadOffset : σ → Nat → σ
  write : σ → Write → σ
  AtEnd : σ → Prop
  restEq : ∀ p, rest p = (buffer p).drop (readOffset p)
  advanceEq : ∀ p n, advance p n = setReadOffset p (readOffset p + n)
  bufferSet : ∀ p n, buffer (setReadOffset p n) = buffer p
  readOffsetSet : ∀ p n, readOffset (setReadOffset p n) = n
  setSet : ∀ p m n, setReadOffset (setReadOffset p m) n = setReadOffset p n
  writeEnd : ∀ p call, AtEnd p → AtEnd (write p call) ∧ buffer (write p call) = buffer p ++ call.bytes

instance : FieldBuffer Packet where
  toCursor := inferInstance
  buffer := Packet.buffer
  readOffset := Packet.readOffset
  setReadOffset p newOffset := { p with readOffset := newOffset }
  write := Packet.write
  AtEnd := Packet.Unframed
  restEq _ := rfl
  advanceEq _ _ := rfl
  bufferSet _ _ := rfl
  readOffsetSet _ _ := rfl
  setSet _ _ _ := rfl
  writeEnd _ call h := ⟨(Packet.writeAppends h call).unframed,Packet.writeBuffer h call⟩

instance : FieldBuffer UDPPacket where
  toCursor := inferInstance
  buffer := UDPPacket.buffer
  readOffset := UDPPacket.readOffset
  setReadOffset p newOffset := { p with readOffset := newOffset }
  write := UDPPacket.write
  AtEnd := UDPPacket.AtEnd
  restEq _ := rfl
  advanceEq _ _ := rfl
  bufferSet _ _ := rfl
  readOffsetSet _ _ := rfl
  setSet _ _ _ := rfl
  writeEnd p call := UDPPacket.writeEnd p call

/-! The family of `Read*` calls, each `ReadBytes` at its own width. They are written once for
what reads bytes, whether it looks at the bounds of the buffer or not. -/

class ByteReader (m : Type → Type) extends Monad m where
  readBytes : Nat → Order → m Nat
  left : m Nat

section Family
variable {m : Type → Type} [ByteReader m]
open ByteReader

def readBool : m Bool := (· != 0) <$> readBytes 1 .little
def readInt8 : m Int8 := (fun n => (UInt8.ofNat n).toInt8) <$> readBytes 1 .little
def readUInt8 : m UInt8 := UInt8.ofNat <$> readBytes 1 .little
def readInt16 (order : Order) : m Int16 := (fun n => (UInt16.ofNat n).toInt16) <$> readBytes 2 order
def readUInt16 (order : Order) : m UInt16 := UInt16.ofNat <$> readBytes 2 order
def readInt32 (order : Order) : m Int32 := (fun n => (UInt32.ofNat n).toInt32) <$> readBytes 4 order
def readUInt32 (order : Order) : m UInt32 := UInt32.ofNat <$> readBytes 4 order
def readInt64 (order : Order) : m Int64 := (fun n => (UInt64.ofNat n).toInt64) <$> readBytes 8 order
def readUInt64 (order : Order) : m UInt64 := UInt64.ofNat <$> readBytes 8 order

-- The loop of `ReadString`; past the last byte it would be told the terminator.
def readChars : Nat → m Bytes
  | 0 => pure []
  | rounds + 1 => do
    let curChar ← readUInt8
    if curChar = 0 then return []
    return curChar :: (← readChars rounds)

def readString : m Bytes := do readChars ((← left) + 1)

def readArray {α : Type} (one : m α) : Nat → m (List α)
  | 0 => pure []
  | len + 1 => do
    let head ← one
    return head :: (← readArray one len)

def readArrayInt8 (len : Nat) : m (List Int8) := readArray readInt8 len
def readArrayUInt8 (len : Nat) : m (List UInt8) := readArray readUInt8 len

end Family

-- One call of the `Read*` family.
inductive Kind where
  | bool
  | int8
  | uint8
  | int16 (order : Order)
  | uint16 (order : Order)
  | int32 (order : Order)
  | uint32 (order : Order)
  | int64 (order : Order)
  | uint64 (order : Order)
  | float (order : Order)
  | double (order : Order)
  | string
  | arrayInt8 (len : Nat)
  | arrayUInt8 (len : Nat)
  deriving DecidableEq, Repr

-- The call that reads what a `Write*` call writes.
def Packet.Write.kind : Write → Kind
  | .bool _ => .bool
  | .int8 _ => .int8
  | .uint8 _ => .uint8
  | .int16 order _ => .int16 order
  | .uint16 order _ => .uint16 order
  | .int32 order _ => .int32 order
  | .uint32 order _ => .uint32 order
  | .int64 order _ => .int64 order
  | .uint64 order _ => .uint64 order
  | .float order _ => .float order
  | .double order _ => .double order
  | .string _ => .string
  | .arrayInt8 vec => .arrayInt8 vec.length
  | .arrayUInt8 vec => .arrayUInt8 vec.length

namespace Kind

-- What a call answers that finds nothing.
def zero : Kind → Write
  | bool => .bool false
  | int8 => .int8 0
  | uint8 => .uint8 0
  | int16 order => .int16 order 0
  | uint16 order => .uint16 order 0
  | int32 order => .int32 order 0
  | uint32 order => .uint32 order 0
  | int64 order => .int64 order 0
  | uint64 order => .uint64 order 0
  | float order => .float order 0
  | double order => .double order 0
  | string => .string []
  | arrayInt8 len => .arrayInt8 (List.replicate len 0)
  | arrayUInt8 len => .arrayUInt8 (List.replicate len 0)

section Family
variable {m : Type → Type} [ByteReader m]

def read : Kind → m Write
  | bool => Write.bool <$> readBool
  | int8 => Write.int8 <$> readInt8
  | uint8 => Write.uint8 <$> readUInt8
  | int16 order => Write.int16 order <$> readInt16 order
  | uint16 order => Write.uint16 order <$> readUInt16 order
  | int32 order => Write.int32 order <$> readInt32 order
  | uint32 order => Write.uint32 order <$> readUInt32 order
  | int64 order => Write.int64 order <$> readInt64 order
  | uint64 order => Write.uint64 order <$> readUInt64 order
  | float order => Write.float order <$> readUInt32 order
  | double order => Write.double order <$> readUInt64 order
  | string => Write.string <$> readString
  | arrayInt8 len => Write.arrayInt8 <$> readArrayInt8 len
  | arrayUInt8 len => Write.arrayUInt8 <$> readArrayUInt8 len

def readFields : List Kind → m (List Write)
  | [] => pure []
  | kind :: kinds => do
    let field ← kind.read
    return field :: (← readFields kinds)

end Family
end Kind

/-! `ReadBytes`, and `ReadBytes` with what it touches. -/

namespace FieldBuffer
variable {σ : Type} [FieldBuffer σ]

def readBytes (size : Nat) (order : Order) : StateM σ Nat := fun p =>
  if readOffset p + size > (buffer p).length then (0,p)
  else (decode order (((buffer p).drop (readOffset p)).take size),setReadOffset p (readOffset p + size))

-- Offset and size of the buffer are ints; the sum with the width and the comparison are unsigned.
def pastEnd (p : σ) (size : Nat) : Bool := UInt32.ofNat (readOffset p) + UInt32.ofNat size > UInt32.ofNat (buffer p).length

-- The copy into the result, each byte by its place; none where a place is not in the buffer.
def copy (buffer : Bytes) (offset size : Nat) : Order → Option Bytes
  | .little => (List.range size).mapM fun i => buffer[offset + i]?
  | .big => (List.range size).mapM fun i => buffer[offset + (size - i - 1)]?

def readBytesTouched (size : Nat) (order : Order) : StateT σ Option Nat := fun p =>
  if pastEnd p size then some (0,p)
  else (copy (buffer p) (readOffset p) size order).map fun dst => (decode .little dst,setReadOffset p (readOffset p + size))

instance : ByteReader (StateM σ) where
  readBytes := readBytes
  left := fun p => ((buffer p).length - readOffset p,p)

instance : ByteReader (StateT σ Option) where
  readBytes := readBytesTouched
  left := fun p => some ((buffer p).length - readOffset p,p)

theorem restLength (p : σ) : (rest p).length = (buffer p).length - readOffset p := by rw [restEq,List.length_drop]

section RoundTrip
variable {p : σ}

theorem readBytesText {text tail : Bytes} (ahead : rest p = text ++ tail) (some : text ≠ []) (order : Order) :
    readBytes text.length order p = (decode order text,advance p text.length) := by
  have left := restLength p
  rw [ahead,List.length_append] at left
  have one : 0 < text.length := List.length_pos_iff.mpr some
  rw [readBytes,if_neg (by omega),← restEq,ahead,List.take_left,advanceEq]

theorem encodedReads {α : Type} {size value : Nat} (some : size ≠ 0) (fits : value < 256 ^ size) (order : Order)
    (ofNat : Nat → α) :
    Reads (ofNat <$> ByteReader.readBytes size order : StateM σ α) (encode order size value) (ofNat value) := by
  refine Reads.map (fun p tail ahead => ?_) ofNat
  have text : encode order size value ≠ [] := by
    rw [← List.length_pos_iff,encodeLength]
    omega
  have read := readBytesText ahead text order
  rw [encodeLength,decodeEncode order fits] at read
  rw [encodeLength]
  exact read

theorem byteReads (b : UInt8) : Reads (readUInt8 : StateM σ UInt8) [b] b := by
  have reads := encodedReads (σ := σ) (Nat.succ_ne_zero 0) b.toNat_lt .little UInt8.ofNat
  rwa [UInt8.ofNat_toNat,show encode .little 1 b.toNat = [b] by simp [encode,littleEndian,Order.arrange]] at reads

theorem byteEnd (done : rest p = []) : (readUInt8 : StateM σ UInt8) p = (0,p) := by
  have left := restLength p
  rw [done,List.length_nil] at left
  change (UInt8.ofNat (readBytes 1 .little p).1,(readBytes 1 .little p).2) = _
  rw [readBytes,if_pos (by omega)]
  rfl

theorem charsNext (p : σ) (rounds : Nat) : (readChars (rounds + 1) : StateM σ Bytes) p =
    let curChar := (readUInt8 : StateM σ UInt8) p
    if curChar.1 = 0 then ([],curChar.2)
    else
      let rest := (readChars rounds : StateM σ Bytes) curChar.2
      (curChar.1 :: rest.1,rest.2) := by
  rw [readChars]
  dsimp only [bind,StateT.bind]
  split
  rename_i curChar q first
  rw [first]
  by_cases done : curChar = 0
  · rw [if_pos done,if_pos done]
    rfl
  · rw [if_neg done,if_neg done]
    rfl

-- The loop of `ReadString` and its one pass over the bytes.
theorem readCharsScan (p : σ) {rounds : Nat} (enough : (rest p).length < rounds) :
    (readChars rounds : StateM σ Bytes) p = ((scanString (rest p)).1,advance p (scanString (rest p)).2) := by
  induction rounds generalizing p with
  | zero => omega
  | succ rounds ih =>
    rw [charsNext]
    cases ahead : rest p with
    | nil =>
      rw [byteEnd ahead]
      exact congrArg (Prod.mk []) (advanceZero p).symm
    | cons b tail =>
      have after : rest (advance p 1) = tail := by rw [restAdvance,ahead]; rfl
      rw [byteReads b p tail ahead,scanString]
      dsimp only
      split
      · rfl
      · rw [ahead,List.length_cons] at enough
        have later := ih (advance p 1) (by rw [after]; omega)
        rw [after,advanceAdd,Nat.add_comm 1] at later
        rw [List.length_singleton,later]

theorem readStringScan (p : σ) :
    (readString : StateM σ Bytes) p = ((scanString (rest p)).1,advance p (scanString (rest p)).2) := by
  have rounds := restLength p
  exact readCharsScan p (by omega)

theorem arrayReads {α : Type} {one : StateM σ α} {bytes : α → Bytes} (each : ∀ a, Reads one (bytes a) a) (vec : List α) :
    Reads (readArray one vec.length) (vec.flatMap bytes) vec := by
  induction vec with
  | nil => exact .pure []
  | cons a vec ih =>
    have later : Reads (do return a :: (← readArray one vec.length)) (vec.flatMap bytes ++ []) (a :: vec) :=
      ih.bind (.pure (a :: vec))
    exact (each a).bind (later.cast (List.append_nil _))

end RoundTrip

section Fields

-- A string ends at its first zero, so it is read back if it has none.
def Terminated : Write → Prop
  | .string str => 0 ∉ str
  | _ => True

theorem int8Reads (v : Int8) : Reads (readInt8 : StateM σ Int8) [v.toUInt8] v := by
  intro p tail ahead
  have byte := byteReads v.toUInt8 p tail ahead
  change ((readUInt8 (m := StateM σ) p).1.toInt8,(readUInt8 (m := StateM σ) p).2) = _
  rw [byte,Int8.toInt8_toUInt8]

theorem fieldReads {f : Write} (terminated : Terminated f) : Reads (f.kind.read : StateM σ Write) f.bytes f := by
  cases f with
  | bool val =>
    refine Reads.map ?_ Write.bool
    cases val
    · exact encodedReads (Nat.succ_ne_zero 0) (show 0 < 256 ^ 1 by decide) .little (· != 0)
    · exact encodedReads (Nat.succ_ne_zero 0) (show 1 < 256 ^ 1 by decide) .little (· != 0)
  | int8 val => exact (int8Reads val).map Write.int8
  | uint8 val => exact (byteReads val).map Write.uint8
  | int16 order val =>
    have reads := encodedReads (σ := σ) (Nat.succ_ne_zero 1) val.toUInt16.toNat_lt order fun n => (UInt16.ofNat n).toInt16
    rw [UInt16.ofNat_toNat,Int16.toInt16_toUInt16] at reads
    exact reads.map (Write.int16 order)
  | uint16 order val =>
    have reads := encodedReads (σ := σ) (Nat.succ_ne_zero 1) val.toNat_lt order UInt16.ofNat
    rw [UInt16.ofNat_toNat] at reads
    exact reads.map (Write.uint16 order)
  | int32 order val =>
    have reads := encodedReads (σ := σ) (Nat.succ_ne_zero 3) val.toUInt32.toNat_lt order fun n => (UInt32.ofNat n).toInt32
    rw [UInt32.ofNat_toNat,Int32.toInt32_toUInt32] at reads
    exact reads.map (Write.int32 order)
  | uint32 order val =>
    have reads := encodedReads (σ := σ) (Nat.succ_ne_zero 3) val.toNat_lt order UInt32.ofNat
    rw [UInt32.ofNat_toNat] at reads
    exact reads.map (Write.uint32 order)
  | int64 order val =>
    have reads := encodedReads (σ := σ) (Nat.succ_ne_zero 7) val.toUInt64.toNat_lt order fun n => (UInt64.ofNat n).toInt64
    rw [UInt64.ofNat_toNat,Int64.toInt64_toUInt64] at reads
    exact reads.map (Write.int64 order)
  | uint64 order val =>
    have reads := encodedReads (σ := σ) (Nat.succ_ne_zero 7) val.toNat_lt order UInt64.ofNat
    rw [UInt64.ofNat_toNat] at reads
    exact reads.map (Write.uint64 order)
  | float order bits =>
    have reads := encodedReads (σ := σ) (Nat.succ_ne_zero 3) bits.toNat_lt order UInt32.ofNat
    rw [UInt32.ofNat_toNat] at reads
    exact reads.map (Write.float order)
  | double order bits =>
    have reads := encodedReads (σ := σ) (Nat.succ_ne_zero 7) bits.toNat_lt order UInt64.ofNat
    rw [UInt64.ofNat_toNat] at reads
    exact reads.map (Write.double order)
  | string str =>
    refine Reads.map (fun p tail ahead => ?_) Write.string
    have clean : 0 ∉ str := terminated
    rw [readStringScan,show rest p = str ++ [0] ++ tail from ahead,Packet.scanStringText clean]
    simp [Write.bytes]
  | arrayInt8 vec => exact ((arrayReads int8Reads vec).cast List.map_eq_flatMap.symm).map Write.arrayInt8
  | arrayUInt8 vec => exact ((arrayReads byteReads vec).cast (List.flatMap_singleton' vec)).map Write.arrayUInt8

theorem fieldsReads {fields : List Write} (terminated : ∀ f ∈ fields, Terminated f) :
    Reads (Kind.readFields (fields.map Write.kind) : StateM σ (List Write)) (fields.flatMap Write.bytes) fields := by
  induction fields with
  | nil => exact .pure []
  | cons f fields ih =>
    have rest := ih fun g mem => terminated g (List.mem_cons_of_mem f mem)
    have later : Reads (do return f :: (← Kind.readFields (fields.map Write.kind)) : StateM σ (List Write))
        (fields.flatMap Write.bytes ++ []) (f :: fields) :=
      rest.bind (.pure (f :: fields))
    exact (fieldReads (terminated f List.mem_cons_self)).bind (later.cast (List.append_nil _))

end Fields

section Touch
variable {α β : Type}

def Inside (p : σ) : Prop := readOffset p ≤ (buffer p).length

-- The read ends inside the buffer, and every byte it looks at is there if the size is an int.
structure Bounded (touched : StateT σ Option α) (plain : StateM σ α) : Prop where
  stays : ∀ p, Inside p → buffer (plain p).2 = buffer p ∧ Inside (plain p).2
  there : ∀ p, Inside p → (buffer p).length < 2 ^ 31 → touched p = some (plain p)

theorem Bounded.pure (a : α) : Bounded (σ := σ) (Pure.pure a) (Pure.pure a) :=
  ⟨fun _ inside => ⟨rfl,inside⟩,fun _ _ _ => rfl⟩

theorem Bounded.bind {touched : StateT σ Option α} {plain : StateM σ α} {touchedNext : α → StateT σ Option β}
    {next : α → StateM σ β} (first : Bounded touched plain) (rest : ∀ a, Bounded (touchedNext a) (next a)) :
    Bounded (touched >>= touchedNext) (plain >>= next) where
  stays p inside := by
    obtain ⟨same,still⟩ := first.stays p inside
    obtain ⟨kept,ends⟩ := (rest (plain p).1).stays (plain p).2 still
    exact ⟨kept.trans same,ends⟩
  there p inside sized := by
    obtain ⟨same,still⟩ := first.stays p inside
    have second := (rest (plain p).1).there (plain p).2 still (same ▸ sized)
    change (touched p).bind (fun r => touchedNext r.1 r.2) = _
    rw [first.there p inside sized]
    exact second

theorem Bounded.map {touched : StateT σ Option α} {plain : StateM σ α} (bounded : Bounded touched plain) (f : α → β) :
    Bounded (f <$> touched) (f <$> plain) where
  stays := bounded.stays
  there p inside sized := by
    change (touched p).bind (fun r => some (f r.1,r.2)) = _
    rw [bounded.there p inside sized]
    rfl

-- No sum wraps as long as the size of the buffer is an int.
theorem pastEndInt {p : σ} {size : Nat} (inside : Inside p) (sized : (buffer p).length < 2 ^ 31) (narrow : size ≤ 8) :
    pastEnd p size = decide (readOffset p + size > (buffer p).length) := by
  have offset : readOffset p < 2 ^ 31 := Nat.lt_of_le_of_lt inside sized
  refine decide_eq_decide.mpr ?_
  rw [gt_iff_lt,UInt32.lt_iff_toNat_lt,UInt32.toNat_add]
  simp only [UInt32.toNat_ofNat']
  omega

theorem mapMSome {f : α → Option β} {g : α → β} {items : List α} (each : ∀ a ∈ items, f a = some (g a)) :
    items.mapM f = some (items.map g) := by
  induction items with
  | nil => rfl
  | cons a items ih =>
    rw [List.mapM_cons,each a List.mem_cons_self,ih fun b mem => each b (List.mem_cons_of_mem a mem)]
    rfl

theorem copyInside {buffer : Bytes} {offset size : Nat} (fits : offset + size ≤ buffer.length) (order : Order) :
    copy buffer offset size order = some (order.arrange ((buffer.drop offset).take size)) := by
  have place (i : Nat) (here : i < size) : buffer[offset + i]? = some (buffer.getD (offset + i) 0) := by
    rw [List.getD_eq_getElem?_getD,List.getElem?_eq_getElem (by omega)]
    rfl
  have forward : (List.range size).map (fun i => buffer.getD (offset + i) 0) = (buffer.drop offset).take size := by
    refine List.ext_getElem (by simp; omega) fun i small _ => ?_
    simp at small
    simp [List.getD_eq_getElem?_getD,List.getElem?_eq_getElem (show offset + i < buffer.length by omega)]
  cases order with
  | little =>
    rw [copy,mapMSome fun i mem => place i (List.mem_range.mp mem),forward]
    rfl
  | big =>
    have last (i : Nat) (mem : i ∈ List.range size) : size - i - 1 < size := by
      have := List.mem_range.mp mem
      omega
    rw [copy,mapMSome fun i mem => place (size - i - 1) (last i mem),← forward]
    refine congrArg some (List.ext_getElem (by simp [Order.arrange]) fun i small _ => ?_)
    simp [Order.arrange,List.getElem_reverse,Nat.sub_right_comm]

theorem readBytesBounded {size : Nat} (narrow : size ≤ 8) (order : Order) :
    Bounded (σ := σ) (ByteReader.readBytes size order) (ByteReader.readBytes size order) where
  stays p inside := by
    change buffer (readBytes size order p).2 = buffer p ∧ Inside (readBytes size order p).2
    unfold readBytes
    split
    · exact ⟨rfl,inside⟩
    · rename_i fits
      rw [Inside,bufferSet,readOffsetSet]
      exact ⟨rfl,Nat.le_of_not_lt fits⟩
  there p inside sized := by
    change readBytesTouched size order p = some (readBytes size order p)
    unfold readBytesTouched readBytes
    rw [pastEndInt inside sized narrow]
    by_cases past : readOffset p + size > (buffer p).length
    · rw [if_pos (decide_eq_true past),if_pos past]
    · rw [if_neg (by simpa using past),if_neg past,copyInside (Nat.le_of_not_lt past)]
      rfl

theorem byteBounded : Bounded (σ := σ) readUInt8 readUInt8 := (readBytesBounded (by decide) .little).map _

theorem readCharsBounded (rounds : Nat) : Bounded (σ := σ) (readChars rounds) (readChars rounds) := by
  induction rounds with
  | zero => exact .pure []
  | succ rounds ih =>
    refine byteBounded.bind fun curChar => ?_
    by_cases done : curChar = 0
    · rw [if_pos done,if_pos done]
      exact .pure []
    · rw [if_neg done,if_neg done]
      exact ih.bind fun rest => .pure (curChar :: rest)

theorem readStringBounded : Bounded (σ := σ) readString readString :=
  Bounded.bind ⟨fun _ inside => ⟨rfl,inside⟩,fun _ _ _ => rfl⟩ fun left => readCharsBounded (left + 1)

theorem readArrayBounded {touched : StateT σ Option α} {plain : StateM σ α} (one : Bounded touched plain) (len : Nat) :
    Bounded (readArray touched len) (readArray plain len) := by
  induction len with
  | zero => exact .pure []
  | succ len ih => exact one.bind fun head => ih.bind fun tail => .pure (head :: tail)

theorem readBounded (kind : Kind) : Bounded (σ := σ) kind.read kind.read := by
  cases kind with
  | string => exact readStringBounded.map _
  | arrayInt8 len => exact (readArrayBounded ((readBytesBounded (by decide) _).map _) len).map _
  | arrayUInt8 len => exact (readArrayBounded byteBounded len).map _
  | _ => exact ((readBytesBounded (by decide) _).map _).map _

theorem readFieldsBounded (kinds : List Kind) : Bounded (σ := σ) (Kind.readFields kinds) (Kind.readFields kinds) := by
  induction kinds with
  | nil => exact .pure []
  | cons kind kinds ih => exact (readBounded kind).bind fun field => ih.bind fun fields => .pure (field :: fields)

end Touch

section Codec

-- What is written is read back, to the end of the buffer; and no reads leave a buffer or look
-- beyond it.
structure TypedCodec (create : Bytes → σ) : Prop where
  roundTrip : ∀ initial fields, (∀ f ∈ fields, Terminated f) →
    let p := fields.foldl write (create initial)
    (Kind.readFields (fields.map Write.kind) : StateM σ (List Write)) (setReadOffset p initial.length) =
      (fields,setReadOffset p (buffer p).length)
  inside : ∀ (p : σ) kinds, readOffset p ≤ (buffer p).length →
    buffer ((Kind.readFields kinds : StateM σ (List Write)) p).2 = buffer p ∧
      readOffset ((Kind.readFields kinds : StateM σ (List Write)) p).2 ≤ (buffer p).length
  touched : ∀ (p : σ) kinds, readOffset p ≤ (buffer p).length → (buffer p).length < 2 ^ 31 →
    (Kind.readFields kinds : StateT σ Option (List Write)) p = some ((Kind.readFields kinds : StateM σ (List Write)) p)

theorem typedCodecOf {create : Bytes → σ} (created : ∀ initial, AtEnd (create initial) ∧ buffer (create initial) = initial) :
    TypedCodec create where
  roundTrip initial fields terminated := by
    obtain ⟨atEnd,first⟩ := created initial
    have each (p : σ) (call : Write) (h : AtEnd p) : AtEnd (write p call) ∧ buffer (write p call) = buffer p ++ call.bytes :=
      writeEnd p call h
    have written := (foldlBytes each atEnd fields).2
    rw [first] at written
    have ahead : rest (setReadOffset (fields.foldl write (create initial)) initial.length) =
        fields.flatMap Write.bytes ++ [] := by
      rw [restEq,bufferSet,readOffsetSet,written,List.drop_left,List.append_nil]
    have read := fieldsReads terminated _ [] ahead
    rw [advanceEq,setSet,readOffsetSet,← List.length_append,← written] at read
    exact read
  inside p kinds inside := by
    obtain ⟨same,still⟩ := (readFieldsBounded kinds).stays p inside
    exact ⟨same,same ▸ still⟩
  touched p kinds := (readFieldsBounded kinds).there p

end Codec
end FieldBuffer

-- The calls of the handlers' packets are these.
example (p : Packet) (order : Order) : (readUInt32 order : StateM Packet UInt32) p = p.readUInt32 order := rfl

example (p : Packet) : (readString : StateM Packet Bytes) p = p.readString := FieldBuffer.readStringScan p

theorem typedCodec (endpoint : Endpoint) :
    FieldBuffer.TypedCodec Packet.createServer ∧ FieldBuffer.TypedCodec (UDPPacket.create endpoint) :=
  ⟨FieldBuffer.typedCodecOf fun initial => ⟨Packet.createServerUnframed initial,rfl⟩,
    FieldBuffer.typedCodecOf fun _ => ⟨rfl,rfl⟩⟩

end CsoMaster
