import CsoMaster.ByteOrder

/-! `TCPConnection::Packet`: a byte buffer that is written field by field at one offset
and read field by field at another. The 16-bit length counter of the header is kept
apart from the buffer, as in the source. -/
namespace CsoMaster
open ByteOrder

def TCP_PACKET_SIGNATURE : UInt8 := 85 -- 'U'
def PACKET_HEADER_SIZE : Nat := 4
def TCP_PACKET_MAX_SIZE : Nat := 0x10000

structure Packet where
  buffer : Bytes
  signature : UInt8
  sequence : UInt8
  length : UInt16
  readOffset : Nat
  writeOffset : Nat
  deriving DecidableEq, Repr

namespace Packet

-- `Packet::Create(PacketSource::Server, ..)`.
def createServer (buffer : Bytes) : Packet :=
  ⟨buffer,TCP_PACKET_SIGNATURE,0,UInt16.ofNat buffer.length,0,buffer.length⟩

def getBuffer (p : Packet) : Bytes := p.buffer
def setBuffer (p : Packet) (buffer : Bytes) : Packet := { p with buffer := buffer }
def setSequence (p : Packet) (sequence : UInt8) : Packet := { p with sequence := sequence }
def getSequence (p : Packet) : UInt8 := p.sequence
def getLength (p : Packet) : UInt16 := p.length
def isValid (p : Packet) : Bool := p.signature == TCP_PACKET_SIGNATURE

-- Four insertions at the front; the last one made is the first byte.
def writeHeader (p : Packet) : Packet :=
  let buffer := p.buffer.insertIdx 0 (UInt8.ofNat (p.length.toNat >>> 8))
  let buffer := buffer.insertIdx 0 (UInt8.ofNat p.length.toNat)
  let buffer := buffer.insertIdx 0 p.sequence
  { p with buffer := buffer.insertIdx 0 p.signature }

def writeBytes (p : Packet) (bytes : Bytes) : Packet :=
  { p with
    buffer := insertBytes p.buffer p.writeOffset bytes
    writeOffset := p.writeOffset + bytes.length
    length := p.length + UInt16.ofNat bytes.length }

def writeBool (p : Packet) (val : Bool) : Packet := p.writeBytes [if val then 1 else 0]
def writeInt8 (p : Packet) (val : Int8) : Packet := p.writeBytes [val.toUInt8]
def writeUInt8 (p : Packet) (val : UInt8) : Packet := p.writeBytes [val]
def writeUInt16 (p : Packet) (order : Order) (val : UInt16) : Packet :=
  p.writeBytes (encode order 2 val.toNat)
def writeUInt32 (p : Packet) (order : Order) (val : UInt32) : Packet :=
  p.writeBytes (encode order 4 val.toNat)
def writeUInt64 (p : Packet) (order : Order) (val : UInt64) : Packet :=
  p.writeBytes (encode order 8 val.toNat)
def writeInt16 (p : Packet) (order : Order) (val : Int16) : Packet := p.writeUInt16 order val.toUInt16
def writeInt32 (p : Packet) (order : Order) (val : Int32) : Packet := p.writeUInt32 order val.toUInt32
def writeInt64 (p : Packet) (order : Order) (val : Int64) : Packet := p.writeUInt64 order val.toUInt64
def writeArrayUInt8 (p : Packet) (vec : List UInt8) : Packet := vec.foldl writeUInt8 p
def writeArrayInt8 (p : Packet) (vec : List Int8) : Packet := vec.foldl writeInt8 p
def writeString (p : Packet) (str : Bytes) : Packet := (p.writeArrayUInt8 str).writeUInt8 0

-- The guard of `ReadBytes`: past the end nothing is read and the offset stays.
def readBytes (p : Packet) (size : Nat) (order : Order) : Nat × Packet :=
  if p.readOffset + size > p.buffer.length then (0,p)
  else (decode order ((p.buffer.drop p.readOffset).take size),
    { p with readOffset := p.readOffset + size })

def readUInt8 (p : Packet) : UInt8 × Packet :=
  let r := p.readBytes 1 .little
  (UInt8.ofNat r.1,r.2)
def readBool (p : Packet) : Bool × Packet :=
  let r := p.readBytes 1 .little
  (r.1 != 0,r.2)
def readUInt16 (p : Packet) (order : Order) : UInt16 × Packet :=
  let r := p.readBytes 2 order
  (UInt16.ofNat r.1,r.2)
def readUInt32 (p : Packet) (order : Order) : UInt32 × Packet :=
  let r := p.readBytes 4 order
  (UInt32.ofNat r.1,r.2)
def readUInt64 (p : Packet) (order : Order) : UInt64 × Packet :=
  let r := p.readBytes 8 order
  (UInt64.ofNat r.1,r.2)

def readArrayUInt8 (p : Packet) : (len : Nat) → List UInt8 × Packet
  | 0 => ([],p)
  | len + 1 =>
    let head := p.readUInt8
    let tail := head.2.readArrayUInt8 len
    (head.1 :: tail.1,tail.2)

theorem readArrayUInt8Length (p : Packet) (len : Nat) : (p.readArrayUInt8 len).1.length = len := by
  induction len generalizing p with
  | zero => rfl
  | succ len ih => exact congrArg (· + 1) (ih p.readUInt8.2)

theorem readArrayUInt8Some (p : Packet) {len : Nat} (given : len ≠ 0) : (p.readArrayUInt8 len).1 ≠ [] := by
  cases len with
  | zero => exact absurd rfl given
  | succ len => exact List.cons_ne_nil _ _

-- Bytes up to the terminator and the number of bytes passed over. At the end of the
-- buffer the guarded read answers with the terminator and moves nothing.
def scanString : Bytes → Bytes × Nat
  | [] => ([],0)
  | b :: rest =>
    if b = 0 then ([],1)
    else
      let tail := scanString rest
      (b :: tail.1,tail.2 + 1)

def readString (p : Packet) : Bytes × Packet :=
  let r := scanString (p.buffer.drop p.readOffset)
  (r.1,{ p with readOffset := p.readOffset + r.2 })

-- `Packet::Create(PacketSource::Client, ..)` reads the header back out of its buffer.
def createClient (buffer : Bytes) : Packet :=
  let p : Packet := ⟨buffer,0,0,0,0,buffer.length⟩
  let signature := p.readUInt8
  let sequence := signature.2.readUInt8
  let length := sequence.2.readUInt16 .little
  { length.2 with signature := signature.1, sequence := sequence.1, length := length.1 }

-- One call of the `Write*` family, with the value it is given.
inductive Write where
  | bool (val : Bool)
  | int8 (val : Int8)
  | uint8 (val : UInt8)
  | int16 (order : Order) (val : Int16)
  | uint16 (order : Order) (val : UInt16)
  | int32 (order : Order) (val : Int32)
  | uint32 (order : Order) (val : UInt32)
  | int64 (order : Order) (val : Int64)
  | uint64 (order : Order) (val : UInt64)
  | float (order : Order) (bits : UInt32)
  | double (order : Order) (bits : UInt64)
  | string (str : Bytes)
  | arrayInt8 (vec : List Int8)
  | arrayUInt8 (vec : List UInt8)
  deriving DecidableEq, Repr

def write (p : Packet) : Write → Packet
  | .bool val => p.writeBool val
  | .int8 val => p.writeInt8 val
  | .uint8 val => p.writeUInt8 val
  | .int16 order val => p.writeInt16 order val
  | .uint16 order val => p.writeUInt16 order val
  | .int32 order val => p.writeInt32 order val
  | .uint32 order val => p.writeUInt32 order val
  | .int64 order val => p.writeInt64 order val
  | .uint64 order val => p.writeUInt64 order val
  | .float order bits => p.writeUInt32 order bits
  | .double order bits => p.writeUInt64 order bits
  | .string str => p.writeString str
  | .arrayInt8 vec => p.writeArrayInt8 vec
  | .arrayUInt8 vec => p.writeArrayUInt8 vec

-- A packet as the handlers build it: an initial buffer, then any `Write*` calls.
def build (initial : Bytes) (calls : List Write) : Packet := calls.foldl write (createServer initial)

/-! The state every outgoing packet is in until its header is inserted. -/

structure Unframed (p : Packet) : Prop where
  signed : p.signature = TCP_PACKET_SIGNATURE
  atEnd : p.writeOffset = p.buffer.length
  counted : p.length = UInt16.ofNat p.buffer.length

theorem createServerUnframed (buffer) : (createServer buffer).Unframed := ⟨rfl,rfl,rfl⟩

theorem writeBytesBuffer {p : Packet} (h : p.Unframed) (bytes) :
    (p.writeBytes bytes).buffer = p.buffer ++ bytes := by
  simp only [writeBytes,h.atEnd,insertBytesEnd]

theorem writeBytesUnframed {p : Packet} (h : p.Unframed) (bytes) : (p.writeBytes bytes).Unframed := by
  have buffer := writeBytesBuffer h bytes
  refine ⟨h.signed,?_,?_⟩
  · rw [buffer]; simp [writeBytes,h.atEnd]
  · rw [buffer]; simp [writeBytes,h.counted]

-- Every writer only appends: the buffer before is a prefix of the buffer after.
structure Appends (p q : Packet) : Prop where
  unframed : q.Unframed
  kept : p.buffer <+: q.buffer

theorem writeBytesAppends {p : Packet} (h : p.Unframed) (bytes) : Appends p (p.writeBytes bytes) :=
  ⟨writeBytesUnframed h bytes,by rw [writeBytesBuffer h]; exact List.prefix_append _ _⟩

theorem Appends.trans {p q r : Packet} (left : Appends p q) (right : Appends q r) : Appends p r :=
  ⟨right.unframed,left.kept.trans right.kept⟩

theorem foldlAppends {τ : Type} {f : Packet → τ → Packet}
    (each : ∀ p t, p.Unframed → Appends p (f p t)) {p : Packet} (h : p.Unframed) (vec : List τ) :
    Appends p (vec.foldl f p) := by
  induction vec generalizing p with
  | nil => exact ⟨h,List.prefix_rfl⟩
  | cons v rest ih =>
    have first := each p v h
    exact first.trans (ih first.unframed)

theorem writeAppends {p : Packet} (h : p.Unframed) (call : Write) : Appends p (p.write call) := by
  have array (vec : List UInt8) : Appends p (p.writeArrayUInt8 vec) :=
    foldlAppends (fun _ v hp => writeBytesAppends hp [v]) h vec
  cases call with
  | string str => exact (array str).trans (writeBytesAppends (array str).unframed [0])
  | arrayInt8 vec => exact foldlAppends (fun _ v hp => writeBytesAppends hp [v.toUInt8]) h vec
  | arrayUInt8 vec => exact array vec
  | _ => exact writeBytesAppends h _

theorem buildAppends (initial calls) : Appends (createServer initial) (build initial calls) :=
  foldlAppends (fun _ call hp => writeAppends hp call) (createServerUnframed initial) calls

theorem buildNonempty {initial : Bytes} (nonempty : initial ≠ []) (calls) :
    (build initial calls).buffer ≠ [] := by
  have start : initial <+: (build initial calls).buffer := (buildAppends initial calls).kept
  intro empty
  exact nonempty (List.prefix_nil.mp (empty ▸ start))

theorem writeHeaderBuffer (p : Packet) : p.writeHeader.buffer =
    [p.signature,p.sequence,UInt8.ofNat p.length.toNat,UInt8.ofNat (p.length.toNat >>> 8)] ++ p.buffer := by
  simp [writeHeader]

-- The header a 4-byte buffer is read as.
theorem createClientHeader (signature sequence low high : UInt8) :
    createClient [signature,sequence,low,high] =
      { buffer := [signature,sequence,low,high], signature := signature, sequence := sequence,
        length := UInt16.ofNat (low.toNat + 256 * high.toNat), readOffset := 4, writeOffset := 4 } := by
  simp [createClient,readUInt8,readUInt16,readBytes,decode,Order.arrange,Nat.ofDigits_cons]

end Packet
end CsoMaster
