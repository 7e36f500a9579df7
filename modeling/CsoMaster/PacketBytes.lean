import CsoMaster.Cursor
import CsoMaster.RoomSettings

/-! The bytes of a packet as a text: what each `Write*` call puts at the end, and that each
`Read*` call takes exactly that for the value that was written. -/
namespace CsoMaster
open ByteOrder Cursor

-- What a selection bit lets through.
def chosen {α : Type} (selected : Bool) (items : List α) : List α := if selected then items else []

theorem chosenAppend {α : Type} (selected : Bool) (left right : List α) :
    chosen selected (left ++ right) = chosen selected left ++ chosen selected right := by
  cases selected <;> rfl

theorem chosenSplit {α : Type} (selected : Bool) (a b : α) (items : List α) :
    chosen selected (a :: b :: items) = chosen selected [a] ++ chosen selected (b :: items) := by
  cases selected <;> rfl

theorem chosenFlatMap {α β : Type} (selected : Bool) (items : List α) (f : α → List β) :
    (chosen selected items).flatMap f = chosen selected (items.flatMap f) := by
  cases selected <;> rfl

theorem chosenCons {α β : Type} (selected : Bool) (a : α) (items : List α) (f : α → List β) :
    (chosen selected (a :: items)).flatMap f = chosen selected (f a) ++ (chosen selected items).flatMap f := by
  cases selected <;> rfl

theorem chosenNil {α β : Type} (selected : Bool) (f : α → List β) : (chosen selected []).flatMap f = [] := by
  cases selected <;> rfl

namespace Packet

def Write.bytes : Write → Bytes
  | .bool val => [if val then 1 else 0]
  | .int8 val => [val.toUInt8]
  | .uint8 val => [val]
  | .int16 order val => encode order 2 val.toUInt16.toNat
  | .uint16 order val => encode order 2 val.toNat
  | .int32 order val => encode order 4 val.toUInt32.toNat
  | .uint32 order val => encode order 4 val.toNat
  | .int64 order val => encode order 8 val.toUInt64.toNat
  | .uint64 order val => encode order 8 val.toNat
  | .float order bits => encode order 4 bits.toNat
  | .double order bits => encode order 8 bits.toNat
  | .string str => str ++ [0]
  | .arrayInt8 vec => vec.map Int8.toUInt8
  | .arrayUInt8 vec => vec

section Write
variable {p : Packet}

theorem foldlBytes {σ τ : Type} {sound : σ → Prop} {buffer : σ → Bytes} {f : σ → τ → σ} {bytes : τ → Bytes}
    (each : ∀ p t, sound p → sound (f p t) ∧ buffer (f p t) = buffer p ++ bytes t) {p : σ} (h : sound p) (vec : List τ) :
    sound (vec.foldl f p) ∧ buffer (vec.foldl f p) = buffer p ++ vec.flatMap bytes := by
  induction vec generalizing p with
  | nil => exact ⟨h,(List.append_nil _).symm⟩
  | cons v rest ih =>
    obtain ⟨kept,first⟩ := each p v h
    obtain ⟨last,rest⟩ := ih kept
    exact ⟨last,by rw [List.foldl_cons,rest,first,List.flatMap_cons,List.append_assoc]⟩

theorem writeBuffer (h : p.Unframed) (call : Write) : (p.write call).buffer = p.buffer ++ call.bytes := by
  have array (vec : List UInt8) : (p.writeArrayUInt8 vec).Unframed ∧ (p.writeArrayUInt8 vec).buffer = p.buffer ++ vec := by
    have written := foldlBytes (fun _ v hp => ⟨writeBytesUnframed hp [v],writeBytesBuffer hp [v]⟩) h vec
    rwa [List.flatMap_singleton'] at written
  cases call with
  | string str =>
    have chars := array str
    exact (writeBytesBuffer chars.1 [0]).trans (by rw [chars.2,List.append_assoc]; rfl)
  | arrayInt8 vec =>
    have each (p : Packet) (v : Int8) (hp : p.Unframed) :
        (p.writeInt8 v).Unframed ∧ (p.writeInt8 v).buffer = p.buffer ++ [v.toUInt8] :=
      ⟨writeBytesUnframed hp [v.toUInt8],writeBytesBuffer hp [v.toUInt8]⟩
    have written := foldlBytes each h vec
    rw [← List.map_eq_flatMap] at written
    exact written.2
  | arrayUInt8 vec => exact (array vec).2
  | _ => exact writeBytesBuffer h _

theorem writesBuffer (h : p.Unframed) (calls : List Write) :
    (calls.foldl write p).buffer = p.buffer ++ calls.flatMap Write.bytes :=
  (foldlBytes (fun _ call hp => ⟨(writeAppends hp call).unframed,writeBuffer hp call⟩) h calls).2

end Write

instance : Cursor Packet UInt8 where
  rest p := p.buffer.drop p.readOffset
  advance p n := { p with readOffset := p.readOffset + n }
  advanceZero p := rfl
  advanceAdd p m n := by rw [Nat.add_assoc]
  restAdvance p n := by rw [List.drop_drop]

section Read

theorem readBytesText {p : Packet} {text tail : Bytes} (ahead : rest p = text ++ tail) (some : text ≠ []) (order : Order) :
    p.readBytes text.length order = (decode order text,advance p text.length) := by
  have left : p.buffer.length - p.readOffset = text.length + tail.length := by
    rw [← List.length_drop,← List.length_append]
    exact congrArg List.length ahead
  have one : 0 < text.length := List.length_pos_iff.mpr some
  have taken : (p.buffer.drop p.readOffset).take text.length = text := by
    change (rest p).take text.length = text
    rw [ahead,List.take_left]
  rw [readBytes,if_neg (by omega),taken]
  rfl

theorem scanStringText {str : Bytes} (clean : 0 ∉ str) (tail : Bytes) : scanString (str ++ [0] ++ tail) = (str,str.length + 1) := by
  induction str with
  | nil => rfl
  | cons b str ih =>
    have head : b ≠ 0 := fun zero => clean (by simp [zero])
    have scanned := ih (fun mem => clean (List.mem_cons_of_mem b mem))
    rw [List.cons_append,List.cons_append,scanString,if_neg head,scanned]
    rfl

theorem scanStringClean (bytes : Bytes) : 0 ∉ (scanString bytes).1 := by
  induction bytes with
  | nil => simp [scanString]
  | cons b bytes ih =>
    unfold scanString
    split
    · simp
    · rename_i other
      exact fun mem => (List.mem_cons.mp mem).elim (Ne.symm other) ih

end Read
end Packet

namespace Reader

variable {α : Type}

-- A fixed-width field is read as the number that was encoded in it.
theorem encodedReads {size value : Nat} (some : size ≠ 0) (fits : value < 256 ^ size) (ofNat : Nat → α) :
    Reads (fun p : Packet => (ofNat (p.readBytes size .little).1,(p.readBytes size .little).2))
      (encode .little size value) (ofNat value) := by
  intro p tail ahead
  have text : encode .little size value ≠ [] := by
    rw [← List.length_pos_iff,encodeLength]
    omega
  have read := Packet.readBytesText ahead text .little
  rw [encodeLength,decodeEncode _ fits] at read
  simp only [read,encodeLength]

theorem uint8Reads (v : UInt8) : Reads uint8 (Packet.Write.uint8 v).bytes v := by
  have reads := encodedReads (Nat.succ_ne_zero 0) v.toNat_lt UInt8.ofNat
  rwa [UInt8.ofNat_toNat,show encode .little 1 v.toNat = [v] by simp [encode,littleEndian,Order.arrange]] at reads

theorem uint16Reads (v : UInt16) : Reads uint16 (Packet.Write.uint16 .little v).bytes v := by
  have reads := encodedReads (Nat.succ_ne_zero 1) v.toNat_lt UInt16.ofNat
  rwa [UInt16.ofNat_toNat] at reads

theorem uint32Reads (v : UInt32) : Reads uint32 (Packet.Write.uint32 .little v).bytes v := by
  have reads := encodedReads (Nat.succ_ne_zero 3) v.toNat_lt UInt32.ofNat
  rwa [UInt32.ofNat_toNat] at reads

theorem boolReads (v : Bool) : Reads bool (Packet.Write.bool v).bytes v := by
  cases v
  · exact encodedReads (Nat.succ_ne_zero 0) (show 0 < 256 ^ 1 by decide) (· != 0)
  · exact encodedReads (Nat.succ_ne_zero 0) (show 1 < 256 ^ 1 by decide) (· != 0)

theorem stringReads {str : Bytes} (clean : 0 ∉ str) : Reads string (Packet.Write.string str).bytes str := by
  intro p tail ahead
  have scanned : Packet.scanString (p.buffer.drop p.readOffset) = (str,str.length + 1) := by
    rw [show p.buffer.drop p.readOffset = str ++ [0] ++ tail from ahead,Packet.scanStringText clean]
  simp only [string,Packet.readString,scanned,Packet.Write.bytes,List.length_append]
  rfl

theorem stringClean : Yields string (0 ∉ ·) := fun _ => Packet.scanStringClean _

theorem givenClean (selected : Bool) : Yields (given selected string) (0 ∉ ·) := by
  cases selected
  · exact .pure List.not_mem_nil
  · exact stringClean

theorem givenReads [Inhabited α] {read : Reader α} {text : Bytes} {a : α} (selected : Bool) (reads : Reads read text a) :
    Reads (given selected read) (chosen selected text) (if selected then a else default) := by
  cases selected
  · exact Reads.pure _
  · exact reads

end Reader

/-! The texts a well-formed body is made of, one for each type on the wire. -/

inductive WireType where
  | bool
  | uint8
  | uint16
  | uint32
  | string
  deriving DecidableEq, Repr

namespace WireType

def Spells : WireType → Bytes → Prop
  | bool, word => word = [0] ∨ word = [1]
  | uint8, word => word.length = 1
  | uint16, word => word.length = 2
  | uint32, word => word.length = 4
  | string, word => ∃ str, 0 ∉ str ∧ word = str ++ [0]

variable {α : Type} {word : Bytes}

theorem encodeDecode (word : Bytes) : encode .little word.length (decode .little word) = word := by
  induction word with
  | nil => rfl
  | cons b word ih =>
    have split : decode .little (b :: word) = b.toNat + 256 * decode .little word := by
      simp [decode,Order.arrange,Nat.ofDigits_cons]
    have low : UInt8.ofNat (b.toNat + 256 * decode .little word) = b := by
      refine UInt8.toNat_inj.mp ?_
      rw [UInt8.toNat_ofNat',Nat.add_mul_mod_self_left,Nat.mod_eq_of_lt b.toNat_lt]
    have high : (b.toNat + 256 * decode .little word) / 256 = decode .little word := by
      have byte := b.toNat_lt
      omega
    rw [split,List.length_cons]
    change littleEndian (word.length + 1) _ = _
    rw [littleEndianSucc,low,high]
    exact congrArg (b :: ·) ih

theorem decodeFits (word : Bytes) : decode .little word < 256 ^ word.length := by
  have digits := Nat.ofDigits_lt_base_pow_length (b := 256) (l := word.map UInt8.toNat) (by decide) (by
    intro digit mem
    obtain ⟨b,-,rfl⟩ := List.mem_map.mp mem
    exact b.toNat_lt)
  rwa [List.length_map] at digits

theorem spellsBool (spells : bool.Spells word) : ∃ v, word = (Packet.Write.bool v).bytes := by
  rcases spells with rfl | rfl
  · exact ⟨false,rfl⟩
  · exact ⟨true,rfl⟩

theorem spellsUint8 (spells : uint8.Spells word) : ∃ v, word = (Packet.Write.uint8 v).bytes := List.length_eq_one_iff.mp spells

theorem spellsUint16 (spells : uint16.Spells word) : ∃ v, word = (Packet.Write.uint16 .little v).bytes := by
  have fits := decodeFits word
  rw [show word.length = 2 from spells] at fits
  refine ⟨UInt16.ofNat (decode .little word),?_⟩
  rw [Packet.Write.bytes,UInt16.toNat_ofNat',Nat.mod_eq_of_lt (show _ < 2 ^ 16 from fits)]
  exact (spells ▸ encodeDecode word).symm

theorem spellsUint32 (spells : uint32.Spells word) : ∃ v, word = (Packet.Write.uint32 .little v).bytes := by
  have fits := decodeFits word
  rw [show word.length = 4 from spells] at fits
  refine ⟨UInt32.ofNat (decode .little word),?_⟩
  rw [Packet.Write.bytes,UInt32.toNat_ofNat',Nat.mod_eq_of_lt (show _ < 2 ^ 32 from fits)]
  exact (spells ▸ encodeDecode word).symm

section Fields
variable {selected : Bool} {ts : List WireType} {text : Bytes} {goal : Bytes → Prop}

-- A selected word is a value of its type; one that is left out is empty and any value does.
theorem field [Inhabited α] {t : WireType} {bytes : α → Bytes} (each : ∀ word, t.Spells word → ∃ a, word = bytes a)
    (spelled : Spelled Spells (chosen selected [t] ++ ts) text)
    (rest : ∀ a tail, Spelled Spells ts tail → goal (chosen selected (bytes a) ++ tail)) : goal text := by
  obtain ⟨first,tail,rfl,here,after⟩ := spelled.split
  cases selected
  · cases here
    exact rest default tail after
  · obtain ⟨a,rfl⟩ := each first here.single
    exact rest a tail after

@[elab_as_elim] theorem boolField (spelled : Spelled Spells (chosen selected [bool] ++ ts) text)
    (rest : ∀ v tail, Spelled Spells ts tail → goal (chosen selected (Packet.Write.bool v).bytes ++ tail)) : goal text :=
  field (fun _ => spellsBool) spelled rest

@[elab_as_elim] theorem uint8Field (spelled : Spelled Spells (chosen selected [uint8] ++ ts) text)
    (rest : ∀ v tail, Spelled Spells ts tail → goal (chosen selected (Packet.Write.uint8 v).bytes ++ tail)) : goal text :=
  field (fun _ => spellsUint8) spelled rest

@[elab_as_elim] theorem uint16Field (spelled : Spelled Spells (chosen selected [uint16] ++ ts) text)
    (rest : ∀ v tail, Spelled Spells ts tail → goal (chosen selected (Packet.Write.uint16 .little v).bytes ++ tail)) : goal text :=
  field (fun _ => spellsUint16) spelled rest

@[elab_as_elim] theorem uint32Field (spelled : Spelled Spells (chosen selected [uint32] ++ ts) text)
    (rest : ∀ v tail, Spelled Spells ts tail → goal (chosen selected (Packet.Write.uint32 .little v).bytes ++ tail)) : goal text :=
  field (fun _ => spellsUint32) spelled rest

@[elab_as_elim] theorem stringField (spelled : Spelled Spells (chosen selected [string] ++ ts) text)
    (rest : ∀ str tail, 0 ∉ str → Spelled Spells ts tail → goal (chosen selected (Packet.Write.string str).bytes ++ tail)) :
    goal text := by
  obtain ⟨first,tail,rfl,here,after⟩ := spelled.split
  cases selected
  · cases here
    exact rest [] tail List.not_mem_nil after
  · obtain ⟨str,clean,rfl⟩ := here.single
    exact rest str tail clean after

end Fields
end WireType
end CsoMaster
