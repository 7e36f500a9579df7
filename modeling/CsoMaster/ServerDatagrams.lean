import CsoMaster.ChannelPeers
import CsoMaster.ListingSteps
import CsoMaster.PacketFields
import CsoMaster.RoomMembership

/-! What the channel servers write to each other: the datagrams of `UDPServer`, and what is read
out of them at the other end, also where the key is so long that they arrive cut off. -/
namespace CsoMaster
open Packet (Write scanString)
open State (datagram UDP_SERVER_PACKET_SIGNATURE)

def UDP_PACKET_MAX_SIZE : Nat := 4010 -- of `_recvBuffer`

namespace ServerPacket

-- Nobody sends what is not registered.
def type : ServerPacket → UInt8
  | HELLO _ => 0
  | HELLO_ANSWER _ => 1
  | GOODBYE => 2
  | HEARTBEAT => 3
  | NUMPLAYERS _ => 4
  | unregistered => 5

def fields : ServerPacket → List Write
  | HELLO numPlayers | HELLO_ANSWER numPlayers | NUMPLAYERS numPlayers => [.uint16 .little numPlayers]
  | GOODBYE | HEARTBEAT | unregistered => []

def writes (authKey : Bytes) (place : Place) (packet : ServerPacket) : List Write :=
  [.string authKey,.uint8 place.serverID,.uint8 place.channelID,.uint8 packet.type] ++ packet.fields

def create (endpoint : Endpoint) (authKey : Bytes) (place : Place) (packet : ServerPacket) : UDPPacket :=
  (packet.writes authKey place).foldl UDPPacket.write (UDPPacket.create endpoint [UDP_SERVER_PACKET_SIGNATURE])

-- The bytes that are sent.
def text (authKey : Bytes) (place : Place) (packet : ServerPacket) : Bytes :=
  UDP_SERVER_PACKET_SIGNATURE :: (packet.writes authKey place).flatMap Write.bytes

theorem createBuffer (endpoint : Endpoint) (authKey : Bytes) (place : Place) (packet : ServerPacket) :
    (packet.create endpoint authKey place).buffer = packet.text authKey place :=
  (Packet.foldlBytes UDPPacket.writeEnd (show (UDPPacket.create endpoint [UDP_SERVER_PACKET_SIGNATURE]).AtEnd from rfl) _).2

end ServerPacket

/-! Reading takes what is left of the buffer from its front, and zero where nothing is. -/

section Left
variable (p : Packet)

def left : Bytes := p.buffer.drop p.readOffset

def leadingUInt16 : Bytes → UInt16
  | a :: b :: _ => UInt16.ofNat (ByteOrder.decode .little [a,b])
  | _ => 0

theorem readBytesLeft {size : Nat} (some : size ≠ 0) : p.readBytes size .little =
    if (left p).length < size then (0,p) else (ByteOrder.decode .little ((left p).take size),{ p with readOffset := p.readOffset + size }) := by
  have short : p.readOffset + size > p.buffer.length ↔ (left p).length < size := by
    rw [left,List.length_drop]
    omega
  simp only [Packet.readBytes,short]
  rfl

theorem readUInt8Left : p.readUInt8.1 = (left p).headD 0 ∧ left p.readUInt8.2 = (left p).tail := by
  rw [Packet.readUInt8,readBytesLeft p (Nat.succ_ne_zero 0)]
  have behind : left { p with readOffset := p.readOffset + 1 } = (left p).tail := by simp [left,List.tail_drop]
  cases ahead : left p with
  | nil => simp [ahead]
  | cons b rest =>
    rw [ahead] at behind
    exact ⟨by simp [ByteOrder.decode,ByteOrder.Order.arrange],behind⟩

theorem readUInt16Left : (p.readUInt16 .little).1 = leadingUInt16 (left p) := by
  rw [Packet.readUInt16,readBytesLeft p (Nat.succ_ne_zero 1)]
  cases left p with
  | nil => rfl
  | cons a rest =>
    cases rest with
    | nil => rfl
    | cons b rest => simp [leadingUInt16]

theorem readStringLeft : p.readString.1 = (scanString (left p)).1 ∧ left p.readString.2 = (left p).drop (scanString (left p)).2 := by
  simp [Packet.readString,left,List.drop_drop]

end Left

/-! What is read of a text is written in it, or is not there any more. -/

section Cut
variable {authKey : Bytes} {place : Place} {packet : ServerPacket}

-- Where the key is read whole, what is behind it is left, as far as it has arrived.
theorem scanStringCut (clean : 0 ∉ authKey) {tail : Bytes} {n : Nat}
    (whole : (scanString ((authKey ++ 0 :: tail).take n)).1 = authKey) :
    ((authKey ++ 0 :: tail).take n).drop (scanString ((authKey ++ 0 :: tail).take n)).2 = tail.take (n - authKey.length - 1) := by
  induction authKey generalizing n with
  | nil =>
    cases n with
    | zero => simp [scanString]
    | succ n => simp [scanString]
  | cons b authKey ih =>
    have head : b ≠ 0 := fun zero => clean (by simp [zero])
    cases n with
    | zero => simp [scanString] at whole
    | succ n =>
      simp only [List.cons_append,List.take_succ_cons,scanString,if_neg head,List.cons.injEq,true_and] at whole ⊢
      rw [List.drop_succ_cons,ih (fun mem => clean (List.mem_cons_of_mem b mem)) whole]
      congr 1
      rw [List.length_cons]
      omega

-- A number that a packet brings is the one that was written, unless it has been cut off.
structure Truncates (place : Place) (packet : ServerPacket) (sender : Place) (arrived : ServerPacket) : Prop where
  sender : sender.serverID ≠ 0 → sender.channelID ≠ 0 → sender = place
  count : ∀ numPlayers, arrived.count = some numPlayers → numPlayers ≠ 0 → packet.count = some numPlayers

-- What is behind the key.
def ServerPacket.tail (place : Place) (packet : ServerPacket) : Bytes :=
  place.serverID :: place.channelID :: packet.type :: packet.fields.flatMap Write.bytes

theorem textEq : packet.text authKey place = UDP_SERVER_PACKET_SIGNATURE :: (authKey ++ 0 :: packet.tail place) := by
  simp [ServerPacket.text,ServerPacket.writes,ServerPacket.tail,Write.bytes]

-- The sender and the packet of what is behind the key.
def readTail (tail : Bytes) : Place × ServerPacket :=
  let numPlayers := leadingUInt16 tail.tail.tail.tail
  (⟨tail.headD 0,tail.tail.headD 0⟩,
    match tail.tail.tail.headD 0 with
    | 0 => .HELLO numPlayers
    | 1 => .HELLO_ANSWER numPlayers
    | 2 => .GOODBYE
    | 3 => .HEARTBEAT
    | 4 => .NUMPLAYERS numPlayers
    | _ => .unregistered)

theorem readServerPacketTail (b : UInt8) (buffer : Bytes) : readServerPacket (b :: buffer) =
    if b ≠ UDP_SERVER_PACKET_SIGNATURE then none
    else some ((scanString buffer).1,readTail (buffer.drop (scanString buffer).2)) := by
  have start : left (datagram (b :: buffer)) = b :: buffer := rfl
  simp only [readServerPacket,readUInt16Left,(readUInt8Left _).1,(readUInt8Left _).2,(readStringLeft _).1,(readStringLeft _).2,
    start,List.headD_cons,List.tail_cons]
  rfl

theorem leadingCut (text : Bytes) (k : Nat) (some : leadingUInt16 (text.take k) ≠ 0) : leadingUInt16 (text.take k) = leadingUInt16 text := by
  cases text with
  | nil => rw [List.take_nil]
  | cons a rest =>
    cases rest with
    | nil => cases k <;> simp [leadingUInt16] at some
    | cons b rest =>
      rcases k with _ | _ | k
      · exact absurd rfl some
      · exact absurd rfl some
      · rfl

theorem fieldsLeading {numPlayers : UInt16} (counted : packet.fields = [.uint16 .little numPlayers]) :
    leadingUInt16 (packet.fields.flatMap Write.bytes) = numPlayers := by
  have written : packet.fields.flatMap Write.bytes = ByteOrder.encode .little 2 numPlayers.toNat := by simp [counted,Write.bytes]
  obtain ⟨a,b,two⟩ := List.length_eq_two.mp (ByteOrder.encodeLength .little 2 numPlayers.toNat)
  rw [written,two,leadingUInt16,← two,ByteOrder.decodeEncode .little numPlayers.toNat_lt,UInt16.ofNat_toNat]

theorem readTailCut (place : Place) (packet : ServerPacket) (m : Nat) :
    Truncates place packet (readTail ((packet.tail place).take m)).1 (readTail ((packet.tail place).take m)).2 := by
  constructor
  · intro server channel
    rcases m with _ | _ | m
    · exact absurd rfl server
    · exact absurd rfl channel
    · rfl
  · intro numPlayers count some
    rcases m with _ | _ | _ | m
    iterate 3
      obtain rfl : 0 = numPlayers := Option.some.inj count
      exact absurd rfl some
    have ahead : ((packet.tail place).take (m + 3)) =
        place.serverID :: place.channelID :: packet.type :: (packet.fields.flatMap Write.bytes).take m := rfl
    rw [ahead] at count
    have number {written : UInt16} (fields : packet.fields = [.uint16 .little written])
        (read : leadingUInt16 ((packet.fields.flatMap Write.bytes).take m) = numPlayers) : written = numPlayers := by
      rw [← read,leadingCut _ _ (read.symm ▸ some),fieldsLeading fields]
    cases packet with
    | HELLO written | HELLO_ANSWER written | NUMPLAYERS written =>
      exact congrArg Option.some (number rfl (Option.some.inj count))
    | GOODBYE => exact count
    | HEARTBEAT | unregistered => cases count

theorem readServerPacketCut (n : Nat) {sender : Place} {arrived : ServerPacket}
    (read : readServerPacket ((packet.text authKey place).take n) = some (authKey,sender,arrived)) :
    Truncates place packet sender arrived := by
  rw [textEq] at read
  cases n with
  | zero => cases read
  | succ n =>
    rw [List.take_succ_cons,readServerPacketTail,if_neg (not_not.mpr rfl)] at read
    obtain ⟨key,rest⟩ := Prod.mk.inj (Option.some.inj read)
    have clean : 0 ∉ authKey := key ▸ Packet.scanStringClean _
    rw [scanStringCut clean key] at rest
    have cut := readTailCut place packet (n - authKey.length - 1)
    rw [rest] at cut
    exact cut

end Cut

section Whole
variable {authKey : Bytes} {place : Place} {packet : ServerPacket}

theorem textLength : (packet.text authKey place).length ≤ authKey.length + 7 := by
  rw [textEq,List.length_cons,List.length_append,List.length_cons]
  cases packet <;> simp [ServerPacket.tail,ServerPacket.fields,Write.bytes,ByteOrder.encodeLength]

theorem readTailWhole : readTail (packet.tail place) = (place,packet) := by
  have number (numPlayers : UInt16) : leadingUInt16 ((ServerPacket.HELLO numPlayers).fields.flatMap Write.bytes) = numPlayers :=
    fieldsLeading rfl
  cases packet with
  | HELLO numPlayers => exact congrArg (fun read => (place,ServerPacket.HELLO read)) (number numPlayers)
  | HELLO_ANSWER numPlayers => exact congrArg (fun read => (place,ServerPacket.HELLO_ANSWER read)) (number numPlayers)
  | NUMPLAYERS numPlayers => exact congrArg (fun read => (place,ServerPacket.NUMPLAYERS read)) (number numPlayers)
  | GOODBYE | HEARTBEAT | unregistered => rfl

theorem readServerPacketWhole (clean : 0 ∉ authKey) (fits : authKey.length + 7 ≤ UDP_PACKET_MAX_SIZE) :
    readServerPacket ((packet.text authKey place).take UDP_PACKET_MAX_SIZE) = some (authKey,place,packet) := by
  rw [List.take_of_length_le (textLength.trans fits),textEq,readServerPacketTail,if_neg (not_not.mpr rfl)]
  have scanned : scanString (authKey ++ 0 :: packet.tail place) = (authKey,authKey.length + 1) := by
    rw [← List.singleton_append,← List.append_assoc]
    exact Packet.scanStringText clean _
  have behind : (authKey ++ 0 :: packet.tail place).drop (authKey.length + 1) = packet.tail place := by
    rw [List.drop_append,List.drop_of_length_le (Nat.le_succ _)]
    simp
  rw [scanned,behind,readTailWhole]

-- What one channel server sends, another with its key takes as it was sent, and one with another
-- key not at all.
theorem serverDatagramHandled (s : State) (endpoint : Endpoint) (clean : 0 ∉ authKey) (fits : authKey.length + 7 ≤ UDP_PACKET_MAX_SIZE) :
    (authKey = s.serverConfig.udpAuthKey →
      (s.handleIncomingServerPacket ((packet.create endpoint authKey place).buffer.take UDP_PACKET_MAX_SIZE)).listing =
        s.listing.step (.packet place packet)) ∧
    (authKey ≠ s.serverConfig.udpAuthKey →
      s.handleIncomingServerPacket ((packet.create endpoint authKey place).buffer.take UDP_PACKET_MAX_SIZE) = s) := by
  rw [ServerPacket.createBuffer]
  have read : readServerPacket ((packet.text authKey place).take UDP_PACKET_MAX_SIZE) = some (authKey,place,packet) :=
    readServerPacketWhole clean fits
  constructor
  · intro same
    rw [State.serverDatagramListing,read,Option.filter_some,if_pos (decide_eq_true same)]
  · intro other
    refine State.serverDatagramRefused fun p arrived signed => other ?_
    exact congrArg Prod.fst (Option.some.inj (read.symm.trans signed))

theorem serverDatagramHandledHello :
    let sender := (ServerPacket.HELLO 7).create ⟨0,30002⟩ [107] ⟨1,1⟩
    let s := { State.sampleStart with serverConfig := { State.sampleChannel with udpAuthKey := [107] } }
    (s.handleIncomingServerPacket (sender.buffer.take UDP_PACKET_MAX_SIZE)).listing = s.listing.step (.packet ⟨1,1⟩ (.HELLO 7)) ∧
      State.sampleStart.handleIncomingServerPacket (sender.buffer.take UDP_PACKET_MAX_SIZE) = State.sampleStart :=
  ⟨(serverDatagramHandled _ ⟨0,30002⟩ (by decide) (by decide)).1 rfl,
    (serverDatagramHandled _ ⟨0,30002⟩ (by decide) (by decide)).2 (by decide)⟩

end Whole
end CsoMaster
