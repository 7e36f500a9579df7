import CsoMaster.PacketFields
import CsoMaster.PhaseCoherence

/-! `UDPServer` with what it sends to clients: the answers to SocketInfo, the datagrams it relays
between the users of a room, and the pings it passes on to hosts and back. What it does to users
and channels is `State`'s; the rest is kept here. -/
namespace CsoMaster
open ByteOrder
open State (UDP_CLIENT_PACKET_SIGNATURE datagram readPortType Action Event)

def UDP_RELAY_PACKET_SIGNATURE : UInt8 := 89
def UDP_PING_PACKET_SIGNATURE : UInt8 := 96

structure PingRequest where
  requestEndpoint : Endpoint
  replyEndpoint : Endpoint
  timestamp : Nat
  deriving DecidableEq, Repr

structure UDPServer where
  server : State
  pingRequests : List PingRequest
  sent : List UDPPacket
  erasedBeyond : Bool -- more bytes erased from a datagram than it has

inductive PingPacketType where
  | Request
  | Reply
  deriving DecidableEq, Repr

namespace State
variable (s : State)

def ipAddress (u : UserRef) : UInt32 := (s.connection (s.lobby.user u).connection).ipAddress

-- `GetUserByUserID` and `IsUserLoggedIn`
def loggedInUser (userID : UInt32) : Option UserRef := (s.lobby.getUserByUserID userID).filter (s.isUserLoggedIn ·)

def externalPort (u : UserRef) : PortType → UInt16
  | .Host => (s.lobby.user u).userNetwork.externalHostPort
  | .Guest => (s.lobby.user u).userNetwork.externalGuestPort

-- Where a datagram is relayed to that gets through all checks.
def relayTarget (endpoint : Endpoint) (p : Packet) : Option Endpoint := do
  let userID := p.readUInt32 .little
  let u ← s.loggedInUser userID.1
  guard (endpoint.ipAddress = s.ipAddress u)
  guard (endpoint.port = s.externalPort u .Host ∨ endpoint.port = s.externalPort u .Guest)
  let r ← s.lobby.getRoomByRoomID (s.lobby.user u).currentRoomID
  let portType := userID.2.readUInt8
  let type ← readPortType portType.1
  let targetUserID := portType.2.readUInt32 .little
  guard (targetUserID.1 ≠ 0)
  let target ← s.loggedInUser targetUserID.1
  guard (s.lobby.getRoomByRoomID (s.lobby.user target).currentRoomID = some r)
  return ⟨s.ipAddress target,s.externalPort target type⟩

def readPingType (type : UInt8) : Option PingPacketType :=
  if type = 0 then some .Request else if type = 1 then some .Reply else none

-- The ping of a registered room, and the host of the room.
def pinged (p : Packet) : Option (PingPacketType × UserRef) := do
  let type := p.readUInt8
  let kind ← readPingType type.1
  let r ← s.lobby.getRoomByRoomID (type.2.readUInt16 .little).1
  return (kind,(s.lobby.room r).roomHostUser)

end State

namespace UDPServer

def sendClientPacket (x : UDPServer) (endpoint : Endpoint) : UDPServer :=
  let packet := UDPPacket.create endpoint [UDP_CLIENT_PACKET_SIGNATURE]
  { x with sent := x.sent ++ [(packet.write (.uint8 0)).write (.uint8 1)] }

def sendRelayPacket (x : UDPServer) (endpoint : Endpoint) (buffer : Bytes) : UDPServer :=
  if buffer.length < 10 then { x with erasedBeyond := true }
  else { x with sent := x.sent ++ [UDPPacket.create endpoint (buffer.drop 10)] }

def sendPingPacket (x : UDPServer) (endpoint : Endpoint) (buffer : Bytes) : UDPServer :=
  { x with sent := x.sent ++ [UDPPacket.create endpoint buffer] }

def receiveClient (x : UDPServer) (endpoint : Endpoint) (p : Packet) : UDPServer :=
  let userID := p.readUInt32 .little
  match x.server.loggedInUser userID.1 with
  | none => x
  | some u =>
    if x.server.ipAddress u ≠ endpoint.ipAddress then x
    else
      let type := userID.2.readUInt8
      match type.1 with
      | 0 =>
        let served := { x with server := x.server.receiveSocketInfo u endpoint.ipAddress endpoint.port type.2 }
        if (readPortType type.2.readUInt8.1).isSome then served.sendClientPacket endpoint else served
      | 1 => { x with server := x.server.receiveHeartbeat u endpoint.port }
      | _ => x

def receiveRelay (x : UDPServer) (endpoint : Endpoint) (p : Packet) : UDPServer :=
  match x.server.relayTarget endpoint p with
  | none => x
  | some target => x.sendRelayPacket target p.buffer

-- The timestamp is left out of the aggregate, and so is zero.
def request (x : UDPServer) (endpoint : Endpoint) (host : UserRef) : PingRequest :=
  ⟨endpoint,⟨x.server.ipAddress host,x.server.externalPort host .Host⟩,0⟩

def requested (x : UDPServer) (endpoint : Endpoint) : Option PingRequest :=
  x.pingRequests.find? (·.replyEndpoint = endpoint)

def receivePing (x : UDPServer) (endpoint : Endpoint) (p : Packet) : UDPServer :=
  match x.server.pinged p with
  | none => x
  | some (.Request,host) =>
    let pingRequest := x.request endpoint host
    { x with pingRequests := x.pingRequests ++ [pingRequest] }.sendPingPacket pingRequest.replyEndpoint p.buffer
  | some (.Reply,_) =>
    match x.requested endpoint with
    | none => x
    | some pingRequest =>
      { x with pingRequests := x.pingRequests.eraseP (·.replyEndpoint = endpoint) }.sendPingPacket
        pingRequest.requestEndpoint p.buffer

-- What is done by signature; each branch begins behind it.
def handleIncomingClientPacket (x : UDPServer) (endpoint : Endpoint) (buffer : Bytes) : UDPServer :=
  let signature := (datagram buffer).readUInt8
  if signature.1 = UDP_CLIENT_PACKET_SIGNATURE then x.receiveClient endpoint signature.2
  else if signature.1 = UDP_RELAY_PACKET_SIGNATURE then x.receiveRelay endpoint signature.2
  else if signature.1 = UDP_PING_PACKET_SIGNATURE then x.receivePing endpoint signature.2
  else x

def expired (pingRequest : PingRequest) (currentTime : Nat) : Bool := pingRequest.timestamp + 3 > currentTime

def onSecondTick (x : UDPServer) (now : Nat) : UDPServer :=
  let server := x.server.onSecondTick now
  { x with server := server, pingRequests := x.pingRequests.filter fun p => !expired p server.currentTime }

def act (x : UDPServer) : Action → UDPServer
  | .clientDatagram ipAddress port buffer => x.handleIncomingClientPacket ⟨ipAddress,port⟩ buffer
  | .secondTick now => x.onSecondTick now
  | action => { x with server := x.server.act action }

def step (x : UDPServer) (e : Event) : UDPServer := { x with server := x.server.enter e.environment }.act e.action

def start (server : State) : UDPServer := ⟨server,[],[],false⟩

section Refinement
variable (x : UDPServer)

theorem receiveClientServer (endpoint : Endpoint) (buffer : Bytes)
    (signature : (datagram buffer).readUInt8.1 = UDP_CLIENT_PACKET_SIGNATURE) :
    (x.receiveClient endpoint (datagram buffer).readUInt8.2).server =
      x.server.handleIncomingClientPacket endpoint.ipAddress endpoint.port buffer := by
  unfold receiveClient State.handleIncomingClientPacket
  rw [if_neg (not_not.mpr signature)]
  dsimp only [State.loggedInUser]
  generalize (datagram buffer).readUInt8.2.readUInt32 .little = userID
  cases (x.server.lobby.getUserByUserID userID.1).filter (x.server.isUserLoggedIn ·) with
  | none => rfl
  | some u =>
    dsimp only
    by_cases other : x.server.ipAddress u ≠ endpoint.ipAddress
    · rw [if_pos other]
      exact (if_pos other).symm
    · rw [if_neg other]
      refine Eq.trans ?_ (if_neg other).symm
      generalize userID.2.readUInt8 = read
      obtain ⟨type,p⟩ := read
      by_cases socketInfo : type = 0
      · by_cases given : (readPortType p.readUInt8.1).isSome <;> simp [socketInfo,given,sendClientPacket]
      · by_cases heartbeat : type = 1
        · simp [heartbeat]
        · simp

theorem receiveRelayServer (endpoint : Endpoint) (p : Packet) : (x.receiveRelay endpoint p).server = x.server := by
  unfold receiveRelay
  split
  · rfl
  · unfold sendRelayPacket
    split <;> rfl

theorem receivePingServer (endpoint : Endpoint) (p : Packet) : (x.receivePing endpoint p).server = x.server := by
  unfold receivePing
  split
  · rfl
  · rfl
  · split <;> rfl

-- Relayed datagrams and pings leave users and channels as they are.
theorem handleIncomingClientPacketServer (endpoint : Endpoint) (buffer : Bytes) :
    (x.handleIncomingClientPacket endpoint buffer).server =
      x.server.handleIncomingClientPacket endpoint.ipAddress endpoint.port buffer := by
  dsimp only [handleIncomingClientPacket]
  by_cases client : (datagram buffer).readUInt8.1 = UDP_CLIENT_PACKET_SIGNATURE
  · rw [if_pos client,x.receiveClientServer endpoint buffer client]
  · have unchanged : x.server.handleIncomingClientPacket endpoint.ipAddress endpoint.port buffer = x.server := if_pos client
    rw [if_neg client,unchanged]
    split
    · exact x.receiveRelayServer endpoint _
    · split
      · exact x.receivePingServer endpoint _
      · rfl

-- Seen from users and channels this is the server of before.
theorem stepServer (e : Event) : (x.step e).server = x.server.step e := by
  unfold step act
  split
  · rename_i ipAddress port buffer same
    rw [handleIncomingClientPacketServer,State.step,same]
    rfl
  · rename_i now same
    rw [State.step,same]
    rfl
  · rfl

end Refinement

section Relay
variable {s : State} {endpoint : Endpoint} {buffer : Bytes}

-- The relayed datagram's sender, its target and their room, with the IDs where the header has them,
-- and the port of the target that the header asks for.
structure Relays (s : State) (endpoint destination : Endpoint) (buffer : Bytes) (u target : UserRef) (r : RoomRef) : Prop where
  header : 10 ≤ buffer.length
  sender : s.loggedInUser (UInt32.ofNat (decode .little ((buffer.drop 1).take 4))) = some u
  address : endpoint.ipAddress = s.ipAddress u
  port : endpoint.port = s.externalPort u .Host ∨ endpoint.port = s.externalPort u .Guest
  named : s.loggedInUser (UInt32.ofNat (decode .little ((buffer.drop 6).take 4))) = some target
  registered : r ∈ s.lobby.rooms
  senderRoom : s.lobby.getRoomByRoomID (s.lobby.user u).currentRoomID = some r
  targetRoom : s.lobby.getRoomByRoomID (s.lobby.user target).currentRoomID = some r
  registeredPort : ∃ type, State.readPortType (buffer.getD 5 0) = some type ∧
    destination = ⟨s.ipAddress target,s.externalPort target type⟩

theorem loggedInUserGiven {userID : UInt32} {u : UserRef} (found : s.loggedInUser userID = some u) : userID ≠ 0 := by
  rintro rfl
  simp [State.loggedInUser,Lobby.getUserByUserID] at found

theorem readUInt8Cases (p : Packet) :
    p.readOffset + 1 ≤ p.buffer.length ∧ p.readUInt8.2 = { p with readOffset := p.readOffset + 1 } ∨
      ¬ p.readOffset + 1 ≤ p.buffer.length ∧ p.readUInt8.2 = p := by
  by_cases past : p.readOffset + 1 > p.buffer.length
  · exact .inr ⟨Nat.not_le_of_gt past,by simp [Packet.readUInt8,Packet.readBytes,past]⟩
  · exact .inl ⟨Nat.le_of_not_lt past,by simp [Packet.readUInt8,Packet.readBytes,past]⟩

-- A read that does not answer with zero has its bytes.
theorem readUInt32There {p : Packet} (given : (p.readUInt32 .little).1 ≠ 0) :
    p.readOffset + 4 ≤ p.buffer.length ∧ (p.readUInt32 .little).1 =
        UInt32.ofNat (decode .little ((p.buffer.drop p.readOffset).take 4)) ∧
      (p.readUInt32 .little).2 = { p with readOffset := p.readOffset + 4 } := by
  by_cases past : p.readOffset + 4 > p.buffer.length
  · exact absurd (by simp [Packet.readUInt32,Packet.readBytes,past]) given
  · exact ⟨Nat.le_of_not_lt past,by simp [Packet.readUInt32,Packet.readBytes,past]⟩

def behind (buffer : Bytes) (readOffset : Nat) : Packet := { datagram buffer with readOffset := readOffset }

theorem readUInt8There {i : Nat} (there : i < buffer.length) : (behind buffer i).readUInt8.1 = buffer.getD i 0 := by
  have inside : ¬ i + 1 > buffer.length := Nat.not_lt.mpr there
  have byte : (buffer.drop i).take 1 = [buffer.getD i 0] := by
    rw [List.drop_eq_getElem_cons there,List.take_succ_cons,List.take_zero,List.getD_eq_getElem?_getD,List.getElem?_eq_getElem there,
      Option.getD_some]
  simp [Packet.readUInt8,Packet.readBytes,behind,datagram,inside,byte,decode,Order.arrange]

theorem relayTargetSome {destination : Endpoint} (signature : (datagram buffer).readUInt8.1 = UDP_RELAY_PACKET_SIGNATURE)
    (relayed : s.relayTarget endpoint (datagram buffer).readUInt8.2 = some destination) :
    ∃ u target r, Relays s endpoint destination buffer u target r := by
  have opened : (datagram buffer).readUInt8.2 = behind buffer 1 := by
    rcases readUInt8Cases (datagram buffer) with ⟨-,moved⟩ | ⟨past,-⟩
    · exact moved
    · have empty : (datagram buffer).readUInt8.1 = 0 := by simp [Packet.readUInt8,Packet.readBytes,not_le.mp past]
      exact absurd (empty.symm.trans signature) (by decide)
  rw [opened] at relayed
  simp only [State.relayTarget,Option.bind_eq_bind,Option.bind_eq_some_iff,Option.guard_eq_some',Option.pure_def] at relayed
  obtain ⟨u,sender,-,address,-,port,r,senderRoom,type,portType,-,given,target,named,-,targetRoom,aimed⟩ := relayed
  obtain ⟨-,userID,moved⟩ := readUInt32There (loggedInUserGiven sender)
  have typed : ((behind buffer 1).readUInt32 .little).2 = behind buffer 5 := moved
  rw [userID] at sender
  rw [typed] at portType given named
  obtain ⟨there,targetUserID,-⟩ := readUInt32There given
  rcases readUInt8Cases (behind buffer 5) with ⟨-,passed⟩ | ⟨past,stays⟩
  · rw [targetUserID,passed] at named
    rw [passed] at there
    have header : 10 ≤ buffer.length := there
    rw [readUInt8There (by omega)] at portType
    exact ⟨u,target,r,header,sender,address,port,named,(Lobby.getRoomByRoomIDSome senderRoom).1,senderRoom,targetRoom,
      type,portType,(Option.some.inj aimed).symm⟩
  · -- A target's bytes would have been the port type's.
    rw [stays] at there
    have short : ¬ 5 + 1 ≤ buffer.length := past
    have enough : 5 + 4 ≤ buffer.length := there
    omega

-- A datagram with the relay signature is sent on without its header, from one user of a room to
-- the registered port of another, or nothing is done with it at all.
theorem relayConfinement (x : UDPServer) (endpoint : Endpoint) (buffer : Bytes)
    (signature : (datagram buffer).readUInt8.1 = UDP_RELAY_PACKET_SIGNATURE) :
    (∃ destination u target r, Relays x.server endpoint destination buffer u target r ∧
        x.handleIncomingClientPacket endpoint buffer =
          { x with sent := x.sent ++ [UDPPacket.create destination (buffer.drop 10)] }) ∨
      x.handleIncomingClientPacket endpoint buffer = x := by
  have other : ¬ UDP_RELAY_PACKET_SIGNATURE = UDP_CLIENT_PACKET_SIGNATURE := by decide
  have relay : x.handleIncomingClientPacket endpoint buffer = x.receiveRelay endpoint (datagram buffer).readUInt8.2 := by
    dsimp only [handleIncomingClientPacket]
    rw [signature,if_neg other,if_pos rfl]
  rw [relay,receiveRelay]
  cases relayed : x.server.relayTarget endpoint (datagram buffer).readUInt8.2 with
  | none => exact .inr rfl
  | some destination =>
    obtain ⟨u,target,r,relays⟩ := relayTargetSome signature relayed
    refine .inl ⟨destination,u,target,r,relays,?_⟩
    have whole : (datagram buffer).readUInt8.2.buffer = buffer := by
      rcases readUInt8Cases (datagram buffer) with ⟨-,moved⟩ | ⟨-,moved⟩ <;> rw [moved] <;> rfl
    rw [whole]
    exact if_neg (Nat.not_lt.mpr relays.header)

end Relay

section Sample
open Runs
open State (sampleStart sampleEnvironment twoPlaying)

def receives (port : UInt16) (buffer : Bytes) : Event := ⟨.clientDatagram 0 port buffer,sampleEnvironment⟩

def socketInfo (userID portType : UInt8) : Bytes := [87,userID,0,0,0,0,portType,0,0,0,0,0,0,0]

-- Both users of a room have registered a port.
def relaying : UDPServer :=
  run step (start sampleStart) (twoPlaying ++ [receives 5001 (socketInfo 1 0),receives 5002 (socketInfo 2 1)])

def relayed : Bytes := [89,1,0,0,0,1,2,0,0,0,42]

-- To the second user, at the port its SocketInfo came from.
theorem relayConfinementRelaying : (relaying.handleIncomingClientPacket ⟨0,5001⟩ relayed).sent =
    relaying.sent ++ [UDPPacket.create ⟨0,5002⟩ [42]] := by
  rcases relayConfinement relaying ⟨0,5001⟩ relayed (by decide +kernel) with ⟨destination,u,target,r,relays,sent⟩ | unmoved
  · obtain ⟨type,portType,rfl⟩ := relays.registeredPort
    obtain rfl : PortType.Host = type := Option.some.inj portType
    have second : relaying.server.loggedInUser 2 = some 1 := by decide +kernel
    obtain rfl : 1 = target := Option.some.inj (second.symm.trans relays.named)
    have port : (⟨relaying.server.ipAddress 1,relaying.server.externalPort 1 .Host⟩ : Endpoint) = ⟨0,5002⟩ := by decide +kernel
    rw [sent,port]
    rfl
  · exact absurd (congrArg (fun x => x.sent.length) unmoved) (by decide +kernel)

end Sample
end UDPServer
end CsoMaster
