import CsoMaster.OtherHandlers

/-! Everything that happens to the server: connections come and go, packets and datagrams
arrive, seconds pass, the console is used. A handler runs to its end before the next event. -/
namespace CsoMaster.State
open DatabaseManager

section Datagrams

def UDP_CLIENT_PACKET_SIGNATURE : UInt8 := 87
def UDP_SERVER_PACKET_SIGNATURE : UInt8 := 90
def UDP_CLIENT_HEARTBEAT_TIMEOUT : Nat := 15
def UDP_SERVER_HEARTBEAT_TIMEOUT : Nat := 3

def datagram (buffer : Bytes) : Packet := ⟨buffer,0,0,0,0,buffer.length⟩

def readPortType (portType : UInt8) : Option PortType :=
  if portType = 0 then some .Guest else if portType = 1 then some .Host else none

def setUserNetwork (s : State) (u : UserRef) (userNetwork : UserNetwork) : State :=
  s.setLobby (s.lobby.setUser u { s.lobby.user u with userNetwork := userNetwork })

def receiveSocketInfo (s : State) (u : UserRef) (ipAddress : UInt32) (port : UInt16) (p : Packet) : State :=
  let portType := p.readUInt8
  match readPortType portType.1 with
  | none => s
  | some type =>
    let localIP := portType.2.readUInt32 .little
    let localPort := localIP.2.readUInt16 .little
    s.setUserNetwork u
      ((s.lobby.user u).userNetwork.setUserNetwork type ipAddress port (~~~localIP.1) localPort.1 s.currentTime)

def receiveHeartbeat (s : State) (u : UserRef) (port : UInt16) : State :=
  let userNetwork := (s.lobby.user u).userNetwork
  if port = userNetwork.externalGuestPort then
    s.setUserNetwork u (userNetwork.setUserNetworkHeartbeat .Guest s.currentTime)
  else if port = userNetwork.externalHostPort then
    s.setUserNetwork u (userNetwork.setUserNetworkHeartbeat .Host s.currentTime)
  else s

-- Relayed datagrams and pings pass through without a trace in the state kept here.
def handleIncomingClientPacket (s : State) (ipAddress : UInt32) (port : UInt16) (buffer : Bytes) : State :=
  let signature := (datagram buffer).readUInt8
  if signature.1 ≠ UDP_CLIENT_PACKET_SIGNATURE then s
  else
    let userID := signature.2.readUInt32 .little
    match (s.lobby.getUserByUserID userID.1).filter (s.isUserLoggedIn ·) with
    | none => s
    | some u =>
      if (s.connection (s.lobby.user u).connection).ipAddress ≠ ipAddress then s
      else
        let type := userID.2.readUInt8
        match type.1 with
        | 0 => s.receiveSocketInfo u ipAddress port type.2
        | 1 => s.receiveHeartbeat u port
        | _ => s

def setServerList (s : State) (serverList : List Server) : State :=
  { s with serverConfig := { s.serverConfig with serverList := serverList } }

def setChannel (s : State) (p : Place) (status : List Channel → ServerStatus → ServerStatus)
    (f : Channel → Channel) : State :=
  s.setServerList (s.serverConfig.serverList.modify (p.serverID - 1).toNat fun server =>
    let channels := server.channels.modify (p.channelID - 1).toNat f
    { server with
      status := if p.serverID ≠ s.serverConfig.place.serverID then status channels server.status else server.status
      channels := channels })

def offline (channel : Channel) : Channel := { channel with isOnline := false, lastHeartbeat := 0, numPlayers := 0 }

def anyOnline (channels : List Channel) : ServerStatus := if channels.any Channel.isOnline then .Ready else .NotReady

def handleIncomingServerPacket (s : State) (buffer : Bytes) : State :=
  let signature := (datagram buffer).readUInt8
  let authKey := signature.2.readString
  let serverID := authKey.2.readUInt8
  let channelID := serverID.2.readUInt8
  let p : Place := ⟨serverID.1,channelID.1⟩
  if signature.1 ≠ UDP_SERVER_PACKET_SIGNATURE ∨ authKey.1 ≠ s.serverConfig.udpAuthKey ∨
      (s.serverConfig.channel p).isNone then s
  else
    let type := channelID.2.readUInt8
    let numPlayers := (type.2.readUInt16 .little).1
    match type.1 with
    | 0 | 1 => s.setChannel p (fun _ _ => .Ready) fun channel =>
        { channel with isOnline := true, lastHeartbeat := s.currentTime, numPlayers := numPlayers }
    | 2 => s.setChannel p (fun channels _ => anyOnline channels) offline
    | 3 => s.setChannel p (fun _ status => status) ({ · with lastHeartbeat := s.currentTime })
    | 4 => s.setChannel p (fun _ status => status) ({ · with numPlayers := numPlayers })
    | _ => s

end Datagrams

section Tick

-- The clock jump: each user's session is looked for and entered again where it is gone.
def recoverUser (s : State) (u : UserRef) : State :=
  let userID := (s.lobby.user u).userID
  let result := s.sql (isUserSessionAdded s.serverConfig.toServerConfig userID)
  if result.1 < 0 ∨ result.1 = 2 then result.2.disconnectUser u
  else if result.1 = 0 then
    let added := result.2.sql (addUserSession s.serverConfig.toServerConfig userID)
    if added.1 ≤ 0 then added.2.disconnectUser u else added.2
  else result.2

def recoverRoom (s : State) (r : RoomRef) : State :=
  let added := s.sql (addRoom (s.roomRow (s.lobby.room r)))
  if added.1 ≤ 0 then added.2.removeRoom r else added.2

def recover (s : State) : State :=
  let s := s.setServerList (SessionCluster.forgetOthers s.serverConfig.place s.serverConfig.serverList)
  let s := s.lobby.users.foldl recoverUser s
  let s := s.exec (DatabaseManager.removeAllRooms s.serverConfig.place)
  s.lobby.rooms.foldl recoverRoom s

def silent (s : State) (u : UserRef) : Bool :=
  let userNetwork := (s.lobby.user u).userNetwork
  userNetwork.networkSet = 0x3 &&
    (userNetwork.lastGuestHeartbeat + UDP_CLIENT_HEARTBEAT_TIMEOUT < s.currentTime ||
      userNetwork.lastHostHeartbeat + UDP_CLIENT_HEARTBEAT_TIMEOUT < s.currentTime)

def dropSilent (s : State) (u : UserRef) : State := if s.silent u then s.failNetwork u else s

def expire (place : Place) (currentTime : Nat) (server : Server) : Server :=
  let expired (channel : Channel) : Bool :=
    !(server.id = place.serverID && channel.id = place.channelID) && channel.isOnline &&
      channel.lastHeartbeat + UDP_SERVER_HEARTBEAT_TIMEOUT < currentTime
  let channels := server.channels.map fun channel => if expired channel then offline channel else channel
  { server with
    status :=
      if server.channels.any expired && server.id ≠ place.serverID then anyOnline channels else server.status
    channels := channels }

def udpSecondTick (s : State) : State :=
  let s := if s.currentTime + UDP_SERVER_HEARTBEAT_TIMEOUT < s.consoleTime then s.recover else s
  let s := { s with currentTime := s.consoleTime }
  let s := s.lobby.users.foldl dropSilent s
  s.setServerList (s.serverConfig.serverList.map (expire s.serverConfig.place s.currentTime))

def onSecondTick (s : State) (now : Nat) : State :=
  let s := { s with consoleTime := now }.udpSecondTick
  if s.secondCount + 1 = 60 then
    { s.exec (removeOldUserTransfers s.serverConfig.place s.consoleTime) with secondCount := 0 }
  else { s with secondCount := s.secondCount + 1 }

end Tick

section Console

def commandRemoveAllRooms (s : State) : State :=
  if s.lobby.rooms = [] then s else s.removeAllRooms.exec (DatabaseManager.removeAllRooms s.serverConfig.place)

def commandDisconnectAllClients (s : State) : State :=
  if s.connections = [] then s
  else
    let connections := s.connections
    let s := s.commandRemoveAllRooms
    let s := connections.foldl
      (fun s c => if (s.getUserByConnection c).isNone then s.disconnectClient c true else s) s
    s.disconnectAllUsers

end Console

inductive Action where
  | connect (ipAddress : UInt32)
  | packet (c : ConnectionRef) (packet : Packet)
  | disconnect (c : ConnectionRef) (ec : Option ErrorCode)
  | clientDatagram (ipAddress : UInt32) (port : UInt16) (buffer : Bytes)
  | serverDatagram (buffer : Bytes)
  | secondTick (now : Nat)
  | removeAllRooms
  | disconnectAllClients

structure Event where
  action : Action
  environment : Environment

def connect (s : State) (ipAddress : UInt32) : State :=
  { s with
    connections := s.connections ++ [s.accepted]
    connection := Function.update s.connection s.accepted ⟨ipAddress,true,false⟩
    accepted := s.accepted + 1 }

def enter (s : State) (environment : Environment) : State :=
  { s with environment := environment, store := { s.store with statements := environment.statements } }

def act (s : State) : Action → State
  | .connect ipAddress => s.connect ipAddress
  | .packet c packet => if c < s.accepted then s.parsePacket c packet else s
  | .disconnect c ec => if c < s.accepted then s.disconnectUserByConnection c ec else s
  | .clientDatagram ipAddress port buffer => s.handleIncomingClientPacket ipAddress port buffer
  | .serverDatagram buffer => s.handleIncomingServerPacket buffer
  | .secondTick now => s.onSecondTick now
  | .removeAllRooms => s.commandRemoveAllRooms
  | .disconnectAllClients => s.commandDisconnectAllClients

def step (s : State) (e : Event) : State := (s.enter e.environment).act e.action

-- The server once its threads run, with whatever the tables hold then.
def start (serverConfig : ChannelConfig) (database : Database) (environment : Environment) (time : Nat) : State where
  lobby := .start
  connections := []
  connection := default
  accepted := 0
  serverConfig := serverConfig
  store := ⟨database,[]⟩
  environment := environment
  consoleTime := time
  secondCount := 0
  currentTime := time
  sent := []
  told := []
  characterMissed := false
  faulted := false
  erasedEnd := false

section Lobby
variable (s : State)

theorem recoverRoomLobby (r : RoomRef) :
    (s.recoverRoom r).lobby = s.lobby ∨ (s.recoverRoom r).lobby = s.lobby.removeRoom r := by
  dsimp only [recoverRoom]
  split
  · exact .inr (by simp)
  · exact .inl rfl

end Lobby
end CsoMaster.State
