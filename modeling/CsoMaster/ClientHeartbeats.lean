import CsoMaster.ListingSteps
import CsoMaster.UdpServer

/-! Users that are dropped for their silence, beside what each of their ports was last heard at.
A user has two ports and a time for either, and a heartbeat counts for the guest port first:
as long as the two ports differ, each time is that of the last datagram from its port. -/
namespace CsoMaster
open Runs

namespace Lobby

def SameNetworks (l other : Lobby) : Prop := ∀ v, (other.user v).userNetwork = (l.user v).userNetwork

theorem OnlyMoves.sameNetworks {l other : Lobby} (moves : l.OnlyMoves other) : l.SameNetworks other := by
  intro v
  rw [moves v]

end Lobby

namespace State
variable (s : State)

section Datagrams

-- The user of a client datagram, its type and the packet behind that.
def asked (ipAddress : UInt32) (buffer : Bytes) : Option (UserRef × UInt8 × Packet) :=
  let signature := (datagram buffer).readUInt8
  if signature.1 ≠ UDP_CLIENT_PACKET_SIGNATURE then none
  else
    let userID := signature.2.readUInt32 .little
    match s.loggedInUser userID.1 with
    | none => none
    | some u => if s.ipAddress u ≠ ipAddress then none else some (u,userID.2.readUInt8)

-- The user, the port and the socket of a SocketInfo that is accepted.
def registers : Action → Option (UserRef × UInt16 × PortType)
  | .clientDatagram ipAddress port buffer => do
    let (u,type,p) ← s.asked ipAddress buffer
    guard (type = 0)
    let portType ← readPortType p.readUInt8.1
    return (u,port,portType)
  | _ => none

-- The user and the port of a Heartbeat that is accepted.
def beats : Action → Option (UserRef × UInt16)
  | .clientDatagram ipAddress port buffer => do
    let (u,type,_) ← s.asked ipAddress buffer
    guard (type = 1)
    guard (port = s.externalPort u .Guest ∨ port = s.externalPort u .Host)
    return (u,port)
  | _ => none

theorem handleAsked (ipAddress : UInt32) (port : UInt16) (buffer : Bytes) :
    s.handleIncomingClientPacket ipAddress port buffer =
      match s.asked ipAddress buffer with
      | none => s
      | some (u,type,p) =>
        match type with
        | 0 => s.receiveSocketInfo u ipAddress port p
        | 1 => s.receiveHeartbeat u port
        | _ => s := by
  dsimp only [handleIncomingClientPacket,asked]
  by_cases other : (datagram buffer).readUInt8.1 ≠ UDP_CLIENT_PACKET_SIGNATURE
  · rw [if_pos other,if_pos other]
  · rw [if_neg other,if_neg other]
    cases found : s.loggedInUser ((datagram buffer).readUInt8.2.readUInt32 .little).1 with
    | none =>
      rw [show (s.lobby.getUserByUserID _).filter _ = none from found]
    | some u =>
      rw [show (s.lobby.getUserByUserID _).filter _ = some u from found]
      by_cases foreign : s.ipAddress u ≠ ipAddress
      · dsimp only
        rw [if_pos foreign]
        exact if_pos foreign
      · dsimp only
        rw [if_neg foreign]
        exact if_neg foreign

-- What an accepted datagram does to its user, and that no other does anything.
theorem datagramNetworks (ipAddress : UInt32) (port : UInt16) (buffer : Bytes) :
    let action := Action.clientDatagram ipAddress port buffer
    (∃ u type localIP localPort, s.registers action = some (u,port,type) ∧ (s.act action).lobby =
        s.lobby.setUser u { s.lobby.user u with userNetwork :=
          (s.lobby.user u).userNetwork.setUserNetwork type ipAddress port localIP localPort s.currentTime }) ∨
      (∃ u type, s.registers action = none ∧ s.beats action = some (u,port) ∧ port = s.externalPort u type ∧
        (type = .Host → port ≠ s.externalPort u .Guest) ∧ (s.act action).lobby =
          s.lobby.setUser u { s.lobby.user u with userNetwork :=
            (s.lobby.user u).userNetwork.setUserNetworkHeartbeat type s.currentTime }) ∨
      s.registers action = none ∧ s.beats action = none ∧ (s.act action).lobby = s.lobby := by
  intro action
  have acted : s.act action = s.handleIncomingClientPacket ipAddress port buffer := rfl
  rw [acted,handleAsked]
  cases asked : s.asked ipAddress buffer with
  | none => exact .inr (.inr ⟨by simp [registers,action,asked],by simp [beats,action,asked],rfl⟩)
  | some found =>
    obtain ⟨u,type,p⟩ := found
    dsimp only
    split
    · cases given : readPortType p.readUInt8.1 with
      | none =>
        refine .inr (.inr ⟨by simp [registers,action,asked,given],by simp [beats,action,asked,guard],?_⟩)
        simp only [receiveSocketInfo,given]
      | some portType =>
        let localIP := p.readUInt8.2.readUInt32 .little
        refine .inl ⟨u,portType,~~~localIP.1,(localIP.2.readUInt16 .little).1,by simp [registers,action,asked,given,guard],?_⟩
        simp only [receiveSocketInfo,given]
        rfl
    · have unregistered : s.registers action = none := by simp [registers,action,asked,guard]
      dsimp only [receiveHeartbeat]
      by_cases guest : port = s.externalPort u .Guest
      · refine .inr (.inl ⟨u,.Guest,unregistered,by simp [beats,action,asked,guard,guest],guest,nofun,?_⟩)
        exact (congrArg State.lobby (if_pos guest)).trans rfl
      · by_cases host : port = s.externalPort u .Host
        · refine .inr (.inl ⟨u,.Host,unregistered,by simp [beats,action,asked,guard,host],host,fun _ => guest,?_⟩)
          exact (congrArg State.lobby ((if_neg guest).trans (if_pos host))).trans rfl
        · refine .inr (.inr ⟨unregistered,by simp [beats,action,asked,guard,guest,host],?_⟩)
          exact congrArg State.lobby ((if_neg guest).trans (if_neg host))
    · rename_i socketInfo heartbeat
      refine .inr (.inr ⟨?_,?_,rfl⟩)
      · have other : type ≠ 0 := socketInfo
        simp [registers,action,asked,guard,other]
      · have other : type ≠ 1 := heartbeat
        simp [beats,action,asked,guard,other]

end Datagrams

section Tick

-- The state in which the users are gone through.
def ticking (now : Nat) : State :=
  let s := { s with consoleTime := now }
  let s := if s.currentTime + UDP_SERVER_HEARTBEAT_TIMEOUT < s.consoleTime then s.recover else s
  { s with currentTime := s.consoleTime }

-- The users that the loop drops.
def dropped (s : State) : List UserRef → List UserRef
  | [] => []
  | u :: users => (if s.silent u then [u] else []) ++ (s.dropSilent u).dropped users

def droppedAt (now : Nat) : List UserRef := (s.ticking now).dropped (s.ticking now).lobby.users

theorem droppedLoop (users : List UserRef) : users.foldl dropSilent s = (s.dropped users).foldl failNetwork s := by
  induction users generalizing s with
  | nil => rfl
  | cons u users ih =>
    rw [List.foldl_cons,ih,dropped,List.foldl_append,dropSilent]
    split <;> rfl

-- Of all users the second fails just these.
theorem tickingLoop (now : Nat) : { s with consoleTime := now }.udpSecondTick =
    let t := (s.droppedAt now).foldl failNetwork (s.ticking now)
    t.setServerList (t.serverConfig.serverList.map (expire t.serverConfig.place t.currentTime)) := by
  rw [droppedAt,← droppedLoop]
  rfl

theorem droppedSilent {u : UserRef} {users : List UserRef} (drops : u ∈ s.dropped users) : s.silent u = true := by
  induction users generalizing s with
  | nil => cases drops
  | cons v users ih =>
    rcases List.mem_append.mp drops with first | later
    · split at first
      · rename_i silent
        rwa [List.mem_singleton.mp first]
      · cases first
    · have silent := ih (s.dropSilent v) later
      have lobby : (s.dropSilent v).lobby = s.lobby := ((Quiet.refl s).dropSilent v).lobby
      have time : (s.dropSilent v).currentTime = s.currentTime :=
        congrArg (fun timed => timed.1.currentTime) (dropSilentTimed s v)
      simpa only [State.silent,lobby,time] using silent

theorem recoverRoomNetworks (r : RoomRef) : s.lobby.SameNetworks (s.recoverRoom r).lobby := by
  rcases s.recoverRoomLobby r with same | removed
  · rw [same]
    exact fun _ => rfl
  · rw [removed]
    exact (s.lobby.removeRoomMoves r).sameNetworks

theorem foldNetworks {α : Type} {f : State → α → State} (same : ∀ (s : State) (a : α), s.lobby.SameNetworks (f s a).lobby)
    (as : List α) :
    s.lobby.SameNetworks (as.foldl f s).lobby := by
  induction as generalizing s with
  | nil => exact fun _ => rfl
  | cons a as ih => exact fun v => (ih (f s a) v).trans (same s a v)

theorem tickingNetworks (now : Nat) : s.lobby.SameNetworks (s.ticking now).lobby := by
  have users (t : State) (u : UserRef) : t.lobby.SameNetworks (t.recoverUser u).lobby := by
    rw [((Quiet.refl t).recoverUser u).lobby]
    exact fun _ => rfl
  have recovered (t : State) : t.lobby.SameNetworks t.recover.lobby := fun v =>
    (foldNetworks _ recoverRoomNetworks _ v).trans
      (foldNetworks (t.setServerList (SessionCluster.forgetOthers t.serverConfig.place t.serverConfig.serverList)) users
        t.lobby.users v)
  dsimp only [ticking]
  split
  · exact recovered { s with consoleTime := now }
  · exact fun _ => rfl

theorem tickingTime (now : Nat) : (s.ticking now).currentTime = now := by
  dsimp only [ticking]
  split
  · exact congrArg Prod.snd (recoverTimed { s with consoleTime := now })
  · rfl

theorem otherNetworks {e : Event} (other : ∀ ipAddress port buffer, e.action ≠ .clientDatagram ipAddress port buffer) (v : UserRef) :
    ((s.step e).lobby.user v).userNetwork = (s.lobby.user v).userNetwork ∨
      ((s.step e).lobby.user v).userNetwork.networkSet = 0 := by
  refine Reaches.invariant (fun (l : Lobby) op (before : (l.user v).userNetwork = (s.lobby.user v).userNetwork ∨
      (l.user v).userNetwork.networkSet = 0) done => ?_) (effectsReaches (stepEffects s e)) (.inl rfl)
  obtain ⟨-,caused⟩ := done
  by_cases added : ∃ connection userID userName, op = .addUser connection userID userName
  · obtain ⟨connection,userID,userName,rfl⟩ := added
    by_cases new : v = l.fresh
    · refine .inr ?_
      simp [Lobby.apply,Lobby.addUser,new,User.new]
      rfl
    · simpa [Lobby.apply,Lobby.addUser,new] using before
  · have moves := Lobby.applyMoves l (fun connection userID userName same => added ⟨connection,userID,userName,same⟩)
      fun u userNetwork same => by
        subst same
        obtain ⟨ipAddress,port,buffer,datagram⟩ := caused
        exact other ipAddress port buffer datagram
    rw [moves.sameNetworks v]
    exact before

end Tick
end State

-- When a datagram of a user was last accepted from a port.
structure Listening where
  server : State
  heard : UserRef → UInt16 → Option Nat

namespace Listening
open State (Action Event)

def entered (w : Listening) (e : Event) : State := w.server.enter e.environment

def hear (w : Listening) (u : UserRef) (port : UInt16) : UserRef → UInt16 → Option Nat :=
  fun v q => if v = u ∧ q = port then some w.server.currentTime else w.heard v q

def step (w : Listening) (e : Event) : Listening where
  server := w.server.step e
  heard :=
    match (w.entered e).registers e.action with
    | some (u,port,_) => w.hear u port
    | none =>
      match (w.entered e).beats e.action with
      | some (u,port) => w.hear u port
      | none => w.heard

end Listening

namespace State
variable (s : State) (u : UserRef)

def lastHeartbeat : PortType → Nat
  | .Host => (s.lobby.user u).userNetwork.lastHostHeartbeat
  | .Guest => (s.lobby.user u).userNetwork.lastGuestHeartbeat

def isRegistered : PortType → Prop
  | .Host => (s.lobby.user u).userNetwork.networkSet &&& 0x2 ≠ 0
  | .Guest => (s.lobby.user u).userNetwork.networkSet &&& 0x1 ≠ 0

instance : (type : PortType) → Decidable (s.isRegistered u type)
  | .Host => inferInstanceAs (Decidable (_ ≠ _))
  | .Guest => inferInstanceAs (Decidable (_ ≠ _))

-- The port is not taken for one socket while the other one has it. As heartbeats are compared to
-- the guest's port first, that one counts even before the guest has registered.
def PortFree (port : UInt16) : PortType → Prop
  | .Host => port ≠ s.externalPort u .Guest
  | .Guest => s.isRegistered u .Host → port ≠ s.externalPort u .Host

instance (port : UInt16) : (type : PortType) → Decidable (s.PortFree u port type)
  | .Host => inferInstanceAs (Decidable (_ ≠ _))
  | .Guest => inferInstanceAs (Decidable (_ → _))

variable {s u} {s' : State} {type : PortType}

theorem registeredAfter {externalIP localIP : UInt32} {port localPort : UInt16} {currentTime : Nat}
    (set : (s'.lobby.user u).userNetwork =
      (s.lobby.user u).userNetwork.setUserNetwork type externalIP port localIP localPort currentTime) :
    s'.externalPort u type = port ∧ s'.lastHeartbeat u type = currentTime ∧ ∀ other, other ≠ type →
      s'.externalPort u other = s.externalPort u other ∧ s'.lastHeartbeat u other = s.lastHeartbeat u other ∧
        (s'.isRegistered u other → s.isRegistered u other) := by
  cases type with
  | Guest =>
    refine ⟨by rw [externalPort,set]; rfl,by rw [lastHeartbeat,set]; rfl,fun other differ => ?_⟩
    cases other with
    | Guest => exact absurd rfl differ
    | Host =>
      have flags : (s'.lobby.user u).userNetwork.networkSet &&& 2 = (s.lobby.user u).userNetwork.networkSet &&& 2 := by
        rw [set]
        exact (orAnd (s.lobby.user u).userNetwork.networkSet 1 2).trans UInt8.or_zero
      refine ⟨by rw [externalPort,set]; rfl,by rw [lastHeartbeat,set]; rfl,fun registered => ?_⟩
      rwa [isRegistered,flags] at registered
  | Host =>
    refine ⟨by rw [externalPort,set]; rfl,by rw [lastHeartbeat,set]; rfl,fun other differ => ?_⟩
    cases other with
    | Host => exact absurd rfl differ
    | Guest =>
      have flags : (s'.lobby.user u).userNetwork.networkSet &&& 1 = (s.lobby.user u).userNetwork.networkSet &&& 1 := by
        rw [set]
        exact (orAnd (s.lobby.user u).userNetwork.networkSet 2 1).trans UInt8.or_zero
      refine ⟨by rw [externalPort,set]; rfl,by rw [lastHeartbeat,set]; rfl,fun registered => ?_⟩
      rwa [isRegistered,flags] at registered

theorem beatenAfter {currentTime : Nat}
    (set : (s'.lobby.user u).userNetwork = (s.lobby.user u).userNetwork.setUserNetworkHeartbeat type currentTime) :
    (∀ type, s'.externalPort u type = s.externalPort u type) ∧ (∀ type, s'.isRegistered u type → s.isRegistered u type) ∧
      s'.lastHeartbeat u type = currentTime ∧
        ∀ other, other ≠ type → s'.lastHeartbeat u other = s.lastHeartbeat u other := by
  refine ⟨fun other => ?_,fun other registered => ?_,?_,fun other differ => ?_⟩
  · cases type <;> cases other <;> rw [externalPort,set] <;> rfl
  · cases type <;> cases other <;> rwa [isRegistered,set] at registered
  · cases type <;> rw [lastHeartbeat,set] <;> rfl
  · cases type <;> cases other
    · exact absurd rfl differ
    · rw [lastHeartbeat,set]; rfl
    · rw [lastHeartbeat,set]; rfl
    · exact absurd rfl differ

end State

namespace Listening
open State (Action Event)

def start (server : State) : Listening := ⟨server,fun _ _ => none⟩

-- A second drops a user only if one of its two ports has not been heard for the time allowed.
def DropsSilent (w : Listening) (e : Event) : Prop :=
  ∀ now, e.action = .secondTick now → ∀ u ∈ (w.entered e).droppedAt now,
    ∃ type, w.server.isRegistered u type ∧
      ∀ time, w.heard u (w.server.externalPort u type) = some time → time + State.UDP_CLIENT_HEARTBEAT_TIMEOUT < now

def Distinct (w : Listening) (e : Event) : Prop :=
  ∀ asked ∈ (w.entered e).registers e.action, w.server.PortFree asked.1 asked.2.1 asked.2.2

instance (w : Listening) (e : Event) : Decidable (w.Distinct e) :=
  inferInstanceAs (Decidable (∀ asked ∈ (w.entered e).registers e.action, w.server.PortFree asked.1 asked.2.1 asked.2.2))

-- A user's sockets have different ports, and the time noted for each is that of its port.
structure HearsUser (w : Listening) (u : UserRef) : Prop where
  last : ∀ type, w.server.isRegistered u type → w.heard u (w.server.externalPort u type) = some (w.server.lastHeartbeat u type)
  apart : w.server.isRegistered u .Host → w.server.externalPort u .Guest ≠ w.server.externalPort u .Host

def Hears (w : Listening) : Prop := ∀ u, w.HearsUser u

section Hears
variable {w : Listening} {e : Event} {u : UserRef} {port : UInt16}

theorem hearHere : w.hear u port u port = some w.server.currentTime := if_pos ⟨rfl,rfl⟩

theorem hearElsewhere {v : UserRef} {q : UInt16} (other : v = u → q ≠ port) : w.hear u port v q = w.heard v q :=
  if_neg fun both => other both.1 both.2

-- Where a user's sockets are as they were, so is what is known of them.
theorem Hears.kept {w' : Listening} (hears : w.Hears) {v : UserRef}
    (same : (w'.server.lobby.user v).userNetwork = (w.server.lobby.user v).userNetwork)
    (heard : ∀ q, w'.heard v q = w.heard v q) : w'.HearsUser v := by
  refine ⟨fun type registered => ?_,fun registered => ?_⟩
  · rw [heard]
    cases type with
    | Host =>
      have before := (hears v).last .Host (by simpa only [State.isRegistered,same] using registered)
      simpa only [State.externalPort,State.lastHeartbeat,same] using before
    | Guest =>
      have before := (hears v).last .Guest (by simpa only [State.isRegistered,same] using registered)
      simpa only [State.externalPort,State.lastHeartbeat,same] using before
  · have before := (hears v).apart (by simpa only [State.isRegistered,same] using registered)
    simpa only [State.externalPort,same] using before

theorem Hears.registered {w' : Listening} (hears : w.Hears) {type : PortType} {externalIP localIP : UInt32} {localPort : UInt16}
    (set : (w'.server.lobby.user u).userNetwork = (w.server.lobby.user u).userNetwork.setUserNetwork type externalIP port localIP
      localPort w.server.currentTime)
    (heard : w'.heard = w.hear u port) (free : w.server.PortFree u port type) : w'.HearsUser u := by
  obtain ⟨registeredPort,registeredTime,others⟩ := State.registeredAfter set
  have apart (other : PortType) (differ : other ≠ type) (registered : w.server.isRegistered u other) :
      port ≠ w.server.externalPort u other := by
    cases type <;> cases other
    · exact absurd rfl differ
    · exact free registered
    · exact free
    · exact absurd rfl differ
  refine ⟨fun other registered => ?_,fun registered => ?_⟩
  · by_cases self : other = type
    · rw [self,registeredPort,registeredTime,heard,hearHere]
    · obtain ⟨samePort,sameTime,before⟩ := others other self
      rw [samePort,sameTime,heard,hearElsewhere fun _ => (apart other self (before registered)).symm]
      exact (hears u).last other (before registered)
  · cases type with
    | Guest =>
      obtain ⟨samePort,-,before⟩ := others .Host nofun
      rw [registeredPort,samePort]
      exact apart .Host nofun (before registered)
    | Host =>
      obtain ⟨samePort,-,-⟩ := others .Guest nofun
      rw [registeredPort,samePort]
      exact Ne.symm free

-- A heartbeat is counted for the socket that it comes from.
theorem Hears.beaten {w' : Listening} (hears : w.Hears) {type : PortType}
    (set : (w'.server.lobby.user u).userNetwork = (w.server.lobby.user u).userNetwork.setUserNetworkHeartbeat type
      w.server.currentTime)
    (heard : w'.heard = w.hear u port) (own : port = w.server.externalPort u type)
    (first : type = .Host → port ≠ w.server.externalPort u .Guest) : w'.HearsUser u := by
  obtain ⟨same,before,time,others⟩ := State.beatenAfter set
  have apart (other : PortType) (differ : other ≠ type) (registered : w.server.isRegistered u other) :
      port ≠ w.server.externalPort u other := by
    cases type <;> cases other
    · exact absurd rfl differ
    · exact own ▸ (hears u).apart registered
    · exact first rfl
    · exact absurd rfl differ
  refine ⟨fun other registered => ?_,fun registered => ?_⟩
  · by_cases self : other = type
    · rw [self,same,time,heard,← own,hearHere]
    · rw [same,others other self,heard,hearElsewhere fun _ => (apart other self (before other registered)).symm]
      exact (hears u).last other (before other registered)
  · rw [same,same]
    exact (hears u).apart (before _ registered)

theorem stepHears (w : Listening) (e : Event) (hears : w.Hears) (distinct : w.Distinct e) : (w.step e).Hears := by
  intro v
  by_cases datagram : ∃ ipAddress port buffer, e.action = .clientDatagram ipAddress port buffer
  · obtain ⟨ipAddress,port,buffer,datagram⟩ := datagram
    have acted : (w.step e).server = (w.entered e).act (.clientDatagram ipAddress port buffer) := by
      rw [← datagram]
      rfl
    rcases (w.entered e).datagramNetworks ipAddress port buffer with
      ⟨u,type,localIP,localPort,registers,lobby⟩ | ⟨u,type,unregistered,beats,own,first,lobby⟩ | ⟨unregistered,unbeaten,lobby⟩
    · rw [← datagram] at registers
      have heard : (w.step e).heard = w.hear u port := by simp only [step,registers]
      have free : w.server.PortFree u port type := distinct (u,port,type) registers
      rw [← acted] at lobby
      by_cases self : v = u
      · subst self
        refine hears.registered (by rw [lobby]; exact congrArg User.userNetwork (if_pos rfl)) heard free
      · refine hears.kept (by rw [lobby]; simp [Lobby.setUser,self]; rfl) fun q => ?_
        rw [heard]
        exact hearElsewhere fun same => absurd same self
    · rw [← datagram] at unregistered beats
      have heard : (w.step e).heard = w.hear u port := by simp only [step,unregistered,beats]
      rw [← acted] at lobby
      by_cases self : v = u
      · subst self
        exact hears.beaten (by rw [lobby]; exact congrArg User.userNetwork (if_pos rfl)) heard own first
      · refine hears.kept (by rw [lobby]; simp [Lobby.setUser,self]; rfl) fun q => ?_
        rw [heard]
        exact hearElsewhere fun same => absurd same self
    · refine hears.kept (by rw [acted,lobby]; rfl) fun q => ?_
      rw [← datagram] at unregistered unbeaten
      simp only [step,unregistered,unbeaten]
  · have other (ipAddress : UInt32) (port : UInt16) (buffer : Bytes) : e.action ≠ .clientDatagram ipAddress port buffer :=
      fun same => datagram ⟨ipAddress,port,buffer,same⟩
    have unregistered : (w.entered e).registers e.action = none := by
      unfold State.registers
      split
      · rename_i ipAddress port buffer same
        exact absurd same (other ipAddress port buffer)
      · rfl
    have unbeaten : (w.entered e).beats e.action = none := by
      unfold State.beats
      split
      · rename_i ipAddress port buffer same
        exact absurd same (other ipAddress port buffer)
      · rfl
    rcases w.server.otherNetworks other v with same | unset
    · refine hears.kept same fun q => ?_
      simp only [step,unregistered,unbeaten]
    · have never (type : PortType) : ¬ (w.step e).server.isRegistered v type := by
        have none : ((w.step e).server.lobby.user v).userNetwork.networkSet = 0 := unset
        cases type <;> simp [State.isRegistered,none]
      exact ⟨fun type registered => absurd registered (never type),fun registered => absurd registered (never _)⟩

theorem dropsSilent (e : Event) (hears : w.Hears) : w.DropsSilent e := by
  intro now _ u drops
  have silent := State.droppedSilent _ drops
  simp only [State.silent,State.tickingTime,(w.entered e).tickingNetworks now u,Bool.and_eq_true,Bool.or_eq_true,
    decide_eq_true_eq] at silent
  obtain ⟨both,late⟩ := silent
  have flags : (w.server.lobby.user u).userNetwork.networkSet = 3 := both
  have registered (type : PortType) : w.server.isRegistered u type := by cases type <;> rw [State.isRegistered,flags] <;> decide
  -- The time that is over is the one of the last datagram from the port.
  have expired (type : PortType) (past : w.server.lastHeartbeat u type + State.UDP_CLIENT_HEARTBEAT_TIMEOUT < now) (time : Nat)
      (heard : w.heard u (w.server.externalPort u type) = some time) : time + State.UDP_CLIENT_HEARTBEAT_TIMEOUT < now := by
    have last := (hears u).last type (registered type)
    rw [heard] at last
    exact Option.some.inj last ▸ past
  rcases late with guest | host
  · exact ⟨.Guest,registered .Guest,expired .Guest guest⟩
  · exact ⟨.Host,registered .Host,expired .Host host⟩

-- As long as no user has one port for both sockets, only those are dropped that are silent on one.
theorem onlySilentDropped (serverConfig : ChannelConfig) (database : Database) (environment : Environment) (time : Nat)
    (events : List Event) (distinct : Each step Distinct (start (State.start serverConfig database environment time)) events) :
    Each step DropsSilent (start (State.start serverConfig database environment time)) events := by
  have unregistered (u : UserRef) (type : PortType) :
      ¬ (State.start serverConfig database environment time).isRegistered u type := by
    have unset : ((State.start serverConfig database environment time).lobby.user u).userNetwork.networkSet = 0 := rfl
    cases type <;> simp [State.isRegistered,unset]
  have hears : (start (State.start serverConfig database environment time)).Hears :=
    fun u => ⟨fun type registered => absurd registered (unregistered u type),fun registered => absurd registered (unregistered u _)⟩
  exact eachOfEach stepHears (fun w e hears _ => dropsSilent e hears) hears distinct

end Hears

section Sample
open State (sampleChannel sampleTables sampleEnvironment sampleStart connects arrives transferLoginBody)
open UDPServer (receives socketInfo)

-- A user registers these two ports, beats from the guest's alone, and is dropped.
def beating (guestPort hostPort : UInt16) : List Event :=
  [connects,arrives 0 (transferLoginBody "one"),receives guestPort (socketInfo 1 0),receives hostPort (socketInfo 1 1),
    ⟨.secondTick 10,sampleEnvironment⟩,receives guestPort [87,1,0,0,0,1,0],⟨.secondTick 16,sampleEnvironment⟩]

theorem onlySilentDroppedBeating : Each step DropsSilent (start sampleStart) (beating 5000 5001) :=
  onlySilentDropped sampleChannel sampleTables sampleEnvironment 0 (beating 5000 5001)
    ⟨by decide +kernel,by decide +kernel,by decide +kernel,by decide +kernel,by decide +kernel,by decide +kernel,
      by decide +kernel,trivial⟩

-- The heartbeat from the port that is both the guest's and the host's leaves the host silent.
theorem sharedPortDropped : ¬ ∀ serverConfig database environment time events,
    Each step DropsSilent (start (State.start serverConfig database environment time)) events := by
  intro drops
  obtain ⟨-,-,-,-,-,-,drop,-⟩ := drops sampleChannel sampleTables sampleEnvironment 0 (beating 5000 5000)
  obtain ⟨type,-,silent⟩ := drop 16 rfl 0 (by decide +kernel)
  have late : 10 + State.UDP_CLIENT_HEARTBEAT_TIMEOUT < 16 := silent 10 (by cases type <;> decide +kernel)
  exact absurd late (by decide)

end Sample
end Listening
end CsoMaster
