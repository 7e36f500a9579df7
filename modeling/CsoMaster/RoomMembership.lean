import CsoMaster.ServerMoves
import CsoMaster.TcpFraming

/-! Who is in which room, over whole runs. Rooms list their users, users note a room ID and a
status, and matches hold users once more; the four agree as long as no user in game enters
another room, and then a removed user is out of all of them for good. -/
namespace CsoMaster.State
open Runs
open SqlText (ascii)

section Run
variable {s : State} {u : UserRef}

structure UniqueMembership (s : State) : Prop where
  listed : ∀ u ∈ s.lobby.users, ∀ r ∈ s.lobby.rooms,
    u ∈ (s.lobby.room r).roomUsers ↔ (s.lobby.user u).currentRoomID = (s.lobby.room r).roomID
  once : ∀ u ∈ s.lobby.users, ∀ r ∈ s.lobby.rooms, ∀ q ∈ s.lobby.rooms,
    u ∈ (s.lobby.room r).roomUsers → u ∈ (s.lobby.room q).roomUsers → r = q
  status : ∀ u ∈ s.lobby.users,
    (s.lobby.user u).userStatus = .InRoom ∨ (s.lobby.user u).userStatus = .InGame ↔
      (s.lobby.user u).currentRoomID ≠ 0

-- What calm steps keep.
structure Settled (s : State) : Prop where
  sound : s.lobby.Sound
  members : s.lobby.Members

theorem startSettled (serverConfig : ChannelConfig) (database : Database) (environment : Environment) (time : Nat) :
    (start serverConfig database environment time).Settled :=
  ⟨Lobby.startSound,Lobby.startMembers⟩

theorem stepSettled (s : State) (e : Event) (settled : s.Settled) (calm : s.CalmStep e) : (s.step e).Settled := by
  have kept : (s.step e).lobby.Sound ∧ (s.step e).lobby.Members :=
    Reaches.invariant (fun (l : Lobby) _ (before : l.Sound ∧ l.Members) meets =>
        ⟨Lobby.applySound before.1 meets.admitted,
          Lobby.applyMembers before.1 before.2 meets.admitted (meets.calm calm)⟩)
      (stepMoves s e) ⟨settled.sound,settled.members⟩
  exact ⟨kept.1,kept.2⟩

theorem removeUserSettled (settled : s.Settled) (mem : u ∈ s.lobby.users) : (s.removeUser u).Settled := by
  constructor
  · rw [removeUserLobby]
    exact Lobby.removeUserSound settled.sound u
  · rw [removeUserLobby]
    exact settled.members.removeUser settled.sound mem

theorem Settled.uniqueMembership (settled : s.Settled) : s.UniqueMembership where
  listed u mem r registered := by
    rw [settled.members.member r registered u]
    exact ⟨And.right,fun here => ⟨mem,here⟩⟩
  once _ _ _ inR _ inQ listedR listedQ := settled.members.only settled.sound inR inQ listedR listedQ
  status := settled.members.status

theorem roomMembership (serverConfig : ChannelConfig) (database : Database) (environment : Environment) (time : Nat)
    {events : List Event} (calm : Each step CalmStep (start serverConfig database environment time) events) :
    Always step UniqueMembership (start serverConfig database environment time) events := by
  have settled := alwaysOfEach stepSettled (startSettled serverConfig database environment time) calm
  exact alwaysMono (fun _ => Settled.uniqueMembership) settled

-- All a packet, a broadcast or a tick can come upon the user by.
def Refers (s : State) (u : UserRef) : Prop :=
  u ∈ s.lobby.users ∨ ∃ r ∈ s.lobby.rooms,
    u ∈ (s.lobby.room r).roomUsers ∨ (s.lobby.room r).roomHostUser = u ∨ u ∈ (s.lobby.room r).participants

-- The address was a user's, and is nobody's now.
structure Gone (s : State) (u : UserRef) : Prop where
  old : u < s.lobby.fresh
  absent : u ∉ s.lobby.users

theorem stepGone (gone : s.Gone u) (e : Event) : (s.step e).Gone u := by
  have kept : u < (s.step e).lobby.fresh ∧ u ∉ (s.step e).lobby.users :=
    Reaches.invariant (fun (l : Lobby) op (before : u < l.fresh ∧ u ∉ l.users) _ => by
        obtain ⟨more,users⟩ := l.applyUsers op
        refine ⟨Nat.lt_of_lt_of_le before.1 more,fun mem => ?_⟩
        exact (users u mem).elim before.2 (Nat.ne_of_lt before.1))
      (stepMoves s e) ⟨gone.old,gone.absent⟩
  exact ⟨kept.1,kept.2⟩

theorem removeUserGone (settled : s.Settled) (mem : u ∈ s.lobby.users) : (s.removeUser u).Gone u := by
  constructor
  · rw [removeUserLobby,Lobby.removeUserFresh]
    exact settled.sound.usersOld u mem
  · rw [removeUserLobby,Lobby.removeUserUsers]
    exact settled.sound.usersNodup.not_mem_erase

theorem Settled.unreferred (settled : s.Settled) (gone : s.Gone u) : ¬ s.Refers u := by
  have unlisted (r : RoomRef) (registered : r ∈ s.lobby.rooms) : u ∉ (s.lobby.room r).roomUsers :=
    fun listed => gone.absent ((settled.members.member r registered u).mp listed).1
  rintro (mem | ⟨r,registered,listed | host | seated⟩)
  · exact gone.absent mem
  · exact unlisted r registered listed
  · exact unlisted r registered (host ▸ (settled.members.rooms r registered).host)
  · exact unlisted r registered ((settled.members.rooms r registered).seated u seated)

-- From any state of the run: no state after the removal refers to the user.
theorem removedUserUnreferred (serverConfig : ChannelConfig) (database : Database) (environment : Environment)
    (time : Nat) {events : List Event}
    (calm : Each step CalmStep (start serverConfig database environment time) events) :
    Always step
      (fun s => ∀ u ∈ s.lobby.users, ∀ later, Each step CalmStep (s.removeUser u) later →
        Always step (fun t => ¬ t.Refers u) (s.removeUser u) later)
      (start serverConfig database environment time) events := by
  have settled := alwaysOfEach stepSettled (startSettled serverConfig database environment time) calm
  refine alwaysMono (fun s settled u mem later calm => ?_) settled
  have keeps (t : State) (e : Event) (before : t.Settled ∧ t.Gone u) (calm : t.CalmStep e) :
      (t.step e).Settled ∧ (t.step e).Gone u :=
    ⟨stepSettled t e before.1 calm,stepGone before.2 e⟩
  have kept := alwaysOfEach keeps ⟨removeUserSettled settled mem,removeUserGone settled mem⟩ calm
  exact alwaysMono (fun t both => both.1.unreferred both.2) kept

end Run

section Sample

def sampleChannel : ChannelConfig where
  place := ⟨1,1⟩
  maxPlayers := 600
  prohibitedNames := []
  serverList := [⟨1,.Ready,.Normal,[⟨1,0,600,true,0⟩]⟩]
  ip := 0
  port := 30002
  udpAuthKey := []
  defaultBuyMenus := []
  defaultInventory := []

-- bcrypt's hash of the password "pw".
def sampleHash : Bytes := ascii "$2b$04$abcdefghijklmnopqrstuuyvPXIbu7xe6/CED2DzX8z6Si09MlzlW"

-- Two accounts with characters, on their way here from another channel, and a new one.
def sampleTables : Database where
  userNamed userName := if userName = ascii "third" then some ⟨3,sampleHash⟩ else none
  userName userID := [(1,ascii "first"),(2,ascii "second"),(3,ascii "third")].lookup userID
  userCharacters := ((∅ : AList fun _ : UInt32 => UserCharacter).insert 1 default).insert 2 default
  userConfigs := ∅
  userQuickStarts := ∅
  userBuyMenus := []
  userBookMarks := []
  userInventory := []
  userSessions := ∅
  userTransfers := [⟨1,ascii "one",⟨1,1⟩,0⟩,⟨2,ascii "two",⟨1,1⟩,0⟩]
  rooms := []

def sampleBuildTimestamp : UInt32 := 1213185600

-- Every statement runs; bcrypt and the date as far as they are asked.
def sampleEnvironment : Environment where
  statements := []
  bcrypt_checkpw password hash := if password = ascii "pw" ∧ hash = sampleHash then 0 else 1
  bcrypt_gensalt := none
  setupEncryptCipher := true
  setupDecryptCipher := true
  dateStr timestamp := if timestamp = sampleBuildTimestamp then ascii "11.06.08" else ascii "01.01.70"
  now := 1700000000

def sampleStart : State := start sampleChannel sampleTables sampleEnvironment 0

-- The packet a frame with this body is handed over as.
def received (body : Bytes) : Packet :=
  { Packet.createClient (TcpFraming.header 1 body.length) with buffer := TcpFraming.frame 1 body }

def arrives (c : ConnectionRef) (body : Bytes) : Event := ⟨.packet c (received body),sampleEnvironment⟩

def connects : Event := ⟨.connect 0,sampleEnvironment⟩

def transferLoginBody (authToken : String) : Bytes := [5] ++ ascii authToken ++ [0]

def createRoomBody : Bytes := [65,0] ++ ascii "room" ++ [0,0,16,1,1,10,0,0,3,3,0,0,0,0]

-- A user alone in its room starts a match and is reported in it.
def playing : List Event :=
  [connects,arrives 0 (transferLoginBody "one"),arrives 0 createRoomBody,arrives 0 [68,0],
    arrives 0 [68,2,1,0,0,0,1]]

end Sample

theorem roomMembershipPlaying : Always step UniqueMembership sampleStart playing :=
  roomMembership _ _ _ _ ⟨trivial,by decide +kernel,by decide +kernel,by decide +kernel,by decide +kernel,trivial⟩

-- In game it opens a second room, and stays listed in the first.
theorem secondRoomInGame :
    ¬ ∀ serverConfig database environment time events,
      Always step UniqueMembership (start serverConfig database environment time) events := by
  intro always
  have last := alwaysLast (always sampleChannel sampleTables sampleEnvironment 0 (playing ++ [arrives 0 createRoomBody]))
  exact absurd ((last.listed 0 (by decide +kernel) 1 (by decide +kernel)).mp (by decide +kernel)) (by decide +kernel)

-- The host disconnects from its room and its match.
theorem removedUserUnreferredPlaying : ¬ ((run step sampleStart playing).removeUser 0).Refers 0 := by
  have calm : Each step CalmStep sampleStart playing :=
    ⟨trivial,by decide +kernel,by decide +kernel,by decide +kernel,by decide +kernel,trivial⟩
  have removed := alwaysLast (removedUserUnreferred sampleChannel sampleTables sampleEnvironment 0 calm)
  exact removed 0 (by decide +kernel) [] trivial

-- After the second room only that one is left; the first still lists the removed user.
theorem secondRoomRemovedUser :
    ¬ ∀ serverConfig database environment time events, Always step
      (fun s => ∀ u ∈ s.lobby.users, ∀ later, Always step (fun t => ¬ t.Refers u) (s.removeUser u) later)
      (start serverConfig database environment time) events := by
  intro always
  have last := alwaysLast (always sampleChannel sampleTables sampleEnvironment 0 (playing ++ [arrives 0 createRoomBody]))
  exact last 0 (by decide +kernel) [] (.inr ⟨1,by decide +kernel,.inl (by decide +kernel)⟩)

end CsoMaster.State
