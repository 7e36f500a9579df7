import CsoMaster.HostRestart
import CsoMaster.PacketGuards
import CsoMaster.PhaseCoherence
import CsoMaster.RoomSearch

/-! What a match has saved, over whole runs. The last SaveData that was accepted for a match is
kept beside the server as the bytes it came with; as long as every one brings the bytes it
announces, and nobody in game enters another room, it is these that a new host is sent. -/
namespace CsoMaster
open Cursor Reader

namespace Room

-- Nothing is saved of no match.
def saved (room : Room) : Bytes := (room.gameMatch.map GameMatch.saveData).getD []

-- The match is over, or it is the same one with the same save data.
def Carries (room other : Room) : Prop :=
  other.gameMatch = none ∨
    ∃ m m', room.gameMatch = some m ∧ other.gameMatch = some m' ∧ m'.saveData = m.saveData

section Carries
variable {room other third : Room} {m : GameMatch} {u : UserRef}

theorem Carries.refl (room : Room) : room.Carries room := by
  cases playing : room.gameMatch with
  | none => exact .inl playing
  | some m => exact .inr ⟨m,m,playing,playing,rfl⟩

theorem Carries.ofMatch (same : other.gameMatch = room.gameMatch) : room.Carries other := by
  unfold Carries
  rw [same]
  exact Carries.refl room

theorem Carries.trans (left : room.Carries other) (right : other.Carries third) : room.Carries third := by
  rcases right with ended | ⟨m',m'',here,there,same⟩
  · exact .inl ended
  · rcases left with ended | ⟨m,n,playing,also,before⟩
    · rw [ended] at here
      cases here
    · cases also.symm.trans here
      exact .inr ⟨m,m'',playing,there,same.trans before⟩

theorem Carries.saved (carries : room.Carries other) : other.gameMatch = none ∨ other.saved = room.saved := by
  rcases carries with ended | ⟨m,m',here,there,same⟩
  · exact .inl ended
  · exact .inr (by simp only [Room.saved,here,there,Option.map_some,Option.getD_some,same])

theorem migrateCarries (playing : other.gameMatch = some m) : other.Carries (room.migrate m u) := by
  by_cases unsaved : m.saveData = []
  · exact .inl (if_pos unsaved)
  · exact .inr ⟨m,m,playing,if_neg unsaved,rfl⟩

theorem withoutUserCarries (room : Room) (u : UserRef) : room.Carries (room.withoutUser u) := by
  cases playing : room.gameMatch with
  | none => exact .inl (by simp [withoutUser,playing])
  | some m => exact .inr ⟨m,m.removeGameMatchUser u,playing,by simp [withoutUser,playing],rfl⟩

theorem departedCarries (room : Room) (u first : UserRef) : room.Carries (room.departed u first) := by
  have without := room.withoutUserCarries u
  unfold departed
  split
  · refine without.trans ?_
    rcases hostLeftCases (room.withoutUser u) first with ⟨-,left⟩ | ⟨m,-,-,left⟩ | ⟨m,next,rest,playing,-,left⟩
    · rw [left]
      exact .ofMatch rfl
    · rw [left]
      exact .inl rfl
    · rw [left]
      exact migrateCarries playing
  · exact without

theorem returnedCarries (playing : room.gameMatch = some m) (u : UserRef) : room.Carries (room.returned u m) := by
  have without : room.Carries { room with gameMatch := some (m.removeGameMatchUser u) } :=
    .inr ⟨m,m.removeGameMatchUser u,playing,rfl,rfl⟩
  dsimp only [returned]
  split
  · refine without.trans ?_
    rcases hostReturnedCases { room with gameMatch := some (m.removeGameMatchUser u) } (m.removeGameMatchUser u) with
      ⟨-,back⟩ | ⟨next,rest,-,back⟩
    · rw [back]
      exact .inl rfl
    · rw [back]
      exact migrateCarries rfl
  · exact without

end Carries
end Room

namespace Lobby
variable {l : Lobby} {op : Op}

theorem removeRoomUserCarries (l : Lobby) (r : RoomRef) (u : UserRef) : (l.room r).Carries ((l.removeRoomUser r u).room r) := by
  cases left : (l.room r).roomUsers.erase u with
  | nil =>
    rw [removeRoomUserLast l left]
    simpa [backToLobby,setUser,setRoom] using (l.room r).withoutUserCarries u
  | cons first rest =>
    rw [removeRoomUserOthers l left]
    simpa [backToLobby,setUser,setRoom] using Room.departedCarries (l.room r) u first

-- Of all operations but these two, and the second of them writes nothing.
theorem applyCarries (admitted : l.Admitted op) (unsaved : ∀ u r m saveData, op ≠ .saveData u r m saveData)
    (idle : ∀ u r, op ≠ .serverIsActivated u r) (q : RoomRef) : (l.room q).Carries ((l.apply op).room q) := by
  have set {room : Room} (carries : (l.room q).Carries room) : (l.room q).Carries ((l.setRoom q room).room q) := by
    simpa [setRoom] using carries
  by_cases about : l.about op = some q
  · cases op with
    | removeUser u =>
      rw [apply,removeUserInside about]
      exact removeRoomUserCarries l q u
    | createRoom u s added =>
      cases about
      cases added with
      | true => exact .inl (by simp [apply,createRoom,addRoom,setUser,Room.addRoomUser,Room.new])
      | false => exact .refl _
    | joinRoom u r => cases about; exact set (.ofMatch rfl)
    | leaveRoom u r => cases about; exact removeRoomUserCarries l q u
    | updateRoomSettings u r s => cases about; exact set (.ofMatch rfl)
    | returnToRoom u r m =>
      cases about
      rw [apply,returnToRoomEq]
      exact set (Room.returnedCarries admitted.2 u)
    | serverIsActivated u r => exact absurd rfl (idle u r)
    | saveData u r m saveData => exact absurd rfl (unsaved u r m saveData)
    | sendUserStatus u r m target => cases about; exact set (.inr ⟨m,_,admitted.1.1.2,rfl,rfl⟩)
    | endGame u r m =>
      cases about
      rw [apply,endGameEq]
      exact set (.inl rfl)
    | selectTeam u r m target team => cases about; exact set (.inr ⟨m,_,admitted.1.1.2,rfl,rfl⟩)
    | removeRoom r =>
      rw [apply,removeRoomEq]
      exact .refl _
    | _ => cases about
  · by_cases all : op = .removeAllRooms
    · subst all
      obtain ⟨user,whole,-,-⟩ := destroyRooms l.rooms { l with rooms := [] }
      rw [apply,Lobby.removeAllRooms,whole]
      exact .refl _
    · rw [(applyElsewhere about all).1]
      exact .refl _

-- A match that is started has no save data, and there was none before it.
theorem applySaved (admitted : l.Admitted op) (unsaved : ∀ u r m saveData, op ≠ .saveData u r m saveData) (q : RoomRef) :
    ((l.apply op).room q).gameMatch = none ∨ ((l.apply op).room q).saved = (l.room q).saved := by
  by_cases starts : ∃ u r, op = .serverIsActivated u r
  · obtain ⟨u,r,rfl⟩ := starts
    obtain ⟨-,-,idle⟩ := admitted
    refine .inr ?_
    by_cases own : q = r
    · subst own
      simp [apply,setRoom,Room.startMatch,Room.updateRoomSettings,Room.saved,idle]
    · simp [apply,setRoom,own]
  · exact (applyCarries admitted unsaved (fun u r same => starts ⟨u,r,same⟩) q).saved

theorem Sound.roomNamed (sound : l.Sound) {r : RoomRef} (registered : r ∈ l.rooms) : l.getRoomByRoomID (l.room r).roomID = some r := by
  cases found : l.getRoomByRoomID (l.room r).roomID with
  | none => exact absurd rfl (getRoomByRoomIDNone found (sound.roomIDs r registered) r registered)
  | some q =>
    obtain ⟨mem,same,-⟩ := getRoomByRoomIDSome found
    rw [sound.distinctIDs q mem r registered same]

end Lobby

namespace State
open Runs
variable {s : State} {c : ConnectionRef} {u : UserRef} {r : RoomRef} {packet p : Packet} {action : Action}

section Ledger

-- The room of a SaveData that is accepted, the size it announces and the bytes behind that.
def acceptedSave (s : State) : Action → Option (RoomRef × Nat × Bytes)
  | .packet c packet => do
    guard (c < s.accepted ∧ packetID packet.readUInt8.1 = some .Host)
    let u ← s.loggedIn c
    let type := packet.readUInt8.2.readUInt8
    guard (type.1 = 1)
    let (r,_) ← s.hostMatch u [.InGame]
    let saveSize := type.2.readUInt16 .little
    guard (saveSize.1 ≠ 0 ∧ saveSize.1.toNat ≤ SAVEDATA_MAX_SIZE)
    return (r,saveSize.1.toNat,(rest saveSize.2).take saveSize.1.toNat)
  | _ => none

-- The user of a LeaveRoom or ReturnToRoom, and of a connection that ends.
def goes (s : State) : Action → Option UserRef
  | .packet c packet =>
    if c < s.accepted then ((s.roomRequest c packet).filter fun asked => asked.2.1 = 2 ∨ asked.2.1 = 11).map Prod.fst
    else none
  | .disconnect c _ => if c < s.accepted then s.getUserByConnection c else none
  | _ => none

end Ledger

section Host

theorem readArrayUInt8Text {p : Packet} {vec tail : Bytes} (ahead : rest p = vec ++ tail) :
    (p.readArrayUInt8 vec.length).1 = vec := by
  induction vec generalizing p with
  | nil => rfl
  | cons b vec ih =>
    have head : p.readUInt8 = (b,Cursor.advance p 1) := uint8Reads b p (vec ++ tail) ahead
    have behind : rest (Cursor.advance p 1) = vec ++ tail := by
      rw [Cursor.restAdvance,ahead]
      rfl
    simp only [List.length_cons,Packet.readArrayUInt8,head,ih behind]

theorem readArrayUInt8Whole {p : Packet} {len : Nat} (whole : ((rest p).take len).length = len) :
    (p.readArrayUInt8 len).1 = (rest p).take len := by
  have brought := readArrayUInt8Text (List.take_append_drop len (rest p)).symm
  rwa [whole] at brought

theorem acceptedSaveSome {size : Nat} {bytes : Bytes} (accepted : s.acceptedSave action = some (r,size,bytes)) :
    ∃ m : GameMatch, bytes.length ≤ SAVEDATA_MAX_SIZE ∧ (bytes.length = size →
      (s.act action).lobby = s.lobby.setRoom r { s.lobby.room r with gameMatch := some { m with saveData := bytes } }) := by
  cases action with
  | packet c packet =>
    simp only [acceptedSave,Option.bind_eq_bind,Option.bind_eq_some_iff,Option.guard_eq_some',Option.pure_def] at accepted
    obtain ⟨-,⟨known,kind⟩,u,user,-,type,⟨q,m⟩,hosts,-,⟨given,small⟩,same⟩ := accepted
    cases same
    refine ⟨m,?_,fun whole => ?_⟩
    · rw [List.length_take]
      omega
    · have handled : s.act (.packet c packet) = s.parsePacket_Host_SaveData u packet.readUInt8.2.readUInt8.2 := by
        simp only [act,if_pos known,parsePacket,kind,parsePacket_Host,user,type]
      rw [handled]
      simp only [parsePacket_Host_SaveData,hosts]
      rw [if_neg (not_or.mpr ⟨given,Nat.not_lt.mpr small⟩),setLobbyLobby,readArrayUInt8Whole whole]
  | _ => cases accepted

-- Whatever else the host reports, its match is over or has what it had.
theorem hostReportSaved (known : s.loggedIn c = some u) (other : p.readUInt8.1 ≠ 1) (q : RoomRef) :
    ((s.parsePacket_Host c p).lobby.room q).gameMatch = none ∨
      ((s.parsePacket_Host c p).lobby.room q).saved = (s.lobby.room q).saved := by
  have mem := (loggedInSome known).1
  have kept {P : Lobby.Op → Prop} {t : State} (does : Does P s t)
      (unsaved : ∀ op, P op → ∀ u r m saveData, op ≠ .saveData u r m saveData) :
      (t.lobby.room q).gameMatch = none ∨ (t.lobby.room q).saved = (s.lobby.room q).saved := by
    rcases does.lobby with same | ⟨op,admitted,performed,same⟩
    · exact .inr (by rw [same])
    · rw [same]
      exact Lobby.applySaved admitted (unsaved op performed) q
  simp only [parsePacket_Host,known]
  split
  · exact kept (serverIsActivatedEffects mem) (by rintro _ ⟨r,rfl⟩; simp)
  · rename_i save
    exact absurd save other
  · exact kept (sendUserStatusEffects mem) (by rintro _ ⟨r,m,target,rfl⟩; simp)
  · exact kept (endGameEffects mem) (by rintro _ ⟨r,m,rfl⟩; simp)
  · exact kept rejoinFailEffects (by simp)
  · exact kept (selectTeamEffects mem) (by rintro _ ⟨r,m,target,team,rfl⟩; simp)
  · exact .inr rfl

theorem unacceptedSave (unaccepted : s.acceptedSave (.packet c packet) = none) (known : c < s.accepted)
    (kind : packetID packet.readUInt8.1 = some .Host) (user : s.loggedIn c = some u)
    (type : packet.readUInt8.2.readUInt8.1 = 1) : s.parsePacket_Host c packet.readUInt8.2 = s := by
  have handled : s.parsePacket_Host c packet.readUInt8.2 = s.parsePacket_Host_SaveData u packet.readUInt8.2.readUInt8.2 := by
    simp only [parsePacket_Host,user,type]
  rw [handled]
  dsimp only [parsePacket_Host_SaveData]
  split
  · rfl
  · rename_i r m hosts
    refine if_pos ?_
    by_contra sized
    obtain ⟨given,small⟩ := not_or.mp sized
    simp [acceptedSave,guard,known,kind,user,type,hosts,given,Nat.not_lt.mp small] at unaccepted

theorem actSaved (unaccepted : s.acceptedSave action = none) (q : RoomRef) :
    ((s.act action).lobby.room q).gameMatch = none ∨ ((s.act action).lobby.room q).saved = (s.lobby.room q).saved := by
  by_cases report : ∃ c packet, action = .packet c packet ∧ packetID packet.readUInt8.1 = some .Host
  · obtain ⟨c,packet,rfl,kind⟩ := report
    by_cases known : c < s.accepted
    · have handled : s.act (.packet c packet) = s.parsePacket_Host c packet.readUInt8.2 := by
        simp only [act,if_pos known,parsePacket,kind]
      rw [handled]
      cases user : s.loggedIn c with
      | none =>
        rw [parsePacket_Host,user]
        exact .inr rfl
      | some u =>
        by_cases type : packet.readUInt8.2.readUInt8.1 = 1
        · rw [unacceptedSave unaccepted known kind user type]
          exact .inr rfl
        · exact hostReportSaved user type q
    · have handled : s.act (.packet c packet) = s := if_neg known
      rw [handled]
      exact .inr rfl
  · refine Room.Carries.saved (Reaches.invariant (fun (l : Lobby) op (before : (s.lobby.room q).Carries (l.room q)) done => ?_)
      (effectsReaches (actEffects : Effects (s.Done action) s _)) (.refl _))
    obtain ⟨admitted,caused⟩ := done
    refine before.trans (Lobby.applyCarries admitted (fun u r m saveData same => ?_) (fun u r same => ?_) q)
    · subst same
      obtain ⟨-,c,packet,sent,kind,-⟩ := caused
      exact report ⟨c,packet,sent,kind⟩
    · subst same
      obtain ⟨-,c,packet,sent,kind,-⟩ := caused
      exact report ⟨c,packet,sent,kind⟩

end Host

section Goes

-- The host of a registered room is in it.
theorem Settled.hostThere (settled : s.Settled) (registered : r ∈ s.lobby.rooms) (host : (s.lobby.room r).roomHostUser = u) :
    s.currentRoom u [.InRoom,.InGame] = some r ∧ s.lobby.getRoomByRoomID (s.lobby.user u).currentRoomID = some r := by
  obtain ⟨mem,here⟩ := (settled.members.member r registered u).mp (host ▸ (settled.members.rooms r registered).host)
  have named : s.lobby.getRoomByRoomID (s.lobby.user u).currentRoomID = some r := by
    rw [here]
    exact settled.sound.roomNamed registered
  have inside : (s.lobby.user u).isInRoom :=
    (settled.members.status u mem).mpr (here ▸ settled.sound.roomIDs r registered)
  refine ⟨?_,named⟩
  rw [currentRoom,if_pos (by simpa [User.isInRoom] using inside),named]

theorem goesPacket (goes : s.goes (.packet c packet) = some u) :
    c < s.accepted ∧ packetID packet.readUInt8.1 = some .Room ∧
      ∃ p, s.roomPacket c packet.readUInt8.2 = some (u,2,p) ∨ s.roomPacket c packet.readUInt8.2 = some (u,11,p) := by
  simp only [State.goes] at goes
  split at goes
  · rename_i known
    obtain ⟨⟨v,type,p⟩,asked,same⟩ := Option.map_eq_some_iff.mp goes
    obtain ⟨request,leaves⟩ := Option.filter_eq_some_iff.mp asked
    cases same
    have kind : packetID packet.readUInt8.1 = some .Room := by
      by_contra other
      rw [roomRequest,if_neg other] at request
      cases request
    rw [roomRequest,if_pos kind] at request
    refine ⟨known,kind,p,?_⟩
    rcases of_decide_eq_true leaves with leave | back
    · exact .inl (by rw [request,show type = 2 from leave])
    · exact .inr (by rw [request,show type = 11 from back])
  · cases goes

-- However the host goes, the others are handed the match.
theorem goesRestarts {m : GameMatch} {next : UserRef} {others : List UserRef} (settled : s.Settled) (goes : s.goes action = some u)
    (registered : r ∈ s.lobby.rooms) (host : (s.lobby.room r).roomHostUser = u) (playing : (s.lobby.room r).gameMatch = some m)
    (remain : m.participants.filter (· ≠ u) = next :: others) :
    (s.act action).restarts = s.restarts ++ s.handedOver next others m.saveData ∧
      ((s.act action).lobby.room r).roomHostUser = next := by
  have sound := settled.members.rooms r registered
  obtain ⟨current,named⟩ := settled.hostThere registered host
  cases action with
  | packet c packet =>
    obtain ⟨known,kind,p,leave | back⟩ := goesPacket goes
    · have handled : s.act (.packet c packet) = s.parsePacket_Room_LeaveRoom u := by
        simp only [act,if_pos known,parsePacket,kind,parsePacket_Room,leave]
      rw [handled]
      simp only [parsePacket_Room_LeaveRoom,current,showLobbyRestarts,showLobbyLobby]
      exact removeRoomUserRestarts sound host playing remain
    · have returning : s.returning u = some (r,m) := by
        rw [State.returning,current]
        simp [playing]
      have handled : s.act (.packet c packet) = s.parsePacket_Room_ReturnToRoom u := by
        simp only [act,if_pos known,parsePacket,kind,parsePacket_Room,back]
      rw [handled]
      simp only [parsePacket_Room_ReturnToRoom,returning]
      exact returnUserRestarts sound host playing remain
  | disconnect c ec =>
    simp only [State.goes] at goes
    split at goes
    · rename_i known
      have removed := removeUserRestarts sound host playing remain named
      have handled : s.act (.disconnect c ec) = s.disconnectUserByConnection c ec := if_pos known
      rw [handled]
      simp only [disconnectUserByConnection,goes]
      split
      · exact removed
      · exact removed
      · exact removed
    · cases goes
  | _ => cases goes

end Goes
end State

-- What the SaveData packets of each room's match have brought.
structure Handing where
  server : State
  saved : RoomRef → Bytes

namespace Handing
open Runs
open State (Action Event)

def entered (w : Handing) (e : Event) : State := w.server.enter e.environment

-- What the last accepted SaveData brought; a match that begins or ends has none.
def step (w : Handing) (e : Event) : Handing where
  server := w.server.step e
  saved r :=
    if ((w.server.step e).lobby.room r).gameMatch = none then []
    else
      match (w.entered e).acceptedSave e.action with
      | some (q,_,bytes) => if r = q then bytes else w.saved r
      | none => w.saved r

def start (server : State) : Handing := ⟨server,fun _ => []⟩

-- The match of `r` goes on with these others under `next`.
structure Hands (s t : State) (r : RoomRef) (next : UserRef) (others : List UserRef) (saved : Bytes) : Prop where
  host : (t.lobby.room r).roomHostUser = next
  sent : t.restarts = s.restarts ++ s.handedOver next others saved
  enqueued : ∀ sent ∈ s.handOver next others saved, Enqueued sent.2
  decoded :
    let userID := (s.lobby.user next).userID
    let userIDs := others.map fun v => (s.lobby.user v).userID
    Reads readHostRestart (hostRestartPacket userID userIDs saved).buffer
      ⟨PacketID_Host,Packet_HostType_HostRestart,userID,saved,if saved = [] then [] else userIDs⟩

-- Whenever the host goes from a match with other participants.
def HandsOver (w : Handing) (e : Event) : Prop :=
  ∀ u ∈ (w.entered e).goes e.action, ∀ r ∈ w.server.lobby.rooms, (w.server.lobby.room r).roomHostUser = u →
    ∀ m ∈ (w.server.lobby.room r).gameMatch, ∀ next others, m.participants.filter (· ≠ u) = next :: others →
      Hands (w.entered e) (w.server.step e) r next others (w.saved r)

-- An accepted SaveData has all the bytes that it announces.
def Whole (w : Handing) (e : Event) : Prop := ∀ save ∈ (w.entered e).acceptedSave e.action, save.2.2.length = save.2.1

instance (w : Handing) (e : Event) : Decidable (w.Whole e) :=
  inferInstanceAs (Decidable (∀ save ∈ (w.entered e).acceptedSave e.action, save.2.2.length = save.2.1))

-- What the steps keep in which nobody in game enters another room.
structure Keeping (w : Handing) : Prop where
  settled : w.server.Settled
  small : w.server.lobby.Small
  same : ∀ r, w.saved r = (w.server.lobby.room r).saved
  bounded : ∀ r, (w.saved r).length ≤ State.SAVEDATA_MAX_SIZE

def Careful (w : Handing) (e : Event) : Prop := w.server.CalmStep e ∧ w.Whole e

instance (w : Handing) (e : Event) : Decidable (w.Careful e) := inferInstanceAs (Decidable (_ ∧ _))

section Keeping
variable {w : Handing} {e : Event}

theorem stepSaved (same : ∀ r, w.saved r = (w.server.lobby.room r).saved) (whole : w.Whole e) (r : RoomRef) :
    (w.step e).saved r = ((w.step e).server.lobby.room r).saved := by
  by_cases ended : ((w.server.step e).lobby.room r).gameMatch = none
  · have nothing : ((w.server.step e).lobby.room r).saved = [] := by rw [Room.saved,ended]; rfl
    exact (if_pos ended).trans nothing.symm
  · refine (if_neg ended).trans ?_
    cases accepted : (w.entered e).acceptedSave e.action with
    | none => exact (same r).trans ((State.actSaved accepted r).resolve_left ended).symm
    | some save =>
      obtain ⟨q,size,bytes⟩ := save
      obtain ⟨m,-,brought⟩ := State.acceptedSaveSome accepted
      have lobby : (w.server.step e).lobby = _ := brought (whole _ accepted)
      change (if r = q then bytes else w.saved r) = ((w.server.step e).lobby.room r).saved
      rw [lobby]
      by_cases own : r = q
      · subst own
        simp [Lobby.setRoom,Room.saved]
      · rw [if_neg own,same]
        simp [Lobby.setRoom,own]
        rfl

theorem stepBounded (bounded : ∀ r, (w.saved r).length ≤ State.SAVEDATA_MAX_SIZE) (r : RoomRef) :
    ((w.step e).saved r).length ≤ State.SAVEDATA_MAX_SIZE := by
  dsimp only [step]
  split
  · exact Nat.zero_le _
  · cases accepted : (w.entered e).acceptedSave e.action with
    | none => exact bounded r
    | some save =>
      obtain ⟨q,size,bytes⟩ := save
      obtain ⟨-,small,-⟩ := State.acceptedSaveSome accepted
      dsimp only
      split
      · exact small
      · exact bounded r

theorem stepKeeping (w : Handing) (e : Event) (keeping : w.Keeping) (careful : w.Careful e) : (w.step e).Keeping where
  settled := State.stepSettled w.server e keeping.settled careful.1
  small := State.stepSmall keeping.small e
  same := stepSaved keeping.same careful.2
  bounded := stepBounded keeping.bounded

-- A match has no more participants than its room has users.
theorem othersFew {s : State} {r : RoomRef} {u next : UserRef} {m : GameMatch} {others : List UserRef} (sound : (s.lobby.room r).Sound)
    (small : (s.lobby.room r).roomUsers.length ≤ 255) (playing : (s.lobby.room r).gameMatch = some m)
    (remain : m.participants.filter (· ≠ u) = next :: others) : others.length < 255 := by
  have seats := sound.seatsNodup
  have seated := sound.seated
  rw [Room.participantsOf playing] at seats seated
  have few : m.participants.length ≤ (s.lobby.room r).roomUsers.length := (List.subperm_of_subset seats seated).length_le
  have left := List.length_filter_le (· ≠ u) m.participants
  rw [remain,List.length_cons] at left
  omega

theorem handsOver (w : Handing) (e : Event) (keeping : w.Keeping) : w.HandsOver e := by
  intro u goes r registered host m playing next others remain
  have settled : (w.entered e).Settled := ⟨keeping.settled.sound,keeping.settled.members⟩
  have data : m.saveData = w.saved r := by
    rw [keeping.same r,Room.saved,playing]
    rfl
  have bounded := keeping.bounded r
  have few := othersFew (keeping.settled.members.rooms r registered) (keeping.small r registered) playing remain
  obtain ⟨sent,hosts⟩ := State.goesRestarts settled goes registered host playing remain
  rw [data] at sent
  have userIDs : (others.map fun v => ((w.entered e).lobby.user v).userID).length < 255 := by rwa [List.length_map]
  refine ⟨hosts,sent,State.handOverEnqueued bounded (Nat.le_of_lt few),?_⟩
  exact hostRestartReads (Nat.lt_of_le_of_lt bounded (by decide)) (Nat.lt_of_lt_of_le userIDs (by decide))

-- A new host gets what the last SaveData of its match brought, and everybody who plays on is told of it.
theorem saveDataHandOver (serverConfig : ChannelConfig) (database : Database) (environment : Environment) (time : Nat)
    (events : List Event) (careful : Each step Careful (start (State.start serverConfig database environment time)) events) :
    Each step HandsOver (start (State.start serverConfig database environment time)) events := by
  have keeping : (start (State.start serverConfig database environment time)).Keeping :=
    { settled := State.startSettled serverConfig database environment time
      small := fun r mem => absurd mem List.not_mem_nil
      same := fun _ => rfl
      bounded := fun _ => Nat.zero_le _ }
  exact eachOfEach stepKeeping (fun w e keeping _ => handsOver w e keeping) keeping careful

end Keeping

section Sample
open State (sampleChannel sampleTables sampleEnvironment sampleStart twoPlaying arrives createRoomBody)

-- The host of two saves three bytes and leaves; the match goes on under the other user.
theorem saveDataHandOverLeaving :
    Each step HandsOver (start sampleStart) (twoPlaying ++ [arrives 0 [68,1,3,0,7,8,9],arrives 0 [65,2]]) :=
  saveDataHandOver sampleChannel sampleTables sampleEnvironment 0 _
    ⟨by decide +kernel,by decide +kernel,by decide +kernel,by decide +kernel,by decide +kernel,by decide +kernel,
      by decide +kernel,by decide +kernel,by decide +kernel,by decide +kernel,by decide +kernel,trivial⟩

-- A host that opened a second room disconnects from that one only, and nobody is handed the match.
-- Of three bytes announced one has come, and two zeros are handed over with it.
theorem handOverMissed :
    ¬ Each step HandsOver (start sampleStart) (twoPlaying ++ [arrives 0 createRoomBody,⟨.disconnect 0 none,sampleEnvironment⟩]) ∧
      ¬ Each step HandsOver (start sampleStart) (twoPlaying ++ [arrives 0 [68,1,3,0,7],arrives 0 [65,2]]) := by
  constructor
  · intro hands
    obtain ⟨-,-,-,-,-,-,-,-,-,-,disconnect,-⟩ := hands
    have handed := disconnect 0 (by decide +kernel) 2 (by decide +kernel) (by decide +kernel)
      ⟨[],[⟨0,.None⟩,⟨1,.None⟩]⟩ (by decide +kernel) 1 [] (by decide +kernel)
    exact absurd handed.host (by decide +kernel)
  · intro hands
    obtain ⟨-,-,-,-,-,-,-,-,-,-,leave,-⟩ := hands
    have handed := leave 0 (by decide +kernel) 2 (by decide +kernel) (by decide +kernel)
      ⟨[7,0,0],[⟨0,.None⟩,⟨1,.None⟩]⟩ (by decide +kernel) 1 [] (by decide +kernel)
    exact absurd handed.sent (by decide +kernel)

end Sample
end Handing
end CsoMaster
