import CsoMaster.RoomMembership

/-! CreateRoom and its two ends. The room gets the least ID that no registered room has, and is
registered if the rooms table has no row of this channel under it; the user, who has been moved
into the room by then, is moved to the lobby again if it has. -/
namespace CsoMaster
open DatabaseManager

namespace Lobby

-- Where every user is, and all that is registered.
structure Untouched (l l' : Lobby) : Prop where
  status : ∀ v, (l'.user v).userStatus = (l.user v).userStatus
  current : ∀ v, (l'.user v).currentRoomID = (l.user v).currentRoomID
  rooms : l'.rooms = l.rooms
  room : ∀ r ∈ l.rooms, l'.room r = l.room r

theorem untouchedRefl (l : Lobby) : l.Untouched l := ⟨fun _ => rfl,fun _ => rfl,rfl,fun _ _ => rfl⟩

theorem backToLobbyUntouched (l : Lobby) (u : UserRef) :
    l.Untouched (l.backToLobby u) ↔ (l.user u).userStatus = .InLobby ∧ (l.user u).currentRoomID = 0 := by
  have own : ((l.backToLobby u).user u) = (l.user u).backToLobby := by simp [backToLobby,setUser]
  constructor
  · intro untouched
    have status := untouched.status u
    have current := untouched.current u
    rw [own] at status current
    exact ⟨status.symm,current.symm⟩
  · rintro ⟨status,current⟩
    have other (v : UserRef) (differs : v ≠ u) : (l.backToLobby u).user v = l.user v := by simp [backToLobby,setUser,differs]
    refine ⟨fun v => ?_,fun v => ?_,rfl,fun _ _ => rfl⟩
    · by_cases same : v = u
      · rw [same,own,status]
        rfl
      · rw [other v same]
    · by_cases same : v = u
      · rw [same,own,current]
        rfl
      · rw [other v same]

theorem freeRoomIDFromFinds (l : Lobby) {left : Nat} {first roomID : UInt16} (small : first.toNat + left ≤ 65535)
    (after : first.toNat ≤ roomID.toNat) (inside : roomID.toNat < first.toNat + left) (given : first ≠ 0)
    (free : ∀ r ∈ l.rooms, (l.room r).roomID ≠ roomID) : l.freeRoomIDFrom left first ≠ 0 := by
  induction left generalizing first with
  | zero => omega
  | succ left ih =>
    unfold freeRoomIDFrom
    cases found : l.getRoomByRoomID first with
    | none => simpa using given
    | some r =>
      obtain ⟨registered,id,-⟩ := getRoomByRoomIDSome found
      have differs : first.toNat ≠ roomID.toNat := fun same => free r registered (id.trans (UInt16.toNat_inj.mp same))
      have next : (first + 1).toNat = first.toNat + 1 := by
        rw [UInt16.toNat_add]
        have one : (1 : UInt16).toNat = 1 := rfl
        omega
      simp only [Option.isSome_some,if_true]
      refine ih (by omega) (by omega) (by omega) fun zero => ?_
      rw [zero] at next
      exact absurd next (Nat.succ_ne_zero _).symm

theorem getFreeRoomIDFinds (l : Lobby) {roomID : UInt16} (bounded : 1 ≤ roomID.toNat ∧ roomID.toNat ≤ 65534)
    (free : ∀ r ∈ l.rooms, (l.room r).roomID ≠ roomID) : l.getFreeRoomID ≠ 0 :=
  l.freeRoomIDFromFinds (by decide) bounded.1 (Nat.lt_succ_of_le bounded.2) (by decide) free

end Lobby

namespace State
open Runs
open SqlText (ascii)
variable {s : State} {u : UserRef}

section Failure

-- CreateRoom ends with its room registered.
def Registers (s t : State) : Prop := t.lobby.rooms = s.lobby.rooms ++ [s.lobby.fresh]

instance (s t : State) : Decidable (s.Registers t) := inferInstanceAs (Decidable (_ = _))

-- Refused by the guards: the user is in a room, no ID is free, or there is no character.
def Refused (s : State) (u : UserRef) : Prop :=
  (s.lobby.user u).userStatus = .InRoom ∨ s.lobby.getFreeRoomID = 0 ∨
    (s.getUserCharacter u USERCHARACTER_FLAG_ALL).1.result ≤ 0

theorem admitCreateRoomNone : (s.admitCreateRoom u).1 = none ↔ s.Refused u := by
  dsimp only [admitCreateRoom,Refused]
  split
  · simp [*]
  · split
    · simp [*]
    · split <;> simp [*]

-- The user goes back to where it was in one case only, if it had been moved at all.
theorem failedCreation (p : Packet) (failed : ¬ s.Registers (s.parsePacket_Room_CreateRoom u p)) :
    s.lobby.Untouched (s.parsePacket_Room_CreateRoom u p).lobby ↔
      s.Refused u ∨ (s.lobby.user u).userStatus = .InLobby ∧ (s.lobby.user u).currentRoomID = 0 := by
  have asked := (quietAdmitCreateRoom s u).lobby
  rw [← admitCreateRoomNone]
  unfold parsePacket_Room_CreateRoom at failed ⊢
  cases admitted : (s.admitCreateRoom u).1 with
  | none =>
    simp only [asked]
    exact ⟨fun _ => .inl trivial,fun _ => s.lobby.untouchedRefl⟩
  | some userCharacter =>
    simp only [admitted] at failed
    let created := (readCreateRoom (Room.new s.lobby.getFreeRoomID u).roomSettings p).1
    obtain ⟨added,lobby⟩ := openRoomLobby (s.admitCreateRoom u).2 u userCharacter created.1 created.2
    rw [asked] at lobby
    rw [Registers,lobby] at failed
    rw [lobby]
    cases added with
    | true => exact absurd rfl failed
    | false => exact (s.lobby.backToLobbyUntouched u).trans (by simp)

end Failure

section Success

theorem characterStore (answers : Answers s.store) (flag : UInt16) : (s.getUserCharacter u flag).2.store = answered s.store := by
  change (DatabaseManager.getUserCharacter (s.lobby.user u).userID flag s.store).2 = _
  simp only [DatabaseManager.getUserCharacter,select,bind,StateT.bind,queryAnswered answers]
  cases (answered s.store).database.userCharacters.lookup (s.lobby.user u).userID <;> rfl

theorem characterFound (answers : Answers s.store)
    (character : ((answered s.store).database.userCharacters.lookup (s.lobby.user u).userID).isSome) (flag : UInt16) :
    0 < (s.getUserCharacter u flag).1.result := by
  obtain ⟨row,found⟩ := Option.isSome_iff_exists.mp character
  change 0 < (DatabaseManager.getUserCharacter (s.lobby.user u).userID flag s.store).1.result
  simp [DatabaseManager.getUserCharacter,select,bind,StateT.bind,queryAnswered answers,found,pureRuns]

theorem addRoomAnswered {d : Store} (answers : Answers d) (row : RoomRow) :
    0 < (addRoom row d).1 ↔ ∀ old ∈ (answered d).database.rooms, RoomRow.at old row.place row.roomID = false := by
  have next := answersNext answers (answered d).database
  cases present : (answered d).database.rooms.any (RoomRow.at · row.place row.roomID) with
  | true =>
    have here : ¬ ∀ old ∈ (answered d).database.rooms, RoomRow.at old row.place row.roomID = false := by
      simpa using present
    simp [addRoom,select,bind,StateT.bind,queryAnswered answers,present,here,pureRuns]
  | false =>
    have absent : ∀ old ∈ (answered d).database.rooms, RoomRow.at old row.place row.roomID = false := by
      simpa using present
    simp [addRoom,select,bind,StateT.bind,queryAnswered answers,present,execute,queryAnswered next,pureRuns]
    exact absent

theorem approachRoomStore (s : State) (u : UserRef) : (s.approachRoom u).store = s.store :=
  sendAllStore _ _ _

theorem openRoomRegisters (answers : Answers s.store) (userCharacter : UserCharacter) (settings : RoomSettings)
    (fastStart : Bool) : s.Registers (s.openRoom u userCharacter settings fastStart) ↔
      ∀ row ∈ (answered s.store).database.rooms, RoomRow.at row s.serverConfig.place s.lobby.getFreeRoomID = false := by
  have place : (s.approachRoom u).serverConfig.place = s.serverConfig.place := ((Keeps.refl s).approachRoom u).place
  have added := addRoomAnswered answers ((s.approachRoom u).roomRow (s.opened u settings))
  have row : ((s.approachRoom u).roomRow (s.opened u settings)).place = s.serverConfig.place := place
  rw [row] at added
  change 0 < _ ↔ ∀ old ∈ _, RoomRow.at old s.serverConfig.place s.lobby.getFreeRoomID = false at added
  rw [← added,← approachRoomStore s u,openRoomEq]
  dsimp only [Registers]
  split
  · rename_i refused
    have same : ¬ s.lobby.rooms = s.lobby.rooms ++ [s.lobby.fresh] := by simp
    have rooms : (((s.approachRoom u).sql (addRoom ((s.approachRoom u).roomRow (s.opened u settings)))).2.roomRefused u).lobby.rooms =
        s.lobby.rooms := by
      simp [roomRefused]
      rfl
    rw [rooms]
    exact ⟨fun grows => absurd grows same,fun positive => absurd positive (Int.not_lt.mpr refused)⟩
  · rename_i positive
    refine ⟨fun _ => Int.not_le.mp positive,fun _ => ?_⟩
    simp [Lobby.addRoom,Lobby.setUser]

-- The least ID no registered room has is the only one that is tried.
theorem freeRoomIDUsable (p : Packet) (present : (s.lobby.user u).userStatus = .InLobby) (answers : Answers s.store)
    (character : ((answered s.store).database.userCharacters.lookup (s.lobby.user u).userID).isSome)
    (roomID : UInt16) (bounded : 1 ≤ roomID.toNat ∧ roomID.toNat ≤ 65534)
    (unregistered : ∀ r ∈ s.lobby.rooms, (s.lobby.room r).roomID ≠ roomID) :
    s.Registers (s.parsePacket_Room_CreateRoom u p) ↔
      ∀ row ∈ (answered (answered s.store)).database.rooms,
        RoomRow.at row s.serverConfig.place s.lobby.getFreeRoomID = false := by
  have given := s.lobby.getFreeRoomIDFinds bounded unregistered
  have found : ¬ (s.getUserCharacter u USERCHARACTER_FLAG_ALL).1.result ≤ 0 :=
    Int.not_le.mpr (characterFound answers character _)
  have admitted : s.admitCreateRoom u = (some (s.getUserCharacter u USERCHARACTER_FLAG_ALL).1.userCharacter,
      (s.getUserCharacter u USERCHARACTER_FLAG_ALL).2) := by
    simp [admitCreateRoom,present,given,found]
  have store := characterStore (u := u) answers USERCHARACTER_FLAG_ALL
  have next : Answers (s.getUserCharacter u USERCHARACTER_FLAG_ALL).2.store := by
    rw [store]
    exact answersNext answers (answered s.store).database
  have opens := openRoomRegisters (u := u) next (s.getUserCharacter u USERCHARACTER_FLAG_ALL).1.userCharacter
    (readCreateRoom (Room.new s.lobby.getFreeRoomID u).roomSettings p).1.1
    (readCreateRoom (Room.new s.lobby.getFreeRoomID u).roomSettings p).1.2
  rw [store] at opens
  unfold parsePacket_Room_CreateRoom
  rw [admitted]
  exact opens

end Success

section Sample

-- A user in the lobby, and one on the way back to the server list.
def inLobby : List Event := [connects,arrives 0 (transferLoginBody "one")]

def inServerList : List Event := inLobby ++ [arrives 0 [10]]

def failing (statements : List Bool) : Environment :=
  { sampleEnvironment with statements := statements.map fun ok => ⟨id,ok⟩ }

def createRoomPacket : Packet := (received createRoomBody).readUInt8.2.readUInt8.2

-- The room's row could not be looked for.
theorem failedCreationInLobby :
    ((run step sampleStart inLobby).enter (failing [true,false])).lobby.Untouched
      (((run step sampleStart inLobby).enter (failing [true,false])).parsePacket_Room_CreateRoom 0 createRoomPacket).lobby :=
  (failedCreation createRoomPacket (by decide +kernel)).mpr (.inr (by decide +kernel))

theorem failedCreationInServerList :
    ¬ ∀ serverConfig database environment time events, Always step
      (fun s => ∀ u ∈ s.lobby.users, ∀ environment p,
        ¬ (s.enter environment).Registers ((s.enter environment).parsePacket_Room_CreateRoom u p) →
          (s.enter environment).lobby.Untouched ((s.enter environment).parsePacket_Room_CreateRoom u p).lobby)
      (start serverConfig database environment time) events := by
  intro always
  have last := alwaysLast (always sampleChannel sampleTables sampleEnvironment 0 inServerList)
  have untouched := last 0 (by decide +kernel) (failing [true,false]) createRoomPacket (by decide +kernel)
  exact absurd (untouched.status 0) (by decide +kernel)

theorem freeRoomIDUsableFirst :
    ((run step sampleStart inLobby).enter sampleEnvironment).Registers
      (((run step sampleStart inLobby).enter sampleEnvironment).parsePacket_Room_CreateRoom 0 createRoomPacket) :=
  (freeRoomIDUsable createRoomPacket (by decide +kernel) (fun _ mem => absurd mem List.not_mem_nil) (by decide +kernel)
    1 (by decide) (by decide +kernel)).mpr (by decide +kernel)

-- The room is left, and its row stays behind.
theorem undeletedRowRefuses :
    ¬ ∀ serverConfig database environment time events, Always step
      (fun s => ∀ u ∈ s.lobby.users, ∀ environment p, (s.lobby.user u).userStatus = .InLobby →
        Answers (s.enter environment).store →
        ((answered (s.enter environment).store).database.userCharacters.lookup (s.lobby.user u).userID).isSome →
        ∀ roomID : UInt16, 1 ≤ roomID.toNat ∧ roomID.toNat ≤ 65534 → (∀ r ∈ s.lobby.rooms, (s.lobby.room r).roomID ≠ roomID) →
        (∀ row ∈ (answered (answered (s.enter environment).store)).database.rooms,
          RoomRow.at row s.serverConfig.place roomID = false) →
        (s.enter environment).Registers ((s.enter environment).parsePacket_Room_CreateRoom u p))
      (start serverConfig database environment time) events := by
  intro always
  have last := alwaysLast (always sampleChannel sampleTables sampleEnvironment 0
    (inLobby ++ [arrives 0 createRoomBody,⟨.packet 0 (received [65,2]),failing [false]⟩]))
  have registers := last 0 (by decide +kernel) sampleEnvironment createRoomPacket (by decide +kernel)
    (fun _ mem => absurd mem List.not_mem_nil) (by decide +kernel) 2 (by decide) (by decide +kernel) (by decide +kernel)
  exact absurd registers (by decide +kernel)

end Sample
end State
end CsoMaster
