import CsoMaster.ServerStep

/-! What the lobby's work leaves alone: the configuration with its server list, the clocks and the
connections. Broadcasts, rooms that are updated, left and removed, and users on their way out
send and write, and change the lobby, but none of these. -/
namespace CsoMaster.State
open DatabaseManager

structure Outlook where
  serverConfig : ChannelConfig
  currentTime : Nat
  consoleTime : Nat
  connections : List ConnectionRef
  connection : ConnectionRef → Connection

def outlook (s : State) : Outlook := ⟨s.serverConfig,s.currentTime,s.consoleTime,s.connections,s.connection⟩

section Frame
variable (s : State)

theorem foldOutlook {α : Type} {f : State → α → State} (same : ∀ s a, (f s a).outlook = s.outlook) (as : List α) :
    (as.foldl f s).outlook = s.outlook := by
  induction as generalizing s with
  | nil => rfl
  | cons a as ih => rw [List.foldl_cons,ih,same]

@[simp] theorem faultOutlook : s.fault.outlook = s.outlook := rfl

@[simp] theorem erasingOutlook (found : Prop) [Decidable found] : (s.erasing found).outlook = s.outlook := rfl

@[simp] theorem setLobbyOutlook (lobby : Lobby) : (s.setLobby lobby).outlook = s.outlook := rfl

@[simp] theorem sqlOutlook {α : Type} (q : Sql α) : (s.sql q).2.outlook = s.outlook := rfl

@[simp] theorem execOutlook {α : Type} (q : Sql α) : (s.exec q).outlook = s.outlook := rfl

@[simp] theorem sendOutlook (c : ConnectionRef) (m : Message) : (s.send c m).outlook = s.outlook := by
  unfold send
  split <;> rfl

@[simp] theorem sendToOutlook (u : UserRef) (m : Message) : (s.sendTo u m).outlook = s.outlook := s.sendOutlook _ m

@[simp] theorem sendAllOutlook (us : List UserRef) (m : Message) : (s.sendAll us m).outlook = s.outlook :=
  s.foldOutlook (fun s u => s.sendToOutlook u m) us

@[simp] theorem tellOutlook (u : UserRef) (r : RoomRef) (m : Message) : (s.tell u r m).outlook = s.outlook := by
  unfold tell
  split <;> rfl

@[simp] theorem tellAllOutlook (us : List UserRef) (r : RoomRef) (m : Message) : (s.tellAll us r m).outlook = s.outlook :=
  s.foldOutlook (fun s u => s.tellOutlook u r m) us

@[simp] theorem getUserCharacterOutlook (u : UserRef) (flag : UInt16) :
    (s.getUserCharacter u flag).2.outlook = s.outlook := rfl

@[simp] theorem gameUsersOutlook (us : List UserRef) : (s.gameUsers us).2.outlook = s.outlook := by
  induction us generalizing s with
  | nil => rfl
  | cons u us ih => exact ih (s.getUserCharacter u USERCHARACTER_FLAG_ALL).2

end Frame

section Rooms
variable (s : State) (r : RoomRef) (u : UserRef)

@[simp] theorem sendFullUserListPacketOutlook (c : ConnectionRef) : (s.sendFullUserListPacket c).outlook = s.outlook := by
  simp [sendFullUserListPacket]

@[simp] theorem sendAddUserPacketToAllOutlook : (s.sendAddUserPacketToAll u).outlook = s.outlook := by
  dsimp only [sendAddUserPacketToAll]
  split <;> simp

@[simp] theorem sendRemoveUserPacketToAllOutlook : (s.sendRemoveUserPacketToAll u).outlook = s.outlook := by
  simp [sendRemoveUserPacketToAll]

@[simp] theorem sendUpdateRoomPacketToAllOutlook (flag : UInt16) : (s.sendUpdateRoomPacketToAll r flag).outlook = s.outlook := by
  simp [sendUpdateRoomPacketToAll]

@[simp] theorem updateRoomOutlook : (s.updateRoom r).outlook = s.outlook := rfl

@[simp] theorem showLobbyOutlook : (s.showLobby u).outlook = s.outlook := by
  simp [showLobby,sendFullRoomListPacket]

@[simp] theorem destroyRoomOutlook (roomUsers : List UserRef) : (s.destroyRoom roomUsers).outlook = s.outlook :=
  s.foldOutlook (fun s u => by simp) roomUsers

@[simp] theorem removeRoomOutlook : (s.removeRoom r).outlook = s.outlook := by
  simp [removeRoom,sendRemoveRoomPacketToAll]

@[simp] theorem announceRoomStateOutlook (roomState : RoomState) : (s.announceRoomState r roomState).outlook = s.outlook :=
  (foldOutlook _ (fun s v => by simp) _).trans (s.sendUpdateRoomPacketToAllOutlook r _)

@[simp] theorem endMatchOutlook : (s.endMatch r).outlook = s.outlook := by simp [endMatch]

@[simp] theorem updateRoomHostUserOutlook : (s.updateRoomHostUser r u).outlook = s.outlook := by
  simp [updateRoomHostUser]

@[simp] theorem sendHostRestartOutlook (m : GameMatch) : (s.sendHostRestart m u).outlook = s.outlook :=
  (foldOutlook _ (fun s v => by simp) _).trans (s.sendToOutlook u _)

@[simp] theorem migrateOutlook (m : GameMatch) : (s.migrate r m u).outlook = s.outlook := by
  dsimp only [migrate]
  split <;> simp

@[simp] theorem hostLeftOutlook : (s.hostLeft r u).outlook = s.outlook := by
  unfold hostLeft
  repeat' split
  all_goals simp

@[simp] theorem removeRoomUserOutlook : (s.removeRoomUser r u).outlook = s.outlook := by
  dsimp only [removeRoomUser]
  split
  · simp
  · split <;> simp

@[simp] theorem leaveLobbyOutlook : (s.leaveLobby u).outlook = s.outlook := by
  have told : (if (s.lobby.user u).userStatus = .InLobby then s.sendRemoveUserPacketToAll u else s).outlook = s.outlook := by
    split <;> simp
  dsimp only [leaveLobby]
  split
  · exact told
  · rw [removeRoomUserOutlook,told]

end Rooms

section Users
variable (s : State) (u : UserRef)

-- The count of the own entry is all that changes in the server list, and connections stay.
theorem updateChannelNumPlayersConnections : s.updateChannelNumPlayers.connections = s.connections ∧
    s.updateChannelNumPlayers.connection = s.connection := by
  unfold updateChannelNumPlayers
  split <;> exact ⟨rfl,rfl⟩

theorem removeUserConnections : (s.removeUser u).connections = s.connections ∧ (s.removeUser u).connection = s.connection := by
  have left := s.leaveLobbyOutlook u
  obtain ⟨connections,connection⟩ := updateChannelNumPlayersConnections
    (((s.leaveLobby u).exec (removeUserSession ((s.leaveLobby u).lobby.user u).userID)).erasing (u ∈ (s.leaveLobby u).lobby.users)
      |>.setLobby { (s.leaveLobby u).lobby with users := (s.leaveLobby u).lobby.users.erase u })
  exact ⟨connections.trans (congrArg Outlook.connections left),connection.trans (congrArg Outlook.connection left)⟩

end Users
end CsoMaster.State
