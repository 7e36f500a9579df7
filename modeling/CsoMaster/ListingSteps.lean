import CsoMaster.ChannelEntries
import CsoMaster.LobbyMembership
import CsoMaster.Outlook

/-! The server list of a whole channel server: where its functions reach it, they change it as
`Listing` has it. -/
namespace CsoMaster
open DatabaseManager (listed)

-- The body of a server's datagram: key, sender and packet.
def readServerPacket (buffer : Bytes) : Option (Bytes × Place × ServerPacket) :=
  let signature := (State.datagram buffer).readUInt8
  let authKey := signature.2.readString
  let serverID := authKey.2.readUInt8
  let channelID := serverID.2.readUInt8
  let type := channelID.2.readUInt8
  let numPlayers := (type.2.readUInt16 .little).1
  if signature.1 ≠ State.UDP_SERVER_PACKET_SIGNATURE then none
  else some (authKey.1,⟨serverID.1,channelID.1⟩,
    match type.1 with
    | 0 => .HELLO numPlayers
    | 1 => .HELLO_ANSWER numPlayers
    | 2 => .GOODBYE
    | 3 => .HEARTBEAT
    | 4 => .NUMPLAYERS numPlayers
    | _ => .unregistered)

namespace State
variable {s : State}

def listing (s : State) : Listing := ⟨s.serverConfig.toServerConfig,s.lobby.users.length,s.currentTime⟩

-- A datagram with the right key is the packet it spells, and every other is none.
theorem serverDatagramListing (s : State) (buffer : Bytes) :
    (s.handleIncomingServerPacket buffer).listing =
      match (readServerPacket buffer).filter (·.1 = s.serverConfig.udpAuthKey) with
      | none => s.listing
      | some (_,p,packet) => s.listing.step (.packet p packet) := by
  dsimp only [handleIncomingServerPacket,readServerPacket]
  generalize (datagram buffer).readUInt8 = signature
  generalize signature.2.readString = authKey
  generalize authKey.2.readUInt8 = serverID
  generalize serverID.2.readUInt8 = channelID
  generalize channelID.2.readUInt8 = type
  generalize (type.2.readUInt16 .little).1 = numPlayers
  by_cases signed : signature.1 = UDP_SERVER_PACKET_SIGNATURE
  · rw [if_neg (not_not.mpr signed)]
    by_cases key : authKey.1 = s.serverConfig.udpAuthKey
    · simp only [signed,key,ne_eq,not_true,false_or,Option.filter_some,decide_true,if_true,Listing.step]
      by_cases known : (s.serverConfig.channel ⟨serverID.1,channelID.1⟩).isNone
      · rw [if_pos known]
        exact (if_pos known).symm
      · rw [if_neg known]
        refine Eq.trans ?_ (if_neg known).symm
        generalize type.1 = code
        repeat' split
        all_goals first | contradiction | rfl
    · simp [key,Option.filter]
  · simp [signed]

-- Without the key a datagram changes nothing at all.
theorem serverDatagramRefused {buffer : Bytes} (refused : ∀ p packet, readServerPacket buffer ≠ some (s.serverConfig.udpAuthKey,p,packet)) :
    s.handleIncomingServerPacket buffer = s := by
  simp only [handleIncomingServerPacket]
  refine if_pos ?_
  by_cases signed : (datagram buffer).readUInt8.1 = UDP_SERVER_PACKET_SIGNATURE
  · refine .inr (.inl fun key => ?_)
    simp only [readServerPacket,signed,key,ne_eq,not_true,if_false] at refused
    exact refused _ _ rfl
  · exact .inl signed

theorem updateChannelNumPlayersListing (s : State) : s.updateChannelNumPlayers.listing = s.listing.updateChannelNumPlayers := by
  have counted (serverList : List Server) (same : serverList = s.listing.updateChannelNumPlayers.config.serverList) :
      { s with serverConfig := { s.serverConfig with serverList := serverList } }.listing = s.listing.updateChannelNumPlayers := by
    rw [same]
    rfl
  unfold updateChannelNumPlayers
  split
  · rename_i unlisted
    refine counted s.serverConfig.serverList ?_
    simp only [Listing.updateChannelNumPlayers,Listing.setChannel,Listing.setServerList,listing]
    unfold listed at unlisted
    split at unlisted
    · rename_i beyond
      exact (List.modify_eq_self (List.getElem?_eq_none_iff.mp beyond)).symm
    · rename_i server here
      have within : server.channels.length ≤ (s.serverConfig.place.channelID - 1).toNat :=
        List.getElem?_eq_none_iff.mp (Option.map_eq_none_iff.mp unlisted)
      refine List.ext_getElem? fun i => ?_
      rw [List.getElem?_modify,Option.map_eq_map]
      by_cases own : (s.serverConfig.place.serverID - 1).toNat = i
      · subst own
        rw [here,Option.map_some,if_pos rfl,List.modify_eq_self within]
        simp
      · simp [own]
  · refine counted _ ?_
    simp [Listing.updateChannelNumPlayers,Listing.setChannel,Listing.setServerList,listing]

theorem addUserListing (s : State) (user : User) :
    (s.addUser user).2.listing = if (s.addUser user).1 > 0 then s.listing.step .addUser else s.listing := by
  unfold addUser
  split
  · rename_i full
    exact (if_pos full).symm
  · rename_i room
    dsimp only
    split
    · rename_i added
      rw [updateChannelNumPlayersListing]
      refine Eq.trans ?_ (if_neg room).symm
      refine congrArg Listing.updateChannelNumPlayers ?_
      simp [listing,Lobby.addUser,setLobby,exec,sql]
    · rfl

theorem removeUserListing {u : UserRef} (mem : u ∈ s.lobby.users) : (s.removeUser u).listing = s.listing.step .removeUser := by
  have left := s.leaveLobbyOutlook u
  have users : (s.leaveLobby u).lobby.users = s.lobby.users := by
    rw [leaveLobbyLobby]
    split
    · rfl
    · exact (Lobby.removeRoomUserFrame _ _ _).1
  unfold removeUser
  dsimp only
  rw [updateChannelNumPlayersListing]
  refine congrArg Listing.updateChannelNumPlayers ?_
  have config : (s.leaveLobby u).serverConfig = s.serverConfig := congrArg Outlook.serverConfig left
  have time : (s.leaveLobby u).currentTime = s.currentTime := congrArg Outlook.currentTime left
  simp [listing,setLobby,exec,sql,erasing,config,time,users,List.length_erase_of_mem mem]

section Tick

-- The list and the clock that the next second is read from.
def timed (s : State) : Listing × Nat := (s.listing,s.consoleTime)

theorem timedSame {t : State} (outlook : t.outlook = s.outlook) (users : t.lobby.users = s.lobby.users) : t.timed = s.timed := by
  have config : t.serverConfig = s.serverConfig := congrArg Outlook.serverConfig outlook
  have time : t.currentTime = s.currentTime := congrArg Outlook.currentTime outlook
  have console : t.consoleTime = s.consoleTime := congrArg Outlook.consoleTime outlook
  simp only [timed,listing,config,time,console,users]

theorem foldTimed {α : Type} {f : State → α → State} (same : ∀ s a, (f s a).timed = s.timed) (s : State) (as : List α) :
    (as.foldl f s).timed = s.timed := by
  induction as generalizing s with
  | nil => rfl
  | cons a as ih => rw [List.foldl_cons,ih,same]

theorem recoverUserTimed (s : State) (u : UserRef) : (s.recoverUser u).timed = s.timed := by
  dsimp only [recoverUser]
  repeat' split
  all_goals rfl

theorem recoverRoomTimed (s : State) (r : RoomRef) : (s.recoverRoom r).timed = s.timed := by
  dsimp only [recoverRoom]
  split
  · refine timedSame (by simp) ?_
    rw [removeRoomLobby,Lobby.removeRoomEq]
    rfl
  · rfl

theorem dropSilentTimed (s : State) (u : UserRef) : (s.dropSilent u).timed = s.timed := by
  have warned : (s.warn (s.lobby.user u).connection "DISCONNECTED_BY_NETWORK_FAILURE").timed = s.timed :=
    timedSame (s.sendOutlook _ _) (by simp)
  unfold dropSilent
  split
  · exact warned
  · rfl

theorem recoverTimed (s : State) : s.recover.timed =
    (s.listing.setServerList (SessionCluster.forgetOthers s.serverConfig.place s.serverConfig.serverList),s.consoleTime) := by
  unfold recover
  dsimp only
  rw [foldTimed recoverRoomTimed]
  exact foldTimed recoverUserTimed _ _

theorem udpSecondTickListing (s : State) : s.udpSecondTick.listing = s.listing.step (.secondTick s.consoleTime) := by
  have ticked (t : State) (timed : t.timed = (if s.listing.Jumps s.consoleTime then
        s.listing.setServerList (SessionCluster.forgetOthers s.serverConfig.place s.serverConfig.serverList) else s.listing,s.consoleTime)) :
      (let t := { t with currentTime := t.consoleTime }
        let t := t.lobby.users.foldl dropSilent t
        (t.setServerList (t.serverConfig.serverList.map (expire t.serverConfig.place t.currentTime))).listing) =
        s.listing.step (.secondTick s.consoleTime) := by
    obtain ⟨listing,console⟩ := Prod.mk.inj timed
    have dropped := foldTimed dropSilentTimed { t with currentTime := t.consoleTime } t.lobby.users
    have here : (t.lobby.users.foldl dropSilent { t with currentTime := t.consoleTime }).listing =
        { t.listing with currentTime := t.consoleTime } := congrArg Prod.fst dropped
    have last (w : State) : (w.setServerList (w.serverConfig.serverList.map (expire w.serverConfig.place w.currentTime))).listing =
        w.listing.setServerList (w.listing.config.serverList.map (expire w.listing.config.place w.listing.currentTime)) := rfl
    refine (last _).trans ?_
    rw [here,console,listing,Listing.step,Listing.secondTick]
    split <;> rfl
  unfold udpSecondTick
  dsimp only
  split
  · rename_i jumps
    exact ticked s.recover (by rw [recoverTimed,if_pos (show s.listing.Jumps s.consoleTime from jumps)])
  · rename_i calm
    exact ticked s (by rw [if_neg (show ¬ s.listing.Jumps s.consoleTime from calm)]; rfl)

theorem secondTickListing (s : State) (now : Nat) : (s.onSecondTick now).listing = s.listing.step (.secondTick now) := by
  have ticked := udpSecondTickListing { s with consoleTime := now }
  dsimp only [onSecondTick]
  split
  · exact ticked
  · exact ticked

end Tick
end State
end CsoMaster
