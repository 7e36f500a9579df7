import CsoMaster.RoomBriefs
import CsoMaster.ServerMoves

/-! Every effect of an event briefs the members of every room, function by function. A replica
that follows the briefings holds, over whole runs, what it is a replica of. -/
namespace CsoMaster.State
open DatabaseManager

theorem readCreateRoomWhole (roomID : UInt16) (u : UserRef) (p : Packet) :
    (readCreateRoom (Room.new roomID u).roomSettings p).1.1.Whole := by
  refine (show Cursor.Yields (readCreateRoom (Room.new roomID u).roomSettings) (fun created => created.1.Whole) from ?_) p
  refine .bind Reader.stringClean fun roomName roomNameClean => ?_
  iterate 8 refine .skip fun _ => ?_
  refine .bind Reader.stringClean fun password passwordClean => ?_
  iterate 3 refine .skip fun _ => ?_
  exact .pure ⟨⟨roomNameClean,passwordClean,List.not_mem_nil⟩,rfl,rfl⟩

section Rooms
variable {precise : Prop} {s t : State} {r : RoomRef} {u first : UserRef} {m : GameMatch}

theorem briefedHost (registered : r ∈ s.lobby.rooms) (u : UserRef) : Briefed precise s (s.updateRoomHostUser r u) := by
  let given := s.setLobby (s.lobby.setRoom r { s.lobby.room r with roomHostUser := u })
  have whole : s.updateRoomHostUser r u =
      given.tellAll (s.lobby.room r).roomUsers r (.updateRoom (given.roomInfo r) ROOMLIST_FLAG_ROOMHOST) := by
    simp [updateRoomHostUser,roomSet,given]
  have revised : Revises precise (s.lobby.brief r) (.updateRoom (given.roomInfo r) ROOMLIST_FLAG_ROOMHOST)
      ((s.updateRoomHostUser r u).lobby.brief r) := by
    have brief : Revises precise (s.lobby.brief r) (.updateRoom (given.roomInfo r) ROOMLIST_FLAG_ROOMHOST) _ := .roomHost _
    simpa [Lobby.brief,Lobby.setRoom,roomInfo,given] using brief
  refine .of fun ordered => ?_
  have posts := (((Silent.refl s).posts r).setRoom r { s.lobby.room r with roomHostUser := u }).tellAll
    (ordered.nodup r registered) (.updateRoom (given.roomInfo r) ROOMLIST_FLAG_ROOMHOST)
  rw [show s.setLobby (s.lobby.setRoom r { s.lobby.room r with roomHostUser := u }) = given from rfl,← whole] at posts
  exact posts.broadcast ordered (by simp [Lobby.setRoom]) (fun q other => by simp [Lobby.setRoom,other]) (by simp [roomSet])
    (fun v listed => if_pos (by simpa [roomSet] using listed)) (by simp [roomSet]) revised.briefing

-- A match starts or ends.
theorem briefedAnnounce {room : Room} {roomState : RoomState} (registered : r ∈ s.lobby.rooms)
    (users : room.roomUsers = (s.lobby.room r).roomUsers) (host : room.roomHostUser = (s.lobby.room r).roomHostUser)
    (settings : room.roomSettings = (s.lobby.room r).roomSettings.update (.ofRoomState roomState)) :
    Briefed precise s ((s.setLobby (s.lobby.setRoom r room)).announceRoomState r roomState) := by
  have clean := RoomSettings.ofRoomStateClean roomState
  refine .of fun ordered => ?_
  have posts := (((Silent.refl s).posts r).setRoom r room).announceRoomState
    (by rw [setLobbyLobby,roomSet,users]; exact ordered.nodup r registered) roomState
  refine posts.broadcast ordered (by simp [Lobby.setRoom]) (fun q other => by simp [Lobby.setRoom,other])
    (by simp [roomSet,users]) (fun v listed => if_pos (by simpa [roomSet] using listed)) ?_ ?_
  · rw [announceRoomStateLobby,setLobbyLobby,roomSet,settings]
    exact fun whole => whole.update clean
  · have brief : (s.lobby.setRoom r room).brief r =
        { s.lobby.brief r with roomSettings := (s.lobby.room r).roomSettings.update (.ofRoomState roomState) } := by
      simp [Lobby.brief,Lobby.setRoom,users,host,settings]
    rw [announceRoomStateLobby,setLobbyLobby,brief]
    exact (Revises.settings clean).briefing.trans (Revises.roomState _).briefing

theorem briefedStart (registered : r ∈ s.lobby.rooms) : Briefed precise s (s.startMatch r) := briefedAnnounce registered rfl rfl rfl

theorem briefedEnd (registered : r ∈ s.lobby.rooms) : Briefed precise s (s.endMatch r) := briefedAnnounce registered rfl rfl rfl

theorem briefedMigrate (registered : r ∈ s.lobby.rooms) (m : GameMatch) (u : UserRef) : Briefed precise s (s.migrate r m u) := by
  have restarted : Briefed precise s ((s.updateRoomHostUser r u).sendHostRestart m u) :=
    (briefedHost registered u).silent ((Silent.refl _).unheard ((Unheard.refl _).sendHostRestart (fun _ _ => trivial) m u))
  dsimp only [State.migrate]
  split
  · exact restarted.setRoom rfl rfl rfl
  · exact restarted

theorem briefedHostLeft (registered : r ∈ s.lobby.rooms) (first : UserRef) : Briefed precise s (s.hostLeft r first) := by
  unfold State.hostLeft
  split
  · exact briefedHost registered first
  · split
    · exact (briefedEnd registered).trans (briefedHost (by simpa [Lobby.setRoom] using registered) first)
    · exact briefedMigrate registered _ _

theorem briefedHostReturned (registered : r ∈ s.lobby.rooms) (m : GameMatch) : Briefed precise s (s.hostReturned r m) := by
  unfold State.hostReturned
  split
  · exact briefedEnd registered
  · exact briefedMigrate registered _ _

theorem postsTakeOut (s : State) (r : RoomRef) (u : UserRef) : Posts r (fun _ => []) s (s.takeOut r u) := by
  have left := (((Silent.refl s).unheard ((Unheard.refl s).erasing (u ∈ (s.lobby.room r).roomUsers))).posts r).setRoom r
    ((s.lobby.room r).withoutUser u)
  exact (left.silent ((Silent.refl _).unheard ((Unheard.refl _).sendAll trivial _))).silent ((Silent.refl _).backToLobby u)

theorem takeOutRoom {q : RoomRef} (other : q ≠ r) : (s.takeOut r u).lobby.room q = s.lobby.room q := by
  simp [Lobby.backToLobby,Lobby.setUser,Lobby.setRoom,other]

theorem takeOutBrief (s : State) (r : RoomRef) (u : UserRef) : (s.takeOut r u).lobby.brief r =
    { s.lobby.brief r with userIDs := ((s.lobby.room r).roomUsers.erase u).map fun v => (s.lobby.user v).userID } := by
  have users := (postsTakeOut s r u).users
  have room : (s.takeOut r u).lobby.room r = (s.lobby.room r).withoutUser u := by
    simp [Lobby.backToLobby,Lobby.setUser,roomSet]
  unfold Lobby.brief
  simp only [room,(users _).2,Room.withoutUser]

theorem briefedSeeOff (registered : r ∈ s.lobby.rooms) (alone : precise → u ∈ (s.lobby.room r).roomUsers ∧ s.lobby.AloneIn r u) :
    Briefed precise s (s.seeOff r u) := by
  refine .of fun ordered => ?_
  have nodup := ordered.nodup r registered
  have posts : Posts r (fun v => [] ++ if v ∈ ((s.takeOut r u).lobby.room r).roomUsers then
      [.userLeave ((s.takeOut r u).lobby.user u).userID] else []) s (s.seeOff r u) := by
    refine ((postsTakeOut s r u).silent ((Silent.refl _).unheard ((Unheard.refl _).exec _))).tellAll ?_ _
    rw [takeOutUsers]
    exact nodup.erase u
  refine posts.broadcast ordered (fun q => ?_) (fun q other => ?_) ?_ (fun v listed => if_pos (by rwa [seeOffLobby] at listed)) ?_ ?_
  · simp [Lobby.backToLobby,Lobby.setUser,Lobby.setRoom]
  · rw [seeOffLobby,takeOutRoom other]
  · rw [seeOffLobby,takeOutUsers]
    exact List.erase_sublist
  · simp [Lobby.backToLobby,Lobby.setUser,roomSet,Room.withoutUser]
  · rw [seeOffLobby,takeOutBrief,takeOutUserID]
    refine (Revises.userLeave fun given => ?_).briefing
    obtain ⟨member,alone⟩ := alone given
    refine ⟨?_,fun mem => ?_⟩
    · have erased := Multiset.map_erase_of_mem (fun v => (s.lobby.user v).userID) ((s.lobby.room r).roomUsers : Multiset UserRef)
        (Multiset.mem_coe.mpr member)
      rwa [Multiset.coe_erase,Multiset.map_coe,Multiset.map_coe] at erased
    · obtain ⟨v,left,same⟩ := List.mem_map.mp (Multiset.mem_coe.mp mem)
      exact alone v (List.mem_of_mem_erase left) (nodup.mem_erase_iff.mp left).1 same

theorem briefedRemoveRoomUser (registered : r ∈ s.lobby.rooms)
    (alone : precise → u ∈ (s.lobby.room r).roomUsers ∧ s.lobby.AloneIn r u) : Briefed precise s (s.removeRoomUser r u) := by
  cases left : (s.lobby.room r).roomUsers.erase u with
  | nil =>
    have empty : ((s.takeOut r u).lobby.room r).roomUsers = [] := (takeOutUsers s r u).trans left
    have closed := (Silent.refl (s.takeOut r u)).removeRoom r
    rw [removeRoomUserLast left]
    -- Nobody is left to be told.
    refine .of fun ordered => ((postsTakeOut s r u).silent closed).briefed (fun q registered _ => ?_) (fun q other => ?_)
      (fun _ => ?_) fun v attends => ?_
    · simpa [Lobby.backToLobby,Lobby.setUser,Lobby.setRoom] using closed.rooms q registered
    · rw [closed.room,takeOutRoom other]
    · rw [closed.room,empty]
      refine ⟨List.nodup_nil,?_⟩
      simpa [Lobby.backToLobby,Lobby.setUser,roomSet,Room.withoutUser] using ordered.whole r registered
    · have nobody := attends.member
      rw [closed.room,empty] at nobody
      cases nobody
  | cons first rest =>
    have seen : Briefed precise s (s.seeOff r u) := briefedSeeOff registered alone
    rw [removeRoomUserOthers left]
    split
    · refine seen.trans (briefedHostLeft ?_ first)
      simpa [Lobby.backToLobby,Lobby.setUser,Lobby.setRoom] using registered
    · exact seen

theorem briefedRemoveUser (alone : precise → ∀ r, s.lobby.getRoomByRoomID (s.lobby.user u).currentRoomID = some r →
    u ∈ (s.lobby.room r).roomUsers ∧ s.lobby.AloneIn r u) : Briefed precise s (s.removeUser u) := by
  have goodbye := (Silent.refl s).farewell u
  have same := s.farewellLobby u
  rw [removeUserEq]
  cases found : s.lobby.getRoomByRoomID (s.lobby.user u).currentRoomID with
  | none =>
    rw [leaveLobbyOutside found]
    exact (goodbye.dropUser u).briefed
  | some r =>
    rw [leaveLobbyInside found]
    refine (goodbye.briefed.trans (briefedRemoveRoomUser ?_ ?_)).silent ((Silent.refl _).dropUser u)
    · rw [same]
      exact (Lobby.getRoomByRoomIDSome found).1
    · rw [same]
      exact fun given => alone given r found

theorem briefedChangeSettings {settings : RoomSettings} (registered : r ∈ s.lobby.rooms) (clean : settings.NulFree) :
    Briefed precise s (s.changeRoomSettings r settings) := by
  have lobby : (s.changeRoomSettings r settings).lobby =
      s.lobby.setRoom r ((s.lobby.room r).updateRoomSettings settings) := by
    simp [changeRoomSettings]
  have room : (s.changeRoomSettings r settings).lobby.room r = (s.lobby.room r).updateRoomSettings settings := by
    rw [lobby,roomSet]
  refine .of fun ordered => ?_
  have posts : Posts r (fun v => [] ++ if v ∈ (s.lobby.room r).roomUsers then [.replyUpdateRoomSettings settings] else []) s
      (s.changeRoomSettings r settings) := by
    have left := ((Silent.refl s).posts r).setRoom r ((s.lobby.room r).updateRoomSettings settings)
    have shown := left.silent (((Silent.refl _).updateRoom r).sendUpdateRoomPacketToAll r (roomListFlag settings).toUInt16)
    have told := shown.tellAll (ordered.nodup r registered) (.replyUpdateRoomSettings settings)
    simpa [changeRoomSettings,roomSet,Room.updateRoomSettings] using told
  refine posts.broadcast ordered (by simp [lobby,Lobby.setRoom]) (fun q other => by simp [lobby,Lobby.setRoom,other])
    (by rw [room]; exact .refl _) (fun v listed => if_pos (by rwa [room] at listed)) ?_ ?_
  · rw [room]
    exact fun whole => whole.update clean
  · have brief : (s.changeRoomSettings r settings).lobby.brief r =
        { s.lobby.brief r with roomSettings := (s.lobby.room r).roomSettings.update settings } := by
      rw [lobby]
      simp [Lobby.brief,Lobby.setRoom,Room.updateRoomSettings]
    rw [brief]
    exact (Revises.settings clean).briefing

theorem briefedReturn (registered : r ∈ s.lobby.rooms) (u : UserRef) (m : GameMatch) : Briefed precise s (s.returnUser u r m) := by
  have left : Briefed precise s
      (s.setLobby (s.lobby.setRoom r { s.lobby.room r with gameMatch := some (m.removeGameMatchUser u) })) :=
    (Briefed.refl s).setRoom rfl rfl rfl
  dsimp only [returnUser]
  refine Briefed.silent ?_ ((Silent.refl _).setUserStatus u .InRoom)
  split
  · have still : r ∈ (s.setLobby (s.lobby.setRoom r
        { s.lobby.room r with gameMatch := some (m.removeGameMatchUser u) })).lobby.rooms := registered
    exact left.trans (briefedHostReturned still _)
  · exact left

theorem briefedEndGame (registered : r ∈ s.lobby.rooms) (m : GameMatch) : Briefed precise s (s.endGame r m) := by
  have ended : Silent s (m.participants.foldl
      (fun s v => ((s.setUserStatus v .InRoom).sendTo v .hostEndSession).sendTo v .gameResult) s) :=
    (Silent.refl s).fold (fun s v => ((Silent.refl s).setUserStatus v .InRoom).unheard
      (((Unheard.refl _).sendTo trivial v).sendTo trivial v)) _
  refine ended.briefed.trans (briefedEnd ?_)
  have rooms := congrArg Lobby.rooms (endGameLobby s r m)
  simp only [endGame,endMatchLobby,Lobby.endGameEq,Lobby.setRoom] at rooms
  rw [rooms]
  exact registered

theorem briefedAdded {newRoom : Room} (users : newRoom.roomUsers = [u]) (host : newRoom.roomHostUser = u)
    (whole : newRoom.roomSettings.Whole) (userCharacter : UserCharacter) (fastStart : Bool) :
    Briefed precise s (s.roomAdded u newRoom userCharacter fastStart) := by
  have lobby : (s.roomAdded u newRoom userCharacter fastStart).lobby = s.lobby.addRoom newRoom := by
    dsimp only [roomAdded]
    split <;> simp
  have room : (s.roomAdded u newRoom userCharacter fastStart).lobby.room s.lobby.fresh = newRoom := by
    rw [lobby]
    simp [Lobby.addRoom]
  have brief : (s.roomAdded u newRoom userCharacter fastStart).lobby.brief s.lobby.fresh =
      ⟨(s.lobby.user u).userID,newRoom.roomSettings,[(s.lobby.user u).userID]⟩ := by
    unfold Lobby.brief
    rw [room,users,host,lobby]
    rfl
  have posts : Posts s.lobby.fresh (fun v => [] ++ if v = u then
      [.replyCreateAndJoin (s.lobby.user u).userID newRoom.roomID newRoom.roomSettings [s.gameUser u userCharacter]] else []) s
        (s.roomAdded u newRoom userCharacter fastStart) := by
    have registered : Posts s.lobby.fresh (fun _ => []) s (s.setLobby (s.lobby.addRoom newRoom)) :=
      ((Silent.refl s).posts _).setLobby fun _ => ⟨rfl,rfl⟩
    have shown : Posts s.lobby.fresh (fun _ => []) s
        ((s.setLobby (s.lobby.addRoom newRoom)).sendAddRoomPacketToAll s.lobby.fresh ROOMLIST_FLAG_ALL) :=
      registered.silent ((Silent.refl _).unheard ((Unheard.refl _).sendAll trivial _))
    have told := shown.tell u (.replyCreateAndJoin (s.lobby.user u).userID newRoom.roomID newRoom.roomSettings
      [s.gameUser u userCharacter])
    have same : ((s.setLobby (s.lobby.addRoom newRoom)).sendAddRoomPacketToAll s.lobby.fresh ROOMLIST_FLAG_ALL).lobby.user =
        s.lobby.user := by simp [Lobby.addRoom]
    simp only [roomAdded,gameUser,same]
    split
    · exact told.silent ((Silent.refl _).unheard ((Unheard.refl _).sendTo trivial u))
    · exact told
  refine .of fun ordered => posts.briefed (fun q registered other => ?_) (fun q other => ?_) (fun _ => ?_) fun v attends => ?_
  · simpa [lobby,Lobby.addRoom,other] using registered
  · simp [Lobby.addRoom,other]
  · rw [room,users]
    exact ⟨List.nodup_singleton u,whole⟩
  · have member := attends.member
    rw [room,users] at member
    rw [if_pos (List.mem_singleton.mp member),brief]
    exact Briefing.opened (b := ⟨_,newRoom.roomSettings,_⟩) whole fun _ => rfl

theorem briefedOpenRoom {settings : RoomSettings} (whole : settings.Whole) (u : UserRef) (userCharacter : UserCharacter)
    (fastStart : Bool) : Briefed precise s (s.openRoom u userCharacter settings fastStart) := by
  have asked := ((Silent.refl s).approachRoom u).unheard ((Unheard.refl _).exec
    (addRoom ((s.approachRoom u).roomRow (s.opened u settings))))
  rw [openRoomEq]
  dsimp only
  split
  · exact (asked.roomRefused u).briefed
  · exact asked.briefed.trans (briefedAdded rfl rfl whole userCharacter fastStart)

theorem introducedIDs (newcomer : GameUser) (us : List UserRef) (found : (s.introduce r newcomer us).2.characterMissed = false) :
    (s.introduce r newcomer us).1.map GameUser.userID = us.map fun v => (s.lobby.user v).userID := by
  induction us generalizing s with
  | nil => rfl
  | cons v us ih =>
    let told := ((s.getUserCharacter v USERCHARACTER_FLAG_ALL).2.tell v r (.userJoin newcomer)).tell v r
      (.userReady newcomer.userID 0)
    have later := ih (s := told) found
    have mails : Mails (s.getUserCharacter v USERCHARACTER_FLAG_ALL).2 (told.introduce r newcomer us).2 :=
      (((Mails.refl _).tell v r _).tell v r _).introduce r newcomer us
    have lobby : told.lobby = s.lobby := by simp [told]
    rw [lobby] at later
    simp only [State.introduce,if_pos (foundCharacter (mails.missed found)),List.map_cons]
    exact congrArg _ later

-- JoinRoom before the other users are told.
def joined (s : State) (u : UserRef) (r : RoomRef) : State :=
  (((s.setLobby (s.lobby.joinRoom u r)).updateRoom r).sendRemoveUserPacketToAll u).sendUpdateRoomPacketToAll r
    ROOMLIST_FLAG_CURRENTPLAYERS

theorem joinedLobby (s : State) (u : UserRef) (r : RoomRef) : (s.joined u r).lobby = s.lobby.joinRoom u r := by
  simp [joined]

theorem joinRoomRoom (l : Lobby) (u : UserRef) (r : RoomRef) : (l.joinRoom u r).room r = (l.room r).addRoomUser u := by
  simp [Lobby.joinRoom,Lobby.setUser,roomSet]

theorem joinRoomUsers (l : Lobby) (u : UserRef) (r : RoomRef) : l.SameUsers (l.joinRoom u r) := Lobby.setUserSame _ u rfl rfl

theorem joinRoomBrief (l : Lobby) (u : UserRef) (r : RoomRef) :
    (l.joinRoom u r).brief r = { l.brief r with userIDs := (l.user u).userID ::ₘ (l.brief r).userIDs } := by
  unfold Lobby.brief
  simp only [joinRoomRoom,Room.addRoomUser,(joinRoomUsers l u r _).2,List.map_append,List.map_cons,List.map_nil]
  refine congrArg _ ?_
  rw [← Multiset.coe_add,Multiset.coe_singleton,Multiset.add_comm,Multiset.singleton_add]

-- What the user that has come in is told, and what the others are told of it.
theorem enterRoomEq (absent : u ∉ (s.lobby.room r).roomUsers) (userCharacter : UserCharacter) :
    s.enterRoom u r userCharacter =
      let newcomer := (s.joined u r).gameUser u userCharacter
      let introduced := (s.joined u r).introduce r newcomer (s.lobby.room r).roomUsers
      (introduced.2.tell u r (.replyCreateAndJoin (s.lobby.brief r).hostUserID (s.lobby.room r).roomID
        (s.lobby.room r).roomSettings (introduced.1 ++ [newcomer]))).tell u r (.userReady newcomer.userID 0) := by
  have others : ((s.lobby.room r).roomUsers ++ [u]).filter (· ≠ u) = (s.lobby.room r).roomUsers := by
    have kept : (s.lobby.room r).roomUsers.filter (· ≠ u) = (s.lobby.room r).roomUsers := by
      refine List.filter_eq_self.mpr fun v listed => decide_eq_true ?_
      rintro rfl
      exact absent listed
    rw [List.filter_append,kept]
    simp
  have told : s.enterRoom u r userCharacter =
      let newcomer := (s.joined u r).gameUser u userCharacter
      let room := (s.joined u r).lobby.room r
      let introduced := (s.joined u r).introduce r newcomer (room.roomUsers.filter (· ≠ u))
      (introduced.2.tell u r (.replyCreateAndJoin (introduced.2.lobby.user room.roomHostUser).userID room.roomID
        room.roomSettings (introduced.1 ++ [newcomer]))).tell u r (.userReady newcomer.userID 0) := rfl
  simp only [told,joinRoomRoom,Room.addRoomUser,others,introduceLobby,joinedLobby,(joinRoomUsers s.lobby u r _).2]
  rfl

theorem enterRoomNames (absent : u ∉ (s.lobby.room r).roomUsers) (userCharacter : UserCharacter)
    (found : (s.enterRoom u r userCharacter).characterMissed = false) :
    let newcomer := (s.joined u r).gameUser u userCharacter
    ((((s.joined u r).introduce r newcomer (s.lobby.room r).roomUsers).1 ++ [newcomer]).map GameUser.userID : Multiset UInt32) =
      newcomer.userID ::ₘ (s.lobby.brief r).userIDs := by
  intro newcomer
  have missed : ((s.joined u r).introduce r newcomer (s.lobby.room r).roomUsers).2.characterMissed = false := by
    rw [enterRoomEq absent] at found
    exact (((Mails.refl _).tell u r _).tell u r _).missed found
  have ids : (fun v => ((s.joined u r).lobby.user v).userID) = fun v => (s.lobby.user v).userID := by
    funext v
    rw [joinedLobby,(joinRoomUsers s.lobby u r v).2]
  rw [List.map_append,introducedIDs newcomer _ missed,ids,← Multiset.coe_add,Multiset.add_comm]
  rfl

theorem briefedEnterRoom (absent : u ∉ (s.lobby.room r).roomUsers) (registered : r ∈ s.lobby.rooms) (userCharacter : UserCharacter)
    (found : precise → (s.enterRoom u r userCharacter).characterMissed = false) :
    Briefed precise s (s.enterRoom u r userCharacter) := by
  refine .of fun ordered => ?_
  let newcomer := (s.joined u r).gameUser u userCharacter
  let introduced := (s.joined u r).introduce r newcomer (s.lobby.room r).roomUsers
  have lobby : (s.enterRoom u r userCharacter).lobby = s.lobby.joinRoom u r := enterRoomLobby s u r userCharacter
  have joined : Posts r (fun _ => []) s (s.joined u r) :=
    (((Silent.refl s).posts r).setLobby (joinRoomUsers s.lobby u r)).silent
      ((((Silent.refl _).updateRoom r).sendRemoveUserPacketToAll u).sendUpdateRoomPacketToAll r ROOMLIST_FLAG_CURRENTPLAYERS)
  have posts := ((joined.introduce (ordered.nodup r registered) newcomer).tell u (.replyCreateAndJoin
    (s.lobby.brief r).hostUserID (s.lobby.room r).roomID (s.lobby.room r).roomSettings (introduced.1 ++ [newcomer]))).tell u
      (.userReady newcomer.userID 0)
  rw [show ((introduced.2.tell u r _).tell u r _) = s.enterRoom u r userCharacter from (enterRoomEq absent userCharacter).symm] at posts
  refine posts.briefed (fun q here _ => ?_) (fun q other => ?_) (fun _ => ?_) fun v attends => ?_
  · simpa [lobby,Lobby.joinRoom,Lobby.setUser,Lobby.setRoom] using here
  · simp [Lobby.joinRoom,Lobby.setUser,Lobby.setRoom,other]
  · rw [lobby,joinRoomRoom]
    exact ⟨nodupSnoc (ordered.nodup r registered) absent,ordered.whole r registered⟩
  · have member := attends.member
    have id : newcomer.userID = (s.lobby.user u).userID := by
      simp only [newcomer,gameUser,joinedLobby,(joinRoomUsers s.lobby u r u).2]
    rw [lobby,joinRoomRoom] at member
    rw [lobby,joinRoomBrief,← id]
    rcases List.mem_append.mp member with old | new
    · have other : v ≠ u := fun own => absent (own ▸ old)
      have before : s.Attends v r := by
        refine ⟨registered,old,?_⟩
        rw [← (posts.users v).1]
        exact posts.closed _ attends.isOpen
      simp only [if_pos old,if_neg other,List.append_nil,List.nil_append,heldSome before]
      exact (Revises.userJoin newcomer).briefing.trans (Revises.userReady newcomer.userID 0).briefing
    · cases List.mem_singleton.mp new
      simp only [if_neg absent,if_true,List.nil_append]
      have opened : Briefing precise (s.held u r) ([] ++ [.replyCreateAndJoin (s.lobby.brief r).hostUserID
          (s.lobby.room r).roomID (s.lobby.room r).roomSettings (introduced.1 ++ [newcomer])])
          (some { s.lobby.brief r with userIDs := newcomer.userID ::ₘ (s.lobby.brief r).userIDs }) := by
        refine Briefing.opened (b := { s.lobby.brief r with userIDs := newcomer.userID ::ₘ (s.lobby.brief r).userIDs })
          (ordered.whole r registered) fun given => ?_
        exact enterRoomNames absent userCharacter (found given)
      exact opened.trans (Revises.userReady newcomer.userID 0).briefing

theorem briefedRecoverRooms (s : State) : Briefed precise s s.recoverRooms := by
  have recovered (t : State) (r : RoomRef) : Silent t (t.recoverRoom r) := by
    have asked := (Silent.refl t).unheard ((Unheard.refl t).exec (addRoom (t.roomRow (t.lobby.room r))))
    dsimp only [recoverRoom]
    split
    · exact asked.removeRoom r
    · exact asked
  exact (((Silent.refl s).unheard ((Unheard.refl s).exec _)).fold recovered _).briefed

theorem briefedRemoveAllRooms (s : State) : Briefed precise s s.removeAllRooms := by
  have closed : Silent s (s.setLobby { s.lobby with rooms := [] }) :=
    (Silent.refl s).setLobby (fun _ => ⟨rfl,rfl⟩) (fun _ => nofun) rfl
  refine (closed.fold (fun t r => ?_) s.lobby.rooms).briefed
  exact ((Silent.refl t).unheard ((Unheard.refl t).sendAll trivial _)).destroyRoom _

theorem briefedConnect (dated : s.Dated) (ipAddress : UInt32) : Briefed precise s (s.connect ipAddress) := by
  refine briefedStill rfl (fun _ => id) rfl (fun v r attends => ⟨attends.registered,attends.member,?_⟩) fun _ _ _ => rfl
  have old : (s.lobby.user v).connection ≠ s.accepted :=
    Nat.ne_of_lt (dated v (.inr ⟨r,attends.registered,attends.member⟩)).2
  simpa [State.connect,old] using attends.isOpen

theorem briefedAddUser (dated : s.Dated) (members : precise → s.lobby.Members) (user : User) :
    Briefed precise s (s.setLobby (s.lobby.addUser user)) := by
  have old {v : UserRef} {r : RoomRef} (registered : r ∈ s.lobby.rooms) (member : v ∈ (s.lobby.room r).roomUsers) :
      (s.lobby.addUser user).user v = s.lobby.user v := by
    simp [Lobby.addUser,Nat.ne_of_lt (dated v (.inr ⟨r,registered,member⟩)).1]
  refine briefedStill rfl (fun _ => id) rfl (fun v r attends => ⟨attends.registered,attends.member,?_⟩)
    fun given r registered => ?_
  · rw [← old attends.registered attends.member]
    exact attends.isOpen
  · have host := old registered ((members given).rooms r registered).host
    have ids : ((s.lobby.room r).roomUsers.map fun v => ((s.lobby.addUser user).user v).userID) =
        (s.lobby.room r).roomUsers.map fun v => (s.lobby.user v).userID :=
      List.map_congr_left fun v member => by rw [old registered member]
    change (⟨((s.lobby.addUser user).user (s.lobby.room r).roomHostUser).userID,_,
      ((s.lobby.room r).roomUsers.map fun v => ((s.lobby.addUser user).user v).userID : List UInt32)⟩ : Brief) = _
    rw [host,ids]
    rfl

end Rooms

section Effect
variable {precise : Prop} {s t : State}

-- The settings that an operation brings in can be written.
def Clean : Lobby.Op → Prop
  | .createRoom _ settings _ => settings.Whole
  | .updateRoomSettings _ _ settings => settings.NulFree
  | _ => True

-- Whoever leaves a room is the only one there with its ID.
def Parts (l : Lobby) : Lobby.Op → Prop
  | .removeUser u => ∀ r, l.getRoomByRoomID (l.user u).currentRoomID = some r → l.AloneIn r u
  | .leaveRoom u r => l.AloneIn r u
  | _ => True

theorem placedMember {l : Lobby} {u : UserRef} {r : RoomRef} (members : l.Members) (mem : u ∈ l.users)
    (found : l.getRoomByRoomID (l.user u).currentRoomID = some r) : u ∈ (l.room r).roomUsers := by
  obtain ⟨registered,id,-⟩ := Lobby.getRoomByRoomIDSome found
  exact (members.member r registered u).mpr ⟨mem,id.symm⟩

theorem effectBriefed {may : Lobby → Lobby.Op → Prop} (admitted : ∀ l op, may l op → l.Admitted op)
    (clean : ∀ op, may s.lobby op → Clean op) (dated : s.Dated) (members : precise → s.lobby.Members)
    (parts : precise → ∀ op, may s.lobby op → Parts s.lobby op) (effect : Effect may s t)
    (found : precise → t.characterMissed = false) : Briefed precise s t := by
  cases effect with
  | quiet quiet => exact ((Silent.refl s).quiet quiet).briefed
  | fault =>
    exact briefedStill rfl (fun _ => id) rfl (fun _ _ attends => ⟨attends.registered,attends.member,attends.isOpen⟩)
      fun _ _ _ => rfl
  | connect ipAddress => exact briefedConnect dated ipAddress
  | showServers c => exact ((Silent.refl s).unheard ((Unheard.refl s).send trivial c)).briefed
  | addUser known op => exact briefedAddUser dated members _
  | removeUser op =>
    refine briefedRemoveUser fun given r here => ⟨?_,parts given _ op r here⟩
    exact placedMember (members given) (admitted _ _ op) here
  | setUserNetwork op =>
    rename_i u userNetwork
    have set : Silent s (s.setUserNetwork u userNetwork) := (Silent.refl s).setLobby (Lobby.setUserSame _ u rfl rfl) (fun _ => id) rfl
    exact set.briefed
  | showServerList op new => exact ((Silent.refl s).setUserStatus _ _).briefed
  | leaveLobby op present => exact (((Silent.refl s).setUserStatus _ _).sendRemoveUserPacketToAll _).briefed
  | enterLobby op => exact ((Silent.refl s).enterLobby _).briefed
  | openRoom op => exact briefedOpenRoom (clean _ (op true)) _ _ _
  | enterRoom op =>
    obtain ⟨-,-,-,registered,-,absent⟩ := admitted _ _ op
    exact briefedEnterRoom absent registered _ found
  | leaveRoom op =>
    obtain ⟨mem,-,here⟩ := admitted _ _ op
    refine (briefedRemoveRoomUser (Lobby.getRoomByRoomIDSome here).1 fun given => ⟨?_,parts given _ op⟩).silent
      ((Silent.refl _).showLobby _)
    exact placedMember (members given) mem here
  | changeRoomSettings op =>
    exact briefedChangeSettings (Lobby.getRoomByRoomIDSome (admitted _ _ op).1.2.2).1 (clean _ op)
  | returnUser op => exact briefedReturn (Lobby.getRoomByRoomIDSome (admitted _ _ op).1.2.2).1 _ _
  | startMatch op => exact briefedStart (Lobby.getRoomByRoomIDSome (admitted _ _ op).1.2.2).1
  | saveData op => exact (Briefed.refl s).setRoom rfl rfl rfl
  | sendUserStatus op =>
    rename_i u target r m
    have seated : Briefed precise s
        (s.setLobby (s.lobby.setRoom r { s.lobby.room r with gameMatch := some (m.addGameMatchUser ⟨target,.None⟩) })) :=
      (Briefed.refl s).setRoom rfl rfl rfl
    exact seated.silent ((Silent.refl _).setUserStatus target .InGame)
  | endGame op => exact briefedEndGame (Lobby.getRoomByRoomIDSome (admitted _ _ op).1.1.1.2.2).1 _
  | selectTeam op => exact (Briefed.refl s).setRoom rfl rfl rfl
  | recoverRooms op => exact briefedRecoverRooms s
  | removeAllRooms op =>
    exact (briefedRemoveAllRooms s).silent ((Silent.refl _).unheard ((Unheard.refl _).exec _))

end Effect

section Step
open Runs
variable {precise : Prop} {ν : Type} {R : Replica Message ν} {f : Brief → ν} {s t : State}

theorem doneClean {action : Action} {l : Lobby} {op : Lobby.Op} (done : s.Done action l op) : Clean op := by
  obtain ⟨-,caused⟩ := done
  cases op with
  | createRoom u settings added =>
    obtain ⟨rfl,⟨p,-,rfl⟩,-⟩ := caused
    exact readCreateRoomWhole _ _ p
  | updateRoomSettings u r settings =>
    obtain ⟨rfl,p,-,rfl⟩ := caused
    exact readRoomSettingsClean p
  | _ => trivial

-- Who leaves a room by the event, and which.
def parting (s : State) : UserRef × UInt8 × Packet → Option (UserRef × RoomRef)
  | (u,2,_) => (s.currentRoom u [.InRoom,.InGame]).map (u,·)
  | _ => none

def parts (s : State) : Action → Option (UserRef × RoomRef)
  | .packet c packet => (s.roomRequest c packet).bind s.parting
  | .disconnect c _ =>
    (s.getUserByConnection c).bind fun u => (s.lobby.getRoomByRoomID (s.lobby.user u).currentRoomID).map (u,·)
  | _ => none

-- Nobody leaves a room in which somebody else has the same ID.
def PartsStep (s : State) (e : Event) : Prop :=
  ∀ left ∈ (s.enter e.environment).parts e.action, (s.enter e.environment).lobby.AloneIn left.2 left.1

instance (s : State) (e : Event) : Decidable (s.PartsStep e) :=
  inferInstanceAs (Decidable (∀ left ∈ (s.enter e.environment).parts e.action, (s.enter e.environment).lobby.AloneIn left.2 left.1))

theorem doneParts {action : Action} {l : Lobby} {op : Lobby.Op} (done : s.Done action l op)
    (alone : ∀ left ∈ s.parts action, s.lobby.AloneIn left.2 left.1) : Parts l op := by
  obtain ⟨-,caused⟩ := done
  cases op with
  | removeUser u =>
    intro r found
    rcases caused with ⟨rfl,c,ec,rfl,here⟩ | ⟨-,outside,-⟩
    · exact alone (u,r) (Option.mem_bind_iff.mpr ⟨u,here,Option.mem_map_of_mem (u,·) found⟩)
    · rw [outside] at found
      cases found
  | leaveRoom u r =>
    obtain ⟨rfl,⟨p,c,packet,rfl,request⟩,current⟩ := caused
    exact alone (u,r) (Option.mem_bind_iff.mpr ⟨_,request,by simp [parting,current]⟩)
  | _ => trivial

-- What the steps keep; the copies are known to be right once nothing was missed.
structure Carries (precise : Prop) (R : Replica Message ν) (f : Brief → ν) (s : State) : Prop where
  sound : s.lobby.Sound
  dated : s.Dated
  orderly : s.Orderly
  members : precise → s.lobby.Members
  followed : (precise → s.characterMissed = false) → Followed R f s

theorem startCarries (precise : Prop) (R : Replica Message ν) (f : Brief → ν) (serverConfig : ChannelConfig) (database : Database)
    (environment : Environment) (time : Nat) : Carries precise R f (start serverConfig database environment time) where
  sound := Lobby.startSound
  dated := by simp [start,Dated,Lobby.Known,Lobby.start]
  orderly := by constructor <;> simp [start,Lobby.start]
  members _ := Lobby.startMembers
  followed _ u r attends := by cases attends.registered

theorem stepCarries (follows : Follows precise R f) (s : State) (e : Event) (carries : Carries precise R f s)
    (ok : precise → s.CalmStep e ∧ s.PartsStep e) : Carries precise R f (s.step e) := by
  refine Effects.invariant (fun t m before effect => ?_) (stepEffects s e) ⟨carries.sound,carries.dated,
    ⟨carries.orderly.nodup,carries.orderly.whole⟩,carries.members,fun found u r attends =>
      carries.followed found u r ⟨attends.registered,attends.member,attends.isOpen⟩⟩
  have admitted (l : Lobby) (op : Lobby.Op) (done : (s.enter e.environment).Done e.action l op) : l.Admitted op := done.1
  have kept : m.lobby.Sound ∧ (precise → m.lobby.Members) :=
    Reaches.invariant (fun (l : Lobby) _ (kept : l.Sound ∧ (precise → l.Members)) done =>
        ⟨Lobby.applySound kept.1 done.1,fun given =>
          Lobby.applyMembers kept.1 (kept.2 given) done.1 (doneCalm done (ok given).1)⟩)
      (effectReaches effect) ⟨before.sound,before.members⟩
  have briefed (found : precise → m.characterMissed = false) : Briefed precise t m :=
    effectBriefed admitted (fun op => doneClean) before.dated before.members (fun given op done => doneParts done (ok given).2)
      effect found
  have ordered : Briefed False t m :=
    effectBriefed admitted (fun op => doneClean) before.dated False.elim False.elim effect False.elim
  refine ⟨kept.1,effectDated admitted before.sound before.dated effect,ordered.orderly before.orderly,kept.2,fun found => ?_⟩
  have earlier (given : precise) : t.characterMissed = false := by
    rcases effectSteady effect with ⟨ipAddress,rfl⟩ | steady
    · exact found given
    · exact steady.missed (found given)
  exact (briefed found).followed follows before.orderly (before.followed earlier)

end Step
end CsoMaster.State
