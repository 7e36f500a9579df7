import CsoMaster.ConnectionUsers
import CsoMaster.ListingSteps
import CsoMaster.PacketRequests
import CsoMaster.Registers
import CsoMaster.SessionRows
import CsoMaster.UsableConfig
import CsoMaster.UserStatuses

/-! Users and session rows. The users in memory and the rows of the channel in `user_sessions` are a
register: every event of the server moves it only by what a register allows, so no account is ever
logged in twice, each user has its row, and a row without a user is left only where a statement
failed. -/
namespace CsoMaster
open Runs DatabaseManager

namespace Lobby
variable {l other : Lobby} {u : UserRef}

def accounts (l : Lobby) : Multiset UInt32 := (l.users : Multiset UserRef).map fun u => (l.user u).userID

theorem userAccount (mem : u ∈ l.users) : (l.user u).userID ∈ l.accounts := Multiset.mem_map_of_mem _ (Multiset.mem_coe.mpr mem)

def Op.Stays : Op → Prop
  | .addUser _ _ _ | .removeUser _ => False
  | _ => True

theorem accountsSame (users : other.users = l.users) (same : l.SameUsers other) : other.accounts = l.accounts := by
  unfold accounts
  rw [users]
  exact Multiset.map_congr rfl fun u _ => (same u).2

theorem applyAccounts (l : Lobby) {op : Op} (stays : op.Stays) : (l.apply op).accounts = l.accounts := by
  have same : l.SameUsers (l.apply op) := l.applySameUsers fun _ _ _ is => by rw [is] at stays; exact stays
  refine accountsSame ?_ same
  cases op with
  | addUser connection userID userName => exact stays.elim
  | removeUser u => exact stays.elim
  | createRoom u s added => cases added <;> rfl
  | leaveRoom u r => exact (removeRoomUserFrame l r u).1
  | endGame u r m =>
    rw [apply,endGameEq]
    rfl
  | removeRoom r => rw [apply,removeRoomEq]
  | removeAllRooms =>
    obtain ⟨user,whole,-,-⟩ := destroyRooms l.rooms { l with rooms := [] }
    rw [apply,Lobby.removeAllRooms,whole]
  | _ => rfl

theorem addUserAccounts (new : l.fresh ∉ l.users) (user : User) : (l.addUser user).accounts = user.userID ::ₘ l.accounts := by
  have others : (l.users : Multiset UserRef).map (fun u => ((l.addUser user).user u).userID) = l.accounts :=
    Multiset.map_congr rfl fun u mem => by
      have old : u ≠ l.fresh := fun is => new (is ▸ mem)
      simp [addUser,old]
  have joined : ((l.addUser user).users : Multiset UserRef) = l.fresh ::ₘ (l.users : Multiset UserRef) := by
    simp [addUser]
  rw [accounts,joined,Multiset.map_cons,others]
  simp [addUser]

theorem removeUserAccounts (mem : u ∈ l.users) : (l.removeUser u).accounts = l.accounts.erase (l.user u).userID := by
  have same : l.SameUsers (l.removeUser u) := @l.applySameUsers (.removeUser u) nofun
  have rest : (l.removeUser u).accounts = ((l.users : Multiset UserRef).erase u).map fun v => (l.user v).userID := by
    unfold accounts
    rw [removeUserUsers,Multiset.coe_erase]
    exact Multiset.map_congr rfl fun v _ => (same v).2
  rw [rest,Multiset.map_erase_of_mem _ _ (Multiset.mem_coe.mpr mem)]
  rfl

end Lobby

namespace State
variable {s t m : State} {c : ConnectionRef} {u : UserRef} {packet p : Packet}

/-! Who is logged in. -/

theorem effectsAccounts {may : Lobby → Lobby.Op → Prop} (effects : Effects may s t) (stays : ∀ l op, may l op → op.Stays) :
    t.lobby.accounts = s.lobby.accounts :=
  Reaches.invariant (fun (l : Lobby) op (before : l.accounts = s.lobby.accounts) done => (l.applyAccounts (stays l op done)).trans before)
    (effectsReaches effects) rfl

theorem Does.accounts {P : Lobby.Op → Prop} (does : Does P s t) (stays : ∀ op, P op → op.Stays) : t.lobby.accounts = s.lobby.accounts :=
  effectsAccounts does fun _ op done => stays op done.2.2

theorem Quiet.accounts (quiet : Quiet s t) : t.lobby.accounts = s.lobby.accounts := congrArg Lobby.accounts quiet.lobby

theorem roomAccounts (s : State) (c : ConnectionRef) (p : Packet) : (s.parsePacket_Room c p).lobby.accounts = s.lobby.accounts := by
  unfold parsePacket_Room
  split
  · rfl
  · rename_i u type q found
    obtain ⟨mem,past⟩ := loggedInSome (roomPacketSome found).1
    split
    · exact (createRoomEffects mem past).accounts fun _ ⟨_,_,is⟩ => is ▸ trivial
    · exact (joinRoomEffects mem past).accounts fun _ ⟨_,_,is⟩ => is ▸ trivial
    · exact (leaveRoomEffects mem).accounts fun _ ⟨_,_,is⟩ => is ▸ trivial
    · exact (quietStartGame s u).accounts
    · exact (updateRoomSettingsEffects mem).accounts fun _ ⟨_,is⟩ => is ▸ trivial
    · exact (quietResultConfirm s u).accounts
    · exact (returnToRoomEffects mem).accounts fun _ ⟨_,_,_,is⟩ => is ▸ trivial
    · rfl

theorem hostAccounts (s : State) (c : ConnectionRef) (p : Packet) : (s.parsePacket_Host c p).lobby.accounts = s.lobby.accounts := by
  cases known : s.loggedIn c with
  | none => rw [parsePacket_Host,known]
  | some u =>
    refine (hostEffects known).accounts fun op reports => ?_
    cases op with
    | serverIsActivated | saveData | sendUserStatus | endGame | selectTeam => trivial
    | _ => exact reports.elim

-- Only the two logins change who is logged in.
theorem packetAccounts (s : State) (c : ConnectionRef) (packet : Packet) (plain : ¬ administers (.packet c packet)) :
    (s.parsePacket c packet).lobby.accounts = s.lobby.accounts := by
  dsimp only [parsePacket]
  split
  · rfl
  · exact (quietVersion s c _).accounts
  · refine recvCharacterEffects.accounts fun op enters => ?_
    cases op with
    | enterServerList | enterLobby => trivial
    | _ => exact enters.elim
  · rename_i kind
    exact absurd (.inl kind) plain
  · rename_i kind
    exact absurd (.inr kind) plain
  · exact requestTransferEffects.accounts fun _ ⟨_,is⟩ => is ▸ trivial
  · exact requestServerListEffects.accounts fun _ ⟨_,_,is⟩ => is ▸ trivial
  · exact roomAccounts s c _
  · exact (quietUMsg s c _).accounts
  · exact hostAccounts s c _
  · exact (quietUdp s c _).accounts
  · exact (quietShop s c _).accounts
  · exact (quietOption s c _).accounts
  · exact (quietFavorite s c _).accounts
  · exact effectsAccounts searchRoomEffects fun _ (_ : Lobby.Op) => False.elim
  all_goals rfl

-- Seconds, datagrams and the console leave everybody logged in.
theorem unaskedAccounts {action : Action} (asked : ∀ c packet, action ≠ .packet c packet) (gone : ∀ c ec, action ≠ .disconnect c ec) :
    (s.act action).lobby.accounts = s.lobby.accounts := by
  refine effectsAccounts actEffects fun l op done => ?_
  rcases unaskedOp asked done with ⟨u,rfl⟩ | ⟨u,userNetwork,rfl⟩ | ⟨⟨r,rfl⟩ | rfl,-⟩
  · rcases done.2 with ⟨-,c,ec,is,-⟩ | ⟨⟨c,packet,is⟩,-⟩
    · exact absurd is (gone c ec)
    · exact absurd is (asked c packet)
  · trivial
  · trivial
  · trivial

/-! The channel's own entry in the server list. -/

-- It counts up from one, and is not shown offline.
structure Own (place : Place) (c : ServerConfig) : Prop where
  placed : c.place = place
  numbered : Numbered c.serverList
  shown : ∀ channel, c.channel place = some channel → channel.isOnline = true

-- No GOODBYE in the own name.
def Retires (place : Place) : Listing.Event → Prop
  | .packet p .GOODBYE => p = place
  | _ => False

theorem stepOwn {place : Place} {l : Listing} (own : Own place l.config) {e : Listing.Event} (stays : ¬ Retires place e) :
    Own place (l.step e).config where
  placed := (Listing.stepPlace l e).1.trans own.placed
  numbered := Listing.stepNumbered l e own.numbered
  shown := by
    have kept (same : ((l.step e).config.channel place).map Channel.isOnline = (l.config.channel place).map Channel.isOnline) :
        ∀ channel, (l.step e).config.channel place = some channel → channel.isOnline = true := by
      intro channel found
      rw [found] at same
      obtain ⟨before,there,is⟩ := Option.map_eq_some_iff.mp same.symm
      exact is ▸ own.shown before there
    cases e with
    | packet p packet =>
      intro channel found
      rw [Listing.packetEntry] at found
      split at found
      · rename_i named
        subst named
        obtain ⟨before,there,rfl⟩ := Option.map_eq_some_iff.mp found
        cases packet with
        | GOODBYE => exact absurd rfl stays
        | HELLO | HELLO_ANSWER => rfl
        | HEARTBEAT | NUMPLAYERS | unregistered => exact own.shown before there
      · exact own.shown channel found
    | secondTick now =>
      refine kept (congrArg _ ((Listing.tickEntry own.numbered now place).trans ?_))
      simp [own.placed]
    | addUser => exact kept (Listing.usersView _ (fun _ _ => rfl) (.inl rfl) place)
    | removeUser => exact kept (Listing.usersView _ (fun _ _ => rfl) (.inr rfl) place)

-- What forgets the others and what takes them for offline pass the own entry by.
theorem Own.relist {place : Place} {c : ServerConfig} (own : Own place c) {serverList : List Server} (numbered : Numbered serverList)
    (same : entry serverList place = entry c.serverList place) : Own place { c with serverList := serverList } where
  placed := own.placed
  numbered := numbered
  shown channel found := by
    rw [channelEntry] at found
    exact own.shown channel (by rw [channelEntry,← same,found])

theorem Own.online {place : Place} {c : ServerConfig} (own : Own place c) : c.isStale place = false := by
  unfold ServerConfig.isStale
  split
  · rfl
  · rename_i channel found
    rw [own.shown channel found]
    rfl

/-! The register of a channel, and what an event makes of it. -/

def register (place : Place) (s : State) : Register UInt32 := ⟨s.lobby.accounts,sessionRows place s.store.database⟩

section Books
variable {place : Place} {clear : Prop}

-- `clear`: no statement of the event is given up.
def Foresees (place : Place) (clear : Prop) (d : Store) : Prop :=
  Expects (fun statement => clear → statement.ok = true) (sessionRows place) d

structure Ready (place : Place) (clear : Prop) (s : State) : Prop where
  own : Own place s.serverConfig.toServerConfig
  held : (s.register place).Held
  foresees : Foresees place clear s.store

def Books (place : Place) (clear : Prop) (s t : State) : Prop :=
  Ready place clear s → Ready place clear t ∧ Reaches Register.apply (Register.Allowed clear) (s.register place) (t.register place)

theorem Books.refl (s : State) : Books place clear s s := fun ready => ⟨ready,reachesRefl _⟩

theorem Books.trans (left : Books place clear s m) (right : Books place clear m t) : Books place clear s t := by
  intro ready
  obtain ⟨between,first⟩ := left ready
  obtain ⟨after,rest⟩ := right between
  exact ⟨after,first.trans rest⟩

-- Neither a row nor a user has changed.
theorem idleBooks (own : Own place s.serverConfig.toServerConfig → Own place t.serverConfig.toServerConfig)
    (store : Foresees place clear s.store →
      Foresees place clear t.store ∧ sessionRows place t.store.database = sessionRows place s.store.database)
    (accounts : t.lobby.accounts = s.lobby.accounts) : Books place clear s t := by
  intro ready
  obtain ⟨still,rows⟩ := store ready.foresees
  have same : t.register place = s.register place := by rw [register,register,accounts,rows]
  exact ⟨⟨own ready.own,same ▸ ready.held,still⟩,same ▸ reachesRefl _⟩

theorem Books.same (books : Books place clear s m) (serverConfig : t.serverConfig = m.serverConfig) (store : t.store = m.store)
    (lobby : t.lobby = m.lobby) : Books place clear s t :=
  books.trans (idleBooks (fun own => serverConfig ▸ own) (fun foresees => by rw [store]; exact ⟨foresees,rfl⟩) (by rw [lobby]))

theorem sessionsView (d e : Database) (same : e.userSessions = d.userSessions) : sessionRows place e = sessionRows place d := by
  rw [sessionRows,sessionRows,same]

theorem Acts.foresees {policy : Policy} {made : List (UInt32 × Request)} (acts : Acts policy made s t) (plain : ¬ policy.administers)
    (before : Foresees place clear s.store) :
    Foresees place clear t.store ∧ sessionRows place t.store.database = sessionRows place s.store.database := by
  obtain ⟨calls,-,within,store⟩ := acts.asked
  rw [store]
  exact callsLeave sessionsView (fun call mem administers => plain (within call mem administers)) before

theorem Acts.books {policy : Policy} {made : List (UInt32 × Request)} (acts : Acts policy made s t) (plain : ¬ policy.administers)
    (accounts : t.lobby.accounts = s.lobby.accounts) : Books place clear s t := by
  refine idleBooks (fun own => ?_) (acts.foresees plain) accounts
  rw [acts.configured.resolve_right plain]
  exact own

-- A move of the register, and then nothing more.
theorem Ready.moves (ready : Ready place clear s) (own : Own place t.serverConfig.toServerConfig) (foresees : Foresees place clear t.store)
    (move : Register.Move UInt32) (allowed : (s.register place).Allowed clear move) (register : t.register place = (s.register place).apply move) :
    Ready place clear t ∧ Reaches Register.apply (Register.Allowed clear) (s.register place) (t.register place) :=
  ⟨⟨own,register ▸ Register.applyHeld ready.held allowed,foresees⟩,register ▸ reachesStep allowed⟩

theorem updateChannelNumPlayersStore (s : State) : s.updateChannelNumPlayers.store = s.store := by
  unfold updateChannelNumPlayers
  split <;> rfl

theorem addUserBooks (new : s.lobby.fresh ∉ s.lobby.users) (user : User) : Books place clear s (s.addUser user).2 := by
  intro ready
  have own : Own place (s.addUser user).2.serverConfig.toServerConfig := by
    have listing := congrArg Listing.config (s.addUserListing user)
    change (s.addUser user).2.serverConfig.toServerConfig = _ at listing
    rw [listing]
    split
    · exact stepOwn (l := s.listing) (e := .addUser) ready.own id
    · exact ready.own
  obtain ⟨foresees,entered⟩ := (addUserSessionEnters user.userID ready.own.placed ready.own.online).expects
    (administrationLeaves (fun _ _ => rfl) (.addUserSession s.serverConfig.toServerConfig user.userID)) ready.foresees rfl
  change Foresees place clear (s.sql (addUserSession s.serverConfig.toServerConfig user.userID)).2.store at foresees
  unfold addUser at own ⊢
  split
  · exact ⟨ready,reachesRefl _⟩
  · rename_i room
    rw [if_neg room] at own
    dsimp only at own ⊢
    split
    · rename_i added
      rw [if_pos added] at own
      obtain ⟨-,free,rows⟩ := entered.resolve_right fun refused => absurd added (Int.not_lt.mpr refused.1)
      obtain ⟨still,same⟩ := routineLeaves ⟨fun _ _ => rfl,fun _ _ => rfl⟩ (.removeUserTransfer user.userID) _ foresees
      refine ready.moves own ?_ (.enter user.userID) free ?_
      · rw [updateChannelNumPlayersStore]
        exact still
      · rw [register,updateChannelNumPlayersStore,updateChannelNumPlayersLobby]
        exact congrArg₂ Register.mk (Lobby.addUserAccounts new user) (same.trans rows)
    · rename_i refused
      rw [if_neg refused] at own
      obtain ⟨-,rows⟩ := entered.resolve_left fun added => refused added.1
      refine idleBooks (fun _ => own) (fun _ => ⟨foresees,rows⟩) rfl ready

theorem leaveLobbyAccounts (s : State) (u : UserRef) : (s.leaveLobby u).lobby.accounts = s.lobby.accounts := by
  rw [leaveLobbyLobby]
  split
  · rfl
  · obtain ⟨users,-,-,-,same,-⟩ := Lobby.removeRoomUserFrame s.lobby _ u
    exact Lobby.accountsSame users same

-- What makes no session and touches no configuration, whatever it tells.
def idle : Policy := ⟨fun _ _ => True,False⟩

theorem idleWide : Wide idle := fun _ _ _ => trivial

theorem idleAnswers (c : ConnectionRef) : Answerable idle c := fun _ _ => trivial

theorem removeUserBooks (mem : u ∈ s.lobby.users) : Books place clear s (s.removeUser u) := by
  intro ready
  have own : Own place (s.removeUser u).serverConfig.toServerConfig := by
    have listing := congrArg Listing.config (s.removeUserListing mem)
    change (s.removeUser u).serverConfig.toServerConfig = _ at listing
    rw [listing]
    exact stepOwn (l := s.listing) (e := .removeUser) ready.own id
  have left : Books place clear s (s.leaveLobby u) :=
    ((Acts.refl idle s).leaveLobby idleWide u).books id (s.leaveLobbyAccounts u)
  obtain ⟨between,first⟩ := left ready
  have inside : (s.lobby.user u).userID ∈ (s.leaveLobby u).lobby.accounts := by
    rw [leaveLobbyAccounts]
    exact Lobby.userAccount mem
  have accounts : (s.removeUser u).lobby.accounts = (s.leaveLobby u).lobby.accounts.erase (s.lobby.user u).userID := by
    rw [removeUserLobby,Lobby.removeUserAccounts mem,leaveLobbyAccounts]
  have store : (s.removeUser u).store = (removeUserSession (s.lobby.user u).userID (s.leaveLobby u).store).2 := by
    rw [removeUserStore,leaveLobbyUserID]
  obtain ⟨foresees,struck⟩ := (removeUserSessionStrikes (s.lobby.user u).userID).expects
    (administrationLeaves (fun _ _ => rfl) (.removeUserSession (s.lobby.user u).userID)) between.foresees rfl
  rw [← store] at foresees struck
  have gone (move : Register.Move UInt32) (allowed : ((s.leaveLobby u).register place).Allowed clear move)
      (register : (s.removeUser u).register place = ((s.leaveLobby u).register place).apply move) :=
    (between.moves own foresees move allowed register).imp id first.trans
  rcases struck with ⟨-,rows⟩ | ⟨failed,rows⟩
  · exact gone (.release (s.lobby.user u).userID) inside (congrArg₂ Register.mk accounts rows)
  · refine gone (.strand (s.lobby.user u).userID) ⟨inside,fun calm => ?_⟩ (congrArg₂ Register.mk accounts rows)
    have runs := answersRun fun statement mem => (between.foresees statement mem).1 calm
    simp [removeUserSession,execute,bind,StateT.bind,queryRuns runs,pureRuns] at failed

theorem disconnectClientBooks (s : State) (c : ConnectionRef) (eraseConnection : Bool) : Books place clear s (s.disconnectClient c eraseConnection) :=
  ((Acts.refl idle s).disconnectClient c eraseConnection).books id (by rw [disconnectClientLobby])

theorem disconnectBooks (s : State) (c : ConnectionRef) (ec : Option ErrorCode) : Books place clear s (s.disconnectUserByConnection c ec) := by
  unfold disconnectUserByConnection
  dsimp only
  cases found : s.getUserByConnection c with
  | none =>
    dsimp only
    split
    · exact disconnectClientBooks s c false
    · exact .refl s
    · exact disconnectClientBooks s c true
  | some u =>
    have gone : Books place clear s (s.removeUser u) := removeUserBooks (Lobby.getUserByConnectionSome found).1
    dsimp only
    split
    · exact gone.trans (disconnectClientBooks _ c false)
    · exact gone
    · exact gone.trans (disconnectClientBooks _ c true)

theorem sendBooks (s : State) (c : ConnectionRef) (message : Message) : Books place clear s (s.send c message) :=
  ((Acts.refl idle s).send trivial).books id (by rw [sendLobby])

theorem sqlBooks {α : Type} {q : Sql α} (s : State) (routine : Routine) (same : ∀ d, (q d).2 = (routine.query.2 d).2) :
    Books place clear s (s.sql q).2 :=
  ((Acts.refl idle s).sql routine same).books id rfl

theorem sendLoginPacketsBooks (s : State) (u : UserRef) (reply : Packet_ReplyType) : Books place clear s (s.sendLoginPackets u reply) := by
  refine (Serves.sendLoginPackets ⟨.refl idle s,rfl⟩ idleWide (idleAnswers _) reply).books id ?_
  rcases s.sendLoginPacketsLobby u reply with same | ⟨userStatus,-,moved⟩
  · rw [same]
  · rw [moved]
    exact Lobby.accountsSame rfl (Lobby.setUserSame s.lobby u rfl rfl)

section Login
variable (new : s.lobby.fresh ∉ s.lobby.users)
include new

theorem addNewUserBooks (c : ConnectionRef) (userID : UInt32) (userName : Bytes) : Books place clear s (s.addNewUser c userID userName).2 := by
  have added : Books place clear s _ := addUserBooks new (.new c userID userName)
  dsimp only [addNewUser]
  split
  · exact added.trans (sendBooks _ c _)
  · split
    · exact added.trans (sendBooks _ c _)
    · exact added

theorem loginBooks (c : ConnectionRef) (p : Packet) : Books place clear s (s.login c p).2 := by
  dsimp only [login]
  split
  · exact .refl s
  · have asked : Books place clear s _ := sqlBooks s (.login s.environment.bcrypt_checkpw p.readString.1 p.readString.2.readString.1) fun _ => rfl
    split
    · exact asked.trans (sendBooks _ c _)
    · exact asked.trans (addNewUserBooks (s := (s.sql _).2) new c _ _)

theorem transferLoginBooks (c : ConnectionRef) (p : Packet) : Books place clear s (s.transferLogin c p).2 := by
  dsimp only [transferLogin]
  split
  · exact .refl s
  · have asked : Books place clear s _ := sqlBooks s (.transferLogin s.serverConfig.place p.readString.1) fun _ => rfl
    split
    · exact asked.trans (sendBooks _ c _)
    · exact asked.trans (addNewUserBooks (s := (s.sql _).2) new c _ _)

-- A login that fails after its user has been added takes it out again.
theorem loginPacketBooks (c : ConnectionRef) (p : Packet) : Books place clear s (s.parsePacket_Login c p) := by
  have joined : Books place clear s _ := loginBooks new c p
  unfold parsePacket_Login
  rcases s.loginCases c p with ⟨refused,-⟩ | ⟨added,userID,userName,lobby⟩
  · rw [refused]
    exact joined
  · obtain ⟨mem,-⟩ := addedFresh lobby
    rw [added]
    have asked : Books place clear _ ((s.login c p).2.isUserCharacterExists s.lobby.fresh).2 := sqlBooks _ (.getUserCharacter _ 0) fun _ => rfl
    dsimp only
    split
    · refine (joined.trans asked).trans ((sendBooks _ c _).trans (removeUserBooks ?_))
      rw [sendLobby]
      exact mem
    · split
      · exact (joined.trans asked).trans ((sendBooks _ c _).trans (sendBooks _ c _))
      · exact (joined.trans asked).trans (sendLoginPacketsBooks _ _ _)

theorem transferLoginPacketBooks (c : ConnectionRef) (p : Packet) : Books place clear s (s.parsePacket_TransferLogin c p) := by
  have joined : Books place clear s _ := transferLoginBooks new c p
  unfold parsePacket_TransferLogin
  rcases s.transferLoginCases c p with ⟨refused,-⟩ | ⟨added,-⟩
  · rw [refused]
    exact joined
  · rw [added]
    exact joined.trans (sendLoginPacketsBooks _ _ _)

end Login

theorem disconnectUserBooks (s : State) (u : UserRef) : Books place clear s (s.disconnectUser u) := disconnectClientBooks s _ false

theorem Books.fold {α : Type} {f : State → α → State} (each : ∀ s a, Books place clear s (f s a)) (s : State) (as : List α) :
    Books place clear s (as.foldl f s) := by
  induction as generalizing s with
  | nil => exact .refl s
  | cons a as ih => exact (each s a).trans (ih (f s a))

/-! The seconds. -/

section Tick

-- A user that is logged in finds its own row, and so enters none.
theorem recoverUserBooks (s : State) (mem : u ∈ s.lobby.users) : Books place clear s (s.recoverUser u) := by
  intro ready
  have taken : (s.lobby.user u).userID ∈ sessionRows place s.store.database := ready.held.booked _ (Lobby.userAccount mem)
  obtain ⟨foresees,found,rows⟩ := (isUserSessionAddedOwn ready.own.placed taken).expects
    (routineLeaves ⟨fun _ _ => rfl,fun _ _ => rfl⟩ (.isUserSessionAdded s.serverConfig.toServerConfig (s.lobby.user u).userID))
    ready.foresees rfl
  have asked : Books place clear s (s.sql (isUserSessionAdded s.serverConfig.toServerConfig (s.lobby.user u).userID)).2 :=
    idleBooks id (fun _ => ⟨foresees,rows⟩) rfl
  dsimp only [recoverUser]
  split
  · exact asked.trans (disconnectUserBooks _ u) ready
  · split
    · rename_i missing
      exact absurd missing found
    · exact asked ready

theorem recoverUsersBooks (s : State) (users : List UserRef) (inside : ∀ u ∈ users, u ∈ s.lobby.users) :
    Books place clear s (users.foldl recoverUser s) := by
  induction users generalizing s with
  | nil => exact .refl s
  | cons u users ih =>
    refine (recoverUserBooks s (inside u List.mem_cons_self)).trans (ih (s.recoverUser u) fun v mem => ?_)
    rw [((Quiet.refl s).recoverUser u).lobby]
    exact inside v (List.mem_cons_of_mem u mem)

theorem recoverRoomBooks (s : State) (r : RoomRef) : Books place clear s (s.recoverRoom r) := by
  refine ((Acts.refl idle s).recoverRoom idleWide r).books id ?_
  rcases s.recoverRoomLobby r with same | removed
  · rw [same]
  · rw [removed]
    exact @Lobby.applyAccounts s.lobby (.removeRoom r) trivial

theorem dropSilentBooks (s : State) (u : UserRef) : Books place clear s (s.dropSilent u) :=
  ((Acts.refl idle s).dropSilent idleWide u).books id ((Quiet.refl s).dropSilent u).accounts

theorem forgetBooks (s : State) :
    Books place clear s (s.setServerList (SessionCluster.forgetOthers s.serverConfig.place s.serverConfig.serverList)) := by
  refine idleBooks (fun own => ?_) (fun foresees => ⟨foresees,rfl⟩) rfl
  refine own.relist (Listing.forgetNumbered own.numbered _) ?_
  rw [Listing.forgetEntry own.numbered]
  simp [own.placed]

theorem expireBooks (s : State) :
    Books place clear s (s.setServerList (s.serverConfig.serverList.map (expire s.serverConfig.place s.currentTime))) := by
  refine idleBooks (fun own => ?_) (fun foresees => ⟨foresees,rfl⟩) rfl
  refine own.relist (Listing.expireNumbered own.numbered _ _) ?_
  rw [Listing.expireEntry own.numbered]
  simp [own.placed]

theorem recoverBooks (s : State) : Books place clear s s.recover := by
  dsimp only [recover]
  refine ((forgetBooks s).trans (recoverUsersBooks _ _ fun _ => id)).trans (Books.trans ?_ (.fold recoverRoomBooks _ _))
  exact sqlBooks _ (.removeAllRooms _) fun _ => rfl

theorem secondTickBooks (s : State) (now : Nat) : Books place clear s (s.onSecondTick now) := by
  have started : Books place clear s { s with consoleTime := now } := (Books.refl s).same rfl rfl rfl
  have ticked : Books place clear s { s with consoleTime := now }.udpSecondTick := by
    dsimp only [udpSecondTick]
    refine Books.trans (Books.trans ?_ (.fold dropSilentBooks _ _)) (expireBooks _)
    split
    · exact (started.trans (recoverBooks _)).same rfl rfl rfl
    · exact started.same rfl rfl rfl
  dsimp only [onSecondTick]
  split
  · exact (ticked.trans (sqlBooks _ (.removeOldUserTransfers _ _) fun _ => rfl)).same rfl rfl rfl
  · exact ticked.same rfl rfl rfl

end Tick

theorem serverDatagramBooks (s : State) (buffer : Bytes)
    (stays : readServerPacket buffer ≠ some (s.serverConfig.udpAuthKey,place,.GOODBYE)) :
    Books place clear s (s.handleIncomingServerPacket buffer) := by
  have kept : (s.handleIncomingServerPacket buffer).store = s.store := by
    dsimp only [handleIncomingServerPacket]
    repeat' split
    all_goals rfl
  refine idleBooks (fun own => ?_) (fun foresees => by rw [kept]; exact ⟨foresees,rfl⟩) (quietServerDatagram s buffer).accounts
  have listing := congrArg Listing.config (s.serverDatagramListing buffer)
  change (s.handleIncomingServerPacket buffer).serverConfig.toServerConfig = _ at listing
  rw [listing]
  split
  · exact own
  · rename_i key p packet read
    obtain ⟨spelt,known⟩ := Option.filter_eq_some_iff.mp read
    obtain rfl : key = s.serverConfig.udpAuthKey := of_decide_eq_true known
    refine stepOwn (l := s.listing) (e := .packet p packet) own fun retires => ?_
    cases packet with
    | GOODBYE =>
      obtain rfl : p = place := retires
      exact stays spelt
    | _ => exact retires

theorem packetBooks (sound : s.lobby.Sound) (c : ConnectionRef) (packet : Packet) : Books place clear s (s.parsePacket c packet) := by
  have new : s.lobby.fresh ∉ s.lobby.users := fun mem => Nat.lt_irrefl _ (sound.usersOld _ mem)
  by_cases plain : administers (.packet c packet)
  · rcases plain with login | transfer
    · have parsed : s.parsePacket c packet = s.parsePacket_Login c packet.readUInt8.2 := by simp only [parsePacket,login]
      rw [parsed]
      exact loginPacketBooks new c _
    · have parsed : s.parsePacket c packet = s.parsePacket_TransferLogin c packet.readUInt8.2 := by simp only [parsePacket,transfer]
      rw [parsed]
      exact transferLoginPacketBooks new c _
  · obtain ⟨made,-,acts⟩ := actsPacket s c packet
    exact acts.books plain (packetAccounts s c packet plain)

-- No datagram takes the channel offline in its own name.
def Spares (place : Place) (s : State) (action : Action) : Prop :=
  ∀ buffer, action = .serverDatagram buffer → readServerPacket buffer ≠ some (s.serverConfig.udpAuthKey,place,.GOODBYE)

theorem actBooks (sound : s.lobby.Sound) {action : Action} (spares : s.Spares place action) : Books place clear s (s.act action) := by
  cases action with
  | connect ipAddress => exact idleBooks id (fun foresees => ⟨foresees,rfl⟩) rfl
  | packet c packet =>
    dsimp only [act]
    split
    · exact packetBooks sound c packet
    · exact .refl s
  | disconnect c ec =>
    dsimp only [act]
    split
    · exact disconnectBooks s c ec
    · exact .refl s
  | clientDatagram ipAddress port buffer =>
    exact ((Acts.refl idle s).handleIncomingClientPacket ipAddress port buffer).books id
      (@unaskedAccounts s (.clientDatagram ipAddress port buffer) nofun nofun)
  | serverDatagram buffer => exact serverDatagramBooks s buffer (spares buffer rfl)
  | secondTick now => exact secondTickBooks s now
  | removeAllRooms =>
    exact ((Acts.refl idle s).commandRemoveAllRooms idleWide).books id (@unaskedAccounts s .removeAllRooms nofun nofun)
  | disconnectAllClients =>
    exact ((Acts.refl idle s).commandDisconnectAllClients idleWide).books id (@unaskedAccounts s .disconnectAllClients nofun nofun)

end Books

/-! Whole runs, from the start of the process on. -/

section Runs
variable {place : Place} {e : Event}

def AllAnswered (environment : Environment) : Prop := ∀ statement ∈ environment.statements, statement.ok = true

-- The other servers leave the rows of the channel as they are.
def Alone (place : Place) (environment : Environment) : Prop :=
  ∀ statement ∈ environment.statements, ∀ d, sessionRows place (statement.others d) = sessionRows place d

structure Respected (place : Place) (s : State) (e : Event) : Prop where
  alone : Alone place e.environment
  spares : s.Spares place e.action

structure Registered (place : Place) (s : State) : Prop where
  sound : s.lobby.Sound
  own : Own place s.serverConfig.toServerConfig
  held : (s.register place).Held

theorem stepRegistered (registered : s.Registered place) (respected : Respected place s e) :
    (s.step e).Registered place ∧
      Reaches Register.apply (Register.Allowed (AllAnswered e.environment)) (s.register place) ((s.step e).register place) := by
  have ready : Ready place (AllAnswered e.environment) (s.enter e.environment) :=
    ⟨registered.own,registered.held,fun statement mem => ⟨fun calm => calm statement mem,respected.alone statement mem⟩⟩
  obtain ⟨after,reaches⟩ := actBooks (s := s.enter e.environment) registered.sound respected.spares ready
  exact ⟨⟨stepSound registered.sound e,after.own,after.held⟩,reaches⟩

-- No row without a user is taken away, and none is left while every statement is answered.
def KeepsStranded (place : Place) (s : State) (e : Event) : Prop :=
  (s.register place).stranded ⊆ ((s.step e).register place).stranded ∧
    (AllAnswered e.environment → ((s.step e).register place).stranded = (s.register place).stranded)

theorem stepStranded (registered : s.Registered place) (respected : Respected place s e) : KeepsStranded place s e :=
  (Register.reachesStranded registered.held (stepRegistered registered respected).2).2

-- What `main` does before the threads run.
def boot (serverConfig : ChannelConfig) (database : Database) (environment : Environment) (time : Nat) : State :=
  let s := (start serverConfig database environment time).enter environment
  let s := s.exec (removeAllUserSessions serverConfig.place)
  let s := s.exec (removeAllUserTransfers serverConfig.place)
  s.exec (DatabaseManager.removeAllRooms serverConfig.place)

variable {serverConfig : ChannelConfig} {database : Database} {environment : Environment} {time : Nat}

theorem bootRegistered (own : Own place serverConfig.toServerConfig) : (boot serverConfig database environment time).Registered place where
  sound := Lobby.startSound
  own := own
  held := ⟨Multiset.nodup_zero,nofun⟩

theorem bootRows (calm : AllAnswered environment) (alone : Alone serverConfig.place environment) :
    sessionRows serverConfig.place (boot serverConfig database environment time).store.database = ∅ := by
  have expects : Expects (fun statement => statement.ok = true) (sessionRows serverConfig.place) ⟨database,environment.statements⟩ :=
    fun statement mem => ⟨calm statement mem,alone statement mem⟩
  obtain ⟨first,cleared⟩ := (removeAllUserSessionsClears serverConfig.place).expects (.execute fun _ => rfl) expects trivial
  have transfers : Leaves (fun statement => statement.ok = true) (sessionRows serverConfig.place) (removeAllUserTransfers serverConfig.place) :=
    .execute fun _ => rfl
  have rooms : Leaves (fun statement => statement.ok = true) (sessionRows serverConfig.place) (DatabaseManager.removeAllRooms serverConfig.place) :=
    .execute fun _ => rfl
  obtain ⟨second,same⟩ := transfers _ first
  refine (rooms _ second).2.trans (same.trans (cleared ?_))
  have runs := answersRun fun statement mem => (expects statement mem).1
  simp [removeAllUserSessions,execute,bind,StateT.bind,queryRuns runs,pureRuns]

theorem loadedOwn {inet_pton : Bytes → UInt32} {file : Option (Option Json)} {c : LoadedConfig}
    (loads : LoadedConfig.load inet_pton file = .loaded c) (usable : LoadedConfig.Usable c.channelConfig.toServerConfig) :
    Own c.place c.channelConfig.toServerConfig where
  placed := rfl
  numbered := usable.numbered
  shown channel found := by
    obtain ⟨config,-,right⟩ := LoadedConfig.loadRead loads
    have loaded := LoadedConfig.readLoaded right
    obtain ⟨servers,channels⟩ := loaded.numbered.mp usable.numbered
    have listed : (Listing.load c.place c.maxPlayers c.prohibitedNames (c.serverList.map LoadedConfig.toEntry) 0).config =
        c.channelConfig.toServerConfig :=
      congrArg (ServerConfig.mk c.place c.maxPlayers.toNat c.prohibitedNames) loaded.servers.symm
    rw [← listed] at found
    exact (Listing.loadEntry (loaded.fits servers channels) found).1.trans (decide_eq_true rfl)

-- No account is logged in twice, and each that is has its row. A row without a user is never taken
-- away, and comes about only where a statement is given up: as long as none is, the rows are the users.
theorem sessionTable {inet_pton : Bytes → UInt32} {file : Option (Option Json)} {c : LoadedConfig} {events : List Event}
    (loads : LoadedConfig.load inet_pton file = .loaded c) (usable : LoadedConfig.Usable c.channelConfig.toServerConfig)
    (alone : Alone c.place environment) (each : Each step (Respected c.place) (boot c.channelConfig database environment time) events) :
    Always step (fun s => (s.register c.place).Held) (boot c.channelConfig database environment time) events ∧
      Each step (KeepsStranded c.place) (boot c.channelConfig database environment time) events ∧
      (AllAnswered environment → (∀ e ∈ events, AllAnswered e.environment) →
        Always step (fun s => sessionRows c.place s.store.database = {userID | userID ∈ s.lobby.accounts})
          (boot c.channelConfig database environment time) events) := by
  have first : (boot c.channelConfig database environment time).Registered c.place := bootRegistered (loadedOwn loads usable)
  have registered : Always step (Registered c.place) (boot c.channelConfig database environment time) events :=
    alwaysOfEach (fun s e before respected => (stepRegistered before respected).1) first each
  refine ⟨alwaysMono (fun s before => before.held) registered,?_,fun calm calms => ?_⟩
  · exact eachOfEach (fun s e before respected => (stepRegistered before respected).1) (fun s e => stepStranded) first each
  · have none : ((boot c.channelConfig database environment time).register c.place).stranded = ∅ :=
      Set.subset_empty_iff.mp fun userID left => (bootRows calm alone).subset left.1
    have exact : Always step (fun s => s.Registered c.place ∧ (s.register c.place).stranded = ∅)
        (boot c.channelConfig database environment time) events := by
      refine alwaysOfEach (fun s e before meets => ⟨(stepRegistered before.1 meets.1).1,?_⟩) ⟨first,none⟩ (eachAlso each calms)
      exact ((stepStranded before.1 meets.1).2 meets.2).trans before.2
    exact alwaysMono (fun s before => before.1.held.exact before.2) exact

-- A new account logs in; when it leaves, the statement for its row is given up.
def leavesRow : List Event := newcomer ++ [⟨.disconnect 0 none,{ sampleEnvironment with statements := [⟨id,false⟩] }⟩]

def defaultBoot : State := boot LoadedConfig.defaultLoaded.channelConfig sampleTables sampleEnvironment 0

theorem sessionTableLeavesRow :
    Always step (fun s => (s.register ⟨1,1⟩).Held) defaultBoot leavesRow ∧
      Each step (KeepsStranded ⟨1,1⟩) defaultBoot leavesRow ∧
      (run step defaultBoot leavesRow).store.database.userSessions.entries = [⟨3,⟨1,1⟩⟩] ∧
      (run step defaultBoot leavesRow).lobby.users = [] := by
  have alone (environment : Environment) (others : ∀ statement ∈ environment.statements, statement.others = id) :
      Alone ⟨1,1⟩ environment := fun statement mem d => by rw [others statement mem]; rfl
  have plain : ∀ e ∈ leavesRow, Alone ⟨1,1⟩ e.environment ∧ ∀ buffer, e.action ≠ .serverDatagram buffer := by
    simp only [leavesRow,newcomer,List.mem_append,List.mem_cons,List.not_mem_nil,or_false]
    rintro e ((rfl | rfl | rfl) | rfl)
    · exact ⟨alone _ nofun,nofun⟩
    · exact ⟨alone _ nofun,nofun⟩
    · exact ⟨alone _ nofun,nofun⟩
    · exact ⟨alone _ (by simp),nofun⟩
  have each : Each step (Respected ⟨1,1⟩) defaultBoot leavesRow :=
    eachMono (fun s e meets => ⟨meets.2.1,fun buffer is => absurd is (meets.2.2 buffer)⟩) (eachAlso (eachTrue _ _) plain)
  obtain ⟨held,stranded,-⟩ := sessionTable LoadedConfig.loadDefault LoadedConfig.defaultUsable (alone sampleEnvironment nofun) each
  exact ⟨held,stranded,by decide +kernel,by decide +kernel⟩

end Runs

end State
end CsoMaster
