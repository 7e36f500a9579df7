import CsoMaster.LoginHandlers

/-! A transfer from channel to channel: RequestTransfer writes a row of `user_transfers`, keyed by
`userID`, and TransferLogin on the other channel finds it by its token. Any number of channel
servers on one database, each with one handler at a time that runs its statements between those of
the others. `generated`, `issued` and `admitted` note what has happened to which token. -/
namespace CsoMaster.TransferTokens
open Runs
open UserSessions (AddUserSession)

-- A token with the account it was issued to and the channel it was issued for.
structure Ticket where
  authToken : Bytes
  userID : UInt32
  place : Place
  deriving DecidableEq, Repr

def ticket (row : TransferRow) : Ticket := ⟨row.authToken,row.userID,row.place⟩

-- Login and TransferLogin before one of their statements; TransferLogin has a token.
inductive Handler where
  | transferLogin (authToken : Bytes)
  | userName (authToken : Bytes) (userID : UInt32)
  | addUserSession (authToken : Option Bytes) (userID : UInt32) (call : AddUserSession)
  | removeUserTransfer (userID : UInt32)
  deriving DecidableEq, Repr

structure Outcome where
  database : Database
  added : Option UInt32
  rest : Option Handler

namespace Handler

-- `AddUser` up to its first statement.
def addUser (serverConfig : ServerConfig) (users : Nat) (authToken : Option Bytes) (userID : UInt32) : Option Handler :=
  if users ≥ serverConfig.maxPlayers then none else some (.addUserSession authToken userID .select)

def statement (serverConfig : ServerConfig) (users : Nat) (d : Database) : Handler → Outcome
  | .transferLogin authToken =>
    match d.userTransfers.find? fun row => row.authToken = authToken ∧ row.place = serverConfig.place with
    | none => ⟨d,none,none⟩
    | some row => ⟨d,none,some (.userName authToken row.userID)⟩
  | .userName authToken userID =>
    match d.userName userID with
    | none => ⟨d,none,none⟩
    | some _ => ⟨d,none,addUser serverConfig users (some authToken) userID⟩
  | .addUserSession authToken userID call =>
    let next := UserSessions.statement serverConfig userID true d.userSessions call
    let d := { d with userSessions := next.1 }
    match next.2 with
    | .done result => if result > 0 then ⟨d,some userID,some (.removeUserTransfer userID)⟩ else ⟨d,none,none⟩
    | more => ⟨d,none,some (.addUserSession authToken userID more)⟩
  | .removeUserTransfer userID =>
    ⟨{ d with userTransfers := d.userTransfers.filter (·.userID ≠ userID) },none,none⟩

-- The ticket a TransferLogin goes on with once it has found its row.
def ticket (place : Place) : Handler → Option Ticket
  | .userName authToken userID => some ⟨authToken,userID,place⟩
  | .addUserSession (some authToken) userID _ => some ⟨authToken,userID,place⟩
  | _ => none

end Handler

structure ChannelServer where
  serverList : List Server
  users : List UInt32
  handler : Option Handler

structure Cluster (ι : Type) where
  database : Database
  server : ι → ChannelServer
  generated : List Bytes
  issued : List Ticket
  admitted : List Ticket

variable {ι : Type} [DecidableEq ι]

inductive Event (ι : Type) where
  | heard (i : ι) (serverList : List Server)
  | requestTransfer (i : ι) (userID : UInt32) (authToken : Bytes) (destination : Place) (currentTime : Nat)
  | transferLogin (i : ι) (authToken : Bytes)
  | login (i : ι) (userID : UInt32)
  | statement (i : ι)
  | disconnect (i : ι) (userID : UInt32)
  | removeOldUserTransfers (i : ι) (currentTime : Nat)

section Step
variable (serverConfig : ι → ServerConfig)

def config (s : Cluster ι) (i : ι) : ServerConfig :=
  { serverConfig i with serverList := (s.server i).serverList }

def setServer (s : Cluster ι) (i : ι) (server : ChannelServer) : Cluster ι :=
  { s with server := Function.update s.server i server }

-- The INSERT of RequestTransfer; `userID` is the primary key.
def addUserTransfer (s : Cluster ι) (userID : UInt32) (authToken : Bytes) (destination : Place) (currentTime : Nat) : Cluster ι :=
  let s := { s with generated := authToken :: s.generated }
  if s.database.userTransfers.any (·.userID = userID) then s
  else { s with
    database := { s.database with
      userTransfers := s.database.userTransfers ++ [⟨userID,authToken,destination,currentTime⟩] }
    issued := ⟨authToken,userID,destination⟩ :: s.issued }

def runStatement (s : Cluster ι) (i : ι) (handler : Handler) : Cluster ι :=
  let server := s.server i
  let next := handler.statement (config serverConfig s i) server.users.length s.database
  let admitted := if next.added.isSome then (handler.ticket (serverConfig i).place).toList else []
  setServer { s with database := next.database, admitted := s.admitted ++ admitted } i
    { server with users := server.users ++ next.added.toList, handler := next.rest }

def begin (s : Cluster ι) (i : ι) (handler : Option Handler) : Cluster ι :=
  setServer s i { s.server i with handler := handler }

def step (s : Cluster ι) : Event ι → Cluster ι
  | .heard i serverList => setServer s i { s.server i with serverList := serverList }
  | .requestTransfer i userID authToken destination currentTime =>
    if (s.server i).handler.isNone ∧ userID ∈ (s.server i).users ∧ destination ≠ (serverConfig i).place ∧
        (config serverConfig s i).isOnline destination then
      addUserTransfer s userID authToken destination currentTime
    else s
  | .transferLogin i authToken =>
    if (s.server i).handler.isNone ∧ authToken ≠ [] then begin s i (some (.transferLogin authToken)) else s
  | .login i userID =>
    if (s.server i).handler.isNone then
      begin s i (Handler.addUser (config serverConfig s i) (s.server i).users.length none userID)
    else s
  | .statement i =>
    match (s.server i).handler with
    | none => s
    | some handler => runStatement serverConfig s i handler
  | .disconnect i userID =>
    if (s.server i).handler.isNone ∧ userID ∈ (s.server i).users then
      setServer { s with database := { s.database with userSessions := s.database.userSessions.erase userID } } i
        { s.server i with users := (s.server i).users.erase userID }
    else s
  | .removeOldUserTransfers i currentTime =>
    { s with database := { s.database with
      userTransfers := s.database.userTransfers.filter fun row =>
        ¬ (row.place = (serverConfig i).place ∧ row.transferTime + 60 < currentTime) } }

-- Tokens in the table count as generated and issued before.
def start (database : Database) (serverList : ι → List Server) : Cluster ι where
  database := database
  server i := ⟨serverList i,[],none⟩
  generated := database.userTransfers.map TransferRow.authToken
  issued := database.userTransfers.map ticket
  admitted := []

-- `bcrypt_gensalt` does not come up with a token a second time.
def Fresh (s : Cluster ι) : Event ι → Prop
  | .requestTransfer _ _ authToken _ _ => authToken ∉ s.generated
  | _ => True

end Step

-- What one statement can do to the table and the tickets.
inductive Effect (place : Place) (d : Database) (handler : Handler) : Outcome → Prop where
  | goes {database rest} (rows : database.userTransfers = d.userTransfers)
      (unfinished : ∀ userID, handler ≠ .removeUserTransfer userID)
      (holds : ∀ next ∈ rest, ∀ t ∈ next.ticket place, handler.ticket place = some t ∨ ∃ row ∈ d.userTransfers, ticket row = t) :
      Effect place d handler ⟨database,none,rest⟩
  | adds {database authToken userID call} (rows : database.userTransfers = d.userTransfers)
      (here : handler = .addUserSession authToken userID call) :
      Effect place d handler ⟨database,some userID,some (.removeUserTransfer userID)⟩
  | removes {userID} (here : handler = .removeUserTransfer userID) :
      Effect place d handler ⟨{ d with userTransfers := d.userTransfers.filter (·.userID ≠ userID) },none,none⟩

theorem statementEffect (c : ServerConfig) (users : Nat) (d : Database) (handler : Handler) :
    Effect c.place d handler (handler.statement c users d) := by
  cases handler with
  | transferLogin authToken =>
    simp only [Handler.statement]
    split
    · exact .goes rfl (by simp) (by simp)
    · rename_i row found
      obtain ⟨token,place⟩ : row.authToken = authToken ∧ row.place = c.place := by simpa using List.find?_some found
      refine .goes rfl (by simp) fun next same t holds => .inr ⟨row,List.mem_of_find?_eq_some found,?_⟩
      cases same
      cases holds
      exact congrArg₂ (fun token place => (⟨token,row.userID,place⟩ : Ticket)) token place
  | userName authToken userID =>
    simp only [Handler.statement,Handler.addUser]
    split
    · exact .goes rfl (by simp) (by simp)
    · refine .goes rfl (by simp) fun next same t holds => .inl ?_
      split at same
      · cases same
      · cases same
        exact holds
  | addUserSession authToken userID call =>
    simp only [Handler.statement]
    split
    · split
      · exact .adds rfl rfl
      · exact .goes rfl (by simp) (by simp)
    · refine .goes rfl (by simp) fun next same t holds => .inl ?_
      cases same
      cases authToken with
      | none => cases holds
      | some authToken => exact holds
  | removeUserTransfer userID => exact .removes rfl

/-! A token that has admitted a user is in no row any more once its server has run the DELETE, and
until then its server does nothing else. -/

structure Sound (serverConfig : ι → ServerConfig) (s : Cluster ι) : Prop where
  generated : ∀ t ∈ s.issued, t.authToken ∈ s.generated
  distinct : (s.issued.map Ticket.authToken).Nodup
  rows : ∀ row ∈ s.database.userTransfers, ticket row ∈ s.issued
  held : ∀ i, ∀ handler ∈ (s.server i).handler, ∀ t ∈ handler.ticket (serverConfig i).place,
    t ∈ s.issued ∧ t.authToken ∉ s.admitted.map Ticket.authToken
  used : ∀ t ∈ s.admitted, t ∈ s.issued
  spent : ∀ t ∈ s.admitted, (∀ row ∈ s.database.userTransfers, ticket row ≠ t) ∨
    ∃ i, (serverConfig i).place = t.place ∧ (s.server i).handler = some (.removeUserTransfer t.userID)
  once : (s.admitted.map Ticket.authToken).Nodup

section Proof
variable {serverConfig : ι → ServerConfig} {s : Cluster ι}

theorem serverSelf (s : Cluster ι) (i : ι) (server : ChannelServer) : (setServer s i server).server i = server := by
  simp [setServer]

theorem serverOther (s : Cluster ι) {i j : ι} (server : ChannelServer) (differs : j ≠ i) :
    (setServer s i server).server j = s.server j := by
  simp [setServer,differs]

omit [DecidableEq ι] in
theorem Sound.sameTicket (sound : Sound serverConfig s) {t other : Ticket} (issued : t ∈ s.issued) (also : other ∈ s.issued)
    (token : t.authToken = other.authToken) : t = other :=
  List.inj_on_of_nodup_map sound.distinct issued also token

theorem ticketPlace {place : Place} {handler : Handler} {t : Ticket} (holds : t ∈ handler.ticket place) : t.place = place := by
  cases handler with
  | transferLogin authToken => cases holds
  | userName authToken userID => exact congrArg Ticket.place (Option.some.inj holds).symm
  | addUserSession authToken userID call =>
    cases authToken with
    | none => cases holds
    | some authToken => exact congrArg Ticket.place (Option.some.inj holds).symm
  | removeUserTransfer userID => cases holds

-- A step of server `i` that issues nothing, admits nobody and finishes no DELETE unrun.
theorem Sound.change (sound : Sound serverConfig s) {i : ι} {server : ChannelServer} {database : Database}
    (fewer : ∀ row ∈ database.userTransfers, row ∈ s.database.userTransfers)
    (holds : ∀ handler ∈ server.handler, ∀ t ∈ handler.ticket (serverConfig i).place,
      t ∈ s.issued ∧ t.authToken ∉ s.admitted.map Ticket.authToken)
    (removes : ∀ userID, (s.server i).handler = some (.removeUserTransfer userID) →
      server.handler = some (.removeUserTransfer userID) ∨ ∀ row ∈ database.userTransfers, row.userID ≠ userID) :
    Sound serverConfig (setServer { s with database := database } i server) where
  generated := sound.generated
  distinct := sound.distinct
  rows row mem := sound.rows row (fewer row mem)
  held j handler here := by
    by_cases self : j = i
    · subst self
      rw [serverSelf] at here
      exact holds handler here
    · rw [serverOther _ _ self] at here
      exact sound.held j handler here
  used := sound.used
  spent t mem := by
    rcases sound.spent t mem with gone | ⟨j,place,here⟩
    · exact .inl fun row there => gone row (fewer row there)
    · by_cases self : j = i
      · subst self
        rcases removes _ here with still | gone
        · exact .inr ⟨j,place,by rw [serverSelf]; exact still⟩
        · exact .inl fun row there same => gone row there (same ▸ rfl)
      · exact .inr ⟨j,place,by rw [serverOther _ _ self]; exact here⟩
  once := sound.once

-- AddUser succeeds: the token is used, and its server is about to delete the row.
theorem Sound.admit (sound : Sound serverConfig s) (distinct : Function.Injective fun i => (serverConfig i).place) {i : ι}
    {authToken : Option Bytes} {userID : UInt32} {call : AddUserSession}
    (here : (s.server i).handler = some (.addUserSession authToken userID call)) {database : Database}
    (rows : database.userTransfers = s.database.userTransfers) (users : List UInt32) :
    Sound serverConfig (setServer { s with
      database := database
      admitted := s.admitted ++ ((Handler.addUserSession authToken userID call).ticket (serverConfig i).place).toList } i
      { s.server i with users := users, handler := some (.removeUserTransfer userID) }) := by
  have changed : Sound serverConfig (setServer { s with database := database } i
      { s.server i with users := users, handler := some (.removeUserTransfer userID) }) := by
    refine sound.change (by simp [rows]) (fun handler same t holds => ?_) fun other same => ?_
    · cases same
      cases holds
    · rw [here] at same
      cases same
  cases authToken with
  | none => simpa [Handler.ticket] using changed
  | some authToken =>
    obtain ⟨issued,unused⟩ := sound.held i _ here ⟨authToken,userID,(serverConfig i).place⟩ rfl
    simp only [Handler.ticket,Option.toList_some]
    refine ⟨changed.generated,changed.distinct,changed.rows,fun j handler now t holds => ?_,fun t mem => ?_,fun t mem => ?_,?_⟩
    · obtain ⟨still,apart⟩ := changed.held j handler now t holds
      refine ⟨still,fun mem => ?_⟩
      simp only [setServer,List.map_append,List.mem_append,List.map_singleton,List.mem_singleton] at mem
      rcases mem with before | same
      · exact apart before
      · obtain rfl := sound.sameTicket still issued same
        by_cases self : j = i
        · subst self
          rw [serverSelf] at now
          cases now
          cases holds
        · have place : (serverConfig i).place = (serverConfig j).place := ticketPlace holds
          exact self (distinct place.symm)
    · rcases List.mem_append.mp mem with before | now
      · exact changed.used t before
      · exact List.mem_singleton.mp now ▸ issued
    · rcases List.mem_append.mp mem with before | now
      · exact changed.spent t before
      · obtain rfl := List.mem_singleton.mp now
        exact .inr ⟨i,rfl,by simp [setServer]⟩
    · simp only [setServer,List.map_append,List.map_singleton]
      exact List.nodup_append.mpr ⟨sound.once,List.nodup_singleton _,fun x old y new same =>
        unused (List.mem_singleton.mp new ▸ same ▸ old)⟩

-- The INSERT of a token that has not been generated before.
omit [DecidableEq ι] in
theorem Sound.issue (sound : Sound serverConfig s) {authToken : Bytes} (fresh : authToken ∉ s.generated) (userID : UInt32)
    (destination : Place) (currentTime : Nat) :
    Sound serverConfig (addUserTransfer s userID authToken destination currentTime) := by
  have more : ∀ t ∈ s.issued, t.authToken ∈ authToken :: s.generated := fun t mem => List.mem_cons_of_mem _ (sound.generated t mem)
  simp only [addUserTransfer]
  split
  · exact { sound with generated := more }
  · refine ⟨fun t mem => ?_,?_,fun row mem => ?_,fun i handler here t holds => ?_,fun t mem => ?_,fun t mem => ?_,sound.once⟩
    · rcases List.mem_cons.mp mem with rfl | before
      · exact List.mem_cons_self
      · exact more t before
    · refine List.nodup_cons.mpr ⟨fun mem => ?_,sound.distinct⟩
      obtain ⟨t,before,same⟩ := List.mem_map.mp mem
      have token : t.authToken = authToken := same
      exact fresh (token ▸ sound.generated t before)
    · rcases List.mem_append.mp mem with before | now
      · exact List.mem_cons_of_mem _ (sound.rows row before)
      · rw [List.mem_singleton.mp now]
        exact List.mem_cons_self
    · obtain ⟨issued,unused⟩ := sound.held i handler here t holds
      exact ⟨List.mem_cons_of_mem _ issued,unused⟩
    · exact List.mem_cons_of_mem _ (sound.used t mem)
    · rcases sound.spent t mem with gone | unfinished
      · refine .inl fun row there same => ?_
        rcases List.mem_append.mp there with before | now
        · exact gone row before same
        · have token : authToken = t.authToken := congrArg Ticket.authToken (List.mem_singleton.mp now ▸ same)
          exact fresh (token ▸ sound.generated t (sound.used t mem))
      · exact .inr unfinished

theorem Sound.run (sound : Sound serverConfig s) (distinct : Function.Injective fun i => (serverConfig i).place) {i : ι}
    {handler : Handler} (here : (s.server i).handler = some handler) : Sound serverConfig (runStatement serverConfig s i handler) := by
  have effect : Effect (serverConfig i).place s.database handler
    (handler.statement (config serverConfig s i) (s.server i).users.length s.database) :=
    statementEffect (config serverConfig s i) _ _ _
  simp only [runStatement]
  generalize handler.statement (config serverConfig s i) (s.server i).users.length s.database = outcome at effect
  cases effect with
  | goes rows unfinished holds =>
    simp only [Option.isSome_none,Bool.false_eq_true,if_false,List.append_nil]
    refine sound.change (by simp [rows]) (fun next same t has => ?_) fun userID same => ?_
    · rcases holds next same t has with before | ⟨row,mem,rfl⟩
      · exact sound.held i handler here t before
      · refine ⟨sound.rows row mem,fun used => ?_⟩
        obtain ⟨other,admitted,token⟩ := List.mem_map.mp used
        obtain rfl := sound.sameTicket (sound.used other admitted) (sound.rows row mem) token
        rcases sound.spent _ admitted with gone | ⟨j,place,busy⟩
        · exact gone row mem rfl
        · obtain rfl := distinct (place.trans (ticketPlace has))
          exact unfinished _ (Option.some.inj (here.symm.trans busy))
    · exact absurd (Option.some.inj (here.symm.trans same)) (unfinished userID)
  | adds rows same =>
    subst same
    exact sound.admit distinct here rows _
  | removes same =>
    subst same
    simp only [Option.isSome_none,Bool.false_eq_true,if_false,List.append_nil]
    refine sound.change (fun row mem => (List.mem_filter.mp mem).1) (fun next same => by cases same) fun userID same => .inr ?_
    obtain rfl : _ = userID := Handler.removeUserTransfer.inj (Option.some.inj (here.symm.trans same))
    exact fun row mem => of_decide_eq_true (List.mem_filter.mp mem).2

theorem stepSound (distinct : Function.Injective fun i => (serverConfig i).place) (s : Cluster ι) (e : Event ι)
    (sound : Sound serverConfig s) (fresh : Fresh s e) : Sound serverConfig (step serverConfig s e) := by
  have begins (i : ι) (handler : Option Handler) (idle : (s.server i).handler.isNone)
      (holds : ∀ next ∈ handler, ∀ t, t ∉ next.ticket (serverConfig i).place) : Sound serverConfig (begin s i handler) := by
    refine sound.change (fun row (mem : row ∈ s.database.userTransfers) => mem)
      (fun next same t has => absurd has (holds next same t)) fun userID same => ?_
    rw [same] at idle
    cases idle
  cases e with
  | heard i serverList => exact sound.change (fun _ => id) (sound.held i) (fun _ => .inl)
  | requestTransfer i userID authToken destination currentTime =>
    simp only [step]
    split
    · exact sound.issue fresh userID destination currentTime
    · exact sound
  | transferLogin i authToken =>
    simp only [step]
    split
    · rename_i idle
      refine begins i _ idle.1 fun next same t holds => ?_
      cases same
      cases holds
    · exact sound
  | login i userID =>
    simp only [step]
    split
    · rename_i idle
      refine begins i _ idle fun next same t holds => ?_
      simp only [Handler.addUser] at same
      split at same <;> cases same
      cases holds
    · exact sound
  | statement i =>
    cases here : (s.server i).handler with
    | none => simpa only [step,here] using sound
    | some handler => simpa only [step,here] using sound.run distinct here
  | disconnect i userID =>
    simp only [step]
    split
    · exact sound.change (fun _ => id) (sound.held i) (fun _ => .inl)
    · exact sound
  | removeOldUserTransfers i currentTime =>
    have fewer : Sound serverConfig (setServer { s with database := { s.database with
        userTransfers := s.database.userTransfers.filter fun row =>
          ¬ (row.place = (serverConfig i).place ∧ row.transferTime + 60 < currentTime) } } i (s.server i)) :=
      sound.change (fun row mem => (List.mem_filter.mp mem).1) (sound.held i) (fun _ => .inl)
    simpa [setServer,step] using fewer

omit [DecidableEq ι] in
theorem startSound {database : Database} (tokens : (database.userTransfers.map TransferRow.authToken).Nodup)
    (serverList : ι → List Server) : Sound serverConfig (start database serverList) where
  generated t mem := by
    obtain ⟨row,here,rfl⟩ := List.mem_map.mp mem
    exact List.mem_map_of_mem here
  distinct := by
    rw [start,List.map_map]
    exact tokens
  rows _ mem := List.mem_map_of_mem mem
  held _ _ none := by cases none
  used _ none := by cases none
  spent _ none := by cases none
  once := List.nodup_nil

-- A token admits a user once at most: the one it was issued to, on the channel it was issued for.
theorem tokensSingleUse (distinct : Function.Injective fun i => (serverConfig i).place) {database : Database}
    (tokens : (database.userTransfers.map TransferRow.authToken).Nodup) (serverList : ι → List Server) {events : List (Event ι)}
    (fresh : Each (step serverConfig) Fresh (start database serverList) events) :
    let s := run (step serverConfig) (start database serverList) events
    (s.admitted.map Ticket.authToken).Nodup ∧
      ∀ t ∈ s.admitted, t ∈ s.issued ∧ ∀ other ∈ s.issued, other.authToken = t.authToken → other = t := by
  intro s
  have sound : Sound serverConfig s := runInvariant (stepSound distinct) (startSound tokens serverList) fresh
  exact ⟨sound.once,fun t mem => ⟨sound.used t mem,fun other issued => sound.sameTicket issued (sound.used t mem)⟩⟩

end Proof

-- Account 7 on channel 1, which lists channel 2 of the same server; every account has a name.
def accounts : Database where
  userNamed _ := none
  userName _ := some [65]
  userCharacters := ∅
  userConfigs := ∅
  userQuickStarts := ∅
  userBuyMenus := []
  userBookMarks := []
  userInventory := []
  userSessions := ∅
  userTransfers := []
  rooms := []

def someToken : Bytes := [36,50]

-- A login on channel 1, a token for channel 2, an attempt with it while still on channel 1, the
-- transfer, and a second use of the token.
def transferred : List (Event Bool) :=
  [.login true 7,.statement true,.statement true,.statement true,.requestTransfer true 7 someToken ⟨1,2⟩ 0,
    .transferLogin false someToken,.statement false,.statement false,.statement false,.disconnect true 7,
    .transferLogin false someToken,.statement false,.statement false,.statement false,.statement false,.statement false,
    .transferLogin false someToken,.statement false]

theorem somePairDistinct : Function.Injective fun first => (UserSessions.somePair first).place := by
  intro i j same
  revert same
  cases i <;> cases j <;> decide

theorem tokensSingleUseTransferred :
    let s := run (step UserSessions.somePair) (start accounts fun _ => (UserSessions.somePair true).serverList) transferred
    (s.admitted.map Ticket.authToken).Nodup ∧ s.admitted = [⟨someToken,7,⟨1,2⟩⟩] ∧
      ∀ t ∈ s.admitted, t ∈ s.issued ∧ ∀ other ∈ s.issued, other.authToken = t.authToken → other = t := by
  have tokens : (accounts.userTransfers.map TransferRow.authToken).Nodup := List.nodup_nil
  have fresh : Each (step UserSessions.somePair) Fresh (start accounts fun _ => (UserSessions.somePair true).serverList)
      transferred :=
    ⟨trivial,trivial,trivial,trivial,List.not_mem_nil,trivial,trivial,trivial,trivial,trivial,trivial,trivial,trivial,trivial,
      trivial,trivial,trivial,trivial,trivial⟩
  have used := tokensSingleUse somePairDistinct tokens _ fresh
  exact ⟨used.1,by decide +kernel,used.2⟩

/-! One server by itself: its handlers run these statements, each after what the others have done
before it. -/

section Alone
open DatabaseManager

def Handler.perform (serverConfig : ServerConfig) (users : Nat) : Nat → Handler → Sql Bool
  | 0, _ => pure false
  | n + 1, handler => do
    match ← query fun d => (handler.statement serverConfig users d,(handler.statement serverConfig users d).database) with
    | none => return false
    | some next =>
      match next.rest with
      | none => return next.added.isSome
      | some rest => return next.added.isSome || (← rest.perform serverConfig users n)

variable {d : Store} {c : ServerConfig} {users : Nat} {userID : UInt32}

theorem performNext (answers : Answers d) (handler : Handler) (n : Nat) :
    handler.perform c users (n + 1) d =
      let next := handler.statement c users (answered d).database
      match next.rest with
      | none => (next.added.isSome,⟨next.database,(answered d).statements⟩)
      | some rest =>
        let later := rest.perform c users n ⟨next.database,(answered d).statements⟩
        (next.added.isSome || later.1,later.2) := by
  simp only [Handler.perform,bind,StateT.bind,queryAnswered answers]
  cases (handler.statement c users (answered d).database).rest <;> rfl

-- What AddUser does once AddUserSession has answered.
def finish (userID : UInt32) (result : Int × Store) : Bool × Store :=
  if result.1 > 0 then (true,(removeUserTransfer userID result.2).2) else (false,result.2)

theorem performRemoval (answers : Answers d) (n : Nat) :
    (Handler.removeUserTransfer userID).perform c users (n + 1) d = (false,(removeUserTransfer userID d).2) := by
  rw [performNext answers]
  simp only [Handler.statement,removeUserTransfer,execute,bind,StateT.bind,queryAnswered answers]
  rfl

-- What is left of AddUserSession.
def sessionRest (c : ServerConfig) (userID : UInt32) : Nat → AddUserSession → Sql Int
  | _, .done result => return result
  | 0, _ => return -1
  | n + 1, call => do sessionRest c userID n (← sessionStatement c userID call)

theorem addUserSessionRest (c : ServerConfig) (userID : UInt32) : addUserSession c userID = sessionRest c userID 3 .select := by
  have done (result : Int) : sessionStatement c userID (.done result) = pure (.done result) := rfl
  have last (call : AddUserSession) : (match call with | .done result => pure result | _ => pure (-1) : Sql Int) =
      sessionRest c userID 0 call := by
    cases call <;> rfl
  refine congrArg (sessionStatement c userID .select >>= ·) (funext fun first => ?_)
  cases first with
  | done result => simp only [done,pure_bind,sessionRest]
  | _ =>
    refine congrArg (sessionStatement c userID _ >>= ·) (funext fun second => ?_)
    cases second with
    | done result => simp only [done,pure_bind,sessionRest]
    | _ => exact congrArg (sessionStatement c userID _ >>= ·) (funext last)

-- The statements a call has still to run, at most.
def remaining : AddUserSession → Nat
  | .select => 3
  | .delete => 2
  | .insert | .insertAgain => 1
  | .done _ => 0

theorem statementRemaining {call : AddUserSession} (sessions : UserSessions.Sessions) (undone : 0 < remaining call) :
    remaining (UserSessions.statement c userID true sessions call).2 < remaining call := by
  have inserts : remaining (UserSessions.insertRow c userID sessions).2 = 0 := by
    unfold UserSessions.insertRow
    split <;> rfl
  cases call with
  | done result => cases undone
  | select =>
    simp only [UserSessions.statement,if_true]
    cases sessions.lookup userID with
    | none => exact (by decide : 1 < 3)
    | some row =>
      rw [UserSessions.afterSelectRow]
      split <;> decide
  | delete => exact Nat.le_refl 2
  | insert => exact inserts ▸ Nat.zero_lt_one
  | insertAgain => exact inserts ▸ Nat.zero_lt_one

theorem sessionNext (answers : Answers d) {call : AddUserSession} (undone : 0 < remaining call) (n : Nat) :
    sessionRest c userID (n + 1) call d =
      let next := UserSessions.statement c userID true (answered d).database.userSessions call
      sessionRest c userID n next.2 ⟨{ (answered d).database with userSessions := next.1 },(answered d).statements⟩ := by
  cases call with
  | done result => cases undone
  | _ =>
    simp only [sessionRest,sessionStatement,bind,StateT.bind,queryAnswered answers]
    rfl

-- The rest of AddUser is AddUserSession's and, where that answers 1, the DELETE.
theorem performSession (authToken : Option Bytes) (n : Nat) {call : AddUserSession} (answers : Answers d)
    (undone : 0 < remaining call) (enough : remaining call ≤ n) :
    (Handler.addUserSession authToken userID call).perform c users (n + 1) d = finish userID (sessionRest c userID n call d) := by
  induction n generalizing call d with
  | zero => exact absurd (undone.trans_le enough) (Nat.lt_irrefl 0)
  | succ n ih =>
    have less : remaining (UserSessions.statement c userID true (answered d).database.userSessions call).2 < remaining call :=
      statementRemaining _ undone
    rw [performNext answers,sessionNext answers undone]
    simp only [Handler.statement]
    generalize UserSessions.statement c userID true (answered d).database.userSessions call = next at less
    obtain ⟨sessions,rest⟩ := next
    have later := answersNext answers { (answered d).database with userSessions := sessions }
    cases rest with
    | done result =>
      have ends (n : Nat) : sessionRest c userID n (.done result) = pure result := by cases n <;> rfl
      rw [ends]
      by_cases admitted : result > 0
      · simp only [if_pos admitted,performRemoval later,Option.isSome_some,Bool.true_or]
        exact (if_pos admitted).symm
      · simp only [if_neg admitted,Option.isSome_none]
        exact (if_neg admitted).symm
    | _ => exact ih later (by simp [remaining]) (Nat.le_of_lt_succ (less.trans_le enough))

end Alone

section Handlers
open DatabaseManager State
variable {s : State} {c : ConnectionRef}

theorem countKeepsStore (s : State) : s.updateChannelNumPlayers.store = s.store := by
  unfold updateChannelNumPlayers
  split <;> rfl

-- `AddUser` in a handler: whether the user is added, and the database after it.
theorem addNewUserPerforms (answers : Answers s.store) (userID : UInt32) (userName : Bytes) (authToken : Option Bytes) :
    ((s.addNewUser c userID userName).1.isSome,(s.addNewUser c userID userName).2.store) =
      match Handler.addUser s.serverConfig.toServerConfig s.lobby.users.length authToken userID with
      | none => (false,s.store)
      | some handler => handler.perform s.serverConfig.toServerConfig s.lobby.users.length 4 s.store := by
  unfold Handler.addUser
  simp only [State.addNewUser,State.addUser]
  by_cases full : s.lobby.users.length ≥ s.serverConfig.maxPlayers
  · simp only [if_pos full]
    rw [if_neg (by decide),if_pos trivial,sendStore]
    rfl
  · simp only [if_neg full]
    rw [performSession authToken 3 answers (by decide) (by decide),← addUserSessionRest]
    have bounded := addUserSessionBounded s.serverConfig.toServerConfig userID s.store
    have asked : s.sql (DatabaseManager.addUserSession s.serverConfig.toServerConfig userID) =
        ((addUserSession s.serverConfig.toServerConfig userID s.store).1,
          { s with store := (addUserSession s.serverConfig.toServerConfig userID s.store).2 }) := rfl
    have named : (User.new c userID userName).userID = userID := rfl
    rw [named,asked]
    generalize addUserSession s.serverConfig.toServerConfig userID s.store = result at bounded
    by_cases added : result.1 > 0
    · have few : ¬ result.1 = Packet_ReplyType.EXCEED_MAX_CONNECTION.code := fun same => absurd (same ▸ bounded) (by decide)
      simp only [finish,if_pos added,if_neg (Int.not_le.mpr added),if_neg few,countKeepsStore,Option.isSome_some]
      rfl
    · simp only [finish,if_neg added,if_pos (Int.not_lt.mp added),sendStore,Option.isSome_none]

theorem transferLoginAnswers {d : Store} (answers : Answers d) {authToken : Bytes} (token : authToken ≠ []) (place : Place) :
    DatabaseManager.transferLogin place authToken d =
      match (answered d).database.userTransfers.find? fun row => row.authToken = authToken ∧ row.place = place with
      | none => (⟨0,[],.TRANSFER_ERR⟩,answered d)
      | some row =>
        match (answered (answered d)).database.userName row.userID with
        | none => (⟨row.userID,[],.NotExist⟩,answered (answered d))
        | some userName => (⟨row.userID,userName,.LoginSuccess⟩,answered (answered d)) := by
  have later : Answers (answered d) := answersNext answers (answered d).database
  simp only [DatabaseManager.transferLogin,if_neg token,select,bind,StateT.bind,queryAnswered answers]
  cases (answered d).database.userTransfers.find? fun row => row.authToken = authToken ∧ row.place = place with
  | none => rfl
  | some row =>
    change StateT.bind (query _) _ (answered d) = _
    simp only [StateT.bind,queryAnswered later]
    cases (answered (answered d)).database.userName row.userID <;> rfl

-- TransferLogin from its first statement on.
theorem transferLoginPerforms (answers : Answers s.store) (new : (s.loggedIn c).isSome = false) {p : Packet}
    (token : p.readString.1 ≠ []) :
    ((s.transferLogin c p).1.isSome,(s.transferLogin c p).2.store) =
      (Handler.transferLogin p.readString.1).perform s.serverConfig.toServerConfig s.lobby.users.length 6 s.store := by
  have later : Answers (answered s.store) := answersNext answers (answered s.store).database
  unfold State.transferLogin
  rw [new,performNext answers]
  simp only [Bool.false_eq_true,if_false,sql,transferLoginAnswers answers token,Handler.statement]
  cases (answered s.store).database.userTransfers.find? fun row => row.authToken = p.readString.1 ∧ row.place = s.serverConfig.place with
  | none =>
    dsimp only
    rw [if_pos (by decide),sendStore]
    rfl
  | some row =>
    dsimp only
    rw [performNext later]
    simp only [Handler.statement]
    rcases Option.eq_none_or_eq_some ((answered (answered s.store)).database.userName row.userID) with absent | ⟨userName,named⟩
    · simp only [absent]
      rw [if_pos (by decide),sendStore]
      rfl
    · simp only [named]
      rw [if_neg (by decide)]
      have added := addNewUserPerforms (s := { s with store := answered (answered s.store) }) (c := c)
        (answersNext later (answered (answered s.store)).database) row.userID userName (some p.readString.1)
      rw [added]
      dsimp only
      cases Handler.addUser s.serverConfig.toServerConfig s.lobby.users.length (some p.readString.1) row.userID <;> rfl

-- The INSERT of RequestTransfer and the DELETE of the clean-up, as the cluster has them.
theorem addUserTransferWrites {ι : Type} {cluster : Cluster ι} {d : Store} (answers : Answers d)
    (here : cluster.database = (answered d).database) (userID : UInt32) (authToken : Bytes) (destination : Place) (currentTime : Nat) :
    let inserted := DatabaseManager.addUserTransfer userID authToken destination currentTime d
    let after := TransferTokens.addUserTransfer cluster userID authToken destination currentTime
    inserted.2.database = after.database ∧
      after.issued = if inserted.1 > 0 then ⟨authToken,userID,destination⟩ :: cluster.issued else cluster.issued := by
  simp only [DatabaseManager.addUserTransfer,TransferTokens.addUserTransfer,bind,StateT.bind,queryAnswered answers,here]
  cases (answered d).database.userTransfers.any (·.userID = userID) <;> exact ⟨rfl,rfl⟩

theorem removeOldWrites {d : Store} (answers : Answers d) (place : Place) (currentTime : Nat) :
    (removeOldUserTransfers place currentTime d).2.database = { (answered d).database with
      userTransfers := (answered d).database.userTransfers.filter fun row =>
        ¬ (row.place = place ∧ row.transferTime + 60 < currentTime) } := by
  simp only [removeOldUserTransfers,execute,bind,StateT.bind,queryAnswered answers]
  rfl

end Handlers

end CsoMaster.TransferTokens
