import CsoMaster.Message
import CsoMaster.SessionCluster

/-! The tables and `DatabaseManager`, one statement at a time. Before each statement the other
servers may have changed anything; a statement that fails has no effect. Rows hold their
columns as the program converts them; of `users`, which it only reads, there are its two
SELECTs. -/
namespace CsoMaster

structure UserRow where
  userID : UInt32
  password : Bytes
  deriving DecidableEq, Repr

structure QuickStartRow where
  gameModeID : UInt8
  mapID : UInt8
  levelLimit : UInt8
  clanBattle : UInt8
  deriving DecidableEq, Repr

structure TransferRow where
  userID : UInt32
  authToken : Bytes
  place : Place
  transferTime : Nat
  deriving DecidableEq, Repr

structure RoomRow where
  place : Place
  roomID : UInt16
  clanBattle : Bool
  isPassworded : Bool
  levelLimit : UInt8
  gameModeID : UInt8
  mapID : UInt8
  currentPlayers : UInt8
  maxPlayers : UInt8
  deriving DecidableEq, Repr

structure Database where
  userNamed : Bytes → Option UserRow
  userName : UInt32 → Option Bytes
  userCharacters : AList fun _ : UInt32 => UserCharacter
  userConfigs : AList fun _ : UInt32 => Bytes
  userQuickStarts : AList fun _ : UInt32 => QuickStartRow
  userBuyMenus : List (UInt32 × BuyMenu)
  userBookMarks : List (UInt32 × QueryText.BookMark)
  userInventory : List (UInt32 × InventoryItem)
  userSessions : UserSessions.Sessions
  userTransfers : List TransferRow
  rooms : List RoomRow

-- What happens at one `mysql_query`.
structure Statement where
  others : Database → Database
  ok : Bool

structure Store where
  database : Database
  statements : List Statement

-- The next statement is answered, not given up with an error.
def Store.runsNext (d : Store) : Bool :=
  match d.statements with
  | [] => true
  | statement :: _ => statement.ok

structure LoginResult where
  userID : UInt32
  reply : Packet_ReplyType
  deriving DecidableEq, Repr

structure TransferLoginResult where
  userID : UInt32
  userName : Bytes
  reply : Packet_ReplyType
  deriving DecidableEq, Repr

structure UserCharacterResult where
  userCharacter : UserCharacter
  result : Int
  deriving DecidableEq, Repr

def LIMIT_NEWBIE_LEVEL : UInt8 := 9
def BUYMENU_MAX_SLOT : UInt8 := 9
def DEFAULT_USER_QUICKSTART : UInt32 := 9900

abbrev Sql := StateM Store

namespace DatabaseManager
open UserSessions (AddUserSession)

-- `none` is a query error. Statements nothing is said about run undisturbed.
def query {α : Type} (run : Database → α × Database) : Sql (Option α) := fun d =>
  match d.statements with
  | [] => (some (run d.database).1,{ d with database := (run d.database).2 })
  | statement :: statements =>
    let database := statement.others d.database
    if statement.ok then (some (run database).1,⟨(run database).2,statements⟩)
    else (none,⟨database,statements⟩)

def select {α : Type} (read : Database → α) : Sql (Option α) := query fun database => (read database,database)

def execute (write : Database → Database) : Sql Bool := do
  return (← query fun database => ((),write database)).isSome

-- No statement that is left is given up with an error.
def Answers (d : Store) : Prop := ∀ statement ∈ d.statements, statement.ok = true

-- The database as the next statement finds it.
def answered (d : Store) : Store :=
  match d.statements with
  | [] => d
  | statement :: statements => ⟨statement.others d.database,statements⟩

-- A statement that is no SQL.
def rejected : Sql Bool := fun d => (false,answered d)

theorem pureRuns {α : Type} (a : α) (d : Store) : (pure a : Sql α) d = (a,d) := rfl

theorem answersNext {d : Store} (answers : Answers d) (database : Database) : Answers ⟨database,(answered d).statements⟩ := by
  intro statement mem
  unfold answered at mem
  split at mem
  · exact answers statement mem
  · rename_i first rest all
    exact answers statement (by rw [all]; exact List.mem_cons_of_mem first mem)

theorem queryRuns {α : Type} {d : Store} (runs : d.runsNext = true) (run : Database → α × Database) :
    query run d = (some (run (answered d).database).1,⟨(run (answered d).database).2,(answered d).statements⟩) := by
  obtain ⟨database,statements⟩ := d
  cases statements with
  | nil => rfl
  | cons statement statements =>
    have ok : statement.ok = true := runs
    simp [query,answered,ok]

theorem queryGivenUp {α : Type} {d : Store} (fails : d.runsNext = false) (run : Database → α × Database) :
    query run d = (none,answered d) := by
  obtain ⟨database,statements⟩ := d
  cases statements with
  | nil => cases fails
  | cons statement statements =>
    have failed : statement.ok = false := fails
    simp [query,answered,failed]

theorem answersRun {d : Store} (answers : Answers d) : d.runsNext = true := by
  unfold Store.runsNext
  split
  · rfl
  · rename_i statement rest all
    exact answers statement (by rw [all]; exact List.mem_cons_self)

theorem queryAnswered {α : Type} {d : Store} (answers : Answers d) (run : Database → α × Database) :
    query run d = (some (run (answered d).database).1,⟨(run (answered d).database).2,(answered d).statements⟩) :=
  queryRuns (answersRun answers) run

theorem executeRuns {d : Store} (runs : d.runsNext = true) (write : Database → Database) :
    ∃ database, (execute write d).2.database = write database := by
  obtain ⟨database,statements⟩ := d
  cases statements with
  | nil => exact ⟨database,rfl⟩
  | cons statement statements =>
    have ok : statement.ok = true := runs
    refine ⟨statement.others database,?_⟩
    simp [execute,query,ok,bind,StateT.bind,pureRuns]

theorem executed {d : Store} {write : Database → Database} (done : (execute write d).1 = true) : d.runsNext = true := by
  cases next : d.runsNext with
  | true => rfl
  | false => simp [execute,bind,StateT.bind,queryGivenUp next,pureRuns] at done

section Users

def login (bcrypt_checkpw : Bytes → Bytes → Int) (userName password : Bytes) : Sql LoginResult := do
  if userName = [] then return ⟨0,.InvalidName⟩
  if password = [] then return ⟨0,.InvalidPassword⟩
  match ← select (·.userNamed userName) with
  | none => return ⟨0,.SysError⟩
  | some none => return ⟨0,.NotExist⟩
  | some (some row) =>
    let ret := bcrypt_checkpw password row.password
    if ret = -1 then return ⟨0,.SysError⟩
    else if ret = 0 then return ⟨row.userID,.LoginSuccess⟩
    else return ⟨0,.WrongPassword⟩

def transferLogin (place : Place) (authToken : Bytes) : Sql TransferLoginResult := do
  if authToken = [] then return ⟨0,[],.INVALID_USERINFO⟩
  match ← select fun d => d.userTransfers.find? fun row => row.authToken = authToken ∧ row.place = place with
  | none => return ⟨0,[],.SysError⟩
  | some none => return ⟨0,[],.TRANSFER_ERR⟩
  | some (some row) =>
    match ← select (·.userName row.userID) with
    | none => return ⟨0,[],.SysError⟩
    | some none => return ⟨row.userID,[],.NotExist⟩
    | some (some userName) => return ⟨row.userID,userName,.LoginSuccess⟩

-- The primary key is `userID`; the row there is makes the INSERT a duplicate.
def addUserTransfer (userID : UInt32) (authToken : Bytes) (place : Place) (currentTime : Nat) : Sql Int := do
  let inserted ← query fun d =>
    if d.userTransfers.any (·.userID = userID) then (false,d)
    else (true,{ d with userTransfers := d.userTransfers ++ [⟨userID,authToken,place,currentTime⟩] })
  match inserted with
  | none => return -1
  | some false => return 0
  | some true => return 1

def removeUserTransfer (userID : UInt32) : Sql Bool :=
  execute fun d => { d with userTransfers := d.userTransfers.filter (·.userID ≠ userID) }

def removeOldUserTransfers (place : Place) (currentTime : Nat) : Sql Bool :=
  execute fun d => { d with
    userTransfers := d.userTransfers.filter fun row => ¬ (row.place = place ∧ row.transferTime + 60 < currentTime) }

def removeAllUserTransfers (place : Place) : Sql Bool :=
  execute fun d => { d with userTransfers := d.userTransfers.filter (·.place ≠ place) }

end Users

section Characters

def getUserCharacter (userID : UInt32) (flag : UInt16) : Sql UserCharacterResult := do
  match ← select (·.userCharacters.lookup userID) with
  | none => return ⟨{ (default : UserCharacter) with flag := flag },-1⟩
  | some none => return ⟨{ (default : UserCharacter) with flag := flag },0⟩
  | some (some row) => return ⟨row.select flag,1⟩

def createUserCharacter (userID : UInt32) (nickName : Bytes) : Sql Int := do
  match ← select fun d => d.userCharacters.entries.any fun row => row.2.nickName = nickName with
  | none => return -1
  | some true => return 0
  | some false =>
    let inserted ← query fun d =>
      if (d.userCharacters.lookup userID).isSome then (false,d)
      else
        let row := { (default : UserCharacter) with nickName := nickName, level := 1 }
        (true,{ d with userCharacters := d.userCharacters.insert userID row })
    return if inserted = some true then 1 else -1

-- What a new account starts with.
def defaultBookMarks : List QueryText.BookMark :=
  (List.range QueryText.BOOKMARK_MAX_SLOT.toNat).map fun slotID =>
    ⟨UInt8.ofNat slotID,[],0,false,0,false,0,false,false,false,false,0,0⟩

def defaultItems (defaultInventory : List UInt8) (now : UInt32) : List InventoryItem :=
  defaultInventory.zipIdx.map fun item => ⟨UInt8.ofNat (item.2 + 1),item.1,1,true,now,0⟩

-- The three tables that are filled once for an account. With no values the INSERT ends in `VALUE;`
-- and is rejected.
def createRows {α : Type} (present : Database → Bool) (values : List α) (insert : List α → Database → Database) :
    Sql Bool := do
  match ← select present with
  | none => return false
  | some true => return true
  | some false => if values.isEmpty then rejected else execute (insert values)

def createUserBuymenus (defaultBuyMenus : List BuyMenu) (userID : UInt32) : Sql Bool :=
  createRows (·.userBuyMenus.any (·.1 = userID)) defaultBuyMenus fun values d =>
    { d with userBuyMenus := d.userBuyMenus ++ values.map (userID,·) }

def createUserBookmarks (userID : UInt32) : Sql Bool :=
  createRows (·.userBookMarks.any (·.1 = userID)) defaultBookMarks fun values d =>
    { d with userBookMarks := d.userBookMarks ++ values.map (userID,·) }

def createUserInventory (defaultInventory : List UInt8) (now : UInt32) (userID : UInt32) : Sql Bool :=
  createRows (·.userInventory.any (·.1 = userID)) (defaultItems defaultInventory now) fun values d =>
    { d with userInventory := d.userInventory ++ values.map (userID,·) }

end Characters

section Settings

def saveUserConfig (userID : UInt32) (userConfig : Bytes) : Sql Bool :=
  execute fun d => { d with userConfigs := d.userConfigs.insert userID userConfig }

def getUserConfig (userID : UInt32) : Sql Bytes := do
  return ((← select (·.userConfigs.lookup userID)).join).getD []

def saveUserQuickStart (userID : UInt32) (userQuickStart : UInt32) : Sql Bool :=
  let gameModeID := (userQuickStart / 10000).toUInt8
  let mapID := ((userQuickStart - gameModeID.toUInt32 * 10000) / 100).toUInt8
  let levelLimit := ((userQuickStart - (gameModeID.toUInt32 * 10000 + mapID.toUInt32 * 100)) / 10).toUInt8
  let clanBattle := (userQuickStart -
    (gameModeID.toUInt32 * 10000 + mapID.toUInt32 * 100 + levelLimit.toUInt32 * 10)).toUInt8
  execute fun d => { d with
    userQuickStarts := d.userQuickStarts.insert userID ⟨gameModeID,mapID,levelLimit,clanBattle⟩ }

def getUserQuickStart (userID : UInt32) : Sql UInt32 := do
  match (← select (·.userQuickStarts.lookup userID)).join with
  | none => return DEFAULT_USER_QUICKSTART
  | some row =>
    return row.gameModeID.toUInt32 * 10000 + row.mapID.toUInt32 * 100 + row.levelLimit.toUInt32 * 10 +
      row.clanBattle.toUInt32

def saveUserBuyMenu (userID : UInt32) (categoryID slotID itemID : UInt8) : Sql Bool :=
  execute fun d => { d with
    userBuyMenus := d.userBuyMenus.map fun row =>
      if row.1 = userID ∧ row.2.categoryID = categoryID then
        (row.1,{ row.2 with items := row.2.items.set slotID.toNat itemID })
      else row }

def getUserBuyMenus (userID : UInt32) : Sql (List BuyMenu) := do
  return (← select fun d => (d.userBuyMenus.filter (·.1 = userID)).map Prod.snd).getD []

def saveUserBookMark (userID : UInt32) (userBookMark : QueryText.BookMark) : Sql Bool :=
  execute fun d => { d with
    userBookMarks := d.userBookMarks.map fun row =>
      if row.1 = userID ∧ row.2.slotID = userBookMark.slotID then (row.1,userBookMark) else row }

def getUserBookMarks (userID : UInt32) : Sql (List QueryText.BookMark) := do
  return (← select fun d => (d.userBookMarks.filter (·.1 = userID)).map Prod.snd).getD []

def getUserInventory (userID : UInt32) : Sql (List InventoryItem) := do
  return (← select fun d => (d.userInventory.filter (·.1 = userID)).map Prod.snd).getD []

end Settings

section Sessions

def sessionStatement (serverConfig : ServerConfig) (userID : UInt32) (call : AddUserSession) : Sql AddUserSession := do
  match call with
  | .done result => return .done result
  | pending =>
    let next ← query fun d =>
      let r := UserSessions.statement serverConfig userID true d.userSessions pending
      (r.2,{ d with userSessions := r.1 })
    return next.getD (.done (-1))

-- Three statements are the most it takes.
def addUserSession (serverConfig : ServerConfig) (userID : UInt32) : Sql Int := do
  let call ← sessionStatement serverConfig userID .select
  let call ← sessionStatement serverConfig userID call
  let call ← sessionStatement serverConfig userID call
  match call with
  | .done result => return result
  | _ => return -1

def Bounded (call : AddUserSession) : Prop := ∀ result, call = .done result → result ≤ 1

theorem statementBounded {call : AddUserSession} (bounded : Bounded call) (serverConfig : ServerConfig)
    (userID : UInt32) (sessions : UserSessions.Sessions) :
    Bounded (UserSessions.statement serverConfig userID true sessions call).2 := by
  have insert : Bounded (UserSessions.insertRow serverConfig userID sessions).2 := by
    unfold UserSessions.insertRow
    split <;> simp [Bounded]
  cases call with
  | done result => exact bounded
  | select =>
    simp only [UserSessions.statement,if_true]
    cases sessions.lookup userID with
    | none => simp [UserSessions.afterSelect,Bounded]
    | some row =>
      rw [UserSessions.afterSelectRow]
      split <;> simp [Bounded]
  | insert => exact insert
  | delete => simp [UserSessions.statement,Bounded]
  | insertAgain => exact insert

theorem sessionStatementBounded {call : AddUserSession} (bounded : Bounded call) (serverConfig : ServerConfig)
    (userID : UInt32) (d : Store) : Bounded (sessionStatement serverConfig userID call d).1 := by
  have failed : Bounded (.done (-1)) := by simp [Bounded]
  have ran (r : Option AddUserSession) (each : ∀ next ∈ r, Bounded next) : Bounded (r.getD (.done (-1))) := by
    cases r with
    | none => exact failed
    | some next => exact each next rfl
  unfold sessionStatement
  split
  · exact bounded
  · refine ran _ fun next answered => ?_
    split at answered
    · cases answered
      exact statementBounded bounded serverConfig userID _
    · dsimp only at answered
      split at answered
      · cases answered
        exact statementBounded bounded serverConfig userID _
      · cases answered

theorem addUserSessionBounded (serverConfig : ServerConfig) (userID : UInt32) (d : Store) :
    (addUserSession serverConfig userID d).1 ≤ 1 := by
  let first := sessionStatement serverConfig userID .select d
  let second := sessionStatement serverConfig userID first.1 first.2
  let third := sessionStatement serverConfig userID second.1 second.2
  have select : Bounded .select := by simp [Bounded]
  have bounded : Bounded third.1 :=
    sessionStatementBounded (sessionStatementBounded (sessionStatementBounded select serverConfig userID d)
      serverConfig userID first.2) serverConfig userID second.2
  have result : (addUserSession serverConfig userID d).1 =
      match third.1 with
      | .done result => result
      | _ => -1 := by
    change (StateT.run (match third.1 with
      | .done result => pure result
      | _ => pure (-1)) third.2 : Id (Int × Store)).1 = _
    cases third.1 <;> rfl
  rw [result]
  split
  · rename_i done
    exact bounded _ done
  · decide

def removeUserSession (userID : UInt32) : Sql Bool :=
  execute fun d => { d with userSessions := d.userSessions.erase userID }

theorem removeUserSessionErased {d : Store} (runs : d.runsNext = true) (userID : UInt32) :
    (removeUserSession userID d).2.database.userSessions.lookup userID = none := by
  obtain ⟨database,written⟩ := executeRuns runs fun d => { d with userSessions := d.userSessions.erase userID }
  unfold removeUserSession
  rw [written]
  exact AList.lookup_erase userID database.userSessions

def isUserSessionAdded (serverConfig : ServerConfig) (userID : UInt32) : Sql Int := do
  match ← select (·.userSessions.lookup userID) with
  | none => return -1
  | some row => return SessionCluster.isUserSessionAdded serverConfig row

def removeAllUserSessions (place : Place) : Sql Bool :=
  execute fun d => { d with
    userSessions := ⟨d.userSessions.entries.filter (·.2 ≠ place),d.userSessions.nodupKeys.sublist List.filter_sublist⟩ }

end Sessions

section Rooms

def RoomRow.at (row : RoomRow) (place : Place) (roomID : UInt16) : Bool :=
  row.place = place && row.roomID = roomID

def addRoom (row : RoomRow) : Sql Int := do
  match ← select fun d => d.rooms.any (RoomRow.at · row.place row.roomID) with
  | none => return -1
  | some true => return 0
  | some false => return if ← execute fun d => { d with rooms := d.rooms ++ [row] } then 1 else -1

def updateRoom (row : RoomRow) : Sql Bool :=
  execute fun d => { d with
    rooms := d.rooms.map fun old => if RoomRow.at old row.place row.roomID then row else old }

def removeRoom (place : Place) (roomID : UInt16) : Sql Bool :=
  execute fun d => { d with rooms := d.rooms.filter fun row => ¬ RoomRow.at row place roomID }

def removeAllRooms (place : Place) : Sql Bool :=
  execute fun d => { d with rooms := d.rooms.filter (·.place ≠ place) }

-- The rows the WHERE filter lets through.
def searchedRooms (place : Place) (gameModeID mapID levelLimit clanBattle : UInt8) (d : Database) : List RoomRow :=
  d.rooms.filter fun row =>
    row.place ≠ place ∧ ¬ row.isPassworded ∧ row.currentPlayers < row.maxPlayers ∧ row.levelLimit = levelLimit ∧
      (if row.clanBattle then 1 else 0) = clanBattle ∧ (gameModeID ≠ 99 → row.gameModeID = gameModeID) ∧
      (mapID ≠ 99 → row.mapID = mapID)

-- The row's server and channel where both indices are in bounds.
def listed (serverConfig : ServerConfig) (place : Place) : Option (Server × Channel) :=
  match serverConfig.serverList[(place.serverID - 1).toNat]? with
  | none => none
  | some server => (server.channels[(place.channelID - 1).toNat]?).map (server,·)

-- The last row that is good, or `none` where the loop indexes outside the lists.
def searchRows (serverConfig : ServerConfig) (level : UInt8) : SearchRoomResult → List RoomRow → Option SearchRoomResult
  | result, [] => some result
  | result, row :: rows =>
    match listed serverConfig row.place with
    | none => none
    | some (server,channel) =>
      if !channel.isOnline || server.type = .Newbie && level ≥ LIMIT_NEWBIE_LEVEL then
        searchRows serverConfig level result rows
      else searchRows serverConfig level ⟨row.place.serverID,row.place.channelID,row.roomID⟩ rows

def searchRoom (serverConfig : ServerConfig) (level gameModeID mapID levelLimit clanBattle : UInt8) :
    Sql (Option SearchRoomResult) := do
  match ← select (searchedRooms serverConfig.place gameModeID mapID levelLimit clanBattle) with
  | none => return some default
  | some rows => return searchRows serverConfig level default rows

end Rooms
end DatabaseManager
end CsoMaster
