import CsoMaster.DatabaseManager

/-! The rows a place has in the rooms table: the queries that leave them alone, and what those of
`RoomManager` make of them. What is said of the rows holds where every statement runs and the
other servers keep to their own. -/
namespace CsoMaster

def roomRows (place : Place) (d : Database) : List RoomRow := d.rooms.filter (·.place = place)

def Statement.Spares (place : Place) (statement : Statement) : Prop :=
  statement.ok = true ∧ ∀ d, roomRows place (statement.others d) = roomRows place d

-- All statements that are left run, and find the rows of the place as it left them.
def Store.Spared (place : Place) (d : Store) : Prop := ∀ statement ∈ d.statements, statement.Spares place

namespace DatabaseManager

section Query
variable {α β : Type} {place : Place} {d : Store}

theorem querySpared (spared : d.Spared place) (run : Database → α × Database) :
    ∃ database, roomRows place database = roomRows place d.database ∧
      (query run d).1 = some (run database).1 ∧ (query run d).2.database = (run database).2 ∧
        (query run d).2.Spared place := by
  obtain ⟨database,statements⟩ := d
  cases statements with
  | nil => exact ⟨database,rfl,rfl,rfl,spared⟩
  | cons statement statements =>
    obtain ⟨ok,others⟩ := spared statement List.mem_cons_self
    refine ⟨statement.others database,others database,?_,?_,?_⟩
    · simp [query,ok]
    · simp [query,ok]
    · simp only [query,ok,if_true]
      exact fun later mem => spared later (List.mem_cons_of_mem statement mem)

-- A query after which the rows of every place are as before.
def Roomless (q : Sql α) : Prop :=
  ∀ (place : Place) (d : Store), d.Spared place →
    (q d).2.Spared place ∧ roomRows place (q d).2.database = roomRows place d.database

theorem Roomless.pure (a : α) : Roomless (pure a : Sql α) := fun _ _ spared => ⟨spared,rfl⟩

theorem Roomless.bind {q : Sql α} {f : α → Sql β} (first : Roomless q) (rest : ∀ a, Roomless (f a)) :
    Roomless (q >>= f) := by
  intro place d spared
  obtain ⟨still,same⟩ := first place d spared
  obtain ⟨spared,rows⟩ := rest (q d).1 place (q d).2 still
  exact ⟨spared,rows.trans same⟩

theorem queryRoomless {run : Database → α × Database} (keeps : ∀ d, (run d).2.rooms = d.rooms) :
    Roomless (query run) := by
  intro place d spared
  obtain ⟨database,same,-,after,still⟩ := querySpared spared run
  refine ⟨still,?_⟩
  rw [after,← same,roomRows,keeps]
  rfl

theorem selectRoomless (read : Database → α) : Roomless (select read) := queryRoomless fun _ => rfl

theorem executeRoomless {write : Database → Database} (keeps : ∀ d, (write d).rooms = d.rooms) :
    Roomless (execute write) :=
  .bind (queryRoomless keeps) fun _ => .pure _

theorem rejectedRoomless : Roomless rejected := by
  intro place d spared
  obtain ⟨database,statements⟩ := d
  cases statements with
  | nil => exact ⟨spared,rfl⟩
  | cons statement statements =>
    exact ⟨fun later mem => spared later (List.mem_cons_of_mem statement mem),(spared statement List.mem_cons_self).2 database⟩

end Query

section Roomless
variable (userID : UInt32)

theorem loginRoomless (bcrypt_checkpw : Bytes → Bytes → Int) (userName password : Bytes) :
    Roomless (login bcrypt_checkpw userName password) := by
  unfold login
  split
  · exact .pure _
  · split
    · exact .pure _
    · refine .bind (selectRoomless _) fun found => ?_
      split
      · exact .pure _
      · exact .pure _
      · dsimp only
        split
        · exact .pure _
        · split <;> exact .pure _

theorem transferLoginRoomless (place : Place) (authToken : Bytes) : Roomless (transferLogin place authToken) := by
  unfold transferLogin
  split
  · exact .pure _
  · refine .bind (selectRoomless _) fun found => ?_
    split
    · exact .pure _
    · exact .pure _
    · refine .bind (selectRoomless _) fun named => ?_
      split <;> exact .pure _

theorem addUserTransferRoomless (authToken : Bytes) (place : Place) (currentTime : Nat) :
    Roomless (addUserTransfer userID authToken place currentTime) := by
  unfold addUserTransfer
  refine .bind (queryRoomless fun d => ?_) fun inserted => ?_
  · split <;> rfl
  · split <;> exact .pure _

theorem removeUserTransferRoomless : Roomless (removeUserTransfer userID) := executeRoomless fun _ => rfl

theorem removeOldUserTransfersRoomless (place : Place) (currentTime : Nat) :
    Roomless (removeOldUserTransfers place currentTime) :=
  executeRoomless fun _ => rfl

theorem getUserCharacterRoomless (flag : UInt16) : Roomless (getUserCharacter userID flag) := by
  unfold getUserCharacter
  refine .bind (selectRoomless _) fun found => ?_
  split <;> exact .pure _

theorem createUserCharacterRoomless (nickName : Bytes) : Roomless (createUserCharacter userID nickName) := by
  unfold createUserCharacter
  refine .bind (selectRoomless _) fun found => ?_
  split
  · exact .pure _
  · exact .pure _
  · refine .bind (queryRoomless fun d => ?_) fun inserted => .pure _
    dsimp only
    split <;> rfl

theorem createRowsRoomless {α : Type} (present : Database → Bool) (values : List α)
    {insert : List α → Database → Database} (keeps : ∀ d, (insert values d).rooms = d.rooms) :
    Roomless (createRows present values insert) := by
  unfold createRows
  refine .bind (selectRoomless _) fun found => ?_
  split
  · exact .pure _
  · exact .pure _
  · split
    · exact rejectedRoomless
    · exact executeRoomless keeps

theorem createUserBuymenusRoomless (defaultBuyMenus : List BuyMenu) :
    Roomless (createUserBuymenus defaultBuyMenus userID) :=
  createRowsRoomless _ _ fun _ => rfl

theorem createUserBookmarksRoomless : Roomless (createUserBookmarks userID) := createRowsRoomless _ _ fun _ => rfl

theorem createUserInventoryRoomless (defaultInventory : List UInt8) (now : UInt32) :
    Roomless (createUserInventory defaultInventory now userID) :=
  createRowsRoomless _ _ fun _ => rfl

theorem getUserConfigRoomless : Roomless (getUserConfig userID) := .bind (selectRoomless _) fun _ => .pure _

theorem getUserQuickStartRoomless : Roomless (getUserQuickStart userID) := by
  refine .bind (selectRoomless _) fun found => ?_
  split <;> exact .pure _

theorem getUserBuyMenusRoomless : Roomless (getUserBuyMenus userID) := .bind (selectRoomless _) fun _ => .pure _

theorem getUserBookMarksRoomless : Roomless (getUserBookMarks userID) := .bind (selectRoomless _) fun _ => .pure _

theorem getUserInventoryRoomless : Roomless (getUserInventory userID) := .bind (selectRoomless _) fun _ => .pure _

theorem saveUserConfigRoomless (userConfig : Bytes) : Roomless (saveUserConfig userID userConfig) :=
  executeRoomless fun _ => rfl

theorem saveUserQuickStartRoomless (userQuickStart : UInt32) : Roomless (saveUserQuickStart userID userQuickStart) :=
  executeRoomless fun _ => rfl

theorem saveUserBuyMenuRoomless (categoryID slotID itemID : UInt8) :
    Roomless (saveUserBuyMenu userID categoryID slotID itemID) :=
  executeRoomless fun _ => rfl

theorem saveUserBookMarkRoomless (userBookMark : QueryText.BookMark) :
    Roomless (saveUserBookMark userID userBookMark) :=
  executeRoomless fun _ => rfl

theorem sessionStatementRoomless (serverConfig : ServerConfig) (call : UserSessions.AddUserSession) :
    Roomless (sessionStatement serverConfig userID call) := by
  unfold sessionStatement
  split
  · exact .pure _
  · exact .bind (queryRoomless fun _ => rfl) fun _ => .pure _

theorem addUserSessionRoomless (serverConfig : ServerConfig) : Roomless (addUserSession serverConfig userID) := by
  unfold addUserSession
  refine .bind (sessionStatementRoomless userID serverConfig _) fun _ =>
    .bind (sessionStatementRoomless userID serverConfig _) fun _ =>
      .bind (sessionStatementRoomless userID serverConfig _) fun last => ?_
  split <;> exact .pure _

theorem removeUserSessionRoomless : Roomless (removeUserSession userID) := executeRoomless fun _ => rfl

theorem isUserSessionAddedRoomless (serverConfig : ServerConfig) :
    Roomless (isUserSessionAdded serverConfig userID) := by
  unfold isUserSessionAdded
  refine .bind (selectRoomless _) fun found => ?_
  split <;> exact .pure _

theorem searchRoomRoomless (serverConfig : ServerConfig) (level gameModeID mapID levelLimit clanBattle : UInt8) :
    Roomless (searchRoom serverConfig level gameModeID mapID levelLimit clanBattle) := by
  unfold searchRoom
  refine .bind (selectRoomless _) fun found => ?_
  split <;> exact .pure _

end Roomless

section Rooms
variable {place : Place} {d : Store}

theorem selectSpared {α : Type} (spared : d.Spared place) (read : Database → α) :
    ∃ database, roomRows place database = roomRows place d.database ∧ (select read d).1 = some (read database) ∧
      (select read d).2.database = database ∧ (select read d).2.Spared place :=
  querySpared spared fun database => (read database,database)

theorem executeSpared (spared : d.Spared place) (write : Database → Database) :
    ∃ database, roomRows place database = roomRows place d.database ∧ (execute write d).1 = true ∧
      (execute write d).2.database = write database ∧ (execute write d).2.Spared place := by
  obtain ⟨database,same,answer,after,still⟩ := querySpared spared fun database => ((),write database)
  exact ⟨database,same,congrArg Option.isSome answer,after,still⟩

theorem addRoomRows (spared : d.Spared place) {row : RoomRow} (own : row.place = place)
    (free : ∀ old ∈ roomRows place d.database, old.roomID ≠ row.roomID) :
    (addRoom row d).1 = 1 ∧ (addRoom row d).2.Spared place ∧
      roomRows place (addRoom row d).2.database = roomRows place d.database ++ [row] := by
  obtain ⟨first,same,answer,read,still⟩ := selectSpared spared fun d => d.rooms.any (RoomRow.at · row.place row.roomID)
  obtain ⟨second,kept,written,after,spared⟩ := executeSpared still fun d => { d with rooms := d.rooms ++ [row] }
  have none : first.rooms.any (RoomRow.at · row.place row.roomID) = false := by
    refine List.any_eq_false.mpr fun old mem taken => ?_
    obtain ⟨here,named⟩ : old.place = row.place ∧ old.roomID = row.roomID := by simpa [RoomRow.at] using taken
    refine free old ?_ named
    rw [← same]
    exact List.mem_filter.mpr ⟨mem,by simpa using here.trans own⟩
  have rows : roomRows place { second with rooms := second.rooms ++ [row] } = roomRows place d.database ++ [row] := by
    rw [roomRows,List.filter_append,List.filter_cons_of_pos (by simpa using own),List.filter_nil,← same,← read,← kept]
    rfl
  rw [none] at answer
  rcases asked : select (fun d => d.rooms.any (RoomRow.at · row.place row.roomID)) d with ⟨found,store⟩
  rw [asked] at answer written after spared
  obtain rfl : found = some false := answer
  rcases inserted : execute (fun d => { d with rooms := d.rooms ++ [row] }) store with ⟨done,last⟩
  rw [inserted] at written after spared
  obtain rfl : done = true := written
  have ran : addRoom row d = (1,last) := by
    simp [addRoom,bind,StateT.bind,asked,inserted,pureRuns]
  rw [ran]
  exact ⟨rfl,spared,by rw [after]; exact rows⟩

theorem updateRoomRows (spared : d.Spared place) {row : RoomRow} (own : row.place = place) :
    (updateRoom row d).2.Spared place ∧ roomRows place (updateRoom row d).2.database =
      (roomRows place d.database).map fun old => if old.roomID = row.roomID then row else old := by
  obtain ⟨database,same,-,after,still⟩ := executeSpared spared fun d => { d with
    rooms := d.rooms.map fun old => if RoomRow.at old row.place row.roomID then row else old }
  have each (rows : List RoomRow) :
      (rows.map fun old => if RoomRow.at old row.place row.roomID then row else old).filter (·.place = place) =
        (rows.filter (·.place = place)).map fun old => if old.roomID = row.roomID then row else old := by
    induction rows with
    | nil => rfl
    | cons old rows ih =>
      rw [List.map_cons]
      by_cases here : old.place = place
      · rw [List.filter_cons_of_pos (l := rows) (by simpa using here),List.map_cons,← ih]
        by_cases named : old.roomID = row.roomID
        · rw [if_pos (by simp [RoomRow.at,here,named,own]),if_pos named,List.filter_cons_of_pos (by simpa using own)]
        · rw [if_neg (by simp [RoomRow.at,named]),if_neg named,List.filter_cons_of_pos (by simpa using here)]
      · rw [if_neg (by simp [RoomRow.at,here,own]),List.filter_cons_of_neg (by simpa using here),ih,
          List.filter_cons_of_neg (by simpa using here)]
  exact ⟨still,by rw [updateRoom,after,← same]; exact each database.rooms⟩

theorem removeRoomRows (spared : d.Spared place) (roomID : UInt16) :
    (removeRoom place roomID d).2.Spared place ∧ roomRows place (removeRoom place roomID d).2.database =
      (roomRows place d.database).filter (·.roomID ≠ roomID) := by
  obtain ⟨database,same,-,after,still⟩ := executeSpared spared fun d => { d with
    rooms := d.rooms.filter fun row => ¬ RoomRow.at row place roomID }
  refine ⟨still,?_⟩
  rw [removeRoom,after,← same,roomRows,roomRows,List.filter_filter,List.filter_filter]
  refine List.filter_congr fun row _ => ?_
  by_cases here : row.place = place <;> simp [RoomRow.at,here]

theorem removeAllRoomsRows (spared : d.Spared place) :
    (removeAllRooms place d).2.Spared place ∧ roomRows place (removeAllRooms place d).2.database = [] := by
  obtain ⟨database,same,-,after,still⟩ := executeSpared spared fun d => { d with
    rooms := d.rooms.filter (·.place ≠ place) }
  refine ⟨still,?_⟩
  rw [removeAllRooms,after,roomRows,List.filter_filter]
  simp

end Rooms
end DatabaseManager
end CsoMaster
