import CsoMaster.CharacterCreation
import CsoMaster.StepTraces

/-! What a query cannot reach. `Leaves` is a query that leaves the part of the tables in view as it
is, and of the statements to come only takes some away: whatever is known of all of them is known
of those that are left. It is shown once for each call, for every view that does not show the
tables the call writes. -/
namespace CsoMaster.DatabaseManager

section Leaves
variable {α β ω : Type} {p : Statement → Prop} {view : Database → ω}

-- The statements to come are of a kind, and the other servers leave alone what is in view.
def Expects (p : Statement → Prop) (view : Database → ω) (d : Store) : Prop :=
  ∀ statement ∈ d.statements, p statement ∧ ∀ database, view (statement.others database) = view database

def Leaves (p : Statement → Prop) (view : Database → ω) (q : Sql α) : Prop :=
  ∀ d, Expects p view d → Expects p view (q d).2 ∧ view (q d).2.database = view d.database

theorem answeredExpects {d : Store} (expects : Expects p view d) :
    Expects p view (answered d) ∧ view (answered d).database = view d.database := by
  obtain ⟨database,statements⟩ := d
  cases statements with
  | nil => exact ⟨expects,rfl⟩
  | cons statement statements =>
    exact ⟨fun later mem => expects later (List.mem_cons_of_mem statement mem),(expects statement List.mem_cons_self).2 database⟩

theorem Leaves.pure (a : α) : Leaves p view (pure a : Sql α) := fun _ expects => ⟨expects,rfl⟩

theorem Leaves.bind {q : Sql α} {f : α → Sql β} (first : Leaves p view q) (rest : ∀ a, Leaves p view (f a)) :
    Leaves p view (q >>= f) := by
  intro d expects
  obtain ⟨still,same⟩ := first d expects
  obtain ⟨last,more⟩ := rest (q d).1 (q d).2 still
  exact ⟨last,more.trans same⟩

theorem Leaves.query {run : Database → α × Database} (keeps : ∀ d, view (run d).2 = view d) : Leaves p view (query run) := by
  intro d expects
  obtain ⟨still,same⟩ := answeredExpects expects
  cases next : d.runsNext with
  | false =>
    rw [queryGivenUp next]
    exact ⟨still,same⟩
  | true =>
    rw [queryRuns next]
    exact ⟨still,(keeps _).trans same⟩

theorem Leaves.select (read : Database → α) : Leaves p view (select read) := .query fun _ => rfl

theorem Leaves.execute {write : Database → Database} (keeps : ∀ d, view (write d) = view d) : Leaves p view (execute write) :=
  .bind (.query keeps) fun _ => .pure _

theorem Leaves.rejected : Leaves p view rejected := fun _ expects => answeredExpects expects

theorem Leaves.reads {read : Database → α} {f : Option α → Sql β} (rest : ∀ found, ∃ b, f found = Pure.pure b) :
    Leaves p view (DatabaseManager.select read >>= f) := by
  refine .bind (.select read) fun found => ?_
  obtain ⟨b,same⟩ := rest found
  rw [same]
  exact .pure b

theorem Leaves.createRows {present : Database → Bool} {values : List α} {insert : List α → Database → Database}
    (keeps : ∀ d, view (insert values d) = view d) : Leaves p view (createRows present values insert) := by
  refine .bind (.select present) fun found => ?_
  match found with
  | none => exact .pure false
  | some true => exact .pure true
  | some false =>
    dsimp only
    split
    · exact .rejected
    · exact .execute keeps

theorem Leaves.triple {q : Sql α} {P : ω → Prop} (leaves : Leaves (fun _ => True) view q) : Triple view P q fun _ => P := by
  intro d undisturbed before
  obtain ⟨still,same⟩ := leaves d fun statement mem => ⟨trivial,undisturbed statement mem⟩
  exact ⟨fun statement mem => (still statement mem).2,same.symm ▸ before⟩

-- A query that changes what is in view still only takes statements away.
theorem Triple.expects {q : Sql α} {P : ω → Prop} {Q : α → ω → Prop} (triple : Triple view P q Q) (leaves : Leaves p (fun _ => ()) q)
    {d : Store} (expects : Expects p view d) (before : P (view d.database)) :
    Expects p view (q d).2 ∧ Q (q d).1 (view (q d).2.database) := by
  obtain ⟨undisturbed,after⟩ := triple d (fun statement mem => (expects statement mem).2) before
  obtain ⟨kind,-⟩ := leaves d fun statement mem => ⟨(expects statement mem).1,fun _ => rfl⟩
  exact ⟨fun statement mem => ⟨(kind statement mem).1,undisturbed statement mem⟩,after⟩

end Leaves

-- The rooms and the transfers are in no view of an account.
section Routines
variable {ω : Type} {p : Statement → Prop} {view : Database → ω}

structure Personal (view : Database → ω) : Prop where
  transfers : ∀ (d : Database) rows, view { d with userTransfers := rows } = view d
  rooms : ∀ (d : Database) rows, view { d with rooms := rows } = view d

theorem loginLeaves (bcrypt_checkpw : Bytes → Bytes → Int) (userName password : Bytes) :
    Leaves p view (login bcrypt_checkpw userName password) := by
  unfold login
  split
  · exact .pure _
  · split
    · exact .pure _
    · refine .reads fun found => ?_
      rcases found with _ | _ | row
      · exact ⟨_,rfl⟩
      · exact ⟨_,rfl⟩
      · dsimp only
        repeat' split
        all_goals exact ⟨_,rfl⟩

theorem transferLoginLeaves (place : Place) (authToken : Bytes) : Leaves p view (transferLogin place authToken) := by
  unfold transferLogin
  split
  · exact .pure _
  · refine .bind (.select _) fun found => ?_
    rcases found with _ | _ | row
    · exact .pure _
    · exact .pure _
    · refine .reads fun named => ?_
      rcases named with _ | _ | userName
      · exact ⟨_,rfl⟩
      · exact ⟨_,rfl⟩
      · exact ⟨_,rfl⟩

theorem getUserCharacterLeaves (userID : UInt32) (flag : UInt16) : Leaves p view (getUserCharacter userID flag) := by
  refine .reads fun found => ?_
  rcases found with _ | _ | row
  · exact ⟨_,rfl⟩
  · exact ⟨_,rfl⟩
  · exact ⟨_,rfl⟩

theorem getUserQuickStartLeaves (userID : UInt32) : Leaves p view (getUserQuickStart userID) := by
  refine .reads fun found => ?_
  split
  · exact ⟨_,rfl⟩
  · exact ⟨_,rfl⟩

theorem addUserTransferLeaves (personal : Personal view) (userID : UInt32) (authToken : Bytes) (place : Place) (currentTime : Nat) :
    Leaves p view (addUserTransfer userID authToken place currentTime) := by
  refine .bind (.query fun d => ?_) fun inserted => ?_
  · split
    · rfl
    · exact personal.transfers d _
  · rcases inserted with _ | _ | _ <;> exact .pure _

theorem addRoomLeaves (personal : Personal view) (row : RoomRow) : Leaves p view (addRoom row) := by
  refine .bind (.select _) fun found => ?_
  rcases found with _ | _ | _
  · exact .pure _
  · exact .bind (.execute fun d => personal.rooms d _) fun done => by cases done <;> exact .pure _
  · exact .pure _

theorem routineLeaves (personal : Personal view) (routine : Routine) : Leaves p view routine.query.2 := by
  cases routine with
  | login bcrypt_checkpw userName password => exact loginLeaves bcrypt_checkpw userName password
  | transferLogin place authToken => exact transferLoginLeaves place authToken
  | getUserCharacter userID flag => exact getUserCharacterLeaves userID flag
  | getUserConfig userID => exact .reads fun _ => ⟨_,rfl⟩
  | getUserQuickStart userID => exact getUserQuickStartLeaves userID
  | getUserBuyMenus userID => exact .reads fun _ => ⟨_,rfl⟩
  | getUserBookMarks userID => exact .reads fun _ => ⟨_,rfl⟩
  | getUserInventory userID => exact .reads fun _ => ⟨_,rfl⟩
  | isUserSessionAdded serverConfig userID => exact .reads fun found => by cases found <;> exact ⟨_,rfl⟩
  | searchRoom serverConfig level gameModeID mapID levelLimit clanBattle =>
    exact .reads fun found => by cases found <;> exact ⟨_,rfl⟩
  | addUserTransfer userID authToken place currentTime => exact addUserTransferLeaves personal userID authToken place currentTime
  | removeUserTransfer userID => exact .execute fun d => personal.transfers d _
  | removeOldUserTransfers place currentTime => exact .execute fun d => personal.transfers d _
  | addRoom row => exact addRoomLeaves personal row
  | updateRoom row => exact .execute fun d => personal.rooms d _
  | removeRoom place roomID => exact .execute fun d => personal.rooms d _
  | removeAllRooms place => exact .execute fun d => personal.rooms d _

-- What is taken in and let go shows in the sessions alone.
theorem sessionStatementLeaves (unseen : ∀ (d : Database) rows, view { d with userSessions := rows } = view d)
    (serverConfig : ServerConfig) (userID : UInt32) (call : UserSessions.AddUserSession) :
    Leaves p view (sessionStatement serverConfig userID call) := by
  unfold sessionStatement
  split
  · exact .pure _
  · exact .bind (.query fun d => unseen d _) fun _ => .pure _

theorem administrationLeaves (unseen : ∀ (d : Database) rows, view { d with userSessions := rows } = view d)
    (administration : Administration) : Leaves p view administration.query.2 := by
  cases administration with
  | addUserSession serverConfig userID =>
    have each := sessionStatementLeaves (p := p) unseen serverConfig userID
    refine .bind (each .select) fun second => .bind (each second) fun third => .bind (each third) fun call => ?_
    split <;> exact .pure _
  | removeUserSession userID => exact .execute fun d => unseen d _

end Routines

-- Who is logged in where is nothing a request changes.
section Requests
variable {ω : Type} {p : Statement → Prop} {view : Database → ω}
  (sessions : ∀ d e : Database, e.userSessions = d.userSessions → view e = view d)
include sessions

theorem createUserCharacterLeaves (userID : UInt32) (nickName : Bytes) : Leaves p view (createUserCharacter userID nickName) := by
  refine .bind (.select _) fun found => ?_
  rcases found with _ | _ | _
  · exact .pure _
  · refine .bind (.query fun d => ?_) fun inserted => .pure _
    dsimp only
    split
    · rfl
    · exact sessions d _ rfl
  · exact .pure _

theorem requestLeaves (userID : UInt32) (request : Request) : Leaves p view (request.query userID).2 := by
  cases request with
  | buyMenus defaultBuyMenus =>
    change Leaves p view (createUserBuymenus defaultBuyMenus userID)
    exact .createRows fun d => sessions d _ rfl
  | bookMarks =>
    change Leaves p view (createUserBookmarks userID)
    exact .createRows fun d => sessions d _ rfl
  | inventory defaultInventory now =>
    change Leaves p view (createUserInventory defaultInventory now userID)
    exact .createRows fun d => sessions d _ rfl
  | character nickName => exact createUserCharacterLeaves sessions userID nickName
  | saveConfig userConfig => exact .execute fun d => sessions d _ rfl
  | saveQuickStart userQuickStart => exact .execute fun d => sessions d _ rfl
  | saveBuyMenu categoryID slotID itemID => exact .execute fun d => sessions d _ rfl
  | saveBookMark userBookMark => exact .execute fun d => sessions d _ rfl

theorem callLeaves {call : Call} (plain : ¬ call.administers) : Leaves p view call.query.2 := by
  cases call with
  | routine routine => exact routineLeaves ⟨fun d _ => sessions d _ rfl,fun d _ => sessions d _ rfl⟩ routine
  | administration administration => exact absurd trivial plain
  | request userID request => exact requestLeaves sessions userID request

theorem callsLeave {calls : List Call} (plain : ∀ call ∈ calls, ¬ call.administers) {d : Store} (expects : Expects p view d) :
    Expects p view (calls.foldl (fun d call => call.run d) d) ∧
      view (calls.foldl (fun d call => call.run d) d).database = view d.database := by
  induction calls generalizing d with
  | nil => exact ⟨expects,rfl⟩
  | cons call calls ih =>
    obtain ⟨still,same⟩ := callLeaves sessions (plain call List.mem_cons_self) d expects
    obtain ⟨last,more⟩ := ih (fun later mem => plain later (List.mem_cons_of_mem call mem)) still
    exact ⟨last,more.trans same⟩

end Requests
end CsoMaster.DatabaseManager
