import CsoMaster.PacketRequests
import CsoMaster.QueryFrames
import CsoMaster.QuickStarts

/-! What the tables hold of an account, over whole runs: it comes about by the requests of the
account's own packets, one after the other, and by nothing else the server does. -/
namespace CsoMaster
open DatabaseManager

structure Account where
  character : Option UserCharacter
  userConfig : Option Bytes
  quickStart : Option QuickStartRow
  buyMenus : List BuyMenu
  bookMarks : List QueryText.BookMark
  items : List InventoryItem
  deriving DecidableEq

def account (userID : UInt32) (d : Database) : Account where
  character := d.userCharacters.lookup userID
  userConfig := d.userConfigs.lookup userID
  quickStart := d.userQuickStarts.lookup userID
  buyMenus := rowsOf userID d.userBuyMenus
  bookMarks := rowsOf userID d.userBookMarks
  items := rowsOf userID d.userInventory

-- A table is filled once.
def filled {α : Type} (rows values : List α) : List α := if rows.isEmpty then values else rows

namespace Account

-- What a request is for.
def apply (a : Account) : Request → Account
  | .buyMenus defaultBuyMenus => { a with buyMenus := filled a.buyMenus defaultBuyMenus }
  | .bookMarks => { a with bookMarks := filled a.bookMarks defaultBookMarks }
  | .inventory defaultInventory now => { a with items := filled a.items (defaultItems defaultInventory now) }
  | .character nickName =>
    { a with character := a.character.or (some { (default : UserCharacter) with nickName := nickName, level := 1 }) }
  | .saveConfig userConfig => { a with userConfig := some userConfig }
  | .saveQuickStart userQuickStart => { a with quickStart := some (quickStartRow userQuickStart) }
  | .saveBuyMenu categoryID slotID itemID =>
    { a with buyMenus := a.buyMenus.map fun row =>
        if row.categoryID = categoryID then { row with items := row.items.set slotID.toNat itemID } else row }
  | .saveBookMark userBookMark =>
    { a with bookMarks := a.bookMarks.map fun row => if row.slotID = userBookMark.slotID then userBookMark else row }

-- Some of the requests, the certain ones among them, make one of the other in their order.
def Follows (before : Account) (certain requests : List Request) (after : Account) : Prop :=
  ∃ made : List Request, certain.Sublist made ∧ made.Sublist requests ∧ after = made.foldl apply before

theorem Follows.unchanged (requests : List Request) {before after : Account} (same : after = before) : before.Follows [] requests after :=
  ⟨[],.slnil,List.nil_sublist requests,same⟩

theorem Follows.trans {certain surely requests more : List Request} {before between after : Account}
    (left : before.Follows certain requests between) (right : between.Follows surely more after) :
    before.Follows (certain ++ surely) (requests ++ more) after := by
  obtain ⟨made,least,most,same⟩ := left
  obtain ⟨others,fewest,all,last⟩ := right
  refine ⟨made ++ others,least.append fewest,most.append all,?_⟩
  rw [last,same,List.foldl_append]

end Account

-- A setting the client saves, not a part of a new character.
def Request.saves : Request → Bool
  | saveConfig _ | saveQuickStart _ | saveBuyMenu _ _ _ | saveBookMark _ => true
  | _ => false

namespace DatabaseManager

section Tables
variable {α : Type} {userID other : UInt32}

theorem rowsOfJoined (rows more : List (UInt32 × α)) : rowsOf userID (rows ++ more) = rowsOf userID rows ++ rowsOf userID more := by
  simp [rowsOf]

theorem rowsOfKeyed (rows : List (UInt32 × α)) (change : UInt32 → α → α) :
    rowsOf userID (rows.map fun row => (row.1,change row.1 row.2)) = (rowsOf userID rows).map (change userID) := by
  induction rows with
  | nil => rfl
  | cons row rows ih =>
    by_cases own : row.1 = userID
    · simpa [rowsOf,own] using ih
    · simpa [rowsOf,own] using ih

-- Rows changed for one account show there alone.
theorem rowsOfChanged (userID other : UInt32) (rows : List (UInt32 × α)) (p : α → Prop) [DecidablePred p] (f : α → α) :
    rowsOf userID (rows.map fun row => if row.1 = other ∧ p row.2 then (row.1,f row.2) else row) =
      if other = userID then (rowsOf userID rows).map fun value => if p value then f value else value
      else rowsOf userID rows := by
  have keyed : (rows.map fun row => if row.1 = other ∧ p row.2 then (row.1,f row.2) else row) =
      rows.map fun row => (row.1,if row.1 = other ∧ p row.2 then f row.2 else row.2) :=
    List.map_congr_left fun row _ => by split <;> rfl
  rw [keyed,rowsOfKeyed rows fun key value => if key = other ∧ p value then f value else value]
  by_cases same : other = userID
  · simp [same]
  · simp [same,Ne.symm same]

theorem rowsOfFilled {rows : List (UInt32 × α)} (absent : (!(rowsOf userID rows).isEmpty) = false) (values : List α) :
    rowsOf userID (rows ++ values.map (userID,·)) = filled (rowsOf userID rows) values := by
  have none : rowsOf userID rows = [] := by simpa using absent
  rw [rowsOfAppend,none,List.nil_append]
  rfl

theorem filledSome (rows : List α) {values : List α} (given : values ≠ []) : (!(filled rows values).isEmpty) = true := by
  unfold filled
  split
  · simpa using given
  · rename_i some'
    simpa using some'

end Tables

section Requests
variable {userID other : UInt32} {a : Account}

-- What is saved is saved for the one account.
theorem saveWrites (userID other : UInt32) {request : Request} (saves : request.saves = true) :
    ∃ write : Database → Database, (∀ d, ((request.query other).2 d).2 = (execute write d).2) ∧
      ∀ d, account userID (write d) = if other = userID then (account userID d).apply request else account userID d := by
  cases request with
  | saveConfig userConfig =>
    refine ⟨fun d => { d with userConfigs := d.userConfigs.insert other userConfig },fun _ => rfl,fun d => ?_⟩
    by_cases same : other = userID
    · simp [account,Account.apply,same]
    · simp [account,same,AList.lookup_insert_ne (Ne.symm same)]
  | saveQuickStart userQuickStart =>
    refine ⟨fun d => { d with userQuickStarts := d.userQuickStarts.insert other (quickStartRow userQuickStart) },fun _ => rfl,fun d => ?_⟩
    by_cases same : other = userID
    · simp [account,Account.apply,same]
    · simp [account,same,AList.lookup_insert_ne (Ne.symm same)]
  | saveBuyMenu categoryID slotID itemID =>
    refine ⟨_,fun _ => rfl,fun d => ?_⟩
    have rows := rowsOfChanged userID other d.userBuyMenus (·.categoryID = categoryID)
      fun row => { row with items := row.items.set slotID.toNat itemID }
    by_cases same : other = userID
    · simpa [account,Account.apply,same] using rows
    · simpa [account,same] using rows
  | saveBookMark userBookMark =>
    refine ⟨_,fun _ => rfl,fun d => ?_⟩
    have rows := rowsOfChanged userID other d.userBookMarks (·.slotID = userBookMark.slotID) fun _ => userBookMark
    by_cases same : other = userID
    · simpa [account,Account.apply,same] using rows
    · simpa [account,same] using rows
  | _ => cases saves

-- The statement is answered or not; the account it is for has what it asks for, or stays as it is.
theorem executeWrites {write : Database → Database} {request : Request}
    (written : ∀ d, account userID (write d) = if other = userID then (account userID d).apply request else account userID d) :
    Triple (account userID) (· = a) (execute write) fun _ after => after = a ∨ other = userID ∧ after = a.apply request := by
  refine .execute (fun after same => .inl same) fun d same => ?_
  rw [written,same]
  split
  · rename_i own
    exact .inr ⟨own,rfl⟩
  · exact .inl rfl

theorem createRowsWrites {α β : Type} {present : Database → Bool} {values : List α} {insert : List α → Database → Database}
    {request : Request} (rows : Account → List β) (sees : ∀ d, present d = !(rows (account userID d)).isEmpty)
    (written : ∀ d, (!(rows (account userID d)).isEmpty) = false →
      account userID (insert values d) = (account userID d).apply request)
    (full : ∀ b : Account, values ≠ [] → (!(rows (b.apply request)).isEmpty) = true) :
    Triple (account userID) (· = a) (createRows present values insert) fun _ after => after = a ∨ after = a.apply request := by
  have created : Triple (account userID) (fun after => after = a ∨ after = a.apply request) (createRows present values insert)
      fun done after => (after = a ∨ after = a.apply request) ∧ (done = true → (!(rows after).isEmpty) = true) := by
    refine .createRows sees fun d before absent given => ?_
    rcases before with same | same
    · rw [written d absent,same]
      exact ⟨.inr rfl,full a given⟩
    · rw [same,full a given] at absent
      cases absent
  intro d undisturbed same
  obtain ⟨still,holds,_⟩ := created d undisturbed (.inl same)
  exact ⟨still,holds⟩

theorem createUserCharacterWrites (nickName : Bytes) :
    Triple (account userID) (· = a) (createUserCharacter userID nickName) fun _ after =>
      after = a ∨ after = a.apply (.character nickName) := by
  refine .bind (.select (Q := fun _ => (· = a)) (fun _ => id) fun _ => id) fun found => ?_
  cases found with
  | none => exact .pure fun _ => .inl
  | some taken =>
    cases taken with
    | true => exact .pure fun _ => .inl
    | false =>
      refine .bind (.query (fun _ => .inl) fun d same => ?_) fun inserted => .pure fun _ => id
      dsimp only
      split
      · exact .inl same
      · rename_i absent
        have none : (account userID d).character = none := by simpa [account] using absent
        refine .inr ?_
        rw [← same]
        simp [account,Account.apply] at none ⊢
        simp [none]

theorem requestOwn (request : Request) :
    Triple (account userID) (· = a) (request.query userID).2 fun _ after => after = a ∨ after = a.apply request := by
  cases saves : request.saves with
  | true =>
    obtain ⟨write,runs,written⟩ := saveWrites userID userID saves
    intro d undisturbed same
    have wrote := executeWrites written d undisturbed same
    rw [← runs] at wrote
    exact ⟨wrote.1,wrote.2.imp_right And.right⟩
  | false =>
    cases request with
    | buyMenus defaultBuyMenus =>
      refine createRowsWrites Account.buyMenus (fun d => anyRow d.userBuyMenus) (fun d absent => ?_) fun b => filledSome b.buyMenus
      simp only [account,rowsOfFilled absent,Account.apply]
    | bookMarks =>
      refine createRowsWrites Account.bookMarks (fun d => anyRow d.userBookMarks) (fun d absent => ?_) fun b => filledSome b.bookMarks
      simp only [account,rowsOfFilled absent,Account.apply]
    | inventory defaultInventory now =>
      refine createRowsWrites Account.items (fun d => anyRow d.userInventory) (fun d absent => ?_) fun b => filledSome b.items
      simp only [account,rowsOfFilled absent,Account.apply]
    | character nickName => exact createUserCharacterWrites nickName
    | _ => cases saves

theorem requestElsewhere (distinct : other ≠ userID) (request : Request) :
    Triple (account userID) (· = a) (request.query other).2 fun _ => (· = a) := by
  cases saves : request.saves with
  | true =>
    obtain ⟨write,runs,written⟩ := saveWrites userID other saves
    intro d undisturbed same
    have wrote := executeWrites written d undisturbed same
    rw [← runs] at wrote
    exact ⟨wrote.1,wrote.2.resolve_right fun changed => distinct changed.1⟩
  | false =>
    cases request with
    | buyMenus defaultBuyMenus =>
      change Triple _ _ (createUserBuymenus defaultBuyMenus other) _
      exact .createRowsElsewhere fun d => by simp only [account,rowsOfOther distinct]
    | bookMarks =>
      change Triple _ _ (createUserBookmarks other) _
      exact .createRowsElsewhere fun d => by simp only [account,rowsOfOther distinct]
    | inventory defaultInventory now =>
      change Triple _ _ (createUserInventory defaultInventory now other) _
      exact .createRowsElsewhere fun d => by simp only [account,rowsOfOther distinct]
    | character nickName =>
      refine .bind (.select (Q := fun _ => (· = a)) (fun _ => id) fun _ => id) fun found => ?_
      cases found with
      | none => exact .pure fun _ => id
      | some taken =>
        cases taken with
        | true => exact .pure fun _ => id
        | false =>
          refine .bind (.query (fun _ => id) fun d same => ?_) fun inserted => .pure fun _ => id
          dsimp only
          split
          · exact same
          · simpa [account,AList.lookup_insert_ne (Ne.symm distinct)] using same
    | _ => cases saves

end Requests

section Calls
variable {userID : UInt32}

theorem callFollows (call : Call) {d : Store} (undisturbed : Undisturbed (account userID) d) :
    Undisturbed (account userID) (call.run d) ∧
      (account userID d.database).Follows [] (rowsOf userID call.asked.toList) (account userID (call.run d).database) := by
  have kept {α : Type} {q : Sql α} (leaves : Leaves (fun _ => True) (account userID) q) :
      Undisturbed (account userID) (q d).2 ∧ (account userID d.database).Follows [] [] (account userID (q d).2.database) := by
    obtain ⟨still,same⟩ := leaves.triple (P := (· = account userID d.database)) d undisturbed rfl
    exact ⟨still,.unchanged [] same⟩
  cases call with
  | routine routine => exact kept (routineLeaves ⟨fun _ _ => rfl,fun _ _ => rfl⟩ routine)
  | administration administration => exact kept (administrationLeaves (fun _ _ => rfl) administration)
  | request other request =>
    by_cases own : other = userID
    · subst own
      obtain ⟨still,unchanged | applied⟩ := requestOwn request d undisturbed rfl
      · exact ⟨still,.unchanged _ unchanged⟩
      · exact ⟨still,[request],List.nil_sublist _,by simp [Call.asked,rowsOf],applied⟩
    · obtain ⟨still,same⟩ := requestElsewhere own request d undisturbed rfl
      exact ⟨still,.unchanged _ same⟩

theorem callsFollow (calls : List Call) {d : Store} (undisturbed : Undisturbed (account userID) d) :
    (account userID d.database).Follows [] (rowsOf userID (calls.filterMap Call.asked))
      (account userID (calls.foldl (fun d call => call.run d) d).database) := by
  induction calls generalizing d with
  | nil => exact .unchanged _ rfl
  | cons call calls ih =>
    obtain ⟨still,first⟩ := callFollows call undisturbed
    have joined : rowsOf userID ((call :: calls).filterMap Call.asked) =
        rowsOf userID call.asked.toList ++ rowsOf userID (calls.filterMap Call.asked) := by
      cases asked : call.asked with
      | none => rw [List.filterMap_cons_none asked]; rfl
      | some entry => rw [List.filterMap_cons_some asked]; exact rowsOfJoined [entry] _
    rw [joined]
    exact first.trans (ih still)

end Calls
end DatabaseManager

namespace State
open Runs
variable {s : State} {userID : UInt32}

-- The requests an event brings for an account, and of these what is to be saved and nothing can go wrong with.
def brings (userID : UInt32) (s : State) (e : Event) : List Request := rowsOf userID ((s.enter e.environment).requests e.action)

def settles (userID : UInt32) (s : State) (e : Event) : List Request :=
  if e.environment.statements.all Statement.ok then (s.brings userID e).filter Request.saves else []

-- Over a run.
def brought (s : State) (f : State → Event → List Request) : List Event → List Request
  | [] => []
  | e :: events => f s e ++ (s.step e).brought f events

theorem readOptionSaves {p : Packet} {request : Request} (read : readOption p = some request) : request.saves = true := by
  simp only [readOption] at read
  split at read
  · split at read
    · cases read
    · cases read
      rfl
  · cases read
    rfl
  · cases read

theorem readFavoriteSaves {p : Packet} {request : Request} (read : readFavorite p = some request) : request.saves = true := by
  simp only [readFavorite] at read
  split at read
  · split at read
    · cases read
    · split at read
      · cases read
      · cases read
        rfl
  · obtain ⟨userBookMark,-,is⟩ := Option.map_eq_some_iff.mp read
    subst is
    rfl
  · cases read

theorem creationSaves {nickName : Bytes} (request : Request) (mem : request ∈ s.creation nickName) : request.saves = false := by
  have each : ∀ request ∈ s.creation nickName, request.saves = false := by simp [creation,Request.saves]
  exact each request mem

-- A packet that saves brings one request, and it is all the packet does.
structure Saves (s : State) (action : Action) (other : UInt32) (request : Request) : Prop where
  saves : request.saves = true
  brought : s.requests action = [(other,request)]
  acts : s.act action = s.save other (some request)

theorem savesAlone (s : State) (action : Action) : (∀ entry ∈ s.requests action, entry.2.saves = false) ∨
    ∃ other request, s.Saves action other request := by
  cases action with
  | packet c packet =>
    by_cases known : c < s.accepted
    · have acts : s.act (.packet c packet) = s.parsePacket c packet := if_pos known
      have brought : s.requests (.packet c packet) = s.packetRequests c packet := if_pos known
      rw [brought]
      cases kind : packetID packet.readUInt8.1 with
      | none => exact .inl (by simp [packetRequests,kind])
      | some kindOf =>
        cases kindOf with
        | RecvCharacter =>
          refine .inl fun entry mem => ?_
          simp only [packetRequests,kind] at mem
          split at mem
          · cases mem
          · split at mem
            · obtain ⟨request,created,is⟩ := List.mem_map.mp mem
              subst is
              exact creationSaves request created
            · cases mem
        | Option =>
          cases sender : s.loggedIn c with
          | none => exact .inl (by simp [packetRequests,kind,sender])
          | some u =>
            cases read : readOption packet.readUInt8.2 with
            | none => exact .inl (by simp [packetRequests,kind,sender,read])
            | some request =>
              refine .inr ⟨(s.lobby.user u).userID,request,readOptionSaves read,?_,?_⟩
              · rw [brought]
                simp [packetRequests,kind,sender,read]
              · rw [acts,← read,← optionSaves sender]
                simp only [parsePacket,kind]
        | Favorite =>
          cases sender : s.loggedIn c with
          | none => exact .inl (by simp [packetRequests,kind,sender])
          | some u =>
            cases read : readFavorite packet.readUInt8.2 with
            | none => exact .inl (by simp [packetRequests,kind,sender,read])
            | some request =>
              refine .inr ⟨(s.lobby.user u).userID,request,readFavoriteSaves read,?_,?_⟩
              · rw [brought]
                simp [packetRequests,kind,sender,read]
              · rw [acts,← read,← favoriteSaves sender]
                simp only [parsePacket,kind]
        | _ => exact .inl (by simp [packetRequests,kind])
    · exact .inl (by simp [requests,known])
  | _ => exact .inl (by simp [requests])

theorem saveCertain {d : Store} {request : Request} (saves : request.saves = true) (runs : d.runsNext = true)
    (undisturbed : Undisturbed (account userID) d) (other : UInt32) :
    account userID ((request.query other).2 d).2.database =
      if other = userID then (account userID d.database).apply request else account userID d.database := by
  obtain ⟨write,wrote,written⟩ := saveWrites userID other saves
  obtain ⟨-,same⟩ := answeredUndisturbed undisturbed
  rw [wrote,execute]
  simp only [bind,StateT.bind,queryRuns runs,pureRuns]
  rw [written,same]

theorem stepFollows (e : Event) (alone : Undisturbed (account userID) (s.enter e.environment).store) :
    (account userID s.store.database).Follows (s.settles userID e) (s.brings userID e) (account userID (s.step e).store.database) := by
  have traced : (account userID s.store.database).Follows [] (s.brings userID e) (account userID (s.step e).store.database) := by
    obtain ⟨made,within,acts⟩ := actsStep s e
    obtain ⟨calls,asked,-,store⟩ := acts.asked
    obtain ⟨kept,-,own,after⟩ := callsFollow calls alone
    rw [← store] at after
    rw [asked] at own
    exact ⟨kept,List.nil_sublist _,own.trans ((within.sublist.filter _).map _),after⟩
  have uncertain (nothing : s.settles userID e = []) :
      (account userID s.store.database).Follows (s.settles userID e) (s.brings userID e) (account userID (s.step e).store.database) := by
    rw [nothing]
    exact traced
  by_cases clear : e.environment.statements.all Statement.ok
  · rcases (s.enter e.environment).savesAlone e.action with plain | ⟨other,request,single⟩
    · refine uncertain ?_
      rw [settles,if_pos clear,List.filter_eq_nil_iff]
      intro request mem
      obtain ⟨entry,listed,is⟩ := List.mem_map.mp mem
      subst is
      simp [plain entry (List.mem_filter.mp listed).1]
    · have brings : s.brings userID e = rowsOf userID [(other,request)] := congrArg (rowsOf userID) single.brought
      by_cases own : other = userID
      · have one : s.brings userID e = [request] := by simpa [rowsOf,own] using brings
        have runs : (s.enter e.environment).store.runsNext = true :=
          answersRun (d := (s.enter e.environment).store) fun statement mem => List.all_eq_true.mp clear statement mem
        have saved := saveCertain single.saves runs alone other
        rw [if_pos own] at saved
        refine ⟨[request],?_,?_,?_⟩
        · rw [settles,if_pos clear,one]
          exact List.filter_sublist
        · rw [one]
        · rw [State.step,single.acts]
          exact saved
      · refine uncertain ?_
        rw [settles,if_pos clear,brings]
        simp [rowsOf,own]
  · exact uncertain (if_neg clear)

theorem runFollows (events : List Event) (alone : ∀ e ∈ events, Undisturbed (account userID) ⟨s.store.database,e.environment.statements⟩) :
    (account userID s.store.database).Follows (s.brought (settles userID) events) (s.brought (brings userID) events)
      (account userID (run step s events).store.database) := by
  induction events generalizing s with
  | nil => exact .unchanged _ rfl
  | cons e events ih =>
    exact (stepFollows e (alone e List.mem_cons_self)).trans (ih fun later mem => alone later (List.mem_cons_of_mem e mem))

-- As long as the other servers leave the account alone, it is what its own packets make of it, and
-- nothing that is saved while no statement fails is lost or made twice.
theorem accountByOwnRequests {events : List Event} (alone : ∀ e ∈ events, ∀ statement ∈ e.environment.statements, ∀ d,
      account userID (statement.others d) = account userID d) :
    (account userID s.store.database).Follows (s.brought (settles userID) events) (s.brought (brings userID) events)
      (account userID (run step s events).store.database) :=
  runFollows events alone

-- Two users save a quick start each; the first one's second is given up.
def saving : List Event :=
  [connects,arrives 0 (transferLoginBody "one"),connects,arrives 1 (transferLoginBody "two"),arrives 0 [76,1,172,38,0,0],
    arrives 1 [76,1,248,117,0,0],⟨.packet 0 (received [76,1,248,117,0,0]),{ sampleEnvironment with statements := [⟨id,false⟩] }⟩]

theorem accountByOwnRequestsSaving :
    sampleStart.brought (settles 1) saving = [.saveQuickStart 9900] ∧
      sampleStart.brought (brings 1) saving = [.saveQuickStart 9900,.saveQuickStart 30200] ∧
      (account 1 sampleTables).Follows (sampleStart.brought (settles 1) saving) (sampleStart.brought (brings 1) saving)
        (account 1 (run step sampleStart saving).store.database) := by
  refine ⟨by decide +kernel,by decide +kernel,accountByOwnRequests (s := sampleStart) fun e mem statement listed d => ?_⟩
  simp only [saving,List.mem_cons,List.not_mem_nil,or_false] at mem
  rcases mem with rfl | rfl | rfl | rfl | rfl | rfl | rfl
  all_goals simp [connects,arrives,sampleEnvironment] at listed
  subst listed
  rfl

end State
end CsoMaster
