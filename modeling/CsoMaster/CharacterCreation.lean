import CsoMaster.ConnectionUsers

/-! Character creation fills four tables one after the other, and any of its statements may fail.
Whatever comes of an attempt, each table has nothing of the account or one full set, and the
character's own row is there only with all three. -/
namespace CsoMaster

-- What the tables hold of one account.
structure Belongings where
  character : Bool
  buyMenus : List BuyMenu
  bookMarks : List QueryText.BookMark
  items : List InventoryItem

def rowsOf {α : Type} (userID : UInt32) (rows : List (UInt32 × α)) : List α :=
  (rows.filter (·.1 = userID)).map Prod.snd

def belongings (userID : UInt32) (d : Database) : Belongings :=
  ⟨(d.userCharacters.lookup userID).isSome,rowsOf userID d.userBuyMenus,rowsOf userID d.userBookMarks,
    rowsOf userID d.userInventory⟩

section Rows
variable {α : Type} {userID other : UInt32}

theorem rowsOfAppend (rows : List (UInt32 × α)) (values : List α) :
    rowsOf userID (rows ++ values.map (userID,·)) = rowsOf userID rows ++ values := by
  simp [rowsOf,List.filter_map,Function.comp_def]

theorem rowsOfOther (distinct : other ≠ userID) (rows : List (UInt32 × α)) (values : List α) :
    rowsOf userID (rows ++ values.map (other,·)) = rowsOf userID rows := by
  simp [rowsOf,List.filter_map,Function.comp_def,distinct]

theorem anyRow (rows : List (UInt32 × α)) : rows.any (·.1 = userID) = !(rowsOf userID rows).isEmpty := by
  induction rows with
  | nil => rfl
  | cons row rows ih =>
    by_cases own : row.1 = userID
    · simp [rowsOf,own]
    · simpa [rowsOf,own] using ih

end Rows

namespace DatabaseManager

-- What a query makes of the part of the tables in view, where its statements may fail and the
-- other servers leave that part alone.
section View
variable {α β ω : Type} {view : Database → ω} {P : ω → Prop}

def Undisturbed (view : Database → ω) (d : Store) : Prop :=
  ∀ statement ∈ d.statements, ∀ database, view (statement.others database) = view database

def Triple (view : Database → ω) (P : ω → Prop) (q : Sql α) (Q : α → ω → Prop) : Prop :=
  ∀ d, Undisturbed view d → P (view d.database) → Undisturbed view (q d).2 ∧ Q (q d).1 (view (q d).2.database)

theorem answeredUndisturbed {d : Store} (undisturbed : Undisturbed view d) :
    Undisturbed view (answered d) ∧ view (answered d).database = view d.database := by
  obtain ⟨database,statements⟩ := d
  cases statements with
  | nil => exact ⟨undisturbed,rfl⟩
  | cons statement statements =>
    exact ⟨fun later mem => undisturbed later (List.mem_cons_of_mem statement mem),undisturbed statement List.mem_cons_self database⟩

theorem Triple.pure {Q : α → ω → Prop} {a : α} (holds : ∀ w, P w → Q a w) : Triple view P (pure a : Sql α) Q :=
  fun _ undisturbed before => ⟨undisturbed,holds _ before⟩

theorem Triple.bind {q : Sql α} {f : α → Sql β} {R : α → ω → Prop} {Q : β → ω → Prop}
    (first : Triple view P q R) (rest : ∀ a, Triple view (R a) (f a) Q) : Triple view P (q >>= f) Q := by
  intro d undisturbed before
  obtain ⟨still,between⟩ := first d undisturbed before
  exact rest (q d).1 (q d).2 still between

theorem Triple.query {run : Database → α × Database} {Q : Option α → ω → Prop} (failed : ∀ w, P w → Q none w)
    (ran : ∀ d, P (view d) → Q (some (run d).1) (view (run d).2)) : Triple view P (query run) Q := by
  intro d undisturbed before
  obtain ⟨still,same⟩ := answeredUndisturbed undisturbed
  cases next : d.runsNext with
  | false =>
    rw [queryGivenUp next]
    exact ⟨still,failed _ (same ▸ before)⟩
  | true =>
    rw [queryRuns next]
    exact ⟨still,ran _ (same ▸ before)⟩

theorem Triple.select {read : Database → α} {Q : Option α → ω → Prop} (failed : ∀ w, P w → Q none w)
    (ran : ∀ d, P (view d) → Q (some (read d)) (view d)) : Triple view P (select read) Q :=
  .query failed ran

theorem Triple.execute {write : Database → Database} {Q : Bool → ω → Prop} (failed : ∀ w, P w → Q false w)
    (ran : ∀ d, P (view d) → Q true (view (write d))) : Triple view P (execute write) Q :=
  .bind (R := fun done w => Q done.isSome w) (.query failed ran) fun _ => .pure fun _ holds => holds

theorem Triple.rejected {Q : Bool → ω → Prop} (failed : ∀ w, P w → Q false w) : Triple view P rejected Q := by
  intro d undisturbed before
  obtain ⟨still,same⟩ := answeredUndisturbed undisturbed
  exact ⟨still,failed _ (same ▸ before)⟩

theorem Triple.reads {read : Database → α} {f : Option α → Sql β} (rest : ∀ found, ∃ b, f found = Pure.pure b) :
    Triple view P (DatabaseManager.select read >>= f) fun _ => P := by
  refine .bind (R := fun _ => P) (.select (fun _ => id) fun _ => id) fun found => ?_
  obtain ⟨b,same⟩ := rest found
  rw [same]
  exact .pure fun _ => id

section CreateRows
variable {present : Database → Bool} {values : List α} {insert : List α → Database → Database}

-- Done, the rows are there: found, or just written.
theorem Triple.createRows {seen : ω → Bool} (sees : ∀ d, present d = seen (view d))
    (written : ∀ d, P (view d) → seen (view d) = false → values ≠ [] →
      P (view (insert values d)) ∧ seen (view (insert values d)) = true) :
    Triple view P (createRows present values insert) fun done w => P w ∧ (done = true → seen w = true) := by
  refine .bind (R := fun found w => P w ∧ ∀ here, found = some here → seen w = here) ?_ fun found => ?_
  · refine .select (fun w before => ⟨before,fun here none => by cases none⟩) fun d before => ⟨before,fun here same => ?_⟩
    rw [← sees]
    exact Option.some.inj same
  · match found with
    | none => exact .pure fun w ⟨before,_⟩ => ⟨before,fun done => by cases done⟩
    | some true => exact .pure fun w ⟨before,here⟩ => ⟨before,fun _ => here true rfl⟩
    | some false =>
      dsimp only
      split
      · exact .rejected fun w ⟨before,_⟩ => ⟨before,fun done => by cases done⟩
      · rename_i some'
        refine .execute (fun w ⟨before,_⟩ => ⟨before,fun done => by cases done⟩) fun d ⟨before,absent⟩ => ?_
        obtain ⟨after,here⟩ := written d before (absent false rfl) (by simpa using some')
        exact ⟨after,fun _ => here⟩

theorem Triple.createRowsElsewhere (keeps : ∀ d, view (insert values d) = view d) :
    Triple view P (DatabaseManager.createRows present values insert) fun _ => P := by
  refine .bind (R := fun _ => P) (.select (fun _ => id) fun _ => id) fun found => ?_
  match found with
  | none => exact .pure fun _ => id
  | some true => exact .pure fun _ => id
  | some false =>
    dsimp only
    split
    · exact .rejected fun _ => id
    · refine .execute (fun _ => id) fun d before => ?_
      rw [keeps]
      exact before

end CreateRows
end View

-- What the account a character is created for has to have.
section Account
variable {defaultBuyMenus : List BuyMenu} {defaultInventory : List UInt8} {userID other : UInt32} {now : UInt32}

structure Provided (defaultBuyMenus : List BuyMenu) (defaultInventory : List UInt8) (b : Belongings) : Prop where
  buyMenus : b.buyMenus = [] ∨ b.buyMenus = defaultBuyMenus
  bookMarks : b.bookMarks = [] ∨ b.bookMarks = defaultBookMarks
  items : b.items = [] ∨ ∃ now, b.items = defaultItems defaultInventory now

structure Complete (defaultBuyMenus : List BuyMenu) (defaultInventory : List UInt8) (b : Belongings) : Prop where
  buyMenus : b.buyMenus = defaultBuyMenus
  bookMarks : b.bookMarks = defaultBookMarks
  slots : b.bookMarks.map QueryText.BookMark.slotID = [0,1,2,3,4]
  items : ∃ now, b.items = defaultItems defaultInventory now

structure Outfitted (defaultBuyMenus : List BuyMenu) (defaultInventory : List UInt8) (b : Belongings) : Prop
    extends Provided defaultBuyMenus defaultInventory b where
  complete : b.character = true → Complete defaultBuyMenus defaultInventory b

theorem defaultSlots : defaultBookMarks.map QueryText.BookMark.slotID = [0,1,2,3,4] := by decide

section Belongings
variable {d : Database}

-- Writing one of the tables shows there and nowhere else.
theorem buyMenusWritten (values : List BuyMenu) :
    belongings userID { d with userBuyMenus := d.userBuyMenus ++ values.map (userID,·) } =
      { belongings userID d with buyMenus := (belongings userID d).buyMenus ++ values } := by
  simp only [belongings,rowsOfAppend]

theorem bookMarksWritten (values : List QueryText.BookMark) :
    belongings userID { d with userBookMarks := d.userBookMarks ++ values.map (userID,·) } =
      { belongings userID d with bookMarks := (belongings userID d).bookMarks ++ values } := by
  simp only [belongings,rowsOfAppend]

theorem itemsWritten (values : List InventoryItem) :
    belongings userID { d with userInventory := d.userInventory ++ values.map (userID,·) } =
      { belongings userID d with items := (belongings userID d).items ++ values } := by
  simp only [belongings,rowsOfAppend]

theorem characterWritten (row : UserCharacter) :
    belongings userID { d with userCharacters := d.userCharacters.insert userID row } =
      { belongings userID d with character := true } := by
  simp [belongings]

end Belongings

theorem createUserBuymenusKeeps :
    Triple (belongings userID) (Outfitted defaultBuyMenus defaultInventory) (createUserBuymenus defaultBuyMenus userID)
      fun done b => Outfitted defaultBuyMenus defaultInventory b ∧ (done = true → (!b.buyMenus.isEmpty) = true) := by
  refine Triple.createRows (fun d => anyRow d.userBuyMenus) fun d outfitted absent some' => ?_
  have none : (belongings userID d).buyMenus = [] := by simpa using absent
  rw [buyMenusWritten,none,List.nil_append]
  refine ⟨⟨⟨.inr rfl,outfitted.bookMarks,outfitted.items⟩,fun character => ?_⟩,by simpa using some'⟩
  exact absurd ((outfitted.complete character).buyMenus.symm.trans none) some'

theorem createUserBookmarksKeeps :
    Triple (belongings userID)
      (fun b => Outfitted defaultBuyMenus defaultInventory b ∧ (!b.buyMenus.isEmpty) = true)
      (createUserBookmarks userID)
      fun done b => (Outfitted defaultBuyMenus defaultInventory b ∧ (!b.buyMenus.isEmpty) = true) ∧
        (done = true → (!b.bookMarks.isEmpty) = true) := by
  refine Triple.createRows (fun d => anyRow d.userBookMarks) fun d ⟨outfitted,buyMenus⟩ absent some' => ?_
  have none : (belongings userID d).bookMarks = [] := by simpa using absent
  rw [bookMarksWritten,none,List.nil_append]
  refine ⟨⟨⟨⟨outfitted.buyMenus,.inr rfl,outfitted.items⟩,fun character => ?_⟩,buyMenus⟩,by simpa using some'⟩
  exact absurd ((outfitted.complete character).bookMarks.symm.trans none) some'

theorem createUserInventoryKeeps :
    Triple (belongings userID)
      (fun b => (Outfitted defaultBuyMenus defaultInventory b ∧ (!b.buyMenus.isEmpty) = true) ∧ (!b.bookMarks.isEmpty) = true)
      (createUserInventory defaultInventory now userID)
      fun done b => ((Outfitted defaultBuyMenus defaultInventory b ∧ (!b.buyMenus.isEmpty) = true) ∧
        (!b.bookMarks.isEmpty) = true) ∧ (done = true → (!b.items.isEmpty) = true) := by
  refine Triple.createRows (fun d => anyRow d.userInventory) fun d ⟨⟨outfitted,buyMenus⟩,bookMarks⟩ absent some' => ?_
  have none : (belongings userID d).items = [] := by simpa using absent
  rw [itemsWritten,none,List.nil_append]
  refine ⟨⟨⟨⟨⟨outfitted.buyMenus,outfitted.bookMarks,.inr ⟨now,rfl⟩⟩,fun character => ?_⟩,buyMenus⟩,bookMarks⟩,
    by simpa using some'⟩
  obtain ⟨earlier,items⟩ := (outfitted.complete character).items
  have unlisted : defaultInventory = [] := by simpa [defaultItems] using items.symm.trans none
  simp [defaultItems,unlisted] at some'

theorem Outfitted.all {b : Belongings} (outfitted : Outfitted defaultBuyMenus defaultInventory b)
    (buyMenus : (!b.buyMenus.isEmpty) = true) (bookMarks : (!b.bookMarks.isEmpty) = true) (items : (!b.items.isEmpty) = true) :
    Complete defaultBuyMenus defaultInventory b := by
  have marks := outfitted.bookMarks.resolve_left (by simpa using bookMarks)
  exact ⟨outfitted.buyMenus.resolve_left (by simpa using buyMenus),marks,by rw [marks]; exact defaultSlots,
    outfitted.items.resolve_left (by simpa using items)⟩

theorem createUserCharacterKeeps (nickName : Bytes) :
    Triple (belongings userID) (fun b => Outfitted defaultBuyMenus defaultInventory b ∧ Complete defaultBuyMenus defaultInventory b)
      (createUserCharacter userID nickName) fun _ => Outfitted defaultBuyMenus defaultInventory := by
  refine .bind (.select (Q := fun _ b => Outfitted defaultBuyMenus defaultInventory b ∧ Complete defaultBuyMenus defaultInventory b)
    (fun _ => id) fun _ => id) fun found => ?_
  match found with
  | none => exact .pure fun _ => And.left
  | some true => exact .pure fun _ => And.left
  | some false =>
    refine .bind (.query (fun _ => And.left) fun d ⟨outfitted,complete⟩ => ?_) fun inserted => .pure fun _ => id
    dsimp only
    split
    · exact outfitted
    · rw [characterWritten]
      exact ⟨⟨outfitted.buyMenus,outfitted.bookMarks,outfitted.items⟩,
        fun _ => ⟨complete.buyMenus,complete.bookMarks,complete.slots,complete.items⟩⟩

-- Whatever is created for another account.
section Elsewhere
variable {P : Belongings → Prop} (distinct : other ≠ userID)
include distinct

theorem createUserBuymenusElsewhere :
    Triple (belongings userID) P (createUserBuymenus defaultBuyMenus other) fun _ => P :=
  .createRowsElsewhere fun d => by simp only [belongings,rowsOfOther distinct]

theorem createUserBookmarksElsewhere : Triple (belongings userID) P (createUserBookmarks other) fun _ => P :=
  .createRowsElsewhere fun d => by simp only [belongings,rowsOfOther distinct]

theorem createUserInventoryElsewhere :
    Triple (belongings userID) P (createUserInventory defaultInventory now other) fun _ => P :=
  .createRowsElsewhere fun d => by simp only [belongings,rowsOfOther distinct]

theorem createUserCharacterElsewhere (nickName : Bytes) :
    Triple (belongings userID) P (createUserCharacter other nickName) fun _ => P := by
  refine .bind (.select (Q := fun _ => P) (fun _ => id) fun _ => id) fun found => ?_
  match found with
  | none => exact .pure fun _ => id
  | some true => exact .pure fun _ => id
  | some false =>
    refine .bind (.query (fun _ => id) fun d before => ?_) fun inserted => .pure fun _ => id
    dsimp only
    split
    · exact before
    · simpa [belongings,AList.lookup_insert_ne distinct.symm] using before

end Elsewhere
end Account
end DatabaseManager

namespace State
open DatabaseManager
variable {s t : State} {userID : UInt32} {serverConfig : ChannelConfig}

-- What an attempt keeps of an account.
structure Safe (userID : UInt32) (serverConfig : ChannelConfig) (s : State) : Prop where
  configured : s.serverConfig = serverConfig
  undisturbed : Undisturbed (belongings userID) s.store
  outfitted : Outfitted serverConfig.defaultBuyMenus serverConfig.defaultInventory (belongings userID s.store.database)

theorem Safe.same (safe : Safe userID serverConfig s) (store : t.store = s.store) (config : t.serverConfig = s.serverConfig) :
    Safe userID serverConfig t := by
  obtain ⟨configured,undisturbed,outfitted⟩ := safe
  exact ⟨config.trans configured,by rw [store]; exact undisturbed,by rw [store]; exact outfitted⟩

theorem Safe.sql {α : Type} {q : Sql α} (safe : Safe userID serverConfig s)
    (keeps : Triple (belongings userID) (Outfitted serverConfig.defaultBuyMenus serverConfig.defaultInventory) q
      fun _ => Outfitted serverConfig.defaultBuyMenus serverConfig.defaultInventory) : Safe userID serverConfig (s.sql q).2 := by
  obtain ⟨undisturbed,outfitted⟩ := keeps s.store safe.undisturbed safe.outfitted
  exact ⟨safe.configured,undisturbed,outfitted⟩

theorem Safe.send (safe : Safe userID serverConfig s) (c : ConnectionRef) (m : Message) : Safe userID serverConfig (s.send c m) := by
  unfold State.send
  split
  · exact safe.same rfl rfl
  · exact safe

theorem Safe.sendTo (safe : Safe userID serverConfig s) (u : UserRef) (m : Message) : Safe userID serverConfig (s.sendTo u m) := safe.send _ m

theorem Safe.unless {holds : Prop} [Decidable holds] (safe : Safe userID serverConfig s) (u : UserRef) (m : Message) :
    Safe userID serverConfig (if holds then s else s.sendTo u m) := by
  split
  · exact safe
  · exact safe.sendTo u m

theorem Safe.optional {holds : Prop} [Decidable holds] (safe : Safe userID serverConfig s) (u : UserRef) (m : Message) :
    Safe userID serverConfig (if holds then s.sendTo u m else s) := by
  split
  · exact safe.sendTo u m
  · exact safe

theorem getUserCharacterReads {ω : Type} {view : Database → ω} {P : ω → Prop} (other : UInt32) (flag : UInt16) :
    Triple view P (DatabaseManager.getUserCharacter other flag) fun _ => P := by
  refine Triple.reads fun found => ?_
  match found with
  | none => exact ⟨_,rfl⟩
  | some none => exact ⟨_,rfl⟩
  | some (some row) => exact ⟨_,rfl⟩

theorem getUserQuickStartReads {ω : Type} {view : Database → ω} {P : ω → Prop} (other : UInt32) :
    Triple view P (getUserQuickStart other) fun _ => P := by
  refine Triple.reads fun found => ?_
  split
  · exact ⟨_,rfl⟩
  · exact ⟨_,rfl⟩

theorem Safe.getUserCharacter (safe : Safe userID serverConfig s) (u : UserRef) (flag : UInt16) :
    Safe userID serverConfig (s.getUserCharacter u flag).2 :=
  (safe.sql (getUserCharacterReads (s.lobby.user u).userID flag)).same rfl rfl

theorem Safe.sendUserStart (safe : Safe userID serverConfig s) (u : UserRef) (userCharacter : UserCharacter) (reply : Packet_ReplyType) :
    Safe userID serverConfig (s.sendUserStart u userCharacter reply) := by
  dsimp only [State.sendUserStart]
  refine .sendTo (.unless (.sql ?_ (Triple.reads fun _ => ⟨_,rfl⟩)) u _) u _
  exact .sendTo (.sendTo (.optional (.optional (.optional safe u _) u _) u _) u _) u _

theorem Safe.enterServerList (safe : Safe userID serverConfig s) (u : UserRef) : Safe userID serverConfig (s.enterServerList u) := by
  dsimp only [State.enterServerList]
  refine .unless (.sql ?_ (Triple.reads fun _ => ⟨_,rfl⟩)) u _
  refine .unless (.sql ?_ (Triple.reads fun _ => ⟨_,rfl⟩)) u _
  refine .sendTo (.sql ?_ (getUserQuickStartReads _)) u _
  refine .unless (.sql ?_ (Triple.reads fun _ => ⟨_,rfl⟩)) u _
  exact .sendTo (safe.same (t := s.setUserStatus u .InServerList) rfl rfl) u _

theorem Safe.sendLoginPackets (safe : Safe userID serverConfig s) (u : UserRef) :
    Safe userID serverConfig (s.sendLoginPackets u .CreateCharacterSuccess) := by
  have asked := safe.getUserCharacter u USERCHARACTER_FLAG_ALL
  dsimp only [State.sendLoginPackets]
  split
  · exact (asked.sendTo u _).same rfl rfl
  · exact (asked.sendUserStart u _ _).enterServerList u

theorem createUserTablesKeeps (configured : s.serverConfig = serverConfig) (userID : UInt32) :
    Triple (belongings userID) (Outfitted serverConfig.defaultBuyMenus serverConfig.defaultInventory)
      (s.createUserTables userID) fun done b =>
        Outfitted serverConfig.defaultBuyMenus serverConfig.defaultInventory b ∧
          (done = true → Complete serverConfig.defaultBuyMenus serverConfig.defaultInventory b) := by
  subst configured
  refine .bind createUserBuymenusKeeps fun menus => ?_
  cases menus with
  | false => exact .pure fun b ⟨outfitted,_⟩ => ⟨outfitted,fun done => by cases done⟩
  | true =>
    refine .bind (R := fun done b => (Outfitted s.serverConfig.defaultBuyMenus s.serverConfig.defaultInventory b ∧
      (!b.buyMenus.isEmpty) = true) ∧ (done = true → (!b.bookMarks.isEmpty) = true)) ?_ fun marks => ?_
    · intro d undisturbed ⟨outfitted,menus⟩
      exact createUserBookmarksKeeps d undisturbed ⟨outfitted,menus rfl⟩
    · cases marks with
      | false => exact .pure fun b ⟨⟨outfitted,_⟩,_⟩ => ⟨outfitted,fun done => by cases done⟩
      | true =>
        intro d undisturbed ⟨kept,marks⟩
        obtain ⟨still,⟨⟨outfitted,menus⟩,marks⟩,items⟩ := createUserInventoryKeeps d undisturbed ⟨kept,marks rfl⟩
        exact ⟨still,outfitted,fun done => outfitted.all menus marks (items done)⟩

theorem createUserTablesElsewhere {other : UInt32} {P : Belongings → Prop} (s : State) (distinct : other ≠ userID) :
    Triple (belongings userID) P (s.createUserTables other) fun _ => P := by
  refine .bind (createUserBuymenusElsewhere distinct) fun menus => ?_
  split
  · exact .pure fun _ => id
  · refine .bind (createUserBookmarksElsewhere distinct) fun marks => ?_
    split
    · exact .pure fun _ => id
    · exact createUserInventoryElsewhere distinct

-- The character's row is written once the tables are complete.
theorem Safe.createCharacter (safe : Safe userID serverConfig s) (c : ConnectionRef) (u : UserRef) (nickName : Bytes) :
    Safe userID serverConfig (s.createCharacter c u nickName) := by
  dsimp only [State.createCharacter]
  have tables : Safe userID serverConfig (s.sql (s.createUserTables (s.lobby.user u).userID)).2 := by
    by_cases own : (s.lobby.user u).userID = userID
    · rw [own]
      obtain ⟨undisturbed,outfitted,_⟩ := createUserTablesKeeps safe.configured userID s.store safe.undisturbed safe.outfitted
      exact ⟨safe.configured,undisturbed,outfitted⟩
    · exact safe.sql (createUserTablesElsewhere s own)
  split
  · exact tables.send c _
  · rename_i done
    have created : Safe userID serverConfig ((s.sql (s.createUserTables (s.lobby.user u).userID)).2.sql
        (createUserCharacter (s.lobby.user u).userID nickName)).2 := by
      by_cases own : (s.lobby.user u).userID = userID
      · rw [own] at done ⊢
        obtain ⟨undisturbed,outfitted,complete⟩ := createUserTablesKeeps safe.configured userID s.store safe.undisturbed safe.outfitted
        obtain ⟨undisturbed,outfitted⟩ :=
          createUserCharacterKeeps nickName _ undisturbed ⟨outfitted,complete (by simpa [State.sql] using done)⟩
        exact ⟨safe.configured,undisturbed,outfitted⟩
      · exact tables.sql (createUserCharacterElsewhere own nickName)
    split
    · exact created.send c _
    · split
      · exact created.send c _
      · exact created.sendLoginPackets u

theorem Safe.recvCharacter (safe : Safe userID serverConfig s) (c : ConnectionRef) (p : Packet) :
    Safe userID serverConfig (s.parsePacket_RecvCharacter c p) := by
  dsimp only [parsePacket_RecvCharacter]
  split
  · exact safe
  · rename_i u found
    have asked : Safe userID serverConfig (s.isUserCharacterExists u).2 := safe.sql (getUserCharacterReads _ _)
    split
    · exact safe
    · split
      · exact asked.send c _
      · split
        · exact asked
        · split
          · exact asked.send c _
          · exact asked.createCharacter c u _

section Run
variable {environment : Environment}

-- During the event the other servers leave the account alone.
def leavesAccount (userID : UInt32) (environment : Environment) : Prop :=
  ∀ statement ∈ environment.statements, ∀ database,
    belongings userID (statement.others database) = belongings userID database

-- RecvCharacter on any connection, or anything else that is not about the account.
inductive Turn (userID : UInt32) (s : State) : State → Prop where
  | attempt (c : ConnectionRef) (p : Packet) {environment : Environment} (leaves : leavesAccount userID environment) :
      Turn userID s ((s.enter environment).parsePacket_RecvCharacter c p)
  | other {t : State} (account : belongings userID t.store.database = belongings userID s.store.database)
      (buyMenus : t.serverConfig.defaultBuyMenus = s.serverConfig.defaultBuyMenus)
      (inventory : t.serverConfig.defaultInventory = s.serverConfig.defaultInventory) : Turn userID s t

-- An attempt has at most 15 statements; with the rest given up, the tables stay as they are
-- after the first `n`.
def upTo (n : Nat) (environment : Environment) : Environment :=
  { environment with
    statements := (environment.statements ++ List.replicate n (⟨id,true⟩ : Statement)).take n ++ List.replicate 15 ⟨id,false⟩ }

def during (s : State) (environment : Environment) (c : ConnectionRef) (p : Packet) (n : Nat) : Database :=
  ((s.enter (upTo n environment)).parsePacket_RecvCharacter c p).store.database

theorem upToLeaves (leaves : leavesAccount userID environment) (n : Nat) : leavesAccount userID (upTo n environment) := by
  intro statement mem database
  rcases List.mem_append.mp mem with first | rest
  · rcases List.mem_append.mp (List.mem_of_mem_take first) with given | quiet
    · exact leaves statement given database
    · rw [(List.mem_replicate.mp quiet).2]
      rfl
  · rw [(List.mem_replicate.mp rest).2]
    rfl

theorem attemptSafe (outfitted : Outfitted s.serverConfig.defaultBuyMenus s.serverConfig.defaultInventory
    (belongings userID s.store.database)) (leaves : leavesAccount userID environment) (c : ConnectionRef) (p : Packet) :
    Safe userID s.serverConfig ((s.enter environment).parsePacket_RecvCharacter c p) := by
  have entered : Safe userID s.serverConfig (s.enter environment) := ⟨rfl,leaves,outfitted⟩
  exact entered.recvCharacter c p

theorem turnOutfitted (outfitted : Outfitted s.serverConfig.defaultBuyMenus s.serverConfig.defaultInventory
    (belongings userID s.store.database)) (turn : Turn userID s t) :
    Outfitted t.serverConfig.defaultBuyMenus t.serverConfig.defaultInventory (belongings userID t.store.database) := by
  cases turn with
  | attempt c p leaves =>
    have safe := attemptSafe outfitted leaves c p
    rw [safe.configured]
    exact safe.outfitted
  | other account buyMenus inventory =>
    rw [account,buyMenus,inventory]
    exact outfitted

theorem turnsOutfitted (outfitted : Outfitted s.serverConfig.defaultBuyMenus s.serverConfig.defaultInventory
    (belongings userID s.store.database)) (turns : Relation.ReflTransGen (Turn userID) s t) :
    Outfitted t.serverConfig.defaultBuyMenus t.serverConfig.defaultInventory (belongings userID t.store.database) := by
  induction turns with
  | refl => exact outfitted
  | tail _ turn ih => exact turnOutfitted ih turn

-- From an account without any of the rows: after every attempt, and during the next one.
theorem characterAllOrNothing (new : belongings userID s.store.database = ⟨false,[],[],[]⟩)
    (turns : Relation.ReflTransGen (Turn userID) s t) :
    Outfitted t.serverConfig.defaultBuyMenus t.serverConfig.defaultInventory (belongings userID t.store.database) ∧
      ∀ environment, leavesAccount userID environment → ∀ c p n,
        Outfitted t.serverConfig.defaultBuyMenus t.serverConfig.defaultInventory
          (belongings userID (t.during environment c p n)) := by
  have outfitted : Outfitted s.serverConfig.defaultBuyMenus s.serverConfig.defaultInventory
      (belongings userID s.store.database) := by
    rw [new]
    exact ⟨⟨.inl rfl,.inl rfl,.inl rfl⟩,fun character => by cases character⟩
  have after := turnsOutfitted outfitted turns
  exact ⟨after,fun environment leaves c p n => (attemptSafe after (upToLeaves leaves n) c p).outfitted⟩

-- The third account's bookmarks fail at the first attempt; its second one goes through.
def stockedChannel : ChannelConfig :=
  { sampleChannel with defaultBuyMenus := [⟨0,[0,0,0,0,0,0,0,0,0]⟩], defaultInventory := [1,6] }

def bookMarksFail : Environment :=
  { sampleEnvironment with statements := [⟨id,true⟩,⟨id,true⟩,⟨id,true⟩,⟨id,true⟩,⟨id,false⟩] }

def nickNamePacket : Packet := received (SqlText.ascii "third" ++ [0])

def loggedInNew : State := Runs.run step (start stockedChannel sampleTables sampleEnvironment 0) newcomer

theorem characterAllOrNothingRetried :
    let t := (((loggedInNew.enter bookMarksFail).parsePacket_RecvCharacter 0 nickNamePacket).enter
      sampleEnvironment).parsePacket_RecvCharacter 0 nickNamePacket
    Outfitted t.serverConfig.defaultBuyMenus t.serverConfig.defaultInventory (belongings 3 t.store.database) ∧
      ∀ environment, leavesAccount 3 environment → ∀ c p n,
        Outfitted t.serverConfig.defaultBuyMenus t.serverConfig.defaultInventory (belongings 3 (t.during environment c p n)) := by
  have first : leavesAccount 3 bookMarksFail := by simp [leavesAccount,bookMarksFail]
  have second : leavesAccount 3 sampleEnvironment := by simp [leavesAccount,sampleEnvironment]
  exact characterAllOrNothing (by rfl : belongings 3 loggedInNew.store.database = ⟨false,[],[],[]⟩)
    (.tail (.single (.attempt 0 nickNamePacket first)) (.attempt 0 nickNamePacket second))

end Run
end State
end CsoMaster
