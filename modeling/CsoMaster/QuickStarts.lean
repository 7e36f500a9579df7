import CsoMaster.RoomMembership

/-! The number of a quick start and its four columns: each column takes the low byte of a
quotient, and the next is worked out from what the ones before it leave. -/
namespace CsoMaster.DatabaseManager
variable {d later : Store} {userID userQuickStart : UInt32}

-- The row that is saved.
def quickStartRow (userQuickStart : UInt32) : QuickStartRow :=
  let gameModeID := (userQuickStart / 10000).toUInt8
  let mapID := ((userQuickStart - gameModeID.toUInt32 * 10000) / 100).toUInt8
  let levelLimit := ((userQuickStart - (gameModeID.toUInt32 * 10000 + mapID.toUInt32 * 100)) / 10).toUInt8
  let clanBattle := (userQuickStart -
    (gameModeID.toUInt32 * 10000 + mapID.toUInt32 * 100 + levelLimit.toUInt32 * 10)).toUInt8
  ⟨gameModeID,mapID,levelLimit,clanBattle⟩

def quickStartNumber (row : QuickStartRow) : Nat :=
  row.gameModeID.toNat * 10000 + row.mapID.toNat * 100 + row.levelLimit.toNat * 10 + row.clanBattle.toNat

-- What is subtracted on the way to a column is never more than the number.
structure Subtracts (userQuickStart : UInt32) (row : QuickStartRow) : Prop where
  gameModes : row.gameModeID.toNat * 10000 ≤ userQuickStart.toNat
  maps : row.gameModeID.toNat * 10000 + row.mapID.toNat * 100 ≤ userQuickStart.toNat
  levels : row.gameModeID.toNat * 10000 + row.mapID.toNat * 100 + row.levelLimit.toNat * 10 ≤ userQuickStart.toNat

structure Digits (userQuickStart : UInt32) (row : QuickStartRow) : Prop where
  gameModeID : row.gameModeID.toNat = userQuickStart.toNat / 10000
  mapID : row.mapID.toNat = userQuickStart.toNat % 10000 / 100
  levelLimit : row.levelLimit.toNat = userQuickStart.toNat % 100 / 10
  clanBattle : row.clanBattle.toNat = userQuickStart.toNat % 10

-- The columns over the natural numbers.
structure Columns (q : Nat) (row : QuickStartRow) : Prop where
  gameModeID : row.gameModeID.toNat = q / 10000 % 256
  mapID : row.mapID.toNat = (q - row.gameModeID.toNat * 10000) / 100 % 256
  levelLimit : row.levelLimit.toNat = (q - (row.gameModeID.toNat * 10000 + row.mapID.toNat * 100)) / 10 % 256
  clanBattle : row.clanBattle.toNat =
    (q - (row.gameModeID.toNat * 10000 + row.mapID.toNat * 100 + row.levelLimit.toNat * 10)) % 256

theorem columnLeaves (q unit : Nat) : q / unit % 256 * unit ≤ q :=
  (Nat.mul_le_mul_right unit (Nat.mod_le _ 256)).trans (Nat.div_mul_le_self q unit)

-- A column times its unit, as a 32-bit number.
theorem scaled (column : UInt8) {unit : UInt32} (small : unit.toNat ≤ 10000) :
    (column.toUInt32 * unit).toNat = column.toNat * unit.toNat := by
  have bound := column.toNat_lt
  have product : column.toNat * unit.toNat ≤ 255 * 10000 := Nat.mul_le_mul (by omega) small
  rw [UInt32.toNat_mul,UInt8.toNat_toUInt32,Nat.mod_eq_of_lt (by omega)]

section Row
variable (row : QuickStartRow)

theorem gamesTaken : (row.gameModeID.toUInt32 * 10000).toNat = row.gameModeID.toNat * 10000 :=
  scaled row.gameModeID (by decide)

theorem mapsTaken : (row.gameModeID.toUInt32 * 10000 + row.mapID.toUInt32 * 100).toNat =
    row.gameModeID.toNat * 10000 + row.mapID.toNat * 100 := by
  have games := row.gameModeID.toNat_lt
  have maps := row.mapID.toNat_lt
  have scaledMap : (row.mapID.toUInt32 * 100).toNat = row.mapID.toNat * 100 := scaled row.mapID (by decide)
  rw [UInt32.toNat_add,gamesTaken row,scaledMap,Nat.mod_eq_of_lt (by omega)]

theorem levelsTaken : (row.gameModeID.toUInt32 * 10000 + row.mapID.toUInt32 * 100 + row.levelLimit.toUInt32 * 10).toNat =
    row.gameModeID.toNat * 10000 + row.mapID.toNat * 100 + row.levelLimit.toNat * 10 := by
  have games := row.gameModeID.toNat_lt
  have maps := row.mapID.toNat_lt
  have levels := row.levelLimit.toNat_lt
  have scaledLevel : (row.levelLimit.toUInt32 * 10).toNat = row.levelLimit.toNat * 10 := scaled row.levelLimit (by decide)
  rw [UInt32.toNat_add,mapsTaken row,scaledLevel,Nat.mod_eq_of_lt (by omega)]

theorem numberRead : (row.gameModeID.toUInt32 * 10000 + row.mapID.toUInt32 * 100 + row.levelLimit.toUInt32 * 10 +
    row.clanBattle.toUInt32).toNat = quickStartNumber row := by
  have games := row.gameModeID.toNat_lt
  have maps := row.mapID.toNat_lt
  have levels := row.levelLimit.toNat_lt
  have battle := row.clanBattle.toNat_lt
  rw [UInt32.toNat_add,levelsTaken row,UInt8.toNat_toUInt32,Nat.mod_eq_of_lt (by omega),quickStartNumber]

end Row

theorem subtracted {taken : UInt32} {n : Nat} (same : taken.toNat = n) (within : n ≤ userQuickStart.toNat) :
    (userQuickStart - taken).toNat = userQuickStart.toNat - n := by
  rw [UInt32.toNat_sub_of_le _ _ (UInt32.le_iff_toNat_le.mpr (by rw [same]; exact within)),same]

-- A column is worked out after those before it, and its remainder needs theirs not to wrap.
theorem quickStartColumns (userQuickStart : UInt32) :
    Columns userQuickStart.toNat (quickStartRow userQuickStart) ∧ Subtracts userQuickStart (quickStartRow userQuickStart) := by
  set row := quickStartRow userQuickStart with saved
  have gameModeID : row.gameModeID.toNat = userQuickStart.toNat / 10000 % 256 := by simp [saved,quickStartRow]
  have games : row.gameModeID.toNat * 10000 ≤ userQuickStart.toNat := by
    rw [gameModeID]
    exact columnLeaves userQuickStart.toNat 10000
  have mapID : row.mapID.toNat = (userQuickStart.toNat - row.gameModeID.toNat * 10000) / 100 % 256 := by
    rw [← subtracted (gamesTaken row) games]
    simp [saved,quickStartRow]
  have maps : row.gameModeID.toNat * 10000 + row.mapID.toNat * 100 ≤ userQuickStart.toNat := by
    rw [← Nat.le_sub_iff_add_le' games,mapID]
    exact columnLeaves (userQuickStart.toNat - row.gameModeID.toNat * 10000) 100
  have levelLimit : row.levelLimit.toNat =
      (userQuickStart.toNat - (row.gameModeID.toNat * 10000 + row.mapID.toNat * 100)) / 10 % 256 := by
    rw [← subtracted (mapsTaken row) maps]
    simp [saved,quickStartRow]
  have levels : row.gameModeID.toNat * 10000 + row.mapID.toNat * 100 + row.levelLimit.toNat * 10 ≤ userQuickStart.toNat := by
    rw [← Nat.le_sub_iff_add_le' maps,levelLimit]
    exact columnLeaves (userQuickStart.toNat - (row.gameModeID.toNat * 10000 + row.mapID.toNat * 100)) 10
  have clanBattle : row.clanBattle.toNat = (userQuickStart.toNat -
      (row.gameModeID.toNat * 10000 + row.mapID.toNat * 100 + row.levelLimit.toNat * 10)) % 256 := by
    have last : row.clanBattle = (userQuickStart -
        (row.gameModeID.toUInt32 * 10000 + row.mapID.toUInt32 * 100 + row.levelLimit.toUInt32 * 10)).toUInt8 := rfl
    rw [last,UInt32.toNat_toUInt8,subtracted (levelsTaken row) levels]
  exact ⟨⟨gameModeID,mapID,levelLimit,clanBattle⟩,⟨games,maps,levels⟩⟩

theorem columnsDigits {row : QuickStartRow} (columns : Columns userQuickStart.toNat row)
    (small : userQuickStart.toNat < 2560000) : Digits userQuickStart row := by
  obtain ⟨gameModeID,mapID,levelLimit,clanBattle⟩ := columns
  refine ⟨?_,?_,?_,?_⟩ <;> omega

-- Four bytes add up to less, so the number below is out of their reach from there on.
theorem columnsNumber {row : QuickStartRow} (columns : Columns userQuickStart.toNat row) :
    quickStartNumber row = userQuickStart.toNat ↔ userQuickStart.toNat < 2560000 := by
  obtain ⟨gameModeID,mapID,levelLimit,clanBattle⟩ := columns
  rw [quickStartNumber]
  omega

theorem saveQuickStartRow : saveUserQuickStart userID userQuickStart =
    execute fun d => { d with userQuickStarts := d.userQuickStarts.insert userID (quickStartRow userQuickStart) } := rfl

theorem savedQuickStart (saved : (saveUserQuickStart userID userQuickStart d).1 = true) :
    (saveUserQuickStart userID userQuickStart d).2.database.userQuickStarts.lookup userID = some (quickStartRow userQuickStart) := by
  rw [saveQuickStartRow] at saved ⊢
  have runs : d.runsNext = true := executed saved
  obtain ⟨database,written⟩ := executeRuns runs fun d : Database =>
    { d with userQuickStarts := d.userQuickStarts.insert userID (quickStartRow userQuickStart) }
  rw [written]
  exact AList.lookup_insert _

theorem readQuickStart {row : QuickStartRow} (runs : later.runsNext = true)
    (found : (answered later).database.userQuickStarts.lookup userID = some row) :
    ((getUserQuickStart userID later).1).toNat = quickStartNumber row := by
  rw [← numberRead row]
  simp [getUserQuickStart,select,bind,StateT.bind,queryRuns runs,found,pureRuns]

-- Where the user's row is still the saved one when it is read.
theorem quickStartRestored (saved : (saveUserQuickStart userID userQuickStart d).1 = true) (runs : later.runsNext = true)
    (kept : (answered later).database.userQuickStarts.lookup userID =
      (saveUserQuickStart userID userQuickStart d).2.database.userQuickStarts.lookup userID) :
    ((getUserQuickStart userID later).1 = userQuickStart ↔ userQuickStart.toNat < 2560000) ∧
      ∃ row, (saveUserQuickStart userID userQuickStart d).2.database.userQuickStarts.lookup userID = some row ∧
        Subtracts userQuickStart row ∧ (userQuickStart.toNat < 2560000 → Digits userQuickStart row) := by
  have stored := savedQuickStart saved
  obtain ⟨columns,subtracts⟩ := quickStartColumns userQuickStart
  have read := readQuickStart runs (kept.trans stored)
  refine ⟨?_,quickStartRow userQuickStart,stored,subtracts,columnsDigits columns⟩
  rw [← columnsNumber columns,← read]
  exact UInt32.toNat_inj.symm

-- 1230123 of user 1, read right after it is saved.
theorem quickStartRestoredSample :
    let d : Store := ⟨State.sampleTables,[]⟩
    let later := (saveUserQuickStart 1 1230123 d).2
    ((getUserQuickStart 1 later).1 = 1230123 ↔ (1230123 : UInt32).toNat < 2560000) ∧
      ∃ row, later.database.userQuickStarts.lookup 1 = some row ∧
        Subtracts 1230123 row ∧ ((1230123 : UInt32).toNat < 2560000 → Digits 1230123 row) := by
  exact quickStartRestored rfl rfl rfl

end CsoMaster.DatabaseManager
