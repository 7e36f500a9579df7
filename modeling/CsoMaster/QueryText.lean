import CsoMaster.Packet
import CsoMaster.ServerConfig
import CsoMaster.SqlText

/-! The four places where a client's string is put between the quotes of a query, with
the handler's own filter in front of each. `escape` is what `mysql_real_escape_string`
writes for one byte. -/
namespace CsoMaster.QueryText
open SqlText

def NICKNAME_MIN_SIZE : Nat := 4
def NICKNAME_MAX_SIZE : Nat := 16
def NICKNAME_MAX_CHAR_COUNT : Nat := 3
def BOOKMARK_MAX_SLOT : UInt8 := 5
def BOOKMARK_NAME_MAX_SIZE : Nat := 12
def BOOKMARK_FLASHBANG_MAX : UInt8 := 2
def BOOKMARK_KEVLAR_MAX : UInt8 := 2

def INVALID_CHARS : Bytes := ascii "!@#$%^&*()_+-=[]\x7b\x7d|;':\",.<>\\/?`~ "

inductive NickNameReply where
  | ID_TOO_SHORT
  | ID_TOO_LONG
  | INVALID_CHAR
  | ID_DIGIT_BEFORE_CHAR
  | ID_EXCEED_CHAR_COUNT
  | ID_PROHIBITED
  deriving DecidableEq, Repr

def isDigit (b : UInt8) : Bool := 48 ≤ b && b ≤ 57
def tolower (b : UInt8) : UInt8 := if 65 ≤ b && b ≤ 90 then b + 32 else b

-- `npos` is larger than every position, so a name of digits alone is refused here too.
def digitBeforeChar (nickName : Bytes) : Bool :=
  let first_number_pos := nickName.findIdx? isDigit
  let last_char_pos := (nickName.reverse.findIdx? (!isDigit ·)).map (nickName.length - 1 - ·)
  match first_number_pos, last_char_pos with
  | none, _ => false
  | some _, none => true
  | some first, some last => last > first

def find (name : Bytes) : Bytes → Bool
  | [] => name.isEmpty
  | b :: rest => name.isPrefixOf (b :: rest) || find name rest

def nickNameReply (prohibitedNames : List Bytes) (nickName : Bytes) : Option NickNameReply :=
  if nickName.length < NICKNAME_MIN_SIZE then some .ID_TOO_SHORT
  else if nickName.length > NICKNAME_MAX_SIZE then some .ID_TOO_LONG
  else if nickName.any INVALID_CHARS.contains then some .INVALID_CHAR
  else if digitBeforeChar nickName then some .ID_DIGIT_BEFORE_CHAR
  else if nickName.any (fun c => nickName.count c > NICKNAME_MAX_CHAR_COUNT) then some .ID_EXCEED_CHAR_COUNT
  else if prohibitedNames.any (fun name => find name (nickName.map tolower)) then some .ID_PROHIBITED
  else none

structure BookMark where
  slotID : UInt8
  name : Bytes
  primaryItemID : UInt8
  primaryAmmo : Bool
  secondaryItemID : UInt8
  secondaryAmmo : Bool
  flashbang : UInt8
  hegrenade : Bool
  smokegrenade : Bool
  defusekit : Bool
  nightvision : Bool
  kevlar : UInt8
  unk1 : UInt8
  deriving DecidableEq, Repr

def readUserBookMark (p : Packet) : Option BookMark :=
  let slotID := p.readUInt8
  if slotID.1 ≥ BOOKMARK_MAX_SLOT then none
  else
    let name := slotID.2.readString
    let primaryItemID := name.2.readUInt8
    let primaryAmmo := primaryItemID.2.readBool
    let secondaryItemID := primaryAmmo.2.readUInt8
    let secondaryAmmo := secondaryItemID.2.readBool
    let flashbang := secondaryAmmo.2.readUInt8
    let hegrenade := flashbang.2.readBool
    let smokegrenade := hegrenade.2.readBool
    let defusekit := smokegrenade.2.readBool
    let nightvision := defusekit.2.readBool
    let kevlar := nightvision.2.readUInt8
    let unk1 := kevlar.2.readUInt8
    some {
      slotID := slotID.1
      name := if name.1.length > BOOKMARK_NAME_MAX_SIZE then name.1.take BOOKMARK_NAME_MAX_SIZE else name.1
      primaryItemID := primaryItemID.1
      primaryAmmo := primaryAmmo.1
      secondaryItemID := secondaryItemID.1
      secondaryAmmo := secondaryAmmo.1
      flashbang := if flashbang.1 > BOOKMARK_FLASHBANG_MAX then BOOKMARK_FLASHBANG_MAX else flashbang.1
      hegrenade := hegrenade.1
      smokegrenade := smokegrenade.1
      defusekit := defusekit.1
      nightvision := nightvision.1
      kevlar := if kevlar.1 > BOOKMARK_KEVLAR_MAX then BOOKMARK_KEVLAR_MAX else kevlar.1
      unk1 := unk1.1 }

-- A query with its one string position: the texts around the quotes, what was put
-- between them and what the handler meant to put there.
structure Query where
  before : Bytes
  inserted : Bytes
  after : Bytes
  supplied : Bytes
  deriving DecidableEq, Repr

def Query.text (q : Query) : Bytes := quoted q.before q.inserted q.after

def Query.SameStatement (q : Query) : Prop :=
  lex .outside q.text = some (plain q.before ++ .literal q.supplied :: plain q.after)

def formatBool (b : Bool) : Bytes := if b then ascii "true" else ascii "false"
def formatUInt8 (n : UInt8) : Bytes := decimal n.toNat
def formatUInt32 (n : UInt32) : Bytes := decimal n.toNat

section Queries
variable (escape : UInt8 → Bytes)

def mysql_real_escape_string (s : Bytes) : Bytes := s.flatMap escape

def loginQueries (userName password : Bytes) : List Query :=
  if userName.isEmpty then []
  else if password.isEmpty then []
  else [⟨ascii "SELECT userID, password FROM users WHERE userName = ",
    mysql_real_escape_string escape userName,ascii ";",userName⟩]

def transferLoginQueries (place : Place) (authToken : Bytes) : List Query :=
  if authToken.isEmpty then []
  else [⟨ascii "SELECT userID FROM user_transfers WHERE authToken = ",authToken,
    ascii " AND serverID = " ++ formatUInt8 place.serverID ++ ascii " AND channelID = " ++
      formatUInt8 place.channelID ++ ascii ";",authToken⟩]

def createUserCharacterQueries (userID : UInt32) (nickName : Bytes) : List Query :=
  [⟨ascii "SELECT 1 FROM user_characters WHERE nickName = ",nickName,ascii ";",nickName⟩,
    ⟨ascii "INSERT INTO user_characters (userID, nickName) VALUES (" ++ formatUInt32 userID ++ ascii ", ",
      nickName,ascii ");",nickName⟩]

def saveUserBookMarkQuery (userID : UInt32) (b : BookMark) : Query :=
  ⟨ascii "UPDATE user_bookmarks SET name = ",mysql_real_escape_string escape b.name,
    ascii ", primaryItemID = " ++ formatUInt8 b.primaryItemID ++
      ascii ", primaryAmmo = " ++ formatBool b.primaryAmmo ++
      ascii ", secondaryItemID = " ++ formatUInt8 b.secondaryItemID ++
      ascii ", secondaryAmmo = " ++ formatBool b.secondaryAmmo ++
      ascii ", flashbang = " ++ formatUInt8 b.flashbang ++
      ascii ", hegrenade = " ++ formatBool b.hegrenade ++
      ascii ", smokegrenade = " ++ formatBool b.smokegrenade ++
      ascii ", defusekit = " ++ formatBool b.defusekit ++
      ascii ", nightvision = " ++ formatBool b.nightvision ++
      ascii ", kevlar = " ++ formatUInt8 b.kevlar ++
      ascii ", unk1 = " ++ formatUInt8 b.unk1 ++
      ascii " WHERE userID = " ++ formatUInt32 userID ++
      ascii " AND slotID = " ++ formatUInt8 b.slotID ++ ascii ";",
    b.name⟩

-- Which handler took the packet, and as which user where it needs one.
inductive Handler where
  | login
  | transferLogin
  | recvCharacter (userID : UInt32)
  | userBookMark (userID : UInt32)
  deriving DecidableEq, Repr

-- Every query a packet's string can get into, with the database answering as it likes.
def queries (config : ServerConfig) (p : Packet) : Handler → List Query
  | .login =>
    let userName := p.readString
    let password := userName.2.readString
    loginQueries escape userName.1 password.1
  | .transferLogin => transferLoginQueries config.place p.readString.1
  | .recvCharacter userID =>
    let nickName := p.readString.1
    match nickNameReply config.prohibitedNames nickName with
    | some _ => []
    | none => createUserCharacterQueries userID nickName
  | .userBookMark userID =>
    match readUserBookMark p with
    | none => []
    | some userBookMark => [saveUserBookMarkQuery escape userID userBookMark]

end Queries

/-! When the text says what the handler meant. -/

-- The documented behaviour of `mysql_real_escape_string`: quote and backslash get a
-- backslash in front, any other byte stands for itself or is a backslash and its letter.
structure Escapes (escape : UInt8 → Bytes) : Prop where
  special : ∀ b, b = QUOTE ∨ b = BACKSLASH → escape b = [BACKSLASH,b]
  other : ∀ b, escape b = [b] ∨ ∃ c, escape b = [BACKSLASH,c] ∧ unescape c = [b]

def Unambiguous (p : Packet) : Handler → Prop
  | .transferLogin => verbatim QUOTE p.readString.1 = true
  | _ => True

section Safety
variable {escape : UInt8 → Bytes} (escapes : Escapes escape)
include escapes

theorem escapedByte (b : UInt8) :
    (escape b = [b] ∧ b ≠ BACKSLASH ∧ b ≠ QUOTE) ∨ ∃ c, escape b = [BACKSLASH,c] ∧ unescape c = [b] := by
  by_cases special : b = QUOTE ∨ b = BACKSLASH
  · refine .inr ⟨b,escapes.special b special,?_⟩
    rcases special with rfl | rfl <;> rfl
  · rcases escapes.other b with same | pair
    · exact .inl ⟨same,fun h => special (.inr h),fun h => special (.inl h)⟩
    · exact .inr pair

theorem escapedSpells (s : Bytes) : Spells QUOTE (mysql_real_escape_string escape s) s := by
  induction s with
  | nil => exact .nil
  | cons b rest ih =>
    have split : mysql_real_escape_string escape (b :: rest) =
        escape b ++ mysql_real_escape_string escape rest := rfl
    rw [split]
    rcases escapedByte escapes b with ⟨same,slash,quote⟩ | ⟨c,pair,decoded⟩
    · rw [same]
      exact .byte slash quote ih
    · have value : b :: rest = unescape c ++ rest := by rw [decoded]; rfl
      rw [pair,value]
      exact .escape c ih

end Safety

theorem formatUInt8Plain (n : UInt8) : Plain (formatUInt8 n) := decimalPlain _
theorem formatUInt32Plain (n : UInt32) : Plain (formatUInt32 n) := decimalPlain _
theorem formatBoolPlain (b : Bool) : Plain (formatBool b) := by cases b <;> decide

-- A name the validation lets through holds no quote and no backslash.
theorem nickNameVerbatim {prohibitedNames nickName} (valid : nickNameReply prohibitedNames nickName = none) :
    verbatim QUOTE nickName = true := by
  unfold nickNameReply at valid
  split_ifs at valid with short long invalid digit many prohibited
  refine verbatimClean fun b member => ?_
  have clean : INVALID_CHARS.contains b ≠ true := fun found => invalid (List.any_eq_true.mpr ⟨b,member,found⟩)
  constructor
  · rintro rfl
    exact clean (by decide)
  · rintro rfl
    exact clean (by decide)

theorem sameOfSpells {q : Query} (before : Plain q.before) (after : Plain q.after)
    (spells : Spells QUOTE q.inserted q.supplied) : q.SameStatement := quotedSpells before after spells

theorem sameIffVerbatim {q : Query} (before : Plain q.before) (after : Plain q.after)
    (raw : q.inserted = q.supplied) : q.SameStatement ↔ verbatim QUOTE q.supplied = true := by
  unfold Query.SameStatement Query.text
  rw [raw]
  exact quotedVerbatim before after q.supplied

theorem loginSame {escape : UInt8 → Bytes} (escapes : Escapes escape) (userName password : Bytes) :
    ∀ q ∈ loginQueries escape userName password, q.SameStatement := by
  intro q member
  unfold loginQueries at member
  split_ifs at member
  · cases member
  · cases member
  · rw [List.mem_singleton.mp member]
    exact sameOfSpells (by dsimp only; decide) (by dsimp only; decide) (escapedSpells escapes _)

theorem transferLoginSame (place : Place) (authToken : Bytes) :
    (∀ q ∈ transferLoginQueries place authToken, q.SameStatement) ↔
      verbatim QUOTE authToken = true := by
  unfold transferLoginQueries
  cases authToken with
  | nil => simp [verbatim]
  | cons b rest =>
    simp only [List.isEmpty_cons,Bool.false_eq_true,if_false,List.mem_singleton,forall_eq]
    refine sameIffVerbatim (by dsimp only; decide) ?_ rfl
    simp only [plainAppend,formatUInt8Plain,and_true]
    decide

theorem createUserCharacterSame (userID : UInt32) {nickName : Bytes} (kept : verbatim QUOTE nickName = true) :
    ∀ q ∈ createUserCharacterQueries userID nickName, q.SameStatement := by
  intro q member
  simp only [createUserCharacterQueries,List.mem_cons,List.not_mem_nil,or_false] at member
  rcases member with rfl | rfl
  · exact (sameIffVerbatim (by dsimp only; decide) (by dsimp only; decide) rfl).mpr kept
  · refine (sameIffVerbatim ?_ (by dsimp only; decide) rfl).mpr kept
    simp only [plainAppend,formatUInt32Plain,and_true]
    decide

theorem saveUserBookMarkSame {escape : UInt8 → Bytes} (escapes : Escapes escape) (userID : UInt32) (b : BookMark) :
    (saveUserBookMarkQuery escape userID b).SameStatement := by
  refine sameOfSpells (by unfold saveUserBookMarkQuery; dsimp only; decide) ?_ (escapedSpells escapes _)
  simp only [saveUserBookMarkQuery,plainAppend,formatUInt8Plain,formatUInt32Plain,formatBoolPlain,and_true]
  decide

-- Client strings leave every statement as its template, except a transfer token that is
-- not its own spelling.
theorem queriesKeepStatements {escape : UInt8 → Bytes} (escapes : Escapes escape) (config : ServerConfig)
    (p : Packet) (handler : Handler) :
    (∀ q ∈ queries escape config p handler, q.SameStatement) ↔ Unambiguous p handler := by
  cases handler with
  | login => exact ⟨fun _ => trivial,fun _ => loginSame escapes _ _⟩
  | transferLogin => exact transferLoginSame config.place p.readString.1
  | recvCharacter userID =>
    refine ⟨fun _ => trivial,fun _ q member => ?_⟩
    simp only [queries] at member
    split at member
    · cases member
    · rename_i valid
      exact createUserCharacterSame userID (nickNameVerbatim valid) q member
  | userBookMark userID =>
    refine ⟨fun _ => trivial,fun _ q member => ?_⟩
    simp only [queries] at member
    split at member
    · cases member
    · rw [List.mem_singleton.mp member]
      exact saveUserBookMarkSame escapes userID _

-- The escapes of the client library's manual: NUL, line ends, quotes, backslash, Ctrl-Z.
def documentedEscape (b : UInt8) : Bytes :=
  if b = 0 then [BACKSLASH,48]
  else if b = 10 then [BACKSLASH,110]
  else if b = 13 then [BACKSLASH,114]
  else if b = 26 then [BACKSLASH,90]
  else if b = BACKSLASH ∨ b = QUOTE ∨ b = DOUBLE_QUOTE then [BACKSLASH,b]
  else [b]

theorem documentedEscapes : Escapes documentedEscape := by
  constructor
  · intro b special
    rcases special with rfl | rfl <;> rfl
  · intro b
    unfold documentedEscape
    split_ifs with nul line carriage control quote
    · exact .inr ⟨48,rfl,by rw [nul]; rfl⟩
    · exact .inr ⟨110,rfl,by rw [line]; rfl⟩
    · exact .inr ⟨114,rfl,by rw [carriage]; rfl⟩
    · exact .inr ⟨90,rfl,by rw [control]; rfl⟩
    · refine .inr ⟨b,rfl,?_⟩
      rcases quote with rfl | rfl | rfl <;> rfl
    · exact .inl rfl

def someConfig : ServerConfig := ⟨⟨1,2⟩,600,[],[]⟩

-- A user name with a quote and a backslash in it, escaped by the handler.
theorem queriesKeepStatementsLogin :
    (Query.mk (ascii "SELECT userID, password FROM users WHERE userName = ") (ascii "o\\'\\\\x") (ascii ";")
      (ascii "o'\\x")).SameStatement :=
  (queriesKeepStatements documentedEscapes someConfig (Packet.createServer (ascii "o'\\x" ++ [0,112,0])) .login).mpr
    trivial _ (List.mem_singleton_self _)

-- `' OR '1'='1` as a transfer token: its quotes end the literal.
theorem transferTokenInjection :
    ¬ ∀ escape, Escapes escape → ∀ config p handler, ∀ q ∈ queries escape config p handler, q.SameStatement := by
  intro always
  have token := always documentedEscape documentedEscapes someConfig
    (Packet.createServer (ascii "' OR '1'='1" ++ [0])) .transferLogin
  rw [show queries documentedEscape someConfig (Packet.createServer (ascii "' OR '1'='1" ++ [0])) .transferLogin =
    transferLoginQueries ⟨1,2⟩ (ascii "' OR '1'='1") from rfl,transferLoginSame] at token
  exact absurd token (by decide)

end CsoMaster.QueryText
