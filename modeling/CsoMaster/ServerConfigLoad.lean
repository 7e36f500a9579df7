import CsoMaster.Json
import CsoMaster.ServerListing

/-! `ServerConfig::Load`: the defaults with `serverconfig.json` merged into them, read key by key.
The list of servers is numbered by 8-bit counters, and the server's own IDs are read beside it. -/
namespace CsoMaster
open SqlText (ascii decimal)

inductive CipherMethod where
  | CleanUp
  | CleanUp2
  | RC4
  | RC4_40
  | Null
  deriving DecidableEq, Repr

structure NamedChannel extends Channel where
  name : Bytes
  ip : Bytes
  port : UInt16
  deriving DecidableEq, Repr

structure NamedServer where
  id : UInt8
  status : ServerStatus
  type : Int
  name : Bytes
  channels : List NamedChannel
  deriving DecidableEq, Repr

structure LoadedConfig where
  ip : UInt32
  port : UInt16
  ssl : Bool
  decryptCipherMethod : CipherMethod
  encryptCipherMethod : CipherMethod
  udpAuthKey : Bytes
  maxPlayers : UInt16
  place : Place
  serverList : List NamedServer
  sqlServer : Bytes
  sqlUser : Bytes
  sqlPassword : Bytes
  sqlDatabase : Bytes
  prohibitedNames : List Bytes
  defaultBuyMenus : List BuyMenu
  defaultInventory : List UInt8
  deriving DecidableEq, Repr

namespace LoadedConfig
open Json (TypeError getInt getString getBool getVector)

section Defaults

def object (members : List (String × Json)) : Json :=
  .object (members.foldl (fun object member => Json.setMember (ascii member.1) member.2 object) [])

def text (s : String) : Json := .string (ascii s)

def numbers (ns : List Int) : Json := .array (ns.map .number)

def defaultServerConfig : Json :=
  object [
    ("IP",text "127.0.0.1"),
    ("Port",.number 8001),
    ("SSL",.boolean true),
    ("DecryptCipherMethod",.number 1),
    ("EncryptCipherMethod",.number 1),
    ("UDPAuthKey",text ""),
    ("MaxPlayers",.number 600),
    ("ServerID",.number 1),
    ("ChannelID",.number 1),
    ("ServerList",.array [object [
      ("Type",.number 0),
      ("Name",text "Server 1"),
      ("Channels",.array [object [("Name",text "Channel 1-1")]])]]),
    ("SQL",object [
      ("Server",text "localhost"),
      ("User",text "root"),
      ("Password",text ""),
      ("Database",text "csodatabase")]),
    ("ProhibitedNames",.array []),
    ("DefaultBuyMenus",object [
      ("Terrorist",object [
        ("Pistol",numbers [3,6,2,4,1]),
        ("ShotGun",numbers [7,8,38]),
        ("SubMachineGun",numbers [10,12,13,11,37]),
        ("Rifle",numbers [23,21,17,19,14,22,34,39]),
        ("MachineGun",numbers [24,32]),
        ("Equipment",numbers [27,28,30,31,26,25]),
        ("Class",numbers [41,42,43,40,44,45,46,47,48])]),
      ("Counter-Terrorist",object [
        ("Pistol",numbers [3,6,2,4,5]),
        ("ShotGun",numbers [7,8]),
        ("SubMachineGun",numbers [9,12,13,11,36,37]),
        ("Rifle",numbers [20,17,15,16,18,14,33,35]),
        ("MachineGun",numbers [24,32]),
        ("Equipment",numbers [27,28,30,31,26,25,29]),
        ("Class",numbers [49,50,52,51,53,54,55,56,57])])]),
    ("DefaultInventory",numbers ((List.range 57).map fun i => (i + 1 : Int)))]

def buyMenuCategories : List String :=
  ["Pistol","ShotGun","SubMachineGun","Rifle","MachineGun","Equipment","Class"]

end Defaults

section Load

-- `config[key]` of a key that is there.
def member (config : Json) (key : String) : Json := (config.find (ascii key)).getD .null

-- `if (config.contains(key))`, and what stays where it is not.
def given {α : Type} (config : Json) (key : String) (unset : α) (read : Except TypeError α) : Except TypeError α :=
  if config.contains (ascii key) then read else pure unset

def intValue (config : Json) (key : String) (default : Int) : Except TypeError Int := config.value getInt (ascii key) default

def stringValue (config : Json) (key : String) (default : Bytes) : Except TypeError Bytes :=
  config.value getString (ascii key) default

def cipherMethod (value : Int) : CipherMethod :=
  if UInt8.ofInt value = 1 then .RC4 else if UInt8.ofInt value = 2 then .RC4_40 else .Null

def loadChannel (place : Place) (serverID channelID : UInt8) (channel : Json) : Except TypeError NamedChannel := do
  let name ← stringValue channel "Name" (ascii "Channel " ++ decimal serverID.toNat ++ ascii "-" ++ decimal channelID.toNat)
  if serverID ≠ place.serverID ∨ serverID = place.serverID ∧ channelID ≠ place.channelID then
    return {
      id := channelID
      name := name
      numPlayers := 0
      maxPlayers := UInt16.ofInt (← intValue channel "MaxPlayers" 600)
      ip := ← stringValue channel "IP" (ascii "127.0.0.1")
      port := UInt16.ofInt (← intValue channel "Port" 8001)
      isOnline := false
      lastHeartbeat := 0 }
  else return ⟨⟨channelID,0,0,true,0⟩,name,[],0⟩

-- `for (auto& entry : entries)` with its counter, `id++`.
def loadEach {α : Type} (load : UInt8 → Json → Except TypeError α) : UInt8 → List Json → Except TypeError (List α)
  | _, [] => return []
  | id, entry :: entries => do
    let first ← load id entry
    let rest ← loadEach load (id + 1) entries
    return first :: rest

-- `(ServerType)` of an `int`, whatever it is.
def loadServer (place : Place) (serverID : UInt8) (server : Json) : Except TypeError NamedServer := do
  let type ← intValue server "Type" 0
  let name ← stringValue server "Name" (ascii "Server " ++ decimal serverID.toNat)
  let channels ← given server "Channels" [] (loadEach (loadChannel place serverID) 1 (member server "Channels").items)
  return ⟨serverID,if serverID = place.serverID then .Ready else .NotReady,type.bmod (2 ^ 32),name,channels⟩

-- The menus of one side, `first` the category ID of its first.
def loadBuyMenus (first : UInt8) (side : Json) : Except TypeError (List BuyMenu) :=
  (buyMenuCategories.zipIdx.filter fun category => side.contains (ascii category.1)).mapM fun category => do
    let items ← getVector getInt (member side category.1)
    return ⟨UInt8.ofNat category.2 + first,
      (items.map UInt8.ofInt ++ List.replicate BUYMENU_MAX_SLOT.toNat 0).take BUYMENU_MAX_SLOT.toNat⟩

def read (inet_pton : Bytes → UInt32) (config : Json) : Except TypeError LoadedConfig := do
  let ip ← given config "IP" 0 (inet_pton <$> stringValue config "IP" (ascii "127.0.0.1"))
  let port ← given config "Port" 0 (UInt16.ofInt <$> intValue config "Port" 8001)
  let ssl ← given config "SSL" false (config.value getBool (ascii "SSL") true)
  let decryptCipherMethod ← given config "DecryptCipherMethod" .CleanUp
    (cipherMethod <$> intValue config "DecryptCipherMethod" 1)
  let encryptCipherMethod ← given config "EncryptCipherMethod" .CleanUp
    (cipherMethod <$> intValue config "EncryptCipherMethod" 1)
  let udpAuthKey ← given config "UDPAuthKey" [] (stringValue config "UDPAuthKey" [])
  let maxPlayers ← given config "MaxPlayers" 0 (UInt16.ofInt <$> intValue config "MaxPlayers" 600)
  let serverID ← given config "ServerID" 0 (UInt8.ofInt <$> intValue config "ServerID" 1)
  let channelID ← given config "ChannelID" 0 (UInt8.ofInt <$> intValue config "ChannelID" 1)
  let serverList ← given config "ServerList" [] (loadEach (loadServer ⟨serverID,channelID⟩) 1 (member config "ServerList").items)
  let sql := member config "SQL"
  let sqlServer ← given config "SQL" [] (stringValue sql "Server" (ascii "localhost"))
  let sqlUser ← given config "SQL" [] (stringValue sql "User" (ascii "root"))
  let sqlPassword ← given config "SQL" [] (stringValue sql "Password" [])
  let sqlDatabase ← given config "SQL" [] (stringValue sql "Database" (ascii "csodatabase"))
  let prohibitedNames ← given config "ProhibitedNames" [] (getVector getString (member config "ProhibitedNames"))
  let menus := member config "DefaultBuyMenus"
  let terrorist ← given config "DefaultBuyMenus" [] (given menus "Terrorist" [] (loadBuyMenus 0 (member menus "Terrorist")))
  let counter ← given config "DefaultBuyMenus" []
    (given menus "Counter-Terrorist" [] (loadBuyMenus 7 (member menus "Counter-Terrorist")))
  let inventory ← given config "DefaultInventory" [] (getVector getInt (member config "DefaultInventory"))
  return ⟨ip,port,ssl,decryptCipherMethod,encryptCipherMethod,udpAuthKey,maxPlayers,⟨serverID,channelID⟩,serverList,sqlServer,
    sqlUser,sqlPassword,sqlDatabase,prohibitedNames,terrorist ++ counter,inventory.map UInt8.ofInt⟩

-- `json::parse_error` is caught, a type error is not.
inductive Result where
  | loaded (config : LoadedConfig)
  | refused
  | thrown (e : TypeError)

-- The document that is read: `none` is a file that cannot be opened, `some none` one that is no JSON.
def configuration (file : Option (Option Json)) : Except TypeError Json :=
  match file.join with
  | none => .ok defaultServerConfig
  | some document => document.merge defaultServerConfig

def load (inet_pton : Bytes → UInt32) : Option (Option Json) → Result
  | some none => .refused
  | file =>
    match configuration file >>= read inet_pton with
    | .ok config => .loaded config
    | .error e => .thrown e

end Load

section Configured

-- `Newbie` is the only type that is ever asked for.
def serverType (type : Int) : ServerType := if type = 1 then .Newbie else .Normal

def toServer (server : NamedServer) : Server :=
  ⟨server.id,server.status,serverType server.type,server.channels.map NamedChannel.toChannel⟩

-- What the managers are given to work with.
def channelConfig (c : LoadedConfig) : ChannelConfig where
  place := c.place
  maxPlayers := c.maxPlayers.toNat
  prohibitedNames := c.prohibitedNames
  serverList := c.serverList.map toServer
  ip := c.ip
  port := c.port
  udpAuthKey := c.udpAuthKey
  defaultBuyMenus := c.defaultBuyMenus
  defaultInventory := c.defaultInventory

end Configured
end LoadedConfig
end CsoMaster
