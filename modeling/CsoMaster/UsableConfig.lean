import CsoMaster.ServerConfigLoad

/-! What the server needs of its configuration: the IDs in the list count up from one and its own
IDs are among them, so that no `serverList[serverID - 1].channels[channelID - 1]` reaches outside.
`ServerConfig::Load` checks none of it; these are the documents that it comes out right for. -/
namespace CsoMaster.LoadedConfig
open Json (TypeError)
open SqlText (ascii)
open DatabaseManager (listed)

section Loops
variable {α β : Type} {load : UInt8 → Json → Except TypeError α} {entries : List Json} {id : UInt8} {loaded : List α}

theorem bindOk {x : Except TypeError α} {f : α → Except TypeError β} {b : β} :
    (x >>= f) = .ok b ↔ ∃ a, x = .ok a ∧ f a = .ok b := by
  cases x with
  | error e => simp [bind,Except.bind]
  | ok a => simp [bind,Except.bind]

-- Each entry is loaded under the ID that its position gives it, modulo 256.
theorem eachLoaded (h : loadEach load id entries = .ok loaded) :
    loaded.length = entries.length ∧
      ∀ i a, loaded[i]? = some a → ∃ entry, entries[i]? = some entry ∧ load (id + UInt8.ofNat i) entry = .ok a := by
  induction entries generalizing id loaded with
  | nil =>
    obtain rfl : [] = loaded := Except.ok.inj h
    exact ⟨rfl,fun i a found => nomatch found⟩
  | cons entry entries ih =>
    simp only [loadEach,bindOk] at h
    obtain ⟨first,here,rest,after,last⟩ := h
    obtain rfl : first :: rest = loaded := Except.ok.inj last
    obtain ⟨length,each⟩ := ih after
    refine ⟨congrArg (· + 1) length,fun i a found => ?_⟩
    cases i with
    | zero =>
      obtain rfl : first = a := Option.some.inj found
      exact ⟨entry,rfl,(UInt8.add_zero id).symm ▸ here⟩
    | succ i =>
      obtain ⟨next,there,right⟩ := each i a found
      have counted : id + UInt8.ofNat (i + 1) = id + 1 + UInt8.ofNat i := by
        rw [UInt8.ofNat_add,UInt8.add_assoc]
        exact congrArg (id + ·) (UInt8.add_comm _ _)
      exact ⟨next,there,counted ▸ right⟩

end Loops

section Read
variable {config server : Json} {key : String} {place : Place} {inet_pton : Bytes → UInt32} {c : LoadedConfig}

-- The ID that is read from the document, 8 bits of it.
def ownID (config : Json) (key : String) : UInt8 :=
  match (config.find (ascii key)).map Json.getInt with
  | some (.ok id) => UInt8.ofInt id
  | _ => 0

def serverEntries (config : Json) : List Json :=
  if config.contains (ascii "ServerList") then (member config "ServerList").items else []

def channelEntries (server : Json) : List Json :=
  if server.contains (ascii "Channels") then (member server "Channels").items else []

theorem ownIDRead {id : UInt8} (h : given config key 0 (UInt8.ofInt <$> intValue config key 1) = .ok id) : id = ownID config key := by
  unfold ownID
  unfold given Json.contains at h
  cases found : config.find (ascii key) with
  | none => simpa [found,pure,Except.pure] using h.symm
  | some value =>
    cases config with
    | object members =>
      have here : members.lookup (ascii key) = some value := found
      simp only [found,Option.isSome_some,if_true,intValue,Json.value,here] at h
      cases number : value.getInt with
      | error e => simp [number,Functor.map,Except.map] at h
      | ok n => simpa [number,Functor.map,Except.map] using h.symm
    | _ => simp [Json.find] at found

-- A channel as the list knows it.
theorem channelLoaded {serverID : UInt8} {index : Nat} {channel : Json} {loaded : NamedChannel}
    (h : loadChannel place serverID (1 + UInt8.ofNat index) channel = .ok loaded) :
    loaded.toChannel = ServerEntry.loadChannel place serverID index loaded.maxPlayers := by
  have id : 1 + UInt8.ofNat index = UInt8.ofNat (index + 1) := (UInt8.add_comm _ _).trans (UInt8.ofNat_add _ _).symm
  simp only [loadChannel,bindOk] at h
  obtain ⟨name,-,rest⟩ := h
  rw [id] at rest
  unfold ServerEntry.loadChannel
  split at rest
  · rename_i other
    simp only [bindOk] at rest
    obtain ⟨maxPlayers,-,ip,-,port,-,last⟩ := rest
    obtain rfl := Except.ok.inj last
    simp only [if_pos other,decide_eq_true other,Bool.not_true]
  · rename_i own
    obtain rfl := Except.ok.inj rest
    simp only [if_neg own,decide_eq_false own,Bool.not_false]

theorem givenItems {α : Type} {load : UInt8 → Json → Except TypeError α} {loaded : List α}
    (h : given server key [] (loadEach load 1 (member server key).items) = .ok loaded) :
    loadEach load 1 (if server.contains (ascii key) then (member server key).items else []) = .ok loaded := by
  unfold given at h
  split at h
  · rename_i there
    rwa [if_pos there]
  · rename_i missing
    rwa [if_neg missing]

-- The server of a loaded entry as the entry that stands for it.
def toEntry (server : NamedServer) : ServerEntry := ⟨serverType server.type,server.channels.map (·.maxPlayers)⟩

theorem serverLoaded {index : Nat} {loaded : NamedServer} (h : loadServer place (1 + UInt8.ofNat index) server = .ok loaded) :
    toServer loaded = ServerEntry.load place index (toEntry loaded) ∧
      loaded.channels.length = (channelEntries server).length := by
  have id : 1 + UInt8.ofNat index = UInt8.ofNat (index + 1) := (UInt8.add_comm _ _).trans (UInt8.ofNat_add _ _).symm
  simp only [loadServer,bindOk] at h
  obtain ⟨type,-,name,-,channels,there,last⟩ := h
  obtain rfl := Except.ok.inj last
  obtain ⟨length,each⟩ := eachLoaded (givenItems there)
  refine ⟨?_,length⟩
  simp only [toServer,ServerEntry.load,toEntry,id]
  congr 1
  refine List.ext_getElem? fun j => ?_
  rw [List.getElem?_map,List.getElem?_mapIdx,List.getElem?_map,Option.map_map]
  refine Option.map_congr fun channel found => ?_
  obtain ⟨entry,-,right⟩ := each j channel found
  exact channelLoaded (id ▸ right)

structure Loaded (config : Json) (c : LoadedConfig) : Prop where
  place : c.place = ⟨ownID config "ServerID",ownID config "ChannelID"⟩
  length : c.serverList.length = (serverEntries config).length
  servers : c.serverList.map toServer = (c.serverList.map toEntry).mapIdx (ServerEntry.load c.place)
  channels : ∀ (i : Nat) (server : NamedServer), c.serverList[i]? = some server →
    ∃ entry, (serverEntries config)[i]? = some entry ∧ server.channels.length = (channelEntries entry).length

theorem readLoaded (h : read inet_pton config = .ok c) : Loaded config c := by
  simp only [read,bindOk] at h
  obtain ⟨_,-,_,-,_,-,_,-,_,-,_,-,_,-,serverID,server,channelID,channel,serverList,list,_,-,_,-,_,-,_,-,_,-,_,-,_,-,_,-,last⟩ := h
  obtain rfl := Except.ok.inj last
  obtain ⟨length,each⟩ := eachLoaded (givenItems list)
  refine ⟨congrArg₂ Place.mk (ownIDRead server) (ownIDRead channel),length,?_,fun i server found => ?_⟩
  · refine List.ext_getElem? fun i => ?_
    rw [List.getElem?_map,List.getElem?_mapIdx,List.getElem?_map,Option.map_map]
    refine Option.map_congr fun server found => ?_
    obtain ⟨entry,-,right⟩ := each i server found
    exact (serverLoaded right).1
  · obtain ⟨entry,there,right⟩ := each i server found
    exact ⟨entry,there,(serverLoaded right).2⟩

end Read

section Usable
variable {serverConfig : ServerConfig} {serverList : List Server} {p : Place}

structure Usable (serverConfig : ServerConfig) : Prop where
  numbered : Numbered serverConfig.serverList
  own : (serverConfig.channel serverConfig.place).isSome
  -- `UpdateChannelNumPlayers`, the entries `OnSecondTick` goes over and those that a datagram names.
  counted : (listed serverConfig serverConfig.place).isSome
  ticked : ∀ server ∈ serverConfig.serverList, (server.id - 1).toNat < serverConfig.serverList.length ∧
    ∀ channel ∈ server.channels, (listed serverConfig ⟨server.id,channel.id⟩).isSome
  heard : ∀ p, (serverConfig.channel p).isSome → (listed serverConfig p).isSome

theorem entryIsSome : (entry serverList p).isSome ↔ p.serverID ≠ 0 ∧ p.channelID ≠ 0 ∧
    ∃ server : Server, serverList[(p.serverID - 1).toNat]? = some server ∧ p.channelID.toNat ≤ server.channels.length := by
  constructor
  · intro some
    obtain ⟨channel,found⟩ := Option.isSome_iff_exists.mp some
    obtain ⟨serverID,channelID,server,here,there⟩ := entrySome found
    obtain ⟨inside,-⟩ := List.getElem?_eq_some_iff.mp there
    obtain ⟨below,-⟩ := belowIndex channelID
    exact ⟨serverID,channelID,server,here,by omega⟩
  · rintro ⟨serverID,channelID,server,here,inside⟩
    obtain ⟨below,positive⟩ := belowIndex channelID
    have there : (p.channelID - 1).toNat < server.channels.length := by omega
    simp [entry,serverID,channelID,here,there]

theorem listedIsSome (given : (serverConfig.channel p).isSome) : (listed serverConfig p).isSome := by
  rw [channelEntry] at given
  obtain ⟨channel,found⟩ := Option.isSome_iff_exists.mp given
  obtain ⟨-,-,server,here,there⟩ := entrySome found
  simp [listed,here,there]

theorem indexBelow {id : UInt8} {index : Nat} (number : id.toNat = index + 1) : (id - 1).toNat = index := by
  have some : id ≠ 0 := by
    rintro rfl
    exact absurd number (Nat.succ_ne_zero index).symm
  have below := (belowIndex some).1
  omega

theorem usable (numbered : Numbered serverConfig.serverList) (own : (serverConfig.channel serverConfig.place).isSome) :
    Usable serverConfig := by
  refine ⟨numbered,own,listedIsSome own,fun server mem => ?_,fun p => listedIsSome⟩
  obtain ⟨i,here⟩ := List.mem_iff_getElem?.mp mem
  obtain ⟨number,numbers⟩ := numbered i server here
  obtain ⟨inside,-⟩ := List.getElem?_eq_some_iff.mp here
  refine ⟨indexBelow number ▸ inside,fun channel member => ?_⟩
  obtain ⟨j,there⟩ := List.mem_iff_getElem?.mp member
  simp [listed,indexBelow number,here,indexBelow (numbers j channel there),there]

-- There are only 255 IDs that count up from one.
theorem numberedFits (numbered : Numbered serverList) :
    serverList.length ≤ 255 ∧ ∀ server ∈ serverList, server.channels.length ≤ 255 := by
  constructor
  · by_contra! many
    have number := (numbered 255 _ (List.getElem?_eq_getElem many)).1
    have small := serverList[255].id.toNat_lt
    omega
  · intro server mem
    obtain ⟨i,here⟩ := List.mem_iff_getElem?.mp mem
    by_contra! many
    have number := (numbered i server here).2 255 _ (List.getElem?_eq_getElem many)
    have small := server.channels[255].id.toNat_lt
    omega

end Usable

section Load
variable {config : Json} {inet_pton : Bytes → UInt32} {file : Option (Option Json)} {c : LoadedConfig}

-- What has to be right in a document.
structure Fitting (config : Json) : Prop where
  servers : (serverEntries config).length ≤ 255
  channels : ∀ server ∈ serverEntries config, (channelEntries server).length ≤ 255
  serverID : ownID config "ServerID" ≠ 0
  channelID : ownID config "ChannelID" ≠ 0
  own : ∃ server, (serverEntries config)[(ownID config "ServerID" - 1).toNat]? = some server ∧
    (ownID config "ChannelID").toNat ≤ (channelEntries server).length

theorem loadRead (h : load inet_pton file = .loaded c) : ∃ config, configuration file = .ok config ∧ read inet_pton config = .ok c := by
  have accepted : configuration file >>= read inet_pton = .ok c := by
    match file, h with
    | none, h | some (some _), h =>
      simp only [load] at h
      split at h
      · rename_i right
        rw [right]
        exact congrArg _ (Result.loaded.inj h)
      · cases h
  exact bindOk.mp accepted

theorem Loaded.entry (loaded : Loaded config c) {i : Nat} {entry : Json} (there : (serverEntries config)[i]? = some entry) :
    ∃ server, c.serverList[i]? = some server ∧ server.channels.length = (channelEntries entry).length := by
  obtain ⟨inside,-⟩ := List.getElem?_eq_some_iff.mp there
  have here := List.getElem?_eq_getElem (loaded.length ▸ inside)
  obtain ⟨other,same,length⟩ := loaded.channels i _ here
  obtain rfl := Option.some.inj (there.symm.trans same)
  exact ⟨_,here,length⟩

theorem Loaded.fits (loaded : Loaded config c) (servers : (serverEntries config).length ≤ 255)
    (channels : ∀ server ∈ serverEntries config, (channelEntries server).length ≤ 255) : Listing.Fits (c.serverList.map toEntry) := by
  refine ⟨by simpa [loaded.length] using servers,fun entry mem => ?_⟩
  obtain ⟨server,member,rfl⟩ := List.mem_map.mp mem
  obtain ⟨i,here⟩ := List.mem_iff_getElem?.mp member
  obtain ⟨entry,there,length⟩ := loaded.channels i server here
  have few := channels entry (List.mem_of_getElem? there)
  simpa [toEntry,length] using few

theorem Loaded.numbered (loaded : Loaded config c) : Numbered c.channelConfig.serverList ↔
    (serverEntries config).length ≤ 255 ∧ ∀ server ∈ serverEntries config, (channelEntries server).length ≤ 255 := by
  constructor
  · intro numbered
    obtain ⟨servers,channels⟩ := numberedFits numbered
    have mapped : (c.serverList.map toServer).length = c.serverList.length := List.length_map toServer
    refine ⟨loaded.length ▸ mapped ▸ servers,fun entry mem => ?_⟩
    obtain ⟨i,there⟩ := List.mem_iff_getElem?.mp mem
    obtain ⟨server,here,length⟩ := loaded.entry there
    have few := channels _ (List.mem_map_of_mem (List.mem_of_getElem? here))
    rw [← length]
    simpa [toServer] using few
  · rintro ⟨servers,channels⟩
    rw [show c.channelConfig.serverList = _ from loaded.servers]
    exact Listing.loadNumbered (loaded.fits servers channels) _

theorem Loaded.own (loaded : Loaded config c) : (c.channelConfig.channel c.channelConfig.place).isSome ↔
    ownID config "ServerID" ≠ 0 ∧ ownID config "ChannelID" ≠ 0 ∧
      ∃ server, (serverEntries config)[(ownID config "ServerID" - 1).toNat]? = some server ∧
        (ownID config "ChannelID").toNat ≤ (channelEntries server).length := by
  have place : c.channelConfig.place = _ := loaded.place
  rw [channelEntry,entryIsSome,place]
  refine and_congr_right fun _ => and_congr_right fun _ => ⟨?_,?_⟩
  · rintro ⟨server,here,inside⟩
    obtain ⟨named,found,rfl⟩ := Option.map_eq_some_iff.mp ((List.getElem?_map ..).symm.trans here)
    obtain ⟨entry,there,length⟩ := loaded.channels _ named found
    exact ⟨entry,there,by simpa [toServer,length] using inside⟩
  · rintro ⟨entry,there,inside⟩
    obtain ⟨server,here,length⟩ := loaded.entry there
    refine ⟨toServer server,(List.getElem?_map ..).trans (congrArg (Option.map toServer) here),?_⟩
    simpa [toServer,length] using inside

theorem Loaded.usable (loaded : Loaded config c) (fitting : Fitting config) : Usable c.channelConfig.toServerConfig :=
  LoadedConfig.usable (loaded.numbered.mpr ⟨fitting.servers,fitting.channels⟩)
    (loaded.own.mpr ⟨fitting.serverID,fitting.channelID,fitting.own⟩)

-- A configuration that is loaded is usable exactly where its document is as it has to be.
theorem loadUsable (h : load inet_pton file = .loaded c) :
    Usable c.channelConfig.toServerConfig ↔ ∃ config, configuration file = .ok config ∧ Fitting config := by
  obtain ⟨config,given,right⟩ := loadRead h
  have loaded := readLoaded right
  constructor
  · intro usable
    obtain ⟨servers,channels⟩ := loaded.numbered.mp usable.numbered
    obtain ⟨serverID,channelID,own⟩ := loaded.own.mp usable.own
    exact ⟨config,given,servers,channels,serverID,channelID,own⟩
  · rintro ⟨other,same,fitting⟩
    obtain rfl := Except.ok.inj (given.symm.trans same)
    exact loaded.usable fitting

-- What `inet_pton` has for `127.0.0.1`.
def localhost : Bytes → UInt32 := fun _ => 0x0100007F

def defaultLoaded : LoadedConfig :=
  match load localhost none with
  | .loaded c => c
  | _ => ⟨0,0,false,.CleanUp,.CleanUp,[],0,⟨0,0⟩,[],[],[],[],[],[],[],[]⟩

theorem loadDefault : load localhost none = .loaded defaultLoaded := rfl

theorem defaultUsable : Usable defaultLoaded.channelConfig.toServerConfig := by
  have right : read localhost defaultServerConfig = .ok defaultLoaded := rfl
  refine (readLoaded right).usable ⟨by decide,fun server mem => ?_,by decide,by decide,_,rfl,by decide⟩
  obtain rfl := List.mem_singleton.mp mem
  decide

-- The second channel of the second of two servers.
def secondOfTwo : Json :=
  object [
    ("ServerID",.number 2),
    ("ChannelID",.number 2),
    ("ServerList",.array [
      object [("Name",text "Server 1"),("Channels",.array [object [("Port",.number 8001)],object [("Port",.number 8002)],object []])],
      object [("Type",.number 1),("Channels",.array [object [("MaxPlayers",.number 300)],object []])]])]

theorem loadUsableSecond : ∃ c, load localhost (some (some secondOfTwo)) = .loaded c ∧ c.place = ⟨2,2⟩ ∧
    c.serverList.map (fun server => server.channels.map fun channel => channel.id) = [[1,2,3],[1,2]] ∧
    Usable c.channelConfig.toServerConfig := by
  have loaded : load localhost (some (some secondOfTwo)) = .loaded _ := rfl
  refine ⟨_,loaded,rfl,rfl,(loadUsable loaded).mpr ⟨_,rfl,⟨by decide,fun server mem => ?_,by decide,by decide,_,rfl,by decide⟩⟩⟩
  rcases List.mem_cons.mp mem with rfl | mem
  · decide
  · obtain rfl := List.mem_singleton.mp mem
    decide

-- The one server of the default list, under the ID of a fifth.
def unlistedServer : Json := object [("ServerID",.number 5)]

theorem unlistedServerLoaded :
    ¬ ∀ (file : Option (Option Json)) (c : LoadedConfig), load localhost file = .loaded c → Usable c.channelConfig.toServerConfig := by
  intro every
  have here := (every (some (some unlistedServer)) _ rfl).own
  exact absurd here (by decide)

end Load

end CsoMaster.LoadedConfig
