import CsoMaster.ServerStep

/-! What a channel server knows of the others: the server list with who is online, when it was
last heard and how many players it has. Only the datagrams of the other servers, the seconds and
the server's own users change it; `Listing` is that part of the state, with these events alone. -/
namespace CsoMaster
open State (offline anyOnline expire UDP_SERVER_HEARTBEAT_TIMEOUT)
open SessionCluster (forgetOthers)

-- `ServerPacketType`, with the player count of those that carry one.
inductive ServerPacket where
  | HELLO (numPlayers : UInt16)
  | HELLO_ANSWER (numPlayers : UInt16)
  | GOODBYE
  | HEARTBEAT
  | NUMPLAYERS (numPlayers : UInt16)
  | unregistered
  deriving DecidableEq, Repr

structure Listing where
  config : ServerConfig
  users : Nat
  currentTime : Nat
  deriving DecidableEq, Repr

namespace Listing

-- A packet with the right key, and what else there is to the list.
inductive Event where
  | packet (p : Place) (packet : ServerPacket)
  | secondTick (now : Nat)
  | addUser
  | removeUser
  deriving DecidableEq, Repr

def setServerList (l : Listing) (serverList : List Server) : Listing :=
  { l with config := { l.config with serverList := serverList } }

def setChannel (l : Listing) (p : Place) (status : List Channel → ServerStatus → ServerStatus) (f : Channel → Channel) : Listing :=
  l.setServerList (l.config.serverList.modify (p.serverID - 1).toNat fun server =>
    let channels := server.channels.modify (p.channelID - 1).toNat f
    { server with
      status := if p.serverID ≠ l.config.place.serverID then status channels server.status else server.status
      channels := channels })

def hear (l : Listing) (numPlayers : UInt16) (channel : Channel) : Channel :=
  { channel with isOnline := true, lastHeartbeat := l.currentTime, numPlayers := numPlayers }

def receive (l : Listing) (p : Place) : ServerPacket → Listing
  | .HELLO numPlayers | .HELLO_ANSWER numPlayers => l.setChannel p (fun _ _ => .Ready) (l.hear numPlayers)
  | .GOODBYE => l.setChannel p (fun channels _ => anyOnline channels) offline
  | .HEARTBEAT => l.setChannel p (fun _ status => status) ({ · with lastHeartbeat := l.currentTime })
  | .NUMPLAYERS numPlayers => l.setChannel p (fun _ status => status) ({ · with numPlayers := numPlayers })
  | .unregistered => l

-- The clock has jumped since the second before.
def Jumps (l : Listing) (now : Nat) : Prop := l.currentTime + UDP_SERVER_HEARTBEAT_TIMEOUT < now

instance (l : Listing) (now : Nat) : Decidable (l.Jumps now) := inferInstanceAs (Decidable (_ < _))

def secondTick (l : Listing) (now : Nat) : Listing :=
  let l := if l.Jumps now then l.setServerList (forgetOthers l.config.place l.config.serverList) else l
  { l.setServerList (l.config.serverList.map (expire l.config.place now)) with currentTime := now }

def updateChannelNumPlayers (l : Listing) : Listing :=
  l.setChannel l.config.place (fun _ status => status) ({ · with numPlayers := UInt16.ofNat l.users })

def addUser (l : Listing) : Listing :=
  if l.users ≥ l.config.maxPlayers then l else { l with users := l.users + 1 }.updateChannelNumPlayers

def removeUser (l : Listing) : Listing := { l with users := l.users - 1 }.updateChannelNumPlayers

def step (l : Listing) : Event → Listing
  | .packet p packet => if (l.config.channel p).isNone then l else l.receive p packet
  | .secondTick now => l.secondTick now
  | .addUser => l.addUser
  | .removeUser => l.removeUser

end Listing

/-! `ServerConfig::Load`, as far as the server list goes. -/

structure ServerEntry where
  type : ServerType
  channels : List UInt16 -- the MaxPlayers of each
  deriving DecidableEq, Repr

namespace ServerEntry

def loadChannel (place : Place) (serverID : UInt8) (index : Nat) (maxPlayers : UInt16) : Channel :=
  let channelID := UInt8.ofNat (index + 1)
  let other := serverID ≠ place.serverID ∨ serverID = place.serverID ∧ channelID ≠ place.channelID
  ⟨channelID,0,if other then maxPlayers else 0,!other,0⟩

def load (place : Place) (index : Nat) (entry : ServerEntry) : Server :=
  let serverID := UInt8.ofNat (index + 1)
  ⟨serverID,if serverID = place.serverID then .Ready else .NotReady,entry.type,
    entry.channels.mapIdx (loadChannel place serverID)⟩

end ServerEntry

def Listing.load (place : Place) (maxPlayers : UInt16) (prohibitedNames : List Bytes) (entries : List ServerEntry) (time : Nat) :
    Listing :=
  ⟨⟨place,maxPlayers.toNat,prohibitedNames,entries.mapIdx (ServerEntry.load place)⟩,0,time⟩

/-! Where each entry stands: the server with ID i is the i-th of the list, and so are its
channels. Nothing that is done to the list moves them. -/

def Numbered (serverList : List Server) : Prop :=
  ∀ i server, serverList[i]? = some server →
    server.id.toNat = i + 1 ∧ ∀ j channel, server.channels[j]? = some channel → channel.id.toNat = j + 1

def Server.SameIDs (server other : Server) : Prop :=
  other.id = server.id ∧ other.channels.map Channel.id = server.channels.map Channel.id

section Numbered
variable {serverList : List Server} {f : Server → Server}

theorem Numbered.change (numbered : Numbered serverList) {others : List Server}
    (same : ∀ (i : Nat) (other : Server), others[i]? = some other →
      ∃ server : Server, serverList[i]? = some server ∧ server.SameIDs other) :
    Numbered others := by
  intro i other found
  obtain ⟨server,here,id,channels⟩ := same i other found
  obtain ⟨number,others⟩ := numbered i server here
  refine ⟨id ▸ number,fun j channel at' => ?_⟩
  have ids : (other.channels.map Channel.id)[j]? = some channel.id := by rw [List.getElem?_map,at',Option.map_some]
  rw [channels,List.getElem?_map,Option.map_eq_some_iff] at ids
  obtain ⟨before,there,same⟩ := ids
  exact same ▸ others j before there

theorem Numbered.map (numbered : Numbered serverList) (same : ∀ server : Server, server.SameIDs (f server)) :
    Numbered (serverList.map f) := by
  refine numbered.change fun i other found => ?_
  rw [List.getElem?_map,Option.map_eq_some_iff] at found
  obtain ⟨server,here,rfl⟩ := found
  exact ⟨server,here,same server⟩

theorem Numbered.modify (numbered : Numbered serverList) (same : ∀ server : Server, server.SameIDs (f server)) (i : Nat) :
    Numbered (serverList.modify i f) := by
  refine numbered.change fun j other found => ?_
  rw [List.getElem?_modify,Option.map_eq_map,Option.map_eq_some_iff] at found
  obtain ⟨server,here,rfl⟩ := found
  refine ⟨server,here,?_⟩
  split
  · exact same server
  · exact ⟨rfl,rfl⟩

end Numbered

section Lookup
variable {c : ServerConfig} {p q : Place} {channel : Channel} {serverList : List Server}

-- The entry of a place, without the bounds that the indices imply.
def entry (serverList : List Server) (p : Place) : Option Channel :=
  if p.serverID = 0 ∨ p.channelID = 0 then none
  else (serverList[(p.serverID - 1).toNat]?).bind (·.channels[(p.channelID - 1).toNat]?)

theorem belowIndex {id : UInt8} (nonzero : id ≠ 0) : (id - 1).toNat = id.toNat - 1 ∧ 1 ≤ id.toNat := by
  have positive : id.toNat ≠ 0 := fun zero => nonzero (UInt8.toNat_inj.mp zero)
  have below : 1 ≤ id.toNat := Nat.one_le_iff_ne_zero.mpr positive
  exact ⟨UInt8.toNat_sub_of_le id 1 (UInt8.le_iff_toNat_le.mpr below),below⟩

theorem channelEntry (c : ServerConfig) (p : Place) : c.channel p = entry c.serverList p := by
  unfold ServerConfig.channel entry
  by_cases server : p.serverID = 0
  · simp [server]
  obtain ⟨at',positive⟩ := belowIndex server
  by_cases channel : p.channelID = 0
  · simp only [server,channel,false_or,or_true,if_true]
    repeat' split
    all_goals first | rfl | simp_all
  obtain ⟨under,also⟩ := belowIndex channel
  simp only [server,channel,false_or,if_false,at',under]
  split
  · rename_i beyond
    rw [List.getElem?_eq_none (by omega)]
    rfl
  · cases c.serverList[p.serverID.toNat - 1]? with
    | none => rfl
    | some found =>
      dsimp only
      split
      · rename_i beyond
        exact (List.getElem?_eq_none (by omega)).symm
      · rfl

theorem entrySome (found : entry serverList p = some channel) :
    p.serverID ≠ 0 ∧ p.channelID ≠ 0 ∧ ∃ server : Server, serverList[(p.serverID - 1).toNat]? = some server ∧
      server.channels[(p.channelID - 1).toNat]? = some channel := by
  unfold entry at found
  split at found
  · cases found
  · rename_i given
    obtain ⟨server,here,there⟩ := Option.bind_eq_some_iff.mp found
    exact ⟨fun zero => given (.inl zero),fun zero => given (.inr zero),server,here,there⟩

-- In a numbered list the entry of a place carries its IDs, and so does its server.
theorem Numbered.entry (numbered : Numbered serverList) (found : entry serverList p = some channel) :
    channel.id = p.channelID ∧ ∃ server ∈ serverList, server.id = p.serverID ∧ channel ∈ server.channels := by
  obtain ⟨some,also,server,here,there⟩ := entrySome found
  obtain ⟨number,numbers⟩ := numbered _ server here
  obtain ⟨at',positive⟩ := belowIndex some
  obtain ⟨under,one⟩ := belowIndex also
  have own := numbers _ channel there
  refine ⟨UInt8.toNat_inj.mp (by omega),server,List.mem_of_getElem? here,UInt8.toNat_inj.mp (by omega),
    List.mem_of_getElem? there⟩

theorem placeIndex (own : p.serverID ≠ 0) (channel : p.channelID ≠ 0) (other : q.serverID ≠ 0) (also : q.channelID ≠ 0)
    (server : (p.serverID - 1).toNat = (q.serverID - 1).toNat) (same : (p.channelID - 1).toNat = (q.channelID - 1).toNat) :
    p = q := by
  obtain ⟨first,one⟩ := belowIndex own
  obtain ⟨second,two⟩ := belowIndex channel
  obtain ⟨third,three⟩ := belowIndex other
  obtain ⟨fourth,four⟩ := belowIndex also
  have serverID : p.serverID = q.serverID := UInt8.toNat_inj.mp (by omega)
  have channelID : p.channelID = q.channelID := UInt8.toNat_inj.mp (by omega)
  cases p
  cases q
  exact congrArg₂ Place.mk serverID channelID

-- One entry is changed and no other.
theorem entryModify (p q : Place) (f : Channel → Channel) (g : Server → Server)
    (channels : ∀ server : Server, (g server).channels = server.channels.modify (p.channelID - 1).toNat f)
    (given : p.serverID ≠ 0 ∧ p.channelID ≠ 0) :
    entry (serverList.modify (p.serverID - 1).toNat g) q = if q = p then (entry serverList p).map f else entry serverList q := by
  by_cases none : q.serverID = 0 ∨ q.channelID = 0
  · have other : q ≠ p := by
      rintro rfl
      exact none.elim given.1 given.2
    simp [entry,none,other]
  obtain ⟨server,channel⟩ := not_or.mp none
  have here : entry serverList p = (serverList[(p.serverID - 1).toNat]?).bind (·.channels[(p.channelID - 1).toNat]?) :=
    if_neg (not_or.mpr given)
  have there (list : List Server) : entry list q = (list[(q.serverID - 1).toNat]?).bind (·.channels[(q.channelID - 1).toNat]?) :=
    if_neg none
  rw [there,there,here,List.getElem?_modify,Option.map_eq_map]
  by_cases same : q = p
  · subst same
    cases serverList[(q.serverID - 1).toNat]? <;> simp [channels]
  · rw [if_neg same]
    cases serverList[(q.serverID - 1).toNat]? with
    | none => rfl
    | some server' =>
      by_cases index : (p.serverID - 1).toNat = (q.serverID - 1).toNat
      · have apart : (p.channelID - 1).toNat ≠ (q.channelID - 1).toNat := fun also =>
          same (placeIndex given.1 given.2 server channel index also).symm
        simp [index,channels,apart]
      · simp [index]

-- Every entry is changed as its server and its own content have it.
theorem entryMap (numbered : Numbered serverList) (q : Place) (f : UInt8 → Channel → Channel) (g : Server → Server)
    (channels : ∀ server : Server, (g server).channels = server.channels.map (f server.id)) :
    entry (serverList.map g) q = (entry serverList q).map (f q.serverID) := by
  unfold entry
  split
  · rfl
  · rename_i given
    obtain ⟨at',positive⟩ := belowIndex (not_or.mp given).1
    rw [List.getElem?_map]
    cases found : serverList[(q.serverID - 1).toNat]? with
    | none => rfl
    | some server =>
      have id : server.id = q.serverID := UInt8.toNat_inj.mp (by have number := (numbered _ server found).1; omega)
      simp [channels,id]

end Lookup

namespace Listing
open Runs
variable {l : Listing} {p q : Place} {e : Event}

section Numbered

theorem setChannelNumbered (numbered : Numbered l.config.serverList) {status : List Channel → ServerStatus → ServerStatus}
    {f : Channel → Channel} (same : ∀ channel, (f channel).id = channel.id) :
    Numbered (l.setChannel p status f).config.serverList := by
  have ids (server : Server) : (server.channels.modify (p.channelID - 1).toNat f).map Channel.id = server.channels.map Channel.id := by
    refine List.ext_getElem? fun j => ?_
    simp only [List.getElem?_map,List.getElem?_modify,Option.map_eq_map,Option.map_map]
    refine Option.map_congr fun channel _ => ?_
    simp only [Function.comp_apply]
    split <;> simp [same]
  exact numbered.modify (fun server => ⟨by rfl,ids server⟩) _

theorem forgetNumbered {serverList : List Server} (numbered : Numbered serverList) (place : Place) :
    Numbered (forgetOthers place serverList) := by
  refine numbered.map fun server => ⟨rfl,?_⟩
  rw [List.map_map]
  refine List.map_congr_left fun channel _ => ?_
  simp only [Function.comp_apply]
  split <;> rfl

theorem expireNumbered {serverList : List Server} (numbered : Numbered serverList) (place : Place) (now : Nat) :
    Numbered (serverList.map (expire place now)) := by
  refine numbered.map fun server => ⟨rfl,?_⟩
  simp only [expire,List.map_map]
  refine List.map_congr_left fun channel _ => ?_
  simp only [Function.comp_apply]
  split <;> rfl

theorem stepNumbered (l : Listing) (e : Event) (numbered : Numbered l.config.serverList) :
    Numbered (l.step e).config.serverList := by
  cases e with
  | packet p packet =>
    simp only [step]
    split
    · exact numbered
    · cases packet with
      | unregistered => exact numbered
      | _ => exact setChannelNumbered numbered fun _ => rfl
  | secondTick now =>
    refine expireNumbered ?_ _ now
    split
    · exact forgetNumbered numbered _
    · exact numbered
  | addUser =>
    simp only [step,addUser]
    split
    · exact numbered
    · exact setChannelNumbered (l := { l with users := l.users + 1 }) numbered fun _ => rfl
  | removeUser => exact setChannelNumbered (l := { l with users := l.users - 1 }) numbered fun _ => rfl

theorem stepPlace (l : Listing) (e : Event) :
    (l.step e).config.place = l.config.place ∧ (l.step e).config.maxPlayers = l.config.maxPlayers := by
  cases e with
  | packet p packet =>
    simp only [step]
    split
    · exact ⟨rfl,rfl⟩
    · cases packet <;> exact ⟨rfl,rfl⟩
  | secondTick now =>
    simp only [step,secondTick]
    split <;> exact ⟨rfl,rfl⟩
  | addUser =>
    simp only [step,addUser]
    split <;> exact ⟨rfl,rfl⟩
  | removeUser => exact ⟨rfl,rfl⟩

-- As many servers and channels as there are IDs for.
def Fits (entries : List ServerEntry) : Prop := entries.length ≤ 255 ∧ ∀ entry ∈ entries, entry.channels.length ≤ 255

instance (entries : List ServerEntry) : Decidable (Fits entries) := inferInstanceAs (Decidable (_ ∧ _))

theorem loadNumbered {entries : List ServerEntry} (fits : Fits entries) (place : Place) :
    Numbered (entries.mapIdx (ServerEntry.load place)) := by
  have number {index length : Nat} (inside : index < length) (small : length ≤ 255) :
      (UInt8.ofNat (index + 1)).toNat = index + 1 := by
    rw [UInt8.toNat_ofNat']
    omega
  intro i server found
  rw [List.getElem?_mapIdx,Option.map_eq_some_iff] at found
  obtain ⟨entry,here,rfl⟩ := found
  obtain ⟨inside,-⟩ := List.getElem?_eq_some_iff.mp here
  refine ⟨number inside fits.1,fun j channel at' => ?_⟩
  simp only [ServerEntry.load,List.getElem?_mapIdx,Option.map_eq_some_iff] at at'
  obtain ⟨maxPlayers,there,rfl⟩ := at'
  obtain ⟨within,-⟩ := List.getElem?_eq_some_iff.mp there
  exact number within (fits.2 entry (List.mem_of_getElem? here))

end Numbered

section Status

-- What a client is shown of the other servers.
def Server.StatusShown (place : Place) (server : Server) : Prop :=
  server.id ≠ place.serverID → server.status = anyOnline server.channels

def StatusesShown (l : Listing) : Prop := ∀ server ∈ l.config.serverList, Server.StatusShown l.config.place server

theorem memModify {α : Type} {as : List α} {i : Nat} {f : α → α} {b : α} (mem : b ∈ as.modify i f) :
    b ∈ as ∨ ∃ a, as[i]? = some a ∧ b = f a := by
  obtain ⟨j,found⟩ := List.mem_iff_getElem?.mp mem
  rw [List.getElem?_modify,Option.map_eq_map,Option.map_eq_some_iff] at found
  obtain ⟨a,here,rfl⟩ := found
  split
  · rename_i same
    exact .inr ⟨a,same ▸ here,rfl⟩
  · exact .inl (List.mem_of_getElem? here)

theorem anyOnlineSame {channels : List Channel} {i : Nat} {f : Channel → Channel} (same : ∀ channel, (f channel).isOnline = channel.isOnline) :
    anyOnline (channels.modify i f) = anyOnline channels := by
  have each : (channels.modify i f).map Channel.isOnline = channels.map Channel.isOnline := by
    refine List.ext_getElem? fun j => ?_
    simp only [List.getElem?_map,List.getElem?_modify,Option.map_eq_map,Option.map_map]
    refine Option.map_congr fun channel _ => ?_
    simp only [Function.comp_apply]
    split <;> simp [same]
  have any (channels : List Channel) : channels.any Channel.isOnline = (channels.map Channel.isOnline).any id := by
    rw [List.any_map]
    rfl
  rw [anyOnline,anyOnline,any,any,each]

theorem setChannelShown (shown : StatusesShown l) (numbered : Numbered l.config.serverList) (given : p.serverID ≠ 0)
    {status : List Channel → ServerStatus → ServerStatus} {f : Channel → Channel}
    (right : ∀ server : Server, l.config.serverList[(p.serverID - 1).toNat]? = some server → server.status = anyOnline server.channels →
      status (server.channels.modify (p.channelID - 1).toNat f) server.status =
        anyOnline (server.channels.modify (p.channelID - 1).toNat f)) :
    StatusesShown (l.setChannel p status f) := by
  intro changed mem other
  rcases memModify mem with before | ⟨server,here,rfl⟩
  · exact shown changed before other
  · obtain ⟨at',positive⟩ := belowIndex given
    have number : server.id.toNat = (p.serverID - 1).toNat + 1 := (numbered _ server here).1
    have id : server.id = p.serverID := UInt8.toNat_inj.mp (by omega)
    have abroad : p.serverID ≠ l.config.place.serverID := fun own => other (id.trans own)
    simp only [abroad,ne_eq,not_false_eq_true,if_true]
    exact right server here (shown server (List.mem_of_getElem? here) (id ▸ abroad))

theorem receiveShown (shown : StatusesShown l) (numbered : Numbered l.config.serverList) {channel : Channel}
    (listed : l.config.channel p = some channel) (packet : ServerPacket) : StatusesShown (l.receive p packet) := by
  rw [channelEntry] at listed
  obtain ⟨given,-,server,here,there⟩ := entrySome listed
  have online (numPlayers : UInt16) : StatusesShown (l.setChannel p (fun _ _ => .Ready) (l.hear numPlayers)) := by
    refine setChannelShown shown numbered given fun other found _ => ?_
    obtain rfl : server = other := Option.some.inj (here.symm.trans found)
    have heard : l.hear numPlayers channel ∈ server.channels.modify (p.channelID - 1).toNat (l.hear numPlayers) := by
      refine List.mem_iff_getElem?.mpr ⟨(p.channelID - 1).toNat,?_⟩
      rw [List.getElem?_modify_eq,there]
      rfl
    exact (if_pos (List.any_eq_true.mpr ⟨_,heard,rfl⟩)).symm
  cases packet with
  | HELLO numPlayers => exact online numPlayers
  | HELLO_ANSWER numPlayers => exact online numPlayers
  | GOODBYE => exact setChannelShown shown numbered given fun _ _ _ => rfl
  | HEARTBEAT => exact setChannelShown shown numbered given fun _ _ same => same.trans (anyOnlineSame fun _ => by rfl).symm
  | NUMPLAYERS numPlayers =>
    exact setChannelShown shown numbered given fun _ _ same => same.trans (anyOnlineSame fun _ => by rfl).symm
  | unregistered => exact shown

theorem forgetShown (l : Listing) : StatusesShown (l.setServerList (forgetOthers l.config.place l.config.serverList)) := by
  intro changed mem other
  obtain ⟨server,-,rfl⟩ := List.mem_map.mp mem
  have abroad : server.id ≠ l.config.place.serverID := other
  have none : (server.channels.map fun channel =>
      if server.id = l.config.place.serverID ∧ channel.id = l.config.place.channelID then channel
      else { channel with isOnline := false, lastHeartbeat := 0, numPlayers := 0 }).any Channel.isOnline = false := by
    simp [abroad]
  simp only [anyOnline,none,if_pos abroad]
  rfl

-- What `expire` asks of one channel, and does to it.
def expired (place : Place) (now : Nat) (serverID : UInt8) (channel : Channel) : Bool :=
  !(serverID = place.serverID && channel.id = place.channelID) && channel.isOnline &&
    channel.lastHeartbeat + UDP_SERVER_HEARTBEAT_TIMEOUT < now

def runOut (place : Place) (now : Nat) (serverID : UInt8) (channel : Channel) : Channel :=
  if expired place now serverID channel then offline channel else channel

theorem expireEq (place : Place) (now : Nat) (server : Server) : expire place now server = { server with
    status := if server.channels.any (expired place now server.id) && server.id ≠ place.serverID then
      anyOnline (server.channels.map (runOut place now server.id)) else server.status
    channels := server.channels.map (runOut place now server.id) } := rfl

-- Some channel of a server has run out of time, or the server is left as it was.
theorem expireCases {place : Place} {server : Server} (abroad : server.id ≠ place.serverID) (now : Nat) :
    (expire place now server).status = anyOnline (expire place now server).channels ∨ expire place now server = server := by
  rw [expireEq]
  cases any : server.channels.any (expired place now server.id) with
  | true => exact .inl (if_pos (by simp [abroad]))
  | false =>
    have same : server.channels.map (runOut place now server.id) = server.channels := by
      refine (List.map_congr_left fun channel mem => ?_).trans (List.map_id _)
      have alive : expired place now server.id channel = false := by simpa using List.any_eq_false.mp any channel mem
      rw [runOut,alive]
      rfl
    right
    rw [same]
    rfl

theorem expireShown (shown : StatusesShown l) (now : Nat) :
    StatusesShown (l.setServerList (l.config.serverList.map (expire l.config.place now))) := by
  intro changed mem other
  obtain ⟨server,here,rfl⟩ := List.mem_map.mp mem
  have abroad : server.id ≠ l.config.place.serverID := other
  rcases expireCases abroad now with right | same
  · exact right
  · rw [same]
    exact shown server here abroad

theorem stepShown (l : Listing) (e : Event) (before : Numbered l.config.serverList ∧ StatusesShown l) :
    StatusesShown (l.step e) := by
  obtain ⟨numbered,shown⟩ := before
  have counted (users : Nat) : StatusesShown { l with users := users }.updateChannelNumPlayers := by
    intro changed mem other
    rcases memModify mem with before | ⟨server,here,rfl⟩
    · exact shown changed before other
    · have before := shown server (List.mem_of_getElem? here) other
      simp only [ne_eq,not_true_eq_false,if_false]
      exact before.trans (anyOnlineSame fun _ => by rfl).symm
  cases e with
  | packet p packet =>
    simp only [step]
    cases found : l.config.channel p with
    | none => exact shown
    | some channel => exact receiveShown shown numbered found packet
  | secondTick now =>
    refine expireShown (l := if l.Jumps now then l.setServerList (forgetOthers l.config.place l.config.serverList) else l) ?_ now
    split
    · exact forgetShown l
    · exact shown
  | addUser =>
    simp only [step,addUser]
    split
    · exact shown
    · exact counted _
  | removeUser => exact counted _

theorem loadShown (place : Place) (maxPlayers : UInt16) (prohibitedNames : List Bytes) (entries : List ServerEntry) (time : Nat) :
    StatusesShown (load place maxPlayers prohibitedNames entries time) := by
  intro server mem other
  obtain ⟨index,here⟩ := List.mem_iff_getElem?.mp mem
  simp only [load,List.getElem?_mapIdx,Option.map_eq_some_iff] at here
  obtain ⟨entry,-,rfl⟩ := here
  have abroad : UInt8.ofNat (index + 1) ≠ place.serverID := other
  rw [ServerEntry.load]
  generalize UInt8.ofNat (index + 1) = serverID at abroad
  have none : (entry.channels.mapIdx (ServerEntry.loadChannel place serverID)).any Channel.isOnline = false := by
    rw [List.any_eq_false]
    intro channel mem
    obtain ⟨j,there⟩ := List.mem_iff_getElem?.mp mem
    rw [List.getElem?_mapIdx,Option.map_eq_some_iff] at there
    obtain ⟨players,-,rfl⟩ := there
    simp [ServerEntry.loadChannel,abroad]
  simp [anyOnline,none,abroad]

-- In every state a server other than this one is Ready exactly when one of its channels is online.
theorem serverStatus {entries : List ServerEntry} (fits : Fits entries) (place : Place) (maxPlayers : UInt16)
    (prohibitedNames : List Bytes) (time : Nat) (events : List Event) :
    Always step (fun l => ∀ server ∈ l.config.serverList, server.id ≠ place.serverID →
        (server.status = .Ready ↔ ∃ channel ∈ server.channels, channel.isOnline = true))
      (load place maxPlayers prohibitedNames entries time) events := by
  have kept : Always step (fun l => (Numbered l.config.serverList ∧ StatusesShown l) ∧ l.config.place = place)
      (load place maxPlayers prohibitedNames entries time) events :=
    alwaysOfEach (fun l e before _ => ⟨⟨stepNumbered l e before.1.1,stepShown l e before.1⟩,(stepPlace l e).1.trans before.2⟩)
      ⟨⟨loadNumbered fits place,loadShown _ _ _ _ _⟩,rfl⟩ (eachTrue _ events)
  refine alwaysMono (fun l before server mem other => ?_) kept
  obtain ⟨⟨-,shown⟩,rfl⟩ := before
  rw [shown server mem other,anyOnline]
  simp

-- This channel and one on another server.
def pairOfServers : List ServerEntry := [⟨.Normal,[600]⟩,⟨.Newbie,[300]⟩]

def loadedPair : Listing := load ⟨1,1⟩ 600 [] pairOfServers 0

theorem pairFits : Fits pairOfServers := by decide

-- The other one says hello, is silent for too long and says hello again.
theorem serverStatusPair : Always step (fun l => ∀ server ∈ l.config.serverList, server.id ≠ 1 →
      (server.status = .Ready ↔ ∃ channel ∈ server.channels, channel.isOnline = true)) loadedPair
    [.packet ⟨2,1⟩ (.HELLO 7),.secondTick 3,.secondTick 6,.packet ⟨2,1⟩ (.HELLO_ANSWER 8),.secondTick 20] :=
  serverStatus pairFits ⟨1,1⟩ 600 [] 0 _

end Status

end Listing
end CsoMaster
