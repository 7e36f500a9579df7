import CsoMaster.Hearsay
import CsoMaster.ServerDatagrams

/-! All channel servers that share a key, each with its own list of the others. Their datagrams
may be lost, repeated, reordered, arrive at the wrong server or cut off, servers may be shut down
and started anew at any moment, and anybody without the key may send whatever he likes. -/
namespace CsoMaster.ServerGossip
open Runs
open Hearsay (Protocol Network Facts Honest Rules Borne Admissible Been)

-- What the configuration of a channel server has for its list.
structure Settings where
  maxPlayers : UInt16
  prohibitedNames : List Bytes
  entries : List ServerEntry
  fits : Listing.Fits entries

structure ServerNetwork where
  authKey : Bytes
  settings : Place → Settings

-- The process of a channel server; `running` is a thread that is not shutting down.
structure ChannelProcess where
  peer : ChannelPeer
  isShuttingDown : Bool

inductive ProcessEvent where
  | boot (time : Nat) -- a new process, in place of the one before
  | start (now : Nat)
  | stop
  | addUser
  | removeUser
  | secondTick (now : Nat)
  deriving DecidableEq, Repr

namespace ChannelProcess

def perform (m : ChannelProcess) (result : ChannelPeer × List (Place × ServerPacket)) : ChannelProcess × List (Place × ServerPacket) :=
  ({ m with peer := result.1 },result.2)

-- With `_isShuttingDown` set a new thread finds nothing to do.
def start (m : ChannelProcess) (now : Nat) : ChannelProcess × List (Place × ServerPacket) :=
  if m.isShuttingDown then ({ m with peer := { m.peer with listing := { m.peer.listing with currentTime := now } } },[])
  else m.perform (m.peer.start now)

def shutdown (m : ChannelProcess) : ChannelProcess × List (Place × ServerPacket) :=
  if m.peer.running then (⟨{ m.peer with running := false },true⟩,m.peer.listing.sendToAll Channel.isOnline .GOODBYE)
  else (m,[])

end ChannelProcess

namespace ServerNetwork
variable (w : ServerNetwork)

def load (i : Place) (time : Nat) : Listing :=
  Listing.load i (w.settings i).maxPlayers (w.settings i).prohibitedNames (w.settings i).entries time

def boot (i : Place) (time : Nat) : ChannelProcess := ⟨⟨w.load i time,false⟩,false⟩

def text (m : ChannelProcess) (result : ChannelProcess × List (Place × ServerPacket)) : ChannelProcess × List Bytes :=
  (result.1,result.2.map fun sent => sent.2.text w.authKey m.peer.listing.config.place)

def act (m : ChannelProcess) (e : ProcessEvent) : ChannelProcess × List Bytes :=
  match e with
  | .boot time => (w.boot m.peer.listing.config.place time,[])
  | .start now => w.text m (m.start now)
  | .stop => w.text m m.shutdown
  | .addUser => w.text m (m.perform m.peer.addUser)
  | .removeUser => w.text m (m.perform m.peer.removeUser)
  | .secondTick now => w.text m (m.perform (m.peer.onSecondTick now))

-- `handleReceive` for a datagram of a server.
def receive (m : ChannelProcess) (buffer : Bytes) : ChannelProcess × List Bytes :=
  match (readServerPacket (buffer.take UDP_PACKET_MAX_SIZE)).filter (·.1 = w.authKey) with
  | none => (m,[])
  | some (_,sender,packet) =>
    if m.peer.running then w.text m (m.perform (m.peer.handleIncomingServerPacket sender packet)) else (m,[])

def protocol : Protocol ChannelProcess ProcessEvent Bytes := ⟨w.act,w.receive⟩

-- No server runs yet.
def begin : Network Place ChannelProcess Bytes := ⟨fun i => w.boot i 0,[]⟩

end ServerNetwork

/-! What is told and held of a server: that it is online, and that it has so many players. -/

inductive Fact where
  | online
  | numPlayers (count : UInt16)

namespace Fact

def ofProcess (m : ChannelProcess) : Set Fact := fun
  | online => m.peer.running
  | numPlayers count => m.peer.running ∧ m.peer.listing.users = count.toNat ∧ m.peer.listing.users ≤ m.peer.listing.config.maxPlayers

-- Zero players is what is shown of one that nothing is known of.
def ofPacket (packet : ServerPacket) : Set Fact := fun
  | online => packet.opens
  | numPlayers count => packet.count = some count ∧ count ≠ 0

def ofChannel (channel : Channel) : Set Fact := fun
  | online => channel.isOnline
  | numPlayers count => channel.numPlayers = count ∧ count ≠ 0

end Fact

def ServerNetwork.tells (w : ServerNetwork) (buffer : Bytes) : Set (Place × Fact) :=
  { told | told.1.serverID ≠ 0 ∧ told.1.channelID ≠ 0 ∧
    ∃ packet, readServerPacket (buffer.take UDP_PACKET_MAX_SIZE) = some (w.authKey,told.1,packet) ∧ told.2 ∈ Fact.ofPacket packet }

def holds (l : Listing) : Set (Place × Fact) :=
  { held | held.1 ≠ l.config.place ∧ ∃ channel, l.config.channel held.1 = some channel ∧ held.2 ∈ Fact.ofChannel channel }

structure Sound (w : ServerNetwork) (i : Place) (m : ChannelProcess) : Prop where
  place : m.peer.listing.config.place = i
  numbered : Numbered m.peer.listing.config.serverList
  small : m.peer.listing.users ≤ m.peer.listing.config.maxPlayers
  maxPlayers : m.peer.listing.config.maxPlayers = (w.settings i).maxPlayers.toNat

-- Who takes part is on its own list.
def ServerNetwork.Listed (w : ServerNetwork) (i : Place) : Prop := ((w.load i 0).config.channel i).isSome

instance (w : ServerNetwork) (i : Place) : Decidable (w.Listed i) := inferInstanceAs (Decidable (_ = true))

def ServerNetwork.facts (w : ServerNetwork) : Facts Place ChannelProcess Bytes Fact where
  now := Fact.ofProcess
  tells := w.tells
  holds m := holds m.peer.listing
  member := w.Listed
  sound := Sound w

section Steps
variable {w : ServerNetwork} {i : Place} {l : Listing} {m : ChannelProcess}

/-! What the events leave of the entries of others. -/

theorem holdsOf {l k : Listing} {told : Set (Place × Fact)} (place : k.config.place = l.config.place)
    (entries : ∀ q ≠ l.config.place, ∀ channel, k.config.channel q = some channel → ∀ fact ∈ Fact.ofChannel channel,
      (∃ before, l.config.channel q = some before ∧ fact ∈ Fact.ofChannel before) ∨ (q,fact) ∈ told) :
    holds k ⊆ holds l ∪ told := by
  rintro ⟨q,fact⟩ ⟨abroad,channel,found,shown⟩
  rw [place] at abroad
  rcases entries q abroad channel found fact shown with ⟨before,was,also⟩ | new
  · exact .inl ⟨abroad,before,was,also⟩
  · exact .inr new

theorem offlineFacts (channel : Channel) {fact : Fact} : fact ∉ Fact.ofChannel (State.offline channel) := by
  cases fact with
  | online => exact Bool.false_ne_true
  | numPlayers count =>
    rintro ⟨zero,some⟩
    exact some zero.symm

theorem unlessOffline {c : Prop} [Decidable c] {channel : Channel} {fact : Fact}
    (shown : fact ∈ Fact.ofChannel (if c then State.offline channel else channel)) : fact ∈ Fact.ofChannel channel := by
  split at shown
  · exact absurd shown (offlineFacts channel)
  · exact shown

theorem usersHolds {e : Listing.Event} (users : e = .addUser ∨ e = .removeUser)
    (given : l.config.place.serverID ≠ 0 ∧ l.config.place.channelID ≠ 0) (told : Set (Place × Fact)) :
    holds (l.step e) ⊆ holds l ∪ told := by
  refine holdsOf (Listing.stepPlace l e).1 fun q abroad channel found fact shown => .inl ⟨channel,?_,shown⟩
  rwa [Listing.usersEntry users abroad given] at found

theorem tickHolds (numbered : Numbered l.config.serverList) (now : Nat) (told : Set (Place × Fact)) :
    holds (l.step (.secondTick now)) ⊆ holds l ∪ told := by
  refine holdsOf (Listing.stepPlace l _).1 fun q abroad channel found fact shown => .inl ?_
  rw [Listing.tickEntry numbered] at found
  obtain ⟨before,was,rfl⟩ := Option.map_eq_some_iff.mp found
  exact ⟨before,was,unlessOffline (unlessOffline shown)⟩

-- Of a sender nothing is held that it has not been told in the packet, or before.
theorem effectFacts (packet : ServerPacket) (channel : Channel) {fact : Fact} (shown : fact ∈ Fact.ofChannel (l.effect packet channel)) :
    fact ∈ Fact.ofChannel channel ∨ fact ∈ Fact.ofPacket packet := by
  by_cases leaves : packet = .GOODBYE
  · subst leaves
    exact absurd shown (offlineFacts channel)
  · obtain ⟨online,players⟩ := Listing.effectCounts (l := l) leaves channel
    cases fact with
    | online =>
      have either : (packet.opens || channel.isOnline) = true := online ▸ shown
      exact ((Bool.or_eq_true _ _).mp either).symm
    | numPlayers count =>
      obtain ⟨is,some⟩ := shown
      rw [players] at is
      cases brought : packet.count with
      | none => exact .inl ⟨by simpa [brought] using is,some⟩
      | some written => exact .inr ⟨by simpa [brought] using is,some⟩

theorem packetHolds (sender : Place) (packet : ServerPacket) :
    holds (l.step (.packet sender packet)) ⊆ holds l ∪
      { told | told.1 = sender ∧ told.1.serverID ≠ 0 ∧ told.1.channelID ≠ 0 ∧ told.2 ∈ Fact.ofPacket packet } := by
  refine holdsOf (Listing.stepPlace l _).1 fun q abroad channel found fact shown => ?_
  rw [Listing.packetEntry] at found
  split at found
  · rename_i same
    obtain ⟨before,was,rfl⟩ := Option.map_eq_some_iff.mp found
    obtain ⟨server,under,-⟩ := entrySome ((channelEntry _ _).symm.trans was)
    subst same
    rcases effectFacts packet before shown with held | told
    · exact .inl ⟨before,was,held⟩
    · exact .inr ⟨rfl,server,under,told⟩
  · exact .inl ⟨channel,found,shown⟩

/-! What is sent. -/

theorem memSendToAll {chosen : Channel → Bool} {packet : ServerPacket} {sent : Place × ServerPacket}
    (mem : sent ∈ l.sendToAll chosen packet) : sent.2 = packet := by
  obtain ⟨server,-,mem⟩ := List.mem_flatMap.mp mem
  obtain ⟨channel,-,mem⟩ := List.mem_flatMap.mp mem
  split at mem
  · cases mem
  · split at mem
    · exact congrArg Prod.snd (List.mem_singleton.mp mem)
    · cases mem

-- A step of the process: its list stays in shape, it takes over what it has been told, and sends
-- only while it runs, and only the number of players that it has then.
structure Plain (m : ChannelProcess) (told : Set (Place × Fact)) (result : ChannelProcess × List (Place × ServerPacket)) : Prop where
  kept : Listing.Kept m.peer.listing result.1.peer.listing
  holds : holds result.1.peer.listing ⊆ holds m.peer.listing ∪ told
  awake : ∀ sent ∈ result.2, m.peer.running = true ∨ result.1.peer.running = true
  counts : ∀ sent ∈ result.2, ∀ count, sent.2.count = some count → count ≠ 0 →
    result.1.peer.running = true ∧ UInt16.ofNat result.1.peer.listing.users = count

-- Also of what arrives cut off.
theorem toldText {authKey : Bytes} {place : Place} {packet : ServerPacket} {told : Place × Fact} (authentic : w.authKey = authKey)
    (tells : told ∈ w.tells (packet.text authKey place)) :
    told.1 = place ∧ (told.2 = .online ∨ ∃ count, told.2 = .numPlayers count ∧ packet.count = some count ∧ count ≠ 0) := by
  subst authentic
  obtain ⟨server,under,arrived,read,brings⟩ := tells
  have cut := readServerPacketCut _ read
  refine ⟨cut.sender server under,?_⟩
  cases fact : told.2 with
  | online => exact .inl rfl
  | numPlayers count =>
    rw [fact] at brings
    exact .inr ⟨count,rfl,cut.count count brings.1 brings.2,brings.2⟩

theorem Plain.sound {told : Set (Place × Fact)} {result : ChannelProcess × List (Place × ServerPacket)} (plain : Plain m told result)
    (sound : Sound w i m) : Sound w i result.1 where
  place := plain.kept.place.trans sound.place
  numbered := plain.kept.numbered sound.numbered
  small := plain.kept.maxPlayers.symm ▸ plain.kept.small sound.small
  maxPlayers := plain.kept.maxPlayers.trans sound.maxPlayers

theorem plainHonest {told : Set (Place × Fact)} {result : ChannelProcess × List (Place × ServerPacket)} (sound : Sound w i m)
    (plain : Plain m told result) : Honest w.facts i m told (w.text m result) where
  utters text utterance fact tells := by
    obtain ⟨sent,mem,rfl⟩ := List.mem_map.mp utterance
    obtain ⟨own,what⟩ := toldText rfl tells
    refine .inl ⟨own.trans sound.place,?_⟩
    rcases what with online | ⟨count,players,written,some⟩
    · rw [online]
      exact plain.awake sent mem
    · obtain ⟨awake,is⟩ := plain.counts sent mem count written some
      have small := (plain.sound sound).small
      have narrow : result.1.peer.listing.users < 2 ^ 16 :=
        Nat.lt_of_le_of_lt (small.trans_eq (plain.sound sound).maxPlayers) (w.settings i).maxPlayers.toNat_lt
      rw [players]
      refine .inr ⟨awake,?_,small⟩
      rw [← is,UInt16.toNat_ofNat',Nat.mod_eq_of_lt narrow]
      rfl
  holds := plain.holds
  sound := plain.sound sound

theorem stays (m : ChannelProcess) (told : Set (Place × Fact)) : Plain m told (m,[]) where
  kept := .same rfl rfl
  holds := Set.subset_union_left
  awake _ mem := absurd mem List.not_mem_nil
  counts _ mem := absurd mem List.not_mem_nil

theorem Sound.given (sound : Sound w i m) (listed : w.Listed i) :
    m.peer.listing.config.place.serverID ≠ 0 ∧ m.peer.listing.config.place.channelID ≠ 0 := by
  obtain ⟨channel,found⟩ := Option.isSome_iff_exists.mp listed
  obtain ⟨server,under,-⟩ := entrySome ((channelEntry _ _).symm.trans found)
  rw [sound.place]
  exact ⟨server,under⟩

theorem startPlain (m : ChannelProcess) (now : Nat) : Plain m ∅ (m.start now) := by
  have kept : Listing.Kept m.peer.listing { m.peer.listing with currentTime := now } := .same rfl rfl
  by_cases ended : m.isShuttingDown
  · rw [ChannelProcess.start,if_pos ended]
    exact ⟨kept,Set.subset_union_left,fun _ mem => absurd mem List.not_mem_nil,fun _ mem => absurd mem List.not_mem_nil⟩
  · rw [ChannelProcess.start,if_neg ended,ChannelPeer.start]
    by_cases awake : m.peer.running
    · rw [if_pos awake]
      exact stays m ∅
    · rw [if_neg awake]
      refine ⟨kept,Set.subset_union_left,fun _ _ => .inr rfl,fun sent mem count written _ => ⟨rfl,?_⟩⟩
      rw [memSendToAll mem] at written
      exact Option.some.inj written

theorem shutdownPlain (m : ChannelProcess) : Plain m ∅ m.shutdown := by
  rw [ChannelProcess.shutdown]
  by_cases awake : m.peer.running
  · rw [if_pos awake]
    refine ⟨.same rfl rfl,Set.subset_union_left,fun _ _ => .inl awake,fun sent mem count written some => ?_⟩
    rw [memSendToAll mem] at written
    exact absurd (Option.some.inj written).symm some
  · rw [if_neg awake]
    exact stays m ∅

theorem usersPlain {e : Listing.Event} (users : e = .addUser ∨ e = .removeUser)
    (given : m.peer.listing.config.place.serverID ≠ 0 ∧ m.peer.listing.config.place.channelID ≠ 0) :
    Plain m ∅ (m.perform (m.peer.updateChannelNumPlayers (m.peer.listing.step e))) := by
  have sends {sent : Place × ServerPacket}
      (mem : sent ∈ (m.perform (m.peer.updateChannelNumPlayers (m.peer.listing.step e))).2) :
      m.peer.running = true ∧ sent.2 = .NUMPLAYERS (UInt16.ofNat (m.peer.listing.step e).users) := by
    by_cases awake : m.peer.running
    · simp only [ChannelProcess.perform,ChannelPeer.updateChannelNumPlayers,if_pos awake] at mem
      exact ⟨awake,memSendToAll mem⟩
    · simp only [ChannelProcess.perform,ChannelPeer.updateChannelNumPlayers,if_neg awake] at mem
      exact absurd mem List.not_mem_nil
  refine ⟨Listing.stepKept _ e,usersHolds users given ∅,fun sent mem => .inl (sends mem).1,
    fun sent mem count written _ => ⟨(sends mem).1,?_⟩⟩
  rw [(sends mem).2] at written
  exact Option.some.inj written

theorem tickPlain (numbered : Numbered m.peer.listing.config.serverList) (now : Nat) :
    Plain m ∅ (m.perform (m.peer.onSecondTick now)) := by
  by_cases awake : m.peer.running
  · have ticks : m.peer.onSecondTick now = (⟨m.peer.listing.step (.secondTick now),true⟩,
        (if m.peer.listing.Jumps now then (m.peer.listing.step (.secondTick now)).sendHelloPacketToAll else []) ++
          (m.peer.listing.step (.secondTick now)).sendHeartbeatPackets) := if_pos awake
    rw [ticks]
    refine ⟨Listing.stepKept _ (.secondTick now),tickHolds numbered now ∅,fun _ _ => .inl awake,fun sent mem count written _ => ⟨rfl,?_⟩⟩
    rcases List.mem_append.mp mem with hello | beat
    · split at hello
      · rw [memSendToAll hello] at written
        exact Option.some.inj written
      · cases hello
    · rw [memSendToAll beat] at written
      cases written
  · have nothing : m.peer.onSecondTick now = (m.peer,[]) := if_neg awake
    rw [nothing]
    exact stays m ∅

theorem packetPlain (sender : Place) (packet : ServerPacket) (awake : m.peer.running = true) :
    Plain m { told | told.1 = sender ∧ told.1.serverID ≠ 0 ∧ told.1.channelID ≠ 0 ∧ told.2 ∈ Fact.ofPacket packet }
      (m.perform (m.peer.handleIncomingServerPacket sender packet)) := by
  have peer : (m.peer.handleIncomingServerPacket sender packet).1 = ⟨m.peer.listing.step (.packet sender packet),m.peer.running⟩ := by
    cases packet <;> rfl
  have answers {sent : Place × ServerPacket} (mem : sent ∈ (m.peer.handleIncomingServerPacket sender packet).2) :
      sent.2 = .HELLO_ANSWER (UInt16.ofNat (m.peer.listing.step (.packet sender packet)).users) := by
    cases packet with
    | HELLO numPlayers =>
      simp only [ChannelPeer.handleIncomingServerPacket] at mem
      split at mem
      · cases mem
      · exact congrArg Prod.snd (List.mem_singleton.mp mem)
    | _ => cases mem
  have after : (m.perform (m.peer.handleIncomingServerPacket sender packet)).1.peer =
      ⟨m.peer.listing.step (.packet sender packet),m.peer.running⟩ := peer
  refine ⟨?_,?_,fun _ _ => .inl awake,fun sent mem count written _ => ?_⟩
  · rw [after]
    exact Listing.stepKept _ (.packet sender packet)
  · rw [after]
    exact packetHolds sender packet
  · rw [after]
    rw [answers mem] at written
    exact ⟨awake,Option.some.inj written⟩

theorem Plain.mono {told more : Set (Place × Fact)} {result : ChannelProcess × List (Place × ServerPacket)} (plain : Plain m told result)
    (within : told ⊆ more) : Plain m more result :=
  { plain with holds := plain.holds.trans (Set.union_subset_union_right _ within) }

theorem bootHolds (w : ServerNetwork) (i : Place) (time : Nat) : holds (w.load i time) = ∅ := by
  refine Set.eq_empty_of_forall_notMem ?_
  rintro ⟨q,fact⟩ ⟨abroad,channel,found,shown⟩
  obtain ⟨offline,nobody⟩ := Listing.loadEntry (w.settings i).fits found
  cases fact with
  | online => exact abroad (of_decide_eq_true (offline.symm.trans shown))
  | numPlayers count => exact shown.2 (shown.1.symm.trans nobody)

theorem bootSound (w : ServerNetwork) (i : Place) (time : Nat) : Sound w i (w.boot i time) :=
  ⟨rfl,Listing.loadNumbered (w.settings i).fits i,Nat.zero_le _,rfl⟩

theorem gossipRules (w : ServerNetwork) : Rules w.protocol w.facts where
  act i m e listed sound := by
    have given := Sound.given sound listed
    cases e with
    | boot time =>
      have booted : w.protocol.act m (.boot time) = (w.boot i time,[]) := by rw [← sound.place]; rfl
      rw [booted]
      exact ⟨fun _ mem => absurd mem List.not_mem_nil,(bootHolds w i time).subset.trans (Set.empty_subset _),bootSound w i time⟩
    | start now => exact plainHonest sound (startPlain m now)
    | stop => exact plainHonest sound (shutdownPlain m)
    | addUser =>
      refine plainHonest sound ?_
      rw [ChannelPeer.addUser]
      split
      · exact stays m ∅
      · exact usersPlain (.inl rfl) given
    | removeUser =>
      refine plainHonest sound ?_
      rw [ChannelPeer.removeUser]
      split
      · exact stays m ∅
      · exact usersPlain (.inr rfl) given
    | secondTick now => exact plainHonest sound (tickPlain sound.numbered now)
  receive i m buffer _ sound := by
    change Honest w.facts i m _ (w.receive m buffer)
    rw [ServerNetwork.receive]
    cases arrived : (readServerPacket (buffer.take UDP_PACKET_MAX_SIZE)).filter (·.1 = w.authKey) with
    | none => exact plainHonest sound (stays m _)
    | some arrival =>
      obtain ⟨key,sender,packet⟩ := arrival
      obtain ⟨read,authentic⟩ := Option.filter_eq_some_iff.mp arrived
      obtain rfl : key = w.authKey := of_decide_eq_true authentic
      by_cases awake : m.peer.running
      · simp only [awake,if_true]
        refine plainHonest sound ((packetPlain sender packet awake).mono ?_)
        rintro ⟨q,fact⟩ ⟨rfl,server,under,brings⟩
        exact ⟨server,under,packet,read,brings⟩
      · simp only [awake]
        exact plainHonest sound (stays m _)

end Steps

abbrev Happening := Hearsay.Event Place ProcessEvent Bytes

-- The server of a place, after what has happened.
def ServerNetwork.peer (w : ServerNetwork) (events : List Happening) (i : Place) : ChannelPeer :=
  ((run (Hearsay.step w.protocol) w.begin events).party i).peer

-- Every server's list shows of the others only what has been: one is shown online that has run,
-- and with players only so many as it has had while it ran, which were never too many.
def ServerNetwork.ShowsWhatWas (w : ServerNetwork) (events : List Happening) : Prop :=
  ∀ i q channel, w.Listed i → q ≠ i → (w.peer events i).listing.config.channel q = some channel →
    (channel.isOnline = true → ∃ before, before <+: events ∧ (w.peer before q).running = true) ∧
    (channel.numPlayers ≠ 0 → ∃ before, before <+: events ∧ (w.peer before q).running = true ∧
      (w.peer before q).listing.users = channel.numPlayers.toNat ∧
      (w.peer before q).listing.users ≤ (w.peer before q).listing.config.maxPlayers)

theorem showsWhatWas (w : ServerNetwork) {events : List Happening}
    (admissible : Each (Hearsay.step w.protocol) (Admissible w.facts) w.begin events) : w.ShowsWhatWas events := by
  have start : Borne w.protocol w.facts w.begin [] :=
    { sound := fun i _ => bootSound w i 0
      holds := fun i fact mem => absurd ((bootHolds w i 0).symm ▸ mem) (Set.notMem_empty fact)
      said := fun _ mem => absurd mem List.not_mem_nil }
  have borne := Hearsay.runBorne (gossipRules w) start admissible
  intro i q channel listed other found
  have abroad : q ≠ (w.peer events i).listing.config.place := fun same => other (same.trans (borne.sound i listed).place)
  exact ⟨fun online => borne.holds i (q,.online) ⟨abroad,channel,found,online⟩,
    fun some => borne.holds i (q,.numPlayers channel.numPlayers) ⟨abroad,channel,found,rfl,some⟩⟩

section Sample

def pairNetwork : ServerNetwork := ⟨[107,101,121],fun _ => ⟨600,[],Listing.pairOfServers,Listing.pairFits⟩⟩

-- A hello arrives twice, the second time when its sender is gone; in between comes what anybody
-- could send.
def lateHello : List Happening :=
  [.act ⟨1,1⟩ (.start 0),.act ⟨1,1⟩ .addUser,.act ⟨1,1⟩ (.secondTick 9),.act ⟨2,1⟩ (.start 0),
    .deliver ⟨2,1⟩ ((ServerPacket.HELLO 1).text pairNetwork.authKey ⟨1,1⟩),.act ⟨1,1⟩ .stop,
    .deliver ⟨2,1⟩ ((ServerPacket.NUMPLAYERS 500).text [107] ⟨1,1⟩),.act ⟨1,1⟩ (.boot 5),
    .deliver ⟨2,1⟩ ((ServerPacket.HELLO 1).text pairNetwork.authKey ⟨1,1⟩)]

theorem showsWhatWasLate :
    ∃ channel, (pairNetwork.peer lateHello ⟨2,1⟩).listing.config.channel ⟨1,1⟩ = some channel ∧ channel.numPlayers = 1 ∧
      (pairNetwork.peer lateHello ⟨1,1⟩).listing.users = 0 ∧ ∃ before, before <+: lateHello ∧
        (pairNetwork.peer before ⟨1,1⟩).running = true ∧ (pairNetwork.peer before ⟨1,1⟩).listing.users = 1 := by
  have listed (i : Place) (one : i = ⟨1,1⟩ ∨ i = ⟨2,1⟩) : pairNetwork.Listed i := by rcases one with rfl | rfl <;> decide +kernel
  have here := listed ⟨1,1⟩ (.inl rfl)
  have there := listed ⟨2,1⟩ (.inr rfl)
  have forged : pairNetwork.tells ((ServerPacket.NUMPLAYERS 500).text [107] ⟨1,1⟩) = ∅ := by
    refine Set.eq_empty_of_forall_notMem ?_
    rintro told ⟨-,-,packet,read,-⟩
    have other : (readServerPacket (((ServerPacket.NUMPLAYERS 500).text [107] ⟨1,1⟩).take UDP_PACKET_MAX_SIZE)).map Prod.fst =
        some [107] := by decide +kernel
    rw [read] at other
    exact absurd (Option.some.inj other) (show pairNetwork.authKey ≠ [107] by decide)
  obtain ⟨channel,found,one⟩ : ∃ channel, (pairNetwork.peer lateHello ⟨2,1⟩).listing.config.channel ⟨1,1⟩ = some channel ∧
      channel.numPlayers = 1 := ⟨_,rfl,by decide +kernel⟩
  have shows : pairNetwork.ShowsWhatWas lateHello := showsWhatWas pairNetwork
    ⟨here,here,here,there,⟨there,.inl (by decide +kernel)⟩,here,⟨there,.inr forged⟩,here,⟨there,.inl (by decide +kernel)⟩,trivial⟩
  obtain ⟨before,early,ran,users,-⟩ := (shows ⟨2,1⟩ ⟨1,1⟩ channel there (by decide) found).2 (one ▸ by decide)
  exact ⟨channel,found,one,by decide +kernel,before,early,ran,users.trans (by rw [one]; rfl)⟩

end Sample
end CsoMaster.ServerGossip
