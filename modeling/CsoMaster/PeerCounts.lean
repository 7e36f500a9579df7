import CsoMaster.PeerDirection
import CsoMaster.Runs

/-! Two channel servers that keep each other's number of players, with the threads that send. A
packet is written with the count of that moment and queued by `sendPacket` later, and between the
two another thread can do anything; what is queued arrives, in the order it was queued. -/
namespace CsoMaster
open Runs

-- What is left to do of a call: a packet that is to be written for a channel, and `sendPacket` of
-- one that has been.
inductive Task where
  | hello (q : Place)
  | helloAnswer (q : Place)
  | numPlayers
  | numPlayersTo (q : Place)
  | heartbeat (q : Place)
  | sendPacket (q : Place) (packet : ServerPacket)
  | setCurrentTime (now : Nat)
  deriving DecidableEq, Repr

-- The other channels, in the order of the loops over the list.
def Listing.others (l : Listing) : List Place :=
  l.config.serverList.flatMap fun server => server.channels.flatMap fun channel =>
    if server.id = l.config.place.serverID ∧ channel.id = l.config.place.channelID then [] else [⟨server.id,channel.id⟩]

-- `running` is that the UDP thread is in `run`, `joinable` that `Start` has stored it.
structure ThreadedPeer extends ChannelPeer where
  joinable : Bool
  tasks : Thread → List Task

namespace Task

def next (m : ThreadedPeer) : Task → List Task
  | hello q => [.sendPacket q (.HELLO (UInt16.ofNat m.listing.users))]
  | helloAnswer q => [.sendPacket q (.HELLO_ANSWER (UInt16.ofNat m.listing.users))]
  | numPlayers => if m.joinable then m.listing.others.map numPlayersTo else []
  | numPlayersTo q => if m.listing.config.isOnline q then [.sendPacket q (.NUMPLAYERS (UInt16.ofNat m.listing.users))] else []
  | heartbeat q => if m.listing.config.isOnline q then [.sendPacket q .HEARTBEAT] else []
  | sendPacket _ _ | setCurrentTime _ => []

def queues : Task → List (Place × ServerPacket)
  | sendPacket q packet => [(q,packet)]
  | _ => []

def sets (l : Listing) : Task → Listing
  | setCurrentTime now => { l with currentTime := now }
  | _ => l

end Task

namespace ThreadedPeer
variable (m : ThreadedPeer)

def calls (thread : Thread) (tasks : List Task) : ThreadedPeer := { m with tasks := Function.update m.tasks thread tasks }

def start (now : Nat) : ThreadedPeer :=
  if m.running then m
  else { m.calls .udp (m.listing.others.map .hello ++ [.setCurrentTime now]) with running := true }

def stored : ThreadedPeer := { m with joinable := true }

def handleIncomingServerPacket (sender : Place) (packet : ServerPacket) : ThreadedPeer :=
  let answered := match packet with
    | .HELLO _ => if (m.listing.config.channel sender).isNone then [] else [Task.helloAnswer sender]
    | _ => []
  { m.calls .udp answered with listing := m.listing.step (.packet sender packet) }

def updateChannelNumPlayers (listing : Listing) : ThreadedPeer := { m.calls .tcp [.numPlayers] with listing := listing }

def addUser : ThreadedPeer :=
  if m.listing.users ≥ m.listing.config.maxPlayers then m else m.updateChannelNumPlayers (m.listing.step .addUser)

def removeUser : ThreadedPeer :=
  if m.listing.users = 0 then m else m.updateChannelNumPlayers (m.listing.step .removeUser)

def onSecondTick (now : Nat) : ThreadedPeer :=
  if m.joinable then
    { m.calls .console ((if m.listing.Jumps now then m.listing.others.map .hello else []) ++ m.listing.others.map .heartbeat) with
      listing := m.listing.step (.secondTick now) }
  else m

-- A thread goes on with its call: it writes the next packet, or queues the one it has written.
def advance (thread : Thread) : ThreadedPeer × List (Place × ServerPacket) :=
  match m.tasks thread with
  | [] => (m,[])
  | task :: rest => ({ m.calls thread (task.next m ++ rest) with listing := task.sets m.listing },task.queues)

end ThreadedPeer

def sentTo (q : Place) (sends : List (Place × ServerPacket)) : List ServerPacket :=
  (sends.filter fun sent => sent.1 = q).map Prod.snd

-- The two, and what each has under way to the other.
structure PeerPair where
  peer : Bool → ThreadedPeer
  inFlight : Bool → List ServerPacket

namespace PeerPair

inductive Event where
  | start (i : Bool) (now : Nat)
  | stored (i : Bool)
  | receive (i : Bool)
  | other (i : Bool) (sender : Place) (packet : ServerPacket)
  | addUser (i : Bool)
  | removeUser (i : Bool)
  | secondTick (i : Bool) (now : Nat)
  | advance (i : Bool) (thread : Thread)
  deriving DecidableEq, Repr

def place (s : PeerPair) (i : Bool) : Place := (s.peer i).listing.config.place

def perform (s : PeerPair) (i : Bool) (result : ThreadedPeer × List (Place × ServerPacket)) : PeerPair where
  peer := Function.update s.peer i result.1
  inFlight := Function.update s.inFlight i (s.inFlight i ++ sentTo (s.place !i) result.2)

-- A thread that is in a call takes up nothing else.
def idle (s : PeerPair) (i : Bool) (thread : Thread) : Bool := ((s.peer i).tasks thread).isEmpty

def step (s : PeerPair) : Event → PeerPair
  | .start i now => s.perform i ((s.peer i).start now,[])
  | .stored i => s.perform i ((s.peer i).stored,[])
  | .receive i =>
    match s.inFlight !i with
    | [] => s
    | packet :: rest =>
      if (s.peer i).running && s.idle i .udp then
        { s with inFlight := Function.update s.inFlight (!i) rest }.perform i
          ((s.peer i).handleIncomingServerPacket (s.place !i) packet,[])
      else s
  | .other i sender packet =>
    if (s.peer i).running && s.idle i .udp then s.perform i ((s.peer i).handleIncomingServerPacket sender packet,[]) else s
  | .addUser i => if s.idle i .tcp then s.perform i ((s.peer i).addUser,[]) else s
  | .removeUser i => if s.idle i .tcp then s.perform i ((s.peer i).removeUser,[]) else s
  | .secondTick i now => if s.idle i .console then s.perform i ((s.peer i).onSecondTick now,[]) else s
  | .advance i thread => s.perform i ((s.peer i).advance thread)

def start (listing : Bool → Listing) : PeerPair := ⟨fun i => ⟨⟨listing i,false⟩,false,fun _ => []⟩,fun _ => []⟩

/-! What the threads do for the peer alone. -/

end PeerPair

namespace Task

def words (q : Place) : Task → List Word
  | hello p => if p = q then [.hello] else []
  | helloAnswer p => if p = q then [.answer] else []
  | numPlayers => [.count]
  | numPlayersTo p => if p = q then [.count] else []
  | heartbeat p => if p = q then [.beat] else []
  | sendPacket p packet => if p = q then [.packet packet] else []
  | setCurrentTime _ => []

-- The channel is going to be sent the count of the users.
def tells (q : Place) : Task → Bool
  | numPlayers => true
  | numPlayersTo p => p = q
  | sendPacket p (.NUMPLAYERS _) => p = q
  | _ => false

-- An answer that would be queued behind a later count, or a count that is not told because `Start`
-- has not stored the thread yet that has heard of the channel.
def outdated (m : ThreadedPeer) (q : Place) : Task → Bool
  | sendPacket p (.HELLO_ANSWER count) => p = q && count.toNat ≠ m.listing.users && !(m.tasks .tcp).any (tells q)
  | numPlayers => !m.joinable && m.listing.config.isOnline q && !(m.tasks .udp).contains (.helloAnswer q)
  | _ => false

theorem answering {q : Place} {task : Task} {numPlayers : UInt16} (words : task.words q = [.packet (.HELLO_ANSWER numPlayers)]) :
    task = .sendPacket q (.HELLO_ANSWER numPlayers) := by
  cases task with
  | numPlayers | setCurrentTime now => cases words
  | hello p | helloAnswer p | numPlayersTo p | heartbeat p =>
    rw [Task.words] at words
    split at words <;> cases words
  | sendPacket p packet =>
    rw [Task.words] at words
    split at words
    · rename_i peer
      cases words
      rw [peer]
    · cases words

theorem telling {q : Place} {task : Task} (tells : task.tells q = true) : task.words q ≠ [] := by
  cases task with
  | numPlayers => exact nofun
  | numPlayersTo p => simpa [Task.tells,Task.words] using tells
  | sendPacket p packet =>
    cases packet with
    | NUMPLAYERS numPlayers => simpa [Task.tells,Task.words] using tells
    | _ => cases tells
  | _ => cases tells

theorem setsConfig (l : Listing) (task : Task) : (task.sets l).config = l.config ∧ (task.sets l).users = l.users := by
  cases task <;> exact ⟨rfl,rfl⟩

end Task

namespace Listing
open State (UDP_SERVER_HEARTBEAT_TIMEOUT)
variable {l : Listing} {q : Place} {channel : Channel}

theorem flatMapAt {α β : Type} {as : List α} {k : Nat} {a : α} {f : α → List β} (here : as[k]? = some a)
    (others : ∀ (i : Nat) b, as[i]? = some b → i ≠ k → f b = []) : as.flatMap f = f a := by
  induction as generalizing k with
  | nil => cases here
  | cons b as ih =>
    rw [List.flatMap_cons]
    cases k with
    | zero =>
      obtain rfl := Option.some.inj here
      have rest : as.flatMap f = [] := List.flatMap_eq_nil_iff.mpr fun c mem => by
        obtain ⟨i,found⟩ := List.mem_iff_getElem?.mp mem
        exact others (i + 1) c found (Nat.succ_ne_zero i)
      rw [rest,List.append_nil]
    | succ k =>
      rw [others 0 b rfl (Nat.succ_ne_zero k).symm,List.nil_append]
      exact ih here fun i c found apart => others (i + 1) c found fun same => apart (Nat.succ.inj same)

-- A channel that is listed is one of the others once.
theorem othersAt {β : Type} (numbered : Numbered l.config.serverList) (abroad : q ≠ l.config.place)
    (found : l.config.channel q = some channel) (f : Place → List β) (elsewhere : ∀ p, p ≠ q → f p = []) : l.others.flatMap f = f q := by
  obtain ⟨server,under,named,here,there⟩ := entrySome ((channelEntry _ _).symm.trans found)
  obtain ⟨number,numbers⟩ := numbered _ named here
  obtain ⟨at',positive⟩ := belowIndex server
  obtain ⟨within,one⟩ := belowIndex under
  have id : named.id = q.serverID := UInt8.toNat_inj.mp (by omega)
  have also : channel.id = q.channelID := UInt8.toNat_inj.mp (by have own := numbers _ channel there; omega)
  have peer : (⟨named.id,channel.id⟩ : Place) = q := by rw [id,also]
  have other : ¬ (named.id = l.config.place.serverID ∧ channel.id = l.config.place.channelID) := by
    rintro ⟨first,second⟩
    exact abroad (peer.symm.trans (by rw [first,second]))
  rw [others,List.flatMap_assoc,flatMapAt here fun i b at' apart => ?_,List.flatMap_assoc,flatMapAt there fun i b at' apart => ?_,
    if_neg other,List.flatMap_singleton,peer]
  · have differs : b.id ≠ q.channelID := fun same => apart (by have own := numbers _ b at'; rw [same] at own; omega)
    have away : f ⟨named.id,b.id⟩ = [] := elsewhere _ fun same => differs (congrArg Place.channelID same)
    split
    · rfl
    · rw [List.flatMap_singleton,away]
  · have differs : b.id ≠ q.serverID := fun same => apart (by have own := (numbered _ b at').1; rw [same] at own; omega)
    refine List.flatMap_eq_nil_iff.mpr fun p mem => elsewhere p ?_
    obtain ⟨c,-,mem⟩ := List.mem_flatMap.mp mem
    split at mem
    · cases mem
    · rw [List.mem_singleton.mp mem]
      exact fun same => differs (congrArg Place.serverID same)

theorem calmTickEntry (numbered : Numbered l.config.serverList) {now : Nat} (calm : ¬ l.Jumps now)
    (recent : ∀ channel, l.config.channel q = some channel →
      channel.isOnline = true → now ≤ channel.lastHeartbeat + UDP_SERVER_HEARTBEAT_TIMEOUT) :
    (l.step (.secondTick now)).config.channel q = l.config.channel q := by
  rw [tickEntry numbered]
  refine (Option.map_congr fun channel found => ?_).trans Option.map_id'
  have still : ¬ (q ≠ l.config.place ∧ channel.isOnline = true ∧ channel.lastHeartbeat + UDP_SERVER_HEARTBEAT_TIMEOUT < now) :=
    fun old => absurd old.2.2 (Nat.not_lt.mpr (recent channel found old.2.1))
  simp only [calm,false_and,if_false,if_neg still]

end Listing

namespace PeerPair

section Directions
variable {s : PeerPair} {i : Bool} {e : Event} {channel : Channel}

def entry (s : PeerPair) (i : Bool) : Option Channel := (s.peer i).listing.config.channel (s.place !i)

def direction (s : PeerPair) (i : Bool) : Direction where
  running := (s.peer i).running
  online := (s.entry i).any Channel.isOnline
  users := UInt16.ofNat (s.peer i).listing.users
  words thread := ((s.peer i).tasks thread).flatMap (Task.words (s.place !i))
  inFlight := s.inFlight i
  numPlayers := (s.entry !i).elim 0 Channel.numPlayers
  heard := (s.entry !i).any Channel.isOnline

-- What is between the two alone: the seconds neither jump nor find the peer's last sign of life
-- too old, and no other server speaks in the peer's name.
def Regular (s : PeerPair) : Event → Prop
  | .secondTick i now => ¬ (s.peer i).listing.Jumps now ∧ ∀ channel, s.entry i = some channel →
      channel.isOnline = true → now ≤ channel.lastHeartbeat + State.UDP_SERVER_HEARTBEAT_TIMEOUT
  | .other i sender _ => sender ≠ s.place !i
  | _ => True

def Current (s : PeerPair) : Event → Prop
  | .advance i thread => ((s.peer i).tasks thread).head?.all fun task => !task.outdated (s.peer i) (s.place !i)
  | _ => True

instance (s : PeerPair) : DecidablePred s.Current := fun e => by unfold Current; split <;> infer_instance

structure Framed (s : PeerPair) : Prop where
  numbered : ∀ i, Numbered (s.peer i).listing.config.serverList
  apart : ∀ i, s.place (!i) ≠ s.place i
  listed : ∀ i, ∃ channel, s.entry i = some channel
  small : ∀ i, (s.peer i).listing.users ≤ (s.peer i).listing.config.maxPlayers ∧ (s.peer i).listing.config.maxPlayers ≤ 65535

structure Linked (s : PeerPair) : Prop extends Framed s where
  sound : ∀ i, (s.direction i).Sound

theorem performEntry (s : PeerPair) (i : Bool) (result : ThreadedPeer × List (Place × ServerPacket))
    (place : result.1.listing.config.place = s.place i) :
    (s.perform i result).place = s.place ∧ (s.perform i result).entry i = result.1.listing.config.channel (s.place !i) ∧
      (s.perform i result).entry (!i) = s.entry !i := by
  have places : (s.perform i result).place = s.place := by
    funext k
    by_cases own : k = i
    · subst own
      simpa [PeerPair.place,perform] using place
    · simp [PeerPair.place,perform,own]
  refine ⟨places,?_,?_⟩
  · rw [entry,places]
    simp [perform]
  · rw [entry,entry,places]
    simp [perform]

theorem performDirections (s : PeerPair) (i : Bool) (result : ThreadedPeer × List (Place × ServerPacket))
    (place : result.1.listing.config.place = s.place i) :
    (s.perform i result).direction i = { s.direction i with
        running := result.1.running
        online := (result.1.listing.config.channel (s.place !i)).any Channel.isOnline
        users := UInt16.ofNat result.1.listing.users
        words := fun thread => (result.1.tasks thread).flatMap (Task.words (s.place !i))
        inFlight := s.inFlight i ++ sentTo (s.place !i) result.2 } ∧
      (s.perform i result).direction (!i) = { s.direction (!i) with
        numPlayers := (result.1.listing.config.channel (s.place !i)).elim 0 Channel.numPlayers
        heard := (result.1.listing.config.channel (s.place !i)).any Channel.isOnline } := by
  obtain ⟨places,own,other⟩ := s.performEntry i result place
  constructor
  · simp only [direction,own,other,places]
    simp [perform]
  · simp only [direction,Bool.not_not,own,other,places]
    simp [perform]

-- Nothing happens that the peer's entry or the peer's own direction would show.
theorem performOwn {result : ThreadedPeer × List (Place × ServerPacket)} {words : Thread → List Word} {inFlight : List ServerPacket}
    (places : result.1.listing.config.place = s.place i) (unmoved : result.1.listing.config.channel (s.place !i) = s.entry i)
    (said : (fun thread => (result.1.tasks thread).flatMap (Task.words (s.place !i))) = words)
    (sent : s.inFlight i ++ sentTo (s.place !i) result.2 = inFlight)
    (own : Direction.Step (s.direction i) { s.direction i with
      running := result.1.running
      users := UInt16.ofNat result.1.listing.users
      words := words
      inFlight := inFlight }) (k : Bool) :
    Direction.Step (s.direction k) ((s.perform i result).direction k) := by
  obtain ⟨here,there⟩ := s.performDirections i result places
  rw [unmoved] at here there
  rw [said,sent] at here
  by_cases same : k = i
  · subst same
    rw [here]
    exact own
  · obtain rfl : k = !i := Bool.eq_not.mpr same
    rw [there]
    have still : s.entry (!!i) = s.entry i := by rw [Bool.not_not]
    simp only [direction,still]
    exact .stay

theorem Linked.given (linked : s.Linked) (i : Bool) : (s.place i).serverID ≠ 0 ∧ (s.place i).channelID ≠ 0 := by
  obtain ⟨channel,found⟩ := linked.listed !i
  rw [entry,Bool.not_not] at found
  obtain ⟨server,under,-⟩ := entrySome ((channelEntry _ _).symm.trans found)
  exact ⟨server,under⟩

-- A call for all the others says its word to the peer, once.
theorem Framed.othersWords (framed : s.Framed) (i : Bool) {task : Place → Task} {word : Word}
    (words : ∀ q p, (task p).words q = if p = q then [word] else []) :
    ((s.peer i).listing.others.map task).flatMap (Task.words (s.place !i)) = [word] := by
  obtain ⟨channel,found⟩ := framed.listed i
  rw [List.flatMap_map,Listing.othersAt (framed.numbered i) (framed.apart i) found,words,if_pos rfl]
  intro p apart
  rw [words,if_neg apart]

theorem idleWords {thread : Thread} (idle : s.idle i thread = true) : (s.direction i).words thread = [] := by
  have none : (s.peer i).tasks thread = [] := List.isEmpty_iff.mp idle
  change ((s.peer i).tasks thread).flatMap _ = []
  rw [none,List.flatMap_nil]

-- With its call a thread has the words of the tasks to say.
theorem callsWords (s : PeerPair) (i : Bool) (thread : Thread) (tasks : List Task) {words : List Word}
    (said : tasks.flatMap (Task.words (s.place !i)) = words) :
    (fun other => (((s.peer i).calls thread tasks).tasks other).flatMap (Task.words (s.place !i))) =
      Function.update (s.direction i).words thread words := by
  funext other
  by_cases same : other = thread
  · subst same
    simp [ThreadedPeer.calls,said]
  · simp [ThreadedPeer.calls,direction,same]

-- A thread whose words stay what they are.
theorem callsSilent {thread : Thread} {tasks : List Task}
    (words : tasks.flatMap (Task.words (s.place !i)) = (s.direction i).words thread) :
    (fun other => (((s.peer i).calls thread tasks).tasks other).flatMap (Task.words (s.place !i))) = (s.direction i).words :=
  (callsWords s i thread tasks words).trans (Function.update_eq_self ..)

theorem nothingSent (s : PeerPair) (i : Bool) : s.inFlight i ++ sentTo (s.place !i) [] = s.inFlight i := List.append_nil _

theorem idleSteps (i k : Bool) : Direction.Step (s.direction k) ((s.perform i (s.peer i,[])).direction k) :=
  performOwn rfl rfl rfl (nothingSent s i) .stay k

theorem storedSteps (i k : Bool) : Direction.Step (s.direction k) ((s.perform i ((s.peer i).stored,[])).direction k) :=
  performOwn rfl rfl rfl (nothingSent s i) .stay k

theorem startSteps (framed : s.Framed) (now : Nat) (i k : Bool) :
    Direction.Step (s.direction k) ((s.perform i ((s.peer i).start now,[])).direction k) := by
  unfold ThreadedPeer.start
  split
  · exact idleSteps i k
  · rename_i asleep
    have hello : ((s.peer i).listing.others.map Task.hello ++ [Task.setCurrentTime now]).flatMap (Task.words (s.place !i)) = [.hello] := by
      rw [List.flatMap_append,framed.othersWords i fun _ _ => rfl]
      rfl
    exact performOwn rfl rfl (callsWords s i .udp _ hello) (nothingSent s i) (.start (Bool.eq_false_iff.mpr asleep)) k

theorem countSteps (linked : s.Linked) {e : Listing.Event} (users : e = .addUser ∨ e = .removeUser)
    (idle : s.idle i .tcp = true) (k : Bool) :
    Direction.Step (s.direction k)
      ((s.perform i ((s.peer i).updateChannelNumPlayers ((s.peer i).listing.step e),[])).direction k) :=
  performOwn (Listing.stepPlace (s.peer i).listing e).1 (Listing.usersEntry users (linked.apart i) (linked.given i))
    (callsWords s i .tcp [.numPlayers] rfl) (nothingSent s i) (.change _ (idleWords idle)) k

theorem tickSteps (linked : s.Linked) {now : Nat} (regular : s.Regular (.secondTick i now)) (idle : s.idle i .console = true)
    (k : Bool) : Direction.Step (s.direction k) ((s.perform i ((s.peer i).onSecondTick now,[])).direction k) := by
  unfold ThreadedPeer.onSecondTick
  rw [if_neg regular.1,List.nil_append]
  split
  · refine performOwn (Listing.stepPlace (s.peer i).listing (.secondTick now)).1
      (Listing.calmTickEntry (linked.numbered i) regular.1 regular.2)
      (callsWords s i .console _ (linked.othersWords i fun _ _ => rfl)) (nothingSent s i) ?_ k
    rw [Listing.tickUsers]
    exact .tick (idleWords idle)
  · exact idleSteps i k

theorem otherSteps {sender : Place} (foreign : sender ≠ s.place !i) (packet : ServerPacket) (idle : s.idle i .udp = true) (k : Bool) :
    Direction.Step (s.direction k)
      ((s.perform i ((s.peer i).handleIncomingServerPacket sender packet,[])).direction k) := by
  have unmoved : ((s.peer i).listing.step (.packet sender packet)).config.channel (s.place !i) = s.entry i := by
    rw [Listing.packetEntry,if_neg foreign.symm]
    rfl
  refine performOwn (Listing.stepPlace (s.peer i).listing (.packet sender packet)).1 unmoved (callsSilent ?_) (nothingSent s i) ?_ k
  · rw [idleWords idle]
    cases packet with
    | HELLO numPlayers =>
      dsimp only
      split
      · rfl
      · simp [Task.words,foreign]
    | _ => rfl
  · simp only [ThreadedPeer.handleIncomingServerPacket,Listing.packetUsers]
    exact .stay

-- A hello is answered, and what else a peer says has no answer; its first word is its hello.
theorem receiveAnswers (linked : s.Linked) {packet : ServerPacket} {rest : List ServerPacket}
    (first : s.inFlight (!i) = packet :: rest) (stays : packet ≠ .GOODBYE) (awake : (s.peer i).running = true)
    (idle : s.idle i .udp = true) (found : s.entry i = some channel) :
    Direction.Step (s.direction i) { s.direction i with
      online := packet.opens || channel.isOnline
      words := fun thread =>
        (((s.peer i).handleIncomingServerPacket (s.place !i) packet).tasks thread).flatMap (Task.words (s.place !i)) } := by
  have online : (s.direction i).online = channel.isOnline := by simp [direction,found]
  have silent (words : (fun thread => (((s.peer i).handleIncomingServerPacket (s.place !i) packet).tasks thread).flatMap
      (Task.words (s.place !i))) = (s.direction i).words) (on : packet.opens = true → channel.isOnline = true) :
      Direction.Step (s.direction i) { s.direction i with
        online := packet.opens || channel.isOnline
        words := fun thread =>
          (((s.peer i).handleIncomingServerPacket (s.place !i) packet).tasks thread).flatMap (Task.words (s.place !i)) } := by
    have still : (packet.opens || channel.isOnline) = (s.direction i).online := by
      rw [online]
      cases opens : packet.opens with
      | false => rfl
      | true => exact (on opens).symm
    rw [words,still]
    exact .stay
  have nothing : ([] : List Task).flatMap (Task.words (s.place !i)) = (s.direction i).words .udp := (idleWords idle).symm
  cases packet with
  | HELLO numPlayers =>
    have here : ¬ ((s.peer i).listing.config.channel (s.place !i)).isNone := by
      rw [show (s.peer i).listing.config.channel (s.place !i) = some channel from found]
      exact nofun
    simp only [ThreadedPeer.handleIncomingServerPacket,if_neg here]
    rw [callsWords s i .udp [.helloAnswer (s.place !i)] (List.append_nil _ |>.trans (if_pos rfl))]
    exact .hear awake (idleWords idle)
  | HELLO_ANSWER numPlayers =>
    -- The peer's own hello has come before its answer.
    have heard := (linked.sound !i).first first nofun
    exact silent (callsSilent nothing) fun _ => by simpa [direction,found] using heard
  | GOODBYE => exact absurd rfl stays
  | HEARTBEAT | NUMPLAYERS | unregistered => exact silent (callsSilent nothing) nofun

theorem receiveSteps (linked : s.Linked) {packet : ServerPacket} {rest : List ServerPacket}
    (first : s.inFlight (!i) = packet :: rest) (awake : (s.peer i).running = true) (idle : s.idle i .udp = true) (k : Bool) :
    Direction.Step (s.direction k) (({ s with inFlight := Function.update s.inFlight (!i) rest }.perform i
      ((s.peer i).handleIncomingServerPacket (s.place !i) packet,[])).direction k) := by
  obtain ⟨channel,found⟩ := linked.listed i
  have stays : packet ≠ .GOODBYE := fun same =>
    (linked.sound !i).stays (by rw [direction,first,same]; exact List.mem_cons_self)
  obtain ⟨opened,counted⟩ := Listing.effectCounts (l := (s.peer i).listing) stays channel
  have entry : ((s.peer i).listing.step (.packet (s.place !i) packet)).config.channel (s.place !i) =
      some ((s.peer i).listing.effect packet channel) := by
    rw [Listing.packetEntry,if_pos rfl]
    exact congrArg (Option.map _) found
  have answered := receiveAnswers linked first stays awake idle found
  let popped : PeerPair := { s with inFlight := Function.update s.inFlight (!i) rest }
  have kept : popped.inFlight i = s.inFlight i := by simp [popped]
  have peer : popped.direction (!i) = { s.direction (!i) with inFlight := rest } := by
    have taken : popped.inFlight (!i) = rest := Function.update_self ..
    change { s.direction (!i) with inFlight := popped.inFlight (!i) } = _
    rw [taken]
  obtain ⟨here,there⟩ := popped.performDirections i ((s.peer i).handleIncomingServerPacket (s.place !i) packet,[])
    (Listing.stepPlace (s.peer i).listing (.packet (s.place !i) packet)).1
  change Direction.Step (s.direction k) ((popped.perform i _).direction k)
  by_cases same : k = i
  · subst same
    rw [here,nothingSent,kept]
    change Direction.Step (s.direction k) { s.direction k with
      online := (((s.peer k).listing.step (.packet (s.place !k) packet)).config.channel (s.place !k)).any Channel.isOnline
      users := UInt16.ofNat ((s.peer k).listing.step (.packet (s.place !k) packet)).users
      words := fun thread =>
        (((s.peer k).handleIncomingServerPacket (s.place !k) packet).tasks thread).flatMap (Task.words (s.place !k)) }
    rw [entry,Option.any_some,opened,Listing.packetUsers]
    exact answered
  · obtain rfl : k = !i := Bool.eq_not.mpr same
    rw [there,peer]
    change Direction.Step (s.direction !i) { s.direction (!i) with
      inFlight := rest
      numPlayers := (((s.peer i).listing.step (.packet (s.place !i) packet)).config.channel (s.place !i)).elim 0 Channel.numPlayers
      heard := (((s.peer i).listing.step (.packet (s.place !i) packet)).config.channel (s.place !i)).any Channel.isOnline }
    rw [entry,Option.elim_some,Option.any_some,opened,counted]
    have received := Direction.Step.receive (d := s.direction !i) first
    have known : (s.direction !i).numPlayers = channel.numPlayers ∧ (s.direction !i).heard = channel.isOnline := by
      simp [direction,found]
    rw [known.1,known.2] at received
    exact received

theorem onlineDirection (s : PeerPair) (i : Bool) : (s.direction i).online = (s.peer i).listing.config.isOnline (s.place !i) := by
  rw [direction,entry,ServerConfig.isOnline]
  cases (s.peer i).listing.config.channel (s.place !i) <;> rfl

-- A task for the peer is carried out as the word it is; one for another channel is not heard of.
theorem taskWords (s : PeerPair) (i : Bool) {task : Task} (one : task ≠ .numPlayers) :
    (task.words (s.place !i) = [] ∧ (task.next (s.peer i)).flatMap (Task.words (s.place !i)) = [] ∧
      sentTo (s.place !i) task.queues = []) ∨
    ∃ word, task.words (s.place !i) = [word] ∧
      (task.next (s.peer i)).flatMap (Task.words (s.place !i)) = (s.direction i).next word ∧
      sentTo (s.place !i) task.queues = Direction.queues word := by
  cases task with
  | numPlayers => exact absurd rfl one
  | setCurrentTime now => exact .inl ⟨rfl,rfl,rfl⟩
  | hello p | helloAnswer p =>
    by_cases peer : p = s.place !i
    · exact .inr ⟨_,if_pos peer,(List.append_nil _).trans (if_pos peer),rfl⟩
    · exact .inl ⟨if_neg peer,(List.append_nil _).trans (if_neg peer),rfl⟩
  | numPlayersTo p | heartbeat p =>
    by_cases peer : p = s.place !i
    · refine .inr ⟨_,if_pos peer,?_,rfl⟩
      rw [Task.next,Direction.next,onlineDirection,peer]
      split
      · exact (List.append_nil _).trans (if_pos rfl)
      · rfl
    · refine .inl ⟨if_neg peer,?_,rfl⟩
      rw [Task.next]
      split
      · exact (List.append_nil _).trans (if_neg peer)
      · rfl
  | sendPacket p packet =>
    by_cases peer : p = s.place !i
    · exact .inr ⟨_,if_pos peer,rfl,by simp [sentTo,Task.queues,peer,Direction.queues]⟩
    · exact .inl ⟨if_neg peer,rfl,by simp [sentTo,Task.queues,peer]⟩

theorem wordsFirst {thread : Thread} {task : Task} {rest : List Task} (first : (s.peer i).tasks thread = task :: rest) :
    (s.direction i).words thread = task.words (s.place !i) ++ rest.flatMap (Task.words (s.place !i)) := by
  change ((s.peer i).tasks thread).flatMap _ = _
  rw [first,List.flatMap_cons]

theorem currentTask {thread : Thread} {task : Task} {rest : List Task} (first : (s.peer i).tasks thread = task :: rest)
    (current : s.Current (.advance i thread)) : task.outdated (s.peer i) (s.place !i) = false := by
  simpa [Current,first] using current

-- An answer that is not outdated has the count, or the TCP thread has words left.
theorem currentWord {thread : Thread} {task : Task} {rest : List Task} (first : (s.peer i).tasks thread = task :: rest)
    (current : s.Current (.advance i thread)) {word : Word} (words : task.words (s.place !i) = [word]) :
    (s.direction i).Current thread := by
  intro numPlayers others _ answer
  have fresh := currentTask first current
  have here : (s.direction i).words thread = word :: rest.flatMap (Task.words (s.place !i)) := (wordsFirst first).trans (by rw [words]; rfl)
  obtain rfl : word = .packet (.HELLO_ANSWER numPlayers) := (List.cons.inj (here.symm.trans answer)).1
  rw [Task.answering words,Task.outdated,decide_eq_true rfl,Bool.true_and] at fresh
  by_cases same : numPlayers.toNat = (s.peer i).listing.users
  · refine .inl ?_
    rw [← @UInt16.ofNat_toNat numPlayers,same]
    rfl
  · rw [decide_eq_true same,Bool.true_and,Bool.not_eq_false'] at fresh
    obtain ⟨task,mem,tells⟩ := List.any_eq_true.mp fresh
    exact .inr fun silent => Task.telling tells (List.flatMap_eq_nil_iff.mp silent task mem)

-- The count of a change goes to all, or to nobody as long as the UDP thread is not stored.
theorem countAdvances (linked : s.Linked) {thread : Thread} {rest : List Task}
    (first : (s.peer i).tasks thread = .numPlayers :: rest) (current : s.Current (.advance i thread)) :
    Direction.Step (s.direction i) ((s.direction i).say thread
      ((Task.next (s.peer i) .numPlayers ++ rest).flatMap (Task.words (s.place !i)))) := by
  have here : (s.direction i).words thread = .count :: rest.flatMap (Task.words (s.place !i)) := wordsFirst first
  rw [List.flatMap_append,Task.next]
  split
  · rw [linked.othersWords i fun _ _ => rfl,Direction.say]
    have still := Function.update_eq_self thread (s.direction i).words
    rw [here] at still
    rw [List.singleton_append,still]
    exact .stay
  · rename_i waiting
    obtain ⟨rfl,none⟩ := (linked.sound i).counting here
    rw [List.flatMap_nil,List.nil_append,none]
    refine .drop ?_ (here.trans (by rw [none]))
    have told := currentTask first current
    rw [Task.outdated,Bool.eq_false_iff.mpr waiting,Bool.not_false,Bool.true_and,Bool.and_eq_false_iff,← onlineDirection,
      Bool.not_eq_false'] at told
    refine told.imp_right fun answers => (linked.sound i).answering ?_
    exact List.mem_flatMap.mpr ⟨_,List.contains_iff_mem.mp answers,by simp [Task.words]⟩

theorem advanceSteps (linked : s.Linked) {thread : Thread} (current : s.Current (.advance i thread)) (k : Bool) :
    Direction.Step (s.direction k) ((s.perform i ((s.peer i).advance thread)).direction k) := by
  cases first : (s.peer i).tasks thread with
  | nil =>
    simp only [ThreadedPeer.advance,first]
    exact idleSteps i k
  | cons task rest =>
    simp only [ThreadedPeer.advance,first]
    obtain ⟨config,users⟩ := task.setsConfig (s.peer i).listing
    have said := callsWords s i thread (task.next (s.peer i) ++ rest) rfl
    refine performOwn (congrArg _ config) (congrArg (fun c => c.channel (s.place !i)) config) said rfl ?_ k
    simp only [users]
    by_cases counts : task = .numPlayers
    · subst counts
      rw [show (Task.queues .numPlayers) = [] from rfl,nothingSent]
      exact countAdvances linked first current
    · have here := wordsFirst first
      rw [List.flatMap_append]
      rcases taskWords s i counts with ⟨silent,next,queues⟩ | ⟨word,words,next,queues⟩
      · have still := Function.update_eq_self thread (s.direction i).words
        rw [here,silent] at still
        rw [next,queues,still,List.append_nil]
        exact .stay
      · rw [next,queues]
        exact .advance (here.trans (by rw [words]; rfl)) (currentWord first current words)

theorem performFramed (framed : s.Framed) {result : ThreadedPeer × List (Place × ServerPacket)}
    (kept : (s.peer i).listing.Kept result.1.listing) : (s.perform i result).Framed := by
  obtain ⟨places,-,-⟩ := s.performEntry i result kept.place
  have kept (k : Bool) : (s.peer k).listing.Kept ((s.perform i result).peer k).listing := by
    by_cases same : k = i
    · subst same
      simpa [perform] using kept
    · have kept : (s.peer k).listing.Kept (s.peer k).listing := .same rfl rfl
      simpa [perform,same] using kept
  refine ⟨fun k => (kept k).numbered (framed.numbered k),fun k => ?_,fun k => ?_,fun k => ?_⟩
  · rw [places]
    exact framed.apart k
  · obtain ⟨channel,found⟩ := framed.listed k
    have still := (kept k).listed (framed.numbered k) (s.place !k)
    rw [show (s.peer k).listing.config.channel (s.place !k) = some channel from found] at still
    rw [entry,places]
    exact Option.isSome_iff_exists.mp still
  · rw [(kept k).maxPlayers]
    exact ⟨(kept k).small (framed.small k).1,(framed.small k).2⟩

theorem performLinked (linked : s.Linked) {result : ThreadedPeer × List (Place × ServerPacket)}
    (kept : (s.peer i).listing.Kept result.1.listing)
    (steps : ∀ k, Direction.Step (s.direction k) ((s.perform i result).direction k)) : (s.perform i result).Linked :=
  ⟨performFramed linked.toFramed kept,fun k => Direction.stepSound (linked.sound k) (steps k)⟩

theorem stepLinked (s : PeerPair) (e : Event) (linked : s.Linked) (allowed : s.Regular e ∧ s.Current e) : (s.step e).Linked := by
  obtain ⟨regular,current⟩ := allowed
  cases e with
  | start i now =>
    refine performLinked linked ?_ (startSteps linked.toFramed now i)
    unfold ThreadedPeer.start
    split <;> exact .same rfl rfl
  | stored i => exact performLinked linked (.same rfl rfl) (storedSteps i)
  | receive i =>
    simp only [step]
    split
    · exact linked
    · rename_i packet rest first
      split
      · rename_i free
        obtain ⟨awake,idle⟩ := Bool.and_eq_true_iff.mp free
        have popped : ({ s with inFlight := Function.update s.inFlight (!i) rest } : PeerPair).Framed := by
          obtain ⟨numbered,apart,listed,small⟩ := linked.toFramed
          exact ⟨numbered,apart,listed,small⟩
        exact ⟨performFramed popped (Listing.stepKept (s.peer i).listing (.packet _ packet)),
          fun k => Direction.stepSound (linked.sound k) (receiveSteps linked first awake idle k)⟩
      · exact linked
  | other i sender packet =>
    simp only [step]
    split
    · rename_i free
      exact performLinked linked (Listing.stepKept (s.peer i).listing (.packet sender packet))
        (otherSteps regular packet (Bool.and_eq_true_iff.mp free).2)
    · exact linked
  | addUser i =>
    simp only [step,ThreadedPeer.addUser]
    split
    · rename_i idle
      split
      · exact performLinked linked (.same rfl rfl) (idleSteps i)
      · exact performLinked linked (Listing.stepKept (s.peer i).listing .addUser) (countSteps linked (.inl rfl) idle)
    · exact linked
  | removeUser i =>
    simp only [step,ThreadedPeer.removeUser]
    split
    · rename_i idle
      split
      · exact performLinked linked (.same rfl rfl) (idleSteps i)
      · exact performLinked linked (Listing.stepKept (s.peer i).listing .removeUser) (countSteps linked (.inr rfl) idle)
    · exact linked
  | secondTick i now =>
    simp only [step]
    split
    · rename_i idle
      refine performLinked linked ?_ (tickSteps linked regular idle)
      unfold ThreadedPeer.onSecondTick
      split
      · exact Listing.stepKept (s.peer i).listing (.secondTick now)
      · exact .same rfl rfl
    · exact linked
  | advance i thread =>
    refine performLinked linked ?_ (advanceSteps linked current)
    unfold ThreadedPeer.advance
    split
    · exact .same rfl rfl
    · rename_i task rest first
      obtain ⟨config,users⟩ := task.setsConfig (s.peer i).listing
      exact .same config users

end Directions

-- With nothing under way, nor a thread that is about to send a count, and both online, each has
-- the other's number of users.
def CountsAgree (s : PeerPair) : Prop :=
  (∀ i, s.inFlight i = [] ∧ s.idle i .tcp = true ∧ s.idle i .udp = true ∧
    (s.peer i).listing.config.isOnline (s.place !i) = true) →
    ∀ i channel, s.entry i = some channel → channel.numPlayers.toNat = (s.peer !i).listing.users

theorem Linked.countsAgree {s : PeerPair} (linked : s.Linked) : s.CountsAgree := by
  intro quiet i channel found
  obtain ⟨empty,tcp,udp,online⟩ := quiet !i
  have known := (linked.sound !i).current ((onlineDirection s !i).trans online) (idleWords tcp) (idleWords udp) empty
  have stored : (s.direction !i).numPlayers = channel.numPlayers := by simp [direction,found]
  have small := linked.small !i
  rw [← stored,known]
  exact (UInt16.toNat_ofNat').trans (Nat.mod_eq_of_lt (by omega))

-- Two that list each other, from their start on; the datagrams of either arrive, and in order.
theorem numPlayersAgree {entries : Bool → List ServerEntry} (fits : ∀ i, Listing.Fits (entries i)) {place : Bool → Place}
    (maxPlayers : Bool → UInt16) (prohibitedNames : Bool → List Bytes) (time : Bool → Nat) (apart : place true ≠ place false)
    (listed : ∀ i, ((Listing.load (place i) (maxPlayers i) (prohibitedNames i) (entries i) (time i)).config.channel (place !i)).isSome)
    {events : List Event}
    (regular : Each step Regular (start fun i => Listing.load (place i) (maxPlayers i) (prohibitedNames i) (entries i) (time i)) events)
    (current : Each step Current (start fun i => Listing.load (place i) (maxPlayers i) (prohibitedNames i) (entries i) (time i)) events) :
    Always step CountsAgree (start fun i => Listing.load (place i) (maxPlayers i) (prohibitedNames i) (entries i) (time i)) events := by
  have differs (i : Bool) : place (!i) ≠ place i := by
    cases i
    · exact apart
    · exact apart.symm
  have offline (i : Bool) : ((Listing.load (place i) (maxPlayers i) (prohibitedNames i) (entries i) (time i)).config.channel
      (place !i)).any Channel.isOnline = false := by
    obtain ⟨channel,found⟩ := Option.isSome_iff_exists.mp (listed i)
    rw [found,Option.any_some,(Listing.loadEntry (fits i) found).1]
    exact decide_eq_false (differs i)
  have begun : (start fun i => Listing.load (place i) (maxPlayers i) (prohibitedNames i) (entries i) (time i)).Linked :=
    { numbered := fun i => Listing.loadNumbered (fits i) (place i)
      apart := differs
      listed := fun i => Option.isSome_iff_exists.mp (listed i)
      small := fun i => ⟨Nat.zero_le _,Nat.le_of_lt_succ (maxPlayers i).toNat_lt⟩
      sound := fun i => ⟨fun _ => ⟨rfl,offline i,rfl⟩,.idle rfl,.idle rfl,.idle rfl,nofun,
        fun online => absurd ((offline i).symm.trans online) (by decide),nofun⟩ }
  exact alwaysMono (fun _ => Linked.countsAgree) (alwaysOfEach stepLinked begun (eachAnd regular current))

section Sample

def somePlace (i : Bool) : Place := if i then ⟨1,1⟩ else ⟨2,1⟩

def somePair : PeerPair := start fun i => Listing.load (somePlace i) 600 [] Listing.pairOfServers 0

-- The hello of a server is on its way.
def saysHello (i : Bool) : List Event := [.start i 0,.stored i,.advance i .udp,.advance i .udp,.advance i .udp]

-- A user comes before either server says hello, another between the answer and its place in the
-- queue, but is told of after it.
def handshake : List Event :=
  [.addUser true,.advance true .tcp] ++ saysHello true ++ saysHello false ++
    [.receive false,.advance false .udp,.addUser false,.advance false .udp,.advance false .tcp,.advance false .tcp,.advance false .tcp,
      .receive true,.advance true .udp,.advance true .udp,.receive true,.receive true,.receive false]

theorem numPlayersAgreeHandshake : (run step somePair handshake).CountsAgree ∧
    (∀ i, (run step somePair handshake).inFlight i = [] ∧ (run step somePair handshake).idle i .tcp = true ∧
      (run step somePair handshake).idle i .udp = true ∧
      ((run step somePair handshake).peer i).listing.config.isOnline ((run step somePair handshake).place !i) = true) ∧
    ((run step somePair handshake).entry true).map Channel.numPlayers = some 1 := by
  have agree := numPlayersAgree (fun _ => Listing.pairFits) (fun _ => 600) (fun _ => []) (fun _ => 0)
    (show somePlace true ≠ somePlace false by decide) (fun i => by cases i <;> decide +kernel)
    (show Each step Regular somePair handshake by simp only [handshake,saysHello]; repeat' constructor)
    (show Each step Current somePair handshake by decide +kernel)
  exact ⟨alwaysLast agree,by decide +kernel,by decide +kernel⟩

-- A user who comes between the answer and its place in the queue, and is told of before it.
def lateAnswer : List Event :=
  saysHello true ++ saysHello false ++
    [.receive false,.advance false .udp,.addUser false,.advance false .tcp,.advance false .tcp,.advance false .tcp,.advance false .udp,
      .receive true,.advance true .udp,.advance true .udp,.receive true,.receive true,.receive false]

theorem lateAnswerOutdated : Each step Regular somePair lateAnswer ∧ ¬ (run step somePair lateAnswer).CountsAgree := by
  refine ⟨by simp only [lateAnswer,saysHello]; repeat' constructor,fun agree => ?_⟩
  have stored := agree (by decide +kernel) true _ rfl
  exact absurd stored (by decide +kernel)

end Sample
end PeerPair
end CsoMaster
