import CsoMaster.ChannelPeers

/-! One of the two directions between channel servers that keep each other's number of players: what
the threads of a server have to say to its peer, what is under way, and what the peer has taken
from it. A count is written before it is queued, and can be an old one then. -/
namespace CsoMaster

inductive Thread where
  | tcp
  | udp
  | console
  deriving DecidableEq, Repr

-- A packet that is to be written, and one that is written and to be queued.
inductive Word where
  | hello
  | answer
  | count
  | beat
  | packet (packet : ServerPacket)
  deriving DecidableEq, Repr

structure Direction where
  running : Bool
  online : Bool -- the peer, to the sender
  users : UInt16
  words : Thread → List Word
  inFlight : List ServerPacket
  numPlayers : UInt16 -- of the sender, to the peer
  heard : Bool

namespace Direction

def settled (numPlayers : UInt16) (inFlight : List ServerPacket) : UInt16 :=
  inFlight.foldl (fun before packet => packet.count.getD before) numPlayers

def next (d : Direction) : Word → List Word
  | .hello => [.packet (.HELLO d.users)]
  | .answer => [.packet (.HELLO_ANSWER d.users)]
  | .count => if d.online then [.packet (.NUMPLAYERS d.users)] else []
  | .beat => if d.online then [.packet .HEARTBEAT] else []
  | .packet _ => []

def queues : Word → List ServerPacket
  | .packet packet => [packet]
  | _ => []

-- An answer is queued with the count of the users, or before a later count.
def Current (d : Direction) (thread : Thread) : Prop :=
  ∀ numPlayers rest, thread = .udp → d.words thread = .packet (.HELLO_ANSWER numPlayers) :: rest →
    numPlayers = d.users ∨ d.words .tcp ≠ []

def say (d : Direction) (thread : Thread) (words : List Word) : Direction := { d with words := Function.update d.words thread words }

inductive Step (d : Direction) : Direction → Prop where
  | stay : Step d d
  | start (asleep : d.running = false) : Step d { d.say .udp [.hello] with running := true }
  | hear (awake : d.running = true) (idle : d.words .udp = []) : Step d { d.say .udp [.answer] with online := true }
  | tick (idle : d.words .console = []) : Step d (d.say .console [.beat])
  | change (users : UInt16) (idle : d.words .tcp = []) : Step d { d.say .tcp [.count] with users := users }
  | advance {thread : Thread} {word : Word} {rest : List Word} (first : d.words thread = word :: rest) (current : d.Current thread) :
      Step d { d.say thread (d.next word ++ rest) with inFlight := d.inFlight ++ queues word }
  | drop (unsaid : d.online = false ∨ d.words .udp = [.answer]) (first : d.words .tcp = [.count]) : Step d (d.say .tcp [])
  | receive {packet : ServerPacket} {rest : List ServerPacket} (first : d.inFlight = packet :: rest) :
      Step d { d with
        inFlight := rest
        numPlayers := packet.count.getD d.numPlayers
        heard := packet.opens || d.heard }

inductive IsHello : Word → Prop where
  | hello : IsHello .hello
  | packet (numPlayers : UInt16) : IsHello (.packet (.HELLO numPlayers))

inductive IsAnswer : Word → Prop where
  | answer : IsAnswer .answer
  | packet (numPlayers : UInt16) : IsAnswer (.packet (.HELLO_ANSWER numPlayers))

-- Where the threads are: nobody but the UDP thread speaks before the peer is online.
inductive TcpAt (d : Direction) : Prop where
  | idle (words : d.words .tcp = [])
  | count (words : d.words .tcp = [.count])
  | packet (words : d.words .tcp = [.packet (.NUMPLAYERS d.users)]) (online : d.online = true)

inductive UdpAt (d : Direction) : Prop where
  | idle (words : d.words .udp = [])
  | hello {word : Word} (words : d.words .udp = [word]) (opens : IsHello word) (offline : d.online = false) (empty : d.inFlight = [])
  | answer {word : Word} (words : d.words .udp = [word]) (answers : IsAnswer word) (online : d.online = true)

inductive ConsoleAt (d : Direction) : Prop where
  | idle (words : d.words .console = [])
  | beat (words : d.words .console = [.beat])
  | packet (words : d.words .console = [.packet .HEARTBEAT]) (online : d.online = true)

-- The peer has the count once what is under way has arrived, or a thread is yet to tell it.
def Known (d : Direction) : Prop :=
  settled d.numPlayers d.inFlight = d.users ∨ d.words .tcp ≠ [] ∨ d.words .udp = [.answer] ∨
    d.words .udp = [.packet (.HELLO_ANSWER d.users)]

-- A hello comes first, so nobody is online that has not yet been given the count.
structure Sound (d : Direction) : Prop where
  asleep : d.running = false → d.inFlight = [] ∧ d.online = false ∧ d.words .udp = []
  tcp : TcpAt d
  udp : UdpAt d
  console : ConsoleAt d
  opening : d.heard = false → d.running = true →
    (∃ word, d.words .udp = [word] ∧ IsHello word) ∨ ∃ numPlayers rest, d.inFlight = .HELLO numPlayers :: rest
  known : d.online = true → d.Known
  stays : .GOODBYE ∉ d.inFlight

section Sound
variable {d e : Direction}

theorem settledSnoc (numPlayers : UInt16) (inFlight : List ServerPacket) (packet : ServerPacket) :
    settled numPlayers (inFlight ++ [packet]) = packet.count.getD (settled numPlayers inFlight) := by
  simp [settled]

theorem sendOpening {inFlight : List ServerPacket} (packet : ServerPacket)
    (opening : ∃ numPlayers rest, inFlight = .HELLO numPlayers :: rest) :
    ∃ numPlayers rest, inFlight ++ [packet] = .HELLO numPlayers :: rest := by
  obtain ⟨numPlayers,rest,rfl⟩ := opening
  exact ⟨numPlayers,rest ++ [packet],rfl⟩

theorem sendStays {inFlight : List ServerPacket} {packet : ServerPacket} (stays : .GOODBYE ∉ inFlight) (other : packet ≠ .GOODBYE) :
    .GOODBYE ∉ inFlight ++ [packet] := by
  intro mem
  rcases List.mem_append.mp mem with before | last
  · exact stays before
  · exact other (List.mem_singleton.mp last).symm

theorem TcpAt.cast (at' : TcpAt d) (words : e.words .tcp = d.words .tcp) (users : e.users = d.users)
    (online : d.online = true → e.online = true) : TcpAt e := by
  cases at' with
  | idle here => exact .idle (words.trans here)
  | count here => exact .count (words.trans here)
  | packet here on => exact .packet (by rw [words,here,users]) (online on)

theorem ConsoleAt.cast (at' : ConsoleAt d) (words : e.words .console = d.words .console)
    (online : d.online = true → e.online = true) : ConsoleAt e := by
  cases at' with
  | idle here => exact .idle (words.trans here)
  | beat here => exact .beat (words.trans here)
  | packet here on => exact .packet (words.trans here) (online on)

-- With its hello to be queued the UDP thread has not heard of anybody.
theorem UdpAt.cast (at' : UdpAt d) (words : e.words .udp = d.words .udp) (online : e.online = d.online)
    (empty : d.online = false → d.inFlight = [] → e.inFlight = []) : UdpAt e := by
  cases at' with
  | idle here => exact .idle (words.trans here)
  | hello here opens offline nothing => exact .hello (words.trans here) opens (online.trans offline) (empty offline nothing)
  | answer here answers on => exact .answer (words.trans here) answers (online.trans on)

theorem UdpAt.helloPending (at' : UdpAt d) {word : Word} (words : d.words .udp = [word]) (opens : IsHello word) :
    d.online = false ∧ d.inFlight = [] := by
  cases at' with
  | idle here => cases here.symm.trans words
  | hello here _ offline empty => exact ⟨offline,empty⟩
  | answer here answers _ =>
    cases here.symm.trans words
    cases opens <;> cases answers

-- What leaves the thread of the answers and hellos alone leaves the opening as it was.
theorem Sound.opened (sound : d.Sound) (words : e.words .udp = d.words .udp) (running : e.running = d.running)
    (heard : e.heard = d.heard) (inFlight : ∀ numPlayers rest, d.inFlight = .HELLO numPlayers :: rest →
      ∃ numPlayers rest, e.inFlight = .HELLO numPlayers :: rest) (unheard : e.heard = false) (awake : e.running = true) :
    (∃ word, e.words .udp = [word] ∧ IsHello word) ∨ ∃ numPlayers rest, e.inFlight = .HELLO numPlayers :: rest := by
  rw [words]
  exact (sound.opening (heard.symm.trans unheard) (running.symm.trans awake)).imp_right
    fun ⟨numPlayers,rest,opening⟩ => inFlight numPlayers rest opening

theorem tcpSound (sound : d.Sound) {word : Word} {rest : List Word} (first : d.words .tcp = word :: rest) :
    Sound { d.say .tcp (d.next word ++ rest) with inFlight := d.inFlight ++ queues word } := by
  cases sound.tcp with
  | idle words => cases words.symm.trans first
  | count words =>
    cases words.symm.trans first
    have still : d.inFlight ++ queues .count = d.inFlight := List.append_nil _
    rw [still,next]
    cases online : d.online with
    | true =>
      exact ⟨sound.asleep,.packet rfl online,sound.udp.cast rfl rfl fun _ => id,sound.console.cast rfl id,sound.opening,
        fun _ => .inr (.inl nofun),sound.stays⟩
    | false =>
      exact ⟨sound.asleep,.idle rfl,sound.udp.cast rfl rfl fun _ => id,sound.console.cast rfl id,sound.opening,
        fun on => absurd (online.symm.trans on) (by decide),sound.stays⟩
  | packet words online =>
    cases words.symm.trans first
    refine ⟨fun off => ?_,.idle rfl,sound.udp.cast rfl rfl fun offline => ?_,sound.console.cast rfl id,
      sound.opened rfl rfl rfl fun numPlayers rest opening => sendOpening _ ⟨numPlayers,rest,opening⟩,
      fun _ => .inl (settledSnoc _ _ _),sendStays sound.stays nofun⟩
    · exact absurd (online.symm.trans (sound.asleep off).2.1) (by decide)
    · exact absurd (online.symm.trans offline) (by decide)

theorem consoleSound (sound : d.Sound) {word : Word} {rest : List Word} (first : d.words .console = word :: rest) :
    Sound { d.say .console (d.next word ++ rest) with inFlight := d.inFlight ++ queues word } := by
  cases sound.console with
  | idle words => cases words.symm.trans first
  | beat words =>
    cases words.symm.trans first
    have still : d.inFlight ++ queues .beat = d.inFlight := List.append_nil _
    rw [still,next]
    cases online : d.online with
    | true =>
      exact ⟨sound.asleep,sound.tcp.cast rfl rfl id,sound.udp.cast rfl rfl fun _ => id,.packet rfl online,sound.opening,
        sound.known,sound.stays⟩
    | false =>
      exact ⟨sound.asleep,sound.tcp.cast rfl rfl id,sound.udp.cast rfl rfl fun _ => id,.idle rfl,sound.opening,
        sound.known,sound.stays⟩
  | packet words online =>
    cases words.symm.trans first
    refine ⟨fun off => ?_,sound.tcp.cast rfl rfl id,sound.udp.cast rfl rfl fun offline => ?_,.idle rfl,
      sound.opened rfl rfl rfl fun numPlayers rest opening => sendOpening _ ⟨numPlayers,rest,opening⟩,fun _ => ?_,
      sendStays sound.stays nofun⟩
    · exact absurd (online.symm.trans (sound.asleep off).2.1) (by decide)
    · exact absurd (online.symm.trans offline) (by decide)
    · exact (sound.known online).imp_left (settledSnoc _ _ _).trans

theorem udpSound (sound : d.Sound) {word : Word} {rest : List Word} (first : d.words .udp = word :: rest) (current : d.Current .udp) :
    Sound { d.say .udp (d.next word ++ rest) with inFlight := d.inFlight ++ queues word } := by
  have awake : d.running = true := by
    by_contra off
    cases (sound.asleep (by simpa using off)).2.2.symm.trans first
  have up {e : Direction} (running : e.running = d.running) (off : e.running = false) : False :=
    absurd (awake.symm.trans (running.symm.trans off)) (by decide)
  cases sound.udp with
  | idle words => cases words.symm.trans first
  | hello words opens offline empty =>
    cases words.symm.trans first
    have silent (e : Direction) (online : e.online = d.online) (on : e.online = true) : e.Known :=
      absurd (offline.symm.trans (online.symm.trans on)) (by decide)
    cases opens with
    | hello =>
      have still : d.inFlight ++ queues .hello = d.inFlight := List.append_nil _
      rw [still]
      exact ⟨fun off => (up rfl off).elim,sound.tcp.cast rfl rfl id,.hello rfl (.packet d.users) offline empty,
        sound.console.cast rfl id,fun _ _ => .inl ⟨_,rfl,.packet d.users⟩,silent _ rfl,sound.stays⟩
    | packet numPlayers =>
      have sent : d.inFlight ++ queues (.packet (.HELLO numPlayers)) = [.HELLO numPlayers] := by rw [empty]; rfl
      rw [sent]
      exact ⟨fun off => (up rfl off).elim,sound.tcp.cast rfl rfl id,.idle rfl,sound.console.cast rfl id,
        fun _ _ => .inr ⟨numPlayers,[],rfl⟩,silent _ rfl,by simp⟩
  | answer words answers online =>
    cases words.symm.trans first
    have opening (unheard : d.heard = false) : ∃ numPlayers rest, d.inFlight = .HELLO numPlayers :: rest := by
      rcases sound.opening unheard awake with ⟨word,pending,opens⟩ | opening
      · exact absurd (online.symm.trans (sound.udp.helloPending pending opens).1) (by decide)
      · exact opening
    cases answers with
    | answer =>
      have still : d.inFlight ++ queues .answer = d.inFlight := List.append_nil _
      rw [still]
      exact ⟨fun off => (up rfl off).elim,sound.tcp.cast rfl rfl id,.answer rfl (.packet d.users) online,
        sound.console.cast rfl id,fun unheard _ => .inr (opening unheard),fun _ => .inr (.inr (.inr rfl)),sound.stays⟩
    | packet numPlayers =>
      refine ⟨fun off => (up rfl off).elim,sound.tcp.cast rfl rfl id,.idle rfl,sound.console.cast rfl id,
        fun unheard _ => .inr (sendOpening _ (opening unheard)),fun _ => ?_,sendStays sound.stays nofun⟩
      rcases current numPlayers [] rfl words with same | later
      · exact .inl ((settledSnoc _ _ _).trans same)
      · exact .inr (.inl later)

theorem stepSound (sound : d.Sound) (step : Step d e) : e.Sound := by
  cases step with
  | stay => exact sound
  | start asleep =>
    obtain ⟨nothing,offline,-⟩ := sound.asleep asleep
    exact ⟨nofun,sound.tcp.cast rfl rfl id,.hello rfl .hello offline nothing,sound.console.cast rfl id,
      fun _ _ => .inl ⟨_,rfl,.hello⟩,fun on => absurd (offline.symm.trans on) (by decide),sound.stays⟩
  | hear awake idle =>
    refine ⟨fun off => absurd (awake.symm.trans off) (by decide),sound.tcp.cast rfl rfl fun _ => rfl,.answer rfl .answer rfl,
      sound.console.cast rfl fun _ => rfl,fun unheard _ => ?_,fun _ => .inr (.inr (.inl rfl)),sound.stays⟩
    rcases sound.opening unheard awake with ⟨word,pending,-⟩ | opening
    · cases idle.symm.trans pending
    · exact .inr opening
  | tick idle =>
    exact ⟨sound.asleep,sound.tcp.cast rfl rfl id,sound.udp.cast rfl rfl fun _ => id,.beat rfl,sound.opening,sound.known,sound.stays⟩
  | change users idle =>
    exact ⟨sound.asleep,.count rfl,sound.udp.cast rfl rfl fun _ => id,sound.console.cast rfl id,sound.opening,
      fun _ => .inr (.inl nofun),sound.stays⟩
  | @advance thread word rest first current =>
    cases thread with
    | tcp => exact tcpSound sound first
    | udp => exact udpSound sound first current
    | console => exact consoleSound sound first
  | drop unsaid first =>
    refine ⟨sound.asleep,.idle rfl,sound.udp.cast rfl rfl fun _ => id,sound.console.cast rfl id,sound.opening,fun on => ?_,sound.stays⟩
    rcases unsaid with offline | pending
    · exact absurd (offline.symm.trans on) (by decide)
    · exact .inr (.inr (.inl pending))
  | @receive packet rest first =>
    refine ⟨fun off => ?_,sound.tcp.cast rfl rfl id,sound.udp.cast rfl rfl fun _ empty => ?_,sound.console.cast rfl id,
      fun unheard awake => ?_,fun online => ?_,fun mem => ?_⟩
    · cases (sound.asleep off).1.symm.trans first
    · cases empty.symm.trans first
    · obtain ⟨silent,before⟩ := Bool.or_eq_false_iff.mp unheard
      rcases sound.opening before awake with ⟨word,pending,opens⟩ | ⟨numPlayers,others,opening⟩
      · cases (sound.udp.helloPending pending opens).2.symm.trans first
      · cases first.symm.trans opening
        cases silent
    · have known := sound.known online
      rw [Known,first] at known
      exact known
    · exact sound.stays (first ▸ List.mem_cons_of_mem _ mem)

-- With nothing to say and nothing under way the peer has the count.
theorem Sound.current (sound : d.Sound) (online : d.online = true) (tcp : d.words .tcp = []) (udp : d.words .udp = [])
    (empty : d.inFlight = []) : d.numPlayers = d.users := by
  rcases sound.known online with settled | later | answer | answer
  · rwa [empty] at settled
  · exact absurd tcp later
  · cases udp.symm.trans answer
  · cases udp.symm.trans answer

-- Only the TCP thread has a count to say.
theorem Sound.counting (sound : d.Sound) {thread : Thread} {rest : List Word} (first : d.words thread = .count :: rest) :
    thread = .tcp ∧ rest = [] := by
  cases thread with
  | tcp =>
    cases sound.tcp with
    | idle words | packet words online => cases words.symm.trans first
    | count words => exact ⟨rfl,(List.cons.inj (words.symm.trans first)).2.symm⟩
  | udp =>
    cases sound.udp with
    | idle words => cases words.symm.trans first
    | hello words opens offline empty =>
      cases words.symm.trans first
      cases opens
    | answer words answers online =>
      cases words.symm.trans first
      cases answers
  | console =>
    cases sound.console with
    | idle words | beat words | packet words online => cases words.symm.trans first

theorem Sound.answering (sound : d.Sound) (mem : .answer ∈ d.words .udp) : d.words .udp = [.answer] := by
  cases sound.udp with
  | idle words =>
    rw [words] at mem
    cases mem
  | hello words opens offline empty =>
    rw [words] at mem
    cases List.mem_singleton.mp mem
    cases opens
  | answer words answers online =>
    rw [words] at mem
    rw [words,List.mem_singleton.mp mem]

-- What is handled first makes its sender online, unless that has been so before.
theorem Sound.first (sound : d.Sound) {packet : ServerPacket} {rest : List ServerPacket} (first : d.inFlight = packet :: rest)
    (answers : ∀ numPlayers, packet ≠ .HELLO numPlayers) : d.heard = true := by
  by_contra unheard
  have awake : d.running = true := by
    by_contra off
    cases (sound.asleep (by simpa using off)).1.symm.trans first
  rcases sound.opening (by simpa using unheard) awake with ⟨word,pending,opens⟩ | ⟨numPlayers,others,opening⟩
  · cases (sound.udp.helloPending pending opens).2.symm.trans first
  · exact answers numPlayers (List.cons.inj (first.symm.trans opening)).1

end Sound
end Direction

end CsoMaster
