import CsoMaster.LobbyConnections
import CsoMaster.Outlook

/-! One accepted connection from `Start` to its last completion: which asynchronous operations are
outstanding, what each completion starts or closes, and what `TCPServer`'s error handler makes of
it. A close leaves the outstanding operations to complete later, with whatever result; what is
started on a closed socket still completes. -/
namespace CsoMaster.ConnectionLifecycle
open Runs
open State (ErrorCode)

-- The operations that follow each other until a packet has been read; one at a time.
inductive Reading where
  | serverConnected
  | handshake
  | header
  | body
  deriving DecidableEq, Repr

-- `users` are those whose connection it is, `disconnects` the calls of `OnDisconnect`.
structure TCPConnection where
  isOpen : Bool
  reading : Option Reading
  writing : Bool
  outgoingPackets : Nat
  users : Nat
  listed : Bool
  disconnects : Nat
  deriving DecidableEq, Repr

-- `rejected`: the bytes cannot be decrypted or the header is refused. `encryptFails`: so does
-- `encrypt` for the next packet.
inductive Event where
  | readCompletes (ec : Option ErrorCode) (rejected : Bool)
  | writeCompletes (ec : Option ErrorCode) (encryptFails : Bool)
  | writePacket (encryptFails : Bool)
  | addUser
  | disconnectUser
  | close
  deriving DecidableEq, Repr

namespace TCPConnection

-- The error handler of `TCPServer::startAccept`.
def errorHandler (s : TCPConnection) (eraseConnection : Bool) : TCPConnection :=
  if eraseConnection then { s with listed := false, disconnects := s.disconnects + 1 } else s

def disconnectClient (s : TCPConnection) (eraseConnection : Bool) : TCPConnection :=
  { s with isOpen := false }.errorHandler eraseConnection

def disconnectClientFor (s : TCPConnection) : ErrorCode → TCPConnection
  | .bad_descriptor => s
  | .other => s.disconnectClient true

def disconnectUserByConnection (s : TCPConnection) (ec : Option ErrorCode) : TCPConnection :=
  let s := { s with users := s.users - 1 }
  match ec with
  | some ec => s.disconnectClientFor ec
  | none => s.disconnectClient false

def disconnectUser (s : TCPConnection) : TCPConnection := if s.users = 0 then s else s.disconnectClient false

def asyncRead (s : TCPConnection) : TCPConnection := { s with reading := some .header }

def onRead (ssl : Bool) (s : TCPConnection) (ec : Option ErrorCode) (rejected : Bool) : Reading → TCPConnection
  | .serverConnected =>
    match ec with
    | some ec => s.disconnectClientFor ec
    | none => if ssl then { s with reading := some .handshake } else s.asyncRead
  | .handshake =>
    match ec with
    | some ec => s.disconnectClientFor ec
    | none => s.asyncRead
  | .header =>
    if ec.isSome ∨ rejected then s.disconnectUserByConnection ec else { s with reading := some .body }
  | .body => if ec.isSome ∨ rejected then s.disconnectUserByConnection ec else s.asyncRead

def asyncWrite (s : TCPConnection) (encryptFails : Bool) : TCPConnection :=
  if s.outgoingPackets = 0 then s
  else if encryptFails then s.disconnectUserByConnection none
  else { s with writing := true }

def onWrite (s : TCPConnection) (ec : Option ErrorCode) (encryptFails : Bool) : TCPConnection :=
  match ec with
  | some _ => s.disconnectUserByConnection ec
  | none => { s with outgoingPackets := s.outgoingPackets - 1 }.asyncWrite encryptFails

def writePacket (s : TCPConnection) (encryptFails : Bool) : TCPConnection :=
  if !s.isOpen then s
  else if s.outgoingPackets = 0 then { s with outgoingPackets := 1 }.asyncWrite encryptFails
  else { s with outgoingPackets := s.outgoingPackets + 1 }

def step (ssl : Bool) (s : TCPConnection) : Event → TCPConnection
  | .readCompletes ec rejected =>
    match s.reading with
    | none => s
    | some reading => { s with reading := none }.onRead ssl ec rejected reading
  | .writeCompletes ec encryptFails => if s.writing then { s with writing := false }.onWrite ec encryptFails else s
  | .writePacket encryptFails => s.writePacket encryptFails
  | .addUser => { s with users := s.users + 1 }
  | .disconnectUser => s.disconnectUser
  | .close => if s.listed then s.disconnectClient true else s

-- `startAccept` has entered it, `Start` writes SERVERCONNECTED.
def start : TCPConnection := ⟨true,some .serverConnected,false,0,0,true,0⟩

-- Nothing more will happen to it.
def Finished (s : TCPConnection) : Prop := s.isOpen = false ∧ s.reading = none ∧ s.writing = false

structure Settled (s : TCPConnection) : Prop where
  once : s.disconnects ≤ 1
  noticed : s.Finished → s.disconnects = 1 ∧ s.listed = false

-- An operation fails with an error that erases the connection.
def Fails (s : TCPConnection) : Event → Prop
  | .readCompletes ec _ => s.reading.isSome ∧ ec = some .other
  | .writeCompletes ec _ => s.writing = true ∧ ec = some .other
  | _ => False

-- The last outstanding operation ends, or a call finds none, and the socket is closed without the
-- connection being erased, or was closed before.
def Abandons (s : TCPConnection) : Event → Prop
  | .readCompletes ec rejected =>
    s.writing = false ∧ ∃ reading, s.reading = some reading ∧
      (ec = some .bad_descriptor ∧ s.isOpen = false ∨
        ec = none ∧ rejected = true ∧ (reading = .header ∨ reading = .body))
  | .writeCompletes ec encryptFails =>
    s.writing = true ∧ s.reading = none ∧
      (ec = some .bad_descriptor ∧ s.isOpen = false ∨
        ec = none ∧ if s.outgoingPackets ≤ 1 then s.isOpen = false else encryptFails = true)
  | .writePacket encryptFails =>
    s.isOpen = true ∧ s.outgoingPackets = 0 ∧ encryptFails = true ∧ s.reading = none ∧ s.writing = false
  | .disconnectUser => s.users ≠ 0 ∧ s.reading = none ∧ s.writing = false
  | .addUser | .close => False

def Orderly (s : TCPConnection) (e : Event) : Prop :=
  (s.Fails e → s.listed = true) ∧ (s.Abandons e → s.listed = false)

-- `_connections` has it until `OnDisconnect` is called for it.
structure Tracked (s : TCPConnection) : Prop extends Settled s where
  listed : s.listed = true ↔ s.disconnects = 0

-- What one step does: it erases the connection, or leaves it to be erased later.
structure Erases (s t : TCPConnection) : Prop where
  listed : t.listed = false
  disconnects : t.disconnects = s.disconnects + 1

structure Leaves (s t : TCPConnection) : Prop where
  listed : t.listed = s.listed
  disconnects : t.disconnects = s.disconnects

section Proof
variable {s : TCPConnection} {ssl : Bool}

theorem readEffect (ssl : Bool) (s : TCPConnection) (ec : Option ErrorCode) (rejected : Bool) {reading : Reading}
    (here : s.reading = some reading) :
    let e : Event := .readCompletes ec rejected
    s.Fails e ∧ ¬ s.Abandons e ∧ s.Erases (s.step ssl e) ∨
      ¬ s.Fails e ∧ s.Leaves (s.step ssl e) ∧ ((s.step ssl e).Finished ↔ s.Abandons e) := by
  intro e
  have ran : s.step ssl e = { s with reading := none }.onRead ssl ec rejected reading := by simp only [e,step,here]
  rw [ran]
  simp only [e,Fails,Abandons,here,Option.isSome_some,true_and,Option.some.injEq,exists_eq_left']
  cases ec with
  | some ec =>
    cases ec with
    | other => exact .inl ⟨rfl,by simp,by cases reading <;> exact ⟨rfl,rfl⟩⟩
    | bad_descriptor =>
      refine .inr ⟨by simp,by cases reading <;> exact ⟨rfl,rfl⟩,?_⟩
      cases reading <;>
        simp [onRead,disconnectClientFor,disconnectUserByConnection,Finished,and_comm]
  | none =>
    refine .inr ⟨by simp,?_,?_⟩
    · cases reading <;> cases ssl <;> cases rejected <;> exact ⟨rfl,rfl⟩
    · cases reading <;> cases ssl <;> cases rejected <;>
        simp [onRead,asyncRead,disconnectUserByConnection,disconnectClient,errorHandler,Finished]

theorem writeEffect (ssl : Bool) (s : TCPConnection) (ec : Option ErrorCode) (encryptFails : Bool) (here : s.writing = true) :
    let e : Event := .writeCompletes ec encryptFails
    s.Fails e ∧ ¬ s.Abandons e ∧ s.Erases (s.step ssl e) ∨
      ¬ s.Fails e ∧ s.Leaves (s.step ssl e) ∧ ((s.step ssl e).Finished ↔ s.Abandons e) := by
  intro e
  have ran : s.step ssl e = { s with writing := false }.onWrite ec encryptFails := by simp only [e,step,here,if_true]
  rw [ran]
  simp only [e,Fails,Abandons,here,true_and]
  cases ec with
  | some ec =>
    cases ec with
    | other => exact .inl ⟨rfl,by simp,rfl,rfl⟩
    | bad_descriptor =>
      refine .inr ⟨by simp,⟨rfl,rfl⟩,?_⟩
      simp [onWrite,disconnectUserByConnection,disconnectClientFor,Finished,and_comm]
  | none =>
    by_cases last : s.outgoingPackets ≤ 1
    · have none : s.outgoingPackets - 1 = 0 := by omega
      refine .inr ⟨by simp,?_,?_⟩
      · simp only [onWrite,asyncWrite,none,if_true]
        exact ⟨rfl,rfl⟩
      · simp [onWrite,asyncWrite,none,last,Finished,and_comm]
    · have more : s.outgoingPackets - 1 ≠ 0 := by omega
      refine .inr ⟨by simp,?_,?_⟩
      · cases encryptFails <;> simp only [onWrite,asyncWrite,more,if_false] <;> exact ⟨rfl,rfl⟩
      · cases encryptFails <;>
          simp [onWrite,asyncWrite,more,last,Finished,disconnectUserByConnection,disconnectClient,errorHandler]

-- Every step: it erases, after a failure or a close; or it leaves the connection as listed as it
-- was, and finished where it was so or has just been abandoned.
theorem stepEffect (ssl : Bool) (s : TCPConnection) (e : Event) :
    (s.Fails e ∨ s.listed = true) ∧ ¬ s.Abandons e ∧ s.Erases (s.step ssl e) ∨
      ¬ s.Fails e ∧ s.Leaves (s.step ssl e) ∧ ((s.step ssl e).Finished → s.Finished ∨ s.Abandons e) ∧
        (s.Abandons e → (s.step ssl e).Finished) := by
  have same {t : TCPConnection} (leaves : s.Leaves t) (finished : t.Finished → s.Finished) (fails : ¬ s.Fails e)
      (abandons : ¬ s.Abandons e) :
      ¬ s.Fails e ∧ s.Leaves t ∧ (t.Finished → s.Finished ∨ s.Abandons e) ∧ (s.Abandons e → t.Finished) :=
    ⟨fails,leaves,fun done => .inl (finished done),fun abandoned => absurd abandoned abandons⟩
  cases e with
  | readCompletes ec rejected =>
    cases here : s.reading with
    | none =>
      have ran : s.step ssl (.readCompletes ec rejected) = s := by simp only [step,here]
      rw [ran]
      exact .inr (same ⟨rfl,rfl⟩ id (by simp [Fails,here]) (by simp [Abandons,here]))
    | some reading =>
      rcases readEffect ssl s ec rejected here with ⟨fails,kept,erases⟩ | ⟨fine,leaves,finished⟩
      · exact .inl ⟨.inl fails,kept,erases⟩
      · exact .inr ⟨fine,leaves,fun done => .inr (finished.mp done),finished.mpr⟩
  | writeCompletes ec encryptFails =>
    cases here : s.writing with
    | false =>
      have ran : s.step ssl (.writeCompletes ec encryptFails) = s := by simp [step,here]
      rw [ran]
      exact .inr (same ⟨rfl,rfl⟩ id (by simp [Fails,here]) (by simp [Abandons,here]))
    | true =>
      rcases writeEffect ssl s ec encryptFails here with ⟨fails,kept,erases⟩ | ⟨fine,leaves,finished⟩
      · exact .inl ⟨.inl fails,kept,erases⟩
      · exact .inr ⟨fine,leaves,fun done => .inr (finished.mp done),finished.mpr⟩
  | writePacket encryptFails =>
    right
    cases here : s.isOpen with
    | false =>
      have ran : s.step ssl (.writePacket encryptFails) = s := by simp [step,writePacket,here]
      rw [ran]
      exact same ⟨rfl,rfl⟩ id id (by simp [Abandons,here])
    | true =>
      by_cases idle : s.outgoingPackets = 0
      · cases encryptFails <;>
          simp [step,writePacket,here,idle,asyncWrite,disconnectUserByConnection,disconnectClient,errorHandler,Finished,Fails,Abandons]
        · exact ⟨rfl,rfl⟩
        · exact ⟨rfl,rfl⟩
      · simp [step,writePacket,here,idle,Finished,Fails,Abandons]
        exact ⟨rfl,rfl⟩
  | addUser => exact .inr (same ⟨rfl,rfl⟩ id id id)
  | disconnectUser =>
    right
    by_cases nobody : s.users = 0
    · have ran : s.step ssl .disconnectUser = s := by simp [step,disconnectUser,nobody]
      rw [ran]
      exact same ⟨rfl,rfl⟩ id id (by simp [Abandons,nobody])
    · simp [step,disconnectUser,nobody,disconnectClient,errorHandler,Finished,Fails,Abandons]
      exact ⟨⟨rfl,rfl⟩,fun reading writing => .inr ⟨reading,writing⟩⟩
  | close =>
    cases here : s.listed with
    | false =>
      have ran : s.step ssl .close = s := by simp [step,here]
      rw [ran]
      exact .inr (same ⟨rfl,rfl⟩ id id id)
    | true =>
      have ran : s.step ssl .close = s.disconnectClient true := by simp [step,here]
      rw [ran]
      exact .inl ⟨.inr rfl,id,rfl,rfl⟩

theorem Erases.tracked {t : TCPConnection} (erases : s.Erases t) (fresh : s.disconnects = 0) : t.Tracked := by
  have once : t.disconnects = 1 := by rw [erases.disconnects,fresh]
  exact ⟨⟨once.le,fun _ => ⟨once,erases.listed⟩⟩,by simp [erases.listed,once]⟩

theorem stepTracked (s : TCPConnection) (e : Event) (tracked : s.Tracked) (orderly : s.Orderly e) : (s.step ssl e).Tracked := by
  rcases s.stepEffect ssl e with ⟨cause,-,erases⟩ | ⟨-,leaves,finished,-⟩
  · exact erases.tracked (tracked.listed.mp (cause.elim orderly.1 id))
  · refine ⟨⟨leaves.disconnects ▸ tracked.once,fun done => ?_⟩,by rw [leaves.listed,leaves.disconnects]; exact tracked.listed⟩
    rw [leaves.listed,leaves.disconnects]
    rcases finished done with before | abandoned
    · exact tracked.noticed before
    · have erased := orderly.2 abandoned
      have noticed : s.disconnects ≠ 0 := fun fresh => by simp [tracked.listed.mpr fresh] at erased
      exact ⟨Nat.le_antisymm tracked.once (Nat.one_le_iff_ne_zero.mpr noticed),erased⟩

theorem stepBreaks (s : TCPConnection) (e : Event) (tracked : s.Tracked) (disorderly : ¬ s.Orderly e) : ¬ (s.step ssl e).Settled := by
  intro settled
  rcases s.stepEffect ssl e with ⟨-,kept,erases⟩ | ⟨fine,leaves,-,finished⟩
  · refine disorderly ⟨fun _ => ?_,fun abandoned => absurd abandoned kept⟩
    have once := settled.once
    rw [erases.disconnects] at once
    exact tracked.listed.mpr (by omega)
  · refine disorderly ⟨fun fails => absurd fails fine,fun abandoned => ?_⟩
    exact leaves.listed ▸ (settled.noticed (finished abandoned)).2

theorem startTracked : start.Tracked := ⟨⟨Nat.zero_le 1,fun done => by cases done.1⟩,by decide⟩

-- `OnDisconnect` is called once for a connection in exactly the runs in which nothing fails once
-- it is erased, and in which it is erased before the last outstanding operation ends without an
-- error to erase it for.
theorem disconnectedOnce (ssl : Bool) (events : List Event) :
    Always (step ssl) Settled start events ↔ Each (step ssl) Orderly start events :=
  alwaysIffEach stepTracked (fun _ tracked => tracked.toSettled) stepBreaks startTracked

-- The client goes away while a packet is being written to it; and the header of a first packet
-- is refused, after which nothing is left that would report an error.
theorem lifecycleBroken :
    (¬ ∀ (ssl : Bool) (events : List Event), Always (step ssl) (·.disconnects ≤ 1) start events) ∧
      ¬ ∀ (ssl : Bool) (events : List Event), Always (step ssl) Settled start events := by
  constructor
  · intro always
    have last := alwaysLast (always false [.readCompletes none false,.readCompletes none false,.readCompletes none false,
      .writePacket false,.readCompletes (some .other) false,.writeCompletes (some .other) false])
    exact absurd last (by decide)
  · intro always
    have last := alwaysLast (always false [.readCompletes none false,.readCompletes none true])
    exact absurd (last.noticed ⟨rfl,rfl,rfl⟩).1 (by decide)

end Proof

/-! The same functions of the whole server. -/

section Server
variable {s : State} {c : ConnectionRef} {t : TCPConnection}

structure Shows (s : State) (c : ConnectionRef) (t : TCPConnection) : Prop where
  isOpen : t.isOpen = (s.connection c).isOpen
  listed : t.listed = true ↔ c ∈ s.connections
  users : t.users = s.lobby.users.countP fun u => (s.lobby.user u).connection = c

theorem Shows.disconnectClient (shows : Shows s c t) (distinct : s.connections.Nodup) (eraseConnection : Bool) :
    Shows (s.disconnectClient c eraseConnection) c (t.disconnectClient eraseConnection) := by
  cases eraseConnection with
  | false => exact ⟨by simp [TCPConnection.disconnectClient,errorHandler,State.disconnectClient,State.setConnection],shows.listed,shows.users⟩
  | true =>
    refine ⟨by simp [TCPConnection.disconnectClient,errorHandler,State.disconnectClient,State.setConnection],?_,shows.users⟩
    simp [TCPConnection.disconnectClient,errorHandler,State.disconnectClient,State.setConnection,distinct.mem_erase_iff]

theorem Shows.disconnectUser (shows : Shows s c t) (distinct : s.connections.Nodup) {u : UserRef} (mem : u ∈ s.lobby.users)
    (own : (s.lobby.user u).connection = c) : Shows (s.disconnectUser u) c t.disconnectUser := by
  have some : t.users ≠ 0 := by
    rw [shows.users]
    exact (List.countP_pos_iff.mpr ⟨u,mem,decide_eq_true own⟩).ne'
  rw [TCPConnection.disconnectUser,if_neg some,State.disconnectUser,own]
  exact shows.disconnectClient distinct false

-- One user of the connection goes, the first of them if there are more.
theorem Shows.removeUser (shows : Shows s c t) {u : UserRef} (found : s.getUserByConnection c = some u) :
    Shows (s.removeUser u) c { t with users := t.users - 1 } := by
  obtain ⟨connections,connection⟩ := s.removeUserConnections u
  obtain ⟨mem,own⟩ := Lobby.getUserByConnectionSome found
  refine ⟨by rw [connection]; exact shows.isOpen,by rw [connections]; exact shows.listed,?_⟩
  simp only [State.removeUserLobby,Lobby.removeUserConnection,Lobby.removeUserUsers]
  rw [List.countP_erase,if_pos ⟨mem,decide_eq_true own⟩,shows.users]

theorem Shows.disconnectUserByConnection (shows : Shows s c t) (distinct : s.connections.Nodup) (ec : Option ErrorCode) :
    Shows (s.disconnectUserByConnection c ec) c (t.disconnectUserByConnection ec) := by
  have removed : ∃ s' : State, s'.connections = s.connections ∧ Shows s' c { t with users := t.users - 1 } ∧
      s.disconnectUserByConnection c none = s'.disconnectClient c false ∧
      s.disconnectUserByConnection c (some .bad_descriptor) = s' ∧
      s.disconnectUserByConnection c (some .other) = s'.disconnectClient c true := by
    cases found : s.getUserByConnection c with
    | none =>
      have nobody : t.users = 0 := by
        rw [shows.users,List.countP_eq_zero]
        simpa [State.getUserByConnection,Lobby.getUserByConnection] using found
      refine ⟨s,rfl,⟨shows.isOpen,shows.listed,by rw [← shows.users,nobody]⟩,?_⟩
      simp [State.disconnectUserByConnection,found]
    | some u =>
      refine ⟨s.removeUser u,(s.removeUserConnections u).1,shows.removeUser found,?_⟩
      simp [State.disconnectUserByConnection,found]
  obtain ⟨s',connections,left,normal,bad,other⟩ := removed
  have still : s'.connections.Nodup := connections ▸ distinct
  cases ec with
  | none =>
    rw [normal]
    exact left.disconnectClient still false
  | some ec =>
    cases ec with
    | bad_descriptor =>
      rw [bad]
      exact left
    | other =>
      rw [other]
      exact left.disconnectClient still true

end Server
end TCPConnection
end CsoMaster.ConnectionLifecycle
