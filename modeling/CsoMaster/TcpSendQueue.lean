import CsoMaster.Runs
import CsoMaster.TcpFraming

/-! The send side of `TCPConnection` under concurrent callers. The blocks under
`_outgoingMutex` are single steps, and so is the rest of `asyncWrite`, which runs outside
the lock on a copy of the queue's front. `starting` callers have left a locked block with
the decision to call `asyncWrite`, `copied` holds the buffers of those between its locked
block and its end. An OpenSSL context is its key and the bytes it was fed so far, which
determine what `EVP_EncryptUpdate` answers; `written` and `accepted` are logs. -/
namespace CsoMaster.TcpSendQueue
open Runs TcpFraming

structure Written where
  packet : Bytes
  buffer : Bytes
  overSsl : Bool
  deriving DecidableEq, Repr

structure EncryptCtx (κ : Type) where
  key : κ
  fed : Bytes
  deriving DecidableEq, Repr

structure Connection (κ : Type) where
  outgoing : Outgoing
  ctx : Option (EncryptCtx κ)
  encrypt : Bool
  starting : Nat
  copied : List Bytes
  inFlight : List Written
  written : List Written
  accepted : List Bytes
  deriving DecidableEq, Repr

variable {κ : Type}

def Connection.initial : Connection κ := ⟨Outgoing.initial,none,false,0,[],[],[],[]⟩
def Connection.queue (c : Connection κ) : List Bytes := c.outgoing.outgoingPackets
def Connection.sent (c : Connection κ) : List Bytes := c.written.map Written.packet

def isCrypt (buffer : Bytes) : Bool := buffer[4]? == some 7

inductive Action (κ : Type) where
  | writePacket (packet : OutgoingPacket)
  | setupEncryptCipher (key : κ)
  | takeFront
  | asyncWrite (caller : Nat)
  | onWrite (write : Nat)

section Step
variable (update : κ → Bytes → Bytes → Bytes) (ssl : Bool)

def launch (c : Connection κ) (write : Written) : Connection κ :=
  { c with inFlight := c.inFlight ++ [write], written := c.written ++ [write] }

-- `asyncWrite` after its locked block; noSSL is read before `_encrypt` may change.
def startWrite (c : Connection κ) (buffer : Bytes) : Connection κ :=
  let noSSL := c.encrypt
  match c.ctx with
  | none => launch c ⟨buffer,buffer,ssl && !noSSL⟩
  | some ctx =>
    if c.encrypt then
      launch { c with ctx := some ⟨ctx.key,ctx.fed ++ buffer⟩ }
        ⟨buffer,update ctx.key ctx.fed buffer,ssl && !noSSL⟩
    else if isCrypt buffer then launch { c with encrypt := true } ⟨buffer,buffer,ssl && !noSSL⟩
    else launch c ⟨buffer,buffer,ssl && !noSSL⟩

def step (c : Connection κ) : Action κ → Option (Connection κ)
  | .writePacket o =>
    if (writtenBytes c.outgoing o.packet).length > TCP_PACKET_MAX_SIZE then some c
    else
      let queueIdle := c.queue.isEmpty
      some { c with
        outgoing := writePacket c.outgoing o.packet
        starting := if queueIdle then c.starting + 1 else c.starting
        accepted := c.accepted ++ [o.body] }
  | .setupEncryptCipher key => some { c with ctx := some ⟨key,[]⟩ }
  | .takeFront =>
    if c.starting = 0 then none
    else
      match c.queue with
      | [] => some { c with starting := c.starting - 1 }
      | front :: _ => some { c with starting := c.starting - 1, copied := c.copied ++ [front] }
  | .asyncWrite caller =>
    match c.copied[caller]? with
    | none => none
    | some buffer => some (startWrite update ssl { c with copied := c.copied.eraseIdx caller } buffer)
  | .onWrite write =>
    if write < c.inFlight.length then
      let rest := c.queue.tail
      some { c with
        outgoing := { c.outgoing with outgoingPackets := rest }
        inFlight := c.inFlight.eraseIdx write
        starting := if rest.isEmpty then c.starting else c.starting + 1 }
    else none

-- One cipher setup, made before the first Crypt packet is queued.
def Permitted (c : Connection κ) : Action κ → Prop
  | .writePacket o => isCrypt (frame (c.outgoing.outgoingSequence + 1) o.body) = true → c.ctx.isSome = true
  | .setupEncryptCipher _ => c.ctx = none
  | _ => True

def Steps (c : Connection κ) (a : Action κ) (d : Connection κ) : Prop :=
  Permitted c a ∧ step update ssl c a = some d

-- The steps a connection makes by itself once packets are queued.
def Internal : Action κ → Bool
  | .takeFront => true
  | .asyncWrite _ => true
  | .onWrite _ => true
  | _ => false

end Step

/-! What a sender without concurrency would put on the wire. -/

def framed : UInt8 → List Bytes → List Bytes
  | _, [] => []
  | sequence, body :: rest => frame (sequence + 1) body :: framed (sequence + 1) rest

def upToCrypt : List Bytes → List Bytes
  | [] => []
  | p :: rest => if isCrypt p then [p] else p :: upToCrypt rest

def afterCrypt : List Bytes → List Bytes
  | [] => []
  | p :: rest => if isCrypt p then rest else afterCrypt rest

def plain (ssl : Bool) (p : Bytes) : Written := ⟨p,p,ssl⟩

def encrypted (update : κ → Bytes → Bytes → Bytes) (key : κ) (fed : Bytes) : List Bytes → List Written
  | [] => []
  | p :: rest => ⟨p,update key fed p,false⟩ :: encrypted update key (fed ++ p) rest

-- What was written, and what the context was fed, once `sent` has gone out.
def Split (update : κ → Bytes → Bytes → Bytes) (ssl : Bool) (ctx : Option (EncryptCtx κ))
    (sent : List Bytes) (written : List Written) : Prop :=
  match ctx with
  | none => written = sent.map (plain ssl)
  | some ctx =>
    written = (upToCrypt sent).map (plain ssl) ++ encrypted update ctx.key [] (afterCrypt sent) ∧
      ctx.fed = (afterCrypt sent).flatten

def accept : Action κ → Option Bytes
  | .writePacket o => if o.fits then some o.body else none
  | _ => none

theorem framedSnoc (sequence : UInt8) (bodies : List Bytes) (body : Bytes) :
    framed sequence (bodies ++ [body]) =
      framed sequence bodies ++ [frame (sequence + UInt8.ofNat bodies.length + 1) body] := by
  induction bodies generalizing sequence with
  | nil => simp [framed]
  | cons first rest ih =>
    have shifted : sequence + 1 + UInt8.ofNat rest.length = sequence + UInt8.ofNat (rest.length + 1) := by
      rw [UInt8.ofNat_add,UInt8.add_assoc,UInt8.add_comm 1]; rfl
    simp only [List.cons_append,framed,ih,List.length_cons,shifted]

theorem upToCryptPlain {ps : List Bytes} (none : ps.any isCrypt = false) (p : Bytes) :
    upToCrypt ps = ps ∧ afterCrypt ps = [] ∧ upToCrypt (ps ++ [p]) = ps ++ [p] ∧
      afterCrypt (ps ++ [p]) = [] := by
  induction ps with
  | nil => cases h : isCrypt p <;> simp [upToCrypt,afterCrypt,h]
  | cons q rest ih =>
    simp only [List.any_cons,Bool.or_eq_false_iff] at none
    obtain ⟨a,b,c,d⟩ := ih none.2
    simp [upToCrypt,afterCrypt,none.1,a,b,c,d]

theorem afterCryptSnoc {ps : List Bytes} (some : ps.any isCrypt = true) (p : Bytes) :
    upToCrypt (ps ++ [p]) = upToCrypt ps ∧ afterCrypt (ps ++ [p]) = afterCrypt ps ++ [p] := by
  induction ps with
  | nil => simp at some
  | cons q rest ih =>
    cases h : isCrypt q with
    | true => simp [upToCrypt,afterCrypt,h]
    | false =>
      obtain ⟨a,b⟩ := ih (by simpa [h] using some)
      simp [upToCrypt,afterCrypt,h,a,b]

theorem encryptedSnoc (update : κ → Bytes → Bytes → Bytes) (key fed) (ps : List Bytes) (p : Bytes) :
    encrypted update key fed (ps ++ [p]) =
      encrypted update key fed ps ++ [⟨p,update key (fed ++ ps.flatten) p,false⟩] := by
  induction ps generalizing fed with
  | nil => simp [encrypted]
  | cons q rest ih => simp [encrypted,ih]

/-! The invariant, in the three parts it is used by: who may write, what is where in the
queue, and on which side of the cipher switch a packet went out. -/

structure Exclusive (c : Connection κ) : Prop where
  idle : c.queue = [] → c.starting + c.copied.length + c.inFlight.length = 0
  busy : c.queue ≠ [] → c.starting + c.copied.length + c.inFlight.length = 1
  copiedFront : ∀ p ∈ c.copied, c.queue.head? = some p

structure Ordered (c : Connection κ) : Prop where
  counter : c.outgoing.outgoingSequence = UInt8.ofNat c.accepted.length
  placed : c.sent ++ c.queue.drop c.inFlight.length = framed 0 c.accepted

structure Switched (update : κ → Bytes → Bytes → Bytes) (ssl : Bool) (c : Connection κ) : Prop where
  armed : (framed 0 c.accepted).any isCrypt = true → c.ctx.isSome = true
  switch : c.encrypt = c.sent.any isCrypt
  split : Split update ssl c.ctx c.sent c.written

variable {update : κ → Bytes → Bytes → Bytes} {ssl : Bool}

theorem startWriteShape (update : κ → Bytes → Bytes → Bytes) (ssl : Bool) (c : Connection κ) (buffer : Bytes) :
    ∃ write : Written, write.packet = buffer ∧
      (startWrite update ssl c buffer).inFlight = c.inFlight ++ [write] ∧
      (startWrite update ssl c buffer).written = c.written ++ [write] ∧
      (startWrite update ssl c buffer).outgoing = c.outgoing ∧
      (startWrite update ssl c buffer).starting = c.starting ∧
      (startWrite update ssl c buffer).copied = c.copied ∧
      (startWrite update ssl c buffer).accepted = c.accepted := by
  unfold startWrite launch
  split
  · exact ⟨_,rfl,rfl,rfl,rfl,rfl,rfl,rfl⟩
  · split_ifs <;> exact ⟨_,rfl,rfl,rfl,rfl,rfl,rfl,rfl⟩

theorem splitPlain {ctx : Option (EncryptCtx κ)} {sent written} (split : Split update ssl ctx sent written)
    (unseen : sent.any isCrypt = false) (buffer : Bytes) :
    Split update ssl ctx (sent ++ [buffer]) (written ++ [⟨buffer,buffer,ssl⟩]) := by
  obtain ⟨up,after,upNext,afterNext⟩ := upToCryptPlain unseen buffer
  cases ctx with
  | none => simp only [Split] at split ⊢; rw [split]; simp [plain]
  | some opened =>
    simp only [Split,up,after] at split
    simp only [Split,upNext,afterNext,split.1,split.2]
    simp [plain,encrypted]

theorem splitEncrypted {key : κ} {fed sent written} (split : Split update ssl (some ⟨key,fed⟩) sent written)
    (seen : sent.any isCrypt = true) (buffer : Bytes) :
    Split update ssl (some ⟨key,fed ++ buffer⟩) (sent ++ [buffer])
      (written ++ [⟨buffer,update key fed buffer,false⟩]) := by
  obtain ⟨up,after⟩ := afterCryptSnoc seen buffer
  simp only [Split] at split ⊢
  obtain ⟨parts,bytes⟩ := split
  rw [up,after,encryptedSnoc,parts,bytes]
  simp

theorem launchSwitched {c : Connection κ} (ctx encrypt) {write}
    (armed : (framed 0 c.accepted).any isCrypt = true → ctx.isSome = true)
    (switch : encrypt = (c.sent ++ [write.packet]).any isCrypt)
    (split : Split update ssl ctx (c.sent ++ [write.packet]) (c.written ++ [write])) :
    Switched update ssl (launch { c with ctx := ctx, encrypt := encrypt } write) := by
  have sent : (launch { c with ctx := ctx, encrypt := encrypt } write).sent = c.sent ++ [write.packet] := by
    simp [launch,Connection.sent]
  exact ⟨armed,by rw [sent]; exact switch,by rw [sent]; exact split⟩

-- The three ways through `asyncWrite`, as updates of the two cipher fields.
theorem startWriteClosed {c : Connection κ} (ctx : c.ctx = none) (buffer) :
    startWrite update ssl c buffer = launch c ⟨buffer,buffer,ssl && !c.encrypt⟩ := by
  simp only [startWrite,ctx]

theorem startWriteOn {c : Connection κ} {opened} (ctx : c.ctx = some opened) (on : c.encrypt = true) (buffer) :
    startWrite update ssl c buffer =
      launch { c with ctx := some ⟨opened.key,opened.fed ++ buffer⟩, encrypt := true }
        ⟨buffer,update opened.key opened.fed buffer,false⟩ := by
  cases c
  simp only at ctx on
  subst ctx on
  simp [startWrite]

theorem startWriteOff {c : Connection κ} {opened} (ctx : c.ctx = some opened) (off : c.encrypt = false) (buffer) :
    startWrite update ssl c buffer =
      launch { c with ctx := some opened, encrypt := isCrypt buffer } ⟨buffer,buffer,ssl⟩ := by
  cases c
  simp only at ctx off
  subst ctx off
  cases crypt : isCrypt buffer <;> simp [startWrite,crypt]

theorem startWriteSwitched {c : Connection κ} (switched : Switched update ssl c) {buffer : Bytes}
    (ready : (c.sent ++ [buffer]).any isCrypt = true → c.ctx.isSome = true) :
    Switched update ssl (startWrite update ssl c buffer) := by
  obtain ⟨armed,switch,split⟩ := switched
  have any : (c.sent ++ [buffer]).any isCrypt = (c.encrypt || isCrypt buffer) := by simp [switch]
  cases ctx : c.ctx with
  | none =>
    have ordinary : (c.encrypt || isCrypt buffer) = false := by simpa [any,ctx] using ready
    have off := (Bool.or_eq_false_iff.mp ordinary).1
    have next := splitPlain split (by rw [← switch,off]) buffer
    rw [startWriteClosed ctx,off,Bool.not_false,Bool.and_true]
    exact launchSwitched c.ctx c.encrypt armed (by rw [any,ordinary,off]) next
  | some opened =>
    rw [ctx] at armed split
    cases on : c.encrypt with
    | true =>
      have next := splitEncrypted split (by rw [← switch,on]) buffer
      rw [startWriteOn ctx on]
      exact launchSwitched _ _ armed (by rw [any,on]; rfl) next
    | false =>
      have next := splitPlain split (by rw [← switch,on]) buffer
      rw [startWriteOff ctx on]
      exact launchSwitched _ _ armed (by rw [any,on]; rfl) next

/-! Each step keeps the invariant. -/

structure Invariant (update : κ → Bytes → Bytes → Bytes) (ssl : Bool) (c : Connection κ) : Prop where
  exclusive : Exclusive c
  ordered : Ordered c
  switched : Switched update ssl c

theorem initialInvariant : Invariant update ssl (Connection.initial : Connection κ) :=
  ⟨⟨fun _ => rfl,fun nonempty => absurd rfl nonempty,by simp [Connection.initial]⟩,⟨rfl,rfl⟩,
    ⟨by simp [Connection.initial,framed],rfl,rfl⟩⟩

theorem exclusiveBound {c : Connection κ} (exclusive : Exclusive c) :
    c.starting + c.copied.length + c.inFlight.length ≤ c.queue.length := by
  by_cases empty : c.queue = []
  · have idle := exclusive.idle empty
    omega
  · have busy := exclusive.busy empty
    have nonempty := List.length_pos_of_ne_nil empty
    omega

-- A Crypt packet that is out or about to go out was queued, so the cipher is set up.
theorem prefixArmed {c : Connection κ} (switched : Switched update ssl c)
    {ps : List Bytes} (prefixed : ps <+: framed 0 c.accepted) (crypt : ps.any isCrypt = true) :
    c.ctx.isSome = true := by
  apply switched.armed
  obtain ⟨p,member,found⟩ := List.any_eq_true.mp crypt
  exact List.any_eq_true.mpr ⟨p,prefixed.subset member,found⟩

theorem sentPrefix {c : Connection κ} (ordered : Ordered c) : c.sent <+: framed 0 c.accepted :=
  ⟨_,ordered.placed⟩

theorem writePacketKeeps {c : Connection κ} (inv : Invariant update ssl c) {o : OutgoingPacket}
    (permitted : Permitted c (.writePacket o)) (fits : o.fits = true) :
    Invariant update ssl { c with
      outgoing := writePacket c.outgoing o.packet
      starting := if c.queue.isEmpty then c.starting + 1 else c.starting
      accepted := c.accepted ++ [o.body] } := by
  obtain ⟨exclusive,ordered,switched⟩ := inv
  have bound := exclusiveBound exclusive
  rw [writePacketFrame _ fits]
  refine ⟨⟨fun empty => ?_,fun _ => ?_,?_⟩,⟨?_,?_⟩,⟨?_,switched.switch,switched.split⟩⟩
  · simp [Connection.queue] at empty
  · by_cases empty : c.queue = []
    · have idle := exclusive.idle empty
      simp only [empty,List.isEmpty_nil,if_true]
      omega
    · have busy := exclusive.busy empty
      simp only [List.isEmpty_iff,empty,if_false]
      exact busy
  · intro p member
    have front := exclusive.copiedFront p member
    simp only [Connection.queue] at front ⊢
    rw [List.head?_append,front]; rfl
  · simp [ordered.counter,UInt8.ofNat_add]
  · have within : c.inFlight.length ≤ c.outgoing.outgoingPackets.length := by
      unfold Connection.queue at bound; omega
    simp only [Connection.queue,List.drop_append_of_le_length within]
    rw [← List.append_assoc,framedSnoc,← ordered.placed,ordered.counter,UInt8.zero_add]
    rfl
  · intro crypt
    rw [framedSnoc,List.any_append,Bool.or_eq_true] at crypt
    rcases crypt with old | new
    · exact switched.armed old
    · apply permitted
      simpa [ordered.counter] using new

theorem setupKeeps {c : Connection κ} (inv : Invariant update ssl c) {key : κ}
    (permitted : Permitted c (.setupEncryptCipher key)) :
    Invariant update ssl { c with ctx := some ⟨key,[]⟩ } := by
  obtain ⟨exclusive,ordered,switched⟩ := inv
  have closed : c.ctx = none := permitted
  have unseen : c.sent.any isCrypt = false := by
    by_contra seen
    have armed := prefixArmed switched (sentPrefix ordered) (by simpa using seen)
    simp [closed] at armed
  obtain ⟨up,after,-,-⟩ := upToCryptPlain unseen []
  have split : Split update ssl (some ⟨key,[]⟩) c.sent c.written := by
    have before := switched.split
    rw [closed] at before
    simp only [Split,up,after] at before ⊢
    exact ⟨by rw [before]; simp [encrypted,Connection.sent],rfl⟩
  exact ⟨⟨exclusive.idle,exclusive.busy,exclusive.copiedFront⟩,⟨ordered.counter,ordered.placed⟩,
    ⟨fun _ => rfl,switched.switch,split⟩⟩

theorem takeFrontKeeps {c : Connection κ} (inv : Invariant update ssl c) {front rest}
    (waiting : c.starting ≠ 0) (queue : c.queue = front :: rest) :
    Invariant update ssl { c with starting := c.starting - 1, copied := c.copied ++ [front] } := by
  obtain ⟨exclusive,ordered,switched⟩ := inv
  have nonempty : c.queue ≠ [] := by rw [queue]; exact List.cons_ne_nil _ _
  have busy := exclusive.busy nonempty
  refine ⟨⟨fun empty => absurd empty nonempty,fun _ => ?_,?_⟩,⟨ordered.counter,ordered.placed⟩,
    ⟨switched.armed,switched.switch,switched.split⟩⟩
  · simp only [List.length_append,List.length_singleton]
    omega
  · intro p member
    rcases List.mem_append.mp member with old | new
    · exact exclusive.copiedFront p old
    · rw [List.mem_singleton.mp new]
      exact List.head?_eq_some_iff.mpr ⟨rest,queue⟩

theorem startWriteKeeps {c : Connection κ} (ordered : Ordered c) (switched : Switched update ssl c)
    {buffer rest} (queue : c.queue = buffer :: rest) (nobody : c.starting = 0) (none : c.copied = [])
    (idle : c.inFlight = []) : Invariant update ssl (startWrite update ssl c buffer) := by
  have next : (c.sent ++ [buffer]) ++ rest = framed 0 c.accepted := by
    have placed := ordered.placed
    simpa [idle,queue] using placed
  have split := startWriteSwitched switched (fun crypt => prefixArmed switched ⟨rest,next⟩ crypt)
  obtain ⟨write,packet,inFlight,written,outgoing,starting,copied,accepted⟩ :=
    startWriteShape update ssl c buffer
  simp only [idle,List.nil_append] at inFlight
  have sameQueue : (startWrite update ssl c buffer).queue = buffer :: rest := by
    rw [← queue,Connection.queue,outgoing,Connection.queue]
  have sent : (startWrite update ssl c buffer).sent = c.sent ++ [buffer] := by
    rw [Connection.sent,written,List.map_append,← packet]; rfl
  refine ⟨⟨?_,fun _ => ?_,?_⟩,⟨?_,?_⟩,split⟩
  · rw [sameQueue]
    exact fun empty => absurd empty (List.cons_ne_nil _ _)
  · rw [inFlight,starting,copied,none,nobody]; rfl
  · rw [copied,none]; simp
  · rw [outgoing,accepted]; exact ordered.counter
  · rw [sent,sameQueue,inFlight,accepted]; exact next

theorem asyncWriteKeeps {c : Connection κ} (inv : Invariant update ssl c) {caller : Nat} {buffer : Bytes}
    (copied : c.copied[caller]? = some buffer) :
    Invariant update ssl (startWrite update ssl { c with copied := c.copied.eraseIdx caller } buffer) := by
  obtain ⟨exclusive,ordered,switched⟩ := inv
  obtain ⟨held,here⟩ := List.getElem?_eq_some_iff.mp copied
  obtain ⟨rest,queue⟩ := List.head?_eq_some_iff.mp
    (exclusive.copiedFront buffer (by rw [← here]; exact List.getElem_mem held))
  have busy := exclusive.busy (by rw [queue]; exact List.cons_ne_nil _ _)
  have none : c.copied.eraseIdx caller = [] := by
    apply List.length_eq_zero_iff.mp
    rw [List.length_eraseIdx_of_lt held]
    omega
  have idle : c.inFlight = [] := List.length_eq_zero_iff.mp (by omega)
  have nobody : c.starting = 0 := by omega
  have left : Ordered { c with copied := c.copied.eraseIdx caller } := ⟨ordered.counter,ordered.placed⟩
  exact startWriteKeeps left ⟨switched.armed,switched.switch,switched.split⟩ queue nobody none idle

theorem onWriteKeeps {c : Connection κ} (inv : Invariant update ssl c) {write : Nat}
    (held : write < c.inFlight.length) :
    Invariant update ssl { c with
      outgoing := { c.outgoing with outgoingPackets := c.queue.tail }
      inFlight := c.inFlight.eraseIdx write
      starting := if c.queue.tail.isEmpty then c.starting else c.starting + 1 } := by
  obtain ⟨exclusive,ordered,switched⟩ := inv
  have bound := exclusiveBound exclusive
  have nonempty : c.queue ≠ [] := List.ne_nil_of_length_pos (by omega)
  have busy := exclusive.busy nonempty
  have erased : c.inFlight.eraseIdx write = [] := by
    apply List.length_eq_zero_iff.mp
    rw [List.length_eraseIdx_of_lt held]
    omega
  have noCopies : c.copied = [] := List.length_eq_zero_iff.mp (by omega)
  have one : c.inFlight.length = 1 := by omega
  refine ⟨⟨?_,?_,by simp [noCopies]⟩,⟨ordered.counter,?_⟩,⟨switched.armed,switched.switch,switched.split⟩⟩
  · intro empty
    simp only [Connection.queue] at empty ⊢
    simp only [erased,empty,noCopies,List.isEmpty_nil,if_true,List.length_nil]
    omega
  · intro more
    simp only [Connection.queue] at more ⊢
    simp only [erased,noCopies,List.isEmpty_iff,more,if_false,List.length_nil]
    omega
  · have placed := ordered.placed
    rw [one] at placed
    simpa [erased,Connection.sent,Connection.queue] using placed

theorem stepKeeps {c d : Connection κ} {a : Action κ} (inv : Invariant update ssl c)
    (taken : Steps update ssl c a d) : Invariant update ssl d := by
  obtain ⟨permitted,next⟩ := taken
  cases a with
  | writePacket o =>
    simp only [step,writtenBytesLong] at next
    cases fits : o.fits with
    | false =>
      simp only [fits,if_true,Option.some.injEq] at next
      rw [← next]; exact inv
    | true =>
      simp only [fits,Bool.true_eq_false,if_false,Option.some.injEq] at next
      rw [← next]; exact writePacketKeeps inv permitted fits
  | setupEncryptCipher key =>
    simp only [step,Option.some.injEq] at next
    rw [← next]; exact setupKeeps inv permitted
  | takeFront =>
    simp only [step] at next
    by_cases waiting : c.starting = 0
    · simp [waiting] at next
    · cases queue : c.queue with
      | nil =>
        have idle := inv.exclusive.idle queue
        omega
      | cons front rest =>
        simp only [waiting,queue,if_false,Option.some.injEq] at next
        rw [← next]; exact takeFrontKeeps inv waiting queue
  | asyncWrite caller =>
    simp only [step] at next
    cases copied : c.copied[caller]? with
    | none => simp [copied] at next
    | some buffer =>
      simp only [copied,Option.some.injEq] at next
      rw [← next]; exact asyncWriteKeeps inv copied
  | onWrite write =>
    simp only [step] at next
    by_cases held : write < c.inFlight.length
    · simp only [held,if_true,Option.some.injEq] at next
      rw [← next]; exact onWriteKeeps inv held
    · simp [held] at next

theorem traceKeeps {as} {c : Connection κ} (trace : Trace (Steps update ssl) Connection.initial as c) :
    Invariant update ssl c := by
  have keeps : ∀ c a d, Invariant update ssl c → Steps update ssl c a d → Invariant update ssl d :=
    fun _ _ _ => stepKeeps
  exact traceInvariant keeps trace initialInvariant

theorem stepAccepts {c d : Connection κ} {a : Action κ} (next : step update ssl c a = some d) :
    d.accepted = c.accepted ++ (accept a).toList := by
  cases a with
  | writePacket o =>
    simp only [step,writtenBytesLong] at next
    cases fits : o.fits <;> simp [fits] at next <;> simp [← next,accept,fits]
  | setupEncryptCipher key =>
    simp only [step,Option.some.injEq] at next
    simp [← next,accept]
  | takeFront =>
    simp only [step] at next
    by_cases waiting : c.starting = 0
    · simp [waiting] at next
    · cases queue : c.queue <;> simp [waiting,queue] at next <;> simp [← next,accept]
  | asyncWrite caller =>
    simp only [step] at next
    cases copied : c.copied[caller]? with
    | none => simp [copied] at next
    | some buffer =>
      simp only [copied,Option.some.injEq] at next
      obtain ⟨-,-,-,-,-,-,-,accepted⟩ :=
        startWriteShape update ssl { c with copied := c.copied.eraseIdx caller } buffer
      simp [← next,accepted,accept]
  | onWrite write =>
    simp only [step] at next
    by_cases held : write < c.inFlight.length
    · simp only [held,if_true,Option.some.injEq] at next
      simp [← next,accept]
    · simp [held] at next

theorem traceAccepts {as} {c d : Connection κ} (trace : Trace (Steps update ssl) c as d) :
    d.accepted = c.accepted ++ as.filterMap accept := by
  induction trace with
  | nil => simp
  | @cons s a m as t first rest ih =>
    rw [ih,stepAccepts first.2]
    cases h : accept a <;> simp [h]

-- Copying, writing and completing each take one unit off what the queue still needs.
def work (c : Connection κ) : Nat := 3 * c.queue.length - c.copied.length - 2 * c.inFlight.length

theorem internalWork {c d : Connection κ} {a : Action κ} (inv : Invariant update ssl c)
    (taken : Steps update ssl c a d) (internal : Internal a = true) : work d < work c := by
  have bound := exclusiveBound inv.exclusive
  have next := taken.2
  cases a with
  | writePacket o => simp [Internal] at internal
  | setupEncryptCipher key => simp [Internal] at internal
  | takeFront =>
    simp only [step] at next
    by_cases waiting : c.starting = 0
    · simp [waiting] at next
    · cases queue : c.queue with
      | nil => rw [queue] at bound; simp only [List.length_nil] at bound; omega
      | cons front rest =>
        simp only [waiting,queue,if_false,Option.some.injEq] at next
        rw [queue] at bound
        simp only [← next,work,Connection.queue,List.length_append,List.length_singleton] at queue bound ⊢
        rw [queue]
        omega
  | asyncWrite caller =>
    simp only [step] at next
    cases copied : c.copied[caller]? with
    | none => simp [copied] at next
    | some buffer =>
      simp only [copied,Option.some.injEq] at next
      obtain ⟨held,-⟩ := List.getElem?_eq_some_iff.mp copied
      obtain ⟨write,-,inFlight,-,outgoing,-,copied',-⟩ :=
        startWriteShape update ssl { c with copied := c.copied.eraseIdx caller } buffer
      have erased := List.length_eraseIdx_of_lt held
      rw [← next,work,Connection.queue,inFlight,outgoing,copied']
      simp only [work,Connection.queue,List.length_append,List.length_singleton,erased] at bound ⊢
      omega
  | onWrite write =>
    simp only [step] at next
    by_cases held : write < c.inFlight.length
    · simp only [held,if_true,Option.some.injEq] at next
      have erased := List.length_eraseIdx_of_lt held
      simp only [← next,work,Connection.queue,List.length_tail,erased] at bound ⊢
      omega
    · simp [held] at next

theorem internalRunBound {as} {c d : Connection κ} (trace : Trace (Steps update ssl) c as d)
    (inv : Invariant update ssl c) (internal : as.all Internal = true) : as.length ≤ work c := by
  induction trace with
  | nil => simp
  | @cons s a m as t first rest ih =>
    simp only [List.all_cons,Bool.and_eq_true] at internal
    have less := internalWork inv first internal.1
    have tail := ih (stepKeeps inv first) internal.2
    simp only [List.length_cons]
    omega

-- As long as a packet is queued somebody is about to copy, write or complete it.
theorem stuckEmpty {c : Connection κ} (inv : Invariant update ssl c)
    (stuck : ∀ a, Internal a = true → step update ssl c a = none) : c.queue = [] := by
  by_contra nonempty
  have busy := inv.exclusive.busy nonempty
  by_cases waiting : c.starting = 0
  · by_cases copied : c.copied = []
    · have held : 0 < c.inFlight.length := by simp [copied] at busy; omega
      have blocked := stuck (.onWrite 0) rfl
      simp [step,held] at blocked
    · obtain ⟨buffer,rest,shape⟩ := List.exists_cons_of_ne_nil copied
      have blocked := stuck (.asyncWrite 0) rfl
      simp [step,shape] at blocked
  · have blocked := stuck .takeFront rfl
    obtain ⟨front,rest,shape⟩ := List.exists_cons_of_ne_nil nonempty
    simp [step,waiting,shape] at blocked

-- The send queue over any interleaving of callers and completions: one writer, the
-- accepted packets in sequence order, the cipher switch after the first Crypt packet,
-- and no accepted packet left behind when the connection has nothing more to do.
theorem sendQueueSerial {as : List (Action κ)} {c : Connection κ}
    (trace : Trace (Steps update ssl) Connection.initial as c) :
    c.copied.length + c.inFlight.length ≤ 1 ∧
      c.accepted = as.filterMap accept ∧
      c.sent <+: framed 0 c.accepted ∧
      Split update ssl c.ctx c.sent c.written ∧
      (∀ bs d, Trace (Steps update ssl) c bs d → bs.all Internal = true → bs.length ≤ 3 * c.queue.length) ∧
      ((∀ a, Internal a = true → step update ssl c a = none) → c.sent = framed 0 c.accepted) := by
  have inv := traceKeeps trace
  refine ⟨?_,by simpa [Connection.initial] using traceAccepts trace,sentPrefix inv.ordered,
    inv.switched.split,fun bs d more internal => ?_,fun stuck => ?_⟩
  · by_cases empty : c.queue = []
    · have idle := inv.exclusive.idle empty
      omega
    · have busy := inv.exclusive.busy empty
      omega
  · have bound := internalRunBound more inv internal
    unfold work at bound
    omega
  · have placed := inv.ordered.placed
    rw [stuckEmpty inv stuck] at placed
    simpa using placed

-- A Crypt packet, a second packet queued while it is written, and both writes, with the
-- null cipher.
theorem sendQueueSerialCrypt : ∃ c : Connection Unit,
    c.written = [⟨[85,1,2,0,7,1],[85,1,2,0,7,1],true⟩,⟨[85,2,1,0,9],[85,2,1,0,9],false⟩] ∧
      c.ctx = some ⟨(),[85,2,1,0,9]⟩ ∧ c.sent <+: framed 0 c.accepted := by
  have trace : Trace (Steps (fun (_ : Unit) (_ : Bytes) p => p) true) Connection.initial
      [.setupEncryptCipher (),.writePacket ⟨[7],by decide,[.uint8 1]⟩,.takeFront,.asyncWrite 0,
        .writePacket ⟨[9],by decide,[]⟩,.onWrite 0,.takeFront,.asyncWrite 0] _ :=
    .cons ⟨rfl,rfl⟩ (.cons ⟨fun _ => rfl,rfl⟩ (.cons ⟨trivial,rfl⟩ (.cons ⟨trivial,rfl⟩
      (.cons ⟨fun _ => rfl,rfl⟩ (.cons ⟨trivial,rfl⟩ (.cons ⟨trivial,rfl⟩ (.cons ⟨trivial,rfl⟩ (.nil _))))))))
  exact ⟨_,rfl,rfl,(sendQueueSerial trace).2.2.1⟩

end CsoMaster.TcpSendQueue
