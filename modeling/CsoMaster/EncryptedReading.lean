import CsoMaster.Runs
import CsoMaster.ServerConfigLoad
import CsoMaster.StreamCipher
import CsoMaster.TcpSendQueue

/-! The ciphers of a `TCPConnection`, and its reader with them: `SetupDecryptCipher`, `decrypt`, and
`onReadHeader`/`onReadBody` over the SSL stream or the bare socket. OpenSSL's ciphers are a
parameter: a state from a key and an IV, and a mask for each byte. The SSL stream can read on past
its own records, and what it has read of the socket is lost to it; it is assumed not to. -/
namespace CsoMaster
open StreamCipher

-- What `EVP_rc4_40`, `EVP_rc4` and `EVP_enc_null` give.
inductive EVP_CIPHER where
  | rc4_40
  | rc4
  | enc_null
  deriving DecidableEq, Repr

def evpCipher (method : CipherMethod) : EVP_CIPHER :=
  if method = .RC4_40 then .rc4_40 else if method = .RC4 then .rc4 else .enc_null

-- `EVP_DecryptInit` and `EVP_EncryptInit` with a key and an IV; the updates take a buffer through the
-- keystream in place and do not fail, and what one of them has masked the other one unmasks.
structure Evp (σ : Type) where
  keystream : Keystream σ UInt8
  init : EVP_CIPHER → Bytes → Bytes → σ

-- An instance to try the theorems below on: RC4 with 5 or 16 bytes of the key and no IV, and the
-- cipher that masks nothing.
namespace Sample

structure Context where
  box : List UInt8
  i : UInt8
  j : UInt8
  deriving DecidableEq, Repr

def cell (box : List UInt8) (i : UInt8) : UInt8 := box.getD i.toNat 0

def swap (box : List UInt8) (i j : UInt8) : List UInt8 := (box.set i.toNat (cell box j)).set j.toNat (cell box i)

-- One round of the key's schedule.
def mix (key : Bytes) (c : Context) (round : Nat) : Context :=
  let j := c.j + cell c.box c.i + key.getD (round % key.length) 0
  ⟨swap c.box c.i j,c.i + 1,j⟩

def schedule (key : Bytes) : Context :=
  ⟨((List.range 256).foldl (mix key) ⟨(List.range 256).map UInt8.ofNat,0,0⟩).box,0,0⟩

def Context.next (c : Context) : Context :=
  let i := c.i + 1
  let j := c.j + cell c.box i
  ⟨swap c.box i j,i,j⟩

def Context.output (c : Context) : UInt8 := cell c.box (cell c.box c.i + cell c.box c.j)

def mask (c : Option Context) (b : UInt8) : UInt8 := (c.map fun c => b ^^^ c.next.output).getD b

theorem maskTwice (c : Option Context) : Function.Involutive (mask c) := by
  intro b
  cases c with
  | some c =>
    change b ^^^ c.next.output ^^^ c.next.output = b
    rw [UInt8.xor_assoc,UInt8.xor_self,UInt8.xor_zero]
  | none => rfl

def evp : Evp (Option Context) where
  keystream := ⟨Option.map Context.next,mask,maskTwice⟩
  init
    | .rc4_40,key,_ => some (schedule (key.take 5))
    | .rc4,key,_ => some (schedule (key.take 16))
    | .enc_null,_,_ => none

end Sample

example : crypt Sample.evp.keystream (some (Sample.schedule [75,101,121])) [80,108,97,105,110] = [187,243,22,232,217] := by
  decide +kernel

namespace EncryptedReading
open Runs TcpFraming

variable {σ : Type} (evp : Evp σ)

inductive Layer where
  | sslStream
  | socket
  deriving DecidableEq, Repr

structure Connection (σ : Type) where
  incoming : Incoming
  decryptCipher : Option σ
  decrypt : Bool
  deriving DecidableEq, Repr

def Connection.initial : Connection σ := ⟨.initial,none,false⟩

def isRecvCrypt (body : Bytes) : Bool := body.head? == some 12

def setupDecryptCipher (c : Connection σ) (method : CipherMethod) (key iv : Bytes) : Connection σ :=
  { c with decryptCipher := some (evp.init (evpCipher method) key iv) }

def onReadHeader (c : Connection σ) (buffer : Bytes) : Connection σ :=
  match c.decryptCipher with
  | none => { c with incoming := TcpFraming.onReadHeader c.incoming buffer }
  | some cipher =>
    if c.decrypt then
      { c with
        decryptCipher := some (advance evp.keystream cipher buffer.length)
        incoming := TcpFraming.onReadHeader c.incoming (crypt evp.keystream cipher buffer) }
    else { c with incoming := TcpFraming.onReadHeader c.incoming buffer }

def onReadBody (c : Connection σ) (buffer : Bytes) (packet : Packet) : Connection σ :=
  match c.decryptCipher with
  | none => { c with incoming := TcpFraming.onReadBody c.incoming buffer packet }
  | some cipher =>
    if c.decrypt then
      { c with
        decryptCipher := some (advance evp.keystream cipher buffer.length)
        incoming := TcpFraming.onReadBody c.incoming (crypt evp.keystream cipher buffer) packet }
    else { c with decrypt := isRecvCrypt buffer, incoming := TcpFraming.onReadBody c.incoming buffer packet }

def receive (c : Connection σ) (b : UInt8) : Connection σ :=
  match c.incoming.phase with
  | .header read =>
    if (read ++ [b]).length = PACKET_HEADER_SIZE then onReadHeader evp c (read ++ [b])
    else { c with incoming := { c.incoming with phase := .header (read ++ [b]) } }
  | .body packet read =>
    if (read ++ [b]).length = packet.getLength.toNat then onReadBody evp c (read ++ [b]) packet
    else { c with incoming := { c.incoming with phase := .body packet (read ++ [b]) } }
  | .closed => c

section Step
variable (ssl : Bool)

-- What `asyncRead` and `onReadHeader` read from.
def Connection.layer (c : Connection σ) : Layer := if ssl && !c.decrypt then .sslStream else .socket

inductive Action where
  | byte (layer : Layer) (b : UInt8)
  | setupDecryptCipher (method : CipherMethod) (key iv : Bytes)
  | readAhead (b : UInt8)

-- The bytes of a layer that is not read from do not arrive. A byte of the socket that the SSL stream
-- has taken into its own buffer is never read.
def step (c : Connection σ) : Action → Option (Connection σ)
  | .byte layer b => if layer = c.layer ssl then some (receive evp c b) else none
  | .setupDecryptCipher method key iv => some (setupDecryptCipher evp c method key iv)
  | .readAhead _ => some c

-- A user that is logged in is not logged in again, and so its cipher is not set up again.
def Permitted (c : Connection σ) : Action → Prop
  | .setupDecryptCipher _ _ _ => c.decrypt = false
  | _ => True

-- The SSL stream takes nothing from the socket but its own records.
def NoReadAhead : Action → Prop
  | .readAhead _ => False
  | _ => True

def Steps (c : Connection σ) (a : Action) (d : Connection σ) : Prop :=
  NoReadAhead a ∧ Permitted c a ∧ step evp ssl c a = some d

def Action.arrival : Action → Option (Layer × UInt8)
  | .byte layer b => some (layer,b)
  | _ => none

def Action.cipher : Action → Option σ
  | .setupDecryptCipher method key iv => some (evp.init (evpCipher method) key iv)
  | _ => none

def arrivals (actions : List Action) : List (Layer × UInt8) := actions.filterMap Action.arrival

def bytes (actions : List Action) : Bytes := (arrivals actions).map Prod.snd

def lastCipher (actions : List Action) : Option σ := (actions.filterMap (Action.cipher evp)).getLast?

-- After these actions the byte completes the body of a RecvCrypt, and the cipher is set up.
def Asks (actions : List Action) (b : UInt8) : Prop :=
  (lastCipher evp actions).isSome = true ∧ ∃ body, isRecvCrypt body = true ∧
    delivered (receiveAll .initial (bytes actions ++ [b])) = delivered (receiveAll .initial (bytes actions)) ++ [body]

def Unasked (actions : List Action) : Prop :=
  ∀ before layer b after, actions = before ++ .byte layer b :: after → ¬ Asks evp before b

-- What arrives in clear and what arrives enciphered, and whether the reader has switched.
inductive Switch (actions : List Action) : Bytes → Bytes → Bool → Prop where
  | never (unasked : Unasked evp actions) : Switch actions (bytes actions) [] false
  | first {before layer b after} (split : actions = before ++ .byte layer b :: after) (unasked : Unasked evp before)
      (asks : Asks evp before b) : Switch actions (bytes before ++ [b]) (bytes after) true

end Step

/-! The reader against the one of a connection without ciphers, over what it has deciphered. -/

def decipher (cipher : Option σ) (bytes : Bytes) : Bytes :=
  match cipher with
  | none => bytes
  | some cipher => crypt evp.keystream cipher bytes

namespace Connection

def cipher (c : Connection σ) : Option σ := if c.decrypt then c.decryptCipher else none

-- The bytes of the header or the body that has begun to arrive.
def pending (c : Connection σ) : Bytes :=
  match c.incoming.phase with
  | .header read => read
  | .body _ read => read
  | .closed => []

-- The connection as if these had been deciphered on arrival.
def deciphered (c : Connection σ) : Incoming :=
  { c.incoming with phase :=
      match c.incoming.phase with
      | .header read => .header (decipher evp c.cipher read)
      | .body packet read => .body packet (decipher evp c.cipher read)
      | .closed => .closed }

-- Where the cipher stands once what is pending has gone through it.
def here (c : Connection σ) : Option σ := c.cipher.map (advance evp.keystream · c.pending.length)

def clear (c : Connection σ) (b : UInt8) : UInt8 := ((c.here evp).map (evp.keystream.mask · b)).getD b

end Connection

-- What is done with a whole header and a whole body, and with the cipher.
structure HeaderRead (c : Connection σ) (buffer : Bytes) (d : Connection σ) : Prop where
  incoming : d.incoming = TcpFraming.onReadHeader c.incoming (decipher evp c.cipher buffer)
  decrypt : d.decrypt = c.decrypt
  kept : c.cipher = none → d.decryptCipher = c.decryptCipher
  moved : ∀ cipher, c.cipher = some cipher → d.decryptCipher = some (advance evp.keystream cipher buffer.length)

structure BodyRead (c : Connection σ) (buffer : Bytes) (packet : Packet) (d : Connection σ) : Prop where
  incoming : d.incoming = TcpFraming.onReadBody c.incoming (decipher evp c.cipher buffer) packet
  decrypt : d.decrypt = (c.decrypt || (c.decryptCipher.isSome && isRecvCrypt buffer))
  kept : c.cipher = none → d.decryptCipher = c.decryptCipher
  moved : ∀ cipher, c.cipher = some cipher → d.decryptCipher = some (advance evp.keystream cipher buffer.length)

section View
variable {evp} {c : Connection σ} {b : UInt8}

@[simp] theorem decipherNil (cipher : Option σ) : decipher evp cipher [] = [] := by
  cases cipher <;> rfl

@[simp] theorem decipherLength (cipher : Option σ) (bytes : Bytes) : (decipher evp cipher bytes).length = bytes.length := by
  cases cipher with
  | none => rfl
  | some cipher => exact cryptLength cipher bytes

theorem decipherSnoc {read : Bytes} (pending : c.pending = read) (b : UInt8) :
    decipher evp c.cipher (read ++ [b]) = decipher evp c.cipher read ++ [c.clear evp b] := by
  simp only [Connection.clear,Connection.here,pending]
  cases c.cipher with
  | none => rfl
  | some cipher => exact cryptAppend cipher read [b]

theorem decipheredFresh (fresh : c.pending = []) : c.deciphered evp = c.incoming := by
  obtain ⟨⟨sequence,phase,packets,handled⟩,cipher,on⟩ := c
  cases phase with
  | header read =>
    obtain rfl : read = [] := fresh
    simp [Connection.deciphered]
  | body packet read =>
    obtain rfl : read = [] := fresh
    simp [Connection.deciphered]
  | closed => rfl

theorem onReadHeaderFresh (i : Incoming) (buffer : Bytes) :
    (TcpFraming.onReadHeader i buffer).phase = .closed ∨
      ∃ packet, (TcpFraming.onReadHeader i buffer).phase = .body packet [] := by
  simp only [TcpFraming.onReadHeader]
  split_ifs
  · exact .inl rfl
  · exact .inl rfl
  · exact .inl rfl
  · exact .inr ⟨_,rfl⟩

theorem onReadBodyFresh (i : Incoming) (buffer : Bytes) (packet : Packet) :
    (TcpFraming.onReadBody i buffer packet).phase = .header [] := by
  simp only [TcpFraming.onReadBody,processPacket]
  split_ifs <;> rfl

variable (evp) in
theorem headerRead (c : Connection σ) (buffer : Bytes) : HeaderRead evp c buffer (onReadHeader evp c buffer) := by
  obtain ⟨i,cipher,on⟩ := c
  cases cipher with
  | none => cases on <;> exact ⟨rfl,rfl,fun _ => rfl,by simp [Connection.cipher]⟩
  | some cipher => cases on <;> exact ⟨rfl,rfl,by simp [Connection.cipher,onReadHeader],by simp [Connection.cipher,onReadHeader]⟩

variable (evp) in
theorem bodyRead (c : Connection σ) (buffer : Bytes) (packet : Packet) :
    BodyRead evp c buffer packet (onReadBody evp c buffer packet) := by
  obtain ⟨i,cipher,on⟩ := c
  cases cipher with
  | none => cases on <;> exact ⟨rfl,rfl,fun _ => rfl,by simp [Connection.cipher]⟩
  | some cipher => cases on <;> exact ⟨rfl,rfl,by simp [Connection.cipher,onReadBody],by simp [Connection.cipher,onReadBody]⟩

theorem pendingFresh {d : Connection σ} {i : Incoming} (incoming : d.incoming = i)
    (fresh : i.phase = .closed ∨ i.phase = .header [] ∨ ∃ packet, i.phase = .body packet []) : d.pending = [] := by
  unfold Connection.pending
  rw [incoming]
  rcases fresh with phase | phase | ⟨packet,phase⟩ <;> rw [phase]

-- One byte is received as the other reader receives it in clear.
theorem receiveView (c : Connection σ) (b : UInt8) :
    (receive evp c b).deciphered evp = TcpFraming.receive (c.deciphered evp) (c.clear evp b) := by
  cases phase : c.incoming.phase with
  | header read =>
    have pending : c.pending = read := by simp [Connection.pending,phase]
    have shown : c.deciphered evp = { c.incoming with phase := .header (decipher evp c.cipher read) } := by
      simp [Connection.deciphered,phase]
    have length : (decipher evp c.cipher read ++ [c.clear evp b]).length = (read ++ [b]).length := by simp
    rw [shown]
    simp only [receive,TcpFraming.receive,phase,length]
    split_ifs
    · have done := headerRead evp c (read ++ [b])
      rw [decipheredFresh (pendingFresh done.incoming ((onReadHeaderFresh _ _).imp_right .inr)),done.incoming,
        decipherSnoc pending]
      rfl
    · simp only [Connection.deciphered,← decipherSnoc pending]
      rfl
  | body packet read =>
    have pending : c.pending = read := by simp [Connection.pending,phase]
    have shown : c.deciphered evp = { c.incoming with phase := .body packet (decipher evp c.cipher read) } := by
      simp [Connection.deciphered,phase]
    have length : (decipher evp c.cipher read ++ [c.clear evp b]).length = (read ++ [b]).length := by simp
    rw [shown]
    simp only [receive,TcpFraming.receive,phase,length]
    split_ifs
    · have done := bodyRead evp c (read ++ [b]) packet
      rw [decipheredFresh (pendingFresh done.incoming (.inr (.inl (onReadBodyFresh _ _ _)))),done.incoming,
        decipherSnoc pending]
      rfl
    · simp only [Connection.deciphered,← decipherSnoc pending]
      rfl
  | closed =>
    have shown : (c.deciphered evp).phase = .closed := by simp [Connection.deciphered,phase]
    have stays : receive evp c b = c := by simp only [receive,phase]
    rw [stays,receiveClosed shown]

-- The cipher goes on by one byte with each byte that is received.
theorem receiveHere (alive : c.incoming.phase ≠ .closed) {cipher : σ} (here : c.here evp = some cipher) (b : UInt8) :
    (receive evp c b).here evp = some (evp.keystream.next cipher) ∧ (receive evp c b).decrypt = true := by
  obtain ⟨started,on,rfl⟩ := Option.map_eq_some_iff.mp here
  have decrypt : c.decrypt = true := by
    by_contra off
    simp [Connection.cipher,off] at on
  have given : c.decryptCipher = some started := by simpa [Connection.cipher,decrypt] using on
  have next (length : Nat) : advance evp.keystream (evp.keystream.next started) length =
      evp.keystream.next (advance evp.keystream started length) :=
    advanceNext started length
  cases phase : c.incoming.phase with
  | header read =>
    have pending : c.pending = read := by simp [Connection.pending,phase]
    simp only [receive,phase,pending]
    split_ifs
    · have done := headerRead evp c (read ++ [b])
      have empty := pendingFresh done.incoming ((onReadHeaderFresh _ _).imp_right .inr)
      have moved : (onReadHeader evp c (read ++ [b])).cipher = some (advance evp.keystream started (read.length + 1)) := by
        simpa [Connection.cipher,done.decrypt,decrypt] using done.moved started on
      simp [Connection.here,moved,empty,next,done.decrypt,decrypt]
    · simp [Connection.here,Connection.cipher,Connection.pending,decrypt,given,next]
  | body packet read =>
    have pending : c.pending = read := by simp [Connection.pending,phase]
    simp only [receive,phase,pending]
    split_ifs
    · have done := bodyRead evp c (read ++ [b]) packet
      have empty := pendingFresh done.incoming (.inr (.inl (onReadBodyFresh _ _ _)))
      have moved : (onReadBody evp c (read ++ [b]) packet).cipher = some (advance evp.keystream started (read.length + 1)) := by
        simpa [Connection.cipher,done.decrypt,decrypt] using done.moved started on
      simp [Connection.here,moved,empty,next,done.decrypt,decrypt]
    · simp [Connection.here,Connection.cipher,Connection.pending,decrypt,given,next]
  | closed => exact absurd phase alive

end View

section Run
variable {ssl : Bool} {c d : Connection σ} {b : UInt8}

def clearLayer (ssl : Bool) : Layer := if ssl then .sslStream else .socket

-- What the reader has made of what has arrived, and where it has switched.
structure Deciphered (ssl : Bool) (actions : List Action) (c : Connection σ) (clear secret : Bytes) : Prop where
  read : arrivals actions = clear.map (clearLayer ssl,·) ++ secret.map (Layer.socket,·)
  switch : Switch evp actions clear secret c.decrypt
  view : c.deciphered evp = receiveAll .initial (clear ++ decipher evp (lastCipher evp actions) secret)
  off : c.decrypt = false → c.decryptCipher = lastCipher evp actions
  on : c.decrypt = true → (lastCipher evp actions).isSome = true
  here : c.decrypt = true → c.incoming.phase ≠ .closed →
    c.here evp = (lastCipher evp actions).map (advance evp.keystream · secret.length)

@[simp] theorem lastCipherByte (actions : List Action) (layer : Layer) (b : UInt8) :
    lastCipher evp (actions ++ [.byte layer b]) = lastCipher evp actions := by
  simp [lastCipher,List.filterMap_cons,Action.cipher]

@[simp] theorem lastCipherSetup (actions : List Action) (method : CipherMethod) (key iv : Bytes) :
    lastCipher evp (actions ++ [.setupDecryptCipher method key iv]) = some (evp.init (evpCipher method) key iv) := by
  simp [lastCipher,Action.cipher]

variable {evp}

@[simp] theorem arrivalsByte (actions : List Action) (layer : Layer) (b : UInt8) :
    arrivals (actions ++ [.byte layer b]) = arrivals actions ++ [(layer,b)] := by
  simp [arrivals,Action.arrival]

@[simp] theorem arrivalsSetup (actions : List Action) (method : CipherMethod) (key iv : Bytes) :
    arrivals (actions ++ [.setupDecryptCipher method key iv]) = arrivals actions := by
  simp [arrivals,List.filterMap_cons,Action.arrival]

@[simp] theorem bytesByte (actions : List Action) (layer : Layer) (b : UInt8) :
    bytes (actions ++ [.byte layer b]) = bytes actions ++ [b] := by
  simp [bytes]

@[simp] theorem bytesSetup (actions : List Action) (method : CipherMethod) (key iv : Bytes) :
    bytes (actions ++ [.setupDecryptCipher method key iv]) = bytes actions := by
  simp [bytes]

theorem unaskedNil : Unasked evp [] := fun before _ _ _ split => by cases before <;> cases split

theorem unaskedSnoc {actions : List Action} {a : Action} (unasked : Unasked evp actions)
    (last : ∀ layer b, a = .byte layer b → ¬ Asks evp actions b) : Unasked evp (actions ++ [a]) := by
  intro before layer b after split
  rcases List.eq_nil_or_concat after with rfl | ⟨after,other,rfl⟩
  · obtain ⟨rfl,same⟩ := List.append_inj' split rfl
    exact last layer b (List.cons.inj same).1
  · rw [List.concat_eq_append,← List.cons_append,← List.append_assoc] at split
    exact unasked before layer b after (List.append_inj_left' split rfl)

theorem Switch.off {actions : List Action} {clear secret : Bytes} {on : Bool} (switch : Switch evp actions clear secret on)
    (off : on = false) : clear = bytes actions ∧ secret = [] ∧ Unasked evp actions := by
  cases switch with
  | never unasked => exact ⟨rfl,rfl,unasked⟩
  | first => cases off

theorem Switch.more {actions : List Action} {clear secret : Bytes} {on : Bool} (switch : Switch evp actions clear secret on)
    (still : on = true) (layer : Layer) (b : UInt8) :
    Switch evp (actions ++ [.byte layer b]) clear (secret ++ [b]) on := by
  cases switch with
  | never => cases still
  | @first before layer' b' after split unasked asks =>
    rw [← bytesByte after layer b]
    exact .first (by rw [split,List.append_assoc,List.cons_append]) unasked asks

theorem initialDeciphered : Deciphered evp ssl [] .initial [] [] :=
  ⟨rfl,.never unaskedNil,rfl,fun _ => rfl,by simp [Connection.initial],by simp [Connection.initial]⟩

theorem offClear (off : c.decrypt = false) : c.deciphered evp = c.incoming ∧ ∀ b, c.clear evp b = b := by
  obtain ⟨⟨sequence,phase,packets,handled⟩,cipher,decrypt⟩ := c
  obtain rfl : decrypt = false := off
  refine ⟨?_,fun _ => rfl⟩
  cases phase <;> rfl

-- A body that is complete is delivered.
theorem deliveredWhole {i : Incoming} {stream : Bytes} {packet : Packet} {read : Bytes} (phase : i.phase = .body packet read)
    (counted : Counted i) (tracks : Tracks i stream) (whole : (read ++ [b]).length = packet.getLength.toNat) :
    delivered (TcpFraming.receive i b) = delivered i ++ [read ++ [b]] := by
  obtain ⟨-,rest,-,stopped⟩ := tracks
  simp only [phase] at stopped
  have step : TcpFraming.receive i b = TcpFraming.onReadBody i (read ++ [b]) packet := by
    simp only [TcpFraming.receive,phase,if_pos whole]
  rw [step,onReadBodyIdle counted.1]
  simp [delivered,payloadOfFrame stopped.1]

-- Nothing else is.
theorem deliveredPart {i : Incoming} (part : ∀ packet read, i.phase = .body packet read →
    (read ++ [b]).length ≠ packet.getLength.toNat) : delivered (TcpFraming.receive i b) = delivered i := by
  cases phase : i.phase with
  | header read =>
    simp only [TcpFraming.receive,phase,TcpFraming.onReadHeader]
    split_ifs <;> rfl
  | body packet read =>
    simp only [TcpFraming.receive,phase,if_neg (part packet read phase)]
    rfl
  | closed => simp only [TcpFraming.receive,phase]

-- The body of a RecvCrypt that this byte completes.
structure Completes (c : Connection σ) (b : UInt8) (packet : Packet) (read : Bytes) : Prop where
  phase : c.incoming.phase = .body packet read
  whole : (read ++ [b]).length = packet.getLength.toNat
  asks : isRecvCrypt (read ++ [b]) = true

variable (evp) in
-- Before the switch no cipher is used, and it is the body of a RecvCrypt that makes the switch.
theorem receiveOff (off : c.decrypt = false) (b : UInt8) :
    (receive evp c b).decryptCipher = c.decryptCipher ∧ ((receive evp c b).decrypt = true → (receive evp c b).pending = []) ∧
      ((receive evp c b).decrypt = true ↔ c.decryptCipher.isSome = true ∧ ∃ packet read, Completes c b packet read) := by
  have none : c.cipher = none := by simp [Connection.cipher,off]
  have unswitched {t : Connection σ} (same : t.decrypt = c.decrypt) (part : ∀ packet read, ¬ Completes c b packet read) :
      (t.decrypt = true → t.pending = []) ∧
        (t.decrypt = true ↔ c.decryptCipher.isSome = true ∧ ∃ packet read, Completes c b packet read) := by
    simp [same,off,part]
  cases phase : c.incoming.phase with
  | header read =>
    have part (packet : Packet) (read : Bytes) (completes : Completes c b packet read) : False := by
      cases phase.symm.trans completes.phase
    simp only [receive,phase]
    split_ifs
    · have done := headerRead evp c (read ++ [b])
      exact ⟨done.kept none,unswitched done.decrypt part⟩
    · exact ⟨rfl,unswitched rfl part⟩
  | body packet read =>
    simp only [receive,phase]
    split_ifs with whole
    · have done := bodyRead evp c (read ++ [b]) packet
      refine ⟨done.kept none,fun _ => pendingFresh done.incoming (.inr (.inl (onReadBodyFresh _ _ _))),?_⟩
      rw [done.decrypt,off,Bool.false_or,Bool.and_eq_true]
      refine and_congr_right fun _ => ⟨fun asks => ⟨packet,read,phase,whole,asks⟩,fun ⟨_,_,completes⟩ => ?_⟩
      cases phase.symm.trans completes.phase
      exact completes.asks
    · refine ⟨rfl,unswitched rfl fun other read' completes => ?_⟩
      cases phase.symm.trans completes.phase
      exact whole completes.whole
  | closed =>
    have stays : receive evp c b = c := by simp only [receive,phase]
    rw [stays]
    exact ⟨rfl,unswitched rfl fun packet read completes => by cases phase.symm.trans completes.phase⟩

theorem receiveAllSnoc (i : Incoming) (stream : Bytes) (b : UInt8) :
    receiveAll i (stream ++ [b]) = TcpFraming.receive (receiveAll i stream) b := by
  rw [receiveAllAppend]
  rfl

-- The reader switches where it is asked to, and nowhere else.
theorem switchesIff {actions : List Action} (off : c.decrypt = false) (incoming : c.incoming = receiveAll .initial (bytes actions))
    (cipher : c.decryptCipher = lastCipher evp actions) : (receive evp c b).decrypt = true ↔ Asks evp actions b := by
  obtain ⟨-,-,switches⟩ := receiveOff evp off b
  obtain ⟨counted,tracks⟩ := receiveAllTracks (bytes actions)
  rw [switches,cipher,Asks]
  refine and_congr_right fun _ => ?_
  rw [receiveAllSnoc,← incoming]
  rw [← incoming] at counted tracks
  constructor
  · rintro ⟨packet,read,completes⟩
    exact ⟨read ++ [b],completes.asks,deliveredWhole completes.phase counted tracks completes.whole⟩
  · rintro ⟨body,asks,heard⟩
    by_cases whole : ∃ packet read, c.incoming.phase = .body packet read ∧ (read ++ [b]).length = packet.getLength.toNat
    · obtain ⟨packet,read,phase,whole⟩ := whole
      rw [deliveredWhole phase counted tracks whole,List.append_cancel_left_eq,List.singleton_inj] at heard
      exact ⟨packet,read,phase,whole,heard ▸ asks⟩
    · rw [deliveredPart fun packet read phase done => whole ⟨packet,read,phase,done⟩] at heard
      simp at heard

theorem setupDeciphered {actions : List Action} {clear secret : Bytes} (inv : Deciphered evp ssl actions c clear secret)
    (off : c.decrypt = false) (method : CipherMethod) (key iv : Bytes) :
    Deciphered evp ssl (actions ++ [.setupDecryptCipher method key iv]) (setupDecryptCipher evp c method key iv) clear secret := by
  obtain ⟨rfl,rfl,unasked⟩ := inv.switch.off off
  have last := lastCipherSetup evp actions method key iv
  have set : (setupDecryptCipher evp c method key iv).decrypt = false := off
  refine ⟨?_,?_,?_,fun _ => last.symm,fun on => ?_,fun on => ?_⟩
  · rw [arrivalsSetup,inv.read]
  · rw [set,← bytesSetup actions method key iv]
    exact .never (unaskedSnoc unasked fun _ _ byte => by cases byte)
  · have same : (setupDecryptCipher evp c method key iv).incoming = c.incoming := rfl
    have before := inv.view
    rw [(offClear off).1,decipherNil] at before
    rw [(offClear set).1,same,before,decipherNil]
  · rw [set] at on
    cases on
  · rw [set] at on
    cases on

theorem Deciphered.incoming {actions : List Action} {clear secret : Bytes} (inv : Deciphered evp ssl actions c clear secret)
    (off : c.decrypt = false) : c.incoming = receiveAll .initial (bytes actions) := by
  obtain ⟨rfl,rfl,-⟩ := inv.switch.off off
  have before := inv.view
  rwa [(offClear off).1,decipherNil,List.append_nil] at before

theorem clearDeciphered {actions : List Action} {clear secret : Bytes} (inv : Deciphered evp ssl actions c clear secret)
    (off : c.decrypt = false) (b : UInt8) :
    Deciphered evp ssl (actions ++ [.byte (clearLayer ssl) b]) (receive evp c b) (clear ++ [b]) [] := by
  have incoming := inv.incoming off
  have asked : (receive evp c b).decrypt = true ↔ Asks evp actions b := switchesIff off incoming (inv.off off)
  have last := lastCipherByte evp actions (clearLayer ssl) b
  obtain ⟨rfl,rfl,unasked⟩ := inv.switch.off off
  obtain ⟨kept,fresh,switches⟩ := receiveOff evp off b
  refine ⟨?_,?_,?_,fun _ => by rw [kept,inv.off off,last],fun on => ?_,fun on _ => ?_⟩
  · simp [inv.read]
  · cases on : (receive evp c b).decrypt with
    | false =>
      rw [← bytesByte actions (clearLayer ssl) b]
      refine .never (unaskedSnoc unasked fun layer b' same asks => ?_)
      cases same
      rw [asked.mpr asks] at on
      cases on
    | true =>
      have split : actions ++ [.byte (clearLayer ssl) b] = actions ++ .byte (clearLayer ssl) b :: [] := rfl
      have switched := Switch.first split unasked (asked.mp on)
      exact switched
  · rw [decipherNil,List.append_nil,receiveAllSnoc,← incoming,receiveView,(offClear off).1,(offClear off).2]
  · rw [last]
    exact (asked.mp on).1
  · simp only [Connection.here,Connection.cipher,on,if_true,kept,fresh on,inv.off off,last]

theorem secretDeciphered {actions : List Action} {clear secret : Bytes} (inv : Deciphered evp ssl actions c clear secret)
    (on : c.decrypt = true) (b : UInt8) :
    Deciphered evp ssl (actions ++ [.byte .socket b]) (receive evp c b) clear (secret ++ [b]) := by
  have last := lastCipherByte evp actions .socket b
  have switch := inv.switch.more on .socket b
  have given := inv.on on
  obtain ⟨cipher,set⟩ := Option.isSome_iff_exists.mp given
  have more : decipher evp (some cipher) (secret ++ [b]) =
      decipher evp (some cipher) secret ++ [evp.keystream.mask (advance evp.keystream cipher secret.length) b] :=
    cryptAppend cipher secret [b]
  have before := inv.view
  rw [set] at before
  by_cases closed : c.incoming.phase = .closed
  · have stays : receive evp c b = c := by simp only [receive,closed]
    have shut : (c.deciphered evp).phase = .closed := by simp [Connection.deciphered,closed]
    refine ⟨?_,by rwa [stays],?_,fun off => ?_,fun _ => last ▸ given,fun _ alive => ?_⟩
    · simp [inv.read]
    · rw [last,set,more,← List.append_assoc,receiveAllAppend,← before,stays]
      exact (receiveClosed shut _).symm
    · rw [stays,on] at off
      cases off
    · rw [stays] at alive
      exact absurd closed alive
  · have here : c.here evp = some (advance evp.keystream cipher secret.length) := by rw [inv.here on closed,set,Option.map_some]
    obtain ⟨moved,still⟩ := receiveHere closed here b
    have read : c.clear evp b = evp.keystream.mask (advance evp.keystream cipher secret.length) b := by simp [Connection.clear,here]
    refine ⟨?_,by rwa [still,← on],?_,fun off => ?_,fun _ => last ▸ given,fun _ _ => ?_⟩
    · simp [inv.read]
    · rw [last,set,more,← List.append_assoc,receiveAllAppend,← before,receiveView,read]
      rfl
    · rw [still] at off
      cases off
    · rw [moved,last,set,Option.map_some,List.length_append,List.length_singleton,advanceSucc,advanceNext]

theorem stepDeciphered {actions : List Action} {clear secret : Bytes} {a : Action}
    (inv : Deciphered evp ssl actions c clear secret) (next : Steps evp ssl c a d) :
    ∃ clear secret, Deciphered evp ssl (actions ++ [a]) d clear secret := by
  obtain ⟨records,permitted,taken⟩ := next
  cases a with
  | setupDecryptCipher method key iv =>
    cases taken
    exact ⟨clear,secret,setupDeciphered inv permitted method key iv⟩
  | byte layer b =>
    simp only [step] at taken
    split at taken
    · rename_i asked
      cases taken
      cases on : c.decrypt with
      | false =>
        obtain rfl : layer = clearLayer ssl := by simpa [Connection.layer,clearLayer,on] using asked
        exact ⟨_,_,clearDeciphered inv on b⟩
      | true =>
        obtain rfl : layer = .socket := by simpa [Connection.layer,on] using asked
        exact ⟨_,_,secretDeciphered inv on b⟩
    · cases taken
  | readAhead b => exact records.elim

theorem traceDeciphered {before actions : List Action} {clear secret : Bytes}
    (inv : Deciphered evp ssl before c clear secret) (trace : Trace (Steps evp ssl) c actions d) :
    ∃ clear secret, Deciphered evp ssl (before ++ actions) d clear secret := by
  induction trace generalizing before clear secret with
  | nil => exact ⟨clear,secret,by rwa [List.append_nil]⟩
  | cons first rest ih =>
    obtain ⟨_,_,next⟩ := stepDeciphered inv first
    rw [← List.singleton_append,← List.append_assoc]
    exact ih next

-- For whatever arrives, in clear or enciphered: the reader is where the one without ciphers is after
-- the same stream in clear, and it takes the stream for enciphered from behind the first RecvCrypt
-- that it has its cipher for.
theorem readingDeciphers {actions : List Action} (trace : Trace (Steps evp ssl) .initial actions c) :
    ∃ clear secret, Deciphered evp ssl actions c clear secret ∧
      delivered c.incoming = delivered (receiveAll .initial (clear ++ decipher evp (lastCipher evp actions) secret)) := by
  obtain ⟨clear,secret,inv⟩ := traceDeciphered initialDeciphered trace
  have same : delivered (c.deciphered evp) = delivered c.incoming := rfl
  exact ⟨clear,secret,inv,same ▸ congrArg delivered inv.view⟩

-- A RecvCrypt over SSL and a packet over the bare socket, with the cipher that masks nothing.
theorem readingDeciphersNull :
    let actions := .setupDecryptCipher .Null [] [] :: [85,1,1,0,12].map (.byte .sslStream) ++ [85,2,1,0,9].map (.byte .socket)
    ∃ c clear secret, Deciphered Sample.evp true actions c clear secret ∧ delivered c.incoming = [[12],[9]] ∧ c.decrypt = true := by
  intro actions
  have trace : Trace (Steps Sample.evp true) .initial actions _ :=
    .cons ⟨trivial,rfl,rfl⟩ (.cons ⟨trivial,trivial,rfl⟩ (.cons ⟨trivial,trivial,rfl⟩ (.cons ⟨trivial,trivial,rfl⟩
      (.cons ⟨trivial,trivial,rfl⟩ (.cons ⟨trivial,trivial,rfl⟩ (.cons ⟨trivial,trivial,rfl⟩ (.cons ⟨trivial,trivial,rfl⟩
        (.cons ⟨trivial,trivial,rfl⟩ (.cons ⟨trivial,trivial,rfl⟩ (.cons ⟨trivial,trivial,rfl⟩ (.nil _)))))))))))
  obtain ⟨clear,secret,deciphered,-⟩ := readingDeciphers trace
  exact ⟨_,clear,secret,deciphered,rfl,rfl⟩

end Run

section Frames
variable {evp} {ssl : Bool} {c : Connection σ}

def sends (layer : Layer) (bytes : Bytes) : List Action := bytes.map (.byte layer)

theorem traceAppend {as bs : List Action} {d e : Connection σ} (left : Trace (Steps evp ssl) c as d)
    (right : Trace (Steps evp ssl) d bs e) : Trace (Steps evp ssl) c (as ++ bs) e := by
  induction left with
  | nil => exact right
  | cons first rest ih => exact .cons first (ih right)

theorem stepClear (off : c.decrypt = false) (b : UInt8) : Steps evp ssl c (.byte (clearLayer ssl) b) (receive evp c b) := by
  refine ⟨trivial,trivial,?_⟩
  have asked : clearLayer ssl = c.layer ssl := by simp [Connection.layer,clearLayer,off]
  simp only [step,if_pos asked]

theorem stepSecret (on : c.decrypt = true) (b : UInt8) : Steps evp ssl c (.byte .socket b) (receive evp c b) := by
  refine ⟨trivial,trivial,?_⟩
  have asked : Layer.socket = c.layer ssl := by simp [Connection.layer,on]
  simp only [step,if_pos asked]

theorem receiveClear (off : c.decrypt = false) {b : UInt8} (still : (receive evp c b).decrypt = false) :
    receive evp c b = { c with incoming := TcpFraming.receive c.incoming b } := by
  have view : (receive evp c b).deciphered evp = _ := receiveView c b
  rw [(offClear still).1,(offClear off).1,(offClear off).2] at view
  have kept := (receiveOff evp off b).1
  have whole : receive evp c b = ⟨(receive evp c b).incoming,(receive evp c b).decryptCipher,(receive evp c b).decrypt⟩ := rfl
  rw [whole,view,kept,still,← off]

variable (evp ssl c) in
-- In clear, as long as no RecvCrypt is among what is delivered, or no cipher set up.
theorem traceQuiet (stream bytes : Bytes) (more : List Bytes) (origin : c.incoming = receiveAll .initial stream)
    (off : c.decrypt = false) (heard : delivered (receiveAll c.incoming bytes) = delivered c.incoming ++ more)
    (quiet : ∀ body ∈ more, c.decryptCipher = none ∨ isRecvCrypt body = false) :
    Trace (Steps evp ssl) c (sends (clearLayer ssl) bytes) { c with incoming := receiveAll c.incoming bytes } := by
  induction bytes generalizing c stream more with
  | nil => exact .nil c
  | cons b bytes ih =>
    have first : delivered c.incoming <+: delivered (TcpFraming.receive c.incoming b) := receiveKeeps c.incoming b
    have whole : delivered (TcpFraming.receive c.incoming b) <+: delivered (receiveAll c.incoming (b :: bytes)) :=
      receiveAllKeeps (TcpFraming.receive c.incoming b) bytes
    obtain ⟨early,begun⟩ := first
    obtain ⟨late,ended⟩ := whole
    have parts : early ++ late = more := by
      rw [heard,← begun,List.append_assoc] at ended
      exact List.append_cancel_left ended
    have still : (receive evp c b).decrypt = false := by
      by_contra on
      obtain ⟨given,packet,read,phase,complete,asked⟩ := (receiveOff evp off b).2.2.mp (by simpa using on)
      obtain ⟨counted,tracks⟩ := receiveAllTracks stream
      rw [← origin] at counted tracks
      have one := deliveredWhole phase counted tracks complete
      rw [one] at begun
      obtain rfl := List.append_cancel_left begun
      rcases quiet (read ++ [b]) (by simp [← parts]) with none | other
      · simp [none] at given
      · simp [other] at asked
    have moved := receiveClear off still
    refine .cons (stepClear off b) ?_
    rw [moved]
    refine ih { c with incoming := TcpFraming.receive c.incoming b } (stream ++ [b]) late ?_ off ended.symm ?_
    · rw [origin,receiveAllAppend]
      rfl
    · intro body mem
      exact quiet body (parts ▸ List.mem_append_right early mem)

-- A frame up to its last byte.
theorem frameBegun {i : Incoming} (idle : Idle i) {body : Bytes} (framable : Framable body) :
    ∃ packet : Packet, packet.getLength.toNat = body.length ∧
      receiveAll i (frame (i.incomingSequence + 1) body).dropLast =
        { i with incomingSequence := i.incomingSequence + 1, phase := .body packet body.dropLast } := by
  obtain ⟨packet,length,-,read⟩ := onReadHeaderAccepted (c := i) framable.1 framable.2
  have nonempty : body ≠ [] := List.ne_nil_of_length_pos framable.1
  refine ⟨packet,length,?_⟩
  have short : body.dropLast.length < packet.length.toNat := by
    rw [length,List.length_dropLast]
    have positive := framable.1
    omega
  rw [frame,List.dropLast_append_of_ne_nil nonempty,receiveAllAppend,receiveHeader idle.1 _ (headerLength _ _),read,
    receiveBodyPart (c := { i with incomingSequence := i.incomingSequence + 1, phase := .body packet [] }) rfl body.dropLast
      (by simpa using short)]
  rfl

variable (evp ssl c) in
-- The frame of a RecvCrypt to a connection that has its cipher.
theorem traceSwitch {stream : Bytes} {cipher : σ} (origin : c.incoming = receiveAll .initial stream)
    (idle : Idle c.incoming) (off : c.decrypt = false) (given : c.decryptCipher = some cipher) {body : Bytes}
    (framable : Framable body) (asks : isRecvCrypt body = true) :
    let bytes := frame (c.incoming.incomingSequence + 1) body
    ∃ d, Trace (Steps evp ssl) c (sends (clearLayer ssl) bytes.dropLast) d ∧ d.decrypt = false ∧
      ∃ b, bytes = bytes.dropLast ++ [b] ∧ (receive evp d b).decrypt = true := by
  intro bytes
  obtain ⟨packet,length,begun⟩ := frameBegun idle framable
  have nonempty : body ≠ [] := List.ne_nil_of_length_pos framable.1
  have quiet := traceQuiet evp ssl c stream bytes.dropLast [] origin off
    (by rw [begun]; simp [delivered]) (by simp)
  refine ⟨_,quiet,off,body.getLast nonempty,?_,?_⟩
  · have last : bytes.getLast (by simp [bytes,frame,header]) = body.getLast nonempty := List.getLast_append_of_ne_nil _ nonempty
    rw [← last,List.dropLast_append_getLast]
  · have step : receive evp { c with incoming := receiveAll c.incoming bytes.dropLast } (body.getLast nonempty) =
        onReadBody evp { c with incoming := receiveAll c.incoming bytes.dropLast } body packet := by
      simp only [bytes,begun,receive,List.dropLast_append_getLast,length,if_true]
    rw [step,(bodyRead evp _ body packet).decrypt]
    simp [given,asks]

theorem receiveOn (on : c.decrypt = true) (b : UInt8) : (receive evp c b).decrypt = true := by
  unfold receive
  split
  · split_ifs
    · rw [(headerRead evp _ _).decrypt,on]
    · exact on
  · split_ifs
    · rw [(bodyRead evp _ _ _).decrypt,on,Bool.true_or]
    · exact on
  · exact on

theorem traceSecret {actions : List Action} {clear secret : Bytes} (inv : Deciphered evp ssl actions c clear secret)
    (on : c.decrypt = true) (bytes : Bytes) :
    ∃ d, Trace (Steps evp ssl) c (sends .socket bytes) d ∧ d.decrypt = true ∧
      Deciphered evp ssl (actions ++ sends .socket bytes) d clear (secret ++ bytes) := by
  induction bytes generalizing c actions secret with
  | nil => exact ⟨c,.nil c,on,by simpa [sends] using inv⟩
  | cons b bytes ih =>
    obtain ⟨d,trace,still,after⟩ := ih (secretDeciphered inv on b) (receiveOn on b)
    refine ⟨d,.cons (stepSecret on b) trace,still,?_⟩
    simpa [sends] using after

-- What a client sends that is given `method` and `key` after its first packets, and that enciphers
-- from its RecvCrypt on; of the packets in between none is one.
structure Session where
  method : CipherMethod
  key : Bytes
  iv : Bytes
  early : List Bytes
  late : List Bytes
  recvCrypt : Bytes
  rest : List Bytes
  framable : ∀ body ∈ early ++ late ++ [recvCrypt] ++ rest, Framable body
  asks : isRecvCrypt recvCrypt = true
  only : ∀ body ∈ late, isRecvCrypt body = false

namespace Session

def bodies (x : Session) : List Bytes := x.early ++ x.late ++ [x.recvCrypt] ++ x.rest

variable (evp) in
def actions (x : Session) (ssl : Bool) : List Action :=
  let sequence (bodies : List Bytes) : UInt8 := UInt8.ofNat bodies.length
  sends (clearLayer ssl) (frames 0 x.early) ++ [.setupDecryptCipher x.method x.key x.iv] ++
    sends (clearLayer ssl) (frames (sequence x.early) (x.late ++ [x.recvCrypt])) ++
    sends .socket (crypt evp.keystream (evp.init (evpCipher x.method) x.key x.iv) (frames (sequence (x.early ++ x.late ++ [x.recvCrypt])) x.rest))

end Session

@[simp] theorem arrivalsSends (layer : Layer) (bytes : Bytes) : arrivals (sends layer bytes) = bytes.map (layer,·) := by
  induction bytes with
  | nil => rfl
  | cons b bytes ih => exact congrArg ((layer,b) :: ·) ih

@[simp] theorem ciphersSends (layer : Layer) (bytes : Bytes) : (sends layer bytes).filterMap (Action.cipher evp) = [] := by
  induction bytes with
  | nil => rfl
  | cons b bytes ih => exact ih

-- The reader once it has taken whole frames in clear.
def taken (bodies : List Bytes) : Incoming := receiveAll .initial (frames 0 bodies)

structure Taken (bodies : List Bytes) : Prop where
  idle : Idle (taken bodies)
  heard : delivered (taken bodies) = bodies
  sequence : (taken bodies).incomingSequence = UInt8.ofNat bodies.length

theorem takenFrames {bodies : List Bytes} (framable : ∀ body ∈ bodies, Framable body) : Taken bodies := by
  obtain ⟨idle,heard⟩ := receiveFrames initialIdle framable
  have all : delivered (taken bodies) = bodies := heard
  have counted : (taken bodies).incomingSequence = UInt8.ofNat (delivered (taken bodies)).length := by
    rw [delivered,List.length_map]
    exact idle.2.2
  exact ⟨idle,all,by rw [counted,all]⟩

theorem framesOf (left right : List Bytes) :
    frames 0 (left ++ right) = frames 0 left ++ frames (UInt8.ofNat left.length) right := by
  rw [framesAppend,UInt8.zero_add]

theorem takenAppend (left right : List Bytes) :
    receiveAll (taken left) (frames (UInt8.ofNat left.length) right) = taken (left ++ right) := by
  rw [taken,taken,framesOf,receiveAllAppend]

namespace Session
variable (x : Session)

variable (evp) in
def cipher : σ := evp.init (evpCipher x.method) x.key x.iv

-- The packets up to the RecvCrypt, all of it but the last byte in.
def begins (ssl : Bool) : List Action :=
  sends (clearLayer ssl) (frames 0 x.early) ++ [.setupDecryptCipher x.method x.key x.iv] ++
    (sends (clearLayer ssl) (frames (UInt8.ofNat x.early.length) x.late) ++
      sends (clearLayer ssl) (frame (UInt8.ofNat (x.early ++ x.late).length + 1) x.recvCrypt).dropLast)

theorem begun (ssl : Bool) :
    ∃ d, Trace (Steps evp ssl) .initial (x.begins ssl) d ∧ d.decrypt = false ∧
      ∃ b, (receive evp d b).decrypt = true ∧ frame (UInt8.ofNat (x.early ++ x.late).length + 1) x.recvCrypt =
        (frame (UInt8.ofNat (x.early ++ x.late).length + 1) x.recvCrypt).dropLast ++ [b] := by
  have early : Taken x.early := takenFrames fun body mem => x.framable body (by simp [mem])
  have late : Taken (x.early ++ x.late) := takenFrames fun body mem => x.framable body (by
    rcases List.mem_append.mp mem with left | left <;> simp [left])
  let ready (bodies : List Bytes) : Connection σ := ⟨taken bodies,some (x.cipher evp),false⟩
  have first : Trace (Steps evp ssl) .initial (sends (clearLayer ssl) (frames 0 x.early)) ⟨taken x.early,none,false⟩ :=
    traceQuiet evp ssl .initial [] _ _ rfl rfl early.heard fun _ _ => .inl rfl
  have setup : Trace (Steps evp ssl) ⟨taken x.early,none,false⟩ [.setupDecryptCipher x.method x.key x.iv] (ready x.early) :=
    .cons ⟨trivial,rfl,rfl⟩ (.nil _)
  have second : Trace (Steps evp ssl) (ready x.early) (sends (clearLayer ssl) (frames (UInt8.ofNat x.early.length) x.late))
      (ready (x.early ++ x.late)) := by
    have quiet := traceQuiet evp ssl (ready x.early) (frames 0 x.early) (frames (UInt8.ofNat x.early.length) x.late) x.late rfl rfl
      (by simp only [ready,takenAppend,late.heard,early.heard]) fun body mem => .inr (x.only body mem)
    simpa only [ready,takenAppend] using quiet
  obtain ⟨d,switching,off,b,whole,on⟩ := traceSwitch evp ssl (ready (x.early ++ x.late)) rfl late.idle rfl rfl
    (x.framable x.recvCrypt (by simp)) x.asks
  simp only [ready,late.sequence] at switching whole on
  exact ⟨d,traceAppend (traceAppend first setup) (traceAppend second switching),off,b,on,whole⟩

theorem actionsSplit (ssl : Bool) {b : UInt8}
    (whole : frame (UInt8.ofNat (x.early ++ x.late).length + 1) x.recvCrypt =
      (frame (UInt8.ofNat (x.early ++ x.late).length + 1) x.recvCrypt).dropLast ++ [b]) :
    x.actions evp ssl = x.begins ssl ++ [.byte (clearLayer ssl) b] ++
      sends .socket (crypt evp.keystream (x.cipher evp) (frames (UInt8.ofNat (x.early ++ x.late ++ [x.recvCrypt]).length) x.rest)) := by
  have last : frames (UInt8.ofNat x.early.length) (x.late ++ [x.recvCrypt]) =
      frames (UInt8.ofNat x.early.length) x.late ++
        ((frame (UInt8.ofNat (x.early ++ x.late).length + 1) x.recvCrypt).dropLast ++ [b]) := by
    rw [framesAppend,← whole,List.length_append,UInt8.ofNat_add]
    simp [frames]
  simp only [actions,begins,last]
  simp [sends,cipher]

theorem bytesBegins (ssl : Bool) : bytes (x.begins ssl) =
    frames 0 x.early ++ (frames (UInt8.ofNat x.early.length) x.late ++
      (frame (UInt8.ofNat (x.early ++ x.late).length + 1) x.recvCrypt).dropLast) := by
  have sent (sequel : Bytes) : ((sends (clearLayer ssl) sequel).filterMap Action.arrival).map Prod.snd = sequel := by
    rw [← arrivals,arrivalsSends,List.map_map]
    exact List.map_id sequel
  simp [bytes,arrivals,begins,sent,List.filterMap_cons,Action.arrival]

theorem lastCipherActions (ssl : Bool) (b : UInt8) (bytes : Bytes) :
    lastCipher evp (x.begins ssl ++ [.byte (clearLayer ssl) b] ++ sends .socket bytes) = some (x.cipher evp) := by
  simp [lastCipher,begins,List.filterMap_cons,Action.cipher,cipher]

theorem framesRead {b : UInt8} (whole : frame (UInt8.ofNat (x.early ++ x.late).length + 1) x.recvCrypt =
      (frame (UInt8.ofNat (x.early ++ x.late).length + 1) x.recvCrypt).dropLast ++ [b]) :
    frames 0 x.early ++ (frames (UInt8.ofNat x.early.length) x.late ++
      (frame (UInt8.ofNat (x.early ++ x.late).length + 1) x.recvCrypt).dropLast) ++ [b] =
        frames 0 (x.early ++ x.late ++ [x.recvCrypt]) := by
  rw [framesOf (x.early ++ x.late),framesOf x.early,List.append_assoc,List.append_assoc,← whole]
  simp [frames]

end Session

theorem decipheredIdle {c : Connection σ} (idle : (c.deciphered evp).phase = .header []) : c.incoming.phase = .header [] := by
  cases phase : c.incoming.phase with
  | header read =>
    simp only [Connection.deciphered,phase,Phase.header.injEq] at idle
    have none := congrArg List.length idle
    rw [decipherLength,List.length_nil] at none
    rw [List.length_eq_zero_iff.mp none]
  | body packet read => simp [Connection.deciphered,phase] at idle
  | closed => simp [Connection.deciphered,phase] at idle

variable (evp) in
-- Server and client switch at the same byte, and nothing is lost on either side of it.
theorem sessionDelivered (ssl : Bool) (x : Session) :
    ∃ c, Trace (Steps evp ssl) .initial (x.actions evp ssl) c ∧ delivered c.incoming = x.bodies ∧ c.decrypt = true ∧
      c.incoming.phase = .header [] := by
  obtain ⟨d,trace,off,b,on,whole⟩ := x.begun ssl
  obtain ⟨clear,secret,inv⟩ := traceDeciphered initialDeciphered trace
  obtain ⟨arrived,rfl,-⟩ := inv.switch.off off
  rw [List.nil_append,x.bytesBegins ssl] at arrived
  subst arrived
  obtain ⟨c,rest,still,final⟩ := traceSecret (clearDeciphered inv off b) on
    (crypt evp.keystream (x.cipher evp) (frames (UInt8.ofNat (x.early ++ x.late ++ [x.recvCrypt]).length) x.rest))
  have all : c.deciphered evp = taken x.bodies := by
    rw [final.view,List.nil_append,x.lastCipherActions ssl b,decipher,List.nil_append,cryptTwice,x.framesRead whole,← framesOf]
    rfl
  have every : Taken x.bodies := takenFrames x.framable
  refine ⟨c,?_,?_,still,decipheredIdle (all ▸ every.idle.1)⟩
  · rw [x.actionsSplit ssl whole]
    exact traceAppend (traceAppend trace (.cons (stepClear off b) (.nil _))) rest
  · have same : delivered (c.deciphered evp) = x.bodies := by rw [all,every.heard]
    exact same

-- Five bytes of key, a packet before the key is given, the RecvCrypt and an enciphered packet.
theorem sessionDeliveredRc4 : ∃ c, Trace (Steps Sample.evp true) .initial
    (Session.actions Sample.evp ⟨.RC4_40,[1,2,3,4,5],[],[[3]],[],[12],[[9]],by decide,rfl,by simp⟩ true) c ∧
      delivered c.incoming = [[3],[12],[9]] ∧ c.decrypt = true := by
  obtain ⟨c,trace,heard,on,-⟩ := sessionDelivered Sample.evp true ⟨.RC4_40,[1,2,3,4,5],[],[[3]],[],[12],[[9]],by decide,rfl,by simp⟩
  exact ⟨c,trace,heard,on⟩

end Frames

/-! The other direction: what `asyncWrite` puts on the wire with these ciphers, for a client that
reads frames as the server does. -/

section Writing
open TcpSendQueue (Written framed upToCrypt afterCrypt encrypted isCrypt Internal EncryptCtx)
variable {evp} {ssl : Bool}

-- `EVP_EncryptUpdate` with a context that has been fed before.
variable (evp) in
def update (key : σ) (fed buffer : Bytes) : Bytes := crypt evp.keystream (advance evp.keystream key fed.length) buffer

theorem encryptedBytes (key : σ) (fed : Bytes) (ps : List Bytes) :
    ((encrypted (update evp) key fed ps).map Written.buffer).flatten = crypt evp.keystream (advance evp.keystream key fed.length) ps.flatten := by
  induction ps generalizing fed with
  | nil => rfl
  | cons p ps ih => simp [encrypted,ih,update,cryptAppend,advanceAdd]

theorem encryptedBare (key : σ) (fed : Bytes) (ps : List Bytes) :
    (encrypted (update evp) key fed ps).length = ps.length ∧ ∀ w ∈ encrypted (update evp) key fed ps, w.overSsl = false := by
  induction ps generalizing fed with
  | nil => exact ⟨rfl,by simp [encrypted]⟩
  | cons p ps ih =>
    obtain ⟨length,bare⟩ := ih (fed ++ p)
    exact ⟨by simp [encrypted,length],by simpa [encrypted] using bare⟩

theorem aroundCrypt (ps : List Bytes) : upToCrypt ps ++ afterCrypt ps = ps := by
  induction ps with
  | nil => rfl
  | cons p ps ih =>
    by_cases crypt : isCrypt p = true
    · simp [upToCrypt,afterCrypt,crypt]
    · simp [upToCrypt,afterCrypt,crypt,ih]

theorem framedLength (sequence : UInt8) (bodies : List Bytes) : (framed sequence bodies).length = bodies.length := by
  induction bodies generalizing sequence with
  | nil => rfl
  | cons body rest ih => simp [framed,ih]

theorem framedFlatten (sequence : UInt8) (bodies : List Bytes) : (framed sequence bodies).flatten = frames sequence bodies := by
  induction bodies generalizing sequence with
  | nil => rfl
  | cons body rest ih => simp [framed,frames,ih]

theorem framedTake (sequence : UInt8) (bodies : List Bytes) (count : Nat) :
    (framed sequence bodies).take count = framed sequence (bodies.take count) := by
  induction bodies generalizing sequence count with
  | nil => simp [framed]
  | cons body rest ih =>
    cases count with
    | zero => rfl
    | succ count => simp [framed,ih]

theorem acceptFramable {a : TcpSendQueue.Action σ} {body : Bytes} (taken : TcpSendQueue.accept a = some body) :
    Framable body := by
  unfold TcpSendQueue.accept at taken
  split at taken
  · split_ifs at taken with fits
    cases taken
    exact OutgoingPacket.bodyFramable fits
  · cases taken

-- The key that the cipher is set up with.
def setup : TcpSendQueue.Action σ → Option σ
  | .setupEncryptCipher key => some key
  | _ => none

def lastKey (as : List (TcpSendQueue.Action σ)) : Option σ := (as.filterMap setup).getLast?

theorem startWriteKey (c : TcpSendQueue.Connection σ) (buffer : Bytes) :
    (TcpSendQueue.startWrite (update evp) ssl c buffer).ctx.map EncryptCtx.key = c.ctx.map EncryptCtx.key := by
  unfold TcpSendQueue.startWrite TcpSendQueue.launch
  cases ctx : c.ctx with
  | none => simp
  | some opened =>
    dsimp only
    split_ifs <;> simp

theorem stepKey {c d : TcpSendQueue.Connection σ} {a : TcpSendQueue.Action σ}
    (next : TcpSendQueue.step (update evp) ssl c a = some d) :
    d.ctx.map EncryptCtx.key = (setup a).or (c.ctx.map EncryptCtx.key) := by
  cases a with
  | writePacket o =>
    simp only [TcpSendQueue.step] at next
    split_ifs at next <;> cases next <;> rfl
  | setupEncryptCipher key =>
    cases next
    rfl
  | takeFront =>
    simp only [TcpSendQueue.step] at next
    split_ifs at next
    split at next <;> cases next <;> rfl
  | asyncWrite caller =>
    simp only [TcpSendQueue.step] at next
    split at next
    · cases next
    · cases next
      exact startWriteKey _ _
  | onWrite write =>
    simp only [TcpSendQueue.step] at next
    split_ifs at next <;> cases next <;> rfl

theorem traceKey {as : List (TcpSendQueue.Action σ)} {c d : TcpSendQueue.Connection σ}
    (trace : Trace (TcpSendQueue.Steps (update evp) ssl) c as d) :
    d.ctx.map EncryptCtx.key = (lastKey as).or (c.ctx.map EncryptCtx.key) := by
  induction trace with
  | nil => rfl
  | @cons s a m as t first rest ih =>
    rw [ih,stepKey first.2,← Option.or_assoc]
    congr 1
    cases set : setup a with
    | none => simp [lastKey,set]
    | some key => simp [lastKey,set,List.getLast?_cons]

variable (evp) in
-- The writes in clear and the enciphered ones, and what a client makes of them. The packets up to
-- the Crypt packet are written as they are, and the others masked with the cipher that was set up.
structure Transmits (ssl : Bool) (as : List (TcpSendQueue.Action σ)) (c : TcpSendQueue.Connection σ) (plain secret : List Written) :
    Prop where
  accepted : c.accepted = as.filterMap TcpSendQueue.accept
  written : c.written = plain ++ secret
  overSsl : (∀ w ∈ plain, w.overSsl = ssl) ∧ ∀ w ∈ secret, w.overSsl = false
  clear : plain.map Written.buffer = upToCrypt (framed 0 (c.accepted.take c.written.length))
  enciphered : (secret.map Written.buffer).flatten =
    decipher evp (lastKey as) (afterCrypt (framed 0 (c.accepted.take c.written.length))).flatten
  received : delivered (receiveAll .initial ((plain.map Written.buffer).flatten ++
    decipher evp (lastKey as) (secret.map Written.buffer).flatten)) = c.accepted.take c.written.length
  exhausted : (∀ a, Internal a = true → TcpSendQueue.step (update evp) ssl c a = none) → c.written.length = c.accepted.length

theorem decipherTwice (cipher : Option σ) (text : Bytes) : decipher evp cipher (decipher evp cipher text) = text := by
  cases cipher with
  | none => rfl
  | some cipher => exact cryptTwice cipher text

-- What went out in clear is what comes before the switch, with a cipher set up or without one.
theorem splitAtCrypt {c : TcpSendQueue.Connection σ} (inv : TcpSendQueue.Invariant (update evp) ssl c) :
    ∃ plain secret, c.written = plain ++ secret ∧ ((∀ w ∈ plain, w.overSsl = ssl) ∧ ∀ w ∈ secret, w.overSsl = false) ∧
      plain.map Written.buffer = upToCrypt c.sent ∧
      (secret.map Written.buffer).flatten = decipher evp (c.ctx.map EncryptCtx.key) (afterCrypt c.sent).flatten := by
  have clear (ps : List Bytes) : (ps.map (TcpSendQueue.plain ssl)).map Written.buffer = ps := by
    simp [Function.comp_def,TcpSendQueue.plain]
  have overSsl (ps : List Bytes) : ∀ w ∈ ps.map (TcpSendQueue.plain ssl), w.overSsl = ssl := by
    simp [TcpSendQueue.plain]
  have split := inv.switched.split
  cases ctx : c.ctx with
  | none =>
    have unseen : c.sent.any isCrypt = false := by
      by_contra seen
      have armed := TcpSendQueue.prefixArmed inv.switched (TcpSendQueue.sentPrefix inv.ordered) (by simpa using seen)
      simp [ctx] at armed
    obtain ⟨up,after,-,-⟩ := TcpSendQueue.upToCryptPlain unseen []
    rw [ctx] at split
    have all : c.written = c.sent.map (TcpSendQueue.plain ssl) := split
    exact ⟨c.sent.map (TcpSendQueue.plain ssl),[],by rw [all,List.append_nil],⟨overSsl _,by simp⟩,by rw [clear,up],by rw [after]; rfl⟩
  | some opened =>
    rw [ctx] at split
    obtain ⟨parts,-⟩ := split
    exact ⟨_,_,parts,⟨overSsl _,(encryptedBare opened.key [] _).2⟩,clear _,encryptedBytes opened.key [] _⟩

-- For any callers and completions: deciphered from the Crypt packet on, the writes are the accepted
-- packets in their order.
theorem writingEnciphers {as : List (TcpSendQueue.Action σ)} {c : TcpSendQueue.Connection σ}
    (trace : Trace (TcpSendQueue.Steps (update evp) ssl) .initial as c) : ∃ plain secret, Transmits evp ssl as c plain secret := by
  have inv := TcpSendQueue.traceKeeps trace
  have accepted : c.accepted = as.filterMap TcpSendQueue.accept := TcpSendQueue.traceAccepts trace
  have key : c.ctx.map EncryptCtx.key = lastKey as := (traceKey trace).trans Option.or_none
  have count : c.sent.length = c.written.length := List.length_map _
  have framable : ∀ body ∈ c.accepted.take c.written.length, Framable body := by
    intro body mem
    have given := List.mem_of_mem_take mem
    rw [accepted] at given
    obtain ⟨a,-,taken⟩ := List.mem_filterMap.mp given
    exact acceptFramable taken
  have sent : c.sent = framed 0 (c.accepted.take c.written.length) := by
    rw [← framedTake,← count,← List.prefix_iff_eq_take.mp (TcpSendQueue.sentPrefix inv.ordered)]
  have exhausted (stuck : ∀ a, Internal a = true → TcpSendQueue.step (update evp) ssl c a = none) :
      c.written.length = c.accepted.length := by
    have placed := inv.ordered.placed
    rw [TcpSendQueue.stuckEmpty inv stuck,List.drop_nil,List.append_nil] at placed
    rw [← count,placed,framedLength]
  obtain ⟨plain,secret,written,overSsl,clear,enciphered⟩ := splitAtCrypt inv
  rw [key] at enciphered
  refine ⟨plain,secret,accepted,written,overSsl,sent ▸ clear,sent ▸ enciphered,?_,exhausted⟩
  rw [clear,enciphered,decipherTwice,← List.flatten_append,aroundCrypt,sent,framedFlatten]
  exact (receiveFrames initialIdle framable).2

theorem writingEnciphersRc4 :
    let as : List (TcpSendQueue.Action (Option Sample.Context)) :=
      [.setupEncryptCipher (Sample.evp.init .rc4 [1,2,3,4,5,6,7,8,9,10,11,12,13,14,15,16] []),
        .writePacket ⟨[7],by decide,[.uint8 1]⟩,.takeFront,.asyncWrite 0,.writePacket ⟨[9],by decide,[]⟩,.onWrite 0,
        .takeFront,.asyncWrite 0]
    ∃ c plain secret, Transmits Sample.evp true as c plain secret ∧ c.accepted = [[7,1],[9]] ∧ c.written.length = 2 := by
  intro as
  have trace : Trace (TcpSendQueue.Steps (update Sample.evp) true) .initial as _ :=
    .cons ⟨rfl,rfl⟩ (.cons ⟨fun _ => rfl,rfl⟩ (.cons ⟨trivial,rfl⟩ (.cons ⟨trivial,rfl⟩
      (.cons ⟨fun _ => rfl,rfl⟩ (.cons ⟨trivial,rfl⟩ (.cons ⟨trivial,rfl⟩ (.cons ⟨trivial,rfl⟩ (.nil _))))))))
  obtain ⟨plain,secret,transmits⟩ := writingEnciphers trace
  exact ⟨_,plain,secret,transmits,rfl,rfl⟩

end Writing
end EncryptedReading
end CsoMaster
