import CsoMaster.Packet

/-! The two directions of one unencrypted `TCPConnection`: `WritePacket` frames and
enqueues, `onReadHeader`/`onReadBody` take frames off the byte stream. Bytes arrive one
at a time here; a read of `transfer_exactly(n)` completes with the n-th of them. -/
namespace CsoMaster.TcpFraming
open ByteOrder

structure Outgoing where
  outgoingSequence : UInt8
  outgoingPackets : List Bytes
  deriving DecidableEq, Repr

def Outgoing.initial : Outgoing := ⟨0,[]⟩

-- The bytes `WritePacket` has in hand when it looks at their number.
def writtenBytes (c : Outgoing) (p : Packet) : Bytes :=
  ((p.setSequence (c.outgoingSequence + 1)).writeHeader).getBuffer

-- The block of WritePacket under _outgoingMutex. A dropped packet leaves the counter alone.
def writePacket (c : Outgoing) (p : Packet) : Outgoing :=
  let sequence := c.outgoingSequence + 1
  let buffer := writtenBytes c p
  if buffer.length > TCP_PACKET_MAX_SIZE then c
  else ⟨sequence,c.outgoingPackets ++ [buffer]⟩

inductive Phase where
  | header (read : Bytes)
  | body (packet : Packet) (read : Bytes)
  | closed
  deriving DecidableEq, Repr

structure Incoming where
  incomingSequence : UInt8
  phase : Phase
  incomingPackets : List Packet
  handled : List Packet
  deriving DecidableEq, Repr

def Incoming.initial : Incoming := ⟨0,.header [],[],[]⟩

-- The loop gives the front packet to the handler and pops it until the queue is empty.
def processPacket (c : Incoming) : Incoming :=
  { c with incomingPackets := [], handled := c.handled ++ c.incomingPackets }

def onReadHeader (c : Incoming) (buffer : Bytes) : Incoming :=
  let c := { c with incomingSequence := c.incomingSequence + 1 }
  let packet := Packet.createClient buffer
  if !packet.isValid then { c with phase := .closed }
  else if packet.getSequence ≠ c.incomingSequence then { c with phase := .closed }
  else if packet.getLength = 0 then { c with phase := .closed }
  else { c with phase := .body packet [] }

def onReadBody (c : Incoming) (buffer : Bytes) (packet : Packet) : Incoming :=
  let packet := packet.setBuffer (packet.getBuffer ++ buffer)
  let queueIdle := c.incomingPackets.isEmpty
  let c := { c with incomingPackets := c.incomingPackets ++ [packet], phase := .header [] }
  if queueIdle then processPacket c else c

def receive (c : Incoming) (b : UInt8) : Incoming :=
  match c.phase with
  | .header read =>
    if (read ++ [b]).length = PACKET_HEADER_SIZE then onReadHeader c (read ++ [b])
    else { c with phase := .header (read ++ [b]) }
  | .body packet read =>
    if (read ++ [b]).length = packet.getLength.toNat then onReadBody c (read ++ [b]) packet
    else { c with phase := .body packet (read ++ [b]) }
  | .closed => c

def receiveAll (c : Incoming) (stream : Bytes) : Incoming := stream.foldl receive c

def payload (p : Packet) : Bytes := p.buffer.drop PACKET_HEADER_SIZE

def delivered (c : Incoming) : List Bytes := c.handled.map payload

/- The wire format by itself: what a frame is, when a body fits one, and the stream a
list of bodies makes with consecutive sequence numbers after `sequence`. -/

def header (sequence : UInt8) (length : Nat) : Bytes :=
  [TCP_PACKET_SIGNATURE,sequence] ++ encode .little 2 length

def frame (sequence : UInt8) (body : Bytes) : Bytes := header sequence body.length ++ body

def frames : UInt8 → List Bytes → Bytes
  | _, [] => []
  | sequence, body :: rest => frame (sequence + 1) body ++ frames (sequence + 1) rest

def Framable (body : Bytes) : Prop := 0 < body.length ∧ body.length < 256 ^ 2

instance (body : Bytes) : Decidable (Framable body) := by unfold Framable; infer_instance

-- A header the reader lets through when it expects `sequence`.
def Accepted (sequence : UInt8) (bytes : Bytes) : Prop :=
  ∃ length, 0 < length ∧ length < 256 ^ 2 ∧ bytes = header sequence length

theorem headerLength (sequence length) : (header sequence length).length = 4 := by simp [header]

theorem framesAppend (sequence : UInt8) (bodies more : List Bytes) :
    frames sequence (bodies ++ more) =
      frames sequence bodies ++ frames (sequence + UInt8.ofNat bodies.length) more := by
  induction bodies generalizing sequence with
  | nil => simp [frames]
  | cons body rest ih =>
    have shifted : sequence + 1 + UInt8.ofNat rest.length = sequence + UInt8.ofNat (rest.length + 1) := by
      rw [UInt8.ofNat_add,UInt8.add_assoc,UInt8.add_comm 1]; rfl
    simp only [List.cons_append,frames,ih,List.append_assoc,List.length_cons,shifted]

theorem bytePairs (bytes : Bytes) (four : bytes.length = 4) :
    ∃ a b c d, bytes = [a,b,c,d] := by
  match bytes, four with
  | [a,b,c,d], _ => exact ⟨a,b,c,d,rfl⟩

theorem encodePair (length : Nat) :
    encode .little 2 length = [UInt8.ofNat length,UInt8.ofNat (length >>> 8)] := rfl

theorem decodedLength {length : Nat} (fits : length < 256 ^ 2) :
    (UInt8.ofNat length).toNat + 256 * (UInt8.ofNat (length >>> 8)).toNat = length := by
  have back := decodeEncode .little fits
  rwa [encodePair,decodePair] at back

theorem lengthOfBytes (low high : UInt8) :
    header 0 (low.toNat + 256 * high.toNat) = [TCP_PACKET_SIGNATURE,0,low,high] := by
  have hl := low.toNat_lt
  have hh := high.toNat_lt
  have shifted : (low.toNat + 256 * high.toNat) >>> 8 = high.toNat := by
    rw [Nat.shiftRight_eq_div_pow]; omega
  have lowByte : UInt8.ofNat (low.toNat + 256 * high.toNat) = low := by
    apply UInt8.toNat_inj.mp
    simp only [UInt8.toNat_ofNat']
    omega
  simp only [header,encodePair,shifted,lowByte,UInt8.ofNat_toNat,List.cons_append,List.nil_append]

/-! What the reader does with whole headers, whole bodies and whole frames. -/

theorem receiveAllAppend (c : Incoming) (left right : Bytes) :
    receiveAll c (left ++ right) = receiveAll (receiveAll c left) right := by
  simp [receiveAll]

theorem receiveHeaderPart {c : Incoming} {read} (phase : c.phase = .header read) (bytes : Bytes)
    (short : read.length + bytes.length < PACKET_HEADER_SIZE) :
    receiveAll c bytes = { c with phase := .header (read ++ bytes) } := by
  induction bytes generalizing c read with
  | nil => simp [receiveAll,← phase]
  | cons b rest ih =>
    simp only [List.length_cons] at short
    have first : receive c b = { c with phase := .header (read ++ [b]) } := by
      have more : (read ++ [b]).length ≠ PACKET_HEADER_SIZE := by simp; omega
      simp only [receive,phase,if_neg more]
    have tail := ih (c := { c with phase := .header (read ++ [b]) }) rfl (by simp; omega)
    simpa [receiveAll,first] using tail

theorem receiveBodyPart {c : Incoming} {packet read} (phase : c.phase = .body packet read) (bytes : Bytes)
    (short : read.length + bytes.length < packet.length.toNat) :
    receiveAll c bytes = { c with phase := .body packet (read ++ bytes) } := by
  induction bytes generalizing c read with
  | nil => simp [receiveAll,← phase]
  | cons b rest ih =>
    simp only [List.length_cons] at short
    have first : receive c b = { c with phase := .body packet (read ++ [b]) } := by
      have more : (read ++ [b]).length ≠ packet.getLength.toNat := by
        simp [Packet.getLength]; omega
      simp only [receive,phase,if_neg more]
    have tail := ih (c := { c with phase := .body packet (read ++ [b]) }) rfl (by simp; omega)
    simpa [receiveAll,first] using tail

theorem receiveHeader {c : Incoming} (phase : c.phase = .header []) (bytes : Bytes)
    (whole : bytes.length = PACKET_HEADER_SIZE) : receiveAll c bytes = onReadHeader c bytes := by
  obtain ⟨a,b,d,e,rfl⟩ := bytePairs bytes whole
  have three := receiveHeaderPart phase [a,b,d] (by simp [PACKET_HEADER_SIZE])
  have split : [a,b,d,e] = [a,b,d] ++ [e] := rfl
  rw [split,receiveAllAppend,three]
  simp [receiveAll,receive,PACKET_HEADER_SIZE,onReadHeader]

theorem receiveBody {c : Incoming} {packet} (phase : c.phase = .body packet []) (bytes : Bytes)
    (nonempty : bytes ≠ []) (whole : bytes.length = packet.length.toNat) :
    receiveAll c bytes = onReadBody c bytes packet := by
  have split := List.dropLast_append_getLast nonempty
  have parts := congrArg List.length split
  simp only [List.length_append,List.length_singleton] at parts
  have before := receiveBodyPart phase bytes.dropLast (by simp only [List.length_nil]; omega)
  have last : bytes.length = packet.getLength.toNat := whole
  have step : receive { c with phase := .body packet bytes.dropLast } (bytes.getLast nonempty) =
      onReadBody c bytes packet := by
    simp only [receive,split,if_pos last,onReadBody]
  calc
    receiveAll c bytes = receiveAll (receiveAll c bytes.dropLast) [bytes.getLast nonempty] := by
      rw [← receiveAllAppend,split]
    _ = onReadBody c bytes packet := by rw [before]; exact step

-- Four bytes are read as their signature, sequence and length, and nothing else is looked at.
theorem onReadHeaderBytes (c : Incoming) (signature sequence low high : UInt8) :
    onReadHeader c [signature,sequence,low,high] =
      { c with
        incomingSequence := c.incomingSequence + 1
        phase :=
          if signature = TCP_PACKET_SIGNATURE ∧ sequence = c.incomingSequence + 1 ∧
              low.toNat + 256 * high.toNat ≠ 0 then
            .body (Packet.createClient [signature,sequence,low,high]) []
          else .closed } := by
  have fits : low.toNat + 256 * high.toNat < 2 ^ 16 := by
    have hl := low.toNat_lt
    have hh := high.toNat_lt
    omega
  have empty : UInt16.ofNat (low.toNat + 256 * high.toNat) = 0 ↔ low.toNat + 256 * high.toNat = 0 := by
    rw [← UInt16.toNat_inj,UInt16.toNat_ofNat_of_lt' fits]; rfl
  simp only [onReadHeader,Packet.createClientHeader,Packet.isValid,Packet.getSequence,Packet.getLength,empty]
  by_cases signed : signature = TCP_PACKET_SIGNATURE <;>
    by_cases inOrder : sequence = c.incomingSequence + 1 <;>
      by_cases zero : low.toNat + 256 * high.toNat = 0 <;> simp [signed,inOrder,zero,-Nat.add_eq_zero_iff]

-- The reader between two frames, `count` of which it has taken.
def Idle (c : Incoming) : Prop :=
  c.phase = .header [] ∧ c.incomingPackets = [] ∧ c.incomingSequence = UInt8.ofNat c.handled.length

theorem acceptedIff (sequence signature second low high : UInt8) :
    Accepted sequence [signature,second,low,high] ↔
      signature = TCP_PACKET_SIGNATURE ∧ second = sequence ∧ low.toNat + 256 * high.toNat ≠ 0 := by
  constructor
  · rintro ⟨length,positive,fits,same⟩
    simp only [header,encodePair,List.cons_append,List.nil_append,List.cons.injEq,and_true] at same
    obtain ⟨signed,inOrder,lowByte,highByte⟩ := same
    have back := decodedLength fits
    rw [← lowByte,← highByte] at back
    exact ⟨signed,inOrder,by omega⟩
  · rintro ⟨rfl,rfl,nonzero⟩
    have hl := low.toNat_lt
    have hh := high.toNat_lt
    refine ⟨low.toNat + 256 * high.toNat,by omega,by omega,?_⟩
    have bytes := lengthOfBytes low high
    simp only [header,List.cons_append,List.nil_append,List.cons.injEq,true_and] at bytes ⊢
    exact bytes.symm

theorem onReadHeaderAccepted {c : Incoming} {length : Nat} (positive : 0 < length)
    (fits : length < 256 ^ 2) :
    ∃ packet : Packet, packet.length.toNat = length ∧
      packet.buffer = header (c.incomingSequence + 1) length ∧
      onReadHeader c (header (c.incomingSequence + 1) length) =
        { c with incomingSequence := c.incomingSequence + 1, phase := .body packet [] } := by
  have value := decodedLength fits
  have bytes : header (c.incomingSequence + 1) length =
      [TCP_PACKET_SIGNATURE,c.incomingSequence + 1,UInt8.ofNat length,UInt8.ofNat (length >>> 8)] := rfl
  refine ⟨Packet.createClient (header (c.incomingSequence + 1) length),?_,?_,?_⟩
  · rw [bytes,Packet.createClientHeader]
    simp only [value]
    exact UInt16.toNat_ofNat_of_lt' fits
  · rw [bytes,Packet.createClientHeader]
  · have nonzero : length ≠ 0 := by omega
    rw [bytes,onReadHeaderBytes,value,if_pos ⟨rfl,rfl,nonzero⟩]

theorem onReadHeaderRejected {c : Incoming} {bytes : Bytes} (four : bytes.length = PACKET_HEADER_SIZE)
    (bad : ¬ Accepted (c.incomingSequence + 1) bytes) :
    onReadHeader c bytes = { c with incomingSequence := c.incomingSequence + 1, phase := .closed } := by
  obtain ⟨a,b,d,e,rfl⟩ := bytePairs bytes four
  rw [acceptedIff] at bad
  rw [onReadHeaderBytes,if_neg bad]

theorem onReadBodyIdle {c : Incoming} (empty : c.incomingPackets = []) (bytes : Bytes) (packet : Packet) :
    onReadBody c bytes packet =
      { c with
        phase := .header []
        handled := c.handled ++ [packet.setBuffer (packet.getBuffer ++ bytes)] } := by
  simp [onReadBody,empty,processPacket]

theorem payloadOfFrame {packet : Packet} {sequence length} (buffer : packet.buffer = header sequence length)
    (body : Bytes) : payload (packet.setBuffer (packet.getBuffer ++ body)) = body := by
  have four : (header sequence length).length = PACKET_HEADER_SIZE := headerLength sequence length
  simp only [payload,Packet.setBuffer,Packet.getBuffer,buffer]
  rw [List.drop_append_of_le_length (by omega),List.drop_of_length_le (by omega),List.nil_append]

-- One whole frame with the next sequence number delivers its body and nothing else.
theorem receiveFrame {c : Incoming} (idle : Idle c) {body : Bytes} (framable : Framable body) :
    Idle (receiveAll c (frame (c.incomingSequence + 1) body)) ∧
      (receiveAll c (frame (c.incomingSequence + 1) body)).incomingSequence = c.incomingSequence + 1 ∧
      delivered (receiveAll c (frame (c.incomingSequence + 1) body)) = delivered c ++ [body] := by
  obtain ⟨phase,empty,counted⟩ := idle
  obtain ⟨packet,length,buffer,read⟩ := onReadHeaderAccepted (c := c) framable.1 framable.2
  have nonempty : body ≠ [] := List.ne_nil_of_length_pos framable.1
  have final : receiveAll c (frame (c.incomingSequence + 1) body) =
      { c with
        incomingSequence := c.incomingSequence + 1
        phase := .header []
        handled := c.handled ++ [packet.setBuffer (packet.getBuffer ++ body)] } := by
    rw [frame,receiveAllAppend,receiveHeader phase _ (headerLength _ _),read,
      receiveBody rfl body nonempty length.symm]
    exact onReadBodyIdle (c := { c with incomingSequence := c.incomingSequence + 1, phase := .body packet [] })
      empty body packet
  rw [final]
  refine ⟨⟨rfl,empty,?_⟩,rfl,?_⟩
  · simp [counted,UInt8.ofNat_add]
  · simp [delivered,payloadOfFrame buffer]

theorem receiveFrames {c : Incoming} (idle : Idle c) {bodies : List Bytes}
    (framable : ∀ body ∈ bodies, Framable body) :
    Idle (receiveAll c (frames c.incomingSequence bodies)) ∧
      delivered (receiveAll c (frames c.incomingSequence bodies)) = delivered c ++ bodies := by
  induction bodies generalizing c with
  | nil => simpa [frames,receiveAll] using idle
  | cons body rest ih =>
    obtain ⟨idle',sequence,heard⟩ := receiveFrame idle (framable body (by simp))
    have tail := ih idle' (fun b hb => framable b (by simp [hb]))
    rw [sequence,heard] at tail
    simpa [frames,receiveAllAppend] using tail

theorem initialIdle : Idle Incoming.initial := ⟨rfl,rfl,rfl⟩

/- Where the reader stands in a stream: what it has not delivered is the start of a
header, a header with the start of its body, or a header it refused and the bytes after. -/

def Stopped (expected : UInt8) (rest : Bytes) : Phase → Prop
  | .header read => rest = read ∧ read.length < PACKET_HEADER_SIZE
  | .body packet read =>
    packet.buffer = header expected packet.length.toNat ∧ rest = packet.buffer ++ read ∧
      read.length < packet.length.toNat
  | .closed =>
    ∃ bad more, rest = bad ++ more ∧ bad.length = PACKET_HEADER_SIZE ∧ ¬ Accepted expected bad

def expected (c : Incoming) : UInt8 := UInt8.ofNat (delivered c).length + 1

def Tracks (c : Incoming) (stream : Bytes) : Prop :=
  (∀ body ∈ delivered c, Framable body) ∧
    ∃ rest, stream = frames 0 (delivered c) ++ rest ∧ Stopped (expected c) rest c.phase

-- The reader's own counter, which `Tracks` leaves out.
def Counted (c : Incoming) : Prop :=
  c.incomingPackets = [] ∧
    match c.phase with
    | .header _ => c.incomingSequence + 1 = expected c
    | .body _ _ => c.incomingSequence = expected c
    | .closed => True

theorem receiveClosed {c : Incoming} (phase : c.phase = .closed) (b : UInt8) : receive c b = c := by
  simp only [receive,phase]

theorem headerTracks {c : Incoming} {stream read} (phase : c.phase = .header read)
    (counted : Counted c) (tracks : Tracks c stream) (b : UInt8) :
    Counted (receive c b) ∧ Tracks (receive c b) (stream ++ [b]) := by
  obtain ⟨empty,next⟩ := counted
  obtain ⟨framable,rest,split,stopped⟩ := tracks
  simp only [phase] at next stopped
  obtain ⟨rfl,short⟩ := stopped
  by_cases whole : (rest ++ [b]).length = PACKET_HEADER_SIZE
  · have step : receive c b = onReadHeader c (rest ++ [b]) := by simp only [receive,phase,if_pos whole]
    by_cases good : Accepted (c.incomingSequence + 1) (rest ++ [b])
    · obtain ⟨length,positive,fits,bytes⟩ := good
      obtain ⟨packet,same,buffer,read⟩ := onReadHeaderAccepted (c := c) positive fits
      rw [step,bytes,read]
      refine ⟨⟨empty,next⟩,framable,rest ++ [b],by rw [split,List.append_assoc]; rfl,?_⟩
      exact ⟨by rw [buffer,same,next]; rfl,by rw [buffer,bytes,List.append_nil],by simpa [same] using positive⟩
    · rw [step,onReadHeaderRejected whole good]
      refine ⟨⟨empty,trivial⟩,framable,rest ++ [b],by rw [split,List.append_assoc]; rfl,?_⟩
      exact ⟨rest ++ [b],[],(List.append_nil _).symm,whole,by rw [next] at good; exact good⟩
  · have step : receive c b = { c with phase := .header (rest ++ [b]) } := by
      simp only [receive,phase,if_neg whole]
    rw [step]
    refine ⟨⟨empty,next⟩,framable,rest ++ [b],by rw [split,List.append_assoc]; rfl,rfl,?_⟩
    simp only [List.length_append,List.length_singleton] at whole ⊢
    omega

theorem bodyTracks {c : Incoming} {stream packet read} (phase : c.phase = .body packet read)
    (counted : Counted c) (tracks : Tracks c stream) (b : UInt8) :
    Counted (receive c b) ∧ Tracks (receive c b) (stream ++ [b]) := by
  obtain ⟨empty,current⟩ := counted
  obtain ⟨framable,rest,split,stopped⟩ := tracks
  simp only [phase] at current stopped
  obtain ⟨buffer,rfl,short⟩ := stopped
  by_cases whole : (read ++ [b]).length = packet.length.toNat
  · have step : receive c b = onReadBody c (read ++ [b]) packet := by
      have ready : (read ++ [b]).length = packet.getLength.toNat := whole
      simp only [receive,phase,if_pos ready]
    have heard : delivered (receive c b) = delivered c ++ [read ++ [b]] := by
      rw [step,onReadBodyIdle empty]
      simp [delivered,payloadOfFrame buffer]
    have body : Framable (read ++ [b]) := ⟨by simp,by rw [whole]; exact packet.length.toNat_lt⟩
    have kept : (receive c b).incomingSequence = c.incomingSequence := by
      rw [step,onReadBodyIdle empty]
    have counter : (receive c b).incomingSequence + 1 = expected (receive c b) := by
      rw [kept,current,expected,expected,heard]
      simp [UInt8.ofNat_add]
    refine ⟨⟨by rw [step,onReadBodyIdle empty]; exact empty,?_⟩,?_,[],?_,?_⟩
    · rw [step,onReadBodyIdle empty] at counter ⊢
      exact counter
    · intro other member
      rw [heard] at member
      rcases List.mem_append.mp member with old | new
      · exact framable other old
      · rw [List.mem_singleton.mp new]; exact body
    · rw [heard,framesAppend,split,List.append_nil]
      simp only [List.append_assoc,frames,frame,List.append_nil,buffer,whole,expected,UInt8.zero_add]
    · rw [step,onReadBodyIdle empty]
      exact ⟨rfl,by decide⟩
  · have step : receive c b = { c with phase := .body packet (read ++ [b]) } := by
      have more : (read ++ [b]).length ≠ packet.getLength.toNat := whole
      simp only [receive,phase,if_neg more]
    rw [step]
    refine ⟨⟨empty,current⟩,framable,packet.buffer ++ (read ++ [b]),?_,buffer,rfl,?_⟩
    · rw [split]; simp only [List.append_assoc]; rfl
    · simp only [List.length_append,List.length_singleton] at whole ⊢
      omega

theorem closedTracks {c : Incoming} {stream} (phase : c.phase = .closed)
    (counted : Counted c) (tracks : Tracks c stream) (b : UInt8) :
    Counted (receive c b) ∧ Tracks (receive c b) (stream ++ [b]) := by
  obtain ⟨framable,rest,split,stopped⟩ := tracks
  rw [receiveClosed phase]
  refine ⟨counted,framable,rest ++ [b],by rw [split,List.append_assoc],?_⟩
  simp only [phase] at stopped ⊢
  obtain ⟨bad,more,rfl,four,refused⟩ := stopped
  exact ⟨bad,more ++ [b],by rw [List.append_assoc],four,refused⟩

theorem receiveAllTracks (stream : Bytes) :
    Counted (receiveAll Incoming.initial stream) ∧ Tracks (receiveAll Incoming.initial stream) stream := by
  induction stream using List.reverseRecOn with
  | nil => exact ⟨⟨rfl,rfl⟩,by simp [delivered,Incoming.initial,receiveAll],[],rfl,rfl,by decide⟩
  | append_singleton stream b ih =>
    have last : receiveAll Incoming.initial (stream ++ [b]) =
        receive (receiveAll Incoming.initial stream) b := by
      rw [receiveAllAppend]; rfl
    rw [last]
    cases phase : (receiveAll Incoming.initial stream).phase with
    | header read => exact headerTracks phase ih.1 ih.2 b
    | body packet read => exact bodyTracks phase ih.1 ih.2 b
    | closed => exact closedTracks phase ih.1 ih.2 b

theorem onReadHeaderHandled (c : Incoming) (buffer) : (onReadHeader c buffer).handled = c.handled := by
  simp only [onReadHeader]
  split_ifs <;> rfl

theorem onReadBodyHandled (c : Incoming) (buffer packet) :
    c.handled <+: (onReadBody c buffer packet).handled := by
  simp only [onReadBody,processPacket]
  split_ifs
  · exact List.prefix_append _ _
  · exact List.prefix_rfl

theorem receiveKeeps (c : Incoming) (b : UInt8) : delivered c <+: delivered (receive c b) := by
  have handled : c.handled <+: (receive c b).handled := by
    unfold receive
    split
    · split_ifs <;> simp only [onReadHeaderHandled,List.prefix_rfl]
    · split_ifs <;> first | exact onReadBodyHandled _ _ _ | exact List.prefix_rfl
    · exact List.prefix_rfl
  exact handled.map payload

theorem receiveAllKeeps (c : Incoming) (stream : Bytes) :
    delivered c <+: delivered (receiveAll c stream) := by
  induction stream generalizing c with
  | nil => exact List.prefix_rfl
  | cons b rest ih => exact (receiveKeeps c b).trans (ih (receive c b))

/-! The sender: packets as handlers build them, and the frames that get enqueued. -/

structure OutgoingPacket where
  initial : Bytes
  nonempty : initial ≠ []
  calls : List Packet.Write

namespace OutgoingPacket

def packet (o : OutgoingPacket) : Packet := Packet.build o.initial o.calls
def body (o : OutgoingPacket) : Bytes := o.packet.buffer
def fits (o : OutgoingPacket) : Bool := o.body.length ≤ TCP_PACKET_MAX_SIZE - PACKET_HEADER_SIZE

theorem fitsIff (o : OutgoingPacket) : o.fits = true ↔ PACKET_HEADER_SIZE + o.body.length ≤ TCP_PACKET_MAX_SIZE := by
  unfold fits TCP_PACKET_MAX_SIZE PACKET_HEADER_SIZE
  rw [decide_eq_true_iff]
  omega

theorem bodyFramable {o : OutgoingPacket} (fits : o.fits = true) : Framable o.body := by
  have nonempty := Packet.buildNonempty o.nonempty o.calls
  have short := (fitsIff o).mp fits
  unfold TCP_PACKET_MAX_SIZE PACKET_HEADER_SIZE at short
  exact ⟨List.length_pos_of_ne_nil nonempty,by omega⟩

end OutgoingPacket

def writeAll (packets : List OutgoingPacket) : Outgoing :=
  packets.foldl (fun c o => writePacket c o.packet) Outgoing.initial

-- The header is inserted before the size is looked at, with a length that may have wrapped.
theorem writtenBytesLength (c : Outgoing) (o : OutgoingPacket) :
    (writtenBytes c o.packet).length = PACKET_HEADER_SIZE + o.body.length := by
  simp [writtenBytes,Packet.getBuffer,Packet.writeHeaderBuffer,Packet.setSequence,PACKET_HEADER_SIZE,
    OutgoingPacket.body]
  omega

theorem writtenBytesLong (c : Outgoing) (o : OutgoingPacket) :
    (writtenBytes c o.packet).length > TCP_PACKET_MAX_SIZE ↔ o.fits = false := by
  rw [writtenBytesLength,← Bool.not_eq_true,OutgoingPacket.fitsIff,Nat.not_le]

theorem writtenBytesFrame (c : Outgoing) {o : OutgoingPacket} (fits : o.fits = true) :
    writtenBytes c o.packet = frame (c.outgoingSequence + 1) o.body := by
  have framable := OutgoingPacket.bodyFramable fits
  have unframed := (Packet.buildAppends o.initial o.calls).unframed
  have counted : o.packet.length.toNat = o.body.length := by
    rw [OutgoingPacket.packet,unframed.counted]
    exact UInt16.toNat_ofNat_of_lt' framable.2
  have signed : o.packet.signature = TCP_PACKET_SIGNATURE := unframed.signed
  simp only [writtenBytes,Packet.getBuffer,Packet.writeHeaderBuffer,Packet.setSequence,counted,signed,
    frame,header,encodePair]
  rfl

theorem writePacketDropped (c : Outgoing) {o : OutgoingPacket} (long : o.fits = false) :
    writePacket c o.packet = c := by
  simp only [writePacket,if_pos ((writtenBytesLong c o).mpr long)]

theorem writePacketFrame (c : Outgoing) {o : OutgoingPacket} (fits : o.fits = true) :
    writePacket c o.packet =
      ⟨c.outgoingSequence + 1,c.outgoingPackets ++ [frame (c.outgoingSequence + 1) o.body]⟩ := by
  have within : ¬ (writtenBytes c o.packet).length > TCP_PACKET_MAX_SIZE := by
    rw [writtenBytesLong,fits]; decide
  rw [writtenBytesFrame c fits] at within
  simp only [writePacket,writtenBytesFrame c fits,if_neg within]

-- Whatever was accepted so far sits in the queue as consecutive frames from sequence 1.
theorem writeAllFrames (packets : List OutgoingPacket) :
    (writeAll packets).outgoingPackets.flatten =
        frames 0 ((packets.filter OutgoingPacket.fits).map OutgoingPacket.body) ∧
      (writeAll packets).outgoingSequence = UInt8.ofNat (packets.filter OutgoingPacket.fits).length := by
  induction packets using List.reverseRecOn with
  | nil => exact ⟨rfl,rfl⟩
  | append_singleton packets o ih =>
    have last : writeAll (packets ++ [o]) = writePacket (writeAll packets) o.packet := by
      simp [writeAll]
    obtain ⟨queued,counter⟩ := ih
    cases fits : o.fits with
    | false => simpa [last,writePacketDropped _ fits,fits] using ⟨queued,counter⟩
    | true =>
      rw [last,writePacketFrame _ fits]
      constructor
      · simp [queued,counter,fits,framesAppend,frames]
      · simp [counter,fits,UInt8.ofNat_add]

-- Losslessness of the sender into the reader, and of the reader on any stream: what it
-- delivered is framed exactly in front of where it stopped, and whatever is framed at the
-- front of a stream has been delivered.
theorem framingLossless :
    (∀ packets : List OutgoingPacket,
      let sent := writeAll packets
      let accepted := packets.filter OutgoingPacket.fits
      let reader := receiveAll Incoming.initial sent.outgoingPackets.flatten
      reader.phase = .header [] ∧ delivered reader = accepted.map OutgoingPacket.body ∧
        sent.outgoingSequence = UInt8.ofNat accepted.length ∧
        reader.incomingSequence = sent.outgoingSequence) ∧
    (∀ stream, Tracks (receiveAll Incoming.initial stream) stream) ∧
    (∀ bodies rest, (∀ body ∈ bodies, Framable body) →
      bodies <+: delivered (receiveAll Incoming.initial (frames 0 bodies ++ rest))) := by
  refine ⟨fun packets => ?_,fun stream => (receiveAllTracks stream).2,fun bodies rest framable => ?_⟩
  · obtain ⟨queued,counter⟩ := writeAllFrames packets
    have framable : ∀ body ∈ (packets.filter OutgoingPacket.fits).map OutgoingPacket.body, Framable body := by
      intro body member
      obtain ⟨o,chosen,rfl⟩ := List.mem_map.mp member
      exact OutgoingPacket.bodyFramable (List.mem_filter.mp chosen).2
    obtain ⟨⟨phase,_,read⟩,heard⟩ := receiveFrames initialIdle framable
    simp only [queued]
    have all : delivered (receiveAll Incoming.initial
        (frames 0 ((packets.filter OutgoingPacket.fits).map OutgoingPacket.body))) =
          (packets.filter OutgoingPacket.fits).map OutgoingPacket.body := heard
    refine ⟨phase,all,counter,?_⟩
    have count := congrArg List.length all
    simp only [delivered,List.length_map] at count
    rw [counter,← count]
    exact read
  · have first := (receiveFrames initialIdle framable).2
    rw [receiveAllAppend]
    have grown := receiveAllKeeps (receiveAll Incoming.initial (frames 0 bodies)) rest
    rwa [show delivered (receiveAll Incoming.initial (frames 0 bodies)) = bodies from first] at grown

theorem framingLosslessShort :
    [[7,8]] <+: delivered (receiveAll Incoming.initial (frames 0 [[7,8]] ++ [85])) :=
  framingLossless.2.2 [[7,8]] [85] (by decide)

end CsoMaster.TcpFraming
