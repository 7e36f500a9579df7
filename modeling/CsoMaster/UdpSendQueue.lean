import CsoMaster.Runs
import Mathlib.Data.List.Perm.Basic

/-! `UDPServer::sendPacket` and the drain loops `handleOutgoingClientPacket` and
`handleOutgoingServerPacket`, one locked block a step. The two loops differ in the queue
and the mutex alone, so one queue is modelled and the server holds two of them. A caller
that found its queue idle stays in `callers` until its loop returns: about to test the
queue, with the front in hand, or with the front given to `async_send_to` and not popped.
`pushed`, `handed` and `deleted` are logs, `poppedEmpty` records a `pop` on an empty queue. -/
namespace CsoMaster.UdpSendQueue
open Runs

inductive Caller (π : Type) where
  | testing
  | holding (packet : π)
  | sent
  deriving DecidableEq, Repr

structure OutgoingQueue (π : Type) where
  queue : List π
  callers : List (Caller π)
  inFlight : List π
  pushed : List π
  handed : List π
  deleted : List π
  poppedEmpty : Bool
  deriving DecidableEq, Repr

variable {π : Type}

def OutgoingQueue.initial : OutgoingQueue π := ⟨[],[],[],[],[],[],false⟩

inductive Block (π : Type) where
  | sendPacket (packet : π)
  | takeFront (caller : Nat)
  | asyncSendTo (caller : Nat)
  | pop (caller : Nat)
  | complete (send : Nat)

def block (q : OutgoingQueue π) : Block π → Option (OutgoingQueue π)
  | .sendPacket packet =>
    let queueIdle := q.queue.isEmpty
    some { q with
      queue := q.queue ++ [packet]
      pushed := q.pushed ++ [packet]
      callers := if queueIdle then q.callers ++ [.testing] else q.callers }
  | .takeFront caller =>
    match q.callers[caller]? with
    | some .testing =>
      match q.queue with
      | [] => some { q with callers := q.callers.eraseIdx caller }
      | packet :: _ => some { q with callers := q.callers.set caller (.holding packet) }
    | _ => none
  | .asyncSendTo caller =>
    match q.callers[caller]? with
    | some (.holding packet) =>
      some { q with
        callers := q.callers.set caller .sent
        inFlight := q.inFlight ++ [packet]
        handed := q.handed ++ [packet] }
    | _ => none
  | .pop caller =>
    match q.callers[caller]? with
    | some .sent =>
      some { q with
        callers := q.callers.set caller .testing
        queue := q.queue.tail
        poppedEmpty := q.poppedEmpty || q.queue.isEmpty }
    | _ => none
  | .complete send =>
    match q.inFlight[send]? with
    | some packet => some { q with inFlight := q.inFlight.eraseIdx send, deleted := q.deleted ++ [packet] }
    | none => none

structure UDPServer (π : Type) where
  clientOutgoing : OutgoingQueue π
  serverOutgoing : OutgoingQueue π
  deriving DecidableEq, Repr

def UDPServer.initial : UDPServer π := ⟨.initial,.initial⟩

structure Action (π : Type) where
  isServer : Bool
  block : Block π

def UDPServer.outgoing (s : UDPServer π) (isServer : Bool) : OutgoingQueue π :=
  if isServer then s.serverOutgoing else s.clientOutgoing

def step (s : UDPServer π) (a : Action π) : Option (UDPServer π) :=
  if a.isServer then (block s.serverOutgoing a.block).map fun q => { s with serverOutgoing := q }
  else (block s.clientOutgoing a.block).map fun q => { s with clientOutgoing := q }

def Steps (s : UDPServer π) (a : Action π) (t : UDPServer π) : Prop := step s a = some t

/-! What the queue is for, and when the code gives it. -/

structure Safe (q : OutgoingQueue π) : Prop where
  fifo : q.handed <+: q.pushed
  complete : q.callers = [] → q.handed = q.pushed
  deleted : (q.deleted ++ q.inFlight).Perm q.handed
  neverEmpty : q.poppedEmpty = false

def Good (s : UDPServer π) : Prop := ∀ isServer, Safe (s.outgoing isServer)

-- No packet is pushed onto an empty queue while another caller is still in its loop.
def Alone (q : OutgoingQueue π) : Block π → Prop
  | .sendPacket _ => q.queue = [] → q.callers = []
  | _ => True

def Permitted (s : UDPServer π) (a : Action π) : Prop := Alone (s.outgoing a.isServer) a.block

-- One caller at most, and where it stands in its loop.
def Draining (q : OutgoingQueue π) : Prop :=
  match q.callers with
  | [] => q.queue = [] ∧ q.handed = q.pushed
  | [.testing] => q.handed ++ q.queue = q.pushed
  | [.holding packet] => q.queue.head? = some packet ∧ q.handed ++ q.queue = q.pushed
  | [.sent] => q.queue ≠ [] ∧ q.handed ++ q.queue.tail = q.pushed
  | _ => False

structure Invariant (q : OutgoingQueue π) : Prop where
  draining : Draining q
  deleted : (q.deleted ++ q.inFlight).Perm q.handed
  neverEmpty : q.poppedEmpty = false

theorem initialInvariant : Invariant (OutgoingQueue.initial : OutgoingQueue π) :=
  ⟨⟨rfl,rfl⟩,List.Perm.nil,rfl⟩

theorem drainingCases {q : OutgoingQueue π} (draining : Draining q) :
    (q.callers = [] ∧ q.queue = [] ∧ q.handed = q.pushed) ∨
      (q.callers = [.testing] ∧ q.handed ++ q.queue = q.pushed) ∨
      (∃ packet, q.callers = [.holding packet] ∧ q.queue.head? = some packet ∧ q.handed ++ q.queue = q.pushed) ∨
      (q.callers = [.sent] ∧ q.queue ≠ [] ∧ q.handed ++ q.queue.tail = q.pushed) := by
  unfold Draining at draining
  split at draining
  · exact .inl ⟨by assumption,draining⟩
  · exact .inr (.inl ⟨by assumption,draining⟩)
  · exact .inr (.inr (.inl ⟨_,by assumption,draining⟩))
  · exact .inr (.inr (.inr ⟨by assumption,draining⟩))
  · exact draining.elim

theorem invariantSafe {q : OutgoingQueue π} (inv : Invariant q) : Safe q := by
  refine ⟨?_,fun none => ?_,inv.deleted,inv.neverEmpty⟩
  · rcases drainingCases inv.draining with ⟨-,-,same⟩ | ⟨-,rest⟩ | ⟨_,-,-,rest⟩ | ⟨-,-,rest⟩
    · exact ⟨[],by rw [List.append_nil,same]⟩
    all_goals exact ⟨_,rest⟩
  · rcases drainingCases inv.draining with ⟨-,-,same⟩ | ⟨some,-⟩ | ⟨_,some,-⟩ | ⟨some,-⟩
    · exact same
    all_goals rw [none] at some; cases some

theorem soleCaller {q : OutgoingQueue π} {caller : Nat} {only at' : Caller π} (callers : q.callers = [only])
    (here : q.callers[caller]? = some at') : caller = 0 ∧ only = at' := by
  rw [callers] at here
  cases caller with
  | zero => exact ⟨rfl,by simpa using here⟩
  | succ n => simp at here

theorem sendPacketKeeps {q : OutgoingQueue π} (inv : Invariant q) {packet : π}
    (alone : Alone q (.sendPacket packet)) :
    Invariant { q with
      queue := q.queue ++ [packet]
      pushed := q.pushed ++ [packet]
      callers := if q.queue.isEmpty then q.callers ++ [.testing] else q.callers } := by
  refine ⟨?_,inv.deleted,inv.neverEmpty⟩
  by_cases empty : q.queue = []
  · have none := alone empty
    rcases drainingCases inv.draining with ⟨-,-,same⟩ | ⟨some,-⟩ | ⟨_,some,-⟩ | ⟨some,-⟩
    · simp [Draining,empty,none,same]
    all_goals rw [none] at some; cases some
  · rcases drainingCases inv.draining with ⟨-,idle,-⟩ | ⟨some,rest⟩ | ⟨p,some,front,rest⟩ | ⟨some,-,rest⟩
    · exact absurd idle empty
    · simp [Draining,empty,some,← rest]
    · simp [Draining,empty,some,← rest,front]
    · simp [Draining,empty,some,← rest,List.tail_append_of_ne_nil empty]

theorem takeFrontKeeps {q t : OutgoingQueue π} (inv : Invariant q) {caller : Nat}
    (next : block q (.takeFront caller) = some t) : Invariant t := by
  simp only [block] at next
  split at next
  · rename_i here
    rcases drainingCases inv.draining with ⟨none,-⟩ | ⟨some,rest⟩ | ⟨p,some,-⟩ | ⟨some,-⟩
    · simp [none] at here
    · obtain ⟨rfl,-⟩ := soleCaller some here
      cases queue : q.queue with
      | nil =>
        simp only [queue,Option.some.injEq] at next
        rw [← next]
        refine ⟨?_,inv.deleted,inv.neverEmpty⟩
        simpa [Draining,some,queue] using rest
      | cons packet more =>
        simp only [queue,Option.some.injEq] at next
        rw [← next]
        refine ⟨?_,inv.deleted,inv.neverEmpty⟩
        simpa [Draining,some,queue] using rest
    · cases (soleCaller some here).2
    · cases (soleCaller some here).2
  · cases next

theorem asyncSendToKeeps {q t : OutgoingQueue π} (inv : Invariant q) {caller : Nat}
    (next : block q (.asyncSendTo caller) = some t) : Invariant t := by
  simp only [block] at next
  split at next
  · rename_i packet here
    rw [← Option.some.inj next]
    rcases drainingCases inv.draining with ⟨none,-⟩ | ⟨some,-⟩ | ⟨p,some,front,rest⟩ | ⟨some,-⟩
    · simp [none] at here
    · cases (soleCaller some here).2
    · obtain ⟨rfl,same⟩ := soleCaller some here
      cases same
      obtain ⟨more,queue⟩ := List.head?_eq_some_iff.mp front
      refine ⟨?_,?_,inv.neverEmpty⟩
      · simpa [Draining,some,queue] using rest
      · rw [← List.append_assoc]
        exact inv.deleted.append_right [packet]
    · cases (soleCaller some here).2
  · cases next

theorem popKeeps {q t : OutgoingQueue π} (inv : Invariant q) {caller : Nat}
    (next : block q (.pop caller) = some t) : Invariant t := by
  simp only [block] at next
  split at next
  · rename_i here
    rw [← Option.some.inj next]
    rcases drainingCases inv.draining with ⟨none,-⟩ | ⟨some,-⟩ | ⟨p,some,-⟩ | ⟨some,nonempty,rest⟩
    · simp [none] at here
    · cases (soleCaller some here).2
    · cases (soleCaller some here).2
    · obtain ⟨rfl,-⟩ := soleCaller some here
      refine ⟨?_,inv.deleted,?_⟩
      · simpa [Draining,some] using rest
      · simp [inv.neverEmpty,nonempty]
  · cases next

theorem completeKeeps {q t : OutgoingQueue π} (inv : Invariant q) {send : Nat}
    (next : block q (.complete send) = some t) : Invariant t := by
  simp only [block] at next
  split at next
  · rename_i packet here
    rw [← Option.some.inj next]
    refine ⟨inv.draining,?_,inv.neverEmpty⟩
    obtain ⟨held,same⟩ := List.getElem?_eq_some_iff.mp here
    have taken := List.getElem_cons_eraseIdx_perm held
    rw [same] at taken
    have moved : (q.deleted ++ [packet] ++ q.inFlight.eraseIdx send).Perm (q.deleted ++ q.inFlight) := by
      rw [List.append_assoc]
      exact taken.append_left q.deleted
    exact moved.trans inv.deleted
  · cases next

theorem blockKeeps {q t : OutgoingQueue π} {b : Block π} (inv : Invariant q) (alone : Alone q b)
    (next : block q b = some t) : Invariant t := by
  cases b with
  | sendPacket packet => rw [← Option.some.inj next]; exact sendPacketKeeps inv alone
  | takeFront caller => exact takeFrontKeeps inv next
  | asyncSendTo caller => exact asyncSendToKeeps inv next
  | pop caller => exact popKeeps inv next
  | complete send => exact completeKeeps inv next

/-! Runs of the server, and what a push into a caller's last test can lead to. -/

def ServerInvariant (s : UDPServer π) : Prop := ∀ isServer, Invariant (s.outgoing isServer)

theorem serverInitial : ServerInvariant (UDPServer.initial : UDPServer π) := by
  intro isServer
  cases isServer <;> exact initialInvariant

theorem stepOutgoing {s t : UDPServer π} {a : Action π} (next : step s a = some t) :
    block (s.outgoing a.isServer) a.block = some (t.outgoing a.isServer) ∧
      ∀ other, other ≠ a.isServer → t.outgoing other = s.outgoing other := by
  obtain ⟨isServer,b⟩ := a
  cases isServer with
  | true =>
    simp only [step,if_true,Option.map_eq_some_iff] at next
    obtain ⟨q,taken,rfl⟩ := next
    exact ⟨taken,fun other differs => by cases other <;> simp [UDPServer.outgoing] at differs ⊢⟩
  | false =>
    simp only [step,Bool.false_eq_true,if_false,Option.map_eq_some_iff] at next
    obtain ⟨q,taken,rfl⟩ := next
    exact ⟨taken,fun other differs => by cases other <;> simp [UDPServer.outgoing] at differs ⊢⟩

theorem stepKeeps {s t : UDPServer π} {a : Action π} (inv : ServerInvariant s) (permitted : Permitted s a)
    (next : step s a = some t) : ServerInvariant t := by
  obtain ⟨own,others⟩ := stepOutgoing next
  intro isServer
  by_cases same : isServer = a.isServer
  · rw [same]; exact blockKeeps (inv a.isServer) permitted own
  · rw [others isServer same]; exact inv isServer

def PermittedSteps (s : UDPServer π) (a : Action π) (t : UDPServer π) : Prop := Permitted s a ∧ step s a = some t

theorem traceKeeps {s t : UDPServer π} {as} (inv : ServerInvariant s) (trace : Trace PermittedSteps s as t) :
    ServerInvariant t := by
  have keeps : ∀ (s : UDPServer π) a t, ServerInvariant s → PermittedSteps s a t → ServerInvariant t :=
    fun _ _ _ inv taken => stepKeeps inv taken.1 taken.2
  exact traceInvariant keeps trace inv

theorem traceOutgoing (isServer : Bool) {s : UDPServer π} {q t : OutgoingQueue π} {bs : List (Block π)}
    (trace : Trace (fun q b t => block q b = some t) q bs t) (at' : s.outgoing isServer = q) :
    ∃ u, Trace Steps s (bs.map (fun b => ⟨isServer,b⟩)) u ∧ u.outgoing isServer = t := by
  induction trace generalizing s with
  | nil q => exact ⟨s,.nil s,at'⟩
  | @cons q b m bs t first rest ih =>
    cases isServer with
    | true =>
      obtain ⟨u,more,last⟩ := ih (s := { s with serverOutgoing := m }) rfl
      simp only [UDPServer.outgoing,if_true] at at'
      exact ⟨u,.cons (by simp [Steps,step,at',first]) more,last⟩
    | false =>
      obtain ⟨u,more,last⟩ := ih (s := { s with clientOutgoing := m }) rfl
      simp only [UDPServer.outgoing,Bool.false_eq_true,if_false] at at'
      exact ⟨u,.cons (by simp [Steps,step,at',first]) more,last⟩

-- With the first caller back at its test and the queue empty, a push can have its packet
-- sent by both callers and popped twice.
theorem overlap {q : OutgoingQueue π} (inv : Invariant q) {packet : π} (slip : ¬ Alone q (.sendPacket packet)) :
    ∃ t, Trace (fun q b t => block q b = some t) q
        [.sendPacket packet,.takeFront 0,.takeFront 1,.asyncSendTo 0,.asyncSendTo 1,.pop 0,.pop 1] t ∧
      t.handed = q.pushed ++ [packet,packet] ∧ t.pushed = q.pushed ++ [packet] ∧ t.poppedEmpty = true := by
  simp only [Alone,Classical.not_imp] at slip
  obtain ⟨empty,some⟩ := slip
  rcases drainingCases inv.draining with ⟨none,-⟩ | ⟨here,rest⟩ | ⟨p,-,front,-⟩ | ⟨-,nonempty,-⟩
  · exact absurd none some
  · cases q
    simp only at empty here rest
    subst empty here
    refine ⟨_,.cons rfl (.cons rfl (.cons rfl (.cons rfl (.cons rfl (.cons rfl (.cons rfl (.nil _))))))),?_,?_,?_⟩
    · simp [← rest]
    · rfl
    · simp
  · simp [empty] at front
  · exact absurd empty nonempty

theorem overlapUnsafe {q : OutgoingQueue π} {pushed packet} (handed : q.handed = pushed ++ [packet,packet])
    (all : q.pushed = pushed ++ [packet]) : ¬ Safe q := by
  intro safe
  have short := safe.fifo.length_le
  simp [handed,all] at short

-- Every run whose pushes meet the condition is safe throughout, and the first push that
-- misses it can be followed by a double send.
theorem sendQueuesSafe {as : List (Action π)} {s : UDPServer π}
    (trace : Trace PermittedSteps UDPServer.initial as s) :
    Good s ∧ ∀ isServer packet, ¬ Alone (s.outgoing isServer) (.sendPacket packet) →
      ∃ bs t, Trace Steps s (⟨isServer,.sendPacket packet⟩ :: bs) t ∧ ¬ Good t := by
  have inv := traceKeeps serverInitial trace
  refine ⟨fun isServer => invariantSafe (inv isServer),fun isServer packet slip => ?_⟩
  obtain ⟨t,blocks,handed,pushed,-⟩ := overlap (inv isServer) slip
  obtain ⟨u,more,last⟩ := traceOutgoing isServer blocks rfl
  refine ⟨_,u,more,fun good => ?_⟩
  have safe := good isServer
  rw [last] at safe
  exact overlapUnsafe handed pushed safe

theorem sendQueuesSafeTwo : ∃ s : UDPServer Nat,
    Trace PermittedSteps UDPServer.initial
      [⟨true,.sendPacket 1⟩,⟨true,.sendPacket 2⟩,⟨true,.takeFront 0⟩,⟨true,.asyncSendTo 0⟩,⟨true,.pop 0⟩] s ∧
    Good s := by
  have trace : Trace PermittedSteps (UDPServer.initial : UDPServer Nat)
      [⟨true,.sendPacket 1⟩,⟨true,.sendPacket 2⟩,⟨true,.takeFront 0⟩,⟨true,.asyncSendTo 0⟩,⟨true,.pop 0⟩] _ :=
    .cons ⟨fun _ => rfl,rfl⟩ (.cons ⟨fun empty => (by cases empty),rfl⟩
      (.cons ⟨trivial,rfl⟩ (.cons ⟨trivial,rfl⟩ (.cons ⟨trivial,rfl⟩ (.nil _)))))
  exact ⟨_,trace,(sendQueuesSafe trace).1⟩

-- Two callers on the server queue: the second pushes while the first is between its pop
-- and its test.
theorem overlappingDrains : ¬ ∀ as (s : UDPServer Nat), Trace Steps UDPServer.initial as s → Good s := by
  intro always
  have trace : Trace Steps (UDPServer.initial : UDPServer Nat)
      [⟨true,.sendPacket 1⟩,⟨true,.takeFront 0⟩,⟨true,.asyncSendTo 0⟩,⟨true,.pop 0⟩,⟨true,.sendPacket 2⟩,
        ⟨true,.takeFront 0⟩,⟨true,.takeFront 1⟩,⟨true,.asyncSendTo 0⟩,⟨true,.asyncSendTo 1⟩,
        ⟨true,.pop 0⟩,⟨true,.pop 1⟩] _ :=
    .cons rfl (.cons rfl (.cons rfl (.cons rfl (.cons rfl (.cons rfl (.cons rfl (.cons rfl (.cons rfl
      (.cons rfl (.cons rfl (.nil _)))))))))))
  have safe := always _ _ trace true
  exact absurd safe.neverEmpty (by decide)

end CsoMaster.UdpSendQueue
