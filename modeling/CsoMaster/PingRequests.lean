import CsoMaster.ListingSteps
import CsoMaster.RoomRepresentation
import CsoMaster.UdpServer

/-! The list of ping requests beside a ledger of the requests that are still to be answered, with
the second each was handled in. The list has the ledger's requests in the ledger's order, and no
second strikes any from it: it is what the ledger calls for only while every answer comes in time. -/
namespace CsoMaster
open Runs
open State (datagram Action Event)

abbrev Route := Endpoint × Endpoint

def PingRequest.route (p : PingRequest) : Route := (p.requestEndpoint,p.replyEndpoint)

namespace UDPServer

-- The ping a datagram brings, with its endpoint and the host of its room.
def pings (x : UDPServer) : Action → Option (Endpoint × PingPacketType × UserRef)
  | .clientDatagram ipAddress port buffer =>
    let signature := (datagram buffer).readUInt8
    if signature.1 = UDP_PING_PACKET_SIGNATURE then (x.server.pinged signature.2).map (⟨ipAddress,port⟩,·) else none
  | _ => none

def handles (x : UDPServer) (action : Action) : Option PingRequest :=
  match x.pings action with
  | some (endpoint,.Request,host) => some (x.request endpoint host)
  | _ => none

def forwards (x : UDPServer) (action : Action) : Option PingRequest :=
  match x.pings action with
  | some (endpoint,.Reply,_) => x.requested endpoint
  | _ => none

section Step
variable (x : UDPServer)

theorem pingRequestsStay {action : Action} (none : x.pings action = none) (tickless : ∀ now, action ≠ .secondTick now) :
    (x.act action).pingRequests = x.pingRequests := by
  cases action with
  | clientDatagram ipAddress port buffer =>
    dsimp only [act,handleIncomingClientPacket]
    split
    · dsimp only [receiveClient]
      repeat' split
      all_goals rfl
    · split
      · dsimp only [receiveRelay,sendRelayPacket]
        repeat' split
        all_goals rfl
      · split
        · rename_i signature
          dsimp only [pings] at none
          rw [if_pos signature,Option.map_eq_none_iff] at none
          rw [receivePing,none]
        · rfl
  | secondTick now => exact absurd rfl (tickless now)
  | _ => rfl

theorem pingAct {action : Action} {endpoint : Endpoint} {type : PingPacketType} {host : UserRef}
    (pinged : x.pings action = some (endpoint,type,host)) :
    ∃ p, x.server.pinged p = some (type,host) ∧ x.act action = x.receivePing endpoint p := by
  cases action with
  | clientDatagram ipAddress port buffer =>
    dsimp only [pings] at pinged
    split at pinged
    · rename_i signature
      obtain ⟨found,known,same⟩ := Option.map_eq_some_iff.mp pinged
      cases same
      refine ⟨_,known,?_⟩
      dsimp only [act,handleIncomingClientPacket]
      rw [signature,if_neg (by decide),if_neg (by decide),if_pos rfl]
    · cases pinged
  | _ => cases pinged

theorem pingRequestsAdded {action : Action} {endpoint : Endpoint} {host : UserRef}
    (pinged : x.pings action = some (endpoint,.Request,host)) :
    (x.act action).pingRequests = x.pingRequests ++ [x.request endpoint host] := by
  obtain ⟨p,known,ping⟩ := x.pingAct pinged
  rw [ping,receivePing,known]
  rfl

theorem pingRequestsStruck {action : Action} {endpoint : Endpoint} {host : UserRef}
    (pinged : x.pings action = some (endpoint,.Reply,host)) :
    (x.act action).pingRequests = x.pingRequests.eraseP (·.replyEndpoint = endpoint) := by
  obtain ⟨p,known,ping⟩ := x.pingAct pinged
  rw [ping,receivePing,known]
  dsimp only
  cases asked : x.requested endpoint with
  | none => exact (List.eraseP_of_forall_not (List.find?_eq_none.mp asked)).symm
  | some pingRequest => rfl

end Step
end UDPServer

-- A Request that has been handled and not been answered.
structure Outstanding where
  requestEndpoint : Endpoint
  replyEndpoint : Endpoint
  time : Nat
  deriving DecidableEq, Repr

def Outstanding.route (o : Outstanding) : Route := (o.requestEndpoint,o.replyEndpoint)

-- The server with its ledger; the clock is the second it last heard of.
structure Pinging where
  udp : UDPServer
  clock : Nat
  outstanding : List Outstanding

namespace Pinging

def entered (w : Pinging) (e : Event) : UDPServer := { w.udp with server := w.udp.server.enter e.environment }

def handles (w : Pinging) (e : Event) : Option PingRequest := (w.entered e).handles e.action

def forwards (w : Pinging) (e : Event) : Option PingRequest := (w.entered e).forwards e.action

def step (w : Pinging) (e : Event) : Pinging where
  udp := w.udp.step e
  clock :=
    match e.action with
    | .secondTick now => now
    | _ => w.clock
  outstanding :=
    match w.handles e with
    | some p => w.outstanding ++ [⟨p.requestEndpoint,p.replyEndpoint,w.clock⟩]
    | none =>
      match w.forwards e with
      | some p => w.outstanding.eraseP (·.route = p.route)
      | none => w.outstanding

def start (server : State) : Pinging := ⟨.start server,server.currentTime,[]⟩

-- At a second: what is listed was handled at most 3 seconds ago, what is younger is listed.
structure Expires (w : Pinging) : Prop where
  handled : List.Sublist (w.udp.pingRequests.map PingRequest.route)
    ((w.outstanding.filter fun o => w.clock ≤ o.time + 3).map Outstanding.route)
  kept : List.Sublist ((w.outstanding.filter fun o => w.clock < o.time + 3).map Outstanding.route)
    (w.udp.pingRequests.map PingRequest.route)

structure ExpiresIn (w : Pinging) (e : Event) : Prop where
  tick : ∀ now, e.action = .secondTick now → (w.step e).Expires
  reply : ∀ p ∈ w.forwards e, ∃ o ∈ w.outstanding, o.route = p.route ∧ w.clock ≤ o.time + 3

-- When a second comes no Request has waited for more than 3, and none at all in the first three
-- seconds of the clock.
def Timely (w : Pinging) (e : Event) : Prop :=
  match e.action with
  | .secondTick now => (∀ o ∈ w.outstanding, now ≤ o.time + 3) ∧ (now < 3 → w.outstanding = [])
  | _ => True

structure Tracks (w : Pinging) : Prop where
  same : w.udp.pingRequests.map PingRequest.route = w.outstanding.map Outstanding.route
  undated : ∀ p ∈ w.udp.pingRequests, p.timestamp = 0
  recent : ∀ o ∈ w.outstanding, w.clock ≤ o.time + 3

section Tracks
variable {w : Pinging} {e : Event}

theorem steppedTick {now : Nat} (tick : e.action = .secondTick now) : (w.step e).clock = now ∧
    (w.step e).outstanding = w.outstanding ∧
      (w.step e).udp.pingRequests = w.udp.pingRequests.filter fun p => !UDPServer.expired p now := by
  have clock : ((w.udp.server.enter e.environment).onSecondTick now).currentTime = now := by
    have ticked := congrArg Listing.currentTime ((w.udp.server.enter e.environment).secondTickListing now)
    exact ticked
  refine ⟨by simp only [step,tick],by simp only [step,handles,forwards,UDPServer.handles,UDPServer.forwards,UDPServer.pings,tick],?_⟩
  change ((w.entered e).act e.action).pingRequests = _
  rw [tick]
  exact congrArg (fun time => w.udp.pingRequests.filter fun p => !UDPServer.expired p time) clock

-- Between seconds a Request is added, or the first to its endpoint is answered, or nothing is done.
theorem steppedPing (w : Pinging) {e : Event} (tickless : ∀ now, e.action ≠ .secondTick now) :
    (w.step e).clock = w.clock ∧
      ((∃ p, p.timestamp = 0 ∧ (w.step e).udp.pingRequests = w.udp.pingRequests ++ [p] ∧
          (w.step e).outstanding = w.outstanding ++ [⟨p.requestEndpoint,p.replyEndpoint,w.clock⟩]) ∨
        (∃ p endpoint, w.forwards e = some p ∧ w.udp.pingRequests.find? (·.replyEndpoint = endpoint) = some p ∧
          (w.step e).udp.pingRequests = w.udp.pingRequests.eraseP (·.replyEndpoint = endpoint) ∧
          (w.step e).outstanding = w.outstanding.eraseP (·.route = p.route)) ∨
        (w.step e).udp.pingRequests = w.udp.pingRequests ∧ (w.step e).outstanding = w.outstanding) := by
  have clock : (w.step e).clock = w.clock := by
    dsimp only [step]
    split
    · rename_i now tick
      exact absurd tick (tickless now)
    · rfl
  refine ⟨clock,?_⟩
  cases pinged : (w.entered e).pings e.action with
  | none =>
    have stay := (w.entered e).pingRequestsStay pinged tickless
    exact .inr (.inr ⟨stay,by simp only [step,handles,forwards,UDPServer.handles,UDPServer.forwards,pinged]⟩)
  | some ping =>
    obtain ⟨endpoint,type,host⟩ := ping
    cases type with
    | Request =>
      have added := (w.entered e).pingRequestsAdded pinged
      exact .inl ⟨(w.entered e).request endpoint host,rfl,added,by simp only [step,handles,UDPServer.handles,pinged]⟩
    | Reply =>
      have struck := (w.entered e).pingRequestsStruck pinged
      have answers : w.forwards e = w.udp.pingRequests.find? (·.replyEndpoint = endpoint) := by
        simp only [forwards,UDPServer.forwards,pinged]
        rfl
      have unhandled : w.handles e = none := by simp only [handles,UDPServer.handles,pinged]
      cases found : w.udp.pingRequests.find? (·.replyEndpoint = endpoint) with
      | none =>
        refine .inr (.inr ⟨struck.trans (List.eraseP_of_forall_not (List.find?_eq_none.mp found)),?_⟩)
        simp only [step,unhandled,answers,found]
      | some p =>
        exact .inr (.inl ⟨p,endpoint,answers.trans found,found,struck,by simp only [step,unhandled,answers,found]⟩)

-- The entry that is struck is the one of the Request that is answered.
theorem answeredTracks {p : PingRequest} {endpoint : Endpoint} (tracks : w.Tracks)
    (found : w.udp.pingRequests.find? (·.replyEndpoint = endpoint) = some p) :
    (w.udp.pingRequests.eraseP (·.replyEndpoint = endpoint)).map PingRequest.route =
      (w.outstanding.eraseP (·.route = p.route)).map Outstanding.route := by
  have routed : (w.udp.pingRequests.map PingRequest.route).find? (·.2 = endpoint) = some p.route := by
    rw [List.find?_map]
    exact congrArg (Option.map PingRequest.route) found
  have listed : (w.udp.pingRequests.map PingRequest.route).eraseP (·.2 = endpoint) =
      (w.udp.pingRequests.eraseP (·.replyEndpoint = endpoint)).map PingRequest.route := by
    rw [List.eraseP_map]
    rfl
  have owed : (w.outstanding.map Outstanding.route).eraseP (· = p.route) =
      (w.outstanding.eraseP (·.route = p.route)).map Outstanding.route := by
    rw [List.eraseP_map]
    rfl
  rw [← listed,← owed,← tracks.same,State.foundErased routed,List.erase_eq_eraseP]
  refine congrArg (fun chosen => List.eraseP chosen _) (funext fun route => Bool.eq_iff_iff.mpr ?_)
  rw [beq_iff_eq,decide_eq_true_iff]
  exact eq_comm

theorem stepTracks (w : Pinging) (e : Event) (tracks : w.Tracks) (timely : w.Timely e) : (w.step e).Tracks := by
  by_cases tick : ∃ now, e.action = .secondTick now
  · obtain ⟨now,tick⟩ := tick
    obtain ⟨clock,owed,listed⟩ := steppedTick tick
    simp only [Timely,tick] at timely
    refine ⟨?_,fun p mem => ?_,fun o mem => ?_⟩
    · rw [owed,listed]
      by_cases early : now < 3
      · have none := timely.2 early
        have empty : w.udp.pingRequests = [] := List.map_eq_nil_iff.mp (by rw [tracks.same,none]; rfl)
        rw [none,empty]
        rfl
      · rw [← tracks.same,List.filter_eq_self.mpr]
        intro p mem
        simp [UDPServer.expired,tracks.undated p mem]
        omega
    · rw [listed] at mem
      exact tracks.undated p (List.mem_of_mem_filter mem)
    · rw [owed] at mem
      rw [clock]
      exact timely.1 o mem
  · obtain ⟨clock,cases⟩ := w.steppedPing fun now same => tick ⟨now,same⟩
    rcases cases with ⟨p,dateless,listed,owed⟩ | ⟨p,endpoint,-,found,listed,owed⟩ | ⟨listed,owed⟩
    · refine ⟨?_,fun q mem => ?_,fun o mem => ?_⟩
      · rw [listed,owed,List.map_append,List.map_append,tracks.same]
        rfl
      · rw [listed] at mem
        rcases List.mem_append.mp mem with before | new
        · exact tracks.undated q before
        · rw [List.mem_singleton.mp new]
          exact dateless
      · rw [owed] at mem
        rw [clock]
        rcases List.mem_append.mp mem with before | new
        · exact tracks.recent o before
        · rw [List.mem_singleton.mp new]
          exact Nat.le_add_right _ _
    · refine ⟨?_,fun q mem => ?_,fun o mem => ?_⟩
      · rw [listed,owed]
        exact answeredTracks tracks found
      · rw [listed] at mem
        exact tracks.undated q (List.mem_of_mem_eraseP mem)
      · rw [owed] at mem
        rw [clock]
        exact tracks.recent o (List.mem_of_mem_eraseP mem)
    · exact ⟨by rw [listed,owed,tracks.same],by rw [listed]; exact tracks.undated,by rw [owed,clock]; exact tracks.recent⟩

theorem forwardsListed {p : PingRequest} (forwarded : w.forwards e = some p) : p ∈ w.udp.pingRequests := by
  unfold forwards UDPServer.forwards at forwarded
  split at forwarded
  · exact List.mem_of_find?_eq_some forwarded
  · cases forwarded

-- From the third second of the clock on, a second strikes nothing.
theorem tickKeeps (tracks : w.Tracks) {now : Nat} (late : ¬ now < 3) :
    (w.udp.pingRequests.filter fun p => !UDPServer.expired p now) = w.udp.pingRequests := by
  refine List.filter_eq_self.mpr fun p mem => ?_
  simp [UDPServer.expired,tracks.undated p mem]
  omega

theorem tickStrikes (tracks : w.Tracks) {now : Nat} (early : now < 3) :
    (w.udp.pingRequests.filter fun p => !UDPServer.expired p now) = [] := by
  refine List.filter_eq_nil_iff.mpr fun p mem => ?_
  simp [UDPServer.expired,tracks.undated p mem]
  omega

theorem expiresTick (tracks : w.Tracks) {now : Nat} (tick : e.action = .secondTick now) :
    (w.step e).Expires ↔ (∀ o ∈ w.outstanding, now ≤ o.time + 3) ∧ (now < 3 → w.outstanding = []) := by
  obtain ⟨clock,owed,listed⟩ := steppedTick tick
  by_cases early : now < 3
  · have young : (w.outstanding.filter fun o => now < o.time + 3) = w.outstanding :=
      List.filter_eq_self.mpr fun o _ => decide_eq_true (by omega)
    rw [tickStrikes tracks early] at listed
    constructor
    · intro expires
      have kept := expires.kept
      rw [clock,owed,listed,young] at kept
      have none : w.outstanding = [] := List.map_eq_nil_iff.mp (List.sublist_nil.mp kept)
      exact ⟨fun o _ => by omega,fun _ => none⟩
    · intro ⟨_,absent⟩
      refine ⟨by rw [listed]; exact List.nil_sublist _,?_⟩
      rw [owed,absent early]
      exact List.nil_sublist _
  · rw [tickKeeps tracks early] at listed
    constructor
    · intro expires
      have handled := expires.handled.length_le
      rw [clock,owed,listed,tracks.same,List.length_map,List.length_map] at handled
      have whole := List.length_filter_eq_length_iff.mp (Nat.le_antisymm (List.length_filter_le _ _) handled)
      exact ⟨fun o mem => of_decide_eq_true (whole o mem),fun absent => absurd absent early⟩
    · intro ⟨recent,_⟩
      have whole : (w.outstanding.filter fun o => now ≤ o.time + 3) = w.outstanding :=
        List.filter_eq_self.mpr fun o mem => decide_eq_true (recent o mem)
      refine ⟨?_,?_⟩
      · rw [clock,owed,listed,whole,tracks.same]
      · rw [owed,listed,tracks.same]
        exact (List.filter_sublist).map _

theorem expiresIff (w : Pinging) (e : Event) (tracks : w.Tracks) : w.ExpiresIn e ↔ w.Timely e := by
  by_cases tick : ∃ now, e.action = .secondTick now
  · obtain ⟨now,tick⟩ := tick
    have silent : w.forwards e = none := by simp only [forwards,UDPServer.forwards,UDPServer.pings,tick]
    simp only [Timely,tick]
    rw [← expiresTick tracks tick]
    constructor
    · exact fun expires => expires.tick now tick
    · refine fun expires => ⟨fun _ _ => expires,fun p forwarded => ?_⟩
      rw [silent] at forwarded
      cases forwarded
  · have tickless (now : Nat) : e.action ≠ .secondTick now := fun same => tick ⟨now,same⟩
    have timely : w.Timely e := by
      unfold Timely
      split
      · rename_i now same
        exact absurd same (tickless now)
      · trivial
    refine iff_of_true ⟨fun now same => absurd same (tickless now),fun p forwarded => ?_⟩ timely
    have listed : p.route ∈ w.outstanding.map Outstanding.route := by
      rw [← tracks.same]
      exact List.mem_map_of_mem (forwardsListed forwarded)
    obtain ⟨o,mem,same⟩ := List.mem_map.mp listed
    exact ⟨o,mem,same,tracks.recent o mem⟩

-- The list is right throughout exactly in the runs in which it would never have to strike anything.
theorem pingExpiry (server : State) (events : List Event) :
    Each step ExpiresIn (start server) events ↔ Each step Timely (start server) events := by
  refine eachIffEach stepTracks expiresIff ⟨rfl,fun p mem => ?_,fun o mem => ?_⟩
  · cases mem
  · cases mem

-- A Request nobody answers is still there after 4 seconds.
theorem unansweredRequestStays : ¬ ∀ server events, Each step ExpiresIn (start server) events := by
  intro expires
  obtain ⟨-,⟨tick,-⟩,-⟩ := expires (run State.step State.sampleStart State.twoPlaying)
    [UDPServer.receives 6000 [96,0,1,0,0],⟨.secondTick 4,State.sampleEnvironment⟩]
  have listed := (tick 4 rfl).handled.length_le
  exact absurd listed (by decide +kernel)

end Tracks
end Pinging
end CsoMaster
