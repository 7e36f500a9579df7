import CsoMaster.ChannelEntries

/-! What a channel server sends to the others, and a server whose UDP thread can be started. Each
says hello when it starts, answers the hello of another, and sends its count with every change to
those it takes to be online. -/
namespace CsoMaster

namespace ServerPacket

-- The count a packet brings, and whether it makes its sender online.
def count : ServerPacket → Option UInt16
  | HELLO numPlayers | HELLO_ANSWER numPlayers | NUMPLAYERS numPlayers => some numPlayers
  | GOODBYE => some 0
  | HEARTBEAT | unregistered => none

def opens : ServerPacket → Bool
  | HELLO _ | HELLO_ANSWER _ => true
  | _ => false

end ServerPacket

namespace Listing

/-! What `UDPServer` sends to the other channels: for each the channel it goes to. -/

def sendToAll (l : Listing) (chosen : Channel → Bool) (packet : ServerPacket) : List (Place × ServerPacket) :=
  l.config.serverList.flatMap fun server => server.channels.flatMap fun channel =>
    if server.id = l.config.place.serverID ∧ channel.id = l.config.place.channelID then []
    else if chosen channel then [(⟨server.id,channel.id⟩,packet)] else []

def sendHelloPacketToAll (l : Listing) : List (Place × ServerPacket) :=
  l.sendToAll (fun _ => true) (.HELLO (UInt16.ofNat l.users))

def sendNumPlayersPacketToAll (l : Listing) : List (Place × ServerPacket) :=
  l.sendToAll Channel.isOnline (.NUMPLAYERS (UInt16.ofNat l.users))

-- `sendHeartbeatPacket` to each that is still online.
def sendHeartbeatPackets (l : Listing) : List (Place × ServerPacket) := l.sendToAll Channel.isOnline .HEARTBEAT

section Peer
variable {l : Listing} {q : Place}

/-! What the events leave of a peer's entry. -/

theorem usersEntry {e : Event} (users : e = .addUser ∨ e = .removeUser) (abroad : q ≠ l.config.place)
    (given : l.config.place.serverID ≠ 0 ∧ l.config.place.channelID ≠ 0) :
    (l.step e).config.channel q = l.config.channel q := by
  have entry (users : Nat) : ({ l with users := users } : Listing).updateChannelNumPlayers.config.channel q = l.config.channel q :=
    (setChannelEntry (l := { l with users := users }) given _ _ q).trans (if_neg abroad)
  rcases users with rfl | rfl
  · simp only [step,addUser]
    split
    · rfl
    · exact entry _
  · exact entry _

-- What every event keeps of the list.
structure Kept (l m : Listing) : Prop where
  place : m.config.place = l.config.place
  numbered : Numbered l.config.serverList → Numbered m.config.serverList
  maxPlayers : m.config.maxPlayers = l.config.maxPlayers
  small : l.users ≤ l.config.maxPlayers → m.users ≤ l.config.maxPlayers
  listed : Numbered l.config.serverList → ∀ q, (m.config.channel q).isSome = (l.config.channel q).isSome

theorem Kept.same {l m : Listing} (config : m.config = l.config) (users : m.users = l.users) : Kept l m :=
  ⟨congrArg _ config,fun numbered => config ▸ numbered,congrArg _ config,fun small => users ▸ small,fun _ q => by rw [config]⟩

theorem stepKept (l : Listing) (e : Event) : Kept l (l.step e) where
  place := (stepPlace l e).1
  numbered := stepNumbered l e
  maxPlayers := (stepPlace l e).2
  small := usersSmall e
  listed numbered q := by
    have users (either : e = .addUser ∨ e = .removeUser) : ((l.step e).config.channel q).isSome = (l.config.channel q).isSome := by
      have view := congrArg Option.isSome (usersView (l := l) (fun _ => ()) (fun _ _ => rfl) either q)
      simpa using view
    cases e with
    | packet p packet =>
      rw [packetEntry]
      split
      · rename_i same
        rw [same,Option.isSome_map]
      · rfl
    | secondTick now => rw [tickEntry numbered,Option.isSome_map]
    | addUser => exact users (.inl rfl)
    | removeUser => exact users (.inr rfl)

theorem effectCounts {packet : ServerPacket} (stays : packet ≠ .GOODBYE) (channel : Channel) :
    (l.effect packet channel).isOnline = (packet.opens || channel.isOnline) ∧
      (l.effect packet channel).numPlayers = packet.count.getD channel.numPlayers := by
  cases packet with
  | GOODBYE => exact absurd rfl stays
  | _ => exact ⟨rfl,rfl⟩

end Peer
end Listing

-- A channel server, and whether its UDP thread runs.
structure ChannelPeer where
  listing : Listing
  running : Bool

namespace ChannelPeer

def start (p : ChannelPeer) (now : Nat) : ChannelPeer × List (Place × ServerPacket) :=
  if p.running then (p,[]) else (⟨{ p.listing with currentTime := now },true⟩,p.listing.sendHelloPacketToAll)

def handleIncomingServerPacket (p : ChannelPeer) (sender : Place) (packet : ServerPacket) :
    ChannelPeer × List (Place × ServerPacket) :=
  let listing := p.listing.step (.packet sender packet)
  match packet with
  | .HELLO _ =>
    (⟨listing,p.running⟩,
      if (p.listing.config.channel sender).isNone then [] else [(sender,.HELLO_ANSWER (UInt16.ofNat listing.users))])
  | _ => (⟨listing,p.running⟩,[])

-- The counts go out once the thread runs.
def updateChannelNumPlayers (p : ChannelPeer) (listing : Listing) : ChannelPeer × List (Place × ServerPacket) :=
  (⟨listing,p.running⟩,if p.running then listing.sendNumPlayersPacketToAll else [])

def addUser (p : ChannelPeer) : ChannelPeer × List (Place × ServerPacket) :=
  if p.listing.users ≥ p.listing.config.maxPlayers then (p,[]) else p.updateChannelNumPlayers (p.listing.step .addUser)

def removeUser (p : ChannelPeer) : ChannelPeer × List (Place × ServerPacket) :=
  if p.listing.users = 0 then (p,[]) else p.updateChannelNumPlayers (p.listing.step .removeUser)

def onSecondTick (p : ChannelPeer) (now : Nat) : ChannelPeer × List (Place × ServerPacket) :=
  if p.running then
    let listing := p.listing.step (.secondTick now)
    (⟨listing,true⟩,(if p.listing.Jumps now then listing.sendHelloPacketToAll else []) ++ listing.sendHeartbeatPackets)
  else (p,[])

end ChannelPeer

end CsoMaster
