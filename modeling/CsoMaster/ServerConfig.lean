import CsoMaster.ByteOrder

/-! The configuration a channel server runs with and its list of all servers and
channels, the entry of its own channel included. -/
namespace CsoMaster

inductive ServerType where
  | Normal
  | Newbie
  deriving DecidableEq, Repr

inductive ServerStatus where
  | NotReady
  | Ready
  deriving DecidableEq, Repr

structure Channel where
  id : UInt8
  numPlayers : UInt16
  maxPlayers : UInt16
  isOnline : Bool
  lastHeartbeat : Nat
  deriving DecidableEq, Repr

structure Server where
  id : UInt8
  status : ServerStatus
  type : ServerType
  channels : List Channel
  deriving DecidableEq, Repr

-- A channel as the tables name it.
structure Place where
  serverID : UInt8
  channelID : UInt8
  deriving DecidableEq, Repr

structure ServerConfig where
  place : Place
  maxPlayers : Nat
  prohibitedNames : List Bytes
  serverList : List Server
  deriving DecidableEq, Repr

namespace ServerConfig

-- `!serverID || serverID > serverList.size()`, and the same for the channel.
def channel (c : ServerConfig) (p : Place) : Option Channel :=
  if p.serverID = 0 ∨ p.serverID.toNat > c.serverList.length then none
  else
    match c.serverList[(p.serverID - 1).toNat]? with
    | none => none
    | some server =>
      if p.channelID = 0 ∨ p.channelID.toNat > server.channels.length then none
      else server.channels[(p.channelID - 1).toNat]?

def isOnline (c : ServerConfig) (p : Place) : Bool :=
  match c.channel p with
  | none => false
  | some channel => channel.isOnline

-- Listed, and not heard of.
def isStale (c : ServerConfig) (p : Place) : Bool :=
  match c.channel p with
  | none => false
  | some channel => !channel.isOnline

theorem staleNotOnline {c : ServerConfig} {p : Place} (online : c.isOnline p = true) : c.isStale p = false := by
  unfold isOnline at online
  unfold isStale
  split at online
  · cases online
  · simp [online]

end ServerConfig
end CsoMaster
