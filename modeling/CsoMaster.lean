import CsoMaster.Runs
import CsoMaster.ByteOrder
import CsoMaster.Packet
import CsoMaster.TcpFraming
import CsoMaster.TcpSendQueue
import CsoMaster.UdpSendQueue
import CsoMaster.SqlText
import CsoMaster.QueryText
import CsoMaster.UserSessions
import CsoMaster.SessionCluster
import CsoMaster.DatabaseManager
import CsoMaster.HostHandlers
import CsoMaster.LobbyConnections
import CsoMaster.LobbyPhase
import CsoMaster.OtherHandlers
import CsoMaster.ServerMoves
import CsoMaster.ConnectionUsers
import CsoMaster.PhaseCoherence
import CsoMaster.PacketGuards
import CsoMaster.RoomRepresentation
import CsoMaster.RoomTable
import CsoMaster.HandlerFaults
import CsoMaster.ClientCopies
import CsoMaster.RoomList
import CsoMaster.RoomListSteps
import CsoMaster.UserList
import CsoMaster.UserListSteps
import CsoMaster.ChannelEntries
import CsoMaster.Cursor
import CsoMaster.PacketBytes
import CsoMaster.RoomListFields
import CsoMaster.RoomSearch
import CsoMaster.RoomSettingsCodec
import CsoMaster.CharacterNames
import CsoMaster.ConnectionLifecycle
import CsoMaster.ListPackets
import CsoMaster.ListSends
import CsoMaster.TransferTokens
import CsoMaster.ChannelPeers
import CsoMaster.PeerDirection
import CsoMaster.PeerCounts
import CsoMaster.ListingSteps
import CsoMaster.RoomBriefSteps
import CsoMaster.RoomRosters
import CsoMaster.RoomSettingsCopies
import CsoMaster.RoomCreation
import CsoMaster.PacketFields
import CsoMaster.RoomOccupancy
import CsoMaster.TruncatedReads
import CsoMaster.UdpServer
import CsoMaster.ClientHeartbeats
import CsoMaster.PingRequests
import CsoMaster.HostRestart
import CsoMaster.SaveDataHandOver
import CsoMaster.CharacterColumns
import CsoMaster.CharacterCreation
import CsoMaster.NickNames
import CsoMaster.QuickStarts
import CsoMaster.StoredNumbers
import CsoMaster.AlignedColumns
import CsoMaster.Json
import CsoMaster.ServerConfigLoad
import CsoMaster.UsableConfig
import CsoMaster.WireCounts
import CsoMaster.EncryptedReading
import CsoMaster.ServerDatagrams
import CsoMaster.ServerGossip
import CsoMaster.PacketRequests
import CsoMaster.Accounts
import CsoMaster.UserStatuses
import CsoMaster.ReadBack
import CsoMaster.Registers
import CsoMaster.SessionRows
import CsoMaster.SessionTable
