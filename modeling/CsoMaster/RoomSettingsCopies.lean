import CsoMaster.RoomBriefSteps

/-! The members of a room hold its settings, over whole runs: all of them with the answer to
CreateRoom or JoinRoom, and from then on what each update selects. -/
namespace CsoMaster
open Cursor Packet

namespace State
open Runs

end State
end CsoMaster
