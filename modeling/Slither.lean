import Slither.Framework.CutWalk
import Slither.Framework.Transition
import Slither.Framework.Refinement
import Slither.Framework.Scan
import Slither.Framework.Plane
import Slither.Framework.Follow
import Slither.Framework.Keyed
import Slither.Framework.SwapRemove
import Slither.Framework.BinarySearch
import Slither.Framework.Commuting
import Slither.Framework.Intervals
import Slither.Framework.Erasure
import Slither.Game.Config
import Slither.Game.Sector
import Slither.Game.Snake
import Slither.Game.Movement
import Slither.Game.World
import Slither.Game.Constants
import Slither.Game.Drive
import Slither.Game.Clock
import Slither.Game.Mass
import Slither.Game.Eating
import Slither.Game.Turning
import Slither.Game.Spacing
import Slither.Game.Enclosure
import Slither.Game.Collisions
import Slither.Game.Changes
import Slither.Game.Bounds
import Slither.Game.Windows
import Slither.Game.FoodStore
import Slither.Game.FoodAccounts
import Slither.Game.Creation
import Slither.Game.Frame
import Slither.Game.ViewPort
import Slither.Game.OldSectors
import Slither.Game.Grid
import Slither.Game.Prefilter
import Slither.Game.BroadPhase
import Slither.Game.Border
import Slither.Game.Heads
import Slither.Game.Hull
import Slither.Game.Faultless
import Slither.Game.Pose
import Slither.Game.Entering
import Slither.Game.BodyCover
import Slither.Game.Placement
import Slither.Game.PlayerView
import Slither.Game.Registration
import Slither.Game.Registry
import Slither.Packet.Packet
import Slither.Packet.Format
import Slither.Packet.Encoding
import Slither.Packet.Decoding
import Slither.Packet.FoodPackets
import Slither.Packet.BodyShape
import Slither.Server.GameServer
import Slither.Server.Outgoing
import Slither.Server.ClientView
import Slither.Server.Handlers
import Slither.Server.SessionCoherence
import Slither.Server.Commands
import Slither.Server.Interleaving
import Slither.Server.EventLoop
import Slither.Server.ClientClock
import Slither.Server.ChangeNotification
import Slither.Server.PoseView
import Slither.Server.RosterView
import Slither.Server.LengthView
import Slither.Server.Census
import Slither.Server.Deaths
import Slither.Server.DeadPlayers
import Slither.Server.SectorIndex
import Slither.Server.Progress
import Slither.Server.DebugMode
import Slither.Server.Narration
import Slither.Server.SectorView
import Slither.Server.FoodLedger
import Slither.Server.FoodPlacing
import Slither.Server.NamePackets
import Slither.Server.StreambufArray
import Slither.Server.Sending
import Slither.Packet.Reading
import Slither.Server.WireView
import Slither.Server.SpeedLimit
