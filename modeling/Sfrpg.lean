import Sfrpg.Lib.Run
import Sfrpg.Lib.Word
import Sfrpg.Lib.Dict
import Sfrpg.Lib.Post
import Sfrpg.SfTime
import Sfrpg.Packet
import Sfrpg.Server
import Sfrpg.ServerFrame
import Sfrpg.Registry
import Sfrpg.Sockets
import Sfrpg.Orphans
import Sfrpg.Heartbeat
import Sfrpg.Clock
import Sfrpg.Bitmask
import Sfrpg.Components
import Sfrpg.Ecs
import Sfrpg.Systems
import Sfrpg.EntityManager
import Sfrpg.Membership
import Sfrpg.Life
import Sfrpg.Vitals
import Sfrpg.Timers
import Sfrpg.Map
import Sfrpg.Cells
import Sfrpg.Updates
import Sfrpg.Turns
import Sfrpg.Effects
import Sfrpg.Handlers
import Sfrpg.Lib.Trace
import Sfrpg.Queues
import Sfrpg.Ticks
import Sfrpg.Blows
import Sfrpg.Calls
import Sfrpg.Reuse
import Sfrpg.Snapshot
import Sfrpg.Removal
import Sfrpg.Files
import Sfrpg.World
import Sfrpg.Bindings
import Sfrpg.Sessions
import Sfrpg.Lib.Codec
import Sfrpg.Wire
import Sfrpg.ServerMain
import Sfrpg.ClientMain
import Sfrpg.MapFile
import Sfrpg.Origins
import Sfrpg.Attacks
import Sfrpg.Bounds
import Sfrpg.Changes
import Sfrpg.Swings
import Sfrpg.Watches
import Sfrpg.Stays
import Sfrpg.Moments
import Sfrpg.Lib.Table
import Sfrpg.Tables
import Sfrpg.Accounts
import Sfrpg.Requests
import Sfrpg.GameTime
import Sfrpg.Client
import Sfrpg.Traffic
import Sfrpg.Ping
import Sfrpg.Ids
import Sfrpg.Inputs
import Sfrpg.Faulty
import Sfrpg.Candidates
import Sfrpg.Separation
import Sfrpg.Chats
import Sfrpg.Encounters
import Sfrpg.Loading
import Sfrpg.Movement
import Sfrpg.TileFile
import Sfrpg.Utilities
import Sfrpg.Console
import Sfrpg.Outbox
import Sfrpg.Room
import Sfrpg.Honesty
import Sfrpg.Persistence
import Sfrpg.Lib.Commute
import Sfrpg.Steering
import Sfrpg.Keepalive
import Sfrpg.Talk
import Sfrpg.Lib.Things
import Sfrpg.Store
import Sfrpg.Orders
import Sfrpg.Bus
import Sfrpg.Lib.Settle
import Sfrpg.Lull
import Sfrpg.Rest
import Sfrpg.Brawl
