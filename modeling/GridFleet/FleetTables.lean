import GridFleet.Portability
import GridFleet.ReservationGate
namespace GridFleet.FleetTables
open Portability (GroupId GroupRow)

structure FleetDevice extends Device where
 createdAt:Instant
 deriving DecidableEq

def handset:FleetDevice:=⟨emulator,0⟩

structure FleetNode extends AppiumNode where
 startedAt:Option Instant

structure FleetSession extends Session where
 startedAt:Instant
 lastActivityAt:Option Instant
 routerTarget:Option String

inductive GridQueueStatus where
 | waiting | cancelled | expired
 deriving DecidableEq

structure QueueTicket where
 id:TicketId
 requestedBody:JsonObject
 status:GridQueueStatus
 createdAt:Instant
 lastPolledAt:Option Instant
 runId:Option RunId

structure StereotypeTemplate where
 platformName:String
 automationName:String
 stereotypeBase:JsonObject

/-- `memberOf` pairs a dynamic group with a static one, `memberships` a group with a device; keys
are unique and the references typed, as the schema enforces. -/
structure GroupTables where
 groups:Dict GroupId GroupRow
 memberOf:List (GroupId×GroupId)
 memberships:List (GroupId×DeviceId)
 key_unique:∀i j g h,groups.get i=some g→ groups.get j=some h→ g.key=h.key→i=j
 memberOf_typed:∀e∈memberOf,∃g h,groups.get e.1=some g∧g.groupType=.dynamic∧
  groups.get e.2=some h∧h.groupType=.static

structure Fleet where
 devices:List FleetDevice
 nodes:List FleetNode
 sessions:List FleetSession
 intents:List DeviceIntent
 reservations:List DeviceReservation
 runs:List TestRun
 packs:Readiness.Catalog
 /-- By pack, release and platform. -/
 stereotypes:String→String→String→StereotypeTemplate
 hosts:Dict HostId String
 groups:GroupTables
 tickets:List QueueTicket
 devices_unique:(devices.map fun d=>d.id).Nodup
 nodes_unique:(nodes.map fun n=>n.deviceId).Nodup
 sessions_unique:(sessions.map fun s=>s.id).Nodup
 intents_unique:(intents.map DeviceIntent.id).Nodup
 tickets_unique:(tickets.map QueueTicket.id).Nodup

namespace Fleet

variable (f:Fleet)

/-- The same state for the predicates that read none of the added columns, nor the remediation log. -/
def database:StateProjection.Database where
 devices:=f.devices.map FleetDevice.toDevice
 nodes:=f.nodes.map FleetNode.toAppiumNode
 sessions:=f.sessions.map FleetSession.toSession
 intents:=f.intents
 reservations:=f.reservations
 runs:=f.runs
 remediationLog:=[]
 packs:=f.packs
 devices_unique:=by simpa [List.map_map,Function.comp_def] using f.devices_unique
 nodes_unique:=by simpa [List.map_map,Function.comp_def] using f.nodes_unique
 intents_unique:=f.intents_unique

def gate:ReservationGate.Tables where
 devices:=Dict.empty
 sessions:=f.sessions.map FleetSession.toSession
 reservations:=f.reservations
 runs:=f.runs
def nodeOf (id:DeviceId):Option FleetNode:=f.nodes.find? fun node=>node.deviceId=id
end Fleet

def FleetNode.isViable (node:FleetNode)(now:Instant)(restartWindow:ℕ):Bool:=
 node.pid.isSome&&node.activeConnectionTarget.isSome&&
  node.restartRequestedAt.all fun requested=>
   node.startedAt.any (requested ≤ ·)||requested+restartWindow≤now

/-- A device without a node row passes; others filter it by its state or its missing target. -/
def nodeViable (node:Option FleetNode)(now:Instant)(restartWindow:ℕ):Bool:=
 node.all fun node=>node.isViable now restartWindow

def nodeAcceptingNewSessions (node:Option FleetNode):Bool:=
 node.all fun node=>node.acceptingNewSessions
end GridFleet.FleetTables
