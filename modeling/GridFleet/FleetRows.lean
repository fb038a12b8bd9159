import GridFleet.Json
namespace GridFleet

abbrev DeviceId:=ℕ
abbrev HostId:=ℕ
abbrev RunId:=ℕ
abbrev TicketId:=ℕ
abbrev RowId:=ℕ

/-- Microseconds since the epoch. -/
abbrev Instant:=ℕ

inductive OperationalState where
 | available | busy | offline | verifying | maintenance
 deriving DecidableEq

inductive DeviceType where
 | realDevice | emulator | simulator
 deriving DecidableEq

def DeviceType.value:DeviceType→String
 | realDevice=> "real_device"
 | emulator=> "emulator"
 | simulator=> "simulator"

inductive IdentityScope where
 | global | host
 deriving DecidableEq

inductive ConnectionType where
 | usb | network | virtual
 deriving DecidableEq

structure Device where
 id:DeviceId
 packId:String
 platformId:String
 identityScheme:String
 identityScope:IdentityScope
 identityValue:String
 connectionTarget:Option String
 name:String
 hostId:HostId
 osVersion:String
 osVersionDisplay:Option String
 manufacturer:Option String
 model:Option String
 modelNumber:Option String
 softwareVersions:Option JsonObject
 deviceType:DeviceType
 connectionType:ConnectionType
 ipAddress:Option String
 deviceConfig:Option JsonObject
 lifecyclePolicyState:Option Json
 deviceChecksHealthy:Option Bool
 sessionViabilityStatus:Option String
 verifiedAt:Option Instant
 operationalStateLastEmitted:OperationalState
 deriving DecidableEq

def emulator:Device where
 id:=1
 packId:= "appium-uiautomator2"
 platformId:= "android_mobile"
 identityScheme:= "android_serial"
 identityScope:=.host
 identityValue:= "emulator"
 connectionTarget:=none
 name:= "handset"
 hostId:=1
 osVersion:= "14"
 osVersionDisplay:=none
 manufacturer:=none
 model:=none
 modelNumber:=none
 softwareVersions:=none
 deviceType:=.emulator
 connectionType:=.virtual
 ipAddress:=none
 deviceConfig:=none
 lifecyclePolicyState:=none
 deviceChecksHealthy:=none
 sessionViabilityStatus:=none
 verifiedAt:=some 0
 operationalStateLastEmitted:=.available

inductive DesiredState where
 | running | stopped
 deriving DecidableEq

structure AppiumNode where
 deviceId:DeviceId
 port:ℕ
 pid:Option ℕ
 activeConnectionTarget:Option String
 observedPackRelease:Option String
 desiredState:DesiredState
 desiredPort:Option ℕ
 desiredGridRunId:Option RunId
 acceptingNewSessions:Bool
 stopPending:Bool
 restartRequestedAt:Option Instant
 healthRunning:Option Bool
 deriving DecidableEq

def runningNode:AppiumNode where
 deviceId:=7
 port:=4723
 pid:=some 31
 activeConnectionTarget:=some "00008110"
 observedPackRelease:=some "1.0"
 desiredState:=.running
 desiredPort:=some 4723
 desiredGridRunId:=none
 acceptingNewSessions:=true
 stopPending:=false
 restartRequestedAt:=none
 healthRunning:=none

inductive SessionStatus where
 | running | passed | failed | error | pending
 deriving DecidableEq

structure Session where
 id:RowId
 sessionId:String
 deviceId:Option DeviceId
 testName:Option String
 status:SessionStatus
 endedAt:Option Instant
 ticketId:Option TicketId
 runId:Option RunId

inductive CommandKind where
 | operatorStop | operatorRecoveryDeny | forcedRelease | operatorStart | verificationStart
 | releaseRollout
 deriving DecidableEq

def CommandKind.value:CommandKind→String
 | operatorStop=> "operator:stop:node"
 | operatorRecoveryDeny=> "operator:stop:recovery"
 | forcedRelease=> "forced_release"
 | operatorStart=> "operator:start"
 | verificationStart=> "verification"
 | releaseRollout=> "release_rollout"

def CommandKind.all:List CommandKind:=
 [operatorStop,operatorRecoveryDeny,forcedRelease,operatorStart,verificationStart,
  releaseRollout]
def CommandKind.ofValue (text:String):Option CommandKind:=all.find? fun kind=>kind.value=text

structure DeviceIntent where
 id:RowId
 deviceId:DeviceId
 source:String
 kind:String
 runId:Option RunId
 payload:JsonObject
 expiresAt:Option Instant

def verificationIntentSource (deviceId:DeviceId):String:= "verification:" ++ toString deviceId
def releaseRolloutIntentSource (deviceId:DeviceId):String:=
 "release_rollout:" ++ toString deviceId
def verificationOutcomeKey:String:= "outcome"

inductive RunState where
 | pending | preparing | active | completed | failed | expired | cancelled
 deriving DecidableEq

structure TestRun where
 id:RunId
 name:String
 state:RunState

structure DeviceReservation where
 id:RowId
 runId:RunId
 deviceId:DeviceId
 excluded:Bool
 exclusionKind:Option String
 exclusionReason:Option String
 excludedUntil:Option Instant
 releasedAt:Option Instant
 createdAt:Instant
end GridFleet
