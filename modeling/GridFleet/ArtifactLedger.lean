import GridFleet.FleetRows
import GridFleet.Interleaving
import GridFleet.PackStorage
import Mathlib.Data.List.Sort
/-! The artifact ledger of the driver packs. Ledger rows are written inside transactions, files between
them. Every transaction is cut where another may commit: its plain reads are a step of their own, and
its writes take effect when it commits. An error and a crash look alike: the operation stops. -/
namespace GridFleet.ArtifactLedger
open PackStorage (Manifest)

abbrev Path:=String
abbrev Digest:=String
abbrev Bytes:=List UInt8
abbrev TaskId:=ℕ

inductive PackArtifactState where
 | pending | active | orphaned
 deriving DecidableEq

structure PackArtifact where
 id:RowId
 state:PackArtifactState
 sha256:Option Digest
 sizeBytes:Option ℕ
 stateChangedAt:Instant

abbrev Ledger:=Dict Path PackArtifact

structure DriverPackRelease where
 id:RowId
 artifactPath:Option Path
 artifactSha256:Option Digest
 deriving DecidableEq

/-- What the uploaded bytes determine, and the path the storage service gives a release. -/
structure Storage where
 sha256:Bytes→Digest
 parsePackTarball:Bytes→Option Manifest
 pathFor:Manifest→Option Path

def reserveArtifact (ledger:Ledger)(claimId:RowId)(now:Instant)(path:Path):Option Ledger:=
 let row:PackArtifact:=⟨claimId,.pending,none,none,now⟩
 match ledger.get path with
 | none=>some (ledger.set path row)
 | some existing=>if existing.state=.orphaned then some (ledger.set path row) else none

/-- The row is the caller's reservation, or the active row the caller is about to refresh. -/
def ownsRow (artifactId:RowId)(sha256:Digest)(reservedAt:Option Instant)(row:PackArtifact):Bool:=
 match reservedAt with
 | none=>row.id=artifactId∧row.state=.active∧row.sha256=some sha256
 | some t=>row.id=artifactId∧row.state=.pending∧row.stateChangedAt=t

def activateArtifact (ledger:Ledger)(artifactId:RowId)(path:Path)(sha256:Digest)
 (sizeBytes:ℕ)(reservedAt:Option Instant)(now:Instant):Option Ledger:=
 match ledger.get path with
 | none=>none
 | some row=>
  if ownsRow artifactId sha256 reservedAt row then
   some (ledger.set path ⟨row.id,.active,some sha256,some sizeBytes,now⟩)
  else none

def orphanArtifacts (ledger:Ledger)(paths:List Path)(now:Instant):Ledger:=
 ledger.map fun path row=>
  if path∈paths then {row with state:=.orphaned,stateChangedAt:=now} else row
def forgetArtifacts (ledger:Ledger)(paths:List Path):Ledger:=
 ledger.filter fun path row=>!(path∈paths∧row.state=.orphaned)

/-- A path still to be unlinked. `seen` is how often uploads had taken or activated the path when
its row was read; nothing in the code reads it. -/
structure UnlinkItem where
 path:Path
 seen:ℕ
 deriving DecidableEq

structure ReapCandidate where
 id:RowId
 path:Path
 stateChangedAt:Instant
 seen:ℕ

def ReapCandidate.item (c:ReapCandidate):UnlinkItem:=⟨c.path,c.seen⟩

structure ArtifactReservation where
 artifactPath:Path
 needsWrite:Bool
 artifactId:Option RowId
 reservedAt:Option Instant

inductive UploadStage where
 | reserved
 | opening
 | writing
 | stored
 | activating (packSeen:Bool)(releaseSeen:Option DriverPackRelease)

inductive UploadPhase where
 | parsed
 | looked (existing:Option DriverPackRelease)
 | unserved (existing:Option DriverPackRelease)
 | holding (reservation:ArtifactReservation)(stage:UploadStage)

structure Upload where
 data:Bytes
 manifest:Manifest
 phase:UploadPhase

inductive DeleteTarget where
 | release (key:Manifest)
 | pack (packId:String)

inductive DeletePhase where
 | loaded (rows:List (Manifest×DriverPackRelease))
 | purging (items:List UnlinkItem)(reaped:List Path)

structure Deletion where
 target:DeleteTarget
 phase:DeletePhase

structure Reaper where
 remaining:List ReapCandidate
 reaped:List ReapCandidate
 failed:List ReapCandidate

/-- `touches` logs every path an upload took or activated. -/
structure State where
 packs:List String
 releases:Dict Manifest DriverPackRelease
 ledger:Ledger
 files:Dict Path Bytes
 uploads:Dict TaskId Upload
 deletions:Dict TaskId Deletion
 reapers:Dict TaskId Reaper
 nextId:RowId
 touches:List Path

def State.init:State:=
 ⟨[],.empty,.empty,.empty,.empty,.empty,.empty,0,[]⟩
def Deletion.items (d:Deletion):List UnlinkItem:=
 match d.phase with
 | .loaded _=>[]
 | .purging items _=>items
def State.unlinks (s:State):List UnlinkItem:=
 (s.deletions.entries.flatMap fun e=>e.2.items) ++
  s.reapers.entries.flatMap fun e=>e.2.remaining.map ReapCandidate.item
def State.setUpload (s:State)(task:TaskId)(u:Upload)(phase:UploadPhase):State:=
 { s with uploads:=s.uploads.set task {u with phase:=phase} }
def beginUpload (st:Storage)(s:State)(task:TaskId)(data:Bytes):Option State:=do
 let manifest ←st.parsePackTarball data
 if (s.uploads.get task).isSome then none
 else some {s with uploads:=s.uploads.set task ⟨data,manifest,.parsed⟩}

/-- The answer of `reserve_pack_upload` when the release exists and its file is there. -/
def settledReservation (path:Path):ArtifactReservation:=⟨path,false,none,none⟩

def checkFile (st:Storage)(s:State)(u:Upload)(existing:Option DriverPackRelease):
 Option UploadPhase:=
 match existing with
 | none=>some (.unserved none)
 | some row=>
  if row.artifactSha256≠some (st.sha256 u.data) then none
  else match row.artifactPath with
   | none=>some (.unserved existing)
   | some path=>
    if (s.files.get path).isSome then some (.holding (settledReservation path) .stored)
    else some (.unserved existing)

/-- The reserving statement and the look for an active row when it claimed nothing. -/
def claim (st:Storage)(s:State)(task:TaskId)(u:Upload)
 (existing:Option DriverPackRelease)(now:Instant):Option State:=do
 let path ←st.pathFor u.manifest
 match reserveArtifact s.ledger s.nextId now path with
 | some ledger=>
  let reservation:ArtifactReservation:=⟨path,true,some s.nextId,some now⟩
  some { s.setUpload task u (.holding reservation .reserved) with
   ledger:=ledger,nextId:=s.nextId+1,touches:=path::s.touches }
 | none=>
  let row ←s.ledger.get path
  if existing.isSome∧row.state=.active∧row.sha256=some (st.sha256 u.data) then
   let reservation:ArtifactReservation:=⟨path,true,some row.id,none⟩
   some { s.setUpload task u (.holding reservation .reserved) with
    touches:=path::s.touches }
  else none

/-- `store` up to its decision: an equal file is kept, a different one is an error. -/
def storeCheck (st:Storage)(s:State)(u:Upload)(r:ArtifactReservation):Option UploadPhase:=
 match s.files.get r.artifactPath with
 | none=>some (.holding r .opening)
 | some existing=>
  if st.sha256 existing=st.sha256 u.data then some (.holding r .stored) else none

/-- The release row as activation leaves it. A row that already says what is to be written is
not touched; an update of a row that is gone fails, and so does an insert that finds one. -/
def landRelease (st:Storage)(s:State)(u:Upload)(path:Path)
 (releaseSeen:Option DriverPackRelease):Option (Dict Manifest DriverPackRelease):=
 let sha:=st.sha256 u.data
 match releaseSeen with
 | none=>
  if (s.releases.get u.manifest).isSome then none
  else some (s.releases.set u.manifest ⟨s.nextId,some path,some sha⟩)
 | some seen=>
  if seen.artifactPath=some path∧seen.artifactSha256=some sha then some s.releases
  else match s.releases.get u.manifest with
   | none=>none
   | some row=>
    if row.id=seen.id then
     some (s.releases.set u.manifest
      {row with artifactPath:=some path,artifactSha256:=some sha})
    else none

/-- An unseen pack is inserted, which fails when it has appeared meanwhile; a release is only
inserted under a pack that still exists. -/
def landPack (s:State)(packId:String)(packSeen:Bool)
 (releaseSeen:Option DriverPackRelease):Option (List String):=
 if packSeen then
  if releaseSeen.isSome∨packId∈s.packs then some s.packs else none
 else if packId∈s.packs then none else some (packId::s.packs)

def activateCommit (st:Storage)(s:State)(task:TaskId)(u:Upload)
 (r:ArtifactReservation)(packSeen:Bool)(releaseSeen:Option DriverPackRelease)
 (now:Instant):Option State:=do
 let sha:=st.sha256 u.data
 if releaseSeen.any fun row=>row.artifactSha256≠some sha then none
 else if r.needsWrite then
  let artifactId ←r.artifactId
  if releaseSeen.isNone∧r.reservedAt.isNone then none
  else
   let ledger ←activateArtifact s.ledger artifactId r.artifactPath sha u.data.length
    r.reservedAt now
   let packs ←landPack s u.manifest.id packSeen releaseSeen
   let releases ←landRelease st s u r.artifactPath releaseSeen
   some { s with
    packs:=packs,releases:=releases,ledger:=ledger,uploads:=s.uploads.pop task
    nextId:=s.nextId+1,touches:=r.artifactPath::s.touches }
 else if releaseSeen.isNone then none
 else some {s with uploads:=s.uploads.pop task}

def loadRows (s:State):DeleteTarget→Option (List (Manifest×DriverPackRelease))
 | .release key=>
  match s.releases.get key with
  | none=>none
  | some row=>
   if (s.releases.entries.filter fun e=>e.1.id=key.id).length=1 then none
   else some [(key,row)]
 | .pack packId=>
  if packId∈s.packs then some (s.releases.entries.filter fun e=>e.1.id=packId) else none

def artifactPaths (rows:List (Manifest×DriverPackRelease)):List Path:=
 rows.filterMap fun e=>e.2.artifactPath

/-- The loaded rows are deleted by their ids; the row of a pack takes every release under it. -/
def dropReleases (releases:Dict Manifest DriverPackRelease)
 (rows:List (Manifest×DriverPackRelease))(target:DeleteTarget):Dict Manifest DriverPackRelease:=
 let remaining:=releases.filter fun key row=>!(rows.any fun e=>e.1=key∧e.2.id=row.id)
 match target with
 | .release _=>remaining
 | .pack packId=>remaining.filter fun key _=>key.id≠packId

def dropPack (packs:List String):DeleteTarget→List String
 | .release _=>packs
 | .pack packId=>packs.filter (· ≠ packId)

def deleteCommit (s:State)(task:TaskId)(target:DeleteTarget)
 (rows:List (Manifest×DriverPackRelease))(now:Instant):State:=
 let paths:=artifactPaths rows
 let items:=paths.map fun path=>(⟨path,s.touches.count path⟩:UnlinkItem)
 { s with
   packs:=dropPack s.packs target
   releases:=dropReleases s.releases rows target
   ledger:=orphanArtifacts s.ledger paths now
   deletions:=s.deletions.set task ⟨target,.purging items []⟩ }

/-- `unlink_pack_artifact`; `ok` is whether the system call succeeded. -/
def unlinkFile (files:Dict Path Bytes)(path:Path)(ok:Bool):Dict Path Bytes:=
 if ok then files.pop path else files

def pendingGrace:ℕ:=900000000
def reapBatch:ℕ:=200
def reapable (now:Instant)(row:PackArtifact):Bool:=
 row.state=.orphaned∨row.state=.pending∧row.stateChangedAt+pendingGrace<now
def selectCandidates (s:State)(now:Instant):List ReapCandidate:=
 let rows:=s.ledger.entries.filter fun e=>reapable now e.2
 let oldest:=rows.insertionSort fun a b=>a.2.stateChangedAt≤b.2.stateChangedAt
 (oldest.take reapBatch).map fun e=>
  ⟨e.2.id,e.1,e.2.stateChangedAt,s.touches.count e.1⟩

def unchangedSince (candidates:List ReapCandidate)(row:PackArtifact):Bool:=
 candidates.any fun c=>c.id=row.id∧c.stateChangedAt=row.stateChangedAt
def dropReaped (ledger:Ledger)(reaped:List ReapCandidate):Ledger:=
 ledger.filter fun _ row=>!unchangedSince reaped row
def bumpFailed (ledger:Ledger)(failed:List ReapCandidate)(now:Instant):Ledger:=
 ledger.map fun _ row=>
  if unchangedSince failed row then {row with stateChangedAt:=now} else row

inductive Label where
 | beginUpload (task:TaskId)(data:Bytes)
 | lookupRelease (task:TaskId)
 | checkFile (task:TaskId)
 | claim (task:TaskId)(now:Instant)
 | storeCheck (task:TaskId)
 | storeWrite (task:TaskId)(written:ℕ)
 | storeFinish (task:TaskId)
 | activateRead (task:TaskId)
 | activateCommit (task:TaskId)(now:Instant)
 | stopUpload (task:TaskId)
 | beginDelete (task:TaskId)(target:DeleteTarget)
 | deleteCommit (task:TaskId)(now:Instant)
 | purgeUnlink (task:TaskId)(ok:Bool)
 | purgeForget (task:TaskId)
 | stopDelete (task:TaskId)
 | reapSelect (task:TaskId)(now:Instant)
 | reapUnlink (task:TaskId)(ok:Bool)
 | reapFinish (task:TaskId)(now:Instant)
 | stopReap (task:TaskId)

def uploadStep (st:Storage)(s:State)(task:TaskId)(u:Upload):Label→Option State
 | .lookupRelease _=>
  match u.phase with
  | .parsed=>some (s.setUpload task u (.looked (s.releases.get u.manifest)))
  | _=>none
 | .checkFile _=>
  match u.phase with
  | .looked existing=>(checkFile st s u existing).map (s.setUpload task u)
  | _=>none
 | .claim _ now=>
  match u.phase with
  | .unserved existing=>claim st s task u existing now
  | _=>none
 | .storeCheck _=>
  match u.phase with
  | .holding r .reserved=>(storeCheck st s u r).map (s.setUpload task u)
  | _=>none
 | .storeWrite _ written=>
  match u.phase with
  | .holding r .opening=>
   some { s.setUpload task u (.holding r .writing) with
    files:=s.files.set r.artifactPath (u.data.take written) }
  | _=>none
 | .storeFinish _=>
  -- a file unlinked since it was opened would come back; in guarded runs none is
  match u.phase with
  | .holding r .writing=>
   some { s.setUpload task u (.holding r .stored) with
    files:=s.files.set r.artifactPath u.data }
  | _=>none
 | .activateRead _=>
  match u.phase with
  | .holding r .stored=>
   some (s.setUpload task u (.holding r (.activating (u.manifest.id∈s.packs)
    (s.releases.get u.manifest))))
  | _=>none
 | .activateCommit _ now=>
  match u.phase with
  | .holding r (.activating packSeen releaseSeen)=>
   activateCommit st s task u r packSeen releaseSeen now
  | _=>none
 | .stopUpload _=>some {s with uploads:=s.uploads.pop task}
 | _=>none

def deletionStep (s:State)(task:TaskId)(d:Deletion):Label→Option State
 | .deleteCommit _ now=>
  match d.phase with
  | .loaded rows=>some (deleteCommit s task d.target rows now)
  | _=>none
 | .purgeUnlink _ ok=>
  match d.phase with
  | .purging (item::items) reaped=>
   let reaped:=if ok then item.path::reaped else reaped
   some { s with
    files:=unlinkFile s.files item.path ok
    deletions:=s.deletions.set task {d with phase:=.purging items reaped} }
  | _=>none
 | .purgeForget _=>
  match d.phase with
  | .purging [] reaped=>
   some { s with
    ledger:=forgetArtifacts s.ledger reaped,deletions:=s.deletions.pop task }
  | _=>none
 | .stopDelete _=>some {s with deletions:=s.deletions.pop task}
 | _=>none

def reaperStep (s:State)(task:TaskId)(r:Reaper):Label→Option State
 | .reapUnlink _ ok=>
  match r.remaining with
  | c::remaining=>
   let next:Reaper:=
    if ok then ⟨remaining,c::r.reaped,r.failed⟩ else ⟨remaining,r.reaped,c::r.failed⟩
   some { s with
    files:=unlinkFile s.files c.path ok,reapers:=s.reapers.set task next }
  | []=>none
 | .reapFinish _ now=>
  match r.remaining with
  | []=>
   some { s with
    ledger:=bumpFailed (dropReaped s.ledger r.reaped) r.failed now
    reapers:=s.reapers.pop task }
  | _::_=>none
 | .stopReap _=>some {s with reapers:=s.reapers.pop task}
 | _=>none

def step (st:Storage)(s:State)(label:Label):Option State:=
 match label with
 | .beginUpload task data=>beginUpload st s task data
 | .lookupRelease task | .checkFile task | .claim task _ | .storeCheck task
 | .storeWrite task _ | .storeFinish task | .activateRead task | .activateCommit task _
 | .stopUpload task=>
  match s.uploads.get task with
  | some u=>uploadStep st s task u label
  | none=>none
 | .beginDelete task target=>
  if (s.deletions.get task).isSome then none
  else (loadRows s target).map fun rows=>
   {s with deletions:=s.deletions.set task ⟨target,.loaded rows⟩}
 | .deleteCommit task _ | .purgeUnlink task _ | .purgeForget task | .stopDelete task=>
  match s.deletions.get task with
  | some d=>deletionStep s task d label
  | none=>none
 | .reapSelect task now=>
  if (s.reapers.get task).isSome then none
  else some {s with reapers:=s.reapers.set task ⟨selectCandidates s now,[],[]⟩}
 | .reapUnlink task _ | .reapFinish task _ | .stopReap task=>
  match s.reapers.get task with
  | some r=>reaperStep s task r label
  | none=>none
end GridFleet.ArtifactLedger
