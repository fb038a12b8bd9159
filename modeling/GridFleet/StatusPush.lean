import GridFleet.Interleaving
import GridFleet.Json
/-! A host status push is two transactions under the host row lock. The first fences the boot, reserves a
revision for each guarded section and stores the sections unstamped; the second, once convergence has
run, stamps them, but only while no later push has replaced the stored snapshot. -/
namespace GridFleet.StatusPush

abbrev BootId:=ℕ

inductive SectionName where
 | appiumProcesses
 | hostTelemetry
 | nodeHealth
 | deviceHealth
 | deviceProperties
 deriving DecidableEq

def guardedSections:List SectionName:=[.nodeHealth,.deviceHealth]
def healthSections:List SectionName:=[.nodeHealth,.deviceHealth]
def persistedSections:List SectionName:=.appiumProcesses::guardedSections
abbrev Sections:=SectionName→Option JsonObject
def observationRevisionKey:String:= "observation_revision"
def observationReceivedAtKey:String:= "observation_received_at"
def sectionSequenceKey:String:= "section_sequence"
def payloadSha256Key:String:= "payload_sha256"
def tokenKeys:List String:=
 [sectionSequenceKey,payloadSha256Key,observationRevisionKey,observationReceivedAtKey]

structure SectionToken where
 bootId:BootId
 sectionSequence:ℕ
 payloadSha256:String

def extractToken (sec:JsonObject)(bootId:Option BootId):Option SectionToken:=
 match bootId,sec.get sectionSequenceKey,sec.get payloadSha256Key with
 | some boot,some (.int sequence),some (.str sha)=>
  if sequence<0 then none else some ⟨boot,sequence.toNat,sha⟩
 | _,_,_=>none

structure Cursor where
 bootId:BootId
 sectionSequence:ℕ
 payloadSha256:String
 revision:ℕ
 receivedAt:String

structure Host where
 currentBootId:Option BootId
 observationCursors:SectionName→Option Cursor

structure HostStatusPush where
 bootId:Option BootId
 sections:Sections

structure Snapshot where
 publicationId:ℕ
 bootId:Option BootId
 receivedAt:String
 payload:Sections

structure PendingStatusPush where
 publicationId:ℕ
 bootId:Option BootId
 receivedAt:String
 sections:Sections
 priorSections:Sections
 reservedRevisions:SectionName→Option ℕ

inductive PushError where
 | sectionHashMismatch (name:SectionName)
 | bootFence (current incoming:BootId)

def persistedPayload (sections:Sections):Sections:=fun name=>
 if name∈persistedSections then sections name else none
def applyBootFence (host:Host)(bootId:Option BootId):Except PushError Host:=
 match bootId,host.currentBootId with
 | none,_=>.ok host
 | some boot,none=>.ok {host with currentBootId:=some boot}
 | some boot,some current=>if boot=current then .ok host else .error (.bootFence current boot)

def reserveRevisions (sections:Sections):
 List SectionName→ℕ→ℕ×(SectionName→Option ℕ)
 | [],revision=>(revision,fun _=>none)
 | name::names,revision=>
  if (sections name).isSome then
   let rest:=reserveRevisions sections names (revision+1)
   (rest.1,Function.update rest.2 name (some (revision+1)))
  else reserveRevisions sections names revision

def stripRevisions (sections:Sections):Sections:=fun name=>
 if name∈healthSections then (sections name).map (·.pop observationRevisionKey) else sections name

inductive StampKind where
 | advance
 | redelivery
 | restored
 deriving DecidableEq

/-- A guarded section that became visible with a revision, as the second transaction of a push
made it visible. -/
structure Stamped where
 kind:StampKind
 body:JsonObject
 pushBoot:Option BootId
 hostBoot:Option BootId

structure State where
 host:Host
 snapshot:Option Snapshot
 revision:ℕ
 publications:ℕ
 pending:List PendingStatusPush
 visible:SectionName→List Stamped

def initial (currentBootId:Option BootId)(revision:ℕ):State where
 host:=⟨currentBootId,fun _=>none⟩
 snapshot:=none
 revision:=revision
 publications:=0
 pending:=[]
 visible:=fun _=>[]

def stamp (revision:ℕ)(receivedAt:String)(sec:JsonObject):JsonObject:=
 (sec.set observationRevisionKey (.int revision)).set observationReceivedAtKey (.str receivedAt)
def observationRevision (sec:JsonObject):Option ℤ:=
 match sec.get observationRevisionKey with
 | some (.int revision)=>some revision
 | _=>none

structure Advance where
 revision:ℕ
 advanced:Bool
 stale:Bool
 firstReceivedAt:String

section
variable (sha256:JsonObject→String)

def canonicalSectionHash (sec:JsonObject):String:=sha256 (sec.filter fun key _=>key ∉ tokenKeys)

def validateSection (push:HostStatusPush)(name:SectionName):Except PushError Unit:=
 match push.sections name with
 | none=>.ok ()
 | some sec=>
  match extractToken sec push.bootId with
  | none=>.ok ()
  | some token=>
   if canonicalSectionHash sha256 sec=token.payloadSha256 then .ok ()
   else .error (.sectionHashMismatch name)

def validateSectionHashes (push:HostStatusPush):Except PushError Unit:=
 guardedSections.forM (validateSection sha256 push)

/-- The first transaction. A raised error rolls it back before any revision is drawn. -/
def beginStatusPush (push:HostStatusPush)(receivedAt:String)(s:State):Except PushError State:=do
 validateSectionHashes sha256 push
 let host ←applyBootFence s.host push.bootId
 let sections:=stripRevisions push.sections
 let reserved:=reserveRevisions sections guardedSections s.revision
 let publicationId:=s.publications+1
 return { s with
  host:=host
  snapshot:=some ⟨publicationId,push.bootId,receivedAt,persistedPayload sections⟩
  revision:=reserved.1
  publications:=publicationId
  pending:=⟨publicationId,push.bootId,receivedAt,sections,
   (s.snapshot.map Snapshot.payload).getD fun _=>none,reserved.2⟩::s.pending }

/-- `candidate_revision or await next_observation_revision(db)`, with the sequence afterwards. -/
def candidateOrNext (candidate:Option ℕ)(revision:ℕ):ℕ×ℕ:=
 match candidate with
 | some (n+1)=>(n+1,revision)
 | _=>(revision+1,revision+1)

def moveCursor (host:Host)(name:SectionName)(cursor:Cursor):Host:=
 {host with observationCursors:=Function.update host.observationCursors name (some cursor)}

def advanceSectionCursor (host:Host)(seq:ℕ)(name:SectionName)(sec:JsonObject)
 (bootId:Option BootId)(receivedAt:String)(candidate:Option ℕ):Advance×Host×ℕ:=
 let fresh:=candidateOrNext candidate seq
 match extractToken sec bootId with
 | none=>(⟨fresh.1,true,false,receivedAt⟩,host,fresh.2)
 | some token=>
  let computed:=canonicalSectionHash sha256 sec
  let moved:=moveCursor host name
   ⟨token.bootId,token.sectionSequence,computed,fresh.1,receivedAt⟩
  match host.observationCursors name with
  | none=>(⟨fresh.1,true,false,receivedAt⟩,moved,fresh.2)
  | some cursor=>
   if token.bootId=cursor.bootId∧token.sectionSequence<cursor.sectionSequence then
    (⟨cursor.revision,false,true,cursor.receivedAt⟩,host,seq)
   else if token.bootId=cursor.bootId∧token.sectionSequence=cursor.sectionSequence∧
     computed=cursor.payloadSha256 then
    (⟨cursor.revision,false,false,cursor.receivedAt⟩,host,seq)
   else (⟨fresh.1,true,false,receivedAt⟩,moved,fresh.2)

structure Draft where
 host:Host
 revision:ℕ
 sections:Sections
 foldPayload:Sections
 visible:SectionName→List Stamped

def Draft.show (d:Draft)(name:SectionName)(kind:StampKind)(bootId:Option BootId)
 (body:Option JsonObject):Draft:=
 { d with
   sections:=Function.update d.sections name body
   visible:=match body with
    | none=>d.visible
    | some body=>
     if (observationRevision body).isNone then d.visible
     else Function.update d.visible name
      (⟨kind,body,bootId,d.host.currentBootId⟩::d.visible name) }

def finalizeSection (pending:PendingStatusPush)(d:Draft)(name:SectionName):Draft:=
 match pending.sections name with
 | none=>d
 | some sec=>
  let (advance,host,revision):=advanceSectionCursor sha256 d.host d.revision name sec
   pending.bootId pending.receivedAt (pending.reservedRevisions name)
  let stamped:=stamp advance.revision advance.firstReceivedAt sec
  let d:={d with host:=host,revision:=revision}
  if advance.advanced then
   {d with foldPayload:=Function.update d.foldPayload name (some stamped)}.show name
     .advance pending.bootId (some stamped)
  else
   let d:={d with foldPayload:=Function.update d.foldPayload name none}
   if advance.stale then d.show name .restored pending.bootId (pending.priorSections name)
   else d.show name .redelivery pending.bootId (some stamped)

def finalizeSections (pending:PendingStatusPush)(s:State)(host:Host):Draft:=
 guardedSections.foldl (finalizeSection sha256 pending)
  ⟨host,s.revision,pending.sections,pending.sections,s.visible⟩

/-- The second transaction. The fold payload is `none` when a later push owns the snapshot. -/
def finalizeStatusPush (pending:PendingStatusPush)(s:State):
 Except PushError (State×Option Sections):=do
 let host ←applyBootFence s.host pending.bootId
 match s.snapshot with
 | none=>return ({s with host:=host},none)
 | some current=>
  if current.publicationId≠pending.publicationId then return ({s with host:=host},none)
  else
   let draft:=finalizeSections sha256 pending s host
   return ({ s with
    host:=draft.host
    revision:=draft.revision
    snapshot:=some {current with payload:=persistedPayload draft.sections}
    visible:=draft.visible },some draft.foldPayload)

def pendingIsCurrent (pending:PendingStatusPush)(s:State):Except PushError (State×Bool):=do
 let host ←applyBootFence s.host pending.bootId
 return ({s with host:=host},s.snapshot.any (·.publicationId=pending.publicationId))
def publish (pending:PendingStatusPush)(converged:Bool)(s:State):Except PushError State:=do
 let (s,isCurrent) ←pendingIsCurrent pending s
 if isCurrent&&converged then
  let (s,_) ←finalizeStatusPush sha256 pending s
  return s
 else return s

inductive Label where
 | register (bootId:Option BootId)
 | draw
 | begin (push:HostStatusPush)(receivedAt:String)
 | publish (publicationId:ℕ)(converged:Bool)
 | lose (publicationId:ℕ)

def State.drop (s:State)(publicationId:ℕ):State:=
 {s with pending:=s.pending.filter (·.publicationId≠publicationId)}

def step (s:State):Label→Option State
 | .register none=>some s
 | .register (some boot)=>some { s with host:={s.host with currentBootId:=some boot} }
 | .draw=>some {s with revision:=s.revision+1}
 | .begin push receivedAt=>
  match beginStatusPush sha256 push receivedAt s with
  | .ok s'=>some s'
  | .error _=>some s
 | .publish publicationId converged=>
  match s.pending.find? (·.publicationId=publicationId) with
  | none=>none
  | some pending=>
   match publish sha256 pending converged s with
   | .ok s'=>some (s'.drop publicationId)
   | .error _=>some (s.drop publicationId)
 | .lose publicationId=>some (s.drop publicationId)
end
end GridFleet.StatusPush
