import GridFleet.FleetRows
import GridFleet.Interleaving
/-! Every operation on session rows is a transaction of a few statements under READ COMMITTED. Claims
insert behind the device row lock and a recheck of the committed rows; the other operations update one
row, some without any device lock. A row lock is held to the commit. -/
namespace GridFleet.SessionLifecycle
open Interleaving

abbrev TxId:=ℕ
def isLiveStatus (status:SessionStatus):Bool:=status=.running||status=.pending
def isOpen (row:Session):Bool:=row.endedAt.isNone
def isLive (row:Session):Bool:=isLiveStatus row.status&&isOpen row

inductive Statement where
 /-- `SELECT … FOR UPDATE OF devices`. -/
 | lockDevice (device:DeviceId)
 /-- A fresh read of the device's live sessions; the transaction declines when it finds one. -/
 | noLiveSession (device:DeviceId)
 | insert (row:Session)
 /-- A fresh read of `ended_at`; the transaction ends when it is set or the row is gone. -/
 | unlessEnded (id:RowId)
 /-- `UPDATE … WHERE id = … AND guard`. -/
 | update (id:RowId)(guard:Session→Bool)(set:Session→Session)

def lockIfPresent (device:Option DeviceId):List Statement:=(device.map .lockDevice).toList

inductive ProbeResult where
 | ack | refused | indeterminate
 deriving DecidableEq

def mapProbeResultToStatus:ProbeResult→SessionStatus
 | .ack=>.passed
 | .refused=>.failed
 | .indeterminate=>.error
def terminalStatus:Option RunState→SessionStatus
 | some .failed | some .expired | some .cancelled=>.error
 | _=>.passed
def ended (row:Session)(status:SessionStatus)(now:Instant):Session:=
 {row with endedAt:=some now,status:=status}

/-- A reported status ends the row; a row another closer has ended takes the status only, unless the
reporter read it before that. -/
def reported (status:SessionStatus)(staleRead:Bool)(now:Instant)(row:Session):Session:=
 if isOpen row||staleRead then ended row status now else {row with status:=status}

section
def gridClaim (device:DeviceId)(id:RowId)(sessionId:String)(testName:Option String)
 (ticketId:TicketId)(runId:Option RunId):List Statement:=
 [.lockDevice device,.noLiveSession device,
  .insert ⟨id,sessionId,some device,testName,.pending,none,some ticketId,runId⟩]
def claimProbeSession (device:DeviceId)(id:RowId)(sessionId:String):List Statement:=
 [.lockDevice device,.noLiveSession device,
  .insert ⟨id,sessionId,some device,some "__gridfleet_probe__",.pending,none,none,none⟩]

/-- `device` is what the unlocked read of the row showed. -/
def promoteToRunning (id:RowId)(device:Option DeviceId)(appiumSessionId:String):List Statement:=
 lockIfPresent device ++
  [.update id (fun row=>row.status=.pending)
   fun row=>{row with sessionId:=appiumSessionId,status:=.running}]

def failAllocation (id:RowId)(device:Option DeviceId)(now:Instant):List Statement:=
 lockIfPresent device ++
  [.update id (fun row=>row.status=.pending) fun row=>ended row .error now]
def confirmProbeSession (id:RowId)(appiumSessionId:String):List Statement:=
 [.update id (fun row=>row.status=.pending&&isOpen row)
  fun row=>{row with sessionId:=appiumSessionId,status:=.running}]
def finalizeProbeSession (id:RowId)(result:ProbeResult)(now:Instant):List Statement:=
 [.update id isOpen fun row=>ended row (mapProbeResultToStatus result) now]

def closeRunningSessionLocked (device:DeviceId)(id:RowId)(runState:Option RunState)
 (statusOverride:Option SessionStatus)(now:Instant):List Statement:=
 [.lockDevice device,
  .update id isOpen fun row=>ended row (statusOverride.getD (terminalStatus runState)) now]
def terminalizeSessionWithoutDevice (id:RowId)(runState:Option RunState)(now:Instant):
 List Statement:=
 [.unlessEnded id,.update id (fun _=>true) fun row=>ended row (terminalStatus runState) now]

/-- The status a client reports. `running` stamps the status alone, and the refresh that follows may
discard it (`flushed`). Any other value closes the row. -/
def updateSessionStatus (id:RowId)(device:Option DeviceId)(status:SessionStatus)
 (flushed staleRead:Bool)(now:Instant):List Statement:=
 match status,device with
 | .running,_=>
  if flushed then [.update id (fun _=>true) fun row=>{row with status:=.running}] else []
 | status,none=>[.update id (fun _=>true) (reported status staleRead now)]
 | status,some device=>
  [.lockDevice device,.lockDevice device,.update id (fun _=>true) (reported status false now)]
end

inductive Operation where
 | gridClaim (device:DeviceId)(id:RowId)(sessionId:String)(testName:Option String)
   (ticketId:TicketId)(runId:Option RunId)
 | claimProbeSession (device:DeviceId)(id:RowId)(sessionId:String)
 | promoteToRunning (id:RowId)(device:Option DeviceId)(appiumSessionId:String)
 | fail (id:RowId)(device:Option DeviceId)(now:Instant)
 | confirmProbeSession (id:RowId)(appiumSessionId:String)
 | finalizeProbeSession (id:RowId)(result:ProbeResult)(now:Instant)
 | closeRunningSessionLocked (device:DeviceId)(id:RowId)(runState:Option RunState)
   (statusOverride:Option SessionStatus)(now:Instant)
 | terminalizeSessionWithoutDevice (id:RowId)(runState:Option RunState)(now:Instant)
 | updateSessionStatus (id:RowId)(device:Option DeviceId)(status:SessionStatus)
   (flushed staleRead:Bool)(now:Instant)

def Operation.program:Operation→List Statement
 | gridClaim device id sessionId testName ticketId runId=>
  SessionLifecycle.gridClaim device id sessionId testName ticketId runId
 | claimProbeSession device id sessionId=>SessionLifecycle.claimProbeSession device id sessionId
 | promoteToRunning id device appiumSessionId=>
  SessionLifecycle.promoteToRunning id device appiumSessionId
 | fail id device now=>failAllocation id device now
 | confirmProbeSession id appiumSessionId=>SessionLifecycle.confirmProbeSession id appiumSessionId
 | finalizeProbeSession id result now=>SessionLifecycle.finalizeProbeSession id result now
 | closeRunningSessionLocked device id runState statusOverride now=>
  SessionLifecycle.closeRunningSessionLocked device id runState statusOverride now
 | terminalizeSessionWithoutDevice id runState now=>
  SessionLifecycle.terminalizeSessionWithoutDevice id runState now
 | updateSessionStatus id device status flushed staleRead now=>
  SessionLifecycle.updateSessionStatus id device status flushed staleRead now

/-- The one row version a transaction has written and not yet committed. -/
inductive Write where
 | insert (row:Session)
 | update (row:Session)

def Write.row:Write→Session
 | .insert row | .update row=>row

/-- `clear`: the recheck found the locked device free. -/
structure Tx where
 program:List Statement
 device:Option DeviceId
 clear:Bool
 write:Option Write

structure State where
 rows:List Session
 txs:Dict TxId Tx

def publish (rows:List Session):Write→List Session
 | .insert row=>rows++[row]
 | .update row=>rows.map fun r=>if r.id=row.id then row else r
def noOther (s:State)(tx:TxId)(p:Tx→Bool):Bool:=
 s.txs.entries.all fun e=>decide (e.1=tx)||!p e.2

inductive Label where
 | begin (tx:TxId)(op:Operation)
 | run (tx:TxId)
 | commit (tx:TxId)
 | abort (tx:TxId)

def exec (s:State)(tx:TxId)(x:Tx):Statement→List Statement→Option State
 | .lockDevice device,rest=>
  if noOther s tx fun y=>y.device=some device then
   some { s with txs:=s.txs.set tx {x with program:=rest,device:=some device} }
  else none
 | .noLiveSession device,rest=>
  if s.rows.any fun row=>isLive row&&row.deviceId=some device then
   some {s with txs:=s.txs.pop tx}
  else some { s with txs:=s.txs.set tx {x with program:=rest,clear:=true} }
 | .insert row,rest=>
  -- primary keys are drawn fresh
  if (s.rows.all fun r=>r.id≠row.id)&&
    noOther s tx (fun y=>y.write.any fun w=>w.row.id=row.id) then
   some { s with
    txs:=s.txs.set tx {x with program:=rest,clear:=false,write:=some (.insert row)} }
  else none
 | .unlessEnded id,rest=>
  if s.rows.any fun row=>row.id=id&&isOpen row then
   some { s with txs:=s.txs.set tx {x with program:=rest} }
  else some { s with txs:=s.txs.set tx {x with program:=[]} }
 | .update id guard set,rest=>
  if noOther s tx fun y=>y.write.any fun w=>w.row.id=id then
   match s.rows.find? fun row=>row.id=id with
   | some row=>
    if guard row then
     some { s with
      txs:=s.txs.set tx {x with program:=rest,write:=some (.update (set row))} }
    else some { s with txs:=s.txs.set tx {x with program:=rest} }
   | none=>some { s with txs:=s.txs.set tx {x with program:=rest} }
  else none

def step (s:State):Label→Option State
 | .begin tx op=>
  if s.txs.get tx=none then some {s with txs:=s.txs.set tx ⟨op.program,none,false,none⟩}
  else none
 | .run tx=>
  (s.txs.get tx).bind fun x=>
   match x.program with
   | statement::rest=>exec s tx x statement rest
   | []=>none
 | .commit tx=>
  (s.txs.get tx).bind fun x=>
   match x.program with
   | []=>some ⟨(x.write.map (publish s.rows)).getD s.rows,s.txs.pop tx⟩
   | _::_=>none
 | .abort tx=>if s.txs.get tx=none then none else some {s with txs:=s.txs.pop tx}

def FreeDevice (rows:List Session)(device:DeviceId):Prop:=
 ∀row∈rows,isOpen row→ row.deviceId≠some device

structure RowsOk (rows:List Session):Prop where
 ids:(rows.map Session.id).Nodup
 live:∀row∈rows,isOpen row→isLiveStatus row.status
 oneOpen:∀row∈rows,∀row'∈rows,isOpen row→isOpen row'→
  ∀device,row.deviceId=some device→ row'.deviceId=some device→ row=row'

/-- An update never reopens a row and leaves an open one with a live status. -/
def UpdateOk (guard:Session→Bool)(set:Session→Session):Prop:=
 ∀row,guard row→(isOpen row→isLiveStatus row.status)→
  (set row).id=row.id∧(set row).deviceId=row.deviceId∧
   (isOpen (set row)→isOpen row∧isLiveStatus (set row).status)

/-- How the operations are laid out: an insert stands behind the lock and the recheck of its device,
and a write is the last statement. -/
def ProgramOk (device:Option DeviceId)(clear:Bool):List Statement→Prop
 | []=>True
 | .lockDevice d::rest=>
  clear=false∧(device=none∨device=some d)∧ProgramOk (some d) false rest
 | .noLiveSession d::rest=>device=some d∧ProgramOk device true rest
 | .insert row::rest=>
  clear∧row.deviceId=device∧isOpen row∧isLiveStatus row.status∧rest=[]
 | .unlessEnded _::rest=>ProgramOk device clear rest
 | .update _ guard set::rest=>UpdateOk guard set∧rest=[]

structure WriteOk (rows:List Session)(device:Option DeviceId)(w:Write):Prop where
 live:isOpen w.row→isLiveStatus w.row.status
 insert:∀row,w=.insert row→∃d,device=some d∧row.deviceId=some d∧
  FreeDevice rows d∧∀r∈rows,r.id≠row.id
 update:∀row,w=.update row→∃r∈rows,r.id=row.id∧row.deviceId=r.deviceId∧
  (isOpen row→isOpen r)

structure TxOk (rows:List Session)(x:Tx):Prop where
 program:ProgramOk x.device x.clear x.program
 clear:x.clear→∃d,x.device=some d∧FreeDevice rows d
 done:∀w,x.write=some w→x.program=[]
 write:∀w,x.write=some w→WriteOk rows x.device w

structure Inv (s:State):Prop where
 rows:RowsOk s.rows
 txs:∀tx x,s.txs.get tx=some x→TxOk s.rows x
 locks:∀tx tx' x x',s.txs.get tx=some x→s.txs.get tx'=some x'→
  ∀d,x.device=some d→x'.device=some d→tx=tx'
 writes:∀tx tx' x x',s.txs.get tx=some x→s.txs.get tx'=some x'→
  ∀w w',x.write=some w→x'.write=some w'→w.row.id=w'.row.id→tx=tx'

lemma updateOk_ended (guard:Session→Bool)(status:Session→SessionStatus)(now:Instant):
 UpdateOk guard fun row=>ended row (status row) now:=
 fun _ _ _=>⟨rfl,rfl,nofun⟩
lemma programOk_lockIfPresent {device:Option DeviceId}{rest:List Statement}
 (h:∀device,ProgramOk device false rest):ProgramOk none false (lockIfPresent device++rest):=by
 cases device with
 | none=>exact h none
 | some d=>exact ⟨rfl,.inl rfl,h (some d)⟩
lemma updateOk_reported (status:SessionStatus)(staleRead:Bool)(now:Instant):
 UpdateOk (fun _=>true) (reported status staleRead now):=by
 intro row _ _
 unfold reported
 split
 · exact ⟨rfl,rfl,nofun⟩
 · rename_i hclosed
   have hnotOpen:isOpen row≠true:=fun hopen=>hclosed (by rw[hopen];rfl)
   exact ⟨rfl,rfl,fun hopen=>absurd hopen hnotOpen⟩
lemma programOk_updateSessionStatus (id:RowId)(device:Option DeviceId)(status:SessionStatus)
 (flushed staleRead:Bool)(now:Instant):
 ProgramOk none false (updateSessionStatus id device status flushed staleRead now):=by
 have hreported:ProgramOk none false
   (match device with
   | none=>[.update id (fun _=>true) (reported status staleRead now)]
   | some device=>[.lockDevice device,.lockDevice device,
     .update id (fun _=>true) (reported status false now)]):=by
  cases device with
  | none=>exact ⟨updateOk_reported status staleRead now,rfl⟩
  | some=>exact ⟨rfl,.inl rfl,rfl,.inr rfl,updateOk_reported status false now,rfl⟩
 cases status with
 | running=>
  cases flushed with
  | false=>exact trivial
  | true=>exact ⟨fun row _ _=>⟨rfl,rfl,fun hopen=>⟨hopen,rfl⟩⟩,rfl⟩
 | passed | failed | error | pending=>cases device <;> exact hreported
lemma program_ok (op:Operation):ProgramOk none false op.program:=by
 cases op with
 | gridClaim | claimProbeSession=>
  exact ⟨rfl,.inl rfl,rfl,rfl,rfl,rfl,rfl,rfl⟩
 | promoteToRunning=>
  refine programOk_lockIfPresent fun _=>⟨?_,rfl⟩
  intro row _ _
  exact ⟨rfl,rfl,fun hopen=>⟨hopen,rfl⟩⟩
 | fail _ _ now=>
  exact programOk_lockIfPresent fun _=>⟨updateOk_ended _ (fun _=>.error) now,rfl⟩
 | confirmProbeSession=>
  refine ⟨?_,rfl⟩
  intro row _ _
  exact ⟨rfl,rfl,fun hopen=>⟨hopen,rfl⟩⟩
 | finalizeProbeSession _ result now=>
  exact ⟨updateOk_ended _ (fun _=>mapProbeResultToStatus result) now,rfl⟩
 | closeRunningSessionLocked _ _ runState statusOverride now=>
  exact ⟨rfl,.inl rfl,
   updateOk_ended _ (fun _=>statusOverride.getD (terminalStatus runState)) now,rfl⟩
 | terminalizeSessionWithoutDevice _ runState now=>
  exact ⟨updateOk_ended _ (fun _=>terminalStatus runState) now,rfl⟩
 | updateSessionStatus id device status flushed staleRead now=>
  exact programOk_updateSessionStatus id device status flushed staleRead now

section
variable {s:State}{tx:TxId}{x x':Tx}

lemma noOther_iff {p:Tx→Bool}:noOther s tx p↔∀tx' y,s.txs.get tx'=some y→tx'≠tx→p y=false:=by
 simp only[noOther,List.all_eq_true,Bool.or_eq_true,decide_eq_true_eq,Bool.not_eq_true',
  Prod.forall,←Dict.get_eq_some_iff]
 exact forall_congr' fun tx'=>forall_congr' fun y=>imp_congr_right fun _=>by tauto
lemma Inv.set (h:Inv s)(hok:TxOk s.rows x')
 (hlock:∀tx' y,s.txs.get tx'=some y→tx'≠tx→∀d,x'.device=some d→y.device≠some d)
 (hwrite:∀tx' y,s.txs.get tx'=some y→tx'≠tx→
  ∀w w',x'.write=some w→y.write=some w'→w.row.id≠w'.row.id):Inv {s with txs:=s.txs.set tx x'}:=by
 constructor
 · exact h.rows
 · exact Dict.forall_get_set hok h.txs
 · intro a b xa xb ha hb d hda hdb
   rcases Dict.get_set_eq_some ha with ⟨rfl,rfl⟩|⟨hne,hold⟩ <;>
    rcases Dict.get_set_eq_some hb with ⟨rfl,rfl⟩|⟨hne',hold'⟩
   · rfl
   · exact absurd hdb (hlock b xb hold' hne' d hda)
   · exact absurd hda (hlock a xa hold hne d hdb)
   · exact h.locks a b xa xb hold hold' d hda hdb
 · intro a b xa xb ha hb w w' hw hw' hid
   rcases Dict.get_set_eq_some ha with ⟨rfl,rfl⟩|⟨hne,hold⟩ <;>
    rcases Dict.get_set_eq_some hb with ⟨rfl,rfl⟩|⟨hne',hold'⟩
   · rfl
   · exact absurd hid (hwrite b xb hold' hne' w w' hw hw')
   · exact absurd hid.symm (hwrite a xa hold hne w' w hw' hw)
   · exact h.writes a b xa xb hold hold' w w' hw hw' hid
lemma Inv.keep (h:Inv s)(hx:s.txs.get tx=some x)(hok:TxOk s.rows x')
 (hdevice:x'.device=x.device)(hwrite:x'.write=x.write):Inv {s with txs:=s.txs.set tx x'}:=by
 refine h.set hok ?_ ?_
 · intro tx' y hy hne d hd hyd
   rw[hdevice] at hd
   exact hne (h.locks tx' tx y x hy hx d hyd hd)
 · intro tx' y hy hne w w' hw hw' hid
   rw[hwrite] at hw
   exact hne (h.writes tx' tx y x hy hx w' w hw' hw hid.symm)
lemma Inv.pop (h:Inv s):Inv {s with txs:=s.txs.pop tx}:=by
 refine ⟨h.rows,?_,?_,?_⟩
 · intro tx' y hy
   exact h.txs tx' y (Dict.get_pop_eq_some hy).2
 · intro a b xa xb ha hb
   exact h.locks a b xa xb (Dict.get_pop_eq_some ha).2 (Dict.get_pop_eq_some hb).2
 · intro a b xa xb ha hb
   exact h.writes a b xa xb (Dict.get_pop_eq_some ha).2 (Dict.get_pop_eq_some hb).2
lemma RowsOk.free (h:RowsOk s.rows){d:DeviceId}
 (hnone:¬(s.rows.any fun row=>isLive row&&decide (row.deviceId=some d))):FreeDevice s.rows d:=by
 intro row hmem hopen hdevice
 refine hnone (List.any_eq_true.mpr ⟨row,hmem,?_⟩)
 simp[isLive,h.live row hmem hopen,hopen,hdevice]

variable {rest:List Statement}{statement:Statement}{s':State}

lemma TxOk.idle (hok:TxOk s.rows x)(hprogram:x.program=statement::rest):x.write=none:=by
 cases hw:x.write with
 | none=>rfl
 | some w=>
  rw[hok.done w hw] at hprogram
  cases hprogram
lemma TxOk.of_idle (hidle:x.write=none)(hprogram:ProgramOk x.device x.clear x.program)
 (hclear:x.clear→∃d,x.device=some d∧FreeDevice s.rows d):TxOk s.rows x:=by
 refine ⟨hprogram,hclear,?_,?_⟩ <;>
 · intro w hw
   rw[hidle] at hw
   cases hw
lemma inv_lockDevice (h:Inv s)(hx:s.txs.get tx=some x){d:DeviceId}
 (hprogram:x.program=.lockDevice d::rest)(hexec:exec s tx x (.lockDevice d) rest=some s'):Inv s':=by
 have hok:=h.txs tx x hx
 have hidle:=hok.idle hprogram
 have hlayout:=hok.program
 rw[hprogram] at hlayout
 obtain ⟨hclear,-,hrest⟩:=hlayout
 rw[exec] at hexec
 split at hexec
 · rename_i hfree
   cases hexec
   refine h.set (.of_idle hidle ?_ ?_) ?_ ?_
   · dsimp only
     rw[hclear]
     exact hrest
   · intro hc
     rw[hclear] at hc
     cases hc
   · rintro tx' y hy hne d' ⟨rfl⟩ hyd
     exact of_decide_eq_false (noOther_iff.mp hfree tx' y hy hne) hyd
   · intro tx' y hy hne w w' hw
     rw[hidle] at hw
     cases hw
 · cases hexec

lemma inv_insert (h:Inv s)(hx:s.txs.get tx=some x){row:Session}
 (hprogram:x.program=.insert row::rest)(hexec:exec s tx x (.insert row) rest=some s'):Inv s':=by
 have hok:=h.txs tx x hx
 have hlayout:=hok.program
 rw[hprogram] at hlayout
 obtain ⟨hclear,hdevice,-,hlive,rfl⟩:=hlayout
 obtain ⟨d,hd,hfree⟩:=hok.clear hclear
 rw[exec] at hexec
 split at hexec
 · rename_i hfresh
   rw[Bool.and_eq_true] at hfresh
   cases hexec
   refine h.set ⟨trivial,nofun,fun _ _=>rfl,?_⟩ ?_ ?_
   · rintro w ⟨rfl⟩
     refine ⟨fun _=>hlive,?_,nofun⟩
     rintro row' ⟨rfl⟩
     refine ⟨d,hd,hdevice.trans hd,hfree,?_⟩
     intro r hr
     simpa using List.all_eq_true.mp hfresh.1 r hr
   · intro tx' y hy hne d' hd' hyd
     exact hne (h.locks tx' tx y x hy hx d' hyd hd')
   · rintro tx' y hy hne w w' ⟨rfl⟩ hw' hid
     have hother:=noOther_iff.mp hfresh.2 tx' y hy hne
     rw[hw'] at hother
     exact of_decide_eq_false hother hid.symm
 · cases hexec

lemma inv_update (h:Inv s)(hx:s.txs.get tx=some x){id:RowId}{guard:Session→Bool}
 {set:Session→Session}(hprogram:x.program=.update id guard set::rest)
 (hexec:exec s tx x (.update id guard set) rest=some s'):Inv s':=by
 have hok:=h.txs tx x hx
 have hlayout:=hok.program
 rw[hprogram] at hlayout
 obtain ⟨hupdate,rfl⟩:=hlayout
 have hskip:Inv { s with txs:=s.txs.set tx {x with program:=[]} }:=
  h.keep hx ⟨trivial,hok.clear,fun _ _=>rfl,hok.write⟩ rfl rfl
 rw[exec] at hexec
 split at hexec
 · rename_i hunlocked
   split at hexec
   · rename_i row hrow
     have hmem:row∈s.rows:=List.mem_of_find?_eq_some hrow
     have hid:row.id=id:=by simpa using List.find?_some hrow
     split at hexec
     · rename_i hguard
       obtain ⟨hsameId,hsameDevice,hreopen⟩:=hupdate row hguard (h.rows.live row hmem)
       cases hexec
       refine h.set ⟨trivial,hok.clear,fun _ _=>rfl,?_⟩ ?_ ?_
       · rintro w ⟨rfl⟩
         refine ⟨fun hopen=>(hreopen hopen).2,nofun,?_⟩
         rintro row' ⟨rfl⟩
         exact ⟨row,hmem,hsameId.symm,hsameDevice,fun hopen=>(hreopen hopen).1⟩
       · intro tx' y hy hne d hd hyd
         exact hne (h.locks tx' tx y x hy hx d hyd hd)
       · rintro tx' y hy hne w w' ⟨rfl⟩ hw' hsame
         have hother:=noOther_iff.mp hunlocked tx' y hy hne
         rw[hw'] at hother
         exact of_decide_eq_false hother (hsame.symm.trans (hsameId.trans hid))
     · cases hexec
       exact hskip
   · cases hexec
     exact hskip
 · cases hexec

lemma inv_exec (h:Inv s)(hx:s.txs.get tx=some x)(hprogram:x.program=statement::rest)
 (hexec:exec s tx x statement rest=some s'):Inv s':=by
 have hok:=h.txs tx x hx
 have hidle:=hok.idle hprogram
 have hlayout:=hok.program
 cases statement with
 | lockDevice=>exact inv_lockDevice h hx hprogram hexec
 | noLiveSession d=>
  rw[hprogram] at hlayout
  obtain ⟨hdevice,hrest⟩:=hlayout
  rw[exec] at hexec
  split at hexec
  · cases hexec
    exact h.pop
  · rename_i hnone
    cases hexec
    exact h.keep hx (.of_idle hidle hrest fun _=>⟨d,hdevice,h.rows.free hnone⟩) rfl rfl
 | insert=>exact inv_insert h hx hprogram hexec
 | unlessEnded=>
  rw[hprogram] at hlayout
  rw[exec] at hexec
  split at hexec
  · cases hexec
    exact h.keep hx (.of_idle hidle hlayout hok.clear) rfl rfl
  · cases hexec
    exact h.keep hx (.of_idle hidle trivial hok.clear) rfl rfl
 | update=>exact inv_update h hx hprogram hexec

lemma exec_rows (hexec:exec s tx x statement rest=some s'):s'.rows=s.rows:=by
 cases statement with rw[exec] at hexec
 | lockDevice | insert=>
  split at hexec <;> cases hexec
  rfl
 | noLiveSession | unlessEnded=>
  split at hexec <;> cases hexec <;> rfl
 | update=>
  split at hexec
  · split at hexec
    · split at hexec <;> cases hexec <;> rfl
    · cases hexec
      rfl
  · cases hexec
end

section
variable {rows:List Session}{device:Option DeviceId}{w:Write}

section
variable (hwrite:WriteOk rows device w)
include hwrite

lemma mem_publish {row:Session}(hmem:row∈publish rows w):(row∈rows∧row.id≠w.row.id)∨row=w.row:=by
 cases w with
 | insert new=>
  obtain ⟨-,-,-,-,hfresh⟩:=hwrite.insert new rfl
  rcases List.mem_append.mp hmem with hmem|hmem
  · exact .inl ⟨hmem,hfresh row hmem⟩
  · exact .inr (List.mem_singleton.mp hmem)
 | update new=>
  obtain ⟨r,hr,rfl⟩:=List.mem_map.mp hmem
  by_cases hid:r.id=new.id
  · rw[if_pos hid]
    exact .inr rfl
  · rw[if_neg hid]
    exact .inl ⟨hr,hid⟩
lemma WriteOk.alone (hrows:RowsOk rows)(hopen:isOpen w.row)
 {d:DeviceId}(hd:w.row.deviceId=some d){row:Session}(hmem:row∈rows)
 (hother:row.id≠w.row.id)(hrowOpen:isOpen row):row.deviceId≠some d:=by
 cases w with
 | insert new=>
  obtain ⟨d',-,hnew,hfree,-⟩:=hwrite.insert new rfl
  have hsame:some d'=some d:=hnew.symm.trans hd
  cases hsame
  exact hfree row hmem hrowOpen
 | update new=>
  obtain ⟨r,hr,hid,hdevice,hreopen⟩:=hwrite.update new rfl
  intro hrow
  have heq:=hrows.oneOpen row hmem r hr hrowOpen (hreopen hopen) d hrow (hdevice.symm.trans hd)
  rw[heq] at hother
  exact hother hid

lemma rowsOk_publish (hrows:RowsOk rows):RowsOk (publish rows w):=by
 constructor
 · cases w with
   | insert new=>
    obtain ⟨-,-,-,-,hfresh⟩:=hwrite.insert new rfl
    unfold publish
    rw[List.map_append,List.nodup_append]
    refine ⟨hrows.ids,List.nodup_singleton _,?_⟩
    intro id hid other hother heq
    obtain ⟨r,hr,rfl⟩:=List.mem_map.mp hid
    rw[List.map_singleton,List.mem_singleton] at hother
    exact hfresh r hr (heq.trans hother)
   | update new=>
    have hids:(publish rows (.update new)).map Session.id=rows.map Session.id:=by
     unfold publish
     rw[List.map_map]
     refine List.map_congr_left fun r _=>?_
     by_cases hid:r.id=new.id <;> simp[hid]
    rw[hids]
    exact hrows.ids
 · intro row hmem hopen
   rcases mem_publish hwrite hmem with ⟨hmem,-⟩|rfl
   · exact hrows.live row hmem hopen
   · exact hwrite.live hopen
 · intro row hmem row' hmem' hopen hopen' d hd hd'
   rcases mem_publish hwrite hmem with ⟨hold,hne⟩|rfl <;>
    rcases mem_publish hwrite hmem' with ⟨hold',hne'⟩|rfl
   · exact hrows.oneOpen row hold row' hold' hopen hopen' d hd hd'
   · exact absurd hd (hwrite.alone hrows hopen' hd' hold hne hopen)
   · exact absurd hd' (hwrite.alone hrows hopen hd hold' hne' hopen')
   · rfl
end

lemma FreeDevice.publish {d:DeviceId}(hfree:FreeDevice rows d)(hwrite:WriteOk rows device w)
 (hunheld:device≠some d):FreeDevice (publish rows w) d:=by
 intro row hmem hopen hdevice
 rcases mem_publish hwrite hmem with ⟨hmem,-⟩|rfl
 · exact hfree row hmem hopen hdevice
 · cases w with
   | insert new=>
    obtain ⟨d',hheld,hnew,-,-⟩:=hwrite.insert new rfl
    have hsame:some d'=some d:=hnew.symm.trans hdevice
    exact hunheld (hheld.trans hsame)
   | update new=>
    obtain ⟨r,hr,-,hsame,hreopen⟩:=hwrite.update new rfl
    exact hfree r hr (hreopen hopen) (hsame.symm.trans hdevice)
lemma TxOk.publish {x:Tx}(hok:TxOk rows x)(hwrite:WriteOk rows device w)
 (hlocks:∀d,x.device=some d→device≠some d)
 (hids:∀w',x.write=some w'→w'.row.id≠w.row.id):TxOk (publish rows w) x:=by
 refine ⟨hok.program,?_,hok.done,?_⟩
 · intro hclear
   obtain ⟨d,hd,hfree⟩:=hok.clear hclear
   exact ⟨d,hd,hfree.publish hwrite (hlocks d hd)⟩
 · intro w' hw'
   have hok':=hok.write w' hw'
   have hid:=hids w' hw'
   refine ⟨hok'.live,?_,?_⟩
   · rintro row rfl
     obtain ⟨d,hd,hrow,hfree,hfresh⟩:=hok'.insert row rfl
     refine ⟨d,hd,hrow,hfree.publish hwrite (hlocks d hd),?_⟩
     intro r hr
     rcases mem_publish hwrite hr with ⟨hr,-⟩|rfl
     · exact hfresh r hr
     · exact hid.symm
   · rintro row rfl
     obtain ⟨r,hr,hrid,hrest⟩:=hok'.update row rfl
     refine ⟨r,?_,hrid,hrest⟩
     have hne:r.id≠w.row.id:=fun h=>hid (hrid.symm.trans h)
     cases w with
     | insert=>exact List.mem_append_left _ hr
     | update=>exact List.mem_map.mpr ⟨r,hr,if_neg hne⟩
end

inductive Transition (s:State):State→Prop where
 | begin {tx:TxId}(op:Operation):
   Transition s {s with txs:=s.txs.set tx ⟨op.program,none,false,none⟩}
 | run {tx:TxId}{x:Tx}{statement:Statement}{rest:List Statement}{s':State}
   (hx:s.txs.get tx=some x)(hprogram:x.program=statement::rest)
   (hexec:exec s tx x statement rest=some s'):Transition s s'
 | commit {tx:TxId}{x:Tx}{w:Write}(hx:s.txs.get tx=some x)(hw:x.write=some w):
   Transition s ⟨publish s.rows w,s.txs.pop tx⟩
 | drop {tx:TxId}:Transition s {s with txs:=s.txs.pop tx}

variable {label:Label}{s':State}{id:RowId}

lemma transition_of_step {s:State}(hstep:step s label=some s'):Transition s s':=by
 cases label with
 | begin _ op=>
  rw[step] at hstep
  split at hstep
  · cases hstep
    exact .begin op
  · cases hstep
 | run tx=>
  obtain ⟨x,hx,hrun⟩:=Option.bind_eq_some_iff.mp hstep
  split at hrun
  · rename_i hprogram
    exact .run hx hprogram hrun
  · cases hrun
 | commit=>
  obtain ⟨x,hx,hcommit⟩:=Option.bind_eq_some_iff.mp hstep
  split at hcommit
  · cases hcommit
    cases hw:x.write with
    | none=>exact .drop
    | some=>exact .commit hx hw
  · cases hcommit
 | abort=>
  rw[step] at hstep
  split at hstep
  · cases hstep
  · cases hstep
    exact .drop

lemma inv_step {s:State}(h:Inv s)(hstep:step s label=some s'):Inv s':=by
 cases transition_of_step hstep with
 | begin op=>
  refine h.set (.of_idle rfl (program_ok op) nofun) ?_ ?_
  · intro tx' y _ _ d hd
    cases hd
  · intro tx' y _ _ w w' hw
    cases hw
 | run hx hprogram hexec=>exact inv_exec h hx hprogram hexec
 | @commit tx x w hx hw=>
  have hwrite:=(h.txs tx x hx).write w hw
  have hpop:Inv {s with txs:=s.txs.pop tx}:=h.pop
  refine ⟨rowsOk_publish hwrite h.rows,?_,hpop.locks,hpop.writes⟩
  intro tx' y hy
  obtain ⟨hne,hy⟩:=Dict.get_pop_eq_some hy
  refine (h.txs tx' y hy).publish hwrite ?_ ?_
  · intro d hd hxd
    exact hne (h.locks tx' tx y x hy hx d hd hxd)
  · intro w' hw' hid
    exact hne (h.writes tx' tx y x hy hx w' w hw' hw hid)
 | drop=>exact h.pop

def Ended (rows:List Session)(id:RowId):Prop:=∃row∈rows,row.id=id∧isOpen row=false

lemma Ended.publish {rows:List Session}{device:Option DeviceId}{w:Write}(hended:Ended rows id)
 (hrows:RowsOk rows)(hwrite:WriteOk rows device w):Ended (publish rows w) id:=by
 obtain ⟨row,hmem,rfl,hclosed⟩:=hended
 cases w with
 | insert=>exact ⟨row,List.mem_append_left _ hmem,rfl,hclosed⟩
 | update new=>
  by_cases hid:row.id=new.id
  · obtain ⟨r,hr,hrid,-,hreopen⟩:=hwrite.update new rfl
    have hsame:r=row:=List.inj_on_of_nodup_map hrows.ids hr hmem (hrid.trans hid.symm)
    refine ⟨new,List.mem_map.mpr ⟨row,hmem,if_pos hid⟩,hid.symm,?_⟩
    rw[←Bool.not_eq_true]
    intro hopen
    have:=hreopen hopen
    rw[hsame,hclosed] at this
    cases this
  · exact ⟨row,List.mem_map.mpr ⟨row,hmem,if_neg hid⟩,rfl,hclosed⟩
lemma ended_step {s:State}(h:Inv s)(hstep:step s label=some s')(hended:Ended s.rows id):
 Ended s'.rows id:=by
 cases transition_of_step hstep with
 | begin | drop=>exact hended
 | run _ _ hexec=>
  rw[exec_rows hexec]
  exact hended
 | commit hx hw=>exact hended.publish h.rows ((h.txs _ _ hx).write _ hw)
lemma ended_run {s:State}(h:Inv s){labels:List Label}
 (hrun:run step s labels=some s')(hended:Ended s.rows id):Ended s'.rows id:=
 run_related Inv (fun u v=>Ended u.rows id→Ended v.rows id) (fun _ hu=>hu)
  (fun _ _ _ huv hvw hu=>hvw (huv hu))
  (fun _ _ _ hu hstep=>⟨inv_step hu hstep,ended_step hu hstep⟩) h hrun hended
lemma RowsOk.inv {rows:List Session}(hrows:RowsOk rows):Inv ⟨rows,.empty⟩:=by
 refine ⟨hrows,?_,?_,?_⟩
 · intro tx x hx
   cases hx
 · intro tx tx' x x' hx
   cases hx
 · intro tx tx' x x' hx
   cases hx

def liveOn (rows:List Session)(device:DeviceId):List Session:=
 rows.filter fun row=>isLive row&&row.deviceId=some device

lemma RowsOk.liveOn_length {rows:List Session}(hrows:RowsOk rows)(device:DeviceId):
 (liveOn rows device).length≤1:=by
 have hnodup:(liveOn rows device).Nodup:=(hrows.ids.of_map).filter _
 have hopen:∀row∈liveOn rows device,
   row∈rows∧isOpen row∧row.deviceId=some device:=by
  intro row hrow
  obtain ⟨hmem,hlive⟩:=List.mem_filter.mp hrow
  simp only[isLive,Bool.and_eq_true,decide_eq_true_eq] at hlive
  exact ⟨hmem,hlive.1.2,hlive.2⟩
 refine Dict.length_le_one hnodup ?_
 intro a ha b hb
 obtain ⟨ha,haOpen,haDevice⟩:=hopen a ha
 obtain ⟨hb,hbOpen,hbDevice⟩:=hopen b hb
 exact hrows.oneOpen a ha b hb haOpen hbOpen device haDevice hbDevice

/-- Whatever transactions interleave over a well-formed table, a device never has two live sessions,
and a row that has ended stays in the table and is never live again. -/
theorem one_live_session_per_device (rows:List Session) (hrows:RowsOk rows) (labels:List Label)
 (s:State) (hrun:run step ⟨rows,.empty⟩ labels=some s):
 (∀device,(liveOn s.rows device).length≤1)∧
  ∀row∈s.rows,row.endedAt≠none→∀more s',run step s more=some s'→
   (∃row'∈s'.rows,row'.id=row.id)∧
    ∀row'∈s'.rows,row'.id=row.id→ isLive row'=false:=by
 have hinv:Inv s:=run_invariant Inv (fun _ _ _=>inv_step) hrows.inv hrun
 refine ⟨hinv.rows.liveOn_length,?_⟩
 intro row hmem hended more s' hmore
 have hclosed:isOpen row=false:=by
  simpa[isOpen,Option.isSome_iff_ne_none] using hended
 have hinv':Inv s':=run_invariant Inv (fun _ _ _=>inv_step) hinv hmore
 obtain ⟨row₁,hmem₁,hid₁,hclosed₁⟩:=ended_run hinv hmore ⟨row,hmem,rfl,hclosed⟩
 refine ⟨⟨row₁,hmem₁,hid₁⟩,?_⟩
 intro row' hmem' hid
 have heq:row'=row₁:=
  List.inj_on_of_nodup_map hinv'.rows.ids hmem' hmem₁ (hid.trans hid₁.symm)
 rw[heq,isLive,hclosed₁,Bool.and_false]

/-- The loser of two claims waits for the lock and finds the winner's row, which is promoted, closed, and
reported `running` afterwards. -/
def racedClaims:List Label:=
 [.begin 1 (.gridClaim 7 100 "alloc-1" none 51 none),.begin 2 (.gridClaim 7 200 "alloc-2" none 52 none),
  .run 1,.run 1,.run 1,.commit 1,.run 2,.run 2,
  .begin 3 (.promoteToRunning 100 (some 7) "appium-1"),.run 3,.run 3,.commit 3,
  .begin 4 (.closeRunningSessionLocked 7 100 none none 30),.run 4,.run 4,.commit 4]

def lateReport:List Label:=
 [.begin 5 (.updateSessionStatus 100 (some 7) .running true false 40),.run 5,.commit 5]

theorem one_live_session_per_device_racedClaims:
 ∃s s',run step ⟨[],.empty⟩ racedClaims=some s∧
  s.rows=[⟨100, "appium-1",some 7,none,.passed,some 30,some 51,none⟩]∧
  run step s lateReport=some s'∧
  s'.rows=[⟨100, "appium-1",some 7,none,.running,some 30,some 51,none⟩]∧
  (liveOn s.rows 7).length≤1∧∀row'∈s'.rows,row'.id=100→ isLive row'=false:=by
 have hrun:(run step ⟨[],.empty⟩ racedClaims).map State.rows
   = some [⟨100, "appium-1",some 7,none,.passed,some 30,some 51,none⟩]:=by rfl
 obtain ⟨s,hs,hrows⟩:=Option.map_eq_some_iff.mp hrun
 have hmore:((run step ⟨[],.empty⟩ racedClaims).bind
   fun u=>run step u lateReport).map State.rows
   = some [⟨100, "appium-1",some 7,none,.running,some 30,some 51,none⟩]:=by rfl
 rw[hs,Option.bind_some] at hmore
 obtain ⟨s',hs',hrows'⟩:=Option.map_eq_some_iff.mp hmore
 obtain ⟨hone,hfinal⟩:=
  one_live_session_per_device [] ⟨List.nodup_nil,nofun,nofun⟩ racedClaims s hs
 refine ⟨s,s',hs,hrows,hs',hrows',hone 7,?_⟩
 have hmem:⟨100, "appium-1",some 7,none,.passed,some 30,some 51,none⟩∈s.rows:=by
  rw[hrows]
  exact List.mem_singleton_self _
 exact (hfinal _ hmem nofun lateReport s' hs').2
end GridFleet.SessionLifecycle
