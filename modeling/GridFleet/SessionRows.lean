import GridFleet.SessionLifecycle
/-! A session row is claimed pending, gets its Appium session when it is promoted, and ends once. A
transaction that read the table earlier can rely on what later versions of a row have kept. -/
namespace GridFleet.SessionRows
open SessionLifecycle (isLive isLiveStatus isOpen ended)

/-- A later version of a row: if it still claims its device it did so before, on the same device, and a
running row keeps its Appium session. -/
def RowLater (row row':Session):Prop:=
 isLive row'→isLive row∧row'.deviceId=row.deviceId∧
  (row.status=.running→ row'.status=.running∧row'.sessionId=row.sessionId)

lemma rowLater_refl (row:Session):RowLater row row:=fun h=>⟨h,rfl,fun hrun=>⟨hrun,rfl⟩⟩
lemma RowLater.trans {a b c:Session}(h:RowLater a b)(h':RowLater b c):RowLater a c:=by
 intro hlive
 obtain ⟨hliveB,hdeviceB,hrunningB⟩:=h' hlive
 obtain ⟨hliveA,hdeviceA,hrunningA⟩:=h hliveB
 refine ⟨hliveA,hdeviceB.trans hdeviceA,fun hrunning=>?_⟩
 obtain ⟨hstatus,hid⟩:=hrunningA hrunning
 obtain ⟨hstatus',hid'⟩:=hrunningB hstatus
 exact ⟨hstatus',hid'.trans hid⟩
lemma isLive_ended (row:Session)(status:SessionStatus)(now:Instant):
 isLive (ended row status now)=false:=by
 simp[isLive,ended,isOpen]
lemma rowLater_ended (row:Session)(status:SessionStatus)(now:Instant):
 RowLater row (ended row status now):=by
 intro h
 rw[isLive_ended] at h
 cases h
lemma rowLater_promoted {row:Session}(hpending:row.status=.pending)(appiumSessionId:String):
 RowLater row {row with sessionId:=appiumSessionId,status:=.running}:=by
 intro h
 refine ⟨?_,rfl,fun hrun=>?_⟩
 · have hopen:isOpen row:=by simpa[isLive,isLiveStatus,isOpen] using h
   simp[isLive,isLiveStatus,hpending,hopen]
 · rw[hpending] at hrun
   cases hrun

def RowsLater (sessions sessions':Dict RowId Session):Prop:=
 ∀pk row,sessions.get pk=some row→∃row',sessions'.get pk=some row'∧RowLater row row'

lemma rowsLater_refl (sessions:Dict RowId Session):RowsLater sessions sessions:=
 fun _ row hrow=>⟨row,hrow,rowLater_refl row⟩
lemma RowsLater.trans {a b c:Dict RowId Session}(h:RowsLater a b)(h':RowsLater b c):
 RowsLater a c:=by
 intro pk row hrow
 obtain ⟨middle,hmiddle,hlater⟩:=h pk row hrow
 obtain ⟨final,hfinal,hlater'⟩:=h' pk middle hmiddle
 exact ⟨final,hfinal,hlater.trans hlater'⟩
lemma rowsLater_map (sessions:Dict RowId Session){f:RowId→Session→Session}
 (hf:∀pk row,RowLater row (f pk row)):RowsLater sessions (sessions.map f):=by
 intro pk row hrow
 refine ⟨f pk row,?_,hf pk row⟩
 rw[Dict.get_map,hrow]
 rfl
lemma rowsLater_insert {sessions:Dict RowId Session}{pk:RowId}(row:Session)
 (hfresh:sessions.get pk=none):RowsLater sessions (sessions.set pk row):=by
 intro k old hold
 have hne:k≠pk:=by
  intro heq
  rw[heq,hfresh] at hold
  cases hold
 exact ⟨old,(Dict.get_set_of_ne _ _ hne).trans hold,rowLater_refl old⟩
end GridFleet.SessionRows
