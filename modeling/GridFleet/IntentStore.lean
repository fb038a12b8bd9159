import GridFleet.IntentReconciler
namespace GridFleet.IntentStore
open Decision IntentReconciler List

structure IntentTable where
 rows:List DeviceIntent
 nextId:RowId
 ids_unique:(rows.map DeviceIntent.id).Nodup
 ids_fresh:∀row∈rows,row.id<nextId
 sources_unique:(rows.map DeviceIntent.source).Nodup

structure IntentRegistration where
 source:String
 kind:CommandKind
 payload:JsonObject
 runId:Option RunId
 expiresAt:Option Instant

namespace IntentTable

def modify (t:IntentTable)(f:DeviceIntent→DeviceIntent)
 (hid:∀row,(f row).id=row.id)(hsource:∀row,(f row).source=row.source):IntentTable where
 rows:=t.rows.map f
 nextId:=t.nextId
 ids_unique:=by
  rw [map_map,show DeviceIntent.id ∘ f=DeviceIntent.id from funext hid]
  exact t.ids_unique
 ids_fresh:=by
  intro row hmem
  obtain ⟨before,hbefore,rfl⟩:=mem_map.mp hmem
  rw [hid]
  exact t.ids_fresh before hbefore
 sources_unique:=by
  rw [map_map,show DeviceIntent.source ∘ f=DeviceIntent.source from funext hsource]
  exact t.sources_unique

def delete (t:IntentTable)(p:DeviceIntent→Bool):IntentTable where
 rows:=t.rows.filter fun row=>!p row
 nextId:=t.nextId
 ids_unique:=t.ids_unique.sublist (filter_sublist.map _)
 ids_fresh:=fun row hmem=>t.ids_fresh row (mem_filter.mp hmem).1
 sources_unique:=t.sources_unique.sublist (filter_sublist.map _)

def insert (t:IntentTable)(row:DeviceIntent)
 (hsource:∀other∈t.rows,other.source≠row.source):IntentTable where
 rows:=t.rows++[{row with id:=t.nextId}]
 nextId:=t.nextId+1
 ids_unique:=by
  rw [map_append,nodup_append]
  refine ⟨t.ids_unique,nodup_singleton _,?_⟩
  intro id hid other hother heq
  obtain ⟨before,hbefore,rfl⟩:=mem_map.mp hid
  rw [map_singleton,mem_singleton] at hother
  exact (t.ids_fresh before hbefore).ne (heq.trans hother)
 ids_fresh:=by
  intro before hmem
  rcases mem_append.mp hmem with hmem|hmem
  · exact Nat.lt_succ_of_lt (t.ids_fresh before hmem)
  · rw [mem_singleton.mp hmem]
    exact Nat.lt_succ_self _
 sources_unique:=by
  rw [map_append,nodup_append]
  refine ⟨t.sources_unique,nodup_singleton _,?_⟩
  intro source hmem other hother heq
  obtain ⟨before,hbefore,rfl⟩:=mem_map.mp hmem
  rw [map_singleton,mem_singleton] at hother
  exact hsource before hbefore (heq.trans hother)

def upsert (t:IntentTable)(deviceId:DeviceId)(reg:IntentRegistration):IntentTable:=
 if hstored:(t.rows.any fun row=>row.source=reg.source) then
  t.modify
   (fun row=>
    if row.source=reg.source then
     { row with
       kind:=reg.kind.value,runId:=reg.runId,payload:=reg.payload
       expiresAt:=reg.expiresAt }
    else row)
   (fun row=>by split <;> rfl) (fun row=>by split <;> rfl)
 else
  t.insert ⟨0,deviceId,reg.source,reg.kind.value,reg.runId,reg.payload,reg.expiresAt⟩
   (fun other hmem heq=>hstored (any_eq_true.mpr ⟨other,hmem,decide_eq_true heq⟩))

def applyWrite (t:IntentTable):IntentWrite→IntentTable
 | .delete id=>t.delete fun row=>row.id=id
 | .setPayload id payload=>
  t.modify (fun row=>if row.id=id then {row with payload:=payload} else row)
   (fun row=>by split <;> rfl) (fun row=>by split <;> rfl)
end IntentTable

/-- The sources whose registration may have to keep a stored stamp. -/
def stampableSources (intents:List IntentRegistration):List String:=
 (intents.filter fun reg=>(reg.payload.get targetReleaseKey).isSome&&
  (payloadGet reg.payload restartRequestedAtKey).isNone).map IntentRegistration.source

def preservedStamp (t:IntentTable)(intents:List IntentRegistration)(reg:IntentRegistration):
 Option String:=do
 let row ←if reg.source∈stampableSources intents then t.rows.find? fun row=>row.source=reg.source
  else none
 let stamp ←textOf (payloadGet row.payload restartRequestedAtKey)
 if payloadGet row.payload targetReleaseKey=payloadGet reg.payload targetReleaseKey then some stamp
 else none

def withPreservedStamp (t:IntentTable)(intents:List IntentRegistration)
 (reg:IntentRegistration):IntentRegistration:=
 match preservedStamp t intents reg with
 | some stamp=>{reg with payload:=reg.payload.set restartRequestedAtKey (.str stamp)}
 | none=>reg

/-- `none` is the batch refused for naming one source twice. -/
def registerIntents (t:IntentTable)(deviceId:DeviceId)(intents:List IntentRegistration):
 Option IntentTable:=
 if (intents.map IntentRegistration.source).Nodup then
  some ((intents.map (withPreservedStamp t intents)).foldl (fun t reg=>t.upsert deviceId reg) t)
 else none

def revokeIntent (t:IntentTable)(source:String):IntentTable:=
 t.delete fun row=>row.source=source
def deleteExpiredIntents (t:IntentTable)(now:Instant):IntentTable:=
 t.delete fun row=>row.expiresAt.any (· ≤ now)

section
variable {t:IntentTable}{row:DeviceIntent}

lemma mem_modify {f:DeviceIntent→DeviceIntent}{hid:∀row,(f row).id=row.id}
 {hsource:∀row,(f row).source=row.source}:
 row∈(t.modify f hid hsource).rows↔∃before∈t.rows,f before=row:=
 mem_map
lemma mem_setPayload {id:RowId}{payload:JsonObject}:
 row∈(t.applyWrite (.setPayload id payload)).rows↔
  ∃before∈t.rows,(if before.id=id then {before with payload:=payload} else before)=row:=
 mem_map
lemma mem_delete {p:DeviceIntent→Bool}:row∈(t.delete p).rows↔row∈t.rows∧p row=false:=by
 simp[IntentTable.delete]

variable {deviceId:DeviceId}{reg:IntentRegistration}{intents:List IntentRegistration}
 {u:IntentTable}

lemma mem_upsert (hmem:row∈(t.upsert deviceId reg).rows):(row∈t.rows∧row.source≠reg.source)∨
  (row.source=reg.source∧row.kind=reg.kind.value∧row.payload=reg.payload∧
   row.expiresAt=reg.expiresAt∧((∃before∈t.rows,before.source=reg.source∧row.id=before.id)∨row.id=t.nextId)):=by
 unfold IntentTable.upsert at hmem
 split at hmem
 · obtain ⟨before,hbefore,rfl⟩:=mem_modify.mp hmem
   by_cases hsource:before.source=reg.source
   · rw[if_pos hsource]
     exact .inr ⟨hsource,rfl,rfl,rfl,.inl ⟨before,hbefore,hsource,rfl⟩⟩
   · rw[if_neg hsource]
     exact .inl ⟨hbefore,hsource⟩
 · rename_i habsent
   rcases mem_append.mp hmem with hmem|hmem
   · refine .inl ⟨hmem,fun hsource=>habsent ?_⟩
     exact any_eq_true.mpr ⟨row,hmem,decide_eq_true hsource⟩
   · rw[mem_singleton.mp hmem]
     exact .inr ⟨rfl,rfl,rfl,rfl,.inr rfl⟩
lemma mem_upsert_of_ne (hsource:row.source≠reg.source):
 row∈(t.upsert deviceId reg).rows↔row∈t.rows:=by
 constructor
 · intro hmem
   rcases mem_upsert hmem with ⟨hmem,-⟩|⟨heq,-⟩
   · exact hmem
   · exact absurd heq hsource
 · intro hmem
   unfold IntentTable.upsert
   split
   · exact mem_modify.mpr ⟨row,hmem,if_neg hsource⟩
   · exact mem_append_left _ hmem
lemma mem_registerIntents_of_notMem (h:registerIntents t deviceId intents=some u)
 (hsource:∀reg∈intents,row.source≠reg.source):row∈u.rows↔row∈t.rows:=by
 unfold registerIntents at h
 split at h
 · cases h
   have hfold:∀(regs:List IntentRegistration)(t:IntentTable),
     (∀reg∈regs,row.source≠reg.source)→
     (row∈(regs.foldl (fun t reg=>t.upsert deviceId reg) t).rows↔row∈t.rows):=by
    intro regs
    induction regs with
    | nil=>exact fun t _=>Iff.rfl
    | cons reg _ ih=>
     intro t hregs
     rw[foldl_cons,ih _ fun r hr=>hregs r (mem_cons_of_mem _ hr)]
     exact mem_upsert_of_ne (hregs reg mem_cons_self)
   refine hfold _ t ?_
   intro reg hreg
   obtain ⟨before,hbefore,rfl⟩:=mem_map.mp hreg
   have hsame:(withPreservedStamp t intents before).source=before.source:=by
    unfold withPreservedStamp
    split <;> rfl
   rw[hsame]
   exact hsource before hbefore
 · cases h

lemma mem_registerIntents (h:registerIntents t deviceId intents=some u)(hmem:row∈u.rows):
 row∈t.rows∨∃reg∈intents,row.source=reg.source∧row.kind=reg.kind.value∧
  row.expiresAt=reg.expiresAt:=by
 unfold registerIntents at h
 split at h
 · cases h
   have hfold:∀(regs:List IntentRegistration)(t:IntentTable),
     row∈(regs.foldl (fun t reg=>t.upsert deviceId reg) t).rows→
     row∈t.rows∨∃reg∈regs,row.source=reg.source∧row.kind=reg.kind.value∧
      row.expiresAt=reg.expiresAt:=by
    intro regs
    induction regs with
    | nil=>exact fun t hmem=>.inl hmem
    | cons reg _ ih=>
     intro t hmem
     rcases ih _ hmem with hmem|⟨r,hr,hkeys⟩
     · rcases mem_upsert hmem with ⟨hmem,-⟩|⟨hsource,hkind,-,hexpiry,-⟩
       · exact .inl hmem
       · exact .inr ⟨reg,mem_cons_self,hsource,hkind,hexpiry⟩
     · exact .inr ⟨r,mem_cons_of_mem _ hr,hkeys⟩
   rcases hfold _ t hmem with hmem|⟨reg,hreg,hsource,hkind,hexpiry⟩
   · exact .inl hmem
   · obtain ⟨before,hbefore,rfl⟩:=mem_map.mp hreg
     refine .inr ⟨before,hbefore,?_⟩
     rw[hsource,hkind,hexpiry]
     unfold withPreservedStamp
     split <;> exact ⟨rfl,rfl,rfl⟩
 · cases h

lemma rolloutRow_eq_some_iff:rolloutRow t.rows deviceId=some row↔
  row∈t.rows∧row.source=releaseRolloutIntentSource deviceId:=
 Sql.find_eq_some_iff t.sources_unique
lemma rolloutRow_congr
 (h:∀row,row.source=releaseRolloutIntentSource deviceId→(row∈u.rows↔row∈t.rows)):
 rolloutRow u.rows deviceId=rolloutRow t.rows deviceId:=by
 ext row
 rw[rolloutRow_eq_some_iff,rolloutRow_eq_some_iff]
 exact and_congr_left fun hsource=>h row hsource
end
end GridFleet.IntentStore
