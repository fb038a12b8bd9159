import GridFleet.RemediationLadder
import Mathlib.Order.Bounds.Basic
/-! The convergence pass reads the open backoff windows of the whole fleet in two statements; every other
remediation asks the ladder of its device. -/
namespace GridFleet.RemediationLog
open List Option

def LadderState.backoffActive (ladder:LadderState)(now:Instant):Option Instant:=
 ladder.backoffUntil.filter (now < ·)
def resetTime (log:List Entry)(deviceId:DeviceId):Option Instant:=
 ((log.filter fun e=>e.deviceId=deviceId∧e.kind=.reset).map Entry.at_).max?

def foldBackoff (log:List Entry)(out:Dict DeviceId Instant)(e:Entry):Dict DeviceId Instant:=
 match e.backoffUntil with
 | none=>out
 | some backoffUntil=>
  if (resetTime log e.deviceId).any (e.at_ ≤ ·) then out
  else if (out.get e.deviceId).all (· < backoffUntil) then out.set e.deviceId backoffUntil
  else out

def loadActiveBackoffs (log:List Entry)(now:Instant):Dict DeviceId Instant:=
 (log.filter fun e=>e.kind=.attempt∧e.backoffUntil.any (now < ·)).foldl (foldBackoff log) Dict.empty

/-- The row is strictly later than every reset of its device. -/
def Counts (log:List Entry)(e:Entry):Prop:=
 ∀reset∈log,reset.deviceId=e.deviceId→ reset.kind=.reset→ reset.at_<e.at_

variable {e:Entry}{log:List Entry}{t:Instant}{deviceId:DeviceId}

lemma resetTime_any_eq_false:(resetTime log e.deviceId).any (e.at_ ≤ ·)=false↔Counts log e:=by
 unfold resetTime Counts
 constructor
 · intro hnone reset hreset hdevice hkind
   by_contra hle
   have hmem:reset.at_∈(log.filter fun x=>x.deviceId=e.deviceId∧x.kind=.reset).map Entry.at_:=
    List.mem_map_of_mem (mem_filter.mpr ⟨hreset,by simp[hdevice,hkind]⟩)
   obtain ⟨latest,hlatest⟩:=isSome_iff_exists.mp (isSome_max?_of_mem hmem)
   have hbound:=(max?_eq_some_iff.mp hlatest).2 reset.at_ hmem
   simp only[hlatest,any_some,decide_eq_false_iff_not] at hnone
   exact hnone ((not_lt.mp hle).trans hbound)
 · intro hcounts
   rw[Option.any_eq_false]
   intro latest hlatest
   obtain ⟨reset,hreset,rfl⟩:=List.mem_map.mp (max?_mem hlatest)
   obtain ⟨hmem,hcond⟩:=mem_filter.mp hreset
   simp only[decide_eq_true_eq] at hcond
   simpa using hcounts reset hmem hcond.1 hcond.2

def deadlines (log rows:List Entry)(deviceId:DeviceId):Set Instant:=
 {u | ∃e∈rows,e.deviceId=deviceId∧e.backoffUntil=some u∧Counts log e}
def GreatestOf (S:Set Instant):Option Instant→Prop
 | none=>S=∅
 | some t=>IsGreatest S t

lemma GreatestOf.insert {S:Set Instant}{o:Option Instant}(h:GreatestOf S o)(u:Instant):
 GreatestOf (insert u S) (if o.all (· < u) then some u else o):=by
 cases o with
 | none=>
  cases (h:S=∅)
  exact ⟨.inl rfl,fun v hv=>(hv.resolve_right (Set.notMem_empty v)).le⟩
 | some t=>
  obtain ⟨hmem,hbound⟩:=(h:IsGreatest S t)
  by_cases htu:t<u
  · rw[if_pos (by simpa using htu)]
    refine ⟨.inl rfl,?_⟩
    rintro v (rfl|hv)
    · exact le_rfl
    · exact (hbound hv).trans htu.le
  · rw[if_neg (by simpa using htu)]
    refine ⟨.inr hmem,?_⟩
    rintro v (rfl|hv)
    · exact not_lt.mp htu
    · exact hbound hv
lemma GreatestOf.eq_some_iff {S:Set Instant}{o:Option Instant}(h:GreatestOf S o):
 o=some t↔IsGreatest S t:=by
 cases o with
 | none=>
  cases (h:S=∅)
  constructor
  · intro hsome
    cases hsome
  · intro hgreatest
    cases hgreatest.1
 | some greatest=>
  have hgreatest:IsGreatest S greatest:=h
  constructor
  · intro hsome
    cases hsome
    exact hgreatest
  · intro ht
    rw[hgreatest.unique ht]
lemma deadlines_concat_of_skipped {rows:List Entry}
 (hskip:∀u,¬(e.deviceId=deviceId∧e.backoffUntil=some u∧Counts log e)):
 deadlines log (rows++[e]) deviceId=deadlines log rows deviceId:=by
 ext u
 constructor
 · rintro ⟨x,hx,hrow⟩
   rcases mem_append.mp hx with hold|hnew
   · exact ⟨x,hold,hrow⟩
   · cases mem_singleton.mp hnew
     exact absurd hrow (hskip u)
 · rintro ⟨x,hx,hrow⟩
   exact ⟨x,mem_append_left _ hx,hrow⟩
lemma deadlines_concat {rows:List Entry}{deadline:Instant}(hdeadline:e.backoffUntil=some deadline)
 (hcounts:Counts log e):
 deadlines log (rows++[e]) e.deviceId=insert deadline (deadlines log rows e.deviceId):=by
 ext u
 constructor
 · rintro ⟨x,hx,hdevice,huntil,hrow⟩
   rcases mem_append.mp hx with hold|hnew
   · exact .inr ⟨x,hold,hdevice,huntil,hrow⟩
   · cases mem_singleton.mp hnew
     exact .inl (some.inj (huntil.symm.trans hdeadline))
 · rintro (rfl|⟨x,hx,hrow⟩)
   · exact ⟨e,by simp,rfl,hdeadline,hcounts⟩
   · exact ⟨x,mem_append_left _ hx,hrow⟩

lemma greatestOf_foldBackoff (log rows:List Entry)(deviceId:DeviceId):
 GreatestOf (deadlines log rows deviceId) ((rows.foldl (foldBackoff log) Dict.empty).get deviceId):=by
 induction rows using List.reverseRecOn generalizing deviceId with
 | nil=>exact Set.eq_empty_of_forall_notMem fun u ⟨x,hx,_⟩=>(by cases hx)
 | append_singleton rows e ih=>
  rw[foldl_append,foldl_cons,foldl_nil]
  generalize rows.foldl (foldBackoff log) Dict.empty=out at ih
  unfold foldBackoff
  cases hdeadline:e.backoffUntil with
  | none=>
   rw[deadlines_concat_of_skipped fun u hrow=>by cases hdeadline.symm.trans hrow.2.1]
   exact ih deviceId
  | some deadline=>
   simp only
   split
   · rename_i hreset
     have hskip:¬Counts log e:=fun hcounts=>by
      rw[resetTime_any_eq_false.mpr hcounts] at hreset
      cases hreset
     rw[deadlines_concat_of_skipped fun u hrow=>hskip hrow.2.2]
     exact ih deviceId
   · rename_i hcounts
     rw[Bool.not_eq_true,resetTime_any_eq_false] at hcounts
     by_cases hdevice:e.deviceId=deviceId
     · subst hdevice
       rw[deadlines_concat hdeadline hcounts]
       have hinsert:=(ih e.deviceId).insert deadline
       split
       · rename_i hgreater
         rw[if_pos hgreater] at hinsert
         rw[Dict.get_set_self]
         exact hinsert
       · rename_i hgreater
         rw[if_neg hgreater] at hinsert
         exact hinsert
     · rw[deadlines_concat_of_skipped fun u hrow=>hdevice hrow.1]
       have hother:deviceId≠e.deviceId:=fun heq=>hdevice heq.symm
       split
       · rw[Dict.get_set_of_ne _ _ hother]
         exact ih deviceId
       · exact ih deviceId

def attemptDeadlines (log:List Entry)(deviceId:DeviceId):Set Instant:=
 deadlines log (log.filter fun e=>e.kind=.attempt) deviceId

lemma mem_deadlines_active {now u:Instant}:
 u∈deadlines log (log.filter fun e=>e.kind=.attempt∧e.backoffUntil.any (now < ·)) deviceId↔
  u∈attemptDeadlines log deviceId∧now<u:=by
 constructor
 · rintro ⟨e,he,hdevice,huntil,hcounts⟩
   obtain ⟨hmem,hcond⟩:=mem_filter.mp he
   simp only[huntil,any_some,decide_eq_true_eq] at hcond
   exact ⟨⟨e,mem_filter.mpr ⟨hmem,decide_eq_true hcond.1⟩,hdevice,huntil,hcounts⟩,hcond.2⟩
 · rintro ⟨⟨e,he,hdevice,huntil,hcounts⟩,hopen⟩
   obtain ⟨hmem,hkind⟩:=mem_filter.mp he
   refine ⟨e,mem_filter.mpr ⟨hmem,?_⟩,hdevice,huntil,hcounts⟩
   simpa[huntil,hopen] using hkind
lemma greatestOf_loadActiveBackoffs (log:List Entry)(now:Instant)(deviceId:DeviceId):
 GreatestOf {u | u∈attemptDeadlines log deviceId∧now<u}
  ((loadActiveBackoffs log now).get deviceId):=by
 have hset:{u | u∈attemptDeadlines log deviceId∧now<u} =
   deadlines log (log.filter fun e=>e.kind=.attempt∧e.backoffUntil.any (now < ·)) deviceId:=
  Set.ext fun u=>mem_deadlines_active.symm
 rw[hset]
 exact greatestOf_foldBackoff log _ deviceId

def finalAttempt (log:List Entry)(deviceId:DeviceId):Option Entry:=
 ((window ((log.filter fun e=>e.deviceId=deviceId).insertionSort Entry.Le)).filter fun e=>
  e.kind=.attempt).getLast?

/-- A deadline that the ladder has open at `now`. -/
def FinalDeadline (log:List Entry)(deviceId:DeviceId)(t:Instant):Prop:=
 ∃final,finalAttempt log deviceId=some final∧final.backoffUntil=some t

lemma backoffActive_loadLadder {now:Instant}:
 (loadLadder log deviceId).backoffActive now=some t↔FinalDeadline log deviceId t∧now<t:=by
 have hbackoff:(loadLadder log deviceId).backoffUntil =
   (finalAttempt log deviceId).bind Entry.backoffUntil:=by
  rw[loadLadder,deriveLadder_eq]
  rfl
 rw[LadderState.backoffActive,hbackoff,filter_eq_some_iff,bind_eq_some_iff,
  decide_eq_true_eq]
 exact Iff.rfl

/-- The last attempt since the reset has the latest deadline of all attempts that are strictly later
than every reset, as far as these deadlines are still ahead. -/
structure FinalGoverns (log:List Entry)(deviceId:DeviceId)(now:Instant):Prop where
 counts:∀t,FinalDeadline log deviceId t→now<t→t∈attemptDeadlines log deviceId
 latest:∀u∈attemptDeadlines log deviceId,now<u→∃t,FinalDeadline log deviceId t∧u≤t

lemma finalDeadline_unique {u:Instant}(ht:FinalDeadline log deviceId t)
 (hu:FinalDeadline log deviceId u):t=u:=by
 obtain ⟨final,hfinal,htime⟩:=ht
 obtain ⟨other,hother,hotherTime⟩:=hu
 cases hfinal.symm.trans hother
 exact some.inj (htime.symm.trans hotherTime)

theorem active_backoffs_agree_iff (log:List Entry) (deviceId:DeviceId) (now:Instant):
 (∀t,(loadActiveBackoffs log now).get deviceId=some t↔
  (loadLadder log deviceId).backoffActive now=some t)↔FinalGoverns log deviceId now:=by
 have hload:=greatestOf_loadActiveBackoffs log now deviceId
 simp only[hload.eq_some_iff,backoffActive_loadLadder]
 constructor
 · intro hagree
   refine ⟨fun t hfinal hopen=>((hagree t).mpr ⟨hfinal,hopen⟩).1.1,fun u hu hopen=>?_⟩
   -- an open deadline means that the load has a greatest one, which is then the ladder's
   cases hget:(loadActiveBackoffs log now).get deviceId with
   | none=>
    rw[hget] at hload
    have hempty:{v | v∈attemptDeadlines log deviceId∧now<v}=∅:=hload
    exact absurd (show u∈{v | v∈attemptDeadlines log deviceId∧now<v} from ⟨hu,hopen⟩)
     (hempty ▸ Set.notMem_empty u)
   | some greatest=>
    have hgreatest:=hload.eq_some_iff.mp hget
    exact ⟨greatest,((hagree greatest).mp hgreatest).1,hgreatest.2 ⟨hu,hopen⟩⟩
 · intro hgoverns t
   constructor
   · rintro ⟨⟨hmem,hopen⟩,hbound⟩
     obtain ⟨latest,hfinal,hle⟩:=hgoverns.latest t hmem hopen
     have hlatestOpen:now<latest:=hopen.trans_le hle
     have hge:=hbound ⟨hgoverns.counts latest hfinal hlatestOpen,hlatestOpen⟩
     rw[le_antisymm hle hge]
     exact ⟨hfinal,hlatestOpen⟩
   · rintro ⟨hfinal,hopen⟩
     refine ⟨⟨hgoverns.counts t hfinal hopen,hopen⟩,?_⟩
     rintro u ⟨hu,huOpen⟩
     obtain ⟨latest,hlatest,hle⟩:=hgoverns.latest u hu huOpen
     rwa [finalDeadline_unique hfinal hlatest]

/-- The base of the backoff is lowered from an hour to ten seconds between two failed attempts. -/
def loweredBaseLog:List Entry:=
 let first:=(appendAttempt ⟨1,7,1000000⟩ "recovery" "probe failed" ⟨3600,86400⟩ emptyLadder 1000000).1
 let second:=(appendAttempt ⟨2,7,60000000⟩ "appium_reconciler" "start failed" ⟨10,300⟩
  (deriveLadder [first]) 60000000).1
 [first,second]

def tiedResetLog:List Entry:=
 [appendReset ⟨1,7,1000000⟩ "device_checks" "self_healed" none,
  (appendAttempt ⟨2,7,1000000⟩ "recovery" "probe failed" ⟨60,3600⟩ emptyLadder 1000000).1]

theorem active_backoffs_disagree:
 (loadActiveBackoffs loweredBaseLog 90000000).get 7=some 3601000000∧
 (loadLadder loweredBaseLog 7).backoffActive 90000000=none∧
 (loadActiveBackoffs tiedResetLog 2000000).get 7=none∧
 (loadLadder tiedResetLog 7).backoffActive 2000000=some 61000000:=by
 decide
end GridFleet.RemediationLog
