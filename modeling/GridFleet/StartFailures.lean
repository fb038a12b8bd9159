import GridFleet.Interleaving
import GridFleet.Dict
import Mathlib.Data.List.Induction
/-! The agent sends the start failures it remembers with every push. A backend process keeps, in memory, the
time of the last one it has dealt with for each device; the remediation log keeps a backoff window. -/
namespace GridFleet.StartFailures
open Interleaving Dict List

abbrev DeviceId:=ℕ
abbrev ProcessId:=ℕ

inductive Kind where
 | portConflict | spawnFailed | other
 deriving DecidableEq

/-- The times are UTC texts of one format, which compare as the times do. -/
structure Failure where
 device:DeviceId
 kind:Kind
 port:Option ℕ
 at_:ℕ
 deriving DecidableEq

structure Call where
 process:ProcessId
 pending:List Failure

/-- `attempts`, `answered` and `moves` are histories: the failures that wrote an attempt entry, those whose
transaction committed, and for each re-pin the port it moved away from and the one the report named. -/
structure State where
 ring:List Failure
 ports:Dict DeviceId ℕ
 backoffUntil:Dict DeviceId ℕ
 cursors:Dict (ProcessId×DeviceId) ℕ
 calls:Dict ℕ Call
 attempts:List (DeviceId×ℕ)
 answered:List (DeviceId×ℕ)
 moves:List (ℕ×ℕ)

def init (ports:Dict DeviceId ℕ):State:=⟨[],ports,.empty,.empty,.empty,[],[],[]⟩
def matchNewStartFailure (s:State)(p:ProcessId)(rows:List DeviceId)(f:Failure):Bool:=
 f.device∈rows&&(s.cursors.get (p,f.device)).all (· < f.at_)

/-- The newest failure of each device; of equal ones the first. -/
def newest (failures:List Failure):Dict DeviceId Failure:=
 failures.foldl (fun acc f=>if (acc.get f.device).all (·.at_<f.at_) then acc.set f.device f else acc) .empty

/-- What a call deals with: one failure for each device with a new one. -/
def selected (s:State)(p:ProcessId)(rows:List DeviceId)(pushed:List Failure):List Failure:=
 (newest (pushed.filter (matchNewStartFailure s p rows))).entries.map Prod.snd

/-- `free` is the first candidate port, if there is one. -/
def repinDesiredPort (s:State)(f:Failure)(free:Option ℕ):State:=
 match f.kind,f.port,s.ports.get f.device,free with
 | .portConflict,some named,some current,some free=>
  {s with ports:=s.ports.set f.device free,moves:=(current,named)::s.moves}
 | _,_,_,_=>s

def recordStartFailure (s:State)(f:Failure)(now until_:ℕ)(free:Option ℕ):State:=
 let s:=repinDesiredPort s f free
 let s:={s with answered:=(f.device,f.at_)::s.answered}
 if (s.backoffUntil.get f.device).any (now < ·) then s
 else {s with attempts:=(f.device,f.at_)::s.attempts,backoffUntil:=s.backoffUntil.set f.device until_}

inductive Outcome where
 | deviceMissing | raised
 | committed (now until_:ℕ)(free:Option ℕ)

/-- `fail` is the agent's, `setPort` any other writer of the port; a call is told when the node of the device
it handles started, if it runs. -/
inductive Label where
 | fail (f:Failure)
 | setPort (device:DeviceId)(port:ℕ)
 | restart (p:ProcessId)
 | ingest (call:ℕ)(p:ProcessId)(rows:List DeviceId)(pushed:List Failure)
 | handle (call:ℕ)(startedAt:Option ℕ)(outcome:Outcome)

/-- The call goes on with the next device and the cursor is at the failure. -/
def advance (s:State)(call:ℕ)(p:ProcessId)(f:Failure)(rest:List Failure):State:=
 {s with cursors:=s.cursors.set (p,f.device) f.at_,calls:=s.calls.set call ⟨p,rest⟩}

def step (s:State):Label→Option State
 | .fail f=>some {s with ring:=f::s.ring}
 | .setPort device port=>some {s with ports:=s.ports.set device port}
 | .restart p=>some {s with cursors:=s.cursors.filter fun key _=>key.1≠p,calls:=s.calls.filter fun _ c=>c.process≠p}
 | .ingest call p rows pushed=>
  if (s.calls.get call).isNone∧pushed⊆s.ring then
   some {s with calls:=s.calls.set call ⟨p,selected s p rows pushed⟩}
  else none
 | .handle call startedAt outcome=>
  (s.calls.get call).bind fun c=>
   match c.pending with
   | []=>some {s with calls:=s.calls.pop call}
   | f::rest=>
    if startedAt.any (f.at_ ≤ ·)∨f.kind=.other then some (advance s call c.process f rest)
    else match outcome with
     | .raised=>some {s with calls:=s.calls.pop call}
     | .deviceMissing=>some (advance s call c.process f rest)
     | .committed now until_ free=>some (advance (recordStartFailure s f now until_ free) call c.process f rest)

/-- No call acts on a report of the device. -/
def Idle (s:State)(device:DeviceId):Prop:=∀e∈s.calls.entries,∀f∈e.2.pending,f.device≠device

def Unanswered (s:State)(f:Failure):Prop:=∀a∈s.answered,a.1=f.device→a.2<f.at_

/-- The port the report names, if any, is the node's. -/
def OnPort (s:State)(f:Failure):Prop:=∀named∈f.port,∀current∈s.ports.get f.device,current=named

/-- A conflict is on the node's port and falls into no call; no other writer moves a port while a conflict is
unanswered; a push brings the newest conflicts to a process that has dealt with what was answered. -/
def guard (s:State):Label→Prop
 | .fail f=>f.kind=.portConflict→Idle s f.device∧OnPort s f
 | .setPort device _=>∀f∈s.ring,f.kind=.portConflict→f.device=device→¬Unanswered s f
 | .ingest _ p rows pushed=>∀device∈rows,Idle s device∧
   (∀a∈s.answered,a.1=device→∃cursor∈s.cursors.get (p,device),a.2≤cursor)∧
   ∀f∈s.ring,f.kind=.portConflict→f.device=device→∃f'∈pushed,f'.device=device∧f.at_≤f'.at_
 | _=>True

structure Inv (s:State):Prop where
 ordered:s.attempts.Pairwise fun new old=>new.1=old.1→ old.2<new.2
 attempts:s.attempts⊆s.answered
 moves:∀m∈s.moves,m.1=m.2
 ports:∀f∈s.ring,f.kind=.portConflict→Unanswered s f→OnPort s f
 pending:∀call c,s.calls.get call=some c→∀f∈c.pending,f∈s.ring∧Unanswered s f∧
  ∀f'∈s.ring,f'.kind=.portConflict→f'.device=f.device→f'.at_≤f.at_
 apart:∀call c,s.calls.get call=some c→(c.pending.map Failure.device).Nodup
 alone:∀call c call' c',s.calls.get call=some c→s.calls.get call'=some c'→∀f∈c.pending,∀f'∈c'.pending,
  f.device=f'.device→call=call'

variable {s s':State}{f:Failure}{call:ℕ}{c:Call}{device:DeviceId}

lemma newest_spec (failures:List Failure)(device:DeviceId):
 (∀f,(newest failures).get device=some f→f∈failures∧f.device=device)∧
 ∀f'∈failures,f'.device=device→∃f,(newest failures).get device=some f∧f'.at_≤f.at_:=by
 induction failures using List.reverseRecOn with
 | nil=>simp[newest]
 | append_singleton failures g ih=>
  have hstep:newest (failures++[g])=if ((newest failures).get g.device).all (·.at_<g.at_)
    then (newest failures).set g.device g else newest failures:=by
   rw[newest,foldl_append]
   rfl
  obtain ⟨hmem,hle⟩:=ih
  rw[hstep]
  split
  · refine ⟨fun f hf=>?_,fun f' hf' hdevice=>?_⟩
    · rcases get_set_eq_some hf with ⟨rfl,rfl⟩|⟨-,hold⟩
      · exact ⟨by simp,rfl⟩
      · exact ⟨mem_append_left _ (hmem f hold).1,(hmem f hold).2⟩
    · grind[get_set]
  · rename_i hkept
    obtain ⟨old,hold,hge⟩:∃old,(newest failures).get g.device=some old∧g.at_≤old.at_:=by
     cases hold:(newest failures).get g.device <;> simp_all
    exact ⟨fun f hf=>⟨mem_append_left _ (hmem f hf).1,(hmem f hf).2⟩,by grind⟩
lemma Idle.not_pending (h:Idle s device)(hcall:s.calls.get call=some c):∀f∈c.pending,f.device≠device:=
 h _ (get_eq_some_iff.mp hcall)

/-- Calls that lose reports, and cursors, keep the invariant. -/
lemma Inv.shrink (h:Inv s)(cursors:Dict (ProcessId×DeviceId) ℕ)(calls:Dict ℕ Call)
 (hcalls:∀call c,calls.get call=some c→∃c₀,s.calls.get call=some c₀∧c.pending.Sublist c₀.pending):
 Inv {s with cursors:=cursors,calls:=calls}:=by
 refine ⟨h.ordered,h.attempts,h.moves,h.ports,fun call c hc f hf=>?_,fun call c hc=>?_,?_⟩
 · obtain ⟨c₀,hc₀,hsub⟩:=hcalls call c hc
   exact h.pending call c₀ hc₀ f (hsub.subset hf)
 · obtain ⟨c₀,hc₀,hsub⟩:=hcalls call c hc
   exact (h.apart call c₀ hc₀).sublist (hsub.map _)
 · intro call c call' c' hc hc' f hf f' hf'
   obtain ⟨c₀,hc₀,hsub⟩:=hcalls call c hc
   obtain ⟨c₁,hc₁,hsub'⟩:=hcalls call' c' hc'
   exact h.alone call c₀ call' c₁ hc₀ hc₁ f (hsub.subset hf) f' (hsub'.subset hf')

lemma Inv.advance {rest:List Failure}(h:Inv s)(hcall:s.calls.get call=some c)(hpending:c.pending=f::rest):
 Inv (advance s call c.process f rest):=by
 refine h.shrink _ _ fun call' c' hc'=>?_
 rcases get_set_eq_some hc' with ⟨rfl,rfl⟩|⟨-,hold⟩
 · exact ⟨c,hcall,hpending ▸ sublist_cons_self _ _⟩
 · exact ⟨c',hold,Sublist.refl _⟩

/-- What a committed transaction writes: one answered failure, at most one attempt, at most one move of the
device's port. -/
structure Recorded (s:State)(f:Failure)(s':State):Prop where
 ring:s'.ring=s.ring
 calls:s'.calls=s.calls
 answered:s'.answered=(f.device,f.at_)::s.answered
 attempts:s'.attempts=s.attempts∨s'.attempts=(f.device,f.at_)::s.attempts
 ports:∀device,device≠f.device→s'.ports.get device=s.ports.get device
 moves:∀m∈s'.moves,m∈s.moves∨f.kind=.portConflict∧f.port=some m.2∧s.ports.get f.device=some m.1

lemma recorded_recordStartFailure (s:State)(f:Failure)(now until_:ℕ)(free:Option ℕ):
 Recorded s f (recordStartFailure s f now until_ free):=by
 have hrepin:∃ports moves,repinDesiredPort s f free={s with ports:=ports,moves:=moves}∧
   (∀device,device≠f.device→ports.get device=s.ports.get device)∧
   ∀m∈moves,m∈s.moves∨f.kind=.portConflict∧f.port=some m.2∧s.ports.get f.device=some m.1:=by
  unfold repinDesiredPort
  split
  · rename_i named current free hkind hport hcurrent
    refine ⟨_,_,rfl,fun device hne=>get_set_of_ne _ _ hne,fun m hm=>?_⟩
    rcases mem_cons.mp hm with rfl|hm
    · exact .inr ⟨hkind,hport,hcurrent⟩
    · exact .inl hm
  · exact ⟨_,_,rfl,fun _ _=>rfl,fun _ hm=>.inl hm⟩
 obtain ⟨ports,moves,heq,hports,hmoves⟩:=hrepin
 unfold recordStartFailure
 dsimp only
 rw[heq]
 split
 · exact ⟨rfl,rfl,rfl,.inl rfl,hports,hmoves⟩
 · exact ⟨rfl,rfl,rfl,.inr rfl,hports,hmoves⟩

/-- The failure at hand is newer than what was answered for its device, and no conflict is newer. -/
lemma Inv.record {rest:List Failure}(h:Inv s)(hcall:s.calls.get call=some c)(hpending:c.pending=f::rest)
 (hrecorded:Recorded s f s')(p:ProcessId):Inv (StartFailures.advance s' call p f rest):=by
 obtain ⟨hring,hcalls,hanswered,hattempts,hports,hmoves⟩:=hrecorded
 obtain ⟨hmem,hnew,hlatest⟩:=h.pending call c hcall f (by simp[hpending])
 have hunanswered:∀{f'},Unanswered s' f'→Unanswered s f'∧(f.device=f'.device→f.at_<f'.at_):=by
  intro f' h'
  rw[Unanswered,hanswered] at h'
  exact ⟨fun a ha=>h' a (mem_cons_of_mem _ ha),h' _ mem_cons_self⟩
 have hothers:∀call' c',(s'.calls.set call ⟨p,rest⟩).get call'=some c'→∃c₀,s.calls.get call'=some c₀∧
   c'.pending.Sublist c₀.pending∧∀f'∈c'.pending,f'.device≠f.device:=by
  rw[hcalls]
  intro call' c' hc'
  rcases get_set_eq_some hc' with ⟨rfl,rfl⟩|⟨hne,hold⟩
  · have hapart:=h.apart call' c hcall
    rw[hpending,map_cons,nodup_cons] at hapart
    refine ⟨c,hcall,hpending ▸ sublist_cons_self _ _,fun f' hf' hdevice=>hapart.1 ?_⟩
    exact mem_map.mpr ⟨f',hf',hdevice⟩
  · exact ⟨c',hold,Sublist.refl _,fun f' hf' hdevice=>
     hne (h.alone call' c' call c hold hcall f' hf' f (by simp[hpending]) hdevice)⟩
 have hold:=h.shrink s.cursors (s'.calls.set call ⟨p,rest⟩) fun call' c' hc'=>by
  obtain ⟨c₀,hc₀,hsub,-⟩:=hothers call' c' hc'
  exact ⟨c₀,hc₀,hsub⟩
 refine ⟨?_,?_,fun m hm=>?_,?_,?_,hold.apart,hold.alone⟩
 · rcases hattempts with heq|heq
   · exact heq ▸ h.ordered
   · show s'.attempts.Pairwise _
     rw[heq]
     exact pairwise_cons.mpr ⟨fun a ha hdevice=>hnew a (h.attempts ha) hdevice.symm,h.ordered⟩
 · show s'.attempts⊆s'.answered
   rw[hanswered]
   rcases hattempts with heq|heq
   · exact heq ▸ fun _ ha=>mem_cons_of_mem _ (h.attempts ha)
   · exact heq ▸ cons_subset_cons _ h.attempts
 · rcases hmoves m hm with hm|⟨hkind,hport,hcurrent⟩
   · exact h.moves m hm
   · exact h.ports f hmem hkind hnew m.2 hport m.1 hcurrent
 · intro f' hf' hkind h' named hnamed current hcurrent
   have hf':f'∈s.ring:=hring ▸ hf'
   obtain ⟨hbefore,hlater⟩:=hunanswered h'
   by_cases hdevice:f'.device=f.device
   · exact absurd (hlater hdevice.symm) (Nat.not_lt.mpr (hlatest f' hf' hkind hdevice))
   · exact h.ports f' hf' hkind hbefore named hnamed current (hports _ hdevice ▸ hcurrent)
 · intro call' c' hc' f' hf'
   obtain ⟨c₀,hc₀,hsub,hne⟩:=hothers call' c' hc'
   obtain ⟨hmem',hnew',hlatest'⟩:=h.pending call' c₀ hc₀ f' (hsub.subset hf')
   refine ⟨?_,?_,?_⟩
   · exact hring.symm ▸ hmem'
   · show ∀a∈s'.answered,_
     rw[hanswered]
     exact forall_mem_cons.mpr ⟨fun hdevice=>absurd hdevice.symm (hne f' hf'),hnew'⟩
   · exact hring.symm ▸ hlatest'

lemma Inv.ingest {p:ProcessId}{rows:List DeviceId}{pushed:List Failure}(h:Inv s)(hsub:pushed⊆s.ring)
 (hguard:guard s (.ingest call p rows pushed)):
 Inv {s with calls:=s.calls.set call ⟨p,selected s p rows pushed⟩}:=by
 unfold selected
 have hspec:=newest_spec (pushed.filter (matchNewStartFailure s p rows))
 generalize newest (pushed.filter (matchNewStartFailure s p rows))=chosen at hspec
 have hchosen:∀f∈chosen.entries.map Prod.snd,chosen.get f.device=some f∧f∈pushed∧f.device∈rows∧
   ∀cursor∈s.cursors.get (p,f.device),cursor<f.at_:=by
  intro f hf
  obtain ⟨⟨device,f⟩,he,rfl⟩:=mem_map.mp hf
  have hget:=get_eq_some_iff.mpr he
  obtain ⟨hmem,rfl⟩:=(hspec device).1 f hget
  obtain ⟨hpushed,hmatch⟩:=mem_filter.mp hmem
  simpa[matchNewStartFailure,hget,hpushed,Option.all_eq_true] using hmatch
 have hother:∀call' c',s.calls.get call'=some c'→∀f∈chosen.entries.map Prod.snd,∀f'∈c'.pending,
   f'.device≠f.device:=fun call' c' hc' f hf=>
  (hguard f.device (hchosen f hf).2.2.1).1.not_pending hc'
 refine ⟨h.ordered,h.attempts,h.moves,h.ports,forall_get_set (fun f hf=>?_) h.pending,
  forall_get_set ?_ h.apart,?_⟩
 · obtain ⟨hget,hpushed,hrow,hcursor⟩:=hchosen f hf
   obtain ⟨-,hanswered,hnewest⟩:=hguard f.device hrow
   refine ⟨hsub hpushed,fun a ha hdevice=>?_,fun f' hf' hkind hdevice=>?_⟩
   · obtain ⟨cursor,hc,hle⟩:=hanswered a ha hdevice
     exact Nat.lt_of_le_of_lt hle (hcursor cursor hc)
   · obtain ⟨f'',hf'',hdevice'',hle⟩:=hnewest f' hf' hkind hdevice
     refine Nat.le_trans hle ?_
     by_cases hmatch:matchNewStartFailure s p rows f''
     · obtain ⟨f₁,hget₁,hle₁⟩:=(hspec f.device).2 f'' (mem_filter.mpr ⟨hf'',hmatch⟩) hdevice''
       cases hget.symm.trans hget₁
       exact hle₁
     · simp only[matchNewStartFailure,hdevice'',hrow,decide_true,Bool.true_and,Option.all_eq_true,decide_eq_true_eq,
        not_forall,Nat.not_lt] at hmatch
       obtain ⟨cursor,hc,hle'⟩:=hmatch
       exact Nat.le_of_lt (Nat.lt_of_le_of_lt hle' (hcursor cursor hc))
 · have hkeys:(chosen.entries.map Prod.snd).map Failure.device=chosen.entries.map Prod.fst:=by
    rw[map_map]
    exact map_congr_left fun e he=>((hspec e.1).1 e.2 (get_eq_some_iff.mpr he)).2
   exact hkeys ▸ chosen.nodup
 · intro call₁ c₁ call₂ c₂ h₁ h₂ f₁ hf₁ f₂ hf₂ hdevice
   rcases get_set_eq_some h₁ with ⟨rfl,rfl⟩|⟨-,hold₁⟩ <;> rcases get_set_eq_some h₂ with ⟨rfl,rfl⟩|⟨-,hold₂⟩
   · rfl
   · exact absurd hdevice.symm (hother _ _ hold₂ f₁ hf₁ f₂ hf₂)
   · exact absurd hdevice (hother _ _ hold₁ f₂ hf₂ f₁ hf₁)
   · exact h.alone _ _ _ _ hold₁ hold₂ f₁ hf₁ f₂ hf₂ hdevice

lemma inv_step {label:Label}(h:Inv s)(hguard:guard s label)(hstep:step s label=some s'):Inv s':=by
 cases label with
 | fail f=>
  cases hstep
  refine ⟨h.ordered,h.attempts,h.moves,forall_mem_cons.mpr ⟨fun hkind _=>(hguard hkind).2,h.ports⟩,?_,h.apart,h.alone⟩
  intro call c hc g hg
  obtain ⟨hmem,hnew,hlatest⟩:=h.pending call c hc g hg
  refine ⟨mem_cons_of_mem _ hmem,hnew,forall_mem_cons.mpr ⟨fun hkind hdevice=>?_,hlatest⟩⟩
  exact absurd hdevice.symm ((hguard hkind).1.not_pending hc g hg)
 | setPort device port=>
  cases hstep
  refine ⟨h.ordered,h.attempts,h.moves,fun f hf hkind hnew=>?_,h.pending,h.apart,h.alone⟩
  have hne:f.device≠device:=fun hdevice=>hguard f hf hkind hdevice hnew
  intro named hnamed current hcurrent
  rw[get_set_of_ne _ _ hne] at hcurrent
  exact h.ports f hf hkind hnew named hnamed current hcurrent
 | restart p=>
  cases hstep
  refine h.shrink _ _ fun call c hc=>⟨c,?_,Sublist.refl _⟩
  rw[get_filter] at hc
  exact (Option.filter_eq_some_iff.mp hc).1
 | ingest call p rows pushed=>
  obtain ⟨hfresh,⟨⟩⟩:=Option.ite_none_right_eq_some.mp hstep
  exact h.ingest hfresh.2 hguard
 | handle call startedAt outcome=>
  obtain ⟨c,hcall,hstep⟩:=Option.bind_eq_some_iff.mp hstep
  have hpop:Inv {s with calls:=s.calls.pop call}:=
   h.shrink s.cursors _ fun call' c' hc'=>⟨c',(get_pop_eq_some hc').2,Sublist.refl _⟩
  split at hstep
  · cases hstep
    exact hpop
  · rename_i f rest hpending
    split at hstep
    · cases hstep
      exact h.advance hcall hpending
    · split at hstep
      · cases hstep
        exact hpop
      · cases hstep
        exact h.advance hcall hpending
      · cases hstep
        exact h.record hcall hpending (recorded_recordStartFailure ..) _

/-- Where the processes have dealt with what was answered and the ports stay as reported, each failure writes at
most one attempt, none is older than an earlier one of the device, and a re-pin leaves the port it names. -/
theorem failure_escalated_once (ports:Dict DeviceId ℕ) (labels:List Label)
 (hguard:Guarded guard step (init ports) labels) (hrun:run step (init ports) labels=some s):
 s.attempts.Pairwise (fun new old=>new.1=old.1→ old.2<new.2)∧∀m∈s.moves,m.1=m.2:=by
 have hinit:Inv (init ports):=⟨.nil,fun _ h=>h,by simp[init],by simp[init],by simp[init],
  by simp[init],by simp[init]⟩
 have hinv:=run_invariant_guarded Inv (fun _ _ _ h hguard hstep=>inv_step h hguard hstep) hinit hguard hrun
 exact ⟨hinv.ordered,hinv.moves⟩

def conflict:Failure:=⟨1,.portConflict,some 4723,10⟩

/-- The report of a conflict, ingested by process 1 and answered with the port 4724. -/
def answeredOnce:List Label:=
 [.fail conflict,.ingest 1 1 [1] [conflict],.handle 1 none (.committed 12 72 (some 4724)),.handle 1 none .raised]

theorem failure_escalated_once_answered:∃s,run step (init (.ofList [(1,4723)])) answeredOnce=some s∧
 s.attempts=[(1,10)]∧s.moves=[(4723,4723)]∧
 s.attempts.Pairwise (fun new old=>new.1=old.1→ old.2<new.2)∧∀m∈s.moves,m.1=m.2:=by
 have hrun:run step (init (.ofList [(1,4723)])) answeredOnce=some _:=rfl
 have hguard:Guarded guard step (init (.ofList [(1,4723)])) answeredOnce:=by
  refine ⟨fun _=>⟨by simp[Idle,init],?_⟩,?_⟩
  · rintro _ ⟨⟩ _ ⟨⟩
    rfl
  · rintro _ ⟨⟩
    refine ⟨?_,?_⟩
    · simp[guard,Idle,init,Dict.empty]
    · rintro _ ⟨⟩
      exact ⟨trivial,fun _ _=>⟨trivial,fun _ _=>trivial⟩⟩
 exact ⟨_,hrun,rfl,rfl,failure_escalated_once _ _ hguard hrun⟩

/-- Process 1 restarts and ingests the same report when the window is over. -/
def replayed:List Label:=
 answeredOnce++[.restart 1,.ingest 2 1 [1] [conflict],.handle 2 none (.committed 100 160 (some 4725))]

theorem replayed_escalates_twice:
 (run step (init (.ofList [(1,4723)])) replayed).map (fun s=>(s.attempts,s.moves))=
  some ([(1,10),(1,10)],[(4724,4723),(4723,4723)]):=rfl
end GridFleet.StartFailures
