import GridFleet.ArtifactUploads
namespace GridFleet.ArtifactLedger
open Interleaving PackStorage Dict List Option

variable {st:Storage}{s s':State}

lemma Inv.fewerUnlinks (h:Inv st s){deletions:Dict TaskId Deletion}{reapers:Dict TaskId Reaper}
 (hdeletions:∀k d,deletions.get k=some d→∀item∈d.items,∃j e,s.deletions.get j=some e∧item∈e.items)
 (hreapers:∀k r',reapers.get k=some r'→∃j r,s.reapers.get j=some r∧
  (∀c∈r'.remaining,c∈r.remaining)∧∀c∈r'.candidates,c∈r.candidates):
 Inv st {s with deletions:=deletions,reapers:=reapers}:=by
 refine h.shrink (Shrinks.refl _) (fun _ _ hrow=>hrow)
  (fun _ _ _ a _ _ ha hactive=>⟨a,ha,hactive,rfl⟩) rfl (fun _ _ hu=>hu) ?_ ?_ rfl rfl
 · intro item hitem
   rw[mem_unlinks] at hitem ⊢
   rcases hitem with ⟨k,d,hd,hitem⟩|⟨k,r',hr',c,hc,rfl⟩
   · exact .inl (hdeletions k d hd item hitem)
   · obtain ⟨j,r,hr,hsub,-⟩:=hreapers k r' hr'
     exact .inr ⟨j,r,hr,c,hsub c hc,rfl⟩
 · intro k r' hr'
   obtain ⟨j,r,hr,-,hsub⟩:=hreapers k r' hr'
   exact ⟨j,r,hr,hsub⟩

variable {task:TaskId}{r:Reaper}{now:Instant}{label:Label}

lemma Inv.setDeletion (h:Inv st s){d:Deletion}
 (hitems:∀item∈d.items,∃j e,s.deletions.get j=some e∧item∈e.items):
 Inv st {s with deletions:=s.deletions.set task d}:=
 h.fewerUnlinks (forall_get_set hitems fun k e he _ hitem=>⟨k,e,he,hitem⟩)
  fun k r hr=>⟨k,r,hr,fun _ hc=>hc,fun _ hc=>hc⟩
lemma Inv.popDeletion (h:Inv st s)(task:TaskId):Inv st {s with deletions:=s.deletions.pop task}:=
 h.fewerUnlinks (fun k d hd _ hitem=>⟨k,d,(get_pop_eq_some hd).2,hitem⟩)
  fun k r hr=>⟨k,r,hr,fun _ hc=>hc,fun _ hc=>hc⟩
lemma Inv.setReaper (h:Inv st s){next:Reaper}(hr:s.reapers.get task=some r)
 (hremaining:∀c∈next.remaining,c∈r.remaining)(hcandidates:∀c∈next.candidates,c∈r.candidates):
 Inv st {s with reapers:=s.reapers.set task next}:=
 h.fewerUnlinks (fun k d hd _ hitem=>⟨k,d,hd,hitem⟩)
  (forall_get_set ⟨task,r,hr,hremaining,hcandidates⟩
   fun k r' hr'=>⟨k,r',hr',fun _ hc=>hc,fun _ hc=>hc⟩)
lemma Inv.popReaper (h:Inv st s)(task:TaskId):Inv st {s with reapers:=s.reapers.pop task}:=
 h.fewerUnlinks (fun k d hd _ hitem=>⟨k,d,hd,hitem⟩)
  fun k r hr=>⟨k,r,(get_pop_eq_some hr).2,fun _ hc=>hc,fun _ hc=>hc⟩

variable {rows:List (Manifest×DriverPackRelease)}

lemma mem_artifactPaths {path:Path}:path∈artifactPaths rows↔∃e∈rows,e.2.artifactPath=some path:=by
 simp[artifactPaths]
lemma get_dropReleases {releases:Dict Manifest DriverPackRelease}{target:DeleteTarget}{key:Manifest}
 {row:DriverPackRelease}(h:(dropReleases releases rows target).get key=some row):
 releases.get key=some row∧(key,row) ∉ rows:=by
 have hremaining:(releases.filter fun key row=>
   !(rows.any fun e=>e.1=key∧e.2.id=row.id)).get key=some row:=by
  unfold dropReleases at h
  cases target with
  | release=>exact h
  | pack=>
   rw[Dict.get_filter,filter_eq_some_iff] at h
   exact h.1
 rw[Dict.get_filter,filter_eq_some_iff] at hremaining
 refine ⟨hremaining.1,fun hmem=>?_⟩
 have hnone:=hremaining.2
 simp only[Bool.decide_and,Bool.not_eq_true',List.any_eq_false,Bool.and_eq_true,
  decide_eq_true_eq,not_and] at hnone
 exact hnone (key,row) hmem rfl rfl
lemma get_orphanArtifacts (ledger:Ledger)(paths:List Path)(now:Instant)(path:Path):
 (orphanArtifacts ledger paths now).get path=(ledger.get path).map fun row=>
  if path∈paths then {row with state:=.orphaned,stateChangedAt:=now} else row:=by
 unfold orphanArtifacts
 rw[Dict.get_map]

/-- The rows a deletion loaded are the only releases on their paths. -/
lemma Inv.deleteCommit (h:Inv st s){target:DeleteTarget}(hrows:∀e∈rows,s.releases.get e.1=some e.2):
 Inv st (deleteCommit s task target rows now):=by
 have hshrunk:Inv st { s with
   packs:=dropPack s.packs target
   releases:=dropReleases s.releases rows target
   ledger:=orphanArtifacts s.ledger (artifactPaths rows) now }:=by
  refine h.shrink (shrinks_orphanArtifacts _ _ _) (fun _ _ hrow=>(get_dropReleases hrow).1) ?_
   rfl (fun _ _ hu=>hu) (fun _ hitem=>hitem) (fun k r hr=>⟨k,r,hr,fun _ hc=>hc⟩)
   rfl rfl
  intro key row path a hrow hpath ha hactive
  obtain ⟨hold,hkept⟩:=get_dropReleases hrow
  have hnot:path ∉ artifactPaths rows:=by
   intro hmem
   obtain ⟨e,he,hother⟩:=mem_artifactPaths.mp hmem
   obtain rfl:=h.single key e.1 row e.2 path hold (hrows e he) hpath hother
   obtain rfl:=some.inj (hold.symm.trans (hrows e he))
   exact hkept he
  exact ⟨a,by simp[get_orphanArtifacts,ha,hnot],hactive,rfl⟩
 refine hshrunk.addUnlinks ?_ fun k r hr=>.inl hr
 intro item hitem
 rw[mem_unlinks] at hitem
 rcases hitem with ⟨k,d,hd,hmem⟩|hreaper
 · rcases get_set_eq_some hd with ⟨-,rfl⟩|⟨-,hold⟩
   · obtain ⟨path,hpath,rfl⟩:=List.mem_map.mp hmem
     refine .inr ⟨rfl,fun row hrow=>?_⟩
     simp only[get_orphanArtifacts,hpath,if_true,map_eq_some_iff] at hrow
     obtain ⟨old,-,rfl⟩:=hrow
     exact ⟨by simp,by simp⟩
   · exact .inl (mem_unlinks.mpr (.inl ⟨k,d,hold,hmem⟩))
 · exact .inl (mem_unlinks.mpr (.inr hreaper))

lemma Inv.forget (h:Inv st s)(paths:List Path):
 Inv st {s with ledger:=forgetArtifacts s.ledger paths}:=by
 refine h.shrink (shrinks_filter _ _) (fun _ _ hrow=>hrow) ?_ rfl (fun _ _ hu=>hu)
  (fun _ hitem=>hitem) (fun k r hr=>⟨k,r,hr,fun _ hc=>hc⟩) rfl rfl
 intro key row path a _ _ ha hactive
 exact ⟨a,by simp[forgetArtifacts,ha,hactive],hactive,rfl⟩

lemma inv_deletionStep (h:Inv st s){d:Deletion}(hd:s.deletions.get task=some d)
 (hguard:∀other now,label=.deleteCommit other now→∀e∈d.rows,s.releases.get e.1=some e.2)
 (hstep:deletionStep s task d label=some s'):Inv st s':=by
 unfold deletionStep at hstep
 split at hstep
 · rename_i other now
   split at hstep
   · rename_i rows hphase
     cases hstep
     refine h.deleteCommit fun e he=>hguard other now rfl e ?_
     simpa[Deletion.rows,hphase] using he
   · cases hstep
 · rename_i other ok
   split at hstep
   · rename_i item items reaped hphase
     cases hstep
     have hitem:item∈s.unlinks:=
      mem_unlinks.mpr (.inl ⟨task,d,hd,by simp[Deletion.items,hphase]⟩)
     refine (h.unlink hitem ok).setDeletion fun other hother=>?_
     exact ⟨task,d,hd,by simp_all [Deletion.items]⟩
   · cases hstep
 · split at hstep
   · cases hstep
     exact (h.popDeletion task).forget _
   · cases hstep
 · cases hstep
   exact h.popDeletion task
 · cases hstep

lemma mem_selectCandidates {c:ReapCandidate}(h:c∈selectCandidates s now):
 ∃row,s.ledger.get c.path=some row∧row.id=c.id∧reapable now row∧s.touches.count c.path=c.seen:=by
 unfold selectCandidates at h
 obtain ⟨e,he,rfl⟩:=List.mem_map.mp h
 have hrow:=mem_filter.mp ((mem_insertionSort _).mp (mem_of_mem_take he))
 exact ⟨e.2,get_eq_some_iff.mpr hrow.1,rfl,hrow.2,rfl⟩
lemma state_of_reapable {row:PackArtifact}(h:reapable now row):row.state ≠ .active:=by
 intro hactive
 simp[reapable,hactive] at h
lemma Inv.reapSelect (h:Inv st s)(hguard:Undisturbed st s (.reapSelect task now)):
 Inv st {s with reapers:=s.reapers.set task ⟨selectCandidates s now,[],[]⟩}:=by
 have hidle:∀c∈selectCandidates s now,∀row,s.ledger.get c.path=some row→
   Idle s row:=by
  intro c hc row hrow
  obtain ⟨row',hrow',-,hreapable,-⟩:=mem_selectCandidates hc
  obtain rfl:=some.inj (hrow.symm.trans hrow')
  refine ⟨state_of_reapable hreapable,fun hpending k u hu=>?_⟩
  exact hguard c hc row hrow hpending (k,u) (get_eq_some_iff.mp hu)
 refine h.addUnlinks ?_ ?_
 · intro item hitem
   rw[mem_unlinks] at hitem
   rcases hitem with hdeletion|⟨k,r,hr,c,hc,rfl⟩
   · exact .inl (mem_unlinks.mpr (.inl hdeletion))
   · rcases get_set_eq_some hr with ⟨-,rfl⟩|⟨-,hold⟩
     · obtain ⟨row,-,-,-,hseen⟩:=mem_selectCandidates hc
       exact .inr ⟨hseen,hidle c hc⟩
     · exact .inl (mem_unlinks.mpr (.inr ⟨k,r,hold,c,hc,rfl⟩))
 · intro k r hr
   rcases get_set_eq_some hr with ⟨-,rfl⟩|⟨-,hold⟩
   · refine .inr fun c hc=>?_
     have hc:c∈selectCandidates s now:=by simpa[Reaper.candidates] using hc
     obtain ⟨row,hrow,hid,-⟩:=mem_selectCandidates hc
     exact ⟨row,hrow,hid,hidle c hc row hrow⟩
   · exact .inl hold

/-- A row that a reaper pass has read is not active, so dropping it takes nothing served away. -/
lemma Inv.reapFinish (h:Inv st s)(hr:s.reapers.get task=some r):
 Inv st {s with ledger:=bumpFailed (dropReaped s.ledger r.reaped) r.failed now}:=by
 refine h.shrink ((shrinks_filter _ _).trans (shrinks_bumpFailed _ _ _)) (fun _ _ hrow=>hrow) ?_
  rfl (fun _ _ hu=>hu) (fun _ hitem=>hitem) (fun k r hr=>⟨k,r,hr,fun _ hc=>hc⟩) rfl rfl
 intro key row path a _ _ ha hactive
 have hkept:unchangedSince r.reaped a=false:=by
  unfold unchangedSince
  rw[List.any_eq_false]
  intro c hc hsame
  simp only[Bool.decide_and,Bool.and_eq_true,decide_eq_true_eq] at hsame
  exact (h.reaped task r hr c (by simp[Reaper.candidates,hc])).2 path a ha hsame.1.symm hactive
 refine ⟨if unchangedSince r.failed a then {a with stateChangedAt:=now} else a,?_,?_,?_⟩
 · simp[bumpFailed,dropReaped,ha,hkept]
 · split <;> exact hactive
 · split <;> rfl

lemma inv_reaperStep (h:Inv st s)(hr:s.reapers.get task=some r)
 (hstep:reaperStep s task r label=some s'):Inv st s':=by
 unfold reaperStep at hstep
 split at hstep
 · rename_i other ok
   split at hstep
   · rename_i c remaining hremaining
     have hitem:c.item∈s.unlinks:=
      mem_unlinks.mpr (.inr ⟨task,r,hr,c,by simp[hremaining],rfl⟩)
     cases hstep
     refine (h.unlink hitem ok).setReaper hr ?_ ?_
     · intro c' hc'
       rw[hremaining]
       cases ok <;> exact mem_cons_of_mem c hc'
     · intro c' hc'
       simp only[Reaper.candidates,hremaining]
       cases ok <;> simp[Reaper.candidates] at hc' ⊢ <;> tauto
   · cases hstep
 · split at hstep
   · cases hstep
     exact (h.reapFinish hr).popReaper task
   · cases hstep
 · cases hstep
   exact h.popReaper task
 · cases hstep

lemma inv_step (h:Inv st s)(hguard:Undisturbed st s label)(hstep:step st s label=some s'):
 Inv st s':=by
 unfold step at hstep
 split at hstep
 case h_1=>exact h.beginUpload hstep
 case h_11=>
  split at hstep
  · cases hstep
  · obtain ⟨rows,-,rfl⟩:=map_eq_some_iff.mp hstep
    exact h.setDeletion (by simp[Deletion.items])
 case h_16=>
  split at hstep
  · cases hstep
  · cases hstep
    exact h.reapSelect hguard
 case h_12 | h_13 | h_14 | h_15=>
  split at hstep
  · rename_i d hd
    refine inv_deletionStep h hd (fun other now hlabel=>?_) hstep
    cases hlabel
    all_goals exact hguard d hd
  · cases hstep
 case h_17 | h_18 | h_19=>
  split at hstep
  · rename_i r hr
    exact inv_reaperStep h hr hstep
  · cases hstep
 all_goals
  split at hstep
  · rename_i u hu
    refine inv_uploadStep h hu (fun other now hlabel=>?_) hstep
    cases hlabel
    all_goals exact hguard
  · cases hstep

def ServesArtifacts (st:Storage)(s:State):Prop:=
 ∀key row path a,s.releases.get key=some row→ row.artifactPath=some path→
  s.ledger.get path=some a→a.state=.active→
  ∃bytes,s.files.get path=some bytes∧row.artifactSha256=some (st.sha256 bytes)

/-- No unlink still to come is of a path taken or activated since its row was read. -/
def UnlinksSettled (s:State):Prop:=
 ∀item∈s.unlinks,s.touches.count item.path=item.seen

lemma Inv.serves (h:Inv st s):ServesArtifacts st s:=by
 intro key row path a hrow hpath ha hactive
 obtain ⟨a',ha',-,hsha⟩:=h.listed key row path hrow hpath
 obtain rfl:=some.inj (ha.symm.trans ha')
 obtain ⟨bytes,hfile,hbytes⟩:=(h.active path a ha hactive).1
 exact ⟨bytes,hfile,by rw[←hsha,hbytes]⟩

theorem served_releases_keep_artifacts (st:Storage) {labels:List Label} {s:State}
 (hguard:Guarded (Undisturbed st) (step st) State.init labels)
 (hrun:run (step st) State.init labels=some s):
 ServesArtifacts st s∧UnlinksSettled s:=by
 have hinv:Inv st s:=run_invariant_guarded (Inv st) (fun _ _ _ h hg hs=>inv_step h hg hs)
  (inv_init st) hguard hrun
 exact ⟨hinv.serves,hinv.fresh⟩

section
def onePack:Storage where
 sha256 data:=String.ofList (data.map fun b=>Char.ofNat b.toNat)
 parsePackTarball _:=some ⟨"appium", "1.0"⟩
 pathFor m:=some (m.id ++ "/" ++ m.release)
def uploadLabels (task:TaskId)(now:Instant):List Label:=
 [.beginUpload task [65],.lookupRelease task,.checkFile task,.claim task now,
  .storeCheck task,.storeWrite task 0,.storeFinish task,.activateRead task,
  .activateCommit task (now+1)]
def reuploadLabels:List Label:=
 uploadLabels 1 10++[.beginDelete 5 (.pack "appium"),.deleteCommit 5 20,.purgeUnlink 5 true,
  .purgeForget 5]++uploadLabels 2 30
def reuploaded:State:=(run (step onePack) State.init reuploadLabels).getD State.init

theorem served_releases_keep_artifacts_reuploaded:
 reuploaded.releases.get ⟨"appium", "1.0"⟩=some ⟨3,some "appium/1.0",some "A"⟩∧
  ServesArtifacts onePack reuploaded∧UnlinksSettled reuploaded:=by
 have hrun:run (step onePack) State.init reuploadLabels=some reuploaded:=rfl
 exact ⟨by decide,served_releases_keep_artifacts onePack (by decide) hrun⟩

/-- The release is uploaded again between the commit of its deletion and the unlink, which takes the kept
file away. -/
def racedPurge:List Label:=
 uploadLabels 1 10++[.beginDelete 5 (.pack "appium"),.deleteCommit 5 20,
  .beginUpload 2 [65],.lookupRelease 2,.checkFile 2,.claim 2 30,.storeCheck 2,
  .activateRead 2,.activateCommit 2 31]

theorem purge_removes_served_artifact:∃before after item,
 run (step onePack) State.init racedPurge=some before∧
  item∈before.unlinks∧before.touches.count item.path≠item.seen∧
  step onePack before (.purgeUnlink 5 true)=some after∧
  ∃row a,after.releases.get ⟨"appium", "1.0"⟩=some row∧
   row.artifactPath=some item.path∧after.ledger.get item.path=some a∧
   a.state=.active∧after.files.get item.path=none:=
 ⟨_,_,⟨"appium/1.0",2⟩,rfl,by decide,by decide,rfl,_,_,rfl,rfl,rfl,rfl,rfl⟩
end
end GridFleet.ArtifactLedger
