import GridFleet.ArtifactInvariant
namespace GridFleet.ArtifactLedger
open Interleaving PackStorage Dict Option

variable {st:Storage}{s s':State}

variable {phase:UploadPhase}{task:TaskId}{u:Upload}{path:Path}{now:Instant}
 {row:PackArtifact}{releases:Dict Manifest DriverPackRelease}{r:ArtifactReservation}

lemma Inv.setUpload (h:Inv st s)(hup:UploadInv st s {u with phase:=phase})
 (hclaim:∀id,({u with phase:=phase}:Upload).claim=some id→
  ∃v,s.uploads.get task=some v∧v.claim=some id):Inv st (s.setUpload task u phase):=
 { h with
  uploads k v hv:=by
   have hv':UploadInv st s v:=by
    rcases get_set_eq_some hv with ⟨-,rfl⟩|⟨-,hv⟩
    · exact hup
    · exact h.uploads k v hv
   exact {hv' with}
  claims j k v w id hv hw hcv hcw:=by
   have hold:∀j v,(s.uploads.set task {u with phase:=phase}).get j=some v→
     v.claim=some id→∃v',s.uploads.get j=some v'∧v'.claim=some id:=
    forall_get_set (hclaim id) fun j v hv hcv=>⟨v,hv,hcv⟩
   obtain ⟨v',hv',hcv'⟩:=hold j v hv hcv
   obtain ⟨w',hw',hcw'⟩:=hold k w hw hcw
   exact h.claims j k v' w' id hv' hw' hcv' hcw' }
lemma uploadInv_of_unreserved (hphase:∀r stage,u.phase ≠ .holding r stage):UploadInv st s u:=by
 have hnone:u.claim=none∧u.unwritten=none∧u.opened=none∧u.stored=none:=by
  unfold Upload.claim Upload.unwritten Upload.opened Upload.stored
  cases hu:u.phase with
  | holding r stage=>exact absurd hu (hphase r stage)
  | _=>simp
 constructor <;> simp[hnone,hphase]

/-- The upload that writes a path is the only one whose reservation can stand there. -/
lemma Inv.write (h:Inv st s)(bytes:Bytes)(hu:s.uploads.get task=some u)
 (hopened:u.opened=some path)(hunwritten:u.unwritten=some path)(hstored:u.stored=none):
 Inv st {s with files:=s.files.set path bytes}:=
 { h with
  active other row hrow hstate:=by
   obtain ⟨hfile,hclear⟩:=h.active other row hrow hstate
   have hne:other≠path:=by
    rintro rfl
    exact (h.uploads task u hu).opened other row hopened hrow hstate
   refine ⟨?_,hclear⟩
   rw[get_set_of_ne s.files bytes hne]
   exact hfile
  uploads k v hv:=
   have hup:=h.uploads k v hv
   { hup with
     stored:=by
      intro other row hother hrow hstate hclaim
      have hne:other≠path:=by
       rintro rfl
       have hmine:=(h.uploads task u hu).unwritten other row hunwritten hrow hstate
       obtain rfl:=h.claims task k u v row.id hu hv hmine hclaim
       obtain rfl:=some.inj (hu.symm.trans hv)
       rw[hstored] at hother
       cases hother
      rw[get_set_of_ne s.files bytes hne]
      exact hup.stored other row hother hrow hstate hclaim } }

lemma UploadInv.advance (h:UploadInv st s u)(hclaim:({u with phase:=phase}:Upload).claim=u.claim)
 (hopened:∀path row,({u with phase:=phase}:Upload).opened=some path→
  s.ledger.get path=some row→ row.state ≠ .active)
 (hunwritten:∀path,({u with phase:=phase}:Upload).unwritten=some path→u.unwritten=some path)
 (hstored:∀path,({u with phase:=phase}:Upload).stored=some path→u.stored=some path∨
   ∃bytes,s.files.get path=some bytes∧st.sha256 bytes=st.sha256 u.data)
 (hplaced:∀r stage,phase=.holding r stage→ r.needsWrite→st.pathFor u.manifest=some r.artifactPath)
 (hseen:∀r packSeen row,phase=.holding r (.activating packSeen (some row))→RowOk st u.manifest row):
 UploadInv st s {u with phase:=phase} where
 opened:=hopened
 unwritten path row hpath hrow hstate:=by
  rw[hclaim]
  exact h.unwritten path row (hunwritten path hpath) hrow hstate
 kept path row hrow hstate hclaimed:=h.kept path row hrow hstate (hclaim ▸ hclaimed)
 stored path row hpath hrow hstate hclaimed:=by
  rcases hstored path hpath with hold|hnew
  · exact h.stored path row hold hrow hstate (hclaim ▸ hclaimed)
  · exact hnew
 drawn id hclaimed:=h.drawn id (hclaim ▸ hclaimed)
 placed:=hplaced
 seen:=hseen
 unreaped k r hr c hc hclaimed:=h.unreaped k r hr c hc (hclaim ▸ hclaimed)
lemma Inv.advance (h:Inv st s)(hu:s.uploads.get task=some u)
 (hclaim:({u with phase:=phase}:Upload).claim=u.claim)
 (hup:UploadInv st s {u with phase:=phase}):Inv st (s.setUpload task u phase):=
 h.setUpload hup fun _ hid=>⟨u,hu,hclaim ▸ hid⟩
lemma Inv.touch (h:Inv st s)(hclear:∀item∈s.unlinks,item.path≠path):
 Inv st {s with touches:=path::s.touches}:=
 { h with
  uploads k u hu:=
   have hup:=h.uploads k u hu
   {hup with}
  fresh item hitem:=by
   rw[List.count_cons_of_ne (hclear item hitem).symm]
   exact h.fresh item hitem }

/-- Another row takes the path: it is not in the way of the upload. -/
lemma UploadInv.setRow (h:UploadInv st s u)(hledger:s'.ledger=s.ledger.set path row)
 (hfiles:s'.files=s.files)(hunlinks:s'.unlinks=s.unlinks)(hreapers:s'.reapers=s.reapers)
 (hnext:s.nextId ≤ s'.nextId)(hactive:row.state=.active→u.opened≠some path)
 (hpending:row.state=.pending→u.unwritten≠some path∧u.claim≠some row.id):UploadInv st s' u:=by
 have hold:∀{other a},s'.ledger.get other=some a→
   other=path∧a=row∨s.ledger.get other=some a:=by
  intro other a ha
  rw[hledger] at ha
  exact (get_set_eq_some ha).imp_right And.right
 have hdrawn:=h.drawn
 constructor <;> grind[UploadInv]

lemma reserveArtifact_eq_some {ledger ledger':Ledger}{claimId:RowId}
 (h:reserveArtifact ledger claimId now path=some ledger'):
 ledger'=ledger.set path ⟨claimId,.pending,none,none,now⟩∧
  ∀row,ledger.get path=some row→ row.state=.orphaned:=by
 unfold reserveArtifact at h
 cases hrow:ledger.get path with
 | none=>
  simp only[hrow,some.injEq] at h
  exact ⟨h.symm,by simp⟩
 | some=>
  simp only[hrow] at h
  split at h
  case isTrue hstate=>
   refine ⟨(some.inj h).symm,fun row' hrow'=>?_⟩
   rwa [←some.inj hrow']
  case isFalse=>cases h

lemma Inv.reserve (h:Inv st s)(hpath:st.pathFor u.manifest=some path)
 (hgone:∀row,s.ledger.get path=some row→ row.state=.orphaned)(hclear:∀item∈s.unlinks,item.path≠path)
 (halone:∀k v,s.uploads.get k=some v→k≠task→v.unwritten≠some path):
 Inv st { s.setUpload task u (.holding ⟨path,true,some s.nextId,some now⟩ .reserved) with
  ledger:=s.ledger.set path ⟨s.nextId,.pending,none,none,now⟩
  nextId:=s.nextId+1,touches:=path::s.touches }:=
 { h with
  ids:=forall_get_set (Nat.lt_succ_self _) fun other row hrow=>
   Nat.lt_succ_of_lt (h.ids other row hrow)
  unique p q a b ha hb hid:=by
   rcases get_set_eq_some ha with ⟨rfl,rfl⟩|⟨-,holdA⟩ <;>
    rcases get_set_eq_some hb with ⟨rfl,rfl⟩|⟨-,holdB⟩
   · rfl
   · exact absurd hid (Nat.ne_of_gt (h.ids q b holdB))
   · exact absurd hid (Nat.ne_of_lt (h.ids p a holdA))
   · exact h.unique p q a b holdA holdB hid
  active:=forall_get_set (fun hstate=>by cases hstate) h.active
  uploads k v hv:=by
   rcases get_set_eq_some hv with ⟨-,rfl⟩|⟨hne,hold⟩
   · exact {
      opened:=by simp[Upload.opened]
      stored:=by simp[Upload.stored]
      seen:=by simp
      placed:=by
       rintro r stage hr -
       cases hr
       exact hpath
      drawn:=by
       intro id hid
       cases hid
       exact Nat.lt_succ_self _
      unwritten:=by
       intro other row hother hrow hstate
       cases hother
       obtain rfl:_=row:=by simpa using hrow
       rfl
      kept:=by
       intro other row hrow hstate hid item hitem
       rcases get_set_eq_some hrow with ⟨rfl,-⟩|⟨-,hrow⟩
       · exact hclear item hitem
       · exact absurd (some.inj hid) (Nat.ne_of_gt (h.ids other row hrow))
      unreaped:=by
       intro j r hr c hc hid
       exact absurd (some.inj hid) (Nat.ne_of_gt (h.reaped j r hr c hc).1) }
   · refine (h.uploads k v hold).setRow rfl rfl rfl rfl (Nat.le_succ _) (by simp) fun _=>?_
     refine ⟨halone k v hold hne,fun hclaim=>?_⟩
     exact Nat.lt_irrefl _ ((h.uploads k v hold).drawn _ hclaim)
  claims j k v w id hv hw hcv hcw:=by
   rcases get_set_eq_some hv with ⟨rfl,rfl⟩|⟨-,holdV⟩ <;>
    rcases get_set_eq_some hw with ⟨rfl,rfl⟩|⟨-,holdW⟩
   · rfl
   · cases hcv
     exact absurd ((h.uploads k w holdW).drawn _ hcw) (Nat.lt_irrefl _)
   · cases hcw
     exact absurd ((h.uploads j v holdV).drawn _ hcv) (Nat.lt_irrefl _)
   · exact h.claims j k v w id holdV holdW hcv hcw
  listed key row other hrow hother:=by
   obtain ⟨a,ha,hactive,hsha⟩:=h.listed key row other hrow hother
   have hne:other≠path:=by
    rintro rfl
    rw[hgone a ha] at hactive
    cases hactive
   exact ⟨a,by rw[←ha];exact get_set_of_ne s.ledger _ hne,hactive,hsha⟩
  reaped k r hr c hc:=by
   obtain ⟨hlt,hstate⟩:=h.reaped k r hr c hc
   exact ⟨Nat.lt_succ_of_lt hlt,forall_get_set (fun hid=>absurd hid (Nat.ne_of_gt hlt)) hstate⟩
  fresh item hitem:=by
   rw[List.count_cons_of_ne (hclear item hitem).symm]
   exact h.fresh item hitem }

lemma activateArtifact_eq_some {ledger ledger':Ledger}{artifactId:RowId}{sha:Digest}{size:ℕ}
 {reservedAt:Option Instant}
 (h:activateArtifact ledger artifactId path sha size reservedAt now=some ledger'):
 ∃row,ledger.get path=some row∧ownsRow artifactId sha reservedAt row∧
  ledger'=ledger.set path ⟨row.id,.active,some sha,some size,now⟩:=by
 unfold activateArtifact at h
 cases hrow:ledger.get path with
 | none=>simp[hrow] at h
 | some row=>
  simp only[hrow] at h
  split at h
  case isTrue howns=>exact ⟨row,rfl,howns,(some.inj h).symm⟩
  case isFalse=>cases h

/-- The file is the upload's, nobody is about to unlink it or to write over it, no reaper pass has picked
the row, and the releases already on the path have the same content. -/
structure Activatable (st:Storage)(s:State)(task:TaskId)(u:Upload)(path:Path)
  (row:PackArtifact):Prop where
 file:∃bytes,s.files.get path=some bytes∧st.sha256 bytes=st.sha256 u.data
 clear:∀item∈s.unlinks,item.path≠path
 alone:∀k v,s.uploads.get k=some v→k≠task→v.opened≠some path
 unreaped:∀k r,s.reapers.get k=some r→∀c∈r.candidates,row.id≠c.id
 listed:∀key release,s.releases.get key=some release→
  release.artifactPath=some path→ release.artifactSha256=some (st.sha256 u.data)

lemma Upload.unwritten_of_opened (h:u.opened=some path):u.unwritten=some path:=by
 unfold Upload.opened at h
 unfold Upload.unwritten
 split at h <;> simp_all
lemma Inv.unlisted_of_pending (h:Inv st s)(hrow:s.ledger.get path=some row)
 (hstate:row.state=.pending):
 ∀key release,s.releases.get key=some release→ release.artifactPath≠some path:=by
 intro key release hrelease hpath
 obtain ⟨a,ha,hactive,-⟩:=h.listed key release path hrelease hpath
 obtain rfl:=some.inj (hrow.symm.trans ha)
 rw[hstate] at hactive
 cases hactive
lemma Inv.activatable_of_claim (h:Inv st s)(hu:s.uploads.get task=some u)
 (hstored:u.stored=some path)(hrow:s.ledger.get path=some row)(hstate:row.state=.pending)
 (hclaim:u.claim=some row.id):Activatable st s task u path row where
 file:=(h.uploads task u hu).stored path row hstored hrow hstate hclaim
 clear:=(h.uploads task u hu).kept path row hrow hstate hclaim
 alone k v hv hne hopened:=by
  have hother:=(h.uploads k v hv).unwritten path row (Upload.unwritten_of_opened hopened)
   hrow hstate
  exact hne (h.claims k task v u row.id hv hu hother hclaim)
 unreaped k r hr c hc hid:=
  (h.uploads task u hu).unreaped k r hr c hc (hid ▸ hclaim) path row hrow hid hstate
 listed key release hrelease hpath:=
  absurd hpath (h.unlisted_of_pending hrow hstate key release hrelease)
lemma Inv.activatable_of_active (h:Inv st s)(hrow:s.ledger.get path=some row)
 (hstate:row.state=.active)(hsha:row.sha256=some (st.sha256 u.data)):
 Activatable st s task u path row where
 file:=by
  obtain ⟨bytes,hfile,hbytes⟩:=(h.active path row hrow hstate).1
  exact ⟨bytes,hfile,some.inj (hbytes.symm.trans hsha)⟩
 clear:=(h.active path row hrow hstate).2
 alone k v hv _ hopened:=(h.uploads k v hv).opened path row hopened hrow hstate
 unreaped k r hr c hc hid:=(h.reaped k r hr c hc).2 path row hrow hid hstate
 listed key release hrelease hpath:=by
  obtain ⟨a,ha,-,hlisted⟩:=h.listed key release path hrelease hpath
  obtain rfl:=some.inj (hrow.symm.trans ha)
  rw[←hlisted,hsha]

def Lands (st:Storage)(s:State)(u:Upload)(path:Path)
 (releases:Dict Manifest DriverPackRelease):Prop:=
 releases=s.releases∨
  releases=s.releases.set u.manifest ⟨s.nextId,some path,some (st.sha256 u.data)⟩∧
   ∀key row,s.releases.get key=some row→ row.artifactPath≠some path

lemma Lands.get_eq_some (h:Lands st s u path releases){key:Manifest}{row:DriverPackRelease}
 (hrow:releases.get key=some row):s.releases.get key=some row∨
  key=u.manifest∧row.artifactPath=some path∧row.artifactSha256=some (st.sha256 u.data)∧
   ∀key row,s.releases.get key=some row→ row.artifactPath≠some path:=by
 rcases h with rfl|⟨rfl,hunlisted⟩
 · exact .inl hrow
 · rcases get_set_eq_some hrow with ⟨rfl,rfl⟩|⟨-,hold⟩
   · exact .inr ⟨rfl,rfl,rfl,hunlisted⟩
   · exact .inl hold

lemma Inv.activate (h:Inv st s){packs:List String}{size:Option ℕ}
 (hrow:s.ledger.get path=some row)(hpath:st.pathFor u.manifest=some path)
 (hok:Activatable st s task u path row)(hlands:Lands st s u path releases):Inv st { s with
  packs:=packs,releases:=releases
  ledger:=s.ledger.set path ⟨row.id,.active,some (st.sha256 u.data),size,now⟩
  uploads:=s.uploads.pop task,nextId:=s.nextId+1,touches:=path::s.touches } where
 ids:=forall_get_set (Nat.lt_succ_of_lt (h.ids path row hrow)) fun other a hold=>
  Nat.lt_succ_of_lt (h.ids other a hold)
 unique p q a b ha hb hid:=by
  rcases get_set_eq_some ha with ⟨rfl,rfl⟩|⟨-,holdA⟩ <;>
   rcases get_set_eq_some hb with ⟨rfl,rfl⟩|⟨-,holdB⟩
  · rfl
  · exact h.unique p q row b hrow holdB hid
  · exact h.unique p q a row holdA hrow hid
  · exact h.unique p q a b holdA holdB hid
 active other a ha hstate:=by
  rcases get_set_eq_some ha with ⟨rfl,rfl⟩|⟨-,hold⟩
  · obtain ⟨bytes,hfile,hbytes⟩:=hok.file
    exact ⟨⟨bytes,hfile,congrArg some hbytes.symm⟩,hok.clear⟩
  · exact h.active other a hold hstate
 uploads k v hv:=by
  obtain ⟨hne,holdV⟩:=get_pop_eq_some hv
  exact (h.uploads k v holdV).setRow rfl rfl rfl rfl (Nat.le_succ _)
   (fun _=>hok.alone k v holdV hne) (by simp)
 claims j k v w id hv hw:=
  h.claims j k v w id (get_pop_eq_some hv).2 (get_pop_eq_some hw).2
 rows key release hrelease:=by
  rcases hlands.get_eq_some hrelease with hold|⟨rfl,hrow',hsha,-⟩
  · exact h.rows key release hold
  · constructor
    · intro other hother
      rw[hpath,←hrow',hother]
    · intro hnone
      rw[hnone] at hrow'
      cases hrow'
 listed key release other hrelease hother:=by
  have hsame:other=path→ release.artifactSha256=some (st.sha256 u.data):=by
   rintro rfl
   rcases hlands.get_eq_some hrelease with hold|⟨-,-,hsha,-⟩
   · exact hok.listed key release hold hother
   · exact hsha
  by_cases hpathEq:other=path
  · refine ⟨⟨row.id,.active,some (st.sha256 u.data),size,now⟩,?_,rfl,
     (hsame hpathEq).symm⟩
    rw[hpathEq]
    exact get_set_self s.ledger path _
  · rcases hlands.get_eq_some hrelease with hold|⟨-,hnew,-,-⟩
    · obtain ⟨a,ha,hactive,hsha⟩:=h.listed key release other hold hother
      exact ⟨a,by rw[←ha];exact get_set_of_ne s.ledger _ hpathEq,hactive,hsha⟩
    · exact absurd (some.inj (hother.symm.trans hnew)) hpathEq
 single key key' release release' other hrelease hrelease' hother hother':=by
  rcases hlands.get_eq_some hrelease with hold|⟨rfl,hnew,-,hunlisted⟩ <;>
   rcases hlands.get_eq_some hrelease' with hold'|⟨rfl,hnew',-,hunlisted'⟩
  · exact h.single key key' release release' other hold hold' hother hother'
  · exact absurd (hother.trans (hother'.symm.trans hnew')) (hunlisted' key release hold)
  · exact absurd (hother'.trans (hother.symm.trans hnew)) (hunlisted key' release' hold')
  · rfl
 reaped k r hr c hc:=by
  obtain ⟨hlt,hstate⟩:=h.reaped k r hr c hc
  exact ⟨Nat.lt_succ_of_lt hlt,
   forall_get_set (fun hid=>absurd hid (hok.unreaped k r hr c hc)) hstate⟩
 fresh item hitem:=by
  rw[List.count_cons_of_ne (hok.clear item hitem).symm]
  exact h.fresh item hitem

/-- A release row that activation has seen with the upload's digest already says what it would
write, so only an insert changes the table. -/
lemma landRelease_cases {releaseSeen:Option DriverPackRelease}(hpath:st.pathFor u.manifest=some path)
 (hsha:∀row,releaseSeen=some row→ row.artifactSha256=some (st.sha256 u.data))
 (hrow:∀row,releaseSeen=some row→RowOk st u.manifest row)
 (h:landRelease st s u path releaseSeen=some releases):releases=s.releases∨releaseSeen=none∧
  releases=s.releases.set u.manifest ⟨s.nextId,some path,some (st.sha256 u.data)⟩:=by
 unfold landRelease at h
 cases releaseSeen with
 | none=>
  simp only at h
  split at h
  · cases h
  · exact .inr ⟨rfl,(some.inj h).symm⟩
 | some seen=>
  have hdigest:=hsha seen rfl
  obtain ⟨hplaced,hbare⟩:=hrow seen rfl
  have hsame:seen.artifactPath=some path:=by
   cases hseen:seen.artifactPath with
   | none=>
    rw[hbare hseen] at hdigest
    cases hdigest
   | some other=>rw[←hplaced other hseen,hpath]
  simp only[hsame,hdigest,and_self,if_true,some.injEq] at h
  exact .inl h.symm

section
variable (h:Inv st s)
include h

lemma Inv.finishUpload (task:TaskId):Inv st {s with uploads:=s.uploads.pop task}:=
 h.shrink (Shrinks.refl _) (fun _ _ hrow=>hrow) (fun _ _ _ a _ _ ha hactive=>⟨a,ha,hactive,rfl⟩)
  rfl (fun _ _ hu=>(get_pop_eq_some hu).2) (fun _ hitem=>hitem)
  (fun k r hr=>⟨k,r,hr,fun _ hc=>hc⟩) rfl rfl

section
variable (hu:s.uploads.get task=some u)
include hu

lemma Inv.activateCommit {packSeen:Bool}{releaseSeen:Option DriverPackRelease}
 (hphase:u.phase=.holding r (.activating packSeen releaseSeen))
  (hstep:activateCommit st s task u r packSeen releaseSeen now=some s'):Inv st s':=by
 have hup:=h.uploads task u hu
 unfold ArtifactLedger.activateCommit at hstep
 simp only at hstep
 split at hstep
 · cases hstep
 rename_i hdigest
 have hsha:∀row,releaseSeen=some row→
   row.artifactSha256=some (st.sha256 u.data):=by
  rintro row rfl
  simpa using hdigest
 split at hstep
 · rename_i hwrite
   simp only[bind_eq_bind,bind_eq_some_iff] at hstep
   obtain ⟨artifactId,hid,hstep⟩:=hstep
   split at hstep
   · cases hstep
   rename_i hinsert
   simp only[bind_eq_some_iff] at hstep
   obtain ⟨ledger,hledger,packs,-,releases,hreleases,hs'⟩:=hstep
   obtain ⟨row,hrow,howns,rfl⟩:=activateArtifact_eq_some hledger
   have hpath:=hup.placed r _ hphase hwrite
   have hlands:=landRelease_cases hpath hsha
    (fun seen hseen=>hup.seen r packSeen seen (hseen ▸ hphase)) hreleases
   cases hs'
   unfold ownsRow at howns
   split at howns
   · rename_i hnone
     simp only[Bool.decide_and,Bool.and_eq_true,decide_eq_true_eq] at howns
     obtain ⟨-,hstate,hsame⟩:=howns
     refine h.activate hrow hpath (h.activatable_of_active hrow hstate hsame) (.inl ?_)
     rcases hlands with hkept|⟨hseen,-⟩
     · exact hkept
     · exact absurd ⟨by simp[hseen],by simp[hnone]⟩ hinsert
   · rename_i reservedAt hsome
     simp only[Bool.decide_and,Bool.and_eq_true,decide_eq_true_eq] at howns
     obtain ⟨hrowId,hstate,-⟩:=howns
     have hclaim:u.claim=some row.id:=by simp[Upload.claim,hphase,hsome,hid,hrowId]
     have hstored:u.stored=some r.artifactPath:=by simp[Upload.stored,hphase]
     refine h.activate hrow hpath (h.activatable_of_claim hu hstored hrow hstate hclaim) ?_
     rcases hlands with hkept|⟨-,hset⟩
     · exact .inl hkept
     · exact .inr ⟨hset,h.unlisted_of_pending hrow hstate⟩
 · split at hstep
   · cases hstep
   · cases hstep
     exact h.finishUpload task

lemma Inv.claimStep {existing:Option DriverPackRelease}
 (hguard:Undisturbed st s (.claim task now))(hstep:claim st s task u existing now=some s'):
 Inv st s':=by
 unfold claim at hstep
 simp only[bind_eq_bind,bind_eq_some_iff] at hstep
 obtain ⟨path,hpath,hstep⟩:=hstep
 split at hstep
 · rename_i ledger hreserve
   obtain ⟨rfl,hgone⟩:=reserveArtifact_eq_some hreserve
   obtain ⟨hclear,halone⟩:=hguard u hu path hpath (by simp[hreserve])
   cases hstep
   refine h.reserve hpath hgone hclear fun k v hv hne=>?_
   exact halone (k,v) (get_eq_some_iff.mp hv) hne
 · simp only[bind_eq_some_iff] at hstep
   obtain ⟨row,hrow,hstep⟩:=hstep
   split at hstep
   · rename_i hactive
     cases hstep
     refine Inv.touch (s:=s.setUpload task u _) ?_ (h.active path row hrow hactive.2.1).2
     refine h.setUpload ?_ (by simp[Upload.claim])
     exact {
      opened:=by simp[Upload.opened]
      stored:=by simp[Upload.stored]
      kept:=by simp[Upload.claim]
      drawn:=by simp[Upload.claim]
      seen:=by simp
      unreaped:=by simp[Upload.claim]
      placed:=by
       rintro r stage hr -
       cases hr
       exact hpath
      unwritten:=by
       intro other row' hother hrow' hstate
       cases hother
       obtain rfl:=some.inj (hrow.symm.trans hrow')
       rw[hactive.2.1] at hstate
       cases hstate }
   · cases hstep

lemma Inv.stage {stage next:UploadStage}
 (hphase:u.phase=.holding r stage)(hup:UploadInv st s {u with phase:=.holding r next}):
 Inv st (s.setUpload task u (.holding r next)):=
 h.advance hu (by simp[Upload.claim,hphase]) hup

lemma Inv.storeStep (hphase:u.phase=.holding r .reserved)(hstep:storeCheck st s u r=some phase):
 Inv st (s.setUpload task u phase):=by
 have hup:=h.uploads task u hu
 have hplaced:=hup.placed r _ hphase
 unfold storeCheck at hstep
 cases hfile:s.files.get r.artifactPath with
 | none=>
  simp only[hfile,some.injEq] at hstep
  subst hstep
  refine h.stage hu hphase (hup.advance (by simp[Upload.claim,hphase]) ?_ ?_ ?_ ?_ ?_)
  · intro path row hpath hrow hstate
    cases hpath
    obtain ⟨bytes,hbytes,-⟩:=(h.active _ row hrow hstate).1
    rw[hfile] at hbytes
    cases hbytes
  · simp[Upload.unwritten,hphase]
  · simp[Upload.stored]
  · rintro r' stage hr hwrite
    cases hr
    exact hplaced hwrite
  · simp
 | some existing=>
  simp only[hfile] at hstep
  split at hstep
  case isFalse=>cases hstep
  case isTrue hsame=>
   cases hstep
   refine h.stage hu hphase (hup.advance (by simp[Upload.claim,hphase]) ?_ ?_ ?_ ?_ ?_)
   · simp[Upload.opened]
   · simp[Upload.unwritten]
   · intro path hpath
     cases hpath
     exact .inr ⟨existing,hfile,hsame⟩
   · rintro r' stage hr hwrite
     cases hr
     exact hplaced hwrite
   · simp
end

lemma Inv.storeWrite {stage next:UploadStage}(bytes:Bytes)
 (hu:s.uploads.get task=some u)(hphase:u.phase=.holding r stage)
 (hopened:u.opened=some r.artifactPath)(hstored:u.stored=none)
 (hnext:next=.writing∨next=.stored∧bytes=u.data):Inv st { s.setUpload task u (.holding r next) with
  files:=s.files.set r.artifactPath bytes }:=by
 have hunwritten:=Upload.unwritten_of_opened hopened
 have hwritten:=h.write bytes hu hopened hunwritten hstored
 have hup:=hwritten.uploads task u hu
 refine hwritten.stage hu hphase (hup.advance (by simp[Upload.claim,hphase]) ?_ ?_ ?_ ?_ ?_)
 · intro path row hpath hrow
   rcases hnext with rfl|⟨rfl,-⟩
   · cases hpath
     exact hup.opened _ row hopened hrow
   · simp[Upload.opened] at hpath
 · intro path hpath
   rcases hnext with rfl|⟨rfl,-⟩
   · cases hpath
     exact hunwritten
   · simp[Upload.unwritten] at hpath
 · intro path hpath
   rcases hnext with rfl|⟨rfl,rfl⟩
   · simp[Upload.stored] at hpath
   · cases hpath
     exact .inr ⟨u.data,get_set_self s.files _ _,rfl⟩
 · rintro r' stage' hr hwrite
   cases hr
   exact hup.placed r stage hphase hwrite
 · rintro r' packSeen row hr
   rcases hnext with rfl|⟨rfl,-⟩ <;> cases hr

lemma Inv.activateRead (packSeen:Bool)(hu:s.uploads.get task=some u)
 (hphase:u.phase=.holding r .stored):
 Inv st (s.setUpload task u (.holding r (.activating packSeen (s.releases.get u.manifest)))):=by
 have hup:=h.uploads task u hu
 refine h.stage hu hphase (hup.advance (by simp[Upload.claim,hphase]) ?_ ?_ ?_ ?_ ?_)
 · simp[Upload.opened]
 · simp[Upload.unwritten]
 · simp[Upload.stored,hphase]
 · rintro r' stage hr hwrite
   cases hr
   exact hup.placed r _ hphase hwrite
 · rintro r' packSeen' row hr
   simp only[UploadPhase.holding.injEq,UploadStage.activating.injEq] at hr
   exact h.rows u.manifest row hr.2.2
end

lemma uploadInv_settled (u:Upload)(path:Path):
 UploadInv st s {u with phase:=.holding (settledReservation path) .stored}:=by
 constructor <;>
  simp[Upload.claim,Upload.unwritten,Upload.opened,settledReservation]
lemma Inv.checkFile (h:Inv st s){existing:Option DriverPackRelease}
 (hstep:checkFile st s u existing=some phase):Inv st (s.setUpload task u phase):=by
 have hcases:(∃e,phase=.unserved e)∨
   ∃path,phase=.holding (settledReservation path) .stored:=by
  unfold ArtifactLedger.checkFile at hstep
  grind
 rcases hcases with ⟨e,rfl⟩|⟨path,rfl⟩
 · exact h.setUpload (uploadInv_of_unreserved (by simp)) (by simp[Upload.claim])
 · exact h.setUpload (uploadInv_settled u path) (by simp[Upload.claim,settledReservation])

lemma inv_uploadStep (h:Inv st s){label:Label}(hu:s.uploads.get task=some u)
 (hguard:∀other now,label=.claim other now→Undisturbed st s (.claim task now))
 (hstep:uploadStep st s task u label=some s'):Inv st s':=by
 unfold uploadStep at hstep
 split at hstep
 · split at hstep
   · cases hstep
     exact h.setUpload (uploadInv_of_unreserved (by simp)) (by simp[Upload.claim])
   · cases hstep
 · split at hstep
   · obtain ⟨phase,hphase,rfl⟩:=map_eq_some_iff.mp hstep
     exact h.checkFile hphase
   · cases hstep
 · rename_i other now
   split at hstep
   · exact h.claimStep hu (hguard other now rfl) hstep
   · cases hstep
 · split at hstep
   · rename_i r hphase
     obtain ⟨phase,hnext,rfl⟩:=map_eq_some_iff.mp hstep
     exact h.storeStep hu hphase hnext
   · cases hstep
 · split at hstep
   · rename_i r hphase
     cases hstep
     exact h.storeWrite _ hu hphase (by simp[Upload.opened,hphase])
      (by simp[Upload.stored,hphase]) (.inl rfl)
   · cases hstep
 · split at hstep
   · rename_i r hphase
     cases hstep
     exact h.storeWrite _ hu hphase (by simp[Upload.opened,hphase])
      (by simp[Upload.stored,hphase]) (.inr ⟨rfl,rfl⟩)
   · cases hstep
 · split at hstep
   · rename_i r hphase
     cases hstep
     exact h.activateRead _ hu hphase
   · cases hstep
 · split at hstep
   · rename_i r packSeen releaseSeen hphase
     exact h.activateCommit hu hphase hstep
   · cases hstep
 · cases hstep
   exact h.finishUpload task
 · cases hstep

lemma Inv.beginUpload (h:Inv st s){data:Bytes}(hstep:beginUpload st s task data=some s'):
 Inv st s':=by
 unfold ArtifactLedger.beginUpload at hstep
 simp only[bind_eq_bind,bind_eq_some_iff] at hstep
 obtain ⟨manifest,-,hstep⟩:=hstep
 split at hstep
 · cases hstep
 · cases hstep
   exact h.setUpload (u:=⟨data,manifest,.parsed⟩)
    (uploadInv_of_unreserved (by simp)) (by simp[Upload.claim])
end GridFleet.ArtifactLedger
