import GridFleet.ArtifactLedger
/-! A served release keeps its file as long as no upload takes a path on which an unlink or another
upload's write is still to come, no reservation is reaped under its upload, and no deletion commits on
release rows that have changed since it loaded them. -/
namespace GridFleet.ArtifactLedger
open Interleaving PackStorage Dict Option

def Upload.claim (u:Upload):Option RowId:=
 match u.phase with
 | .holding r _=>if r.reservedAt.isSome then r.artifactId else none
 | _=>none
def Upload.unwritten (u:Upload):Option Path:=
 match u.phase with
 | .holding r .reserved | .holding r .opening | .holding r .writing=>some r.artifactPath
 | _=>none
def Upload.opened (u:Upload):Option Path:=
 match u.phase with
 | .holding r .opening | .holding r .writing=>some r.artifactPath
 | _=>none
def Upload.stored (u:Upload):Option Path:=
 match u.phase with
 | .holding r .stored | .holding r (.activating _ _)=>some r.artifactPath
 | _=>none
def Deletion.rows (d:Deletion):List (Manifest×DriverPackRelease):=
 match d.phase with
 | .loaded rows=>rows
 | .purging _ _=>[]
def Reaper.candidates (r:Reaper):List ReapCandidate:=r.remaining++r.reaped++r.failed

/-- An upload takes a path only when no unlink and no other upload's write of it is still to come;
a reservation is reaped only after the upload that made it is over; a deletion commits while
the release rows it loaded are still there. -/
def Undisturbed (st:Storage)(s:State):Label→Prop
 | .claim task now=>∀u∈s.uploads.get task,∀path∈st.pathFor u.manifest,
   (reserveArtifact s.ledger s.nextId now path).isSome→
    (∀item∈s.unlinks,item.path≠path)∧
    ∀e∈s.uploads.entries,e.1≠task→e.2.unwritten≠some path
 | .reapSelect _ now=>∀c∈selectCandidates s now,∀row∈s.ledger.get c.path,
   row.state=.pending→∀e∈s.uploads.entries,e.2.claim≠some row.id
 | .deleteCommit task _=>∀d∈s.deletions.get task,∀e∈d.rows,
   s.releases.get e.1=some e.2
 | _=>True

instance (st:Storage)(s:State):(label:Label)→Decidable (Undisturbed st s label)
 | .claim task now=>inferInstanceAs (Decidable (∀u∈s.uploads.get task,
   ∀path∈st.pathFor u.manifest,(reserveArtifact s.ledger s.nextId now path).isSome→
    (∀item∈s.unlinks,item.path≠path)∧
    ∀e∈s.uploads.entries,e.1≠task→e.2.unwritten≠some path))
 | .reapSelect _ now=>inferInstanceAs (Decidable (∀c∈selectCandidates s now,
   ∀row∈s.ledger.get c.path,row.state=.pending→
    ∀e∈s.uploads.entries,e.2.claim≠some row.id))
 | .deleteCommit task _=>inferInstanceAs (Decidable (∀d∈s.deletions.get task,
   ∀e∈d.rows,s.releases.get e.1=some e.2))
 | .beginUpload _ _ | .lookupRelease _ | .checkFile _ | .storeCheck _ | .storeWrite _ _
 | .storeFinish _ | .activateRead _ | .activateCommit _ _ | .stopUpload _ | .beginDelete _ _
 | .purgeUnlink _ _ | .purgeForget _ | .stopDelete _ | .reapUnlink _ _ | .reapFinish _ _
 | .stopReap _=>isTrue trivial

lemma mem_unlinks {s:State}{item:UnlinkItem}:item∈s.unlinks↔
 (∃k d,s.deletions.get k=some d∧item∈d.items)∨
  ∃k r,s.reapers.get k=some r∧∃c∈r.remaining,c.item=item:=by
 simp only[State.unlinks,List.mem_append,List.mem_flatMap,Prod.exists,List.mem_map,
  get_eq_some_iff]

/-- A release row names the path of its release, and a row without a path has no digest. -/
def RowOk (st:Storage)(key:Manifest)(row:DriverPackRelease):Prop:=
 (∀path,row.artifactPath=some path→st.pathFor key=some path)∧
  (row.artifactPath=none→ row.artifactSha256=none)

/-- What is true of an upload in flight. While its reservation stands nobody else writes or
unlinks the path, so what it stored is still there. -/
structure UploadInv (st:Storage)(s:State)(u:Upload):Prop where
 opened:∀path row,u.opened=some path→s.ledger.get path=some row→ row.state ≠ .active
 unwritten:∀path row,u.unwritten=some path→s.ledger.get path=some row→
  row.state=.pending→u.claim=some row.id
 kept:∀path row,s.ledger.get path=some row→ row.state=.pending→
  u.claim=some row.id→∀item∈s.unlinks,item.path≠path
 stored:∀path row,u.stored=some path→s.ledger.get path=some row→
  row.state=.pending→u.claim=some row.id→
  ∃bytes,s.files.get path=some bytes∧st.sha256 bytes=st.sha256 u.data
 drawn:∀id,u.claim=some id→id<s.nextId
 placed:∀r stage,u.phase=.holding r stage→ r.needsWrite→
  st.pathFor u.manifest=some r.artifactPath
 seen:∀r packSeen row,u.phase=.holding r (.activating packSeen (some row))→
  RowOk st u.manifest row
 unreaped:∀k r,s.reapers.get k=some r→∀c∈r.candidates,u.claim=some c.id→
  ∀path row,s.ledger.get path=some row→ row.id=c.id→ row.state ≠ .pending

structure Inv (st:Storage)(s:State):Prop where
 ids:∀path row,s.ledger.get path=some row→ row.id<s.nextId
 unique:∀p q a b,s.ledger.get p=some a→s.ledger.get q=some b→a.id=b.id→p=q
 active:∀path row,s.ledger.get path=some row→ row.state=.active→
  (∃bytes,s.files.get path=some bytes∧row.sha256=some (st.sha256 bytes))∧
   ∀item∈s.unlinks,item.path≠path
 uploads:∀k u,s.uploads.get k=some u→UploadInv st s u
 claims:∀j k u v id,s.uploads.get j=some u→s.uploads.get k=some v→
  u.claim=some id→v.claim=some id→j=k
 rows:∀key row,s.releases.get key=some row→RowOk st key row
 listed:∀key row path,s.releases.get key=some row→ row.artifactPath=some path→
  ∃a,s.ledger.get path=some a∧a.state=.active∧a.sha256=row.artifactSha256
 single:∀key key' row row' path,s.releases.get key=some row→
  s.releases.get key'=some row'→ row.artifactPath=some path→
  row'.artifactPath=some path→key=key'
 reaped:∀k r,s.reapers.get k=some r→∀c∈r.candidates,c.id<s.nextId∧
  ∀path row,s.ledger.get path=some row→ row.id=c.id→ row.state ≠ .active
 fresh:∀item∈s.unlinks,s.touches.count item.path=item.seen

lemma inv_init (st:Storage):Inv st State.init:=by
 constructor <;> simp[State.init,State.unlinks]

/-- Rows go or become orphaned; the others keep their id, state and digest. -/
def Shrinks (l l':Ledger):Prop:=∀path row',l'.get path=some row'→
 ∃row,l.get path=some row∧row'.id=row.id∧
  (row'.state=.orphaned∨row'.state=row.state∧row'.sha256=row.sha256)

lemma Shrinks.refl (l:Ledger):Shrinks l l:=fun _ row hrow=>⟨row,hrow,rfl,.inr ⟨rfl,rfl⟩⟩
lemma shrinks_orphanArtifacts (l:Ledger)(paths:List Path)(now:Instant):
 Shrinks l (orphanArtifacts l paths now):=by
 intro path row' hrow'
 obtain ⟨row,hrow,rfl⟩:=get_map_eq_some hrow'
 refine ⟨row,hrow,?_⟩
 split
 · exact ⟨rfl,.inl rfl⟩
 · exact ⟨rfl,.inr ⟨rfl,rfl⟩⟩
lemma shrinks_filter (l:Ledger)(p:Path→PackArtifact→Bool):Shrinks l (l.filter p):=by
 intro path row' hrow'
 rw[Dict.get_filter,filter_eq_some_iff] at hrow'
 exact ⟨row',hrow'.1,rfl,.inr ⟨rfl,rfl⟩⟩
lemma shrinks_bumpFailed (l:Ledger)(failed:List ReapCandidate)(now:Instant):
 Shrinks l (bumpFailed l failed now):=by
 intro path row' hrow'
 obtain ⟨row,hrow,rfl⟩:=get_map_eq_some hrow'
 refine ⟨row,hrow,?_⟩
 split <;> exact ⟨rfl,.inr ⟨rfl,rfl⟩⟩
lemma Shrinks.trans {l l' l'':Ledger}(h:Shrinks l l')(h':Shrinks l' l''):Shrinks l l'':=by
 intro path row'' hrow''
 obtain ⟨row',hrow',hid',hstate'⟩:=h' path row'' hrow''
 obtain ⟨row,hrow,hid,hstate⟩:=h path row' hrow'
 refine ⟨row,hrow,hid'.trans hid,?_⟩
 grind
lemma Shrinks.of_ne {l l':Ledger}(h:Shrinks l l'){path:Path}{row':PackArtifact}
 (hrow':l'.get path=some row')(hstate:row'.state ≠ .orphaned):
 ∃row,l.get path=some row∧row'.id=row.id∧row'.state=row.state∧row'.sha256=row.sha256:=by
 obtain ⟨row,hrow,hid,horphaned|hsame⟩:=h path row' hrow'
 · exact absurd horphaned hstate
 · exact ⟨row,hrow,hid,hsame⟩

variable {st:Storage}{s s':State}

lemma UploadInv.shrink {u:Upload}(h:UploadInv st s u)
 (hledger:Shrinks s.ledger s'.ledger)(hfiles:s'.files=s.files)
 (hunlinks:∀item∈s'.unlinks,item∈s.unlinks)(hreapers:∀k r',s'.reapers.get k=some r'→
  ∃k r,s.reapers.get k=some r∧∀c∈r'.candidates,c∈r.candidates)
 (hnext:s.nextId ≤ s'.nextId):UploadInv st s' u:=
 { h with
  opened path row' hopened hrow' hstate:=by
   obtain ⟨row,hrow,-,hsame,-⟩:=hledger.of_ne hrow' (by simp[hstate])
   exact h.opened path row hopened hrow (hsame ▸ hstate)
  unwritten path row' hunwritten hrow' hstate:=by
   obtain ⟨row,hrow,hid,hsame,-⟩:=hledger.of_ne hrow' (by simp[hstate])
   exact hid ▸ h.unwritten path row hunwritten hrow (hsame ▸ hstate)
  kept path row' hrow' hstate hclaim item hitem:=by
   obtain ⟨row,hrow,hid,hsame,-⟩:=hledger.of_ne hrow' (by simp[hstate])
   exact h.kept path row hrow (hsame ▸ hstate) (hid ▸ hclaim) item (hunlinks item hitem)
  stored path row' hstored hrow' hstate hclaim:=by
   obtain ⟨row,hrow,hid,hsame,-⟩:=hledger.of_ne hrow' (by simp[hstate])
   rw[hfiles]
   exact h.stored path row hstored hrow (hsame ▸ hstate) (hid ▸ hclaim)
  drawn id hclaim:=Nat.lt_of_lt_of_le (h.drawn id hclaim) hnext
  unreaped k r' hr' c hc hclaim path row' hrow' hid' hstate:=by
   obtain ⟨j,r,hr,hsub⟩:=hreapers k r' hr'
   obtain ⟨row,hrow,hid,hsame,-⟩:=hledger.of_ne hrow' (by simp[hstate])
   exact h.unreaped j r hr c (hsub c hc) hclaim path row hrow (hid ▸ hid') (hsame ▸ hstate) }

lemma Inv.shrink (h:Inv st s)(hledger:Shrinks s.ledger s'.ledger)
 (hreleases:∀key row,s'.releases.get key=some row→s.releases.get key=some row)
 (hlisted:∀key row path a,s'.releases.get key=some row→ row.artifactPath=some path→
  s.ledger.get path=some a→a.state=.active→
  ∃a',s'.ledger.get path=some a'∧a'.state=.active∧a'.sha256=a.sha256)(hfiles:s'.files=s.files)
 (huploads:∀k u,s'.uploads.get k=some u→s.uploads.get k=some u)
 (hunlinks:∀item∈s'.unlinks,item∈s.unlinks)(hreapers:∀k r',s'.reapers.get k=some r'→
  ∃k r,s.reapers.get k=some r∧∀c∈r'.candidates,c∈r.candidates)
 (hnext:s'.nextId=s.nextId)(htouches:s'.touches=s.touches):Inv st s' where
 ids path row' hrow':=by
  obtain ⟨row,hrow,hid,-⟩:=hledger path row' hrow'
  rw[hid,hnext]
  exact h.ids path row hrow
 unique p q a' b' ha' hb' hid:=by
  obtain ⟨a,ha,hida,-⟩:=hledger p a' ha'
  obtain ⟨b,hb,hidb,-⟩:=hledger q b' hb'
  exact h.unique p q a b ha hb (by rw[←hida,←hidb,hid])
 active path row' hrow' hstate:=by
  obtain ⟨row,hrow,-,hsame,hsha⟩:=hledger.of_ne hrow' (by simp[hstate])
  obtain ⟨hfile,hclear⟩:=h.active path row hrow (hsame ▸ hstate)
  rw[hfiles,hsha]
  exact ⟨hfile,fun item hitem=>hclear item (hunlinks item hitem)⟩
 uploads k u hu:=(h.uploads k u (huploads k u hu)).shrink hledger hfiles hunlinks hreapers
  hnext.ge
 claims j k u v id hu hv:=h.claims j k u v id (huploads j u hu) (huploads k v hv)
 rows key row hrow:=h.rows key row (hreleases key row hrow)
 listed key row path hrow hpath:=by
  obtain ⟨a,ha,hactive,hsha⟩:=h.listed key row path (hreleases key row hrow) hpath
  obtain ⟨a',ha',hactive',hsha'⟩:=hlisted key row path a hrow hpath ha hactive
  exact ⟨a',ha',hactive',hsha'.trans hsha⟩
 single key key' row row' path hrow hrow':=h.single key key' row row' path
  (hreleases key row hrow) (hreleases key' row' hrow')
 reaped k r' hr' c hc:=by
  obtain ⟨j,r,hr,hsub⟩:=hreapers k r' hr'
  obtain ⟨hid,hstate⟩:=h.reaped j r hr c (hsub c hc)
  refine ⟨hnext ▸ hid,fun path row' hrow' hsame hactive=>?_⟩
  obtain ⟨row,hrow,hidr,hstater,-⟩:=hledger.of_ne hrow' (by simp[hactive])
  exact hstate path row hrow (hidr ▸ hsame) (hstater ▸ hactive)
 fresh item hitem:=by
  rw[htouches]
  exact h.fresh item (hunlinks item hitem)

lemma get_unlinkFile_of_ne (files:Dict Path Bytes){path other:Path}(ok:Bool)
 (hne:other≠path):(unlinkFile files other ok).get path=files.get path:=by
 unfold unlinkFile
 split
 · exact get_pop_of_ne files hne.symm
 · rfl

/-- No unlink that is still to come concerns a path that is served or reserved. -/
lemma Inv.unlink (h:Inv st s){item:UnlinkItem}(hitem:item∈s.unlinks)(ok:Bool):
 Inv st {s with files:=unlinkFile s.files item.path ok}:=
 { h with
  active path row hrow hstate:=by
   obtain ⟨hfile,hclear⟩:=h.active path row hrow hstate
   refine ⟨?_,hclear⟩
   rw[get_unlinkFile_of_ne s.files ok (hclear item hitem)]
   exact hfile
  uploads k u hu:=
   have hup:=h.uploads k u hu
   { opened:=hup.opened,unwritten:=hup.unwritten,kept:=hup.kept,drawn:=hup.drawn
     placed:=hup.placed,seen:=hup.seen,unreaped:=hup.unreaped
     stored:=by
      intro path row hstored hrow hstate hclaim
      rw[get_unlinkFile_of_ne s.files ok (hup.kept path row hrow hstate hclaim item hitem)]
      exact hup.stored path row hstored hrow hstate hclaim } }

def Idle (s:State)(row:PackArtifact):Prop:=
 row.state ≠ .active∧
  (row.state=.pending→∀k u,s.uploads.get k=some u→u.claim≠some row.id)

lemma Inv.addUnlinks (h:Inv st s){deletions:Dict TaskId Deletion}{reapers:Dict TaskId Reaper}
 (hitems:∀item∈({s with deletions:=deletions,reapers:=reapers}:State).unlinks,
  item∈s.unlinks∨s.touches.count item.path=item.seen∧
   ∀row,s.ledger.get item.path=some row→Idle s row)
 (hreapers:∀k r,reapers.get k=some r→s.reapers.get k=some r∨
  ∀c∈r.candidates,∃row,s.ledger.get c.path=some row∧row.id=c.id∧Idle s row):
 Inv st {s with deletions:=deletions,reapers:=reapers}:=
 { h with
  active path row hrow hstate:=by
   obtain ⟨hfile,hclear⟩:=h.active path row hrow hstate
   refine ⟨hfile,fun item hitem hpath=>?_⟩
   rcases hitems item hitem with hold|⟨-,hidle⟩
   · exact hclear item hold hpath
   · exact (hidle row (hpath ▸ hrow)).1 hstate
  uploads k u hu:=
   have hup:=h.uploads k u hu
   { opened:=hup.opened,unwritten:=hup.unwritten,stored:=hup.stored
     drawn:=hup.drawn,placed:=hup.placed,seen:=hup.seen
     kept:=by
      intro path row hrow hstate hclaim item hitem hpath
      rcases hitems item hitem with hold|⟨-,hidle⟩
      · exact hup.kept path row hrow hstate hclaim item hold hpath
      · exact (hidle row (hpath ▸ hrow)).2 hstate k u hu hclaim
     unreaped:=by
      intro j r hr c hc hclaim path row hrow hid hstate
      rcases hreapers j r hr with hold|hnew
      · exact hup.unreaped j r hold c hc hclaim path row hrow hid hstate
      · obtain ⟨row',hrow',hid',hidle⟩:=hnew c hc
        obtain rfl:=h.unique path c.path row row' hrow hrow' (hid.trans hid'.symm)
        obtain rfl:=some.inj (hrow.symm.trans hrow')
        exact hidle.2 hstate k u hu (hclaim.trans (congrArg some hid.symm)) }
  reaped k r hr c hc:=by
   rcases hreapers k r hr with hold|hnew
   · exact h.reaped k r hold c hc
   · obtain ⟨row',hrow',hid',hidle⟩:=hnew c hc
     refine ⟨hid' ▸ h.ids c.path row' hrow',fun path row hrow hid hactive=>?_⟩
     obtain rfl:=h.unique path c.path row row' hrow hrow' (hid.trans hid'.symm)
     obtain rfl:=some.inj (hrow.symm.trans hrow')
     exact hidle.1 hactive
  fresh item hitem:=by
   rcases hitems item hitem with hold|⟨hseen,-⟩
   · exact h.fresh item hold
   · exact hseen }
end GridFleet.ArtifactLedger
