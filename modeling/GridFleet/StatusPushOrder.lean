import Mathlib.Order.Basic
import GridFleet.StatusPush
import GridFleet.Fallible
/-! `Ordered` is what the history of one guarded section satisfies, entry by entry; the cursor on the host
row is its latest tokened advance. A push can only be finalised while its snapshot is the stored one,
and then its reserved revision is above everything visible. -/
namespace GridFleet.StatusPush
open Interleaving Dict List Option

namespace Stamped

def token (e:Stamped):Option SectionToken:=extractToken e.body e.pushBoot
def revision (e:Stamped):Option ℤ:=observationRevision e.body
def Own (e:Stamped):Prop:=e.kind ≠ .restored
end Stamped

def latestAdvance:List Stamped→Option (SectionToken×Option ℤ)
 | []=>none
 | e::older=>
  match e.kind,e.token with
  | .advance,some token=>some (token,e.revision)
  | _,_=>latestAdvance older

/-- A stamp is put on a section only while the boot of the push is the host's boot. -/
def Fenced (e:Stamped):Prop:=∀boot,e.pushBoot=some boot→e.hostBoot=some boot

inductive EntryOk (older:List Stamped)(e:Stamped):Prop where
 | advance (revision:ℤ)(hkind:e.kind=.advance)(hrevision:e.revision=some revision)
   (habove:∀o∈older,∀r,o.revision=some r→ r<revision)(hfence:Fenced e)
   (hsequence:∀token c,e.token=some token→latestAdvance older=some c→
    c.1≠token∧(c.1.bootId=token.bootId→c.1.sectionSequence≤token.sectionSequence))
 | redelivery (token:SectionToken)(hkind:e.kind=.redelivery)(htoken:e.token=some token)
   (hsame:latestAdvance older=some (token,e.revision))(hfence:Fenced e)
 | restored (previous:Stamped)(rest:List Stamped)(hkind:e.kind=.restored)
   (holder:older=previous::rest)(hbody:e.body=previous.body)

def Ordered:List Stamped→Prop
 | []=>True
 | e::older=>EntryOk older e∧Ordered older

section
variable (revision:ℕ)(receivedAt:String)(sec:JsonObject)

lemma get_stamp_of_ne {key:String}(hrevision:key≠observationRevisionKey)
 (hreceived:key≠observationReceivedAtKey):(stamp revision receivedAt sec).get key=sec.get key:=by
 rw[stamp,get_set_of_ne _ _ hreceived,get_set_of_ne _ _ hrevision]
lemma extractToken_stamp (bootId:Option BootId):
 extractToken (stamp revision receivedAt sec) bootId=extractToken sec bootId:=by
 unfold extractToken
 rw[get_stamp_of_ne revision receivedAt sec (by decide) (by decide),
  get_stamp_of_ne revision receivedAt sec (by decide) (by decide)]
lemma observationRevision_stamp:
 observationRevision (stamp revision receivedAt sec)=some (revision:ℤ):=by
 have hget:(stamp revision receivedAt sec).get observationRevisionKey=some (.int revision):=by
  rw[stamp,get_set_of_ne _ _ (by decide),get_set_self]
 unfold observationRevision
 rw[hget]
lemma extractToken_pop (bootId:Option BootId):
 extractToken (sec.pop observationRevisionKey) bootId=extractToken sec bootId:=by
 unfold extractToken
 rw[get_pop_of_ne _ (by decide),get_pop_of_ne _ (by decide)]
lemma observationRevision_pop:observationRevision (sec.pop observationRevisionKey)=none:=by
 unfold observationRevision
 rw[get_pop_self]
lemma canonicalSectionHash_pop (sha256:JsonObject→String):
 canonicalSectionHash sha256 (sec.pop observationRevisionKey)=canonicalSectionHash sha256 sec:=by
 unfold canonicalSectionHash Dict.pop
 rw[Dict.filter_filter]
 congr 2
 funext key _
 by_cases hkey:key=observationRevisionKey
 · subst hkey
   decide
 · simp[hkey]
end

def Shown (body:Option JsonObject)(history:List Stamped):Prop:=
 ∀sec,body=some sec→ observationRevision sec≠none→
  ∃e rest,history=e::rest∧e.body=sec
def Below (history:List Stamped)(revision:ℕ):Prop:=
 ∀e∈history,∀r,e.revision=some r→ r<revision

section
variable (sha256:JsonObject→String)

structure LaneOk (host:Host)(revision:ℕ)(name:SectionName)(history:List Stamped):Prop where
 ordered:Ordered history
 below:Below history (revision+1)
 cursor:latestAdvance history=(host.observationCursors name).map fun c=>
  (⟨c.bootId,c.sectionSequence,c.payloadSha256⟩,some (c.revision:ℤ))

structure PendingOk (pending:PendingStatusPush)(revision:ℕ)(name:SectionName)
  (sec:JsonObject):Prop where
 unstamped:observationRevision sec=none
 reserved:∃r,pending.reservedRevisions name=some (r+1)∧r+1≤revision
 token:∀token,extractToken sec pending.bootId=some token→
  canonicalSectionHash sha256 sec=token.payloadSha256

structure CurrentOk (pending:PendingStatusPush)(name:SectionName)(history:List Stamped):
  Prop where
 prior:Shown (pending.priorSections name) history
 reserved:∀r,pending.reservedRevisions name=some r→Below history r

variable {sha256}

variable {revision:ℕ}{name:SectionName}{pending:PendingStatusPush}{e:Stamped}
  {older:List Stamped}

lemma LaneOk.mono {host host':Host}{revision':ℕ}
 {history:List Stamped}(h:LaneOk host revision name history)
 (hcursor:host'.observationCursors name=host.observationCursors name)
 (hrevision:revision≤revision'):LaneOk host' revision' name history where
 ordered:=h.ordered
 below:=fun e he r hr=>by
  have:=h.below e he r hr
  omega
 cursor:=hcursor ▸ h.cursor
lemma PendingOk.mono {revision':ℕ}{sec:JsonObject}(h:PendingOk sha256 pending revision name sec)
 (hrevision:revision≤revision'):PendingOk sha256 pending revision' name sec:=
 { h with
  reserved:=by
   obtain ⟨r,hr,hle⟩:=h.reserved
   exact ⟨r,hr,Nat.le_trans hle hrevision⟩ }

structure DraftOk (sha256:JsonObject→String)(pending:PendingStatusPush)(d:Draft)
  (name:SectionName):Prop where
 lane:LaneOk d.host d.revision name (d.visible name)
 prepared:∀sec,pending.sections name=some sec→PendingOk sha256 pending d.revision name sec
 current:CurrentOk pending name (d.visible name)
 fence:∀boot,pending.bootId=some boot→d.host.currentBootId=some boot

structure DraftFrame (name:SectionName)(d d':Draft):Prop where
 revision:d.revision≤d'.revision
 boot:d'.host.currentBootId=d.host.currentBootId
 cursors:∀other,other≠name→d'.host.observationCursors other=d.host.observationCursors other
 visible:∀other,other≠name→d'.visible other=d.visible other
 sections:∀other,other≠name→d'.sections other=d.sections other

inductive Answer (sha256:JsonObject→String)(pending:PendingStatusPush)(host:Host)(seq:ℕ)
  (name:SectionName)(sec:JsonObject):Advance×Host×ℕ→Prop where
 | tokenless (r:ℕ)(hreserved:pending.reservedRevisions name=some (r+1))
   (htoken:extractToken sec pending.bootId=none):
   Answer sha256 pending host seq name sec (⟨r+1,true,false,pending.receivedAt⟩,host,seq)
 | moved (r:ℕ)(token:SectionToken)(hreserved:pending.reservedRevisions name=some (r+1))
   (htoken:extractToken sec pending.bootId=some token)
   (hsequence:∀c,host.observationCursors name=some c→c.bootId=token.bootId→
    c.sectionSequence≤token.sectionSequence)
   (hnew:∀c,host.observationCursors name=some c→¬(token.bootId=c.bootId∧
    token.sectionSequence=c.sectionSequence∧
    canonicalSectionHash sha256 sec=c.payloadSha256)):
   Answer sha256 pending host seq name sec (⟨r+1,true,false,pending.receivedAt⟩,
    moveCursor host name ⟨token.bootId,token.sectionSequence,canonicalSectionHash sha256 sec,
     r+1,pending.receivedAt⟩,seq)
 | stale (c:Cursor):Answer sha256 pending host seq name sec
   (⟨c.revision,false,true,c.receivedAt⟩,host,seq)
 | redelivered (c:Cursor)(token:SectionToken)(hcursor:host.observationCursors name=some c)
   (htoken:extractToken sec pending.bootId=some token)(hboot:token.bootId=c.bootId)
   (hsequence:token.sectionSequence=c.sectionSequence)
   (hhash:canonicalSectionHash sha256 sec=c.payloadSha256):
   Answer sha256 pending host seq name sec (⟨c.revision,false,false,c.receivedAt⟩,host,seq)

lemma advanceSectionCursor_answer (sha256:JsonObject→String)(host:Host)(seq:ℕ)(sec:JsonObject){r:ℕ}
 (hreserved:pending.reservedRevisions name=some (r+1)):
 Answer sha256 pending host seq name sec (advanceSectionCursor sha256 host seq name sec
  pending.bootId pending.receivedAt (pending.reservedRevisions name)):=by
 unfold advanceSectionCursor
 rw[hreserved]
 simp only[candidateOrNext]
 split
 · exact .tokenless r hreserved ‹_›
 · rename_i token htoken
   split
   · rename_i hnone
     exact .moved r token hreserved htoken (fun c hc=>by simp[hnone] at hc)
      fun c hc=>by simp[hnone] at hc
   · rename_i c hcursor
     split
     · exact .stale c
     · rename_i hfresh
       split
       · rename_i hsame
         exact .redelivered c token hcursor htoken hsame.1 hsame.2.1 hsame.2.2
       · rename_i hnew
         refine .moved r token hreserved htoken (fun c' hc' hboot=>?_) fun c' hc'=>?_
         · rw[hcursor] at hc'
           cases hc'
           by_contra hlt
           exact hfresh ⟨hboot.symm,by omega⟩
         · rw[hcursor] at hc'
           cases hc'
           exact hnew

lemma latestAdvance_of_kind (hkind:e.kind ≠ .advance):
 latestAdvance (e::older)=latestAdvance older:=by
 rw[latestAdvance]
 split
 · contradiction
 · rfl
lemma latestAdvance_of_tokenless (htoken:e.token=none):
 latestAdvance (e::older)=latestAdvance older:=by
 rw[latestAdvance,htoken]
 split
 · contradiction
 · rfl

variable {token:SectionToken}

lemma latestAdvance_of_token (hkind:e.kind=.advance)(htoken:e.token=some token):
 latestAdvance (e::older)=some (token,e.revision):=by
 rw[latestAdvance,hkind,htoken]
lemma mem_of_latestAdvance {r:Option ℤ}(hlatest:latestAdvance older=some (token,r)):
 ∃a∈older,a.kind=.advance∧a.token=some token∧a.revision=r:=by
 induction older with
 | nil=>cases hlatest
 | cons o _ ih=>
  rw[latestAdvance] at hlatest
  split at hlatest
  · rename_i hkind htoken
    rw[some.injEq,Prod.mk.injEq] at hlatest
    exact ⟨o,mem_cons_self,hkind,hlatest.1 ▸ htoken,hlatest.2⟩
  · obtain ⟨a,ha,hrest⟩:=ih hlatest
    exact ⟨a,mem_cons_of_mem _ ha,hrest⟩

section
variable {d:Draft}{name:SectionName}{kind:StampKind}{bootId:Option BootId}

lemma show_frame (body:Option JsonObject):DraftFrame name d (d.show name kind bootId body) where
 revision:=Nat.le_refl _
 boot:=rfl
 cursors:=fun _ _=>rfl
 visible:=fun other hother=>by
  unfold Draft.show
  split
  · rfl
  · dsimp only
    split
    · rfl
    · exact Function.update_of_ne hother ..
 sections:=fun other hother=>Function.update_of_ne hother ..
lemma visible_show {body:JsonObject}(hbody:observationRevision body≠none):
 (d.show name kind bootId (some body)).visible name =
  ⟨kind,body,bootId,d.host.currentBootId⟩::d.visible name:=by
 unfold Draft.show
 simp[hbody]
lemma visible_show_unstamped {body:Option JsonObject}
 (hbody:∀sec,body=some sec→ observationRevision sec=none):
 (d.show name kind bootId body).visible=d.visible:=by
 cases body with
 | none=>rfl
 | some sec=>simp[Draft.show,hbody sec rfl]
lemma shown_show (body:Option JsonObject):Shown ((d.show name kind bootId body).sections name)
  ((d.show name kind bootId body).visible name):=by
 intro sec hsec hstamped
 change Function.update d.sections name body name=some sec at hsec
 rw[Function.update_self] at hsec
 subst hsec
 rw[visible_show hstamped]
 exact ⟨_,_,rfl,rfl⟩
end

lemma LaneOk.cons {host host':Host}{history:List Stamped}
 (h:LaneOk host revision name history)(hentry:EntryOk history e)
 (hbelow:∀r,e.revision=some r→ r<revision+1)
 (hcursor:latestAdvance (e::history)=(host'.observationCursors name).map fun c=>
  (⟨c.bootId,c.sectionSequence,c.payloadSha256⟩,some (c.revision:ℤ))):
 LaneOk host' revision name (e::history) where
 ordered:=⟨hentry,h.ordered⟩
 below:=fun o ho r hr=>by
  rcases mem_cons.mp ho with rfl|ho
  · exact hbelow r hr
  · exact h.below o ho r hr
 cursor:=hcursor
lemma DraftFrame.trans {a b c:Draft}(h:DraftFrame name a b)
 (k:DraftFrame name b c):DraftFrame name a c where
 revision:=Nat.le_trans h.revision k.revision
 boot:=k.boot.trans h.boot
 cursors:=fun other hother=>(k.cursors other hother).trans (h.cursors other hother)
 visible:=fun other hother=>(k.visible other hother).trans (h.visible other hother)
 sections:=fun other hother=>(k.sections other hother).trans (h.sections other hother)
lemma moveCursor_frame (d:Draft)(name:SectionName)(cursor:Cursor)(payload:Sections):
 DraftFrame name d {d with host:=moveCursor d.host name cursor,foldPayload:=payload} where
 revision:=Nat.le_refl _
 boot:=rfl
 cursors:=fun _ hother=>Function.update_of_ne hother ..
 visible:=fun _ _=>rfl
 sections:=fun _ _=>rfl
lemma moveCursor_self (host:Host)(name:SectionName)(cursor:Cursor):
 (moveCursor host name cursor).observationCursors name=some cursor:=
 Function.update_self ..
lemma foldPayload_frame (d:Draft)(name:SectionName)(payload:Sections):
 DraftFrame name d {d with foldPayload:=payload}:=
 ⟨Nat.le_refl _,rfl,fun _ _=>rfl,fun _ _=>rfl,fun _ _=>rfl⟩

section
variable {sha256:JsonObject→String}{pending:PendingStatusPush}{d:Draft}{name:SectionName}
 {sec:JsonObject}

lemma stamp_revision_ne_none (revision:ℕ)(receivedAt:String)(sec:JsonObject):
 observationRevision (stamp revision receivedAt sec)≠none:=by
 rw[observationRevision_stamp]
 exact some_ne_none _
lemma stamp_below {revision seq:ℕ}{receivedAt:String}(hle:revision ≤ seq)(r:ℤ)
 (hr:observationRevision (stamp revision receivedAt sec)=some r):r<seq+1:=by
 rw[observationRevision_stamp] at hr
 cases hr
 omega
lemma DraftOk.advanceEntry (h:DraftOk sha256 pending d name){r:ℕ}
 (hreserved:pending.reservedRevisions name=some (r+1))
 (hsequence:∀token c,extractToken sec pending.bootId=some token→
  d.host.observationCursors name=some c→⟨c.bootId,c.sectionSequence,c.payloadSha256⟩≠token∧
  (c.bootId=token.bootId→c.sectionSequence≤token.sectionSequence)):EntryOk (d.visible name)
  ⟨.advance,stamp (r+1) pending.receivedAt sec,pending.bootId,d.host.currentBootId⟩:=by
 refine .advance ((r+1:ℕ):ℤ) rfl (observationRevision_stamp ..)
  (h.current.reserved (r+1) hreserved) h.fence fun token c htoken hlatest=>?_
 rw[Stamped.token,extractToken_stamp] at htoken
 rw[h.lane.cursor] at hlatest
 obtain ⟨cursor,hcursor,rfl⟩:=map_eq_some_iff.mp hlatest
 exact hsequence token cursor htoken hcursor
lemma DraftOk.redeliveryEntry (h:DraftOk sha256 pending d name)
 (hprepared:PendingOk sha256 pending d.revision name sec){c:Cursor}{token:SectionToken}
 (hcursor:d.host.observationCursors name=some c)
 (htoken:extractToken sec pending.bootId=some token)(hboot:token.bootId=c.bootId)
 (hsequence:token.sectionSequence=c.sectionSequence)
 (hhash:canonicalSectionHash sha256 sec=c.payloadSha256):EntryOk (d.visible name)
  ⟨.redelivery,stamp c.revision c.receivedAt sec,pending.bootId,d.host.currentBootId⟩:=by
 refine .redelivery token rfl ?_ ?_ h.fence
 · rw[Stamped.token,extractToken_stamp]
   exact htoken
 · have hsha:=(hprepared.token token htoken).symm.trans hhash
   rw[h.lane.cursor,hcursor,Stamped.revision,observationRevision_stamp]
   obtain ⟨boot,sequence,sha⟩:=token
   subst hboot hsequence hsha
   rfl
lemma LaneOk.cursor_below {host:Host}{revision:ℕ}{history:List Stamped}
 (h:LaneOk host revision name history){c:Cursor}
 (hcursor:host.observationCursors name=some c):c.revision≤revision:=by
 have hlatest:=h.cursor
 rw[hcursor] at hlatest
 obtain ⟨e,he,-,-,hrevision⟩:=mem_of_latestAdvance hlatest
 have:=h.below e he _ hrevision
 omega
end

lemma finalizeSection_spec {sha256:JsonObject→String}{d:Draft}
 (h:DraftOk sha256 pending d name)
 (hsections:d.sections name=pending.sections name):
 let d':=finalizeSection sha256 pending d name
 LaneOk d'.host d'.revision name (d'.visible name)∧
  Shown (d'.sections name) (d'.visible name)∧DraftFrame name d d':=by
 intro d'
 cases hsec:pending.sections name with
 | none=>
  have hd:d'=d:=by
   simp only[d',finalizeSection,hsec]
  rw[hd,hsections,hsec]
  refine ⟨h.lane,?_,Nat.le_refl _,rfl,fun _ _=>rfl,fun _ _=>rfl,fun _ _=>rfl⟩
  intro _ hnone
  cases hnone
 | some sec=>
  have hprepared:=h.prepared sec hsec
  obtain ⟨r,hreserved,hle⟩:=hprepared.reserved
  have hanswer:=advanceSectionCursor_answer sha256 d.host d.revision sec hreserved
  simp only[d',finalizeSection,hsec]
  generalize advanceSectionCursor sha256 d.host d.revision name sec pending.bootId
   pending.receivedAt (pending.reservedRevisions name)=answer at hanswer ⊢
  cases hanswer with
  | tokenless _ hreserved' htoken=>
   rw[hreserved] at hreserved'
   cases hreserved'
   refine ⟨?_,shown_show _,(foldPayload_frame ..).trans (show_frame _)⟩
   rw[if_pos rfl,visible_show (stamp_revision_ne_none _ _ _)]
   refine h.lane.cons (h.advanceEntry hreserved fun token c hsome=>?_) ?_ ?_
   · rw[htoken] at hsome
     cases hsome
   · exact stamp_below hle
   · rw[latestAdvance_of_tokenless (by rw[Stamped.token,extractToken_stamp];exact htoken)]
     exact h.lane.cursor
  | moved _ token hreserved' htoken hsequence hnew=>
   rw[hreserved] at hreserved'
   cases hreserved'
   refine ⟨?_,shown_show _,(moveCursor_frame ..).trans (show_frame _)⟩
   rw[if_pos rfl,visible_show (stamp_revision_ne_none _ _ _)]
   refine h.lane.cons (h.advanceEntry hreserved fun token' c hsome hcursor=>?_) ?_ ?_
   · rw[htoken] at hsome
     cases hsome
     refine ⟨fun heq=>hnew c hcursor ?_,hsequence c hcursor⟩
     rw[hprepared.token token htoken,←heq]
     exact ⟨rfl,rfl,rfl⟩
   · exact stamp_below hle
   · rw[latestAdvance_of_token rfl (by rw[Stamped.token,extractToken_stamp];exact htoken),
      Stamped.revision,observationRevision_stamp]
     change _=Option.map _ ((moveCursor d.host name _).observationCursors name)
     rw[moveCursor_self,hprepared.token token htoken]
     rfl
  | stale=>
   refine ⟨?_,shown_show _,(foldPayload_frame ..).trans (show_frame _)⟩
   rw[if_neg Bool.false_ne_true,if_pos rfl]
   by_cases hbody:∀body,pending.priorSections name=some body→ observationRevision body=none
   · rw[visible_show_unstamped hbody]
     exact h.lane
   · obtain ⟨body,hprior,hstamped⟩:∃body,pending.priorSections name=some body∧
       observationRevision body≠none:=by
      by_contra hnone
      exact hbody fun body hprior=>by_contra fun hstamped=>hnone ⟨body,hprior,hstamped⟩
     obtain ⟨e,rest,hvisible,hsame⟩:=h.current.prior body hprior hstamped
     rw[hprior,visible_show hstamped]
     refine h.lane.cons (.restored e rest rfl hvisible hsame.symm) (fun revision hrevision=>?_) ?_
     · refine h.lane.below e (hvisible ▸ mem_cons_self) revision ?_
       rw[Stamped.revision,hsame]
       exact hrevision
     · rw[latestAdvance_of_kind (by simp)]
       exact h.lane.cursor
  | redelivered _ _ hcursor htoken hboot hsequence hhash=>
   refine ⟨?_,shown_show _,(foldPayload_frame ..).trans (show_frame _)⟩
   rw[if_neg Bool.false_ne_true,if_neg Bool.false_ne_true,visible_show (stamp_revision_ne_none _ _ _)]
   refine h.lane.cons (h.redeliveryEntry hprepared hcursor htoken hboot hsequence hhash) ?_ ?_
   · exact stamp_below (h.lane.cursor_below hcursor)
   · rw[latestAdvance_of_kind (by simp)]
     exact h.lane.cursor

lemma finalizeSections_spec {sha256:JsonObject→String}
 {names:List SectionName}(hnodup:names.Nodup){d:Draft}
 (h:∀name∈names,DraftOk sha256 pending d name∧d.sections name=pending.sections name):
 let d':=names.foldl (finalizeSection sha256 pending) d
 (∀name∈names,LaneOk d'.host d'.revision name (d'.visible name)∧
  Shown (d'.sections name) (d'.visible name))∧
 d.revision≤d'.revision∧
 ∀other,other ∉ names→d'.host.observationCursors other=d.host.observationCursors other∧
  d'.visible other=d.visible other∧d'.sections other=d.sections other:=by
 induction names generalizing d with
 | nil=>
  exact ⟨fun _ hname=>absurd hname not_mem_nil,Nat.le_refl _,fun _ _=>⟨rfl,rfl,rfl⟩⟩
 | cons name names ih=>
  intro d'
  obtain ⟨hnew,hnodup⟩:=nodup_cons.mp hnodup
  obtain ⟨hok,hsections⟩:=h name mem_cons_self
  obtain ⟨hlane,hshown,hframe⟩:=finalizeSection_spec hok hsections
  have hrest:∀other∈names,DraftOk sha256 pending (finalizeSection sha256 pending d name) other∧
    (finalizeSection sha256 pending d name).sections other=pending.sections other:=by
   intro other hother
   have hne:other≠name:=fun heq=>hnew (heq ▸ hother)
   obtain ⟨hok,hsections⟩:=h other (mem_cons_of_mem _ hother)
   refine ⟨⟨?_,?_,?_,?_⟩,(hframe.sections other hne).trans hsections⟩
   · rw[hframe.visible other hne]
     exact hok.lane.mono (hframe.cursors other hne) hframe.revision
   · exact fun sec hsec=>(hok.prepared sec hsec).mono hframe.revision
   · rw[hframe.visible other hne]
     exact hok.current
   · rw[hframe.boot]
     exact hok.fence
  obtain ⟨hlanes,hrevision,hothers⟩:=ih hnodup hrest
  refine ⟨fun other hother=>?_,Nat.le_trans hframe.revision hrevision,fun other hother=>?_⟩
  · rcases mem_cons.mp hother with rfl|hother
    · obtain ⟨hcursors,hvisible,hsections⟩:=hothers other hnew
      simp only[d',foldl_cons]
      rw[hvisible,hsections]
      exact ⟨hlane.mono hcursors hrevision,hshown⟩
    · exact hlanes other hother
  · obtain ⟨hne,hother⟩:=not_or.mp (List.mem_cons.not.mp hother)
    obtain ⟨hcursors,hvisible,hsections⟩:=hothers other hother
    exact ⟨hcursors.trans (hframe.cursors other hne),hvisible.trans (hframe.visible other hne),
     hsections.trans (hframe.sections other hne)⟩
end

section
variable (sha256:JsonObject→String)

structure Inv (s:State):Prop where
 lane:∀name∈guardedSections,LaneOk s.host s.revision name (s.visible name)
 snapshotId:∀snap,s.snapshot=some snap→snap.publicationId ≤ s.publications
 snapshot:∀snap,s.snapshot=some snap→∀name∈guardedSections,
  Shown (snap.payload name) (s.visible name)
 pendingIds:∀p∈s.pending,p.publicationId ≤ s.publications
 distinct:(s.pending.map PendingStatusPush.publicationId).Nodup
 prepared:∀p∈s.pending,∀name∈guardedSections,∀sec,p.sections name=some sec→
  PendingOk sha256 p s.revision name sec
 current:∀p∈s.pending,∀snap,s.snapshot=some snap→
  snap.publicationId=p.publicationId→∀name∈guardedSections,
  CurrentOk p name (s.visible name)

lemma inv_initial (currentBootId:Option BootId)(revision:ℕ):
 Inv sha256 (initial currentBootId revision) where
 lane:=fun _ _=>⟨trivial,fun _ he=>absurd he not_mem_nil,rfl⟩
 snapshotId:=fun _ hsnap=>by cases hsnap
 snapshot:=fun _ hsnap=>by cases hsnap
 pendingIds:=fun _ hp=>absurd hp not_mem_nil
 distinct:=nodup_nil
 prepared:=fun _ hp=>absurd hp not_mem_nil
 current:=fun _ hp=>absurd hp not_mem_nil

variable {sha256}{s:State}

lemma Inv.drop (h:Inv sha256 s)(publicationId:ℕ):Inv sha256 (s.drop publicationId):=
 { h with
  pendingIds:=fun p hp=>h.pendingIds p (mem_filter.mp hp).1
  distinct:=h.distinct.sublist (filter_sublist.map _)
  prepared:=fun p hp=>h.prepared p (mem_filter.mp hp).1
  current:=fun p hp=>h.current p (mem_filter.mp hp).1 }

variable {host host':Host}{p:PendingStatusPush}{s':State}{push:HostStatusPush}

lemma Inv.elsewhere (h:Inv sha256 s){revision:ℕ}
 (hcursors:host.observationCursors=s.host.observationCursors)(hrevision:s.revision≤revision):
 Inv sha256 {s with host:=host,revision:=revision}:=
 { h with
  lane:=fun name hname=>(h.lane name hname).mono (by rw[hcursors]) hrevision
  prepared:=fun p hp name hname sec hsec=>(h.prepared p hp name hname sec hsec).mono hrevision }

variable {bootId:Option BootId}{name:SectionName}

lemma applyBootFence_ok (hfence:applyBootFence host bootId=.ok host'):
 host'.observationCursors=host.observationCursors∧applyBootFence host' bootId=.ok host'∧
  ∀boot,bootId=some boot→host'.currentBootId=some boot:=by
 unfold applyBootFence at hfence
 split at hfence
 · cases hfence
   exact ⟨rfl,rfl,by simp⟩
 · cases hfence
   exact ⟨rfl,by simp[applyBootFence],by simp⟩
 · rename_i hcurrent
   split at hfence
   · rename_i hsame
     cases hfence
     exact ⟨rfl,by simp[applyBootFence,hcurrent,hsame],by simp[hcurrent,hsame]⟩
   · cases hfence
lemma persistedPayload_of_guarded (sections:Sections)
 (hname:name∈guardedSections):persistedPayload sections name=sections name:=
 if_pos (mem_cons_of_mem _ hname)

lemma Inv.finalize (h:Inv sha256 s)(hp:p∈s.pending){snap:Snapshot}
 (hsnap:s.snapshot=some snap)(hid:snap.publicationId=p.publicationId)
 (hfence:applyBootFence s.host p.bootId=.ok host):
 let d:=finalizeSections sha256 p s host
 Inv sha256 (State.drop { s with
  host:=d.host
  revision:=d.revision
  snapshot:=some {snap with payload:=persistedPayload d.sections}
  visible:=d.visible } p.publicationId):=by
 intro d
 have hstart:∀name∈guardedSections,DraftOk sha256 p
   ⟨host,s.revision,p.sections,p.sections,s.visible⟩ name∧p.sections name=p.sections name:=by
  intro name hname
  refine ⟨⟨?_,h.prepared p hp name hname,h.current p hp snap hsnap hid name hname,?_⟩,rfl⟩
  · exact (h.lane name hname).mono (by rw[(applyBootFence_ok hfence).1]) (Nat.le_refl _)
  · exact (applyBootFence_ok hfence).2.2
 obtain ⟨hlanes,hrevision,-⟩:=finalizeSections_spec (by decide) hstart
 have hothers:∀q∈s.pending.filter (·.publicationId≠p.publicationId),
   q∈s.pending∧q.publicationId≠p.publicationId:=by
  intro q hq
  exact ⟨(mem_filter.mp hq).1,of_decide_eq_true (mem_filter.mp hq).2⟩
 refine
  { lane:=fun name hname=>(hlanes name hname).1
    snapshotId:=?_
    snapshot:=?_
    pendingIds:=fun q hq=>h.pendingIds q (hothers q hq).1
    distinct:=h.distinct.sublist (filter_sublist.map _)
    prepared:=fun q hq name hname sec hsec=>
     (h.prepared q (hothers q hq).1 name hname sec hsec).mono hrevision
    current:=?_ }
 · intro snap' hsnap'
   cases hsnap'
   exact h.snapshotId snap hsnap
 · intro snap' hsnap' name hname
   cases hsnap'
   change Shown (persistedPayload d.sections name) _
   rw[persistedPayload_of_guarded d.sections hname]
   exact (hlanes name hname).2
 · intro q hq snap' hsnap' hid'
   cases hsnap'
   exact absurd (hid'.symm.trans hid) (hothers q hq).2

lemma publish_ok {converged:Bool}(hpublish:publish sha256 p converged s=.ok s'):
 ∃host,applyBootFence s.host p.bootId=.ok host∧
  (s'={s with host:=host}∨∃snap,s.snapshot=some snap∧
   snap.publicationId=p.publicationId∧
   let d:=finalizeSections sha256 p s host
   s'={ s with
    host:=d.host
    revision:=d.revision
    snapshot:=some {snap with payload:=persistedPayload d.sections}
    visible:=d.visible }):=by
 unfold StatusPush.publish pendingIsCurrent finalizeStatusPush at hpublish
 cases hfence:applyBootFence s.host p.bootId with
 | error=>
  rw[hfence] at hpublish
  cases hpublish
 | ok host=>
  refine ⟨host,rfl,?_⟩
  simp only[hfence,bind,Except.bind,pure,Except.pure] at hpublish
  split at hpublish
  · rename_i hcurrent
    rw[(applyBootFence_ok hfence).2.1] at hpublish
    rw[Bool.and_eq_true,Option.any_eq_true] at hcurrent
    obtain ⟨⟨snap,hsnap,hid⟩,-⟩:=hcurrent
    have hid:=of_decide_eq_true hid
    simp only[hsnap,if_neg (not_not.mpr hid)] at hpublish
    cases hpublish
    exact .inr ⟨snap,hsnap,hid,rfl⟩
  · cases hpublish
    exact .inl rfl

lemma Inv.publish (h:Inv sha256 s)(hp:p∈s.pending){converged:Bool}
 (hpublish:publish sha256 p converged s=.ok s'):Inv sha256 (s'.drop p.publicationId):=by
 obtain ⟨host,hfence,rfl|⟨snap,hsnap,hid,rfl⟩⟩:=publish_ok hpublish
 · have hhost:Inv sha256 {s with host:=host}:=
    h.elsewhere (applyBootFence_ok hfence).1 (Nat.le_refl _)
   exact hhost.drop p.publicationId
 · exact h.finalize hp hsnap hid hfence

lemma reserveRevisions_spec (sections:Sections)(names:List SectionName)(revision:ℕ):
 revision≤(reserveRevisions sections names revision).1∧
 (∀name r,(reserveRevisions sections names revision).2 name=some r→
  revision<r∧r≤(reserveRevisions sections names revision).1)∧∀name∈names,sections name≠none→
  (reserveRevisions sections names revision).2 name≠none:=by
 induction names generalizing revision with
 | nil=>
  refine ⟨Nat.le_refl _,fun _ _ hr=>?_,fun _ hname=>absurd hname not_mem_nil⟩
  cases hr
 | cons name names ih=>
  rw[reserveRevisions]
  split
  · obtain ⟨hle,hrange,hall⟩:=ih (revision+1)
    refine ⟨by dsimp only;omega,fun other r hr=>?_,fun other hother hsome=>?_⟩
    · dsimp only at hr ⊢
      by_cases hname:other=name
      · subst hname
        rw[Function.update_self] at hr
        cases hr
        omega
      · rw[Function.update_of_ne hname] at hr
        have:=hrange other r hr
        omega
    · dsimp only
      by_cases hname:other=name
      · subst hname
        rw[Function.update_self]
        exact some_ne_none _
      · rw[Function.update_of_ne hname]
        exact hall other ((mem_cons.mp hother).resolve_left hname) hsome
  · rename_i hnone
    obtain ⟨hle,hrange,hall⟩:=ih revision
    refine ⟨hle,hrange,fun other hother hsome=>hall other ?_ hsome⟩
    refine (mem_cons.mp hother).resolve_left fun hname=>hsome ?_
    rw[hname]
    simpa using hnone

lemma validateSectionHashes_ok (hvalid:validateSectionHashes sha256 push=.ok ())
 (hname:name∈guardedSections){sec:JsonObject}(hsec:push.sections name=some sec)
 {token:SectionToken}(htoken:extractToken sec push.bootId=some token):
 canonicalSectionHash sha256 sec=token.payloadSha256:=by
 have hone:validateSection sha256 push name=.ok ():=by
  change (validateSection sha256 push .nodeHealth >>= fun _=>
   validateSection sha256 push .deviceHealth >>= fun _=>pure ())=.ok () at hvalid
  obtain ⟨_,hnode,hvalid⟩:=bind_eq_ok.mp hvalid
  obtain ⟨_,hdevice,-⟩:=bind_eq_ok.mp hvalid
  simp only[guardedSections,mem_cons,not_mem_nil,or_false] at hname
  rcases hname with rfl|rfl
  · exact hnode
  · exact hdevice
 unfold validateSection at hone
 simp only[hsec,htoken] at hone
 split at hone
 · assumption
 · cases hone
lemma begin_ok {receivedAt:String}(hbegin:beginStatusPush sha256 push receivedAt s=.ok s'):
 validateSectionHashes sha256 push=.ok ()∧
 ∃host,applyBootFence s.host push.bootId=.ok host∧
  let sections:=stripRevisions push.sections
  let reserved:=reserveRevisions sections guardedSections s.revision
  s'={ s with
   host:=host
   snapshot:=some ⟨s.publications+1,push.bootId,receivedAt,persistedPayload sections⟩
   revision:=reserved.1
   publications:=s.publications+1
   pending:=⟨s.publications+1,push.bootId,receivedAt,sections,
    (s.snapshot.map Snapshot.payload).getD fun _=>none,reserved.2⟩::s.pending }:=by
 obtain ⟨_,hvalid,hbegin⟩:=bind_eq_ok.mp hbegin
 obtain ⟨host,hfence,⟨⟩⟩:=bind_eq_ok.mp hbegin
 exact ⟨hvalid,host,hfence,rfl⟩
lemma stripRevisions_guarded {sections:Sections}(hname:name∈guardedSections):
 stripRevisions sections name=(sections name).map (·.pop observationRevisionKey):=
 if_pos hname
lemma shown_of_unstamped {body:Option JsonObject}{history:List Stamped}
 (hbody:∀sec,body=some sec→ observationRevision sec=none):Shown body history:=
 fun sec hsec hstamped=>absurd (hbody sec hsec) hstamped

lemma Inv.begin (h:Inv sha256 s){receivedAt:String}
 (hbegin:beginStatusPush sha256 push receivedAt s=.ok s'):Inv sha256 s':=by
 obtain ⟨hvalid,host,hfence,rfl⟩:=begin_ok hbegin
 obtain ⟨hle,hrange,hall⟩:=reserveRevisions_spec (stripRevisions push.sections) guardedSections s.revision
 have hstrip:∀name∈guardedSections,∀sec,stripRevisions push.sections name=some sec→
   ∃raw,push.sections name=some raw∧sec=raw.pop observationRevisionKey:=by
  intro name hname sec hsec
  rw[stripRevisions_guarded hname] at hsec
  obtain ⟨raw,hraw,hpop⟩:=map_eq_some_iff.mp hsec
  exact ⟨raw,hraw,hpop.symm⟩
 have hunstamped:∀name∈guardedSections,∀sec,stripRevisions push.sections name=some sec→
   observationRevision sec=none:=by
  intro name hname sec hsec
  obtain ⟨raw,-,rfl⟩:=hstrip name hname sec hsec
  exact observationRevision_pop raw
 refine
  { lane:=fun name hname=>(h.lane name hname).mono (by rw[(applyBootFence_ok hfence).1]) hle
    snapshotId:=?_
    snapshot:=?_
    pendingIds:=?_
    distinct:=?_
    prepared:=?_
    current:=?_ }
 · intro snap hsnap
   cases hsnap
   exact Nat.le_refl _
 · intro snap hsnap name hname
   cases hsnap
   refine shown_of_unstamped fun sec hsec=>hunstamped name hname sec ?_
   exact (persistedPayload_of_guarded _ hname).symm.trans hsec
 · intro p hp
   rcases mem_cons.mp hp with rfl|hp
   · exact Nat.le_refl _
   · exact Nat.le_succ_of_le (h.pendingIds p hp)
 · refine nodup_cons.mpr ⟨fun hin=>?_,h.distinct⟩
   obtain ⟨p,hp,hid⟩:=List.mem_map.mp hin
   have hold:=h.pendingIds p hp
   have hnew:p.publicationId=s.publications+1:=hid
   omega
 · intro p hp name hname sec hsec
   rcases mem_cons.mp hp with rfl|hp
   · refine ⟨hunstamped name hname sec hsec,?_,fun token htoken=>?_⟩
     · have hpresent:stripRevisions push.sections name=some sec:=hsec
       have hsome:=hall name hname (by rw[hpresent];exact some_ne_none _)
       obtain ⟨r,hr⟩:=ne_none_iff_exists'.mp hsome
       obtain ⟨hlow,hhigh⟩:=hrange name r hr
       obtain ⟨r,rfl⟩:=Nat.exists_eq_succ_of_ne_zero (Nat.ne_zero_of_lt hlow)
       exact ⟨r,hr,hhigh⟩
     · obtain ⟨raw,hraw,rfl⟩:=hstrip name hname sec hsec
       rw[extractToken_pop] at htoken
       rw[canonicalSectionHash_pop]
       exact validateSectionHashes_ok hvalid hname hraw htoken
   · exact (h.prepared p hp name hname sec hsec).mono hle
 · intro p hp snap hsnap hid name hname
   cases hsnap
   rcases mem_cons.mp hp with rfl|hp
   · refine ⟨?_,fun r hr e he revision hrevision=>?_⟩
     · cases hsnap:s.snapshot with
       | none=>exact fun _ hnone=>by simp at hnone
       | some snap=>exact h.snapshot snap hsnap name hname
     · have hbelow:=(h.lane name hname).below e he revision hrevision
       obtain ⟨hlow,-⟩:=hrange name r hr
       omega
   · have hold:=h.pendingIds p hp
     have hnew:s.publications+1=p.publicationId:=hid
     omega

lemma inv_step {a:Label}(h:Inv sha256 s)(hstep:step sha256 s a=some s'):Inv sha256 s':=by
 cases a with
 | register bootId=>
  cases bootId with
  | none=>
   cases hstep
   exact h
  | some=>
   cases hstep
   exact h.elsewhere rfl (Nat.le_refl _)
 | draw=>
  cases hstep
  exact h.elsewhere rfl (Nat.le_succ _)
 | begin push receivedAt=>
  simp only[step] at hstep
  split at hstep
  · cases hstep
    exact h.begin ‹_›
  · cases hstep
    exact h
 | publish publicationId converged=>
  simp only[step] at hstep
  split at hstep
  · cases hstep
  · rename_i p hfind
    have hid:p.publicationId=publicationId:=by simpa using find?_some hfind
    subst hid
    split at hstep
    · cases hstep
      exact h.publish (mem_of_find?_eq_some hfind) ‹_›
    · cases hstep
      exact h.drop _
 | lose=>
  cases hstep
  exact h.drop _
end

section
variable {history newer older mid:List Stamped}{e:Stamped}{token:SectionToken}

lemma Ordered.suffix (h:Ordered (newer++history)):Ordered history:=by
 induction newer with
 | nil=>exact h
 | cons _ _ ih=>exact ih h.2
lemma Ordered.entry (h:Ordered history)(hsplit:history=newer++e::older):EntryOk older e:=by
 subst hsplit
 exact h.suffix.1
lemma EntryOk.fenced (h:EntryOk older e)(hown:e.Own):Fenced e:=by
 cases h with
 | advance _ _ _ _ hfence | redelivery _ _ _ _ hfence=>exact hfence
 | restored _ _ hkind=>exact absurd hkind hown
lemma EntryOk.latest (h:EntryOk older e)(hown:e.Own)(htoken:e.token=some token):
 latestAdvance (e::older)=some (token,e.revision):=by
 cases h with
 | advance _ hkind=>exact latestAdvance_of_token hkind htoken
 | redelivery _ hkind htoken' hsame=>
  rw[htoken] at htoken'
  cases htoken'
  rw[latestAdvance_of_kind (by simp[hkind])]
  exact hsame
 | restored _ _ hkind=>exact absurd hkind hown

/-- As long as one boot is stamped, the latest token only moves up. -/
lemma Ordered.latest_of_boot (h:Ordered (mid++e::older))(hown:e.Own)(htoken:e.token=some token)
 (hmid:∀o∈mid,o.Own→∀t,o.token=some t→t.bootId=token.bootId):
 ∃t r,latestAdvance (mid++e::older)=some (t,r)∧t.bootId=token.bootId∧
  token.sectionSequence≤t.sectionSequence:=by
 induction mid with
 | nil=>exact ⟨token,e.revision,h.1.latest hown htoken,rfl,Nat.le_refl _⟩
 | cons o mid ih=>
  obtain ⟨t,r,hlatest,hboot,hsequence⟩:=ih h.2 fun o ho=>hmid o (mem_cons_of_mem _ ho)
  by_cases hkeep:o.kind=.advance∧o.token≠none
  · obtain ⟨t',htoken'⟩:=ne_none_iff_exists'.mp hkeep.2
    have hboot':=hmid o mem_cons_self (by simp[Stamped.Own,hkeep.1]) t' htoken'
    refine ⟨t',o.revision,latestAdvance_of_token hkeep.1 htoken',hboot',?_⟩
    cases h.1 with
    | advance _ _ _ _ _ hnext=>
     have:=(hnext t' (t,r) htoken' hlatest).2 (hboot.trans hboot'.symm)
     exact Nat.le_trans hsequence this
    | redelivery _ hkind | restored _ _ hkind=>simp[hkind] at hkeep
  · refine ⟨t,r,?_,hboot,hsequence⟩
    rw[←hlatest]
    by_cases hkind:o.kind=.advance
    · exact latestAdvance_of_tokenless (by simpa[hkind] using hkeep)
    · exact latestAdvance_of_kind hkind

lemma Ordered.sequence (h:Ordered (e::older))(hown:e.Own){t:SectionToken}{r:Option ℤ}
 (htoken:e.token=some token)(hlatest:latestAdvance older=some (t,r))
 (hboot:t.bootId=token.bootId):t.sectionSequence≤token.sectionSequence:=by
 cases h.1 with
 | advance _ _ _ _ _ hnext=>exact (hnext token (t,r) htoken hlatest).2 hboot
 | redelivery _ _ htoken' hsame=>
  rw[htoken] at htoken'
  rw[hlatest] at hsame
  cases htoken'
  cases hsame
  exact Nat.le_refl _
 | restored _ _ hkind=>exact absurd hkind hown

def Assigned (history:List Stamped)(e:Stamped):Prop:=
 ∃o∈history,o.Own∧o.body=e.body∧∃a∈history,a.kind=.advance∧
  a.revision=e.revision∧(a=o∨a.token=o.token∧a.token≠none)

lemma Assigned.cons {o:Stamped}(h:Assigned history e):Assigned (o::history) e:=by
 obtain ⟨o',ho',hown,hbody,a,ha,hrest⟩:=h
 exact ⟨o',mem_cons_of_mem _ ho',hown,hbody,a,mem_cons_of_mem _ ha,hrest⟩
lemma Ordered.assigned (h:Ordered history)(he:e∈history):Assigned history e:=by
 induction history generalizing e with
 | nil=>cases he
 | cons o older ih=>
  rcases mem_cons.mp he with rfl|he
  · cases h.1 with
    | advance _ hkind=>
     exact ⟨e,mem_cons_self,by simp[Stamped.Own,hkind],rfl,e,mem_cons_self,hkind,
      rfl,.inl rfl⟩
    | redelivery _ hkind htoken hsame=>
     obtain ⟨a,ha,hadvance,htoken',hrevision⟩:=mem_of_latestAdvance hsame
     refine ⟨e,mem_cons_self,by simp[Stamped.Own,hkind],rfl,a,
      mem_cons_of_mem _ ha,hadvance,hrevision,.inr ⟨htoken'.trans htoken.symm,?_⟩⟩
     rw[htoken']
     exact some_ne_none _
    | restored previous _ _ holder hbody=>
     obtain ⟨o,ho,hown,hsame,a,ha,hadvance,hrevision,hfrom⟩:=
      ih h.2 (holder ▸ mem_cons_self:previous∈older)
     refine ⟨o,mem_cons_of_mem _ ho,hown,hsame.trans hbody.symm,a,
      mem_cons_of_mem _ ha,hadvance,?_,hfrom⟩
     rw[hrevision,Stamped.revision,Stamped.revision,hbody]
  · exact (ih h.2 he).cons
end

theorem stamped_generations_ordered (sha256:JsonObject→ String) (currentBootId:Option BootId)
 (revision:ℕ) (labels:List Label) (s:State)
 (hrun:run (step sha256) (initial currentBootId revision) labels=some s)
 (name:SectionName) (hname:name∈guardedSections):
 (∀newer e older,s.visible name=newer++e::older→ e.kind=.advance→
  ∃r,e.revision=some r∧∀o∈older,∀r',o.revision=some r'→ r'<r)∧
 (∀newer e mid e' older token token',s.visible name=newer++e::(mid++e'::older)→
  e.Own→ e.token=some token→ e'.Own→ e'.token=some token'→ token.bootId=token'.bootId→
  (∀o∈mid,o.Own→∀t,o.token=some t→ t.bootId=token'.bootId)→
  token'.sectionSequence≤token.sectionSequence)∧
 (∀newer e older token r,s.visible name=newer++e::older→ e.Own→ e.token=some token→
  latestAdvance older=some (token,r)→ e.revision=r)∧
 (∀newer e older,s.visible name=newer++e::older→¬e.Own→
  ∃previous rest,older=previous::rest∧e.body=previous.body)∧
 (∀e∈s.visible name,e.Own→Fenced e)∧
 (∀e∈s.visible name,Assigned (s.visible name) e):=by
 have hinv:Inv sha256 s:=run_invariant (Inv sha256) (fun _ _ _ h hstep=>inv_step h hstep)
  (inv_initial sha256 currentBootId revision) hrun
 have hordered:=(hinv.lane name hname).ordered
 refine ⟨?_,?_,?_,?_,?_,fun e he=>hordered.assigned he⟩
 · intro newer e older hsplit hkind
   cases hordered.entry hsplit with
   | advance r _ hrevision habove=>exact ⟨r,hrevision,habove⟩
   | redelivery _ hkind' | restored _ _ hkind'=>simp[hkind] at hkind'
 · intro newer e mid e' older token token' hsplit hown htoken hown' htoken' hboot hmid
   rw[hsplit] at hordered
   have hsuffix:=hordered.suffix
   obtain ⟨t,r,hlatest,hboot',hsequence⟩:=hsuffix.2.latest_of_boot hown' htoken' hmid
   exact Nat.le_trans hsequence (hsuffix.sequence hown htoken hlatest (hboot'.trans hboot.symm))
 · intro newer e older token r hsplit hown htoken hlatest
   cases hordered.entry hsplit with
   | advance _ _ _ _ _ hnext=>exact absurd rfl (hnext token (token,r) htoken hlatest).1
   | redelivery _ _ _ hsame=>
    rw[hlatest] at hsame
    cases hsame
    rfl
   | restored _ _ hkind=>exact absurd hkind hown
 · intro newer e older hsplit hown
   cases hordered.entry hsplit with
   | advance _ hkind | redelivery _ hkind=>exact absurd (by simp[Stamped.Own,hkind]) hown
   | restored previous rest _ holder hbody=>exact ⟨previous,rest,holder,hbody⟩
 · intro e he hown
   obtain ⟨newer,older,hsplit⟩:=append_of_mem he
   exact (hordered.entry hsplit).fenced hown

def gather (boot:BootId)(sequence:ℤ):HostStatusPush where
 bootId:=some boot
 sections:=fun name=>if name=.nodeHealth then
   some (Dict.ofList [(sectionSequenceKey,.int sequence),(payloadSha256Key,.str "d")])
  else none
def tokensAndRevisions (s:State):List (StampKind×Option SectionToken×Option ℤ):=
 (s.visible .nodeHealth).map fun e=>(e.kind,e.token,e.revision)

/-- Gather 5, its re-delivery, the overtaken gather 4, then gather 6. -/
def overtakenGather:List Label:=
 [.register (some 1),.begin (gather 1 5) "t1",.publish 1 true,.begin (gather 1 5) "t2",
  .publish 2 true,.begin (gather 1 4) "t3",.publish 3 true,.begin (gather 1 6) "t4",.publish 4 true]

theorem stamped_generations_ordered_overtakenGather:
 ∃s,run (step fun _=> "d") (initial none 0) overtakenGather=some s∧
  tokensAndRevisions s=[(.advance,some ⟨1,6, "d"⟩,some 4),
   (.restored,some ⟨1,5, "d"⟩,some 1),(.redelivery,some ⟨1,5, "d"⟩,some 1),
   (.advance,some ⟨1,5, "d"⟩,some 1)]∧
  (∀e∈s.visible .nodeHealth,e.Own→Fenced e)∧
  ∀e∈s.visible .nodeHealth,Assigned (s.visible .nodeHealth) e:=by
 have hseen:(run (step fun _=> "d") (initial none 0) overtakenGather).map tokensAndRevisions =
   some [(.advance,some ⟨1,6, "d"⟩,some 4),(.restored,some ⟨1,5, "d"⟩,some 1),
    (.redelivery,some ⟨1,5, "d"⟩,some 1),(.advance,some ⟨1,5, "d"⟩,some 1)]:=rfl
 obtain ⟨s,hrun,hs⟩:=map_eq_some_iff.mp hseen
 obtain ⟨-,-,-,-,hfenced,hassigned⟩:=stamped_generations_ordered (fun _=> "d") none 0
  overtakenGather s hrun .nodeHealth (by decide)
 exact ⟨s,hrun,hs,hfenced,hassigned⟩

/-- Boot 1 is superseded by boot 2 and registers again; its gather 5 arrives only then. -/
def bootReadopted:List Label:=
 [.register (some 1),.begin (gather 1 10) "t1",.publish 1 true,.register (some 2),
  .begin (gather 2 1) "t2",.publish 2 true,.register (some 1),.begin (gather 1 5) "t3",
  .publish 3 true]

theorem bootReadopted_sequence_falls:
 (run (step fun _=> "d") (initial none 0) bootReadopted).map tokensAndRevisions =
  some [(.advance,some ⟨1,5, "d"⟩,some 3),(.advance,some ⟨2,1, "d"⟩,some 2),
   (.advance,some ⟨1,10, "d"⟩,some 1)]:=rfl
end GridFleet.StatusPush
