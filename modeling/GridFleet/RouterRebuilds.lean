import GridFleet.Interleaving
import GridFleet.RouteMap
/-! A rebuild reads the insert generation, then receives a snapshot of the running set taken at some later
instant, then swaps the map; the three are separate steps, and `resolve` calls run in between. -/
namespace GridFleet.RouterRebuilds
open Interleaving RouteMap List

structure Target where
 text:String
 parses:(Upstream.parse text).isSome

inductive Phase where
 | looking
 | missed
 | captured (gen:ℕ)
 | fetched (gen:ℕ)(entries:List (String×Upstream))
 | failed
 | replaced
 | returned (result:Option Upstream)

/-- `session` is `none` for a tick of the reconcile task. The two flags record that the fetch
failed and that the route of `session` was removed after this call's rebuild. -/
structure Call where
 session:Option String
 phase:Phase
 fetchFailed:Bool:=false
 pruned:Bool:=false

structure State where
 running:List (String×Target)
 promoted:List String
 routes:Routes
 calls:ℕ→Option Call
 /-- Generation of the latest insert of a session not removed since. -/
 insertedAt:String→Option ℕ
 /-- Every upstream the backend or an insert supplied for a session. -/
 supplied:List (String×Upstream)

inductive Label where
 | promote (sid:String)(target:Target)
 | retarget (sid:String)(target:Target)
 | ended (sid:String)
 | insert (sid:String)(target:Target)
 | remove (sid:String)
 | resolve (id:ℕ)(sid:String)
 | reconcileTick (id:ℕ)
 | lookup (id:ℕ)
 | capture (id:ℕ)
 | fetchRoutes (id:ℕ)
 | fetchFails (id:ℕ)
 | replace (id:ℕ)
 | answer (id:ℕ)

def Target.upstream (t:Target):Upstream:=(Upstream.parse t.text).get t.parses
def upstreams (running:List (String×Target)):List (String×Upstream):=
 running.filterMap fun p=>(Upstream.parse p.2.text).map fun u=>(p.1,u)
def Running (s:State)(sid:String):Prop:=sid∈s.running.map Prod.fst

instance (s:State)(sid:String):Decidable (Running s sid):=
 inferInstanceAs (Decidable (sid∈s.running.map Prod.fst))

/-- The router starts with an empty map while `before` is already running. -/
def start (before:List (String×Target)):State where
 running:=before
 promoted:=before.map Prod.fst
 routes:=.empty
 calls:=fun _=>none
 insertedAt:=fun _=>none
 supplied:=upstreams before

def State.setCall (s:State)(id:ℕ)(c:Call):State:=
 {s with calls:=Function.update s.calls id (some c)}
def Call.prune (sid:String)(c:Call):Call:=
 match c.phase with
 | .replaced=>{c with pruned:=c.pruned||decide (c.session=some sid)}
 | _=>c

def step (s:State):Label→Option State
 | .promote sid t=>
  if sid∈s.promoted then none
  else some { s with
   running:=(sid,t)::s.running
   promoted:=sid::s.promoted
   supplied:=(sid,t.upstream)::s.supplied }
 | .retarget sid t=>some { s with
   running:=s.running.map fun p=>if p.1=sid then (sid,t) else p
   supplied:=(sid,t.upstream)::s.supplied }
 | .ended sid=>some {s with running:=s.running.filter fun p=>p.1≠sid}
 | .insert sid t=>
  if sid∈s.promoted then some { s with
   routes:=s.routes.insert sid t.upstream
   insertedAt:=Function.update s.insertedAt sid (some (s.routes.insertGen+1))
   supplied:=(sid,t.upstream)::s.supplied }
  else none
 | .remove sid=>some { s with
   routes:=s.routes.remove sid
   insertedAt:=Function.update s.insertedAt sid none
   calls:=fun id=>(s.calls id).map (Call.prune sid) }
 | .resolve id sid=>
  if (s.calls id).isSome then none else some (s.setCall id {session:=some sid,phase:=.looking})
 | .reconcileTick id=>
  if (s.calls id).isSome then none else some (s.setCall id {session:=none,phase:=.missed})
 | .lookup id=>
  match s.calls id with
  | some ⟨some sid,.looking,failed,pruned⟩=>
   match s.routes.get sid with
   | some u=>some (s.setCall id ⟨some sid,.returned (some u),failed,pruned⟩)
   | none=>some (s.setCall id ⟨some sid,.missed,failed,pruned⟩)
  | _=>none
 | .capture id=>
  match s.calls id with
  | some ⟨session,.missed,failed,pruned⟩=>
   some (s.setCall id ⟨session,.captured s.routes.insertGeneration,failed,pruned⟩)
  | _=>none
 | .fetchRoutes id=>
  match s.calls id with
  | some ⟨session,.captured gen,failed,pruned⟩=>
   some (s.setCall id ⟨session,.fetched gen (upstreams s.running),failed,pruned⟩)
  | _=>none
 | .fetchFails id=>
  match s.calls id with
  | some ⟨session,.captured _,_,pruned⟩=>some (s.setCall id ⟨session,.failed,true,pruned⟩)
  | _=>none
 | .replace id=>
  match s.calls id with
  | some ⟨session,.fetched gen entries,failed,pruned⟩=>
   some ({s with routes:=s.routes.replaceIfUnchanged entries gen}.setCall id
    ⟨session,.replaced,failed,pruned⟩)
  | _=>none
 | .answer id=>
  match s.calls id with
  | some ⟨some sid,.replaced,failed,pruned⟩=>
   some (s.setCall id ⟨some sid,.returned (s.routes.get sid),failed,pruned⟩)
  | some ⟨some sid,.failed,failed,pruned⟩=>
   some (s.setCall id ⟨some sid,.returned (s.routes.get sid),failed,pruned⟩)
  | _=>none

/-- What a snapshot in flight still guarantees: it lists every surviving session that was
inserted by its capture or that was running before the router started. -/
structure SnapshotOk (before:List String)(s:State)(gen:ℕ)
  (entries:List (String×Upstream)):Prop where
 bound:gen ≤ s.routes.insertGen
 known:∀p∈entries,p∈s.supplied
 inserted:∀sid g,s.insertedAt sid=some g→ g≤gen→Running s sid→∃u,(sid,u)∈entries
 old:∀sid∈before,Running s sid→∃u,(sid,u)∈entries

def CallOk (before:List String)(s:State)(c:Call):Prop:=
 match c.phase with
 | .captured gen=>gen ≤ s.routes.insertGen
 | .fetched gen entries=>SnapshotOk before s gen entries
 | .failed=>c.fetchFailed
 | .replaced=>c.pruned=false→∀sid∈before,c.session=some sid→Running s sid→
   (s.routes.map sid).isSome
 | .returned result=>c.fetchFailed=false→c.pruned=false→∀sid∈before,
   c.session=some sid→Running s sid→∃u,result=some u∧(sid,u)∈s.supplied
 | _=>True

structure Inv (before:List String)(s:State):Prop where
 oldPromoted:∀sid∈before,sid∈s.promoted
 runningPromoted:∀sid,Running s sid→sid∈s.promoted
 runningKnown:∀p∈upstreams s.running,p∈s.supplied
 insertedBound:∀sid g,s.insertedAt sid=some g→ g ≤ s.routes.insertGen∧sid∈s.promoted
 known:∀sid e,s.routes.map sid=some e→(sid,e.upstream)∈s.supplied
 present:∀sid g,s.insertedAt sid=some g→Running s sid→
  ∃e,s.routes.map sid=some e∧g≤e.insertedGen
 calls:∀id c,s.calls id=some c→CallOk before s c

lemma parse_upstream (t:Target):Upstream.parse t.text=some t.upstream:=
 (Option.some_get t.parses).symm
lemma upstreams_eq (running:List (String×Target)):
 upstreams running=running.map fun p=>(p.1,p.2.upstream):=by
 unfold upstreams
 rw[←filterMap_eq_map]
 congr 1
 funext p
 simp[parse_upstream]
lemma upstreams_of_running {s:State}{sid:String}(h:Running s sid):∃u,(sid,u)∈upstreams s.running:=by
 obtain ⟨p,hp,rfl⟩:=mem_map.mp h
 rw[upstreams_eq]
 exact ⟨p.2.upstream,mem_map.mpr ⟨p,hp,rfl⟩⟩
lemma start_inv (before:List (String×Target)):Inv (before.map Prod.fst) (start before) where
 oldPromoted _ h:=h
 runningPromoted _ h:=h
 runningKnown _ h:=h
 insertedBound _ _ h:=by simp[start] at h
 known _ _ h:=by simp[start,Routes.empty] at h
 present _ _ h:=by simp[start] at h
 calls _ _ h:=by simp[start] at h

section
variable {before:List String}{s:State}

lemma CallOk.mono {s':State}{c:Call}(hc:CallOk before s c)
 (hgen:s.routes.insertGen ≤ s'.routes.insertGen)(hknown:∀p∈s.supplied,p∈s'.supplied)
 (hins:∀sid g,s'.insertedAt sid=some g→Running s' sid→
  s.insertedAt sid=some g∧Running s sid∨s.routes.insertGen<g)
 (hold:∀sid∈before,Running s' sid→Running s sid)
 (hkeep:∀sid∈before,c.phase=.replaced→c.pruned=false→c.session=some sid→
  Running s' sid→(s.routes.map sid).isSome→(s'.routes.map sid).isSome):CallOk before s' c:=by
 unfold CallOk at hc ⊢
 split
 · exact (by simpa[*] using hc:_≤_).trans hgen
 · rename_i gen entries hphase
   simp only[hphase] at hc
   refine ⟨hc.bound.trans hgen,fun p hp=>hknown p (hc.known p hp),?_,?_⟩
   · intro sid g hg hle hrun
     rcases hins sid g hg hrun with ⟨hg',hrun'⟩|hlt
     · exact hc.inserted sid g hg' hle hrun'
     · have hb:=hc.bound
       omega
   · intro sid hsid hrun
     exact hc.old sid hsid (hold sid hsid hrun)
 · simpa[*] using hc
 · rename_i hphase
   simp only[hphase] at hc
   intro hp sid hsid hcs hrun
   exact hkeep sid hsid hphase hp hcs hrun (hc hp sid hsid hcs (hold sid hsid hrun))
 · rename_i hphase
   simp only[hphase] at hc
   intro hf hp sid hsid hcs hrun
   obtain ⟨u,hu,hmem⟩:=hc hf hp sid hsid hcs (hold sid hsid hrun)
   exact ⟨u,hu,hknown _ hmem⟩
 · trivial

lemma CallOk.setCall {d:Call}(h:CallOk before s d)(id:ℕ)(c:Call):CallOk before (s.setCall id c) d:=
 h.mono (le_refl s.routes.insertGen) (fun _ hp=>hp) (fun _ _ hg hr=>.inl ⟨hg,hr⟩)
  (fun _ _ hr=>hr) fun _ _ _ _ _ _ he=>he
lemma Inv.setCall (h:Inv before s)(id:ℕ){c:Call}(hc:CallOk before s c):Inv before (s.setCall id c):=
 { h with
  calls:=by
   intro j d hd
   simp only[State.setCall] at hd
   by_cases hj:j=id
   · rw[hj,Function.update_self,Option.some.injEq] at hd
     subst hd
     exact hc.setCall id c
   · rw[Function.update_of_ne hj] at hd
     exact (h.calls j d hd).setCall id c }

variable {sid:String}{gen:ℕ}

section
variable (h:Inv before s)
include h

lemma Inv.promote {t:Target}(hnew:sid ∉ s.promoted):Inv before { s with
  running:=(sid,t)::s.running
  promoted:=sid::s.promoted
  supplied:=(sid,t.upstream)::s.supplied }:=by
 have hstill:∀x∈s.promoted,x∈((sid,t)::s.running).map Prod.fst→Running s x:=by
  intro x hx hrun
  rcases mem_cons.mp hrun with rfl|hrun
  · exact absurd hx hnew
  · exact hrun
 refine ⟨fun x hx=>mem_cons_of_mem _ (h.oldPromoted x hx),?_,?_,?_,?_,?_,?_⟩
 · intro x hrun
   rcases mem_cons.mp hrun with rfl|hrun
   · exact mem_cons_self
   · exact mem_cons_of_mem _ (h.runningPromoted x hrun)
 · intro p hp
   rw[upstreams_eq,map_cons] at hp
   rcases mem_cons.mp hp with rfl|hp
   · exact mem_cons_self
   · exact mem_cons_of_mem _ (h.runningKnown p (by rwa [upstreams_eq]))
 · intro x g hg
   obtain ⟨hle,hx⟩:=h.insertedBound x g hg
   exact ⟨hle,mem_cons_of_mem _ hx⟩
 · exact fun x e he=>mem_cons_of_mem _ (h.known x e he)
 · exact fun x g hg hrun=>h.present x g hg (hstill x (h.insertedBound x g hg).2 hrun)
 · intro id c hc
   refine (h.calls id c hc).mono (le_refl s.routes.insertGen)
    (fun p hp=>mem_cons_of_mem _ hp) ?_ ?_ fun _ _ _ _ _ _ he=>he
   · exact fun x g hg hrun=>.inl ⟨hg,hstill x (h.insertedBound x g hg).2 hrun⟩
   · exact fun x hx hrun=>hstill x (h.oldPromoted x hx) hrun

lemma Inv.retarget (sid:String)(t:Target):Inv before { s with
  running:=s.running.map fun p=>if p.1=sid then (sid,t) else p
  supplied:=(sid,t.upstream)::s.supplied }:=by
 have hkeys:((s.running.map fun p=>if p.1=sid then (sid,t) else p).map Prod.fst) =
   s.running.map Prod.fst:=by
  rw[map_map]
  apply map_congr_left
  intro p _
  by_cases hp:p.1=sid <;> simp[hp]
 have hstill:∀x,x∈(s.running.map fun p=>if p.1=sid then (sid,t) else p).map Prod.fst→
   Running s x:=by
  intro x hx
  rwa [hkeys] at hx
 refine ⟨h.oldPromoted,fun x hx=>h.runningPromoted x (hstill x hx),?_,h.insertedBound,
  fun x e he=>mem_cons_of_mem _ (h.known x e he),
  fun x g hg hrun=>h.present x g hg (hstill x hrun),?_⟩
 · intro p hp
   rw[upstreams_eq,map_map] at hp
   obtain ⟨q,hq,rfl⟩:=mem_map.mp hp
   by_cases hqs:q.1=sid
   · simp[hqs]
   · refine mem_cons_of_mem _ (h.runningKnown _ ?_)
     rw[upstreams_eq]
     exact mem_map.mpr ⟨q,hq,by simp[hqs]⟩
 · intro id c hc
   exact (h.calls id c hc).mono (le_refl s.routes.insertGen)
    (fun p hp=>mem_cons_of_mem _ hp) (fun x g hg hrun=>.inl ⟨hg,hstill x hrun⟩)
    (fun x _ hrun=>hstill x hrun) fun _ _ _ _ _ _ he=>he

lemma Inv.ended (sid:String):Inv before {s with running:=s.running.filter fun p=>p.1≠sid}:=by
 have hstill:∀x,x∈(s.running.filter fun p=>p.1≠sid).map Prod.fst→Running s x:=by
  intro x hx
  obtain ⟨p,hp,rfl⟩:=mem_map.mp hx
  exact mem_map_of_mem (mem_of_mem_filter hp)
 refine ⟨h.oldPromoted,fun x hx=>h.runningPromoted x (hstill x hx),?_,h.insertedBound,
  h.known,fun x g hg hrun=>h.present x g hg (hstill x hrun),?_⟩
 · intro p hp
   rw[upstreams_eq] at hp
   obtain ⟨q,hq,rfl⟩:=mem_map.mp hp
   refine h.runningKnown _ ?_
   rw[upstreams_eq]
   exact mem_map_of_mem (mem_of_mem_filter hq)
 · intro id c hc
   exact (h.calls id c hc).mono (le_refl s.routes.insertGen) (fun _ hp=>hp)
    (fun x g hg hrun=>.inl ⟨hg,hstill x hrun⟩) (fun x _ hrun=>hstill x hrun)
    fun _ _ _ _ _ _ he=>he

lemma Inv.insert (hsid:sid∈s.promoted)(t:Target):Inv before { s with
  routes:=s.routes.insert sid t.upstream
  insertedAt:=Function.update s.insertedAt sid (some (s.routes.insertGen+1))
  supplied:=(sid,t.upstream)::s.supplied }:=by
 have hother:∀x g,Function.update s.insertedAt sid (some (s.routes.insertGen+1)) x=some g→
   x=sid∧g=s.routes.insertGen+1∨x≠sid∧s.insertedAt x=some g:=by
  intro x g hg
  by_cases hx:x=sid
  · subst hx
    rw[Function.update_self,Option.some.injEq] at hg
    exact .inl ⟨rfl,hg.symm⟩
  · rw[Function.update_of_ne hx] at hg
    exact .inr ⟨hx,hg⟩
 refine ⟨h.oldPromoted,h.runningPromoted,
  fun p hp=>mem_cons_of_mem _ (h.runningKnown p hp),?_,?_,?_,?_⟩
 · intro x g hg
   simp only[Routes.insert]
   rcases hother x g hg with ⟨rfl,rfl⟩|⟨_,hg⟩
   · exact ⟨le_refl _,hsid⟩
   · obtain ⟨hle,hx⟩:=h.insertedBound x g hg
     exact ⟨by omega,hx⟩
 · intro x e he
   simp only[Routes.insert] at he
   by_cases hx:x=sid
   · subst hx
     rw[Function.update_self,Option.some.injEq] at he
     subst he
     exact mem_cons_self
   · rw[Function.update_of_ne hx] at he
     exact mem_cons_of_mem _ (h.known x e he)
 · intro x g hg hrun
   simp only[Routes.insert]
   rcases hother x g hg with ⟨rfl,rfl⟩|⟨hx,hg⟩
   · exact ⟨_,Function.update_self _ _ _,le_refl _⟩
   · rw[Function.update_of_ne hx]
     exact h.present x g hg hrun
 · intro id c hc
   refine (h.calls id c hc).mono (Nat.le_succ _) (fun p hp=>mem_cons_of_mem _ hp) ?_
    (fun _ _ hrun=>hrun) ?_
   · intro x g hg hrun
     rcases hother x g hg with ⟨rfl,rfl⟩|⟨_,hg⟩
     · exact .inr (Nat.lt_succ_self _)
     · exact .inl ⟨hg,hrun⟩
   · intro x _ _ _ _ _ hsome
     simp only[Routes.insert]
     by_cases hx:x=sid
     · simp[hx]
     · rwa [Function.update_of_ne hx]

/-- A removed route may be the one a finished rebuild just restored: such a call is marked. -/
lemma Inv.remove (sid:String):Inv before { s with
  routes:=s.routes.remove sid
  insertedAt:=Function.update s.insertedAt sid none
  calls:=fun id=>(s.calls id).map (Call.prune sid) }:=by
 have hother:∀x g,Function.update s.insertedAt sid none x=some g→
   x≠sid∧s.insertedAt x=some g:=by
  intro x g hg
  by_cases hx:x=sid
  · simp[hx] at hg
  · rw[Function.update_of_ne hx] at hg
    exact ⟨hx,hg⟩
 have hmap:∀x,x≠sid→(s.routes.remove sid).map x=s.routes.map x:=by
  intro x hx
  exact Function.update_of_ne hx _ _
 refine ⟨h.oldPromoted,h.runningPromoted,h.runningKnown,?_,?_,?_,?_⟩
 · exact fun x g hg=>h.insertedBound x g (hother x g hg).2
 · intro x e he
   by_cases hx:x=sid
   · simp[hx,Routes.remove] at he
   · exact h.known x e (by rwa [hmap x hx] at he)
 · intro x g hg hrun
   obtain ⟨hx,hg⟩:=hother x g hg
   simp only[hmap x hx]
   exact h.present x g hg hrun
 · intro id c' hc'
   obtain ⟨c,hc,rfl⟩:=Option.map_eq_some_iff.mp hc'
   have hcall:CallOk before s (c.prune sid):=by
    have:=h.calls id c hc
    unfold Call.prune
    split
    · rename_i hphase
      simp only[CallOk,hphase] at this ⊢
      intro hp
      exact this (by simp_all)
    · exact this
   refine hcall.mono (le_refl s.routes.insertGen) (fun _ hp=>hp)
    (fun x g hg hrun=>.inl ⟨(hother x g hg).2,hrun⟩) (fun _ _ hrun=>hrun) ?_
   intro x _ hphase hpruned hsession _ hsome
   have hx:x≠sid:=by
    rintro rfl
    unfold Call.prune at hphase hpruned hsession
    split at hphase <;> simp_all
   simpa only[hmap x hx] using hsome
end

lemma SnapshotOk.restores {entries:List (String×Upstream)}(hsnap:SnapshotOk before s gen entries)
 (hsid:sid∈before)(hrun:Running s sid):
 ((s.routes.replaceIfUnchanged entries gen).map sid).isSome:=by
 obtain ⟨u,hu⟩:=hsnap.old sid hsid hrun
 obtain ⟨e,he,_⟩:=replaceIfUnchanged_of_mem (m:=s.routes) (g:=gen) hu
 exact Option.isSome_of_eq_some he

/-- A surviving session is in the snapshot, or was inserted after the capture and its stamp, which
rebuilds only raise, overlays it. -/
lemma Inv.replace (h:Inv before s){entries:List (String×Upstream)}
 (hsnap:SnapshotOk before s gen entries):
 Inv before {s with routes:=s.routes.replaceIfUnchanged entries gen}:=by
 refine ⟨h.oldPromoted,h.runningPromoted,h.runningKnown,h.insertedBound,?_,?_,?_⟩
 · intro x e he
   rcases replaceIfUnchanged_some he with ⟨he,_⟩|⟨_,hmem⟩
   · exact h.known x e he
   · exact hsnap.known _ hmem
 · intro x g hg hrun
   by_cases hle:g≤gen
   · obtain ⟨u,hu⟩:=hsnap.inserted x g hg hle hrun
     obtain ⟨e,he,hge⟩:=replaceIfUnchanged_of_mem (m:=s.routes) (g:=gen) hu
     exact ⟨e,he,hle.trans hge⟩
   · obtain ⟨e,he,hge⟩:=h.present x g hg hrun
     exact ⟨e,replaceIfUnchanged_overlay he (by omega),hge⟩
 · intro id c hc
   exact (h.calls id c hc).mono (le_refl s.routes.insertGen) (fun _ hp=>hp)
    (fun _ _ hg hrun=>.inl ⟨hg,hrun⟩) (fun _ _ hrun=>hrun)
    fun x hx _ _ _ hrun _=>hsnap.restores hx hrun

lemma Inv.snapshot (h:Inv before s)(hgen:gen ≤ s.routes.insertGen):
 SnapshotOk before s gen (upstreams s.running) where
 bound:=hgen
 known:=h.runningKnown
 inserted _ _ _ _ hrun:=upstreams_of_running hrun
 old _ _ hrun:=upstreams_of_running hrun
lemma Inv.get_known (h:Inv before s){u:Upstream}(hu:s.routes.get sid=some u):(sid,u)∈s.supplied:=by
 obtain ⟨e,he,rfl⟩:=Option.map_eq_some_iff.mp hu
 exact h.known sid e he

lemma step_inv {a:Label}{u:State}(h:Inv before s)(hstep:step s a=some u):Inv before u:=by
 cases a with simp only[step] at hstep
 | promote sid t=>
  split at hstep
  · cases hstep
  · rename_i hnew
    cases hstep
    exact h.promote hnew
 | retarget sid t=>
  cases hstep
  exact h.retarget sid t
 | ended sid=>
  cases hstep
  exact h.ended sid
 | insert sid t=>
  split at hstep
  · rename_i hsid
    cases hstep
    exact h.insert hsid t
  · cases hstep
 | remove sid=>
  cases hstep
  exact h.remove sid
 | resolve id sid | reconcileTick id=>
  split at hstep
  · cases hstep
  · cases hstep
    exact h.setCall id trivial
 | lookup id=>
  split at hstep
  · split at hstep
    · rename_i hget
      cases hstep
      refine h.setCall id ?_
      rintro _ _ x _ hx _
      cases hx
      exact ⟨_,rfl,h.get_known hget⟩
    · cases hstep
      exact h.setCall id trivial
  · cases hstep
 | capture id=>
  split at hstep
  · cases hstep
    exact h.setCall id (le_refl s.routes.insertGen)
  · cases hstep
 | fetchRoutes id=>
  split at hstep
  · rename_i hcall
    cases hstep
    exact h.setCall id (h.snapshot (h.calls id _ hcall))
  · cases hstep
 | fetchFails id=>
  split at hstep
  · cases hstep
    exact h.setCall id (rfl:true)
  · cases hstep
 | replace id=>
  split at hstep
  · rename_i hcall
    cases hstep
    have hsnap:SnapshotOk before s _ _:=h.calls id _ hcall
    exact (h.replace hsnap).setCall id fun _ x hx _ hrun=>hsnap.restores hx hrun
  · cases hstep
 | answer id=>
  split at hstep
  · rename_i sid failed pruned hcall
    cases hstep
    refine h.setCall id ?_
    rintro _ hp x hx hsid hrun
    cases hsid
    have hsome:=h.calls id _ hcall hp sid hx rfl hrun
    obtain ⟨e,he⟩:=Option.isSome_iff_exists.mp hsome
    have hget:s.routes.get sid=some e.upstream:=by simp only[Routes.get,he,Option.map_some]
    exact ⟨_,hget,h.known sid e he⟩
  · rename_i sid failed pruned hcall
    cases hstep
    refine h.setCall id ?_
    intro hf
    have hfailed:failed:=h.calls id _ hcall
    simp_all
  · cases hstep
end

/-- A session this router inserted and did not remove stays routed while it runs, and one running at
start-up is found by every resolve whose fetch was answered and whose rebuilt route was not removed. -/
theorem live_route_kept (before:List (String×Target)) (labels:List Label) (s:State)
 (hrun:run step (start before) labels=some s):
 (∀sid g,s.insertedAt sid=some g→Running s sid→
  ∃u,s.routes.get sid=some u∧(sid,u)∈s.supplied)∧
 ∀id sid result,s.calls id=some ⟨some sid,.returned result,false,false⟩→
  sid∈before.map Prod.fst→Running s sid→
  ∃u,result=some u∧(sid,u)∈s.supplied:=by
 have h:Inv (before.map Prod.fst) s:=
  run_invariant _ (fun _ _ _=>step_inv) (start_inv before) hrun
 refine ⟨?_,?_⟩
 · intro sid g hg hrunning
   obtain ⟨e,he,_⟩:=h.present sid g hg hrunning
   exact ⟨e.upstream,by simp only[Routes.get,he,Option.map_some],h.known sid e he⟩
 · intro id sid result hcall hsid hrunning
   exact h.calls id _ hcall rfl rfl sid hsid rfl hrunning

def nodeTarget:Target:=⟨"http://10.0.0.5:4723",by decide⟩

/-- The resolve of `old` waits for its snapshot while `new` is promoted and inserted. -/
def insertDuringFetch:List Label:=
 [.resolve 0 "old",.lookup 0,.capture 0,.fetchRoutes 0,.promote "new" nodeTarget,
  .insert "new" nodeTarget,.replace 0,.answer 0]

theorem live_route_kept_insertDuringFetch:
 ∃s,run step (start [("old",nodeTarget)]) insertDuringFetch=some s∧
 (∃u,s.routes.get "new" = some u∧("new",u)∈s.supplied)∧
 ∃u,s.routes.get "old" = some u∧("old",u)∈s.supplied:=by
 refine ⟨_,rfl,?_,?_⟩
 · exact (live_route_kept [("old",nodeTarget)] insertDuringFetch _ rfl).1 "new" 1
    (by decide) (by decide)
 · obtain ⟨u,hu,hmem⟩:=(live_route_kept [("old",nodeTarget)] insertDuringFetch _ rfl).2 0 "old"
    _ rfl (by decide) (by decide)
   exact ⟨u,hu,hmem⟩

/-- A DELETE that prunes the route between a resolve's rebuild and its final lookup makes the
resolve miss a session the backend still lists; so does a fetch that fails. -/
theorem resolve_misses_running_session:
 (∃s,run step (start [("old",nodeTarget)]) [.resolve 0 "old",.lookup 0,.capture 0,
   .fetchRoutes 0,.replace 0,.remove "old",.answer 0]=some s∧Running s "old" ∧
  (s.calls 0).map Call.phase=some (.returned none))∧
 ∃s,run step (start [("old",nodeTarget)]) [.resolve 0 "old",.lookup 0,.capture 0,
   .fetchFails 0,.answer 0]=some s∧Running s "old" ∧
  (s.calls 0).map Call.phase=some (.returned none):=by
 refine ⟨⟨_,rfl,?_,?_⟩,⟨_,rfl,?_,?_⟩⟩
 · decide
 · rfl
 · decide
 · rfl
end GridFleet.RouterRebuilds
