import GridFleet.PortabilityExport
import Mathlib.Data.List.Zip
namespace GridFleet.Portability
open Dict List

variable {u v:Tables}{env:Env}{b:ExportBundle}{now:Instant}

structure Vacant (u:Tables):Prop where
 devices:u.devices.entries=[]
 groups:u.groups.entries=[]
 memberOf:u.memberOf=[]
 memberships:u.memberships=[]

def acceptSuggestions (preview:ImportPreview):List ImportMapping:=
 preview.rows.filterMap fun row=>row.hostSuggestion.map fun host=>⟨row.index,host.id⟩

structure Importable (env:Env)(u:Tables)(b:ExportBundle):Prop where
 portable:Portable b
 vacant:Vacant u
 runnable:∀d∈b.devices,env.assertRunnable d.packId d.platformId=.runnable
 hosts:∀d∈b.devices,∃id,u.hosts.get id=some d.originalHost.hostname

lemma mem_loadAvailableHosts {h:HostSuggestion}:
 h∈loadAvailableHosts u↔u.hosts.get h.id=some h.hostname:=by
 unfold loadAvailableHosts
 rw[mem_insertionSort,mem_map,get_eq_some_iff]
 constructor
 · rintro ⟨e,he,rfl⟩
   exact he
 · intro hmem
   exact ⟨_,hmem,rfl⟩

variable {d:ExportedDevice}{α β:Type*}{g:ExportedDeviceGroup}
  {groups:List ExportedDeviceGroup}{i:GroupId}{l:List α}{m:List β}{a:α}

lemma mem_of_pickHostSuggestion {hosts:List HostSuggestion}
 {h:HostSuggestion}(hpick:pickHostSuggestion env d hosts=some h):
 h∈hosts∧env.lower h.hostname=env.lower d.originalHost.hostname:=by
 have hfound:h∈hosts.filter fun h=>
   env.lower h.hostname=env.lower d.originalHost.hostname:=by
  unfold pickHostSuggestion at hpick
  simp only at hpick
  split at hpick
  · cases hpick
  · rename_i only honly
    cases hpick
    simp[honly]
  · rename_i first second rest hmany
    split at hpick
    · cases hpick
      simp[hmany]
    · rename_i id hid
      cases hpick
      cases hfind:(hosts.filter fun h=>env.lower h.hostname =
        env.lower d.originalHost.hostname).find? fun h=>h.id=id with
      | none=>simp[hmany]
      | some=>exact mem_of_find?_eq_some hfind
 simpa using mem_filter.mp hfound
lemma exists_pickHostSuggestion (env:Env)(d:ExportedDevice){hosts:List HostSuggestion}
 (h:∃host∈hosts,host.hostname=d.originalHost.hostname):
 ∃host,pickHostSuggestion env d hosts=some host:=by
 obtain ⟨host,hmem,hname⟩:=h
 have hfound:host∈hosts.filter fun h=>
   env.lower h.hostname=env.lower d.originalHost.hostname:=by simp[hmem,hname]
 unfold pickHostSuggestion
 simp only
 split
 · rename_i hnone
   rw[hnone] at hfound
   cases hfound
 · exact ⟨_,rfl⟩
 · split <;> exact ⟨_,rfl⟩
lemma Importable.pick (h:Importable env u b)(hd:d∈b.devices):
 ∃host,pickHostSuggestion env d (loadAvailableHosts u)=some host∧
  u.hosts.get host.id=some host.hostname:=by
 obtain ⟨id,hid⟩:=h.hosts d hd
 obtain ⟨host,hpick⟩:=exists_pickHostSuggestion env d
  ⟨⟨id,d.originalHost.hostname⟩,mem_loadAvailableHosts.mpr hid,rfl⟩
 exact ⟨host,hpick,mem_loadAvailableHosts.mp (mem_of_pickHostSuggestion hpick).1⟩
lemma validateGroupReferences_eq (h:Importable env u b):
 validateGroupReferences u b=.ok (staticKeys b):=by
 have hexisting:((b.groups.map ExportedDeviceGroup.key).filter fun key=>
   u.groups.entries.any fun e=>e.2.key=key)=[]:=by
  simp[h.vacant.groups]
 have hunknown:((((b.groups.filter fun g=>g.groupType=.dynamic).flatMap
   memberOfReferences)++b.devices.flatMap ExportedDevice.staticGroups).filter
   fun key=>key ∉ staticKeys b)=[]:=by
  rw[filter_eq_nil_iff]
  intro key hkey
  simp only[decide_not,Bool.not_eq_true',decide_eq_false_iff_not,not_not]
  rcases mem_append.mp hkey with hkey|hkey
  · obtain ⟨g,hg,hkey⟩:=mem_flatMap.mp hkey
    cases hf:g.filters with
    | none=>simp[memberOfReferences,hf] at hkey
    | some f=>
     have hkey:key∈f.memberOf:=by simpa[memberOfReferences,hf] using hkey
     exact (h.portable.filters g (mem_of_mem_filter hg) f hf).2.2 key hkey
  · obtain ⟨d,hd,hkey⟩:=mem_flatMap.mp hkey
    exact (h.portable.statics d hd).2 key hkey
 simp only[validateGroupReferences,hexisting,hunknown,ne_eq,not_true_eq_false,if_false]

lemma duplicateKeys_eq_nil (hnodup:(b.devices.map identityKey).Nodup):duplicateKeys b=[]:=by
 simp only[duplicateKeys]
 rw[filter_eq_nil_iff]
 intro key hkey
 have:=nodup_iff_count_le_one.mp hnodup key
 simpa using this
lemma Importable.known (h:Importable env u b)(hd:d∈b.devices):
 sortedKeys (d.staticGroups.filter fun key=>key ∉ staticKeys b)=[]:=by
 rw[sortedKeys_eq_nil,filter_eq_nil_iff]
 intro key hkey
 simpa using (h.portable.statics d hd).2 key hkey
lemma classifyRow_eq (h:Importable env u b)(hnodup:(b.devices.map identityKey).Nodup)
 (hd:d∈b.devices):classifyRow env u (loadAvailableHosts u) (duplicateKeys b) (staticKeys b) d =
  (.validNew,[]):=by
 have hexisting:classifyExistingIdentity u d
   (pickHostSuggestion env d (loadAvailableHosts u))=none:=by
  unfold classifyExistingIdentity
  simp only[h.vacant.devices,any_nil,Bool.false_eq_true,if_false]
  split <;> rfl
 unfold classifyRow classifyPackRunnable
 simp only[h.known hd,h.runnable d hd,duplicateKeys_eq_nil hnodup,hexisting,ne_eq,
  not_true_eq_false,not_mem_nil,if_false,Option.getD_none]
lemma classifyRow_of_duplicate (h:Importable env u b)
 (hd:d∈b.devices)(hduplicate:identityKey d∈duplicateKeys b):
 (classifyRow env u (loadAvailableHosts u) (duplicateKeys b) (staticKeys b) d).1 =
  .duplicateInBundle:=by
 unfold classifyRow classifyPackRunnable
 simp only[h.known hd,h.runnable d hd,hduplicate,ne_eq,not_true_eq_false,if_false,if_true]

def suggested (env:Env)(u:Tables)(d:ExportedDevice):HostSuggestion:=
 (pickHostSuggestion env d (loadAvailableHosts u)).getD ⟨0, ""⟩

section
variable (h:Importable env u b)
include h

lemma Importable.suggested (hd:d∈b.devices):
 pickHostSuggestion env d (loadAvailableHosts u)=some (suggested env u d)∧
  u.hosts.get (Portability.suggested env u d).id = some (Portability.suggested env u d).hostname:=by
 obtain ⟨host,hpick,hhost⟩:=h.pick hd
 simp[Portability.suggested,hpick,hhost]
lemma previewRow_eq (hnodup:(b.devices.map identityKey).Nodup)(hd:d∈b.devices)(i:ℕ):
 previewRow env u b (staticKeys b) d i = ⟨i,d,.validNew,some (suggested env u d),[]⟩:=by
 simp only[previewRow,classifyRow_eq h hnodup hd,(h.suggested hd).1]
lemma validateBundle_rows:validateBundle env u b=.ok ⟨env.computeBundleHash b,loadAvailableHosts u,
  b.devices.zipIdx.map fun e=>previewRow env u b (staticKeys b) e.1 e.2⟩:=by
 simp only[validateBundle,h.portable.version,validateGroupReferences_eq h,ne_eq,
  not_true_eq_false,if_false]
lemma validateBundle_eq (hnodup:(b.devices.map identityKey).Nodup):
 validateBundle env u b=.ok ⟨env.computeBundleHash b,loadAvailableHosts u,
  b.devices.zipIdx.map fun e=>⟨e.2,e.1,.validNew,some (suggested env u e.1),[]⟩⟩:=by
 have hrows:b.devices.zipIdx.map (fun e=>previewRow env u b (staticKeys b) e.1 e.2) =
   b.devices.zipIdx.map fun e=>⟨e.2,e.1,.validNew,some (suggested env u e.1),[]⟩:=by
  refine map_congr_left fun e he=>?_
  exact previewRow_eq h hnodup (fst_mem_of_mem_zipIdx he) e.2
 rw[validateBundle_rows h,hrows]
end

lemma map_zip_map {γ:Type*}{p:α→β}{f:ℕ×β→γ}{g:α→γ}{ids:List ℕ}(hlength:ids.length=l.length)
 (h:∀a i,(a,i)∈l.zip ids→f (i,p a)=g a):(ids.zip (l.map p)).map f=l.map g:=by
 induction l generalizing ids with
 | nil=>simp
 | cons a l ih=>
  cases ids with
  | nil=>simp at hlength
  | cons i ids=>
   have hlength:ids.length=l.length:=by simpa using hlength
   have hrest:=ih hlength fun a' i' hmem=>h a' i' (by simp[hmem])
   rw[map_cons,zip_cons_cons,map_cons,map_cons,hrest,
    h a i (by simp)]
lemma mem_zip_map_left {γ:Type*}{f:α→γ}{c:γ}{b:β}:(c,b)∈(l.map f).zip m↔∃a,(a,b)∈l.zip m∧f a=c:=by
 rw[zip_map_left,mem_map]
 constructor
 · rintro ⟨⟨a,b'⟩,hmem,heq⟩
   simp only[Prod.map_apply,id_eq,Prod.mk.injEq] at heq
   exact ⟨a,heq.2 ▸ hmem,heq.1⟩
 · rintro ⟨a,hmem,rfl⟩
   exact ⟨(a,b),hmem,rfl⟩
lemma mem_zip_swap {b:β}:(b,a)∈m.zip l↔(a,b)∈l.zip m:=by
 rw[←zip_swap,mem_map]
 constructor
 · rintro ⟨e,he,heq⟩
   obtain ⟨rfl,rfl⟩:=Prod.mk.inj heq
   exact he
 · intro h
   exact ⟨(a,b),h,rfl⟩
lemma exists_mem_zip (hlength:m.length=l.length)(ha:a∈l):∃b,(a,b)∈l.zip m:=by
 have hmem:a∈(l.zip m).map Prod.fst:=by rwa [map_fst_zip hlength.ge]
 obtain ⟨⟨a',b⟩,hpair,rfl⟩:=mem_map.mp hmem
 exact ⟨b,hpair⟩

/-- Distinct keys beside distinct ids: an id belongs to one row. -/
lemma zip_left_unique (hnodup:m.Nodup)(hlength:m.length=l.length){a':α}{b:β}(h:(a,b)∈l.zip m)
 (h':(a',b)∈l.zip m):a=a':=by
 have hsnd:((l.zip m).map Prod.snd).Nodup:=by rwa [map_snd_zip hlength.le]
 exact congrArg Prod.fst (inj_on_of_nodup_map hsnd h h' rfl)

lemma zip_right_unique (hnodup:l.Nodup)(hlength:m.length=l.length){b b':β}(h:(a,b)∈l.zip m)
 (h':(a,b')∈l.zip m):b=b':=by
 have hfst:((l.zip m).map Prod.fst).Nodup:=by rwa [map_fst_zip hlength.ge]
 exact congrArg Prod.snd (inj_on_of_nodup_map hfst h h' rfl)
lemma mem_zip_iff_getElem? {b:β}:(a,b)∈l.zip m↔∃i:ℕ,l[i]?=some a∧m[i]?=some b:=by
 simp only[mem_iff_getElem?,getElem?_zip_eq_some]
lemma groupDefinition_key (g:ExportedDeviceGroup):(groupDefinition g).key=g.key:=by
 unfold groupDefinition
 split <;> rfl
lemma groupDefinition_groupType (g:ExportedDeviceGroup):
 (groupDefinition g).groupType=g.groupType:=by
 unfold groupDefinition
 split <;> simp[*]

def ofType (b:ExportBundle)(kind:GroupType):List ExportedDeviceGroup:=
 b.groups.filter fun g=>g.groupType=kind

lemma mem_ofType {kind:GroupType}:g∈ofType b kind↔g∈b.groups∧g.groupType=kind:=by
 simp[ofType]
lemma Portable.eq_of_key (h:Portable b){g':ExportedDeviceGroup}(hg:g∈b.groups)
 (hg':g'∈b.groups)(hkey:g.key=g'.key):g=g':=
 inj_on_of_nodup_map h.keys hg hg' hkey
lemma Portable.nodup_ofType (h:Portable b)(kind:GroupType):
 ((ofType b kind).map ExportedDeviceGroup.key).Nodup:=
 h.keys.sublist (filter_sublist.map _)
lemma insertGroupDefinitions_eq {t:Tables}(hnodup:(groups.map ExportedDeviceGroup.key).Nodup)
 (hfree:∀i row,t.groups.get i=some row→∀g∈groups,row.key≠g.key):insertGroupDefinitions t groups =
  .ok ({t with groups:=(t.groups.insertAll (groups.map groupDefinition)).1},
   (groups.map ExportedDeviceGroup.key).zip (t.groups.insertAll (groups.map groupDefinition)).2):=by
 have htaken:((groups.map ExportedDeviceGroup.key).filter fun key=>
   t.groups.entries.any fun e=>e.2.key=key)=[]:=by
  rw[filter_eq_nil_iff]
  intro key hkey hany
  obtain ⟨g,hg,rfl⟩:=mem_map.mp hkey
  obtain ⟨e,he,hsame⟩:=any_eq_true.mp hany
  exact hfree e.1 e.2 (get_eq_some_iff.mpr he) g hg (by simpa using hsame)
 simp only[insertGroupDefinitions,htaken,hnodup,ne_eq,not_true_eq_false,or_self,if_false]

def staticRows (u:Tables)(b:ExportBundle):Dict GroupId GroupRow×List GroupId:=
 u.groups.insertAll ((ofType b .static).map groupDefinition)
def dynamicRows (u:Tables)(b:ExportBundle):Dict GroupId GroupRow×List GroupId:=
 (staticRows u b).1.insertAll ((ofType b .dynamic).map groupDefinition)
def groupIds (u:Tables)(b:ExportBundle):List (String×GroupId):=
 ((ofType b .static).map ExportedDeviceGroup.key).zip (staticRows u b).2
def dynamicIds (u:Tables)(b:ExportBundle):List (String×GroupId):=
 ((ofType b .dynamic).map ExportedDeviceGroup.key).zip (dynamicRows u b).2

def defined (u:Tables)(b:ExportBundle):Tables:=
 { u with
   groups:=(dynamicRows u b).1
   memberOf:=u.memberOf++memberOfValues (ofType b .dynamic) (dynamicIds u b) (groupIds u b) }

lemma get_staticRows (hv:Vacant u){row:GroupRow}:(staticRows u b).1.get i=some row↔
  ∃g,(g,i)∈(ofType b .static).zip (staticRows u b).2∧groupDefinition g=row:=by
 unfold staticRows
 rw[get_eq_some_iff,(Dict.entries_insertAll _ _).mem_iff,hv.groups,append_nil,
  mem_zip_swap,mem_zip_map_left]
lemma get_dynamicRows (hv:Vacant u){row:GroupRow}:(dynamicRows u b).1.get i=some row↔
  (∃g,(g,i)∈(ofType b .dynamic).zip (dynamicRows u b).2∧groupDefinition g=row)∨
   ∃g,(g,i)∈(ofType b .static).zip (staticRows u b).2∧groupDefinition g=row:=by
 rw[←get_staticRows hv]
 unfold dynamicRows
 rw[get_eq_some_iff,(Dict.entries_insertAll _ _).mem_iff,mem_append,
  mem_zip_swap,mem_zip_map_left,get_eq_some_iff]

lemma commitGroupDefinitions_eq (h:Importable env u b):
 commitGroupDefinitions u b=.ok (defined u b,groupIds u b):=by
 have hstatics:insertGroupDefinitions u (ofType b .static) =
   .ok ({u with groups:=(staticRows u b).1},groupIds u b):=by
  refine insertGroupDefinitions_eq (h.portable.nodup_ofType .static) fun i row hrow=>?_
  rw[get_eq_some_iff,h.vacant.groups] at hrow
  cases hrow
 have hdynamics:insertGroupDefinitions {u with groups:=(staticRows u b).1}
   (ofType b .dynamic)=.ok ({u with groups:=(dynamicRows u b).1},dynamicIds u b):=by
  refine insertGroupDefinitions_eq (h.portable.nodup_ofType .dynamic) fun i row hrow g hg=>?_
  obtain ⟨g',hg',rfl⟩:=(get_staticRows h.vacant).mp hrow
  rw[groupDefinition_key]
  intro hkey
  obtain ⟨hmem,htype⟩:=mem_ofType.mp hg
  obtain ⟨hmem',htype'⟩:=mem_ofType.mp (of_mem_zip hg').1
  obtain rfl:=h.portable.eq_of_key hmem' hmem hkey
  rw[htype] at htype'
  cases htype'
 simp only[commitGroupDefinitions]
 change (do
  let withStatics ←insertGroupDefinitions u (ofType b .static)
  let withDynamics ←insertGroupDefinitions withStatics.1 (ofType b .dynamic)
  pure ({ withDynamics.1 with
   memberOf:=withDynamics.1.memberOf ++
    memberOfValues (ofType b .dynamic) withDynamics.2 withStatics.2 },
   withStatics.2))=_
 rw[hstatics]
 simp only[bind,Except.bind]
 rw[hdynamics]
 rfl

lemma length_staticRows:(staticRows u b).2.length=(ofType b .static).length:=by
 simp[staticRows,Dict.length_insertAll]
lemma length_dynamicRows:(dynamicRows u b).2.length=(ofType b .dynamic).length:=by
 simp[dynamicRows,Dict.length_insertAll]
lemma lookup_zip_keys {ids:List GroupId}{k:String}
 (hnodup:(groups.map ExportedDeviceGroup.key).Nodup)(hlength:ids.length=groups.length):
 ((groups.map ExportedDeviceGroup.key).zip ids).lookup k=some i↔∃g,(g,i)∈groups.zip ids∧g.key=k:=by
 rw[lookup_eq_some_iff,mem_zip_map_left]
 rwa [map_fst_zip (by simp[hlength])]
lemma lookup_groupIds (h:Portable b){k:String}:(groupIds u b).lookup k=some i↔
  ∃g,(g,i)∈(ofType b .static).zip (staticRows u b).2∧g.key=k:=
 lookup_zip_keys (h.nodup_ofType .static) length_staticRows
lemma lookup_dynamicIds (h:Portable b){k:String}:(dynamicIds u b).lookup k=some i↔
  ∃g,(g,i)∈(ofType b .dynamic).zip (dynamicRows u b).2∧g.key=k:=
 lookup_zip_keys (h.nodup_ofType .dynamic) length_dynamicRows
lemma exists_lookup_groupIds (h:Portable b){k:String}(hk:k∈staticKeys b):
 ∃i,(groupIds u b).lookup k=some i:=by
 obtain ⟨g,hg,rfl⟩:=mem_map.mp hk
 obtain ⟨i,hi⟩:=exists_mem_zip (m:=(staticRows u b).2) length_staticRows hg
 exact ⟨i,(lookup_groupIds h).mpr ⟨g,hi,rfl⟩⟩
lemma mem_memberOfValues {sources statics:List (String×GroupId)}{e:GroupId×GroupId}:
 e∈memberOfValues groups sources statics↔∃g∈groups,∃k∈memberOfReferences g,
  sources.lookup g.key=some e.1∧statics.lookup k=some e.2:=by
 unfold memberOfValues
 simp only[mem_flatMap,mem_filterMap,mem_sortedKeys]
 constructor
 · rintro ⟨g,hg,k,hk,heq⟩
   split at heq
   · rename_i source static hsource hstatic
     cases heq
     exact ⟨g,hg,k,hk,hsource,hstatic⟩
   · cases heq
 · rintro ⟨g,hg,k,hk,hsource,hstatic⟩
   exact ⟨g,hg,k,hk,by simp[hsource,hstatic]⟩
lemma sortedKeys_eq_of_mem {l m:List String}(hm:m=sortedKeys m)
 (h:∀k,k∈sortedKeys l↔k∈m):sortedKeys l=m:=by
 rw[hm,←sortedKeys_idem l]
 exact sortedKeys_congr h
lemma Portable.references (h:Portable b)(hg:g∈b.groups):
 memberOfReferences g=sortedKeys (memberOfReferences g)∧∀k∈memberOfReferences g,k∈staticKeys b:=by
 unfold memberOfReferences
 cases hf:g.filters with
 | none=>exact ⟨rfl,by simp⟩
 | some f=>exact ⟨(h.filters g hg f hf).1,(h.filters g hg f hf).2.2⟩

lemma memberOfKeys_eq (h:Importable env u b)(hgroups:v.groups=(dynamicRows u b).1)
 (hedges:v.memberOf=(defined u b).memberOf)(hg:(g,i)∈(ofType b .dynamic).zip (dynamicRows u b).2):
 memberOfKeys v i=memberOfReferences g:=by
 have hmem:=(mem_ofType.mp (of_mem_zip hg).1).1
 refine sortedKeys_eq_of_mem (h.portable.references hmem).1 fun k=>?_
 change k∈memberOfKeys v i↔_
 rw[mem_memberOfKeys,hgroups,hedges,defined,h.vacant.memberOf,nil_append]
 constructor
 · rintro ⟨static,row,hedge,hrow,rfl⟩
   obtain ⟨g',hg',k,hk,hsource,hstatic⟩:=mem_memberOfValues.mp hedge
   obtain ⟨source,hsource,hkey⟩:=(lookup_dynamicIds h.portable).mp hsource
   obtain ⟨target,htarget,rfl⟩:=(lookup_groupIds h.portable).mp hstatic
   have hsame:source=g:=zip_left_unique (Dict.nodup_insertAll _ _) length_dynamicRows
    hsource hg
   have hg'mem:=(mem_ofType.mp hg').1
   obtain rfl:=h.portable.eq_of_key (hsame ▸ hmem) hg'mem hkey
   have hstaticRow:=(get_dynamicRows h.vacant).mpr (.inr ⟨target,htarget,rfl⟩)
   obtain rfl:=Option.some.inj (hrow.symm.trans hstaticRow)
   rw[groupDefinition_key,←hsame]
   exact hk
 · intro hk
   obtain ⟨static,hstatic⟩:=exists_lookup_groupIds (u:=u) h.portable
    ((h.portable.references hmem).2 k hk)
   obtain ⟨target,htarget,rfl⟩:=(lookup_groupIds h.portable).mp hstatic
   refine ⟨static,groupDefinition target,?_,?_,groupDefinition_key target⟩
   · refine mem_memberOfValues.mpr ⟨g,(of_mem_zip hg).1,target.key,hk,?_,hstatic⟩
     exact (lookup_dynamicIds h.portable).mpr ⟨g,hg,rfl⟩
   · exact (get_dynamicRows h.vacant).mpr (.inr ⟨target,htarget,rfl⟩)

lemma exportedFilters_payload (h:Portable b)(hg:g∈b.groups):
 exportedFilters (groupFiltersPayload g) (memberOfReferences g)=g.filters:=by
 unfold exportedFilters groupFiltersPayload memberOfReferences
 cases hf:g.filters with
 | none=>simp
 | some f=>
  obtain ⟨-,hpinned,-⟩:=h.filters g hg f hf
  by_cases hempty:f.native=.empty
  · have hkeys:f.memberOf≠[]:=fun hkeys=>hpinned ⟨hempty,hkeys⟩
    simp only[hempty,if_true,Option.getD_none,Option.map_some,Option.getD_some,hkeys,
     and_false,if_false]
    rw[←hempty]
  · simp[hempty]
lemma exportedGroup_static (h:Portable b)(hg:g∈b.groups)
 (htype:g.groupType=.static)(i:GroupId):exportedGroup v i (groupDefinition g)=g:=by
 have hplain:=h.plain g hg htype
 obtain ⟨key,name,description,groupType,filters⟩:=g
 simp only at htype hplain
 subst htype hplain
 rfl
lemma exportedGroup_dynamic (h:Portable b)(hg:g∈b.groups)(htype:g.groupType=.dynamic)
 (hkeys:memberOfKeys v i=memberOfReferences g):exportedGroup v i (groupDefinition g)=g:=by
 have hfilters:=exportedFilters_payload h hg
 obtain ⟨key,name,description,groupType,filters⟩:=g
 simp only at htype
 subst htype
 simp only[exportedGroup,groupDefinition,hkeys,if_true,hfilters]
lemma exportedGroups_perm (h:Importable env u b)(hgroups:v.groups=(dynamicRows u b).1)
 (hedges:v.memberOf=(defined u b).memberOf):
 (v.groups.entries.map fun e=>exportedGroup v e.1 e.2).Perm b.groups:=by
 have hentries:v.groups.entries.Perm
   ((dynamicRows u b).2.zip ((ofType b .dynamic).map groupDefinition) ++
    (staticRows u b).2.zip ((ofType b .static).map groupDefinition)):=by
  have hstatics:=Dict.entries_insertAll u.groups ((ofType b .static).map groupDefinition)
  rw[h.vacant.groups,append_nil] at hstatics
  rw[hgroups]
  exact (Dict.entries_insertAll _ _).trans (hstatics.append_left _)
 refine (hentries.map _).trans ?_
 rw[map_append,map_zip_map (g:=id) length_dynamicRows,
  map_zip_map (g:=id) length_staticRows,map_id,map_id]
 · have hpartition:(ofType b .static)=b.groups.filter
     fun g=>!decide (g.groupType=.dynamic):=by
    refine filter_congr fun g _=>?_
    cases g.groupType <;> rfl
   rw[hpartition]
   exact filter_append_perm _ _
 · intro g i hg
   obtain ⟨hmem,htype⟩:=mem_ofType.mp (of_mem_zip hg).1
   exact exportedGroup_static h.portable hmem htype i
 · intro g i hg
   obtain ⟨hmem,htype⟩:=mem_ofType.mp (of_mem_zip hg).1
   exact exportedGroup_dynamic h.portable hmem htype (memberOfKeys_eq h hgroups hedges hg)

def createPayload (env:Env)(u:Tables)(now:Instant)(d:ExportedDevice):DeviceRow:=
 buildCreatePayload d (suggested env u d).id now

lemma foldl_insertRow {hosts:Dict HostId String}{rows:List PlannedRow}{acc:DeviceInserts}
 (hhosts:∀row∈rows,(hosts.get row.targetHostId).isSome)
 (hnodup:(rows.map fun row=>identityKey row.device).Nodup)
 (hfree:∀e∈acc.devices.entries,∀row∈rows,
  (e.2.identityScheme,e.2.identityScope,e.2.identityValue)≠identityKey row.device):
 let payloads:=rows.map fun row=>buildCreatePayload row.device row.targetHostId now
 rows.foldl (insertRow hosts now) acc =
  ⟨(acc.devices.insertAll payloads).1,
   acc.created++(rows.map PlannedRow.index).zip (acc.devices.insertAll payloads).2,
   acc.failed⟩:=by
 induction rows generalizing acc with
 | nil=>simp[Dict.insertAll]
 | cons row _ ih=>
  rw[map_cons,nodup_cons] at hnodup
  obtain ⟨name,hname⟩:=Option.isSome_iff_exists.mp (hhosts row mem_cons_self)
  set payload:=buildCreatePayload row.device row.targetHostId now with hpayload
  have hno:(acc.devices.entries.any fun e=>sameIdentity e.2 payload)=false:=by
   rw[any_eq_false]
   intro e he hsame
   refine hfree e he row mem_cons_self ?_
   simp only[sameIdentity,decide_eq_true_eq] at hsame
   exact Prod.ext hsame.2.1 (Prod.ext hsame.1 hsame.2.2.1)
  have hstep:insertRow hosts now acc row =
    ⟨acc.devices.set acc.devices.freshKey payload,
     acc.created++[(row.index,acc.devices.freshKey)],acc.failed⟩:=by
   simp only[insertRow,hname,←hpayload,hno,Bool.false_eq_true,if_false]
  simp only[foldl_cons,hstep]
  rw[ih (fun row' hrow'=>hhosts row' (mem_cons_of_mem row hrow')) hnodup.2]
  · simp[Dict.insertAll,hpayload]
  · intro e he row' hrow' hsame
    rw[Dict.entries_set_of_notMem _ acc.devices.freshKey_notMem] at he
    rcases mem_cons.mp he with rfl|he
    · exact hnodup.1 (mem_map.mpr ⟨row',hrow',hsame.symm⟩)
    · exact hfree e he row' (mem_cons_of_mem row hrow') hsame

def plannedRows (env:Env)(u:Tables)(b:ExportBundle):List PlannedRow:=
 b.devices.zipIdx.map fun e=>⟨e.2,e.1,(suggested env u e.1).id⟩
def deviceRows (env:Env)(u:Tables)(b:ExportBundle)(now:Instant):
 Dict DeviceId DeviceRow×List DeviceId:=
 u.devices.insertAll (b.devices.map (createPayload env u now))

lemma length_deviceRows:(deviceRows env u b now).2.length=b.devices.length:=by
 simp[deviceRows,Dict.length_insertAll]

def createdRows (env:Env)(u:Tables)(b:ExportBundle)(now:Instant):List (ℕ×DeviceId):=
 (List.range b.devices.length).zip (deviceRows env u b now).2

lemma zipIdx_map_snd (l:List α):l.zipIdx.map Prod.snd=List.range l.length:=by
 rw[List.zipIdx_map_snd,range_eq_range']

lemma insertDeviceBatches_eq (now:Instant)(h:Importable env u b)
 (hnodup:(b.devices.map identityKey).Nodup){t:Tables}(hhosts:t.hosts=u.hosts)
 (hdevices:t.devices=u.devices):insertDeviceBatches t now (plannedRows env u b) =
  ⟨(deviceRows env u b now).1,createdRows env u b now,[]⟩:=by
 have hkeys:(plannedRows env u b).map (fun row=>identityKey row.device) =
   b.devices.map identityKey:=by
  rw[plannedRows,map_map]
  conv_rhs=>rw[←zipIdx_map_fst 0 b.devices,map_map]
  rfl
 have hpayloads:(plannedRows env u b).map
   (fun row=>buildCreatePayload row.device row.targetHostId now) =
   b.devices.map (createPayload env u now):=by
  rw[plannedRows,map_map]
  conv_rhs=>rw[←zipIdx_map_fst 0 b.devices,map_map]
  rfl
 have hindices:(plannedRows env u b).map PlannedRow.index=List.range b.devices.length:=by
  rw[plannedRows,map_map,←zipIdx_map_snd]
  rfl
 rw[insertDeviceBatches,foldl_batched,foldl_insertRow,hpayloads,hindices,hdevices]
 · rfl
 · intro row hrow
   obtain ⟨e,he,rfl⟩:=mem_map.mp hrow
   simp[hhosts,(h.suggested (fst_mem_of_mem_zipIdx he)).2]
 · rwa [hkeys]
 · intro e he
   rw[hdevices,h.vacant.devices] at he
   cases he

lemma planDeviceRows_eq (env:Env)(u:Tables)(b:ExportBundle):
 let rows:List ImportPreviewRow:=b.devices.zipIdx.map fun e=>
  ⟨e.2,e.1,.validNew,some (suggested env u e.1),[]⟩
 let mappings:=Dict.ofList ((acceptSuggestions ⟨env.computeBundleHash b,
  loadAvailableHosts u,rows⟩).map fun m=>(m.index,m.targetHostId))
 planDeviceRows rows mappings=(plannedRows env u b,[]):=by
 intro rows mappings
 have hpairs:(acceptSuggestions ⟨env.computeBundleHash b,loadAvailableHosts u,rows⟩).map
   (fun m=>(m.index,m.targetHostId)) =
   b.devices.zipIdx.map fun e=>(e.2,(suggested env u e.1).id):=by
  simp only[acceptSuggestions,rows,filterMap_map,Function.comp_def,Option.map_some]
  rw[filterMap_eq_map',map_map]
  rfl
 have hnodup:((b.devices.zipIdx.map fun e=>(e.2,(suggested env u e.1).id)).map
   Prod.fst).Nodup:=by
  rw[map_map]
  change (b.devices.zipIdx.map Prod.snd).Nodup
  rw[zipIdx_map_snd]
  exact nodup_range
 have hmapping:∀e∈b.devices.zipIdx,mappings.get e.2=some (suggested env u e.1).id:=by
  intro e he
  simp only[mappings,hpairs]
  exact get_ofList_of_mem hnodup (mem_map.mpr ⟨e,he,rfl⟩)
 unfold planDeviceRows
 refine Prod.ext ?_ ?_
 · simp only[rows,filterMap_map,Function.comp_def,skipReason,plannedRows]
   rw[filterMap_congr (g:=fun e=>some ⟨e.2,e.1,(suggested env u e.1).id⟩),
    filterMap_eq_map']
   intro e he
   simp[hmapping e he]
 · simp only[rows,filterMap_map,Function.comp_def,skipReason]
   rw[filterMap_eq_nil_iff]
   intro e he
   simp[hmapping e he]

lemma mem_addMembership {memberships:List (GroupId×DeviceId)}{e e':GroupId×DeviceId}:
 e'∈addMembership memberships e↔e'∈memberships∨e'=e:=by
 unfold addMembership
 split
 · constructor
   · exact .inl
   · rintro (hmem|rfl)
     · exact hmem
     · assumption
 · simp
lemma foldl_stageMembership {planned:List PlannedMembership}(acc:MembershipInserts)
 (h:∀m∈planned,membershipVerdict v m=.inl (m.groupId,m.deviceId)):
 (planned.foldl (stageMembership v) acc).skipped=acc.skipped∧
  ∀e,e∈(planned.foldl (stageMembership v) acc).memberships↔
   e∈acc.memberships∨∃m∈planned,e=(m.groupId,m.deviceId):=by
 induction planned generalizing acc with
 | nil=>simp
 | cons m _ ih=>
  have hstep:stageMembership v acc m =
    {acc with memberships:=addMembership acc.memberships (m.groupId,m.deviceId)}:=by
   simp only[stageMembership,h m mem_cons_self]
  rw[foldl_cons,hstep]
  obtain ⟨hskipped,hmem⟩:=ih { acc with
   memberships:=addMembership acc.memberships (m.groupId,m.deviceId) }
   fun m' hm'=>h m' (mem_cons_of_mem m hm')
  refine ⟨hskipped,fun e=>?_⟩
  rw[hmem,mem_addMembership]
  simp only[mem_cons,exists_eq_or_imp,or_assoc]
lemma mem_plannedMemberships {devices:List ExportedDevice}{ids:List (ℕ×DeviceId)}
 {groups:List (String×GroupId)}{m:PlannedMembership}:
 m∈plannedMemberships devices ids groups↔(m.index,m.deviceId)∈ids∧
  ∃d,devices[m.index]?=some d∧m.key∈d.staticGroups∧groups.lookup m.key=some m.groupId:=by
 unfold plannedMemberships
 rw[mem_flatMap]
 constructor
 · rintro ⟨e,he,hm⟩
   cases hd:devices[e.1]? with
   | none=>simp[hd] at hm
   | some d=>
    simp only[hd,mem_filterMap,Option.map_eq_some_iff] at hm
    obtain ⟨key,hkey,group,hgroup,rfl⟩:=hm
    exact ⟨he,d,hd,hkey,hgroup⟩
 · rintro ⟨he,d,hd,hkey,hgroup⟩
   refine ⟨_,he,?_⟩
   simp only[hd,mem_filterMap,Option.map_eq_some_iff]
   exact ⟨m.key,hkey,m.groupId,hgroup,rfl⟩
lemma mem_zip_range {ids:List ℕ}{n i k:ℕ}(hlength:ids.length=n):
 (i,k)∈(List.range n).zip ids↔ids[i]?=some k:=by
 subst hlength
 have hmem:(k,i)∈ids.zipIdx↔ids[i]?=some k:=mem_zipIdx_iff_getElem?
 rw[←hmem,mem_zip_swap,zipIdx_eq_zip_range',range_eq_range']

def withDevices (env:Env)(u:Tables)(b:ExportBundle)(now:Instant):Tables:=
 {defined u b with devices:=(deviceRows env u b now).1}
def planned (env:Env)(u:Tables)(b:ExportBundle)(now:Instant):List PlannedMembership:=
 plannedMemberships b.devices (createdRows env u b now) (groupIds u b)

lemma get_deviceRows (hv:Vacant u){i:DeviceId}{row:DeviceRow}:
 (deviceRows env u b now).1.get i=some row↔∃d,
  (d,i)∈b.devices.zip (deviceRows env u b now).2∧createPayload env u now d=row:=by
 unfold deviceRows
 rw[get_eq_some_iff,(Dict.entries_insertAll _ _).mem_iff,hv.devices,append_nil,
  mem_zip_swap,mem_zip_map_left]

def kindIds (u:Tables)(b:ExportBundle):GroupType→List GroupId
 | .static=>(staticRows u b).2
 | .dynamic=>(dynamicRows u b).2

lemma length_kindIds (kind:GroupType):(kindIds u b kind).length=(ofType b kind).length:=by
 cases kind
 · exact length_staticRows
 · exact length_dynamicRows
lemma groups_key_unique (h:Importable env u b){j:GroupId}{row row':GroupRow}
 (hrow:(dynamicRows u b).1.get i=some row)(hrow':(dynamicRows u b).1.get j=some row')
 (hkey:row.key=row'.key):i=j:=by
 have hsource:∀{i row},(dynamicRows u b).1.get i=some row→
   ∃kind g,(g,i)∈(ofType b kind).zip (kindIds u b kind)∧groupDefinition g=row:=by
  intro i row hrow
  rcases (get_dynamicRows h.vacant).mp hrow with hdynamic|hstatic
  · exact ⟨.dynamic,hdynamic⟩
  · exact ⟨.static,hstatic⟩
 obtain ⟨kind,g,hg,rfl⟩:=hsource hrow
 obtain ⟨kind',g',hg',rfl⟩:=hsource hrow'
 rw[groupDefinition_key,groupDefinition_key] at hkey
 obtain ⟨hmem,rfl⟩:=mem_ofType.mp (of_mem_zip hg).1
 obtain ⟨hmem',rfl⟩:=mem_ofType.mp (of_mem_zip hg').1
 obtain rfl:=h.portable.eq_of_key hmem hmem' hkey
 exact zip_right_unique (h.portable.nodup_ofType g.groupType).of_map (length_kindIds _) hg hg'
lemma membershipVerdict_eq (h:Importable env u b){m:PlannedMembership}(hm:m∈planned env u b now):
 membershipVerdict (withDevices env u b now) m=.inl (m.groupId,m.deviceId):=by
 obtain ⟨hcreated,d,-,-,hlookup⟩:=mem_plannedMemberships.mp hm
 obtain ⟨g,hg,hkey⟩:=(lookup_groupIds h.portable).mp hlookup
 have hrow:(dynamicRows u b).1.get m.groupId=some (groupDefinition g):=
  (get_dynamicRows h.vacant).mpr (.inr ⟨g,hg,rfl⟩)
 have hfind:((dynamicRows u b).1.entries.find? fun e=>e.2.key=m.key).map Prod.fst =
   some m.groupId:=by
  cases hfound:(dynamicRows u b).1.entries.find? fun e=>e.2.key=m.key with
  | none=>
   have:=find?_eq_none.mp hfound _ (get_eq_some_iff.mp hrow)
   simp[groupDefinition_key,hkey] at this
  | some e=>
   have hsame:e.2.key=m.key:=by simpa using find?_some hfound
   have he:=get_eq_some_iff.mpr (mem_of_find?_eq_some hfound)
   rw[Option.map_some,groups_key_unique h he hrow (by rw[hsame,groupDefinition_key,hkey])]
 have hdevice:((deviceRows env u b now).1.get m.deviceId).isSome:=by
  have hid:m.deviceId∈(deviceRows env u b now).2:=(of_mem_zip hcreated).2
  obtain ⟨d,hd⟩:=exists_mem_zip length_deviceRows.symm hid
  exact Option.isSome_iff_exists.mpr
   ⟨_,(get_deviceRows h.vacant).mpr ⟨d,mem_zip_swap.mp hd,rfl⟩⟩
 unfold membershipVerdict
 simp only[withDevices,defined,hfind]
 simp[Option.isSome_iff_ne_none.mp hdevice]

def imported (env:Env)(u:Tables)(b:ExportBundle)(now:Instant):Tables:=
 { withDevices env u b now with
   memberships:=(stageStaticMemberships (withDevices env u b now)
    (planned env u b now)).memberships }

lemma staged_spec (now:Instant)(h:Importable env u b):
 (stageStaticMemberships (withDevices env u b now) (planned env u b now)).skipped=[]∧
  ∀e,e∈(imported env u b now).memberships↔∃m∈planned env u b now,e=(m.groupId,m.deviceId):=by
 have hnone:(withDevices env u b now).memberships=[]:=h.vacant.memberships
 have hverdict:∀m∈planned env u b now,
   membershipVerdict (withDevices env u b now) m=.inl (m.groupId,m.deviceId):=
  fun m hm=>membershipVerdict_eq h hm
 have hfold:=foldl_stageMembership ⟨(withDevices env u b now).memberships,[]⟩ hverdict
 rw[hnone] at hfold
 simp only[imported,stageStaticMemberships,foldl_batched,hnone]
 exact ⟨hfold.1,fun e=>by simpa using hfold.2 e⟩

lemma staticGroupKeys_eq (h:Importable env u b){id:DeviceId}
 (hd:(d,id)∈b.devices.zip (deviceRows env u b now).2):
 staticGroupKeys (imported env u b now) id=d.staticGroups:=by
 have hmem:d∈b.devices:=(of_mem_zip hd).1
 refine sortedKeys_eq_of_mem (h.portable.statics d hmem).1 fun k=>?_
 change k∈staticGroupKeys (imported env u b now) id↔_
 rw[mem_staticGroupKeys]
 constructor
 · rintro ⟨group,row,hedge,hrow,-,rfl⟩
   obtain ⟨m,hm,heq⟩:=((staged_spec now h).2 _).mp hedge
   obtain ⟨rfl,rfl⟩:=Prod.mk.inj heq
   obtain ⟨hcreated,d',hd',hkey,hlookup⟩:=mem_plannedMemberships.mp hm
   have hid:=(mem_zip_range length_deviceRows).mp hcreated
   obtain rfl:=zip_left_unique (Dict.nodup_insertAll _ _) length_deviceRows
    (mem_zip_iff_getElem?.mpr ⟨m.index,hd',hid⟩) hd
   obtain ⟨g,hg,hgkey⟩:=(lookup_groupIds h.portable).mp hlookup
   have hdef:=(get_dynamicRows h.vacant).mpr (.inr ⟨g,hg,rfl⟩)
   obtain rfl:=Option.some.inj (hrow.symm.trans hdef)
   rw[groupDefinition_key,hgkey]
   exact hkey
 · intro hk
   obtain ⟨group,hgroup⟩:=exists_lookup_groupIds (u:=u) h.portable
    ((h.portable.statics d hmem).2 k hk)
   obtain ⟨g,hg,rfl⟩:=(lookup_groupIds h.portable).mp hgroup
   obtain ⟨i,hdi,hidi⟩:=mem_zip_iff_getElem?.mp hd
   refine ⟨group,groupDefinition g,((staged_spec now h).2 _).mpr ⟨⟨i,g.key,id,group⟩,?_,rfl⟩,
    (get_dynamicRows h.vacant).mpr (.inr ⟨g,hg,rfl⟩),?_,groupDefinition_key g⟩
   · exact mem_plannedMemberships.mpr
      ⟨(mem_zip_range length_deviceRows).mpr hidi,d,hdi,hk,hgroup⟩
   · rw[groupDefinition_groupType]
     exact (mem_ofType.mp (of_mem_zip hg).1).2

def rehosted (env:Env)(u:Tables)(d:ExportedDevice):ExportedDevice:=
 {d with originalHost:=⟨(suggested env u d).hostname,some (suggested env u d).id⟩}

lemma exportedDevices_perm (h:Importable env u b):
 ((imported env u b now).devices.entries.map (exportedRow (imported env u b now))).Perm
  (b.devices.map (rehosted env u)):=by
 have hentries:(imported env u b now).devices.entries.Perm
   ((deviceRows env u b now).2.zip (b.devices.map (createPayload env u now))):=by
  have hrows:=Dict.entries_insertAll u.devices (b.devices.map (createPayload env u now))
  rwa [h.vacant.devices,append_nil] at hrows
 refine (hentries.map _).trans ?_
 rw[map_zip_map (g:=rehosted env u) length_deviceRows]
 intro d id hd
 have hhost:=(h.suggested (of_mem_zip hd).1).2
 have hkeys:staticGroupKeys (imported env u b now) id=d.staticGroups:=
  staticGroupKeys_eq h hd
 have hname:(imported env u b now).hosts.get (suggested env u d).id =
   some (suggested env u d).hostname:=hhost
 simp only[exportedRow,createPayload,buildCreatePayload,hname,Option.getD_some,
  exportedDeviceOn,hkeys,rehosted]
lemma commitImport_eq (now:Instant)(h:Importable env u b)(hnodup:(b.devices.map identityKey).Nodup):
 ∃preview,validateBundle env u b=.ok preview∧
  commitImport env u now ⟨b,preview.bundleHash,acceptSuggestions preview⟩ =
   .ok (imported env u b now,⟨createdRows env u b now,[],[],[]⟩):=by
 have hplan:=planDeviceRows_eq env u b
 have hinserts:=insertDeviceBatches_eq now h hnodup (t:=defined u b) rfl rfl
 have hstaged:=(staged_spec now h).1
 refine ⟨_,validateBundle_eq h hnodup,?_⟩
 simp only at hplan
 simp only[commitImport,ne_eq,not_true_eq_false,if_false,validateBundle_eq h hnodup,
  commitGroupDefinitions_eq h,bind,Except.bind,pure,Except.pure,hplan,hinserts]
 exact congrArg (fun skipped=>Except.ok (imported env u b now,
  (⟨createdRows env u b now,[],[],skipped⟩:ImportCommitResult))) hstaged
lemma skipped_of_duplicate (h:Importable env u b)(hd:d∈b.devices)
 (hduplicate:identityKey d∈duplicateKeys b){hash:String}{mappings:List ImportMapping}
 {result:ImportCommitResult}(hcommit:commitImport env u now ⟨b,hash,mappings⟩=.ok (v,result)):
 result.skipped≠[]:=by
 obtain ⟨i,hi⟩:=mem_iff_getElem?.mp hd
 set row:=previewRow env u b (staticKeys b) d i with hrow
 have hstatus:row.status=.duplicateInBundle:=classifyRow_of_duplicate h hd hduplicate
 simp only[commitImport,validateBundle_rows h,commitGroupDefinitions_eq h] at hcommit
 by_cases hhash:env.computeBundleHash b≠hash
 · simp[hhash,bind,Except.bind,throw,throwThe,MonadExceptOf.throw] at hcommit
 simp only[hhash,if_false,bind,Except.bind,pure,Except.pure] at hcommit
 cases hcommit
 refine ne_nil_of_mem (a:=(i, "duplicate in bundle")) ?_
 refine mem_filterMap.mpr ⟨row,mem_map.mpr ⟨(d,i),?_,rfl⟩,?_⟩
 · exact mem_zipIdx_iff_getElem?.mpr hi
 · simp only[skipReason,hstatus]
   rfl
end GridFleet.Portability
