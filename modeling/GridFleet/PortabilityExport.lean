import GridFleet.Portability
namespace GridFleet.Portability
open Dict List Option

variable {t:Tables}{b:ExportBundle}{now:Instant}

variable {k:String}{l:List String}

lemma mem_sortedKeys:k∈sortedKeys l↔k∈l:=by
 simp[sortedKeys,mem_insertionSort]
lemma sortedKeys_congr {l':List String}(h:∀k,k∈l↔k∈l'):sortedKeys l=sortedKeys l':=by
 have hperm:l.dedup.Perm l'.dedup:=
  (perm_ext_iff_of_nodup l.nodup_dedup l'.nodup_dedup).mpr fun k=>by simp[h k]
 refine List.Perm.eq_of_pairwise' (r:=(· ≤ ·)) (pairwise_insertionSort _ _)
  (pairwise_insertionSort _ _) ?_
 exact (perm_insertionSort _ _).trans (hperm.trans (perm_insertionSort _ _).symm)
lemma sortedKeys_idem (l:List String):sortedKeys (sortedKeys l)=sortedKeys l:=
 sortedKeys_congr fun _=>mem_sortedKeys
lemma sortedKeys_eq_nil:sortedKeys l=[]↔l=[]:=by
 constructor
 · intro h
   refine eq_nil_iff_forall_not_mem.mpr fun k hk=>?_
   rw[←mem_sortedKeys,h] at hk
   cases hk
 · rintro rfl
   rfl

def exportedRow (t:Tables)(e:DeviceId×DeviceRow):ExportedDevice:=
 exportedDeviceOn t e.1 e.2 ((t.hosts.get e.2.hostId).getD "")

lemma mapM_eq_some_map {α β:Type*}{f:α→Option β}{g:α→β}{l:List α}
 (h:∀a∈l,f a=some (g a)):l.mapM f=some (l.map g):=by
 induction l with
 | nil=>rfl
 | cons a _ ih=>
  rw[mapM_cons,h a mem_cons_self,ih fun a' ha'=>h a' (mem_cons_of_mem a ha')]
  rfl
lemma buildExportBundle_eq (now:Instant)
 (hhost:∀i d,t.devices.get i=some d→∃name,t.hosts.get d.hostId=some name):
 ∃groups devices,buildExportBundle t now=some ⟨schemaVersion,now,groups,devices⟩∧
  groups.Perm (t.groups.entries.map fun e=>exportedGroup t e.1 e.2)∧
  devices.Perm (t.devices.entries.map (exportedRow t)):=by
 have hrow:∀e∈t.devices.entries.insertionSort fun a b=>a.2.createdAt≤b.2.createdAt,
   exportedDevice t e.1 e.2=some (exportedRow t e):=by
  intro e he
  rw[mem_insertionSort] at he
  obtain ⟨name,hname⟩:=hhost e.1 e.2 (get_eq_some_iff.mpr he)
  simp[exportedDevice,exportedRow,hname]
 refine ⟨(t.groups.entries.insertionSort fun a b=>a.2.key≤b.2.key).map
   fun e=>exportedGroup t e.1 e.2,
  (t.devices.entries.insertionSort fun a b=>a.2.createdAt≤b.2.createdAt).map
   (exportedRow t),?_,(perm_insertionSort _ _).map _,(perm_insertionSort _ _).map _⟩
 simp only[buildExportBundle]
 rw[mapM_eq_some_map hrow]
 rfl

structure Portable (b:ExportBundle):Prop where
 version:b.version=schemaVersion
 keys:(b.groups.map ExportedDeviceGroup.key).Nodup
 plain:∀g∈b.groups,g.groupType=.static→ g.filters=none
 filters:∀g∈b.groups,∀f,g.filters=some f→f.memberOf=sortedKeys f.memberOf∧
  ¬(f.native=.empty∧f.memberOf=[])∧∀k∈f.memberOf,k∈staticKeys b
 statics:∀d∈b.devices,d.staticGroups=sortedKeys d.staticGroups∧
  ∀k∈d.staticGroups,k∈staticKeys b

lemma mem_memberOfKeys {t:Tables}{id:GroupId}:k∈memberOfKeys t id↔∃static g,(id,static)∈t.memberOf∧
  t.groups.get static=some g∧g.key=k:=by
 unfold memberOfKeys
 rw[mem_sortedKeys,mem_filterMap]
 constructor
 · rintro ⟨⟨source,static⟩,hmem,hkey⟩
   split at hkey
   · rename_i hsource
     obtain ⟨g,hg,rfl⟩:=map_eq_some_iff.mp hkey
     exact ⟨static,g,hsource ▸ hmem,hg,rfl⟩
   · cases hkey
 · rintro ⟨static,g,hmem,hg,rfl⟩
   exact ⟨(id,static),hmem,by simp[hg]⟩
lemma mem_staticGroupKeys {t:Tables}{id:DeviceId}:
 k∈staticGroupKeys t id↔∃group g,(group,id)∈t.memberships∧
  t.groups.get group=some g∧g.groupType=.static∧g.key=k:=by
 unfold staticGroupKeys
 rw[mem_sortedKeys,mem_filterMap]
 constructor
 · rintro ⟨⟨group,device⟩,hmem,hkey⟩
   split at hkey
   · rename_i hdevice
     obtain ⟨g,hg,rfl⟩:=map_eq_some_iff.mp hkey
     rw[filter_eq_some_iff] at hg
     exact ⟨group,g,hdevice ▸ hmem,hg.1,by simpa using hg.2,rfl⟩
   · cases hkey
 · rintro ⟨group,g,hmem,hg,hstatic,rfl⟩
   exact ⟨(group,id),hmem,by simp[hg,hstatic]⟩
lemma exportedFilters_spec {native:Option NativeFilters}{keys:List String}
 {f:DeviceGroupFilters}(h:exportedFilters native keys=some f):
 f.memberOf=keys∧¬(f.native=.empty∧f.memberOf=[]):=by
 unfold exportedFilters at h
 simp only at h
 split at h
 · cases h
 · cases h
   exact ⟨rfl,by assumption⟩

lemma export_portable (h:Constraints t)(hb:buildExportBundle t now=some b):Portable b:=by
 obtain ⟨groups,devices,hexport,hgroups,hdevices⟩:=buildExportBundle_eq now h.host
 obtain rfl:=some.inj (hexport.symm.trans hb)
 have hstatic:∀i g,t.groups.get i=some g→ g.groupType=.static→
   g.key∈staticKeys ⟨schemaVersion,now,groups,devices⟩:=by
  intro i g hg htype
  refine List.mem_map.mpr ⟨exportedGroup t i g,mem_filter.mpr ⟨?_,?_⟩,rfl⟩
  · exact hgroups.mem_iff.mpr (List.mem_map.mpr ⟨(i,g),get_eq_some_iff.mp hg,rfl⟩)
  · simp[exportedGroup,htype]
 have hsource:∀g∈groups,∃i row,t.groups.get i=some row∧g=exportedGroup t i row:=by
  intro g hg
  obtain ⟨e,he,rfl⟩:=List.mem_map.mp (hgroups.mem_iff.mp hg)
  exact ⟨e.1,e.2,get_eq_some_iff.mpr he,rfl⟩
 refine ⟨rfl,?_,?_,?_,?_⟩
 · refine ((hgroups.map _).nodup_iff).mpr ?_
   rw[List.map_map]
   refine (List.Nodup.of_map Prod.fst t.groups.nodup).map_on fun e he e' he' hkey=>?_
   have hid:=h.key e.1 e'.1 e.2 e'.2 (get_eq_some_iff.mpr he)
    (get_eq_some_iff.mpr he') hkey
   exact inj_on_of_nodup_map t.groups.nodup he he' hid
 · intro g hg htype
   obtain ⟨i,row,-,rfl⟩:=hsource g hg
   simp only[exportedGroup] at htype
   simp[exportedGroup,htype]
 · intro g hg f hf
   obtain ⟨i,row,-,rfl⟩:=hsource g hg
   simp only[exportedGroup] at hf
   split at hf
   case isFalse=>cases hf
   case isTrue=>
    obtain ⟨hkeys,hpinned⟩:=exportedFilters_spec hf
    refine ⟨?_,hpinned,fun k hk=>?_⟩
    · rw[hkeys]
      exact (sortedKeys_idem _).symm
    · rw[hkeys] at hk
      obtain ⟨static,g',hmem,hg',rfl⟩:=mem_memberOfKeys.mp hk
      obtain ⟨-,g'',-,-,hg'',htype⟩:=h.memberOf _ hmem
      obtain rfl:=some.inj (hg'.symm.trans hg'')
      exact hstatic static g' hg' htype
 · intro d hd
   obtain ⟨e,he,rfl⟩:=List.mem_map.mp (hdevices.mem_iff.mp hd)
   refine ⟨(sortedKeys_idem _).symm,fun k hk=>?_⟩
   obtain ⟨group,g,-,hg,htype,rfl⟩:=mem_staticGroupKeys.mp hk
   exact hstatic group g hg htype
end GridFleet.Portability
