import GridFleet.PortabilityImport
namespace GridFleet.Portability
open Dict List Option

variable {t u:Tables}{env:Env}

/-- A target with the same hosts by name, and nothing else in it. -/
structure Target (t u:Tables):Prop where
 vacant:Vacant u
 hostname:∀i j name,u.hosts.get i=some name→u.hosts.get j=some name→i=j
 same:∀name,(∃i,t.hosts.get i=some name)↔∃i,u.hosts.get i=some name

def withoutHostId (d:ExportedDevice):ExportedDevice:=
 {d with originalHost:=⟨d.originalHost.hostname,none⟩}
def SameBundle (b b':ExportBundle):Prop:=
 b'.groups.Perm b.groups∧(b'.devices.map withoutHostId).Perm (b.devices.map withoutHostId)

/-- Every device of the bundle is created, none is skipped or fails, and a second export gives the
bundle again. -/
def RoundTrips (env:Env)(t u:Tables):Prop:=
 ∀now,∃b preview v result,buildExportBundle t now=some b∧
  validateBundle env u b=.ok preview∧
  commitImport env u now ⟨b,preview.bundleHash,acceptSuggestions preview⟩=.ok (v,result)∧
  result.created.map Prod.fst=List.range b.devices.length∧
  result.skipped=[]∧result.failed=[]∧result.membershipsSkipped=[]∧
  ∃b',buildExportBundle v now=some b'∧SameBundle b b'

/-- No two devices of host scope share scheme and value, whatever hosts they are on. -/
def DistinctHostIdentities (t:Tables):Prop:=
 ∀i j d e,t.devices.get i=some d→t.devices.get j=some e→d.identityScope=.host→
  e.identityScope=.host→d.identityScheme=e.identityScheme→
  d.identityValue=e.identityValue→i=j

/-- No host that carries a device has a namesake up to case. -/
def DistinctHostnames (env:Env)(t:Tables):Prop:=
 ∀i d name j other,t.devices.get i=some d→t.hosts.get d.hostId=some name→
  t.hosts.get j=some other→env.lower other=env.lower name→j=d.hostId

section
variable {b:ExportBundle}{now:Instant}

section
variable (h:Constraints t)
include h

section
variable (hb:buildExportBundle t now=some b)
include hb

lemma devices_of_export:b.devices.Perm (t.devices.entries.map (exportedRow t)):=by
 obtain ⟨groups,devices,hexport,-,hdevices⟩:=buildExportBundle_eq now h.host
 obtain rfl:=some.inj (hexport.symm.trans hb)
 exact hdevices
lemma exists_row {d:ExportedDevice}(hd:d∈b.devices):∃i row name,t.devices.get i=some row∧
 t.hosts.get row.hostId=some name∧d=exportedDeviceOn t i row name:=by
 obtain ⟨e,he,rfl⟩:=List.mem_map.mp ((devices_of_export h hb).mem_iff.mp hd)
 have hrow:=get_eq_some_iff.mpr he
 obtain ⟨name,hname⟩:=h.host e.1 e.2 hrow
 exact ⟨e.1,e.2,name,hrow,hname,by simp[exportedRow,hname]⟩
lemma mem_of_row {i:DeviceId}{row:DeviceRow}{name:String}(hrow:t.devices.get i=some row)
 (hname:t.hosts.get row.hostId=some name):exportedDeviceOn t i row name∈b.devices:=by
 refine (devices_of_export h hb).mem_iff.mpr (List.mem_map.mpr ⟨(i,row),?_,?_⟩)
 · exact get_eq_some_iff.mp hrow
 · simp[exportedRow,hname]

/-- Of two devices with one identity key, both are of host scope or they are the same. -/
lemma identityKeys_nodup_iff:(b.devices.map identityKey).Nodup↔DistinctHostIdentities t:=by
 rw[((devices_of_export h hb).map identityKey).nodup_iff,List.map_map,
  nodup_map_iff_inj_on (List.Nodup.of_map Prod.fst t.devices.nodup)]
 constructor
 · intro hinj i j d e hd he hscope hscope' hscheme hvalue
   have hkey:identityKey (exportedRow t (i,d))=identityKey (exportedRow t (j,e)):=by
    simp[identityKey,exportedRow,exportedDeviceOn,hscope,hscope',hscheme,hvalue]
   exact congrArg Prod.fst
    (hinj (i,d) (get_eq_some_iff.mp hd) (j,e) (get_eq_some_iff.mp he) hkey)
 · intro hdistinct x hx y hy hkey
   simp only[Function.comp_apply,identityKey,exportedRow,exportedDeviceOn,
    Prod.mk.injEq] at hkey
   obtain ⟨hscheme,hscope,hvalue⟩:=hkey
   have hx':=get_eq_some_iff.mpr hx
   have hy':=get_eq_some_iff.mpr hy
   have hid:x.1=y.1:=by
    cases hkind:x.2.identityScope with
    | global=>
     refine h.identity x.1 y.1 x.2 y.2 hx' hy' ?_
     simp[sameIdentity,←hscope,hscheme,hvalue,hkind]
    | host=>
     exact hdistinct x.1 y.1 x.2 y.2 hx' hy' hkind (hscope ▸ hkind) hscheme hvalue
   exact inj_on_of_nodup_map t.devices.nodup hx hy hid
end

lemma importable_of_export (hrun:∀i d,t.devices.get i=some d→
  env.assertRunnable d.packId d.platformId=.runnable)
 (hu:Target t u)(hb:buildExportBundle t now=some b):Importable env u b where
 portable:=export_portable h hb
 vacant:=hu.vacant
 runnable d hd:=by
  obtain ⟨i,row,name,hrow,-,rfl⟩:=exists_row h hb hd
  exact hrun i row hrow
 hosts d hd:=by
  obtain ⟨i,row,name,-,hname,rfl⟩:=exists_row h hb hd
  exact (hu.same name).mp ⟨row.hostId,hname⟩

/-- The suggested host has the name of the original one when no other name agrees up to case. -/
lemma suggested_hostname (hnames:DistinctHostnames env t)
 (hrun:∀i d,t.devices.get i=some d→env.assertRunnable d.packId d.platformId=.runnable)
 (hu:Target t u)(hb:buildExportBundle t now=some b){d:ExportedDevice}
 (hd:d∈b.devices):(suggested env u d).hostname=d.originalHost.hostname:=by
 obtain ⟨hpick,hhost⟩:=(importable_of_export h hrun hu hb).suggested hd
 obtain ⟨i,row,name,hrow,hname,rfl⟩:=exists_row h hb hd
 obtain ⟨j,hj⟩:=(hu.same _).mpr ⟨_,hhost⟩
 have hcase:=(mem_of_pickHostSuggestion hpick).2
 obtain rfl:=hnames i row name j _ hrow hname hj hcase
 exact some.inj (hj.symm.trans hname)

lemma sameBundle_iff (hrun:∀i d,t.devices.get i=some d→
  env.assertRunnable d.packId d.platformId=.runnable)
 (hu:Target t u)(hb:buildExportBundle t now=some b)(hnodup:(b.devices.map identityKey).Nodup):
 (∃preview v result,validateBundle env u b=.ok preview∧
  commitImport env u now ⟨b,preview.bundleHash,acceptSuggestions preview⟩ = .ok (v,result)∧
  result.created.map Prod.fst=List.range b.devices.length∧
  result.skipped=[]∧result.failed=[]∧result.membershipsSkipped=[]∧
  ∃b',buildExportBundle v now=some b'∧SameBundle b b')↔
 ((b.devices.map (rehosted env u)).map withoutHostId).Perm (b.devices.map withoutHostId):=by
 have himportable:=importable_of_export h hrun hu hb
 obtain ⟨preview,hvalidate,hcommit⟩:=commitImport_eq now himportable hnodup
 have hhosts:∀i d,(imported env u b now).devices.get i=some d→
   ∃name,(imported env u b now).hosts.get d.hostId=some name:=by
  intro i d hd
  obtain ⟨d',hd',rfl⟩:=(get_deviceRows hu.vacant).mp hd
  exact ⟨_,(himportable.suggested (of_mem_zip hd').1).2⟩
 obtain ⟨groups,devices,hexport,hgroups,hdevices⟩:=
  buildExportBundle_eq now hhosts
 have hdevices':=hdevices.trans (exportedDevices_perm himportable)
 have hgroups':=hgroups.trans (exportedGroups_perm himportable rfl rfl)
 constructor
 · rintro ⟨preview',v,result,hvalidate',hcommit',-,-,-,-,b',hb',hsame⟩
   obtain rfl:=Except.ok.inj (hvalidate.symm.trans hvalidate')
   obtain ⟨rfl,rfl⟩:=Prod.mk.inj (Except.ok.inj (hcommit.symm.trans hcommit'))
   obtain rfl:=some.inj (hexport.symm.trans hb')
   exact ((hdevices'.map withoutHostId).symm).trans hsame.2
 · intro hperm
   have hcreated:(createdRows env u b now).map Prod.fst=List.range b.devices.length:=by
    rw[createdRows,map_fst_zip (by simp[length_deviceRows])]
   exact ⟨preview,_,_,hvalidate,hcommit,hcreated,rfl,rfl,rfl,_,hexport,hgroups',
    (hdevices'.map withoutHostId).trans hperm⟩
end
end

def exchangeHosts (hosts:Dict HostId String)(i j:HostId):Dict HostId String where
 entries:=hosts.entries.map fun e=>(Equiv.swap i j e.1,e.2)
 nodup:=by
  rw [List.map_map]
  change (hosts.entries.map (Equiv.swap i j ∘ Prod.fst)).Nodup
  rw [←List.map_map]
  exact hosts.nodup.map (Equiv.swap i j).injective

lemma get_exchangeHosts (hosts:Dict HostId String)(i j k:HostId):
 (exchangeHosts hosts i j).get k=hosts.get (Equiv.swap i j k):=by
 ext name
 rw[get_eq_some_iff,get_eq_some_iff]
 constructor
 · intro hmem
   obtain ⟨e,he,heq⟩:=List.mem_map.mp hmem
   obtain ⟨rfl,rfl⟩:=Prod.mk.inj heq
   rwa [Equiv.swap_apply_self]
 · intro hmem
   exact List.mem_map.mpr ⟨_,hmem,by simp⟩

def exchanged (t:Tables)(i j:HostId):Tables:=
 ⟨exchangeHosts t.hosts i j,.empty,.empty,[],[]⟩

lemma target_exchanged (h:Constraints t)(i j:HostId):Target t (exchanged t i j) where
 vacant:=⟨rfl,rfl,rfl,rfl⟩
 hostname k l name hk hl:=by
  have hk':=(get_exchangeHosts t.hosts i j k).symm.trans hk
  have hl':=(get_exchangeHosts t.hosts i j l).symm.trans hl
  exact (Equiv.swap i j).injective (h.hostname _ _ name hk' hl')
 same name:=by
  constructor
  · rintro ⟨k,hk⟩
    refine ⟨Equiv.swap i j k,(get_exchangeHosts t.hosts i j _).trans ?_⟩
    rwa [Equiv.swap_apply_self]
  · rintro ⟨k,hk⟩
    exact ⟨_,(get_exchangeHosts t.hosts i j k).symm.trans hk⟩

/-- With several names that agree up to case, the tie-break goes by the original host's id. -/
lemma pickHostSuggestion_of_id {d:ExportedDevice}{hosts:List HostSuggestion}
 {host:HostSuggestion}(other:HostSuggestion)(hid:d.originalHost.hostId=some host.id)
 (hhost:host∈hosts)(hother:other∈hosts)(hne:other≠host)
 (hcase:env.lower host.hostname=env.lower d.originalHost.hostname)
 (hcase':env.lower other.hostname=env.lower d.originalHost.hostname)
 (hunique:∀h∈hosts,h.id=host.id→h=host):pickHostSuggestion env d hosts=some host:=by
 have hmem:host∈hosts.filter fun h=>
   env.lower h.hostname=env.lower d.originalHost.hostname:=by simp[hhost,hcase]
 have hmem':other∈hosts.filter fun h=>
   env.lower h.hostname=env.lower d.originalHost.hostname:=by simp[hother,hcase']
 unfold pickHostSuggestion
 simp only[hid]
 split
 · rename_i hnone
   rw[hnone] at hmem
   cases hmem
 · rename_i only honly
   rw[honly,mem_singleton] at hmem hmem'
   exact absurd (hmem'.trans hmem.symm) hne
 · cases hfirst:(hosts.filter fun h=>env.lower h.hostname =
     env.lower d.originalHost.hostname).find? fun h=>h.id=host.id with
   | none=>
    have:=find?_eq_none.mp hfirst _ hmem
    simp at this
   | some h=>
    have hsame:h.id=host.id:=by simpa using find?_some hfirst
    have hthere:=mem_of_mem_filter (mem_of_find?_eq_some hfirst)
    rw[getD_some,hunique h hthere hsame]

lemma suggested_exchanged {i:DeviceId}{row:DeviceRow}{name other:String}{j:HostId}
 (hname:t.hosts.get row.hostId=some name)(hother:t.hosts.get j=some other)
 (hcase:env.lower other=env.lower name)(hne:j≠row.hostId):
 suggested env (exchanged t row.hostId j) (exportedDeviceOn t i row name) = ⟨row.hostId,other⟩:=by
 have hthere:(exchanged t row.hostId j).hosts.get row.hostId=some other:=by
  simpa[exchanged,get_exchangeHosts] using hother
 have hhere:(exchanged t row.hostId j).hosts.get j=some name:=by
  simpa[exchanged,get_exchangeHosts] using hname
 have hpick:pickHostSuggestion env (exportedDeviceOn t i row name)
   (loadAvailableHosts (exchanged t row.hostId j))=some ⟨row.hostId,other⟩:=by
  refine pickHostSuggestion_of_id ⟨j,name⟩ rfl (mem_loadAvailableHosts.mpr hthere)
   (mem_loadAvailableHosts.mpr hhere) (fun heq=>hne (congrArg HostSuggestion.id heq))
   hcase rfl ?_
  rintro ⟨id,hostname⟩ hmem rfl
  have hhost:=mem_loadAvailableHosts.mp hmem
  obtain rfl:hostname=other:=some.inj (hhost.symm.trans hthere)
  rfl
 simp only[suggested,hpick,getD_some]

/-- Export and import give every database back to every target exactly when no two devices of
host scope share an identity and no host that carries a device has a namesake up to case. -/
theorem roundTrips_iff (env:Env) (t:Tables) (h:Constraints t)
 (hrun:∀i d,t.devices.get i=some d→
  env.assertRunnable d.packId d.platformId=.runnable):
 (∀u,Target t u→RoundTrips env t u)↔
  DistinctHostIdentities t∧DistinctHostnames env t:=by
 constructor
 · intro htrips
   have hdistinct:DistinctHostIdentities t:=by
    have hu:=target_exchanged h 0 0
    obtain ⟨b,preview,v,result,hb,-,hcommit,-,hskipped,-⟩:=htrips _ hu 0
    rw[←identityKeys_nodup_iff h hb,nodup_iff_count_le_one]
    intro key
    by_contra hcount
    have hmem:key∈b.devices.map identityKey:=
     count_pos_iff.mp (by omega)
    obtain ⟨d,hd,rfl⟩:=List.mem_map.mp hmem
    refine skipped_of_duplicate (importable_of_export h hrun hu hb) hd ?_ hcommit hskipped
    exact mem_filter.mpr ⟨hmem,by simpa using hcount⟩
   refine ⟨hdistinct,fun i row name j other hrow hname hother hcase=>?_⟩
   by_contra hne
   have hu:=target_exchanged h row.hostId j
   obtain ⟨b,preview,v,result,hb,hround⟩:=htrips _ hu 0
   have hnodup:=(identityKeys_nodup_iff h hb).mpr hdistinct
   have hperm:=(sameBundle_iff h hrun hu hb hnodup).mp ⟨preview,v,result,hround⟩
   have hmem:=mem_of_row h hb hrow hname
   -- the exported device comes back from the one device with its identity: itself, moved
   obtain ⟨d,hd,hsame⟩:=List.mem_map.mp
    (hperm.mem_iff.mpr (List.mem_map_of_mem (f:=withoutHostId) hmem))
   obtain ⟨d',hd',rfl⟩:=List.mem_map.mp hd
   have hkey:identityKey d'=identityKey (exportedDeviceOn t i row name):=by
    have hboth:=congrArg identityKey hsame
    exact hboth
   obtain rfl:=inj_on_of_nodup_map hnodup hd' hmem hkey
   have hhostname:(suggested env (exchanged t row.hostId j)
     (exportedDeviceOn t i row name)).hostname=name:=
    congrArg (fun d=>d.originalHost.hostname) hsame
   rw[suggested_exchanged hname hother hcase hne] at hhostname
   exact hne (h.hostname j row.hostId name (hhostname ▸ hother) hname)
 · rintro ⟨hdistinct,hnames⟩ u hu now
   obtain ⟨groups,devices,hb,-,-⟩:=buildExportBundle_eq now h.host
   have hnodup:=(identityKeys_nodup_iff h hb).mpr hdistinct
   have hkept:((ExportBundle.devices ⟨schemaVersion,now,groups,devices⟩).map
     (rehosted env u)).map withoutHostId=devices.map withoutHostId:=by
    rw[List.map_map]
    refine map_congr_left fun d hd=>?_
    have hhostname:=suggested_hostname h hnames hrun hu hb hd
    simp only[Function.comp_apply,withoutHostId,rehosted,hhostname]
   obtain ⟨preview,v,result,hround⟩:=
    (sameBundle_iff h hrun hu hb hnodup).mpr (.of_eq hkept)
   exact ⟨_,preview,v,result,hb,hround⟩

lemma constraints_of_entries (hhostname:∀a∈t.hosts.entries,∀b∈t.hosts.entries,a.2=b.2→a.1=b.1)
 (hhost:∀e∈t.devices.entries,(t.hosts.get e.2.hostId).isSome)
 (hidentity:∀a∈t.devices.entries,∀b∈t.devices.entries,sameIdentity a.2 b.2→a.1=b.1)
 (hkey:∀a∈t.groups.entries,∀b∈t.groups.entries,a.2.key=b.2.key→a.1=b.1)
 (hmemberOf:t.memberOf=[]):Constraints t where
 hostname i j name hi hj:=hhostname (i,name) (get_eq_some_iff.mp hi) (j,name)
  (get_eq_some_iff.mp hj) rfl
 host i d hd:=isSome_iff_exists.mp (hhost (i,d) (get_eq_some_iff.mp hd))
 identity i j d e hd he:=hidentity (i,d) (get_eq_some_iff.mp hd) (j,e)
  (get_eq_some_iff.mp he)
 key i j g h hg hh:=hkey (i,g) (get_eq_some_iff.mp hg) (j,h)
  (get_eq_some_iff.mp hh)
 memberOf:=by simp[hmemberOf]

def lowerCase (name:String):String:=String.ofList (name.toList.map Char.toLower)
def everyPackRuns:Env:=⟨lowerCase,fun _ _=>.runnable,fun _=> "hash"⟩
def emulator (value:String)(host:HostId):DeviceRow:=
 ⟨"appium-uiautomator2", "android", "avd",.host,value,value,.emulator,.virtual,none,host,
  none,.empty,0⟩
def twoHosts (first second:String):Tables where
 hosts:=Dict.ofList [(1, "lab-1"),(2, "lab-2")]
 devices:=Dict.ofList [(1,emulator first 1),(2,emulator second 2)]
 groups:=Dict.ofList [(1,⟨"nightly", "Nightly",none,.static,none⟩)]
 memberOf:=[]
 memberships:=[(1,1),(1,2)]

/-- Distinct emulators survive even a target that numbers the two hosts the other way round. -/
theorem roundTrips_iff_twoHosts:
 RoundTrips everyPackRuns (twoHosts "Pixel_7" "Pixel_8")
  (exchanged (twoHosts "Pixel_7" "Pixel_8") 1 2):=by
 have hconstraints:Constraints (twoHosts "Pixel_7" "Pixel_8"):=
  constraints_of_entries (by decide) (by decide) (by decide) (by decide) rfl
 have hiff:=roundTrips_iff everyPackRuns (twoHosts "Pixel_7" "Pixel_8") hconstraints
  fun _ _ _=>rfl
 refine hiff.mpr ⟨?_,?_⟩ _ (target_exchanged hconstraints 1 2)
 · intro i j d e hd he
   have hall:∀a∈(twoHosts "Pixel_7" "Pixel_8").devices.entries,
     ∀b∈(twoHosts "Pixel_7" "Pixel_8").devices.entries,
     a.2.identityValue=b.2.identityValue→ a.1=b.1:=by decide
   intro _ _ _ hvalue
   exact hall (i,d) (get_eq_some_iff.mp hd) (j,e) (get_eq_some_iff.mp he) hvalue
 · intro i d name j other _ hname hother hcase
   have hall:∀a∈(twoHosts "Pixel_7" "Pixel_8").hosts.entries,
     ∀b∈(twoHosts "Pixel_7" "Pixel_8").hosts.entries,
     lowerCase a.2=lowerCase b.2→ a.1=b.1:=by decide
   exact hall (j,other) (get_eq_some_iff.mp hother) (d.hostId,name)
    (get_eq_some_iff.mp hname) hcase

/-- The unique index of host-scoped identities counts the host, the bundle's key does not. -/
theorem twin_emulators_skipped:∃b preview v result,
 Constraints (twoHosts "Pixel_7" "Pixel_7")∧
 Target (twoHosts "Pixel_7" "Pixel_7") (exchanged (twoHosts "Pixel_7" "Pixel_7") 1 1)∧
 buildExportBundle (twoHosts "Pixel_7" "Pixel_7") 0=some b∧
 validateBundle everyPackRuns (exchanged (twoHosts "Pixel_7" "Pixel_7") 1 1) b=.ok preview∧
 commitImport everyPackRuns (exchanged (twoHosts "Pixel_7" "Pixel_7") 1 1) 0
  ⟨b,preview.bundleHash,acceptSuggestions preview⟩=.ok (v,result)∧
 result.created=[]∧
 result.skipped=[(0, "duplicate in bundle"),(1, "duplicate in bundle")]:=by
 have hconstraints:Constraints (twoHosts "Pixel_7" "Pixel_7"):=
  constraints_of_entries (by decide) (by decide) (by decide) (by decide) rfl
 exact ⟨_,_,_,_,hconstraints,target_exchanged hconstraints 1 1,rfl,rfl,rfl,rfl,rfl⟩
end GridFleet.Portability
