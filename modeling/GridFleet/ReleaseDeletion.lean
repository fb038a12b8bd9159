import GridFleet.ReleaseOrdering
import GridFleet.SqlLogic
import Mathlib.Data.List.Induction
import Mathlib.Data.List.Lex
import Mathlib.Data.List.Perm.Subperm
/-! The guard compares the deleted release with the union of all others, while devices resolve their
platform through the one release that is selected afterwards. -/
namespace GridFleet.ReleaseDeletion
open ReleaseOrdering List Option

structure Release where
 id:ℕ
 release:String
 platforms:List String
 deriving DecidableEq

/-- A pack with its rows, under the key and the unique constraint of the table. -/
structure Pack where
 releases:List Release
 currentRelease:Option String
 ids:(releases.map Release.id).Nodup
 names:(releases.map Release.release).Nodup

inductive DeleteError where
 | notFound
 | onlyRelease
 | installed (hosts:ℕ)
 | platformsInUse (devices:ℕ)

def Pack.remaining (pack:Pack)(target:Release):List Release:=
 pack.releases.filter fun other=>other.id≠target.id
def Pack.delete (pack:Pack)(target:Release)(currentRelease:Option String):Pack where
 releases:=pack.remaining target
 currentRelease:=currentRelease
 ids:=pack.ids.sublist (filter_sublist.map _)
 names:=pack.names.sublist (filter_sublist.map _)

/-- `devices` are the platform ids of the pack's devices. -/
def deleteRelease (pack:Pack)(installedCount:ℕ)(devices:List String)(release:String):
 Except DeleteError Pack:=
 match pack.releases.find? fun row=>row.release=release with
 | none=>.error .notFound
 | some target=>
  if pack.releases.length=1 then .error .onlyRelease
  else if installedCount≠0 then .error (.installed installedCount)
  else
   let remainingPlatforms:=(pack.remaining target).flatMap Release.platforms
   let orphaned:=target.platforms.filter fun platform=>platform ∉ remainingPlatforms
   let using_:=devices.filter fun platform=>platform∈orphaned
   if using_≠[] then .error (.platformsInUse using_.length)
   else .ok <| pack.delete target <|
    if pack.currentRelease=some release then
     (selectedRelease Release.release (pack.remaining target) none).map Release.release
    else pack.currentRelease

def Pack.selected (pack:Pack):Option Release:=
 selectedRelease Release.release pack.releases pack.currentRelease
def Pack.Resolvable (pack:Pack)(platform:String):Prop:=
 ∃release∈pack.selected,platform∈release.platforms

section
variable {l:List Release}{s:Release}

lemma latestRelease_concat (r:Release):latestRelease Release.release (l++[r]) =
 some (match latestRelease Release.release l with
  | none=>r
  | some best=>if parseReleaseKey best.release<parseReleaseKey r.release then r else best):=by
 cases l with
 | nil=>rfl
 | cons=>simp[latestRelease,foldl_append]
lemma latestRelease_eq_none:latestRelease Release.release l=none↔l=[]:=by
 cases l <;> simp[latestRelease]
lemma latestRelease_spec (h:latestRelease Release.release l=some s):
 s∈l∧∀x∈l,parseReleaseKey x.release≤parseReleaseKey s.release:=by
 induction l using List.reverseRecOn generalizing s with
 | nil=>simp[latestRelease] at h
 | append_singleton l r ih=>
  rw[latestRelease_concat,some.injEq] at h
  cases hbest:latestRelease Release.release l with
  | none=>simp_all [latestRelease_eq_none]
  | some best=>
   obtain ⟨hmem,hmax⟩:=ih hbest
   simp only[hbest] at h
   by_cases hlt:parseReleaseKey best.release<parseReleaseKey r.release
   · rw[if_pos hlt] at h
     subst h
     simpa[or_imp,forall_and] using fun x hx=>(hmax x hx).trans hlt.le
   · rw[if_neg hlt] at h
     subst h
     simpa[or_imp,forall_and,hmem,not_lt.mp hlt] using hmax

/-- The first of the greatest names stays so when others go. -/
lemma latestRelease_filter {p:Release→Bool}(hp:p s)(h:latestRelease Release.release l=some s):
 latestRelease Release.release (l.filter p)=some s:=by
 induction l using List.reverseRecOn generalizing s with
 | nil=>simp[latestRelease] at h
 | append_singleton l r ih=>
  rw[latestRelease_concat,some.injEq] at h
  cases hbest:latestRelease Release.release l with
  | none=>
   simp only[hbest] at h
   rw[latestRelease_eq_none.mp hbest,h,nil_append,filter_singleton,hp]
   rfl
  | some best=>
   simp only[hbest] at h
   by_cases hlt:parseReleaseKey best.release<parseReleaseKey r.release
   · rw[if_pos hlt] at h
     subst h
     rw[filter_append,filter_singleton,hp,cond_true,latestRelease_concat]
     cases hkept:latestRelease Release.release (l.filter p) with
     | none=>rfl
     | some kept=>
      have hle:=(latestRelease_spec hbest).2 kept
       (mem_of_mem_filter (latestRelease_spec hkept).1)
      simp[hle.trans_lt hlt]
   · rw[if_neg hlt] at h
     subst h
     have hkept:=ih hp hbest
     by_cases hr:p r
     · simp[filter_append,hr,latestRelease_concat,hkept,hlt]
     · simp[filter_append,hr,hkept]
end

variable {pack after:Pack}{installedCount:ℕ}{devices:List String}{release:String}

def Pack.Current (pack:Pack)(s:Release):Prop:=
 s∈pack.releases∧pack.currentRelease=some s.release∧s.release ≠ ""

lemma selected_of_current {s:Release}(h:pack.Current s):pack.selected=some s:=by
 obtain ⟨hmem,hcurrent,hne⟩:=h
 simp[Pack.selected,selectedRelease,hcurrent,(Sql.find_eq_some_iff pack.names).mpr ⟨hmem,rfl⟩]
lemma selected_of_not_current (h:∀s,¬pack.Current s):
 pack.selected=latestRelease Release.release pack.releases:=by
 unfold Pack.selected selectedRelease
 split
 · rfl
 · rfl
 · rename_i current hne hcurrent
   split
   · rename_i r hfound
     obtain ⟨hmem,rfl⟩:=(Sql.find_eq_some_iff pack.names).mp hfound
     exact absurd ⟨hmem,hcurrent,hne⟩ (h r)
   · rfl
lemma exists_selected {r:Release}(hr:r∈pack.releases):∃s∈pack.releases,pack.selected=some s:=by
 by_cases hcur:∃s,pack.Current s
 · obtain ⟨s,hs⟩:=hcur
   exact ⟨s,hs.1,selected_of_current hs⟩
 · rw[selected_of_not_current fun s hs=>hcur ⟨s,hs⟩]
   obtain ⟨s,hs⟩:=ne_none_iff_exists'.mp
    (mt latestRelease_eq_none.mp (ne_nil_of_mem hr))
   exact ⟨s,(latestRelease_spec hs).1,hs⟩
lemma mem_remaining {target s:Release}(ht:target∈pack.releases):
 s∈pack.remaining target↔s∈pack.releases∧s≠target:=by
 have hid:∀x∈pack.releases,x.id=target.id↔x=target:=fun x hx=>
  ⟨inj_on_of_nodup_map pack.ids hx ht,congrArg _⟩
 simp only[Pack.remaining,mem_filter,decide_eq_true_eq]
 exact and_congr_right fun hs=>not_congr (hid s hs)
lemma selected_delete_latest (target:Release):(pack.delete target
 ((latestRelease Release.release (pack.remaining target)).map Release.release)).selected =
  latestRelease Release.release (pack.remaining target):=by
 cases hnext:latestRelease Release.release (pack.remaining target) with
 | none=>exact (selected_of_not_current fun s hs=>by cases hs.2.1).trans hnext
 | some next=>
  by_cases hempty:next.release = ""
  · refine (selected_of_not_current fun s hs=>hs.2.2 ?_).trans hnext
    rw[←hempty,some.inj (hs.2.1:some next.release=_)]
  · exact selected_of_current ⟨(latestRelease_spec hnext).1,rfl,hempty⟩

lemma selected_deleteRelease (h:deleteRelease pack installedCount devices release=.ok after):
 ∃target∈pack.releases,target.release=release∧pack.remaining target≠[]∧
  after.selected=if pack.selected=some target then
    latestRelease Release.release (pack.remaining target) else pack.selected:=by
 unfold deleteRelease at h
 split at h
 · cases h
 rename_i target htarget
 obtain ⟨hmem,hname⟩:=(Sql.find_eq_some_iff pack.names).mp htarget
 split at h
 · cases h
 rename_i hseveral
 split at h
 · cases h
 dsimp only at h
 split at h
 · cases h
 cases h
 refine ⟨target,hmem,hname,fun hnil=>hseveral ?_,?_⟩
 · have hsub:pack.releases ⊆ [target]:=fun x hx=>by
    by_contra hne
    exact not_mem_nil (hnil ▸ (mem_remaining hmem).mpr ⟨hx,by simpa using hne⟩)
   exact le_antisymm ((List.Nodup.of_map _ pack.ids).subperm hsub).length_le
    (length_pos_of_mem hmem)
 · by_cases hcur:∃s,pack.Current s
   · obtain ⟨s,hs⟩:=hcur
     rw[selected_of_current hs]
     by_cases hst:s=target
     · subst hst
       rw[if_pos (hname ▸ hs.2.1),if_pos rfl]
       exact selected_delete_latest s
     · have hne:pack.currentRelease≠some release:=fun heq=>hst <|
        inj_on_of_nodup_map pack.names hs.1 hmem
         (hname ▸ some.inj (hs.2.1.symm.trans heq))
       rw[if_neg hne,if_neg fun heq=>hst (some.inj heq)]
       exact selected_of_current ⟨(mem_remaining hmem).mpr ⟨hs.1,hst⟩,hs.2⟩
   · have hnext:(pack.delete target (if pack.currentRelease=some release then
       (selectedRelease Release.release (pack.remaining target) none).map Release.release
       else pack.currentRelease)).selected =
        latestRelease Release.release (pack.remaining target):=by
      split
      · exact selected_delete_latest target
      · exact selected_of_not_current fun s hs=>hcur ⟨s,((mem_remaining hmem).mp hs.1).1,hs.2⟩
     rw[hnext,selected_of_not_current fun s hs=>hcur ⟨s,hs⟩]
     split
     · rfl
     · rename_i hst
       cases hlatest:latestRelease Release.release pack.releases with
       | none=>simp[latestRelease_eq_none.mp hlatest] at hmem
       | some s=>
        have hne:s≠target:=fun heq=>hst (heq ▸ hlatest)
        have hkept:=(mem_remaining hmem).mpr ⟨(latestRelease_spec hlatest).1,hne⟩
        exact latestRelease_filter (mem_filter.mp hkept).2 hlatest

/-- The release that is deleted while it is selected has a successor, the first of the greatest names
left, that offers what the devices use of it. -/
def Succeeded (pack:Pack)(devices:List String)(release:String):Prop:=
 ∀selected,pack.selected=some selected→selected.release=release→
  ∀next,latestRelease Release.release (pack.remaining selected)=some next→
   ∀platform∈devices,platform∈selected.platforms→platform∈next.platforms

theorem delete_strands_no_device_iff
 (h:deleteRelease pack installedCount devices release=.ok after):
 ((∀platform∈devices,pack.Resolvable platform→ after.Resolvable platform)∧
  after.selected.isSome)↔Succeeded pack devices release:=by
 obtain ⟨target,hmem,hname,hnonempty,hselected⟩:=selected_deleteRelease h
 obtain ⟨next,hnext⟩:=ne_none_iff_exists'.mp (mt latestRelease_eq_none.mp hnonempty)
 unfold Pack.Resolvable Succeeded
 by_cases hcurrent:pack.selected=some target
 · simp[hselected,hcurrent,hnext,hname]
 · obtain ⟨s,hmemS,hs⟩:=exists_selected hmem
   have hne:s.release≠release:=fun heq=>hcurrent <|
    hs.trans (congrArg some (inj_on_of_nodup_map pack.names hmemS hmem (heq.trans hname.symm)))
   rw[hselected,if_neg hcurrent]
   simp[hs,hne]

def threeReleases:Pack where
 releases:=[⟨1, "1.0",["android_mobile", "android_tv"]⟩,⟨2, "2.0",["android_mobile"]⟩,
  ⟨3, "0.9",["android_tv"]⟩]
 currentRelease:=some "1.0"
 ids:=by decide
 names:=by decide

theorem tv_stranded:∃after,deleteRelease threeReleases 0 ["android_tv"] "1.0" = .ok after∧
 threeReleases.Resolvable "android_tv" ∧ ¬after.Resolvable "android_tv" :=by
 refine ⟨_,rfl,⟨_,rfl,by decide⟩,?_⟩
 rintro ⟨next,hnext,hplatform⟩
 cases hnext
 revert hplatform
 decide

theorem old_release_deleted:∃after,deleteRelease threeReleases 0 ["android_tv"] "0.9" = .ok after∧
 (((∀platform∈["android_tv"],threeReleases.Resolvable platform→ after.Resolvable platform)∧
  after.selected.isSome)↔Succeeded threeReleases ["android_tv"] "0.9"):=by
 have hdeleted:deleteRelease threeReleases 0 ["android_tv"] "0.9" = .ok _:=rfl
 exact ⟨_,hdeleted,delete_strands_no_device_iff hdeleted⟩
end GridFleet.ReleaseDeletion
