import GridFleet.FleetTables
import Mathlib.Data.List.ReduceOption
/-! A session request is a list of candidates, one for each `firstMatch` entry. A candidate constrains
the platform name, a few identity keys and the device groups; the rest is for the driver. -/
namespace GridFleet.CapabilityMatching
open FleetTables Readiness Dict List

abbrev Capabilities:=JsonObject

mutual

/-- Equality as Python decides it: numbers by value, objects whatever the order of their fields. -/
def pyEq:Json→Json→Bool
 | .arr a,.arr b=>pyEqItems a b
 | .obj a,.obj b=>decide (a.length=b.length)&&pyEqFields a b
 | a,b=>looseEq a b

def pyEqItems:List Json→List Json→Bool
 | [],[]=>true
 | a::as,b::bs=>pyEq a b&&pyEqItems as bs
 | [],_::_ | _::_,[]=>false
def pyEqFields:List (String×Json)→List (String×Json)→Bool
 | [],_=>true
 | (key,a)::as,bs=>
  (match bs.lookup key with
   | some b=>pyEq a b
   | none=>false)&&pyEqFields as bs
end

/-- Text functions that no decision depends on: `str(value).lower()`, and the expansion of
`device` variables in a template, which fails on an unset one. -/
structure Text where
 folded:Json→String
 interpolate:String→FleetDevice→Option String

def groupPrefix:String:= "gridfleet:group:"
def legacyTagPrefix:String:= "gridfleet:tag:"
def legacyRunIdCap:String:= "gridfleet:run_id"
def legacyAppiumGridfleetPrefix:String:= "appium:gridfleet:"
def identityKeys:List String:=
 ["appium:udid", "appium:deviceName", "gridfleet:deviceId", "gridfleet:deviceName",
  "appium:platform"]
def hasPrefix (start text:String):Bool:=start.toList.isPrefixOf text.toList
def dropPrefix (start text:String):String:=String.ofList (text.toList.drop start.toList.length)
def isMatchRelevantKey (key:String):Bool:=decide (key∈identityKeys)||hasPrefix groupPrefix key

/-- Lower-case letters, digits and inner hyphens, at most 64 of them. -/
def isValidGroupKey (key:String):Bool:=
 let alphanumeric:=fun c:Char=>('a' ≤ c&&c ≤ 'z')||('0' ≤ c&&c ≤ '9')
 key.toList.length≤64&&key.toList.head?.any alphanumeric&&key.toList.getLast?.any alphanumeric&&
  key.toList.all fun c=>alphanumeric c||c = '-'

inductive CapabilityMergeError where
 | noCapabilities
 | alwaysMatchNotObject
 | firstMatchNotObjects
 | presentInBoth (overlap:List String)
 | tagRemoved
 | invalidGroupKey (key:String)
 | groupNotTrue
 | runIdCapRemoved
 | appiumGridfleetRemoved
 | unknownGroupKey (key:String)

def objectFields:Json→Option (List (String×Json))
 | .obj fields=>some fields
 | _=>none
def mergeEntry (always entry:Capabilities):Except CapabilityMergeError Capabilities:=
 let overlap:=always.keys.filter (· ∈ entry.keys)
 if overlap≠[] then .error (.presentInBoth (Portability.sortedKeys overlap))
 else .ok (Dict.ofList (always.entries++entry.entries))

def mergeCandidates (body:JsonObject):Except CapabilityMergeError (List Capabilities):=
 match (body.get "capabilities").bind objectFields with
 | none=>.error .noCapabilities
 | some fields=>
  let caps:Capabilities:=Dict.ofList fields
  match objectFields ((caps.get "alwaysMatch").getD (.obj [])) with
  | none=>.error .alwaysMatchNotObject
  | some always=>
   match (caps.get "firstMatch").getD (.arr [.obj []]) with
   | .arr first=>
    match first.mapM objectFields with
    | none=>.error .firstMatchNotObjects
    | some []=>[Dict.empty].mapM (mergeEntry (Dict.ofList always))
    | some (entry::entries)=>
     ((entry::entries).map Dict.ofList).mapM (mergeEntry (Dict.ofList always))
   | _=>.error .firstMatchNotObjects

def groupSelector (capability:String×Json):Except CapabilityMergeError (Option String):=
 if hasPrefix legacyTagPrefix capability.1 then .error .tagRemoved
 else if !hasPrefix groupPrefix capability.1 then .ok none
 else
  let key:=dropPrefix groupPrefix capability.1
  if !isValidGroupKey key then .error (.invalidGroupKey key)
  else if capability.2 ≠ .bool true then .error .groupNotTrue
  else .ok (some key)

def requestedGroupKeys (candidates:List Capabilities):Except CapabilityMergeError (List String):=do
 let keys ←(candidates.flatMap Dict.entries).mapM groupSelector
 return keys.reduceOption

/-- The capabilities of retired clients, which a request may no longer carry. -/
def carriesRetired (candidates:List Capabilities):Option CapabilityMergeError:=
 if candidates.any fun c=>decide (legacyRunIdCap∈c.keys) then some .runIdCapRemoved
 else if candidates.any fun c=>c.keys.any (hasPrefix legacyAppiumGridfleetPrefix) then
  some .appiumGridfleetRemoved
 else none

section
variable (text:Text)

def candidateMatchesStereotype (candidate stereotype:Capabilities):Bool:=
 candidate.entries.all fun (key,requested)=>
  if key = "platformName" then
   decide (text.folded ((stereotype.get "platformName").getD (.str ""))=text.folded requested)
  else !isMatchRelevantKey key||(stereotype.get key).any fun value=>pyEq value requested

def matchRelevantBase (template:StereotypeTemplate)(device:FleetDevice):List (String×Json):=
 template.stereotypeBase.entries.filterMap fun (key,value)=>
  if isMatchRelevantKey key then
   match value with
   | .str pattern=>(text.interpolate pattern device).map fun rendered=>(key,.str rendered)
   | value=>some (key,value)
  else none

def groupCaps (keys:List String):List (String×Json):=
 keys.map fun key=>(groupPrefix++key,.bool true)

/-- What the pack and the device itself contribute; nothing of the pack when it has no template. -/
def ownCaps (template:Option StereotypeTemplate)(device:FleetDevice):List (String×Json):=
 (match template with
  | some template=>("platformName",.str template.platformName)::matchRelevantBase text template device
  | none=>[])++[("gridfleet:deviceId",.str (toString device.id))]

def deviceMatchSurface (template:Option StereotypeTemplate)(device:FleetDevice)
 (matchingGroupKeys:List String):Capabilities:=
 Dict.ofList (ownCaps text template device++groupCaps matchingGroupKeys)
end

lemma append_dropPrefix {start text:String}(h:hasPrefix start text):
 start++dropPrefix start text=text:=by
 obtain ⟨rest,hrest⟩:= isPrefixOf_iff_prefix.mp h
 apply String.toList_injective
 rw[dropPrefix,String.toList_append,String.toList_ofList,←hrest,drop_left]
lemma hasPrefix_append (start rest:String):hasPrefix start (start++rest):=by
 rw[hasPrefix,String.toList_append]
 exact isPrefixOf_iff_prefix.mpr (prefix_append _ _)
lemma append_left_injective {start a b:String}(h:start++a=start++b):a=b:=by
 apply String.toList_injective
 have hlist:=congrArg String.toList h
 rw[String.toList_append,String.toList_append] at hlist
 exact append_cancel_left hlist
lemma isValidGroupKey_empty:isValidGroupKey "" = false:=by decide
lemma groupSelector_eq_ok {capability:String×Json}{selected:Option String}
 (h:groupSelector capability=.ok selected):(selected=none∧hasPrefix groupPrefix capability.1=false)∨
  ∃key,selected=some key∧capability=(groupPrefix++key,.bool true)∧isValidGroupKey key:=by
 unfold groupSelector at h
 split at h
 · cases h
 split at h
 · rename_i hplain
   cases h
   exact .inl ⟨rfl,by simpa using hplain⟩
 rename_i hgroup
 dsimp only at h
 split at h
 · cases h
 rename_i hvalid
 split at h
 · cases h
 rename_i htrue
 cases h
 simp only[Bool.not_eq_true,Bool.not_eq_false'] at hgroup hvalid
 refine .inr ⟨_,rfl,Prod.ext ?_ ?_,hvalid⟩
 · exact (append_dropPrefix hgroup).symm
 · simpa using htrue
lemma mem_of_mapM_ok {α β ε:Type}{f:α→Except ε β}{l:List α}{r:List β}(h:l.mapM f=.ok r):
 (∀a∈l,∃b∈r,f a=.ok b)∧∀b∈r,∃a∈l,f a=.ok b:=by
 induction l generalizing r with
 | nil=>
  rw[mapM_nil] at h
  cases h
  simp
 | cons a l ih=>
  rw[mapM_cons] at h
  obtain ⟨b,hfa,h⟩:=bind_eq_ok.mp h
  obtain ⟨_,hrest,⟨⟩⟩:=bind_eq_ok.mp h
  obtain ⟨hfwd,hback⟩:=ih hrest
  constructor
  · rintro a' (_|⟨_,hmem⟩)
    · exact ⟨b,mem_cons_self,hfa⟩
    · obtain ⟨b',hb',hfb⟩:=hfwd a' hmem
      exact ⟨b',mem_cons_of_mem _ hb',hfb⟩
  · rintro b' (_|⟨_,hmem⟩)
    · exact ⟨a,mem_cons_self,hfa⟩
    · obtain ⟨a',ha',hfa'⟩:=hback b' hmem
      exact ⟨a',mem_cons_of_mem _ ha',hfa'⟩
lemma requestedGroupKeys_eq_ok {candidates:List Capabilities}{keys:List String}
 (h:requestedGroupKeys candidates=.ok keys):(∀key∈keys,isValidGroupKey key)∧
  ∀c∈candidates,∀key,groupPrefix++key∈c.keys→key∈keys:=by
 unfold requestedGroupKeys at h
 obtain ⟨_,hmap,⟨⟩⟩:=bind_eq_ok.mp h
 obtain ⟨hfwd,hback⟩:=mem_of_mapM_ok hmap
 constructor
 · intro key hkey
   obtain ⟨capability,-,hselect⟩:=hback (some key) (reduceOption_mem_iff.mp hkey)
   rcases groupSelector_eq_ok hselect with ⟨hnone,-⟩|⟨key',hsome,-,hvalid⟩
   · cases hnone
   · cases hsome
     exact hvalid
 · intro c hc key hmem
   obtain ⟨e,he,hcap⟩:=mem_map.mp hmem
   obtain ⟨selection,hselection,hselect⟩:=hfwd e (mem_flatMap.mpr ⟨c,hc,he⟩)
   rcases groupSelector_eq_ok hselect with ⟨-,hplain⟩|⟨key',rfl,heq,-⟩
   · rw[hcap,hasPrefix_append] at hplain
     cases hplain
   · rw[heq] at hcap
     rw[←append_left_injective hcap]
     exact reduceOption_mem_iff.mpr hselection

section
variable {text:Text}{template:Option StereotypeTemplate}{device:FleetDevice}

lemma get_groupCaps (keys:List String)(capability:String):
 (Dict.ofList (groupCaps keys)).get capability =
  if ∃key∈keys,capability=groupPrefix++key then some (.bool true) else none:=by
 split
 · rename_i hkey
   cases hget:(Dict.ofList (groupCaps keys)).get capability with
   | none=>
    rw[get_ofList,Option.map_eq_none_iff,find?_eq_none] at hget
    obtain ⟨key,hmem,rfl⟩:=hkey
    have:=hget (groupPrefix++key,.bool true)
     (mem_reverse.mpr (mem_map.mpr ⟨key,hmem,rfl⟩))
    simp at this
   | some=>
    obtain ⟨key,-,heq⟩:=mem_map.mp (mem_of_get_ofList hget)
    rw[(Prod.mk.inj heq).2]
 · rename_i hkey
   cases hget:(Dict.ofList (groupCaps keys)).get capability with
   | none=>rfl
   | some=>
    obtain ⟨key,hmem,heq⟩:=mem_map.mp (mem_of_get_ofList hget)
    exact absurd ⟨key,hmem,(Prod.mk.inj heq).1.symm⟩ hkey

/-- Two surfaces of one device show a capability alike unless they differ in the group it names. -/
lemma get_surface_congr {keys keys':List String}{capability:String}
 (h:∀key,capability=groupPrefix++key→(key∈keys↔key∈keys')):
 (deviceMatchSurface text template device keys).get capability =
  (deviceMatchSurface text template device keys').get capability:=by
 unfold deviceMatchSurface
 rw[get_ofList_append,get_ofList_append,get_groupCaps,get_groupCaps]
 have hiff:(∃key∈keys,capability=groupPrefix++key)↔
   ∃key∈keys',capability=groupPrefix++key:=by
  refine exists_congr fun key=>?_
  constructor
  · rintro ⟨hmem,heq⟩
    exact ⟨(h key heq).mp hmem,heq⟩
  · rintro ⟨hmem,heq⟩
    exact ⟨(h key heq).mpr hmem,heq⟩
 simp only[hiff]

lemma matches_surface_congr {keys keys':List String}{candidate:Capabilities}
 (h:∀key,groupPrefix++key∈candidate.keys→(key∈keys↔key∈keys')):
 candidateMatchesStereotype text candidate (deviceMatchSurface text template device keys) =
  candidateMatchesStereotype text candidate (deviceMatchSurface text template device keys'):=by
 unfold candidateMatchesStereotype
 rw[Bool.eq_iff_iff,all_eq_true,all_eq_true]
 refine forall₂_congr ?_
 rintro ⟨capability,requested⟩ he
 have hname:∀key, "platformName" = groupPrefix++key→(key∈keys↔key∈keys'):=by
  intro key heq
  have:=hasPrefix_append groupPrefix key
  rw[←heq] at this
  exact absurd this (by decide)
 have hcap:∀key,capability=groupPrefix++key→(key∈keys↔key∈keys'):=by
  intro key heq
  exact h key (mem_map.mpr ⟨_,he,heq⟩)
 dsimp only
 rw[get_surface_congr hname,get_surface_congr hcap]
end
end GridFleet.CapabilityMatching
