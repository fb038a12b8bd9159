import GridFleet.FleetRows
import GridFleet.ReleaseOrdering
/-! A device is ready once its pack's selected release declares its platform, every setup field the
platform requires is filled in, and a verification has succeeded. -/
namespace GridFleet.Readiness

structure FieldSchema where
 id:String
 requiredForSession:Bool
 requiredForSessionWhen:JsonObject
 default:Json

structure PlatformData where
 deviceFieldsSchema:List FieldSchema
 deviceTypeOverrides:Dict String (List FieldSchema)

structure PackPlatformView where
 manifestPlatformId:String
 data:PlatformData

structure PackReleaseView where
 release:String
 platforms:List PackPlatformView

structure PackView where
 currentRelease:Option String
 releases:List PackReleaseView

abbrev Catalog:=Dict String PackView

inductive ReadinessState where
 | setupRequired | verificationRequired | verified
 deriving DecidableEq

structure DeviceReadiness where
 readinessState:ReadinessState
 missingSetupFields:List String

/-- A JSON number as Python compares it: booleans and integral floats are integers. -/
def number:Json→Option (ℤ ⊕ String)
 | .bool b=>some (.inl (if b then 1 else 0))
 | .int n=>some (.inl n)
 | .float text=>some (((PythonNumbers.floatInt text.toList).map Sum.inl).getD (.inr text))
 | _=>none

def looseEq (a b:Json):Bool:=
 match number a,number b with
 | some x,some y=>x=y
 | _,_=>a=b

def truthy:Json→Bool
 | .null=>false
 | .bool b=>b
 | .int n=>n≠0
 | .float text=>number (.float text)≠some (.inl 0)
 | .str text=>text ≠ ""
 | .arr items=>!items.isEmpty
 | .obj fields=>!fields.isEmpty

def deviceFieldsForType (data:PlatformData)(deviceType:DeviceType):List FieldSchema:=
 match data.deviceTypeOverrides.get deviceType.value with
 | some (field::fields)=>field::fields
 | some [] | none=>data.deviceFieldsSchema

/-- A field may be required only while other configuration values match; an unset one counts with
its schema default. -/
def fieldRequiredForSession (field:FieldSchema)(config:JsonObject)(fields:List FieldSchema):Bool:=
 field.requiredForSession||
  (!field.requiredForSessionWhen.entries.isEmpty&&
   field.requiredForSessionWhen.entries.all fun (key,expected)=>
    let default:=((fields.find? fun f=>f.id=key).map FieldSchema.default).getD .null
    looseEq ((config.get key).getD default) expected)

def textTruthy (text:Option String):Bool:=text.any (· ≠ "")
def fieldValueTruthy (device:Device)(config:JsonObject)(id:String):Bool:=
 if id = "connection_target" then textTruthy device.connectionTarget
 else if id = "identity_value" then textTruthy (some device.identityValue)
 else if id = "ip_address" then textTruthy device.ipAddress
 else if id = "os_version" then textTruthy (some device.osVersion)
 else (config.get id).any truthy

def assessDeviceFromRequiredFields (device:Device)(fields:List FieldSchema):DeviceReadiness:=
 let config:=device.deviceConfig.getD Dict.empty
 let missing:=(fields.filter fun field=>
  fieldRequiredForSession field config fields&&!fieldValueTruthy device config field.id).map
   FieldSchema.id
 if missing≠[] then ⟨.setupRequired,missing⟩
 else if device.verifiedAt=none then ⟨.verificationRequired,[]⟩
 else ⟨.verified,[]⟩

def assessDeviceWithPack (device:Device)(pack:Option PackView):DeviceReadiness:=
 if device.packId = "" ∨ device.platformId = "" then ⟨.setupRequired,["driver_pack"]⟩
 else
  let release:=pack.bind fun p=>
   ReleaseOrdering.selectedRelease PackReleaseView.release p.releases p.currentRelease
  let platform:=release.bind fun r=>
   r.platforms.find? fun row=>row.manifestPlatformId=device.platformId
  match platform with
  | none=>⟨.setupRequired,["driver_pack"]⟩
  | some row=>
   assessDeviceFromRequiredFields device (deviceFieldsForType row.data device.deviceType)

def loadPackCatalog (packs:Catalog)(packIds:List String):Catalog:=
 packs.filter fun id _=>decide (id ≠ "" ∧ id∈packIds)

/-- `preloaded` is the catalog of the enclosing block, `packs` the one the caller passes; a pack
missing from either is read again. -/
def assessDeviceAsync (stored:Catalog)(preloaded packs:Option Catalog)(device:Device):
 DeviceReadiness:=
 if device.packId = "" ∨ device.platformId = "" then assessDeviceWithPack device none
 else
  let ownPack:=(loadPackCatalog stored [device.packId]).get device.packId
  match packs.or preloaded with
  | none=>assessDeviceWithPack device ownPack
  | some supplied=>assessDeviceWithPack device ((supplied.get device.packId).or ownPack)

def isReadyForUseAsync (stored:Catalog)(preloaded packs:Option Catalog)(device:Device):Bool:=
 (assessDeviceAsync stored preloaded packs device).readinessState=.verified

/-- A supplied catalog is current when what it holds is what is stored. -/
def CurrentCatalog (stored:Catalog)(supplied:Option Catalog):Prop:=
 ∀catalog∈supplied,∀id pack,catalog.get id=some pack→stored.get id=some pack

lemma get_loadPackCatalog (stored:Catalog){ids:List String}{id:String}(hid:id ≠ "")
 (hmem:id∈ids):(loadPackCatalog stored ids).get id=stored.get id:=by
 unfold loadPackCatalog
 rw[Dict.get_filter]
 cases stored.get id with
 | none=>rfl
 | some=>simp[hid,hmem]
lemma currentCatalog_none (stored:Catalog):CurrentCatalog stored none:=by
 intro catalog hmem
 cases hmem
lemma currentCatalog_loadPackCatalog (stored:Catalog)(ids:List String):
 CurrentCatalog stored (some (loadPackCatalog stored ids)):=by
 rintro catalog ⟨rfl⟩ id pack hget
 rw[loadPackCatalog,Dict.get_filter,Option.filter_eq_some_iff] at hget
 exact hget.1
lemma CurrentCatalog.or {stored:Catalog}{packs preloaded:Option Catalog}
 (hpacks:CurrentCatalog stored packs)(hpreloaded:CurrentCatalog stored preloaded):
 CurrentCatalog stored (packs.or preloaded):=by
 cases packs with
 | none=>exact hpreloaded
 | some=>exact hpacks
lemma assessDeviceAsync_eq {stored:Catalog}{preloaded packs:Option Catalog}
 (hpreloaded:CurrentCatalog stored preloaded)(hpacks:CurrentCatalog stored packs)(device:Device):
 assessDeviceAsync stored preloaded packs device =
  assessDeviceWithPack device (stored.get device.packId):=by
 unfold assessDeviceAsync
 split
 · rename_i hempty
   simp[assessDeviceWithPack,hempty]
 · rename_i hnonempty
   have hid:device.packId ≠ "" :=fun h=>hnonempty (.inl h)
   have hown:=get_loadPackCatalog stored hid (List.mem_singleton_self _)
   have hcurrent:=hpacks.or hpreloaded
   simp only[hown]
   cases hsupplied:packs.or preloaded with
   | none=>rfl
   | some supplied=>
    cases hget:supplied.get device.packId with
    | none=>simp[hget]
    | some pack=>
     have hstored:=hcurrent supplied hsupplied device.packId pack hget
     simp[hget,hstored]
lemma verifiedAt_of_assessDeviceFromRequiredFields {device:Device}{fields:List FieldSchema}
 (h:(assessDeviceFromRequiredFields device fields).readinessState=.verified):
 device.verifiedAt≠none:=by
 intro hnone
 unfold assessDeviceFromRequiredFields at h
 simp only[hnone] at h
 split at h <;> cases h
lemma verifiedAt_of_assessDeviceWithPack {device:Device}{pack:Option PackView}
 (h:(assessDeviceWithPack device pack).readinessState=.verified):device.verifiedAt≠none:=by
 unfold assessDeviceWithPack at h
 split at h
 · cases h
 · dsimp only at h
   split at h
   · cases h
   · exact verifiedAt_of_assessDeviceFromRequiredFields h
end GridFleet.Readiness
