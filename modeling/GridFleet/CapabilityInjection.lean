import GridFleet.CreateSession
/-! The router edits the parsed create-session response in place. Indexing mutably by a string inserts
null under a missing key, turns null into an object first, and panics on every other kind of value. -/
namespace GridFleet.CapabilityInjection
open Option
open StateProjection (Json.field)

/-- What the router uses of `serde_json`: a reader that may reject a text, and a writer of values. -/
structure SerdeJson where
 fromSlice:List UInt8→Option Json
 toVec:Json→Option (List UInt8)
 toVec_isSome:∀v,(toVec v).isSome

inductive Panic where
 | cannotAccessKey (key:String)

/-- `Map::insert`: the value under the key is replaced where it stands, or added. -/
def insert (fields:List (String×Json))(key:String)(value:Json):List (String×Json):=
 match fields with
 | []=>[(key,value)]
 | field::rest=>if field.1=key then (key,value)::rest else field::insert rest key value

lemma lookup_cons (field:String×Json)(rest:List (String×Json))(key:String):
 (field::rest).lookup key=if key=field.1 then some field.2 else rest.lookup key:=by
 obtain ⟨name,value⟩:=field
 by_cases h:key=name
 · simp[h]
 · rw[if_neg h,List.lookup_cons,beq_eq_false_iff_ne.mpr h]
lemma lookup_insert (fields:List (String×Json))(key other:String)(value:Json):
 (insert fields key value).lookup other=if other=key then some value else fields.lookup other:=by
 induction fields with
 | nil=>rw[insert,lookup_cons]
 | cons field _ ih=>
  unfold insert
  by_cases hkey:field.1=key
  · rw[if_pos hkey,lookup_cons,lookup_cons,hkey]
    split <;> rfl
  · rw[if_neg hkey,lookup_cons,lookup_cons,ih]
    by_cases hother:other=field.1
    · simp[hother,hkey]
    · simp[hother]

def indexed (v:Json)(key:String):Except Panic (List (String×Json)):=
 match v with
 | .obj fields=>.ok fields
 | .null=>.ok []
 | _=>.error (.cannotAccessKey key)

/-- `v[key]` as a place: the value there, and the whole once the place is overwritten. -/
def indexMut (v:Json)(key:String):Except Panic (Json×(Json→Json)):=do
 let fields ←indexed v key
 return ((fields.lookup key).getD .null,fun value=>.obj (insert fields key value))

def deviceIdCapability:String:= "gridfleet:deviceId"

def injectDeviceId (serde:SerdeJson)(body:List UInt8)(deviceId:String):Except Panic (List UInt8):=
 match serde.fromSlice body with
 | none=>.ok body
 | some v=>do
  let (value,setValue) ←indexMut v "value"
  let (caps,setCaps) ←indexMut value "capabilities"
  match caps with
  | .obj fields=>
   let injected:=setValue (setCaps (.obj (insert fields deviceIdCapability (.str deviceId))))
   return (serde.toVec injected).getD body
  | _=>return body

def SameExcept (key:String)(v v':Json):Prop:=
 (∃fields,v'=.obj fields)∧∀other,other≠key→Json.field v' other=Json.field v other
def Capabilities (v value caps:Json):Prop:=
 Json.field v "value" = some value∧Json.field value "capabilities" = some caps∧∃fields,caps=.obj fields

/-- `v'` is `v` except that its capabilities name the device. -/
def Injected (deviceId:String)(v v':Json):Prop:=
 ∃value caps value' caps',Capabilities v value caps∧Capabilities v' value' caps'∧
  SameExcept "value" v v'∧SameExcept "capabilities" value value'∧
  SameExcept deviceIdCapability caps caps'∧Json.field caps' deviceIdCapability=some (.str deviceId)

/-- A relayed body: edited where it has capabilities, unchanged otherwise, never lost. -/
def Relayed (serde:SerdeJson)(body:List UInt8)(deviceId:String):Prop:=
 ∃out,injectDeviceId serde body deviceId=.ok out∧
  (∀v value caps,serde.fromSlice body=some v→Capabilities v value caps→
   ∃v',serde.toVec v'=some out∧Injected deviceId v v')∧
  ((∀v value caps,serde.fromSlice body=some v→¬Capabilities v value caps)→ out=body)

def IsPlace (v:Json):Prop:=v=.null∨∃fields,v=.obj fields

lemma sameExcept_insert (fields:List (String×Json))(key:String)(value:Json):
 SameExcept key (.obj fields) (.obj (insert fields key value)):=by
 refine ⟨⟨_,rfl⟩,fun other hne=>?_⟩
 simp[Json.field,lookup_insert,hne]
lemma field_insert (fields:List (String×Json))(key:String)(value:Json):
 Json.field (.obj (insert fields key value)) key=some value:=by
 simp[Json.field,lookup_insert]
lemma indexMut_error {v:Json}(h:¬IsPlace v)(key:String):
 indexMut v key=.error (.cannotAccessKey key):=by
 cases v with
 | null=>exact absurd (.inl rfl) h
 | obj fields=>exact absurd (.inr ⟨fields,rfl⟩) h
 | bool | int | float | str | arr=>rfl
lemma indexMut_of_isPlace {v:Json}(h:IsPlace v)(key:String):∃fields,
 indexMut v key=.ok ((Json.field v key).getD .null,fun value=>.obj (insert fields key value))∧
  (∀other,Json.field v other=Json.field (.obj fields) other):=by
 rcases h with rfl|⟨fields,rfl⟩
 · exact ⟨[],rfl,fun _=>rfl⟩
 · exact ⟨fields,rfl,fun _=>rfl⟩

section
variable {serde:SerdeJson}{body:List UInt8}{v:Json}(deviceId:String)

lemma injectDeviceId_of_places (hv:serde.fromSlice body=some v)(hplace:IsPlace v)
 (hvalue:IsPlace ((Json.field v "value").getD .null)):∃outer inner:List (String×Json),
  (∀other,Json.field v other=Json.field (.obj outer) other)∧
  (∀other,Json.field ((Json.field v "value").getD .null) other=Json.field (.obj inner) other)∧
  injectDeviceId serde body deviceId =
   match (Json.field ((Json.field v "value").getD .null) "capabilities").getD .null with
    | .obj fields=>.ok ((serde.toVec (.obj (insert outer "value" (.obj (insert inner "capabilities"
      (.obj (insert fields deviceIdCapability (.str deviceId)))))))).getD body)
    | _=>.ok body:=by
 obtain ⟨outer,houter,hsame⟩:=indexMut_of_isPlace hplace "value"
 obtain ⟨inner,hinner,hsame'⟩:=indexMut_of_isPlace hvalue "capabilities"
 refine ⟨outer,inner,hsame,hsame',?_⟩
 simp only[injectDeviceId,hv,houter,hinner,bind,Except.bind]
 rfl
lemma injected_insert {value:Json}{outer inner caps:List (String×Json)}
 (hcaps:Capabilities v value (.obj caps))
 (houter:∀other,Json.field v other=Json.field (.obj outer) other)
 (hinner:∀other,Json.field value other=Json.field (.obj inner) other):
 Injected deviceId v (.obj (insert outer "value" (.obj (insert inner "capabilities"
  (.obj (insert caps deviceIdCapability (.str deviceId))))))):=by
 refine ⟨value,_,_,_,hcaps,⟨field_insert _ _ _,field_insert _ _ _,_,rfl⟩,⟨⟨_,rfl⟩,?_⟩,⟨⟨_,rfl⟩,?_⟩,
  sameExcept_insert _ _ _,field_insert _ _ _⟩
 · intro other hne
   rw[houter]
   exact (sameExcept_insert outer "value" _).2 other hne
 · intro other hne
   rw[hinner]
   exact (sameExcept_insert inner "capabilities" _).2 other hne

lemma relayed_of_places (hv:serde.fromSlice body=some v)(hplace:IsPlace v)
 (hvalue:IsPlace ((Json.field v "value").getD .null)):Relayed serde body deviceId:=by
 obtain ⟨outer,inner,houter,hinner,hinject⟩:=injectDeviceId_of_places deviceId hv hplace hvalue
 by_cases hcaps:∃value caps,Capabilities v value caps
 · obtain ⟨value,caps,hcaps⟩:=hcaps
   obtain ⟨hfield,hcapsField,fields,rfl⟩:=hcaps
   rw[hfield,getD_some] at hinner hinject
   rw[hcapsField,getD_some] at hinject
   have hcaps:Capabilities v value (.obj fields):=⟨hfield,hcapsField,fields,rfl⟩
   obtain ⟨out,hout⟩:=isSome_iff_exists.mp (serde.toVec_isSome (.obj (insert outer "value"
    (.obj (insert inner "capabilities" (.obj (insert fields deviceIdCapability (.str deviceId))))))))
   simp only[hout,getD_some] at hinject
   refine ⟨out,hinject,?_,fun hnone=>absurd hcaps (hnone v value _ hv)⟩
   intro v' value' caps' hparsed _
   cases hv.symm.trans hparsed
   exact ⟨_,hout,injected_insert deviceId hcaps houter hinner⟩
 · refine ⟨body,?_,?_,fun _=>rfl⟩
   · rw[hinject]
     split
     · rename_i fields hobj
       refine absurd ⟨(Json.field v "value").getD .null,.obj fields,?_,?_,fields,rfl⟩ hcaps
       · cases hfield:Json.field v "value" with
         | none=>
          rw[hfield] at hobj
          cases hobj
         | some=>rfl
       · cases hfield:Json.field ((Json.field v "value").getD .null) "capabilities" with
         | none=>
          rw[hfield] at hobj
          cases hobj
         | some=>
          rw[hfield] at hobj
          exact congrArg some hobj
     · rfl
   · intro v' value caps hparsed hcaps'
     cases hv.symm.trans hparsed
     exact absurd ⟨value,caps,hcaps'⟩ hcaps
end

theorem relayed_iff (serde:SerdeJson) (body:List UInt8) (deviceId:String):
 Relayed serde body deviceId↔∀v,serde.fromSlice body=some v→
  IsPlace v∧∀value,Json.field v "value" = some value→ IsPlace value:=by
 constructor
 · rintro ⟨out,hout,-,-⟩ v hv
   by_cases hplace:IsPlace v
   · refine ⟨hplace,fun value hfield=>?_⟩
     by_contra hvalue
     obtain ⟨fields,hindex,-⟩:=indexMut_of_isPlace hplace "value"
     rw[hfield,getD_some] at hindex
     simp only[injectDeviceId,hv,hindex,indexMut_error hvalue,bind,Except.bind] at hout
     cases hout
   · simp only[injectDeviceId,hv,indexMut_error hplace,bind,Except.bind] at hout
     cases hout
 · intro h
   cases hv:serde.fromSlice body with
   | none=>
    refine ⟨body,by rw[injectDeviceId,hv],?_,fun _=>rfl⟩
    intro v value caps hparsed
    rw[hv] at hparsed
    cases hparsed
   | some v=>
    obtain ⟨hplace,hvalue⟩:=h v hv
    refine relayed_of_places deviceId hv hplace ?_
    cases hfield:Json.field v "value" with
    | none=>exact .inl rfl
    | some value=>exact hvalue value hfield

def legacyResponse:Json:=.obj [("sessionId",.str "legacy-9"),("value",.str "ok")]
def legacyBody:List UInt8:=
 "\x7b\"sessionId\":\"legacy-9\",\"value\":\"ok\"\x7d".toUTF8.toList

/-- The backend takes the session of a legacy response, and the router panics on it. -/
theorem legacy_response_panics:
 CreateSession.createAndPromote (.response 200 "" (some legacyResponse)) =
   .promote "legacy-9" 200 (some legacyResponse)∧
  (∀(serde:SerdeJson) (body:List UInt8) (deviceId:String),
   serde.fromSlice body=some legacyResponse→
    injectDeviceId serde body deviceId=.error (.cannotAccessKey "capabilities"))∧
  ∃serde:SerdeJson,serde.fromSlice legacyBody=some legacyResponse∧
   ∀body,body≠legacyBody→ serde.fromSlice body=none:=by
 refine ⟨by decide,?_,⟨fun body=>if body=legacyBody then some legacyResponse else none,
  fun _=>some legacyBody,fun _=>rfl⟩,if_pos rfl,fun _ hne=>if_neg hne⟩
 intro serde body deviceId hread
 rw[injectDeviceId,hread]
 rfl
end GridFleet.CapabilityInjection
