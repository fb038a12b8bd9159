import GridFleet.Dict
import GridFleet.SeparatedPath
/-! Where the tarball of a pack release is written and which paths are served back. The root is resolved
once, so no symbolic link stands between it and a file the service wrote. -/
namespace GridFleet.PackStorage
open SeparatedPath List

/-- The two identifiers of a driver-pack manifest; the loader leaves both unrestricted. -/
structure Manifest where
 id:String
 release:String
deriving DecidableEq

inductive PackStorageError where
 | emptySegment (value:String)
 | hashMismatch (target:List String)
 | escapesRoot (resolved root:List String)
deriving DecidableEq

/-- An absolute path without dot segments, as `Path.resolve` returns it. -/
structure ResolvedPath where
 segments:List String
 plain:∀s∈segments, '/' ∉ s.toList∧s ≠ "" ∧ s ≠ "." ∧ s ≠ ".."

def ResolvedPath.str (p:ResolvedPath):List Char:=
 if p.segments=[] then ['/'] else join '/' (p.segments.map String.toList)
def isSafe (c:Char):Bool:=c.isAlphanum||c == '.' || c == '_' || c == '-'
def cleanChar (c:Char):Char:=if isSafe c then c else '_'
def clean (value:String):String:=String.ofList (value.toList.map cleanChar)
def safeSegment (value:String):Except PackStorageError String:=
 if clean value = "" then .error (.emptySegment value) else .ok (clean value)

/-- The `/` operator of `pathlib`: a single dot is dropped, a double dot is kept. -/
def child (path:List String)(segment:String):List String:=
 if segment = "." then path else path++[segment]

def pathFor (root:ResolvedPath)(packId release:String):Except PackStorageError (List String):=do
 let pack ←safeSegment packId
 let file ←safeSegment release
 return child (child root.segments pack) (file ++ ".tar.gz")

/-- The place the file system reaches by following a path. -/
def locate (path:List String):List String:=
 path.foldl (fun reached s=>if s = ".." then reached.dropLast else reached++[s]) []

section
variable {Bytes Digest:Type} [DecidableEq Digest]

structure StorageRecord (Digest:Type) where
 path:List String
 sha256:Digest
 size:ℕ

def store (sha256:Bytes→Digest)(size:Bytes→ℕ)(root:ResolvedPath)
 (files:Dict (List String) Bytes)(packId release:String)(data:Bytes):
 Except PackStorageError (Dict (List String) Bytes×StorageRecord Digest):=do
 let target ←pathFor root packId release
 let record:StorageRecord Digest:=⟨target,sha256 data,size data⟩
 match files.get (locate target) with
 | some existing=>
  if sha256 existing≠sha256 data then .error (.hashMismatch target)
  else return (files,record)
 | none=>return (files.set (locate target) data,record)
end

/-- The check before the file is opened: `resolve` is the file system's own resolution of the argument. -/
def openArtifact (resolve:String→ResolvedPath)(root:ResolvedPath)(path:String):
 Except PackStorageError ResolvedPath:=
 let resolved:=resolve path
 if root.str.isPrefixOf resolved.str then .ok resolved
 else .error (.escapesRoot resolved.segments root.segments)

def StrictlyInside (root path:List String):Prop:=∃rest,rest≠[]∧path=root++rest

/-- `path` goes through a sibling of the root whose name properly extends the root's name. -/
def ThroughSibling (root path:List String):Prop:=
 ∃parent name other rest,root=parent++[name]∧path=parent++other::rest∧
  name.toList <+: other.toList∧name≠other

/-- A character the substitution does not keep apart from an underscore. -/
def Blank (c:Char):Prop:=c = '_' ∨ isSafe c=false

/-- Equal strings up to the positions where both hold a blank character. -/
def LookAlike (x y:String):Prop:=
 List.Forall₂ (fun c d=>c=d∨Blank c∧Blank d) x.toList y.toList

/-- The pack identifiers whose directory is the root or its parent. -/
def DotId (packId:String):Prop:=packId = "." ∨ packId = ".."

def directory (root:List String)(pack:String):List String:=
 if pack = "." then root else if pack = ".." then root.dropLast else root++[pack]

lemma cleanChar_eq_iff (c d:Char):cleanChar c=cleanChar d↔c=d∨Blank c∧Blank d:=by
 have hunderscore:isSafe '_' :=by decide
 unfold cleanChar Blank
 split <;> split <;> grind
lemma clean_eq_iff (x y:String):clean x=clean y↔LookAlike x y:=by
 unfold clean LookAlike
 rw[String.ofList_inj,←forall₂_eq_eq_eq,forall₂_map_left_iff,
  forall₂_map_right_iff]
 simp only[cleanChar_eq_iff]
lemma cleanChar_eq_dot {c:Char}:cleanChar c = '.' ↔ c = '.' :=by
 have hdot:isSafe '.' :=by decide
 unfold cleanChar
 split <;> grind
lemma clean_eq_dot {x:String}:clean x = "." ↔ x = "." :=by
 rw[←String.toList_inj,←String.toList_inj]
 simp[clean,cleanChar_eq_dot,map_eq_cons_iff]
lemma clean_eq_dots {x:String}:clean x = ".." ↔ x = ".." :=by
 rw[←String.toList_inj,←String.toList_inj]
 simp[clean,cleanChar_eq_dot,map_eq_cons_iff]
lemma locate_append (path:List String)(segment:String):
 locate (path++[segment]) =
  if segment = ".." then (locate path).dropLast else locate path++[segment]:=by
 simp[locate]

lemma locate_plain (root:ResolvedPath):locate root.segments=root.segments:=by
 have hplain:∀segments:List String,(∀s∈segments,s ≠ "..")→
   locate segments=segments:=by
  intro segments hsegments
  induction segments using List.reverseRecOn with
  | nil=>rfl
  | append_singleton _ s ih=>
   have hs:s ≠ ".." :=hsegments s (by simp)
   rw[locate_append,if_neg hs,ih fun t ht=>hsegments t (by simp[ht])]
 exact hplain root.segments fun s hs=>(root.plain s hs).2.2.2
lemma locate_child_root (root:ResolvedPath)(pack:String):
 locate (child root.segments pack)=directory root.segments pack:=by
 unfold child directory
 split
 · exact locate_plain root
 · rw[locate_append,locate_plain]
lemma tarball_not_dots (file:String):
 file ++ ".tar.gz" ≠ "." ∧ file ++ ".tar.gz" ≠ ".." :=by
 constructor <;>
 · intro h
   have hlength:=congrArg String.length h
   have htarball : ".tar.gz".length=7:=rfl
   have hdots : "..".length=2:=rfl
   have hdot : ".".length=1:=rfl
   rw[String.length_append] at hlength
   omega

variable {root:ResolvedPath}

lemma locate_pathFor {packId release:String}{path:List String}
 (h:pathFor root packId release=.ok path):
 locate path=directory root.segments (clean packId)++[clean release ++ ".tar.gz"]:=by
 unfold pathFor safeSegment at h
 split at h
 · cases h
 split at h
 · cases h
 have hpath:path=child (child root.segments (clean packId)) (clean release ++ ".tar.gz"):=by
  cases h;rfl
 have htarball:=tarball_not_dots (clean release)
 rw[hpath,child,if_neg htarball.1,locate_append,if_neg htarball.2,locate_child_root]
lemma store_path {Bytes Digest:Type} [DecidableEq Digest]{sha256:Bytes→Digest}{size:Bytes→ℕ}
 {files files':Dict (List String) Bytes}{packId release:String}{data:Bytes}
 {record:StorageRecord Digest}
 (h:store sha256 size root files packId release data=.ok (files',record)):
 pathFor root packId release=.ok record.path:=by
 unfold store at h
 cases hpath:pathFor root packId release with
 | error=>rw[hpath] at h;cases h
 | ok=>
  rw[hpath] at h
  simp only[bind,Except.bind] at h
  split at h
  · split at h
    · cases h
    · cases h;rfl
  · cases h;rfl
lemma strictlyInside_directory_iff (root:List String)(pack file:String):
 StrictlyInside root (directory root pack++[file])↔pack ≠ ".." ∨ root=[]:=by
 unfold StrictlyInside directory
 split
 · rename_i hdot
   exact ⟨fun _=>.inl (by rw[hdot];decide),fun _=>⟨[file],by simp,rfl⟩⟩
 · split
   · rename_i hdots
     constructor
     · rintro ⟨rest,hrest,heq⟩
       have hlength:=congrArg List.length heq
       have hpos:0<rest.length:=length_pos_iff.mpr hrest
       simp only[length_append,length_dropLast,length_singleton] at hlength
       exact .inr (length_eq_zero_iff.mp (by omega))
     · rintro (hne|rfl)
       · exact absurd hdots hne
       · exact ⟨[file],by simp,rfl⟩
   · rename_i hdots
     exact ⟨fun _=>.inl hdots,fun _=>⟨[pack,file],by simp,by simp⟩⟩
lemma directory_eq_iff (root:List String)(pack pack':String):
 directory root pack=directory root pack'↔pack=pack'∨root=[]∧DotId pack∧DotId pack':=by
 have hlast:∀a:String,root.dropLast≠root++[a]:=by
  intro a heq
  have hlength:=congrArg List.length heq
  simp only[length_dropLast,length_append,length_singleton] at hlength
  omega
 have hself:∀a:String,root≠root++[a]:=by simp
 have hchild:∀a b:String,root++[a]=root++[b]↔a=b:=by simp
 have hdrop:root=root.dropLast↔root=[]:=by
  constructor
  · intro heq
    have hlength:=congrArg List.length heq
    simp only[length_dropLast] at hlength
    exact length_eq_zero_iff.mp (by omega)
  · rintro rfl;rfl
 unfold directory DotId
 grind
lemma ResolvedPath.plain_chars (p:ResolvedPath):∀s∈p.segments.map String.toList, '/' ∉ s:=by
 intro s hs
 obtain ⟨segment,hmem,rfl⟩:=mem_map.mp hs
 exact (p.plain segment hmem).1
lemma ResolvedPath.join_not_prefix_slash (p:ResolvedPath)(hne:p.segments≠[]):
 ¬join '/' (p.segments.map String.toList) <+: ['/']:=by
 intro hstart
 obtain ⟨s,rest,hsegments⟩:=exists_cons_of_ne_nil hne
 have hs:s ≠ "" :=(p.plain s (by rw[hsegments];exact mem_cons_self)).2.1
 rw[hsegments,map_cons,join_cons,cons_prefix_cons,prefix_nil,
  append_eq_nil_iff] at hstart
 exact hs (String.toList_inj.mp hstart.2.1)
lemma map_toList_append_cons {l:List String}{parent rest:List (List Char)}
 {name:List Char}(h:l.map String.toList=parent++name::rest):
 ∃before segment after,l=before++segment::after∧before.map String.toList=parent∧
  segment.toList=name∧after.map String.toList=rest:=by
 obtain ⟨before,tail,rfl,hbefore,htail⟩:=map_eq_append_iff.mp h
 obtain ⟨segment,after,rfl,hsegment,hafter⟩:=map_eq_cons_iff.mp htail
 exact ⟨before,segment,after,rfl,hbefore,hsegment,hafter⟩
lemma map_toList_injective:Function.Injective (List.map String.toList):=
 map_injective_iff.mpr fun _ _=>String.toList_inj.mp
lemma strictlyInside_of_starts {path:ResolvedPath}(hstart:root.str <+: path.str)
 (hsame:path.segments≠root.segments)(hsibling:¬ThroughSibling root.segments path.segments):
 StrictlyInside root.segments path.segments:=by
 by_cases hroot:root.segments=[]
 · exact ⟨path.segments,hroot ▸ hsame,by simp[hroot]⟩
 have hjoin:join '/' (root.segments.map String.toList) <+:
   join '/' (path.segments.map String.toList):=by
  unfold ResolvedPath.str at hstart
  rw[if_neg hroot] at hstart
  split at hstart
  · exact absurd hstart (root.join_not_prefix_slash hroot)
  · exact hstart
 have hthrough:=join_prefix_through root.plain_chars path.plain_chars
  (by simpa using hroot) hjoin
 obtain ⟨parent,name,other,rest,hr,hp,hname⟩:=hthrough
 obtain ⟨before,segment,_,hbefore,hparent,rfl,hnil⟩:=map_toList_append_cons hr
 obtain ⟨before',segment',after,hbefore',hparent',rfl,-⟩:=map_toList_append_cons hp
 have hsame_parent:before'=before:=map_toList_injective (hparent'.trans hparent.symm)
 rw[map_eq_nil_iff] at hnil
 subst hnil hsame_parent
 by_cases heq:segment=segment'
 · subst heq
   refine ⟨after,fun hafter=>hsame ?_,by rw[hbefore,hbefore'];simp⟩
   rw[hbefore,hbefore',hafter]
 · exact absurd ⟨before',segment,segment',after,hbefore,hbefore',hname,heq⟩ hsibling

/-- What the textual check of `open` lets through. -/
lemma openArtifact_inside_iff {resolve:String→ResolvedPath}{served:ResolvedPath}{path:String}
 (h:openArtifact resolve root path=.ok served):StrictlyInside root.segments served.segments↔
  served.segments≠root.segments∧¬ThroughSibling root.segments served.segments:=by
 unfold openArtifact at h
 simp only at h
 split at h
 case isFalse=>cases h
 case isTrue hstart=>
  cases h
  constructor
  · rintro ⟨rest,hrest,heq⟩
    refine ⟨fun hsame=>hrest (by simpa[hsame] using heq),?_⟩
    rintro ⟨parent,name,other,tail,hroot,hpath,-,hne⟩
    rw[hroot,hpath] at heq
    simp only[append_assoc,append_cancel_left_eq,cons_append,
     List.cons.injEq] at heq
    exact hne heq.1.symm
  · rintro ⟨hsame,hsibling⟩
    exact strictlyInside_of_starts ( isPrefixOf_iff_prefix.mp hstart) hsame hsibling

lemma locate_pathFor_eq_iff {m n:Manifest}{pathM pathN:List String}
 (hm:pathFor root m.id m.release=.ok pathM)(hn:pathFor root n.id n.release=.ok pathN):
 locate pathM=locate pathN↔LookAlike m.release n.release∧
  (LookAlike m.id n.id∨root.segments=[]∧DotId m.id∧DotId n.id):=by
 have hdotId:∀packId,DotId (clean packId)↔DotId packId:=by
  intro packId
  unfold DotId
  rw[clean_eq_dot,clean_eq_dots]
 have hfile:clean m.release ++ ".tar.gz" = clean n.release ++ ".tar.gz" ↔
   LookAlike m.release n.release:=by
  rw[←clean_eq_iff,←String.toList_inj,String.toList_append,String.toList_append,
   append_left_inj,String.toList_inj]
 have hdirectory:=directory_eq_iff root.segments (clean m.id) (clean n.id)
 rw[clean_eq_iff,hdotId,hdotId] at hdirectory
 rw[locate_pathFor hm,locate_pathFor hn,←hdirectory,←hfile]
 constructor
 · intro heq
   have hparts:=append_inj' heq rfl
   exact ⟨List.cons.inj hparts.2 |>.1,hparts.1⟩
 · rintro ⟨hlast,hparent⟩
   rw[hlast,hparent]

/-- An artifact stays strictly inside the root unless the pack identifier is the double dot; a
served path is strictly inside unless it is the root or lies in a sibling whose name extends the
root's; two releases keep separate files unless their identifiers look alike. -/
theorem storage_confined_keyed_iff {Bytes Digest:Type} [DecidableEq Digest]
 (sha256:Bytes→Digest) (size:Bytes→ ℕ) (root:ResolvedPath) (m n:Manifest)
 {files filesM filesN filesN':Dict (List String) Bytes} {dataM dataN:Bytes}
 {recordM recordN:StorageRecord Digest}
 (hm:store sha256 size root files m.id m.release dataM=.ok (filesM,recordM))
 (hn:store sha256 size root filesN n.id n.release dataN=.ok (filesN',recordN))
 (resolve:String→ResolvedPath) (path:String) {served:ResolvedPath}
 (hopen:openArtifact resolve root path=.ok served):
 (StrictlyInside root.segments (locate recordM.path)↔m.id ≠ ".." ∨ root.segments=[])∧
 (StrictlyInside root.segments served.segments↔
  served.segments≠root.segments∧¬ThroughSibling root.segments served.segments)∧
 (locate recordM.path≠locate recordN.path↔
  ¬(LookAlike m.release n.release∧(LookAlike m.id n.id∨
   root.segments=[]∧DotId m.id∧DotId n.id))):=by
 have hpathM:=store_path hm
 have hpathN:=store_path hn
 refine ⟨?_,openArtifact_inside_iff hopen,not_congr (locate_pathFor_eq_iff hpathM hpathN)⟩
 rw[locate_pathFor hpathM,strictlyInside_directory_iff,Ne,clean_eq_dots]

def dataPacks:ResolvedPath:=⟨["data", "packs"],by decide⟩
def packsOld:ResolvedPath:=⟨["data", "packs-old", "x.tar.gz"],by decide⟩

theorem storage_confined_keyed_iff_appium:
 StrictlyInside ["data", "packs"] ["data", "packs", "appium", "1.0.tar.gz"]∧
  ¬StrictlyInside ["data", "packs"] ["data", "packs-old", "x.tar.gz"]:=by
 have h:=storage_confined_keyed_iff (id:ℕ→ ℕ) id dataPacks ⟨"appium", "1.0"⟩
  ⟨"appium", "1.1"⟩ (show store id id dataPacks Dict.empty "appium" "1.0" 7=.ok _ from rfl)
  (show store id id dataPacks Dict.empty "appium" "1.1" 8=.ok _ from rfl)
  (fun _=>packsOld) "/data/packs-old/x.tar.gz"
  (show openArtifact _ dataPacks _=.ok packsOld from rfl)
 refine ⟨h.1.mpr (.inl (by decide)),fun hinside=>(h.2.1.mp hinside).2 ?_⟩
 exact ⟨["data"], "packs", "packs-old",["x.tar.gz"],rfl,rfl,by decide,by decide⟩

/-- The double dot leaves the root, a sibling with a longer name is served, and a space is not
kept apart from an underscore. -/
theorem storage_escapes_and_collides:
 (∃files record,store (id:ℕ→ ℕ) id dataPacks Dict.empty ".." "1.0" 7 =
   .ok (files,record)∧files.get ["data", "1.0.tar.gz"]=some 7∧
   ¬StrictlyInside dataPacks.segments (locate record.path))∧
 (openArtifact (fun _=>packsOld) dataPacks "/data/packs-old/x.tar.gz" = .ok packsOld∧
  ¬StrictlyInside dataPacks.segments packsOld.segments)∧
 (pathFor dataPacks "my pack" "1.0" = .ok ["data", "packs", "my_pack", "1.0.tar.gz"]∧
  pathFor dataPacks "my_pack" "1.0" = .ok ["data", "packs", "my_pack", "1.0.tar.gz"]):=by
 refine ⟨⟨_,_,rfl,rfl,?_⟩,⟨rfl,?_⟩,rfl,rfl⟩
 · rintro ⟨rest,-,heq⟩
   change ["data", "1.0.tar.gz"]=["data", "packs"]++rest at heq
   simp at heq
 · rintro ⟨rest,-,heq⟩
   simp[dataPacks,packsOld] at heq
end GridFleet.PackStorage
