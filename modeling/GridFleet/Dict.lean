import Mathlib.Data.List.Nodup
/-! Association lists with distinct keys, characterised by what `get` sees after each operation. -/
namespace GridFleet

structure Dict (κ ν:Type*) where
 entries:List (κ×ν)
 nodup:(entries.map Prod.fst).Nodup

namespace Dict

variable {κ ν:Type*} [DecidableEq κ]

instance [DecidableEq ν]:DecidableEq (Dict κ ν):=fun d e=>
 decidable_of_iff (d.entries=e.entries) ⟨fun h=>by cases d;cases e;simp_all,fun h=>h ▸ rfl⟩

def empty:Dict κ ν:=⟨[],List.nodup_nil⟩
def get (d:Dict κ ν)(k:κ):Option ν:=(d.entries.find? fun p=>p.1=k).map Prod.snd
def keys (d:Dict κ ν):List κ:=d.entries.map Prod.fst
def filter (d:Dict κ ν)(p:κ→ν→Bool):Dict κ ν where
 entries:=d.entries.filter fun e=>p e.1 e.2
 nodup:=d.nodup.sublist (List.filter_sublist.map _)
def pop (d:Dict κ ν)(k:κ):Dict κ ν:=d.filter fun j _=>j≠k

lemma notMem_keys_pop (d:Dict κ ν)(k:κ):k ∉ (d.pop k).entries.map Prod.fst:=by
 intro h
 obtain ⟨e,he,hk⟩:=List.mem_map.mp h
 have:=(List.mem_filter.mp he).2
 simp[hk] at this

def set (d:Dict κ ν)(k:κ)(v:ν):Dict κ ν where
 entries:=(k,v)::(d.pop k).entries
 nodup:=List.nodup_cons.mpr ⟨notMem_keys_pop d k,(d.pop k).nodup⟩
def ofList (entries:List (κ×ν)):Dict κ ν:=entries.foldl (fun d p=>d.set p.1 p.2) empty

variable {d:Dict κ ν}{k j:κ}{v w:ν}

omit [DecidableEq κ] in
@[simp] lemma entries_empty:(empty:Dict κ ν).entries=[]:=rfl

@[simp] lemma get_empty:(empty:Dict κ ν).get k=none:=rfl
lemma get_eq_some_iff:d.get k=some v↔(k,v)∈d.entries:=by
 obtain ⟨entries,hnodup⟩:=d
 simp only[get,Option.map_eq_some_iff,Prod.exists]
 constructor
 · rintro ⟨j,w,hfind,rfl⟩
   have hk:=List.find?_some hfind
   simp only[decide_eq_true_eq] at hk
   subst hk
   exact List.mem_of_find?_eq_some hfind
 · intro hmem
   have hsome:(entries.find? fun p=>p.1=k).isSome:=by
    rw[List.find?_isSome]
    exact ⟨(k,v),hmem,by simp⟩
   obtain ⟨⟨j,w⟩,hfind⟩:=Option.isSome_iff_exists.mp hsome
   have hk:=List.find?_some hfind
   simp only[decide_eq_true_eq] at hk
   have heq:=List.inj_on_of_nodup_map hnodup (List.mem_of_find?_eq_some hfind) hmem hk
   exact ⟨j,w,hfind,congrArg Prod.snd heq⟩

omit [DecidableEq κ] in
lemma length_le_one {l:List κ}(hnodup:l.Nodup)(heq:∀a∈l,∀b∈l,a=b):l.length≤1:=by
 match l with
 | []=>exact Nat.zero_le 1
 | [_]=>exact Nat.le_refl 1
 | a::b::_=>
  have hab:a=b:=heq a (by simp) b (by simp)
  rw[hab] at hnodup
  simp at hnodup

lemma mem_keys:k∈d.keys↔∃v,d.get k=some v:=by
 simp[keys,get_eq_some_iff]
@[simp] lemma get_filter (d:Dict κ ν)(p:κ→ν→Bool)(k:κ):(d.filter p).get k=(d.get k).filter (p k):=by
 ext v
 simp[get_eq_some_iff,filter,Option.filter_eq_some_iff,List.mem_filter]

omit [DecidableEq κ] in
lemma filter_filter (d:Dict κ ν)(p q:κ→ν→Bool):
 (d.filter p).filter q=d.filter fun k v=>p k v&&q k v:=by
 simp[filter,List.filter_filter,Bool.and_comm]

lemma get_pop (d:Dict κ ν)(k j:κ):(d.pop k).get j=if j=k then none else d.get j:=by
 unfold pop
 rw[get_filter]
 by_cases h:j=k
 · cases d.get j <;> simp[h]
 · cases d.get j <;> simp[h]
@[simp] lemma get_pop_self (d:Dict κ ν)(k:κ):(d.pop k).get k=none:=by simp[get_pop]
lemma get_pop_of_ne (d:Dict κ ν)(h:j≠k):(d.pop k).get j=d.get j:=by
 simp[get_pop,h]
lemma get_set (d:Dict κ ν)(k j:κ)(v:ν):(d.set k v).get j=if j=k then some v else d.get j:=by
 by_cases h:j=k
 · subst h
   simp[get,set]
 · rw[if_neg h,←get_pop_of_ne d h]
   have hkj:k≠j:=fun e=>h e.symm
   simp[get,set,hkj]
@[simp] lemma get_set_self (d:Dict κ ν)(k:κ)(v:ν):(d.set k v).get k=some v:=by
 simp[get_set]
lemma get_set_of_ne (d:Dict κ ν)(v:ν)(h:j≠k):(d.set k v).get j=d.get j:=by
 simp[get_set,h]
lemma get_set_eq_some (h:(d.set k v).get j=some w):(j=k∧w=v)∨(j≠k∧d.get j=some w):=by
 rw[get_set] at h
 split at h
 · rename_i hj
   exact .inl ⟨hj,(Option.some.inj h).symm⟩
 · rename_i hj
   exact .inr ⟨hj,h⟩

/-- What holds of every entry still does once it holds of the new one. -/
lemma forall_get_set {p:κ→ν→Prop}(hnew:p k v)(hold:∀j w,d.get j=some w→p j w):
 ∀j w,(d.set k v).get j=some w→p j w:=by
 intro j w h
 rcases get_set_eq_some h with ⟨rfl,rfl⟩|⟨-,h⟩
 · exact hnew
 · exact hold j w h

lemma get_pop_eq_some (h:(d.pop k).get j=some w):j≠k∧d.get j=some w:=by
 rw[get_pop] at h
 split at h
 · cases h
 · rename_i hj
   exact ⟨hj,h⟩
lemma get_foldl_set (entries:List (κ×ν))(d:Dict κ ν)(k:κ):
 (entries.foldl (fun d p=>d.set p.1 p.2) d).get k =
  ((entries.reverse.find? fun p=>p.1=k).map Prod.snd).or (d.get k):=by
 induction entries generalizing d with
 | nil=>simp
 | cons p entries ih=>
  rw[List.foldl_cons,ih,get_set,List.reverse_cons,List.find?_append]
  cases entries.reverse.find? fun q=>q.1=k with
  | some=>simp
  | none=>
   by_cases h:p.1=k
   · simp[h]
   · have hk:k≠p.1:=fun e=>h e.symm
     simp[h,hk]
lemma get_ofList (entries:List (κ×ν))(k:κ):
 (ofList entries).get k=(entries.reverse.find? fun p=>p.1=k).map Prod.snd:=by
 unfold ofList
 rw[get_foldl_set]
 simp[get,empty]
lemma get_ofList_append (a b:List (κ×ν))(k:κ):
 (ofList (a++b)).get k=((ofList b).get k).or ((ofList a).get k):=by
 unfold ofList
 rw[List.foldl_append,get_foldl_set,get_foldl_set b empty]
 simp[get,empty]

variable {entries:List (κ×ν)}

lemma mem_of_get_foldl_set (h:(entries.foldl (fun d p=>d.set p.1 p.2) d).get k=some v):
 (k,v)∈entries∨d.get k=some v:=by
 induction entries generalizing d with
 | nil=>exact .inr h
 | cons p _ ih=>
  rcases ih h with hmem|hold
  · exact .inl (List.mem_cons_of_mem p hmem)
  · rcases get_set_eq_some hold with ⟨rfl,rfl⟩|⟨-,hget⟩
    · exact .inl List.mem_cons_self
    · exact .inr hget
lemma mem_of_get_ofList (h:(ofList entries).get k=some v):(k,v)∈entries:=by
 rcases mem_of_get_foldl_set h with hmem|hempty
 · exact hmem
 · cases hempty
lemma key_of_get_ofList_singleton (h:(ofList [(j,w)]).get k=some v):k=j:=
 congrArg Prod.fst (List.mem_singleton.mp (mem_of_get_ofList h))
lemma get_ofList_of_forall (hmem:(k,v)∈entries)
 (hall:∀w,(k,w)∈entries→w=v):(ofList entries).get k=some v:=by
 rw[get_ofList]
 cases hfind:entries.reverse.find? fun p=>p.1=k with
 | none=>
  have:=List.find?_eq_none.mp hfind (k,v) (List.mem_reverse.mpr hmem)
  simp at this
 | some p=>
  have hkey:p.1=k:=by simpa using List.find?_some hfind
  have hp:p∈entries:=List.mem_reverse.mp (List.mem_of_find?_eq_some hfind)
  exact congrArg some (hall p.2 (hkey ▸ hp))
lemma get_ofList_of_mem (hnodup:(entries.map Prod.fst).Nodup)
 (hmem:(k,v)∈entries):(ofList entries).get k=some v:=by
 refine get_ofList_of_forall hmem fun w hw=>?_
 exact congrArg Prod.snd (List.inj_on_of_nodup_map hnodup hw hmem rfl)

/-- A list indexed by a field: the last element with the key counts. -/
lemma get_ofList_map (key:ν→κ)(l:List ν)(k:κ):
 (ofList (l.map fun v=>(key v,v))).get k=l.reverse.find? fun v=>key v=k:=by
 rw[get_ofList,←List.map_reverse,List.find?_map,Option.map_map]
 simp[Function.comp_def]

lemma get_ofList_map_iff {key:ν→κ}{l:List ν}(h:(l.map key).Nodup):
 (ofList (l.map fun v=>(key v,v))).get k=some v↔v∈l∧key v=k:=by
 constructor
 · intro hget
   obtain ⟨found,hfound,hpair⟩:=List.mem_map.mp (mem_of_get_ofList hget)
   obtain ⟨hkey,rfl⟩:=Prod.mk.inj hpair
   exact ⟨hfound,hkey⟩
 · rintro ⟨hmem,rfl⟩
   refine get_ofList_of_mem ?_ (List.mem_map_of_mem hmem)
   rw[List.map_map]
   exact h

def map (d:Dict κ ν)(f:κ→ν→ν):Dict κ ν where
 entries:=d.entries.map fun e=>(e.1,f e.1 e.2)
 nodup:=by
  rw [List.map_map]
  exact d.nodup

@[simp] lemma get_map (d:Dict κ ν)(f:κ→ν→ν)(k:κ):(d.map f).get k=(d.get k).map (f k):=by
 unfold get map
 rw[List.find?_map,Option.map_map,Option.map_map]
 cases hfind:d.entries.find? fun p=>p.1=k with
 | none=>simp[Function.comp_def,hfind]
 | some p=>
  have hkey:p.1=k:=by simpa using List.find?_some hfind
  simp[Function.comp_def,hfind,hkey]
lemma get_map_eq_some {f:κ→ν→ν}(h:(d.map f).get k=some w):∃v,d.get k=some v∧w=f k v:=by
 rw[get_map,Option.map_eq_some_iff] at h
 obtain ⟨v,hv,hw⟩:=h
 exact ⟨v,hv,hw.symm⟩
end Dict
end GridFleet
