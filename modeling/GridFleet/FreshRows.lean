import GridFleet.Dict
import Mathlib.Data.List.Perm.Basic
import Mathlib.Order.Lattice
namespace GridFleet
open List

namespace Dict

variable {ν:Type*}

def freshKey (d:Dict ℕ ν):ℕ:=d.keys.foldr max 0+1

variable {k:ℕ}{d:Dict ℕ ν}

lemma le_foldr_max_of_mem {l:List ℕ}(hk:k∈l):k≤l.foldr max 0:=by
 induction l with
 | nil=>simp at hk
 | cons a _ ih=>
  rw[foldr_cons]
  rcases mem_cons.mp hk with rfl|hk
  · exact le_max_left k _
  · exact (ih hk).trans (le_max_right a _)
lemma freshKey_notMem (d:Dict ℕ ν):d.freshKey ∉ d.keys:=by
 intro hmem
 have:=le_foldr_max_of_mem hmem
 unfold freshKey at this
 omega
lemma entries_set_of_notMem (v:ν)(hk:k ∉ d.keys):(d.set k v).entries=(k,v)::d.entries:=by
 have hkept:∀e∈d.entries,e.1≠k:=by
  rintro e he rfl
  exact hk (mem_map_of_mem he)
 simp only[set,pop,filter]
 rw[filter_eq_self.mpr fun e he=>by simpa using hkept e he]

def insertAll (d:Dict ℕ ν):List ν→Dict ℕ ν×List ℕ
 | []=>(d,[])
 | row::rows=>
  let inserted:=insertAll (d.set d.freshKey row) rows
  (inserted.1,d.freshKey::inserted.2)

lemma length_insertAll (d:Dict ℕ ν)(rows:List ν):(d.insertAll rows).2.length=rows.length:=by
 induction rows generalizing d with
 | nil=>rfl
 | cons _ _ ih=>simp[insertAll,ih]
lemma entries_insertAll (d:Dict ℕ ν)(rows:List ν):
 ((d.insertAll rows).1.entries).Perm ((d.insertAll rows).2.zip rows++d.entries):=by
 induction rows generalizing d with
 | nil=>simp[insertAll]
 | cons row _ ih=>
  have hrest:=ih (d.set d.freshKey row)
  rw[entries_set_of_notMem row d.freshKey_notMem] at hrest
  exact hrest.trans perm_middle
lemma nodup_insertAll (d:Dict ℕ ν)(rows:List ν):(d.insertAll rows).2.Nodup:=by
 have hkeys:=((entries_insertAll d rows).map Prod.fst).nodup_iff.mp (d.insertAll rows).1.nodup
 rw[map_append,map_fst_zip (length_insertAll d rows).le] at hkeys
 exact hkeys.of_append_left
end Dict

def batched {α:Type*}(size:ℕ)(l:List α):List (List α):=go [] l
where
 go (batch:List α):List α→List (List α)
  | []=>if batch.isEmpty then [] else [batch]
  | a::l=>
   if size≤batch.length+1 then (batch++[a])::go [] l else go (batch++[a]) l

variable {α:Type*}

lemma flatten_batched_go (size:ℕ)(batch l:List α):(batched.go size batch l).flatten=batch++l:=by
 induction l generalizing batch with
 | nil=>cases batch <;> simp[batched.go]
 | cons _ _ ih=>
  unfold batched.go
  split <;> simp[ih]

/-- Work done batch by batch is the work done row by row. -/
lemma foldl_batched {β:Type*}(size:ℕ)(f:β→α→β)(init:β)(l:List α):
 (batched size l).foldl (fun acc batch=>batch.foldl f acc) init=l.foldl f init:=by
 rw[←foldl_flatten,batched,flatten_batched_go,nil_append]

lemma lookup_eq_some_iff {β:Type*} [DecidableEq α]{l:List (α×β)}(hnodup:(l.map Prod.fst).Nodup)
 {k:α}{v:β}:l.lookup k=some v↔(k,v)∈l:=by
 induction l with
 | nil=>simp
 | cons e l ih=>
  rw[map_cons,nodup_cons] at hnodup
  rw[List.lookup_cons]
  by_cases hk:k=e.1
  · subst hk
    have hnot:(e.1,v) ∉ l:=fun hmem=>hnodup.1 (mem_map.mpr ⟨_,hmem,rfl⟩)
    simp[hnot,Prod.ext_iff,eq_comm]
  · have hne:(k == e.1)=false:=by simpa using hk
    rw[hne,ih hnodup.2]
    simp[Prod.ext_iff,hk]
end GridFleet
