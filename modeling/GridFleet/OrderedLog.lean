import Mathlib.Data.List.Sort
namespace GridFleet.OrderedLog
open List

variable {α:Type*}{r:α→α→Prop} [DecidableRel r]{l:List α}{a e x:α}

lemma orderedInsert_concat (h:r x e):(l++[e]).orderedInsert r x=l.orderedInsert r x++[e]:=by
 induction l with
 | nil=>simp[List.orderedInsert,h]
 | cons y _ ih=>
  by_cases hxy:r x y
  · simp[List.orderedInsert,hxy]
  · simp[List.orderedInsert,hxy,ih]
lemma insertionSort_concat (h:∀x∈l,r x e):(l++[e]).insertionSort r=l.insertionSort r++[e]:=by
 induction l with
 | nil=>rfl
 | cons y _ ih=>
  have htail:=ih fun x hx=>h x (mem_cons_of_mem y hx)
  rw[cons_append,insertionSort_cons,htail,insertionSort_cons]
  exact orderedInsert_concat (h y mem_cons_self)
lemma insertionSort_congr [Std.Total r] [IsTrans α r]{l':List α}
 (hanti:∀x∈l,∀y∈l,r x y→ r y x→x=y)(hperm:l'.Perm l):l'.insertionSort r=l.insertionSort r:=by
 have hsorted:(l'.insertionSort r).Perm (l.insertionSort r):=
  ((perm_insertionSort r l').trans hperm).trans (perm_insertionSort r l).symm
 refine hsorted.eq_of_pairwise (fun x y hx hy=>?_) (pairwise_insertionSort r l')
  (pairwise_insertionSort r l)
 rw[mem_insertionSort] at hx hy
 exact hanti x (hperm.mem_iff.mp hx) y hy
lemma insertionSort_filter [Std.Total r] [IsTrans α r](p:α→Bool)(hanti:∀x∈l,∀y∈l,r x y→ r y x→x=y):
 (l.filter p).insertionSort r=(l.insertionSort r).filter p:=by
 have hperm:((l.filter p).insertionSort r).Perm ((l.insertionSort r).filter p):=
  (perm_insertionSort r _).trans ((perm_insertionSort r l).symm.filter p)
 refine hperm.eq_of_pairwise (fun x y hx hy=>?_) (pairwise_insertionSort r _)
  ((pairwise_insertionSort r l).filter p)
 simp only[mem_insertionSort,mem_filter] at hx hy
 exact hanti x hx.1 y hy.1

/-- The rows from the last marked row on are the rows that are not older than it. -/
lemma split_at_last {p:α→Bool}(hsorted:l.Pairwise r)(hnodup:l.Nodup)
 (hrefl:∀x,r x x)(hanti:∀x∈l,∀y∈l,r x y→ r y x→x=y)
 (hlast:(l.filter p).getLast?=some a):∃before after,l=before++a::after∧p a∧(∀x∈after,p x=false)∧
   l.filter (fun x=>r a x)=a::after:=by
 obtain ⟨marked,hmarked⟩:=getLast?_eq_some_iff.mp hlast
 obtain ⟨before₁,rest,rfl,-,hrest⟩:=filter_eq_append_iff.mp hmarked
 obtain ⟨before₂,after,rfl,-,hpa,hafter⟩:=filter_eq_cons_iff.mp hrest
 refine ⟨before₁++before₂,after,(append_assoc _ _ _).symm,hpa,?_,?_⟩
 · intro x hx
   simpa using filter_eq_nil_iff.mp hafter x hx
 · rw[←append_assoc] at hsorted hnodup hanti ⊢
   have hbefore:(before₁++before₂).filter (fun x=>r a x)=[]:=by
    rw[filter_eq_nil_iff]
    intro x hx hle
    have hle':r x a:=(pairwise_append.mp hsorted).2.2 x hx a mem_cons_self
    have heq:x=a:=hanti x (mem_append_left _ hx) a
     (mem_append_right _ mem_cons_self) hle' (of_decide_eq_true hle)
    exact (nodup_append.mp hnodup).2.2 x hx a mem_cons_self heq
   have hself:(a::after).filter (fun x=>r a x)=a::after:=by
    rw[filter_eq_self]
    intro x hx
    rcases mem_cons.mp hx with rfl|hlater
    · exact decide_eq_true (hrefl x)
    · have htail:=(pairwise_append.mp hsorted).2.1
      exact decide_eq_true ((pairwise_cons.mp htail).1 x hlater)
   rw[filter_append,hbefore,hself,nil_append]

variable {f:α→ℕ}{k:ℕ}

lemma filter_gt_eq_drop (h:l.map f=List.range' k l.length)(b:ℕ):
 l.filter (fun x=>b<f x)=l.drop (b+1-k):=by
 induction l generalizing k with
 | nil=>simp
 | cons x l ih=>
  simp only[map_cons,length_cons,range'_succ,List.cons.injEq] at h
  by_cases hx:b<f x
  · rw[filter_cons_of_pos (by simpa using hx),ih h.2,show b+1-k=0 by omega,
     show b+1-(k+1)=0 by omega]
    rfl
  · rw[filter_cons_of_neg (by simpa using hx),ih h.2,show b+1-k=b+1-(k+1)+1 by omega,drop_succ_cons]
lemma foldl_max_le_iff {a b:ℕ}:l.foldl (fun m x=>max m (f x)) a≤b↔a≤b∧∀x∈l,f x≤b:=by
 induction l generalizing a with
 | nil=>simp
 | cons x l ih=>simp[ih,and_assoc]
end GridFleet.OrderedLog
