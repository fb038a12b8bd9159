import Mathlib.Data.List.Nodup
namespace GridFleet.GreedySelection
open List

variable {α κ ρ:Type*} [DecidableEq κ]

def atMost:Option ℕ→List α→List α
 | none,l=>l
 | some n,l=>l.take n
def pick (key:α→κ)(fits:α→Bool)(limit:Option ℕ)(taken:List κ)(candidates:List α):List α:=
 atMost limit (candidates.filter fun a=>!decide (key a∈taken)&&fits a)
def pass (key:α→κ)(fits:ρ→α→Bool)(limit:ρ→Option ℕ)(candidates:List α):
 List κ→List ρ→List (List α)
 | _,[]=>[]
 | taken,demand::rest=>
  let picked:=pick key (fits demand) (limit demand) taken candidates
  picked::pass key fits limit candidates (taken++picked.map key) rest
def Short (limit:Option ℕ)(l:List α):Prop:=∀n∈limit,l.length<n

lemma atMost_sublist (limit:Option ℕ)(l:List α):(atMost limit l).Sublist l:=by
 cases limit with
 | none=>exact List.Sublist.refl l
 | some n=>exact take_sublist n l
lemma length_atMost_le {limit:Option ℕ}{n:ℕ}(hlimit:limit=some n)(l:List α):
 (atMost limit l).length≤n:=by
 subst hlimit
 exact length_take_le n l
lemma atMost_eq_of_short {limit:Option ℕ}{l:List α}(hshort:Short limit (atMost limit l)):
 atMost limit l=l:=by
 cases limit with
 | none=>rfl
 | some n=>
  have hlt:(l.take n).length<n:=hshort n rfl
  rw[length_take] at hlt
  exact take_of_length_le (by omega)

section
variable {key:α→κ}{fits:α→Bool}{limit:Option ℕ}{taken:List κ}{candidates:List α}

lemma pick_sublist:(pick key fits limit taken candidates).Sublist candidates:=
 (atMost_sublist limit _).trans filter_sublist

variable {a:α}

lemma mem_pick (h:a∈pick key fits limit taken candidates):a∈candidates∧key a ∉ taken∧fits a:=by
 have hfilter:=(atMost_sublist limit _).subset h
 rw[mem_filter,Bool.and_eq_true,Bool.not_eq_true',decide_eq_false_iff_not] at hfilter
 exact hfilter
lemma nodup_pick (hnodup:(candidates.map key).Nodup):
 ((pick key fits limit taken candidates).map key).Nodup:=
 hnodup.sublist (pick_sublist.map key)
lemma mem_pick_of_short (hshort:Short limit (pick key fits limit taken candidates))
 (hmem:a∈candidates)(hfree:key a ∉ taken)(hfits:fits a):a∈pick key fits limit taken candidates:=by
 unfold pick at hshort ⊢
 rw[atMost_eq_of_short hshort,mem_filter]
 exact ⟨hmem,by simp[hfree,hfits]⟩
lemma pick_cons_free {rest:List α}{n:ℕ}(hfresh:key a ∉ rest.map key)(hfree:key a ∉ taken)
 (hfits:fits a):pick key fits (some (n+1)) taken (a::rest) =
  a::pick key fits (some n) (taken++[key a]) rest:=by
 have hfilter:rest.filter (fun b=>!decide (key b∈taken++[key a])&&fits b) =
   rest.filter fun b=>!decide (key b∈taken)&&fits b:=by
  refine filter_congr fun b hb=>?_
  have hne:key b≠key a:=fun heq=>hfresh (heq ▸ mem_map_of_mem hb)
  simp[hne]
 simp only[pick,atMost]
 rw[hfilter,filter_cons_of_pos (by simp[hfree,hfits]),take_succ_cons]
lemma pick_cons_skip {rest:List α}(hskip:key a∈taken∨fits a=false):
 pick key fits limit taken (a::rest)=pick key fits limit taken rest:=by
 unfold pick
 rw[filter_cons_of_neg]
 rcases hskip with htaken|hmiss
 · simp[htaken]
 · simp[hmiss]
lemma pick_eq_nil (h:∀a∈candidates,fits a→key a∈taken):pick key fits limit taken candidates=[]:=by
 rw[eq_nil_iff_forall_not_mem]
 intro a hpicked
 obtain ⟨hmem,hfree,hfits⟩:=mem_pick hpicked
 exact hfree (h a hmem hfits)
end

section
variable {key:α→κ}{fits:ρ→α→Bool}{limit:ρ→Option ℕ}{candidates:List α}

lemma length_pass (taken:List κ)(demands:List ρ):
 (pass key fits limit candidates taken demands).length=demands.length:=by
 induction demands generalizing taken with
 | nil=>rfl
 | cons _ _ ih=>simp[pass,ih]
lemma getElem?_pass (taken:List κ)(demands:List ρ)(i:ℕ):
 (pass key fits limit candidates taken demands)[i]? =
  demands[i]?.map fun demand=>pick key (fits demand) (limit demand)
   (taken++((pass key fits limit candidates taken demands).take i).flatten.map key) candidates:=by
 induction demands generalizing taken i with
 | nil=>simp[pass]
 | cons _ _ ih=>
  cases i with
  | zero=>simp[pass]
  | succ=>simp[pass,ih,append_assoc]
lemma notMem_taken_of_mem_pass {taken:List κ}{demands:List ρ}{a:α}
 (h:a∈(pass key fits limit candidates taken demands).flatten):key a ∉ taken:=by
 induction demands generalizing taken with
 | nil=>simp[pass] at h
 | cons _ _ ih=>
  rw[pass,flatten_cons,mem_append] at h
  rcases h with hpick|hrest
  · exact (mem_pick hpick).2.1
  · intro htaken
    exact ih hrest (mem_append_left _ htaken)
lemma nodup_pass (hnodup:(candidates.map key).Nodup)(taken:List κ)(demands:List ρ):
 ((pass key fits limit candidates taken demands).flatten.map key).Nodup:=by
 induction demands generalizing taken with
 | nil=>simp[pass]
 | cons _ _ ih=>
  rw[pass,flatten_cons,map_append,nodup_append]
  refine ⟨nodup_pick hnodup,ih _,?_⟩
  intro k hk k' hk' heq
  obtain ⟨a,ha,rfl⟩:=mem_map.mp hk'
  exact notMem_taken_of_mem_pass ha (mem_append_right _ (heq ▸ hk))

lemma mem_taken_of_short {taken:List κ}{demands:List ρ}{i:ℕ}{demand:ρ}{picked:List α}
 (hdemand:demands[i]?=some demand)
 (hpicked:(pass key fits limit candidates taken demands)[i]?=some picked)
 (hshort:Short (limit demand) picked){a:α}(hmem:a∈candidates)(hfits:fits demand a):
 key a∈taken++(pass key fits limit candidates taken demands).flatten.map key:=by
 have hget:=hpicked
 rw[getElem?_pass,hdemand,Option.map_some,Option.some.injEq] at hget
 by_cases hbefore:key a ∈
   taken++((pass key fits limit candidates taken demands).take i).flatten.map key
 · rw[mem_append] at hbefore ⊢
   refine hbefore.imp_right fun htake=>?_
   obtain ⟨b,hb,hkey⟩:=mem_map.mp htake
   obtain ⟨l,hl,hbl⟩:=mem_flatten.mp hb
   exact mem_map.mpr ⟨b,mem_flatten.mpr ⟨l,mem_of_mem_take hl,hbl⟩,hkey⟩
 · have hself:a∈picked:=by
    rw[←hget] at hshort ⊢
    exact mem_pick_of_short hshort hmem hbefore hfits
   rw[mem_append]
   refine .inr (mem_map_of_mem (mem_flatten.mpr ⟨picked,?_,hself⟩))
   exact mem_of_getElem? hpicked

/-- Spares picked after a pass are invisible as long as nothing is lost. -/
lemma atMost_append_spares {limit:Option ℕ}{picked spares:List α}
 (hpicked:∀n∈limit,picked.length≤n)(hspares:Short limit picked→spares=[]):
 atMost limit (picked++spares)=picked:=by
 cases limit with
 | none=>simp[hspares (by intro n hn;cases hn),atMost]
 | some n=>
  have hle:picked.length≤n:=hpicked n rfl
  rcases Nat.lt_or_eq_of_le hle with hlt|heq
  · have hnil:spares=[]:=hspares (by rintro m ⟨rfl⟩;exact hlt)
    rw[hnil,append_nil]
    exact take_of_length_le hle
  · simp[atMost,←heq]
end
end GridFleet.GreedySelection
