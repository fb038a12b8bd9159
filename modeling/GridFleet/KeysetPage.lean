import Mathlib.Data.List.Sort
/-! `SELECT id WHERE id > cursor ORDER BY id LIMIT n`: a page misses a row above its cursor only when the
page is full and the row lies behind its last id. -/
namespace GridFleet.KeysetPage
open List

variable {α:Type*} [LinearOrder α]

def page (rows:List α)(cursor:α)(n:ℕ):List α:=
 ((rows.filter (cursor < ·)).insertionSort (· ≤ ·)).take n

variable {rows:List α}{cursor x:α}{n:ℕ}

lemma mem_of_mem_page (h:x∈page rows cursor n):x∈rows∧cursor<x:=by
 have hsorted:=mem_of_mem_take h
 rw[mem_insertionSort,mem_filter] at hsorted
 exact ⟨hsorted.1,of_decide_eq_true hsorted.2⟩
lemma page_sorted (rows:List α)(cursor:α)(n:ℕ):(page rows cursor n).Pairwise (· ≤ ·):=
 (pairwise_insertionSort _ _).sublist (take_sublist _ _)
lemma le_getLastD {l:List α}(hl:l.Pairwise (· ≤ ·))(d:α)(hx:x∈l):x≤l.getLastD d:=by
 induction l generalizing d x with
 | nil=>cases hx
 | cons y l ih=>
  obtain ⟨hy,htail⟩:=pairwise_cons.mp hl
  rw[getLastD_cons]
  rcases mem_cons.mp hx with rfl|hx
  · cases l with
    | nil=>exact le_rfl
    | cons z=>exact (hy z mem_cons_self).trans (ih htail x mem_cons_self)
  · exact ih htail y hx
lemma le_last_of_mem_page (h:x∈page rows cursor n):x≤(page rows cursor n).getLastD cursor:=
 le_getLastD (page_sorted rows cursor n) cursor h
lemma mem_sorted (hx:x∈rows)(hcursor:cursor<x):
 x∈(rows.filter (cursor < ·)).insertionSort (· ≤ ·):=by
 rw[mem_insertionSort,mem_filter]
 exact ⟨hx,decide_eq_true hcursor⟩
lemma mem_page_of_short (hx:x∈rows)(hcursor:cursor<x)
 (hshort:(page rows cursor n).length<n):x∈page rows cursor n:=by
 have hmem:=mem_sorted hx hcursor
 unfold page at hshort ⊢
 rw[length_take] at hshort
 rwa [take_of_length_le (by omega)]

lemma mem_page_of_le_last (hx:x∈rows)(hcursor:cursor<x)
 (hlast:x≤(page rows cursor n).getLastD cursor):x∈page rows cursor n:=by
 have hmem:=mem_sorted hx hcursor
 rw[←take_append_drop n (List.insertionSort _ _),mem_append] at hmem
 rcases hmem with hmem|hmem
 · exact hmem
 · -- Everything behind the page is at least its last id, so `x` is that id.
   rcases eq_nil_or_concat' (page rows cursor n) with hnil|⟨init,last,hpage⟩
   · rw[hnil] at hlast
     exact absurd hcursor (not_lt_of_ge hlast)
   · rw[hpage,getLastD_concat] at hlast
     have hsplit:=pairwise_insertionSort (· ≤ ·) (rows.filter (cursor < ·))
     rw[←take_append_drop n (List.insertionSort _ _),pairwise_append] at hsplit
     have hin:last∈page rows cursor n:=by rw[hpage];simp
     rw[le_antisymm hlast (hsplit.2.2 last hin x hmem)]
     exact hin
lemma cursor_le_last (rows:List α)(cursor:α)(n:ℕ):cursor≤(page rows cursor n).getLastD cursor:=by
 rcases eq_nil_or_concat' (page rows cursor n) with hnil|⟨init,last,hpage⟩
 · rw[hnil,getLastD_nil]
 · have hin:last∈page rows cursor n:=by rw[hpage];simp
   exact (mem_of_mem_page hin).2.le.trans (le_last_of_mem_page hin)
end GridFleet.KeysetPage
