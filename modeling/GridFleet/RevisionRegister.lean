import Mathlib.Data.List.Infix
/-! A register keeps the value of the greatest revision and refuses every other write. A ledger settles
generations in increasing order, each one once. Both remember what they took, newest first. -/
namespace GridFleet.RevisionRegister
open List

variable {V E:Type*}

structure Register (V:Type*) where
 value:V
 revision:ℕ
 writes:List (ℕ×V)

namespace Register

def write (r:Register V)(revision:ℕ)(value:V):Option (Register V):=
 if revision≤r.revision then none else some ⟨value,revision,(revision,value)::r.writes⟩

/-- Every write had a greater revision than those before it, and the value is the one written under the
greatest. -/
structure Ordered (r:Register V):Prop where
 increasing:r.writes.Pairwise fun newer older=>older.1<newer.1
 greatest:∀w∈r.writes,w.1≤r.revision
 stored:r.writes≠[]→(r.revision,r.value)∈r.writes

def Later (r r':Register V):Prop:=r'=r∨r.revision<r'.revision∧r.writes <:+ r'.writes

lemma Later.refl (r:Register V):Later r r:=.inl rfl
lemma Later.trans {a b c:Register V}(h:Later a b)(h':Later b c):Later a c:=by
 rcases h with rfl|⟨hlt,hsuffix⟩
 · exact h'
 · rcases h' with rfl|⟨hlt',hsuffix'⟩
   · exact .inr ⟨hlt,hsuffix⟩
   · exact .inr ⟨hlt.trans hlt',hsuffix.trans hsuffix'⟩

variable {r r':Register V}{revision:ℕ}{value:V}

lemma ordered_of_unwritten (h:r.writes=[]):Ordered r where
 increasing:=h ▸ List.Pairwise.nil
 greatest w hw:=by
  rw[h] at hw
  cases hw
 stored hne:=absurd h hne
lemma write_eq_some (h:r.write revision value=some r'):
 r.revision<revision∧r'=⟨value,revision,(revision,value)::r.writes⟩:=by
 unfold write at h
 split at h
 · cases h
 · rename_i hgt
   cases h
   exact ⟨not_le.mp hgt,rfl⟩
lemma Ordered.write (h:Ordered r)(hwrite:r.write revision value=some r'):Ordered r':=by
 obtain ⟨hlt,rfl⟩:=write_eq_some hwrite
 refine ⟨pairwise_cons.mpr ⟨?_,h.increasing⟩,?_,fun _=>mem_cons_self⟩
 · intro w hw
   exact (h.greatest w hw).trans_lt hlt
 · intro w hw
   rcases mem_cons.mp hw with rfl|hold
   · exact le_refl _
   · exact ((h.greatest w hold).trans_lt hlt).le
lemma later_write (hwrite:r.write revision value=some r'):Later r r':=by
 obtain ⟨hlt,rfl⟩:=write_eq_some hwrite
 exact .inr ⟨hlt,suffix_cons _ _⟩
end Register

structure Ledger (E:Type*) where
 mark:ℕ
 entries:List (ℕ×E)

namespace Ledger

/-- The mark is set whatever it was: the caller compares first. -/
def post (l:Ledger E)(generation:ℕ)(entry:E):Ledger E:=
 ⟨generation,(generation,entry)::l.entries⟩

/-- No generation has two entries, and the mark is past all of them. -/
structure Once (l:Ledger E):Prop where
 increasing:l.entries.Pairwise fun newer older=>older.1<newer.1
 settled:∀p∈l.entries,p.1≤l.mark

def Later (l l':Ledger E):Prop:=l.mark≤l'.mark∧l.entries <:+ l'.entries

lemma Later.refl (l:Ledger E):Later l l:=⟨le_refl _,suffix_rfl⟩

variable {l:Ledger E}

lemma once_of_empty (h:l.entries=[]):Once l where
 increasing:=h ▸ List.Pairwise.nil
 settled p hp:=by
  rw[h] at hp
  cases hp
lemma Once.post (h:Once l){generation:ℕ}(hlt:l.mark<generation)(entry:E):
 Once (l.post generation entry):=by
 refine ⟨pairwise_cons.mpr ⟨?_,h.increasing⟩,?_⟩
 · intro p hp
   exact (h.settled p hp).trans_lt hlt
 · intro p hp
   rcases mem_cons.mp hp with rfl|hold
   · exact le_refl _
   · exact ((h.settled p hold).trans_lt hlt).le
lemma later_post {generation:ℕ}(hlt:l.mark<generation)(entry:E):Later l (l.post generation entry):=
 ⟨hlt.le,suffix_cons _ _⟩
end Ledger
end GridFleet.RevisionRegister
