import Mathlib.Data.List.Infix
/-! Paths written as text: every segment preceded by one separator. A textual prefix need not end at a
separator, so it only agrees with the order of paths up to the last segment. -/
namespace GridFleet.SeparatedPath
open List (mem_cons_self mem_cons_of_mem nil_append cons_prefix_cons cons_append)

variable {α:Type*}(sep:α)

def join (segments:List (List α)):List α:=segments.flatMap (sep :: ·)

@[simp] lemma join_nil:join sep []=[]:=rfl
@[simp] lemma join_cons (s:List α)(rest:List (List α)):
 join sep (s::rest)=sep::(s++join sep rest):=rfl

variable {sep}

lemma prefix_of_notMem {a b:List α}{rest:List (List α)}(ha:sep ∉ a)
 (h:a <+: b++join sep rest):a <+: b:=by
 induction a generalizing b with
 | nil=>exact List.nil_prefix
 | cons x a ih=>
  have hx:x≠sep:=fun hx=>ha (hx ▸ mem_cons_self)
  have htail:sep ∉ a:=fun hmem=>ha (mem_cons_of_mem x hmem)
  cases b with
  | nil=>
   cases rest with
   | nil=>simp at h
   | cons=>
    rw[nil_append,join_cons,cons_prefix_cons] at h
    exact absurd h.1 hx
  | cons=>
   rw[cons_append,cons_prefix_cons] at h
   exact List.cons_prefix_cons.mpr ⟨h.1,ih htail h.2⟩

/-- A separator inside the prefix pins the segment before it. -/
lemma eq_of_prefix_sep {a b t:List α}{rest:List (List α)}(ha:sep ∉ a)(hb:sep ∉ b)
 (h:a++sep::t <+: b++join sep rest):a=b∧sep::t <+: join sep rest:=by
 induction a generalizing b with
 | nil=>
  cases b with
  | nil=>exact ⟨rfl,h⟩
  | cons=>
   rw[nil_append,cons_append,cons_prefix_cons] at h
   exact absurd (h.1 ▸ mem_cons_self) hb
 | cons x _ ih=>
  have hx:x≠sep:=fun hx=>ha (hx ▸ mem_cons_self)
  cases b with
  | nil=>
   cases rest with
   | nil=>simp at h
   | cons=>
    rw[nil_append,cons_append,join_cons,cons_prefix_cons] at h
    exact absurd h.1 hx
  | cons y=>
   rw[cons_append,cons_append,cons_prefix_cons] at h
   have hrest:=ih (fun hmem=>ha (mem_cons_of_mem x hmem))
    (fun hmem=>hb (mem_cons_of_mem y hmem)) h.2
   exact ⟨by rw[h.1,hrest.1],hrest.2⟩

/-- `path` goes through a directory beside the last segment of `root` whose name starts with
that segment; the segment itself counts. -/
def ThroughExtension (root path:List (List α)):Prop:=
 ∃parent name other rest,root=parent++[name]∧path=parent++other::rest∧
  name <+: other

lemma ThroughExtension.cons {root path:List (List α)}(s:List α)
 (h:ThroughExtension root path):ThroughExtension (s::root) (s::path):=by
 obtain ⟨parent,name,other,rest,hroot,hpath,hname⟩:=h
 exact ⟨s::parent,name,other,rest,by simp[hroot],by simp[hpath],hname⟩
lemma join_prefix_through {root path:List (List α)}(hroot:∀s∈root,sep ∉ s)
 (hpath:∀s∈path,sep ∉ s)(hne:root≠[])(h:join sep root <+: join sep path):
 ThroughExtension root path:=by
 induction root generalizing path with
 | nil=>exact absurd rfl hne
 | cons name root ih=>
  cases path with
  | nil=>simp at h
  | cons other path=>
   rw[join_cons,join_cons,cons_prefix_cons] at h
   have hname:sep ∉ name:=hroot name mem_cons_self
   cases root with
   | nil=>
    have hstart:name <+: other++join sep path:=by simpa using h.2
    exact ⟨[],name,other,path,rfl,rfl,prefix_of_notMem hname hstart⟩
   | cons next root=>
    have hsplit:=eq_of_prefix_sep hname (hpath other mem_cons_self) h.2
    have htail:ThroughExtension (next::root) path:=
     ih (fun s hs=>hroot s (mem_cons_of_mem name hs))
      (fun s hs=>hpath s (mem_cons_of_mem other hs)) (List.cons_ne_nil _ _) hsplit.2
    rw[hsplit.1]
    exact htail.cons other
end GridFleet.SeparatedPath
