import GridFleet.RouteMap
import Mathlib.Data.List.TakeDrop
/-! The backend writes the target of a node as text; the router parses it back into an upstream and
connects to the authority it writes for it. -/
namespace GridFleet.RouterTargets
open RouteMap List Option

def nodeTarget (nodePort:Option ℕ)(hostIp:Option String):Option String:=do
 let port ←nodePort
 let ip ←hostIp
 return "http://" ++ ip ++ ":" ++ toString port

lemma parsePort_toDigits (port:Fin 65536):parsePort (Nat.toDigits 10 port)=some port:=by
 have hdigit:∀c∈Nat.toDigits 10 port,c.isDigit:=fun c hc=>
  Nat.isDigit_of_mem_toDigits (by decide) (by decide) hc
 have hvalue:digits (Nat.toDigits 10 port)=port:=Nat.ofDigitChars_ten_toDigits
 unfold parsePort
 split
 · rename_i rest heq
   exact absurd (hdigit '+' (heq ▸ mem_cons_self)) (by decide)
 · simp only
   rw[if_pos ⟨Nat.toDigits_ne_nil,List.all_eq_true.mpr hdigit⟩]
   simp[hvalue]

variable {text host port rest:List Char}{c:Char}{target:String}{u:Upstream}

lemma parsePort_shape {port:Fin 65536}(h:parsePort text=some port):
 text≠[]∧(∀c∈text,c = '+' ∨ c.isDigit)∧∀c∈text.getLast?,c.isDigit:=by
 unfold parsePort at h
 split at h
 · rename_i rest
   simp only at h
   split at h
   · rename_i hrest
     obtain ⟨hne,hall⟩:=hrest
     rw[List.all_eq_true] at hall
     refine ⟨cons_ne_nil _ _,?_,?_⟩
     · intro c hc
       exact (mem_cons.mp hc).imp_right (hall c)
     · intro c hc
       rw[getLast?_cons_of_ne_nil hne] at hc
       exact hall c (mem_of_getLast? hc)
   · cases h
 · simp only at h
   split at h
   · rename_i hrest
     obtain ⟨hne,hall⟩:=hrest
     rw[List.all_eq_true] at hall
     exact ⟨hne,fun c hc=>.inr (hall c hc),fun c hc=>hall c (mem_of_getLast? hc)⟩
   · cases h
lemma notMem_of_parsePort {port:Fin 65536}(h:parsePort text=some port)(hplus:c ≠ '+')
 (hdigit:c.isDigit=false):c ∉ text:=by
 intro hc
 rcases (parsePort_shape h).2.1 c hc with hc|hc
 · exact hplus hc
 · rw[hdigit] at hc
   cases hc

lemma splitOnce_eq_some_iff {before after:List Char}:
 splitOnce c text=some (before,after)↔text=before++c::after∧c ∉ before:=by
 unfold splitOnce
 rw[span_eq_takeWhile_dropWhile]
 have hparts:=takeWhile_append_dropWhile (p:=(· != c)) (l:=text)
 constructor
 · intro h
   split at h
   · cases h
   rename_i before' sep after' heq
   obtain ⟨rfl,hdrop⟩:=Prod.mk.inj heq
   obtain ⟨rfl,rfl⟩:=Prod.mk.inj (some.inj h)
   have hsep:sep=c:=by
    have hhead:=head?_dropWhile_not (· != c) text
    rw[hdrop] at hhead
    simpa using hhead
   refine ⟨?_,?_⟩
   · rw[hsep] at hdrop
     rw[←hdrop]
     exact hparts.symm
   · intro hc
     have hne:=mem_takeWhile_imp hc
     simp at hne
 · rintro ⟨rfl,hfree⟩
   have hbefore:∀a∈before,(a != c):=by
    intro a ha
    rw[bne_iff_ne]
    rintro rfl
    exact hfree ha
   rw[takeWhile_append_of_pos hbefore,dropWhile_append_of_pos hbefore]
   simp

lemma rsplitOnce_eq_some_iff {before after:List Char}:
 rsplitOnce c text=some (before,after)↔text=before++c::after∧c ∉ after:=by
 have hreverse:text.reverse=after.reverse++c::before.reverse↔text=before++c::after:=by
  rw[reverse_eq_iff]
  simp
 have hfree:c ∉ after.reverse↔c ∉ after:=not_congr mem_reverse
 rw[←hreverse,←hfree,←splitOnce_eq_some_iff,rsplitOnce,map_eq_some_iff]
 constructor
 · rintro ⟨⟨x,y⟩,hsplit,heq⟩
   obtain ⟨rfl,rfl⟩:=Prod.mk.inj heq
   simpa using hsplit
 · intro hsplit
   exact ⟨_,hsplit,by simp⟩

lemma rdropWhile_append_of_forall {p:Char→Bool}{kept trailing:List Char}
 (htrailing:∀c∈trailing,p c)(hkept:∀c∈kept.getLast?,p c=false):
 (kept++trailing).rdropWhile p=kept:=by
 induction trailing using List.reverseRecOn with
 | nil=>
  rw[append_nil,rdropWhile_eq_self_iff]
  intro hne
  simp[hkept _ (getLast?_eq_some_getLast hne)]
 | append_singleton _ c ih=>
  rw[←append_assoc,rdropWhile_concat_pos _ _ _ (htrailing c (by simp))]
  exact ih fun d hd=>htrailing d (mem_append_left _ hd)

/-- An authority with its host in brackets, or with a host that needs none. -/
inductive Authority (host port:List Char):List Char→Prop where
 | bracketed (hhost : ']' ∉ host):Authority host port ('[' :: host ++ ']' :: ':' :: port)
 | plain (hhost : ':' ∉ host)(hhead:host.head?≠some '['):Authority host port (host ++ ':' :: port)

lemma Authority.getLast? {authority:List Char}(h:Authority host port authority)(hport:port≠[]):
 authority.getLast?=port.getLast?:=by
 obtain ⟨c,tail,rfl⟩:=exists_cons_of_ne_nil hport
 cases h with
 | bracketed=>
  rw[getLast?_append_cons,getLast?_cons_cons,getLast?_cons_cons]
 | plain=>rw[getLast?_append_cons,getLast?_cons_cons]

def splitAuthority (rest:List Char):Option (List Char×List Char):=
 match rest with
 | '[' :: afterBracket=>
  (splitOnce ']' afterBracket).bind fun parts=>
   ([':'].isPrefixOf? parts.2).map fun port=>(parts.1,port)
 | _=>(rsplitOnce ':' rest).filter fun parts=> ':' ∉ parts.1

lemma splitAuthority_plain {rest:List Char}(h:∀afterBracket,rest = '[' :: afterBracket→False):
  splitAuthority rest=(rsplitOnce ':' rest).filter fun parts=> ':' ∉ parts.1:=by
 unfold splitAuthority
 split
 · exact (h _ rfl).elim
 · rfl

def upstreamOf (parts:List Char×List Char):Option Upstream:=
 if parts.1=[] then none else (parsePort parts.2).map fun port=>⟨String.ofList parts.1,port⟩

lemma parse_eq (target:String):
 Upstream.parse target=("http://".toList.isPrefixOf? target.toList).bind fun stripped=>
  (splitAuthority (stripped.rdropWhile (· == '/'))).bind upstreamOf:=by
 have htail:∀parts:List Char×List Char,upstreamOf parts=if parts.1=[] then none
   else (parsePort parts.2).bind fun port=>pure ⟨String.ofList parts.1,port⟩:=by
  intro parts
  unfold upstreamOf
  split
  · rfl
  · cases parsePort parts.2 <;> rfl
 simp only[Upstream.parse,bind_eq_bind]
 refine congrArg _ (funext fun stripped=>?_)
 generalize stripped.rdropWhile (· == '/')=rest
 split
 · rename_i afterBracket
   simp only[splitAuthority]
   cases splitOnce ']' afterBracket with
   | none=>rfl
   | some parts=>
    simp only[bind_some]
    cases [':'].isPrefixOf? parts.2 with
    | none=>rfl
    | some port=>exact (htail (parts.1,port)).symm
 · rename_i hopen
   rw[splitAuthority_plain hopen]
   cases rsplitOnce ':' rest with
   | none=>rfl
   | some parts=>
    by_cases hcolon : ':' ∈ parts.1
    · simp[hcolon,Option.filter]
    · simp only[bind_some,hcolon,Option.filter,if_false,not_false_eq_true,decide_true,
       if_true]
      exact (htail parts).symm

lemma authority_of_split (h:splitAuthority rest=some (host,port)):Authority host port rest:=by
 unfold splitAuthority at h
 split at h
 · obtain ⟨⟨before,tail⟩,hsplit,hport⟩:=bind_eq_some_iff.mp h
   obtain ⟨port',hcolon,heq⟩:=map_eq_some_iff.mp hport
   cases heq
   obtain ⟨rfl,hfree⟩:=splitOnce_eq_some_iff.mp hsplit
   rw[isPrefixOf?_eq_some_iff_append_eq] at hcolon
   subst hcolon
   exact .bracketed hfree
 · rename_i hopen
   rw[filter_eq_some_iff] at h
   obtain ⟨hsplit,hcolon⟩:=h
   obtain ⟨rfl,-⟩:=rsplitOnce_eq_some_iff.mp hsplit
   refine .plain (of_decide_eq_true hcolon) ?_
   intro hhead
   obtain ⟨tail,rfl⟩:=head?_eq_some_iff.mp hhead
   exact hopen _ rfl
lemma split_of_authority (h:Authority host port rest)(hport : ':' ∉ port)(hne:host≠[]):
 splitAuthority rest=some (host,port):=by
 cases h with
 | bracketed hhost=>
  have hsplit:splitOnce ']' (host ++ ']' :: ':' :: port)=some (host, ':' :: port):=
   splitOnce_eq_some_iff.mpr ⟨rfl,hhost⟩
  simp[splitAuthority,hsplit,List.isPrefixOf?]
 | plain hhost hhead=>
  have hsplit:rsplitOnce ':' (host ++ ':' :: port)=some (host,port):=
   rsplitOnce_eq_some_iff.mpr ⟨rfl,hport⟩
  have hopen:∀afterBracket,host ++ ':' :: port = '[' :: afterBracket→False:=by
   intro afterBracket heq
   obtain ⟨c,tail,rfl⟩:=exists_cons_of_ne_nil hne
   cases heq
   exact hhead rfl
  rw[splitAuthority_plain hopen,hsplit]
  simp[hhost,Option.filter]

lemma parse_eq_some_iff:
 Upstream.parse target=some u↔u.host ≠ "" ∧ ∃port trailing authority,
  target.toList = "http://".toList++(authority++trailing)∧Authority u.host.toList port authority∧
   parsePort port=some u.port∧∀c∈trailing,c = '/' :=by
 rw[parse_eq]
 constructor
 · intro h
   obtain ⟨stripped,hscheme,hrest⟩:=bind_eq_some_iff.mp h
   obtain ⟨⟨host,port⟩,hsplit,hvalue⟩:=bind_eq_some_iff.mp hrest
   unfold upstreamOf at hvalue
   split at hvalue
   · cases hvalue
   rename_i hne
   obtain ⟨value,hport,rfl⟩:=map_eq_some_iff.mp hvalue
   refine ⟨?_,port,stripped.rtakeWhile (· == '/'),stripped.rdropWhile (· == '/'),?_,?_,hport,?_⟩
   · intro hempty
     exact hne (by simpa using hempty)
   · rw[rdropWhile_append_rtakeWhile]
     exact (isPrefixOf?_eq_some_iff_append_eq.mp hscheme).symm
   · rw[String.toList_ofList]
     exact authority_of_split hsplit
   · intro c hc
     simpa using mem_rtakeWhile_imp hc
 · rintro ⟨hne,port,trailing,authority,htarget,hauthority,hport,htrailing⟩
   have hhost:u.host.toList≠[]:=by simpa using hne
   have hlast:∀c∈authority.getLast?,(c == '/')=false:=by
    intro c hc
    rw[hauthority.getLast? (parsePort_shape hport).1] at hc
    have hdigit:=(parsePort_shape hport).2.2 c hc
    rw[beq_eq_false_iff_ne]
    rintro rfl
    exact absurd hdigit (by decide)
   have htrim:(authority++trailing).rdropWhile (· == '/')=authority:=
    rdropWhile_append_of_forall (by simpa using htrailing) hlast
   have hsplit:=split_of_authority hauthority (notMem_of_parsePort hport (by decide) (by decide)) hhost
   rw[isPrefixOf?_eq_some_iff_append_eq.mpr htarget.symm,bind_some,htrim,hsplit,
    bind_some,upstreamOf,if_neg hhost,hport]
   simp

lemma plain_text (host:String)(port:Fin 65536):
 (host ++ ":" ++ toString port.val).toList=host.toList ++ ':' :: Nat.toDigits 10 port:=by
 simp[String.toList_append,Nat.toString_eq_repr,Nat.toList_repr]
lemma authority_text (u:Upstream):u.authority.toList =
 if ':' ∈ u.host.toList then '[' :: u.host.toList ++ ']' :: ':' :: Nat.toDigits 10 u.port
 else u.host.toList ++ ':' :: Nat.toDigits 10 u.port:=by
 unfold Upstream.authority
 split
 · simp[String.toList_append,Nat.toString_eq_repr,Nat.toList_repr]
 · exact plain_text u.host u.port
lemma plain_ne_bracketed {trailing:List Char}{value:Fin 65536}(hfree : ']' ∉ host)(h:
  host ++ ':' :: Nat.toDigits 10 value=('[' :: host ++ ']' :: ':' :: port)++trailing):False:=by
 have hmem : ']' ∈ host ++ ':' :: Nat.toDigits 10 value:=by
  rw[h]
  simp
 rcases mem_append.mp hmem with hmem|hmem
 · exact hfree hmem
 · rcases mem_cons.mp hmem with hmem|hmem
   · exact absurd hmem (by decide)
   · exact absurd (Nat.isDigit_of_mem_toDigits (by decide) (by decide) hmem) (by decide)
lemma parse_plain_iff {text:String}(htext:text.toList=u.host.toList ++ ':' :: Nat.toDigits 10 u.port):
  Upstream.parse ("http://" ++ text)=some u↔
   u.host ≠ "" ∧ ':' ∉ u.host.toList∧u.host.toList.head?≠some '[' :=by
 rw[parse_eq_some_iff,String.toList_append,htext]
 refine and_congr_right fun _=>⟨?_,?_⟩
 · rintro ⟨port,trailing,authority,heq,hauthority,-,-⟩
   have heq:=append_cancel_left heq
   cases hauthority with
   | bracketed hhost=>exact (plain_ne_bracketed hhost heq).elim
   | plain hhost hhead=>exact ⟨hhost,hhead⟩
 · rintro ⟨hhost,hhead⟩
   exact ⟨_,[],_,by rw[append_nil],.plain hhost hhead,parsePort_toDigits u.port,
    fun c hc=>absurd hc not_mem_nil⟩
lemma parse_authority_iff (u:Upstream):
 Upstream.parse ("http://" ++ u.authority)=some u↔u.host ≠ "" ∧
  if ':' ∈ u.host.toList then ']' ∉ u.host.toList else u.host.toList.head?≠some '[' :=by
 have htext:=authority_text u
 split_ifs at htext ⊢ with hcolon
 · rw[parse_eq_some_iff,String.toList_append,htext]
   refine and_congr_right fun _=>⟨?_,?_⟩
   · rintro ⟨port,trailing,authority,-,hauthority,-,-⟩
     cases hauthority with
     | bracketed hhost=>exact hhost
     | plain hhost=>exact absurd hcolon hhost
   · intro hhost
     exact ⟨_,[],_,by rw[append_nil],.bracketed hhost,parsePort_toDigits u.port,
      fun c hc=>absurd hc not_mem_nil⟩
 · rw[parse_plain_iff htext,and_iff_right hcolon]

/-- The target that the backend writes leads the router to the node, and so does the authority that
the router writes for it. -/
def Routable (ip:String)(port:Fin 65536):Prop:=
 ∃target,nodeTarget (some port) (some ip)=some target∧Upstream.parse target=some ⟨ip,port⟩∧
  Upstream.parse ("http://" ++ Upstream.authority ⟨ip,port⟩)=some ⟨ip,port⟩

lemma routable_iff (ip:String)(port:Fin 65536):
  Routable ip port↔ip ≠ "" ∧ ':' ∉ ip.toList∧ip.toList.head?≠some '[' :=by
 have hparse:Upstream.parse ("http://" ++ (ip ++ ":" ++ toString port.val))=some ⟨ip,port⟩↔
   ip ≠ "" ∧ ':' ∉ ip.toList∧ip.toList.head?≠some '[' :=parse_plain_iff (plain_text ip port)
 have htarget:nodeTarget (some port.val) (some ip)=some ("http://" ++ (ip ++ ":" ++ toString port.val)):=by
  simp[nodeTarget,String.append_assoc]
 constructor
 · rintro ⟨target,hwritten,hparsed,-⟩
   rw[htarget] at hwritten
   cases hwritten
   exact hparse.mp hparsed
 · intro hip
   refine ⟨_,htarget,hparse.mpr hip,(parse_authority_iff _).mpr ⟨hip.1,?_⟩⟩
   rw[if_neg hip.2.1]
   exact hip.2.2

/-- The host between the brackets begins with another bracket and has no colon. -/
def NestedBracket (target:String):Prop:=
 ∃inner tail,target.toList = "http://[[".toList++(inner ++ ']' :: tail) ∧ ']' ∉ inner ∧ ':' ∉ inner

lemma nestedBracket_iff (hfree : ']' ∉ host)(htarget:
 target.toList = "http://".toList++('[' :: host ++ ']' :: rest)):
 NestedBracket target↔host.head?=some '[' ∧ ':' ∉ host:=by
 constructor
 · rintro ⟨inner,tail,heq,hinner,hcolon⟩
   have hsame:host ++ ']' :: rest = '[' :: inner ++ ']' :: tail:=by
    rw[htarget] at heq
    have heq : '[' :: (host ++ ']' :: rest) = '[' :: ('[' :: inner ++ ']' :: tail):=
     append_cancel_left heq
    exact (List.cons.inj heq).2
   have hleft:splitOnce ']' (host ++ ']' :: rest)=some (host,rest):=
    splitOnce_eq_some_iff.mpr ⟨rfl,hfree⟩
   have hright:=splitOnce_eq_some_iff.mpr ⟨hsame,by simp[hinner]⟩
   obtain ⟨rfl,-⟩:=Prod.mk.inj (some.inj (hleft.symm.trans hright))
   exact ⟨rfl,by simp[hcolon]⟩
 · rintro ⟨hhead,hcolon⟩
   obtain ⟨inner,rfl⟩:=head?_eq_some_iff.mp hhead
   rw[mem_cons,not_or] at hfree hcolon
   exact ⟨inner,rest,htarget,hfree.2,hcolon.2⟩
lemma reparse_iff (h:Upstream.parse target=some u):
 Upstream.parse ("http://" ++ u.authority)=some u↔¬NestedBracket target:=by
 obtain ⟨hne,port,trailing,authority,htarget,hauthority,-,-⟩:=parse_eq_some_iff.mp h
 rw[parse_authority_iff,and_iff_right hne]
 cases hauthority with
 | bracketed hhost=>
  have hform:target.toList = "http://".toList++('[' :: u.host.toList ++ ']' :: (':' :: port++trailing)):=by
   simpa using htarget
  rw[nestedBracket_iff hhost hform]
  split_ifs with hcolon
  · simp[hhost,hcolon]
  · simp[hcolon]
 | plain hhost hhead=>
  rw[if_neg hhost]
  refine ⟨fun _=>?_,fun _=>hhead⟩
  rintro ⟨inner,tail,heq,-,-⟩
  rw[htarget] at heq
  have heq:(u.host.toList ++ ':' :: port)++trailing = '[' :: '[' :: (inner ++ ']' :: tail):=
   append_cancel_left heq
  obtain ⟨c,host,hcons⟩:=exists_cons_of_ne_nil (by simpa using hne:u.host.toList≠[])
  rw[hcons] at heq hhead
  exact hhead (congrArg some (List.cons.inj heq).1)

/-- Which addresses the router can be sent to, and which targets it can write again. -/
theorem targets_routable_iff (ip:String) (port:Fin 65536) (target:String) (u:Upstream):
 (Routable ip port↔ip ≠ "" ∧ ':' ∉ ip.toList∧ip.toList.head?≠some '[')∧
 (Upstream.parse target=some u→
  (Upstream.parse ("http://" ++ u.authority)=some u↔¬NestedBracket target)):=
 ⟨routable_iff ip port,fun h=>reparse_iff h⟩

theorem unroutable_targets:
 (nodeTarget (some 4723) (some "fd00::7")).bind Upstream.parse=none∧
  Upstream.parse "http://[[a]:80" = some ⟨"[a",80⟩∧
  Upstream.parse ("http://" ++ Upstream.authority ⟨"[a",80⟩)=none:=by
 decide
end GridFleet.RouterTargets
