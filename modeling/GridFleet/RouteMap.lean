import Mathlib.Data.List.DropRight
/-! A `RouteMap` holds one upstream per session id, each stamped with an insert generation; a rebuild
replaces the map from a backend snapshot but keeps every entry stamped after the rebuild's capture. -/
namespace GridFleet.RouteMap
open List

structure Upstream where
 host:String
 port:Fin 65536
deriving DecidableEq

/-- Split at the first occurrence of `c`, which is dropped. -/
def splitOnce (c:Char)(cs:List Char):Option (List Char×List Char):=
 match cs.span (· != c) with
 | (_,[])=>none
 | (before,_::after)=>some (before,after)

/-- Split at the last occurrence of `c`, which is dropped. -/
def rsplitOnce (c:Char)(cs:List Char):Option (List Char×List Char):=
 (splitOnce c cs.reverse).map fun p=>(p.2.reverse,p.1.reverse)

def digits (cs:List Char):ℕ:=
 cs.foldl (fun n c=>10*n+(c.toNat - '0'.toNat)) 0

/-- The port grammar of an unsigned sixteen-bit parse: an optional plus sign, then digits. -/
def parsePort (cs:List Char):Option (Fin 65536):=
 let body:=match cs with
  | '+' :: rest=>rest
  | _=>cs
 if body≠[]∧body.all Char.isDigit then
  if h:digits body<65536 then some ⟨digits body,h⟩ else none
 else none

def Upstream.parse (target:String):Option Upstream:=do
 let stripped ← "http://".toList.isPrefixOf? target.toList
 let rest:=stripped.rdropWhile (· == '/')
 let (host,port) ←match rest with
  | '[' :: afterBracket=>do
   let (host,tail) ←splitOnce ']' afterBracket
   let port ← [':'].isPrefixOf? tail
   pure (host,port)
  | _=>do
   let (host,port) ←rsplitOnce ':' rest
   -- a remaining ':' is an unbracketed IPv6 literal
   if ':' ∈ host then none else pure (host,port)
 if host=[] then none
 else do
  let port ←parsePort port
  pure {host:=String.ofList host,port:=port}

def Upstream.authority (u:Upstream):String:=
 if ':' ∈ u.host.toList then "[" ++ u.host ++ "]:" ++ toString u.port.val
 else u.host ++ ":" ++ toString u.port.val

example:(Upstream.parse "http://device-host:4723/").map Upstream.authority =
  some "device-host:4723" :=by decide
example:(Upstream.parse "http://[2001:db8::1]:4723/").map Upstream.authority =
  some "[2001:db8::1]:4723" :=by decide
example:Upstream.parse "http://::1:4723" = none:=by decide

structure Entry where
 upstream:Upstream
 insertedGen:ℕ

structure Routes where
 map:String→Option Entry
 insertGen:ℕ

def Routes.empty:Routes:=⟨fun _=>none,0⟩
def Routes.get (m:Routes)(sid:String):Option Upstream:=(m.map sid).map Entry.upstream
def Routes.insert (m:Routes)(sid:String)(u:Upstream):Routes where
 map:=Function.update m.map sid (some ⟨u,m.insertGen+1⟩)
 insertGen:=m.insertGen+1
def Routes.remove (m:Routes)(sid:String):Routes:=
 {m with map:=Function.update m.map sid none}
def Routes.insertGeneration (m:Routes):ℕ:=m.insertGen
def collect (entries:List (String×Upstream))(capturedGen:ℕ):String→Option Entry:=
 entries.foldl (fun next p=>Function.update next p.1 (some ⟨p.2,capturedGen⟩)) fun _=>none

/-- Entries stamped after the capture are overlaid on the snapshot; all others go. -/
def Routes.replaceIfUnchanged (m:Routes)(entries:List (String×Upstream))(capturedGen:ℕ):Routes:=
 { m with
   map:=fun sid=>
    match m.map sid with
    | some e=>if capturedGen<e.insertedGen then some e else collect entries capturedGen sid
    | none=>collect entries capturedGen sid }

lemma collect_snoc (entries:List (String×Upstream))(p:String×Upstream)(g:ℕ):
 collect (entries++[p]) g=Function.update (collect entries g) p.1 (some ⟨p.2,g⟩):=by
 simp only[collect,foldl_append,foldl_cons,foldl_nil]

variable {e:Entry}{g:ℕ}{sid:String}{m:Routes}

variable {entries:List (String×Upstream)}

lemma collect_some (h:collect entries g sid=some e):e.insertedGen=g∧(sid,e.upstream)∈entries:=by
 induction entries using List.reverseRecOn with
 | nil=>simp[collect] at h
 | append_singleton _ p ih=>
  rw[collect_snoc] at h
  by_cases hp:sid=p.1
  · subst hp
    simp only[Function.update_self,Option.some.injEq] at h
    subst h
    exact ⟨rfl,by simp⟩
  · rw[Function.update_of_ne hp] at h
    obtain ⟨hg,hm⟩:=ih h
    exact ⟨hg,mem_append_left _ hm⟩
lemma collect_of_mem {u:Upstream}(h:(sid,u)∈entries):∃e,collect entries g sid=some e:=by
 induction entries using List.reverseRecOn with
 | nil=>simp at h
 | append_singleton _ p ih=>
  rw[collect_snoc]
  by_cases hp:sid=p.1
  · subst hp
    exact ⟨_,Function.update_self _ _ _⟩
  · rw[Function.update_of_ne hp]
    simp only[mem_append,mem_singleton] at h
    rcases h with h|h
    · exact ih h
    · exact absurd (congrArg Prod.fst h) hp
lemma replaceIfUnchanged_some (h:(m.replaceIfUnchanged entries g).map sid=some e):
 (m.map sid=some e∧g<e.insertedGen)∨(e.insertedGen=g∧(sid,e.upstream)∈entries):=by
 simp only[Routes.replaceIfUnchanged] at h
 split at h
 · split at h
   · rename_i old hold hlt
     cases h
     exact .inl ⟨hold,hlt⟩
   · exact .inr (collect_some h)
 · exact .inr (collect_some h)
lemma replaceIfUnchanged_overlay (he:m.map sid=some e)(hg:g<e.insertedGen):
 (m.replaceIfUnchanged entries g).map sid=some e:=by
 simp only[Routes.replaceIfUnchanged,he,hg,↓reduceIte]
lemma replaceIfUnchanged_of_mem {u:Upstream}(hu:(sid,u)∈entries):
 ∃e,(m.replaceIfUnchanged entries g).map sid=some e∧g≤e.insertedGen:=by
 obtain ⟨c,hc⟩:=collect_of_mem (g:=g) hu
 cases he:m.map sid with
 | none=>exact ⟨c,by simp only[Routes.replaceIfUnchanged,he,hc],(collect_some hc).1.ge⟩
 | some e=>
  by_cases hg:g<e.insertedGen
  · exact ⟨e,replaceIfUnchanged_overlay he hg,hg.le⟩
  · exact ⟨c,by simp only[Routes.replaceIfUnchanged,he,hg,↓reduceIte,hc],
     (collect_some hc).1.ge⟩
end GridFleet.RouteMap
