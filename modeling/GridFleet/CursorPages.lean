import GridFleet.IntentReconciler
import GridFleet.OrderedLog
import Mathlib.Data.Prod.Lex
/-! A page is the newest matching rows below a cursor, or the oldest above it; the cursor is the key of a
border row, sealed into an opaque text. -/
namespace GridFleet.CursorPages
open Decision List Option

structure CursorToken where
 timestamp:Instant
 itemId:RowId

namespace CursorToken

def order (t:CursorToken):ℕ ×ₗ ℕ:=toLex (t.timestamp,t.itemId)

lemma order_injective:Function.Injective order:=by
 rintro ⟨a,b⟩ ⟨c,d⟩ h
 cases toLex.injective h
 rfl

instance:LinearOrder CursorToken:=LinearOrder.lift' order order_injective

instance:WellFoundedLT CursorToken:=⟨InvImage.wf order wellFounded_lt⟩

lemma lt_iff {a b:CursorToken}:
 a<b↔a.timestamp<b.timestamp∨a.timestamp=b.timestamp∧a.itemId<b.itemId:=
 Prod.Lex.lt_iff
end CursorToken

inductive CursorPaginationError where
 | invalid (message:String)

def cursorPayload (timestamp id:String):Json:=.obj [("timestamp",.str timestamp),("id",.str id)]

/-- What the tokens take from the standard library. A base64 text fills up its last group of four
with at most three equality signs and has no other. -/
structure CursorCodec (Bytes:Type) extends DatetimeText where
 uuidText:RowId→String
 uuid:String→Option RowId
 pyStr:Json→String
 dumps:Json→Bytes
 loads:Bytes→Option Json
 urlsafeB64encode:Bytes→List Char
 urlsafeB64decode:List Char→Option Bytes
 uuid_uuidText:∀id,uuid (uuidText id)=some id
 pyStr_str:∀text,pyStr (.str text)=text
 loads_dumps:∀t id,loads (dumps (cursorPayload (isoformat t) (uuidText id))) =
  some (cursorPayload (isoformat t) (uuidText id))
 b64decode_b64encode:∀raw,urlsafeB64decode (urlsafeB64encode raw)=some raw
 b64encode_padded:∀json,∃body k,urlsafeB64encode (dumps json)=body++List.replicate k '=' ∧
  body≠[] ∧ '=' ∉ body∧k<4∧4 ∣ body.length+k

def field (payload:Json)(name:String):Option Json:=
 match payload with
 | .obj fields=>(fields.find? fun entry=>entry.1=name).map Prod.snd
 | _=>none

section Tokens
variable {Bytes:Type}(codec:CursorCodec Bytes)

def encodeCursor (token:CursorToken):String:=
 let payload:=cursorPayload (codec.isoformat token.timestamp) (codec.uuidText token.itemId)
 String.ofList ((codec.urlsafeB64encode (codec.dumps payload)).rdropWhile (· = '='))

def decodeCursor (cursor:String):Except CursorPaginationError CursorToken:=
 let padding:=List.replicate (-(cursor.length:ℤ) % 4).toNat '='
 let token:Option CursorToken:=do
  let payload ←(codec.urlsafeB64decode (cursor.toList++padding)).bind codec.loads
  let timestamp ←(textOf (field payload "timestamp")).bind codec.fromisoformat
  let itemId ←(field payload "id").bind fun id=>codec.uuid (codec.pyStr id)
  return ⟨timestamp,itemId⟩
 token.elim (.error (.invalid "Invalid cursor token")) .ok

lemma encodeCursor_padded (token:CursorToken):∃body k,
 codec.urlsafeB64encode (codec.dumps (cursorPayload (codec.isoformat token.timestamp)
  (codec.uuidText token.itemId)))=body++List.replicate k '=' ∧
 encodeCursor codec token=String.ofList body∧body≠[]∧k=(-(body.length:ℤ) % 4).toNat:=by
 obtain ⟨body,k,heq,hne,hclean,hk,hdvd⟩:=codec.b64encode_padded
  (cursorPayload (codec.isoformat token.timestamp) (codec.uuidText token.itemId))
 refine ⟨body,k,heq,?_,hne,by omega⟩
 have hkept:body.reverse.dropWhile (· = '=')=body.reverse:=by
  refine dropWhile_eq_self_iff.mpr fun hl hhead=>hclean ?_
  rw[←of_decide_eq_true hhead]
  exact mem_reverse.mp (getElem_mem _)
 unfold encodeCursor
 dsimp only
 rw[heq,rdropWhile,reverse_append,reverse_replicate,
  dropWhile_append_of_pos (by simp),hkept,reverse_reverse]
lemma encodeCursor_ne_empty (token:CursorToken):encodeCursor codec token ≠ "" :=by
 obtain ⟨body,k,-,hbody,hne,-⟩:=encodeCursor_padded codec token
 simpa[hbody] using hne
lemma decodeCursor_encodeCursor (token:CursorToken):
 decodeCursor codec (encodeCursor codec token)=.ok token:=by
 obtain ⟨body,k,heq,hbody,-,hk⟩:=encodeCursor_padded codec token
 have hpadded:(String.ofList body).toList ++
   List.replicate (-((String.ofList body).length:ℤ) % 4).toNat '=' =
    codec.urlsafeB64encode (codec.dumps (cursorPayload (codec.isoformat token.timestamp)
     (codec.uuidText token.itemId))):=by
  simp[heq,hk]
 rw[hbody,decodeCursor,hpadded,codec.b64decode_b64encode,bind_some,codec.loads_dumps]
 simp[cursorPayload,field,textOf,codec.fromisoformat_isoformat,
  codec.pyStr_str,codec.uuid_uuidText]
end Tokens

inductive Direction where
 | older | newer

structure CursorPage (ρ:Type) where
 items:List ρ
 limit:ℕ
 nextCursor:Option String
 prevCursor:Option String

section Pages
variable {Bytes ρ:Type}(codec:CursorCodec Bytes)(key:ρ→CursorToken)

def keysetOlder (cursor:CursorToken)(row:ρ):Bool:=
 (key row).timestamp<cursor.timestamp||
  (decide ((key row).timestamp=cursor.timestamp)&&decide ((key row).itemId<cursor.itemId))
def keysetNewer (cursor:CursorToken)(row:ρ):Bool:=
 (key row).timestamp > cursor.timestamp||
  (decide ((key row).timestamp=cursor.timestamp)&&decide ((key row).itemId > cursor.itemId))
def ascending (rows:List ρ):List ρ:=rows.insertionSort fun a b=>key a≤key b
def descending (rows:List ρ):List ρ:=rows.insertionSort fun a b=>key b≤key a

/-- The page of some items, with the two look-aheads over the statement without cursor. -/
def pageOf (stmt:List ρ)(limit:ℕ)(items:List ρ):CursorPage ρ:=
 match items.head?,items.getLast? with
 | some firstItem,some lastItem=>
  { items,limit
    nextCursor:=if stmt.any (keysetOlder key (key lastItem)) then
     some (encodeCursor codec (key lastItem)) else none
    prevCursor:=if stmt.any (keysetNewer key (key firstItem)) then
     some (encodeCursor codec (key firstItem)) else none }
 | _,_=>{items:=[],limit,nextCursor:=none,prevCursor:=none}

/-- `decode_cursor(cursor) if cursor else None` -/
def cursorToken (cursor:Option String):Except CursorPaginationError (Option CursorToken):=
 match cursor with
 | none=>.ok none
 | some text=>if text = "" then .ok none else (decodeCursor codec text).map some

/-- The body that the two listings share. -/
def listCursor (stmt:List ρ)(limit:ℕ)(cursor:Option String)(direction:Direction):
 Except CursorPaginationError (CursorPage ρ):=do
 let token ←cursorToken codec cursor
 return pageOf codec key stmt limit <|
  match direction with
  | .older=>(descending key (stmt.filter fun row=>
    token.all fun cursor=>keysetOlder key cursor row)).take limit
  | .newer=>((ascending key (stmt.filter fun row=>
    token.all fun cursor=>keysetNewer key cursor row)).take limit).reverse
end Pages

structure SessionListRow extends Session where
 startedAt:Instant
 /-- The two columns of the outer-joined device. -/
 packId:Option String
 platformId:Option String

structure SessionFilters where
 deviceId:Option DeviceId
 status:Option SessionStatus
 packId:Option String
 platformId:Option String
 startedAfter:Option Instant
 startedBefore:Option Instant
 runId:Option RunId
 active:Bool

def reservedSessionId:String:= "reserved"

def applySessionFilters (filters:SessionFilters)(includeProbes:Bool)(row:SessionListRow):Bool:=
 decide (row.sessionId≠reservedSessionId)&&
  (includeProbes||decide (row.testName≠some StateProjection.probeTestName))&&
  filters.deviceId.all (row.deviceId=some ·)&&filters.status.all (row.status = ·)&&
  filters.packId.all (row.packId=some ·)&&filters.platformId.all (row.platformId=some ·)&&
  filters.startedAfter.all (· ≤ row.startedAt)&&filters.startedBefore.all (row.startedAt ≤ ·)&&
  filters.runId.all (row.runId=some ·)&&(!filters.active||row.endedAt.isNone)

def listSessionsCursor {Bytes:Type}(codec:CursorCodec Bytes)(rows:List SessionListRow)
 (filters:SessionFilters)(limit:ℕ)(cursor:Option String)(direction:Direction)
 (includeProbes:Bool):Except CursorPaginationError (CursorPage SessionListRow):=
 listCursor codec (fun row=>⟨row.startedAt,row.id⟩)
  (rows.filter (applySessionFilters filters includeProbes)) limit cursor direction

structure RunListRow extends TestRun where
 createdAt:Instant

def listRunsCursor {Bytes:Type}(codec:CursorCodec Bytes)(rows:List RunListRow)
 (state:Option RunState)(createdFrom createdTo:Option Instant)(limit:ℕ)
 (cursor:Option String)(direction:Direction):Except CursorPaginationError (CursorPage RunListRow):=
 listCursor codec (fun row=>⟨row.createdAt,row.id⟩)
  (rows.filter fun row=>state.all (row.state = ·)&&createdFrom.all (· ≤ row.createdAt)&&
   createdTo.all (row.createdAt ≤ ·)) limit cursor direction

section Order
variable {Bytes ρ:Type}{codec:CursorCodec Bytes}{key:ρ→CursorToken}{stmt:List ρ}

lemma keysetOlder_eq (c:CursorToken):keysetOlder key c=fun row=>decide (key row<c):=by
 funext row
 simp[keysetOlder,CursorToken.lt_iff]
lemma keysetNewer_eq (c:CursorToken):keysetNewer key c=fun row=>decide (c<key row):=by
 funext row
 simp[keysetNewer,CursorToken.lt_iff,eq_comm]
lemma mem_descending {row:ρ}:row∈descending key stmt↔row∈stmt:=mem_insertionSort _

variable (hkeys:(stmt.map key).Nodup)

include hkeys

lemma eq_of_key_le {x y:ρ}(hx:x∈stmt)(hy:y∈stmt)(hxy:key x≤key y)(hyx:key y≤key x):x=y:=
 inj_on_of_nodup_map hkeys hx hy (le_antisymm hxy hyx)
lemma descending_strict:(descending key stmt).Pairwise fun a b=>key b<key a:=by
 have hnodup:((descending key stmt).map key).Nodup:=
  ((perm_insertionSort _ stmt).map key).nodup_iff.mpr hkeys
 refine (pairwise_insertionSort (fun a b=>key b≤key a) stmt).imp₂ ?_
  (pairwise_map.mp hnodup)
 exact fun a b hle hne=>lt_of_le_of_ne hle hne.symm
lemma ascending_eq:ascending key stmt=(descending key stmt).reverse:=by
 refine List.Perm.eq_of_pairwise (fun x y hx hy hxy hyx=>?_) (pairwise_insertionSort _ _)
  (pairwise_reverse.mpr (pairwise_insertionSort (fun a b=>key b≤key a) stmt)) ?_
 · rw[mem_reverse,mem_descending] at hy
   exact eq_of_key_le hkeys ((mem_insertionSort _).mp hx) hy hxy hyx
 · exact (perm_insertionSort _ stmt).trans
    ((perm_insertionSort _ stmt).symm.trans (reverse_perm _).symm)
lemma descending_filter (p:ρ→Bool):descending key (stmt.filter p)=(descending key stmt).filter p:=
 OrderedLog.insertionSort_filter p fun _ hx _ hy hyx hxy=>eq_of_key_le hkeys hx hy hxy hyx

omit hkeys in
lemma cursorToken_encodeCursor (token:Option CursorToken):
 cursorToken codec (token.map (encodeCursor codec))=.ok token:=by
 cases token with
 | none=>rfl
 | some c=>simp[cursorToken,encodeCursor_ne_empty,decodeCursor_encodeCursor,Except.map]

variable (codec)(limit:ℕ)

lemma listCursor_older (token:Option CursorToken):
 listCursor codec key stmt limit (token.map (encodeCursor codec)) .older =
  .ok (pageOf codec key stmt limit (((descending key stmt).filter fun row=>
   token.all fun c=>decide (key row<c)).take limit)):=by
 rw[←descending_filter hkeys]
 simp only[listCursor,cursorToken_encodeCursor,keysetOlder_eq]
 rfl
lemma listCursor_newer (c:CursorToken):
 listCursor codec key stmt limit (some (encodeCursor codec c)) .newer =
  .ok (pageOf codec key stmt limit (((descending key stmt).filter fun row=>
   decide (c<key row)).reverse.take limit).reverse):=by
 have htoken:cursorToken codec (some (encodeCursor codec c))=.ok (some c):=
  cursorToken_encodeCursor (some c)
 rw[←descending_filter hkeys,←ascending_eq (hkeys.sublist (filter_sublist.map key))]
 simp only[listCursor,htoken,keysetNewer_eq]
 rfl
end Order

section Borders
variable {Bytes ρ:Type}{codec:CursorCodec Bytes}{key:ρ→CursorToken}{stmt items:List ρ}
 {limit:ℕ}{cursor:String}

lemma items_pageOf:(pageOf codec key stmt limit items).items=items:=by
 unfold pageOf
 split
 · rfl
 · rename_i hnone
   cases items with
   | nil=>rfl
   | cons x rest=>exact absurd rfl (hnone x _ rfl)
lemma nextCursor_pageOf:(pageOf codec key stmt limit items).nextCursor=some cursor↔
 ∃last,items.getLast?=some last∧(∃row∈stmt,key row<key last)∧
  encodeCursor codec (key last)=cursor:=by
 cases items with
 | nil=>simp[pageOf]
 | cons x rest=>simp[pageOf,keysetOlder_eq,getLast?_cons]
lemma prevCursor_pageOf:(pageOf codec key stmt limit items).prevCursor=some cursor↔
 ∃first,items.head?=some first∧(∃row∈stmt,key first<key row)∧
  encodeCursor codec (key first)=cursor:=by
 cases items with
 | nil=>simp[pageOf]
 | cons x rest=>simp[pageOf,keysetNewer_eq,getLast?_cons]

variable {above below:List ρ}

lemma key_last_le {l:List ρ}(h:l.Pairwise fun a b=>key b<key a){last row:ρ}
 (hlast:l.getLast?=some last)(hrow:row∈l):key last≤key row:=by
 obtain ⟨init,rfl⟩:=getLast?_eq_some_iff.mp hlast
 rcases mem_append.mp hrow with hbefore|hsame
 · exact ((pairwise_append.mp h).2.2 row hbefore last (by simp)).le
 · rw[mem_singleton.mp hsame]
lemma filter_below (h:(above++below).Pairwise fun a b=>key b<key a){last:ρ}
 (hlast:above.getLast?=some last):
 ((above++below).filter fun row=>decide (key row<key last))=below:=by
 obtain ⟨habove,-,hcross⟩:=pairwise_append.mp h
 rw[filter_append,filter_eq_nil_iff.mpr,filter_eq_self.mpr,nil_append]
 · intro row hrow
   simpa using hcross last (mem_of_getLast? hlast) row hrow
 · intro row hrow
   simpa using key_last_le habove hlast hrow
lemma filter_above (h:(above++below).Pairwise fun a b=>key b<key a){first:ρ}
 (hfirst:below.head?=some first):
 ((above++below).filter fun row=>decide (key first<key row))=above:=by
 obtain ⟨rest,rfl⟩:=head?_eq_some_iff.mp hfirst
 rw[filter_append,filter_eq_self.mpr,filter_eq_nil_iff.mpr,append_nil]
 · intro row hrow
   rcases mem_cons.mp hrow with rfl|hafter
   · simp
   · have hbelow:=(pairwise_append.mp h).2.1
     simpa using ((pairwise_cons.mp hbelow).1 row hafter).le
 · intro row hrow
   simpa using (pairwise_append.mp h).2.2 row hrow first (by simp)
end Borders

/-- The rows of one request, under distinct keys. -/
structure CursorTable {ρ:Type}(key:ρ→CursorToken) where
 rows:List ρ
 keys_distinct:(rows.map key).Nodup

section Following
variable {Bytes ρ:Type}(codec:CursorCodec Bytes){key:ρ→CursorToken}(matching:ρ→Bool)
 (limit:ℕ)

def CursorTable.select (table:CursorTable key):List ρ:=table.rows.filter matching

/-- The page of request `n`, which finds `tables n`; none once a page had no next cursor. -/
def follow (tables:ℕ→CursorTable key):ℕ→Except CursorPaginationError (Option (CursorPage ρ))
 | 0=>(listCursor codec key ((tables 0).select matching) limit none .older).map some
 | n+1=>do
  match (←follow tables n).bind CursorPage.nextCursor with
  | none=>return none
  | some cursor=>
   (listCursor codec key ((tables (n+1)).select matching) limit (some cursor) .older).map some

def CursorTable.below (table:CursorTable key)(token:Option CursorToken):List ρ:=
 (descending key (table.select matching)).filter fun row=>token.all fun c=>decide (key row<c)
def CursorTable.page (table:CursorTable key)(token:Option CursorToken):CursorPage ρ:=
 pageOf codec key (table.select matching) limit ((table.below matching token).take limit)

variable {codec matching limit}{tables:ℕ→CursorTable key}{table:CursorTable key}
 {token:Option CursorToken}{n:ℕ}{page:CursorPage ρ}

lemma select_keys:((table.select matching).map key).Nodup:=
 table.keys_distinct.sublist (filter_sublist.map key)
lemma mem_below {row:ρ}:row∈table.below matching token↔
 row∈table.select matching∧∀c,token=some c→key row<c:=by
 cases token <;> simp[CursorTable.below,mem_descending]
lemma below_strict:(table.below matching token).Pairwise fun a b=>key b<key a:=
 (descending_strict select_keys).filter _
lemma page_eq (table:CursorTable key)(token:Option CursorToken):
 listCursor codec key (table.select matching) limit (token.map (encodeCursor codec)) .older =
  .ok (table.page codec matching limit token):=
 listCursor_older codec select_keys limit token
lemma follow_zero:follow codec matching limit tables 0 =
 .ok (some ((tables 0).page codec matching limit none)):=
 congrArg (Except.map some) (page_eq (tables 0) none)
lemma follow_next (h:follow codec matching limit tables n=.ok (some page)){c:CursorToken}
 (hnext:page.nextCursor=some (encodeCursor codec c)):follow codec matching limit tables (n+1) =
  .ok (some ((tables (n+1)).page codec matching limit (some c))):=by
 have hpage:listCursor codec key ((tables (n+1)).select matching) limit
   (some (encodeCursor codec c)) .older=.ok _:=page_eq (tables (n+1)) (some c)
 rw[follow,h]
 simp only[bind,Except.bind,Option.bind,hnext,hpage]
 rfl
lemma follow_ended (h:follow codec matching limit tables n=.ok (some page))
 (hnext:page.nextCursor=none)(i:ℕ):follow codec matching limit tables (n+(i+1))=.ok none:=by
 induction i with
 | zero=>
  rw[follow,h]
  simp only[bind,Except.bind,Option.bind,hnext]
  rfl
 | succ i ih=>
  rw[←Nat.add_assoc n,follow,ih]
  rfl
lemma mem_page_or (hlimit:1≤limit){row:ρ}(hrow:row∈table.below matching token):
 row∈(table.below matching token).take limit∨
  ∃last,((table.below matching token).take limit).getLast?=some last∧key row<key last:=by
 have hstrict:(table.below matching token).Pairwise fun a b=>key b<key a:=below_strict
 generalize table.below matching token=l at *
 rw[←take_append_drop limit l,pairwise_append] at hstrict
 rw[←take_append_drop limit l] at hrow
 rcases mem_append.mp hrow with htake|hdrop
 · exact .inl htake
 · have hne:l.take limit≠[]:=by
    rintro hnil
    rcases take_eq_nil_iff.mp hnil with hzero|rfl
    · omega
    · simp at hdrop
   have hlast:=getLast?_eq_some_getLast hne
   exact .inr ⟨_,hlast,hstrict.2.2 _ (getLast_mem hne) row hdrop⟩

variable (codec matching limit) in
/-- The pages from request `n` on, which begins below `token`. -/
structure Visits (tables:ℕ→CursorTable key)(n:ℕ)(token:Option CursorToken)
  (visited:List (CursorPage ρ)):Prop where
 pages:∀i,follow codec matching limit tables (n+i)=.ok visited[i]?
 below:∀row∈visited.flatMap CursorPage.items,∀c,token=some c→key row<c
 strict:(visited.flatMap CursorPage.items).Pairwise fun a b=>key b<key a
 complete:∀k,(∀c,token=some c→k<c)→
  (∀i<visited.length,∃row∈(tables (n+i)).select matching,key row=k)→
  ∃row∈visited.flatMap CursorPage.items,key row=k

lemma visits_of_page (hlimit:1≤limit)(ih:∀c,(∀b,token=some b→c<b)→
  follow codec matching limit tables (n+1) =
   .ok (some ((tables (n+1)).page codec matching limit (some c)))→
  ∃visited,Visits codec matching limit tables (n+1) (some c) visited)
 (h:follow codec matching limit tables n=.ok (some ((tables n).page codec matching limit token))):
 ∃rest,Visits codec matching limit tables n token
  ((tables n).page codec matching limit token::rest):=by
 have hitems:((tables n).page codec matching limit token).items =
   ((tables n).below matching token).take limit:=items_pageOf
 have hstrict:(((tables n).below matching token).take limit).Pairwise fun a b=>key b<key a:=
  below_strict.sublist (take_sublist _ _)
 have hmem:∀row∈((tables n).below matching token).take limit,∀c,token=some c→key row<c:=
  fun row hrow=>(mem_below.mp (mem_of_mem_take hrow)).2
 have hpresent:∀k,(∀c,token=some c→k<c)→
   (∃row∈(tables (n+0)).select matching,key row=k)→
   (∃row∈((tables n).below matching token).take limit,key row=k)∨
    ∃last,(((tables n).below matching token).take limit).getLast?=some last∧k<key last∧
     ∃row∈(tables n).select matching,key row<key last:=by
  rintro k hk ⟨row,hrow,rfl⟩
  refine (mem_page_or hlimit (mem_below.mpr ⟨hrow,hk⟩)).imp (fun hin=>⟨row,hin,rfl⟩) ?_
  exact fun ⟨last,hlast,hlt⟩=>⟨last,hlast,hlt,row,hrow,hlt⟩
 cases hnext:((tables n).page codec matching limit token).nextCursor with
 | none=>
  refine ⟨[],?_,by simpa[hitems] using hmem,by simpa[hitems] using hstrict,?_⟩
  · rintro (_|i)
    · exact h
    · exact follow_ended h hnext i
  · intro k hk hall
    rcases hpresent k hk (hall 0 Nat.one_pos) with hin|⟨last,hlast,-,holder⟩
    · simpa[hitems] using hin
    · have hmore:((tables n).page codec matching limit token).nextCursor=some _:=
       nextCursor_pageOf.mpr ⟨last,hlast,holder,rfl⟩
      cases hnext.symm.trans hmore
 | some cursor=>
  obtain ⟨last,hlast,-,rfl⟩:=nextCursor_pageOf.mp hnext
  have hbound:=hmem last (mem_of_getLast? hlast)
  obtain ⟨rest,hrest⟩:=ih (key last) hbound (follow_next h hnext)
  refine ⟨rest,?_,?_,?_,?_⟩
  · rintro (_|i)
    · exact h
    · rw[show n+(i+1)=n+1+i by omega]
      exact hrest.pages i
  · intro row hrow c hc
    rcases mem_append.mp hrow with hfirst|hlater
    · exact hmem row (hitems ▸ hfirst) c hc
    · exact (hrest.below row hlater _ rfl).trans (hbound c hc)
  · rw[flatMap_cons,hitems]
    refine pairwise_append.mpr ⟨hstrict,hrest.strict,fun a ha b hb=>?_⟩
    exact (hrest.below b hb _ rfl).trans_le (key_last_le hstrict hlast ha)
  · intro k hk hall
    rw[flatMap_cons,hitems]
    rcases hpresent k hk (hall 0 (Nat.succ_pos _)) with ⟨row,hin,hkey⟩|⟨last',hlast',hlt,-⟩
    · exact ⟨row,mem_append_left _ hin,hkey⟩
    · cases hlast.symm.trans hlast'
      obtain ⟨row,hrow,hkey⟩:=hrest.complete k (by rintro c ⟨⟩;exact hlt) fun i hi=>by
       rw[show n+1+i=n+(i+1) by omega]
       exact hall (i+1) (Nat.succ_lt_succ hi)
      exact ⟨row,mem_append_right _ hrow,hkey⟩

lemma visits_below (hlimit:1≤limit)(c:CursorToken):∀n,
 follow codec matching limit tables n=.ok (some ((tables n).page codec matching limit (some c)))→
 ∃visited,Visits codec matching limit tables n (some c) visited:=by
 induction c using WellFoundedLT.induction with
 | ind c ih=>
  intro n h
  obtain ⟨rest,hrest⟩:=visits_of_page hlimit (fun b hb=>ih b (hb c rfl) (n+1)) h
  exact ⟨_,hrest⟩

lemma page_step {above below:List ρ}{cursor:String}
 (hrows:descending key (table.select matching)=above++below)
 (hnext:(pageOf codec key (table.select matching) limit (below.take limit)).nextCursor =
  some cursor):∃last first,cursor=encodeCursor codec (key last)∧key first<key last∧
  last∈table.select matching∧0<limit∧limit<below.length∧(below.drop limit).head?=some first∧
  table.below matching (some (key last))=below.drop limit∧
  ((descending key (table.select matching)).filter fun row=>decide (key first<key row)) =
   above++below.take limit:=by
 obtain ⟨last,hlast,⟨older,holder,hlt⟩,rfl⟩:=nextCursor_pageOf.mp hnext
 have hsplit:descending key (table.select matching) =
   (above++below.take limit)++below.drop limit:=by
  rw[append_assoc,take_append_drop,hrows]
 have hstrict:(descending key (table.select matching)).Pairwise fun a b=>key b<key a:=
  descending_strict select_keys
 have hlastMem:last∈above++below.take limit:=
  mem_append_right _ (mem_of_getLast? hlast)
 have hselected:last∈descending key (table.select matching):=
  hsplit ▸ mem_append_left _ hlastMem
 have holder':older∈(descending key (table.select matching)).filter fun row=>
   decide (key row<key last):=by
  simpa[mem_descending] using ⟨holder,hlt⟩
 rw[hsplit] at hstrict
 have hbelow:=filter_below hstrict (by simp[hlast]:(above++below.take limit).getLast?=some last)
 rw[←hsplit] at hbelow
 obtain ⟨first,rest,hfirst⟩:=exists_cons_of_ne_nil (ne_nil_of_mem (hbelow ▸ holder'))
 have hhead:(below.drop limit).head?=some first:=by rw[hfirst];rfl
 refine ⟨last,first,rfl,?_,mem_descending.mp hselected,?_,?_,hhead,hbelow,?_⟩
 · exact (pairwise_append.mp hstrict).2.2 last hlastMem first (by simp[hfirst])
 · rcases limit with _|k
   · simp at hlast
   · exact Nat.succ_pos k
 · exact length_lt_of_drop_ne_nil (by simp[hfirst])
 · rw[hsplit]
   exact filter_above hstrict hhead

lemma follow_succ_inv (h:follow codec matching limit tables (n+1)=.ok (some page)):
 ∃before cursor,follow codec matching limit tables n=.ok (some before)∧
  before.nextCursor=some cursor:=by
 rw[follow] at h
 cases hbefore:follow codec matching limit tables n with
 | error e=>
  rw[hbefore] at h
  cases h
 | ok before=>
  rw[hbefore] at h
  cases hnext:before.bind CursorPage.nextCursor with
  | none=>
   simp only[bind,Except.bind,hnext] at h
   cases h
  | some cursor=>
   obtain ⟨page,rfl,hcursor⟩:=bind_eq_some_iff.mp hnext
   exact ⟨page,cursor,rfl,hcursor⟩

lemma page_of_follow (h:follow codec matching limit (fun _=>table) n=.ok (some page)):
 ∃above below,descending key (table.select matching)=above++below∧
  page=pageOf codec key (table.select matching) limit (below.take limit):=by
 induction n generalizing page with
 | zero=>
  rw[follow_zero] at h
  cases h
  refine ⟨[],descending key (table.select matching),rfl,?_⟩
  simp[CursorTable.page,CursorTable.below]
 | succ n ih=>
  obtain ⟨before,cursor,hbefore,hnext⟩:=follow_succ_inv h
  obtain ⟨above,below,hrows,rfl⟩:=ih hbefore
  obtain ⟨last,first,rfl,-,-,-,-,-,hbelow,-⟩:=page_step hrows hnext
  rw[follow_next hbefore hnext] at h
  cases h
  refine ⟨above++below.take limit,below.drop limit,?_,?_⟩
  · rw[append_assoc,take_append_drop,hrows]
  · rw[CursorTable.page,hbelow]

lemma newer_of_follow {next:CursorPage ρ}
 (h:follow codec matching limit (fun _=>table) n=.ok (some page))
 (hsucc:follow codec matching limit (fun _=>table) (n+1)=.ok (some next)):
 ∃cursor,next.prevCursor=some cursor∧
  listCursor codec key (table.select matching) limit (some cursor) .newer=.ok page:=by
 obtain ⟨before,cursor,hbefore,hnext⟩:=follow_succ_inv hsucc
 cases h.symm.trans hbefore
 obtain ⟨above,below,hrows,rfl⟩:=page_of_follow h
 obtain ⟨last,first,rfl,hlt,hlast,hpos,hlong,hfirst,hbelow,habove⟩:=page_step hrows hnext
 rw[follow_next h hnext] at hsucc
 cases hsucc
 refine ⟨encodeCursor codec (key first),prevCursor_pageOf.mpr ⟨first,?_,⟨last,hlast,hlt⟩,rfl⟩,?_⟩
 · rw[hbelow,head?_take,if_neg (by omega),hfirst]
 · rw[listCursor_newer codec select_keys,habove,reverse_append,
    take_left' (by simp;omega),reverse_reverse]
lemma listCursor_ok {cursor:Option String}{direction:Direction}{stmt:List ρ}
 (h:listCursor codec key stmt limit cursor direction=.ok page):
 ∃items,page=pageOf codec key stmt limit items:=by
 unfold listCursor at h
 cases htoken:cursorToken codec cursor with
 | error e=>
  rw[htoken] at h
  cases h
 | ok token=>
  rw[htoken] at h
  cases h
  exact ⟨_,rfl⟩
end Following

theorem cursor_pagination_complete {Bytes ρ:Type} (codec:CursorCodec Bytes) (key:ρ→ CursorToken)
 (matching:ρ→Bool) {limit:ℕ} (hlimit:1≤limit):
 (∀tables:ℕ→ CursorTable key,∃first rest,
  (∀n,follow codec matching limit tables n=.ok (first::rest)[n]?)∧
  ((first::rest).flatMap CursorPage.items).Pairwise (fun a b=>key b<key a)∧
  ∀k,(∀n<(first::rest).length,∃row∈(tables n).select matching,key row=k)→
   ∃row∈(first::rest).flatMap CursorPage.items,key row=k)∧
 (∀(table:CursorTable key) n page next,
  follow codec matching limit (fun _=>table) n=.ok (some page)→
  follow codec matching limit (fun _=>table) (n+1)=.ok (some next)→
  ∃cursor,next.prevCursor=some cursor∧
   listCursor codec key (table.select matching) limit (some cursor) .newer=.ok page)∧
 ∀(table:CursorTable key) cursor direction page,
  listCursor codec key (table.select matching) limit cursor direction=.ok page→
  (∀first last,page.items.head?=some first→ page.items.getLast?=some last→
   (page.nextCursor.isSome↔∃row∈table.select matching,key row<key last)∧
   (page.prevCursor.isSome↔∃row∈table.select matching,key first<key row))∧
  (page.items=[]→ page.nextCursor=none∧page.prevCursor=none∧
   ∀token,direction=.older→ cursor=token.map (encodeCursor codec)→
    ∀row∈table.select matching,∃c,token=some c∧c≤key row):=by
 refine ⟨fun tables=>?_,fun table n page next=>newer_of_follow,fun table cursor direction page h=>?_⟩
 · obtain ⟨rest,hvisits⟩:=visits_of_page hlimit (fun c _=>visits_below hlimit c 1)
    (follow_zero:follow codec matching limit tables 0=_)
   refine ⟨_,rest,fun n=>?_,hvisits.strict,fun k hk=>hvisits.complete k (by simp) fun i hi=>?_⟩
   · simpa using hvisits.pages n
   · simpa using hk i hi
 · obtain ⟨items,rfl⟩:=listCursor_ok h
   rw[items_pageOf]
   refine ⟨fun first last hfirst hlast=>⟨?_,?_⟩,?_⟩
   · simp[isSome_iff_exists,nextCursor_pageOf,hlast]
   · simp[isSome_iff_exists,prevCursor_pageOf,hfirst]
   · rintro rfl
     refine ⟨rfl,rfl,?_⟩
     rintro token rfl rfl row hrow
     have hempty:(table.below matching token).take limit=[]:=by
      have hsame:=Except.ok.inj ((page_eq table token).symm.trans h)
      simpa[CursorTable.page,items_pageOf] using congrArg CursorPage.items hsame
     by_contra hnone
     push Not at hnone
     have hmem:row∈table.below matching token:=mem_below.mpr ⟨hrow,fun c hc=>hnone c hc⟩
     rcases mem_page_or hlimit hmem with hin|⟨last,hlast,-⟩
     · simp[hempty] at hin
     · simp[hempty] at hlast

/-- Has the laws of the real texts, not their form: texts are told apart by their lengths, which are
counted in groups of four characters. -/
def tallyCodec:CursorCodec (ℕ×ℕ) where
 toDatetimeText:=IntentReconciler.tallyText
 uuidText:=IntentReconciler.tallyText.isoformat
 uuid:=IntentReconciler.tallyText.fromisoformat
 pyStr:=fun
  | .str text=>text
  | _=> ""
 dumps json:=(((textOf (field json "timestamp")).getD "").length,
  ((textOf (field json "id")).getD "").length)
 loads raw:=some (cursorPayload (IntentReconciler.tallyText.isoformat raw.1)
  (IntentReconciler.tallyText.isoformat raw.2))
 urlsafeB64encode raw:=List.replicate (4*raw.1) 'A' ++ List.replicate (4*raw.2+4) 'B'
 urlsafeB64decode text:=some (text.count 'A' / 4,text.count 'B' / 4-1)
 uuid_uuidText:=IntentReconciler.tallyText.fromisoformat_isoformat
 pyStr_str _:=rfl
 loads_dumps t id:=by simp [cursorPayload,field,textOf,IntentReconciler.tallyText]
 b64decode_b64encode raw:=by
  simp [count_replicate]
 b64encode_padded json:=⟨_,0,(append_nil _).symm,by simp,by simp,by decide,by simp;omega⟩

def twoRows:CursorTable (ρ:=CursorToken) id:=⟨[⟨2,1⟩,⟨1,1⟩],by decide⟩
def newerRow:CursorTable (ρ:=CursorToken) id:=⟨[⟨2,1⟩],by decide⟩

theorem shrinking_listing_followed:∃first rest,∀n,
 follow tallyCodec (fun _=>true) 1 (fun n=>if n=0 then twoRows else newerRow) n =
  .ok (first::rest)[n]?:=by
 have hlimit:1≤1:=le_rfl
 obtain ⟨first,rest,hpages,-⟩:=(cursor_pagination_complete tallyCodec id (fun _=>true)
  hlimit).1 fun n=>if n=0 then twoRows else newerRow
 exact ⟨first,rest,hpages⟩

/-- The older row went away before the second request: its page is empty and leads nowhere, although
the row of the first page still matches. -/
theorem emptied_page_has_no_prev_cursor:
 follow tallyCodec (fun _=>true) 1 (fun n=>if n=0 then twoRows else newerRow) 1 =
  .ok (some ⟨[],1,none,none⟩)∧
 (⟨2,1⟩:CursorToken)∈newerRow.select fun _=>true:=by
 refine ⟨(follow_next follow_zero (c:=⟨2,1⟩) ?_).trans rfl,by decide⟩
 exact nextCursor_pageOf.mpr ⟨⟨2,1⟩,rfl,⟨⟨1,1⟩,by decide,by decide⟩,rfl⟩
end GridFleet.CursorPages
