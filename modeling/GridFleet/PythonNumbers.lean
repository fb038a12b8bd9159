import Mathlib.Data.Int.Notation
import Mathlib.Data.List.DropRight
/-! What Python reads as a number. The decimal digits of every script count, as in Unicode 16. -/
namespace GridFleet.PythonNumbers

def decimalZeros:List ℕ:=
 [0x30,0x660,0x6f0,0x7c0,0x966,0x9e6,0xa66,0xae6,0xb66,0xbe6,0xc66,0xce6,0xd66,0xde6,0xe50,0xed0,
  0xf20,0x1040,0x1090,0x17e0,0x1810,0x1946,0x19d0,0x1a80,0x1a90,0x1b50,0x1bb0,0x1c40,0x1c50,0xa620,
  0xa8d0,0xa900,0xa9d0,0xa9f0,0xaa50,0xabf0,0xff10,0x104a0,0x10d30,0x10d40,0x11066,0x110f0,0x11136,
  0x111d0,0x112f0,0x11450,0x114d0,0x11650,0x116c0,0x116d0,0x116da,0x11730,0x118e0,0x11950,0x11bf0,
  0x11c50,0x11d50,0x11da0,0x11f50,0x16130,0x16a60,0x16ac0,0x16b50,0x16d70,0x1ccf0,0x1d7ce,0x1d7d8,
  0x1d7e2,0x1d7ec,0x1d7f6,0x1e140,0x1e2f0,0x1e4f0,0x1e5f1,0x1e950,0x1fbf0]

def isBlank (c:Char):Bool:=
 let n:=c.toNat
 (9≤n&&n≤13)||(0x2000≤n&&n≤0x200a)||
  n∈[0x20,0x85,0xa0,0x1680,0x2028,0x2029,0x202f,0x205f,0x3000]
def digit (base:ℕ)(c:Char):Option ℕ:=
 let decimal:=(decimalZeros.find? fun first=>first≤c.toNat&&c.toNat<first+10).map (c.toNat-·)
 (decimal.or (if c.isAlpha then some (c.toLower.toNat-87) else none)).filter (· <base)

/-- Single underscores may separate the digits. -/
def digits (base acc:ℕ):List Char→Option ℕ
 | []=>some acc
 | '_' :: c::rest | c::rest=>(digit base c).bind fun d=>digits base (acc*base+d) rest

def unsigned (base:ℕ):List Char→Option ℕ
 | []=>none
 | c::rest=>(digit base c).bind fun d=>digits base d rest
def literal (base:ℕ):List Char→Option ℕ
 | '0' :: 'x' :: '_' :: rest | '0' :: 'X' :: '_' :: rest | '0' :: 'x' :: rest | '0' :: 'X' :: rest=>
  if base=16 then unsigned base rest else none
 | text=>unsigned base text

/-- `int(text,base)`, in base ten or sixteen. -/
def parseInt (base:ℕ)(text:List Char):Option ℤ:=
 match (text.dropWhile isBlank).rdropWhile isBlank with
 | '-' :: rest=>(literal base rest).map fun n=>-(n:ℤ)
 | '+' :: rest | rest=>(literal base rest).map fun n=>(n:ℤ)

/-- The nearest float, of an integer: 53 significant bits, ties to even. -/
def nearestDouble (n:ℕ):ℕ:=
 let ulp:=Nat.pow 2 (n.log2-52)
 let twice:=2*(n % ulp)
 (if twice<ulp∨(twice=ulp∧n / ulp % 2=0) then n / ulp else n / ulp+1)*ulp

/-- The value of an integral float, from its `repr`. -/
def floatInt (text:List Char):Option ℤ:=do
 let (mantissa,exponent):=text.span (· ≠ 'e')
 let (whole,fraction):=mantissa.span (· ≠ '.')
 let fraction:=(fraction.drop 1).rdropWhile (· = '0')
 let e ←if exponent=[] then some 0 else parseInt 10 (exponent.drop 1)
 if (fraction.length:ℤ)≤e then
  let n ←parseInt 10 (whole++fraction)
  return n.sign*nearestDouble (n.natAbs*Nat.pow 10 (e-fraction.length).toNat)
 else none

def without (word:List Char):ℕ→List Char→List Char
 | _,[]=>[]
 | skip+1,_::rest=>without word skip rest
 | 0,c::rest=>
  if word.isPrefixOf (c::rest) then without word (word.length-1) rest
  else c::without word 0 rest

/-- `uuid.UUID(text)`, as its 128-bit value. -/
def uuid (text:String):Option ℕ:=
 let isBrace (c:Char):Bool:=c.toNat=0x7b||c.toNat=0x7d
 let hex:=without "uuid:".toList 0 (without "urn:".toList 0 text.toList)
 let hex:=((hex.dropWhile isBrace).rdropWhile isBrace).filter (· ≠ '-')
 if hex.length=32 then (parseInt 16 hex).map Int.toNat else none
end GridFleet.PythonNumbers
