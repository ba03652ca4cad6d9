import AccessLint.Decimal.Binary
import AccessLint.Web.Domain
import AccessLint.Web.Percent

namespace AccessLint.Web

/-!
# Hosts

The host of a page is a domain name or a numeric address. A numeric address of four bytes is written
with dots. One of eight groups is eight numbers of up to four hexadecimal digits with colons between
them, in which two colons stand for a run of zeros, and the last two numbers can be written as four
bytes with dots.

* `endsInNumber`, `fourParts?` — whether a host must be four bytes, and its normal form;
* `eightGroups?`, `writeGroups` — reads eight groups, and writes their normal form;
* `hostOf?` — the normal form of the host of a page;
* `opaqueHostOf?` — that of a host in a scheme without rules of its own.
-/

/-! ### Four bytes -/

/-- The value of digits in a base up to sixteen. -/
def digitsValue? (base : Nat) (t : Text) : Option Nat :=
  t.foldlM (fun n c => do
    let d ← Text.hexValue? c
    if d < base then some (n * base + d) else none) 0

/-- A part of a numeric address: in base 16 after `0x`, in base 8 after a zero, else in base 10. -/
def addressNumber? (t : Text) : Option Nat :=
  match t with
  | [] => none
  | '0' :: 'x' :: r => digitsValue? 16 r
  | '0' :: r => digitsValue? 8 r
  | t => digitsValue? 10 t

/-- The parts of a host; a dot at its end does not count. -/
def hostParts (host : Text) : List Text :=
  let ps := List.splitOnP (· == '.') host
  if ps.length > 1 && ps.getLast? == some [] then ps.dropLast else ps

/-- Whether a host must be a numeric address. -/
def endsInNumber (host : Text) : Bool :=
  match (hostParts host).getLast? with
  | some p => (!p.isEmpty && p.all Char.isDigit) ||
    (List.isPrefixOf "0x" p && (addressNumber? p).isSome)
  | none => false

/-- A numeric address as four numbers with dots. -/
def dotted (n : Nat) : Text :=
  List.intercalate ['.'] ([n / 16777216, n / 65536 % 256, n / 256 % 256, n % 256].map Text.ofNat)

/-- The address of one to four numbers, of which the last fills all remaining bytes. -/
def fourParts? (host : Text) : Option Text := do
  let ns ← (hostParts host).mapM addressNumber?
  if ns.length > 4 || ns.isEmpty then none
  else
    let last := ns.getLast?.getD 0
    let first := ns.dropLast
    if first.any (255 < ·) || Decimal.twoTo (8 * (5 - ns.length)) ≤ last then none
    else
      let n := (first.zipIdx.map fun (b, i) => b * Decimal.twoTo (8 * (3 - i))).foldl (· + ·) last
      some (dotted n)

/-! ### Eight groups -/

/-- A group of one to four digits. -/
def group? (t : Text) : Option Nat :=
  if 1 ≤ t.length && t.length ≤ 4 && t.all (fun c => (Text.hexValue? c).isSome) then
    some (Text.natOfHex t)
  else none

/-- A byte in decimal digits, without a zero in front. -/
def byte? (t : Text) : Option Nat :=
  if !t.all Char.isDigit || t.isEmpty || (t.head? == some '0' && t.length > 1) then none
  else
    let n := Text.natOfDigits t
    if n < 256 then some n else none

/-- The two groups of four bytes with dots. -/
def fourBytes? (t : Text) : Option (List Nat) :=
  match (List.splitOnP (· == '.') t).mapM byte? with
  | some [a, b, c, d] => some [a * 256 + b, c * 256 + d]
  | _ => none

/-- The groups between colons, of which the last one may be four bytes if `bytesAllowed`. -/
def groups? (bytesAllowed : Bool) (t : Text) : Option (List Nat) :=
  if t.isEmpty then some []
  else
    let ps := List.splitOnP (· == ':') t
    let last := ps.getLast?.getD []
    do
      let ns ← ps.dropLast.mapM group?
      match group? last with
      | some n => return ns ++ [n]
      | none => if bytesAllowed then return ns ++ (← fourBytes? last) else none

/-- Reads an address. -/
def eightGroups? (t : Text) : Option (List Nat) :=
  match Text.findFirst? "::" t with
  | some left => do
    let ls ← groups? false left
    let rs ← groups? true (t.drop (left.length + 2))
    let count := ls.length + rs.length
    if count < 8 then return ls ++ List.replicate (8 - count) 0 ++ rs else none
  | none => (groups? true t).filter fun ns => ns.length == 8

/-- The number of zeros at the start of some groups. -/
def leadingZeros (ns : List Nat) : Nat := (ns.takeWhile (· == 0)).length

/-- Where the longest run of zeros starts; of equals the first. -/
def longestZeros (ns : List Nat) : Nat :=
  (List.range ns.length).foldl (fun best i =>
    if leadingZeros (ns.drop best) < leadingZeros (ns.drop i) then i else best) 0

/-- Groups with colons between them. -/
def joinGroups (ns : List Nat) : Text := List.intercalate [':'] (ns.map (Nat.toDigits 16))

/-- The normal form of an address. A single zero is written as it is. -/
def writeGroups (ns : List Nat) : Text :=
  let start := longestZeros ns
  let count := leadingZeros (ns.drop start)
  if count < 2 then joinGroups ns
  else joinGroups (ns.take start) ++ "::" ++ joinGroups (ns.drop (start + count))

/-! ### Normal forms -/

/-- A numeric address between brackets. -/
def bracketed? (t : Text) : Option Text := do
  let groups ← eightGroups? (← List.isSuffixOf? "]" (← List.isPrefixOf? "[" t))
  return '[' :: writeGroups groups ++ [']']

/-- The normal form of a host: a domain name in ASCII letters, or a numeric address. -/
def hostOf? (t : Text) : Option Text :=
  if t.head? == some '[' then bracketed? t
  else do
    let host ← domainOf? (percentDecode t)
    if host.isEmpty then none
    else if endsInNumber host then fourParts? host
    else return host

/-- Whether a character stays what it is where only control characters are encoded. -/
def isVisible (c : Char) : Bool := 0x20 ≤ c.toNat && c.toNat < 0x7F

/-- The normal form of a host that need not be a domain name. -/
def opaqueHostOf? (t : Text) : Option Text :=
  if t.head? == some '[' then bracketed? t
  else if t.any fun c => c.toNat = 0 || " #/:<>?@[\\]^|".toList.contains c then none
  else some (percentEncode isVisible t)

end AccessLint.Web
