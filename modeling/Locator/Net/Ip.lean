namespace Locator.Net

structure Ipv4 where
  a : UInt8
  b : UInt8
  c : UInt8
  d : UInt8
  deriving DecidableEq

namespace Ipv4

/-- An octet has one to three digits, and no zero in front of another digit. -/
def octet? (digits : List Char) : Option UInt8 :=
  if digits ≠ [] ∧ digits.length ≤ 3 ∧ digits.all Char.isDigit ∧
      (digits.head? = some '0' → digits.length = 1) ∧ Nat.ofDigitChars 10 digits 0 ≤ 255 then
    some (Nat.ofDigitChars 10 digits 0).toUInt8
  else none

def parse? (text : List Char) : Option Ipv4 :=
  match text.splitOn '.' with
  | [a, b, c, d] =>
    match octet? a, octet? b, octet? c, octet? d with
    | some a, some b, some c, some d => some ⟨a, b, c, d⟩
    | _, _, _, _ => none
  | _ => none

def render (ip : Ipv4) : List Char :=
  Nat.toDigits 10 ip.a.toNat ++ '.' :: Nat.toDigits 10 ip.b.toNat ++ '.' ::
    Nat.toDigits 10 ip.c.toNat ++ '.' :: Nat.toDigits 10 ip.d.toNat

end Ipv4

structure Ipv6 where
  groups : List UInt16
  length_groups : groups.length = 8

namespace Ipv6

instance : DecidableEq Ipv6 := fun v w =>
  if h : v.groups = w.groups then
    isTrue (by cases v; cases w; cases h; rfl)
  else isFalse (fun e => h (e ▸ rfl))

def digit? (c : Char) : Option Nat :=
  if c.isDigit then some (c.toNat - '0'.toNat)
  else if 'a' ≤ c ∧ c ≤ 'f' then some (c.toNat - 'a'.toNat + 10)
  else if 'A' ≤ c ∧ c ≤ 'F' then some (c.toNat - 'A'.toNat + 10)
  else none

def hexadecimal? : (high : Nat) → List Char → Option Nat
  | high, [] => some high
  | high, c :: digits =>
    match digit? c with
    | some d => hexadecimal? (16 * high + d) digits
    | none => none

def group? (digits : List Char) : Option UInt16 :=
  if digits = [] ∨ 4 < digits.length then none
  else (hexadecimal? 0 digits).map Nat.toUInt16

def dotted? (text : List Char) : Option (List UInt16) :=
  (Ipv4.parse? text).map fun ip =>
    [(256 * ip.a.toNat + ip.b.toNat).toUInt16, (256 * ip.c.toNat + ip.d.toNat).toUInt16]

def groups? (dots : Bool) : List (List Char) → Option (List UInt16)
  | [] => some []
  | [field] =>
    match group? field with
    | some group => some [group]
    | none => if dots then dotted? field else none
  | field :: fields =>
    match group? field, groups? dots fields with
    | some group, some groups => some (group :: groups)
    | _, _ => none

def side? (dots : Bool) (text : List Char) : Option (List UInt16) :=
  if text = [] then some []
  else
    let fields := text.splitOn ':'
    if fields.length ≤ 8 then groups? dots fields else none

/-- The texts around the first double colon; `before` holds what was passed, last first. -/
def splitGap (before : List Char) : List Char → Option (List Char × List Char)
  | ':' :: ':' :: after => some (before.reverse, after)
  | c :: text => splitGap (c :: before) text
  | [] => none

def ofGroups? (groups : List UInt16) : Option Ipv6 :=
  if h : groups.length = 8 then some ⟨groups, h⟩ else none

/-- A gap stands for one zero group or more. -/
def parse? (text : List Char) : Option Ipv6 :=
  match splitGap [] text with
  | none => (side? true text).bind ofGroups?
  | some (before, after) =>
    match side? false before, side? true after with
    | some high, some low =>
      let missing := 8 - (high.length + low.length)
      if missing = 0 then none else ofGroups? (high ++ List.replicate missing 0 ++ low)
    | _, _ => none

def zeros (groups : List UInt16) : Nat :=
  (groups.takeWhile (· = 0)).length

/-- Where the longest run of zero groups begins, the first of several, and its length. -/
def longestRun (groups : List UInt16) : Nat × Nat :=
  (List.range groups.length).foldl
    (fun best start =>
      if best.2 < zeros (groups.drop start) then (start, zeros (groups.drop start)) else best)
    (0, 0)

def join (groups : List UInt16) : List Char :=
  [':'].intercalate (groups.map fun group => Nat.toDigits 16 group.toNat)

def mapped? (ip : Ipv6) : Option Ipv4 :=
  match ip.groups with
  | [0, 0, 0, 0, 0, 0xFFFF, high, low] =>
    some ⟨(high >>> 8).toUInt8, high.toUInt8, (low >>> 8).toUInt8, low.toUInt8⟩
  | _ => none

/-- The canonical text. Only a run of two groups or more is left out. -/
def render (ip : Ipv6) : List Char :=
  match ip.mapped? with
  | some v4 => "::ffff:".toList ++ v4.render
  | none =>
    let (start, length) := longestRun ip.groups
    if 2 ≤ length then
      join (ip.groups.take start) ++ ':' :: ':' :: join (ip.groups.drop (start + length))
    else join ip.groups

end Ipv6

inductive Ip where
  | v4 (ip : Ipv4)
  | v6 (ip : Ipv6)
  deriving DecidableEq

def Ip.parse? (text : List Char) : Option Ip :=
  match Ipv4.parse? text with
  | some ip => some (.v4 ip)
  | none => (Ipv6.parse? text).map .v6

end Locator.Net
