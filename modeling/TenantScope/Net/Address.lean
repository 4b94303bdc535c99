/- Internet addresses: IPv4, IPv6, and socket addresses to listen on. -/
import TenantScope.Text.Basic
import TenantScope.Text.Split

namespace TenantScope

/-- An IPv4 address as one number of thirty-two bits. -/
structure Ipv4 where
  value : UInt32
  deriving DecidableEq, Repr

/-- An IPv6 address as eight groups of sixteen bits. -/
structure Ipv6 where
  groups : List UInt16
  length_eq : groups.length = 8
  deriving DecidableEq, Repr

namespace Ipv4

def octets (a : Ipv4) : List Nat :=
  let n := a.value.toNat
  [n / 2 ^ 24, n / 2 ^ 16 % 256, n / 2 ^ 8 % 256, n % 256]

/-- The octets in decimal with points between them. -/
def print (a : Ipv4) : Text := Text.join ['.'] (a.octets.map Text.ofNat)

/-- Reads an octet: at most three decimal digits, no needless zero in front, at most 255. -/
def octet? (s : Text) : Option Nat :=
  let n := Text.toNat 10 s
  if s ≠ [] ∧ s.all Char.isDigit ∧ s.length ≤ 3 ∧ n < 256 ∧ (s.head? ≠ some '0' ∨ s.length = 1)
  then some n else none

def ofText? (s : Text) : Option Ipv4 :=
  match (splitAll (· == '.') s).map octet? with
  | [some a, some b, some c, some d] =>
    some ⟨UInt32.ofNat (((a * 256 + b) * 256 + c) * 256 + d)⟩
  | _ => none

end Ipv4

namespace Ipv6

/-- Reads a group: one to four hexadecimal digits. -/
def group? (s : Text) : Option UInt16 :=
  if s ≠ [] ∧ s.length ≤ 4 ∧ s.all (Text.isDigitIn 16) then some (.ofNat (Text.toNat 16 s))
  else none

/-- Reads groups with colons between them; the last may be an IPv4 address, which is two. -/
def groupsOf? : List Text → Option (List UInt16)
  | [] => some []
  | [last] =>
    if last.contains '.' then
      (Ipv4.ofText? last).map fun a =>
        [.ofNat (a.value.toNat / 2 ^ 16), .ofNat (a.value.toNat % 2 ^ 16)]
    else (group? last).map fun g => [g]
  | part :: parts => do return (← group? part) :: (← groupsOf? parts)

/-- Reads the groups of one side of a double colon, which may be empty. -/
def side? (s : Text) : Option (List UInt16) :=
  if s = [] then some [] else groupsOf? (splitAll (· == ':') s)

/-- The texts before and after the first double colon. -/
def splitDouble : Text → Option (Text × Text)
  | ':' :: ':' :: rest => some ([], rest)
  | c :: rest => (splitDouble rest).map fun p => (c :: p.1, p.2)
  | [] => none

/-- Reads an address. A double colon stands for one group of zeros or more, and an embedded IPv4
address stands at the end only. -/
def ofText? (s : Text) : Option Ipv6 :=
  match splitDouble s with
  | none => do
    let groups ← groupsOf? (splitAll (· == ':') s)
    if h : groups.length = 8 then some ⟨groups, h⟩ else none
  | some (before, after) => do
    let head ← if before.contains '.' then none else side? before
    let tail ← side? after
    if h : head.length + tail.length ≤ 7 then
      some ⟨head ++ List.replicate (8 - (head.length + tail.length)) 0 ++ tail, by
        simp only [List.length_append, List.length_replicate]; omega⟩
    else none

/-- The position and length of the longest run of zeros, the first on a tie. -/
def longestRun : (index : Nat) → List UInt16 → Nat × Nat
  | _, [] => (0, 0)
  | index, g :: groups =>
    let here := ((g :: groups).takeWhile (· = 0)).length
    let later := longestRun (index + 1) groups
    if later.2 ≤ here then (index, here) else later

/-- Groups in hexadecimal with colons between them. -/
def printGroups (groups : List UInt16) : Text :=
  Text.join [':'] (groups.map fun g => Text.hex g.toNat)

/-- The groups in hexadecimal, with the longest run of two zeros or more left out. -/
def print (a : Ipv6) : Text :=
  let (start, length) := longestRun 0 a.groups
  if 2 ≤ length then
    printGroups (a.groups.take start) ++ [':', ':'] ++ printGroups (a.groups.drop (start + length))
  else printGroups a.groups

/-- The text of an address with an embedded IPv4 address written as one. -/
def printMapped (a : Ipv6) : Text :=
  match a.groups with
  | [0, 0, 0, 0, 0, 0xFFFF, high, low] =>
    "::ffff:".toList ++ (Ipv4.mk (.ofNat (high.toNat * 2 ^ 16 + low.toNat))).print
  | _ => a.print

end Ipv6

/-- An address to listen on. -/
inductive SocketAddress
  | v4 (host : Ipv4) (number : UInt16)
  | v6 (host : Ipv6) (scope : UInt32) (number : UInt16)
  deriving DecidableEq, Repr

namespace SocketAddress

/-- Reads a decimal number below a bound; zeros may stand in front, but no sign. -/
def decimalBelow? (bound : Nat) (s : Text) : Option Nat :=
  let n := Text.toNat 10 s
  if s ≠ [] ∧ s.all Char.isDigit ∧ n < bound then some n else none

/-- Reads an IPv6 address with an optional numeric scope. -/
def scoped? (s : Text) : Option (Ipv6 × UInt32) :=
  match splitFirst (· == '%') s with
  | (host, none) => (Ipv6.ofText? host).map fun a => (a, 0)
  | (host, some scope) => do
    let a ← Ipv6.ofText? host
    let n ← decimalBelow? (2 ^ 32) scope
    return (a, .ofNat n)

/-- Reads a socket address: an IPv4 address or an IPv6 address in brackets, a colon and a
number. -/
def ofText? : Text → Option SocketAddress
  | '[' :: s =>
    match splitFirst (· == ']') s with
    | (host, some (':' :: number)) => do
      let (a, scope) ← scoped? host
      let n ← decimalBelow? (2 ^ 16) number
      return .v6 a scope (.ofNat n)
    | _ => none
  | s =>
    match splitFirst (· == ':') s with
    | (host, some number) => do
      let a ← Ipv4.ofText? host
      let n ← decimalBelow? (2 ^ 16) number
      return .v4 a (.ofNat n)
    | _ => none

/-- The canonical text of a socket address. -/
def print : SocketAddress → Text
  | .v4 host number => host.print ++ ':' :: Text.ofNat number.toNat
  | .v6 host scope number =>
    '[' :: host.printMapped ++
      (if scope = 0 then [] else '%' :: Text.ofNat scope.toNat) ++ "]:".toList ++
      Text.ofNat number.toNat

end SocketAddress
end TenantScope
