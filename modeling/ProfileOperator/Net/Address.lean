import ProfileOperator.Text.Numeral

/-!
# Network addresses

IP addresses of both versions, an address with a port, and their printed forms.  Of an IPv6 address
the longest run of at least two zero groups, the first of equals, is left out; an address that maps an
IPv4 address ends in its dotted form.
-/

namespace ProfileOperator

namespace Net

structure Ipv4 where
  a : UInt8
  b : UInt8
  c : UInt8
  d : UInt8
deriving DecidableEq, Repr, Inhabited

structure Ipv6 where
  groups : List UInt16
  length_groups : groups.length = 8
deriving DecidableEq

inductive SocketAddress where
  | v4 (ip : Ipv4) (port : UInt16)
  /-- The zone says which link a link-local address belongs to; zero stands for none. -/
  | v6 (ip : Ipv6) (zone : UInt32) (port : UInt16)
deriving DecidableEq

/-! ### Printing -/

def decimal (n : Nat) : List Char :=
  Nat.toDigits 10 n

def hexadecimal (n : Nat) : List Char :=
  Nat.toDigits 16 n

namespace Ipv4

def chars (ip : Ipv4) : List Char :=
  decimal ip.a.toNat ++ '.' :: decimal ip.b.toNat ++ '.' :: decimal ip.c.toNat ++
    '.' :: decimal ip.d.toNat

end Ipv4

/-- A run of zero groups: where it starts and how long it is. -/
structure ZeroRun where
  start : Nat
  length : Nat
deriving DecidableEq, Repr

def leadingZeros (groups : List UInt16) : Nat :=
  (groups.takeWhile (· == 0)).length

/-- The longest run of zero groups, the first of equals, in groups that start at `index`. -/
def longestZeroRun (index : Nat) : List UInt16 -> ZeroRun
  | [] => { start := 0, length := 0 }
  | group :: rest =>
      let here := leadingZeros (group :: rest)
      let later := longestZeroRun (index + 1) rest
      if here ≠ 0 ∧ later.length ≤ here then { start := index, length := here } else later

def groupChars (groups : List UInt16) : List Char :=
  List.intercalate [':'] (groups.map fun group => hexadecimal group.toNat)

namespace Ipv6

def mapped? (ip : Ipv6) : Option Ipv4 :=
  match ip.groups with
  | [0, 0, 0, 0, 0, 0xffff, high, low] =>
      some {
        a := (high >>> 8).toUInt8
        b := high.toUInt8
        c := (low >>> 8).toUInt8
        d := low.toUInt8 }
  | _ => none

def chars (ip : Ipv6) : List Char :=
  match ip.mapped? with
  | some v4 => [':', ':', 'f', 'f', 'f', 'f', ':'] ++ v4.chars
  | none =>
      let run := longestZeroRun 0 ip.groups
      if 1 < run.length then
        groupChars (ip.groups.take run.start) ++ [':', ':'] ++
          groupChars (ip.groups.drop (run.start + run.length))
      else
        groupChars ip.groups

end Ipv6

namespace SocketAddress

def port : SocketAddress -> UInt16
  | .v4 _ port => port
  | .v6 _ _ port => port

def isV6 : SocketAddress -> Bool
  | .v4 .. => false
  | .v6 .. => true

def ipChars : SocketAddress -> List Char
  | .v4 ip _ => ip.chars
  | .v6 ip _ _ => ip.chars

def zoneChars (zone : UInt32) : List Char :=
  if zone = 0 then [] else '%' :: decimal zone.toNat

def chars : SocketAddress -> List Char
  | .v4 ip port => ip.chars ++ ':' :: decimal port.toNat
  | .v6 ip zone port =>
      '[' :: ip.chars ++ zoneChars zone ++ [']', ':'] ++ decimal port.toNat

def ipText (address : SocketAddress) : String :=
  String.ofList address.ipChars

def text (address : SocketAddress) : String :=
  String.ofList address.chars

end SocketAddress

end Net

end ProfileOperator
