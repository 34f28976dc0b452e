import ProfileOperator.Net.Address

/-!
# Reading network addresses

Each reader takes the characters that are left and gives back what it read together with the rest, or
nothing if the text does not start with what it looks for.  Octets have no leading zeros; groups have
up to four hexadecimal digits; the last two groups may be written as an IPv4 address; `::` stands for
one zero group or more.
-/

namespace ProfileOperator

namespace Net

def readChar (c : Char) : List Char -> Option (List Char)
  | [] => none
  | c' :: rest => if c' = c then some rest else none

def readNumber (base limit : Nat) (cs : List Char) : Option (Nat × List Char) :=
  let (digits, rest) := Text.spanDigits base cs
  if digits = [] ∨ limit < Text.numeralValue base digits then none
  else some (Text.numeralValue base digits, rest)

/-- Read an octet: up to three digits and no zero in front of others. -/
def readOctet (cs : List Char) : Option (UInt8 × List Char) :=
  let digits := (Text.spanDigits 10 cs).1
  if 3 < digits.length ∨ (digits.head? = some '0' ∧ 1 < digits.length) then none
  else (readNumber 10 255 cs).map fun (n, rest) => (n.toUInt8, rest)

def readIpv4 (cs : List Char) : Option (Ipv4 × List Char) := do
  let (a, cs) ← readOctet cs
  let cs ← readChar '.' cs
  let (b, cs) ← readOctet cs
  let cs ← readChar '.' cs
  let (c, cs) ← readOctet cs
  let cs ← readChar '.' cs
  let (d, cs) ← readOctet cs
  some ({ a := a, b := b, c := c, d := d }, cs)

def readGroup (cs : List Char) : Option (UInt16 × List Char) :=
  if 4 < (Text.spanDigits 16 cs).1.length then none
  else (readNumber 16 0xffff cs).map fun (n, rest) => (n.toUInt16, rest)

def Ipv4.toGroups (ip : Ipv4) : List UInt16 :=
  [ip.a.toUInt16 <<< 8 ||| ip.b.toUInt16, ip.c.toUInt16 <<< 8 ||| ip.d.toUInt16]

structure GroupsRead where
  groups : List UInt16
  dotted : Bool
  rest : List Char

/-- Read the separator before every group but the first. -/
def readSeparator (first : Bool) (cs : List Char) : Option (List Char) :=
  if first then some cs else readChar ':' cs

/-- Read up to a number of groups, as many as there are. -/
def readGroups (first : Bool) : Nat -> List Char -> GroupsRead
  | 0, cs => { groups := [], dotted := false, rest := cs }
  | room + 1, cs =>
      let dotted :=
        if 0 < room then (readSeparator first cs).bind readIpv4 else none
      match dotted with
      | some (ip, rest) => { groups := ip.toGroups, dotted := true, rest := rest }
      | none =>
          match (readSeparator first cs).bind readGroup with
          | some (group, rest) =>
              let more := readGroups false room rest
              { more with groups := group :: more.groups }
          | none => { groups := [], dotted := false, rest := cs }

def Ipv6.ofGroups? (groups : List UInt16) : Option Ipv6 :=
  if h : groups.length = 8 then some { groups := groups, length_groups := h } else none

def readIpv6 (cs : List Char) : Option (Ipv6 × List Char) :=
  let head := readGroups true 8 cs
  if head.groups.length = 8 then
    (Ipv6.ofGroups? head.groups).map (·, head.rest)
  else if head.dotted then
    none
  else do
    let cs ← readChar ':' head.rest
    let cs ← readChar ':' cs
    let tail := readGroups true (7 - head.groups.length) cs
    let zeros := List.replicate (8 - head.groups.length - tail.groups.length) 0
    (Ipv6.ofGroups? (head.groups ++ zeros ++ tail.groups)).map (·, tail.rest)

def readPort (cs : List Char) : Option (UInt16 × List Char) := do
  let cs ← readChar ':' cs
  let (n, cs) ← readNumber 10 0xffff cs
  some (n.toUInt16, cs)

/-- Read a zone and the percent sign before it, if they are there. -/
def readZone (cs : List Char) : UInt32 × List Char :=
  match (readChar '%' cs).bind (readNumber 10 0xffffffff) with
  | some (n, rest) => (n.toUInt32, rest)
  | none => (0, cs)

def readV4 (cs : List Char) : Option (SocketAddress × List Char) := do
  let (ip, cs) ← readIpv4 cs
  let (port, cs) ← readPort cs
  some (.v4 ip port, cs)

def readV6 (cs : List Char) : Option (SocketAddress × List Char) := do
  let cs ← readChar '[' cs
  let (ip, cs) ← readIpv6 cs
  let (zone, cs) := readZone cs
  let cs ← readChar ']' cs
  let (port, cs) ← readPort cs
  some (.v6 ip zone port, cs)

def SocketAddress.ofChars? (cs : List Char) : Option SocketAddress :=
  match (readV4 cs).or (readV6 cs) with
  | some (address, []) => some address
  | _ => none

end Net

end ProfileOperator
