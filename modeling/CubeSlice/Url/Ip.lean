import CubeSlice.Number.Power
import CubeSlice.Text.Digits

/-!
# Numeric hosts

Hosts that are Internet addresses. The parts of an IPv4 host may be decimal, octal behind `0` or
hexadecimal behind `0x`, and a last part fills all bytes that are left. An IPv6 host has eight
groups of up to four hexadecimal digits, of which one run may be cut out, and may end in four
decimal bytes.
-/

namespace CubeSlice.Url

open Text

namespace Ipv4

def tooLarge : Nat := twoTo 32

/-- The number that a part stands for; whatever is too large counts as one number. -/
def partValue? : List Char → Option Nat
  | [] => none
  | '0' :: 'x' :: cs => cappedNatOf? tooLarge 16 cs
  | '0' :: 'X' :: cs => cappedNatOf? tooLarge 16 cs
  | '0' :: c :: cs => cappedNatOf? tooLarge 8 (c :: cs)
  | cs => cappedNatOf? tooLarge 10 cs

def parts (host : List Char) : List (List Char) :=
  let ps := fields '.' host
  if 1 < ps.length && ps.getLast? == some [] then ps.dropLast else ps

def endsInNumber (host : List Char) : Bool :=
  match (parts host).getLast? with
  | some last => !last.isEmpty && (last.all Char.isDigit || (partValue? last).isSome)
  | none => false

def isValid (host : List Char) : Bool :=
  match (parts host).mapM partValue? with
  | none => false
  | some values =>
    values.length ≤ 4 && values.dropLast.all (· ≤ 255) &&
      values.getLast?.all (· < twoTo (8 * (5 - values.length)))

def isDotted (cs : List Char) : Bool :=
  let ps := fields '.' cs
  ps.length == 4 && ps.all fun p =>
    !p.isEmpty && p.all Char.isDigit && (p.length == 1 || p.head? != some '0') &&
      (natOf? 10 p).any (· ≤ 255)

end Ipv4

namespace Ipv6

/-- Whether groups can follow after `count` groups, of which the cut-out run is one. -/
def groupsFrom (count : Nat) (cut : Bool) (cs : List Char) : Bool :=
  match cs with
  | [] => cut || count == 8
  | ':' :: rest => count < 8 && !cut && groupsFrom (count + 1) true rest
  | c :: rest =>
    let group := ((c :: rest).take 4).takeWhile isHexDigit
    if group.isEmpty || 8 ≤ count then false
    else
      match (c :: rest).drop group.length with
      | [] => cut || count == 7
      | ':' :: more =>
        if more.isEmpty then false
        else if more.length < rest.length + 1 then groupsFrom (count + 1) cut more
        else false
      | '.' :: _ => count ≤ 6 && Ipv4.isDotted (c :: rest) && (cut || count == 6)
      | _ => false
termination_by cs.length
decreasing_by
  · simp
  · simpa using ‹more.length < rest.length + 1›

def isValid (cs : List Char) : Bool :=
  match cs with
  | ':' :: ':' :: rest => groupsFrom 1 true rest
  | ':' :: _ => false
  | cs => groupsFrom 0 false cs

end Ipv6

end CubeSlice.Url
