import Courier.Number.Numeral
import Courier.Url.Basic

/-!
# Hosts

A host is an IPv4 address, an IPv6 address in brackets, an ASCII name or an internationalised one.
What looks like an address has to be one.
-/

namespace Courier.Url

open Numeral (isDigit)

/-- Whether a host has the shape of an IPv4 address: four runs of digits with full stops between
them. -/
def looksNumeric (cs : List Char) : Bool :=
  let runs := Text.splitAtAll (· == '.') cs
  runs.length == 4 && runs.all fun run => !run.isEmpty && run.all isDigit

/-- One of the four numbers: at most three digits, no idle zero, at most 255. -/
def octet? (cs : List Char) : Option Nat :=
  if cs.isEmpty || !cs.all isDigit || 3 < cs.length then none
  else if cs != ['0'] && cs.head? == some '0' then none
  else
    let n := Numeral.ofDigits cs
    if 255 < n then none else some n

/-- Whether a text is an IPv4 address. -/
def isIpv4 (cs : List Char) : Bool :=
  let parts := Text.splitAtAll (· == '.') cs
  parts.length == 4 && parts.all fun p => (octet? p).isSome

/-- Whether a text is one of the groups of an IPv6 address. -/
def isHextet (cs : List Char) : Bool :=
  !cs.isEmpty && cs.length ≤ 4 && cs.all fun c => (Text.hexDigit? c).isSome

/-- Whether groups, already cut at colons, make up an address of eight; one empty group inside
stands for those that are left out. -/
def groupsFit (parts : List (List Char)) : Bool :=
  let inner := (parts.drop 1).dropLast
  let gaps := inner.countP List.isEmpty
  let first := parts.head?.getD []
  let last := parts.getLast?.getD []
  if gaps = 0 then parts.length == 8 && parts.all isHextet
  else if gaps = 1 then
    let before := first :: inner.takeWhile (fun p => !p.isEmpty)
    let after := (inner.dropWhile fun p => !p.isEmpty).drop 1 ++ [last]
    let high := if first.isEmpty then before.drop 1 else before
    let low := if last.isEmpty then after.dropLast else after
    (!first.isEmpty || high.isEmpty) && (!last.isEmpty || low.isEmpty) &&
      high.length + low.length < 8 && high.all isHextet && low.all isHextet
  else false

/-- Whether a text is an IPv6 address, with a zone or without. -/
def isIpv6 (cs : List Char) : Bool :=
  let address := cs.takeWhile (· != '%')
  let zone := (cs.dropWhile (· != '%')).drop 1
  let zoneFits := !cs.contains '%' || (!zone.isEmpty && !zone.contains '%')
  let parts := Text.splitAtAll (· == ':') address
  let last := parts.getLast?.getD []
  let dotted := last.contains '.'
  let parts := if dotted then parts.dropLast ++ [['0'], ['0']] else parts
  let size := if dotted then parts.length - 1 else parts.length
  zoneFits && !cs.contains '/' && 3 ≤ size && (!dotted || isIpv4 last) && parts.length ≤ 9 &&
    groupsFit parts

/-- Marks that an ASCII host keeps. -/
def isHostSafe (c : Char) : Bool :=
  "!$&'()*+,;=\"`\x7b\x7d%|\\".toList.contains c

/-- The host as it is kept. -/
def encodeHost (host : String) : Except Error String :=
  let cs := host.toList
  if cs.isEmpty then .ok ""
  else if looksNumeric cs then
    if isIpv4 cs then .ok host else .error (.ipv4 host)
  else if cs.head? == some '[' && cs.getLast? == some ']' && 2 ≤ cs.length then
    let inside := (cs.drop 1).dropLast
    if isIpv6 inside then .ok (String.ofList inside) else .error (.ipv6 host)
  else if Domain.isAscii cs then
    .ok (String.ofList (Text.percentQuote isHostSafe (Text.lowerAscii host).toList))
  else
    match Domain.toAscii? (Text.lower host) with
    | some name => .ok name
    | none => .error (.domain host)

end Courier.Url
