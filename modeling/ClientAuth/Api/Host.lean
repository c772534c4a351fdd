import ClientAuth.Api.Percent
import ClientAuth.Api.UrlFault
import ClientAuth.Number.Numeral
import ClientAuth.Text.Case

/-! Hosts: names, and addresses of both versions. -/
namespace ClientAuth.Host

/-- Whether a part of an address in dotted form is a number up to 255 without
leading zeros. -/
def isOctet (part : List Char) : Bool :=
  match Numeral.run 0 0 part with
  | (value, count, []) =>
      0 < count && count ≤ 3 && value ≤ 255 && (count = 1 || part.head? ≠ some '0')
  | _ => false

/-- Whether a text is an address of four octets. -/
def isDotted (text : List Char) : Bool :=
  let parts := Text.splitOn '.' text
  parts.length = 4 && parts.all isOctet

/-- Whether a text is four runs of digits with full stops between them. Such a
host has to be an address. -/
def isNumeric (text : List Char) : Bool :=
  let parts := Text.splitOn '.' text
  parts.length = 4 && parts.all fun part =>
    !part.isEmpty && part.all fun c => (Numeral.digit? c).isSome

/-- Whether a text is a group of an address of version 6. -/
def isGroup (part : List Char) : Bool :=
  !part.isEmpty && part.length ≤ 4 && part.all fun c =>
    (Numeral.digit? c).isSome || ('a' ≤ Numeral.lower c && Numeral.lower c ≤ 'f')

/-- The number of groups in a list of parts, if all are groups. An address in
dotted form may stand last, for two groups. -/
def groupCount? (mayEndDotted : Bool) : List (List Char) → Option Nat
  | [] => some 0
  | [part] =>
      if isGroup part then some 1 else if mayEndDotted && isDotted part then some 2 else none
  | part :: rest => if isGroup part then (groupCount? mayEndDotted rest).map (· + 1) else none

/-- The parts before and after the first pair of colons, if there is one. -/
def splitGap : List Char → Option (List Char × List Char)
  | [] => none
  | ':' :: ':' :: rest => some ([], rest)
  | c :: rest => (splitGap rest).map fun (before, after) => (c :: before, after)

/-- The parts between colons; no text has no parts. -/
def groups (text : List Char) : List (List Char) :=
  if text.isEmpty then [] else Text.splitOn ':' text

/-- Whether a text is an address of version 6, perhaps with a zone. A pair of
colons stands for at least one group. -/
def isColoned (text : List Char) : Bool :=
  let address := text.takeWhile (· ≠ '%')
  let zone := text.dropWhile (· ≠ '%')
  let zoneIsGood := zone.isEmpty || (1 < zone.length && '%' ∉ zone.drop 1)
  zoneIsGood &&
    match splitGap address with
    | some (before, after) =>
        match groupCount? false (groups before), groupCount? true (groups after) with
        | some first, some last => first + last ≤ 7
        | _, _ => false
    | none => groupCount? true (groups address) = some 8

/-- The normal form of a host. Brackets around an address are left out, and a
name beyond ASCII takes its ASCII form. -/
def normal (host : List Char) : Except UrlFault (List Char) :=
  let shown := String.ofList host
  if host.isEmpty then .ok []
  else if isNumeric host then if isDotted host then .ok host else .error (.badDotted shown)
  else if host.head? = some '[' && host.getLast? = some ']' then
    let address := (host.drop 1).dropLast
    if isColoned address then .ok address else .error (.badColoned shown)
  else if host.all (·.toNat < 128) then
    .ok (Percent.encode Percent.isHostSafe (host.map Numeral.lower))
  else
    match Name.ascii (Text.lower shown).toList with
    | .ok name => .ok name
    | .error _ => .error (.badName shown)

end ClientAuth.Host
