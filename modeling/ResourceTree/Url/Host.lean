import ResourceTree.Url.Address
import ResourceTree.Url.Basic
import ResourceTree.Url.Domain
import ResourceTree.Url.Escape
import ResourceTree.Url.Fault

/-!
# Hosts

A host in brackets is an address of eight pieces. The host of a special URL is a domain name in
ASCII, or an address of four bytes; any other host is kept with escapes.
-/

namespace ResourceTree.Url
set_option autoImplicit false

/-- The host between brackets. -/
def bracketedHost (s : List Char) : Except Fault String :=
  if s.getLast? = some ']' then
    match ipv6? s.dropLast with
    | some address => .ok ("[" ++ address ++ "]")
    | none => .error .badIpv6
  else .error .badIpv6

/-- The host of a special URL. -/
def specialHost : List Char → Except Fault String
  | '[' :: rest => bracketedHost rest
  | s =>
    let bytes := unescape (String.ofList s).toUTF8.toList
    match (String.fromUTF8? ⟨bytes.toArray⟩).bind fun t => Domain.toAscii? t.toList with
    | none => .error .badDomain
    | some [] => .error .emptyHost
    | some domain =>
      if endsInNumber domain then
        match ipv4? domain with
        | some address => .ok address
        | none => .error .badIpv4
      else .ok (String.ofList domain)

/-- The host of any other URL. -/
def generalHost : List Char → Except Fault String
  | '[' :: rest => bracketedHost rest
  | s =>
    if s.any "\x00\t\n\r #/:<>?@[\\]^|".toList.contains then .error .badHostCharacter
    else .ok (escape .controls s)

def host (family : Family) (s : List Char) : Except Fault String :=
  if family.isSpecial then specialHost s else generalHost s

end ResourceTree.Url
