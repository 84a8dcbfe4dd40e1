/-!
# Malformed URLs
-/

namespace ResourceTree.Url
set_option autoImplicit false

/-- Why a text is no URL. -/
inductive Fault where
  | noScheme
  | emptyHost
  | badDomain
  | badHostCharacter
  | badIpv4
  | badIpv6
  | badPortNumber
  deriving DecidableEq, Repr

def Fault.message : Fault → String
  | noScheme => "relative URL without a base"
  | emptyHost => "empty host"
  | badDomain => "invalid international domain name"
  | badHostCharacter => "invalid domain character"
  | badIpv4 => "invalid IPv4 address"
  | badIpv6 => "invalid IPv6 address"
  | badPortNumber => "invalid port number"

end ResourceTree.Url
