/-!
What can be wrong with the text of a URL.
-/

namespace ArrayTransfer

/-- Why a text is no absolute URL. -/
inductive UrlError where
  | relative
  | emptyHost
  | invalidPort
  | invalidName
  | invalidCharacter
  | invalidIPv4
  | invalidIPv6
  deriving DecidableEq

def UrlError.message : UrlError → String
  | relative => "relative URL without a base"
  | emptyHost => "empty host"
  | invalidPort => "invalid port number"
  | invalidName => "invalid international domain name"
  | invalidCharacter => "invalid domain character"
  | invalidIPv4 => "invalid IPv4 address"
  | invalidIPv6 => "invalid IPv6 address"

end ArrayTransfer
