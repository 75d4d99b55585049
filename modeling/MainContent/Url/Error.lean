/-!
# Why a text is no URL

The causes for which reading a URL fails, each with its wording.
-/

namespace MainContent.Url

/-- The causes for which a text is no URL, or for which a URL cannot be changed as asked. -/
inductive Error where
  /-- A URL that needs a host has none. -/
  | emptyHost
  /-- A domain is no valid international domain name. -/
  | domainName
  /-- A port is no number below 65536. -/
  | port
  /-- A host that ends in a number is no IPv4 address. -/
  | ipv4
  /-- A host in brackets is no IPv6 address. -/
  | ipv6
  /-- A host holds a character that no host may hold. -/
  | domainCharacter
  /-- A text without a scheme is read with no base to resolve it against. -/
  | relativeWithoutBase
  /-- A relative text is resolved against a URL whose path cannot be extended. -/
  | relativeToFixedPath
  /-- A host is set on a URL whose path cannot be extended. -/
  | hostOnFixedPath
  /-- A URL is too long to be kept. -/
  | tooLong
  deriving DecidableEq, Repr

/-- The wording of a cause. -/
def Error.message : Error → String
  | .emptyHost => "empty host"
  | .domainName => "invalid international domain name"
  | .port => "invalid port number"
  | .ipv4 => "invalid IPv4 address"
  | .ipv6 => "invalid IPv6 address"
  | .domainCharacter => "invalid domain character"
  | .relativeWithoutBase => "relative URL without a base"
  | .relativeToFixedPath => "relative URL with a cannot-be-a-base base"
  | .hostOnFixedPath => "a cannot-be-a-base URL doesn’t have a host to set"
  | .tooLong => "URLs more than 4 GB are not supported"

end MainContent.Url
