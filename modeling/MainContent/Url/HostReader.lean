import MainContent.Url.Basic
import MainContent.Url.Domain.Ascii
import MainContent.Url.Encode
import MainContent.Url.Error

/-!
# Reading hosts

A host in brackets is an IPv6 address. Under a special scheme any other host is percent-decoded and
brought to the ASCII form of a domain name, and is an IPv4 address when it ends in a number; under
other schemes it is kept, escaped.
-/

namespace MainContent.Url

/-- The address in a host that begins with a bracket. -/
def readBracketed (inner : List Char) : Except Error Host :=
  match inner.reverse with
  | ']' :: back =>
    match Ipv6.read? back.reverse with
    | some pieces => .ok (.ipv6 pieces)
    | none => .error .ipv6
  | _ => .error .ipv6

/-- The host under a special scheme. -/
def readSpecialHost (cs : List Char) : Except Error Host :=
  match cs with
  | '[' :: inner => readBracketed inner
  | _ =>
    match Domain.ofBytes? (Text.Percent.decode (Text.Utf8.encode cs)) with
    | none => .error .domainName
    | some [] => .error .emptyHost
    | some name =>
      if Ipv4.endsInNumber name then
        match Ipv4.read? name with
        | some address => .ok (.ipv4 address)
        | none => .error .ipv4
      else .ok (.name (String.ofList name))

/-- The characters that no host holds, under whatever scheme. -/
def inNoHost (c : Char) : Bool :=
  "\x00\t\n\r #/:<>?@[\\]^|".toList.contains c

/-- The host under a scheme that is not special. -/
def readOtherHost (cs : List Char) : Except Error Host :=
  match cs with
  | '[' :: inner => readBracketed inner
  | _ =>
    if cs.any inNoHost then .error .domainCharacter
    else .ok (.name (String.ofList (percentEncode inControlSet cs)))

end MainContent.Url
