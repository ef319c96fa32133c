import SparkFleet.Text.Blank

/-!
# Hosts

A workspace is reached at a base URL.  It is made of a host as people write it: white space around
it and slashes at its end do not count, and a host without a scheme is reached over TLS.
-/

namespace SparkFleet.Http

/-- What stands between a scheme and the rest of a URL. -/
def schemeMark : List Char := "://".toList

/-- Whether a text has a scheme. -/
def hasScheme : List Char → Bool
  | [] => false
  | c :: rest => schemeMark.isPrefixOf (c :: rest) || hasScheme rest

/-- A host as characters, without white space around it and slashes at its end. -/
def hostChars (host : String) : List Char :=
  Text.dropEnd (· == '/') (Text.trimChars host.toList)

/-- The base URL of a host. -/
def baseUrl (host : String) : String :=
  let chars := hostChars host
  String.ofList (if hasScheme chars then chars else "https://".toList ++ chars)

end SparkFleet.Http
