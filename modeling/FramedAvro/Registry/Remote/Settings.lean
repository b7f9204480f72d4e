import FramedAvro.Failure
import FramedAvro.Http.Exchange
import FramedAvro.Url.Parser

/-!
# Settings

How a remote registry is reached: under which URLs, with which headers, and how often it is tried
again. Settings are collected in any order and checked when they are built.

## Main definitions

* `RemoteSettings`: settings that were checked.
* `SettingsBuilder`: settings that are being collected.
* `SettingsBuilder.build`: checking them.
-/

namespace FramedAvro

/-- How a remote registry is reached. There is at least one URL. -/
structure RemoteSettings where
  firstUrl : String
  otherUrls : List String
  authorization : Http.Authorization
  headers : List (String × String)
  maxRetries : Nat

namespace RemoteSettings

/-- The URLs, in the order in which they are tried. -/
def urls (settings : RemoteSettings) : List String :=
  settings.firstUrl :: settings.otherUrls

/-- The URL where nothing is said. -/
def defaultUrl : String := "http://localhost:8080"

/-- How often all URLs are tried again where nothing is said. -/
def defaultRetries : Nat := 3

/-- Settings with one URL and nothing else. -/
def ofUrl (url : String) : RemoteSettings :=
  ⟨url, [], .none, [], defaultRetries⟩

/-- Settings without anything said. -/
def standard : RemoteSettings :=
  ofUrl defaultUrl

end RemoteSettings

/-- Settings that are being collected. -/
structure SettingsBuilder where
  firstUrl : String
  otherUrls : List String
  authorization : Http.Authorization
  headers : Http.Header.Table
  proxy : Option String
  maxRetries : Nat

namespace SettingsBuilder

/-- The start, with a first URL. -/
def ofUrl (url : String) : SettingsBuilder :=
  ⟨url, [], .none, [], none, RemoteSettings.defaultRetries⟩

/-- One more URL, tried after the others. -/
def addUrl (builder : SettingsBuilder) (url : String) : SettingsBuilder :=
  { builder with otherUrls := builder.otherUrls ++ [url] }

/-- Another way to say who calls. -/
def setAuthorization (builder : SettingsBuilder) (authorization : Http.Authorization) :
    SettingsBuilder :=
  { builder with authorization := authorization }

/-- A header for all calls. -/
def addHeader (builder : SettingsBuilder) (name value : String) : SettingsBuilder :=
  { builder with headers := builder.headers.set name value }

/-- A proxy for all calls. -/
def setProxy (builder : SettingsBuilder) (proxy : String) : SettingsBuilder :=
  { builder with proxy := some proxy }

/-- Another number of retries. -/
def setMaxRetries (builder : SettingsBuilder) (maxRetries : Nat) : SettingsBuilder :=
  { builder with maxRetries := maxRetries }

/-- A header with a name that cannot be sent. -/
def badHeaderName (name : String) : Failure :=
  .registry "invalid HTTP header name" ("could not create HeaderName from " ++ name)

/-- A header with a value that cannot be sent. -/
def badHeaderValue (name : String) : Failure :=
  .registry "failed to parse header value" ("could not create HeaderValue for " ++ name)

/-- A proxy that is no URL of a host. -/
def badProxy : Failure :=
  .registry "invalid proxy" "invalid proxy value"

/-- Refuses headers that cannot be sent. -/
def checkHeaders : List (String × String) → Except Failure Unit
  | [] => .ok ()
  | (name, value) :: rest =>
    if !Http.Header.isName name then .error (badHeaderName name)
    else if !Http.Header.isValue value then .error (badHeaderValue name)
    else checkHeaders rest

/-- Whether a URL names a host. -/
def hasHost (url : Url) : Bool :=
  url.host.isSome && url.host ≠ some (.unknown "")

/-- Whether a text is a URL with a host. -/
def isHosted (text : String) : Bool :=
  match Url.parse text with
  | .ok url => hasHost url
  | .error _ => false

/-- Whether a text is a proxy: a URL with a host, the scheme of which may be missing. What stands
before the first colon may look like a scheme and be the host. -/
def isProxy (text : String) : Bool :=
  let withScheme := "http://" ++ text
  match Url.parse text with
  | .ok url => hasHost url || isHosted withScheme
  | .error .noScheme => isHosted withScheme
  | .error _ => false

/-- Refuses what is no proxy. -/
def checkProxy : Option String → Except Failure Unit
  | some text => if isProxy text then .ok () else .error badProxy
  | none => .ok ()

/-- The settings, when the headers are gone through in the given order. -/
def buildInOrder (builder : SettingsBuilder) (headers : List (String × String)) :
    Except Failure RemoteSettings := do
  checkHeaders headers
  checkProxy builder.proxy
  return ⟨builder.firstUrl, builder.otherUrls, builder.authorization, Http.Header.merge headers,
    builder.maxRetries⟩

/-- The settings. -/
def build (builder : SettingsBuilder) : Except Failure RemoteSettings :=
  builder.buildInOrder builder.headers

end SettingsBuilder

end FramedAvro
