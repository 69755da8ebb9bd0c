/-
Values as they stand in logs.

A log may be seen by others, so no text here contains a password: a field that
holds one is hidden or left out.  `Text.quoted` keeps a text on one line.
-/
import Provision.App.State
import Provision.Error
import Provision.Headless.Run
import Provision.Text.Quoted

namespace Provision.Debug

open Text (quoted)

/-- A constructor with named fields; `more` says that there are others. -/
def record (name : String) (fields : List (String × String)) (more : Bool := false) : String :=
  let shown := fields.map fun (field, value) => field ++ ": " ++ value
  name ++ " \x7b " ++ String.intercalate ", " (shown ++ if more then [".."] else []) ++ " \x7d"

/-- What stands in place of a password. -/
def hidden : String := quoted "<redacted>"

/-- A value that may be missing. -/
def optional (render : α → String) : Option α → String
  | some a => "Some(" ++ render a ++ ")"
  | none => "None"

def protocol (p : Protocol) : String :=
  match p with
  | .outline => "Outline"
  | .openConnect => "OpenConnect"
  | .xray => "Xray"

def field : Field → String
  | .protocol => "Protocol"
  | .remoteAddress => "RemoteAddress"
  | .username => "Username"
  | .password => "Password"
  | .vpnUsername => "VpnUsername"
  | .vpnPassword => "VpnPassword"

def account (a : Account) : String :=
  record "VpnCredentials" [("username", quoted a.username), ("password", hidden)]

def request (r : Request) : String :=
  record "ServerConfig"
    [("remote_address", quoted r.address), ("username", quoted r.username), ("password", hidden),
      ("protocol", protocol r.protocol), ("vpn_credentials", optional account r.account)]

def filling (r : Headless.Filling) : String :=
  record "HeadlessRequest"
    [("protocol", optional protocol r.protocol), ("address", quoted r.address),
      ("username", quoted r.username), ("vpn_username", optional quoted r.vpnUsername)] true

def action : Action → String
  | .start endpoint _ => record "StartSession" [("endpoint", quoted endpoint)] true
  | .close => "CloseSession"

def form (f : Form) : String :=
  record "SettingsForm"
    [("protocol", protocol f.protocol), ("remote_address", quoted f.remoteAddress.value),
      ("username", quoted f.username.value), ("vpn_username", quoted f.vpnUsername.value),
      ("focus", field f.focus)] true

/-- A place in a JSON text and what is wrong there. -/
def fault (f : Json.Fault) : String :=
  "Error(" ++ String.intercalate ", "
    [quoted f.cause.message, "line: " ++ toString f.line, "column: " ++ toString f.column] ++ ")"

def error : Error → String
  | .io message =>
    "Io(" ++ record "Custom" [("kind", "Other"), ("error", quoted message)] ++ ")"
  | .json f => "Json(" ++ fault f ++ ")"
  | .terminal message => record "Terminal" [("message", quoted message)]
  | .connection target reason =>
    record "Connection" [("target", quoted target), ("reason", quoted reason)]
  | .transport message => record "Transport" [("message", quoted message)]
  | .protocol message => record "Protocol" [("message", quoted message)]
  | .configInvalid message => record "ConfigInvalid" [("message", quoted message)]
  | .validation field reason =>
    record "Validation" [("field", quoted field), ("reason", quoted reason)]
  | .channelClosed => "ChannelClosed"

end Provision.Debug
