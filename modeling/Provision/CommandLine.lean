/-
The command line.

Options have a value, given after `=` or as the next argument; flags have none.
Each may be given once, and most make sense in a headless run only.  Reading
goes from left to right and stops at the first fault, or where help or the
version is asked for.  A value is checked when the next argument begins an
option or when there is none, so a later argument that cannot be read may be
found first.
-/
import Provision.Headless.Run
import Provision.Request.Command

namespace Provision.CommandLine

/-- The options and flags. -/
inductive Opt where
  | endpoint
  | config
  | headless
  | protocol
  | address
  | username
  | password
  | vpnUsername
  | vpnPassword
  | help
  | version
  deriving DecidableEq, Repr

namespace Opt

/-- Every option, in the order of the help text. -/
def all : List Opt :=
  [endpoint, config, headless, protocol, address, username, password, vpnUsername, vpnPassword,
    help, version]

/-- The name after two hyphens. -/
def name : Opt → String
  | endpoint => "endpoint"
  | config => "config"
  | headless => "headless"
  | protocol => "protocol"
  | address => "address"
  | username => "username"
  | password => "password"
  | vpnUsername => "vpn-username"
  | vpnPassword => "vpn-password"
  | help => "help"
  | version => "version"

/-- The letter after one hyphen. -/
def letter? : Opt → Option Char
  | help => some 'h'
  | version => some 'V'
  | _ => none

/-- What stands for the value. -/
def value? : Opt → Option String
  | endpoint => some "URL"
  | config => some "PATH"
  | protocol => some "PROTOCOL"
  | address => some "HOST"
  | username => some "USERNAME"
  | password => some "PASSWORD"
  | vpnUsername => some "VPN_USERNAME"
  | vpnPassword => some "VPN_PASSWORD"
  | headless | help | version => none

/-- What the help text says. -/
def purpose : Opt → String
  | endpoint => "Backend WebSocket URL (overrides VPNATOR_ENDPOINT and the config file)"
  | config => "Path to config.toml"
  | headless => "Submit one request and print NDJSON events instead of the TUI"
  | protocol => "VPN protocol: outline, openconnect, or xray"
  | address => "Remote server address, host or host:port"
  | username => "SSH username on the remote server"
  | password => "SSH password on the remote server"
  | vpnUsername => "VPN account username (openconnect)"
  | vpnPassword => "VPN account password (openconnect)"
  | help => "Print help"
  | version => "Print version"

/-- Needs a headless run. -/
def needsHeadless : Opt → Bool
  | protocol | address | username | password | vpnUsername | vpnPassword => true
  | _ => false

/-- The option as messages name it. -/
def display (o : Opt) : String :=
  "--" ++ o.name ++ (o.value?.map fun v => " <" ++ v ++ ">").getD ""

end Opt

/-- What is wrong with a command line. -/
inductive Fault where
  /-- No option has this name, or no argument belongs here. -/
  | unexpected (arg : String)
  | missingValue (opt : Opt)
  /-- A flag was given a value. -/
  | unexpectedValue (opt : Opt) (value : String)
  | invalidValue (opt : Opt) (value reason : String)
  | repeated (opt : Opt)
  /-- Options without the flag they need. -/
  | missing (opts : List Opt)
  deriving DecidableEq, Repr

/-- The wording of a fault. -/
def Fault.message : Fault → String
  | unexpected arg => "unexpected argument '" ++ arg ++ "' found"
  | missingValue opt => "a value is required for '" ++ opt.display ++ "' but none was supplied"
  | unexpectedValue opt value =>
    "unexpected value '" ++ value ++ "' for '" ++ opt.display ++ "' found; no more were expected"
  | invalidValue opt value reason =>
    "invalid value '" ++ value ++ "' for '" ++ opt.display ++ "': " ++ reason
  | repeated opt => "the argument '" ++ opt.display ++ "' cannot be used multiple times"
  | missing opts =>
    "the following required arguments were not provided:" ++
      String.join (opts.map fun opt => "\n  " ++ opt.display)

/-- Why reading stops before the end. -/
inductive Stop where
  | fault (fault : Fault)
  | help
  | version
  deriving DecidableEq, Repr

/-- What was read so far. -/
structure Reading where
  /-- The options with their values, in order. -/
  given : List (Opt × String) := []
  /-- An option that has begun, and its value if that was read. -/
  pending : Option (Opt × Option String) := none
  /-- Two hyphens alone have ended the options. -/
  ended : Bool := false
  deriving DecidableEq, Repr

namespace Reading

/-- Check a value. -/
def checkValue (opt : Opt) (value : String) : Except Fault Unit :=
  match opt with
  | .config => if value.isEmpty then .error (.missingValue opt) else .ok ()
  | .protocol =>
    match Request.Command.protocol value with
    | .ok _ => .ok ()
    | .error fault => .error (.invalidValue opt value fault.error.message)
  | _ => .ok ()

/-- Note an option with its value. -/
def give (r : Reading) (opt : Opt) (value : String) : Except Fault Reading := do
  if r.given.any (·.1 = opt) then throw (.repeated opt)
  checkValue opt value
  return { r with given := r.given ++ [(opt, value)], pending := none }

/-- Note the option that has begun. -/
def settle (r : Reading) : Except Fault Reading :=
  match r.pending with
  | none => .ok r
  | some (opt, none) => .error (.missingValue opt)
  | some (opt, some value) => r.give opt value

/-- Read a flag. -/
def flag (r : Reading) (opt : Opt) : Except Stop Reading := do
  let r ← r.settle.mapError .fault
  match opt with
  | .help => throw .help
  | .version => throw .version
  | _ => (r.give opt "").mapError .fault

/-- Read an option by its name, and the value after `=` if there is one. -/
def long (r : Reading) (name : String) (value : Option String) : Except Stop Reading := do
  match Opt.all.find? (·.name = name) with
  | none => throw (.fault (.unexpected ("--" ++ name)))
  | some opt =>
    match opt.value?, value with
    | none, some value => throw (.fault (.unexpectedValue opt value))
    | none, none => r.flag opt
    | some _, some value =>
      let r ← r.settle.mapError .fault
      (r.give opt value).mapError .fault
    | some _, none =>
      let r ← r.settle.mapError .fault
      return { r with pending := some (opt, none) }

/-- Read flags by their letters. -/
def short (r : Reading) : List Char → Except Stop Reading
  | [] => .ok r
  | c :: rest =>
    match Opt.all.find? (·.letter? = some c) with
    | none => .error (.fault (.unexpected (String.ofList ['-', c])))
    | some opt => do (← r.flag opt).short rest

/-- The texts before and after the first `=`. -/
def splitEquals (cs : List Char) : List Char × Option (List Char) :=
  match cs.dropWhile (· ≠ '=') with
  | _ :: value => (cs.takeWhile (· ≠ '='), some value)
  | [] => (cs, none)

/-- Read one argument. -/
def argument (r : Reading) (arg : String) : Except Stop Reading :=
  let word : Except Stop Reading :=
    match r.ended, r.pending with
    | false, some (opt, none) => .ok { r with pending := some (opt, some arg) }
    | _, _ => .error (.fault (.unexpected arg))
  if r.ended then word
  else
    match arg.toList with
    | ['-', '-'] => .ok { r with ended := true }
    | '-' :: '-' :: rest =>
      let (name, value) := splitEquals rest
      r.long (String.ofList name) (value.map String.ofList)
    | '-' :: c :: rest => r.short (c :: rest)
    | _ => word

/-- Check that the options go together. -/
def finish (r : Reading) : Except Stop Reading := do
  let r ← r.settle.mapError .fault
  if r.given.any (·.1.needsHeadless) && !r.given.any (·.1 = .headless) then
    throw (.fault (.missing [.headless]))
  return r

/-- The value of an option. -/
def value? (r : Reading) (opt : Opt) : Option String :=
  r.given.lookup opt

end Reading

/-- What a command line says. -/
structure Arguments where
  endpoint : Option String := none
  config : Option String := none
  headless : Bool := false
  filling : Headless.Filling := {}
  deriving DecidableEq, Repr

/-- The arguments that were read. -/
def Arguments.ofReading (r : Reading) : Arguments :=
  { endpoint := r.value? .endpoint
    config := r.value? .config
    headless := (r.value? .headless).isSome
    filling := {
      protocol := (r.value? .protocol).bind Protocol.ofName?
      address := (r.value? .address).getD ""
      username := (r.value? .username).getD ""
      password := (r.value? .password).getD ""
      vpnUsername := r.value? .vpnUsername
      vpnPassword := r.value? .vpnPassword } }

/-- Read a command line. -/
def read (args : List String) : Except Stop Arguments := do
  let r ← args.foldlM Reading.argument {}
  return .ofReading (← r.finish)

/-! ### What is printed instead of a run -/

/-- How the program is called. -/
def usage : String := "Usage: vpnator [OPTIONS]"

/-- The lines for one option in the help text. -/
def Opt.helpLines (o : Opt) : List String :=
  let letter := match o.letter? with
    | some c => String.ofList ['-', c, ',', ' ']
    | none => "    "
  ["  " ++ letter ++ o.display, "          " ++ o.purpose]

/-- The help text. -/
def helpLines : List String :=
  ["Install VPN servers through a VPNator backend", "", usage, "", "Options:"] ++
    Opt.all.flatMap Opt.helpLines

/-- The version. -/
def versionLines : List String :=
  ["vpnator 0.3.0"]

/-- The text for a fault. -/
def Fault.text (f : Fault) : String :=
  String.intercalate "\n"
    ["error: " ++ f.message, "", usage, "", "For more information, try '--help'."]

end Provision.CommandLine
