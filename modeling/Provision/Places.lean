/-
Where the program keeps its files.
-/

namespace Provision.Places

/-- A folder for files of one kind: the one that was given, if that is an
absolute path, or else the usual one in the home folder. -/
def folder? (given home : Option String) (usual : String) : Option String :=
  match given.filter (·.startsWith "/") with
  | some folder => some folder
  | none => (home.filter (!·.isEmpty)).map (· ++ "/" ++ usual)

/-- The settings. -/
def settings? (given home : Option String) : Option String :=
  (folder? given home ".config").map (· ++ "/vpnator/config.toml")

/-- The folder of the logs. -/
def logs (given home : Option String) : String :=
  (folder? given home ".local/share").getD "." ++ "/vpnator/logs"

/-- The log of a day. -/
def log (folder date : String) : String :=
  folder ++ "/vpnator.log." ++ date

end Provision.Places
