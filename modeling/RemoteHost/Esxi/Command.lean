/-
RemoteHost/Esxi/Command.lean

The texts of the `esxcli` commands.

Names and paths are quoted as single words.  Module parameters are written as
`key=value` in ascending order, separated by spaces, between double quotes.
-/
import RemoteHost.Shell.Quote
import RemoteHost.Text.Search

namespace RemoteHost.Esxi.Command

/-- List the installed packages. -/
def list : String := "esxcli software vib list"

/-- A path names a whole depot rather than a single package: it ends in `.zip`, in
either case. -/
def isDepot (path : String) : Bool := Text.endsWith (Text.toLowerAscii path) ".zip"

/-- Install a package or a depot. -/
def install (path : String) (verifySignature : Bool) : String :=
  "esxcli software vib install " ++ (if isDepot path then "-d" else "-v") ++ " " ++
    Shell.quote path ++ (if verifySignature then "" else " --no-sig-check")

/-- Parameters as words `key=value`, in ascending order. -/
def parameterWords (params : List (String × String)) : List String :=
  (params.map fun (k, v) => k ++ "=" ++ v).mergeSort fun a b => !decide (b < a)

/-- Set the parameters of a kernel module. -/
def moduleParameters (module : String) (params : List (String × String)) : String :=
  "esxcli system module parameters set -m " ++ Shell.quote module ++ " -p \"" ++
    String.intercalate " " (parameterWords params) ++ "\""

/-- Remove a package. -/
def remove (name : String) : String := "esxcli software vib remove -n " ++ Shell.quote name

/-- Enter or leave maintenance mode. -/
def maintenance (enabled : Bool) : String :=
  "esxcli system maintenanceMode set -e " ++ (if enabled then "true" else "false")

end RemoteHost.Esxi.Command
