import Screencast.Config.Settings

/-!
# Options of the command line

The command line names the settings file, and may overrule the address and the folder of static
files.
-/

namespace Screencast

/-- What the command line says. -/
structure Options where
  configPath : Option String := none
  address : Option SocketAddress := none
  staticRoot : Option String := none
  deriving DecidableEq

namespace Options

/-- How the program is called. -/
def usage : String := "usage: screencast [--config PATH] [--address ADDRESS] [--static-root PATH]"

/-- Read the arguments of the command line, each option before its value. -/
def parse? : List String → Option Options
  | [] => some {}
  | "--config" :: path :: rest => (parse? rest).map fun options =>
    { options with configPath := some path }
  | "--address" :: text :: rest => do
    let address ← SocketAddress.parse? text
    let options ← parse? rest
    pure { options with address := some address }
  | "--static-root" :: path :: rest => (parse? rest).map fun options =>
    { options with staticRoot := some path }
  | _ => none

/-- Overrule a configuration. -/
def apply (options : Options) (config : Config) : Config :=
  { config with
    address := options.address.getD config.address
    staticRoot := options.staticRoot.getD config.staticRoot }

end Options

end Screencast
