import ChatGateway.Config.EnvironmentFile
import ChatGateway.Config.File
import ChatGateway.Config.Layer
import ChatGateway.Listen
import ChatGateway.Settings

/-!
# Loading the settings

The settings of a process come from its variables, from a file of further variables in the
current directory or the nearest one above, and, for the address to listen on, from the
configuration file. Variables prevail over the file. The process ends at once if the file of
variables gives a variable a value that it cannot be set to.
-/

namespace ChatGateway

namespace Config

/-- The name of the file of variables. -/
def variablesFile : String := ".env"

/-- The file of variables in a directory or the nearest one above that has one; the names of the
directory are given last first. -/
def nearestVariables? (tree : Files.Tree) : List String → Option Bytes
  | [] => contentAt? tree [variablesFile]
  | name :: above =>
    (contentAt? tree ((name :: above).reverse ++ [variablesFile])).or (nearestVariables? tree above)

/-- Reads the file of variables, if there is one. -/
def reading (volume : Files.Volume) (known : EnvironmentFile.Variables) : EnvironmentFile.Reading :=
  (nearestVariables? volume.tree volume.current.reverse).elim { known } (EnvironmentFile.load known)

/-- The variables with those that the file of variables adds. -/
def environment (volume : Files.Volume) (known : EnvironmentFile.Variables) : EnvironmentFile.Variables :=
  (reading volume known).known

/-- The settings of all layers. -/
def settings (volume : Files.Volume) (known : EnvironmentFile.Variables) : Except Fault Settings := do
  return overlay (overlay [] (← fileValues volume)) (ofVariables known)

/-- The address that settings give. -/
def addressOf (settings : Settings) : Except Fault ListenAddress := do
  let host ← (settings.lookup "host").mapM (Sourced.text · "host")
  let port ← (settings.lookup "port").mapM (Sourced.shortNatural · "port")
  return ListenAddress.ofGiven { host, port }

/-- Loads the address to listen on, given all variables. -/
def listenAddress (volume : Files.Volume) (known : EnvironmentFile.Variables) :
    Except Fault ListenAddress := do
  addressOf (← settings volume known)

/-- How loading ends: with a result, or with the end of the process at an assignment. -/
inductive Loading (α : Type) where
  | returned (result : Except Failure α)
  | aborted (assignment : EnvironmentFile.Assignment)

/-- How loading ends that has a result once the file of variables was read. -/
def loadingOf {α : Type} (reading : EnvironmentFile.Reading) (result : Except Failure α) : Loading α :=
  match reading.fatal with
  | none => .returned result
  | some assignment => .aborted assignment

/-- Loads the address to listen on, given the variables of the process. -/
def loading (volume : Files.Volume) (known : EnvironmentFile.Variables) : Loading ListenAddress :=
  loadingOf (reading volume known)
    ((listenAddress volume (environment volume known)).mapError Fault.failure)

end Config

/-- The settings of a process, given its own variables, once the file of variables was read. -/
def Settings.load (home : String) (volume : Files.Volume) (known : EnvironmentFile.Variables) :
    Except Failure Settings := do
  let known := Config.environment volume known
  let common ← (Config.listenAddress volume known).mapError Config.Fault.failure
  (Settings.read home common fun name => known.lookup name).mapError SettingsFault.failure

/-- Loads all settings of a process, given its own variables. -/
def Settings.loading (home : String) (volume : Files.Volume) (known : EnvironmentFile.Variables) :
    Config.Loading Settings :=
  Config.loadingOf (Config.reading volume known) (Settings.load home volume known)

end ChatGateway
