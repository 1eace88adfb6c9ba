import OnDemandTls.CommandLine.Service
import OnDemandTls.CommandLine.StoredCertificates

namespace OnDemandTls

/-!
# Running commands

A command line is read, the configuration is loaded and overridden, and the
command is run on a machine and its files.
-/

namespace Machine

/-- The version of the program. -/
def version : String := "0.1.0"

/-- The exit code of a command line that cannot be read. -/
def usageExit : Nat := 2

/-- What a command line leaves behind that ends before its command. -/
def stopped
    (tree : FileTree) :
    CommandLineStop → CommandOutcome
  | .helpWanted => { exitCode := 0, tree := tree }
  | .versionWanted => { exitCode := 0, output := "pagesgate " ++ version ++ "\n", tree := tree }
  | stop => { exitCode := usageExit, complaint := "error: " ++ stop.message, tree := tree }

/-- The configuration file of the user. -/
def userConfigPath (machine : Machine) : String :=
  Config.defaultPath ((machine.environment "HOME").getD "") (machine.environment "XDG_CONFIG_HOME")

/-- Load the configuration that an invocation asks for. -/
def config
    (machine : Machine)
    (invocation : Invocation)
    (tree : FileTree) :
    Except ConfigError Config :=
  (Config.loadOrDefault tree machine.userConfigPath invocation.configPath).map fun loaded =>
    let merged := loaded.merge invocation.overrides
    if invocation.verbose then { merged with logLevel := "debug" } else merged

/-- The file that the configuration of an invocation is read from. -/
def configPath
    (machine : Machine)
    (invocation : Invocation) :
    String :=
  invocation.configPath.getD machine.userConfigPath

/-- The files that commands read and write with a configuration. -/
def dataPaths (config : Config) : List String :=
  [ config.database.path
  , temporaryPath config.database.path
  , config.acme.accountConfigFile ]

/-- The variables of the environment that commands ask for. -/
def environmentNames : List String :=
  ["HOME", "XDG_CONFIG_HOME", "EXEC_PATH"] ++
    Invocation.options.filterMap CommandOption.standIn

/-- The outcome of a command, after what it has printed. -/
def outcome
    (damagedWords output : String)
    (failure : Option CommandFailure)
    (tree : FileTree) :
    CommandOutcome :=
  match failure with
  | none => { exitCode := 0, output := output, tree := tree }
  | some failure =>
      { exitCode := 1
        output := output
        complaint := "Error: " ++ failure.message damagedWords
        tree := tree }

/-- Run a command with a configuration. -/
def runCommand
    (machine : Machine)
    (damagedWords : String)
    (command : Command)
    (config : Config)
    (tree : FileTree) :
    CommandOutcome :=
  match command with
  | .serve =>
      match RunningGateway.serve machine config tree with
      | .ok () tree => outcome damagedWords "" none tree
      | .error failure tree => outcome damagedWords "" (some failure) tree
  | .certificates action =>
      let (printed, failure, tree) := StoredCertificates.manage config.database action tree
      outcome damagedWords printed failure tree
  | .validate =>
      match config.validate with
      | .ok config =>
          outcome damagedWords
            ("✅ Configuration is valid!\n" ++
              "   primary domain: " ++ config.server.mainDomain ++ "\n" ++
              "   ACME directory: " ++ config.acme.apiEndpoint ++ "\n")
            none tree
      | .error error =>
          { exitCode := 1
            complaint := "❌ Configuration Error: " ++ error.message damagedWords
            tree := tree }
  | .version =>
      outcome damagedWords
        ("Pagesgate v" ++ version ++ "\nBuilt with ❤️ in Rust\n") none tree

/-- Run a command line, with given words about damaged documents. -/
def run
    (machine : Machine)
    (damagedWords : String)
    (arguments : List String)
    (tree : FileTree) :
    CommandOutcome :=
  match Invocation.read machine.environment arguments with
  | .error stop => stopped tree stop
  | .ok invocation =>
      if invocation.command = .version then
        machine.runCommand damagedWords .version {} tree
      else
        match machine.config invocation tree with
        | .error error => outcome damagedWords "" (some (.badConfig error)) tree
        | .ok config => machine.runCommand damagedWords invocation.command config tree

end Machine

end OnDemandTls
