import Provision.CommandLine.Installation
import Provision.CommandLine.World
import Provision.Configuration.Dump

namespace Provision.CommandLine

/-- The name of the file with the configuration, if no other one is given. -/
def defaultConfiguration : String := "install.booty"

/-- What all commands share. -/
structure Settings where
  configuration : String
  logDirectory : String
  yes : Bool
  deriving DecidableEq, Repr

def Settings.default : Settings := ⟨defaultConfiguration, "logs", false⟩

inductive Command
  | status
  | install
  | validate
  | inspect
  | init (path : String)
  deriving DecidableEq, Repr


/-- What a command tells, whether it failed, and the world it leaves. -/
structure Reply where
  text : String
  error : Option CommandError
  world : World

/-- A configuration to start with. -/
def starter : String :=
  "# booty configuration. Run `booty status` to check, `booty install` to install.\n" ++
  "\n" ++
  "curl: apt(curl)\n" ++
  "git: apt(git)\n" ++
  "\n" ++
  "dotfiles: git(https://github.com/you/dotfiles.git, ~/.dotfiles)\n" ++
  "dotfiles -> git\n" ++
  "\n" ++
  "rust:\n" ++
  "    setup: curl https://sh.rustup.rs -sSf | sh -s -- -y\n" ++
  "    is_setup: test -x ~/.cargo/bin/cargo\n" ++
  "rust -> curl\n"

/-- Writes a configuration to start with into a directory, which is made if it is missing. -/
def writeStarter (directory : String) (w : World) : Reply :=
  let path := Files.join directory defaultConfiguration
  if w.files.exists? path then ⟨"", some (.alreadyExists path), w⟩
  else
    match w.files.makeDirectories directory with
    | (.error e, files) =>
      ⟨"", some (.cannotCreate directory e.message), { w with files }⟩
    | (.ok (), files) =>
      match files.write path (Text.encode starter) with
      | .error e => ⟨"", some (.cannotWrite path e.message), { w with files }⟩
      | .ok files => ⟨"Created " ++ path ++ "\n", none, { w with files }⟩

/-- Does something with the configuration that the settings name. -/
def withConfiguration (settings : Settings) (w : World) (act : Configuration → Reply) : Reply :=
  match Configuration.loadFile w.files settings.configuration with
  | .error e => ⟨"", some (.configuration e), w⟩
  | .ok c => act c

/-- Carries out a command. -/
def dispatch (settings : Settings) (command : Command) (w : World) : Reply :=
  match command with
  | .status =>
    withConfiguration settings w fun c =>
      let r := Pass.checkAll (machine settings.logDirectory) c w
      ⟨statusText c r, checkError? r.report, r.world⟩
  | .install =>
    withConfiguration settings w fun c =>
      let i := install (machine settings.logDirectory) confirm settings.yes c w
      ⟨i.text c settings.yes, i.error? settings.logDirectory, i.decision.world⟩
  | .validate =>
    withConfiguration settings w fun c => ⟨validText settings.configuration c, none, w⟩
  | .inspect => withConfiguration settings w fun c => ⟨c.dump.render, none, w⟩
  | .init path => writeStarter path w

end Provision.CommandLine
