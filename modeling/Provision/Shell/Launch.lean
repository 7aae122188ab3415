import Provision.Files.Content
import Provision.Pass.Basic
import Provision.Program.Table
import Provision.Shell.Engine

/-!
What there is in a file system beside the files somebody works with, and a shell that runs a script
in it, from its start until nobody writes to its outputs any more.
-/

namespace Provision.Shell

open Bytes (toText ofText)
open Files (Tree)

/-- The directories of a system, with their permissions. -/
def systemDirectories : List (String × Nat) :=
  [("/boot", 0o755), ("/etc", 0o755), ("/etc/skel", 0o755), ("/home", 0o755), ("/media", 0o755),
   ("/mnt", 0o755), ("/opt", 0o755), ("/proc", 0o555), ("/root", 0o700), ("/run", 0o755),
   ("/srv", 0o755), ("/sys", 0o555), ("/usr", 0o755), ("/usr/bin", 0o755), ("/usr/games", 0o755),
   ("/usr/include", 0o755), ("/usr/lib", 0o755), ("/usr/local", 0o755),
   ("/usr/local/bin", 0o755), ("/usr/local/lib", 0o755), ("/usr/local/sbin", 0o755),
   ("/usr/sbin", 0o755), ("/usr/share", 0o755), ("/usr/src", 0o755), ("/var", 0o755),
   ("/var/cache", 0o755), ("/var/lib", 0o755), ("/var/log", 0o755), ("/var/tmp", 0o1777)]

/-- The links of a system. -/
def systemLinks : List (String × String) :=
  [("/bin", "usr/bin"), ("/lib", "usr/lib"), ("/sbin", "usr/sbin"), ("/usr/bin/sh", "dash"),
   ("/usr/bin/rbash", "bash"), ("/usr/bin/awk", "mawk"), ("/var/run", "/run"),
   ("/dev/fd", "/proc/self/fd"), ("/dev/stdin", "/proc/self/fd/0"),
   ("/dev/stdout", "/proc/self/fd/1"), ("/dev/stderr", "/proc/self/fd/2")]

/-- Who there is on a system. -/
def accounts : List String :=
  ["root:x:0:0:root:/root:/bin/bash", "daemon:x:1:1:daemon:/usr/sbin:/usr/sbin/nologin",
   "bin:x:2:2:bin:/bin:/usr/sbin/nologin", "sys:x:3:3:sys:/dev:/usr/sbin/nologin",
   "sync:x:4:65534:sync:/bin:/bin/sync", "games:x:5:60:games:/usr/games:/usr/sbin/nologin",
   "man:x:6:12:man:/var/cache/man:/usr/sbin/nologin",
   "lp:x:7:7:lp:/var/spool/lpd:/usr/sbin/nologin", "mail:x:8:8:mail:/var/mail:/usr/sbin/nologin",
   "news:x:9:9:news:/var/spool/news:/usr/sbin/nologin",
   "uucp:x:10:10:uucp:/var/spool/uucp:/usr/sbin/nologin",
   "proxy:x:13:13:proxy:/bin:/usr/sbin/nologin",
   "www-data:x:33:33:www-data:/var/www:/usr/sbin/nologin",
   "backup:x:34:34:backup:/var/backups:/usr/sbin/nologin",
   "list:x:38:38:Mailing List Manager:/var/list:/usr/sbin/nologin",
   "irc:x:39:39:ircd:/run/ircd:/usr/sbin/nologin",
   "_apt:x:42:65534::/nonexistent:/usr/sbin/nologin",
   "nobody:x:65534:65534:nobody:/nonexistent:/usr/sbin/nologin"]

/-- The groups of users. -/
def groups : List String :=
  ["root:x:0:", "daemon:x:1:", "bin:x:2:", "sys:x:3:", "adm:x:4:", "tty:x:5:", "disk:x:6:",
   "lp:x:7:", "mail:x:8:", "news:x:9:", "uucp:x:10:", "man:x:12:", "proxy:x:13:", "kmem:x:15:",
   "dialout:x:20:", "fax:x:21:", "voice:x:22:", "cdrom:x:24:", "floppy:x:25:", "tape:x:26:",
   "sudo:x:27:", "audio:x:29:", "dip:x:30:", "www-data:x:33:", "backup:x:34:", "operator:x:37:",
   "list:x:38:", "irc:x:39:", "src:x:40:", "shadow:x:42:", "utmp:x:43:", "video:x:44:",
   "sasl:x:45:", "plugdev:x:46:", "staff:x:50:", "games:x:60:", "users:x:100:", "nogroup:x:65534:"]

/-- The files of a system. -/
def systemFiles : List (String × List String) :=
  [("/etc/passwd", accounts), ("/etc/group", groups), ("/etc/hostname", ["localhost"]),
   ("/etc/hosts", ["127.0.0.1\tlocalhost"]), ("/etc/debian_version", ["12.11"]),
   ("/etc/issue", ["Debian GNU/Linux 12 \\n \\l", ""]),
   ("/etc/os-release",
    ["PRETTY_NAME=\"Debian GNU/Linux 12 (bookworm)\"", "NAME=\"Debian GNU/Linux\"",
     "VERSION_ID=\"12\"", "VERSION=\"12 (bookworm)\"", "VERSION_CODENAME=bookworm", "ID=debian"]),
   ("/etc/shells", ["# /etc/shells: valid login shells", "/bin/sh", "/usr/bin/sh", "/bin/bash",
     "/usr/bin/bash", "/bin/rbash", "/usr/bin/rbash", "/bin/dash", "/usr/bin/dash"])]

/-- The devices of a system. -/
def systemDevices : List (String × Files.Device) :=
  [("/dev/zero", .zero), ("/dev/full", .full), ("/dev/random", .random), ("/dev/urandom", .random),
   ("/dev/tty", .terminal)]

/-- A file system with what a system has, where that is missing. -/
def equipped (t : Tree) : Tree :=
  if t.exists? "/usr/bin" then t
  else
    let add (t : Tree) (path : String) (c : Files.Content) (mode : Nat) : Tree :=
      match t.nameplace path with
      | .error _ => t
      | .ok p => (t.createAt p (.fresh c mode t.time)).toOption.getD t
    let t := systemDirectories.foldl (fun t (path, mode) =>
      match t.makeDirectory path mode with
      | .ok t => t
      | .error _ => t) t
    let t := systemLinks.foldl (fun t (path, goal) => add t path (.link goal) 0o777) t
    let t := systemDevices.foldl (fun t (path, d) => add t path (.device d) 0o666) t
    let t := systemFiles.foldl (fun t (path, lines) =>
      let text := String.join (lines.map (· ++ "\n"))
      add t path (.file (text.toUTF8.toList)) 0o644) t
    let names := ["bash", "dash"] ++ Program.table.map (·.1)
    names.foldl (fun t name => add t ("/usr/bin/" ++ name) (.program name) 0o755) t

/-- Why a shell cannot be started with a command. -/
inductive LaunchError
  | zeroInCommand
  | tooLong
  deriving DecidableEq, Repr

def LaunchError.message : LaunchError → String
  | .zeroInCommand => "failed to spawn bash: nul byte found in provided data"
  | .tooLong => "failed to spawn bash: Argument list too long (os error 7)"

/-- A command has at most so many bytes. -/
def maxCommandWidth : Nat := 131071

def checkCommand (command : String) : Except LaunchError Unit :=
  if command.contains '\x00' then .error .zeroInCommand
  else if maxCommandWidth < command.utf8ByteSize then .error .tooLong
  else .ok ()

/-- What a script leaves behind: its exit, if it is not killed, what it has written, the files, what
it has left of the input, and the time. -/
structure Outcome where
  exit : Option Nat
  stdout : List UInt8
  stderr : List UInt8
  tree : Files.Tree
  input : List UInt8
  time : Nat

/-- What is told of a script that has run. If it was killed, its exit is −1. -/
def Outcome.output (o : Outcome) : Output where
  exit := match o.exit with
    | some n => n
    | none => -1
  stdout := String.ofList (Text.decodeLossy o.stdout)
  stderr := String.ofList (Text.decodeLossy o.stderr)

/-- The process that starts the shell and reads what it writes. -/
def launcher : Nat := 1

/-- The process of the shell. -/
def mainProcess : Nat := 4242

/-- What the shell sees of its surroundings. -/
def surroundings : List (String × Chars) := [("PATH", usualPath), ("HOME", "/root".toList)]

/-- A host with the process of a shell and the one that reads its outputs, which are the first two
pipes. The answer has the file with the input too. -/
def startingHost (tree : Files.Tree) (input : List UInt8) (time : Nat) : Nat × Host :=
  let (file, tree) := tree.add (.fresh (.file input) 0o600 time)
  let read (pipe : Nat) : Host.Stream := ⟨.pipe pipe false, 0, true, false, false⟩
  let write (pipe : Nat) : Host.Stream := ⟨.pipe pipe true, 0, false, true, false⟩
  let endless : Host.Pipe := { Host.Pipe.empty with bounded := false }
  let process (parent : Nat) (descriptors : List (Nat × Nat)) : Host.Process :=
    ⟨parent, .running, descriptors, [], [], [], none, [], 0⟩
  (file,
    { tree
      streams := #[⟨.node file, 0, true, false, false⟩, write 0, write 1, read 0, read 1]
      pipes := #[endless, endless]
      queues := []
      processes := [(launcher, process 0 [(3, 3), (4, 4)]),
        (mainProcess, process launcher [(0, 0), (1, 1), (2, 2)])]
      clock := time
      next := mainProcess + 1 })

/-- Runs a script in the working directory of a tree, with an input, from a point in time on. -/
def run (script : String) (tree : Files.Tree) (input : List UInt8) (time : Nat) : Outcome :=
  let tree := equipped { tree with time }
  let (file, y) := startingHost tree input time
  let body : Run Unit := do
    let words := ["bash".toList, "-c".toList, ofText script]
    Run.setStatus (← Run.runShell (Run.engine Run.maxDepth) .bash words)
  let s := Session.outer mainProcess tree.working surroundings
  let y := Host.run mainProcess [0, 1] Host.maxTurns [⟨mainProcess, Run.act body s⟩] 0 y
  let used := ((y.streams[0]?).map (·.offset)).getD 0
  let fate := ((y.process? mainProcess).map (·.fate)).getD .running
  { exit := match fate with
      | .exited n => some n
      | _ => none
    stdout := Bytes.toBytes (y.pipes.getD 0 .empty).content
    stderr := Bytes.toBytes (y.pipes.getD 1 .empty).content
    tree := y.tree
    input := ((y.tree.node? file).map (·.bytes)).getD [] |>.drop used
    time := y.clock }

/-- Runs a command in the working directory of a tree, if a shell can be started with it. -/
def launch (command : String) (tree : Files.Tree) (input : List UInt8) (time : Nat) :
    Except LaunchError Outcome :=
  (checkCommand command).map fun () => run command tree input time

end Provision.Shell
