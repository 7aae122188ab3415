import Provision.Program.Order

/-!
Programs that fetch software and tell what is installed.
-/

namespace Provision.Program

open Bytes (toText ofText)
open Files (Tree)
open Shell (Run)

/-! ## Packages -/

/-- The packages that are installed. -/
def packages : List String :=
  ["adduser", "apt", "base-files", "base-passwd", "bash", "bsdutils", "ca-certificates", "coreutils",
   "dash", "debconf", "debian-archive-keyring", "debianutils", "diffutils", "dpkg", "findutils",
   "gcc-12-base", "git", "git-man", "gpgv", "grep", "gzip", "hostname", "init-system-helpers",
   "libacl1", "libapt-pkg6.0", "libattr1", "libaudit-common", "libaudit1", "libblkid1", "libbz2-1.0",
   "libc-bin", "libc6", "libcap-ng0", "libcap2", "libcrypt1", "libdb5.3", "libdebconfclient0",
   "libgcc-s1", "libgcrypt20", "libgmp10", "libgnutls30", "libgpg-error0", "liblz4-1", "liblzma5",
   "libmd0", "libmount1", "libnettle8", "libpam-modules", "libpam-modules-bin", "libpam-runtime",
   "libpam0g", "libpcre2-8-0", "libseccomp2", "libselinux1", "libsemanage-common", "libsemanage2",
   "libsepol2", "libsmartcols1", "libssl3", "libstdc++6", "libsystemd0", "libtasn1-6", "libtinfo6",
   "libudev1", "libunistring2", "libuuid1", "libxxhash0", "libzstd1", "login", "mawk", "mount",
   "ncurses-base", "ncurses-bin", "passwd", "perl-base", "sed", "sysvinit-utils", "tar", "tzdata",
   "usr-is-merged", "util-linux", "util-linux-extra", "zlib1g"]

/-- What is told of packages that patterns name. -/
def listPackages (names : List Chars) : Run Nat := do
  let found := packages.filter fun p => names.isEmpty || names.contains (ofText p)
  if !found.isEmpty then
    let _ ← out "dpkg" (ofText ("Desired=Unknown/Install/Remove/Purge/Hold\n" ++
      "| Status=Not/Inst/Conf-files/Unpacked/halF-conf/Half-inst/trig-aWait/Trig-pend\n" ++
      "|/ Err?=(none)/Reinst-required (Status,Err: uppercase=bad)\n" ++
      "||/ Name           Version      Architecture Description\n" ++
      "+++-==============-============-============-=================================\n"))
    let _ ← out "dpkg" (found.flatMap fun p => ofText ("ii  " ++ p ++ "\n"))
  let missing := names.filter fun n => !packages.contains (toText n)
  for n in missing do
    Run.complain ("dpkg-query: no packages found matching " ++ toText n)
  return if missing.isEmpty then 0 else 1

/-- What is wrong with a part of a specifier, in which some signs may stand beside letters and digits. -/
def partProblem? (signs start : String) (t : Chars) : Option String :=
  match t with
  | [] => some "may not be empty string"
  | c :: rest =>
    if !c.isAlphanum then some ("must start with an alphanumeric" ++ start)
    else (rest.find? fun c => !c.isAlphanum && !signs.toList.contains c).map fun bad =>
      "character '" ++ toText [bad] ++ "' not allowed (only letters, digits and characters '" ++
        signs ++ "')"

/-- What is wrong with a specifier: the name of a package, and the kind of machine behind a colon. -/
def specifierProblem? (t : Chars) : Option String :=
  let name := t.takeWhile (· != ':')
  let told (what problem : String) : String :=
    "illegal " ++ what ++ " name in specifier '" ++ toText t ++ "': " ++ problem
  match partProblem? "-+._" " character" name, t.drop name.length with
  | some p, _ => some (told "package" p)
  | none, _ :: machine => (partProblem? "-" "" machine).map (told "architecture")
  | none, [] => none

/-- The package that a specifier means, if it is installed. -/
def installed? (t : Chars) : Option String :=
  let name := toText ((t.takeWhile (· != ':')).map Char.toLower)
  let machine := toText ((t.dropWhile (· != ':')).drop 1)
  if packages.contains name && ["", "amd64", "any", "all"].contains machine then some name else none

/-- Complains of how a program is asked for packages. -/
def misuseQuery (message : String) : Run Nat := do
  Run.complain ("dpkg-query: error: " ++ message ++
    "\n\nUse --help for help about querying packages.")
  return 2

/-- Tells the state of packages. -/
def showPackages : (status : Nat) → List Chars → Run Nat
  | status, [] => do
    if status ≠ 0 then
      Run.complain "Use dpkg --info (= dpkg-deb --info) to examine archive files."
    return status
  | status, t :: rest => do
    match specifierProblem? t with
    | some problem =>
      misuseQuery ("--status needs a valid package name but '" ++ toText t ++ "' is not: " ++ problem)
    | none =>
      let status ← match installed? t with
        | some name =>
          let _ ← out "dpkg" (ofText ("Package: " ++ name ++ "\nStatus: install ok installed\n"))
          pure status
        | none =>
          Run.complain ("dpkg-query: package '" ++ toText (t.map Char.toLower) ++
            "' is not installed and no information is available")
          pure 1
      unless rest.isEmpty do
        let _ ← out "dpkg" ['\n']
      showPackages status rest

/-- Fills the fields of a format with what is known of a package. -/
def filled (name : String) : Nat → Chars → Chars
  | 0, _ => []
  | _ + 1, [] => []
  | room + 1, '\\' :: c :: rest =>
    (match c with
    | 'n' => ['\n']
    | 't' => ['\t']
    | c => [c]) ++ filled name room rest
  | room + 1, '$' :: '\x7b' :: rest =>
    let field := rest.takeWhile (· != '\x7d')
    let value : String := match toText (field.takeWhile (· != ';')) with
      | "Package" | "binary:Package" => name
      | "Status" => "install ok installed"
      | "db:Status-Status" => "installed"
      | "db:Status-Abbrev" => "ii "
      | "db:Status-Want" => "install"
      | "db:Status-Eflag" => "ok"
      | "Architecture" => "amd64"
      | _ => ""
    ofText value ++ filled name room (rest.drop (field.length + 1))
  | room + 1, c :: rest => c :: filled name room rest

/-- Shows packages by a format. -/
def queryPackages (format : Chars) (names : List Chars) : Run Nat := do
  let found := packages.filter fun p => names.isEmpty || names.any fun n => installed? n = some p
  let _ ← out "dpkg-query" (found.flatMap fun p => filled p (format.length + 1) format)
  let missing := names.filter fun n => (installed? n).isNone
  for n in missing do
    Run.complain ("dpkg-query: no packages found matching " ++ toText n)
  return if missing.isEmpty then 0 else 1

/-! ## Versions -/

/-- A version, which has an epoch before a colon and a revision behind the last hyphen. -/
def versionParts (t : Chars) : Nat × Chars × Chars :=
  let epoch := t.takeWhile (· != ':')
  let (number, rest) := if epoch.length = t.length then (0, t)
    else ((Text.readNat? 10 epoch).getD 0, t.drop (epoch.length + 1))
  let revision := (rest.reverse.takeWhile (· != '-')).reverse
  if revision.length = rest.length then (number, rest, [])
  else (number, rest.take (rest.length - revision.length - 1), revision)

/-- Compares the versions of packages by their parts. -/
def comparePackages (x y : Chars) : Ordering :=
  let compareParts := compareVersions 0 (x.length + y.length + 1)
  let (m, a, c) := versionParts x
  let (n, b, d) := versionParts y
  (compare m n).then ((compareParts a b).then (compareParts c d))

/-- What is wrong with the form of a version. -/
def versionProblem? (t : Chars) : Option String :=
  let (_, version, revision) := versionParts t
  match version with
  | [] => none
  | c :: rest =>
    if !c.isDigit then some "version number does not start with digit"
    else if rest.any fun c => !c.isAlphanum && !".-+~:".toList.contains c then
      some "invalid character in version number"
    else if revision.any fun c => !c.isAlphanum && !".+~".toList.contains c then
      some "invalid character in revision number"
    else none

/-- Whether versions stand to one another as a word says, where an empty one may count as the
last. -/
def versionsFit? (word : String) (x y : Chars) : Option Bool :=
  let emptyLast := word.endsWith "-nl"
  let order : Ordering :=
    if emptyLast && (x.isEmpty || y.isEmpty) then compare x.isEmpty y.isEmpty
    else comparePackages x y
  match if emptyLast then (word.dropEnd 3).toString else word with
  | "lt" | "<<" => some (order = .lt)
  | "le" | "<=" | "<" => some (order ≠ .gt)
  | "eq" | "=" => some (order = .eq)
  | "ne" => some (order ≠ .eq)
  | "ge" | ">=" | ">" => some (order ≠ .lt)
  | "gt" | ">>" => some (order = .gt)
  | _ => none

/-- Points to the help about packages. -/
def dpkgHelp : String :=
  "Type dpkg --help for help about installing and deinstalling packages [*];\n" ++
  "Use 'apt' or 'aptitude' for user-friendly package management;\n" ++
  "Type dpkg -Dhelp for a list of dpkg debug flag values;\n" ++
  "Type dpkg --force-help for a list of forcing options;\n" ++
  "Type dpkg-deb --help for help about manipulating *.deb files;\n\n" ++
  "Options marked [*] produce a lot of output - pipe it through 'less' or 'more' !"

def dpkg : Program := fun c args => do
  let misused (message : String) : Run Nat := do
    Run.complain ("dpkg: error: " ++ message ++ "\n\n" ++ dpkgHelp)
    return 2
  match args.map toText, args.drop 1 with
  | [], _ => misused "need an action option"
  | "-l" :: _, names | "--list" :: _, names => listPackages names
  | "-s" :: _, names | "--status" :: _, names => showPackages 0 names
  | "--print-architecture" :: _, _ => out c.name (ofText "amd64\n")
  | "--compare-versions" :: _, [x, word, y] =>
    match versionsFit? (toText word) x y with
    | some fits =>
      for t in [x, y] do
        if let some problem := versionProblem? t then
          Run.complain ("dpkg: warning: version '" ++ toText t ++ "' has bad syntax: " ++ problem)
      return if fits then 0 else 1
    | none => misused "--compare-versions bad relation"
  | "--compare-versions" :: _, _ =>
    misused "--compare-versions takes three arguments: <version> <relation> <version>"
  | "--get-selections" :: _, names =>
    let found := if names.isEmpty then packages else names.filterMap installed?
    let _ ← out c.name (found.flatMap fun p =>
      let width := (p.length / 8 + 1) * 8
      ofText p ++ List.replicate (max 1 ((48 - width + 7) / 8 + 1)) '\t' ++ "install\n".toList)
    for n in names.filter fun n => (installed? n).isNone do
      Run.complain ("dpkg: no packages found matching " ++ toText n)
    return 0
  | first :: _, _ => misused ("unknown option " ++ first)

def dpkgQuery : Program := fun _ args => do
  let usual := "$\x7bbinary:Package\x7d\t$\x7bVersion\x7d\n".toList
  match readArguments (.ofString "Wsf:l" ["show|W", "showformat=|f", "status|s", "list|l"]) false
      args.length args with
  | .error e => misuseQuery e.message
  | .ok a =>
    if a.has "s" then showPackages 0 a.operands
    else if a.has "l" then listPackages a.operands
    else if a.has "W" then queryPackages ((a.value? "f").getD usual) a.operands
    else misuseQuery "need an action option"

/-! ## Repositories -/

/-- Whether a repository is fetched from another host. -/
def isRemote (repository : Chars) : Bool :=
  let start := repository.takeWhile (· ≠ '/')
  start.contains ':'

/-- Whether a directory is a repository, or holds one. -/
def isRepository (t : Tree) (path : Chars) : Bool :=
  let at' (p : Chars) : Bool := t.isDirectory (toText (p ++ "/objects".toList)) &&
    t.exists? (toText (p ++ "/HEAD".toList))
  at' path || at' (path ++ "/.git".toList) || at' (path ++ ".git".toList)

/-- The directory that a repository gets if no other one is asked for. -/
def repositoryName (repository : Chars) : Chars :=
  let t := (repository.reverse.dropWhile (· = '/')).reverse
  let name := (t.reverse.takeWhile fun c => c ≠ '/' && c ≠ ':').reverse
  let ending := ".git".toList
  if ending.isSuffixOf name && name ≠ ending then name.take (name.length - ending.length) else name

/-- The host that is named in a remote place. -/
def hostOf (repository : Chars) : Chars :=
  let rest := repository.dropWhile (· ≠ ':')
  if ['/', '/'].isPrefixOf (rest.drop 1) then
    let host := (rest.drop 3).takeWhile (· ≠ '/')
    ((host.reverse.takeWhile (· ≠ '@')).reverse).takeWhile (· ≠ ':')
  else ((repository.takeWhile (· ≠ ':')).reverse.takeWhile (· ≠ '@')).reverse

def cloneSpec : Spec :=
  .ofString "vqnlsj:o:b:u:c:"
    ["verbose|v", "quiet|q", "progress", "reject-shallow", "no-checkout|n", "bare", "mirror",
     "local|l", "no-hardlinks", "shared|s", "recurse-submodules?", "recursive?", "jobs=|j",
     "template=", "reference=", "reference-if-able=", "dissociate", "origin=|o", "branch=|b",
     "upload-pack=|u", "depth=", "shallow-since=", "shallow-exclude=", "single-branch",
     "no-single-branch", "no-tags", "shallow-submodules", "separate-git-dir=", "config=|c",
     "server-option=", "ipv4", "ipv6", "filter=", "also-filter-submodules", "remote-submodules",
     "sparse", "bundle-uri="]

/-- Copies a repository. There is no way to other hosts. -/
def cloneRepository (args : List Chars) : Run Nat := do
  let fatal (message : String) : Run Nat := do
    Run.complain ("fatal: " ++ message)
    return 128
  match readArguments cloneSpec false args.length args with
  | .error e =>
    Run.complain ("error: " ++ e.message)
    return 129
  | .ok a =>
    match a.operands with
    | [] => fatal "You must specify a repository to clone.\n\nusage: git clone [<options>] [--] <repo> [<dir>]\n"
    | [_, _, _] => fatal "Too many arguments."
    | repository :: rest =>
      let t ← Run.tree
      let isLocal := isRepository t repository
      if !isLocal && !isRemote repository then
        return ← fatal ("repository '" ++ toText repository ++ "' does not exist")
      let goal := rest.headD (repositoryName repository)
      if t.exists? (toText goal) then
        let isEmpty := match t.locate (toText goal) with
          | .ok id => t.isDirectory (toText goal) && (t.entries id).isEmpty
          | .error _ => false
        if !isEmpty then
          return ← fatal ("destination path '" ++ toText goal ++
            "' already exists and is not an empty directory.")
      if !a.has "q" then
        Run.complain ("Cloning into '" ++ toText goal ++ "'...")
      let whole := toText repository
      let isWeb := "http".toList.isPrefixOf repository
      if isWeb then
        fatal ("unable to access '" ++ (if whole.endsWith "/" then whole else whole ++ "/") ++
          "': Could not resolve host: " ++ toText (hostOf repository))
      else
        Run.complain ("ssh: Could not resolve hostname " ++ toText (hostOf repository) ++
          ": Temporary failure in name resolution")
        fatal ("Could not read from remote repository.\n\n" ++
          "Please make sure you have the correct access rights\nand the repository exists.")

/-- The commands that need a repository. -/
def repositoryCommands : List String :=
  ["add", "bisect", "branch", "checkout", "commit", "diff-index", "fetch", "log", "merge", "mv",
   "pull", "push", "rebase", "reset", "restore", "rev-parse", "rm", "show", "stash", "status",
   "switch", "tag", "remote", "submodule", "describe", "ls-files", "blame"]

def git : Program := fun c args => do
  match args with
  | [] =>
    let _ ← out c.name (ofText "usage: git [--version] [--help] [-C <path>] [-c <name>=<value>]\n")
    return 1
  | first :: rest =>
    match toText first with
    | "--version" | "version" | "-v" => out c.name (ofText "git version 2.39.5\n")
    | "clone" => cloneRepository rest
    | name =>
      if repositoryCommands.contains name then
        Run.complain "fatal: not a git repository (or any of the parent directories: .git)"
        return 128
      else if first.head? = some '-' then
        Run.complain ("unknown option: " ++ name)
        return 129
      else
        Run.complain ("git: '" ++ name ++ "' is not a git command. See 'git --help'.")
        return 1

end Provision.Program
