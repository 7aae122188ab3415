namespace Provision.Shell

/-- What can be set for a shell. -/
inductive Setting
  | allExport
  | braceExpand
  | emacs
  | exitOnError
  | errorTrace
  | functionTrace
  | hashAll
  | historyExpand
  | history
  | ignoreEnd
  | comments
  | keyword
  | monitor
  | noClobber
  | noExec
  | noPaths
  | noLog
  | notify
  | refuseUnset
  | oneCommand
  | physical
  | failInPipe
  | posix
  | privileged
  | verbose
  | vi
  | trace
  deriving DecidableEq, Repr

namespace Setting

/-- The settings with their names, and their letters in the order in which they are told. -/
def table : List (Setting × String × Option Char) :=
  [(.allExport, "allexport", some 'a'), (.braceExpand, "braceexpand", some 'B'),
   (.emacs, "emacs", none), (.exitOnError, "errexit", some 'e'),
   (.errorTrace, "errtrace", some 'E'), (.functionTrace, "functrace", some 'T'),
   (.hashAll, "hashall", some 'h'), (.historyExpand, "histexpand", some 'H'),
   (.history, "history", none), (.ignoreEnd, "ignoreeof", none),
   (.comments, "interactive-comments", none), (.keyword, "keyword", some 'k'),
   (.monitor, "monitor", some 'm'), (.noClobber, "noclobber", some 'C'),
   (.noExec, "noexec", some 'n'), (.noPaths, "noglob", some 'f'), (.noLog, "nolog", none),
   (.notify, "notify", some 'b'), (.refuseUnset, "nounset", some 'u'),
   (.oneCommand, "onecmd", some 't'), (.physical, "physical", some 'P'),
   (.failInPipe, "pipefail", none), (.posix, "posix", none),
   (.privileged, "privileged", some 'p'), (.verbose, "verbose", some 'v'), (.vi, "vi", none),
   (.trace, "xtrace", some 'x')]

def name (s : Setting) : String := ((table.find? (·.1 = s)).map (·.2.1)).getD ""

def ofName? (name : String) : Option Setting := (table.find? (·.2.1 = name)).map (·.1)

def ofLetter? (c : Char) : Option Setting := (table.find? (·.2.2 = some c)).map (·.1)

/-- The settings of a shell from the start. -/
def usual : List Setting := [.braceExpand, .hashAll, .comments]

/-- The letters of settings in the order in which a shell tells them. -/
def letters (on : List Setting) : List Char :=
  "abefhkmnptuvxBCEHPT".toList.filter fun c => (ofLetter? c).any on.contains

end Setting

/-- The further settings that have no more than a name, with those that are on from the start. -/
def extraSettings : List (String × Bool) :=
  [("autocd", false), ("assoc_expand_once", false), ("cdable_vars", false), ("cdspell", false),
   ("checkhash", false), ("checkjobs", false), ("checkwinsize", true), ("cmdhist", true),
   ("compat31", false), ("compat32", false), ("compat40", false), ("compat41", false),
   ("compat42", false), ("compat43", false), ("compat44", false), ("complete_fullquote", true),
   ("direxpand", false), ("dirspell", false), ("dotglob", false), ("execfail", false),
   ("expand_aliases", false), ("extdebug", false), ("extglob", false), ("extquote", true),
   ("failglob", false), ("force_fignore", true), ("globasciiranges", true),
   ("globskipdots", true), ("globstar", false), ("gnu_errfmt", false), ("histappend", false),
   ("histreedit", false), ("histverify", false), ("hostcomplete", true), ("huponexit", false),
   ("inherit_errexit", false), ("interactive_comments", true), ("lastpipe", false),
   ("lithist", false), ("localvar_inherit", false), ("localvar_unset", false),
   ("login_shell", false), ("mailwarn", false), ("no_empty_cmd_completion", false),
   ("nocaseglob", false), ("nocasematch", false), ("noexpand_translation", false),
   ("nullglob", false), ("patsub_replacement", true), ("progcomp", true),
   ("progcomp_alias", false), ("promptvars", true), ("restricted_shell", false),
   ("shift_verbose", false), ("sourcepath", true), ("varredir_close", false),
   ("xpg_echo", false)]

/-! ## Lists of settings -/

def stateName (on : Bool) : String := if on then "on" else "off"

/-- A name and its state in two columns. -/
def stateLine (width : Nat) (name : String) (on : Bool) : String :=
  String.ofList (name.toList.rightpad width ' ') ++ "\t" ++ stateName on

namespace Setting

/-- The settings as a shell lists them, or as commands that bring them about. -/
def list (asCommands : Bool) (on : List Setting) : List String :=
  table.map fun (x, name, _) =>
    if asCommands then (if on.contains x then "set -o " else "set +o ") ++ name
    else stateLine 15 name (on.contains x)

/-- The settings of the smaller shell in the order of its lists, with those that have a meaning
here. -/
def plainTable : List (String × Option Setting) :=
  [("errexit", some .exitOnError), ("noglob", some .noPaths), ("ignoreeof", some .ignoreEnd),
   ("interactive", none), ("monitor", some .monitor), ("noexec", some .noExec), ("stdin", none),
   ("xtrace", some .trace), ("verbose", some .verbose), ("vi", some .vi), ("emacs", some .emacs),
   ("noclobber", some .noClobber), ("allexport", some .allExport), ("notify", some .notify),
   ("nounset", some .refuseUnset), ("privileged", some .privileged), ("nolog", some .noLog),
   ("debug", none)]

/-- The setting that a name of the smaller shell means, if it means one at all. -/
def plainNamed? (name : String) : Option (Option Setting) := plainTable.lookup name

/-- The settings as the smaller shell lists them. -/
def plainList (asCommands : Bool) (on : Option Setting → Bool) : List String :=
  if asCommands then
    plainTable.map fun (name, x) => (if on x then "set -o " else "set +o ") ++ name
  else
    "Current option settings" ::
      plainTable.map fun (name, x) =>
        String.ofList (name.toList.rightpad 16 ' ') ++ stateName (on x)

end Setting

/-- The further settings as a shell lists them, or as commands that bring them about. -/
def extraList (asCommands : Bool) (on : List String) : List String :=
  extraSettings.map fun (name, _) =>
    if asCommands then (if on.contains name then "shopt -s " else "shopt -u ") ++ name
    else stateLine 15 name (on.contains name)

end Provision.Shell
