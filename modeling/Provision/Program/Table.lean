import Provision.Program.Comparison
import Provision.Program.Copying
import Provision.Program.Digests
import Provision.Program.Dump
import Provision.Program.Editing
import Provision.Program.Encoding
import Provision.Program.Evaluation
import Provision.Program.Expression
import Provision.Program.Fields
import Provision.Program.Finding
import Provision.Program.Inspection
import Provision.Program.Joining
import Provision.Program.Launching
import Provision.Program.Lines
import Provision.Program.Links
import Provision.Program.Listing
import Provision.Program.Neighbours
import Provision.Program.Numbering
import Provision.Program.Output
import Provision.Program.Packages
import Provision.Program.Paths
import Provision.Program.Permissions
import Provision.Program.Search
import Provision.Program.Sorting
import Provision.Program.System
import Provision.Program.Tabs
import Provision.Program.Translation

namespace Provision.Program

/-- The programs by their names. -/
def table : List (String × Program) :=
  [("true", fun _ _ => return 0), ("false", fun _ _ => return 1),
   ("[", bracket), ("arch", arch), ("awk", awk), ("base32", base32), ("base64", base64), ("basename", basename), ("basenc", basenc), ("cat", cat), ("chgrp", chgrp),
   ("chmod", chmod), ("chown", chown), ("cksum", cksum), ("column", column), ("cmp", cmp), ("comm", comm), ("cp", cp), ("cut", cut),
   ("date", date), ("diff", diff), ("dir", dir), ("dirname", dirname), ("dpkg", dpkg), ("dpkg-query", dpkgQuery), ("echo", echo), ("egrep", egrep), ("env", env), ("expand", expand), ("expr", expr),
   ("factor", factor), ("fgrep", fgrep), ("find", find), ("fold", fold), ("getent", getent), ("git", git), ("grep", grep), ("groups", groups), ("head", head),
   ("hostid", hostid), ("hostname", hostname), ("id", identify), ("ionice", ionice), ("install", install), ("join", join), ("logname", logname),
   ("mawk", awk), ("mv", mv), ("nice", nice), ("nl", nl), ("nohup", nohup), ("nproc", nproc), ("od", od), ("paste", paste), ("printenv", printenv), ("printf", printf), ("pwd", pwd),
   ("readlink", readlink), ("realpath", realpath), ("rev", rev), ("sed", sed), ("seq", seq), ("setsid", setsid), ("shuf", shuf),
   ("sha1sum", sha1sum), ("sha224sum", sha224sum), ("sha256sum", sha256sum), ("sha384sum", sha384sum),
   ("sha512sum", sha512sum), ("sleep", sleep), ("sort", sort), ("stat", stat), ("stdbuf", stdbuf), ("sum", sum), ("sync", sync), ("tac", tac), ("tail", tail), ("tee", tee),
   ("test", test), ("timeout", timeout), ("tr", tr), ("tsort", tsort), ("tty", tty),
   ("uname", uname), ("unexpand", unexpand), ("uniq", uniq), ("vdir", vdir), ("wc", wc), ("which", which),
   ("link", link), ("ln", ln), ("ls", ls), ("mkdir", mkdir), ("mkfifo", mkfifo), ("mknod", mknod), ("md5sum", md5sum), ("mktemp", mktemp), ("rm", rm), ("rmdir", rmdir), ("touch", touch), ("truncate", truncate), ("unlink", unlink), ("whoami", whoami), ("xargs", xargs), ("yes", yes)]

end Provision.Program
