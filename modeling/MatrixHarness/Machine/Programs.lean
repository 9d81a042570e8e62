import MatrixHarness.Shell.Start
import MatrixHarness.Tool.Calculation
import MatrixHarness.Tool.Field
import MatrixHarness.Tool.Place
import MatrixHarness.Tool.Process
import MatrixHarness.Tool.Search
import MatrixHarness.Tool.Text

/-! # The programs of a machine

What each program does that every system has. -/
namespace MatrixHarness.Machine

def tool? (kind : String) : Option (Tool.Call → Doing Nat) :=
  match kind with
  | "[" => some Tool.bracket
  | "basename" => some Tool.basename
  | "cat" => some Tool.cat
  | "chmod" => some Tool.chmod
  | "cp" => some Tool.cp
  | "cut" => some Tool.cut
  | "date" => some Tool.date
  | "dirname" => some Tool.dirname
  | "echo" => some Tool.echo
  | "env" => some Tool.env
  | "expr" => some Tool.expr
  | "false" => some fun _ => return Tool.failed
  | "grep" => some Tool.grep
  | "head" => some Tool.head
  | "id" => some Tool.id
  | "kill" => some Tool.kill
  | "ln" => some Tool.ln
  | "ls" => some Tool.ls
  | "mkdir" => some Tool.mkdir
  | "mktemp" => some Tool.mktemp
  | "mv" => some Tool.mv
  | "nice" => some Tool.nice
  | "nohup" => some Tool.nohup
  | "printenv" => some Tool.printenv
  | "printf" => some Tool.printf
  | "pwd" => some Tool.pwd
  | "readlink" => some Tool.readlink
  | "rm" => some Tool.rm
  | "rmdir" => some Tool.rmdir
  | "seq" => some Tool.seq
  | "setsid" => some Tool.setsid
  | "sleep" => some Tool.sleep
  | "sort" => some Tool.sort
  | "tail" => some Tool.tail
  | "tee" => some Tool.tee
  | "test" => some fun c => Tool.test c c.words
  | "timeout" => some Tool.timeout
  | "touch" => some Tool.touch
  | "tr" => some Tool.tr
  | "true" => some fun _ => return Tool.succeeded
  | "uname" => some Tool.uname
  | "uniq" => some Tool.uniq
  | "wc" => some Tool.wc
  | "which" => some Tool.which
  | "whoami" => some Tool.whoami
  | "yes" => some Tool.yes
  | _ => none

/-- The course of a program; those that are no tools are shells. -/
def courseOf (p : Program) (env : Environment) : Course :=
  match tool? p.kind with
  | some tool =>
    (tool ⟨(p.words.headD ⟨[]⟩).octets,p.words.tail.map RawText.octets,env⟩).course
  | none => (Shell.program p.words env).course

end MatrixHarness.Machine
