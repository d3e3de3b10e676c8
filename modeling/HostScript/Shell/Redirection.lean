import HostScript.Shell.Expansion

/-!
# Redirection of streams

The streams of a command go to files or to each other for as long as it is executed. A file is opened
before the command begins, so that a command whose file cannot be opened is not executed at all.
-/
namespace HostScript.Shell.Machine

def openSink (m : Machine) (path : String) (append : Bool) : Except FileFault (Machine × Sink) :=
  if path = "/dev/null" then .ok (m, .nowhere)
  else match m.files.writable path with
    | .error f => .error f
    | .ok l =>
      match append, m.files.entry? l with
      | true, some (.file _) => .ok (m, .file l)
      | _, _ => .ok ({ m with files := m.files.put l (.file .empty) }, .file l)

/-- What the shell calls a fault that keeps a file from being opened. -/
def openFault (creating : Bool) : FileFault → String
  | .missing => if creating then "Directory nonexistent" else "No such file"
  | .notFolder => if creating then "Directory nonexistent" else "No such file"
  | f => f.text

/-- The machine with one of its two streams for writing redirected. -/
def redirected (m : Machine) (stream : Nat) (sink : Sink) : Machine :=
  if stream = 1 then { m with out := sink }
  else if stream = 2 then { m with err := sink }
  else m

/-- The stream with a number. -/
def sink? (m : Machine) (number : String) : Option Sink :=
  match number with
  | "0" => some .nowhere
  | "1" => some m.out
  | "2" => some m.err
  | "-" => some .nowhere
  | _ => none

/-- Puts redirections into effect, or says why one cannot be. -/
def redirect (run : List Char → Machine → Machine) (fuel : Nat) (m : Machine) :
    List Redirect → Except (String × Machine) Machine
  | [] => .ok m
  | r :: rest =>
    let (path, m) := oneText run fuel m r.target
    match r.kind with
    | .duplicate =>
      match m.sink? path with
      | some sink => redirect run fuel (m.redirected r.stream sink) rest
      | none => .error (path ++ ": Bad file descriptor", m)
    | .here => redirect run fuel { m with input := path.toUTF8 } rest
    | .read =>
      if path = "/dev/null" then redirect run fuel { m with input := .empty } rest
      else match m.files.read path with
        | .ok bytes => redirect run fuel { m with input := bytes } rest
        | .error f => .error ("cannot open " ++ path ++ ": " ++ openFault false f, m)
    | kind =>
      match m.openSink path (kind = .append) with
      | .error f => .error ("cannot create " ++ path ++ ": " ++ openFault true f, m)
      | .ok (m, sink) => redirect run fuel (m.redirected r.stream sink) rest

/-- Takes the redirections of a command back, whose machine before them is known. -/
def restore (redirects : List Redirect) (before m : Machine) : Machine :=
  { m with
    out := before.out
    err := before.err
    input := if redirects.any (fun r => r.kind = .read || r.kind = .here) then before.input else m.input }

end HostScript.Shell.Machine
