import Galley.Renderer.Builtin.Options

/-! The commands of the shell for signals and for what runs beside it. -/
namespace Galley
namespace Shell

/-! ## Names -/

/-- The signals whose names a shell does not know. -/
def namelessSignals : List Nat := [16]

/-- The first of the signals that are numbered from a common start, and the last. -/
def firstNumbered : Nat := 34

/-- The name of a signal, or its number if it has none. -/
def signalName (n : Nat) : String :=
  if n == 0 then "EXIT"
  else if n == ExitStatus.maxSignal then "RTMAX"
  else if n == firstNumbered then "RTMIN"
  else
    let middle := (firstNumbered + ExitStatus.maxSignal) / 2
    if n > middle then "RTMAX-" ++ toString (ExitStatus.maxSignal - n)
    else if n > firstNumbered then "RTMIN+" ++ toString (n - firstNumbered)
    else if namelessSignals.contains n then toString n
    else
      match ExitStatus.signals.find? (·.2 == n) with
      | some (name, _) => name
      | none => toString n

/-- The number of a signal given by number or by name, from a least one on. -/
def signal? (least : Nat) (text : String) : Option Nat :=
  if !text.isEmpty && text.toList.all Char.isDigit then text.toNat?.filter (· ≤ ExitStatus.maxSignal)
  else
    ((List.range (ExitStatus.maxSignal + 1)).drop least).find? fun n =>
      (signalName n).map Char.toUpper == text.map Char.toUpper

/-- How a shell tells that a signal has ended a program. -/
def endings : List (Nat × String) :=
  [(1, "Hangup"), (3, "Quit"), (4, "Illegal instruction"), (5, "Trace/breakpoint trap"), (6, "Aborted"),
    (7, "Bus error"), (8, "Floating point exception"), (9, "Killed"), (10, "User defined signal 1"),
    (11, "Segmentation fault"), (12, "User defined signal 2"), (14, "Alarm clock"), (15, "Terminated"),
    (16, "Stack fault"), (24, "CPU time limit exceeded"), (25, "File size limit exceeded"),
    (26, "Virtual timer expired"), (27, "Profiling timer expired"), (29, "I/O possible"), (30, "Power failure"),
    (31, "Bad system call")]

/-- Tells that a program was ended by a signal. Two signals are passed over. -/
def report (s : Shell) : ExitStatus → Shell
  | .code _ => s
  | .signal n =>
    if n == 2 || n == 13 then s
    else
      let numbered := if n ≥ firstNumbered then "Real-time signal " ++ toString (n - firstNumbered)
        else "Unknown signal " ++ toString n
      s.emit 2 (((endings.lookup n).getD numbered) ++ "\n").toUTF8

/-! ## Sending -/

/-- A signal that the shell gets. Two of them cannot be caught. -/
def receive (s : Shell) (n : Nat) : Shell :=
  match (if n == 9 || n == 19 then none else s.traps.lookup n) with
  | some action => if action.isEmpty then s.withStatus 0 else { s with pending := s.pending ++ [n], last := 0 }
  | none =>
    if n == 0 || ExitStatus.unnoticed.contains n then s.withStatus 0 else { s with halted := some (.signal n) }

/-- Sends a signal to a process: the shell or one that started it, or a command that runs aside. -/
def sendTo (s : Shell) (n pid : Nat) : Option Shell :=
  if pid == 0 || (pid == s.number && !s.isPart) then some (s.receive n)
  else if pid == s.number || s.ancestors.contains pid then some { s with felled := some (pid, n) }
  else if (s.jobs.lookup pid).isSome then
    let isNoticed := n != 0 && !ExitStatus.unnoticed.contains n
    let jobs := s.jobs.map fun (p, status) => (p, if p == pid && isNoticed then .signal n else status)
    some { s with jobs }
  else none

/-- Sends a signal to processes. There are no groups of them. -/
def send (s : Shell) (n : Nat) : List String → Shell
  | [] => s
  | a :: rest =>
    if s.halted.isSome then s
    else
      match a.toList with
      | '%' :: job =>
        if (String.ofList job).toNat?.any fun i => 0 < i && i ≤ s.jobs.length then lost s n rest
        else s.refuse ("No such job: " ++ a)
      | '-' :: pid =>
        match Condition.number (.ofList pid) with
        | .ok _ => lost s n rest
        | .error message => s.refuse message
      | _ =>
        match Condition.number a with
        | .ok pid =>
          match (if pid < 0 then none else s.sendTo n pid.toNat) with
          | some s => s.send n rest
          | none => lost s n rest
        | .error message => s.refuse message
where
  /-- A process that is not there. -/
  lost (s : Shell) (n : Nat) (rest : List String) : Shell :=
    let s := s.send n rest
    if s.last == 2 then s else ((s.complain "No such process\n").withStatus 1)

/-- The names of all signals, or that of one. -/
def listSignals (s : Shell) : List String → Shell
  | [] =>
    let names := ((List.range (ExitStatus.maxSignal + 1)).drop 1).map fun n => signalName n ++ "\n"
    (s.say ("0\n" ++ String.join names)).withStatus 0
  | a :: _ =>
    match Condition.number a with
    | .ok n =>
      let n := if n > 128 then n - 128 else n
      if 0 < n && n ≤ Int.ofNat ExitStatus.maxSignal then (s.say (signalName n.toNat ++ "\n")).withStatus 0
      else s.refuse ("invalid signal number or exit status: " ++ a)
    | .error message => s.refuse message

def killUsage : String :=
  "Usage: kill [-s sigspec | -signum | -sigspec] [pid | job]... or\nkill -l [exitstatus]"

def kill (s : Shell) (arguments : List String) : Shell :=
  let named (name : String) (targets : List String) :=
    match signal? 1 name with
    | none => s.refuse ("invalid signal number or name: " ++ name)
    | some n => if targets.isEmpty then s.refuse killUsage else (s.withStatus 0).send n targets
  let behind (targets : List String) := if targets.head? == some "--" then targets.drop 1 else targets
  match arguments with
  | [] => s.refuse killUsage
  | option :: targets =>
    match option.toList with
    | ['-', '-'] => named "TERM" targets
    | ['-', 'l'] => s.listSignals (behind targets)
    | ['-', 's'] =>
      match targets with
      | [] => s.refuse "No arg for -s option"
      | name :: targets => named name (behind targets)
    | '-' :: name =>
      match signal? 1 (.ofList name), name with
      | some n, _ => if targets.isEmpty then s.refuse killUsage else (s.withStatus 0).send n targets
      | none, 's' :: name => named (.ofList name) (behind targets)
      | none, c :: _ => s.refuse ("Illegal option -" ++ c.toString)
      | none, [] => named "TERM" arguments
    | _ => named "TERM" arguments

/-- Sets what is run on signals, or shows it. -/
def trap (s : Shell) (arguments : List String) : Shell :=
  s.withOptions "" "" arguments fun given =>
    match given.rest with
    | [] =>
      let traps := (List.range (ExitStatus.maxSignal + 1)).filterMap fun n => (s.traps.lookup n).map (n, ·)
      let lines := traps.map fun (n, action) => "trap -- " ++ quoted action ++ " " ++ signalName n ++ "\n"
      (s.say (String.join lines)).withStatus 0
    | first :: rest =>
      let resets := rest.isEmpty || (!first.isEmpty && first.toList.all Char.isDigit)
      let action := if resets || first == "-" then none else some first
      (if resets then given.rest else rest).foldl (fun s name =>
        if s.last != 0 then s
        else
          match signal? 0 name with
          | some n => { s with traps := (action.toList.map (n, ·)) ++ s.traps.filter (·.1 != n) }
          | none => (s.emit 2 (Text.latin1Bytes ("trap: " ++ name ++ ": bad trap\n"))).withStatus 1)
        (s.withStatus 0)

/-! ## What runs aside -/

/-- The status of the job that an argument names; no status for a process that is not there. -/
def job? (s : Shell) (argument : String) : Except String (Option ExitStatus) :=
  match argument.toList with
  | '%' :: name =>
    if ["", "%", "+"].contains (String.ofList name) then
      match s.jobs with
      | (_, status) :: _ => .ok (some status)
      | [] => .error "No current job"
    else
      match (String.ofList name).toNat? with
      | some (n + 1) =>
        match s.jobs.reverse[n]? with
        | some (_, status) => .ok (some status)
        | none => .error ("No such job: " ++ argument)
      | _ => .error ("No such job: " ++ argument)
  | _ => (count argument).map fun pid => s.jobs.lookup pid

/-- Waits for jobs. All of them have run when they were started, so it is told how they ended. -/
def wait (s : Shell) (arguments : List String) : Shell :=
  s.withOptions "" "" arguments fun given =>
    given.rest.foldl (fun s argument =>
      if s.halted.isSome then s
      else
        match s.job? argument with
        | .error message => s.fail message
        | .ok none => s.withStatus 127
        | .ok (some status) => (s.report status).withStatus status.toNat) (s.withStatus 0)

/-- Tells of jobs that are still under way; there are none. -/
def showJobs (s : Shell) (arguments : List String) : Shell :=
  s.withOptions "lp" "" arguments fun given =>
    match given.rest.findSome? fun a => match s.job? a with
      | .error message => some message
      | .ok _ => none with
    | some message => s.fail message
    | none => s.withStatus 0

/-- Goes on with a job in front or aside, which needs one that was stopped. -/
def resume (s : Shell) (arguments : List String) : Shell :=
  s.withOptions "" "" arguments fun given =>
    match s.job? (given.rest.headD "%") with
    | .error message => s.fail message
    | .ok _ => s.fail "job (null) not created under job control"

end Shell
end Galley
