import TrivialFtp.Command.Arguments
import TrivialFtp.Net.Ip
import TrivialFtp.Text.Numeral

/-!
# Invocations

What the command line asks for: to get a file, to put one, or to serve a directory.
-/

namespace TrivialFtp.Command

/-- How transfers are to be timed. -/
structure Pace where
  /-- Seconds. -/
  timeout : Nat := 3
  retries : Nat := 8
  localIp : Option Ip := none
  deriving DecidableEq, Repr

/-- What get and put have in common. -/
structure Common where
  host : String
  port : UInt16 := 69
  blockSize : Option Nat := none
  /-- The size of the file is asked for, or told. -/
  withSize : Bool := false
  pace : Pace := {}
  deriving DecidableEq, Repr

/-- What is to be done. -/
inductive Task where
  | get (common : Common) (remote : String) (target : Option String)
  | put (common : Common) (source : String) (remote : Option String)
  | serve (address root : String) (pace : Pace) (reportSize : Bool)
  deriving DecidableEq, Repr

/-- A command line that was understood. -/
structure Invocation where
  verbose : Bool
  task : Task
  deriving DecidableEq, Repr

/-- Why a command line asks for nothing to be done. -/
inductive Usage where
  | help
  | misuse
  deriving DecidableEq, Repr

/-- A parser of command lines.  It says what they ask for, or why they ask for nothing. -/
abbrev Parser := List String → Except Usage Invocation

/-- The arguments of get and put. -/
def clientGrammar : Grammar where
  valued := [("--host", "host"), ("-H", "host"), ("--port", "port"), ("-p", "port"),
    ("--blksize", "blksize"), ("-b", "blksize"), ("--timeout", "timeout"), ("-t", "timeout"),
    ("--retries", "retries"), ("-r", "retries"), ("--local-ip", "local-ip")]
  switches := [("--tsize", "tsize")]
  operands := 2

/-- The arguments of serve. -/
def serveGrammar : Grammar where
  valued := [("--bind", "bind"), ("-l", "bind"), ("--root", "root"), ("-r", "root"),
    ("--timeout", "timeout"), ("-t", "timeout"), ("--retries", "retries"),
    ("--local-ip", "local-ip")]
  switches := [("--report-tsize", "report-tsize")]

/-- The value of an option, read if it is there; a value that cannot be read spoils the
arguments. -/
def Sorted.read? {α : Type} (s : Sorted) (name : String) (read : String → Option α) :
    Option (Option α) :=
  match s.values.lookup name with
  | some value => (read value).map some
  | none => some none

/-- The pace asked for. -/
def Sorted.pace? (s : Sorted) : Option Pace := do
  let timeout ← s.read? "timeout" (Numeral.read? Numeral.word64)
  let retries ← s.read? "retries" (Numeral.read? Numeral.word32)
  let localIp ← s.read? "local-ip" Ip.read?
  return { timeout := timeout.getD 3, retries := retries.getD 8, localIp }

/-- The common part of get and put, but for the host. -/
def Sorted.common? (s : Sorted) (host : String) : Option Common := do
  let port ← s.read? "port" (Numeral.read? Numeral.word16)
  let blockSize ← s.read? "blksize" (Numeral.read? Numeral.word16)
  let pace ← s.pace?
  return { host, port := .ofNat (port.getD 69), blockSize,
           withSize := s.switches.contains "tsize", pace }

/-- The task of a client's command: its first operand is needed, and so is the host. -/
def clientTask? (s : Sorted) (task : Common → String → Option String → Task) :
    Option (Option Task) := do
  let common ← s.common? ((s.values.lookup "host").getD "")
  if s.help then return none
  match s.values.lookup "host", s.operands with
  | some _, first :: rest => return some (task common first rest.head?)
  | _, _ => none

/-- The task of a server's command. -/
def serveTask? (s : Sorted) : Option (Option Task) := do
  let pace ← s.pace?
  if s.help then return none
  return some (.serve ((s.values.lookup "bind").getD "0.0.0.0:6969")
    ((s.values.lookup "root").getD "./tftp_root") pace (s.switches.contains "report-tsize"))

/-- The task of a command with its arguments; there is none if help was called for. -/
def task? (name : String) (args : List String) : Option (Option Task) :=
  match name with
  | "get" => do clientTask? (← sort? clientGrammar args) .get
  | "put" => do clientTask? (← sort? clientGrammar args) .put
  | _ => do serveTask? (← sort? serveGrammar args)

/-- Understand a command line. -/
def understand (args : List String) : Except Usage Invocation :=
  match splitCommand? ["get", "put", "serve"] false false false args with
  | some (verbose, _, some (name, rest)) =>
    match task? name rest with
    | some (some task) => .ok ⟨verbose, task⟩
    | some none => .error .help
    | none => .error .misuse
  | some (_, true, none) => .error .help
  | _ => .error .misuse

end TrivialFtp.Command
