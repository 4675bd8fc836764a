import CyreneKernel.Contract.Artifact
import CyreneKernel.Lib.Guarded
import CyreneKernel.Lib.Text
import CyreneKernel.Sandbox.DeviceFilter

/-!
# The calls of the sandbox daemon

The sandbox daemon works on its host through system calls, and on a table of the children that it
started.  Each of them is a question, and what the daemon does is a program that asks them.
-/

namespace CyreneKernel.Sandboxd

open Lib Lib.Program
open Sandbox (Metadata OsError)
open Lib.Ebpf (Insn)

inductive Signal
  | term
  | kill
deriving DecidableEq

/-- The outcome of `waitpid`: the status of the child that was reaped, a child that still runs, or a
failure. -/
inductive WaitResult
  | reaped (status : BitVec 32)
  | running
  | failed
deriving DecidableEq

/-- What a forked child executes when it is released. -/
structure ForkRequest where
  executable : String
  arguments : List String
  environment : List String
  workingDirectory : Option String
  withTransport : Bool
deriving DecidableEq

/-- A child of the daemon: whether it has a pidfd, and the socket of its transport. -/
structure TrackedChild where
  pidfd : Bool
  transport : Option String
deriving DecidableEq

/-- An entry of a directory; its name is missing when it is not UTF-8. -/
structure DirEntry where
  fileName : Option String
  path : String
  isDir : Except OsError Bool

inductive HostCall
  | readToString (path : String)
  | pathExists (path : String)
  | isFile (path : String)
  | write (path contents : String)
  | createDir (path : String)
  | createDirAll (path : String)
  | removeDir (path : String)
  | removeDirAll (path : String)
  | removeFile (path : String)
  | readDir (path : String)
  | metadata (path : String)
  | isSocket (path : String)
  | bindSocket (path : String)
  | setPermissions (path : String)
  | setNonblocking (path : String)
  | startBridge (path : String)
  | processId
  | nextProbe
  | loadProgram (program : List Insn)
  | openCgroup (path : String)
  | attachProgram (path : String)
  | detachProgram (path : String)
  | environment
  | pipe
  | fork (request : ForkRequest)
  | releaseGate (pid : Nat)
  | execResult (pid : Nat)
  | procStartTime (pid : Nat)
  | signal (target : Int) (signal : Signal)
  | waitPid (pid : Nat)
  | tryWaitPid (pid : Nat)
  | openPidfd (pid : Nat)
  | pollPidfd (pid timeoutMillis : Nat)
  | deadlinePassed
  | getChild (pid : Nat)
  | removeChild (pid : Nat)
  | insertChild (pid : Nat) (child : TrackedChild)
deriving DecidableEq

/-- The answers; a program that fails to load comes with the log of the verifier, and a child that
could not execute its program with the error. -/
@[reducible] def HostCall.Answer : HostCall → Type
  | .readToString _ => Except OsError String
  | .pathExists _ | .isFile _ => Bool
  | .readDir _ => Except OsError (List (Except OsError DirEntry))
  | .metadata _ => Except OsError Metadata
  | .isSocket _ => Except OsError Bool
  | .startBridge _ | .signal _ _ | .insertChild _ _ => Unit
  | .processId | .nextProbe => Nat
  | .loadProgram _ => Except (OsError × String) Unit
  | .environment => BTreeMap String String
  | .fork _ => Except OsError Nat
  | .execResult _ => Except OsError (Option OsError)
  | .procStartTime _ => Option Nat
  | .waitPid _ | .tryWaitPid _ => WaitResult
  | .openPidfd _ | .pollPidfd _ _ | .deadlinePassed => Bool
  | .getChild _ | .removeChild _ => Option TrackedChild
  | .write _ _ | .createDir _ | .createDirAll _ | .removeDir _ | .removeDirAll _ | .removeFile _
  | .bindSocket _ | .setPermissions _ | .setNonblocking _ | .openCgroup _ | .attachProgram _
  | .detachProgram _ | .pipe | .releaseGate _ => Except OsError Unit

abbrev HostProgram (α : Type) := Program HostCall HostCall.Answer α

/-- Make a call. -/
abbrev call (question : HostCall) : HostProgram question.Answer := Program.ask question

/-- A program that may fail. -/
abbrev Fallible (α : Type) := ExceptT ProviderError (Program HostCall HostCall.Answer) α

/-- Make a call that may fail. -/
def attempt {α : Type} (p : HostProgram (Except OsError α)) (error : OsError → ProviderError) :
    Fallible α :=
  ExceptT.mk do return (← p).mapError error

/-- Run a program, and ignore its result. -/
def ignore {α : Type} (p : HostProgram α) : HostProgram Unit := do
  let _ ← p

/-- A result that does not depend on the host. -/
def fromResult {α : Type} (result : Except ProviderError α) : Fallible α := ExceptT.mk (pure result)

/-- Run a program, and go on whether it failed or not. -/
def outcome {α : Type} (p : Fallible α) : Fallible (Except ProviderError α) :=
  ExceptT.mk do return .ok (← p.run)

/-! ### Paths and texts -/

/-- `Path::join` with a relative path. -/
def join (base name : String) : String :=
  if base = "" ∨ base.toList.getLast? = some '/' then base ++ name else base ++ "/" ++ name

def trim (text : String) : String :=
  String.ofList ((text.toList.dropWhile isWhitespace).reverse.dropWhile isWhitespace).reverse

def splitWhitespace (text : String) : List String :=
  ((text.toList.splitOnP isWhitespace).filter (· ≠ [])).map String.ofList

def readTrimmed (path : String) : HostProgram (Option String) := do
  let contents : Except OsError String ← call (.readToString path)
  return contents.toOption.map trim

/-- A line `key value`. -/
def keyValue (line : List Char) : Option (String × Nat) := do
  let (key, value) ← splitOnce [' '] line
  let number ← parseNat (2 ^ 64) value
  return (String.ofList key, number)

def readKeyValues (path : String) : HostProgram (BTreeMap String Nat) := do
  let text := (← readTrimmed path).getD ""
  return .ofList ((text.toList.splitOn '\n').filterMap keyValue) compare

def readOomKillCount (cgroupPath : String) : HostProgram Nat := do
  return ((← readKeyValues (join cgroupPath "memory.events.local"))["oom_kill"]?).getD 0

/-- How often a loop that sleeps for 10 ms runs before a timeout in milliseconds. -/
def polls (timeoutMillis : Nat) : Nat := timeoutMillis / 10 + 1

/-- Read the members of a group until there are none. -/
def pollUntilEmpty (path : String) : Nat → HostProgram Bool
  | 0 => return false
  | n + 1 => do
    if (← readTrimmed (join path "cgroup.procs")).any (· = "") then return true
    else if ← call .deadlinePassed then return false
    else pollUntilEmpty path n

def waitUntilEmpty (path : String) (timeoutMillis : Nat) : HostProgram Bool :=
  pollUntilEmpty path (polls timeoutMillis)

end CyreneKernel.Sandboxd
