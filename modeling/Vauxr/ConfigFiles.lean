import Mathlib
import Vauxr.Lib.Disk
import Vauxr.Lib.Run

/-!
The configuration files (`config_files`). `update_json` reads a file, changes it and writes it
under a lock: into a temporary file, which is flushed and then takes the name over. Any number of
updates are under way at once, each system call is a step of its own and may fail, a process may
be killed at any of them, and the power may be cut.
-/

namespace Vauxr.ConfigFiles

open Lib

variable {D ε : Type}

inductive Error (ε : Type)
  | config (requirement : String)
  | os
  | raised (e : ε)
  deriving DecidableEq

def notReadable : Error ε := .config "configuration must be readable"
def notValid : Error ε := .config "expected valid JSON with unique keys"
def notObject : Error ε := .config "expected an object"

/-- JSON, as far as the dictionaries that the program stores go: `dump` is `json.dump` with the
newline after it, `load` is `none` for what does not parse and `some none` for what is no object. -/
structure Format (D : Type) where
  dump : D → List Char
  load : List Char → Option (Option D)
  load_dump : ∀ data, load (dump data) = some (some data)
  empty : D

inductive Name
  | path
  | temporary (suffix : String)
  deriving DecidableEq

/-- An update under way, by the system call that is next: `flock`, `path.exists()`, the read,
`path.exists()` once more, `mkstemp`, the writes and their flush, `os.replace`, the `fsync` of the
directory, `os.path.exists(temporary)`, `os.unlink`, and the end of the lock. -/
inductive Task (D ε : Type)
  | locking (change : D → Except ε D)
  | looking (change : D → Except ε D)
  | reading (change : D → Except ε D)
  | comparing (change : D → Except ε D) (result : D)
  | making (change : D → Except ε D) (result : D)
  | writing (change : D → Except ε D) (result : D) (suffix : String) (file : ℕ) (rest : List Char)
  | replacing (change : D → Except ε D) (result : D) (suffix : String) (file : ℕ)
  | syncing (result : D) (suffix : String)
  | cleaning (suffix : String) (outcome : Except (Error ε) D)
  | unlinking (suffix : String) (outcome : Except (Error ε) D)
  | leaving (suffix : Option String) (outcome : Except (Error ε) D)

/-- `held` is what the file has held, the latest first, with `none` while there was no file. -/
structure State (D ε : Type) where
  disk : Disk Name Char
  lock : Option ℕ
  tasks : ℕ → Option (Task D ε)
  held : List (Option D)

namespace State

variable (s : State D ε)

def put (p : ℕ) (t : Task D ε) : State D ε :=
  { s with tasks := Function.update s.tasks p (some t) }

def stop (p : ℕ) : State D ε :=
  { s with
    tasks := Function.update s.tasks p none
    lock := if s.lock = some p then none else s.lock }

def withDisk (disk : Disk Name Char) : State D ε := { s with disk }

end State

variable [DecidableEq D] (f : Format D)

/-- What a text that has been read leads to: `change` runs on it, and the result is written if it
is another one. -/
def changed (change : D → Except ε D) (text : List Char) : Task D ε :=
  match f.load text with
  | none => .leaving none (.error notValid)
  | some none => .leaving none (.error notObject)
  | some (some data) =>
    match change data with
    | .error e => .leaving none (.error (.raised e))
    | .ok result => if result ≠ data then .making change result else .comparing change result

def started (change : D → Except ε D) : Task D ε :=
  match change f.empty with
  | .error e => .leaving none (.error (.raised e))
  | .ok result => if result ≠ f.empty then .making change result else .comparing change result

/-- The next system call of a task that holds the lock: whether it fails, the suffix that `mkstemp`
picks, and how much one write takes. -/
def call (s : State D ε) (p : ℕ) (fails : Bool) (suffix : String) (n : ℕ) :
    Task D ε → State D ε
  | .locking change =>
    if fails then s.stop p
    else if s.lock = none then { s.put p (.looking change) with lock := some p }
    else s
  | .looking change =>
    if fails then s.put p (.leaving none (.error .os))
    else if (s.disk.entry .path).isSome then s.put p (.reading change)
    else s.put p (started f change)
  | .reading change =>
    match if fails then none else s.disk.read .path with
    | none => s.put p (.leaving none (.error notReadable))
    | some text => s.put p (changed f change text)
  | .comparing change result =>
    if fails then s.put p (.leaving none (.error .os))
    else if (s.disk.entry .path).isSome then s.put p (.leaving none (.ok result))
    else s.put p (.making change result)
  | .making change result =>
    if fails then s.put p (.leaving none (.error .os))
    else if s.disk.entry (.temporary suffix) = none then
      (s.withDisk (s.disk.create (.temporary suffix))).put p
        (.writing change result suffix s.disk.next (f.dump result))
    else s
  | .writing change result suffix file rest =>
    if fails then s.put p (.cleaning suffix (.error .os))
    else if rest = [] then
      (s.withDisk (s.disk.flush file)).put p (.replacing change result suffix file)
    else
      (s.withDisk (s.disk.append file (rest.take (n + 1)))).put p
        (.writing change result suffix file (rest.drop (n + 1)))
  | .replacing _ result suffix _ =>
    if fails then s.put p (.cleaning suffix (.error .os))
    else
      { (s.withDisk (s.disk.rename (.temporary suffix) .path)).put p (.syncing result suffix) with
        held := some result :: s.held }
  | .syncing result suffix =>
    if fails then s.put p (.cleaning suffix (.error .os))
    else (s.withDisk s.disk.flushDirectory).put p (.cleaning suffix (.ok result))
  | .cleaning suffix outcome =>
    -- `os.path.exists` takes an error for an absent file
    if !fails && (s.disk.entry (.temporary suffix)).isSome then s.put p (.unlinking suffix outcome)
    else s.put p (.leaving (some suffix) outcome)
  | .unlinking suffix outcome =>
    if fails then s.put p (.leaving (some suffix) (.error .os))
    else (s.withDisk (s.disk.unlink (.temporary suffix))).put p (.leaving (some suffix) outcome)
  | .leaving .. => s.stop p

inductive Event (D ε : Type)
  | update (p : ℕ) (change : D → Except ε D)
  | call (p : ℕ) (fails : Bool) (suffix : String) (n : ℕ)
  | kill (p : ℕ)
  | cut (left : Name → ℕ) (torn : ℕ → List Char)

def step (s : State D ε) : Event D ε → State D ε
  | .update p change => if (s.tasks p).isNone then s.put p (.locking change) else s
  | .call p fails suffix n =>
    match s.tasks p with
    | none => s
    | some t => call f s p fails suffix n t
  | .kill p => s.stop p
  | .cut left torn =>
    { disk := s.disk.cut left torn
      lock := none
      tasks := fun _ => none
      held := s.held.drop (s.disk.lost left .path) }

end Vauxr.ConfigFiles
