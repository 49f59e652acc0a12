import DftTaxonomy.Settings
import DftTaxonomy.Json.Read
import DftTaxonomy.Parameters

/-!
# What a command-line client sees and leaves

A client is a total function from a `Host`, which reads files and standard
input in some monad and holds the environment, and the command-line words to
an `Outcome`: an exit status and the text of standard output and standard
error.  The same client runs on a real system and on a `FileStore`.

`ArgScan.scan` splits command-line words into options with a value
(`--name value` or `--name=value`), switches (`--name`, for the names given)
and positional words, each kind in order.
-/

namespace DftTaxonomy

/-- What a client run can reach. -/
structure Host (m : Type → Type) where
  /-- Reads a file by path. -/
  readFile : FileReader m
  /-- Reads all of standard input; `none` when it cannot be read as text. -/
  readStdin : m (Option String)
  /-- The environment variables the client may consult. -/
  env : Environment

namespace Host

/-- A host over a file store and an environment, with standard input as state:
the first read takes all of it and later reads find it empty. -/
def ofStore (store : FileStore) (env : Environment) : Host (StateM String) :=
  ⟨fun path => pure (store.read path), modifyGet fun rest => (some rest, ""), env⟩

end Host

/-- What a client run leaves. -/
structure Outcome where
  status : Nat
  stdout : String
  stderr : String

namespace Outcome

/-- A successful run that printed `stdout`. -/
def success (stdout : String) : Outcome := ⟨0, stdout, ""⟩

/-- A run stopped by an error: status 1 and the error on standard error. -/
def failure (message : String) : Outcome := ⟨1, "", "Error: " ++ message ++ "\n"⟩

/-- Command-line words the client does not accept: status 2. -/
def usage : Outcome := ⟨2, "", "error: invalid arguments\n"⟩

end Outcome

/-- Command-line words sorted by kind. -/
structure ArgScan where
  options : List (String × String)
  switches : List String
  positionals : List String

namespace ArgScan

/-- No words. -/
def empty : ArgScan := ⟨[], [], []⟩

/-- The value of the last occurrence of option `name`. -/
def option? (a : ArgScan) (name : String) : Option String :=
  (a.options.reverse.lookup name)

/-- Whether switch `name` was given. -/
def switch (a : ArgScan) (name : String) : Bool := a.switches.contains name

/-- Sort words into options, switches (the names in `switchNames`) and
positional words; `none` when an option has no value. -/
def scan (switchNames : List String) : List String → Option ArgScan
  | [] => some empty
  | w :: rest =>
    match w.toList with
    | '-' :: '-' :: name@(_ :: _) =>
      match name.span (· != '=') with
      | (key, '=' :: value) =>
        (scan switchNames rest).map fun a =>
          { a with options := (String.ofList key, String.ofList value) :: a.options }
      | (key, _) =>
        let k := String.ofList key
        if switchNames.contains k then
          (scan switchNames rest).map fun a => { a with switches := k :: a.switches }
        else
          match rest with
          | v :: more =>
            (scan switchNames more).map fun a => { a with options := (k, v) :: a.options }
          | [] => none
    | _ => (scan switchNames rest).map fun a => { a with positionals := w :: a.positionals }

end ArgScan

/-- Lift a result whose error is worded by `message` into a client step. -/
def liftResult {m : Type → Type} [Monad m] {ε α : Type} (message : ε → String)
    (r : Except ε α) : ExceptT String m α :=
  ExceptT.mk (pure (r.mapError message))

/-- Lift an effectful result whose error is worded by `message`. -/
def liftResultM {m : Type → Type} [Monad m] {ε α : Type} (message : ε → String)
    (r : m (Except ε α)) : ExceptT String m α :=
  ExceptT.mk ((fun x => x.mapError message) <$> r)

/-- A JSON object from a file, or from standard input for the path `-`. -/
def readObject {m : Type → Type} [Monad m] (host : Host m) (path : String) :
    ExceptT String m Params := do
  let text ← if path == "-" then
      liftResultM id ((fun r => match r with
        | some t => .ok t
        | none => .error "Failed to read standard input") <$> host.readStdin)
    else
      liftResultM (fun (_ : FileError) => "Failed to read " ++ path) (host.readFile path)
  match Json.parse? text with
  | some (.obj entries) => pure entries
  | _ => throw ("Failed to parse " ++ path ++ " as JSON")

end DftTaxonomy
