import DftTaxonomy.Client.Classify
import DftTaxonomy.Client.Check

/-!
# The command line

The first word chooses the client: `conformance` runs the conformance client
on the remaining words, anything else is given whole to the classifying
client.  Files are read from the system, standard input is read once when a
client asks for it, and the environment is consulted for the variables
settings read.
-/

open DftTaxonomy

/-- A system read failure in the words the clients use. -/
def fileErrorOf (e : IO.Error) : FileError :=
  match e with
  | .noFileOrDirectory .. => .notFound
  | .inappropriateType _ code _ => ofCode code
  | .invalidArgument _ code _ => ofCode code
  | .otherError code _ => ofCode code
  | _ => .other (toString e)
where
  /-- The error of a system error number the clients word themselves. -/
  ofCode (code : UInt32) : FileError :=
    if code == 20 then .notADirectory
    else if code == 21 then .isDirectory
    else if code == 36 then .nameTooLong
    else .other (toString e)

/-- Reading a file of the system. -/
def systemReader : FileReader IO := fun path => do
  if path.toList.contains (Char.ofNat 0) then return .error .nulInName
  try
    let text ← IO.FS.readFile path
    pure (.ok text)
  catch e =>
    pure (.error (fileErrorOf e))

/-- The system as a client sees it. -/
def systemHost : IO (Host IO) := do
  let env ← Settings.environmentNames.filterMapM fun name => do
    pure ((← IO.getEnv name).map fun value => (name, value))
  let readStdin : IO (Option String) := do
    try
      let text ← (← IO.getStdin).readToEnd
      pure (some text)
    catch _ =>
      pure none
  pure ⟨systemReader, readStdin, env⟩

def main (args : List String) : IO UInt32 := do
  let host ← systemHost
  let outcome ← match args with
    | "conformance" :: rest => Client.check host rest
    | _ => Client.classify host args
  IO.print outcome.stdout
  IO.eprint outcome.stderr
  pure outcome.status.toUInt32
