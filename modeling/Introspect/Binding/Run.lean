import Introspect.Binding.Generate
import Introspect.Descriptor.Format
import Introspect.Storage.Disk

/-!
# Runs

A run reads a document and its settings, writes the bindings, and leaves its counters for the next
run. The counters are only taken up when the run is said to follow another one, and then the file
must name that one. Whatever fails leaves the files after it as they were.
-/

namespace Introspect.Binding

open Storage (Disk FileError)

/-- What a run is asked to do. -/
structure Options where
  input : String
  output : String
  config : Option String := none
  /-- The counters shared with the runs of other namespaces. -/
  state : Option String := none
  /-- The namespace whose run the counters must come from. -/
  after : Option String := none
deriving Repr, DecidableEq

/-- Why the document of a namespace is not read. -/
inductive DocumentError
  | file (e : FileError)
  | descriptor (e : DescriptorError)
deriving Repr, DecidableEq

/-- The text of the error. -/
def DocumentError.message : DocumentError → String
  | .file e => "Failed to read namespace document: " ++ e.message
  | .descriptor e => e.message

/-- Why a run fails. -/
inductive RunError
  | document (e : DocumentError)
  | file (e : FileError)
  | json (fault : Json.Fault)
  /-- The counters come from another namespace than expected. -/
  | mismatch (path expected found : String)
  /-- Two callbacks of one name disagree about their user data. -/
  | misplacedUserData
deriving Repr, DecidableEq

/-- What is told of a failed run. -/
def RunError.message : RunError → String
  | .document e => "Invalid descriptor: " ++ e.message
  | .file e => "I/O error: " ++ e.message
  | .json _ => "JSON error"
  | .mismatch path expected found =>
      "State file " ++ path ++ " was written after " ++ Text.quoted found ++ ", expected " ++
        Text.quoted expected
  | .misplacedUserData => "user data of a callback is out of place"

/-- Reads and checks the document of a namespace. -/
def loadNamespace (d : Disk) (path : String) : Except DocumentError Namespace :=
  match d.readText path with
  | .error e => .error (.file e)
  | .ok text => (Namespace.ofText text).mapError .descriptor

/-- Reads settings or counters; a missing file stands for the defaults. -/
def loadOr {α : Type} (d : Disk) (path : String) (missing : α)
    (decode : String → Json.Reading α) : Except RunError α :=
  match d.readText path with
  | .error .notFound => .ok missing
  | .error e => .error (.file e)
  | .ok text => (decode text).mapError .json

/-- Reads the settings; without a file they are the defaults. -/
def loadConfig (d : Disk) (path : String) : Except RunError Config := loadOr d path {} Config.ofText

/-- Reads the counters; without a file nothing has been counted. -/
def loadProgress (d : Disk) (path : String) : Except RunError Progress :=
  loadOr d path {} Progress.ofText

/-- Checks which namespace the counters come from. -/
def expectAfter (path expected : String) (p : Progress) : Except RunError Progress :=
  if p.namespaceName = expected then .ok p
  else .error (.mismatch path expected p.namespaceName)

/-- The progress a run starts from. Without a file of counters, or without the namespace that ran
before, it starts anew. -/
def startingPoint (d : Disk) (o : Options) : Except RunError Progress :=
  match o.state, o.after with
  | some path, some after => do expectAfter path after (← loadProgress d path)
  | _, _ => .ok {}

/-- The bytes a text is written as. -/
def bytesOf (text : String) : Text.Utf8.Bytes := Text.Utf8.encode text.toList

/-- Writes the counters; a file that cannot be written stays as it is. -/
def saveProgress (d : Disk) (path : String) (p : Progress) : Except RunError Unit × Disk :=
  match d.write path (bytesOf p.render) with
  | .error e => (.error (.file e), d)
  | .ok written => (.ok (), written)

/-- What a run does before it writes anything. -/
def prepare (d : Disk) (o : Options) : Except RunError (Namespace × Generated) := do
  let ns ← (loadNamespace d o.input).mapError .document
  let config ← match o.config with
    | some path => loadConfig d path
    | none => .ok {}
  let p ← startingPoint d o
  match generate? ⟨ns, config⟩ ⟨p.nextFunction, p.nextGetType⟩ with
  | some g => .ok (ns, g)
  | none => .error .misplacedUserData

/-- Writes the bindings of a namespace, and the counters for the next run. -/
def run (d : Disk) (o : Options) : Except RunError Source.Stats × Disk :=
  match prepare d o with
  | .error e => (.error e, d)
  | .ok (ns, g) =>
      match d.save o.output (bytesOf g.file.render) with
      | (.error e, d) => (.error (.file e), d)
      | (.ok (), d) =>
          match o.state with
          | none => (.ok g.stats, d)
          | some path =>
              match saveProgress d path ⟨ns.name, g.next.function, g.next.getType⟩ with
              | (.error e, d) => (.error e, d)
              | (.ok (), d) => (.ok g.stats, d)

end Introspect.Binding
