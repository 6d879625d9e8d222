import LiveTemplates.Config.Basic
import LiveTemplates.Files.Tree
import LiveTemplates.Loader.Memory

set_option autoImplicit false

/-! # Loaders

A loader finds the source under a name, or tells that there is none. It may also be asked for the
fingerprint alone, which needs less work. Loaders read the world they are asked in: the stores in
memory and the files. A loader that reads files must have been given its root before. -/

namespace LiveTemplates

/-- What loaders read: stores, which are called by number, and files. -/
structure World where
  files : Tree := {}
  stores : List MemoryStore := []
  /-- The time that files bear which are written now. -/
  now : Moment := ⟨0⟩
  deriving DecidableEq

namespace World

/-- The store with a number. Stores that do not exist are empty. -/
def store (world : World) (index : Nat) : MemoryStore :=
  (world.stores[index]?).getD {}

/-- Put a store in place of the one with a number. -/
def setStore (world : World) (index : Nat) (store : MemoryStore) : World :=
  { world with stores := world.stores.set index store }

theorem store_setStore (world : World) (index other : Nat) (store : MemoryStore) :
    (world.setStore index store).store other
      = if other = index ∧ index < world.stores.length then store else world.store other := by
  unfold World.store setStore
  rw [List.getElem?_set]
  by_cases ho : index = other
  · subst ho
    by_cases hlt : index < world.stores.length
    · simp [hlt]
    · simp [hlt]
  · simp [ho, eq_comm]

end World

/-- What an engine asks of whatever supplies its sources. -/
structure Source where
  load : World → String → Except TemplateError (Option Resource)
  fingerprint : World → String → Except TemplateError (Option Fingerprint)

/-- The ways to find sources. -/
inductive Loader where
  /-- In the store with a number. -/
  | memory (store : Nat)
  /-- In the files below a root. -/
  | rooted (root : Option String)
  /-- In files by absolute path. -/
  | external (root : Option String)
  /-- In the first of several loaders that has the name. -/
  | composite (loaders : List Loader)
  /-- Wherever another loader finds them, with a kind of its own; fingerprints are those of whole
  resources. -/
  | wholly (kind : String) (loader : Loader)
  deriving Inhabited

/-- The content and the time of the file that a path leads to. What is no file is not there. -/
def Tree.source? (tree : Tree) (name path : String) :
    Except TemplateError (Option (ByteArray × Moment)) :=
  match tree.look path with
  | .ok (.file content modified) => .ok (some (content, modified))
  | .ok .folder => .ok none
  | .error .notFound => .ok none
  | .error fault => .error (.io name fault)

namespace Loader

/-- The loader that a configuration asks for, without its root. -/
def ofKind : LoaderKind → Loader
  | .filesystem => rooted none
  | .external => external none

/-- The kind of a loader, in a word. -/
def kind : Loader → String
  | memory _ => "memory"
  | rooted _ => "filesystem"
  | external _ => "external"
  | composite _ => "composite"
  | wholly kind _ => kind

/-- The path of a name below a root, if there is one. -/
def resolve (kind : String) (root : Option String) (name : String) :
    Except TemplateError String :=
  match root with
  | some root => .ok (Path.join root (Path.relative name))
  | none => .error (.config (.loaderUninitialized kind))

/-- The resource of a file that was found. -/
def resourceOfFile (name : String) (origin : Origin) (found : ByteArray × Moment) :
    Except TemplateError Resource :=
  match Utf8.decode found.1 with
  | .ok content => .ok { name, content, fingerprint := .ofModified found.2, origin }
  | .error fault => .error (.io name (.notText fault))

/-- Load a source from the file at a path. -/
def loadFile (world : World) (name path : String) (origin : Origin) :
    Except TemplateError (Option Resource) :=
  match world.files.source? name path with
  | .error e => .error e
  | .ok none => .ok none
  | .ok (some found) => (resourceOfFile name origin found).map some

/-- The fingerprint of the file at a path. -/
def fileFingerprint (world : World) (name path : String) :
    Except TemplateError (Option Fingerprint) :=
  (world.files.source? name path).map fun found =>
    found.map fun (_, modified) => .ofModified modified

mutual

/-- The source under a name. -/
def load (world : World) (name : String) : Loader → Except TemplateError (Option Resource)
  | memory store => .ok ((world.store store).load name)
  | rooted root =>
    match resolve "filesystem" root name with
    | .ok path => loadFile world name path (.filesystem path)
    | .error e => .error e
  | external root =>
    match resolve "external" root name with
    | .ok path => loadFile world name path (.external path)
    | .error e => .error e
  | composite loaders => loadFirst world name loaders
  | wholly _ loader => load world name loader

/-- The source under a name in the first loader that has it. -/
def loadFirst (world : World) (name : String) :
    List Loader → Except TemplateError (Option Resource)
  | [] => .ok none
  | loader :: rest =>
    match load world name loader with
    | .ok none => loadFirst world name rest
    | outcome => outcome

end

mutual

/-- The fingerprint of the source under a name. -/
def fingerprint (world : World) (name : String) :
    Loader → Except TemplateError (Option Fingerprint)
  | memory store => .ok ((world.store store).fingerprint name)
  | rooted root =>
    match resolve "filesystem" root name with
    | .ok path => fileFingerprint world name path
    | .error e => .error e
  | external root =>
    match resolve "external" root name with
    | .ok path => fileFingerprint world name path
    | .error e => .error e
  | composite loaders => fingerprintFirst world name loaders
  | wholly _ loader =>
    (load world name loader).map fun resource => resource.map Resource.fingerprint

/-- The fingerprint of the source under a name in the first loader that has it. -/
def fingerprintFirst (world : World) (name : String) :
    List Loader → Except TemplateError (Option Fingerprint)
  | [] => .ok none
  | loader :: rest =>
    match fingerprint world name loader with
    | .ok none => fingerprintFirst world name rest
    | outcome => outcome

end

/-- A loader as an engine sees it. -/
def source (loader : Loader) : Source where
  load world name := loader.load world name
  fingerprint world name := loader.fingerprint world name

/-! ## Giving a loader its root -/

/-- Fails unless a path leads to a folder. -/
def checkRoot (world : World) (path : String) : Except TemplateError Unit :=
  match world.files.look path with
  | .ok .folder => .ok ()
  | .ok (.file _ _) => .error (.config (.rootNotDirectory path))
  | .error fault => .error (.config (.rootInaccessible path fault))

mutual

/-- Give a loader its root, after a look at the encoding. One that fails stays as it is. -/
def prepare (world : World) (path encoding : String) :
    Loader → Loader × Except TemplateError Unit
  | memory store => (memory store, (Encoding.check encoding).mapError .config)
  | rooted root =>
    match (Encoding.check encoding).mapError .config, checkRoot world path with
    | .error e, _ => (rooted root, .error e)
    | .ok (), .error e => (rooted root, .error e)
    | .ok (), .ok () => (rooted (some path), .ok ())
  | external root =>
    match (Encoding.check encoding).mapError .config with
    | .error e => (external root, .error e)
    | .ok () => (external (some "/"), .ok ())
  | composite loaders =>
    let (loaders, outcome) := prepareAll world path encoding loaders
    (composite loaders, outcome)
  | wholly kind loader =>
    let (loader, outcome) := prepare world path encoding loader
    (wholly kind loader, outcome)

/-- Give loaders their root in order, up to the first that fails. -/
def prepareAll (world : World) (path encoding : String) :
    List Loader → List Loader × Except TemplateError Unit
  | [] => ([], .ok ())
  | loader :: rest =>
    match prepare world path encoding loader with
    | (loader, .error e) => (loader :: rest, .error e)
    | (loader, .ok ()) =>
      let (rest, outcome) := prepareAll world path encoding rest
      (loader :: rest, outcome)

end

/-- A loader for the files below a root. -/
def withRoot (world : World) (path : String) : Except TemplateError Loader :=
  match prepare world path "utf-8" (rooted none) with
  | (loader, .ok ()) => .ok loader
  | (_, .error e) => .error e

/-- The root of a loader, if it has one. -/
def root? : Loader → Option String
  | rooted root => root
  | external root => root
  | _ => none

end Loader

end LiveTemplates
