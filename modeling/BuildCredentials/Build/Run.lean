import BuildCredentials.Build.Scope

/-!
# Running a build

The credentials that arrive with a build are read, kept while the engine runs, and removed when it ends, be it
by success, by failure or by an error. Without credentials the engine gets no identifier.
-/

set_option autoImplicit false

namespace BuildCredentials.Build

/-- The credentials as they arrive with a build. -/
inductive RegistryAuth where
  /-- Base64 of JSON. -/
  | header (value : String)
  | json (bytes : List UInt8)
  deriving DecidableEq, Repr

/-- Reads the credentials that arrive with a build. -/
def RegistryAuth.read : RegistryAuth → Except Error Registry.Auths
  | .header value => (Registry.Auths.ofHeader value).mapError fun f => .registryConfig f.message
  | .json bytes => (Registry.Auths.ofJson bytes).mapError fun f => .registryConfig f.message

/-- What to build. -/
structure Request where
  context : String
  args : List String := []
  deriving DecidableEq, Repr

/-- What an engine is given. -/
structure Invocation where
  context : String
  args : List String
  /-- The identifier that credentials are looked up under, if the build has any. -/
  build? : Option BuildId
  /-- Where lookups are answered. -/
  socket : String
  deriving DecidableEq, Repr

/-- What an engine did: the store after it, what happened to credentials meanwhile, and its exit code. -/
structure EngineRun where
  store : Store
  events : List Audit.Event := []
  outcome : Except Error Int

/-- An engine acts on what it is given and on the store that its helpers look things up in. -/
abbrev Engine := Invocation → Store → EngineRun

/-- What has become of a build so far. -/
structure Progress where
  store : Store
  events : List Audit.Event := []
  /-- What engines were given, each time with the store as it was found. -/
  started : List (Invocation × Store) := []

namespace Progress

/-- Keeps credentials from here on. -/
def enter (p : Progress) (id : BuildId) (auths : Registry.Auths) : Progress :=
  let (store, events) := openScope p.store id auths
  { p with store, events := p.events ++ events }

/-- Starts an engine and waits for its end. -/
def launch (p : Progress) (engine : Engine) (invocation : Invocation) : Progress × Except Error Int :=
  let ran := engine invocation p.store
  ({ store := ran.store
     events := p.events ++ ran.events
     started := p.started ++ [(invocation, p.store)] }, ran.outcome)

/-- Keeps credentials no longer. -/
def leave (p : Progress) (id : BuildId) : Progress :=
  let (store, events) := closeScope p.store id
  { p with store, events := p.events ++ events }

end Progress

/-- What became of a build. -/
structure Report extends Progress where
  result : Except Error Unit

/-- A build has succeeded when its engine exits with zero. -/
def judge : Except Error Int → Except Error Unit
  | .error e => .error e
  | .ok code => if code = 0 then .ok () else .error (.buildFailed code)

/-- Reads the credentials of a build; a build may come without any. -/
def readAuths : Option RegistryAuth → Except Error Registry.Auths
  | none => .ok ∅
  | some auth => auth.read

/-- Runs one build. If it has credentials it needs an identifier, which `fresh?` is unless none could be made. -/
def run (engine : Engine) (socket : String) (fresh? : Except Error BuildId) (store : Store)
    (auth? : Option RegistryAuth) (request : Request) : Report :=
  let begun : Progress := { store }
  match readAuths auth? with
  | .error e => { begun with result := .error e }
  | .ok auths =>
    if auths.isEmpty then
      let (ended, outcome) := begun.launch engine { request with build? := none, socket }
      { ended with result := judge outcome }
    else match fresh? with
      | .error e => { begun with result := .error e }
      | .ok id =>
        let (ended, outcome) := (begun.enter id auths).launch engine { request with build? := some id, socket }
        { ended.leave id with result := judge outcome }

end BuildCredentials.Build
