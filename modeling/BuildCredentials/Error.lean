import BuildCredentials.Peer.Guard

/-!
# Errors

Everything that can go wrong, each with the text that a user reads. Only the class of an error leaves the
daemon over its socket: `Error.kind` is what a peer may learn of it.
-/

set_option autoImplicit false

namespace BuildCredentials

/-- The classes of errors that a peer can tell apart. -/
inductive ErrorKind where
  | notFound
  | unauthorized
  | malformed
  | internal
  deriving DecidableEq, Repr

/-- What went wrong. -/
inductive Error where
  | buildNotFound (reference : String)
  | credentialNotFound (reference address : String)
  | peerRejected (reason : Peer.Rejection)
  | malformedRequest (reason : String)
  | noEntropy (reason : String)
  | registryConfig (reason : String)
  | settingsInvalid (path reason : String)
  | settingsDirectory (path reason : String)
  | http (reason : String)
  | timeout (context : String) (seconds : Nat)
  | io (context : String)
  | commandFailed (command : String)
  | buildFailed (code : Int)
  | signaled
  | json (message : String)
  | tomlUnwritable (reason : String)
  | user (message : String)
  deriving DecidableEq, Repr

namespace Error

/-- The text of an error. -/
def message : Error → String
  | .buildNotFound reference => "No credentials stored for build " ++ reference
  | .credentialNotFound reference address => "No credential for " ++ address ++ " in build " ++ reference
  | .peerRejected reason => "Peer rejected: " ++ reason.message
  | .malformedRequest reason => "Malformed request: " ++ reason
  | .noEntropy reason => "Secure random source unavailable: " ++ reason
  | .registryConfig reason => "Invalid registry config: " ++ reason
  | .settingsInvalid path reason => "Invalid configuration at " ++ path ++ ": " ++ reason
  | .settingsDirectory path reason => "Failed to create config directory " ++ path ++ ": " ++ reason
  | .http reason => "Credential socket error: " ++ reason
  | .timeout context seconds => "Timed out after " ++ toString seconds ++ "s: " ++ context
  | .io context => "IO error: " ++ context
  | .commandFailed command => "Command failed: " ++ command
  | .buildFailed code => "Build engine exited with code " ++ toString code
  | .signaled => "Process terminated by signal"
  | .json message => "JSON error: " ++ message
  | .tomlUnwritable reason => "TOML serialize error: " ++ reason
  | .user message => message

/-- The class of an error. -/
def kind : Error → ErrorKind
  | .buildNotFound _ | .credentialNotFound _ _ => .notFound
  | .peerRejected _ => .unauthorized
  | .malformedRequest _ | .registryConfig _ | .json _ => .malformed
  | _ => .internal

/-- What a user can do about an error. -/
def hint? : Error → Option String
  | .registryConfig _ =>
    some "Expected base64-encoded JSON: \x7b\"<registry>\": \x7b\"username\": ..., \"password\": ...\x7d\x7d"
  | .settingsInvalid _ _ => some "Run: finchcred config init --force"
  | .io _ => some "Check permissions on the credential socket directory"
  | _ => none

end Error

end BuildCredentials
