import Courier.Client.CertificateBundle
import Courier.Client.Proxy
import Courier.Exchange.Session

/-!
# Building a client

What a client needs from the files and from the process environment: the certificates that it
trusts, and the proxies that it goes through. A client whose transport is given from outside needs
no proxies.
-/

namespace Courier

/-- Which certificates a client trusts. -/
inductive Trust where
  | everything
  | standard
  | bundle
  deriving DecidableEq, Repr

/-- Why there is no client. -/
inductive BuildError where
  | bundle (path : CodeText) (e : CertificateBundle.Error)
  | certificates (e : CertificateBundle.Error)
  | proxy (e : ProxyError)
  deriving DecidableEq, Repr

/-- Whether an error is reported as one of building the client; others end the program. -/
def BuildError.isReported : BuildError → Bool
  | .bundle _ _ => true
  | .certificates _ => true
  | .proxy e => e.isValueError

/-- The words for an error. -/
def BuildError.message : BuildError → CodeText
  | .bundle path e => "Failed to create HTTP client: cannot load CA bundle '" ++ path ++ "': " ++
      e.message
  | .certificates e => "Failed to create HTTP client: " ++ e.message
  | .proxy e =>
    if e.isValueError then "Failed to create HTTP client: " ++ e.message else e.message

namespace Transport

/-- Which certificates are trusted (`_build_client_kwargs`). A bundle goes before the choice to
trust everything, and has to be usable. -/
def trust (fs : Files) (t : Transport) : Except BuildError Trust :=
  match t.caBundle with
  | some path =>
    if path.isEmpty then .ok (if t.verifySsl then .standard else .everything)
    else
      match CertificateBundle.load fs path with
      | .error e => .error (.bundle path e)
      | .ok _ => .ok .bundle
  | none => .ok (if t.verifySsl then .standard else .everything)

end Transport

namespace Session

/-- Opens a client with a transport that is given from outside (`Executor.__init__`). -/
def opened (fs : Files) (t : Transport) : Except BuildError Session := do
  let _ ← t.trust fs
  return start t

/-- The text of a variable that is set to more than nothing. -/
def setting? (env : ProcessEnvironment) (name : String) : Option String :=
  ((env.value? (Text.Utf8.encode name)).map Text.Utf8.decodeLossy).filter fun s => !s.isEmpty

/-- Opens the file that the environment names for the secrets of connections. -/
def openSecrets (env : ProcessEnvironment) (fs : Files) :
    Except CertificateBundle.Error Unit :=
  match setting? env "SSLKEYLOGFILE" with
  | none => .ok ()
  | some path =>
    match fs.write (FilePath.ofText path) [] with
    | (_, some e) => .error (.secrets path e)
    | (_, none) => .ok ()

/-- Loads the certificates that the environment names. -/
def loadCertificates (env : ProcessEnvironment) (fs : Files) :
    Except CertificateBundle.Error Unit := do
  if let some path := setting? env "SSL_CERT_FILE" then CertificateBundle.load fs path
  openSecrets env fs

/-- What a bundle needs besides its certificates. -/
def finishBundle (env : ProcessEnvironment) (fs : Files) (t : Transport) (trust : Trust) :
    Except BuildError Unit :=
  if trust = .bundle then (openSecrets env fs).mapError (.bundle (t.caBundle.getD []))
  else .ok ()

/-- Loads the standard certificates where they are trusted. -/
def standardCertificates (env : ProcessEnvironment) (fs : Files) (trust : Trust) :
    Except BuildError Unit :=
  if trust = .standard then (loadCertificates env fs).mapError .certificates else .ok ()

/-- Opens a client with a transport of its own (`Executor.__init__`). -/
def openedDirectly (env : ProcessEnvironment) (fs : Files) (t : Transport) :
    Except BuildError Session := do
  let trust ← t.trust fs
  finishBundle env fs t trust
  let (proxies, exceptions) := Proxy.ofEnvironment env
  let urls ← (proxies.mapM Proxy.read).mapError .proxy
  standardCertificates env fs trust
  (urls.forM Proxy.checkTransport).mapError .proxy
  (exceptions.forM Proxy.checkPattern).mapError .proxy
  return start t

end Session

end Courier
