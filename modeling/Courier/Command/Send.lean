import Courier.Command.Inputs
import Courier.Json.Writer

/-!
# Sending

The command `send`: it loads its inputs, sends the request, writes the response as JSON to the
standard output or to a file, and checks the assertions of the request file.
-/

namespace Courier.Command

/-- The response as it is written. -/
def responseText (r : Response) : String := Json.write (some 2) r.dump

/-- What is said beforehand about the request. -/
def announcement (request : Request) (t : Transport) : List CodeText :=
  ("Sending " ++ request.summary) ::
    (if !t.verifySsl && (t.caBundle.getD []).isEmpty then
      ["  Warning: certificate validation is disabled"]
    else [])

namespace Outcome

/-- Lines for the standard error where they are asked for. -/
def reportIf (wanted : Bool) (lines : List CodeText) (o : Outcome) : Outcome :=
  if wanted then lines.foldl report o else o

/-- Checks assertions on a response; every one has to pass. -/
def judge (assertions : List Assertion) (r : Response) (o : Outcome) : Outcome :=
  if assertions.isEmpty then o.exit 0
  else
    match evaluateAll r assertions with
    | .error f => o.crash (.evaluate f)
    | .ok verdicts =>
      (o.report (Verdict.report verdicts)).exit
        (if verdicts.all fun v => v.passed then 0 else 1)

/-- What is done with a response once it is written. -/
def conclude (a : SendArguments) (assertions : List Assertion) (r : Response) (o : Outcome) :
    Outcome :=
  (o.reportIf a.verbose [.ofString r.headline]).judge assertions r

/-- Writes a response. -/
def deliver (a : SendArguments) (assertions : List Assertion) (r : Response) (o : Outcome) :
    Outcome :=
  match a.out with
  | none => (o.print (responseText r)).conclude a assertions r
  | some path =>
    match o.files.writeDeep path (Text.Utf8.encode (responseText r ++ "\n")) with
    | (files, some e) =>
      { o with files := files }.fail
        ("Error: cannot write response to " ++ path.text ++ ": " ++ e.message)
    | (files, none) =>
      ({ o with files := files }.print ("Response written to: " ++ path.text)).conclude a
        assertions r

/-- Sends a request with a fresh client (`execute_http_request`). What the machine meets is a script,
which is the client's transport from outside. So neither the proxies of the environment nor
`SSL_CERT_FILE` and `SSLKEYLOGFILE` count here, as they do for a client with a transport of its own
(`Session.openedDirectly`). -/
def exchange (m : Machine) (a : SendArguments) (assertions : List Assertion) (request : Request)
    (t : Transport) (o : Outcome) : Outcome :=
  match Session.opened m.files t with
  | .error e => o.failBuild e
  | .ok session =>
    let e := session.execute m.surroundings m.clock request
    let o := { o with sent := e.sent }
    match e.outcome with
    | .error e => o.failExecute e
    | .ok r => o.deliver a assertions r

end Outcome

/-- Runs `send` (`run_send`). -/
def runSend (m : Machine) (a : SendArguments) : Outcome :=
  let o := Outcome.start m.files
  match a.sources.load m with
  | .error e => o.failLoad e
  | .ok inputs =>
    match a.transport m with
    | .error e => o.failLoad e
    | .ok t =>
      (o.reportIf a.verbose (announcement inputs.request t)).exchange m a inputs.file.assertions
        inputs.request t

end Courier.Command
