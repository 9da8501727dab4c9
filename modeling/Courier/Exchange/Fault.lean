/-!
# Faults

What can go wrong between handing over a request and having read the whole response. A fault is of
one kind, and the kind decides what becomes of it.
-/

namespace Courier

/-- What became impossible. -/
inductive FaultKind where
  | timeoutException
  | connectTimeout
  | readTimeout
  | writeTimeout
  | poolTimeout
  | connectError
  | readError
  | writeError
  | closeError
  | networkError
  | localProtocolError
  | remoteProtocolError
  | protocolError
  | proxyError
  | unsupportedProtocol
  | transportError
  | decodingError
  | tooManyRedirects
  | requestError
  | httpError
  | streamError
  | streamConsumed
  | streamClosed
  | responseNotRead
  | requestNotRead
  | invalidUrl
  | cookieConflict
  | interrupt
  deriving DecidableEq, Repr

/-- How a fault is dealt with. -/
inductive FaultFamily where
  /-- A phase took too long. -/
  | timeout
  /-- There is no connection. -/
  | connect
  /-- The request failed in another way. -/
  | request
  /-- The exchange failed, but not because of the request. -/
  | exchange
  /-- A stream was used as it may not be. -/
  | stream
  /-- No part of an exchange. -/
  | foreign
  deriving DecidableEq, Repr

namespace FaultKind

/-- All kinds. -/
def all : List FaultKind :=
  [timeoutException, connectTimeout, readTimeout, writeTimeout, poolTimeout, connectError,
    readError, writeError, closeError, networkError, localProtocolError, remoteProtocolError,
    protocolError, proxyError, unsupportedProtocol, transportError, decodingError,
    tooManyRedirects, requestError, httpError, streamError, streamConsumed, streamClosed,
    responseNotRead, requestNotRead, invalidUrl, cookieConflict, interrupt]

/-- The name of a kind. -/
def name : FaultKind → String
  | timeoutException => "TimeoutException"
  | connectTimeout => "ConnectTimeout"
  | readTimeout => "ReadTimeout"
  | writeTimeout => "WriteTimeout"
  | poolTimeout => "PoolTimeout"
  | connectError => "ConnectError"
  | readError => "ReadError"
  | writeError => "WriteError"
  | closeError => "CloseError"
  | networkError => "NetworkError"
  | localProtocolError => "LocalProtocolError"
  | remoteProtocolError => "RemoteProtocolError"
  | protocolError => "ProtocolError"
  | proxyError => "ProxyError"
  | unsupportedProtocol => "UnsupportedProtocol"
  | transportError => "TransportError"
  | decodingError => "DecodingError"
  | tooManyRedirects => "TooManyRedirects"
  | requestError => "RequestError"
  | httpError => "HTTPError"
  | streamError => "StreamError"
  | streamConsumed => "StreamConsumed"
  | streamClosed => "StreamClosed"
  | responseNotRead => "ResponseNotRead"
  | requestNotRead => "RequestNotRead"
  | invalidUrl => "InvalidURL"
  | cookieConflict => "CookieConflict"
  | interrupt => "KeyboardInterrupt"

/-- The kind of a name. -/
def ofName? (s : String) : Option FaultKind := all.find? fun k => k.name == s

/-- How a kind is dealt with. -/
def family : FaultKind → FaultFamily
  | timeoutException | connectTimeout | readTimeout | writeTimeout | poolTimeout => .timeout
  | connectError => .connect
  | readError | writeError | closeError | networkError | localProtocolError
  | remoteProtocolError | protocolError | proxyError | unsupportedProtocol | transportError
  | decodingError | tooManyRedirects | requestError => .request
  | httpError => .exchange
  | streamError | streamConsumed | streamClosed | responseNotRead | requestNotRead => .stream
  | invalidUrl | cookieConflict | interrupt => .foreign

/-- The words of kinds that have but one cause. -/
def fixedMessage? : FaultKind → Option String
  | streamConsumed => some ("Attempted to read or stream some content, but the content has " ++
      "already been streamed. For requests, this could be due to passing a generator as request " ++
      "content, and then receiving a redirect response or a secondary request as part of an " ++
      "authentication flow.For responses, this could be due to attempting to stream the " ++
      "response content more than once.")
  | streamClosed => some
      "Attempted to read or stream content, but the stream has been closed."
  | responseNotRead => some
      "Attempted to access streaming response content, without having called \x60read()\x60."
  | requestNotRead => some
      "Attempted to access streaming request content, without having called \x60read()\x60."
  | _ => none

end FaultKind

/-- A fault with its words. -/
structure Fault where
  kind : FaultKind
  message : String
  deriving DecidableEq, Repr

namespace Fault

/-- A fault; the words of some kinds are fixed. -/
def of (kind : FaultKind) (message : String) : Fault :=
  ⟨kind, kind.fixedMessage?.getD message⟩

/-- The words for a fault, or its name where it has none. -/
def text (f : Fault) : String :=
  if f.message.isEmpty then f.kind.name else f.message

/-- Whether a body that could not be read because of the fault is replaced by words about it. -/
def spoilsBody (f : Fault) : Bool := f.kind.family != .foreign

end Fault

end Courier
