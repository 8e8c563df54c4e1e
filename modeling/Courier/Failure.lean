import Courier.Charset.Coding
import Courier.Config
import Courier.Mime.Parameter
import Courier.Net.Url
import Courier.Text.Quoted

/-!
# Failures

All that can keep a request from being built, sent or answered, by cause, and what a user is told of
each.
-/

namespace Courier

/-! ## The operating system -/

/-- The sorts of refusal of the operating system that have a name of their own. -/
inductive SystemKind where
  | general | processMissing | childProcess | blocking | interrupted
  | fileMissing | fileExists | isDirectory | notDirectory | permission
  | brokenPipe | connectionAborted | connectionRefused | connectionReset | timeout
  deriving DecidableEq, Repr

/-- The sort of a refusal, by its number. -/
def SystemKind.ofCode (code : Int) : SystemKind :=
  ([(1, permission), (2, fileMissing), (3, processMissing), (4, interrupted), (10, childProcess),
    (11, blocking), (13, permission), (17, fileExists), (20, notDirectory), (21, isDirectory),
    (32, brokenPipe), (103, connectionAborted), (104, connectionReset), (108, brokenPipe),
    (110, timeout), (111, connectionRefused), (114, blocking), (115, blocking)].lookup code).getD
    general

/-- A refusal of the operating system: one that is only told, or one with a number and perhaps the
file that it is about. -/
inductive SystemFault where
  | told (kind : SystemKind) (text : String)
  | numbered (code : Int) (reason : String) (file : Option String)
  deriving DecidableEq, Repr

namespace SystemFault

/-- The sort of a refusal. -/
def kind : SystemFault → SystemKind
  | told kind _ => kind
  | numbered code _ _ => .ofCode code

/-- What a user is told. -/
def message : SystemFault → String
  | told _ text => text
  | numbered code reason none => "[Errno " ++ Text.signedNumeral code ++ "] " ++ reason
  | numbered code reason (some file) =>
    "[Errno " ++ Text.signedNumeral code ++ "] " ++ reason ++ ": " ++ Text.quoted file

/-- A file that is not there. -/
def missing (file : String) : SystemFault := .numbered 2 "No such file or directory" (some file)

/-- A path that goes on below a file. -/
def belowFile (file : String) : SystemFault := .numbered 20 "Not a directory" (some file)

/-- A directory where a file is wanted. -/
def directory (file : String) : SystemFault := .numbered 21 "Is a directory" (some file)

/-- A file where a directory is wanted. -/
def occupied (file : String) : SystemFault := .numbered 17 "File exists" (some file)

/-- A file or directory that may not be used. -/
def denied (file : String) : SystemFault := .numbered 13 "Permission denied" (some file)

/-- A name or path beyond the limits. -/
def nameTooLong (file : String) : SystemFault := .numbered 36 "File name too long" (some file)

/-- A refusal as those learn of it who wait while others work: a timeout is told anew, without the file
that it is about. -/
def relayed : SystemFault → SystemFault
  | told kind text => told kind text
  | numbered code reason file =>
    numbered code reason (if SystemKind.ofCode code = .timeout then none else file)

end SystemFault

/-! ## The network -/

/-- The ways in which an exchange with a server can fail. -/
inductive NetworkFault where
  | connectError | connectTimeout
  | readError | readTimeout
  | writeError | writeTimeout
  | closeError | poolTimeout
  | proxyError | unsupportedProtocol
  | localProtocolError | remoteProtocolError | protocolError
  | networkError | timeoutException | transportError
  deriving DecidableEq, Repr

namespace NetworkFault

/-- The name by which a user is told of a fault. -/
def name : NetworkFault → String
  | connectError => "ConnectError"
  | connectTimeout => "ConnectTimeout"
  | readError => "ReadError"
  | readTimeout => "ReadTimeout"
  | writeError => "WriteError"
  | writeTimeout => "WriteTimeout"
  | closeError => "CloseError"
  | poolTimeout => "PoolTimeout"
  | proxyError => "ProxyError"
  | unsupportedProtocol => "UnsupportedProtocol"
  | localProtocolError => "LocalProtocolError"
  | remoteProtocolError => "RemoteProtocolError"
  | protocolError => "ProtocolError"
  | networkError => "NetworkError"
  | timeoutException => "TimeoutException"
  | transportError => "TransportError"

/-- Whether the connection was never made, so that the server cannot have seen the request. -/
def beforeConnection : NetworkFault → Bool
  | connectError | connectTimeout => true
  | _ => false

end NetworkFault

/-! ## All failures -/

/-- The sorts of failure of which only a text is known: a source or a wire that is not ours met
them, or what waits for these did. -/
inductive ForeignFault where
  | badValue | badState | missingKey
  | undecodable | tooManyRedirects | badUrl | badStream | requestError | httpError | cookieConflict
  /-- The signals by which an iterator says that there is nothing more. -/
  | stopIteration | stopAsyncIteration
  /-- Work that was cancelled, and a result that is asked for too early or given twice, as they are
  told of threads. -/
  | cancelledFuture | invalidFuture
  /-- The same as they are told to those who wait for tasks. -/
  | cancelledTask | invalidTask
  /-- A name that was given no value. -/
  | unboundName
  /-- Any other sort, by its name. -/
  | other (name : String)
  deriving DecidableEq, Repr

/-- What can keep a request from being built, sent or answered. -/
inductive Failure where
  | system (fault : SystemFault)
  | network (fault : NetworkFault) (text : String)
  | foreign (fault : ForeignFault) (text : String)
  /-- A charset that cannot be used. -/
  | charset (fault : CharsetFault)
  /-- A body that cannot be read as text. -/
  | decode (fault : DecodeFault)
  /-- A content type whose parameters cannot be put together. -/
  | pieces (fault : Mime.PieceFault)
  /-- Characters beyond ASCII, from the first place to the last of one stretch. -/
  | notAscii (stretch : String) (first : Nat)
  | url (fault : Net.UrlFault)
  /-- A host that stands in ASCII for a name that is not good. -/
  | hostName (fault : Net.NameFault)
  | settings (faults : List FieldFault)
  /-- A value under the name that stands for the settings themselves. -/
  | settingReserved
  | unknownMethod (name : String)
  | unknownEntityKind (name : String)
  /-- An entity needs either content or a stream. -/
  | contentUnclear
  | entityConsumed (text : String)
  /-- A path with a NUL character. -/
  | nulInPath
  /-- A size that does not fit a machine word. -/
  | sizeTooLarge
  /-- A size that fits a machine word but not a block of bytes. -/
  | blockTooLarge
  | outOfMemory
  /-- Halves of surrogate pairs that stand alone, from the first place to the last of one stretch. -/
  | loneSurrogates (first : Nat) (codes : List Nat)
  /-- A negative size other than the one that means all. -/
  | negativeSize
  | clientClosed
  /-- A streamed body that would have to be sent again. -/
  | streamConsumed
  | redirectsExceeded
  /-- No failure that anyone learns of: one who waits for an answer is never told. -/
  | neverTold
  /-- A request that got no reply. -/
  | requestFailed (text : String) (method address : Option String) (cause : Option Failure)
  deriving Inhabited

/-- What is said of an entity that is read again. -/
def consumedText : String :=
  "Entity content has already been consumed. Build a new entity to send it again."

/-- What is said of a value under the name that stands for the settings themselves. -/
def reservedText : String :=
  "Config.from_env() got multiple values for argument " ++ Text.quoted Config.reservedName

/-- What is said of a body that was streamed once. -/
def streamConsumedText : String :=
  "Attempted to read or stream some content, but the content has already been streamed. " ++
    "For requests, this could be due to passing a generator as request content, and then " ++
    "receiving a redirect response or a secondary request as part of an authentication flow." ++
    "For responses, this could be due to attempting to stream the response content more than once."

/-- The beginning of a text that takes so many bytes in UTF-8; a character that is cut through is
replaced. -/
def firstBytes (count : Nat) (s : String) : String :=
  String.ofList (Decoded.ofItems (Charset.readUtf8 ((Charset.utf8Bytes s.toList).take count))).characters

/-- What a user is told about a charset. -/
def CharsetFault.message : CharsetFault → String
  | unknown name => "unknown encoding: " ++ name
  | nulInName => "embedded null character"
  | notText name =>
    "'" ++ firstBytes 400 name ++
      "' is not a text encoding; use codecs.encode() to handle arbitrary codecs"
  | refuses name encoding reason =>
    (if encoding then "encoding" else "decoding") ++ " with '" ++ name ++
      "' codec failed (UnicodeError: " ++ reason ++ ")"

/-- What a user is told about bytes that are no text. -/
def DecodeFault.message : DecodeFault → String
  | charset fault => fault.message
  | notAscii byte position =>
    "'ascii' codec can't decode byte 0x" ++ Text.hexNumeral 2 byte.toNat ++ " in position " ++
      Text.numeral position ++ ": ordinal not in range(128)"
  | noByteOrderMark bits => "UTF-" ++ Text.numeral bits ++ " stream does not start with BOM"
  | streamRefused reason => reason
  | strictOnly => ""
  | textOnly => "descriptor 'translate' for 'str' objects doesn't apply to a 'bytes' object"

/-- What a user is told about characters that are not ASCII. -/
def notAsciiMessage (stretch : String) (first : Nat) : String :=
  match stretch.toList with
  | [c] =>
    "'ascii' codec can't encode character '" ++ Text.escapedChar c ++ "' in position " ++
      Text.numeral first ++ ": ordinal not in range(128)"
  | cs =>
    "'ascii' codec can't encode characters in position " ++ Text.numeral first ++ "-" ++
      Text.numeral (first + cs.length - 1) ++ ": ordinal not in range(128)"

/-- What a user is told about halves of surrogate pairs. -/
def loneSurrogatesMessage (first : Nat) (codes : List Nat) : String :=
  match codes with
  | [code] =>
    "'utf-8' codec can't encode character '\\u" ++ Text.hexNumeral 4 code ++ "' in position " ++
      Text.numeral first ++ ": surrogates not allowed"
  | codes =>
    "'utf-8' codec can't encode characters in position " ++ Text.numeral first ++ "-" ++
      Text.numeral (first + codes.length - 1) ++ ": surrogates not allowed"

/-- What a user is told about pieces of which only some have a number, or one with too long a
number. -/
def Mime.PieceFault.message : Mime.PieceFault → String
  | mixed numberedFirst =>
    let (a, b) := if numberedFirst then ("int", "NoneType") else ("NoneType", "int")
    "'<' not supported between instances of '" ++ b ++ "' and '" ++ a ++ "'"
  | longNumber digits =>
    "Exceeds the limit (" ++ Text.numeral Mime.numberDigits ++
      " digits) for integer string conversion: value has " ++ Text.numeral digits ++
      " digits; use sys.set_int_max_str_digits() to increase the limit"

namespace Failure

/-- What a user is told of a request that failed: method and address first, if both are known. -/
def requestFailedMessage (text : String) (method address : Option String) : String :=
  match method.getD "", address.getD "" with
  | "", _ | _, "" => text
  | m, u => m ++ " " ++ u ++ " failed: " ++ text

/-- What a user is told. -/
def message : Failure → String
  | system fault => fault.message
  | network _ text => text
  | foreign .missingKey text => Text.quoted text
  | foreign _ text => text
  | charset fault => fault.message
  | decode fault => fault.message
  | pieces fault => fault.message
  | notAscii stretch first => notAsciiMessage stretch first
  | url fault => fault.message
  | hostName fault => fault.message
  | settings faults => String.intercalate "\n" (faults.map (·.fault.message))
  | settingReserved => reservedText
  | unknownMethod name => Text.quoted name ++ " is not a valid HttpMethod"
  | unknownEntityKind name => Text.quoted name ++ " is not a valid EntityKind"
  | contentUnclear => "Exactly one of content or stream must be provided"
  | entityConsumed text => text
  | nulInPath => "embedded null byte"
  | sizeTooLarge => "cannot fit 'int' into an index-sized integer"
  | blockTooLarge => "byte string is too large"
  | outOfMemory => ""
  | loneSurrogates first codes => loneSurrogatesMessage first codes
  | negativeSize => "read length must be non-negative or -1"
  | clientClosed => "Cannot send a request, as the client has been closed."
  | streamConsumed => streamConsumedText
  | redirectsExceeded => "Exceeded maximum allowed redirects."
  | neverTold => ""
  | requestFailed text method address _ => requestFailedMessage text method address

/-- The failure to make settings. -/
def ofConfig : ConfigFault → Failure
  | .refused faults => settings faults
  | .reserved => settingReserved

/-- A failure to read a file or to reach a server as the failure of the request; any other stays as it
is. -/
def asRequestFailure (method address : Option String) (failure : Failure) : Failure :=
  match failure with
  | system fault =>
    requestFailed ("could not read request content: " ++ fault.message) method address
      (some failure)
  | network fault text =>
    requestFailed (fault.name ++ ": " ++ text) method address (some failure)
  | _ => failure

/-- A failure as those learn of it who wait while a thread works: some are told anew, and the signal
of an iterator that ends cannot be told at all. -/
def relayed : Failure → Failure
  | system fault => system fault.relayed
  | foreign .stopIteration _ => neverTold
  | foreign .cancelledFuture text => foreign .cancelledTask text
  | foreign .invalidFuture text => foreign .invalidTask text
  | failure => failure

/-- A failure as it leaves a loop that hands out one thing after the other: the signal of such a loop
is not let through. -/
def leavingLoop : Failure → Failure
  | foreign .stopIteration _ => foreign .badState "generator raised StopIteration"
  | failure => failure

/-- A failure as it leaves a loop of those who wait between one thing and the next. -/
def leavingAwaitedLoop : Failure → Failure
  | foreign .stopAsyncIteration _ => foreign .badState "async generator raised StopAsyncIteration"
  | failure => failure

/-- A failure to fetch a chunk as those learn of it who fetch chunk after chunk while a thread works. -/
def fetched (failure : Failure) : Failure :=
  failure.relayed.leavingAwaitedLoop

/-- Whether another attempt may succeed without the server seeing the request twice. -/
def isRetryable : Failure → Bool
  | network fault _ => fault.beforeConnection
  | _ => false

end Failure

/-- Code points as a text that has to be of characters. -/
def asString (points : List CodePoint) : Except Failure String :=
  let code? : CodePoint → Option Nat
    | .char _ => none
    | .surrogate code => some code
  match points.span fun p => (code? p).isNone with
  | (_, []) => .ok (String.ofList (points.map CodePoint.toChar))
  | (before, rest) =>
    .error (.loneSurrogates before.length
      ((rest.takeWhile fun p => (code? p).isSome).filterMap code?))

/-- The bytes of a text that has to be ASCII. -/
def asciiBytes (s : String) : Except Failure Bytes :=
  let isAscii (c : Char) : Bool := c.toNat < 0x80
  match s.toList.span isAscii with
  | (_, []) => .ok (ascii s)
  | (before, rest) =>
    .error (.notAscii (String.ofList (rest.takeWhile (!isAscii ·))) before.length)

end Courier
