/-!
# TransferCode — how a transfer, or a setting of a session, ended

A session answers in these codes; a connection maps them to outcomes.
-/
namespace Transport

/-- The result of a transfer, or the reason why a session refused a setting. -/
inductive TransferCode
  | ok
  | unsupportedProtocol
  | urlMalformat
  | couldntResolveHost
  | couldntConnect
  | weirdServerReply
  | writeError
  | operationTimedout
  | sslConnectError
  | badFunctionArgument
  | gotNothing
  | sendError
  | recvError
  deriving DecidableEq, Repr

namespace TransferCode

/-- The codes in the order of their numbers. -/
def all : List TransferCode :=
  [ok, unsupportedProtocol, urlMalformat, couldntResolveHost, couldntConnect, weirdServerReply, writeError,
    operationTimedout, sslConnectError, badFunctionArgument, gotNothing, sendError, recvError]

def constant : TransferCode → String
  | ok => "OK"
  | unsupportedProtocol => "UNSUPPORTED_PROTOCOL"
  | urlMalformat => "URL_MALFORMAT"
  | couldntResolveHost => "COULDNT_RESOLVE_HOST"
  | couldntConnect => "COULDNT_CONNECT"
  | weirdServerReply => "WEIRD_SERVER_REPLY"
  | writeError => "WRITE_ERROR"
  | operationTimedout => "OPERATION_TIMEDOUT"
  | sslConnectError => "SSL_CONNECT_ERROR"
  | badFunctionArgument => "BAD_FUNCTION_ARGUMENT"
  | gotNothing => "GOT_NOTHING"
  | sendError => "SEND_ERROR"
  | recvError => "RECV_ERROR"

/-- The number of a code: its place in the list of all codes. -/
def number (c : TransferCode) : Nat := all.idxOf c

/-- What a code means in general. -/
def describe : TransferCode → String
  | ok => "No error"
  | unsupportedProtocol => "Unsupported protocol"
  | urlMalformat => "URL using bad/illegal format or missing URL"
  | couldntResolveHost => "Couldn't resolve host name"
  | couldntConnect => "Couldn't connect to server"
  | weirdServerReply => "Weird server reply"
  | writeError => "Failed writing received data to disk/application"
  | operationTimedout => "Timeout was reached"
  | sslConnectError => "SSL connect error"
  | badFunctionArgument => "A session primitive was given a bad argument"
  | gotNothing => "Server returned nothing (no headers, no data)"
  | sendError => "Failed sending data to the peer"
  | recvError => "Failure when receiving data from the peer"

def ofConstant? (s : String) : Option TransferCode := all.find? (·.constant == s)

theorem mem_all (c : TransferCode) : c ∈ all := by cases c <;> decide

theorem ofConstant?_constant (c : TransferCode) : ofConstant? c.constant = some c := by cases c <;> decide

end TransferCode
end Transport
