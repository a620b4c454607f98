import JobContainers.Codec

set_option autoImplicit false

namespace JobContainers

inductive Port where
  | number (value : Int)
  | name (value : String)
  deriving DecidableEq

structure ExecAction where
  command : List String
  deriving DecidableEq

structure HttpGet where
  path : Option String
  port : Port
  scheme : Option String
  host : Option String
  deriving DecidableEq

structure TcpSocket where
  port : Port
  host : Option String
  deriving DecidableEq

structure Probe where
  httpGet : Option HttpGet
  tcpSocket : Option TcpSocket
  exec : Option ExecAction
  initialDelaySeconds : Option Int
  periodSeconds : Option Int
  timeoutSeconds : Option Int
  failureThreshold : Option Int
  successThreshold : Option Int
  deriving DecidableEq

structure Handler where
  exec : Option ExecAction
  deriving DecidableEq

structure Lifecycle where
  preStop : Option Handler
  deriving DecidableEq

open Fields

/-- Numbers have 32 bits; every other number, and all but texts, is no port. -/
def Port.codec : Codec Port where
  read t :=
    match Codec.int32.read t, Codec.string.read t with
    | .ok n, _ => .ok (.number n)
    | _, .ok s => .ok (.name s)
    | _, _ => .error (.noAlternative "IntOrString")
  write
    | .number n => .int n
    | .name s => .string s

def ExecAction.codec : Codec ExecAction :=
  .record (ExecAction.mk <$> defaulted "command" (.list .string) [] (·.command))

def HttpGet.codec : Codec HttpGet :=
  .record (HttpGet.mk <$> optional "path" .string (·.path) <*> required "port" Port.codec (·.port)
    <*> optional "scheme" .string (·.scheme) <*> optional "host" .string (·.host))

def TcpSocket.codec : Codec TcpSocket :=
  .record (TcpSocket.mk <$> required "port" Port.codec (·.port)
    <*> optional "host" .string (·.host))

def Probe.codec : Codec Probe :=
  .record (Probe.mk <$> optional "httpGet" HttpGet.codec (·.httpGet)
    <*> optional "tcpSocket" TcpSocket.codec (·.tcpSocket)
    <*> optional "exec" ExecAction.codec (·.exec)
    <*> optional "initialDelaySeconds" .int32 (·.initialDelaySeconds)
    <*> optional "periodSeconds" .int32 (·.periodSeconds)
    <*> optional "timeoutSeconds" .int32 (·.timeoutSeconds)
    <*> optional "failureThreshold" .int32 (·.failureThreshold)
    <*> optional "successThreshold" .int32 (·.successThreshold))

def Handler.codec : Codec Handler :=
  .record (Handler.mk <$> optional "exec" ExecAction.codec (·.exec))

def Lifecycle.codec : Codec Lifecycle :=
  .record (Lifecycle.mk <$> optional "preStop" Handler.codec (·.preStop))

end JobContainers
