set_option autoImplicit false

namespace BlobDepot

inductive Kind where
  | anything
  | ordinary
  | blobStore
  | blobIO
  | blobNotFound
  | bulkDelete
  | backend
  | objectNotFound
  | rejected
  | transport
  | unreachable
  | connectTimeout
  | readTimeout
  | noCredentials
  | validation
  | document
  | value
  | undecodable
  | unencodable
  | type
  | runtime
  | lookup
  | key
  | index
  | member
  | operatingSystem
  | fileNotFound
  | isDirectory
  | notDirectory
  | permission
  | connection
  | timeout
  | assertion
  | arithmetic
  | interrupt
  | exit
  | other (name : String)
  deriving Repr, DecidableEq

namespace Kind

def name : Kind -> String
  | .anything => "BaseException"
  | .ordinary => "Exception"
  | .blobStore => "BlobStoreError"
  | .blobIO => "BlobIOError"
  | .blobNotFound => "BlobNotFoundError"
  | .bulkDelete => "BulkDeleteError"
  | .backend => "BackendError"
  | .objectNotFound => "ObjectNotFoundError"
  | .rejected => "ClientError"
  | .transport => "BotoCoreError"
  | .unreachable => "EndpointConnectionError"
  | .connectTimeout => "ConnectTimeoutError"
  | .readTimeout => "ReadTimeoutError"
  | .noCredentials => "NoCredentialsError"
  | .validation => "ValidationError"
  | .document => "YAMLError"
  | .value => "ValueError"
  | .undecodable => "UnicodeDecodeError"
  | .unencodable => "UnicodeEncodeError"
  | .type => "TypeError"
  | .runtime => "RuntimeError"
  | .lookup => "LookupError"
  | .key => "KeyError"
  | .index => "IndexError"
  | .member => "AttributeError"
  | .operatingSystem => "OSError"
  | .fileNotFound => "FileNotFoundError"
  | .isDirectory => "IsADirectoryError"
  | .notDirectory => "NotADirectoryError"
  | .permission => "PermissionError"
  | .connection => "ConnectionError"
  | .timeout => "TimeoutError"
  | .assertion => "AssertionError"
  | .arithmetic => "ArithmeticError"
  | .interrupt => "KeyboardInterrupt"
  | .exit => "SystemExit"
  | .other name => name

def known : List Kind :=
  [.anything, .ordinary, .blobStore, .blobIO, .blobNotFound, .bulkDelete, .backend,
    .objectNotFound, .rejected, .transport, .unreachable, .connectTimeout, .readTimeout,
    .noCredentials, .validation, .document, .value, .undecodable, .unencodable, .type, .runtime,
    .lookup, .key, .index, .member, .operatingSystem, .fileNotFound, .isDirectory, .notDirectory,
    .permission, .connection, .timeout, .assertion, .arithmetic, .interrupt, .exit]

def ofName (name : String) : Kind :=
  match known.find? (fun kind => kind.name == name) with
  | some kind => kind
  | none =>
      if name == "IOError" || name == "EnvironmentError" then .operatingSystem else .other name

def lineage : Kind -> List Kind
  | .anything => [.anything]
  | .interrupt => [.interrupt, .anything]
  | .exit => [.exit, .anything]
  | .ordinary => [.ordinary, .anything]
  | .blobIO => [.blobIO, .blobStore, .operatingSystem, .ordinary, .anything]
  | .blobNotFound =>
      [.blobNotFound, .blobStore, .fileNotFound, .operatingSystem, .ordinary, .anything]
  | .bulkDelete => [.bulkDelete, .blobIO, .blobStore, .operatingSystem, .ordinary, .anything]
  | .backend => [.backend, .blobStore, .ordinary, .anything]
  | .objectNotFound => [.objectNotFound, .backend, .blobStore, .ordinary, .anything]
  | .unreachable => [.unreachable, .transport, .ordinary, .anything]
  | .connectTimeout => [.connectTimeout, .transport, .ordinary, .anything]
  | .readTimeout => [.readTimeout, .transport, .ordinary, .anything]
  | .noCredentials => [.noCredentials, .transport, .ordinary, .anything]
  | .validation => [.validation, .value, .ordinary, .anything]
  | .undecodable => [.undecodable, .value, .ordinary, .anything]
  | .unencodable => [.unencodable, .value, .ordinary, .anything]
  | .key => [.key, .lookup, .ordinary, .anything]
  | .index => [.index, .lookup, .ordinary, .anything]
  | .fileNotFound => [.fileNotFound, .operatingSystem, .ordinary, .anything]
  | .isDirectory => [.isDirectory, .operatingSystem, .ordinary, .anything]
  | .notDirectory => [.notDirectory, .operatingSystem, .ordinary, .anything]
  | .permission => [.permission, .operatingSystem, .ordinary, .anything]
  | .connection => [.connection, .operatingSystem, .ordinary, .anything]
  | .timeout => [.timeout, .operatingSystem, .ordinary, .anything]
  | .other "RecursionError" => [.other "RecursionError", .runtime, .ordinary, .anything]
  | .other "GeneratorExit" => [.other "GeneratorExit", .anything]
  | kind => [kind, .ordinary, .anything]

def isA (kind general : Kind) : Bool :=
  kind.lineage.contains general

end Kind

end BlobDepot
