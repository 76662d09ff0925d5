import NodeProbe.Decimal

set_option autoImplicit false

namespace NodeProbe

structure Duration where
  secs : UInt64
  nanos : UInt32
  nanos_lt : nanos < 1000000000 := by decide
deriving DecidableEq, Repr

namespace Duration

def zero : Duration := { secs := 0, nanos := 0 }

def ofSecs (secs : UInt64) : Duration := { secs, nanos := 0 }

theorem millis_lt (millis : Nat) : UInt32.ofNat (millis % 1000 * 1000000) < 1000000000 := by
  have bound : millis % 1000 * 1000000 < 1000000000 := by omega
  rw [UInt32.lt_iff_toNat_lt, UInt32.toNat_ofNat_of_lt' (Nat.lt_trans bound (by decide))]
  exact bound

def ofMillis (millis : Nat) : Duration :=
  ⟨.ofNat (millis / 1000), .ofNat (millis % 1000 * 1000000), millis_lt millis⟩

def seconds (duration : Duration) : Float :=
  duration.secs.toFloat + duration.nanos.toNat.toUInt64.toFloat / 1000000000

end Duration

def plainFloat (x : Float) : String := String.ofList (Decimal.Layout.positional.write x)


structure SystemFault where
  number : Int
deriving DecidableEq, Repr

namespace SystemFault

def notFound : SystemFault := ⟨2⟩

def notDirectory : SystemFault := ⟨20⟩

def isDirectory : SystemFault := ⟨21⟩

def nameTooLong : SystemFault := ⟨36⟩

-- The meanings of the numbers from zero on. Two numbers among them are not in use.
def meanings : List String :=
  ["Success", "Operation not permitted", "No such file or directory", "No such process",
   "Interrupted system call", "Input/output error", "No such device or address", "Argument list too long",
   "Exec format error", "Bad file descriptor", "No child processes", "Resource temporarily unavailable",
   "Cannot allocate memory", "Permission denied", "Bad address", "Block device required",
   "Device or resource busy", "File exists", "Invalid cross-device link", "No such device",
   "Not a directory", "Is a directory", "Invalid argument", "Too many open files in system",
   "Too many open files", "Inappropriate ioctl for device", "Text file busy", "File too large",
   "No space left on device", "Illegal seek", "Read-only file system", "Too many links", "Broken pipe",
   "Numerical argument out of domain", "Numerical result out of range", "Resource deadlock avoided",
   "File name too long", "No locks available", "Function not implemented", "Directory not empty",
   "Too many levels of symbolic links", "Unknown error 41", "No message of desired type",
   "Identifier removed", "Channel number out of range", "Level 2 not synchronized", "Level 3 halted",
   "Level 3 reset", "Link number out of range", "Protocol driver not attached",
   "No CSI structure available", "Level 2 halted", "Invalid exchange", "Invalid request descriptor",
   "Exchange full", "No anode", "Invalid request code", "Invalid slot", "Unknown error 58",
   "Bad font file format", "Device not a stream", "No data available", "Timer expired",
   "Out of streams resources", "Machine is not on the network", "Package not installed", "Object is remote",
   "Link has been severed", "Advertise error", "Srmount error", "Communication error on send",
   "Protocol error", "Multihop attempted", "RFS specific error", "Bad message",
   "Value too large for defined data type", "Name not unique on network", "File descriptor in bad state",
   "Remote address changed", "Can not access a needed shared library",
   "Accessing a corrupted shared library", ".lib section in a.out corrupted",
   "Attempting to link in too many shared libraries", "Cannot exec a shared library directly",
   "Invalid or incomplete multibyte or wide character", "Interrupted system call should be restarted",
   "Streams pipe error", "Too many users", "Socket operation on non-socket", "Destination address required",
   "Message too long", "Protocol wrong type for socket", "Protocol not available", "Protocol not supported",
   "Socket type not supported", "Operation not supported", "Protocol family not supported",
   "Address family not supported by protocol", "Address already in use", "Cannot assign requested address",
   "Network is down", "Network is unreachable", "Network dropped connection on reset",
   "Software caused connection abort", "Connection reset by peer", "No buffer space available",
   "Transport endpoint is already connected", "Transport endpoint is not connected",
   "Cannot send after transport endpoint shutdown", "Too many references: cannot splice",
   "Connection timed out", "Connection refused", "Host is down", "No route to host",
   "Operation already in progress", "Operation now in progress", "Stale file handle",
   "Structure needs cleaning", "Not a XENIX named type file", "No XENIX semaphores available",
   "Is a named type file", "Remote I/O error", "Disk quota exceeded", "No medium found",
   "Wrong medium type", "Operation canceled", "Required key not available", "Key has expired",
   "Key has been revoked", "Key was rejected by service", "Owner died", "State not recoverable",
   "Operation not possible due to RF-kill", "Memory page has hardware error"]

def text (fault : SystemFault) : String :=
  let unknown := "Unknown error " ++ toString fault.number
  match fault.number with
  | .ofNat number => meanings.getD number unknown
  | .negSucc _ => unknown

end SystemFault


inductive IoFault
  | system (fault : SystemFault)
  | nulInName
  | outputFull
  | other (text : String)
deriving DecidableEq, Repr

def IoFault.message : IoFault → String
  | .system fault => fault.text ++ " (os error " ++ toString fault.number ++ ")"
  | .nulInName => "file name contained an unexpected NUL byte"
  | .outputFull => "output full"
  | .other text => text

inductive Failure
  | config (text : String)
  -- No complete response came.
  | transport (detail : String)
  | timeout (seconds : Nat)
  | status (code : UInt16) (body : String)
  | decode (reason : String)
  | io (fault : IoFault)
deriving DecidableEq, Repr

def Failure.message : Failure → String
  | .config text => "Configuration error: " ++ text
  | .transport detail => "Transport error: " ++ detail
  | .timeout seconds => "Request timed out after " ++ toString seconds ++ "s"
  | .status code body => "API returned status " ++ toString code.toNat ++ ": " ++ body
  | .decode reason => "Failed to decode response body: " ++ reason
  | .io fault => "I/O error: " ++ fault.message

def Failure.cause? : Failure → Option String
  | .io fault => some fault.message
  | _ => none


structure Response where
  status : UInt16
  body : String
  elapsed : Duration
deriving DecidableEq, Repr

def Response.isOk (response : Response) : Bool := response.status = 200

end NodeProbe
