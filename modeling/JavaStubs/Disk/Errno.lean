import JavaStubs.Text.Quoted

/-! The reasons for which the operating system refuses an operation, with their numbers and texts. -/

namespace JavaStubs

/-- A reason by its symbolic name. -/
inductive Errno where
  | EPERM | ENOENT | ESRCH | EINTR | EIO | ENXIO | E2BIG | ENOEXEC | EBADF | ECHILD | EAGAIN | ENOMEM | EACCES
  | EFAULT | ENOTBLK | EBUSY | EEXIST | EXDEV | ENODEV | ENOTDIR | EISDIR | EINVAL | ENFILE | EMFILE | ENOTTY
  | ETXTBSY | EFBIG | ENOSPC | ESPIPE | EROFS | EMLINK | EPIPE | EDOM | ERANGE | EDEADLK | ENAMETOOLONG
  | ENOLCK | ENOSYS | ENOTEMPTY | ELOOP | ENOMSG | EIDRM | ECHRNG | EL2NSYNC | EL3HLT | EL3RST | ELNRNG
  | EUNATCH | ENOCSI | EL2HLT | EBADE | EBADR | EXFULL | ENOANO | EBADRQC | EBADSLT | EBFONT | ENOSTR | ENODATA
  | ETIME | ENOSR | ENONET | ENOPKG | EREMOTE | ENOLINK | EADV | ESRMNT | ECOMM | EPROTO | EMULTIHOP | EDOTDOT
  | EBADMSG | EOVERFLOW | ENOTUNIQ | EBADFD | EREMCHG | ELIBACC | ELIBBAD | ELIBSCN | ELIBMAX | ELIBEXEC
  | EILSEQ | ERESTART | ESTRPIPE | EUSERS | ENOTSOCK | EDESTADDRREQ | EMSGSIZE | EPROTOTYPE | ENOPROTOOPT
  | EPROTONOSUPPORT | ESOCKTNOSUPPORT | ENOTSUP | EPFNOSUPPORT | EAFNOSUPPORT | EADDRINUSE | EADDRNOTAVAIL
  | ENETDOWN | ENETUNREACH | ENETRESET | ECONNABORTED | ECONNRESET | ENOBUFS | EISCONN | ENOTCONN | ESHUTDOWN
  | ETOOMANYREFS | ETIMEDOUT | ECONNREFUSED | EHOSTDOWN | EHOSTUNREACH | EALREADY | EINPROGRESS | ESTALE
  | EUCLEAN | ENOTNAM | ENAVAIL | EISNAM | EREMOTEIO | EDQUOT | ENOMEDIUM | EMEDIUMTYPE | ECANCELED | ENOKEY
  | EKEYEXPIRED | EKEYREVOKED | EKEYREJECTED | EOWNERDEAD | ENOTRECOVERABLE | ERFKILL
  deriving Repr, DecidableEq, Inhabited

namespace Errno

def table : List (Errno × String × Nat × String) :=
  [(EPERM, "EPERM", 1, "Operation not permitted"),
    (ENOENT, "ENOENT", 2, "No such file or directory"),
    (ESRCH, "ESRCH", 3, "No such process"),
    (EINTR, "EINTR", 4, "Interrupted system call"),
    (EIO, "EIO", 5, "Input/output error"),
    (ENXIO, "ENXIO", 6, "No such device or address"),
    (E2BIG, "E2BIG", 7, "Argument list too long"),
    (ENOEXEC, "ENOEXEC", 8, "Exec format error"),
    (EBADF, "EBADF", 9, "Bad file descriptor"),
    (ECHILD, "ECHILD", 10, "No child processes"),
    (EAGAIN, "EAGAIN", 11, "Resource temporarily unavailable"),
    (ENOMEM, "ENOMEM", 12, "Cannot allocate memory"),
    (EACCES, "EACCES", 13, "Permission denied"),
    (EFAULT, "EFAULT", 14, "Bad address"),
    (ENOTBLK, "ENOTBLK", 15, "Block device required"),
    (EBUSY, "EBUSY", 16, "Device or resource busy"),
    (EEXIST, "EEXIST", 17, "File exists"),
    (EXDEV, "EXDEV", 18, "Invalid cross-device link"),
    (ENODEV, "ENODEV", 19, "No such device"),
    (ENOTDIR, "ENOTDIR", 20, "Not a directory"),
    (EISDIR, "EISDIR", 21, "Is a directory"),
    (EINVAL, "EINVAL", 22, "Invalid argument"),
    (ENFILE, "ENFILE", 23, "Too many open files in system"),
    (EMFILE, "EMFILE", 24, "Too many open files"),
    (ENOTTY, "ENOTTY", 25, "Inappropriate ioctl for device"),
    (ETXTBSY, "ETXTBSY", 26, "Text file busy"),
    (EFBIG, "EFBIG", 27, "File too large"),
    (ENOSPC, "ENOSPC", 28, "No space left on device"),
    (ESPIPE, "ESPIPE", 29, "Illegal seek"),
    (EROFS, "EROFS", 30, "Read-only file system"),
    (EMLINK, "EMLINK", 31, "Too many links"),
    (EPIPE, "EPIPE", 32, "Broken pipe"),
    (EDOM, "EDOM", 33, "Numerical argument out of domain"),
    (ERANGE, "ERANGE", 34, "Numerical result out of range"),
    (EDEADLK, "EDEADLK", 35, "Resource deadlock avoided"),
    (ENAMETOOLONG, "ENAMETOOLONG", 36, "File name too long"),
    (ENOLCK, "ENOLCK", 37, "No locks available"),
    (ENOSYS, "ENOSYS", 38, "Function not implemented"),
    (ENOTEMPTY, "ENOTEMPTY", 39, "Directory not empty"),
    (ELOOP, "ELOOP", 40, "Too many levels of symbolic links"),
    (ENOMSG, "ENOMSG", 42, "No message of desired type"),
    (EIDRM, "EIDRM", 43, "Identifier removed"),
    (ECHRNG, "ECHRNG", 44, "Channel number out of range"),
    (EL2NSYNC, "EL2NSYNC", 45, "Level 2 not synchronized"),
    (EL3HLT, "EL3HLT", 46, "Level 3 halted"),
    (EL3RST, "EL3RST", 47, "Level 3 reset"),
    (ELNRNG, "ELNRNG", 48, "Link number out of range"),
    (EUNATCH, "EUNATCH", 49, "Protocol driver not attached"),
    (ENOCSI, "ENOCSI", 50, "No CSI structure available"),
    (EL2HLT, "EL2HLT", 51, "Level 2 halted"),
    (EBADE, "EBADE", 52, "Invalid exchange"),
    (EBADR, "EBADR", 53, "Invalid request descriptor"),
    (EXFULL, "EXFULL", 54, "Exchange full"),
    (ENOANO, "ENOANO", 55, "No anode"),
    (EBADRQC, "EBADRQC", 56, "Invalid request code"),
    (EBADSLT, "EBADSLT", 57, "Invalid slot"),
    (EBFONT, "EBFONT", 59, "Bad font file format"),
    (ENOSTR, "ENOSTR", 60, "Device not a stream"),
    (ENODATA, "ENODATA", 61, "No data available"),
    (ETIME, "ETIME", 62, "Timer expired"),
    (ENOSR, "ENOSR", 63, "Out of streams resources"),
    (ENONET, "ENONET", 64, "Machine is not on the network"),
    (ENOPKG, "ENOPKG", 65, "Package not installed"),
    (EREMOTE, "EREMOTE", 66, "Object is remote"),
    (ENOLINK, "ENOLINK", 67, "Link has been severed"),
    (EADV, "EADV", 68, "Advertise error"),
    (ESRMNT, "ESRMNT", 69, "Srmount error"),
    (ECOMM, "ECOMM", 70, "Communication error on send"),
    (EPROTO, "EPROTO", 71, "Protocol error"),
    (EMULTIHOP, "EMULTIHOP", 72, "Multihop attempted"),
    (EDOTDOT, "EDOTDOT", 73, "RFS specific error"),
    (EBADMSG, "EBADMSG", 74, "Bad message"),
    (EOVERFLOW, "EOVERFLOW", 75, "Value too large for defined data type"),
    (ENOTUNIQ, "ENOTUNIQ", 76, "Name not unique on network"),
    (EBADFD, "EBADFD", 77, "File descriptor in bad state"),
    (EREMCHG, "EREMCHG", 78, "Remote address changed"),
    (ELIBACC, "ELIBACC", 79, "Can not access a needed shared library"),
    (ELIBBAD, "ELIBBAD", 80, "Accessing a corrupted shared library"),
    (ELIBSCN, "ELIBSCN", 81, ".lib section in a.out corrupted"),
    (ELIBMAX, "ELIBMAX", 82, "Attempting to link in too many shared libraries"),
    (ELIBEXEC, "ELIBEXEC", 83, "Cannot exec a shared library directly"),
    (EILSEQ, "EILSEQ", 84, "Invalid or incomplete multibyte or wide character"),
    (ERESTART, "ERESTART", 85, "Interrupted system call should be restarted"),
    (ESTRPIPE, "ESTRPIPE", 86, "Streams pipe error"),
    (EUSERS, "EUSERS", 87, "Too many users"),
    (ENOTSOCK, "ENOTSOCK", 88, "Socket operation on non-socket"),
    (EDESTADDRREQ, "EDESTADDRREQ", 89, "Destination address required"),
    (EMSGSIZE, "EMSGSIZE", 90, "Message too long"),
    (EPROTOTYPE, "EPROTOTYPE", 91, "Protocol wrong type for socket"),
    (ENOPROTOOPT, "ENOPROTOOPT", 92, "Protocol not available"),
    (EPROTONOSUPPORT, "EPROTONOSUPPORT", 93, "Protocol not supported"),
    (ESOCKTNOSUPPORT, "ESOCKTNOSUPPORT", 94, "Socket type not supported"),
    (ENOTSUP, "ENOTSUP", 95, "Operation not supported"),
    (EPFNOSUPPORT, "EPFNOSUPPORT", 96, "Protocol family not supported"),
    (EAFNOSUPPORT, "EAFNOSUPPORT", 97, "Address family not supported by protocol"),
    (EADDRINUSE, "EADDRINUSE", 98, "Address already in use"),
    (EADDRNOTAVAIL, "EADDRNOTAVAIL", 99, "Cannot assign requested address"),
    (ENETDOWN, "ENETDOWN", 100, "Network is down"),
    (ENETUNREACH, "ENETUNREACH", 101, "Network is unreachable"),
    (ENETRESET, "ENETRESET", 102, "Network dropped connection on reset"),
    (ECONNABORTED, "ECONNABORTED", 103, "Software caused connection abort"),
    (ECONNRESET, "ECONNRESET", 104, "Connection reset by peer"),
    (ENOBUFS, "ENOBUFS", 105, "No buffer space available"),
    (EISCONN, "EISCONN", 106, "Transport endpoint is already connected"),
    (ENOTCONN, "ENOTCONN", 107, "Transport endpoint is not connected"),
    (ESHUTDOWN, "ESHUTDOWN", 108, "Cannot send after transport endpoint shutdown"),
    (ETOOMANYREFS, "ETOOMANYREFS", 109, "Too many references: cannot splice"),
    (ETIMEDOUT, "ETIMEDOUT", 110, "Connection timed out"),
    (ECONNREFUSED, "ECONNREFUSED", 111, "Connection refused"),
    (EHOSTDOWN, "EHOSTDOWN", 112, "Host is down"),
    (EHOSTUNREACH, "EHOSTUNREACH", 113, "No route to host"),
    (EALREADY, "EALREADY", 114, "Operation already in progress"),
    (EINPROGRESS, "EINPROGRESS", 115, "Operation now in progress"),
    (ESTALE, "ESTALE", 116, "Stale file handle"),
    (EUCLEAN, "EUCLEAN", 117, "Structure needs cleaning"),
    (ENOTNAM, "ENOTNAM", 118, "Not a XENIX named type file"),
    (ENAVAIL, "ENAVAIL", 119, "No XENIX semaphores available"),
    (EISNAM, "EISNAM", 120, "Is a named type file"),
    (EREMOTEIO, "EREMOTEIO", 121, "Remote I/O error"),
    (EDQUOT, "EDQUOT", 122, "Disk quota exceeded"),
    (ENOMEDIUM, "ENOMEDIUM", 123, "No medium found"),
    (EMEDIUMTYPE, "EMEDIUMTYPE", 124, "Wrong medium type"),
    (ECANCELED, "ECANCELED", 125, "Operation canceled"),
    (ENOKEY, "ENOKEY", 126, "Required key not available"),
    (EKEYEXPIRED, "EKEYEXPIRED", 127, "Key has expired"),
    (EKEYREVOKED, "EKEYREVOKED", 128, "Key has been revoked"),
    (EKEYREJECTED, "EKEYREJECTED", 129, "Key was rejected by service"),
    (EOWNERDEAD, "EOWNERDEAD", 130, "Owner died"),
    (ENOTRECOVERABLE, "ENOTRECOVERABLE", 131, "State not recoverable"),
    (ERFKILL, "ERFKILL", 132, "Operation not possible due to RF-kill")]

def number (e : Errno) : Nat :=
  ((table.lookup e).map fun row => row.2.1).getD 0

def text (e : Errno) : String :=
  ((table.lookup e).map fun row => row.2.2).getD ""

/-- Second names of some reasons. -/
def aliases : List (String × Errno) :=
  [("EWOULDBLOCK", EAGAIN), ("EDEADLOCK", EDEADLK), ("EOPNOTSUPP", ENOTSUP)]

def ofName? (name : String) : Option Errno :=
  ((table.find? fun row => row.2.1 = name).map (·.1)).orElse fun _ => aliases.lookup name

def isPermission (e : Errno) : Bool :=
  e = EACCES ∨ e = EPERM

def leadsNowhere (e : Errno) : Bool :=
  e = ENOENT ∨ e = ENOTDIR ∨ e = EBADF ∨ e = ELOOP

end Errno

/-- A refused operation, with the path it was refused for. -/
structure OsError where
  errno : Errno
  path? : Option String
  deriving Repr, DecidableEq, Inhabited

def OsError.message (e : OsError) : String :=
  let head := s!"[Errno {e.errno.number}] {e.errno.text}"
  match e.path? with
  | some path => head ++ ": " ++ Text.quoted path
  | none => head

end JavaStubs
