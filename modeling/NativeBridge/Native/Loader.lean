/-!
How the dynamic loader finds what a name refers to.

Names reach the loader as C strings: a name may end with one NUL, which is not
part of it, and a NUL anywhere else makes it unusable. A name with a slash is a
path; a name without one is tried in each system library directory in turn, and
the first that holds anything decides. What a path holds decides
the answer: a shared object opens, and anything else fails with the reason the
loader gives, naming the path it tried.

The file system is that of the process: the C library with its companions,
development links and character set modules, the libraries of the system's
interpreter, the usual directories of the root, a few system files, programs and
scripts, the devices that read as empty or as endless bytes, and the working
directory with the scripts that run the program. Relative paths start in the
working directory, which the process sees as `/proc/self/cwd`; `/proc/self/root`
leads back to the root.
-/

namespace NativeBridge.Native

/-- Why a name could not become a C string. -/
inductive CNameFault where
  | interiorNul (position : Nat)
  | interiorNulBeforeEnd (position : Nat)
  deriving DecidableEq, Inhabited, Repr

def CNameFault.message : CNameFault → String
  | .interiorNul p =>
    "could not create a C string from bytes: nul byte found in provided data at position: "
      ++ toString p
  | .interiorNulBeforeEnd p =>
    "could not create a C string from bytes with trailing null: "
      ++ "data provided contains an interior nul byte at byte position " ++ toString p

def cName? (s : String) : Except CNameFault String :=
  let bytes := s.toUTF8.toList
  match bytes.idxOf? 0 with
  | none => .ok s
  | some p =>
    if p + 1 = bytes.length then .ok (s.dropEnd 1).toString
    else if bytes.getLast? = some 0 then .error (.interiorNulBeforeEnd p)
    else .error (.interiorNul p)

inductive Entry where
  | sharedObject
  | directory
  | executable
  | positionIndependentExecutable
  | relocatableObject
  | shortFile
  | otherFile
  deriving DecidableEq, Inhabited, Repr

def sharedObjectNames : List String :=
  ["libc.so.6", "libm.so.6", "libdl.so.2", "librt.so.1", "libpthread.so.0", "libresolv.so.2",
    "libutil.so.1", "libanl.so.1", "libnsl.so.1", "libnss_files.so.2", "libnss_dns.so.2",
    "libnss_compat.so.2", "libnss_hesiod.so.2", "libthread_db.so.1", "libBrokenLocale.so.1",
    "libc_malloc_debug.so.0", "libmvec.so.1", "libmemusage.so", "libpcprofile.so",
    "ld-linux-x86-64.so.2", "libBrokenLocale.so", "libanl.so", "libc_malloc_debug.so",
    "libmvec.so", "libnss_compat.so", "libnss_hesiod.so", "libresolv.so", "libthread_db.so",
    "libgcc_s.so.1", "libstdc++.so.6", "libz.so.1", "libcrypt.so.1", "libtinfo.so.6",
    "libselinux.so.1", "libpcre2-8.so.0", "libacl.so.1", "libattr.so.1", "libblkid.so.1",
    "libmount.so.1", "libsmartcols.so.1", "libuuid.so.1", "libudev.so.1", "libsystemd.so.0",
    "liblzma.so.5", "libzstd.so.1", "liblz4.so.1", "libbz2.so.1.0", "libcap.so.2",
    "libgcrypt.so.20", "libgpg-error.so.0", "libgmp.so.10", "libhogweed.so.6",
    "libnettle.so.8", "libmd.so.0", "libaudit.so.1", "libcap-ng.so.0", "libpam.so.0",
    "libsemanage.so.2", "libsepol.so.2", "libdb-5.3.so", "libxxhash.so.0", "libcom_err.so.2",
    "libffi.so.8", "libtasn1.so.6", "libp11-kit.so.0", "libunistring.so.2", "libidn2.so.0",
    "libgnutls.so.30", "libseccomp.so.2", "libssl.so.3", "libcrypto.so.3", "libexpat.so.1",
    "libexpatw.so.1", "libmpdec.so.3", "libncursesw.so.6", "libformw.so.6", "libmenuw.so.6",
    "libpanelw.so.6", "libtic.so.6", "libnsl.so.2", "libreadline.so.8", "libhistory.so.8",
    "libsqlite3.so.0", "libtirpc.so.3", "libgssapi_krb5.so.2", "libkrb5.so.3",
    "libk5crypto.so.3", "libkrb5support.so.0", "libkeyutils.so.1"]

def emptyArchiveNames : List String :=
  ["libpthread.a", "libdl.a", "librt.a", "libutil.a", "libanl.a"]

def archiveNames : List String :=
  ["libc.a", "libm.a", "libresolv.a", "libc_nonshared.a", "libmvec.a", "libBrokenLocale.a",
    "libg.a", "libmcheck.a", "libm-2.36.a"]

def startFileNames : List String :=
  ["crt1.o", "crti.o", "crtn.o", "Scrt1.o", "gcrt1.o", "grcrt1.o", "rcrt1.o", "Mcrt1.o"]

def charsetModuleNames : List String :=
  ["ISO8859-1.so", "ISO8859-2.so", "ISO8859-3.so", "ISO8859-4.so", "ISO8859-5.so",
    "ISO8859-6.so", "ISO8859-7.so", "ISO8859-8.so", "ISO8859-9.so", "ISO8859-10.so",
    "ISO8859-11.so", "ISO8859-13.so", "ISO8859-14.so", "ISO8859-15.so", "ISO8859-16.so",
    "UTF-16.so", "UTF-32.so", "UTF-7.so", "UNICODE.so", "EUC-JP.so", "EUC-KR.so", "EUC-CN.so",
    "EUC-TW.so", "SJIS.so", "BIG5.so", "BIG5HKSCS.so", "GBK.so", "GB18030.so", "KOI8-R.so",
    "KOI8-U.so", "CP1250.so", "CP1251.so", "CP1252.so", "CP1253.so", "CP1254.so", "CP1255.so",
    "CP1256.so", "CP1257.so", "CP1258.so", "libGB.so", "libJIS.so", "libKSC.so", "libCNS.so",
    "libISOIR165.so", "libJISX0213.so"]

def linkerScriptNames : List String := ["libc.so", "libm.so"]

def systemLibraryDirs : List String :=
  ["/lib/x86_64-linux-gnu/", "/usr/lib/x86_64-linux-gnu/", "/lib/", "/usr/lib/"]

def directoryPaths : List (List String) :=
  [[], ["etc"], ["usr"], ["usr", "lib"], ["usr", "bin"], ["usr", "sbin"], ["usr", "lib64"],
    ["usr", "share"], ["usr", "include"], ["usr", "local"], ["usr", "local", "bin"],
    ["usr", "local", "lib"], ["usr", "lib", "x86_64-linux-gnu"], ["tmp"], ["dev"], ["proc"],
    ["proc", "self"], ["sys"], ["home"], ["root"], ["var"], ["var", "tmp"], ["var", "lib"],
    ["var", "log"], ["opt"], ["srv"], ["mnt"], ["media"], ["run"], ["boot"], ["etc", "ssl"],
    ["usr", "lib", "x86_64-linux-gnu", "gconv"], ["usr", "lib", "gcc"],
    ["usr", "lib", "x86_64-linux-gnu", "gconv", "gconv-modules.d"], ["usr", "lib", "locale"],
    ["usr", "lib", "locale", "C.utf8"], ["etc", "ld.so.conf.d"], ["proc", "1"],
    ["proc", "self", "fd"], ["proc", "self", "cwd"]]

def programNames : List String :=
  ["ls", "cat", "sh", "dash", "bash", "env", "true", "false", "echo", "cp", "mv", "rm",
    "mkdir", "ln", "chmod", "grep", "sed", "tar", "sleep", "uname", "id", "head", "tail", "sort",
    "basename", "dirname", "wc", "tr", "cut", "uniq", "tee", "test", "yes", "whoami", "pwd",
    "readlink", "realpath", "stat", "touch", "chown", "date", "dd", "df", "du", "expr", "printf",
    "seq", "nproc", "md5sum", "sha256sum", "mktemp", "gzip", "find", "xargs", "mawk", "diff",
    "cmp", "perl", "getconf", "locale", "iconv", "ldconfig"]

def fixedProgramNames : List String := ["python3.11", "python3"]

def scriptNames : List String :=
  ["ldd", "tzselect", "zcat", "gunzip", "zgrep", "zdiff", "zless", "zmore", "znew", "gzexe",
    "uncompress", "which", "sotruss", "xtrace", "mtrace", "pydoc3", "pydoc3.11", "py3compile",
    "py3clean"]

def otherFilePaths : List (List String) :=
  [["etc", "passwd"], ["etc", "group"], ["etc", "shadow"], ["etc", "hosts"],
    ["etc", "os-release"], ["usr", "lib", "os-release"], ["etc", "nsswitch.conf"],
    ["etc", "bash.bashrc"], ["etc", "profile"], ["etc", "ld.so.cache"], ["etc", "shells"],
    ["etc", "login.defs"], ["etc", "resolv.conf"], ["proc", "cpuinfo"], ["proc", "meminfo"], ["proc", "self", "maps"],
    ["proc", "self", "status"], ["dev", "zero"], ["dev", "urandom"], ["dev", "random"],
    ["dev", "full"], ["usr", "lib", "x86_64-linux-gnu", "gconv", "gconv-modules"],
    ["usr", "lib", "x86_64-linux-gnu", "gconv", "gconv-modules.cache"],
    ["etc", "ld.so.conf.d", "x86_64-linux-gnu.conf"], ["proc", "self", "cwd", "build.sh"],
    ["proc", "self", "cwd", "PROTOCOL.md"]]

def shortFilePaths : List (List String) :=
  [["dev", "null"], ["etc", "hostname"], ["etc", "debian_version"], ["etc", "ld.so.conf"],
    ["etc", "timezone"], ["etc", "ld.so.conf.d", "libc.conf"], ["proc", "self", "cwd", "run.sh"]]

def entryAt? (path : List String) : Option Entry :=
  if directoryPaths.contains path then some .directory
  else if otherFilePaths.contains path then some .otherFile
  else if shortFilePaths.contains path then some .shortFile
  else match path with
    | ["usr", "lib", "x86_64-linux-gnu", name] =>
      if sharedObjectNames.contains name then some .sharedObject
      else if linkerScriptNames.contains name || archiveNames.contains name then some .otherFile
      else if emptyArchiveNames.contains name then some .shortFile
      else if startFileNames.contains name then some .relocatableObject
      else none
    | ["usr", "lib", "x86_64-linux-gnu", "gconv", name] =>
      if charsetModuleNames.contains name then some .sharedObject else none
    | ["usr", "lib64", "ld-linux-x86-64.so.2"] => some .sharedObject
    | ["usr", "bin", name] | ["usr", "sbin", name] =>
      if programNames.contains name then some .positionIndependentExecutable
      else if fixedProgramNames.contains name then some .executable
      else if scriptNames.contains name then some .otherFile
      else none
    | ["proc", "self", "exe"] => some .positionIndependentExecutable
    | _ => none

def linkedIntoUsr : List String := ["lib", "bin", "sbin", "lib64"]

inductive PathFault where
  | missing
  | notADirectory
  deriving DecidableEq, Inhabited, Repr

def step (here : List String) (c : String) : List String :=
  if here.isEmpty && linkedIntoUsr.contains c then ["usr", c]
  else if here == ["proc", "self"] && c == "root" then []
  else here ++ [c]

def walk (here : List String) : List String → Except PathFault Entry
  | [] =>
    match entryAt? here with
    | some e => .ok e
    | none => .error .missing
  | c :: rest =>
    if c.isEmpty || c == "." then walk here rest
    else if c == ".." then walk here.dropLast rest
    else
      let next := step here c
      match entryAt? next with
      | some .directory => walk next rest
      | some e => if rest.isEmpty then .ok e else .error .notADirectory
      | none => .error .missing

def workingDirectory : List String := ["proc", "self", "cwd"]

/-- The entry a path names, or why there is none: an absolute path is followed
from the root, any other from the working directory. -/
def resolvePath (path : String) : Except PathFault Entry :=
  walk (if path.startsWith "/" then [] else workingDirectory) (path.splitOn "/")

def openFailure? (path : String) : Option String :=
  match resolvePath path with
  | .error .missing => some "cannot open shared object file: No such file or directory"
  | .error .notADirectory => some "cannot open shared object file: Not a directory"
  | .ok .sharedObject => none
  | .ok .directory => some "cannot read file data: Is a directory"
  | .ok .executable => some "cannot dynamically load executable"
  | .ok .relocatableObject => some "only ET_DYN and ET_EXEC can be loaded"
  | .ok .positionIndependentExecutable => some "cannot dynamically load position-independent executable"
  | .ok .shortFile => some "file too short"
  | .ok .otherFile => some "invalid ELF header"

/-- The outcome of asking the loader for a name: `none` when a shared object
opens, else the path tried and the reason. A name without a slash is tried in
each library directory in turn, and the first that holds anything decides. -/
def loaderFailure? (name : String) : Option (String × String) :=
  if name.contains '/' then (openFailure? name).map (name, ·)
  else
    let tried := systemLibraryDirs.map (· ++ name)
    let found (p : String) : Bool := match resolvePath p with
      | .ok _ => true
      | .error _ => false
    match tried.find? found with
    | some p => (openFailure? p).map (p, ·)
    | none => some (name, "cannot open shared object file: No such file or directory")

end NativeBridge.Native
