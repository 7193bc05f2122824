/-
This file lists the modules that are there without being built, and says which of
them hold further modules and which are in use already.

A class may say that it belongs to a module in use, and the texts among its
annotations then see the members of that module. The members of most modules play
no part: those of the typing vocabulary are known, and here follow the classes
and functions of the runtime that generated modules are built on.
-/

import StateContainer.Hint.Vocabulary

namespace StateContainer.Catalogue

/-! ### Modules -/

/-- The modules that hold no further ones, by their full names. -/
def loneLines : List String := [
  "__future__ __main__ abc aifc argparse array ast asynchat asyncore atexit audioop base64 bdb",
  "binascii bisect builtins bz2 cProfile calendar cgi cgitb chunk cmath cmd code codecs codeop",
  "colorsys compileall configparser contextlib contextvars copy copyreg crypt csv dataclasses",
  "datetime decimal difflib dis doctest enum errno faulthandler fcntl filecmp fileinput fnmatch",
  "fractions ftplib functools gc genericpath getopt getpass gettext glob graphlib grp gzip",
  "hashlib heapq hmac imaplib imghdr imp inspect io ipaddress itertools keyword lib lib.shapes",
  "linecache locale lzma mailbox mailcap marshal math mimetypes mmap modulefinder netrc nntplib",
  "ntpath nturl2path numbers opcode operator optparse os os.path ossaudiodev pathlib pdb pickle",
  "pickletools pipes pkgutil platform plistlib poplib posix posixpath pprint profile pstats pty",
  "pwd py_compile pyclbr pydoc pyexpat queue quopri random readline reprlib resource",
  "rlcompleter runpy sched secrets select selectors shelve shlex shutil signal site smtpd",
  "smtplib sndhdr socket socketserver spwd sre_compile sre_constants sre_parse ssl stat",
  "statistics string stringprep struct subprocess sunau symtable sys sysconfig syslog tabnanny",
  "tarfile telnetlib tempfile termios textwrap threading time timeit token tokenize trace",
  "traceback tracemalloc tty turtle types typing typing.io typing.re typing_extensions",
  "typing_inspect unicodedata uu uuid warnings wave weakref webbrowser xdrlib zipapp zipfile",
  "zipimport zlib"]

/-- The packages, each with the modules in it. -/
def packageLines : List String := [
  "asyncio base_events base_futures base_subprocess base_tasks constants coroutines events",
  "asyncio exceptions format_helpers futures locks log mixins proactor_events protocols queues",
  "asyncio runners selector_events sslproto staggered streams subprocess taskgroups tasks",
  "asyncio threads timeouts transports trsock unix_events",
  "click",
  "collections abc",
  "concurrent futures",
  "concurrent.futures process thread",
  "ctypes macholib util wintypes",
  "ctypes.macholib dyld dylib framework",
  "curses ascii has_key panel textpad",
  "dataclasses_json",
  "dbm dumb ndbm",
  "distutils",
  "email base64mime charset contentmanager encoders errors feedparser generator header",
  "email headerregistry iterators message mime parser policy quoprimime utils",
  "email.mime application audio base image message multipart nonmultipart text",
  "encodings aliases ascii cp1252 idna latin_1 punycode utf_16 utf_32 utf_7 utf_8",
  "ensurepip",
  "html entities parser",
  "http client cookiejar cookies server",
  "idlelib",
  "importlib abc machinery metadata readers resources simple util",
  "importlib.metadata",
  "importlib.resources abc readers simple",
  "jinja2",
  "json decoder encoder scanner tool",
  "lib2to3",
  "logging config handlers",
  "markupsafe",
  "marshmallow",
  "multiprocessing connection context dummy forkserver heap managers pool popen_fork",
  "multiprocessing popen_forkserver popen_spawn_posix process queues reduction resource_sharer",
  "multiprocessing resource_tracker shared_memory sharedctypes spawn synchronize util",
  "multiprocessing.dummy connection",
  "packaging",
  "pydoc_data",
  "re",
  "rich",
  "sqlite3 dbapi2 dump",
  "stategen generator log runtime",
  "stategen.generator",
  "stategen.runtime channel events factory markers snapshot",
  "tkinter colorchooser commondialog constants dialog dnd filedialog font messagebox",
  "tkinter scrolledtext simpledialog tix ttk",
  "tomllib",
  "turtledemo",
  "unittest async_case case loader main mock result runner signals suite util",
  "urllib error parse request response robotparser",
  "venv",
  "wsgiref handlers headers simple_server types util validate",
  "xml dom etree parsers sax",
  "xml.dom NodeFilter domreg expatbuilder minicompat minidom pulldom xmlbuilder",
  "xml.etree ElementInclude ElementPath ElementTree cElementTree",
  "xml.parsers expat",
  "xml.sax expatreader handler saxutils xmlreader",
  "xmlrpc client server",
  "zoneinfo"]

/-- The modules in use. -/
def usedLines : List String := [
  "__main__ abc array ast atexit base64 binascii bisect builtins bz2 calendar click codecs",
  "collections collections.abc colorsys configparser contextlib copy copyreg csv ctypes",
  "dataclasses dataclasses_json datetime decimal dis email email.base64mime email.charset",
  "email.encoders email.errors email.header email.iterators email.message email.quoprimime",
  "email.utils encodings encodings.aliases encodings.utf_8 enum errno fcntl fnmatch fractions",
  "functools genericpath getpass gettext glob hashlib heapq html html.entities importlib",
  "importlib.abc importlib.machinery importlib.metadata importlib.resources",
  "importlib.resources.abc importlib.util inspect io ipaddress itertools jinja2 json",
  "json.decoder json.encoder json.scanner keyword lib lib.shapes linecache locale logging",
  "logging.handlers lzma markupsafe marshal marshmallow math ntpath numbers opcode operator os",
  "os.path pathlib pickle platform posix posixpath queue quopri random re reprlib rich select",
  "selectors shlex shutil signal site socket stat stategen stategen.generator stategen.log",
  "stategen.runtime stategen.runtime.channel stategen.runtime.events stategen.runtime.factory",
  "stategen.runtime.markers stategen.runtime.snapshot string struct subprocess sys tempfile",
  "termios textwrap threading time token tokenize traceback types typing typing.io typing.re",
  "typing_extensions typing_inspect unicodedata urllib urllib.parse uuid warnings weakref",
  "zipfile zipimport zlib"]

/-- The words of several lines. -/
def wordsOf (lines : List String) : List String :=
  lines.flatMap Text.spacedWords

/-- The names of the packages. -/
def packages : List String :=
  packageLines.filterMap fun line => (Text.spacedWords line).head?

/-- The modules in a package, by their full names. -/
def inside (line : String) : List String :=
  match Text.spacedWords line with
  | package :: names => names.map fun name => package ++ "." ++ name
  | [] => []

/-- The names of all modules. -/
def names : List String :=
  wordsOf loneLines ++ packages ++ packageLines.flatMap inside

/-- Whether a module is in use. -/
def isUsed (moduleName : String) : Bool :=
  (wordsOf usedLines).contains moduleName

/-! ### The runtime -/

/-- The module of the runtime. -/
def runtimeModule : String := "stategen.runtime"

/-- The classes of the parts of the runtime, those that take a type argument first. -/
def runtimeClasses : List (String × List String × List String) := [
  ("channel", ["Observable", "StateChannel"], ["Subscription"]),
  ("events", ["Event", "MultiEvent", "SingleEvent"], []),
  ("factory", ["StateFactory"], []),
  ("markers", [], ["FieldMarkers", "StateOptions"]),
  ("snapshot", [], ["MemorySnapshotStore", "Snapshot", "SnapshotDecodeError", "SnapshotStore"])]

/-- The functions of the parts of the runtime. -/
def runtimeFunctions : List (String × List String) := [
  ("events", ["wrap"]),
  ("markers", ["is_state", "state", "state_field", "state_options"]),
  ("snapshot", ["restore_snapshot", "snapshot_key"])]

/-- The name of the class of a class of the runtime. -/
def metaNameOf : String → String
  | "Snapshot" => "ABCMeta"
  | "SnapshotStore" => "_ProtocolMeta"
  | _ => "type"

/-- A class of a part of the runtime. -/
def runtimeClass? (part name : String) : Option Hint :=
  runtimeClasses.findSome? fun (owner, generic, closed) =>
    let id : Hint.ClassId :=
      { moduleName := runtimeModule ++ "." ++ owner, path := name, metaName := metaNameOf name }
    if owner ≠ part then none
    else if generic.contains name then some (.classRef { id with arity := .checked 1 })
    else if closed.contains name then some (.classRef id)
    else none

/-- A member of a part of the runtime. -/
def partMember? (part name : String) : Option Hint :=
  (runtimeClass? part name).or
    (runtimeFunctions.findSome? fun (owner, functions) =>
      if owner = part && functions.contains name then
        some (.function (runtimeModule ++ "." ++ owner) name)
      else none)

/-- The names of the parts of the runtime. -/
def runtimeParts : List String :=
  runtimeClasses.map (·.1)

/-- A member of the runtime: of one of its parts, or a part itself. -/
def runtimeMember? (name : String) : Option Hint :=
  if runtimeParts.contains name then some (.moduleRef (runtimeModule ++ "." ++ name))
  else runtimeParts.findSome? fun part => partMember? part name

/-! ### Members -/

/-- The classes of the reader and the writer of trees, under the module that offers them. -/
def treeClass? : String → Option Hint
  | "JSONDecodeError" => some (.classRef { moduleName := "json.decoder", path := "JSONDecodeError" })
  | "JSONDecoder" => some (.classRef { moduleName := "json.decoder", path := "JSONDecoder" })
  | "JSONEncoder" => some (.classRef { moduleName := "json.encoder", path := "JSONEncoder" })
  | _ => none

/-- A member of a module. -/
def member? (moduleName name : String) : Option Hint :=
  if moduleName = runtimeModule then runtimeMember? name
  else if moduleName = "json" then treeClass? name
  else
    match runtimeParts.find? fun part => runtimeModule ++ "." ++ part = moduleName with
    | some part => partMember? part name
    | none => Hint.Vocabulary.member? moduleName name

end StateContainer.Catalogue
