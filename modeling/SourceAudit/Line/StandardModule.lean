/-!
# Standard modules

The top-level modules that ship with Python and need no declaration.
-/

namespace SourceAudit

/-- The top-level modules of Python's standard library. -/
def pythonStandardModules : List String :=
  ["__future__", "__main__", "_abc", "_ast", "_asyncio", "_bisect", "_codecs", "_collections",
   "_collections_abc", "_compat_pickle", "_compression", "_contextvars", "_csv", "_ctypes",
   "_datetime", "_decimal", "_functools", "_heapq", "_imp", "_io", "_json", "_locale",
   "_markupbase", "_operator", "_osx_support", "_pickle", "_py_abc", "_pydecimal", "_pyio",
   "_random", "_signal", "_socket", "_sre", "_ssl", "_stat", "_string", "_strptime", "_struct",
   "_symtable", "_sysconfigdata", "_thread", "_threading_local", "_tracemalloc", "_warnings",
   "_weakref", "_weakrefset", "_winapi", "abc", "aifc", "antigravity", "argparse", "array",
   "ast", "asynchat", "asyncio", "asyncore", "atexit", "audioop", "base64", "bdb", "binascii",
   "bisect", "builtins", "bz2", "calendar", "cgi", "cgitb", "chunk", "cmath", "cmd", "code",
   "codecs", "codeop", "collections", "colorsys", "compileall", "concurrent", "configparser",
   "contextlib", "contextvars", "copy", "copyreg", "cProfile", "crypt", "csv", "ctypes",
   "curses", "dataclasses", "datetime", "dbm", "decimal", "difflib", "dis", "distutils",
   "doctest", "email", "encodings", "ensurepip", "enum", "errno", "faulthandler", "fcntl",
   "filecmp", "fileinput", "fnmatch", "fractions", "ftplib", "functools", "gc", "genericpath",
   "getopt", "getpass", "gettext", "glob", "graphlib", "grp", "gzip", "hashlib", "heapq", "hmac",
   "html", "http", "idlelib", "imaplib", "imghdr", "imp", "importlib", "inspect", "io",
   "ipaddress", "itertools", "json", "keyword", "lib2to3", "linecache", "locale", "logging",
   "lzma", "mailbox", "mailcap", "marshal", "math", "mimetypes", "mmap", "modulefinder",
   "msilib", "msvcrt", "multiprocessing", "netrc", "nis", "nntplib", "ntpath", "nturl2path",
   "numbers", "opcode", "operator", "optparse", "os", "ossaudiodev", "pathlib", "pdb", "pickle",
   "pickletools", "pipes", "pkgutil", "platform", "plistlib", "poplib", "posix", "posixpath",
   "pprint", "profile", "pstats", "pty", "pwd", "py_compile", "pyclbr", "pydoc", "pydoc_data",
   "pyexpat", "queue", "quopri", "random", "re", "readline", "reprlib", "resource",
   "rlcompleter", "runpy", "sched", "secrets", "select", "selectors", "shelve", "shlex",
   "shutil", "signal", "site", "smtpd", "smtplib", "sndhdr", "socket", "socketserver", "spwd",
   "sqlite3", "sre_compile", "sre_constants", "sre_parse", "ssl", "stat", "statistics", "string",
   "stringprep", "struct", "subprocess", "sunau", "symtable", "sys", "sysconfig", "syslog",
   "tabnanny", "tarfile", "telnetlib", "tempfile", "termios", "textwrap", "this", "threading",
   "time", "timeit", "tkinter", "token", "tokenize", "tomllib", "trace", "traceback",
   "tracemalloc", "tty", "turtle", "types", "typing", "unicodedata", "unittest", "urllib", "uu",
   "uuid", "venv", "warnings", "wave", "weakref", "webbrowser", "winreg", "winsound", "wsgiref",
   "xdrlib", "xml", "xmlrpc", "zipapp", "zipfile", "zipimport", "zlib", "zoneinfo"]

/-- A top-level module of Python's standard library; letter case counts. -/
def isPythonStandardModule (name : String) : Bool :=
  pythonStandardModules.contains name

end SourceAudit
