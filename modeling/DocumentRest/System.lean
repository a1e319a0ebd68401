import DocumentRest.File

namespace DocumentRest.System

inductive Kind
  | file
  | directory
  | input
  deriving DecidableEq, Repr

def programs : List String :=
  ["awk", "base64", "basename", "bash", "cat", "chgrp", "chmod", "chown", "comm", "cp", "cut",
    "dash", "date", "dd", "df", "diff", "dirname", "dmesg", "du", "echo", "egrep", "env", "expand",
    "expr", "false", "fgrep", "find", "fold", "getconf", "grep", "groups", "gunzip", "gzip", "head",
    "hostname", "id", "install", "join", "kill", "ldd", "link", "ln", "login", "ls", "md5sum",
    "mkdir", "mkfifo", "mknod", "mktemp", "more", "mount", "mv", "nice", "nl", "nohup", "nproc",
    "od", "passwd", "paste", "perl", "pr", "printenv", "printf", "pwd", "readlink", "realpath",
    "rm", "rmdir", "sed", "seq", "sh", "sha256sum", "shuf", "sleep", "sort", "split", "stat",
    "stty", "su", "sum", "sync", "tac", "tail", "tar", "tee", "test", "timeout", "touch", "tr",
    "true", "truncate", "tsort", "tty", "umount", "uname", "unexpand", "uniq", "unlink", "users",
    "wc", "which", "who", "whoami", "xargs", "yes", "zcat"]

def processFiles : List String :=
  ["arch_status", "auxv", "cgroup", "clear_refs", "cmdline", "comm", "coredump_filter", "cpuset",
    "environ", "exe", "gid_map", "io", "limits", "loginuid", "maps", "mem", "mountinfo", "mounts",
    "mountstats", "numa_maps", "oom_adj", "oom_score", "oom_score_adj", "pagemap", "personality",
    "projid_map", "sched", "schedstat", "sessionid", "setgroups", "smaps", "smaps_rollup", "stack",
    "stat", "statm", "status", "syscall", "timers", "timerslack_ns", "uid_map", "wchan"]

def files : List (List String × List String) :=
  [(["bin"], programs), (["usr", "bin"], programs),
    (["etc"], ["bash.bashrc", "environment", "fstab", "group", "gshadow", "host.conf", "hostname",
      "hosts", "issue", "issue.net", "ld.so.cache", "ld.so.conf", "login.defs", "mtab",
      "nsswitch.conf", "os-release", "pam.conf", "passwd", "profile", "resolv.conf", "shadow",
      "shells", "subgid", "subuid"]),
    (["usr", "lib"], ["os-release"]),
    (["dev"], ["console", "full", "null", "ptmx", "random", "tty", "urandom", "zero"]),
    (["proc"], ["buddyinfo", "cgroups", "cmdline", "consoles", "cpuinfo", "crypto", "devices",
      "diskstats", "execdomains", "filesystems", "interrupts", "iomem", "ioports", "kallsyms",
      "key-users", "keys", "kmsg", "kpagecount", "kpageflags", "loadavg", "locks", "meminfo",
      "misc", "modules", "mounts", "mtrr", "pagetypeinfo", "partitions", "slabinfo", "softirqs",
      "stat", "swaps", "sysrq-trigger", "timer_list", "uptime", "version", "vmallocinfo", "vmstat",
      "zoneinfo"]),
    (["proc", "1"], processFiles), (["proc", "self"], processFiles),
    (["proc", "self", "fd"], ["1", "2"]),
    (["proc", "self", "ns"], ["cgroup", "ipc", "mnt", "net", "pid", "time", "user", "uts"]),
    (["proc", "self", "net"], ["arp", "dev", "netstat", "packet", "protocols", "route", "snmp",
      "sockstat", "tcp", "tcp6", "udp", "udp6", "unix"]),
    (["proc", "sys", "kernel"], ["hostname", "osrelease", "ostype", "pid_max", "version"])]

def directories : List (List String) :=
  (["bus", "driver", "fs", "irq", "self", "sys", "sysvipc", "tty", "1"].map fun s => ["proc", s]) ++
    (["attr", "fd", "fdinfo", "map_files", "net", "ns", "task"].flatMap fun s =>
      [["proc", "self", s], ["proc", "1", s]]) ++
    (["dev", "fs", "kernel", "net", "vm"].map fun s => ["proc", "sys", s]) ++
    (["block", "bus", "class", "dev", "devices", "firmware", "fs", "kernel", "module",
      "power"].map fun s => ["sys", s])

def inputNames : List String := ["proc", "self", "fd", "0"]

def isFile (names : List String) : Bool :=
  match names.getLast? with
  | some name => files.any fun (directory, held) => directory = names.dropLast && held.contains name
  | none => false

/-- What is found at the end of the names on a way from the root. Where the system does not fill a
directory itself, an unknown name in it is taken to be that of a directory. -/
def kind? (names : List String) : Option Kind :=
  if names = inputNames then some .input
  else if isFile names then some .file
  else
    match names with
    | "proc" :: _ :: _ | "sys" :: _ :: _ | "dev" :: "pts" :: _ :: _ =>
      if names ∈ directories then some .directory else none
    | _ => some .directory

def refusal (directory : Bool) (names : List String) : FileError :=
  if names.head? = some "proc" then .missing
  else if directory then .notPermitted
  else .accessDenied

inductive Target
  | working
  | names (names : List String)

def link? : List String → Option Target
  | ["proc", "self", "cwd"] => some .working
  | ["proc", "self", "root"] => some (.names [])
  | ["proc", "thread-self"] => some (.names ["proc", "self"])
  | ["proc", "net"] => some (.names ["proc", "self", "net"])
  | ["dev", "fd"] => some (.names ["proc", "self", "fd"])
  | ["dev", "stdin"] => some (.names inputNames)
  | ["dev", "stdout"] => some (.names ["proc", "self", "fd", "1"])
  | ["dev", "stderr"] => some (.names ["proc", "self", "fd", "2"])
  | _ => none

end DocumentRest.System
