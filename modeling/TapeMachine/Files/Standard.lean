import TapeMachine.Files.Entry

/-!
# The standard files

Around the working directory lies a file system of which only the standard part is known: the
directories that every system has, some of them under two names, and the names of files and devices
that every system has in them. All names are counted from the root.

Results:
1. `find?_root`: the root is a directory.
2. `find?_ne_file`: a file of the system has no content that is known.
3. `settle_directory`: a second name stands for a directory that is there.
-/

namespace TapeMachine.Standard

/-- The paths of some names in a directory. -/
def within (directory : String) (names : List String) : List (List FileName) :=
  names.map fun name => FileName.ofPath directory ++ FileName.ofPath name

/-! ## Directories -/

/-- The directories that every system has. -/
def directories : List (List FileName) :=
  within "" ["", "boot", "dev", "etc", "home", "media", "mnt", "opt", "proc", "root", "run",
    "run/lock", "srv", "sys", "tmp", "usr", "var"] ++
  within "dev" ["mqueue", "pts", "shm"] ++
  within "etc" ["alternatives", "apt", "apt/apt.conf.d", "apt/sources.list.d", "cron.d",
    "cron.daily", "default", "dpkg", "dpkg/dpkg.cfg.d", "init.d", "ld.so.conf.d", "logrotate.d",
    "opt", "pam.d", "profile.d", "security", "selinux", "skel", "systemd", "terminfo"] ++
  within "proc" ["bus", "driver", "fs", "irq", "self", "self/attr", "self/fd", "self/fdinfo",
    "self/map_files", "self/net", "self/ns", "self/task", "sys", "sys/fs", "sys/kernel",
    "sys/kernel/random", "sys/net", "sys/net/core", "sys/net/ipv4", "sys/vm", "sysvipc", "tty"] ++
  within "sys" ["block", "bus", "class", "class/net", "dev", "dev/block", "dev/char", "devices",
    "devices/system", "devices/system/cpu", "firmware", "fs", "fs/cgroup", "kernel", "module",
    "power"] ++
  within "usr" ["bin", "games", "include", "lib", "lib64", "libexec", "local", "local/bin",
    "local/etc", "local/games", "local/include", "local/lib", "local/sbin", "local/share",
    "local/src", "sbin", "share", "src"] ++
  within "usr/lib" ["apt", "dpkg", "init", "locale", "systemd", "tmpfiles.d", "udev"] ++
  within "usr/share" ["bash-completion", "common-licenses", "debconf", "doc", "dpkg", "info",
    "keyrings", "locale", "man", "man/man1", "misc", "perl5", "tabset", "terminfo"] ++
  within "var" ["backups", "cache", "cache/apt", "cache/debconf", "lib", "lib/apt",
    "lib/apt/lists", "lib/dpkg", "lib/dpkg/info", "lib/misc", "lib/pam", "local", "log", "log/apt",
    "mail", "opt", "spool", "tmp"]

/-- Second names of directories, and what they stand for. -/
def links : List (List FileName × List FileName) :=
  [("bin", "usr/bin"), ("dev/fd", "proc/self/fd"), ("lib", "usr/lib"), ("lib64", "usr/lib64"),
    ("proc/net", "proc/self/net"), ("proc/self/root", ""), ("proc/thread-self", "proc/self"),
    ("sbin", "usr/sbin"), ("usr/local/man", "usr/share/man"), ("var/lock", "run/lock"),
    ("var/run", "run"), ("var/spool/mail", "var/mail")].map fun (name, target) =>
    (FileName.ofPath name, FileName.ofPath target)

/-- The names themselves, or what they stand for if they are the second name of a directory. -/
def settle (names : List FileName) : List FileName :=
  ((links.find? fun (name, _) => name = names).map Prod.snd).getD names

/-- The directory for temporary files. -/
def temporary : List FileName :=
  FileName.ofPath "tmp"

/-- A name by which the working directory can be reached. -/
def workingDirectory : List FileName :=
  FileName.ofPath "proc/self/cwd"

/-! ## Files and devices -/

/-- Files and devices that every system has. Of most of them nothing is known but the name. -/
def files : List (List FileName) :=
  within "dev" ["core", "null", "ptmx", "random", "stderr", "stdin", "stdout", "urandom", "zero"] ++
  within "etc" ["bash.bashrc", "debconf.conf", "debian_version", "environment", "fstab", "gai.conf",
    "group", "gshadow", "host.conf", "hostname", "hosts", "issue", "issue.net", "ld.so.cache",
    "ld.so.conf", "libaudit.conf", "localtime", "login.defs", "machine-id", "mke2fs.conf", "motd",
    "mtab", "nsswitch.conf", "os-release", "pam.conf", "passwd", "profile", "resolv.conf", "rmt",
    "shadow", "shells", "subgid", "subuid", "timezone", "xattr.conf"] ++
  within "proc" ["buddyinfo", "cgroups", "cmdline", "consoles", "cpuinfo", "crypto", "devices",
    "diskstats", "execdomains", "filesystems", "interrupts", "iomem", "ioports", "kallsyms",
    "kcore", "key-users", "keys", "kmsg", "loadavg", "locks", "meminfo", "misc", "modules",
    "mounts", "pagetypeinfo", "partitions", "slabinfo", "softirqs", "stat", "swaps",
    "sysrq-trigger", "timer_list", "uptime", "version", "vmallocinfo", "vmstat", "zoneinfo"] ++
  within "proc/self" ["auxv", "cgroup", "clear_refs", "cmdline", "comm", "coredump_filter",
    "environ", "exe", "fd/0", "fd/1", "fd/2", "gid_map", "io", "limits", "loginuid", "maps",
    "mountinfo", "mounts", "mountstats", "numa_maps", "oom_adj", "oom_score", "oom_score_adj",
    "pagemap", "personality", "projid_map", "sched", "schedstat", "sessionid", "setgroups", "smaps",
    "smaps_rollup", "stack", "stat", "statm", "status", "syscall", "timers", "uid_map", "wchan"] ++
  within "proc/sys/kernel" ["domainname", "hostname", "osrelease", "ostype", "pid_max",
    "random/boot_id", "random/uuid", "version"] ++
  within "usr/bin" ["[", "apt", "apt-get", "arch", "awk", "base32", "base64", "basename", "bash",
    "cat", "chgrp", "chmod", "chown", "cksum", "clear", "cmp", "comm", "cp", "csplit", "cut", "dash",
    "date", "dd", "df", "diff", "dir", "dirname", "dmesg", "dpkg", "du", "echo", "egrep", "env",
    "expand", "expr", "factor", "false", "fgrep", "find", "fmt", "fold", "getconf", "getent",
    "grep", "groups", "gunzip", "gzip", "head", "hostid", "hostname", "iconv", "id", "install",
    "join", "kill", "ldd", "link", "ln", "locale", "login", "logname", "ls", "lsblk", "mawk",
    "md5sum", "mkdir", "mkfifo", "mknod", "mktemp", "more", "mount", "mv", "nice", "nl", "nohup",
    "nproc", "od", "passwd", "paste", "perl", "pr", "printenv", "printf", "pwd", "python3",
    "readlink", "realpath", "rm", "rmdir", "sed", "seq", "sh", "sha1sum", "sha256sum", "sha512sum",
    "shred", "shuf", "sleep", "sort", "split", "stat", "stty", "su", "sum", "sync", "tac", "tail",
    "tar", "tee", "test", "timeout", "touch", "tr", "true", "truncate", "tsort", "tty", "umount",
    "uname", "uniq", "unlink", "users", "vdir", "wc", "which", "who", "whoami", "xargs", "yes",
    "zcat"] ++
  within "usr/sbin" ["addgroup", "adduser", "chroot", "groupadd", "ldconfig", "mkfs", "nologin",
    "useradd", "userdel"] ++
  within "usr/lib" ["os-release"]

/-- What is found under some names. -/
def find? (names : List FileName) : Option FileEntry :=
  if names ∈ directories then some .directory
  else if names = FileName.ofPath "dev/full" then some (.foreign none (some .noSpace))
  else if names = FileName.ofPath "dev/tty" then some .absentDevice
  else if names = FileName.ofPath "proc/self/mem" then
    some (.foreign (some .inputOutput) (some .inputOutput))
  else if names ∈ files then some (.foreign none none)
  else none

/-- The error with which a new file is refused, if it is: there is no place for it among the
processes, and none is granted among the devices of the system. -/
def creationError? (names : List FileName) (file : Text) : Option SystemError :=
  if (FileName.ofPath "proc").isPrefixOf names then some (.noSuchFile file)
  else if (FileName.ofPath "sys").isPrefixOf names then some (.permissionDenied file)
  else none

theorem find?_root : find? [] = some .directory := by
  have root : [] ∈ directories := by decide +kernel
  rw [find?, if_pos root]

/-- What the system has is known by its name, never with a content. -/
theorem find?_ne_file (names : List FileName) (content : List UInt8) :
    find? names ≠ some (.file content) := by
  unfold find?
  repeat' split
  all_goals nofun

theorem settle_directory {name target : List FileName} (linked : (name, target) ∈ links) :
    find? target = some .directory := by
  have standard : ∀ link ∈ links, link.2 ∈ directories := by decide +kernel
  rw [find?, if_pos (standard (name, target) linked)]

end TapeMachine.Standard
