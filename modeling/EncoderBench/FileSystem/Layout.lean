import EncoderBench.FileSystem.Tree
/-
The host a program was run on, seen from outside its folder: a Linux system with the usual
layout, its devices, its account tables and the running process's files under `/proc/self`.
Only the first line of a host text file is known, which is all a reader of JSON looks at.
-/
namespace EncoderBench

namespace FileSystem

def textFile (path : List String) (firstLine : String) : List String × Node :=
  (path, .file (.text (firstLine ++ "\n")))

def threadDirectory : List String := ["proc", "self", "task", ""]

/-- The process files under `base`: the same for the process and for its thread. -/
def processEntries (base : List String) : List (List String × Node) :=
  let at_ (names : List String) := base ++ names
  [(at_ ["cwd"], .link (.inside [])), (at_ ["root"], .link (.outside [])),
    (at_ ["exe"], .file .binary), (at_ ["auxv"], .file .binary),
    (at_ ["mem"], .file (.failing .inputOutput)),
    (at_ ["fd", "0"], .file (.text "")),
    textFile (at_ ["fdinfo", "0"]) "pos:\t0", textFile (at_ ["fdinfo", "1"]) "pos:\t0",
    textFile (at_ ["fdinfo", "2"]) "pos:\t0",
    textFile (at_ ["status"]) "Name:\ttranscode", textFile (at_ ["comm"]) "transcode",
    textFile (at_ ["limits"]) "Limit",
    (at_ ["net"], .directory), (at_ ["ns"], .directory), (at_ ["map_files"], .directory)]

/-- The host outside the folder. -/
def Tree.host : Tree where
  entries := [
    (["bin"], .link (.outside ["usr", "bin"])), (["sbin"], .link (.outside ["usr", "sbin"])),
    (["lib"], .link (.outside ["usr", "lib"])), (["lib64"], .link (.outside ["usr", "lib64"])),
    (["boot"], .directory), (["etc"], .directory), (["home"], .directory),
    (["media"], .directory), (["mnt"], .directory), (["opt"], .directory), (["root"], .directory),
    (["run"], .directory), (["srv"], .directory), (["sys"], .directory), (["tmp"], .directory),
    (["usr", "bin"], .directory), (["usr", "sbin"], .directory), (["usr", "lib"], .directory),
    (["usr", "lib64"], .directory), (["usr", "local"], .directory),
    (["usr", "share"], .directory),
    (["var", "lib"], .directory), (["var", "log"], .directory), (["var", "tmp"], .directory),
    (["dev", "null"], .file (.text "")), (["dev", "stdin"], .link (.file (.text ""))),
    (["dev", "tty"], .file (.failing .noDevice)),
    (["dev", "fd"], .link (.outside ["proc", "self", "fd"])),
    (["dev", "pts"], .directory), (["dev", "shm"], .directory), (["dev", "mqueue"], .directory),
    textFile ["etc", "passwd"] "root:x:0:0:root:/root:/bin/bash",
    textFile ["etc", "group"] "root:x:0:",
    (["proc", "1"], .directory), (["proc", "sys"], .directory),
    (["proc", "thread-self"], .link (.outside threadDirectory)),
    (["proc", "net"], .link (.outside ["proc", "self", "net"])),
    textFile ["proc", "version"] "Linux version",
    textFile ["proc", "cpuinfo"] "processor\t: 0",
    textFile ["proc", "meminfo"] "MemTotal:"] ++
    processEntries ["proc", "self"] ++ processEntries threadDirectory
  unlimited := [["proc"], ["sys"]]

end FileSystem

end EncoderBench
