/-!
The settings file that a fresh setup starts from. It says for every setting what holds without it.
-/

namespace SnippetRunner.Settings

def starterLines : List String := [
  "# snipbox configuration",
  "#",
  "# Everything here is read once at startup and stays fixed for the life of",
  "# the process.",
  "",
  "# Wall-clock deadline for one snippet execution, in seconds.",
  "timeout_secs = 5",
  "",
  "# `use` paths made available to snippets by short name. Entries ending in",
  "# `::*` import every item of the module; other entries import the module",
  "# itself (so `std::fmt` lets snippets write `fmt::Write`).",
  "namespaces = [",
  "    \"std::collections::*\",",
  "    \"std::iter::*\",",
  "    \"std::cmp::*\",",
  "    \"std::str::*\",",
  "    \"std::char::*\",",
  "    \"std::fmt\",",
  "    \"std::io\",",
  "]",
  "",
  "[compiler]",
  "rustc = \"rustc\"",
  "edition = \"2021\"",
  "args = [\"-C\", \"opt-level=0\", \"-C\", \"debuginfo=0\"]",
  "timeout_secs = 30",
  "",
  "[sandbox]",
  "# \"process\" runs snippets as plain child processes in a throwaway directory.",
  "# \"isolate\" runs them inside IOI Isolate boxes (requires root and the",
  "# isolate binary) and adds filesystem, network and PID isolation.",
  "backend = \"process\"",
  "",
  "# isolate_path = \"/usr/local/bin/isolate\"",
  "cgroup = false",
  "cg_root = \"/sys/fs/cgroup/isolate\"",
  "first_box_id = 0",
  "box_count = 100",
  "",
  "# [[sandbox.mounts]]",
  "# source = \"/opt/lib\"",
  "# target = \"/opt/lib\"",
  "# optional = true"]

def starterText : String :=
  String.join (starterLines.map (· ++ "\n"))

end SnippetRunner.Settings
