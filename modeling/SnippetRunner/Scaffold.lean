import SnippetRunner.Text.Lines

/-!
The scaffold: how a snippet becomes a whole program. The snippet is the body of a closure, on lines of its
own and copied as it is, so a line of the program says which line of the snippet it is and columns agree. The
program writes the rendered value to the file its first argument names.
-/

namespace SnippetRunner

/-- A program made from a snippet; lines are counted from one. -/
structure Program where
  source : String
  snippetLine : Nat
  snippetLines : Nat
  deriving DecidableEq

/-- The line of the snippet that a line of the program is, if it is one. -/
def Program.snippetLine? (program : Program) (line : Nat) : Option Nat :=
  if line < program.snippetLine || program.snippetLine + program.snippetLines ≤ line then none
  else some (line - program.snippetLine + 1)

namespace Scaffold

-- The name of the closure, and what messages say in its place.
def closureName : String := "__snippet_body"
def closurePlaceholder : String := "<snippet>"

def ofLines (lines : List String) : String :=
  String.join (lines.map (· ++ "\n"))

-- Runs the snippet and writes its value; the value is shown by the first way of showing it that applies.
def runtimeLines : List String := [
  "#![forbid(unsafe_code)]",
  "#![allow(unused_imports, unused_variables, unused_mut, unreachable_code, dead_code)]",
  "",
  "fn main() \x7b",
  "    std::panic::set_hook(Box::new(|info| \x7b",
  "        let payload = info.payload();",
  "        if let Some(message) = payload.downcast_ref::<&str>() \x7b",
  "            eprintln!(\"\x7bmessage\x7d\");",
  "        \x7d else if let Some(message) = payload.downcast_ref::<String>() \x7b",
  "            eprintln!(\"\x7bmessage\x7d\");",
  "        \x7d else \x7b",
  "            eprintln!(\"snippet panicked\");",
  "        \x7d",
  "    \x7d));",
  "",
  "    let Some(slot) = std::env::args_os().nth(1) else \x7b",
  "        std::process::exit(2);",
  "    \x7d;",
  "    let value = snippet::Snippet::eval().unwrap_or_default();",
  "    if std::fs::write(slot, value).is_err() \x7b",
  "        std::process::exit(3);",
  "    \x7d",
  "\x7d",
  "",
  "mod render \x7b",
  "    pub struct Value<T>(pub T);",
  "",
  "    pub trait RenderUnit \x7b",
  "        fn render(&self) -> Option<String>;",
  "    \x7d",
  "",
  "    impl RenderUnit for &&&&&Value<()> \x7b",
  "        fn render(&self) -> Option<String> \x7b",
  "            None",
  "        \x7d",
  "    \x7d",
  "",
  "    pub trait RenderOptionDisplay \x7b",
  "        fn render(&self) -> Option<String>;",
  "    \x7d",
  "",
  "    impl<T: std::fmt::Display> RenderOptionDisplay for &&&&Value<Option<T>> \x7b",
  "        fn render(&self) -> Option<String> \x7b",
  "            self.0.as_ref().map(|value| value.to_string())",
  "        \x7d",
  "    \x7d",
  "",
  "    pub trait RenderOptionDebug \x7b",
  "        fn render(&self) -> Option<String>;",
  "    \x7d",
  "",
  "    impl<T: std::fmt::Debug> RenderOptionDebug for &&&Value<Option<T>> \x7b",
  "        fn render(&self) -> Option<String> \x7b",
  "            self.0.as_ref().map(|value| format!(\"\x7bvalue:?\x7d\"))",
  "        \x7d",
  "    \x7d",
  "",
  "    pub trait RenderDisplay \x7b",
  "        fn render(&self) -> Option<String>;",
  "    \x7d",
  "",
  "    impl<T: std::fmt::Display> RenderDisplay for &&Value<T> \x7b",
  "        fn render(&self) -> Option<String> \x7b",
  "            Some(self.0.to_string())",
  "        \x7d",
  "    \x7d",
  "",
  "    pub trait RenderDebug \x7b",
  "        fn render(&self) -> Option<String>;",
  "    \x7d",
  "",
  "    impl<T: std::fmt::Debug> RenderDebug for &Value<T> \x7b",
  "        fn render(&self) -> Option<String> \x7b",
  "            Some(format!(\"\x7b:?\x7d\", self.0))",
  "        \x7d",
  "    \x7d",
  "",
  "    pub trait RenderOpaque \x7b",
  "        fn render(&self) -> Option<String>;",
  "    \x7d",
  "",
  "    impl<T> RenderOpaque for Value<T> \x7b",
  "        fn render(&self) -> Option<String> \x7b",
  "            Some(std::any::type_name::<T>().to_string())",
  "        \x7d",
  "    \x7d",
  "\x7d"]

def useLines (namespaces : List String) : List String :=
  [ "",
    "mod snippet \x7b",
    "    use crate::render::\x7b",
    "        RenderDebug, RenderDisplay, RenderOpaque, RenderOptionDebug, RenderOptionDisplay, RenderUnit,",
    "    \x7d;" ] ++
  namespaces.map (fun path => "    use " ++ path ++ ";")

def closureLines : List String :=
  [ "",
    "    pub struct Snippet;",
    "",
    "    impl Snippet \x7b",
    "        pub fn eval() -> Option<String> \x7b",
    "            let " ++ closureName ++ " = || \x7b" ]

/-- Everything before the snippet. -/
def before (namespaces : List String) : String :=
  ofLines (runtimeLines ++ useLines namespaces ++ closureLines)

/-- Everything after the snippet. -/
def after : String :=
  ofLines
    [ "            \x7d;",
      "            (&&&&&&crate::render::Value(" ++ closureName ++ "())).render()",
      "        \x7d",
      "    \x7d",
      "\x7d" ]

def endsLine (text : String) : Bool :=
  text.toList.getLast? == some '\n'

/-- Wraps a snippet; every namespace is imported before it. -/
def wrap (snippet : String) (namespaces : List String) : Program :=
  let front := before namespaces
  let lineEnd := if endsLine snippet then "" else "\n"
  { source := front ++ snippet ++ lineEnd ++ after
    snippetLine := Text.lineCount front.toList + 1
    snippetLines := max (Text.lineCount snippet.toList) 1 }

end Scaffold
end SnippetRunner
