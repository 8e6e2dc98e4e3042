import SnippetRunner.Compile.Fault
import SnippetRunner.Compile.Report
import SnippetRunner.Host.Machine
import SnippetRunner.Run.Outcome
import SnippetRunner.Settings.Basic

/-!
Compiling a program. The compiler works in a directory of its own, which is gone when the executable has been
read or there is none.
-/

namespace SnippetRunner.Compile
open Files (Tree Path.join)

def sourceName : String := "main.rs"
def outputName : String := "snippet"
def namePrefix : String := "snipbox-build-"
def defaultRoot : String := "/tmp"

/-- What logs say of an executable: its length, never its content. -/
def describe (image : Bytes) : String :=
  "CompiledArtifact \x7b len: " ++ s!"{image.length}" ++ " \x7d"

/-- The arguments of the compiler. -/
def arguments (settings : CompilerSettings) (output source : String) : List String :=
  ["--edition", settings.edition, "--crate-name", "snippet", "--crate-type", "bin",
    "--error-format=json", "-A", "warnings"] ++ settings.args ++ ["-o", output, source]

/-- The executable a compiler left that says it succeeded; a file that is missing is an empty one. -/
def collect (files : Tree) (output : String) : Except Fault Bytes :=
  match files.read output with
  | .error cause => if cause = .missing then .error .emitEmpty else .error (.toolchain cause)
  | .ok [] => .error .emitEmpty
  | .ok image => .ok image

/-- What comes of a compiler that was started. -/
def judge (settings : CompilerSettings) (program : Program) (output : String) (effect : Host.Effect) :
    Except Fault Bytes :=
  match Run.Exit.ofEnding? effect.ending with
  | none => .error (.timeout settings.timeout)
  | some exit =>
      if exit.isClean then collect effect.files output
      else .error (.diagnostics (diagnostics (Utf8.readLossy effect.err) program))

def runCompiler (machine : Host.Machine) (settings : CompilerSettings) (program : Program)
    (directory : String) (files : Tree) : Except Fault Bytes × Tree :=
  let source := Path.join directory sourceName
  let output := Path.join directory outputName
  match files.write source (Utf8.ofString program.source) with
  | .error cause => (.error (.toolchain cause), files)
  | .ok files =>
      let launch : Host.Launch :=
        { binary := settings.binary, args := arguments settings output source
          directory := some directory }
      match machine.run files launch with
      | .error cause => (.error (.toolchain cause), files)
      | .ok effect => (judge settings program output effect, effect.files)

/-- Takes the directory of a build away, if it is still there. -/
def sweep (files : Tree) (directory : String) : Tree :=
  match files.removeDirectory directory with
  | .ok files => files
  | .error _ => files

/-- Compiles a program to an executable. -/
def compile (machine : Host.Machine) (settings : CompilerSettings) (program : Program) (files : Tree) :
    Except Fault Bytes × Tree :=
  match files.makeTemporary (settings.scratchDir.getD defaultRoot) namePrefix with
  | .error cause => (.error (.toolchain cause), files)
  | .ok (directory, files) =>
      let (answer, files) := runCompiler machine settings program directory files
      (answer, sweep files directory)

end SnippetRunner.Compile
