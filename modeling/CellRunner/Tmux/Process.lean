/-!
Running a program to its end: its arguments and the text on its standard input go in, its
output and exit status come out. A program that cannot be started gives the reason instead.
-/

namespace CellRunner

structure ProcessResult where
  stdout : ByteArray := .empty
  stderr : ByteArray := .empty
  status : Nat := 0

structure ProcessRunner (m : Type → Type) where
  /-- Without an input the program's standard input is empty. -/
  run (program : String) (args : List String) (input : Option String)
    : ExceptT String m ProcessResult

end CellRunner
