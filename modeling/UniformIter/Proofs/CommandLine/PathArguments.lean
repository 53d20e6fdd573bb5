import UniformIter.CommandLine.Arguments

/-!
# Command lines that name a file

A command with a settings file and nothing else is read in two steps: the command is the first
word, and behind it stands one option with its value. The file is understood exactly if its path
can be told from an option (`isPath`); otherwise the command line makes no sense.
-/

namespace UniformIter.CommandLine

variable {options : List Opt} {o : Opt} {v : Values}

/-! ## Options -/

variable (path : String)

/-- The commands that work on a settings file. -/
inductive FileCommand where
  | generate
  | registry
  | validate

namespace FileCommand

/-- The arguments with which a command is given a settings file, and nothing else. -/
def arguments (path : String) : FileCommand → List String
  | generate => ["generate", "--config", path]
  | registry => ["registry", "--config", path]
  | validate => ["validate", "--config", path]

/-- What these arguments ask for. -/
def command (path : String) : FileCommand → Command
  | generate => .generate ⟨.fetch, some path⟩ none none
  | registry => .registry ⟨.fetch, some path⟩ .table
  | validate => .validate path

end FileCommand

end UniformIter.CommandLine
