import MembershipGrid.CommandLine.Parameter

/-!
# Help

The help pages and the summary of the usage. A page lists labels and what they stand for, in two
columns.
-/

namespace MembershipGrid.CommandLine

inductive Topic where
  | program
  | command (verb : Verb)
  | help
  deriving DecidableEq

def Level.topic : Level → Topic
  | .program => .program
  | .command verb => .command verb

/-- The summary that is shown when the arguments make no sense. -/
def usage : String :=
  "Usage: griddiff input_file1 input_file2 output_file\n" ++
  "Compares input_file1 to input_file2 and creates a difference image. input_file2 is\n" ++
  "treated as the 'right' input data.\n" ++
  "\n" ++
  "Other commands: compare, render, embed (see `griddiff --help`).\n"

def version : String := "0.1.0"

def versionLine : String := "griddiff " ++ version ++ "\n"

namespace Help

def about : Verb → String
  | .compare => "Compare input1 against the reference input2 and write a difference image"
  | .render => "Render a single grid"
  | .embed => "Write a binary file (e.g. a linker script) as a C char array"

def aboutHelp : String := "Print this message or the help of the given subcommand(s)"

abbrev Row := String × String

def row (column : Nat) (r : Row) : String :=
  "  " ++ r.1 ++ String.ofList (List.replicate (column - r.1.length) ' ') ++ "  " ++ r.2 ++ "\n"

/-- A titled list of rows. The column of labels is as wide as the longest one. -/
def list (title : String) (rows : List Row) : String :=
  let column := rows.foldl (fun widest r => max widest r.1.length) 0
  "\n" ++ title ++ ":\n" ++ String.join (rows.map (row column))

def configRow : Row :=
  ("    --config <CONFIG>", "Settings file (defaults to griddiff.config when present)")

def helpRow : Row := ("-h, --help", "Print help")

def ownRows : Verb → List Row
  | .compare => [("-r, --report <REPORT>", "Also write the per-class cell counts as JSON")]
  | .render => []
  | .embed => [("-s, --symbol <SYMBOL>", "Array name (defaults to LINKER_SCRIPT)")]

def page : Topic → String
  | .program =>
    "Usage: griddiff [OPTIONS] [FILES]... [COMMAND]\n" ++
      list "Commands"
        [("compare", about .compare), ("render", about .render), ("embed", about .embed),
          ("help", aboutHelp)] ++
      list "Arguments" [("[FILES]...", "input_file1 input_file2 output_file")] ++
      list "Options" [configRow, helpRow, ("-V, --version", "Print version")]
  | .command verb =>
    let places := (Level.command verb).places.map Parameter.shown
    about verb ++ "\n\n" ++
      "Usage: griddiff " ++ verb.name ++ " [OPTIONS] " ++ " ".intercalate places ++ "\n" ++
      list "Arguments" (places.map fun place => (place, "")) ++
      list "Options" (configRow :: ownRows verb ++ [helpRow])
  | .help =>
    aboutHelp ++ "\n\nUsage: griddiff help [COMMAND]...\n" ++
      list "Arguments" [("[COMMAND]...", "Print help for the subcommand(s)")]

end Help

end MembershipGrid.CommandLine
