import PropFormula.CommandLine.Grammar
import PropFormula.Text.Fill

namespace PropFormula
namespace Help

def pageWidth : Nat := 120

def spaces (count : Nat) : String := String.ofList (List.replicate count ' ')

structure Row where
  lead : String
  name : String
  text : String

def width (text : String) : Nat := joinedColumns text.toList

-- The names of a section share one column, filled up by their bytes. Where the names take more than two
-- fifths of the page, a description that has no room beside them goes below, with a blank line after it.
-- The lead stands before the name and counts in the indentation of continued lines.
def Row.render (longest : Nat) (row : Row) : String :=
  let taken := longest + 12
  if 2 * pageWidth < 5 * taken && taken ≤ pageWidth && pageWidth - taken < width row.text then
    let indent := "\n" ++ spaces 12
    let lines := filledLines (pageWidth - 12) row.text.toList
    row.lead ++ row.name ++ indent ++ indent.intercalate lines ++ if lines.length = 1 then "\n" else ""
  else
    let indent := "\n" ++ spaces (row.lead.length + longest + 4)
    let lines := if taken ≤ pageWidth then filledLines (pageWidth - taken) row.text.toList else [row.text]
    row.lead ++ row.name ++ spaces (longest + 4 - row.name.utf8ByteSize) ++ indent.intercalate lines

def rowsUnder (title : String) (rows : List Row) : List String :=
  if rows.isEmpty then []
  else
    let longest := (rows.map (fun row => width row.name)).foldl max 2
    ["\n".intercalate ((title ++ ":") :: rows.map (Row.render longest))]

def optionRow (option : OptionSpec) : Row where
  lead :=
    match option.short with
    | some letter => "    -" ++ letter.toString ++ ", "
    | none => "        "
  name := option.shape
  text :=
    if option.choices.isEmpty then option.help
    else option.help ++ " [possible values: " ++ ", ".intercalate option.choices ++ "]"

def flagRows (versioned : Bool) : List Row :=
  ⟨"    -h, ","--help","Prints help information"⟩ ::
    if versioned then [⟨"    -V, ","--version","Prints version information"⟩] else []

def helpAbout : String := "Prints this message or the help of the given subcommand(s)"

def insertRow (row : Row) : List Row → List Row
  | [] => [row]
  | first :: rest =>
    if row.name < first.name then row :: first :: rest
    else if row.name = first.name then row :: rest
    else first :: insertRow row rest

-- The commands are listed if there is one besides a command called help.
def commandRows (program : ProgramSpec) : List Row :=
  let own : List Row := program.commands.map (fun command => ⟨"    ",command.name,command.about⟩)
  let all : List Row := own ++ if program.explainsItself then [⟨"    ","help",helpAbout⟩] else []
  if own.all (fun row => row.name == "help") then []
  else all.foldl (fun rows row => insertRow row rows) []

def sorted (options : List OptionSpec) : List OptionSpec :=
  options.mergeSort (fun a b => decide (a.key ≤ b.key))

def sourceUsage (sources : List OptionSpec) : String :=
  if sources.isEmpty then "" else " <" ++ "|".intercalate (sources.map OptionSpec.shape) ++ ">"

def page (heading : List String) (usage : String) (sections : List String) : String :=
  "\n\n".intercalate (["\n".intercalate (heading.filter (fun line => !line.isEmpty)),
    "USAGE:\n    " ++ usage] ++ sections) ++ "\n"

def breakMarks : List Char → List Char
  | [] => []
  | '\x7b' :: 'n' :: '\x7d' :: rest => '\n' :: breakMarks rest
  | character :: rest => character :: breakMarks rest

def filled (text : String) : String :=
  "\n".intercalate (filledLines pageWidth (breakMarks text.toList))

def hyphened (text : String) : String := text.map (fun character => if character == ' ' then '-' else character)

end Help

open Help in
def ProgramSpec.explain (program : ProgramSpec) : Topic → String
  | .program =>
    let commands := rowsUnder "SUBCOMMANDS" (commandRows program)
    page [filled program.name ++ " " ++ program.version,program.author,program.about]
      (program.name ++ " [OPTIONS]" ++ if commands.isEmpty then "" else " <SUBCOMMAND>")
      (rowsUnder "FLAGS" (flagRows true) ++
        rowsUnder "OPTIONS" ((sorted program.options).map optionRow) ++ commands)
  | .command command =>
    page [hyphened (program.name ++ " " ++ command.name) ++ " ",command.about]
      (program.name ++ " " ++ command.name ++ " [OPTIONS]" ++ sourceUsage command.sources ++
        (match command.word with | some word => " [" ++ word ++ "]" | none => ""))
      (rowsUnder "FLAGS" (flagRows false) ++
        rowsUnder "OPTIONS"
          ((sorted (command.sources ++ command.options ++ program.options)).map optionRow) ++
        rowsUnder "ARGS" (command.word.toList.map (fun word => ⟨"    ","<" ++ word ++ ">",""⟩)))
  | .help =>
    page [hyphened (program.name ++ " help") ++ " ",helpAbout] (program.name ++ " help [subcommand]...")
      (rowsUnder "ARGS"
        [⟨"    ","<subcommand>...","The subcommand whose help message to display"⟩])

def UsageError.report (program : ProgramSpec) : UsageError → String
  | .noCommand => program.explain .program
  | error => error.message ++ "\n"

def UsageError.firstLine (program : ProgramSpec) (error : UsageError) : String :=
  String.ofList ((textLines (error.report program).toList).headD [])

end PropFormula
